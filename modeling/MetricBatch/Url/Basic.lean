import MetricBatch.Url.Host

namespace MetricBatch

namespace Url

structure Authority where
  user : String
  password : Option String
  host : Host
  /-- Absent if it is the scheme's own. -/
  port : Option Nat
  deriving DecidableEq, Repr

inductive Path where
  /-- Each segment stands behind a slash. -/
  | segments (list : List String)
  /-- Text without any structure. -/
  | bare (text : String)
  deriving DecidableEq, Repr

end Url

/-- A URL as its parts, each already encoded. -/
structure Url where
  scheme : String
  authority : Option Url.Authority
  path : Url.Path
  query : Option String
  fragment : Option String
  deriving DecidableEq, Repr

namespace Url

/-- The schemes whose URLs have a host by their nature, files aside, with their ports. -/
def defaultPort? (scheme : String) : Option Nat :=
  if scheme = "http" || scheme = "ws" then some 80
  else if scheme = "https" || scheme = "wss" then some 443
  else if scheme = "ftp" then some 21
  else none

def isSpecial (scheme : String) : Bool := (defaultPort? scheme).isSome || scheme == "file"

def isHttp (scheme : String) : Bool := scheme == "http" || scheme == "https"

def Authority.credentials (a : Authority) : String :=
  match a.password with
  | some password => s!"{a.user}:{password}@"
  | none => if a.user.isEmpty then "" else s!"{a.user}@"

def Authority.text (a : Authority) : String :=
  let port := (a.port.map fun n => s!":{n}").getD ""
  s!"{a.credentials}{a.host.text}{port}"

def Path.text : Path → String
  | .segments list => String.join (list.map ("/" ++ ·))
  | .bare text => text

def text (u : Url) : String :=
  let authority := (u.authority.map fun a => "//" ++ a.text).getD ""
  let query := (u.query.map ("?" ++ ·)).getD ""
  let fragment := (u.fragment.map ("#" ++ ·)).getD ""
  s!"{u.scheme}:{authority}{u.path.text}{query}{fragment}"

/-- The URL without user name and password. -/
def withoutCredentials (u : Url) : Url :=
  { u with authority := u.authority.map fun a => { a with user := "", password := none } }

/-- Characters that a URL leaves out wherever they stand. -/
def isLeftOut (c : Char) : Bool := c == '\t' || c == '\n' || c == '\r'

/-- Names of the parent: two full stops, each also in its encoded form. -/
def isParent (segment : List Char) : Bool :=
  ["..", "%2e.", ".%2e", "%2e%2e"].contains (String.ofList (segment.map Char.toLower))

def isSelf (segment : List Char) : Bool :=
  [".", "%2e"].contains (String.ofList (segment.map Char.toLower))

/-- A letter with a colon or a bar: the name of a drive, which has no parent. -/
def isDrive : List Char → Bool
  | [c, mark] => c.isAlpha && (mark == ':' || mark == '|')
  | _ => false

/-- One segment more, behind those read so far, the last one first. What has a name like a directory
leaves an empty segment when it is the last one. -/
def addSegment (sofar : List String) (isLast : Bool) (segment : List Char) : List String :=
  let ended := if isLast then [""] else []
  if isParent segment then
    match sofar with
    | [] => ended
    | top :: rest => if isDrive top.toList then ended ++ sofar else ended ++ rest
  else if isSelf segment then ended ++ sofar
  else String.ofList (Percent.encode Percent.path segment) :: sofar

def addSegments (sofar : List String) : List (List Char) → List String
  | [] => sofar.reverse
  | [segment] => (addSegment sofar true segment).reverse
  | segment :: rest => addSegments (addSegment sofar false segment) rest

/-- The segments of a path after its first slash. A backslash counts as a slash if the URL is one
with a host by its nature. -/
def segments (special : Bool) (cs : List Char) : List String :=
  let slashed := if special then cs.map fun c => if c = '\\' then '/' else c else cs
  addSegments [] (Form.split '/' slashed)

/-- The path that starts a URL's text after the host. -/
def rootedPath (special : Bool) (cs : List Char) : Path :=
  match cs with
  | [] => .segments (if special then [""] else [])
  | c :: rest =>
    if c = '/' || (special && c = '\\') then .segments (segments special rest)
    else .segments (segments special (c :: rest))

/-- The URL with another path. -/
def withPath (u : Url) (path : String) : Url :=
  let cs := path.toList.filter (! isLeftOut ·)
  { u with path := rootedPath (isSpecial u.scheme) cs }

/-- The URL with a list of parameters as its query. -/
def withParameters (u : Url) (pairs : List (String × String)) : Url :=
  { u with query := some (Form.encode pairs) }

def parameters (u : Url) : List (String × String) := Form.decode (u.query.getD "")

/-- The first value of a parameter. -/
def parameter? (u : Url) (name : String) : Option String :=
  (u.parameters.find? (·.1 == name)).map (·.2)

end Url

end MetricBatch
