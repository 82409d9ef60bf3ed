import MetricBatch.Url.Basic

namespace MetricBatch.Url

def isSchemeChar (c : Char) : Bool := c.isAlphanum || c == '+' || c == '-' || c == '.'

/-- The scheme in small letters, and the text after its colon. -/
def splitScheme? (cs : List Char) : Option (String × List Char) :=
  match cs with
  | [] => none
  | c :: _ =>
    let name := cs.takeWhile isSchemeChar
    match cs.drop name.length with
    | ':' :: rest => if c.isAlpha then some (String.ofList (name.map Char.toLower), rest) else none
    | _ => none

/-- The text up to a character, which is dropped, and the text after it if it is there. -/
def splitAt? (c : Char) (cs : List Char) : List Char × Option (List Char) :=
  match cs.dropWhile (· != c) with
  | [] => (cs, none)
  | _ :: rest => (cs.takeWhile (· != c), some rest)

/-- Where the authority ends. -/
def endsAuthority (special : Bool) (c : Char) : Bool :=
  c == '/' || c == '?' || c == '#' || (special && c == '\\')

/-- The text before the last `@`, if there is one, and the text after it. -/
def splitUser (cs : List Char) : Option (List Char) × List Char :=
  let host := (cs.reverse.takeWhile (· != '@')).reverse
  if host.length = cs.length then (none, cs)
  else (some (cs.take (cs.length - host.length - 1)), host)

/-- The length of a host at the front: a colon ends it, but not between brackets. -/
def hostLength (inBrackets : Bool) : List Char → Nat
  | [] => 0
  | c :: rest =>
    if c = ':' && !inBrackets then 0
    else if c = '[' then 1 + hostLength true rest
    else if c = ']' then 1 + hostLength false rest
    else 1 + hostLength inBrackets rest

def maxPort : Nat := 65535

/-- The number of a port; none at all is no fault. -/
def readPort (sofar : Option Nat) : List Char → Except UrlError (Option Nat)
  | [] => .ok sofar
  | c :: rest =>
    if c.isDigit then
      let n := sofar.getD 0 * 10 + (c.toNat - 48)
      if maxPort < n then .error .invalidPort else readPort (some n) rest
    else if c = '\\' then .ok sofar
    else .error .invalidPort

def encodeUser (cs : List Char) : String := String.ofList (Percent.encode Percent.userInfo cs)

/-- User name and password; an empty password is none. -/
def readUser (cs : List Char) : String × Option String :=
  let (user, password) := splitAt? ':' cs
  let password :=
    match password with
    | none | some [] => none
    | some p => some (encodeUser p)
  (encodeUser user, password)

/-- The authority between the slashes and the path. With an empty user there has to be more than the
path behind the `@`. -/
def readAuthority (scheme : String) (cs : List Char) (isAll : Bool) :
    Except UrlError Authority := do
  let special := isSpecial scheme
  let (user, rest) := splitUser cs
  if user = some [] && rest.isEmpty && !isAll then throw .emptyHost
  let (user, password) := readUser (user.getD [])
  let hostText := rest.take (hostLength false rest)
  let portText := rest.drop hostText.length
  if special && hostText.isEmpty then throw .emptyHost
  let host ← if special then Host.ofDomain hostText else Host.ofText hostText
  let isEmpty := host == .name ""
  if isEmpty && !portText.isEmpty then throw .emptyHost
  let port ← readPort none (portText.drop 1)
  if isEmpty && (!user.isEmpty || password.isSome) then throw .emptyHost
  return ⟨user, password, host, if port = defaultPort? scheme then none else port⟩

/-- The host of a file, which may be left out. -/
def readFileHost (cs : List Char) : Except UrlError (Option Authority) := do
  if cs.isEmpty || isDrive cs then return none
  let host ← Host.ofDomain cs
  if host == .name "localhost" then return none
  return some ⟨"", none, host, none⟩

/-- Path, query and fragment are cut apart before any of them is read. -/
structure Tail where
  path : List Char
  query : Option (List Char)
  fragment : Option (List Char)

def Tail.ofText (cs : List Char) : Tail :=
  let (rest, fragment) := splitAt? '#' cs
  let (path, query) := splitAt? '?' rest
  ⟨path, query, fragment⟩

def build (scheme : String) (authority : Option Authority) (path : Path) (tail : Tail) : Url :=
  let querySet := if isSpecial scheme then Percent.specialQuery else Percent.query
  { scheme, authority, path
    query := tail.query.map fun q => String.ofList (Percent.encode querySet q)
    fragment := tail.fragment.map fun f => String.ofList (Percent.encode Percent.fragment f) }

/-- A URL with an authority, after its slashes. -/
def readHierarchical (scheme : String) (cs : List Char) : Except UrlError Url := do
  let special := isSpecial scheme
  let authorityText := cs.takeWhile (! endsAuthority special ·)
  let rest := cs.drop authorityText.length
  let authority ← readAuthority scheme authorityText rest.isEmpty
  let tail := Tail.ofText rest
  return build scheme (some authority) (rootedPath special tail.path) tail

def isSlash (c : Char) : Bool := c == '/' || c == '\\'

def readFile (cs : List Char) : Except UrlError Url := do
  match cs with
  | a :: b :: rest =>
    if isSlash a && isSlash b then
      let hostText := rest.takeWhile (! endsAuthority true ·)
      let authority ← readFileHost hostText
      let tail := Tail.ofText (if isDrive hostText then rest else rest.drop hostText.length)
      return build "file" authority (rootedPath true tail.path) tail
    else
      let tail := Tail.ofText cs
      return build "file" none (rootedPath true tail.path) tail
  | cs =>
    let tail := Tail.ofText cs
    return build "file" none (rootedPath true tail.path) tail

/-- A URL whose scheme does not have a host by its nature. -/
def readOther (scheme : String) (cs : List Char) : Except UrlError Url :=
  match cs with
  | '/' :: '/' :: rest => readHierarchical scheme rest
  | '/' :: _ =>
    let tail := Tail.ofText cs
    .ok (build scheme none (rootedPath false tail.path) tail)
  | cs =>
    let tail := Tail.ofText cs
    .ok (build scheme none (.bare (String.ofList (Percent.encode Percent.control tail.path))) tail)

def isEdge (c : Char) : Bool := c.toNat ≤ 0x20

def trimEdges (cs : List Char) : List Char :=
  ((cs.dropWhile isEdge).reverse.dropWhile isEdge).reverse

/-- A URL that stands on its own. Blanks and controls at the ends are dropped, tabs and line ends
everywhere. -/
def parse (text : String) : Except UrlError Url :=
  match splitScheme? ((trimEdges text.toList).filter (! isLeftOut ·)) with
  | none => .error .noScheme
  | some (scheme, rest) =>
    if scheme = "file" then readFile rest
    else if isSpecial scheme then readHierarchical scheme (rest.dropWhile isSlash)
    else readOther scheme rest

end MetricBatch.Url
