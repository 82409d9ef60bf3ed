import MetricBatch.Backend.Request
import MetricBatch.Text.Quoted
import MetricBatch.Url.Parser

namespace MetricBatch

inductive ClientError where
  | invalidEndpoint (endpoint reason : String)
  | build (reason : String)
  | send (method url reason : String)
  | body (reason : String)
  deriving DecidableEq, Repr

open Text in
def ClientError.message : ClientError → String
  | .invalidEndpoint endpoint reason =>
    s!"invalid backend endpoint {quoted endpoint}: {reason}"
  | .build reason => s!"failed to build HTTP client: {reason}"
  | .send method url reason => s!"failed to send {method} {url} request: {reason}"
  | .body reason => s!"failed to read response body: {reason}"

namespace Backend

structure Response where
  status : Nat
  body : List UInt8
  deriving DecidableEq, Repr

inductive Authorization where
  | basic (user : List UInt8) (password : Option (List UInt8))
  | bearer (token : String)
  deriving DecidableEq, Repr

/-- A request as it goes over the network. -/
structure Message where
  method : String
  /-- Without credentials and without a fragment. -/
  url : Url
  authorization : List Authorization
  deriving DecidableEq, Repr

/-- What becomes of a request on the network. -/
inductive Delivery where
  /-- No answer comes back. -/
  | unanswered
  /-- The body ends too early. -/
  | cutShort
  | answered (response : Response)
  deriving DecidableEq, Repr

end Backend

/-- Where a backend is, and the token that is sent with every request. -/
structure Client where
  baseUrl : Url
  token : Option String
  deriving DecidableEq, Repr

namespace Client

open Backend

def name : String := "http"

def ofEndpoint (endpoint : String) : Except ClientError Client :=
  match Url.parse endpoint with
  | .error e => .error (.invalidEndpoint endpoint e.message)
  | .ok url =>
    if Url.isHttp url.scheme then .ok ⟨url, none⟩
    else .error (.invalidEndpoint endpoint s!"unsupported scheme {Text.quoted url.scheme}")

def withToken (c : Client) (token : String) : Client := { c with token := some token }

def withoutTrailingSlashes (path : String) : String :=
  String.ofList (path.toList.reverse.dropWhile (· == '/')).reverse

/-- The URL of a path of the backend, which is appended to the path of the base URL. The query of
the base URL is dropped. -/
def url (c : Client) (path : String) : Url :=
  { c.baseUrl.withPath (withoutTrailingSlashes c.baseUrl.path.text ++ path) with query := none }

/-- How a token is shown. -/
def shownToken (token : Option String) : String :=
  if token.isSome then "Some(\"<redacted>\")" else "None"

/-- The text of a client. It never shows the token. -/
def text (c : Client) : String :=
  "HttpClient \x7b base_url: " ++ Text.quoted c.baseUrl.text ++ ", auth_token: "
    ++ shownToken c.token ++ ", .. \x7d"

/-- A token that can stand in a header. -/
def isSendable (token : String) : Bool :=
  token.toList.all fun c => c == '\t' || (0x20 ≤ c.toNat && c.toNat ≠ 0x7F)

def decoded (s : String) : List UInt8 := Url.Percent.decode (Text.Utf8.ofString s)

/-- The credentials of a URL come before the token. -/
def authorization (c : Client) (url : Url) : List Authorization :=
  let basic :=
    match url.authority with
    | some a =>
      if a.user.isEmpty && a.password.isNone then []
      else [.basic (decoded a.user) (a.password.map decoded)]
    | none => []
  basic ++ (c.token.map Authorization.bearer).toList

def message (c : Client) (r : Request) : Message :=
  { method := r.method
    url := { r.url.withoutCredentials with fragment := none }
    authorization := c.authorization r.url }

/-- Sends a request over a network. A bad status is no error here. -/
def execute (c : Client) (network : Message → Delivery) (r : Request) :
    Except ClientError Response :=
  if (c.token.map isSendable).getD true then
    match network (c.message r) with
    | .unanswered =>
      .error (.send r.method r.url.text
        s!"error sending request for url ({r.url.withoutCredentials.text})")
    | .cutShort => .error (.body "error decoding response body")
    | .answered response => .ok response
  else .error (.send r.method r.url.text "builder error")

end Client

end MetricBatch
