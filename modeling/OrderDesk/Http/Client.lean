import OrderDesk.Cookie
import OrderDesk.Transport
import OrderDesk.Url.Reader

/-!
The client of the order backend: which request a question becomes, and what an answer to it means.
A client asks for endpoints relative to its base, and shows the token of its cookies when it asks
for a change.
-/
namespace OrderDesk
open Text

namespace Http

/-- The two ways to ask. -/
inductive Method where
  | get
  | post
  deriving DecidableEq, Repr

/-- The name of a method. -/
def Method.name : Method → String
  | get => "GET"
  | post => "POST"

/-- A request as it goes out, with the headers that were put on it, in their order. The names of
headers are in small letters. -/
structure Request where
  method : Method
  url : Url
  headers : List (String × String) := []
  body : String := ""
  deriving DecidableEq, Repr

/-- What becomes of a request: it may find nobody or be left without an answer, or there is an
answer, whose body may end too soon. -/
inductive Answer where
  | unreached
  | closed
  | whole (status : Nat) (body : List UInt8)
  | cut (status : Nat) (body : List UInt8)
  deriving DecidableEq, Repr

/-- The greatest number of bytes of a url that a request is sent to. -/
def maxUrlBytes : Nat := 65534

/-- Whether requests are sent by the scheme of a url, to a host of its signs, and at its length. -/
def isSendable (u : Url) : Bool :=
  (u.scheme == "http" || u.scheme == "https") &&
    !((u.authority.elim [] (·.host)).any fun c => c ∈ ['"', '`', '{', '}']) &&
    u.withoutUser.text.utf8ByteSize ≤ maxUrlBytes

/-- Whether a character may stand in the value of a header. -/
def isHeaderSign (c : Char) : Bool :=
  c == '\t' || (0x20 ≤ c.toNat && c.toNat != 0x7F)

/-- The name of the header that marks a request as made by a page. -/
def requestedWithName : String := "x-requested-with"

/-- The value of that header. -/
def requestedWith : String := "XMLHttpRequest"

/-- The name of the header that shows the token. -/
def tokenName : String := "x-csrftoken"

/-- The name of the header for the content type. -/
def contentTypeName : String := "content-type"

/-- The content type of a request for a change. -/
def contentType : String := "application/json"

namespace Request

/-- The values that a request has for a header. -/
def values (r : Request) (name : String) : List String :=
  (r.headers.filter fun h => h.1 == name).map (·.2)

/-- Puts a further header on a request. -/
def withHeader (r : Request) (name value : String) : Request :=
  { r with headers := r.headers ++ [(name, value)] }

/-- Gives a request a body in JSON. Only a request without a content type gets one. -/
def withJson (r : Request) (body : String) : Request :=
  { r with
    headers :=
      if (r.values contentTypeName).isEmpty then r.headers ++ [(contentTypeName, contentType)]
      else r.headers
    body := body }

/-- Whether the values of the headers can be written. -/
def isWritable (r : Request) : Bool :=
  r.headers.all fun h => h.2.toList.all isHeaderSign

/-- The mark of a page. -/
def requestedWith (r : Request) : String := (r.values requestedWithName).head?.getD ""

/-- The token that is shown, if one is. -/
def token (r : Request) : Option String := (r.values tokenName).head?

/-- The content type, if there is one. -/
def contentType (r : Request) : Option String := (r.values contentTypeName).head?

end Request

end Http

/-- A client: the base that endpoints are relative to, and the token. -/
structure Client where
  base : Option Url
  token : Option String
  deriving DecidableEq, Repr

namespace Client
open Http

/-- A client for a base, if the base is a url. -/
def make? (base : Option String) (token : Option String) : Except TransportError Client :=
  match base with
  | none => .ok ⟨none, token⟩
  | some raw =>
    match Url.read none raw with
    | .ok u => .ok ⟨some u, token⟩
    | .error e => .error (.invalidUrl raw e.message)

/-- A client whose token is taken from a cookie header. -/
def ofCookie? (base cookie : Option String) : Except TransportError Client :=
  make? base (cookie.bind Cookie.token?)

/-- The url of an endpoint. -/
def resolve (c : Client) (endpoint : String) : Except TransportError Url :=
  (Url.read c.base endpoint).mapError fun e => .invalidUrl endpoint e.message

/-- The failure of a request that cannot be made for its url. -/
def unsendable (u : Url) : TransportError :=
  .request u.text ("builder error for url (" ++ u.withoutUser.text ++ ")")

/-- The failure of a request that is not answered. -/
def unanswered (u : Url) : TransportError :=
  .request u.text ("error sending request for url (" ++ u.withoutUser.text ++ ")")

/-- A request that is ready to go out, if its headers can be written and requests are sent to its
url. -/
def build (r : Request) : Except TransportError Request :=
  if r.isWritable then
    if isSendable r.url then .ok r else .error (unsendable r.url)
  else .error (.request r.url.text "builder error")

/-- The request for the graph. -/
def transitionsRequest (u : Url) : Request :=
  Request.withHeader { method := .get, url := u } requestedWithName requestedWith

/-- The request for a change of state. -/
def setRequest (c : Client) (u : Url) (r : SetRequest) : Request :=
  let typed := Request.withHeader { method := .post, url := u } contentTypeName contentType
  let shown := typed.withHeader tokenName (c.token.getD "")
  (shown.withHeader requestedWithName requestedWith).withJson r.text

/-- The request for the graph at an endpoint, if one can be made. -/
def askTransitions (c : Client) (endpoint : String) : Except TransportError Request := do
  build (transitionsRequest (← c.resolve endpoint))

/-- The request for a change of state at an endpoint, if one can be made. -/
def askSet (c : Client) (endpoint : String) (r : SetRequest) : Except TransportError Request := do
  build (c.setRequest (← c.resolve endpoint) r)

/-- What an answer to the request for the graph means. -/
def readTransitions (u : Url) : Answer → MetaResult
  | .unreached => .error (unanswered u)
  | .closed => .error (unanswered u)
  | .cut status _ =>
    .error (if isSuccessStatus status then .decode u.text else .status u.text status)
  | .whole status body =>
    if isSuccessStatus status then
      match MetaResponse.ofBytes? body with
      | some r => .ok r
      | none => .error (.decode u.text)
    else .error (.status u.text status)

/-- What an answer to the request for a change of state means. A body that cannot be read counts as
one that says nothing, unless the status claims success. -/
def readSet (u : Url) : Answer → SetResult
  | .unreached => .error (unanswered u)
  | .closed => .error (unanswered u)
  | .cut _ _ => .error (.request u.text "error decoding response body")
  | .whole status body =>
    match SetResponse.ofBytes? body with
    | some r => .ok ⟨status, r⟩
    | none => if isSuccessStatus status then .error (.decode u.text) else .ok ⟨status, {}⟩

end Client
end OrderDesk
