import OrderDesk.Text.Percent

/-!
Urls in the form in which they are kept: with every part decoded from one text, coded anew where
that is needed, and written back into one text.
-/
namespace OrderDesk

/-- Why a text is no url. -/
inductive UrlError where
  | noBase
  | fixedBase
  | emptyHost
  | invalidDomain
  | invalidHostSign
  | invalidPortNumber
  | invalidIpv4
  | invalidIpv6
  deriving DecidableEq, Repr

/-- The text of an error. -/
def UrlError.message : UrlError → String
  | noBase => "relative URL without a base"
  | fixedBase => "relative URL with a cannot-be-a-base base"
  | emptyHost => "empty host"
  | invalidDomain => "invalid international domain name"
  | invalidHostSign => "invalid domain character"
  | invalidPortNumber => "invalid port number"
  | invalidIpv4 => "invalid IPv4 address"
  | invalidIpv6 => "invalid IPv6 address"

namespace Url

/-- Who is asked, and where: the parts of a url between the two strokes and the path. -/
structure Authority where
  user : List Char := []
  password : List Char := []
  host : List Char
  portNumber : Option Nat := none
  deriving DecidableEq, Repr

/-- A path: names that others can be put in place of, or a fixed text. -/
inductive Path where
  | names (ns : List (List Char))
  | fixed (text : List Char)
  deriving DecidableEq, Repr

end Url

/-- A url. -/
structure Url where
  scheme : String
  authority : Option Url.Authority
  path : Url.Path
  query : Option (List Char) := none
  fragment : Option (List Char) := none
  deriving DecidableEq, Repr

namespace Url
open Text

/-- The kinds of schemes that urls are read by. -/
inductive Kind where
  | file
  | special
  | other
  deriving DecidableEq, Repr

/-- The kind of a scheme. -/
def kindOf (scheme : String) : Kind :=
  if scheme = "file" then .file
  else if scheme ∈ ["http", "https", "ws", "wss", "ftp"] then .special
  else .other

/-- The number after the host that a scheme uses when none is given. -/
def usualPortNumber? (scheme : String) : Option Nat :=
  match scheme with
  | "http" | "ws" => some 80
  | "https" | "wss" => some 443
  | "ftp" => some 21
  | _ => none

/-- The characters that are coded everywhere. -/
def isControl (c : Char) : Bool :=
  c.toNat < 0x20 || c.toNat == 0x7F

/-- The characters that are coded in a query. -/
def isQueryCoded (special : Bool) (c : Char) : Bool :=
  isControl c || c ∈ [' ', '"', '#', '<', '>'] || (special && c == '\'')

/-- The characters that are coded in a fragment. -/
def isFragmentCoded (c : Char) : Bool :=
  isControl c || c ∈ [' ', '"', '<', '>', '`']

/-- The characters that are coded in a path. -/
def isPathCoded (c : Char) : Bool :=
  isFragmentCoded c || c ∈ ['#', '?', '{', '}']

/-- The characters that are coded in a name or password. -/
def isUserCoded (c : Char) : Bool :=
  isPathCoded c || c ∈ ['/', ':', ';', '=', '@', '[', '\\', ']', '^', '|']

/-- The part of a url that names the user. -/
def Authority.userText (a : Authority) : List Char :=
  if a.user.isEmpty && a.password.isEmpty then []
  else a.user ++ (if a.password.isEmpty then [] else ':' :: a.password) ++ ['@']

/-- The number after the host, with its sign. -/
def portNumberText (portNumber : Option Nat) : List Char :=
  portNumber.elim [] fun n => ':' :: Nat.toDigits 10 n

/-- The text of an authority. -/
def Authority.text (a : Authority) : List Char :=
  a.userText ++ a.host ++ portNumberText a.portNumber

/-- The text of a path. -/
def Path.text : Path → List Char
  | names ns => ns.flatMap ('/' :: ·)
  | fixed t => t

/-- The text of a path after the authority, if there is one. Without one, a path must not start
with two strokes. -/
def pathText (u : Url) : List Char :=
  match u.authority, u.path with
  | none, .names ([] :: n :: ns) => "/.".toList ++ (Path.names ([] :: n :: ns)).text
  | _, p => p.text

/-- The path and query of a url, which is what a server is asked for. -/
def target (u : Url) : String :=
  String.ofList (u.path.text ++ u.query.elim [] ('?' :: ·))

/-- The text of a url. -/
def text (u : Url) : String :=
  u.scheme ++ ":" ++ String.ofList ((u.authority.elim [] fun a => '/' :: '/' :: a.text) ++
    u.pathText ++ u.query.elim [] ('?' :: ·) ++ u.fragment.elim [] ('#' :: ·))

/-- Whether the path is a fixed text, to which nothing is relative. -/
def isFixed (u : Url) : Bool :=
  match u.path with
  | .fixed _ => true
  | .names _ => false

/-- The url without the name and password of a user. -/
def withoutUser (u : Url) : Url :=
  { u with authority := u.authority.map fun a => { a with user := [], password := [] } }

end Url
end OrderDesk
