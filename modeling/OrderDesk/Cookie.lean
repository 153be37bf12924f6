import OrderDesk.Text.Percent
import OrderDesk.Text.Blank

/-!
Cookies. A cookie header is a row of pairs that semicolons part, and the token that guards a
change of state is the value of one of them. A token is written in percent code.
-/
namespace OrderDesk.Cookie
open Text

/-- The name of the cookie that holds the token. -/
def tokenName : List Char := "csrftoken".toList

/-- The name and value of one piece of a header, if it is a pair. Blanks around the pair belong to
neither. -/
def pair? (piece : List Char) : Option (List Char × List Char) :=
  splitFirst? '=' (strip isBlank piece)

/-- The pairs of a header. -/
def pairs (header : String) : List (List Char × List Char) :=
  (pieces ';' header.toList).filterMap pair?

/-- The text that a percent-coded value stands for, or the value itself when its bytes spell no
text. -/
def decoded (value : List Char) : String :=
  String.ofList ((ofBytes? (Percent.decode value)).getD value)

/-- The token of a header: that of the first pair with its name, unless the value is blank. -/
def token? (header : String) : Option String := do
  let pair ← (pairs header).find? fun pair => pair.1 == tokenName
  let value := strip isBlank pair.2
  if value.isEmpty then none else some (decoded value)

end OrderDesk.Cookie
