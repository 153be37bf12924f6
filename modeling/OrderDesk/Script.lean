import OrderDesk.Transport

/-!
A backend with prepared answers, one row for each kind of question. A question takes the next
answer of its row, and the last one stays.
-/
namespace OrderDesk

/-- A failure that is prepared without the url of the question. As in the error that it becomes, an
answer that cannot be read comes without the words of its reader. -/
inductive Failure where
  | request (message : String)
  | status (status : Nat)
  | decode
  | invalidUrl (message : String)
  deriving DecidableEq, Repr

/-- The failure of a question to a url. -/
def Failure.at (url : String) : Failure → TransportError
  | request message => .request url message
  | status code => .status url code
  | decode => .decode url
  | invalidUrl message => .invalidUrl url message

/-- A prepared answer and the time that it takes. -/
structure Prepared (α : Type) where
  delay : Option Nat
  answer : Except Failure α

namespace Prepared
variable {α : Type}

/-- What becomes of a question to a url. -/
def arrival (p : Prepared α) (url : String) : Arrival (Except TransportError α) :=
  ⟨p.delay, p.answer.mapError (Failure.at url)⟩

/-- The answer to a question when none is prepared. -/
def missing : Prepared α := ⟨none, .error (.request "no reply scripted")⟩

/-- The next answer of a row, and the row after it. -/
def next : List (Prepared α) → Prepared α × List (Prepared α)
  | [] => (missing, [])
  | [p] => (p, [p])
  | p :: rest => (p, rest)

end Prepared

/-- The prepared answers. -/
structure Script where
  transitions : List (Prepared MetaResponse)
  setState : List (Prepared SetReply)

instance : Backend Script where
  transitions s url :=
    let (p, rest) := Prepared.next s.transitions
    ({ s with transitions := rest }, p.arrival url)
  setState s url _ :=
    let (p, rest) := Prepared.next s.setState
    ({ s with setState := rest }, p.arrival url)

end OrderDesk
