import OrderDesk.Message

/-!
What a desk asks of the order backend, and what comes of it. Anything that answers both questions
is a backend. An answer may take time, and is at once there when it takes none.
-/
namespace OrderDesk

/-- Why a question has no usable answer. What the reader of an answer says about one that it cannot
read is left out: a log alone would have it, and no outcome, view or line of the console. -/
inductive TransportError where
  | invalidUrl (url message : String)
  | request (url message : String)
  | status (url : String) (status : Nat)
  | decode (url : String)
  deriving DecidableEq, Repr

/-- The text of an error, up to what a reader says. -/
def TransportError.message : TransportError → String
  | invalidUrl url message => "invalid endpoint url '" ++ url ++ "': " ++ message
  | request url message => "request to " ++ url ++ " failed: " ++ message
  | status url code => url ++ " answered with status " ++ toString code
  | decode url => "malformed response from " ++ url

/-- A question to the backend: for the graph, or for a change of state. -/
inductive Question where
  | transitions (url : String)
  | setState (url : String) (request : SetRequest)
  deriving DecidableEq, Repr

/-- What became of a question for the graph. -/
abbrev MetaResult := Except TransportError MetaResponse

/-- What became of a question for a change of state. -/
abbrev SetResult := Except TransportError SetReply

/-- What became of a question. -/
inductive Reply where
  | transitions (result : MetaResult)
  | setState (result : SetResult)

/-- A result and the time that it takes, in milliseconds. Nothing else happens before one that
takes no time. -/
structure Arrival (α : Type) where
  delay : Option Nat
  result : α

/-- A backend answers both questions, and may change with each. -/
class Backend (β : Type) where
  transitions : β → String → β × Arrival MetaResult
  setState : β → String → SetRequest → β × Arrival SetResult

/-- The reply to a question. -/
def Backend.reply {β : Type} [Backend β] (b : β) : Question → β × Arrival Reply
  | .transitions url =>
    let (b, a) := Backend.transitions b url
    (b, ⟨a.delay, .transitions a.result⟩)
  | .setState url request =>
    let (b, a) := Backend.setState b url request
    (b, ⟨a.delay, .setState a.result⟩)

end OrderDesk
