/-!
What an operator is told next to a control.
-/
namespace OrderDesk

/-- How a feedback is meant. -/
inductive FeedbackKind where
  | info
  | success
  | error
  deriving DecidableEq, Repr, Inhabited

/-- A text next to a control. -/
structure Feedback where
  text : String
  kind : FeedbackKind
  deriving DecidableEq, Repr, Inhabited

namespace Feedback

/-- A feedback that informs. -/
def info (text : String) : Feedback := ⟨text, .info⟩

/-- A feedback of success. -/
def success (text : String) : Feedback := ⟨text, .success⟩

/-- A feedback of failure. -/
def error (text : String) : Feedback := ⟨text, .error⟩

def ready : String := "Bereit. Status wählen."
def notBound : String := "Keine API-ID vorhanden."
def noOptions : String := "Keine Optionen verfügbar"
def chooseState : String := "Status wählen…"
def saveStarted : String := "Speichern gestartet…"
def saved : String := "Status erfolgreich gespeichert."
def siblingUpdated : String := "Status aktualisiert."
def setFailed : String := "Status konnte nicht gesetzt werden."
def networkFailure : String := "Netzwerkfehler beim Speichern."
def refreshLoading : String := "Wird geladen…"
def refreshDone : String := "Übergänge aktualisiert ✓"
def refreshFailed : String := "Fehler beim Laden"

/-- The actions that are on offer, or the word for none. -/
def listed (available : List String) : String :=
  if available.isEmpty then "keine" else String.intercalate ", " available

/-- The text of a rejection, which lists the actions that are on offer now. -/
def unavailable (available : List String) : String :=
  "Nicht möglich. Verfügbare Übergänge: " ++ listed available

end Feedback
end OrderDesk
