/-!
Names for display. Actions are named after the state that they lead to, so one dictionary serves
states and actions alike.
-/
namespace OrderDesk

/-- The dictionary. -/
def knownLabel? : String → Option String
  | "open" => some "Offen"
  | "in_progress" => some "In Bearbeitung"
  | "completed" => some "Abgeschlossen"
  | "cancelled" => some "Storniert"
  | "shipped" => some "Versendet"
  | "shipped_partially" => some "Teilw. versendet"
  | "returned" => some "Retourniert"
  | "returned_partially" => some "Teilw. retourniert"
  | "paid" => some "Bezahlt"
  | "paid_partially" => some "Teilzahlung"
  | "authorized" => some "Autorisiert"
  | "refunded" => some "Erstattet"
  | "refunded_partially" => some "Teilerstattung"
  | "failed" => some "Fehlgeschlagen"
  | "reminded" => some "Gemahnt"
  | "chargeback" => some "Rückbuchung"
  | "process" => some "In Bearbeitung"
  | "complete" => some "Abschließen"
  | "cancel" => some "Stornieren"
  | "reopen" => some "Wieder öffnen"
  | "ship" => some "Versenden"
  | "ship_partially" => some "Teilversand"
  | "retour" => some "Retoure"
  | "retour_partially" => some "Teilretoure"
  | "do_pay" => some "Bezahlen"
  | "authorize" => some "Autorisieren"
  | "remind" => some "Mahnen"
  | "refund" => some "Erstatten"
  | "refund_partially" => some "Teilerstattung"
  | "fail" => some "Fehlgeschlagen"
  | _ => none

/-- An identifier with blanks in place of its underscores. -/
def spaced (identifier : String) : String :=
  String.ofList (identifier.toList.map fun c => if c = '_' then ' ' else c)

/-- The name of a state or action for display. -/
def labelOf (identifier : String) : String :=
  (knownLabel? identifier).getD (spaced identifier)

end OrderDesk
