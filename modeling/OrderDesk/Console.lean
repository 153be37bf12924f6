import OrderDesk.Console.Arguments
import OrderDesk.Workplace

/-!
The console: one run of the program, from the words of its command line to what it prints and
leaves on the disk.
-/
namespace OrderDesk.Console
open Json

/-- What a run ends with. A misuse is told by its code alone. -/
structure Output where
  code : Nat
  out : String := ""
  err : String := ""
  deriving DecidableEq, Repr

/-- A run that has ended. -/
structure Ended where
  disk : Disk
  network : Http.Network
  output : Output

/-- A text as a line. -/
def line (t : String) : String := t ++ "\n"

/-- A text, filled up with blanks to a width. -/
def padded (width : Nat) (t : String) : String :=
  String.ofList (t.toList ++ List.replicate (width - t.length) ' ')

/-- The sign that a feedback is marked with. -/
def marker : FeedbackKind → String
  | .info => "i"
  | .success => "+"
  | .error => "!"

/-- The lines of a view. -/
def viewLines (v : View) : List String :=
  let head := "[" ++ v.order.text ++ "] " ++ padded 8 v.scope.name ++ " " ++ v.label ++ " (" ++
    v.state ++ ")"
  let choices := (v.choices.filter fun c => !c.action.isEmpty).map fun c =>
    "    - " ++ padded 18 c.action ++ " " ++ c.label
  let feedback := v.feedback.toList.map fun f => "    " ++ marker f.kind ++ " " ++ f.text
  head :: (choices ++ feedback)

/-- The value of a view. -/
def viewValue (v : View) : Value :=
  .record [
    ("actions", .texts v.actions),
    ("feedback", .ofText? (v.feedback.map (·.text))),
    ("label", .text v.label),
    ("order_id", .text v.order.text),
    ("scope", .text v.scope.name),
    ("selectable", .bool v.selectable),
    ("state", .text v.state)]

/-- What is printed of views. -/
def viewsText (json : Bool) (vs : List View) : String :=
  if json then line (Value.list (vs.map viewValue)).laidOut
  else String.join ((vs.flatMap viewLines).map line)

/-- The kind of an outcome and what is told of it. -/
def told : Outcome → String × String
  | .ignored reason => ("ignored", reason.name)
  | .applied _ _ => ("applied", Feedback.saved)
  | .rejected _ message => ("rejected", message)
  | .failed message => ("failed", message)

/-- What is printed of an outcome. -/
def outcomeText (json : Bool) (o : Outcome) : String :=
  let (kind, message) := told o
  line (if json then (Value.record [("message", .text message), ("outcome", .text kind)]).compact
    else kind ++ ": " ++ message)

/-- What is printed of a refresh. -/
def refreshText (json done : Bool) : String :=
  let label := PageRefresh.label done
  line (if json then (Value.record [("label", .text label), ("refreshed", .bool done)]).compact
    else label)

/-- A failure as it is told. -/
def failure (message : String) : String :=
  line ("Error: " ++ message)

/-- A text whose lines but the first are indented like the first. -/
def indented (t : String) : String :=
  "    " ++ String.ofList (t.toList.flatMap fun c =>
    if c = '\n' then '\n' :: "    ".toList else [c])

/-- A failure to open the workplace as it is told, with its cause. -/
def openFailure (e : OpenError) : String :=
  failure (e.message ++ "\n\nCaused by:\n" ++ indented e.cause.message)

/-- Shows the controls of an order. -/
def runShow (w : Workplace) (json : Bool) (o : OrderArguments) : Workplace × Output :=
  let w := w.bindPage o.descriptors
  (w, { code := 0, out := viewsText json w.desk.views })

/-- Selects an action and shows what came of it. -/
def runSet (w : Workplace) (json : Bool) (o : OrderArguments) (scope : Scope) (action : String) :
    Workplace × Output :=
  if o.setUrl.isNone then
    (w, { code := 1, err := failure "--set-url is required to change a state" })
  else
    let w := w.bindPage o.descriptors
    let seat : Seat := ⟨w.desk.page, ⟨o.order⟩, scope⟩
    match w.run (.select seat action) with
    | (w, some (.selection s)) =>
      let outcome := s.outcome?.elim "" (outcomeText json)
      (w, { code := 0, out := outcome ++ viewsText json w.desk.views })
    | (w, _) => (w, { code := 0, out := viewsText json w.desk.views })

/-- Fetches the graph. -/
def runRefresh (w : Workplace) (json : Bool) : Workplace × Output :=
  let w := w.bindPage []
  let told := line Feedback.refreshLoading
  match w.run .refreshPage with
  | (w, some (.pageRefresh _ (.finished true))) =>
    (w, { code := 0, out := refreshText json true, err := told })
  | (w, _) =>
    (w, { code := 1, out := refreshText json false,
          err := told ++ failure "transition graph could not be refreshed" })

/-- Carries out a command at a workplace. -/
def runCommand (w : Workplace) (json : Bool) : Command → Workplace × Output
  | .show o => runShow w json o
  | .set o scope action => runSet w json o scope action
  | .refresh => runRefresh w json

/-- The settings of a run. -/
def settingsOf (environment : Text.Dict String) (disk : Disk) (a : Arguments) : Settings :=
  let s := Settings.onDisk disk environment
  { s with metaUrl := a.metaUrl <|> s.metaUrl }

/-- Runs the program. A misuse is noticed before anything else is done. -/
def run (environment : Text.Dict String) (disk : Disk) (network : Http.Network)
    (words : List String) : Ended :=
  match Arguments.parse? words with
  | none => ⟨disk, network, { code := 2 }⟩
  | some a =>
    match Workplace.open? (settingsOf environment disk a) disk network with
    | .error e => ⟨disk, network, { code := 1, err := openFailure e }⟩
    | .ok w =>
      let (w, output) := runCommand w a.json a.command
      ⟨w.disk, w.timeline.backend.network, output⟩

end OrderDesk.Console
