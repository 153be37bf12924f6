import OrderDesk.Refresh

/-!
The selection of an action by an operator, from the first look at the control to the outcome. A
selection goes in steps, of which each looks at one thing or touches one control; others may come
between any two of them. It waits once for the answer to its request, and a second time when the
request is refused and the graph is fetched anew.
-/
namespace OrderDesk

/-- Why nothing came of a selection. -/
inductive IgnoredReason where
  | busy
  | notBound
  | noAction
  deriving DecidableEq, Repr, Inhabited

/-- The name of a reason. -/
def IgnoredReason.name : IgnoredReason → String
  | busy => "Busy"
  | notBound => "NotBound"
  | noAction => "NoAction"

/-- What came of a selection. -/
inductive Outcome where
  /-- Nothing was sent, and the controls are as before. -/
  | ignored (reason : IgnoredReason)
  | applied (response : SetResponse) (reconciled : List Scope)
  /-- The backend refused. The actions on offer are missing when the graph could not be fetched. -/
  | rejected (available : Option (List String)) (message : String)
  | failed (message : String)
  deriving DecidableEq, Repr, Inhabited

/-- How far a selection has come. -/
inductive Stage where
  /-- About to look whether the control is busy. -/
  | look
  /-- About to look up the graph. -/
  | peek
  /-- About to bring the choices up to date. -/
  | freshen (graph : Graph)
  /-- About to claim the control. -/
  | claim
  /-- About to show the action as selected. -/
  | choose
  /-- About to show the progress. -/
  | announce
  /-- About to send the request. -/
  | send (epoch : Nat)
  /-- Waiting for the answer to the request. -/
  | sent (epoch : Nat) (url : String)
  /-- About to close the progress. -/
  | conclude (epoch : Nat) (result : SetResult)
  /-- About to look up the graph for the changed states. -/
  | survey (response : SetResponse)
  /-- Fetching the graph after a refusal. -/
  | fetch (refused : SetReply) (refresh : Refresh)
  /-- About to look which of the controls is the next to bring up to date. -/
  | repopulate (fetched : Graph) (todo : List Seat)
  /-- About to bring a control up to date with the fetched graph. -/
  | renew (fetched : Graph) (next : Seat) (todo : List Seat)
  /-- About to look up the state for which the actions on offer are told. -/
  | reread (fetched : Graph)
  /-- About to touch controls and to finish. -/
  | perform (todo : List (Seat × Touch)) (outcome : Outcome)
  | finished (outcome : Outcome)

/-- A selection of an action on a control, among the controls of its page. -/
structure Selection where
  seat : Seat
  action : String
  seats : List Seat
  stage : Stage

namespace Selection

/-- The action that is sent. -/
def wanted (s : Selection) : String :=
  Text.trim s.action

/-- The request that is sent. -/
def request (s : Selection) : SetRequest :=
  ⟨s.seat.scope, s.wanted⟩

/-- A selection at another stage. -/
def moveTo (s : Selection) (stage : Stage) : Selection :=
  { s with stage := stage }

/-- Why a selection is ignored when it comes to claim its control, if it is. -/
def ignored? (d : Desk) (s : Selection) : Option IgnoredReason :=
  if s.wanted.isEmpty then some .noAction
  else if ((d.control? s.seat).bind (·.setUrl)).isNone then some .notBound
  else if d.isBusy s.seat then some .busy
  else none

/-- The stage after the progress is closed. -/
def verdict (s : Selection) : SetResult → Stage
  | .ok reply => if reply.isSuccess then .survey reply.body else .fetch reply .ask
  | .error _ =>
    .perform [(s.seat, .tell (Feedback.error Feedback.networkFailure))]
      (.failed Feedback.networkFailure)

/-- The stage after a change was made. -/
def success (s : Selection) (response : SetResponse) (g : Graph) : Stage :=
  .perform
    (reconciliation s.seat.order response s.seats g ++
      [(s.seat, .unselect), (s.seat, .tell (Feedback.success Feedback.saved))])
    (.applied response (reconciledScopes s.seat.order response s.seats))

/-- The stage after a refusal for which the graph could not be fetched. -/
def refusal (s : Selection) (refused : SetReply) : Stage :=
  let message := refused.body.errorMessage.getD Feedback.setFailed
  .perform [(s.seat, .tell (Feedback.error message))] (.rejected none message)

/-- The stage after a refusal for which the graph was fetched. -/
def explanation (s : Selection) (available : List String) : Stage :=
  let message := Feedback.unavailable available
  .perform [(s.seat, .tell (Feedback.error message))] (.rejected (some available) message)

/-- One step. A selection that waits or is finished takes none. -/
def step (d : Desk) (s : Selection) : Desk × Selection :=
  match s.stage with
  | .look =>
    if d.isBusy s.seat then (d, s.moveTo (.finished (.ignored .busy))) else (d, s.moveTo .peek)
  | .peek => (d, s.moveTo (.freshen d.store.graph))
  | .freshen g => (d.touch s.seat (.freshen g), s.moveTo .claim)
  | .claim =>
    match s.ignored? d with
    | some reason => (d, s.moveTo (.finished (.ignored reason)))
    | none => (d.touch s.seat .claim, s.moveTo .choose)
  | .choose => (d.touch s.seat (.select s.wanted), s.moveTo .announce)
  | .announce =>
    let d := d.touch s.seat (.beginProgress Feedback.saveStarted)
    (d, s.moveTo (.send ((d.control? s.seat).elim 0 (·.epoch))))
  | .send epoch =>
    let url := ((d.control? s.seat).bind (·.setUrl)).getD ""
    ((d.startTimers s.seat epoch).ask (.setState url s.request), s.moveTo (.sent epoch url))
  | .sent epoch url => (d, s.moveTo (.sent epoch url))
  | .conclude _ result => (d.touch s.seat .endProgress, s.moveTo (s.verdict result))
  | .survey response => (d, s.moveTo (s.success response d.store.graph))
  | .fetch _ (.done (.ok g)) => (d, s.moveTo (.repopulate g s.seats))
  | .fetch refused (.done (.error _)) => (d, s.moveTo (s.refusal refused))
  | .fetch refused refresh =>
    let (d, refresh) := refresh.step d
    (d, s.moveTo (.fetch refused refresh))
  | .repopulate g [] => (d, s.moveTo (.reread g))
  | .repopulate g (seat :: todo) =>
    if seat = s.seat || !d.isBusy seat then (d, s.moveTo (.renew g seat todo))
    else (d, s.moveTo (.repopulate g todo))
  | .renew g seat todo => (d.touch seat (.populate g), s.moveTo (.repopulate g todo))
  | .reread g =>
    (d, s.moveTo (s.explanation ((d.control? s.seat).elim [] (·.permitted g))))
  | .perform (t :: todo) outcome => (d.touch t.1 t.2, s.moveTo (.perform todo outcome))
  | .perform [] outcome =>
    ((d.touch s.seat .hideProgress).touch s.seat .release, s.moveTo (.finished outcome))
  | .finished outcome => (d, s.moveTo (.finished outcome))

/-- Whether a selection holds the claim on its control. -/
def holdsClaim (s : Selection) : Bool :=
  match s.stage with
  | .look | .peek | .freshen _ | .claim | .finished _ => false
  | _ => true

/-- The question that a selection waits for an answer to. -/
def awaits (s : Selection) : Option Question :=
  match s.stage with
  | .sent _ url => some (.setState url s.request)
  | .fetch _ (.asked url) => some (.transitions url)
  | _ => none

/-- The outcome of a selection that is finished. -/
def outcome? (s : Selection) : Option Outcome :=
  match s.stage with
  | .finished outcome => some outcome
  | _ => none

/-- The desk and the selection when an answer arrives. The texts of progress that are still to
come are taken back at once. -/
def answered (d : Desk) (s : Selection) : Reply → Desk × Selection
  | .setState result =>
    match s.stage with
    | .sent epoch _ => (d.stopTimers s.seat epoch, s.moveTo (.conclude epoch result))
    | _ => (d, s)
  | .transitions result =>
    match s.stage with
    | .fetch refused (.asked _) => (d, s.moveTo (.fetch refused (Refresh.answered result)))
    | _ => (d, s)

/-- The desk when a selection is dropped. Its claim is released and the texts of progress that are
still to come are taken back, and nothing else. -/
def dropped (d : Desk) (s : Selection) : Desk :=
  let d :=
    match s.stage with
    | .sent epoch _ => d.stopTimers s.seat epoch
    | _ => d
  if s.holdsClaim then d.touch s.seat .release else d

/-- The most steps that are left before a selection waits or is finished. -/
def rank (s : Selection) : Nat :=
  match s.stage with
  | .look => 7
  | .peek => 6
  | .freshen _ => 5
  | .claim => 4
  | .choose => 3
  | .announce => 2
  | .send _ => 1
  | .sent _ _ => 0
  | .conclude _ _ => 2 * s.seats.length + 20
  | .survey _ => 19
  | .fetch _ refresh => refresh.rank + 2 * s.seats.length + 5
  | .repopulate _ todo => 2 * todo.length + 4
  | .renew _ _ todo => 2 * todo.length + 5
  | .reread _ => 3
  | .perform todo _ => todo.length + 1
  | .finished _ => 0

end Selection
end OrderDesk
