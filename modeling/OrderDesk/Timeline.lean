import OrderDesk.Session

/-!
A session that runs by itself: a backend answers its questions, and a clock moves on to whatever
is due next, which is the arrival of an answer or a text of progress.
-/
namespace OrderDesk

/-- An answer on its way to a task. -/
structure Pending where
  due : Nat
  task : Nat
  reply : Reply

/-- A session, the backend that it asks, the answers that are on their way, and the number of tasks
that were begun. -/
structure Timeline (β : Type) where
  session : Session
  backend : β
  pending : List Pending := []
  begun : Nat := 0

namespace Timeline
variable {β : Type} [Backend β]

/-- The desk of a timeline. -/
def desk (tl : Timeline β) : Desk := tl.session.desk

/-- A timeline after an event of its session. -/
def apply (tl : Timeline β) (e : Event) : Timeline β :=
  { tl with session := tl.session.apply e }

/-- Moves a task on to where it waits or is finished. Its question is put to the backend, and an
answer that takes no time moves it on again. The first argument bounds the questions. -/
def pursue : Nat → Timeline β → Nat → Timeline β
  | 0, tl, _ => tl
  | n + 1, tl, id =>
    let tl := tl.apply (.settle id)
    match (tl.session.task? id).bind Task.awaits with
    | none => tl
    | some q =>
      let (b, arrival) := Backend.reply tl.backend q
      let tl := { tl with backend := b }
      match arrival.delay with
      | none => pursue n (tl.apply (.answer id arrival.result)) id
      | some delay =>
        { tl with pending := tl.pending ++ [⟨tl.desk.now + delay, id, arrival.result⟩] }

/-- The most questions of one task. -/
def maxQuestions : Nat := 3

/-- Begins a task and moves it on to where it waits. -/
def start (tl : Timeline β) (wish : Wish) : Timeline β × Nat :=
  let id := tl.begun
  (pursue maxQuestions ({ tl with begun := id + 1 }.apply (.begin id wish)) id, id)

/-- The answer that arrives first. -/
def firstPending? (tl : Timeline β) : Option Pending :=
  tl.pending.foldl (fun best p =>
    match best with
    | none => some p
    | some b => if p.due < b.due then some p else some b) none

/-- The timer that is due first. -/
def firstTimer? (tl : Timeline β) : Option Timer :=
  tl.desk.timers.foldl (fun best t =>
    match best with
    | none => some t
    | some b => if t.due < b.due then some t else some b) none

/-- Moves the clock to a time that has not passed. -/
def passTo (tl : Timeline β) (time : Nat) : Timeline β :=
  tl.apply (.pass (time - tl.desk.now))

/-- Lets an answer arrive. -/
def arrive (tl : Timeline β) (p : Pending) : Timeline β :=
  let tl := { tl with pending := tl.pending.filter fun q => q.task != p.task }
  pursue maxQuestions ((tl.passTo p.due).apply (.answer p.task p.reply)) p.task

/-- Lets a timer fire. -/
def fire (tl : Timeline β) (t : Timer) : Timeline β :=
  (tl.passTo t.due).apply (.fire t)

/-- Lets happen what is due first, unless that is after `limit`. An answer goes before a timer. -/
def next? (tl : Timeline β) (limit : Option Nat) : Option (Timeline β) :=
  let inTime (due : Nat) : Bool := limit.all fun l => decide (due ≤ l)
  match tl.firstPending?, tl.firstTimer? with
  | none, none => none
  | some p, none => if inTime p.due then some (tl.arrive p) else none
  | none, some t => if inTime t.due then some (tl.fire t) else none
  | some p, some t =>
    if p.due ≤ t.due then (if inTime p.due then some (tl.arrive p) else none)
    else if inTime t.due then some (tl.fire t) else none

/-- A bound for how many things can still happen by themselves. -/
def fuel (tl : Timeline β) : Nat :=
  maxQuestions * tl.session.tasks.length + tl.desk.timers.length

/-- Lets at most so many things happen, up to a time. -/
def runWithin : Nat → Timeline β → Nat → Timeline β
  | 0, tl, _ => tl
  | n + 1, tl, limit =>
    match tl.next? (some limit) with
    | none => tl
    | some tl => runWithin n tl limit

/-- Lets time pass, and everything happen that is due by then. -/
def advance (tl : Timeline β) (time : Nat) : Timeline β :=
  let limit := tl.desk.now + time
  (runWithin tl.fuel tl limit).passTo limit

/-- Whether a task is finished. -/
def isFinished (tl : Timeline β) (id : Nat) : Bool :=
  (tl.session.task? id).any Task.isFinished

/-- Lets at most so many things happen, up to the end of a task. -/
def awaitWithin : Nat → Timeline β → Nat → Timeline β
  | 0, tl, _ => tl
  | n + 1, tl, id =>
    if tl.isFinished id then tl
    else
      match tl.next? none with
      | none => tl
      | some tl => awaitWithin n tl id

/-- Lets time pass up to the end of a task. -/
def await (tl : Timeline β) (id : Nat) : Timeline β :=
  awaitWithin tl.fuel tl id

/-- The timeline without a task, and the task as it was left. -/
def collect (tl : Timeline β) (id : Nat) : Timeline β × Option Task :=
  ({ tl with session := tl.session.remove id }, tl.session.task? id)

/-- Runs a task from its beginning to its end. -/
def run (tl : Timeline β) (wish : Wish) : Timeline β × Option Task :=
  let (tl, id) := tl.start wish
  (tl.await id).collect id

/-- Drops a task where it stands. -/
def drop (tl : Timeline β) (id : Nat) : Timeline β :=
  { tl.apply (.drop id) with pending := tl.pending.filter fun q => q.task != id }

end Timeline
end OrderDesk
