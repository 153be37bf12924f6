import OrderDesk.Selection

/-!
A session at a desk: the desk and the tasks that go on at it. Tasks take turns. A task can be moved
a single step at a time, so that any other may come in between, or until it waits for an answer.
-/
namespace OrderDesk

/-- What may be wanted of a desk that takes a question to the backend. -/
inductive Wish where
  /-- The selection of an action among the controls of its page, from the first look at the
  control. -/
  | select (seat : Seat) (action : String)
  /-- A selection among the given controls that begins with the claim. -/
  | submit (seat : Seat) (action : String) (seats : List Seat)
  /-- A refresh that an operator asks for on the present page. -/
  | refreshPage
  /-- A refresh of the store alone. -/
  | refreshStore
  deriving DecidableEq, Repr

/-- The selection of an action on the control of an order and scope on a page, if there is such a
control. -/
def Wish.selectOn? (d : Desk) (page : Nat) (order : OrderId) (scope : Scope) (action : String) :
    Option Wish :=
  (d.seat? page order scope).map (.select · action)

/-- What goes on at a desk and may wait for the backend. -/
inductive Task where
  | selection (s : Selection)
  | pageRefresh (page : Nat) (r : PageRefresh)
  | storeRefresh (r : Refresh)

namespace Task

/-- The task that does what is wanted, before its first step. -/
def ofWish (d : Desk) : Wish → Task
  | .select seat action => .selection ⟨seat, action, d.seatsOn seat.page, .look⟩
  | .submit seat action seats => .selection ⟨seat, action, seats, .claim⟩
  | .refreshPage => .pageRefresh d.page (.fetch .ask)
  | .refreshStore => .storeRefresh .ask

/-- One step. A task that waits or is finished takes none. -/
def step (d : Desk) : Task → Desk × Task
  | selection s =>
    let (d, s) := s.step d
    (d, selection s)
  | pageRefresh page r =>
    let (d, r) := r.step d page
    (d, pageRefresh page r)
  | storeRefresh r =>
    let (d, r) := r.step d
    (d, storeRefresh r)

/-- The question that a task waits for an answer to. -/
def awaits : Task → Option Question
  | selection s => s.awaits
  | pageRefresh _ (.fetch (.asked url)) => some (.transitions url)
  | storeRefresh (.asked url) => some (.transitions url)
  | _ => none

/-- Whether a task is finished. -/
def isFinished : Task → Bool
  | selection s => s.outcome?.isSome
  | pageRefresh _ (.finished _) => true
  | storeRefresh (.done _) => true
  | _ => false

/-- Whether a task waits or is finished. -/
def rests (t : Task) : Bool :=
  t.awaits.isSome || t.isFinished

/-- The most steps that are left before a task waits or is finished. -/
def rank (d : Desk) : Task → Nat
  | selection s => s.rank
  | pageRefresh _ r => r.rank d
  | storeRefresh r => r.rank

/-- At most so many steps of a task, up to where it waits or is finished. -/
def settleWithin : Nat → Desk → Task → Desk × Task
  | 0, d, t => (d, t)
  | n + 1, d, t =>
    if t.rests then (d, t)
    else
      let (d, t) := t.step d
      settleWithin n d t

/-- The steps of a task up to where it waits or is finished. -/
def settle (d : Desk) (t : Task) : Desk × Task :=
  settleWithin (t.rank d) d t

/-- The desk and the task when an answer arrives. -/
def answered (d : Desk) : Task → Reply → Desk × Task
  | selection s, reply =>
    let (d, s) := s.answered d reply
    (d, selection s)
  | pageRefresh page (.fetch (.asked _)), .transitions result =>
    (d, pageRefresh page (.fetch (Refresh.answered result)))
  | storeRefresh (.asked _), .transitions result => (d, storeRefresh (Refresh.answered result))
  | t, _ => (d, t)

/-- The desk when a task is dropped. -/
def dropped (d : Desk) : Task → Desk
  | selection s => s.dropped d
  | _ => d

end Task

/-- A desk, the tasks that go on at it, each with a number of its own, and the claims that are held
apart from any task. -/
structure Session where
  desk : Desk
  tasks : List (Nat × Task) := []
  held : List Seat := []

/-- What may happen in a session. -/
inductive Event where
  /-- A task begins under a number that no other task has, and has taken no step yet. -/
  | begin (id : Nat) (wish : Wish)
  /-- A task takes one step. -/
  | step (id : Nat)
  /-- A task goes on to where it waits or is finished. -/
  | settle (id : Nat)
  /-- The answer to the question of a task arrives. -/
  | answer (id : Nat) (reply : Reply)
  /-- A task is dropped where it stands. -/
  | drop (id : Nat)
  /-- The text of a timer is told. -/
  | fire (timer : Timer)
  /-- The clock moves on. -/
  | pass (time : Nat)
  /-- A control is claimed apart from any task, if it is idle. -/
  | hold (seat : Seat)
  /-- A claim that is held apart from any task is released. -/
  | release (seat : Seat)
  /-- A control is touched. -/
  | touch (seat : Seat) (touch : Touch)
  /-- The idle controls of the present page are brought up to date with the graph. -/
  | repopulate
  /-- The store takes a graph. -/
  | replace (graph : Graph)
  | persist
  | restore

namespace Session

/-- The task of a number. -/
def task? (s : Session) (id : Nat) : Option Task :=
  (s.tasks.find? fun t => t.1 == id).map (·.2)

/-- The session with another desk, and a task at another stage. -/
def put (s : Session) (id : Nat) (r : Desk × Task) : Session :=
  { s with desk := r.1, tasks := s.tasks.map fun t => if t.1 = id then (id, r.2) else t }

/-- The session without a task. -/
def remove (s : Session) (id : Nat) : Session :=
  { s with tasks := s.tasks.filter fun t => t.1 != id }

/-- The session after an event. -/
def apply (s : Session) : Event → Session
  | .begin id wish =>
    if (s.task? id).isSome then s
    else { s with tasks := s.tasks ++ [(id, .ofWish s.desk wish)] }
  | .step id => (s.task? id).elim s fun t => s.put id (t.step s.desk)
  | .settle id => (s.task? id).elim s fun t => s.put id (t.settle s.desk)
  | .answer id reply => (s.task? id).elim s fun t => s.put id (t.answered s.desk reply)
  | .drop id =>
    (s.task? id).elim s fun t => { s.remove id with desk := t.dropped s.desk }
  | .fire timer => { s with desk := s.desk.fire timer }
  | .pass time => { s with desk := { s.desk with now := s.desk.now + time } }
  | .hold seat =>
    (s.desk.claim? seat).elim s fun d => { s with desk := d, held := seat :: s.held }
  | .release seat =>
    if seat ∈ s.held then
      { s with desk := s.desk.touch seat .release, held := s.held.erase seat }
    else s
  | .touch seat t => { s with desk := s.desk.touch seat t }
  | .repopulate => { s with desk := s.desk.repopulate }
  | .replace g => { s with desk := { s.desk with store := s.desk.store.replace g } }
  | .persist => { s with desk := { s.desk with store := s.desk.store.persist.1 } }
  | .restore => { s with desk := { s.desk with store := s.desk.store.restore.1 } }

/-- The session after a row of events. -/
def play (s : Session) (es : List Event) : Session :=
  es.foldl apply s

end Session
end OrderDesk
