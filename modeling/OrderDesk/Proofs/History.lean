import OrderDesk.Proofs.Adoption
import OrderDesk.Proofs.Turn

/-! The state of a control and the answers that were given. While a task goes on, the state that a
control is about to show does not change; what it shows when the task rests was reported by the
answer that let the task go on, or was there before. -/
namespace OrderDesk

variable {d d' : Desk} {s s' : Session} {sel : Selection} {t : Task} {g : Stage} {e : Event}
  {es : List Event} {seat : Seat}

/-- The state that a selection is about to have the control in a seat take over. -/
def Selection.due (s : Selection) (seat : Seat) : Option String :=
  match s.stage with
  | .conclude _ (.ok reply) =>
    if reply.isSuccess then reply.body.reports s.seat.order seat else none
  | .survey response => response.reports s.seat.order seat
  | _ => none

/-- The state that a task is about to have the control in a seat take over. -/
def Task.due : Task → Seat → Option String
  | selection s, seat => s.due seat
  | _, _ => none

/-- The state that the control in a seat shows when a task comes to rest. -/
def Desk.forecast (d : Desk) (t : Task) (seat : Seat) : Option String :=
  ((d.perform t.todo).stateAt seat).map (t.due seat).getD

/-- A selection that holds a control holds one that is there, and a selection on a control that is
there has all controls before it. -/
def Selection.Placed (d : Desk) (s : Selection) : Prop :=
  (s.holdsClaim = true → s.seat ∈ d.seats) ∧ (s.seat ∈ d.seats → s.seats = d.seats)

namespace Selection

theorem Step.placed (h : Step d sel d' g) (hp : sel.Placed d) : (sel.moveTo g).Placed d' := by
  have hseats := h.touched.seats_eq
  refine ⟨fun hc => ?_, fun hm => (hp.2 (hseats ▸ hm)).trans hseats.symm⟩
  rw [hseats]
  exact h.seat_mem hp.1 hc

/-- No step changes the state that a control is about to show. -/
theorem Step.forecast (h : Step d sel d' g) (hs : d.Single) (hp : sel.Placed d)
    (hseat : seat ∈ d.seats) :
    d'.forecast (.selection (sel.moveTo g)) seat = d.forecast (.selection sel) seat := by
  cases h with
  | @survey response hstage =>
    have hseats := hp.2 (hp.1 (by simp [holdsClaim, hstage]))
    have hrest : ∀ p ∈ [(sel.seat, Touch.unselect),
        (sel.seat, .tell (Feedback.success Feedback.saved))], p.2.state? = none := by
      simp [Touch.state?]
    simp only [Desk.forecast, Task.todo, Task.due, due, moveTo_stage, hstage, success,
      map_getD_none, Desk.perform_append, Desk.stateAt_perform_of_none hrest, hseats,
      Desk.stateAt_reconciliation hs hseat]
    rfl
  | perform hstage => simp [Desk.forecast, Task.todo, Task.due, due, hstage, Desk.perform]
  | fetch hstage =>
    simp [Desk.forecast, Task.todo, Task.due, due, hstage, Desk.perform,
      Desk.stateAt_congr (Refresh.step_controls _ _)]
  | send hstage =>
    simp only [Desk.forecast, Task.todo, Task.due, due, moveTo_stage, hstage]
    rfl
  | _ =>
    simp_all [Desk.forecast, Task.todo, Task.due, due, Desk.perform, Desk.stateAt_touch,
      Touch.state?, refusal, explanation]

theorem Placed.touched (hd : d.Touched d') (h : sel.Placed d) : sel.Placed d' := by
  simpa [Placed, hd.seats_eq] using h

theorem Placed.answered (h : sel.Placed d) (reply : Reply) :
    (sel.answered d reply).2.Placed (sel.answered d reply).1 := by
  rcases sel.answered_cases d reply with ha | ⟨_, _, _, hstage, -, ha⟩ | ⟨_, _, _, hstage, -, ha⟩
  · simpa [ha] using h
  · rw [ha]
    exact ⟨fun _ => h.1 (by simp [holdsClaim, hstage]), h.2⟩
  · rw [ha]
    exact ⟨fun _ => h.1 (by simp [holdsClaim, hstage]), h.2⟩

end Selection

namespace Task

theorem forecast_step (hs : d.Single) (hp : t.Meets Selection.Placed d) (hseat : seat ∈ d.seats) :
    (t.step d).1.forecast (t.step d).2 seat = d.forecast t seat := by
  cases t with
  | selection sel =>
    obtain ⟨d', g, he, hstep⟩ := sel.step_spec d
    simpa [step, he] using hstep.forecast hs (hp sel rfl) hseat
  | pageRefresh page r =>
    obtain ⟨d', r', he, hstep⟩ := r.step_spec d page
    rw [step, he]
    cases hstep with
    | @fetch refresh =>
      simpa [Desk.forecast, todo, due, Desk.perform] using
        Desk.stateAt_congr (refresh.step_controls d) seat
    | survey =>
      simpa [Desk.forecast, todo, due, Desk.perform] using
        Desk.stateAt_perform_of_none fun _ => Desk.repopulation_state?
    | _ => simp [Desk.forecast, todo, due, Desk.perform]
  | storeRefresh r =>
    simpa [step, Desk.forecast, todo, due, Desk.perform] using
      Desk.stateAt_congr (r.step_controls d) seat

/-- A task that rests has nothing to do before its answer. -/
theorem idle_of_rests (hr : t.rests = true) (seat : Seat) : t.todo = [] ∧ t.due seat = none := by
  cases resting_of_rests hr with
  | sent hs | asked hs | ended hs => simp [todo, due, Selection.due, hs]
  | _ => exact ⟨rfl, rfl⟩

theorem forecast_of_rests (hr : t.rests = true) : d.forecast t seat = d.stateAt seat := by
  simp [Desk.forecast, idle_of_rests hr seat, Desk.perform]

/-- A task that goes on leaves each control with the state that was forecast. -/
theorem stateAt_settle (hs : d.Single) (hp : t.Meets Selection.Placed d)
    (hseat : seat ∈ d.seats) : (t.settle d).1.stateAt seat = d.forecast t seat := by
  have hkeep := settle_keeps (d := d) (t := t)
    (P := fun d' t' => d'.seats = d.seats ∧ t'.Meets Selection.Placed d' ∧
      d'.forecast t' seat = d.forecast t seat)
    ?_ ⟨rfl, hp, rfl⟩
  · rw [← forecast_of_rests (settle_rests d t)]
    exact hkeep.2.2
  · rintro d' t' ⟨hseats, hp', hf⟩ -
    refine ⟨(step_touched d' t').seats_eq.trans hseats, meets_step Selection.Step.placed hp', ?_⟩
    have hs' : d'.Single := fun other hm => hs other (hseats ▸ hm)
    exact (forecast_step hs' hp' (hseats ▸ hseat)).trans hf

theorem forecast_ofWish (d : Desk) (wish : Wish) (seat : Seat) :
    d.forecast (ofWish d wish) seat = d.stateAt seat := by
  cases wish <;> simp [ofWish, Desk.forecast, todo, due, Selection.due, Desk.perform]

/-- The order and the response, when an answer that a task waits for reports a change as made. -/
def success? : Task → Reply → Option (OrderId × SetResponse)
  | selection s, .setState (.ok reply) =>
    match s.stage with
    | .sent _ _ => if reply.isSuccess then some (s.seat.order, reply.body) else none
    | _ => none
  | _, _ => none

/-- What a task has to do on its answer is what the answer reports, when it reports a change as
made. -/
theorem idle_answered (hr : t.rests = true) (reply : Reply) (seat : Seat) :
    (t.answered d reply).2.todo = [] ∧ (t.answered d reply).2.due seat =
      (t.success? reply).bind fun m => m.2.reports m.1 seat := by
  cases resting_of_rests hr with
  | sent hs =>
    cases reply with
    | transitions result =>
      simp [answered, Selection.answered, todo, due, Selection.due, success?, hs]
    | setState result =>
      cases result with
      | error error =>
        simp [answered, Selection.answered, todo, due, Selection.due, success?, hs]
      | ok reply =>
        cases hok : reply.isSuccess <;>
          simp [answered, Selection.answered, todo, due, Selection.due, success?, hs, hok]
  | asked hs | ended hs =>
    rcases reply with result | result | _ <;>
      simp [answered, Selection.answered, todo, due, Selection.due, success?, hs]
  | _ => cases reply <;> exact ⟨rfl, rfl⟩

/-- An answer forecasts what it reports, when it reports a change as made. -/
theorem forecast_answered (hr : t.rests = true) (reply : Reply) :
    (t.answered d reply).1.forecast (t.answered d reply).2 seat =
      (d.stateAt seat).map ((t.success? reply).bind fun m => m.2.reports m.1 seat).getD := by
  have hstate : (t.answered d reply).1.stateAt seat = d.stateAt seat :=
    Desk.stateAt_congr (t.answered_frame d reply default).1 seat
  rw [Desk.forecast, (idle_answered hr reply seat).1, (idle_answered hr reply seat).2, ← hstate]
  rfl

end Task

/-- An event that begins no selection but among the controls of the page. -/
def Event.isPaged (seats : List Seat) : Event → Bool
  | .begin _ (.submit _ _ given) => given = seats
  | _ => true

/-- An event that submits a selection among the controls of the page and lets no one else set a
state. -/
def Event.isRegular (seats : List Seat) : Event → Bool
  | .begin _ (.submit _ _ given) => given = seats
  | .touch _ t => t.state?.isNone
  | _ => true

theorem Event.isPaged_of_isRegular {seats : List Seat} (h : e.isRegular seats) :
    e.isPaged seats := by
  cases e with
  | begin id wish => cases wish <;> exact h
  | _ => rfl

namespace Session

/-- The order and the response, when an event brings an answer that reports a change as made. -/
def success? (s : Session) : Event → Option (OrderId × SetResponse)
  | .answer id reply => (s.task? id).bind (·.success? reply)
  | _ => none

/-- The changes that are reported as made in the turns of a row of events, one after another. -/
def successes (s : Session) : List Event → List (OrderId × SetResponse)
  | [] => []
  | e :: es => (s.success? e).toList ++ (s.turn e).successes es

/-- The state that the latest of some changes reports for the control in a seat. -/
def latest (seat : Seat) (made : List (OrderId × SetResponse)) : Option String :=
  (made.filterMap fun m => m.2.reports m.1 seat).getLast?

/-- A session at one page, in which all tasks rest and each selection has the page before it. -/
structure Paged (s : Session) : Prop where
  calm : s.Calm
  single : s.desk.Single
  placed : ∀ p ∈ s.tasks, p.2.Meets Selection.Placed s.desk

theorem paged_opened (store : Store) (schedule : Schedule) (ds : List Descriptor) :
    (opened store schedule ds).Paged where
  calm := calm_opened store schedule ds
  single := by
    intro seat hm
    rw [opened, Desk.seats_bindPage_first] at hm
    obtain ⟨x, -, rfl⟩ := List.mem_map.mp hm
    rfl
  placed := fun _ hp => by simp [opened] at hp

theorem placed_ofWish (hs : d.Single) {id : Nat} {wish : Wish}
    (hw : (Event.begin id wish).isPaged d.seats) :
    (Task.ofWish d wish).Meets Selection.Placed d := by
  rintro sel hsel
  cases wish with
  | select seat action =>
    obtain rfl := Task.selection.inj hsel
    refine ⟨by simp [Selection.holdsClaim], fun hm => ?_⟩
    simp only [Desk.seatsOn_eq, hs seat hm]
    exact List.filter_eq_self.mpr fun other ho => by simp [hs other ho]
  | submit seat action seats =>
    obtain rfl := Task.selection.inj hsel
    refine ⟨by simp [Selection.holdsClaim], fun _ => ?_⟩
    simpa [Event.isPaged] using hw
  | refreshPage => simp [Task.ofWish] at hsel
  | refreshStore => simp [Task.ofWish] at hsel

theorem turn_seats (s : Session) (e : Event) : (s.turn e).desk.seats = s.desk.seats :=
  s.play_seats e.toRest

theorem paged_turn (hs : s.Paged) (he : e.isPaged s.desk.seats) : (s.turn e).Paged := by
  have hseats := s.turn_seats e
  refine ⟨calm_turn hs.calm e, fun seat hm => hs.single seat (hseats ▸ hm), ?_⟩
  refine meets_turn Selection.Step.placed (fun reply h => h.answered reply) Selection.Placed.touched
    ?_ hs.calm hs.placed
  rintro id wish rfl
  exact placed_ofWish hs.single he

/-- An event that is about no task changes no state. -/
theorem stateAt_apply (hid : e.id? = none) (he : e.isRegular s.desk.seats) :
    (s.apply e).desk.stateAt seat = s.desk.stateAt seat := by
  cases e with
  | begin | step | settle | answer | drop => simp [Event.id?] at hid
  | fire timer => exact Desk.stateAt_touch_of_none (t := .progress timer.epoch timer.text) rfl
  | hold other =>
    simp only [apply, Desk.claim?]
    split
    · exact Desk.stateAt_touch_of_none (t := .claim) rfl
    · rfl
  | release other =>
    simp only [apply]
    split
    · exact Desk.stateAt_touch_of_none (t := .release) rfl
    · rfl
  | touch other t => exact Desk.stateAt_touch_of_none (by simpa [Event.isRegular] using he)
  | repopulate => exact Desk.stateAt_perform_of_none fun _ => Desk.repopulation_state?
  | _ => rfl

/-- A turn changes the state of a control to the one that is reported in it, if one is. -/
theorem Turn.stateAt (h : s.Turn e s') (hs : s.Paged) (he : e.isRegular s.desk.seats)
    (hseat : seat ∈ s.desk.seats) :
    s'.desk.stateAt seat = (s.desk.stateAt seat).map
      ((s.success? e).bind fun m => m.2.reports m.1 seat).getD := by
  cases h with
  | still hnone =>
    have hs : s.success? e = none := by
      cases e with
      | answer id reply => simp [success?, hnone id reply rfl]
      | _ => rfl
    simp [hs]
  | begun _ =>
    have hplaced := placed_ofWish hs.single (Event.isPaged_of_isRegular he)
    rw [Task.stateAt_settle hs.single hplaced hseat, Task.forecast_ofWish]
    simp [success?]
  | @answered id reply t ht =>
    have hm := mem_of_task? ht
    have hcontrols := (t.answered_frame s.desk reply default).1
    have hseats := Desk.seats_congr hcontrols
    have hplaced := Task.meets_answered (fun _ hp => hp.answered reply) (hs.placed _ hm)
    have hsingle : (t.answered s.desk reply).1.Single :=
      fun other ho => hs.single other (hseats ▸ ho)
    have hsettle := Task.stateAt_settle hsingle hplaced (hseats ▸ hseat)
    refine hsettle.trans ?_
    rw [Task.forecast_answered (hs.calm.rests _ hm)]
    simp [success?, ht]
  | @dropped id t ht =>
    obtain ⟨f, hf, ⟨hd, -⟩ | ⟨sel, -, -, hd⟩⟩ := t.dropped_cases s.desk
    · simp [success?, hd, Desk.stateAt_congr hf]
    · simp [success?, hd, Desk.stateAt_touch, Touch.state?, Desk.stateAt_congr hf]
  | other hid =>
    have hnone : s.success? e = none := by
      cases e with
      | answer => simp [Event.id?] at hid
      | _ => rfl
    simp [hnone, stateAt_apply hid he]

theorem latest_append (seat : Seat) (made rest : List (OrderId × SetResponse)) (state : String) :
    (latest seat (made ++ rest)).getD state =
      (latest seat rest).getD ((latest seat made).getD state) := by
  simp only [latest, List.filterMap_append, List.getLast?_append]
  cases (rest.filterMap fun m => m.2.reports m.1 seat).getLast? <;> simp

theorem stateAt_turns (hs : s.Paged) (hes : ∀ e ∈ es, e.isRegular s.desk.seats)
    (hseat : seat ∈ s.desk.seats) :
    (s.turns es).desk.stateAt seat =
      (s.desk.stateAt seat).map (latest seat (s.successes es)).getD := by
  induction es generalizing s with
  | nil => simp [successes, latest]
  | cons e es ih =>
    have he := hes e List.mem_cons_self
    have hseats := s.turn_seats e
    have hrest := ih (paged_turn hs (Event.isPaged_of_isRegular he))
      (fun f hf => hseats ▸ hes f (List.mem_cons_of_mem e hf)) (hseats ▸ hseat)
    rw [turns_cons, hrest, (turn_spec hs.calm e).stateAt hs he hseat, Option.map_map]
    congr 1
    funext state
    rw [successes, latest_append]
    cases h : s.success? e <;> simp [latest]

theorem control?_opened (store : Store) (schedule : Schedule) {ds : List Descriptor}
    {x : Descriptor} (hx : x ∈ Desk.firstOfEach [] ds) :
    (opened store schedule ds).desk.control? ⟨0, x.order, x.scope⟩ =
      some (Control.bind store.graph 0 x) := by
  have hm : Control.bind store.graph 0 x ∈ (opened store schedule ds).desk.controls :=
    List.mem_append_right _ (List.mem_map.mpr ⟨x, hx, rfl⟩)
  exact Control.bind_seat store.graph 0 x ▸
    Desk.control?_of_mem (Desk.seats_nodup_first store schedule ds) hm

theorem stateAt_opened (store : Store) (schedule : Schedule) {ds : List Descriptor}
    {x : Descriptor} (hx : x ∈ Desk.firstOfEach [] ds) :
    (opened store schedule ds).desk.stateAt ⟨0, x.order, x.scope⟩ = some x.state := by
  rw [Desk.stateAt, control?_opened store schedule hx, Option.map_some, Control.bind_state]

/-- In every run of turns a control shows the state that the latest answer with one for it
reported, of those that report a change in its order as made, or else the one it was bound with. -/
theorem state_history (store : Store) (schedule : Schedule) {ds : List Descriptor}
    {x : Descriptor} (hx : x ∈ Desk.firstOfEach [] ds)
    (hes : ∀ e ∈ es, e.isRegular (opened store schedule ds).desk.seats) :
    ∃ c, ((opened store schedule ds).turns es).desk.control? ⟨0, x.order, x.scope⟩ = some c ∧
      c.state = (latest ⟨0, x.order, x.scope⟩
        ((opened store schedule ds).successes es)).getD x.state := by
  have hs := paged_opened store schedule ds
  have hseat : (⟨0, x.order, x.scope⟩ : Seat) ∈ (opened store schedule ds).desk.seats := by
    rw [opened, Desk.seats_bindPage_first]
    exact List.mem_map.mpr ⟨x, hx, rfl⟩
  have hend := stateAt_turns hs hes hseat
  rw [stateAt_opened store schedule hx] at hend
  obtain ⟨c, hc, hstate⟩ := Option.map_eq_some_iff.mp hend
  exact ⟨c, hc, hstate⟩

/-- A change of the order that is reported as made, and one that is dropped. -/
def change : List Event :=
  [.begin 0 (.select sampleSeat "process"),
    .answer 0 (.setState (.ok ⟨200, ⟨true, some " in_progress ", none, none, none⟩⟩)),
    .begin 1 (.select sampleSeat "complete"), .drop 1]

theorem state_history_change :
    ∃ c, (sample.turns change).desk.control? sampleSeat = some c ∧ c.state = "in_progress" := by
  have hx : ⟨⟨"10001"⟩, .order, "open", some "/set-order"⟩ ∈ Desk.firstOfEach [] samplePage := by
    decide
  have hes : ∀ e ∈ change, e.isRegular (opened sampleStore Schedule.usual samplePage).desk.seats :=
    by decide
  have hlatest : latest sampleSeat (sample.successes change) = some "in_progress" := by decide
  obtain ⟨c, hc, hstate⟩ := state_history sampleStore Schedule.usual hx hes
  exact ⟨c, hc, hstate.trans (congrArg (Option.getD · "open") hlatest)⟩

end Session
end OrderDesk
