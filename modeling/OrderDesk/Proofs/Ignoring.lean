import OrderDesk.Proofs.Exchange

/-! Selections that are ignored. A selection brings the choices of its control up to date before it
is decided whether anything comes of it. Between turns there is nothing to bring up to date: a state
that is taken over is followed by its choices before the task rests that took it over. So whatever
is ignored leaves the desk as it was. -/
namespace OrderDesk

variable {c : Control} {d d' : Desk} {s s' : Session} {sel : Selection} {t : Task} {u : Touch}
  {g : Stage} {e : Event} {es : List Event} {id : Nat} {seat : Seat} {action : String}
  {wish : Wish} {reason : IgnoredReason}

namespace Control

/-- Whether the choices of a control, if it has an endpoint, are those for its present state. -/
def IsReady (c : Control) : Prop := c.isBound = true → c.loaded = true

theorem IsReady.touch (h : c.IsReady) (hu : u.state? = none) : (c.touch u).IsReady := by
  intro hb
  have hbound : c.isBound = true := by simpa [isBound] using hb
  have hloaded := h hbound
  cases u with
  | adopt state => cases hu
  | _ => simp [Control.touch, derive, hloaded, apply_ite Control.loaded]

/-- A control that is brought up to date with its state is ready, whatever it was before. -/
theorem isReady_updated (c : Control) (graph : Graph) (state : String) :
    (c.updated graph state).IsReady := id

theorem IsReady.undergo {w : List (Seat × Touch)} (h : c.IsReady)
    (hw : ∀ p ∈ w, p.2.state? = none) : (c.undergo w).IsReady := by
  induction w generalizing c with
  | nil => exact h
  | cons p w ih =>
    rw [undergo_cons]
    refine ih ?_ fun q hq => hw q (List.mem_cons_of_mem p hq)
    split
    · exact h.touch (hw p List.mem_cons_self)
    · exact h

/-- A state that a reconciliation has a control take over is followed by its choices. -/
theorem IsReady.reconciliation (h : c.IsReady) (order : OrderId) (response : SetResponse)
    (seats : List Seat) (graph : Graph) :
    (c.undergo (OrderDesk.reconciliation order response seats graph)).IsReady := by
  refine (c.undergo_rows graph (reconcilable order response seats)).symm ▸ ?_
  exact List.foldlRecOn (motive := IsReady) _ _ h fun c _ r _ => c.isReady_updated graph r.2.2

/-- Where the choices are those for the present state, nothing is to be brought up to date. -/
theorem IsReady.freshen_eq (h : c.IsReady) (graph : Graph) : c.touch (.freshen graph) = c := by
  cases hb : c.isBound with
  | false => simp [Control.touch, hb]
  | true => simp [Control.touch, h hb]

end Control

namespace Desk

/-- Whether all controls are ready. -/
def IsReady (d : Desk) : Prop := ∀ c ∈ d.controls, c.IsReady

theorem IsReady.congr (h : d.IsReady) (hd : d'.controls = d.controls) : d'.IsReady := by
  rw [IsReady, hd]
  exact h

theorem IsReady.map {w : List (Seat × Touch)} (h : d.IsReady)
    (hw : ∀ c : Control, c.IsReady → (c.undergo w).IsReady) : (d.perform w).IsReady := by
  rw [perform_eq]
  intro c hc
  obtain ⟨c, hm, rfl⟩ := List.mem_map.mp hc
  exact hw c (h c hm)

theorem IsReady.perform {w : List (Seat × Touch)} (h : d.IsReady)
    (hw : ∀ p ∈ w, p.2.state? = none) : (d.perform w).IsReady :=
  h.map fun _ hc => hc.undergo hw

theorem IsReady.touch (h : d.IsReady) (hu : u.state? = none) : (d.touch seat u).IsReady :=
  IsReady.perform (w := [(seat, u)]) h (by simpa using hu)

theorem IsReady.freshen_eq (h : d.IsReady) (seat : Seat) (graph : Graph) :
    d.touch seat (.freshen graph) = d := by
  have hsame : (d.controls.map fun c => if c.seat = seat then c.touch (.freshen graph) else c) =
      d.controls := by
    refine (List.map_congr_left fun c hc => ?_).trans (List.map_id' _)
    rw [(h c hc).freshen_eq graph, ite_self]
  rw [Desk.touch, hsame]

end Desk

/-- All controls are ready once a task has done what it is resolved to do. -/
def Task.Readies (d : Desk) (t : Task) : Prop := (d.perform t.todo).IsReady

namespace Selection

/-- A step leaves all controls ready, or resolved to be. -/
theorem Step.readies (h : Step d sel d' g) (hr : (Task.selection sel).Readies d) :
    (Task.selection (sel.moveTo g)).Readies d' := by
  have hidle (htodo : (Task.selection sel).todo = []) : d.IsReady := by
    rwa [Task.Readies, htodo] at hr
  cases h with
  | survey hs =>
    have hr := hidle (by simp [Task.todo, hs])
    simp only [Task.Readies, Task.todo, moveTo_stage, success, Desk.perform_append]
    refine (hr.map fun c hc => hc.reconciliation _ _ _ _).perform ?_
    simp [Touch.state?]
  | perform hs => simpa [Task.Readies, Task.todo, hs, Desk.perform] using hr
  | fetch hs =>
    have hr := hidle (by simp [Task.todo, hs])
    exact hr.congr (Refresh.step_controls _ _)
  | send hs =>
    have hr := hidle (by simp [Task.todo, hs])
    exact hr.congr rfl
  | release hs =>
    have hr := hidle (by simp [Task.todo, hs])
    exact (hr.touch (u := .hideProgress) rfl).touch (u := .release) rfl
  | fail hs =>
    have hr := hidle (by simp [Task.todo, hs])
    exact (hr.touch (u := .endProgress) rfl).touch (u := .tell _) rfl
  | unfetched hs | reread hs =>
    have hr := hidle (by simp [Task.todo, hs])
    exact hr.touch (u := .tell _) rfl
  | freshen hs | claim hs | choose hs | announce hs | accept hs | refuse hs | renew hs =>
    have hr := hidle (by simp [Task.todo, hs])
    exact hr.touch rfl
  | _ => exact hidle (by simp_all [Task.todo])

end Selection

namespace Task

theorem readies_step (h : t.Readies d) : (t.step d).2.Readies (t.step d).1 := by
  cases t with
  | selection sel =>
    obtain ⟨d', g, he, hstep⟩ := sel.step_spec d
    rw [step, he]
    exact hstep.readies h
  | pageRefresh page r =>
    obtain ⟨d', r', he, hstep⟩ := r.step_spec d page
    rw [step, he]
    cases hstep with
    | fetch => exact Desk.IsReady.congr h (Refresh.step_controls _ _)
    | survey => exact Desk.IsReady.perform h fun _ => Desk.repopulation_state?
    | _ => exact h
  | storeRefresh r => exact Desk.IsReady.congr h (r.step_controls d)

/-- A task that goes on from where it has nothing left to do leaves all controls ready. -/
theorem ready_settle (h : d.IsReady) (htodo : t.todo = []) : (t.settle d).1.IsReady := by
  have hfirst : t.Readies d := by rw [Readies, htodo]; exact h
  have hend : (t.settle d).2.Readies (t.settle d).1 :=
    settle_keeps (P := fun d t => t.Readies d) (fun _ _ h _ => readies_step h) hfirst
  rwa [Readies, (idle_of_rests (settle_rests d t) default).1] at hend

theorem todo_ofWish (d : Desk) (wish : Wish) : (ofWish d wish).todo = [] := by
  cases wish <;> rfl

end Task

/-- An event in which no control is made to take over a state but by an answer. -/
def Event.isReported : Event → Bool
  | .touch _ t => t.state?.isNone
  | _ => true

namespace Session

theorem ready_apply (h : s.desk.IsReady) (hid : e.id? = none) (he : e.isReported) :
    (s.apply e).desk.IsReady := by
  cases e with
  | begin | step | settle | answer | drop => simp [Event.id?] at hid
  | fire timer => exact (h.touch (u := .progress timer.epoch timer.text) rfl).congr rfl
  | hold seat =>
    simp only [apply, Desk.claim?]
    split
    · exact h.touch (u := .claim) rfl
    · exact h
  | release seat =>
    simp only [apply]
    split
    · exact h.touch (u := .release) rfl
    · exact h
  | touch seat t => exact h.touch (by simpa [Event.isReported] using he)
  | repopulate => exact h.perform fun _ => Desk.repopulation_state?
  | _ => exact h

theorem Turn.ready (h : s.Turn e s') (hs : s.Calm) (hr : s.desk.IsReady) (he : e.isReported) :
    s'.desk.IsReady := by
  cases h with
  | still => exact hr
  | begun => exact Task.ready_settle hr (Task.todo_ofWish _ _)
  | @answered id reply t ht =>
    refine Task.ready_settle (hr.congr (t.answered_frame s.desk reply default).1) ?_
    exact (Task.idle_answered (hs.rests _ (mem_of_task? ht)) reply default).1
  | @dropped id t =>
    obtain ⟨f, hf, ⟨hd, -⟩ | ⟨sel, -, -, hd⟩⟩ := t.dropped_cases s.desk
    · exact hd ▸ hr.congr hf
    · exact hd ▸ (hr.congr hf).touch rfl
  | other hid => exact ready_apply hr hid he

/-- In every run of turns all controls are ready between turns. -/
theorem ready_turns (store : Store) (schedule : Schedule) (ds : List Descriptor)
    (hes : ∀ e ∈ es, e.isReported) : ((opened store schedule ds).turns es).desk.IsReady := by
  have hopened : (opened store schedule ds).desk.IsReady := by
    intro c hc
    simp only [opened, Desk.bindPage, List.nil_append, List.mem_map] at hc
    obtain ⟨x, -, rfl⟩ := hc
    intro hb
    have hbound : x.setUrl.isSome := by simpa [Control.isBound, Control.bind_setUrl] using hb
    simp [Control.bind, Control.isBound, hbound, Control.derive]
  exact (List.foldlRecOn (motive := fun u => u.Calm ∧ u.desk.IsReady) es turn
    ⟨calm_opened store schedule ds, hopened⟩ fun _ hu e he =>
      ⟨calm_turn hu.1 e, (turn_spec hu.1 e).ready hu.1 hu.2 (hes e he)⟩).2

end Session

/-- Why a control does not take what is wanted of it, if it does not. A selection looks first at
whether the control is busy, and one that is submitted looks at that last. -/
def Control.ignores? (c : Control) : Wish → Option IgnoredReason
  | .select _ action =>
    if c.busy then some .busy
    else if Text.trim action = "" then some .noAction
    else if c.setUrl = none then some .notBound
    else none
  | .submit _ action _ =>
    if Text.trim action = "" then some .noAction
    else if c.setUrl = none then some .notBound
    else if c.busy then some .busy
    else none
  | _ => none

/-- What a control takes is an action with a sign, while it is idle and has an endpoint. -/
theorem Control.takes_of_ignores? (c : Control) (hask : wish.Asks seat action)
    (hi : c.ignores? wish = none) :
    c.busy = false ∧ Text.trim action ≠ "" ∧ ∃ url, c.setUrl = some url := by
  cases wish with
  | select at' wanted | submit at' wanted =>
    obtain ⟨rfl, rfl⟩ := hask
    cases hb : c.busy <;> cases hurl : c.setUrl <;> by_cases ha : Text.trim wanted = "" <;>
      simp_all [ignores?]
  | refreshPage | refreshStore => exact hask.elim

theorem Selection.ignored?_eq (hc : d.control? sel.seat = some c) :
    sel.ignored? d = c.ignores? (.submit sel.seat sel.action sel.seats) := by
  simp [ignored?, Control.ignores?, wanted, hc, Desk.isBusy, String.isEmpty_iff]

namespace Task

/-- A selection that is ignored as it comes to claim its control ends there. -/
theorem settle_claim_ignored (hs : sel.stage = .claim) (hi : sel.ignored? d = some reason) :
    (selection sel).settle d = (d, selection (sel.moveTo (.finished (.ignored reason)))) := by
  rw [settle_step (rests_of_stage hs)]
  simp only [step, Selection.step, hs, hi]
  exact settle_of_rests rfl

/-- What a control does not take leaves the desk as it was. -/
theorem settle_ignored (hr : d.IsReady) (hc : d.control? seat = some c)
    (hask : wish.Asks seat action) (hi : c.ignores? wish = some reason) :
    ∃ sel, (ofWish d wish).settle d = (d, selection sel) ∧
      sel.stage = .finished (.ignored reason) := by
  cases wish with
  | select at' wanted =>
    obtain ⟨rfl, rfl⟩ := hask
    cases hb : c.busy with
    | true =>
      obtain rfl : .busy = reason := by simpa [Control.ignores?, hb] using hi
      have hbusy : d.isBusy at' = true := by rw [Desk.isBusy, hc, Option.any_some, hb]
      rw [ofWish, settle_step rfl]
      simp only [step, Selection.step, hbusy, if_true]
      exact ⟨_, settle_of_rests rfl, rfl⟩
    | false =>
      have hidle : d.isBusy at' = false := by rw [Desk.isBusy, hc, Option.any_some, hb]
      have hignored : (Selection.mk at' wanted (d.seatsOn at'.page) .claim).ignored? d =
          some reason := by
        rw [Selection.ignored?_eq hc]
        simpa [Control.ignores?, hb] using hi
      rw [settle_select hidle, hr.freshen_eq]
      exact ⟨_, settle_claim_ignored rfl hignored, rfl⟩
  | submit at' wanted seats =>
    obtain ⟨rfl, rfl⟩ := hask
    have hignored : (Selection.mk at' wanted seats .claim).ignored? d = some reason := by
      rw [Selection.ignored?_eq hc]
      exact hi
    exact ⟨_, settle_claim_ignored rfl hignored, rfl⟩
  | refreshPage | refreshStore => exact hask.elim

/-- Whether a selection waits for the answer to its request, or has come to what follows on it. -/
def IsSent (t : Task) : Prop :=
  ∃ sel, t = selection sel ∧
    ((∃ epoch url, sel.stage = .sent epoch url) ∨ ∃ result, sel.Comes result)

/-- What a control takes is sent. -/
theorem isSent_settle (hc : d.control? seat = some c) (hask : wish.Asks seat action)
    (hi : c.ignores? wish = none) : ((ofWish d wish).settle d).2.IsSent := by
  obtain ⟨hb, haction, url, hurl⟩ := c.takes_of_ignores? hask hi
  have hu : d.setUrl? seat = some url := by rw [Desk.setUrl?, hc, Option.bind_some, hurl]
  have hidle : d.isBusy seat = false := by rw [Desk.isBusy, hc, Option.any_some, hb]
  obtain ⟨sel, epoch, hsettle, -, -, hstage⟩ := sent_of_begin hask haction hu hidle
  exact ⟨sel, hsettle, Or.inl ⟨epoch, url, hstage⟩⟩

/-- What is sent stays so with every answer. -/
theorem IsSent.answered (h : t.IsSent) (d : Desk) (reply : Reply) :
    ((t.answered d reply).2.settle (t.answered d reply).1).2.IsSent := by
  obtain ⟨sel, rfl, ⟨epoch, url, hs⟩ | ⟨result, hc⟩⟩ := h
  · cases reply with
    | setState result =>
      obtain ⟨u, hu, hcomes⟩ := comes_of_reply (d := d) hs result
      exact ⟨u, hu, Or.inr ⟨result, hcomes⟩⟩
    | transitions result =>
      have hsame : (selection sel).answered d (.transitions result) = (d, selection sel) := by
        simp [Task.answered, Selection.answered, hs]
      have hrests : (selection sel).rests = true := by
        simp [rests, awaits, Selection.awaits, hs]
      rw [hsame, settle_of_rests hrests]
      exact ⟨sel, rfl, Or.inl ⟨epoch, url, hs⟩⟩
  · obtain ⟨u, hu, hcomes⟩ := comes_answered (d := d) hc reply
    exact ⟨u, hu, Or.inr ⟨result, hcomes⟩⟩

end Task

namespace Session

/-- What came of the selection of a number, if it is over. -/
def outcome? (s : Session) (id : Nat) : Option Outcome :=
  match s.task? id with
  | some (.selection sel) => sel.outcome?
  | _ => none

theorem outcome?_eq_some {o : Outcome} : s.outcome? id = some o ↔
    ∃ sel, s.task? id = some (.selection sel) ∧ sel.stage = .finished o := by
  constructor
  · intro h
    unfold outcome? at h
    split at h
    · next sel ht =>
      refine ⟨sel, ht, ?_⟩
      unfold Selection.outcome? at h
      split at h <;> simp_all
    · cases h
  · rintro ⟨sel, ht, hs⟩
    simp [outcome?, ht, Selection.outcome?, hs]

/-- What is sent is not ignored. -/
theorem not_ignored_of_isSent (ht : s.task? id = some t) (h : t.IsSent) :
    s.outcome? id ≠ some (.ignored reason) := by
  intro ho
  obtain ⟨sel, hsel, hstage⟩ := outcome?_eq_some.mp ho
  obtain rfl := Option.some.inj (ht.symm.trans hsel)
  obtain ⟨_, ⟨⟩, ⟨epoch, url, hs⟩ | ⟨result, hc⟩⟩ := h
  · simp [hs] at hstage
  · have hfollows := hc.follows (o := .ignored reason) (by simp [Selection.outcome?, hstage])
    cases result with
    | error cause => simp [Outcome.Follows, Outcome.isFailed] at hfollows
    | ok reply =>
      cases hok : reply.isSuccess <;>
        simp [Outcome.Follows, hok, Outcome.isApplied, Outcome.isRejected] at hfollows

/-- What came of a selection stays with every answer. -/
theorem outcome?_turns {o : Outcome} (hs : s.Calm) (ho : s.outcome? id = some o)
    (hes : Event.drop id ∉ es) : (s.turns es).outcome? id = some o := by
  have hstays : ∀ (d : Desk) (t : Task) (reply : Reply),
      (∃ sel, t = .selection sel ∧ sel.stage = .finished o) →
        ∃ sel, ((t.answered d reply).2.settle (t.answered d reply).1).2 = .selection sel ∧
          sel.stage = .finished o := by
    rintro d _ reply ⟨sel, rfl, hstage⟩
    have hsame : (Task.selection sel).answered d reply = (d, .selection sel) := by
      cases reply <;> simp [Task.answered, Selection.answered, hstage]
    have hrests : (Task.selection sel).rests = true := by
      simp [Task.rests, Task.isFinished, Selection.outcome?, hstage]
    rw [hsame, Task.settle_of_rests hrests]
    exact ⟨sel, rfl, hstage⟩
  obtain ⟨sel, ht, hstage⟩ := outcome?_eq_some.mp ho
  obtain ⟨_, ht', sel', rfl, hstage'⟩ := task?_turns_keeps hstays hs ht ⟨sel, rfl, hstage⟩ hes
  exact outcome?_eq_some.mpr ⟨sel', ht', hstage'⟩

/-- In every run of turns, the selection of an action on a control of the page comes to be ignored
if and only if the control does not take it, which is for a selection when the control is busy, else
when the action is blank, else when there is no endpoint, and for one that is submitted when the
action is blank, else when there is no endpoint, else when the control is busy. Then the turn in
which it begins leaves the desk as it was: every control with all that it shows and whether its
choices are derived, the graph, the cache and the questions that were asked. -/
theorem ignored_untouched {store : Store} {schedule : Schedule} {ds : List Descriptor}
    {x : Descriptor} (hx : x ∈ Desk.firstOfEach [] ds) (hseat : seat = ⟨0, x.order, x.scope⟩)
    (hes : ∀ e ∈ es, e.isReported) (hs : s = (opened store schedule ds).turns es)
    (hnew : s.task? id = none) (hask : wish.Asks seat action) :
    ∃ c, s.desk.control? seat = some c ∧
      (∀ later, Event.drop id ∉ later → ∀ reason,
        ((s.turn (.begin id wish)).turns later).outcome? id = some (.ignored reason) ↔
          c.ignores? wish = some reason) ∧
      ∀ reason, c.ignores? wish = some reason → (s.turn (.begin id wish)).desk = s.desk := by
  subst hseat
  have hcalm : s.Calm := hs ▸ calm_turns (calm_opened store schedule ds) es
  have hready : s.desk.IsReady := hs ▸ ready_turns store schedule ds hes
  obtain ⟨c, hc⟩ : ∃ c, s.desk.control? ⟨0, x.order, x.scope⟩ = some c := by
    have htouched := (opened store schedule ds).play_touched (es.flatMap Event.toRest)
    rw [← turns_eq_play, ← hs] at htouched
    exact htouched.exists_control (control?_opened store schedule hx)
  have hturn := task?_turn_begin hnew wish
  refine ⟨c, hc, fun later hlater reason => ?_, fun reason hi => ?_⟩
  · cases hi : c.ignores? wish with
    | none =>
      have hsent := Task.isSent_settle hc hask hi
      obtain ⟨u, hu, hlast⟩ := task?_turns_keeps (fun d _ reply h => h.answered d reply)
        (calm_turn hcalm _) hturn hsent hlater
      simpa using not_ignored_of_isSent hu hlast
    | some found =>
      obtain ⟨sel, hend, hstage⟩ := Task.settle_ignored hready hc hask hi
      rw [hend] at hturn
      have hfirst := outcome?_eq_some.mpr ⟨sel, hturn, hstage⟩
      rw [outcome?_turns (calm_turn hcalm _) hfirst hlater]
      simp
  · obtain ⟨sel, hend, -⟩ := Task.settle_ignored hready hc hask hi
    rw [turn_begin hnew, hend]

/-- Of the two ways to select nothing on a control that is busy, one finds it busy first and the
other finds first that there is no action. -/
theorem ignored_untouched_busy :
    ((sample.turns [.begin 0 (.select sampleSeat "process")]).turn
      (.begin 1 (.select sampleSeat " "))).outcome? 1 = some (.ignored .busy) ∧
    ((sample.turns [.begin 0 (.select sampleSeat "process")]).turn
      (.begin 1 (.submit sampleSeat " " []))).outcome? 1 = some (.ignored .noAction) ∧
    ((sample.turns [.begin 0 (.select sampleSeat "process")]).turn
      (.begin 1 (.select sampleSeat " "))).desk =
        (sample.turns [.begin 0 (.select sampleSeat "process")]).desk := by
  have hx : ⟨⟨"10001"⟩, .order, "open", some "/set-order"⟩ ∈ Desk.firstOfEach [] samplePage := by
    decide
  have hes : ∀ e ∈ [Event.begin 0 (.select sampleSeat "process")], e.isReported := by decide
  have hnew : (sample.turns [.begin 0 (.select sampleSeat "process")]).task? 1 = none := rfl
  have hlater : Event.drop 1 ∉ ([] : List Event) := List.not_mem_nil
  have hseat : sampleSeat = ⟨0, ⟨"10001"⟩, .order⟩ := rfl
  have hselect : (Wish.select sampleSeat " ").Asks sampleSeat " " := ⟨rfl, rfl⟩
  have hsubmit : (Wish.submit sampleSeat " " []).Asks sampleSeat " " := ⟨rfl, rfl⟩
  obtain ⟨c, hc, hselected, hdesk⟩ := ignored_untouched hx hseat hes rfl hnew hselect
  obtain ⟨c', hc', hsubmitted, -⟩ := ignored_untouched hx hseat hes rfl hnew hsubmit
  obtain rfl := Option.some.inj (hc.symm.trans rfl)
  obtain rfl := Option.some.inj (hc'.symm.trans rfl)
  exact ⟨(hselected [] hlater .busy).mpr rfl, (hsubmitted [] hlater .noAction).mpr (by decide),
    hdesk .busy rfl⟩

end Session
end OrderDesk
