import OrderDesk.Proofs.Exchange
import OrderDesk.Proofs.Indicator
import OrderDesk.Proofs.Pending

/-! What a selection leaves behind that is dropped while it waits. Its control is idle and no text
of progress is left for it; the progress that it has shown, its epoch and its action stay, and the
next selection on the control comes to what its own answers make of it all the same. -/
namespace OrderDesk

variable {d : Desk} {s : Session} {sel : Selection} {id : Nat} {seat : Seat} {action : String}
  {e : Event} {es more : List Event} {reply : Reply} {o : Outcome} {wish : Wish}
  {Q : Selection → Hold → Prop} {ok : Touch → Bool}

/-- An event that is not about a task, and leaves claims, selected actions and progress to requests
and to holders of a claim. -/
def Event.Aside (id : Nat) (e : Event) : Prop :=
  e.isShared = true ∧ e.id? ≠ some id

/-- The controls that a selection is among. -/
def Wish.seats (d : Desk) : Wish → List Seat
  | .select seat _ => d.seatsOn seat.page
  | .submit _ _ seats => seats
  | _ => []

/-- What a selection comes to that was refused, by the answer for the graph and by the state that
its control shows. -/
def SetReply.rejection (r : SetReply) (scope : Scope) (m : MetaResult) (state : String) : Outcome :=
  match Refresh.graph? m with
  | some g =>
    .rejected (some (g.actionsFor scope state)) (Feedback.unavailable (g.actionsFor scope state))
  | none => .rejected none r.complaint

namespace Selection

/-- A property of what belongs to a selection, if it is on one control. -/
def On (seat : Seat) (Q : Selection → Hold → Prop) (s : Selection) (h : Hold) : Prop :=
  s.seat = seat → Q s h

theorem Kept.on (hQ : Kept Q ok) (seat : Seat) : Kept (On seat Q) ok where
  step := fun h hk hk' hs hseat => hQ.step h hk hk' fun hc => hs hc hseat
  conclude := fun result hs h hseat => hQ.conclude result hs (h hseat)
  fetched := fun result hs h hseat => hQ.fetched result hs (h hseat)
  touch := fun hu h hseat => hQ.touch hu (h hseat)

theorem Has.of_on (h : sel.Has (On sel.seat Q) d) : sel.Has Q d := fun hc =>
  (h hc).imp fun _ hk => ⟨hk.1, hk.2 rfl⟩

theorem holdsClaim_of_awaits (h : sel.awaits.isSome = true) : sel.holdsClaim = true := by
  cases hs : sel.stage <;> simp_all [awaits, holdsClaim]

/-- What is offered to a selection that was refused is what the fetched graph permits in the state
that its control shows when it is over. -/
theorem offered_eq {g : Graph} {message : String} {c : Control}
    (hc : ((sel.renewed d g).perform (sel.closing message)).control? sel.seat = some c) :
    sel.offered d g = g.actionsFor sel.seat.scope c.state := by
  have hstate : (sel.renewed d g).stateAt sel.seat = some c.state := by
    rw [← (closing_frame _ sel message sel.seat).1, Desk.stateAt, hc]
    rfl
  obtain ⟨c₀, hc₀, hsame⟩ := Option.map_eq_some_iff.mp hstate
  rw [offered, hc₀, ← hsame, ← Desk.seat_of_control? hc₀]
  rfl

end Selection

namespace Task

/-- A selection has the controls that it was asked for with. -/
theorem seats_of_begin {first : Selection}
    (h : ((ofWish d wish).settle d).2 = selection first) : first.seats = wish.seats d := by
  have hbegin : (ofWish d wish).Meets (fun _ s => s.seats = wish.seats d) d := by
    intro s hs
    cases wish <;> cases hs <;> rfl
  exact meets_settle (fun _ hs => hs) hbegin first h

end Task

namespace Session

theorem reachable_turns (store : Store) (schedule : Schedule) (ds : List Descriptor)
    (hes : ∀ e ∈ es, e.isOpen) : ((opened store schedule ds).turns es).Reachable := by
  refine ⟨store, schedule, ds, es.flatMap Event.toRest, fun f hf => ?_, turns_eq_play _ es⟩
  obtain ⟨e, he, hf⟩ := List.mem_flatMap.mp hf
  exact isOpen_toRest (hes e he) f hf

/-- Nobody has anything on a control that is idle. -/
theorem has_idle (hb : s.Balanced) (hidle : s.desk.isBusy seat = false) :
    s.Has (Selection.On seat Q) := by
  intro id sel hm hc
  have hclaims : (Task.selection sel).claims sel.seat = true := by simp [Task.claims, hc]
  have hbusy := hb.busy hm hclaims
  rw [Desk.isBusy_eq] at hbusy
  cases hk : s.desk.hold? sel.seat with
  | none => simp [hk] at hbusy
  | some k =>
    refine ⟨k, rfl, ?_⟩
    rintro rfl
    rw [Desk.isBusy_eq] at hidle
    rw [hidle] at hbusy
    cases hbusy

/-- A number stays free until a task begins under it. -/
theorem task?_turns_none (hs : s.Calm) (h : s.task? id = none)
    (hes : ∀ wish, Event.begin id wish ∉ es) : (s.turns es).task? id = none := by
  induction es generalizing s with
  | nil => exact h
  | cons e es ih =>
    refine ih (calm_turn hs e) ?_ fun wish hm => hes wish (List.mem_cons_of_mem e hm)
    refine Option.eq_none_iff_forall_ne_some.mpr fun u hu => ?_
    rcases task?_turn_cases hs hu with ⟨ht, -⟩ | ⟨wish, rfl, -⟩ | ⟨reply, t, -, ht, -⟩
    · simp [h] at ht
    · exact hes wish List.mem_cons_self
    · simp [h] at ht

/-- The session without a task, with the control in a seat idle and no text of progress left for
it, and all else the same. -/
def without (s : Session) (id : Nat) (seat : Seat) : Session :=
  { s.remove id with
    desk := { s.desk with
      controls := s.desk.controls.map fun c => if c.seat = seat then { c with busy := false } else c
      timers := s.desk.timers.filter fun m => m.seat != seat } }

/-- The texts of progress for the control that a selection holds are those that it takes back. -/
theorem turn_drop_waiting (hb : s.Balanced) (ha : s.Attended)
    (ht : s.task? id = some (.selection sel)) (hwaits : sel.awaits.isSome = true) :
    s.turn (.drop id) = s.without id sel.seat := by
  have hholds := Selection.holdsClaim_of_awaits hwaits
  have hown : ∀ m ∈ s.desk.timers, m.seat = sel.seat → ∃ url, sel.stage = .sent m.epoch url := by
    intro m hm hseat
    obtain ⟨_, url, ⟨⟩, -, hs⟩ := ha.of_claims hb ht (by simp [Task.claims, hseat, hholds]) hm
    exact ⟨url, hs⟩
  have hdesk : ∀ timers, timers = s.desk.timers.filter (fun m => m.seat != sel.seat) →
      { s.remove id with desk := { s.desk.touch sel.seat .release with timers := timers } } =
        s.without id sel.seat := by
    rintro _ rfl
    rfl
  rw [turn_drop ht, Task.dropped, Selection.dropped, ← hdesk _ rfl, if_pos hholds]
  cases hs : sel.stage with
  | sent epoch url =>
    have hsame : (s.desk.timers.filter fun m => !(m.seat == sel.seat && m.epoch == epoch)) =
        s.desk.timers.filter fun m => m.seat != sel.seat := by
      refine List.filter_congr fun m hm => ?_
      by_cases hseat : m.seat = sel.seat
      · obtain ⟨url', hs'⟩ := hown m hm hseat
        obtain ⟨rfl, -⟩ := Stage.sent.inj (hs.symm.trans hs')
        simp [hseat]
      · simp [hseat, bne]
    rw [← hsame]
    rfl
  | fetch refused refresh =>
    have hsame : (s.desk.timers.filter fun m => m.seat != sel.seat) = s.desk.timers := by
      refine List.filter_eq_self.mpr fun m hm => ?_
      by_contra hseat
      obtain ⟨url', hs'⟩ := hown m hm (by simpa using hseat)
      simp [hs] at hs'
    rw [hsame]
    rfl
  | _ => simp [Selection.awaits, hs] at hwaits

/-- A selection is over, with an outcome that may hang on its control. The control is idle, shows no
progress, and shows the outcome. -/
def Ends (s : Session) (id : Nat) (seat : Seat) (action : String) (o : Control → Outcome) : Prop :=
  ∃ sel c, s.task? id = some (.selection sel) ∧ s.desk.control? seat = some c ∧
    sel.outcome? = some (o c) ∧ c.view.busy = false ∧ c.view.progress = false ∧
    (o c).Shown (Text.trim action) c.view

/-- A selection waits for the answer to its request, and whatever else happens comes to the outcome
that its own answers determine. -/
structure Serves (s : Session) (id : Nat) (seat : Seat) (action : String) (seats : List Seat) :
    Prop where
  failed : ∀ es, (∀ e ∈ es, e.Aside id) → ∀ cause,
    ((s.turns es).turn (.answer id (.setState (.error cause)))).Ends id seat action
      fun _ => .failed Feedback.networkFailure
  applied : ∀ es, (∀ e ∈ es, e.Aside id) → ∀ reply : SetReply, reply.isSuccess = true →
    ((s.turns es).turn (.answer id (.setState (.ok reply)))).Ends id seat action
      fun _ => .applied reply.body (reconciledScopes seat.order reply.body seats)
  rejected : ∀ es, (∀ e ∈ es, e.Aside id) → ∀ reply : SetReply, reply.isSuccess = false →
    (s.turns es).desk.store.metaUrl = none →
    ((s.turns es).turn (.answer id (.setState (.ok reply)))).Ends id seat action
      fun _ => .rejected none reply.complaint
  explained : ∀ es more, (∀ e ∈ es, e.Aside id) → (∀ e ∈ more, e.Aside id) →
    ∀ reply : SetReply, reply.isSuccess = false →
    ∀ url, (s.turns es).desk.store.metaUrl = some url →
    (∃ t, ((s.turns es).turn (.answer id (.setState (.ok reply)))).task? id = some t ∧
      t.awaits = some (.transitions url)) ∧
    ∀ m, ((((s.turns es).turn (.answer id (.setState (.ok reply)))).turns more).turn
      (.answer id (.transitions m))).Ends id seat action
        fun c => reply.rejection seat.scope m c.state

/-- The answer by which a selection is over shows its outcome. -/
theorem ends_of_answer (reply : Reply) (hs : s.Calm) (ht : s.task? id = some (.selection sel))
    (hwaits : sel.awaits.isSome = true) (hchosen : sel.Has Selection.Chosen s.desk)
    (hend : (((Task.selection sel).answered s.desk reply).2.settle
      ((Task.selection sel).answered s.desk reply).1).2 =
        .selection (sel.moveTo (.finished o))) (ho : ∀ reason, o ≠ .ignored reason) :
    ∃ c, (s.turn (.answer id reply)).desk.control? sel.seat = some c ∧
      ∀ f : Control → Outcome, f c = o →
        (s.turn (.answer id reply)).Ends id sel.seat sel.action f := by
  have hnot : (Task.selection sel).isFinished = false := by
    cases hs : sel.stage <;> simp_all [Task.isFinished, Selection.outcome?, Selection.awaits]
  have hforetold := Task.meets_settle Selection.Step.foretold
    (Task.foretold_answered (hs.rests _ (mem_of_task? ht)) hnot
      (fun _ h => Task.selection.inj h ▸ hchosen) reply) _ hend
  obtain ⟨c, hc, hidle, hhidden, hshown⟩ := hforetold ho
  have hd : (s.turn (.answer id reply)).desk =
      (((Task.selection sel).answered s.desk reply).2.settle
        ((Task.selection sel).answered s.desk reply).1).1 := by
    rw [turn_answer ht]
    rfl
  have hnow : (s.turn (.answer id reply)).task? id =
      some (.selection (sel.moveTo (.finished o))) := by
    rw [turn_answer ht, task?_put ht, hend]
  refine ⟨c, hd ▸ hc, fun f hf => ⟨_, c, hnow, hd ▸ hc, ?_, hidle, hhidden, ?_⟩⟩
  · rw [hf]
    rfl
  · rw [hf]
    exact hshown

/-- The answer for the graph lets a selection that was refused come to its end. -/
theorem ends_of_asked {refused : SetReply} {url : String} (hs : s.Calm)
    (ht : s.task? id = some (.selection sel)) (hstage : sel.stage = .fetch refused (.asked url))
    (hchosen : sel.Has Selection.Chosen s.desk) (m : MetaResult) :
    (s.turn (.answer id (.transitions m))).Ends id sel.seat sel.action
      fun c => refused.rejection sel.seat.scope m c.state := by
  have hwaits : sel.awaits.isSome = true := by simp [Selection.awaits, hstage]
  rcases Refresh.answered_cases m with ⟨g, hg, ha⟩ | ⟨hnone, error, ha⟩
  · have hsettled : (((Task.selection sel).answered s.desk (.transitions m)).2.settle
        ((Task.selection sel).answered s.desk (.transitions m)).1) =
        ((sel.renewed s.desk g).perform (sel.closing (Feedback.unavailable (sel.offered s.desk g))),
          .selection (sel.moveTo (.finished (.rejected (some (sel.offered s.desk g))
            (Feedback.unavailable (sel.offered s.desk g)))))) := by
      rw [Task.answered_of_asked hstage, ha, Task.settle_fetched rfl]
      rfl
    obtain ⟨c, hc, hends⟩ := ends_of_answer (.transitions m) hs ht hwaits hchosen
      (congrArg Prod.snd hsettled) (by simp)
    have hd : (s.turn (.answer id (.transitions m))).desk = (sel.renewed s.desk g).perform
        (sel.closing (Feedback.unavailable (sel.offered s.desk g))) := by
      rw [turn_answer ht]
      exact congrArg Prod.fst hsettled
    refine hends _ ?_
    simp only [SetReply.rejection, hg]
    rw [Selection.offered_eq (hd ▸ hc)]
  · obtain ⟨c, -, hends⟩ := ends_of_answer (.transitions m)
      (o := .rejected none refused.complaint) hs ht hwaits hchosen
      (by rw [Task.answered_of_asked hstage, ha, Task.settle_unfetched rfl]; rfl) (by simp)
    refine hends _ ?_
    simp only [SetReply.rejection, hnone]

/-- What its own action comes to on a control is told by the answers to its request alone. -/
theorem serves_of_waiting (hs : s.Calm) (hb : s.Balanced) (ht : s.task? id = some (.selection sel))
    (hstage : ∃ epoch url, sel.stage = .sent epoch url)
    (hon : s.Has (Selection.On sel.seat Selection.Chosen)) :
    s.Serves id sel.seat sel.action sel.seats := by
  obtain ⟨epoch, url, hstage⟩ := hstage
  have hmet : ∀ {es}, (∀ e ∈ es, e.Aside id) → (s.turns es).Calm ∧
      (s.turns es).task? id = some (.selection sel) ∧
      sel.Has Selection.Chosen (s.turns es).desk := by
    intro es hes
    have hstill := (task?_turns_of_ne fun e he => (hes e he).2).trans ht
    have hkept := has_turns (Selection.chosen_kept.on sel.seat) hb hon fun e he => (hes e he).1
    exact ⟨calm_turns hs es, hstill, (hkept id sel (mem_of_task? hstill)).of_on⟩
  have hwaits : sel.awaits.isSome = true := by simp [Selection.awaits, hstage]
  have hsent : ∀ (d : Desk) result, ((Task.selection sel).answered d (.setState result)) =
      (d.stopTimers sel.seat epoch, .selection (sel.moveTo (.conclude epoch result))) :=
    fun d result => Task.answered_of_sent hstage result
  refine ⟨fun es hes cause => ?_, fun es hes reply hok => ?_, fun es hes reply hok hnone => ?_, ?_⟩
  · obtain ⟨hcalm, hstill, hchosen⟩ := hmet hes
    obtain ⟨c, -, hends⟩ := ends_of_answer (.setState (.error cause))
      (o := .failed Feedback.networkFailure) hcalm hstill hwaits hchosen
      (by rw [hsent, Task.settle_failure rfl]; rfl) (by simp)
    exact hends _ rfl
  · obtain ⟨hcalm, hstill, hchosen⟩ := hmet hes
    obtain ⟨c, -, hends⟩ := ends_of_answer (.setState (.ok reply))
      (o := .applied reply.body (reconciledScopes sel.seat.order reply.body sel.seats))
      hcalm hstill hwaits hchosen (by rw [hsent, Task.settle_success rfl hok]; rfl) (by simp)
    exact hends _ rfl
  · obtain ⟨hcalm, hstill, hchosen⟩ := hmet hes
    have hnone' : ((s.turns es).desk.stopTimers sel.seat epoch).store.metaUrl = none := hnone
    obtain ⟨c, -, hends⟩ := ends_of_answer (.setState (.ok reply))
      (o := .rejected none reply.complaint) hcalm hstill hwaits hchosen
      (by rw [hsent, Task.settle_refused rfl hok, hnone']; rfl) (by simp)
    exact hends _ rfl
  · intro es more hes hmore reply hok url hurl
    obtain ⟨hcalm, hstill, -⟩ := hmet hes
    have hurl' : ((s.turns es).desk.stopTimers sel.seat epoch).store.metaUrl = some url := hurl
    have hasked : ((s.turns es).turn (.answer id (.setState (.ok reply)))).task? id =
        some (.selection (sel.moveTo (.fetch reply (.asked url)))) := by
      rw [turn_answer hstill, task?_put hstill, hsent, Task.settle_refused rfl hok, hurl']
      rfl
    refine ⟨⟨_, hasked, rfl⟩, fun m => ?_⟩
    have hlater : (((s.turns es).turn (.answer id (.setState (.ok reply)))).turns more) =
        s.turns (es ++ .answer id (.setState (.ok reply)) :: more) := by
      rw [turns_append, turns_cons]
    have hwaiting := (task?_turns_of_ne fun e he => (hmore e he).2).trans hasked
    have hkept : (s.turns (es ++ .answer id (.setState (.ok reply)) :: more)).Has
        (Selection.On sel.seat Selection.Chosen) := by
      refine has_turns (Selection.chosen_kept.on sel.seat) hb hon fun e he => ?_
      rcases List.mem_append.mp he with he | he
      · exact (hes e he).1
      · rcases List.mem_cons.mp he with rfl | he
        · rfl
        · exact (hmore e he).1
    rw [hlater] at hwaiting ⊢
    exact ends_of_asked (calm_turns hs _) hwaiting rfl
      (hkept id _ (mem_of_task? hwaiting)).of_on m

/-- A selection that begins on an idle control with an endpoint sends its request at once, and comes
to what its own answers determine. -/
theorem serves_of_begin {new : Nat} {endpoint : String} (hs : s.Calm) (hb : s.Balanced)
    (hnew : s.task? new = none) (hask : wish.Asks seat action) (haction : Text.trim action ≠ "")
    (hidle : s.desk.isBusy seat = false) (hurl : s.desk.setUrl? seat = some endpoint) :
    (∃ t, (s.turn (.begin new wish)).task? new = some t ∧
      t.awaits = some (.setState endpoint ⟨seat.scope, Text.trim action⟩)) ∧
    (s.turn (.begin new wish)).Serves new seat action (wish.seats s.desk) := by
  obtain ⟨sel, epoch, hsettled, rfl, rfl, hstage⟩ := Task.sent_of_begin hask haction hurl hidle
  have hseats := Task.seats_of_begin hsettled
  have hbegun : (s.turn (.begin new wish)).task? new = some (.selection sel) := by
    rw [task?_turn_begin hnew, hsettled]
  have hshared : ∀ e ∈ [Event.begin new wish], e.isShared = true := by simp [Event.isShared]
  have hon := has_turns (Selection.chosen_kept.on sel.seat) hb (has_idle hb hidle) hshared
  have hbalanced : (s.turn (.begin new wish)).Balanced :=
    play_keeps (fun _ _ hs he => balanced_apply hs he) hb (isOpen_toRest rfl)
  refine ⟨⟨_, hbegun, ?_⟩, ?_⟩
  · simp only [Task.awaits, Selection.awaits, hstage, Selection.request, Selection.wanted]
  · rw [← hseats]
    exact serves_of_waiting (calm_turn hs _) hbalanced hbegun ⟨epoch, _, hstage⟩ hon

/-- A run in which a text of progress is told only while it is still to come. -/
def Timely (s : Session) : List Event → Prop
  | [] => True
  | e :: es => (∀ m, e = .fire m → m ∈ s.desk.timers) ∧ (s.turn e).Timely es

/-- A text that is to come at no time of a run is not told in it. -/
theorem Timely.not_mem {m : Timer} (h : s.Timely es)
    (hnever : ∀ before, m ∉ (s.turns before).desk.timers) : Event.fire m ∉ es := by
  induction es generalizing s with
  | nil => exact List.not_mem_nil
  | cons e es ih =>
    intro hm
    rcases List.mem_cons.mp hm with rfl | hm
    · exact hnever [] (h.1 m rfl)
    · exact ih h.2 (fun before => hnever (e :: before)) hm

/-- The texts of progress that a selection had left when it was dropped are not to come later. -/
theorem not_pending_without (hr : s.Reachable) (hs : s.Calm) (ha : s.Attended)
    (ht : s.task? id = some (.selection sel)) (hwaits : sel.awaits.isSome = true) {m : Timer}
    (hm : m ∈ s.desk.timers) (hseat : m.seat = sel.seat) (later : List Event) :
    m ∉ ((s.turn (.drop id)).turns later).desk.timers := by
  have hb := balanced_reachable hr
  have hholds := Selection.holdsClaim_of_awaits hwaits
  -- The epoch that the selection has open is the last one that was opened there.
  have hlast : m.epoch = s.desk.epochAt sel.seat := by
    obtain ⟨_, url, ⟨⟩, -, hstage⟩ :=
      ha.of_claims hb ht (by simp [Task.claims, hseat, hholds]) hm
    obtain ⟨k, hk, hf⟩ := fenced_reachable hr id sel (mem_of_task? ht) hholds
    have hepoch := (hf m.epoch (by simp [Selection.epoch?, hstage])).2
    simp [Desk.epochAt, hk, hepoch]
  have hkept : s.desk.epochAt sel.seat ≤ (s.turn (.drop id)).desk.epochAt sel.seat :=
    (s.play_touched _).epochAt_le sel.seat
  have hnone : ∀ m ∈ (s.turn (.drop id)).desk.timers, m.seat = sel.seat →
      s.desk.epochAt sel.seat < m.epoch := by
    intro m hm hseat
    rw [turn_drop_waiting hb ha ht hwaits] at hm
    simpa [hseat] using (List.mem_filter.mp hm).2
  intro hlater
  have hlt := later_turns (calm_turn hs _) hkept hnone later m hlater hseat
  omega

/-- In every run of turns a selection that waits can be dropped, for the answer to its request or
for the graph after a refusal. Its control is idle then and no text of progress is left for it, and
nothing else is changed. An answer that still arrives does nothing, and no text that it left is
told. A new selection on the control sends its request at once, and it comes to what its own answers
determine. -/
theorem drop_contained {store : Store} {schedule : Schedule} {ds : List Descriptor}
    (hes : ∀ e ∈ es, e.isOpen) (hrun : s = (opened store schedule ds).turns es)
    (ht : s.task? id = some (.selection sel)) (hwaits : sel.awaits.isSome = true) :
    s.turn (.drop id) = s.without id sel.seat ∧
    (∀ before after reply, (∀ wish, Event.begin id wish ∉ before) →
      (s.without id sel.seat).turns (before ++ .answer id reply :: after) =
        (s.without id sel.seat).turns (before ++ after)) ∧
    (∀ later, ∀ m ∈ s.desk.timers, m.seat = sel.seat →
      m ∉ ((s.without id sel.seat).turns later).desk.timers ∧
      ((s.without id sel.seat).Timely later → Event.fire m ∉ later)) ∧
    ∀ new wish action, (s.without id sel.seat).task? new = none → wish.Asks sel.seat action →
      Text.trim action ≠ "" →
      (∃ t endpoint, s.desk.setUrl? sel.seat = some endpoint ∧
        ((s.without id sel.seat).turn (.begin new wish)).task? new = some t ∧
        t.awaits = some (.setState endpoint ⟨sel.seat.scope, Text.trim action⟩)) ∧
      ((s.without id sel.seat).turn (.begin new wish)).Serves new sel.seat action
        (wish.seats (s.without id sel.seat).desk) := by
  have hr : s.Reachable := hrun ▸ reachable_turns store schedule ds hes
  have hopened := calm_opened store schedule ds
  have hs : s.Calm := hrun ▸ calm_turns hopened es
  have hb := balanced_reachable hr
  have ha : s.Attended := hrun ▸ attended_turns hopened (attended_opened store schedule ds) es
  have hbound : s.Bound :=
    hrun ▸ bound_turns hopened (fun _ hp => by simp [opened] at hp) es
  have hdrop := turn_drop_waiting hb ha ht hwaits
  have hcalm : (s.without id sel.seat).Calm := hdrop ▸ calm_turn hs (.drop id)
  have hgone : (s.without id sel.seat).task? id = none := by
    simp [task?, without, remove, List.find?_filter]
  have hlater : ∀ later, ∀ m ∈ s.desk.timers, m.seat = sel.seat →
      m ∉ ((s.without id sel.seat).turns later).desk.timers :=
    fun later m hm hseat => hdrop ▸ not_pending_without hr hs ha ht hwaits hm hseat later
  refine ⟨hdrop, fun before after reply hfree => ?_, fun later m hm hseat => ?_, ?_⟩
  · have hnone := task?_turns_none hcalm hgone hfree
    rw [turns_append, turns_cons, turns_append,
      turn_of_loses (calm_turns hcalm before) (by simp [loses, hnone])]
  · exact ⟨hlater later m hm hseat, fun htimely => htimely.not_mem fun before =>
      hlater before m hm hseat⟩
  · intro new wish action hnew hask haction
    have hidle : (s.without id sel.seat).desk.isBusy sel.seat = false := by
      have hreleased := s.desk.isBusy_touch_release sel.seat sel.seat
      rw [if_pos rfl] at hreleased
      exact hreleased
    have hbalanced : (s.without id sel.seat).Balanced := hdrop ▸ balanced_drop hb id
    obtain ⟨endpoint, hurl⟩ := Option.isSome_iff_exists.mp
      (hbound _ (mem_of_task? ht) sel rfl (Selection.holdsClaim_of_awaits hwaits))
    have hurl' : (s.without id sel.seat).desk.setUrl? sel.seat = some endpoint := by
      rw [← hdrop]
      exact ((s.play_touched _).setUrl?_eq sel.seat).trans hurl
    obtain ⟨⟨t, hbegun, hawaits⟩, hserves⟩ :=
      serves_of_begin hcalm hbalanced hnew hask haction hidle hurl'
    exact ⟨⟨t, endpoint, hurl, hbegun, hawaits⟩, hserves⟩

/-- A change of the order is refused, and the graph is asked for. -/
def abandoned : List Event :=
  [.begin 0 (.select sampleSeat "process"),
    .answer 0 (.setState (.ok ⟨409, ⟨true, none, none, none, some "Gesperrt."⟩⟩))]

/-- It is dropped before the graph arrives, and another change of the order is made. -/
theorem drop_contained_abandoned :
    (remote.turns abandoned).turn (.drop 0) = (remote.turns abandoned).without 0 sampleSeat ∧
    ((((remote.turns abandoned).without 0 sampleSeat).turn
        (.begin 1 (.select sampleSeat " cancel "))).turn
      (.answer 1 (.setState (.ok ⟨200, ⟨true, some "cancelled", none, none, none⟩⟩)))).Ends
        1 sampleSeat " cancel " fun _ =>
          .applied ⟨true, some "cancelled", none, none, none⟩ [.order] := by
  have hes : ∀ e ∈ abandoned, e.isOpen := by decide
  have ht : (remote.turns abandoned).task? 0 = some (.selection ⟨sampleSeat, "process",
      samplePage.map fun x => ⟨0, x.order, x.scope⟩,
      .fetch ⟨409, ⟨true, none, none, none, some "Gesperrt."⟩⟩ (.asked "/meta")⟩) := rfl
  obtain ⟨hdrop, -, -, hnew⟩ := drop_contained hes rfl ht rfl
  obtain ⟨-, hserves⟩ := hnew 1 (.select sampleSeat " cancel ") " cancel " rfl ⟨rfl, rfl⟩
    (by decide)
  exact ⟨hdrop, hserves.applied [] (by simp) _ rfl⟩

end Session
end OrderDesk
