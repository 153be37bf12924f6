import OrderDesk.Proofs.Indicator
import OrderDesk.Proofs.Pace

/-! The text of progress at every moment. While a request waits for its answer it keeps pace with the
schedule; from the answer on the texts that it left are gone, and those that are left later for the
control are of requests that come after it. -/
namespace OrderDesk

variable {d d' : Desk} {s : Session} {sel : Selection} {g : Stage} {id epoch bound : Nat}
  {seat : Seat} {m : Timer} {e : Event} {es : List Event} {url : String}

namespace Selection

/-- Whether the request of a selection was answered. -/
def isAnswered (s : Selection) : Bool :=
  match s.stage with
  | .look | .peek | .freshen _ | .claim | .choose | .announce | .send _ | .sent _ _ => false
  | _ => true

theorem Step.isAnswered (h : Step d sel d' g) (ha : sel.isAnswered = true) :
    (sel.moveTo g).isAnswered = true ∧ (sel.outcome?.isSome → (sel.moveTo g).outcome?.isSome) := by
  cases h <;> simp_all [Selection.isAnswered, success, refusal, explanation, outcome?]

/-- A selection that was answered opens no epoch any more. -/
theorem not_opens_of_isAnswered (h : sel.isAnswered = true) :
    (Task.selection sel).opens seat = false := by
  cases hs : sel.stage <;> simp_all [Selection.isAnswered, Task.opens, Task.isOpening]

theorem claims_of_isAnswered (h : sel.isAnswered = true) (hgo : sel.outcome?.isSome = false) :
    (Task.selection sel).claims sel.seat = true := by
  cases hs : sel.stage <;> simp_all [Selection.isAnswered, Task.claims, holdsClaim, outcome?]

/-- A selection that sends its request for a control, or waits for the answer, does so in an epoch
past a bound. -/
def Past (bound : Nat) (seat : Seat) (d : Desk) (s : Selection) : Prop :=
  (d.control? seat).isSome ∧ bound ≤ d.epochAt seat ∧
    (s.seat = seat → s.IsSending → bound < d.epochAt seat)

theorem Past.touched (h : sel.Past bound seat d) (ht : d.Touched d') : sel.Past bound seat d' := by
  obtain ⟨hc, hle, hlt⟩ := h
  obtain ⟨c, hc⟩ := Option.isSome_iff_exists.mp hc
  obtain ⟨c', hc'⟩ := ht.exists_control hc
  have hon := ht.epochAt_le seat
  exact ⟨by simp [hc'], by omega, fun hseat hs => by have := hlt hseat hs; omega⟩

theorem Step.past (h : Step d sel d' g) (hp : sel.Past bound seat d) :
    (sel.moveTo g).Past bound seat d' := by
  obtain ⟨hc, hle, hlt⟩ := hp.touched h.touched
  refine ⟨hc, hle, fun hseat hs => ?_⟩
  cases h with
  | announce =>
    -- The epoch that is opened is the one after that which the control was in.
    obtain ⟨c, hcontrol⟩ := Option.isSome_iff_exists.mp hp.1
    have hseat : sel.seat = seat := hseat
    have hhold : d.hold? seat = some c.hold := by simp [Desk.hold?, hcontrol]
    have hbound := hp.2.1
    simp only [Desk.epochAt, hhold, Option.elim_some] at hbound
    simpa [Desk.epochAt, hseat, hhold, Hold.touch] using Nat.lt_succ_of_le hbound
  | send hstage | wait hstage => exact hlt hseat (by simp [IsSending, hstage])
  | _ => simp [IsSending, success, refusal, explanation] at hs

end Selection

namespace Session

/-- A task is a selection whose request was answered. -/
def Answered (s : Session) (id : Nat) (sel : Selection) : Prop :=
  s.task? id = some (.selection sel) ∧ sel.isAnswered = true

theorem answered_step (h : s.Answered id sel) :
    ∃ sel', (s.apply (.step id)).Answered id sel' ∧ sel'.seat = sel.seat ∧
      (sel.outcome?.isSome → sel'.outcome?.isSome) := by
  obtain ⟨ht, ha⟩ := h
  obtain ⟨d', g, hstep, happly⟩ := apply_step_selection ht
  obtain ⟨hgo, hfin⟩ := hstep.isAnswered ha
  exact ⟨sel.moveTo g, ⟨happly ▸ task?_put ht, hgo⟩, rfl, hfin⟩

/-- An answer to a selection that has its own touches nothing. -/
theorem answered_answer (hn : s.Numbered) (h : s.Answered id sel) (reply : Reply) :
    (∃ sel', (s.apply (.answer id reply)).Answered id sel' ∧ sel'.seat = sel.seat ∧
      (sel.outcome?.isSome → sel'.outcome?.isSome)) ∧
    (s.apply (.answer id reply)).desk = s.desk := by
  obtain ⟨ht, ha⟩ := h
  rw [apply_answer_selection ht]
  rcases sel.answered_cases s.desk reply with h | ⟨_, _, _, hs, _, _⟩ | ⟨_, _, _, hs, _, h⟩
  · rw [h, put_self hn ht]
    exact ⟨⟨sel, ⟨ht, ha⟩, rfl, fun h => h⟩, rfl⟩
  · simp [Selection.isAnswered, hs] at ha
  · rw [h]
    exact ⟨⟨_, ⟨task?_put ht, rfl⟩, rfl, by simp [Selection.outcome?, hs]⟩, rfl⟩

/-- A selection that was answered stays so up to where it is dropped, and one that is finished stays
finished. -/
theorem answered_apply (hn : s.Numbered) (h : s.Answered id sel) (hd : e ≠ .drop id) :
    ∃ sel', (s.apply e).Answered id sel' ∧ sel'.seat = sel.seat ∧
      (sel.outcome?.isSome → sel'.outcome?.isSome) := by
  by_cases hid : e.id? = some id
  · cases e <;> simp only [Event.id?, Option.some.injEq, reduceCtorEq] at hid <;> subst hid
    case begin wish => exact ⟨sel, by simpa [apply, h.1] using h, rfl, fun h => h⟩
    case step => exact answered_step h
    case settle id =>
      refine settle_by_steps (P := fun u => ∃ sel', u.Answered id sel' ∧ sel'.seat = sel.seat ∧
        (sel.outcome?.isSome → sel'.outcome?.isSome)) hn ⟨sel, h, rfl, fun h => h⟩ ?_
      rintro u ⟨mid, hmid, hseat, hfin⟩
      obtain ⟨sel', hnext, hseat', hfin'⟩ := answered_step hmid
      exact ⟨sel', hnext, hseat'.trans hseat, fun h => hfin' (hfin h)⟩
    case answer reply => exact (answered_answer hn h reply).1
    case drop => exact absurd rfl hd
  · exact ⟨sel, ⟨(task?_apply_of_ne hid).trans h.1, h.2⟩, rfl, fun h => h⟩

/-- For a control whose holder was answered no texts are left. -/
theorem timersFor_of_answered (hr : s.Reachable) (h : s.Answered id sel)
    (hgo : sel.outcome?.isSome = false) : s.desk.timersFor sel.seat = [] := by
  have hcl := Selection.claims_of_isAnswered h.2 hgo
  obtain ⟨ht, ha⟩ := h
  refine timersFor_eq_nil hr ht (by simpa [Task.claims] using hcl) fun epoch url hs => ?_
  simp [Selection.isAnswered, hs] at ha

theorem outlook_answered_step (h : s.Answered id sel) (hw : s.writes seat (.step id) = false) :
    (s.apply (.step id)).desk.outlook seat = s.desk.outlook seat := by
  obtain ⟨ht, ha⟩ := h
  have hquiet : (Task.selection sel).writes seat = false := by simpa [writes, ht] using hw
  have happly : (s.apply (.step id)).desk = ((Task.selection sel).step s.desk).1 := by
    simp [apply, ht, put]
  rw [happly]
  exact Task.outlook_step (Selection.not_opens_of_isAnswered ha) hquiet

/-- Up to where a selection that was answered tells what came of it, or finishes, nothing is told on
its control. -/
theorem outlook_apply_of_answered (hr : s.Reachable) (h : s.Answered id sel)
    (hgo : sel.outcome?.isSome = false) (he : s.inTime e = true)
    (hw : s.writes sel.seat e = false) (hd : e ≠ .drop id) :
    (s.apply e).desk.outlook sel.seat = s.desk.outlook sel.seat := by
  have hn := (balanced_reachable hr).numbered
  by_cases hid : e.id? = some id
  · cases e <;> simp only [Event.id?, Option.some.injEq, reduceCtorEq] at hid <;> subst hid
    case begin wish => simp [apply, h.1]
    case step => exact outlook_answered_step h hw
    case settle id =>
      refine (settle_unwritten (P := fun u => (∃ sel', u.Answered id sel') ∧
        u.desk.outlook sel.seat = s.desk.outlook sel.seat) ⟨⟨sel, h⟩, rfl⟩ hn ?_ hw).2
      rintro u ⟨⟨mid, hmid⟩, hsame⟩ huw
      obtain ⟨sel', hnext, -⟩ := answered_step hmid
      exact ⟨⟨sel', hnext⟩, (outlook_answered_step hmid huw).trans hsame⟩
    case answer reply => rw [(answered_answer hn h reply).2]
    case drop => exact absurd rfl hd
  · refine outlook_apply_of_ne (balanced_reachable hr) h.1
      (Selection.claims_of_isAnswered h.2 hgo) hid hw ?_
    rintro m rfl hseat
    simp only [inTime, Bool.and_eq_true, decide_eq_true_eq] at he
    have hmem : m ∈ s.desk.timersFor sel.seat := Desk.mem_timersFor.mpr ⟨he.1.1, hseat⟩
    rw [timersFor_of_answered hr h hgo] at hmem
    cases hmem

/-- Throughout a run after the answer no text is left for the control, up to where the selection
finishes, and the text that is shown stays up to where the selection tells what came of it. -/
theorem answered_play (hr : s.Reachable) (h : s.Answered id sel) (hes : ∀ e ∈ es, e.isOpen = true)
    (hd : .drop id ∉ es) : ∃ sel', (s.play es).Answered id sel' ∧ sel'.seat = sel.seat ∧
      (sel'.outcome?.isSome = false → sel.outcome?.isSome = false ∧
        (s.play es).desk.timersFor sel.seat = [] ∧ (s.Undisturbed id sel.seat es →
          (s.play es).desk.feedback? sel.seat = s.desk.feedback? sel.seat)) := by
  induction es generalizing s sel with
  | nil =>
    exact ⟨sel, h, rfl, fun hgo => ⟨hgo, timersFor_of_answered hr h hgo, fun _ => rfl⟩⟩
  | cons e es ih =>
    rw [List.mem_cons, not_or] at hd
    have hopen := hes e List.mem_cons_self
    obtain ⟨mid, hmid, hseat, hfin⟩ :=
      answered_apply (balanced_reachable hr).numbered h (Ne.symm hd.1)
    obtain ⟨sel', hlast, hseat', hrest⟩ :=
      ih (hr.apply hopen) hmid (fun f hf => hes f (List.mem_cons_of_mem e hf)) hd.2
    rw [hseat] at hseat' hrest
    refine ⟨sel', hlast, hseat', fun hgo => ?_⟩
    obtain ⟨hmidgo, hnone, htext⟩ := hrest hgo
    have hselgo : sel.outcome?.isSome = false := by
      cases hs : sel.outcome?.isSome with
      | false => rfl
      | true => simp [hfin hs] at hmidgo
    refine ⟨hselgo, hnone, fun hrun => ?_⟩
    obtain ⟨⟨-, htime, hquiet, hkept⟩, hgoes⟩ := hrun.cons
    have hsame := outlook_apply_of_answered hr h hselgo htime hquiet hkept
    exact (htext hgoes).trans (congrArg (·.1) hsame)

/-- What sends on a control past a bound of epochs does so in every run. -/
theorem past_play (hc : (s.desk.control? seat).isSome) (hle : bound ≤ s.desk.epochAt seat)
    (h : ∀ p ∈ s.tasks, p.2.Meets (Selection.Past bound seat) s.desk) (es : List Event) :
    ∀ p ∈ (s.play es).tasks, p.2.Meets (Selection.Past bound seat) (s.play es).desk := by
  induction es generalizing s with
  | nil => exact h
  | cons e es ih =>
    obtain ⟨c, hcontrol⟩ := Option.isSome_iff_exists.mp hc
    obtain ⟨c', hcontrol'⟩ := (apply_touched s e).exists_control hcontrol
    refine ih (by simp [hcontrol']) (Nat.le_trans hle ((apply_touched s e).epochAt_le seat)) ?_
    refine meets_apply Selection.Step.past ?_ (fun ht hp => hp.touched ht) ?_ h e
    · intro d sel reply hp
      rcases sel.answered_cases d reply with ha | ⟨_, _, _, hs, _, ha⟩ | ⟨_, _, _, hs, _, ha⟩
      · rw [ha]
        exact hp
      · rw [ha]
        exact ⟨hp.1, hp.2.1, by simp [Selection.IsSending]⟩
      · rw [ha]
        exact ⟨hp.1, hp.2.1, by simp [Selection.IsSending]⟩
    · rintro wish sel hsel
      refine ⟨hc, hle, fun _ hs => ?_⟩
      obtain ⟨epoch, hs⟩ := hs
      cases wish <;> simp only [Task.ofWish, Task.selection.injEq, reduceCtorEq] at hsel <;>
        subst hsel <;> simp at hs

/-- A text that is left for a control where all send past a bound is of an epoch past it. -/
theorem epoch_of_past (hr : s.Reachable)
    (h : ∀ p ∈ s.tasks, p.2.Meets (Selection.Past bound seat) s.desk)
    (hm : m ∈ s.desk.timersFor seat) : bound < m.epoch := by
  obtain ⟨hleft, rfl⟩ := Desk.mem_timersFor.mp hm
  obtain ⟨id, t, ht, sel, url, rfl, hseat, hs⟩ := attended_reachable hr m hleft
  have hopens : s.Opens id m.seat m.epoch := ⟨sel, ht, hseat, by simp [Selection.epoch?, hs]⟩
  rw [← (hopens.shows hr).epochAt_eq]
  exact (h _ (mem_of_task? ht) sel rfl).2.2 hseat ⟨_, Or.inr ⟨url, hs⟩⟩

theorem apply_answer_of_sent (ht : s.task? id = some (.selection sel))
    (hs : sel.stage = .sent epoch url) (result : SetResult) :
    s.apply (.answer id (.setState result)) = s.put id (s.desk.stopTimers sel.seat epoch,
      .selection (sel.moveTo (.conclude epoch result))) := by
  simp [apply, ht, Task.answered_of_sent hs]

/-- With the answer to a request nobody sends on its control, and the epoch of the request is the
last one that was opened there. -/
theorem past_of_answer (hr : s.Reachable) (ht : s.task? id = some (.selection sel))
    (hs : sel.stage = .sent epoch url) (result : SetResult) (es : List Event) :
    ∀ p ∈ ((s.apply (.answer id (.setState result))).play es).tasks,
      p.2.Meets (Selection.Past epoch sel.seat)
        ((s.apply (.answer id (.setState result))).play es).desk := by
  have hshows : s.desk.Shows sel.seat epoch :=
    Opens.shows ⟨sel, ht, rfl, by simp [Selection.epoch?, hs]⟩ hr
  obtain ⟨c, hc, -⟩ := hshows.exists_control
  have hcl : (Task.selection sel).claims sel.seat = true := by
    simp [Task.claims, Selection.holdsClaim, hs]
  rw [apply_answer_of_sent ht hs]
  have hcontrol : (((s.put id (s.desk.stopTimers sel.seat epoch,
      .selection (sel.moveTo (.conclude epoch result)))).desk).control? sel.seat).isSome :=
    Option.isSome_iff_exists.mpr ⟨c, hc⟩
  have hepoch : epoch ≤ ((s.put id (s.desk.stopTimers sel.seat epoch,
      .selection (sel.moveTo (.conclude epoch result)))).desk).epochAt sel.seat :=
    Nat.le_of_eq hshows.epochAt_eq.symm
  refine past_play hcontrol hepoch (fun p hp other hother => ?_) es
  refine ⟨hcontrol, hepoch, fun hseat hsending => ?_⟩
  -- Whoever sends there holds the control, but that is the selection that was answered.
  have hclaims : (Task.selection other).claims sel.seat = true := by
    simp [Task.claims, hseat, Selection.holdsClaim_of_isShowing hsending.isShowing]
  obtain ⟨q, hq, rfl⟩ := List.mem_map.mp hp
  split at hother
  · obtain rfl : sel.moveTo (.conclude epoch result) = other := by simpa using hother
    simp [Selection.IsSending] at hsending
  · next hne =>
    have hfree := (balanced_reachable hr).not_claims ht hcl hq hne
    rw [hother, hclaims] at hfree
    cases hfree

/-- In every run a request that was sent and is not answered yet shows, so long as nobody else tells
of its control, the text that is due: of the texts whose delays have passed since it claimed the
control the one with the largest delay, in whatever order the schedule lists them, and before the
first of them that the request has begun. From the answer on none of its texts is told, whatever
happens. None is left for the control up to where the selection finishes, so that throughout the
wait for the graph after a refusal the control shows the text that it showed when the answer came,
up to where somebody tells what came of a request. -/
theorem progress_text_due (hr : s.Reachable) (hdelays : (s.desk.schedule.map (·.1)).Nodup)
    (htakes : s.takes id seat e = true) (hrun : (s.apply e).Undisturbed id seat es)
    (ht : ((s.apply e).play es).task? id = some (.selection sel))
    (hs : sel.stage = .sent epoch url) :
    let u := (s.apply e).play es
    (∃ n, u.desk.now = s.desk.now + n ∧ ((∀ m ∈ u.desk.timersFor seat, u.desk.now < m.due) →
      ((∀ step ∈ s.desk.schedule, n < step.1) →
        u.desk.feedback? seat = some (Feedback.info Feedback.saveStarted)) ∧
      ∀ step ∈ s.desk.schedule, step.1 ≤ n →
        (∀ other ∈ s.desk.schedule, other.1 ≤ n → other.1 ≤ step.1) →
        u.desk.feedback? seat = some (Feedback.info step.2))) ∧
    ∀ result, let r := u.apply (.answer id (.setState result))
      (∀ later, (∀ f ∈ later, f.isOpen) →
        ∀ m ∈ (r.play later).desk.timersFor seat, epoch < m.epoch) ∧
      ∀ later, (∀ f ∈ later, f.isOpen) → .drop id ∉ later →
        ((r.play later).task? id).any Task.isFinished = false →
        (r.play later).desk.timersFor seat = [] ∧
        (r.Undisturbed id seat later →
          (r.play later).desk.feedback? seat = u.desk.feedback? seat) := by
  intro u
  obtain ⟨hone, hpace⟩ := pacing_of_takes hr htakes
  have hu : u.Reachable := hone.play hrun.isOpen
  obtain ⟨sel', ht', hseat, hkept⟩ := pacing_play hone hpace hrun
  obtain rfl : sel = sel' := by simpa using ht.symm.trans ht'
  subst hseat
  have hschedule : u.desk.schedule = s.desk.schedule :=
    (schedule_play _ _).trans (schedule_apply _ _)
  constructor
  · obtain ⟨n, hn⟩ := Nat.exists_eq_add_of_le
      (Nat.le_trans (now_le_apply s e) (now_le_play (s.apply e) es))
    refine ⟨n, hn, fun hdone => ?_⟩
    have hpaced : ∃ last, u.desk.Paced sel.seat epoch s.desk.now last := by
      simpa [Selection.KeepsPace, hs] using hkept
    obtain ⟨last, hpaced⟩ := hpaced
    rw [← hschedule] at hdelays ⊢
    exact hpaced.text hn hdelays hdone
  · intro result r
    have hopen : r.Reachable := hu.apply rfl
    have hput : r = _ := apply_answer_of_sent ht hs result
    have hanswered : r.Answered id (sel.moveTo (.conclude epoch result)) :=
      ⟨hput ▸ task?_put ht, rfl⟩
    have htext : r.desk.feedback? sel.seat = u.desk.feedback? sel.seat := by
      rw [hput]
      rfl
    refine ⟨fun later hlater m hm => ?_, fun later hlater hdrop hgo => ?_⟩
    · exact epoch_of_past (hopen.play hlater) (past_of_answer hu ht hs result later) hm
    · obtain ⟨last, hlast, -, hend⟩ := answered_play hopen hanswered hlater hdrop
      have hgo : last.outcome?.isSome = false := by simpa [hlast.1, Task.isFinished] using hgo
      obtain ⟨-, hnone, hstays⟩ := hend hgo
      exact ⟨hnone, fun hrest => (hstays hrest).trans htext⟩

/-- A page with three texts of progress that are listed in no order, where the order is being
changed. -/
def unordered : Session :=
  (opened { sampleStore with metaUrl := some "/meta" }
    [(900, "Zweitens"), (1700, "Drittens"), (250, "Erstens")] samplePage).play
      [.begin 0 (.select sampleSeat "process")]

/-- The first text is told in time and the second one late, and a change of the payment fails in
between. -/
def inBetween : List Event :=
  [.begin 1 (.select ⟨0, ⟨"10001"⟩, .payment⟩ "pay"), .settle 1, .pass 250,
    .fire ⟨sampleSeat, 1, 250, "Erstens"⟩, .fire ⟨⟨0, ⟨"10001"⟩, .payment⟩, 1, 250, "Erstens"⟩,
    .answer 1 (.setState (.error (.decode "/set-payment"))), .step 1, .settle 1, .pass 750,
    .fire ⟨sampleSeat, 1, 900, "Zweitens"⟩]

/-- The request shows the second text, and goes on to show it while the graph is fetched after a
refusal. -/
theorem progress_text_due_unordered :
    let u := (unordered.apply (.settle 0)).play inBetween
    let r := u.apply (.answer 0 (.setState (.ok ⟨409, ⟨true, none, none, none, none⟩⟩)))
    u.desk.now = 1000 ∧ u.desk.feedback? sampleSeat = some (Feedback.info "Zweitens") ∧
    (r.play [.settle 0, .pass 5000]).desk.timersFor sampleSeat = [] ∧
    (r.play [.settle 0, .pass 5000]).desk.feedback? sampleSeat =
      some (Feedback.info "Zweitens") := by
  intro u r
  have hr : unordered.Reachable := ⟨_, _, _, _, by decide, rfl⟩
  have hrun : (unordered.apply (.settle 0)).Undisturbed 0 sampleSeat inBetween :=
    ⟨by decide, by decide, by decide, by simp [inBetween]⟩
  have ht : u.task? 0 = some (.selection ⟨sampleSeat, "process",
    samplePage.map fun x => ⟨0, x.order, x.scope⟩, .sent 1 "/set-order"⟩) := rfl
  obtain ⟨⟨n, hn, hdue⟩, hafter⟩ := progress_text_due hr (by decide) (by decide) hrun ht rfl
  have hpassed : 1000 = 0 + n := hn
  obtain rfl : n = 1000 := by omega
  have htext := (hdue (by decide)).2 (900, "Zweitens") (by decide) (by decide) (by decide)
  obtain ⟨hnone, hstays⟩ := (hafter (.ok ⟨409, ⟨true, none, none, none, none⟩⟩)).2
    [.settle 0, .pass 5000] (by decide) (by simp) (by decide)
  have hwait : r.Undisturbed 0 sampleSeat [.settle 0, .pass 5000] :=
    ⟨by decide, by decide, by decide, by simp⟩
  exact ⟨hn, htext, hnone, (hstays hwait).trans htext⟩

end Session
end OrderDesk
