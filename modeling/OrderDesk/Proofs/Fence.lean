import OrderDesk.Proofs.Frame

/-! The fence between the texts of progress of one request and those of another. Texts may be told
at any time or never; an epoch that a request closed stays closed, because epochs only go up and no
one but the request that holds a control opens or closes one. -/
namespace OrderDesk

variable {s : Session} {id : Nat} {e : Event} {es : List Event} {d : Desk} {sel : Selection}
  {seat : Seat} {epoch : Nat}

/-- The epoch of progress that a selection opened and has not closed. -/
def Selection.epoch? (s : Selection) : Option Nat :=
  match s.stage with
  | .send epoch | .sent epoch _ | .conclude epoch _ => some epoch
  | _ => none

/-- A text of progress of an epoch is refused, and the control is left as it is. -/
def Control.Refuses (c : Control) (epoch : Nat) : Prop :=
  c.wantsProgress epoch = false ∧ ∀ text, c.touch (.progress epoch text) = c

theorem Control.refuses_of_ne {c : Control} (h : c.epoch ≠ epoch) : c.Refuses epoch := by
  have hw : c.wantsProgress epoch = false := by simp [Control.wantsProgress, h]
  exact ⟨hw, fun text => by simp [Control.touch, hw]⟩

/-- The control in a seat shows the progress of an epoch. -/
def Desk.Shows (d : Desk) (seat : Seat) (epoch : Nat) : Prop :=
  ∃ h, d.hold? seat = some h ∧ h.progress = true ∧ h.epoch = epoch

theorem Desk.Shows.exists_control (h : d.Shows seat epoch) :
    ∃ c, d.control? seat = some c ∧ c.progress = true ∧ c.epoch = epoch := by
  obtain ⟨k, hk, hp, he⟩ := h
  obtain ⟨c, hc, rfl⟩ := Option.map_eq_some_iff.mp hk
  exact ⟨c, hc, hp, he⟩

theorem Desk.Shows.epochAt_eq (h : d.Shows seat epoch) : d.epochAt seat = epoch := by
  obtain ⟨k, hk, _, he⟩ := h
  simp [Desk.epochAt, hk, he]

namespace Selection

theorem holdsClaim_of_epoch? (h : sel.epoch? = some epoch) : sel.holdsClaim = true := by
  unfold epoch? at h
  split at h <;> simp_all [holdsClaim]

/-- A control shows the progress of the selection that has opened an epoch on it. -/
def Fenced (s : Selection) (h : Hold) : Prop :=
  ∀ epoch, s.epoch? = some epoch → h.progress = true ∧ h.epoch = epoch

/-- The step that opens an epoch shows it, and up to the step that closes it nothing changes
that. -/
theorem fenced_kept : Kept Fenced Touch.isOpen where
  step := by
    intro d s d' g k k' h hk hk' hs epoch he
    have hold : ∀ epoch, s.epoch? = some epoch → k.progress = true ∧ k.epoch = epoch :=
      fun epoch he => hs (holdsClaim_of_epoch? he) epoch he
    cases h with
    | announce hstage =>
      simp only [Desk.hold?_touch, hk, if_true, Option.map_some, Option.some.injEq] at hk'
      subst hk'
      obtain ⟨c, hcontrol, rfl⟩ := Option.map_eq_some_iff.mp hk
      simp only [epoch?, moveTo_stage, Desk.control?_touch, hcontrol, Option.map_some, if_true,
        Option.elim_some, Option.some.injEq] at he
      exact ⟨rfl, he⟩
    | send hstage hu =>
      obtain rfl : k = k' := Option.some.inj (hk.symm.trans hk')
      exact hold epoch (by simpa [epoch?, hstage] using he)
    | wait hstage =>
      obtain rfl : k = k' := Option.some.inj (hk.symm.trans hk')
      exact hold epoch (by simpa [epoch?, hstage] using he)
    | _ => simp_all [epoch?, success, refusal, explanation]
  conclude := by
    intro s h epoch url result hstage hf epoch' he
    exact hf epoch' (by simpa [epoch?, hstage] using he)
  fetched := by
    intro s h refused url result hstage hf epoch he
    simp [epoch?] at he
  touch := by
    intro s h u hu hf epoch he
    obtain ⟨hp, hepoch⟩ :=
      Hold.touch_of_not_movesProgress (h := h) (Touch.not_movesProgress_of_isOpen hu)
    exact ⟨hp.trans (hf epoch he).1, hepoch.trans (hf epoch he).2⟩

end Selection

namespace Session

theorem fenced_reachable (h : s.Reachable) : s.Has Selection.Fenced := by
  obtain ⟨store, schedule, ds, es, hes, rfl⟩ := h
  exact has_play Selection.fenced_kept (fun _ he => he) (fun _ _ hu => hu)
    (balanced_opened store schedule ds) (has_opened store schedule ds) hes

/-- A task has opened an epoch of progress on a control and has not closed it. -/
def Opens (s : Session) (id : Nat) (seat : Seat) (epoch : Nat) : Prop :=
  ∃ sel, s.task? id = some (.selection sel) ∧ sel.seat = seat ∧ sel.epoch? = some epoch

/-- An event by which a task closes its epoch of progress on a control. -/
def Closes (s : Session) (id : Nat) (seat : Seat) (e : Event) : Prop :=
  (e = .step id ∨ e = .settle id) ∧ ∃ sel epoch result,
    s.task? id = some (.selection sel) ∧ sel.seat = seat ∧ sel.stage = .conclude epoch result

theorem Reachable.play (h : s.Reachable) (hes : ∀ e ∈ es, e.isOpen) : (s.play es).Reachable := by
  obtain ⟨store, schedule, ds, fs, hfs, rfl⟩ := h
  refine ⟨store, schedule, ds, fs ++ es, ?_, (play_append _ _ _).symm⟩
  intro e he
  rcases List.mem_append.mp he with he | he
  · exact hfs e he
  · exact hes e he

theorem Reachable.apply (h : s.Reachable) (he : e.isOpen = true) : (s.apply e).Reachable := by
  have hone : ∀ f ∈ [e], f.isOpen = true := by simpa using he
  exact h.play hone

theorem Closes.opens (h : s.Closes id seat e) : ∃ epoch, s.Opens id seat epoch := by
  obtain ⟨-, sel, epoch, result, ht, hseat, hs⟩ := h
  exact ⟨epoch, sel, ht, hseat, by simp [Selection.epoch?, hs]⟩

theorem Opens.shows (h : s.Opens id seat epoch) (hs : s.Reachable) : s.desk.Shows seat epoch := by
  obtain ⟨sel, ht, rfl, he⟩ := h
  obtain ⟨k, hk, hf⟩ :=
    fenced_reachable hs id sel (mem_of_task? ht) (Selection.holdsClaim_of_epoch? he)
  exact ⟨k, hk, (hf epoch he).1, (hf epoch he).2⟩

/-- Closing an epoch puts the control past it. -/
theorem Closes.epochAt_lt (h : s.Closes id seat e) (hs : s.desk.Shows seat epoch) :
    epoch < (s.apply e).desk.epochAt seat := by
  obtain ⟨hev, sel, epoch', result, ht, rfl, hstage⟩ := h
  obtain ⟨k, hk, -, hke⟩ := hs
  have hstep : epoch < ((Task.selection sel).step s.desk).1.epochAt sel.seat := by
    simp [Task.step, Selection.step, hstage, Desk.epochAt, hk, Hold.touch, hke]
  rcases hev with rfl | rfl
  · simpa [apply, ht, put] using hstep
  · have hrests : (Task.selection sel).rests = false := by
      simp [Task.rests, Task.awaits, Task.isFinished, Selection.awaits, Selection.outcome?, hstage]
    have hrank : (Task.selection sel).rank s.desk = (2 * sel.seats.length + 19) + 1 := by
      simp [Task.rank, Selection.rank, hstage]
    have hon := Task.settleWithin_touched (2 * sel.seats.length + 19)
      ((Task.selection sel).step s.desk).1 ((Task.selection sel).step s.desk).2
    have hle := Nat.lt_of_lt_of_le hstep (hon.epochAt_le sel.seat)
    simpa [apply, ht, put, Task.settle, hrank, Task.settleWithin, hrests] using hle

/-- While a request has its progress open, no text of another epoch is told. When it has closed it,
no text of its epoch or of one that was open before is told at any time. -/
theorem progress_fence (h : s.Reachable) (ho : s.Opens id seat epoch) :
    (∃ c, s.desk.control? seat = some c ∧ c.wantsProgress epoch = true ∧
      ∀ other ≠ epoch, c.Refuses other) ∧
    ∀ es last e later, (∀ e ∈ es, e.isOpen) → (∀ e ∈ later, e.isOpen) →
      (s.play es).Closes last seat e →
      ∃ c, (((s.play es).apply e).play later).desk.control? seat = some c ∧
        ∀ old ≤ epoch, c.Refuses old := by
  have hshows := ho.shows h
  obtain ⟨c, hc, hp, hce⟩ := hshows.exists_control
  constructor
  · refine ⟨c, hc, by simp [Control.wantsProgress, hp, hce], fun other hne => ?_⟩
    exact Control.refuses_of_ne (by rw [hce]; exact hne.symm)
  · intro es last e later hes hlater hcl
    obtain ⟨epoch', hopen⟩ := hcl.opens
    have hshows' := hopen.shows (h.play hes)
    have hle : epoch ≤ epoch' := by
      rw [← hshows.epochAt_eq, ← hshows'.epochAt_eq]
      exact (s.play_touched es).epochAt_le seat
    have hlt := hcl.epochAt_lt hshows'
    have hgo := ((s.play es).apply e).play_touched later
    have hend := hgo.epochAt_le seat
    have hon := ((s.play_touched es).trans (apply_touched _ e)).trans hgo
    obtain ⟨c', hc'⟩ := hon.exists_control hc
    refine ⟨c', hc', fun old hold => Control.refuses_of_ne ?_⟩
    have hce' : (((s.play es).apply e).play later).desk.epochAt seat = c'.epoch := by
      simp [Desk.epochAt, Desk.hold?, hc', Control.hold]
    omega

/-- One request fails, and another one opens an epoch of its own. -/
theorem progress_fence_contention :
    (∃ c, (sample.play contention).desk.control? sampleSeat = some c ∧
      c.wantsProgress 1 = true ∧ ∀ other ≠ 1, c.Refuses other) ∧
    ∃ c, ((((sample.play contention).play [.answer 0 (.setState (.error (.decode "/set")))]).apply
        (.settle 0)).play [.begin 2 (.select sampleSeat "cancel"), .settle 2]).desk.control?
          sampleSeat = some c ∧
      ∀ old ≤ 1, c.Refuses old := by
  have hr := reachable_sample contention (by decide)
  have ho : (sample.play contention).Opens 0 sampleSeat 1 := ⟨_, rfl, rfl, rfl⟩
  have hc : ((sample.play contention).play [.answer 0 (.setState (.error (.decode "/set")))]).Closes
      0 sampleSeat (.settle 0) := ⟨Or.inr rfl, _, _, _, rfl, rfl, rfl⟩
  exact ⟨(progress_fence hr ho).1,
    (progress_fence hr ho).2 _ 0 (.settle 0) _ (by decide) (by decide) hc⟩

end Session
end OrderDesk
