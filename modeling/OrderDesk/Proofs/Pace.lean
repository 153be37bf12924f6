import OrderDesk.Proofs.Bystander
import OrderDesk.Proofs.Indicator

/-! The pace of a request. From its claim up to the answer the text next to its control is the last
one of the schedule that was told, and those that come after it are left to be told; what keeps this
is that the clock stands still until the request is sent, and that the texts are told in turn. -/
namespace OrderDesk

variable {d d' : Desk} {s : Session} {sel : Selection} {t : Task} {g : Stage} {id epoch since : Nat}
  {seat : Seat} {m : Timer} {e : Event} {es : List Event} {last step : Nat × String} {bound : Nat}

/-- The timer that tells a step of the schedule to a control. -/
def Timer.ofStep (seat : Seat) (epoch since : Nat) (step : Nat × String) : Timer :=
  ⟨seat, epoch, since + step.1, step.2⟩

namespace Desk

theorem timersFor_fire (d : Desk) (m : Timer) (seat : Seat) :
    (d.fire m).timersFor seat = (d.timersFor seat).erase m := List.erase_filter.symm

/-- A text of the epoch that a control shows is told there. -/
theorem feedback?_fire (h : d.Shows m.seat m.epoch) :
    (d.fire m).feedback? m.seat = some (Feedback.info m.text) := by
  obtain ⟨c, hc, hp, he⟩ := h.exists_control
  have hwants : c.wantsProgress m.epoch = true := by simp [Control.wantsProgress, hp, he]
  change ((d.touch m.seat (.progress m.epoch m.text)).control? m.seat).bind (·.feedback) = _
  simp [control?_touch, hc, Control.touch, hwants]

/-- A control shows a text of the schedule, or that with which a request begins, and the texts that
are left for it are those that come after it. -/
structure Paced (d : Desk) (seat : Seat) (epoch since : Nat) (last : Nat × String) : Prop where
  shown : d.feedback? seat = some (Feedback.info last.2)
  begun : last ∈ d.schedule ∨ last = (0, Feedback.saveStarted)
  told : since + last.1 ≤ d.now
  left : ∀ m ∈ d.timersFor seat, since + last.1 ≤ m.due ∧
    ∃ step ∈ d.schedule, m = .ofStep seat epoch since step
  past : ∀ step ∈ d.schedule, Timer.ofStep seat epoch since step ∈ d.timersFor seat ∨
    last ∈ d.schedule ∧ step.1 ≤ last.1

/-- The text stays as time passes, where nothing else happens that is seen on the control. -/
theorem Paced.later (h : d.Paced seat epoch since last) (ho : d'.outlook seat = d.outlook seat)
    (hs : d'.schedule = d.schedule) (hn : d.now ≤ d'.now) : d'.Paced seat epoch since last := by
  obtain ⟨htext, htimers⟩ := Prod.ext_iff.mp ho
  have htimers : d'.timersFor seat = d.timersFor seat := htimers
  refine ⟨htext.trans h.shown, hs ▸ h.begun, Nat.le_trans h.told hn, ?_, ?_⟩
  · rw [htimers, hs]
    exact h.left
  · rw [htimers, hs]
    exact h.past

/-- The first text that is left is the next to be shown. -/
theorem Paced.fire (h : d.Paced seat epoch since last) (hshows : d.Shows seat epoch)
    (hm : m ∈ d.timersFor seat) (hdue : m.due ≤ d.now)
    (hfirst : ∀ other ∈ d.timersFor seat, m.due ≤ other.due) :
    ∃ step, (d.fire m).Paced seat epoch since step := by
  obtain ⟨hlast, step, hstep, rfl⟩ := h.left m hm
  refine ⟨step, feedback?_fire hshows, Or.inl hstep, hdue, ?_, fun other hother => ?_⟩
  · intro other hother
    rw [timersFor_fire] at hother
    have hold := List.mem_of_mem_erase hother
    exact ⟨hfirst other hold, (h.left other hold).2⟩
  · rw [timersFor_fire]
    rcases h.past other hother with hleft | ⟨-, hle⟩
    · by_cases hsame : Timer.ofStep seat epoch since other = .ofStep seat epoch since step
      · have hdelay : since + other.1 = since + step.1 := congrArg Timer.due hsame
        exact Or.inr ⟨hstep, by omega⟩
      · exact Or.inl ((List.mem_erase_of_ne hsame).mpr hleft)
    · have hlast : since + last.1 ≤ since + step.1 := hlast
      exact Or.inr ⟨hstep, by omega⟩

/-- The request goes out with all texts of the schedule before it. -/
theorem paced_startTimers (epoch : Nat) (hn : d.now = since)
    (htext : d.feedback? seat = some (Feedback.info Feedback.saveStarted))
    (hnone : d.timersFor seat = []) :
    (d.startTimers seat epoch).Paced seat epoch since (0, Feedback.saveStarted) := by
  have hleft : (d.startTimers seat epoch).timersFor seat =
      d.schedule.map (.ofStep seat epoch since) := by
    have hall : (d.schedule.map (Timer.ofStep seat epoch since)).filter (·.seat = seat) =
        d.schedule.map (.ofStep seat epoch since) := by
      refine List.filter_eq_self.mpr fun m hm => ?_
      obtain ⟨step, -, rfl⟩ := List.mem_map.mp hm
      simp [Timer.ofStep]
    rw [← hn] at hall ⊢
    change (d.timers ++ _).filter _ = _
    rw [List.filter_append]
    exact (congrArg₂ (· ++ ·) hnone hall).trans (List.nil_append _)
  refine ⟨htext, Or.inr rfl, Nat.le_of_eq hn.symm, fun m hm => ?_, fun step hstep => ?_⟩
  · rw [hleft] at hm
    obtain ⟨step, hstep, rfl⟩ := List.mem_map.mp hm
    exact ⟨Nat.le_add_right _ _, step, hstep, rfl⟩
  · rw [hleft]
    exact Or.inl (List.mem_map_of_mem hstep)

/-- When nothing is due any more, the text that is shown is the one with the largest delay of those
that came due. -/
theorem Paced.text {n : Nat} (h : d.Paced seat epoch since last) (hn : d.now = since + n)
    (hdelays : (d.schedule.map (·.1)).Nodup) (hdone : ∀ m ∈ d.timersFor seat, d.now < m.due) :
    ((∀ step ∈ d.schedule, n < step.1) →
      d.feedback? seat = some (Feedback.info Feedback.saveStarted)) ∧
    ∀ step ∈ d.schedule, step.1 ≤ n → (∀ other ∈ d.schedule, other.1 ≤ n → other.1 ≤ step.1) →
      d.feedback? seat = some (Feedback.info step.2) := by
  have htold := h.told
  constructor
  · intro hnone
    rcases h.begun with hlast | rfl
    · have := hnone last hlast
      omega
    · exact h.shown
  · intro step hstep hle hmax
    rcases h.past step hstep with hleft | ⟨hlast, hpast⟩
    · have hlate : d.now < since + step.1 := hdone _ hleft
      omega
    · have hdelay : last.1 = step.1 := Nat.le_antisymm (hmax last hlast (by omega)) hpast
      have hsame : last = step := List.inj_on_of_nodup_map hdelays hlast hstep hdelay
      exact hsame ▸ h.shown

end Desk

namespace Selection

/-- How the text next to its control stands with a selection that has claimed it at a time, or is
about to, up to where its request is answered. -/
def KeepsPace (since : Nat) (d : Desk) (s : Selection) : Prop :=
  match s.stage with
  | .look | .peek | .freshen _ | .claim | .choose | .announce => d.now = since
  | .send _ =>
    d.now = since ∧ d.feedback? s.seat = some (Feedback.info Feedback.saveStarted)
  | .sent epoch _ => ∃ last, d.Paced s.seat epoch since last
  | _ => True

theorem Step.keepsPace (h : Step d sel d' g) (hk : sel.KeepsPace since d)
    (hfound : sel.stage = .announce → (d.control? sel.seat).isSome)
    (hnone : ∀ epoch, sel.stage = .send epoch → d.timersFor sel.seat = []) :
    (sel.moveTo g).KeepsPace since d' := by
  cases h with
  | announce hs =>
    obtain ⟨c, hc⟩ := Option.isSome_iff_exists.mp (hfound hs)
    have hn : d.now = since := by simpa [KeepsPace, hs] using hk
    exact ⟨hn, by simp [Desk.feedback?, Desk.control?_touch, hc, Control.touch]⟩
  | @send epoch url hs =>
    have hbegun : d.now = since ∧
        d.feedback? sel.seat = some (Feedback.info Feedback.saveStarted) := by
      simpa [KeepsPace, hs] using hk
    have hpaced := Desk.paced_startTimers epoch hbegun.1 hbegun.2 (hnone _ hs)
    exact ⟨_, hpaced.later rfl rfl (Nat.le_refl _)⟩
  | _ => simp_all [KeepsPace, success, refusal, explanation, Desk.touch]

end Selection

namespace Session

/-- Each event of a run is one that is allowed where it happens. -/
def along (ok : Session → Event → Bool) (s : Session) : List Event → Bool
  | [] => true
  | e :: es => ok s e && (s.apply e).along ok es

/-- An event in time: the clock moves on only while all tasks rest, and of the texts that are left
for a control the first is told, when it is due or later. -/
def inTime (s : Session) : Event → Bool
  | .pass _ => s.tasks.all (·.2.rests)
  | .fire m => m ∈ s.desk.timers && m.due ≤ s.desk.now &&
      (s.desk.timersFor m.seat).all fun other => m.due ≤ other.due
  | _ => true

/-- A run in time that does not drop a task and in which nobody else writes the text next to a
control. -/
structure Undisturbed (s : Session) (id : Nat) (seat : Seat) (es : List Event) : Prop where
  isOpen : ∀ e ∈ es, e.isOpen = true
  inTime : s.along inTime es = true
  unwritten : s.along (fun s e => !s.writes seat e) es = true
  kept : .drop id ∉ es

theorem Undisturbed.cons (h : s.Undisturbed id seat (e :: es)) :
    (e.isOpen = true ∧ s.inTime e = true ∧ s.writes seat e = false ∧ e ≠ .drop id) ∧
      (s.apply e).Undisturbed id seat es := by
  obtain ⟨hopen, htime, hquiet, hkept⟩ := h
  simp only [along, Bool.and_eq_true, Bool.not_eq_true'] at htime hquiet
  rw [List.mem_cons, not_or] at hkept
  exact ⟨⟨hopen e List.mem_cons_self, htime.1, hquiet.1, Ne.symm hkept.1⟩,
    fun f hf => hopen f (List.mem_cons_of_mem e hf), htime.2, hquiet.2, hkept.2⟩

/-- A task is a selection on a control that keeps pace since a time. -/
def Pacing (s : Session) (id : Nat) (seat : Seat) (since : Nat) : Prop :=
  ∃ sel, s.task? id = some (.selection sel) ∧ sel.seat = seat ∧ sel.KeepsPace since s.desk

/-- For a control that a selection holds no texts are left before it waits for its answer. -/
theorem timersFor_eq_nil (hr : s.Reachable) (ht : s.task? id = some (.selection sel))
    (hc : sel.holdsClaim = true) (hs : ∀ epoch url, sel.stage ≠ .sent epoch url) :
    s.desk.timersFor sel.seat = [] := by
  refine List.eq_nil_iff_forall_not_mem.mpr fun m hm => ?_
  obtain ⟨hm, hseat⟩ := Desk.mem_timersFor.mp hm
  have hcl : (Task.selection sel).claims m.seat = true := by simp [Task.claims, hseat, hc]
  obtain ⟨_, url, ⟨⟩, -, hsent⟩ :=
    (attended_reachable hr).of_claims (balanced_reachable hr) ht hcl hm
  exact hs _ _ hsent

theorem pacing_step (hr : s.Reachable) (hk : s.Pacing id seat since) :
    (s.apply (.step id)).Pacing id seat since := by
  obtain ⟨sel, ht, hseat, hpace⟩ := hk
  obtain ⟨d', g, h, happly⟩ := apply_step_selection ht
  rw [happly]
  refine ⟨sel.moveTo g, task?_put ht, hseat, h.keepsPace hpace (fun hs => ?_) fun epoch hs => ?_⟩
  · have hcl : (Task.selection sel).claims sel.seat = true := by
      simp [Task.claims, Selection.holdsClaim, hs]
    have hbusy := (balanced_reachable hr).busy (mem_of_task? ht) hcl
    cases hc : s.desk.control? sel.seat with
    | none => simp [Desk.isBusy, hc] at hbusy
    | some c => rfl
  · exact timersFor_eq_nil hr ht (by simp [Selection.holdsClaim, hs]) (by simp [hs])

theorem pacing_settle (hr : s.Reachable) (hk : s.Pacing id seat since) :
    (s.apply (.settle id)).Pacing id seat since := by
  refine (settle_by_steps (P := fun u => u.Reachable ∧ u.Pacing id seat since)
    (balanced_reachable hr).numbered ⟨hr, hk⟩ ?_).2
  exact fun u hu => ⟨hu.1.apply rfl, pacing_step hu.1 hu.2⟩

theorem now_le_apply (s : Session) (e : Event) : s.desk.now ≤ (s.apply e).desk.now := by
  rw [now_apply]
  cases e <;> simp [Event.clock]

theorem now_le_play (s : Session) (es : List Event) : s.desk.now ≤ (s.play es).desk.now :=
  List.foldlRecOn (motive := fun u => s.desk.now ≤ u.desk.now) es apply (Nat.le_refl _)
    fun u hu e _ => Nat.le_trans hu (u.now_le_apply e)

/-- The first text that is left for a control is told there. -/
theorem pacing_fire (hr : s.Reachable) (ht : s.task? id = some (.selection sel))
    (hpace : sel.KeepsPace since s.desk) (hc : sel.holdsClaim = true) (hm : m ∈ s.desk.timers)
    (hseat : m.seat = sel.seat) (hdue : m.due ≤ s.desk.now)
    (hfirst : ∀ other ∈ s.desk.timersFor sel.seat, m.due ≤ other.due) :
    sel.KeepsPace since (s.desk.fire m) := by
  have hcl : (Task.selection sel).claims m.seat = true := by simp [Task.claims, hseat, hc]
  obtain ⟨_, url, ⟨⟩, -, hs⟩ :=
    (attended_reachable hr).of_claims (balanced_reachable hr) ht hcl hm
  have hopens : s.Opens id sel.seat m.epoch :=
    ⟨sel, ht, rfl, by simp [Selection.epoch?, hs]⟩
  have hpaced : ∃ last, s.desk.Paced sel.seat m.epoch since last := by
    simpa [Selection.KeepsPace, hs] using hpace
  obtain ⟨last, hpaced⟩ := hpaced
  simpa [Selection.KeepsPace, hs] using hpaced.fire (hopens.shows hr)
    (Desk.mem_timersFor.mpr ⟨hm, hseat⟩) hdue hfirst

/-- What else happens does not put a selection out of its pace. -/
theorem keepsPace_of_outlook (hp : sel.KeepsPace since d)
    (ho : sel.holdsClaim = true → d'.outlook sel.seat = d.outlook sel.seat)
    (hs : d'.schedule = d.schedule) (hle : d.now ≤ d'.now)
    (hn : (Task.selection sel).rests = false → d'.now = d.now) : sel.KeepsPace since d' := by
  unfold Selection.KeepsPace at hp ⊢
  cases hstage : sel.stage with
  | sent epoch url =>
    obtain ⟨last, hpaced⟩ : ∃ last, d.Paced sel.seat epoch since last := by simpa [hstage] using hp
    exact ⟨last, hpaced.later (ho (by simp [Selection.holdsClaim, hstage])) hs hle⟩
  | send epoch =>
    have hsame := ho (by simp [Selection.holdsClaim, hstage])
    have htext : d'.feedback? sel.seat = d.feedback? sel.seat := (Prod.ext_iff.mp hsame).1
    have hnow := hn (by simp [Task.rests, Task.awaits, Task.isFinished, Selection.awaits,
      Selection.outcome?, hstage])
    simpa [hstage, hnow, htext] using hp
  | look | peek | freshen | claim | choose | announce =>
    have hnow := hn (by simp [Task.rests, Task.awaits, Task.isFinished, Selection.awaits,
      Selection.outcome?, hstage])
    simpa [hstage, hnow] using hp
  | _ => trivial

theorem pacing_answer (hn : s.Numbered) (hk : s.Pacing id seat since) (reply : Reply) :
    (s.apply (.answer id reply)).Pacing id seat since := by
  obtain ⟨sel, ht, hseat, hpace⟩ := hk
  rw [apply_answer_selection ht]
  rcases sel.answered_cases s.desk reply with ha | ⟨_, _, _, _, _, ha⟩ | ⟨_, _, _, _, _, ha⟩
  · rw [ha, put_self hn ht]
    exact ⟨sel, ht, hseat, hpace⟩
  · rw [ha]
    exact ⟨_, task?_put ht, hseat, trivial⟩
  · rw [ha]
    exact ⟨_, task?_put ht, hseat, trivial⟩

/-- Time does not pass while a task goes on. -/
theorem now_apply_of_not_rests (ht : s.task? id = some t) (hr : t.rests = false)
    (he : s.inTime e = true) : (s.apply e).desk.now = s.desk.now := by
  rw [now_apply]
  cases e with
  | pass time =>
    have hall := List.all_eq_true.mp he _ (mem_of_task? ht)
    simp [hr] at hall
  | _ => rfl

/-- A selection keeps its pace with each event of an undisturbed run. -/
theorem pacing_apply (hr : s.Reachable) (hk : s.Pacing id seat since) (he : s.inTime e = true)
    (hw : s.writes seat e = false) (hd : e ≠ .drop id) : (s.apply e).Pacing id seat since := by
  have hb := balanced_reachable hr
  by_cases hid : e.id? = some id
  · cases e <;> simp only [Event.id?, Option.some.injEq, reduceCtorEq] at hid <;> subst hid
    case begin wish =>
      obtain ⟨sel, ht, hpace⟩ := hk
      simpa [apply, ht] using ⟨sel, ht, hpace⟩
    case step => exact pacing_step hr hk
    case settle => exact pacing_settle hr hk
    case answer reply => exact pacing_answer hb.numbered hk reply
    case drop => exact absurd rfl hd
  · obtain ⟨sel, ht, rfl, hpace⟩ := hk
    refine ⟨sel, (task?_apply_of_ne hid).trans ht, rfl, ?_⟩
    by_cases hown : sel.holdsClaim = true ∧ ∃ m, e = .fire m ∧ m.seat = sel.seat
    · obtain ⟨hc, m, rfl, hseat⟩ := hown
      simp only [inTime, Bool.and_eq_true, decide_eq_true_eq, List.all_eq_true] at he
      exact pacing_fire hr ht hpace hc he.1.1 hseat he.1.2 (hseat ▸ he.2)
    · refine keepsPace_of_outlook hpace (fun hc => ?_) (schedule_apply s e) (now_le_apply s e)
        fun hrest => now_apply_of_not_rests ht hrest he
      have hcl : (Task.selection sel).claims sel.seat = true := by simp [Task.claims, hc]
      exact outlook_apply_of_ne hb ht hcl hid hw fun m hm hseat => hown ⟨hc, m, hm, hseat⟩

/-- A selection keeps its pace throughout an undisturbed run. -/
theorem pacing_play (hr : s.Reachable) (hk : s.Pacing id seat since)
    (hrun : s.Undisturbed id seat es) : (s.play es).Pacing id seat since := by
  induction es generalizing s with
  | nil => exact hk
  | cons e es ih =>
    obtain ⟨⟨hopen, htime, hquiet, hkept⟩, hrest⟩ := hrun.cons
    exact ih (hr.apply hopen) (pacing_apply hr hk htime hquiet hkept) hrest

/-- Whether a task claims a control with an event. -/
def takes (s : Session) (id : Nat) (seat : Seat) (e : Event) : Bool :=
  !(s.task? id).any (Task.claims seat) && ((s.apply e).task? id).any (Task.claims seat)

/-- An event with which a task claims a control lets it go on. -/
theorem isStep_of_takes (h : s.takes id seat e = true) :
    (e = .step id ∨ e = .settle id) ∧ ∃ t, s.task? id = some t ∧ t.claims seat = false ∧
      ((s.apply e).task? id).any (Task.claims seat) = true := by
  obtain ⟨hfree, hheld⟩ : (s.task? id).any (Task.claims seat) = false ∧
      ((s.apply e).task? id).any (Task.claims seat) = true := by
    simpa [takes] using h
  have hid : e.id? = some id := by
    refine Decidable.byContradiction fun hne => ?_
    rw [task?_apply_of_ne hne, hfree] at hheld
    cases hheld
  cases ht : s.task? id with
  | none =>
    cases e <;> simp only [Event.id?, Option.some.injEq, reduceCtorEq] at hid <;> subst hid
    case begin wish => simp [task?_begin ht, (Task.ofWish_idle s.desk wish seat).1] at hheld
    all_goals simp [apply, ht] at hheld
  | some t =>
    have hidle : t.claims seat = false := by simpa [ht] using hfree
    refine ⟨?_, t, rfl, hidle, hheld⟩
    cases e <;> simp only [Event.id?, Option.some.injEq, reduceCtorEq] at hid <;> subst hid
    case begin wish => simp [apply, ht, hidle] at hheld
    case step => exact Or.inl rfl
    case settle => exact Or.inr rfl
    case answer reply =>
      have hsame := (t.answered_frame s.desk reply seat).2.1
      simp [apply, ht, task?_put ht, hsame, hidle] at hheld
    case drop id =>
      have hgone : (s.apply (.drop id)).task? id = none := by
        simp only [apply, ht, Option.elim_some]
        simp [task?, remove, List.find?_filter]
      simp [hgone] at hheld

/-- What claims a control as it goes on is a selection on it. -/
theorem exists_of_takes (h : s.takes id seat e = true) :
    (e = .step id ∨ e = .settle id) ∧ ∃ sel, s.task? id = some (.selection sel) ∧
      sel.seat = seat ∧ sel.holdsClaim = false := by
  obtain ⟨he, t, ht, hidle, hheld⟩ := isStep_of_takes h
  refine ⟨he, ?_⟩
  by_cases hother : t.Meets (fun _ sel => sel.seat ≠ seat) s.desk
  · have hnone : ∀ r : Desk × Task, r.2.Meets (fun _ sel => sel.seat ≠ seat) r.1 →
        r.2.claims seat = false := by
      rintro ⟨d, u⟩ hu
      cases u with
      | selection sel => simp [Task.claims, hu sel rfl]
      | _ => rfl
    rcases he with rfl | rfl
    · have hgone := hnone _ (Task.meets_step (fun _ h => h) hother)
      simp [apply, ht, task?_put ht, hgone] at hheld
    · have hgone := hnone _ (Task.meets_settle (fun _ h => h) hother)
      simp [apply, ht, task?_put ht, hgone] at hheld
  · simp only [Task.Meets, not_forall, not_not] at hother
    obtain ⟨sel, rfl, hseat⟩ := hother
    exact ⟨sel, ht, hseat, by simpa [Task.claims, hseat] using hidle⟩

/-- A selection keeps pace since the time at which it claims its control. -/
theorem pacing_of_takes (hr : s.Reachable) (h : s.takes id seat e = true) :
    (s.apply e).Reachable ∧ (s.apply e).Pacing id seat s.desk.now := by
  obtain ⟨he, sel, ht, hseat, hfree⟩ := exists_of_takes h
  have hpace : s.Pacing id seat s.desk.now := by
    refine ⟨sel, ht, hseat, ?_⟩
    cases hs : sel.stage <;> simp_all [Selection.KeepsPace, Selection.holdsClaim]
  rcases he with rfl | rfl
  · exact ⟨hr.apply rfl, pacing_step hr hpace⟩
  · exact ⟨hr.apply rfl, pacing_settle hr hpace⟩

end Session
end OrderDesk
