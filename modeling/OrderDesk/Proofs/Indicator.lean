import OrderDesk.Proofs.Fence
import OrderDesk.Proofs.Turn

/-! When a control shows progress. A selection shows it before it first waits and hides it as it
finishes; one that is dropped in between leaves it behind, for the next one to take over. -/
namespace OrderDesk

variable {s s' : Session} {t : Task} {id : Nat} {e : Event} {es : List Event} {d d' : Desk}
  {sel : Selection} {g : Stage} {seat at' : Seat} {u : Touch} {was : Bool}

/-- An operation that shows progress or hides it. -/
def Touch.turnsProgress : Touch → Bool
  | .beginProgress _ | .hideProgress => true
  | _ => false

theorem Touch.not_turnsProgress_of_isOpen (h : u.isOpen) : u.turnsProgress = false := by
  cases u <;> simp_all [turnsProgress, isOpen, isShared]

theorem Touch.not_turnsProgress_of_isShared (h : u.isShared) : u.turnsProgress = false := by
  cases u <;> simp_all [turnsProgress, isShared]

theorem Hold.touch_progress {h : Hold} (hu : u.turnsProgress = false) :
    (h.touch u).progress = h.progress := by
  cases u <;> simp_all [touch, Touch.turnsProgress]

namespace Desk

/-- Whether the control in a seat shows progress. -/
def progressAt (d : Desk) (seat : Seat) : Bool := (d.hold? seat).any (·.progress)

theorem progressAt_eq {c : Control} (h : d.control? seat = some c) :
    d.progressAt seat = c.progress := by
  rw [progressAt, hold?, h]
  rfl

theorem progressAt_congr (h : d'.hold? seat = d.hold? seat) :
    d'.progressAt seat = d.progressAt seat := by
  simp [progressAt, h]

theorem progressAt_touch (hu : u.turnsProgress = false) :
    (d.touch at' u).progressAt seat = d.progressAt seat := by
  simp only [progressAt, hold?_touch]
  split
  · cases d.hold? seat with
    | none => rfl
    | some h => exact Hold.touch_progress hu
  · rfl

theorem progressAt_touch_of_ne (h : at' ≠ seat) :
    (d.touch at' u).progressAt seat = d.progressAt seat := by
  simp [progressAt, h]

end Desk

namespace Selection

/-- Whether a selection has shown its progress and not hidden it again. -/
def isShowing (s : Selection) : Bool :=
  match s.stage with
  | .look | .peek | .freshen _ | .claim | .choose | .announce | .finished _ => false
  | _ => true

/-- A selection has just shown its progress, and its request goes out or is not answered. -/
def IsSending (s : Selection) : Prop :=
  ∃ epoch, s.stage = .send epoch ∨ ∃ url, s.stage = .sent epoch url

theorem holdsClaim_of_isShowing (h : sel.isShowing = true) : sel.holdsClaim = true := by
  cases hs : sel.stage <;> simp_all [isShowing, holdsClaim]

theorem IsSending.isShowing (h : sel.IsSending) : sel.isShowing = true := by
  obtain ⟨epoch, hs | ⟨url, hs⟩⟩ := h <;> simp [Selection.isShowing, hs]

theorem Step.isSending (h : Step d sel d' g) (hs : sel.IsSending) : (sel.moveTo g).IsSending := by
  obtain ⟨epoch, hs | ⟨url, hs⟩⟩ := hs <;> cases h <;> simp_all [IsSending]

/-- A step shows the progress, hides it as the selection finishes, or leaves it as it is on every
control. -/
theorem Step.progress_cases (h : Step d sel d' g) (ho : (Task.selection sel).Orderly) :
    (sel.stage = .announce ∧ (sel.moveTo g).IsSending ∧
      d' = d.touch sel.seat (.beginProgress Feedback.saveStarted)) ∨
    (sel.isShowing = true ∧ (∃ o, g = .finished o) ∧
      d' = (d.touch sel.seat .hideProgress).touch sel.seat .release) ∨
    ((sel.moveTo g).isShowing = sel.isShowing ∧
      ∀ seat, d'.progressAt seat = d.progressAt seat) := by
  cases h with
  | announce hs => exact Or.inl ⟨hs, ⟨_, Or.inl rfl⟩, rfl⟩
  | release hs => exact Or.inr (Or.inl ⟨by simp [isShowing, hs], ⟨_, rfl⟩, rfl⟩)
  | fetch hs =>
    refine Or.inr (Or.inr ⟨by simp [isShowing, hs], fun seat => ?_⟩)
    exact Desk.progressAt_congr (Refresh.step_hold? _ _)
  | @perform p todo outcome hs =>
    refine Or.inr (Or.inr ⟨by simp [isShowing, hs], fun seat => Desk.progressAt_touch ?_⟩)
    rcases ho p (by simp [Task.todo, hs]) with hp | ⟨_, _, hp⟩
    · exact Touch.not_turnsProgress_of_isShared hp
    · simp [hp, Touch.turnsProgress]
  | freshen hs | claim hs | choose hs | fail hs | accept hs | refuse hs | renew hs =>
    refine Or.inr (Or.inr ⟨by simp [isShowing, hs], fun _ => Desk.progressAt_touch rfl⟩)
  | send hs => exact Or.inr (Or.inr ⟨by simp [isShowing, hs], fun _ => rfl⟩)
  | _ =>
    refine Or.inr (Or.inr ⟨?_, fun _ => rfl⟩)
    simp_all [isShowing, success, refusal, explanation]

theorem orderly_of_idle (h : sel.holdsClaim = false) : (Task.selection sel).Orderly := by
  intro p hp
  simp only [Task.todo] at hp
  split at hp <;> simp_all [holdsClaim]

/-- A control shows the progress of the selection that has shown it and not hidden it, and the
selection is resolved to do what leaves it there. -/
def Announced (s : Selection) (h : Hold) : Prop :=
  (Task.selection s).Orderly ∧ (s.isShowing = true → h.progress = true)

theorem announced_kept : Kept Announced Touch.isOpen where
  step := by
    intro d s d' g k k' h hk hk' hs
    have ho : (Task.selection s).Orderly := by
      cases hc : s.holdsClaim with
      | true => exact (hs hc).1
      | false => exact orderly_of_idle hc
    refine ⟨h.orderly ho, fun hi => ?_⟩
    rcases h.progress_cases ho with ⟨-, -, rfl⟩ | ⟨-, ⟨_, rfl⟩, -⟩ | ⟨hsame, hd⟩
    · simp only [Desk.hold?_touch, hk, if_true, Option.map_some, Option.some.injEq] at hk'
      exact hk' ▸ rfl
    · simp [isShowing] at hi
    · have hi := hsame ▸ hi
      have hp := (hs (holdsClaim_of_isShowing hi)).2 hi
      simpa [Desk.progressAt, hk, hk', hp] using hd s.seat
  conclude := by
    rintro s h epoch url result hs ⟨-, hp⟩
    exact ⟨by simp [Task.Orderly, Task.todo], fun _ => hp (by simp [isShowing, hs])⟩
  fetched := by
    rintro s h refused url result hs ⟨-, hp⟩
    exact ⟨by simp [Task.Orderly, Task.todo], fun _ => hp (by simp [isShowing, hs])⟩
  touch := by
    rintro s h u hu ⟨ho, hp⟩
    exact ⟨ho, fun hi => (Hold.touch_progress (Touch.not_turnsProgress_of_isOpen hu)).trans (hp hi)⟩

end Selection

namespace Task

/-- Whether a task has shown its progress on the control in a seat and not hidden it again. -/
def isShowing (seat : Seat) : Task → Bool
  | selection s => s.seat == seat && s.isShowing
  | _ => false

/-- Whether a task is a selection on the control in a seat and waits for the backend. -/
def isInFlight (seat : Seat) : Task → Bool
  | selection s => s.seat == seat && s.awaits.isSome
  | _ => false

/-- A task has just shown its progress. -/
def IsSending (t : Task) : Prop := ∃ s, t = selection s ∧ s.IsSending

/-- At rest a selection shows its progress just while it waits. -/
theorem isShowing_of_rests (hr : t.rests = true) : t.isShowing seat = t.isInFlight seat := by
  cases resting_of_rests hr with
  | sent hs | asked hs | ended hs =>
    simp [isShowing, isInFlight, Selection.isShowing, Selection.awaits, hs]
  | _ => rfl

theorem claims_of_isInFlight (h : t.isInFlight seat = true) : t.claims seat = true := by
  cases t with
  | selection s =>
    simp only [isInFlight, Selection.awaits, Bool.and_eq_true] at h
    cases hs : s.stage <;> simp_all [claims, Selection.holdsClaim]
  | _ => simp [isInFlight] at h

/-- At rest a selection holds its control just while it waits. -/
theorem claims_of_rests (hr : t.rests = true) : t.claims seat = t.isInFlight seat := by
  cases resting_of_rests hr with
  | sent hs | asked hs | ended hs =>
    simp [claims, isInFlight, Selection.holdsClaim, Selection.awaits, hs]
  | _ => rfl

/-- A step of a task leaves the progress of a control as it is, or is the one that shows it or the
one that hides it. -/
theorem step_progress (ho : t.Orderly) (seat : Seat) :
    (t.isShowing seat = false ∧ (t.step d).2.isShowing seat = true ∧ (t.step d).2.IsSending) ∨
    (t.isShowing seat = true ∧ (t.step d).2.isFinished = true ∧
      (t.step d).1.progressAt seat = false) ∨
    ((t.step d).2.isShowing seat = t.isShowing seat ∧
      (t.step d).1.progressAt seat = d.progressAt seat) := by
  cases t with
  | selection s =>
    obtain ⟨d', g, he, h⟩ := s.step_spec d
    simp only [step, he]
    by_cases hseat : s.seat = seat
    · subst hseat
      rcases h.progress_cases ho with ⟨hs, hsend, rfl⟩ | ⟨hs, ⟨o, rfl⟩, rfl⟩ | ⟨hsame, hd⟩
      · refine Or.inl ⟨by simp [isShowing, Selection.isShowing, hs], ?_, _, rfl, hsend⟩
        simp [isShowing, hsend.isShowing]
      · refine Or.inr (Or.inl ⟨by simp [isShowing, hs], rfl, ?_⟩)
        rw [Desk.progressAt_touch rfl]
        cases hh : d.hold? s.seat <;> simp [Desk.progressAt, hh, Hold.touch]
      · exact Or.inr (Or.inr ⟨by simp [isShowing, hsame], hd s.seat⟩)
    · have hne : (s.seat == seat) = false := by simpa using hseat
      refine Or.inr (Or.inr ⟨by simp [isShowing, hne], ?_⟩)
      rcases h.progress_cases ho with ⟨-, -, rfl⟩ | ⟨-, -, rfl⟩ | ⟨-, hd⟩
      · exact Desk.progressAt_touch_of_ne hseat
      · exact (Desk.progressAt_touch_of_ne hseat).trans (Desk.progressAt_touch_of_ne hseat)
      · exact hd seat
  | _ => exact Or.inr (Or.inr ⟨rfl, Desk.progressAt_congr (step_idle ho rfl rfl)⟩)

/-- A task that has its progress shown where it goes on, and not where it rests, has hidden it. -/
theorem progressAt_settle_of_isShowing (ho : t.Orderly) (hi : t.isShowing seat = true)
    (hend : (t.settle d).2.isShowing seat = false) : (t.settle d).1.progressAt seat = false := by
  have hkeep : (t.settle d).2.Orderly ∧ ((t.settle d).2.isShowing seat = true ∨
      (t.settle d).2.isFinished = true ∧ (t.settle d).1.progressAt seat = false) := by
    refine settle_keeps (P := fun d t => t.Orderly ∧ (t.isShowing seat = true ∨
      t.isFinished = true ∧ d.progressAt seat = false)) ?_ ⟨ho, Or.inl hi⟩
    rintro d t ⟨ho, hi | ⟨hf, -⟩⟩ hr
    · refine ⟨step_orderly ho, ?_⟩
      rcases step_progress (d := d) ho seat with ⟨hn, -⟩ | ⟨-, hgone⟩ | ⟨hsame, -⟩
      · simp [hi] at hn
      · exact Or.inr hgone
      · exact Or.inl (hsame.trans hi)
    · simp [rests, hf] at hr
  rcases hkeep.2 with hi | ⟨-, hp⟩
  · simp [hend] at hi
  · exact hp

/-- A task that has its progress shown neither where it goes on nor where it rests has left all
progress as it was. -/
theorem progressAt_settle (ho : t.Orderly) (hi : t.isShowing seat = false)
    (hend : (t.settle d).2.isShowing seat = false) :
    (t.settle d).1.progressAt seat = d.progressAt seat := by
  have hkeep : (t.settle d).2.Orderly ∧
      ((t.settle d).2.isShowing seat = false ∧
        (t.settle d).1.progressAt seat = d.progressAt seat ∨
      (t.settle d).2.isShowing seat = true ∧ (t.settle d).2.IsSending) := by
    refine settle_keeps (P := fun e t => t.Orderly ∧
      (t.isShowing seat = false ∧ e.progressAt seat = d.progressAt seat ∨
        t.isShowing seat = true ∧ t.IsSending)) ?_ ⟨ho, Or.inl ⟨hi, rfl⟩⟩
    rintro e t ⟨ho, ⟨hi, hp⟩ | ⟨hi, hsend⟩⟩ hr
    · refine ⟨step_orderly ho, ?_⟩
      rcases step_progress (d := e) ho seat with ⟨-, hshown⟩ | ⟨hs, -⟩ | ⟨hsame, hd⟩
      · exact Or.inr hshown
      · simp [hi] at hs
      · exact Or.inl ⟨hsame.trans hi, hd.trans hp⟩
    · refine ⟨step_orderly ho, Or.inr ?_⟩
      obtain ⟨s, rfl, hsend⟩ := hsend
      obtain ⟨d', g, he, h⟩ := s.step_spec e
      simp only [step, he]
      have hsend' := h.isSending hsend
      simp only [isShowing, hsend.isShowing, Bool.and_true] at hi
      exact ⟨by simp [isShowing, hsend'.isShowing, hi], _, rfl, hsend'⟩
  rcases hkeep.2 with ⟨-, hp⟩ | ⟨hi, -⟩
  · exact hp
  · simp [hend] at hi

theorem isShowing_answered (d : Desk) (t : Task) (reply : Reply) :
    (t.answered d reply).2.isShowing seat = t.isShowing seat := by
  cases t with
  | selection s =>
    simp only [answered]
    rcases s.answered_cases d reply with h | ⟨_, _, _, hs, -, h⟩ | ⟨_, _, _, hs, -, h⟩
    · rw [h]
    all_goals simp [h, isShowing, Selection.isShowing, hs]
  | pageRefresh page r => unfold answered; split <;> simp_all [isShowing]
  | storeRefresh r => unfold answered; split <;> simp_all [isShowing]

theorem isShowing_ofWish (d : Desk) (wish : Wish) : (ofWish d wish).isShowing seat = false := by
  cases wish <;> simp [ofWish, isShowing, Selection.isShowing]

theorem progressAt_dropped (d : Desk) (t : Task) :
    (t.dropped d).progressAt seat = d.progressAt seat := by
  obtain ⟨e, he, ⟨hd, -⟩ | ⟨s, -, -, hd⟩⟩ := dropped_cases d t
  · rw [hd, Desk.progressAt_congr (Desk.hold?_congr he seat)]
  · rw [hd, Desk.progressAt_touch rfl, Desk.progressAt_congr (Desk.hold?_congr he seat)]

end Task

namespace Session

/-- Whether a selection on the control in a seat waits for the backend. -/
def isInFlight (s : Session) (seat : Seat) : Bool := s.tasks.any fun p => p.2.isInFlight seat

/-- Whether an event drops the selection that is in flight on a control. -/
def drops (s : Session) (seat : Seat) : Event → Bool
  | .drop id => (s.task? id).any (·.isInFlight seat)
  | _ => false

/-- Whether the latest selection that claimed a control is dropped before it finishes, as of the
end of a turn. It is `was` as of the beginning. -/
def leaves (s : Session) (seat : Seat) (was : Bool) (e : Event) : Bool :=
  if s.isInFlight seat || (s.turn e).isInFlight seat then s.drops seat e else was

/-- Whether the latest selection that claimed a control in a row of turns is dropped before it
finishes. -/
def abandons (s : Session) (seat : Seat) (was : Bool) : List Event → Bool
  | [] => was
  | e :: es => (s.turn e).abandons seat (s.leaves seat was e) es

theorem isInFlight_iff : s.isInFlight seat = true ↔ ∃ id sel, (id, Task.selection sel) ∈ s.tasks ∧
    sel.seat = seat ∧ sel.awaits.isSome = true := by
  simp only [isInFlight, List.any_eq_true, Prod.exists]
  constructor
  · rintro ⟨id, t, hm, ht⟩
    cases t with
    | selection sel =>
      simp only [Task.isInFlight, Bool.and_eq_true, beq_iff_eq] at ht
      exact ⟨id, sel, hm, ht⟩
    | _ => simp [Task.isInFlight] at ht
  · rintro ⟨id, sel, hm, hseat, ha⟩
    exact ⟨id, _, hm, by simp [Task.isInFlight, hseat, ha]⟩

/-- The selection in flight on a control is a given task or one of the others. -/
theorem isInFlight_split (hn : s.Numbered) (ht : s.task? id = some t) (seat : Seat) :
    s.isInFlight seat = ((s.remove id).isInFlight seat || t.isInFlight seat) ∧
      ∀ r, (s.put id r).isInFlight seat =
        ((s.remove id).isInFlight seat || r.2.isInFlight seat) := by
  obtain ⟨before, after, hs, hput, hremove⟩ := tasks_split hn ht
  have hany : ∀ t : Task, (before ++ (id, t) :: after).any (fun p => p.2.isInFlight seat) =
      ((before ++ after).any (fun p => p.2.isInFlight seat) || t.isInFlight seat) := by
    intro t
    simp only [List.any_append, List.any_cons]
    cases t.isInFlight seat <;> simp
  simp [isInFlight, hs, hput, hremove, hany]

/-- The control of a selection that waits shows progress. -/
theorem progressAt_of_isInFlight (hs : s.Calm) (ha : s.Has Selection.Announced)
    (hin : s.isInFlight seat = true) : s.desk.progressAt seat = true := by
  obtain ⟨⟨id, t⟩, hm, ht⟩ := List.any_eq_true.mp hin
  have hshow := (Task.isShowing_of_rests (hs.rests _ hm)).trans ht
  cases t with
  | selection sel =>
    simp only [Task.isShowing, Bool.and_eq_true, beq_iff_eq] at hshow
    obtain ⟨rfl, hi⟩ := hshow
    obtain ⟨h, hh, -, hp⟩ := ha id sel hm (Selection.holdsClaim_of_isShowing hi)
    simpa [Desk.progressAt, hh] using hp hi
  | _ => simp [Task.isShowing] at hshow

/-- An event that is about no task leaves all progress as it is. -/
theorem progressAt_apply (hid : e.id? = none) (he : e.isOpen = true) :
    (s.apply e).desk.progressAt seat = s.desk.progressAt seat := by
  cases e with
  | fire timer => exact Desk.progressAt_touch rfl
  | hold at' =>
    simp only [apply, Desk.claim?]
    split
    · exact Desk.progressAt_touch rfl
    · rfl
  | release at' =>
    simp only [apply]
    split
    · exact Desk.progressAt_touch rfl
    · rfl
  | touch at' u => exact Desk.progressAt_touch (Touch.not_turnsProgress_of_isOpen he)
  | repopulate =>
    exact Desk.progressAt_congr
      (Desk.hold?_perform_of_isShared fun p hp => repopulation_shared hp)
  | begin | step | settle | answer | drop => simp [Event.id?] at hid
  | _ => rfl

/-- After a turn a control shows progress if a selection on it waits, or if the latest one that
claimed it was dropped. -/
theorem Turn.progressAt (h : s.Turn e s') (hs : s.Calm) (hs' : s'.Calm) (hb : s.Balanced)
    (he : e.isOpen = true) (hp : s.desk.progressAt seat = (s.isInFlight seat || was))
    (hidle : s'.isInFlight seat = false) :
    s'.desk.progressAt seat = if s.isInFlight seat then s.drops seat e else was := by
  cases h with
  | still _ => simpa [hidle] using hp
  | @begun id wish hnone =>
    obtain ⟨hidle, hnew⟩ : s.isInFlight seat = false ∧
        ((Task.ofWish s.desk wish).settle s.desk).2.isInFlight seat = false := by
      simpa [isInFlight] using hidle
    have hend := (Task.isShowing_of_rests (Task.settle_rests _ _)).trans hnew
    have hsame := Task.progressAt_settle (Task.ofWish_idle s.desk wish seat).2
      (Task.isShowing_ofWish s.desk wish) hend
    simpa [hidle, hp] using hsame
  | @answered id reply t ht =>
    obtain ⟨hsplit, hput⟩ := isInFlight_split hs.numbered ht seat
    obtain ⟨hothers, hnew⟩ := Bool.or_eq_false_iff.mp ((hput _).symm.trans hidle)
    obtain ⟨hcontrols, -, ho⟩ := t.answered_frame s.desk reply seat
    have ho := ho (hb.orderly _ (mem_of_task? ht))
    have hend := (Task.isShowing_of_rests (Task.settle_rests _ _)).trans hnew
    have hbegin : (t.answered s.desk reply).2.isShowing seat = t.isInFlight seat :=
      (Task.isShowing_answered _ _ _).trans (Task.isShowing_of_rests (hs.rests _ (mem_of_task? ht)))
    rw [hsplit, hothers, Bool.false_or] at hp ⊢
    cases hin : t.isInFlight seat with
    | true => exact Task.progressAt_settle_of_isShowing ho (hbegin.trans hin) hend
    | false =>
      have hsame := Task.progressAt_settle ho (hbegin.trans hin) hend
      rw [Desk.progressAt_congr (Desk.hold?_congr hcontrols seat), hp, hin] at hsame
      exact hsame
  | @dropped id t ht =>
    have hothers : (s.remove id).isInFlight seat = false := hidle
    obtain ⟨hsplit, -⟩ := isInFlight_split hs.numbered ht seat
    rw [hsplit, hothers, Bool.false_or] at hp ⊢
    refine (Task.progressAt_dropped _ _).trans (hp.trans ?_)
    cases hin : t.isInFlight seat with
    | true => simp [drops, ht, hin]
    | false => rfl
  | other hid =>
    have hsame : s.isInFlight seat = false := by
      simpa [isInFlight, tasks_apply hid] using hidle
    simpa [progressAt_apply hid he, hsame] using hp

theorem isOpen_toRest (he : e.isOpen = true) : ∀ f ∈ e.toRest, f.isOpen = true := by
  intro f hf
  rcases Event.mem_toRest hf with rfl | ⟨id, rfl⟩
  · exact he
  · rfl

/-- At rest, with the claims in balance and the progress of each request in place, the controls
show progress as their selections in flight and the dropped ones have it. -/
structure Indicated (s : Session) (was : Seat → Bool) : Prop where
  calm : s.Calm
  balanced : s.Balanced
  announced : s.Has Selection.Announced
  progress : ∀ seat, s.desk.progressAt seat = (s.isInFlight seat || was seat)

theorem indicated_turn {was : Seat → Bool} (h : s.Indicated was) (he : e.isOpen = true) :
    (s.turn e).Indicated fun seat => s.leaves seat (was seat) e := by
  have hopen := isOpen_toRest he
  have hb : (s.turn e).Balanced :=
    play_keeps (fun _ _ hs he => balanced_apply hs he) h.balanced hopen
  have ha : (s.turn e).Has Selection.Announced :=
    has_play Selection.announced_kept (fun _ he => he) (fun _ _ hu => hu) h.balanced h.announced
      hopen
  have hcalm := calm_turn h.calm e
  refine ⟨hcalm, hb, ha, fun seat => ?_⟩
  cases hin : (s.turn e).isInFlight seat with
  | true => simp [progressAt_of_isInFlight hcalm ha hin]
  | false =>
    have hp := (turn_spec h.calm e).progressAt h.calm hcalm h.balanced he (h.progress seat) hin
    simp [hp, leaves, hin]

theorem indicated_turns {was : Seat → Bool} (h : s.Indicated was)
    (hes : ∀ e ∈ es, e.isOpen = true) :
    (s.turns es).Indicated fun seat => s.abandons seat (was seat) es := by
  induction es generalizing s was with
  | nil => exact h
  | cons e es ih =>
    exact ih (indicated_turn h (hes e List.mem_cons_self))
      fun f hf => hes f (List.mem_cons_of_mem e hf)

theorem indicated_opened (store : Store) (schedule : Schedule) (ds : List Descriptor) :
    (opened store schedule ds).Indicated fun _ => false := by
  refine ⟨calm_opened store schedule ds, balanced_opened store schedule ds,
    has_opened store schedule ds, fun seat => ?_⟩
  change (opened store schedule ds).desk.progressAt seat = false
  cases hc : (opened store schedule ds).desk.control? seat with
  | none => simp [Desk.progressAt, Desk.hold?, hc]
  | some c =>
    have hm := List.mem_of_find?_eq_some hc
    simp only [opened, Desk.bindPage, List.nil_append, List.mem_map] at hm
    obtain ⟨x, -, rfl⟩ := hm
    rw [Desk.progressAt_eq hc, Control.bind]
    split <;> rfl

/-- Where nothing is dropped, nothing is left behind. -/
theorem abandons_eq_false (hes : ∀ id, Event.drop id ∉ es) : s.abandons seat false es = false := by
  induction es generalizing s with
  | nil => rfl
  | cons e es ih =>
    have hkeeps : s.leaves seat false e = false := by
      have hd : s.drops seat e = false := by
        cases e with
        | drop id => exact absurd List.mem_cons_self (hes id)
        | _ => rfl
      simp [leaves, hd]
    rw [abandons, hkeeps]
    exact ih fun id hm => hes id (List.mem_cons_of_mem e hm)

/-- At rest a control is busy with a selection just while one on it is in flight. -/
theorem isInFlight_iff_busy (hs : s.Calm) (hb : s.Balanced) : s.isInFlight seat = true ↔
    s.desk.isBusy seat = true ∧ seat ∉ s.held := by
  constructor
  · intro hin
    obtain ⟨p, hp, ht⟩ := List.any_eq_true.mp hin
    have hc := Task.claims_of_isInFlight ht
    exact ⟨hb.busy hp hc, hb.not_held hp hc⟩
  · rintro ⟨hbusy, hfree⟩
    have hbal := hb.balance seat
    rw [hbusy, claims, List.count_eq_zero.mpr hfree] at hbal
    have hpos : 0 < s.tasks.countP fun p => p.2.claims seat := by
      rw [Bool.toNat_true] at hbal
      omega
    obtain ⟨p, hp, hc⟩ := List.countP_pos_iff.mp hpos
    exact List.any_eq_true.mpr ⟨p, hp, (Task.claims_of_rests (hs.rests p hp)).symm.trans hc⟩

/-- Each control of a page is found in its seat throughout a run. -/
theorem control?_turns {c : Control} (store : Store) (schedule : Schedule) (ds : List Descriptor)
    (hc : c ∈ ((opened store schedule ds).turns es).desk.controls) :
    ((opened store schedule ds).turns es).desk.control? c.seat = some c := by
  refine Desk.control?_of_mem ?_ hc
  rw [turns_eq_play, play_seats]
  exact Desk.seats_nodup_first store schedule ds

/-- At every moment at which all tasks rest, a control shows progress just if a selection on it is
in flight or the latest one that claimed it was dropped before it finished. Where nothing is
dropped, it shows progress just while it is busy with a selection. -/
theorem progress_shown (store : Store) (schedule : Schedule) (ds : List Descriptor)
    (hes : ∀ e ∈ es, e.isOpen = true) :
    ∀ c ∈ ((opened store schedule ds).turns es).desk.controls,
      (c.progress = true ↔
        (∃ id sel, (id, Task.selection sel) ∈ ((opened store schedule ds).turns es).tasks ∧
          sel.seat = c.seat ∧ sel.awaits.isSome = true) ∨
        (opened store schedule ds).abandons c.seat false es = true) ∧
      ((∀ id, Event.drop id ∉ es) →
        (c.progress = true ↔
          c.busy = true ∧ c.seat ∉ ((opened store schedule ds).turns es).held)) := by
  intro c hc
  have h := indicated_turns (indicated_opened store schedule ds) hes
  have hfound := control?_turns store schedule ds hc
  have hp : c.progress = (((opened store schedule ds).turns es).isInFlight c.seat ||
      (opened store schedule ds).abandons c.seat false es) := by
    rw [← Desk.progressAt_eq hfound]
    exact h.progress c.seat
  constructor
  · rw [hp, Bool.or_eq_true, isInFlight_iff]
  · intro hdrop
    have hbusy : ((opened store schedule ds).turns es).desk.isBusy c.seat = c.busy := by
      simp [Desk.isBusy, hfound]
    rw [hp, abandons_eq_false hdrop, Bool.or_false, isInFlight_iff_busy h.calm h.balanced, hbusy]

/-- A selection is dropped while it waits for its answer. -/
def forsaken : List Event := [.begin 0 (.select sampleSeat "process"), .drop 0]

theorem progress_shown_forsaken : (∀ e ∈ forsaken, e.isOpen = true) ∧
    ∃ c ∈ (sample.turns forsaken).desk.controls, c.seat = sampleSeat ∧ c.busy = false ∧
      c.progress = true := by
  have hopen : ∀ e ∈ forsaken, e.isOpen = true := by decide
  obtain ⟨c, hc, hseat, hbusy⟩ : ∃ c ∈ (sample.turns forsaken).desk.controls,
      c.seat = sampleSeat ∧ c.busy = false := by decide
  have hleft : sample.abandons c.seat false forsaken = true := by
    rw [hseat]
    decide
  have hshown := progress_shown sampleStore Schedule.usual samplePage hopen c hc
  exact ⟨hopen, c, hc, hseat, hbusy, hshown.1.mpr (Or.inr hleft)⟩

end Session
end OrderDesk
