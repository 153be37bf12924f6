import OrderDesk.Proofs.Frame
import OrderDesk.Proofs.Turn

/-! What an operator sees of a request that is over. A control keeps the action that a request
selected on it for as long as the request holds it, and the last thing that the request tells is its
outcome. -/
namespace OrderDesk

variable {d d' : Desk} {s s' : Session} {sel : Selection} {t : Task} {g : Stage} {e : Event}
  {es log : List Event} {seat : Seat} {action : String} {c : Control} {o : Outcome}

/-- An event that leaves claims, selected actions and progress to requests and to holders of a
claim. -/
def Event.isShared : Event → Bool
  | .touch _ t => t.isShared
  | _ => true

theorem Event.isOpen_of_isShared (e : Event) (h : e.isShared = true) : e.isOpen = true := by
  cases e with
  | touch seat t => cases t <;> simp_all [isShared, isOpen, Touch.isShared, Touch.isOpen]
  | _ => rfl

/-- What a control shows of a request for an action that is over. -/
def Outcome.Shown (action : String) : Outcome → View → Prop
  | .ignored _, _ => True
  | .applied _ _, v => v.feedback = some (Feedback.success Feedback.saved) ∧ v.selected = none
  | .rejected _ message, v =>
    v.feedback = some (Feedback.error message) ∧ v.selected = some action
  | .failed _, v =>
    v.feedback = some (Feedback.error Feedback.networkFailure) ∧ v.selected = some action

theorem Outcome.Shown.congr {v v' : View} (h : o.Shown action v) (hf : v'.feedback = v.feedback)
    (hs : v'.selected = v.selected) : o.Shown action v' := by
  cases o <;> simp_all [Shown]

/-- No text of progress is left, nor that of a change that another control brought about. -/
theorem Outcome.Shown.told {v : View} (h : o.Shown action v) (ho : ∀ reason, o ≠ .ignored reason) :
    (∀ text, v.feedback ≠ some (Feedback.info text)) ∧
      v.feedback ≠ some (Feedback.success Feedback.siblingUpdated) := by
  cases o with
  | ignored reason => exact absurd rfl (ho reason)
  | applied response reconciled =>
    rw [h.1]
    exact ⟨fun text => by simp [Feedback.success, Feedback.info],
      by simp [Feedback.success, Feedback.saved, Feedback.siblingUpdated]⟩
  | rejected available message =>
    rw [h.1]
    exact ⟨fun text => by simp [Feedback.error, Feedback.info],
      by simp [Feedback.error, Feedback.success]⟩
  | failed message =>
    rw [h.1]
    exact ⟨fun text => by simp [Feedback.error, Feedback.info],
      by simp [Feedback.error, Feedback.success]⟩

namespace Selection

/-- Whether a selection has chosen its action on its control and not come to its outcome yet. -/
def hasChosen (s : Selection) : Bool :=
  match s.stage with
  | .look | .peek | .freshen _ | .claim | .choose | .perform _ _ | .finished _ => false
  | _ => true

/-- The control shows the action that was chosen. -/
def Chosen (s : Selection) (h : Hold) : Prop :=
  s.hasChosen = true → h.selected = some s.wanted

theorem holdsClaim_of_hasChosen (h : sel.hasChosen = true) : sel.holdsClaim = true := by
  cases hs : sel.stage <;> simp_all [hasChosen, holdsClaim]

theorem chosen_kept : Kept Chosen Touch.isShared where
  step := by
    intro d s d' g k k' h hk hk' hs hch
    have hold : s.hasChosen = true → k.selected = some s.wanted :=
      fun hch => hs (holdsClaim_of_hasChosen hch) hch
    cases h with
    | choose hstage =>
      simp only [Desk.hold?_touch, hk, if_true, Option.map_some, Option.some.injEq] at hk'
      subst hk'
      rfl
    | announce hstage | accept hstage _ | refuse hstage _ =>
      simp only [Desk.hold?_touch, hk, if_true, Option.map_some, Option.some.injEq] at hk'
      subst hk'
      exact hold (by simp [hasChosen, hstage])
    | renew hstage =>
      rw [Desk.hold?_touch_of_isShared rfl, hk] at hk'
      obtain rfl := Option.some.inj hk'
      exact hold (by simp [hasChosen, hstage])
    | _ => simp_all [hasChosen, success, refusal, explanation]
  conclude := by
    intro s h epoch url result hstage hs _
    exact hs (by simp [hasChosen, hstage])
  fetched := by
    intro s h refused url result hstage hs _
    exact hs (by simp [hasChosen, hstage])
  touch := by
    intro s h u hu hs hch
    rw [Hold.touch_of_isShared hu]
    exact hs hch

/-- A selection keeps its action chosen and comes to show its outcome. -/
def Foretold (d : Desk) (s : Selection) : Prop :=
  match s.stage with
  | .perform todo outcome =>
    ∃ c, (d.perform todo).control? s.seat = some c ∧ outcome.Shown s.wanted c.view
  | .finished outcome => (∀ reason, outcome ≠ .ignored reason) →
    ∃ c, d.control? s.seat = some c ∧ c.view.busy = false ∧ c.view.progress = false ∧
      outcome.Shown s.wanted c.view
  | _ => s.Has Chosen d

/-- What is told last is what is shown. -/
theorem shown_tell (h : d.control? seat = some c) (f : Feedback) :
    ∃ c', (d.perform [(seat, .tell f)]).control? seat = some c' ∧
      c'.view.feedback = some f ∧ c'.view.selected = c.selected := by
  refine ⟨c.touch (.tell f), ?_, rfl, rfl⟩
  simp [Desk.perform, Desk.control?_touch, h]

theorem Step.foretold (h : Step d sel d' g) (hf : sel.Foretold d) :
    (sel.moveTo g).Foretold d' := by
  have hkeep : sel.Has Chosen d → (sel.moveTo g).Has Chosen d' := fun hs => hs.step chosen_kept h
  -- Where an outcome comes up, the action that was chosen is still shown.
  have hcontrol : sel.hasChosen = true → sel.Has Chosen d →
      ∃ c, d.control? sel.seat = some c ∧ c.selected = some sel.wanted := by
    intro hch hs
    obtain ⟨k, hk, hsel⟩ := hs (holdsClaim_of_hasChosen hch)
    obtain ⟨c, hc, rfl⟩ := Option.map_eq_some_iff.mp hk
    exact ⟨c, hc, hsel hch⟩
  cases h with
  | lookBusy _ _ | ignore _ _ => exact fun hno => absurd rfl (hno _)
  | fail hstage =>
    have hs : sel.Has Chosen d := by simpa [Foretold, hstage] using hf
    obtain ⟨c, hc, hsel⟩ := hcontrol (by simp [hasChosen, hstage]) hs
    have hclosed : (d.touch sel.seat .endProgress).control? sel.seat =
        some (c.touch .endProgress) := by
      simp [Desk.control?_touch, hc]
    obtain ⟨c', hc', hfeedback, hsel'⟩ :=
      shown_tell hclosed (Feedback.error Feedback.networkFailure)
    exact ⟨c', hc', hfeedback, hsel'.trans hsel⟩
  | @survey response hstage =>
    have hs : sel.Has Chosen d := by simpa [Foretold, hstage] using hf
    obtain ⟨c, hc, -⟩ := hcontrol (by simp [hasChosen, hstage]) hs
    have hon : d.Touched (d.perform
        (reconciliation sel.seat.order response sel.seats d.store.graph)) := ⟨_, rfl⟩
    obtain ⟨c₁, hc₁⟩ := hon.exists_control hc
    refine ⟨(c₁.touch .unselect).touch (.tell (Feedback.success Feedback.saved)), ?_, rfl, rfl⟩
    rw [Desk.perform_append]
    change (((d.perform _).touch sel.seat .unselect).touch sel.seat (.tell _)).control? sel.seat = _
    simp [Desk.control?_touch, hc₁]
  | @unfetched refused error hstage =>
    have hs : sel.Has Chosen d := by simpa [Foretold, hstage] using hf
    obtain ⟨c, hc, hsel⟩ := hcontrol (by simp [hasChosen, hstage]) hs
    obtain ⟨c', hc', hfeedback, hsel'⟩ := shown_tell hc
      (Feedback.error (refused.body.errorMessage.getD Feedback.setFailed))
    exact ⟨c', hc', hfeedback, hsel'.trans hsel⟩
  | @reread graph hstage =>
    have hs : sel.Has Chosen d := by simpa [Foretold, hstage] using hf
    obtain ⟨c, hc, hsel⟩ := hcontrol (by simp [hasChosen, hstage]) hs
    obtain ⟨c', hc', hfeedback, hsel'⟩ := shown_tell hc (Feedback.error
      (Feedback.unavailable ((d.control? sel.seat).elim [] (·.permitted graph))))
    exact ⟨c', hc', hfeedback, hsel'.trans hsel⟩
  | perform hstage =>
    simp only [Foretold, hstage] at hf
    exact hf
  | release hstage =>
    simp only [Foretold, hstage] at hf
    obtain ⟨c, hc, hshown⟩ := hf
    intro _
    refine ⟨(c.touch .hideProgress).touch .release, ?_, rfl, rfl, hshown.congr rfl rfl⟩
    have hc : d.control? sel.seat = some c := hc
    simp [Desk.control?_touch, hc]
  | rest hstage =>
    simp only [Foretold, hstage] at hf
    exact hf
  | _ => exact hkeep (by simp_all [Foretold])

theorem answered_same (d : Desk) (s : Selection) (reply : Reply) :
    (s.answered d reply).2.seat = s.seat ∧ (s.answered d reply).2.action = s.action := by
  rcases s.answered_cases d reply with ha | ⟨_, _, _, -, -, ha⟩ | ⟨_, _, _, -, -, ha⟩
  all_goals
    rw [ha]
    exact ⟨rfl, rfl⟩

end Selection

/-- A wish for an action on a control. -/
def Wish.Asks (seat : Seat) (action : String) : Wish → Prop
  | .select at' wanted | .submit at' wanted _ => at' = seat ∧ wanted = action
  | _ => False

namespace Task

theorem foretold_ofWish (d : Desk) (wish : Wish) :
    (ofWish d wish).Meets Selection.Foretold d := by
  intro sel hs
  cases wish <;> simp only [ofWish, selection.injEq, reduceCtorEq] at hs
  all_goals
    subst hs
    intro hc
    simp [Selection.holdsClaim] at hc

/-- The answer to a selection that waits lets it come to show its outcome. -/
theorem foretold_answered (hr : t.rests = true) (hf : t.isFinished = false)
    (h : ∀ sel, t = selection sel → sel.Has Selection.Chosen d) (reply : Reply) :
    (t.answered d reply).2.Meets Selection.Foretold (t.answered d reply).1 := by
  intro sel hs
  obtain ⟨s, rfl, rfl, hd⟩ := answered_selection hs
  have hhas := (h s rfl).answered Selection.chosen_kept reply
  rw [hd]
  rcases s.answered_cases d reply with ha | ⟨_, _, _, -, -, ha⟩ | ⟨_, _, _, -, -, ha⟩
  · simp only [ha] at hhas ⊢
    simp only [rests, awaits, Selection.awaits, hf, Bool.or_false] at hr
    cases hstage : s.stage <;> simp_all [Selection.Foretold]
  · simp only [ha] at hhas ⊢
    exact hhas
  · simp only [ha] at hhas ⊢
    exact hhas

theorem asks_ofWish (d : Desk) (wish : Wish) :
    (ofWish d wish).Meets (fun _ s => wish.Asks s.seat s.action) d := by
  intro sel hs
  cases wish <;> simp only [ofWish, selection.injEq, reduceCtorEq] at hs
  all_goals
    subst hs
    exact ⟨rfl, rfl⟩

end Task

namespace Session

/-- Every selection was asked for as it began. -/
def Begun (log : List Event) (s : Session) : Prop :=
  ∀ id sel, (id, Task.selection sel) ∈ s.tasks →
    ∃ wish, Event.begin id wish ∈ log ∧ wish.Asks sel.seat sel.action

theorem begun_turn (hs : s.Calm) (h : s.Begun log) (he : e ∈ log) : (s.turn e).Begun log := by
  intro id sel hp
  rcases (turn_spec hs e).task_cases hp with
    hp | ⟨wish, rfl, -, ht⟩ | ⟨reply, t, rfl, hm, -, ht⟩
  · exact h id sel hp
  · exact ⟨wish, he, Task.meets_settle (fun _ ha => ha) (Task.asks_ofWish s.desk wish) sel ht.symm⟩
  · have hbegun : t.Meets (fun _ u => ∃ wish, Event.begin id wish ∈ log ∧
        wish.Asks u.seat u.action) s.desk := by
      rintro u rfl
      exact h id u (mem_of_task? hm)
    refine Task.meets_settle (fun _ ha => ha) (Task.meets_answered (fun u hu => ?_) hbegun) sel
      ht.symm
    obtain ⟨hseat, haction⟩ := u.answered_same s.desk reply
    rw [hseat, haction]
    exact hu

theorem begun_turns (hs : s.Calm) (h : s.Begun log) (hes : ∀ e ∈ es, e ∈ log) :
    (s.turns es).Begun log :=
  (List.foldlRecOn (motive := fun u => u.Calm ∧ u.Begun log) es turn ⟨hs, h⟩ fun _ hu e he =>
    ⟨calm_turn hu.1 e, begun_turn hu.1 hu.2 (hes e he)⟩).2

/-- What the steps of a request keep of its control, whatever others may do to it, is there
throughout a run of turns. -/
theorem has_turns {Q : Selection → Hold → Prop} (hQ : Selection.Kept Q Touch.isShared)
    (hb : s.Balanced) (h : s.Has Q) (hes : ∀ e ∈ es, e.isShared) : (s.turns es).Has Q := by
  rw [turns_eq_play]
  refine has_play hQ Event.isOpen_of_isShared (fun _ _ hu => hu) hb h ?_
  intro f hf
  obtain ⟨e, he, hf⟩ := List.mem_flatMap.mp hf
  rcases Event.mem_toRest hf with rfl | ⟨id, rfl⟩
  · exact hes f he
  · rfl

/-- Throughout a run of turns each selection that waits has its action chosen on its control. -/
theorem chosen_turns (store : Store) (schedule : Schedule) (ds : List Descriptor)
    (hes : ∀ e ∈ es, e.isShared) : ((opened store schedule ds).turns es).Has Selection.Chosen :=
  has_turns Selection.chosen_kept (balanced_opened store schedule ds)
    (has_opened store schedule ds) hes

/-- In every run of turns, when a request is over that was not ignored, its control is idle and
shows no progress. For a change that was made it tells so and shows no action, and else it tells
what went wrong and still shows the action that was asked for. -/
theorem outcome_shown (store : Store) (schedule : Schedule) (ds : List Descriptor) {id : Nat}
    (hes : ∀ f ∈ es, f.isShared)
    (hbefore : ∀ t, (id, t) ∈ ((opened store schedule ds).turns es).tasks → t.isFinished = false)
    (hafter : (id, .selection sel) ∈ (((opened store schedule ds).turns es).turn e).tasks)
    (hover : sel.outcome? = some o) (ho : ∀ reason, o ≠ .ignored reason) :
    (∃ wish, .begin id wish ∈ es ++ [e] ∧ wish.Asks sel.seat sel.action) ∧
    ∃ c, (((opened store schedule ds).turns es).turn e).desk.control? sel.seat = some c ∧
      c.view.busy = false ∧ c.view.progress = false ∧ o.Shown (Text.trim sel.action) c.view ∧
      (∀ text, c.view.feedback ≠ some (Feedback.info text)) ∧
      c.view.feedback ≠ some (Feedback.success Feedback.siblingUpdated) := by
  have hcalm := calm_turns (calm_opened store schedule ds) es
  constructor
  · have hbegun : ((opened store schedule ds).turns es).Begun (es ++ [e]) :=
      begun_turns (calm_opened store schedule ds) (fun _ _ hp => by simp [opened] at hp)
        fun f hf => List.mem_append_left [e] hf
    exact begun_turn hcalm hbegun (by simp) id sel hafter
  · have hchosen := chosen_turns store schedule ds hes
    have hforetold : sel.Foretold (((opened store schedule ds).turns es).turn e).desk := by
      rcases (turn_spec hcalm e).task_cases hafter with
        hp | ⟨wish, -, hd, ht⟩ | ⟨reply, t, -, hm, hd, ht⟩
      · have hnot := hbefore _ hp
        simp [Task.isFinished, hover] at hnot
      · rw [hd]
        exact Task.meets_settle Selection.Step.foretold (Task.foretold_ofWish _ wish) sel ht.symm
      · rw [hd]
        have hmem := mem_of_task? hm
        refine Task.meets_settle Selection.Step.foretold
          (Task.foretold_answered (hcalm.rests _ hmem) ?_ ?_ reply) sel ht.symm
        · exact hbefore t hmem
        · rintro s rfl
          exact hchosen id s hmem
    have hstage : sel.stage = .finished o := by
      unfold Selection.outcome? at hover
      split at hover <;> simp_all
    rw [Selection.Foretold, hstage] at hforetold
    obtain ⟨c, hc, hidle, hhidden, hshown⟩ := hforetold ho
    exact ⟨c, hc, hidle, hhidden, hshown, hshown.told ho⟩

/-- A change is refused, and the graph cannot be fetched. -/
def refusal : Event :=
  .answer 0 (.setState (.ok ⟨409, ⟨false, none, none, none, some "Gesperrt."⟩⟩))

theorem outcome_shown_refusal :
    ∃ c, ((sample.turns [.begin 0 (.select sampleSeat " cancel ")]).turn refusal).desk.control?
        sampleSeat = some c ∧
      c.view.busy = false ∧ c.view.progress = false ∧
      (Outcome.rejected none "Gesperrt.").Shown "cancel" c.view := by
  have hbefore : ∀ t,
      (0, t) ∈ (sample.turns [.begin 0 (.select sampleSeat " cancel ")]).tasks →
        t.isFinished = false := by
    rintro t (_ | ⟨_, ⟨⟩⟩)
    rfl
  have hafter : (0, Task.selection ⟨sampleSeat, " cancel ", samplePage.map fun x =>
      ⟨0, x.order, x.scope⟩, .finished (.rejected none "Gesperrt.")⟩) ∈
        ((sample.turns [.begin 0 (.select sampleSeat " cancel ")]).turn refusal).tasks :=
    .head _
  obtain ⟨-, c, hc, hidle, hhidden, hshown, -⟩ := outcome_shown sampleStore Schedule.usual
    samplePage (by decide) hbefore hafter rfl (by simp)
  exact ⟨c, hc, hidle, hhidden, hshown⟩

end Session
end OrderDesk
