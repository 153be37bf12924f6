import OrderDesk.Proofs.Run
import OrderDesk.Proofs.Settling

/-! Turns. When tasks switch only where they wait for the backend, an event that lets a task go on
lets it go on to where it rests, and between any two events all tasks rest. -/
namespace OrderDesk

variable {s s' : Session} {t : Task} {id other : Nat} {e : Event} {es : List Event} {d : Desk}

theorem Task.step_of_rests (hr : t.rests = true) : t.step d = (d, t) := by
  have hsame : ∀ {s : Selection} {stage : Stage}, s.stage = stage → s.moveTo stage = s := by
    rintro s _ rfl
    rfl
  cases resting_of_rests hr with
  | sent hs | asked hs | ended hs => simp [step, Selection.step, Refresh.step, hs, hsame hs]
  | _ => rfl

/-- An event, and the steps of the task that it begins or answers up to where it rests. -/
def Event.toRest : Event → List Event
  | .begin id wish => [.begin id wish, .settle id]
  | .answer id reply => [.answer id reply, .settle id]
  | e => [e]

theorem Event.mem_toRest {f : Event} (h : f ∈ e.toRest) : f = e ∨ ∃ id, f = .settle id := by
  cases e with
  | begin id wish =>
    simp only [toRest, List.mem_cons, List.not_mem_nil, or_false] at h
    exact h.imp_right fun hf => ⟨id, hf⟩
  | answer id reply =>
    simp only [toRest, List.mem_cons, List.not_mem_nil, or_false] at h
    exact h.imp_right fun hf => ⟨id, hf⟩
  | _ => exact Or.inl (List.mem_singleton.mp h)

/-- The number of the task that an event is about. -/
def Event.id? : Event → Option Nat
  | .begin id _ | .step id | .settle id | .answer id _ | .drop id => some id
  | _ => none

namespace Session

/-- A session after an event and all that the task does on it. -/
def turn (s : Session) (e : Event) : Session := s.play e.toRest

/-- A session after the turns of a row of events. -/
def turns (s : Session) (es : List Event) : Session :=
  es.foldl turn s

@[simp] theorem turns_nil (s : Session) : s.turns [] = s := rfl

@[simp] theorem turns_cons (s : Session) (e : Event) (es : List Event) :
    s.turns (e :: es) = (s.turn e).turns es := rfl

theorem turns_append (s : Session) (es fs : List Event) :
    s.turns (es ++ fs) = (s.turns es).turns fs := by
  simp [turns]

/-- Tasks have numbers of their own, and all of them rest. -/
structure Calm (s : Session) : Prop where
  numbered : s.Numbered
  rests : ∀ p ∈ s.tasks, p.2.rests = true

/-- What a turn comes to when all tasks rest before it. -/
inductive Turn (s : Session) : Event → Session → Prop where
  | still {e : Event} : (∀ id reply, e = .answer id reply → s.task? id = none) → Turn s e s
  | begun {id : Nat} {wish : Wish} : s.task? id = none →
      Turn s (.begin id wish) { s with
        desk := ((Task.ofWish s.desk wish).settle s.desk).1
        tasks := s.tasks ++ [(id, ((Task.ofWish s.desk wish).settle s.desk).2)] }
  | answered {id : Nat} {reply : Reply} {t : Task} : s.task? id = some t →
      Turn s (.answer id reply)
        (s.put id ((t.answered s.desk reply).2.settle (t.answered s.desk reply).1))
  | dropped {id : Nat} {t : Task} : s.task? id = some t →
      Turn s (.drop id) { s.remove id with desk := t.dropped s.desk }
  | other {e : Event} : e.id? = none → Turn s e (s.apply e)

theorem settle_calm (hs : s.Calm) (id : Nat) : s.apply (.settle id) = s := by
  cases h : s.task? id with
  | none => simp [apply, h]
  | some t =>
    have hr := hs.rests _ (mem_of_task? h)
    simpa [apply, h, Task.settle_of_rests hr] using put_self hs.numbered h

theorem step_calm (hs : s.Calm) (id : Nat) : s.apply (.step id) = s := by
  cases h : s.task? id with
  | none => simp [apply, h]
  | some t =>
    have hr := hs.rests _ (mem_of_task? h)
    simpa [apply, h, Task.step_of_rests hr] using put_self hs.numbered h

theorem task?_begin (h : s.task? id = none) (wish : Wish) :
    (s.apply (.begin id wish)).task? id = some (.ofWish s.desk wish) := by
  have hnone : s.tasks.find? (fun q => q.1 == id) = none := Option.map_eq_none_iff.mp h
  simp only [apply, h, Option.isSome_none, Bool.false_eq_true, if_false]
  simp [task?, List.find?_append, hnone]

theorem turn_begin (h : s.task? id = none) (wish : Wish) :
    s.turn (.begin id wish) = { s with
      desk := ((Task.ofWish s.desk wish).settle s.desk).1
      tasks := s.tasks ++ [(id, ((Task.ofWish s.desk wish).settle s.desk).2)] } := by
  have hnone := List.find?_eq_none.mp (Option.map_eq_none_iff.mp h)
  have hne : ∀ q ∈ s.tasks, q.1 ≠ id := fun q hq => by simpa using hnone q hq
  have hmap : ∀ r : Task, s.tasks.map (fun q => if q.1 = id then (id, r) else q) = s.tasks :=
    fun r => (List.map_congr_left fun q hq => if_neg (hne q hq)).trans (List.map_id' _)
  have hbegin : s.apply (.begin id wish) =
      { s with tasks := s.tasks ++ [(id, Task.ofWish s.desk wish)] } := by simp [apply, h]
  change (s.apply (.begin id wish)).apply (.settle id) = _
  have hfound := task?_begin h wish
  rw [hbegin] at hfound ⊢
  simp [apply, hfound, put, hmap]

theorem turn_answer (h : s.task? id = some t) (reply : Reply) :
    s.turn (.answer id reply) =
      s.put id ((t.answered s.desk reply).2.settle (t.answered s.desk reply).1) := by
  simp [turn, Event.toRest, apply, h, task?_put h, put_put]
  rfl

theorem turn_drop (h : s.task? id = some t) :
    s.turn (.drop id) = { s.remove id with desk := t.dropped s.desk } := by
  simp [turn, Event.toRest, apply, h]

theorem turn_hold (s : Session) (seat : Seat) : s.turn (.hold seat) =
    (s.desk.claim? seat).elim s fun d => { s with desk := d, held := seat :: s.held } := rfl

theorem turn_release (s : Session) (seat : Seat) : s.turn (.release seat) =
    if seat ∈ s.held then
      { s with desk := s.desk.touch seat .release, held := s.held.erase seat }
    else s := rfl

/-- Whether an event is lost when all tasks rest: it begins a task under a number that is taken, is
for a task that is not there, or lets one go on that rests. -/
def loses (s : Session) : Event → Bool
  | .begin id _ => (s.task? id).isSome
  | .step _ | .settle _ => true
  | .answer id _ | .drop id => (s.task? id).isNone
  | _ => false

theorem turn_of_loses (hs : s.Calm) (h : s.loses e = true) : s.turn e = s := by
  cases e with
  | begin id wish =>
    obtain ⟨t, ht⟩ := Option.isSome_iff_exists.mp h
    simpa [turn, Event.toRest, apply, ht] using settle_calm hs id
  | step id => exact step_calm hs id
  | settle id => exact settle_calm hs id
  | answer id reply | drop id =>
    have hnone : s.task? id = none := by simpa [loses] using h
    simp [turn, Event.toRest, apply, hnone]
  | _ => cases h

theorem turn_spec (hs : s.Calm) (e : Event) : s.Turn e (s.turn e) := by
  cases hl : s.loses e with
  | true =>
    refine (turn_of_loses hs hl).symm ▸ .still ?_
    rintro id reply rfl
    simpa [loses] using hl
  | false =>
    cases e with
    | begin id wish =>
      have hnone : s.task? id = none := by simpa [loses] using hl
      exact turn_begin hnone wish ▸ .begun hnone
    | answer id reply =>
      obtain ⟨t, ht⟩ := Option.isSome_iff_exists.mp (by simpa [loses] using hl)
      exact turn_answer ht reply ▸ .answered ht
    | drop id =>
      obtain ⟨t, ht⟩ := Option.isSome_iff_exists.mp (by simpa [loses] using hl)
      exact turn_drop ht ▸ .dropped ht
    | step | settle => cases hl
    | _ => exact .other rfl

/-- An event that is about no task leaves all tasks as they are. -/
theorem tasks_apply (h : e.id? = none) : (s.apply e).tasks = s.tasks := by
  cases e with
  | hold seat =>
    simp only [apply]
    cases s.desk.claim? seat <;> rfl
  | release seat =>
    simp only [apply]
    split <;> rfl
  | begin | step | settle | answer | drop => simp [Event.id?] at h
  | _ => rfl

theorem task?_put_of_ne {r : Desk × Task} (h : other ≠ id) :
    (s.put other r).task? id = s.task? id := by
  have hid : (fun q : Nat × Task => q.1 == id) ∘
      (fun q => if q.1 = other then (other, r.2) else q) = fun q => q.1 == id := by
    funext q
    by_cases hq : q.1 = other <;> simp [hq]
  simp only [task?, put, List.find?_map, hid, Option.map_map]
  refine Option.map_congr fun q hq => ?_
  have hq1 : q.1 = id := by simpa using List.find?_some hq
  simp [hq1, Ne.symm h]

theorem task?_remove_of_ne (h : other ≠ id) :
    (s.remove other).task? id = s.task? id := by
  simp only [task?, remove, List.find?_filter]
  congr 2
  funext q
  by_cases hq : q.1 = id <;> simp [hq, Ne.symm h]

theorem task?_begin_of_ne (h : other ≠ id) (wish : Wish) :
    (s.apply (.begin other wish)).task? id = s.task? id := by
  simp only [apply]
  split
  · rfl
  · simp [task?, List.find?_append, h]

/-- An event that is not about a task leaves it where it is. -/
theorem task?_apply_of_ne (h : e.id? ≠ some id) : (s.apply e).task? id = s.task? id := by
  cases hid : e.id? with
  | none => rw [task?, task?, tasks_apply hid]
  | some other =>
    have hne : other ≠ id := fun he => h (hid.trans (congrArg some he))
    have hput : ∀ f : Task → Desk × Task,
        ((s.task? other).elim s fun t => s.put other (f t)).task? id = s.task? id := fun f =>
      elim_task? (P := fun u => u.task? id = s.task? id) rfl fun _ _ => task?_put_of_ne hne
    cases e <;> simp only [Event.id?, Option.some.injEq, reduceCtorEq] at hid <;> subst hid
    case begin wish => exact task?_begin_of_ne hne wish
    case step => exact hput fun t => t.step s.desk
    case settle => exact hput fun t => t.settle s.desk
    case answer reply => exact hput fun t => t.answered s.desk reply
    case drop =>
      refine elim_task? (P := fun u => u.task? id = s.task? id) rfl fun t _ => ?_
      exact task?_remove_of_ne hne

/-- A turn that is not about a task leaves it where it is. -/
theorem task?_turn_of_ne (h : e.id? ≠ some id) : (s.turn e).task? id = s.task? id := by
  have hgo : ∀ other, e.id? = some other → ∀ u : Session,
      (u.apply (.settle other)).task? id = u.task? id := fun other hother u =>
    task?_apply_of_ne fun he => h (hother.trans he)
  cases e with
  | begin other wish | answer other reply => exact (hgo other rfl _).trans (task?_apply_of_ne h)
  | _ => exact task?_apply_of_ne h

theorem task?_turns_of_ne (h : ∀ e ∈ es, e.id? ≠ some id) : (s.turns es).task? id = s.task? id := by
  induction es generalizing s with
  | nil => rfl
  | cons e es ih =>
    exact (ih fun f hf => h f (List.mem_cons_of_mem e hf)).trans
      (task?_turn_of_ne (h e List.mem_cons_self))

/-- Where a task is there, an event about it does nothing but bring it an answer or drop it. -/
theorem turn_eq_self (hs : s.Calm) (ht : s.task? id = some t) (hid : e.id? = some id)
    (ha : ∀ reply, e ≠ .answer id reply) (hd : e ≠ .drop id) : s.turn e = s := by
  refine turn_of_loses hs ?_
  cases e <;> simp only [Event.id?, Option.some.injEq, reduceCtorEq] at hid <;> subst hid
  case begin wish => simp [loses, ht]
  case answer reply => exact absurd rfl (ha reply)
  case drop => exact absurd rfl hd
  all_goals rfl

theorem task?_turn_begin (h : s.task? id = none) (wish : Wish) :
    (s.turn (.begin id wish)).task? id = some ((Task.ofWish s.desk wish).settle s.desk).2 := by
  have hnone := Option.map_eq_none_iff.mp h
  rw [turn_begin h]
  simp [task?, List.find?_append, hnone]

/-- The task of a number after a turn was there before and got no answer, or the turn began it or
brought it its answer. -/
theorem task?_turn_cases (hs : s.Calm) {u : Task} (h : (s.turn e).task? id = some u) :
    (s.task? id = some u ∧ ∀ reply, e ≠ .answer id reply) ∨
    (∃ wish, e = .begin id wish ∧ s.task? id = none ∧
      (s.turn e).desk = ((Task.ofWish s.desk wish).settle s.desk).1 ∧
      u = ((Task.ofWish s.desk wish).settle s.desk).2) ∨
    ∃ reply t, e = .answer id reply ∧ s.task? id = some t ∧
      (s.turn e).desk = ((t.answered s.desk reply).2.settle (t.answered s.desk reply).1).1 ∧
      u = ((t.answered s.desk reply).2.settle (t.answered s.desk reply).1).2 := by
  by_cases hid : e.id? = some id
  · cases ht : s.task? id with
    | none =>
      cases e <;> simp only [Event.id?, Option.some.injEq, reduceCtorEq] at hid <;> subst hid
      case begin id wish =>
        have hu := Option.some.inj (h.symm.trans (task?_turn_begin ht wish))
        exact Or.inr (Or.inl ⟨wish, rfl, rfl, by rw [turn_begin ht], hu⟩)
      all_goals simp [turn, Event.toRest, apply, ht] at h
    | some t =>
      by_cases ha : ∃ reply, e = .answer id reply
      · obtain ⟨reply, rfl⟩ := ha
        have hu := Option.some.inj (h.symm.trans (turn_answer ht reply ▸ task?_put ht))
        exact Or.inr (Or.inr ⟨reply, t, rfl, rfl, by rw [turn_answer ht]; rfl, hu⟩)
      · have ha : ∀ reply, e ≠ .answer id reply := fun reply he => ha ⟨reply, he⟩
        by_cases hd : e = .drop id
        · have hgone : (s.remove id).task? id = none := by simp [task?, remove, List.find?_filter]
          have hturn : (s.turn e).task? id = (s.remove id).task? id := by
            simp only [hd, turn, Event.toRest, play_cons, play_nil, apply, ht]
            rfl
          exact absurd (h.symm.trans (hturn.trans hgone)) (by simp)
        · rw [turn_eq_self hs ht hid ha hd, ht] at h
          exact Or.inl ⟨h, ha⟩
  · refine Or.inl ⟨task?_turn_of_ne hid ▸ h, ?_⟩
    rintro reply rfl
    exact hid rfl

/-- A task after a turn was there before, or the turn began it or brought it its answer. -/
theorem Turn.task_cases (h : s.Turn e s') {p : Nat × Task} (hp : p ∈ s'.tasks) :
    p ∈ s.tasks ∨
    (∃ wish, e = .begin p.1 wish ∧ s'.desk = ((Task.ofWish s.desk wish).settle s.desk).1 ∧
      p.2 = ((Task.ofWish s.desk wish).settle s.desk).2) ∨
    ∃ reply t, e = .answer p.1 reply ∧ s.task? p.1 = some t ∧
      s'.desk = ((t.answered s.desk reply).2.settle (t.answered s.desk reply).1).1 ∧
      p.2 = ((t.answered s.desk reply).2.settle (t.answered s.desk reply).1).2 := by
  cases h with
  | still _ => exact Or.inl hp
  | begun _ =>
    rcases List.mem_append.mp hp with hp | hp
    · exact Or.inl hp
    · obtain rfl := List.mem_singleton.mp hp
      exact Or.inr (Or.inl ⟨_, rfl, rfl, rfl⟩)
  | answered ht =>
    obtain ⟨q, hq, rfl⟩ := List.mem_map.mp hp
    split
    · exact Or.inr (Or.inr ⟨_, _, rfl, ht, rfl, rfl⟩)
    · exact Or.inl hq
  | dropped _ => exact Or.inl (List.mem_of_mem_filter hp)
  | other he => exact Or.inl (tasks_apply he ▸ hp)

theorem calm_turn (hs : s.Calm) (e : Event) : (s.turn e).Calm := by
  refine ⟨?_, fun p hp => ?_⟩
  · exact List.foldlRecOn e.toRest apply hs.numbered fun _ hu f _ => numbered_apply hu f
  · rcases (turn_spec hs e).task_cases hp with hp | ⟨_, -, -, hr⟩ | ⟨_, _, -, -, -, hr⟩
    · exact hs.rests p hp
    · exact hr ▸ Task.settle_rests _ _
    · exact hr ▸ Task.settle_rests _ _

theorem calm_opened (store : Store) (schedule : Schedule) (ds : List Descriptor) :
    (opened store schedule ds).Calm :=
  ⟨List.nodup_nil, fun _ hp => by simp [opened] at hp⟩

theorem calm_turns (hs : s.Calm) (es : List Event) : (s.turns es).Calm :=
  List.foldlRecOn es turn hs fun _ hu e _ => calm_turn hu e

/-- What is so of each selection as it begins, and stays so with its steps, with its answers and
with whatever else happens to the controls, is so of all selections after a turn. -/
theorem meets_turn {P : Desk → Selection → Prop}
    (hstep : ∀ {d sel d' g}, Selection.Step d sel d' g → P d sel → P d' (sel.moveTo g))
    (hanswered : ∀ {d sel} reply, P d sel → P (sel.answered d reply).1 (sel.answered d reply).2)
    (htouched : ∀ {d e sel}, d.Touched e → P d sel → P e sel)
    (hbegin : ∀ id wish, e = .begin id wish → (Task.ofWish s.desk wish).Meets P s.desk)
    (hs : s.Calm) (h : ∀ p ∈ s.tasks, p.2.Meets P s.desk) :
    ∀ p ∈ (s.turn e).tasks, p.2.Meets P (s.turn e).desk := by
  intro p hp
  rcases (turn_spec hs e).task_cases hp with
    hp | ⟨wish, he, hd, ht⟩ | ⟨reply, t, -, hm, hd, ht⟩
  · exact fun sel hsel => htouched (s.play_touched e.toRest) (h p hp sel hsel)
  · rw [hd, ht]
    exact Task.meets_settle hstep (hbegin p.1 wish he)
  · rw [hd, ht]
    refine Task.meets_settle hstep ?_
    exact Task.meets_answered (fun _ hp => hanswered reply hp) (h _ (mem_of_task? hm))

/-- What is so of a task and stays so with each answer that it gets is so in every run of turns up
to where it is dropped. -/
theorem task?_turns_keeps {P : Task → Prop}
    (hP : ∀ d u reply, P u → P ((u.answered d reply).2.settle (u.answered d reply).1).2)
    (hs : s.Calm) (ht : s.task? id = some t) (h : P t) (hes : Event.drop id ∉ es) :
    ∃ u, (s.turns es).task? id = some u ∧ P u := by
  induction es generalizing s t with
  | nil => exact ⟨t, ht, h⟩
  | cons e es ih =>
    have hrest : Event.drop id ∉ es := fun hm => hes (List.mem_cons_of_mem e hm)
    have hne : e ≠ .drop id := fun he => hes (he ▸ List.mem_cons_self)
    by_cases hid : e.id? = some id
    · by_cases ha : ∃ reply, e = .answer id reply
      · obtain ⟨reply, rfl⟩ := ha
        have hu : (s.turn (.answer id reply)).task? id = _ := turn_answer ht reply ▸ task?_put ht
        exact ih (calm_turn hs _) hu (hP s.desk t reply h) hrest
      · have hsame := turn_eq_self hs ht hid (fun reply he => ha ⟨reply, he⟩) hne
        rw [turns_cons, hsame]
        exact ih hs ht h hrest
    · exact ih (calm_turn hs e) ((task?_turn_of_ne hid).trans ht) h hrest

/-- Turns are a run in which tasks go on to where they rest. -/
theorem turns_eq_play (s : Session) (es : List Event) :
    s.turns es = s.play (es.flatMap Event.toRest) := by
  induction es generalizing s with
  | nil => rfl
  | cons e es ih => rw [turns_cons, ih, List.flatMap_cons, play_append, turn]

end Session
end OrderDesk
