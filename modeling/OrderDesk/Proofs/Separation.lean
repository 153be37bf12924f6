import OrderDesk.Proofs.Within

/-! Orders keep to themselves. What happens on other orders is not seen on an order, so long as no
selection there is refused: a run comes, as far as the order goes, to what its own events come to at
their own times. -/
namespace OrderDesk

variable {o : OrderId} {others : Nat → Bool} {s s' : Session} {t : Task} {id : Nat} {e : Event}
  {es fs : List Event} {d d' : Desk} {seat : Seat} {wish : Wish} {qs qs' : List Question}

/-- Whether a wish is for a control of another order. -/
def Wish.isElsewhere (o : OrderId) : Wish → Bool
  | .select seat _ | .submit seat _ _ => seat.order ≠ o
  | .refreshPage | .refreshStore => false

namespace Event

/-- Whether an event may concern an order, when the selections on others have the given numbers. -/
def isFor (o : OrderId) (others : Nat → Bool) : Event → Bool
  | .begin id _ | .step id | .settle id | .answer id _ | .drop id => !others id
  | .fire timer => timer.seat.order = o
  | .hold seat | .release seat | .touch seat _ => seat.order = o
  | .pass _ => false
  | .repopulate | .replace _ | .persist | .restore => true

/-- An event that numbers the selections on other orders as given, and refuses none of them. -/
def isApart (o : OrderId) (others : Nat → Bool) : Event → Bool
  | .begin id wish => others id == wish.isElsewhere o
  | .answer id reply => !(others id && reply.isRefusal)
  | _ => true

/-- The time after an event. -/
def clock (now : Nat) : Event → Nat
  | .pass time => now + time
  | _ => now

/-- The events of a kind in a row of events, each with the time at which it happens. -/
def timed (kind : Event → Bool) (now : Nat) : List Event → List (Nat × Event)
  | [] => []
  | e :: es =>
    if kind e then (now, e) :: timed kind (e.clock now) es else timed kind (e.clock now) es

end Event

namespace Task

theorem now_step (d : Desk) (t : Task) : (t.step d).1.now = d.now := by
  cases t with
  | selection s =>
    obtain ⟨d', g, he, h⟩ := s.step_spec d
    obtain ⟨deed, rfl, -⟩ := h.deed ⟨rfl, rfl, fun _ _ _ _ => rfl⟩
    rw [step, he]
    exact deed.now_run d
  | pageRefresh page r =>
    obtain ⟨d', r', he, h⟩ := r.step_spec d page
    obtain ⟨deed, rfl, -⟩ := h.deed rfl fun _ => rfl
    rw [step, he]
    exact deed.now_run d
  | storeRefresh r => exact Deed.now_run d (.refresh r)

theorem now_settle (d : Desk) (t : Task) : (t.settle d).1.now = d.now :=
  settle_keeps (P := fun e _ => e.now = d.now) (fun e t h _ => (now_step e t).trans h) rfl

theorem ofWish_within (h : d.within o = d'.within o) (wish : Wish) :
    ofWish d wish = ofWish d' wish := by
  cases wish with
  | select seat action =>
    have hseats : d.seatsOn seat.page = d'.seatsOn seat.page := by
      rw [← Desk.seatsOn_within o d, h, Desk.seatsOn_within]
    simp [ofWish, hseats]
  | refreshPage => simp [ofWish, Desk.page, Desk.pages_of_within h]
  | _ => rfl

theorem ofWish_isFor (h : wish.isElsewhere o = false) (d : Desk) : (ofWish d wish).IsFor o := by
  cases wish with
  | select seat action | submit seat action seats =>
    have horder : seat.order = o := by simpa [Wish.isElsewhere] using h
    exact horder
  | _ => trivial

theorem ofWish_aloof (h : wish.isElsewhere o = true) (d : Desk) : (ofWish d wish).IsAloof o := by
  cases wish with
  | select seat action | submit seat action seats =>
    have horder : seat.order ≠ o := by simpa [Wish.isElsewhere] using h
    exact ⟨horder, trivial⟩
  | refreshPage | refreshStore => cases h

/-- A task that gets an answer at two desks that are alike within its order comes to the same. -/
theorem settle_answered_twins (h : Desk.Twins o qs qs' d d') (hr : t.rests = true)
    (hf : t.IsFor o) (reply : Reply) :
    ((t.answered d reply).2.settle (t.answered d reply).1).2 =
      ((t.answered d' reply).2.settle (t.answered d' reply).1).2 ∧
    Desk.Twins o qs qs' ((t.answered d reply).2.settle (t.answered d reply).1).1
      ((t.answered d' reply).2.settle (t.answered d' reply).1).1 := by
  have ho := (t.answered_frame d reply default).2.2 (orderly_of_rests hr)
  have hfor := answered_isFor hf d reply
  obtain ⟨deed, hd, hd', -⟩ := answered_deed d d' t reply
  rw [hd'] at *
  rw [hd]
  exact settle_twins (h.run deed) ho hfor

theorem dropped_twins (h : Desk.Twins o qs qs' d d') (t : Task) :
    Desk.Twins o qs qs' (t.dropped d) (t.dropped d') := by
  obtain ⟨first, last, hd, hd', -, -⟩ := dropped_deeds d d' t
  rw [hd, hd']
  exact (h.run first).run last

end Task

namespace Session

/-- A session in which each selection has the number of its kind, and none on another order is
refused. -/
structure Apart (o : OrderId) (others : Nat → Bool) (s : Session) : Prop where
  calm : s.Calm
  own : ∀ p ∈ s.tasks, others p.1 = false → p.2.IsFor o
  aloof : ∀ p ∈ s.tasks, others p.1 = true → p.2.IsAloof o

theorem apart_opened (store : Store) (schedule : Schedule) (ds : List Descriptor) :
    (opened store schedule ds).Apart o others :=
  ⟨calm_opened store schedule ds, fun _ hp => by simp [opened] at hp,
    fun _ hp => by simp [opened] at hp⟩

/-- Selections keep to their kinds. -/
theorem apart_turn (hs : s.Apart o others) (he : e.isApart o others = true) :
    (s.turn e).Apart o others := by
  have hkind : ∀ p ∈ (s.turn e).tasks,
      (others p.1 = false → p.2.IsFor o) ∧ (others p.1 = true → p.2.IsAloof o) := by
    intro p hp
    rcases (turn_spec hs.calm e).task_cases hp with
      hold | ⟨wish, rfl, -, ht⟩ | ⟨reply, t, rfl, hm, -, ht⟩
    · exact ⟨hs.own p hold, hs.aloof p hold⟩
    · have hwish : others p.1 = wish.isElsewhere o := by simpa [Event.isApart] using he
      rw [ht, hwish]
      exact ⟨fun h => Task.settle_isFor (Task.ofWish_isFor h _) _,
        fun h => (Task.settle_aloof (Task.ofWish_aloof h _) _).2⟩
    · have hm := mem_of_task? hm
      rw [ht]
      refine ⟨fun h => Task.settle_isFor (Task.answered_isFor (hs.own _ hm h) _ _) _, fun h => ?_⟩
      have hreply : reply.isRefusal = false := by simpa [Event.isApart, h] using he
      exact (Task.settle_aloof (Task.answered_aloof (hs.aloof _ hm h) _ hreply).2 _).2
  exact ⟨calm_turn hs.calm e, fun p hp => (hkind p hp).1, fun p hp => (hkind p hp).2⟩

theorem now_apply (s : Session) (e : Event) : (s.apply e).desk.now = e.clock s.desk.now := by
  cases e with
  | begin id wish =>
    simp only [apply]
    split <;> rfl
  | step id =>
    exact elim_task? (P := fun u => u.desk.now = s.desk.now) rfl fun t _ => t.now_step s.desk
  | settle id =>
    exact elim_task? (P := fun u => u.desk.now = s.desk.now) rfl fun t _ => t.now_settle s.desk
  | answer id reply =>
    refine elim_task? (P := fun u => u.desk.now = s.desk.now) rfl fun t _ => ?_
    obtain ⟨deed, hd, -⟩ := Task.answered_deed s.desk s.desk t reply
    exact (congrArg (fun r : Desk × Task => r.1.now) hd).trans (deed.now_run s.desk)
  | drop id =>
    refine elim_task? (P := fun u => u.desk.now = s.desk.now) rfl fun t _ => ?_
    obtain ⟨first, last, hd, -⟩ := Task.dropped_deeds s.desk s.desk t
    exact (congrArg Desk.now hd).trans ((last.now_run _).trans (first.now_run _))
  | hold seat =>
    simp only [apply, Desk.claim?]
    split <;> rfl
  | release seat =>
    simp only [apply]
    split <;> rfl
  | repopulate =>
    simp only [apply, Desk.repopulate, Desk.perform_eq]
    rfl
  | _ => rfl

theorem now_play (s : Session) (es : List Event) :
    (s.play es).desk.now = es.foldl Event.clock s.desk.now := by
  induction es generalizing s with
  | nil => rfl
  | cons e es ih => rw [play_cons, ih, now_apply, List.foldl_cons]

theorem now_turn (s : Session) (e : Event) : (s.turn e).desk.now = e.clock s.desk.now := by
  rw [turn, now_play]
  cases e <;> rfl

/-- The tasks of a session but those of other orders. -/
def tasksFor (s : Session) (others : Nat → Bool) : List (Nat × Task) :=
  s.tasks.filter fun p => !others p.1

/-- The claims on controls of an order that are held apart from any task. -/
def heldFor (s : Session) (o : OrderId) : List Seat :=
  s.held.filter fun seat => seat.order = o

/-- A task that is not one of another order is found among those of the order. -/
theorem task?_eq_tasksFor (h : others id = false) (s : Session) :
    s.task? id = ((s.tasksFor others).find? fun p => p.1 == id).map (·.2) := by
  simp only [task?, tasksFor, List.find?_filter]
  congr 2
  funext q
  by_cases hq : q.1 = id <;> simp [hq, h]

theorem tasksFor_put (s : Session) (id : Nat) (r : Desk × Task) :
    (s.put id r).tasksFor others =
      (s.tasksFor others).map fun q => if q.1 = id then (id, r.2) else q := by
  simp only [put, tasksFor, List.filter_map]
  congr 1
  refine List.filter_congr fun q _ => ?_
  by_cases hq : q.1 = id <;> simp [hq]

theorem tasksFor_remove (s : Session) (id : Nat) :
    (s.remove id).tasksFor others = (s.tasksFor others).filter fun q => q.1 != id := by
  simp [remove, tasksFor, List.filter_filter, Bool.and_comm]

/-- Two sessions that are alike within an order. -/
structure Alike (o : OrderId) (others : Nat → Bool) (s s' : Session) : Prop where
  desk : s.desk.within o = s'.desk.within o
  tasks : s.tasksFor others = s'.tasksFor others
  held : s.heldFor o = s'.heldFor o

/-- Two sessions that are alike within an order at one time, when the same has been asked in
both. -/
structure Twins (o : OrderId) (others : Nat → Bool) (qs qs' : List Question) (s s' : Session) :
    Prop where
  desk : Desk.Twins o qs qs' s.desk s'.desk
  tasks : s.tasksFor others = s'.tasksFor others
  held : s.heldFor o = s'.heldFor o

theorem Alike.twins (h : Alike o others s s') (hn : s.desk.now = s'.desk.now) :
    Twins o others s.desk.questions s'.desk.questions s s' :=
  ⟨.refl h.desk hn, h.tasks, h.held⟩

theorem Twins.alike (h : Twins o others qs qs' s s') : Alike o others s s' :=
  ⟨h.desk.within, h.tasks, h.held⟩

namespace Twins

variable (h : Twins o others qs qs' s s')
include h

theorem task?_eq (hid : others id = false) : s'.task? id = s.task? id := by
  rw [task?_eq_tasksFor hid, ← h.tasks, ← task?_eq_tasksFor hid]

theorem begun (hid : others id = false) (hwish : wish.isElsewhere o = false)
    (hnone : s.task? id = none) :
    Twins o others qs qs' (s.turn (.begin id wish)) (s'.turn (.begin id wish)) := by
  obtain ⟨hsame, hend⟩ := Task.settle_twins h.desk (Task.ofWish_idle s.desk wish default).2
    (Task.ofWish_isFor hwish s.desk)
  rw [turn_begin hnone, turn_begin ((h.task?_eq hid).trans hnone),
    ← Task.ofWish_within h.desk.within]
  refine ⟨hend, ?_, h.held⟩
  have htasks := h.tasks
  simp only [tasksFor] at htasks ⊢
  rw [List.filter_append, List.filter_append, htasks, hsame]

theorem answered (hid : others id = false) (ht : s.task? id = some t) (hr : t.rests = true)
    (hf : t.IsFor o) (reply : Reply) :
    Twins o others qs qs' (s.turn (.answer id reply)) (s'.turn (.answer id reply)) := by
  obtain ⟨hsame, hend⟩ := Task.settle_answered_twins h.desk hr hf reply
  rw [turn_answer ht, turn_answer ((h.task?_eq hid).trans ht)]
  refine ⟨hend, ?_, h.held⟩
  rw [tasksFor_put, tasksFor_put, h.tasks, hsame]

theorem dropped (hid : others id = false) (ht : s.task? id = some t) :
    Twins o others qs qs' (s.turn (.drop id)) (s'.turn (.drop id)) := by
  rw [turn_drop ht, turn_drop ((h.task?_eq hid).trans ht)]
  refine ⟨Task.dropped_twins h.desk t, ?_, h.held⟩
  have htasks : (s.remove id).tasksFor others = (s'.remove id).tasksFor others := by
    rw [tasksFor_remove, tasksFor_remove, h.tasks]
  exact htasks

theorem claimed (hseat : seat.order = o) :
    Twins o others qs qs' (s.turn (.hold seat)) (s'.turn (.hold seat)) := by
  have hheld := h.held
  rw [turn_hold, turn_hold, Desk.claim?, Desk.claim?, Desk.isBusy, Desk.isBusy,
    Desk.control?_of_within h.desk.within hseat]
  split
  · refine ⟨h.desk.run (.touch seat .claim), h.tasks, ?_⟩
    simp only [heldFor] at hheld ⊢
    simp [hseat, hheld]
  · exact h

theorem released (hseat : seat.order = o) :
    Twins o others qs qs' (s.turn (.release seat)) (s'.turn (.release seat)) := by
  have hmem : seat ∈ s.held ↔ seat ∈ s'.held := by
    have hm : seat ∈ s.heldFor o ↔ seat ∈ s'.heldFor o := by rw [h.held]
    simpa [heldFor, List.mem_filter, hseat] using hm
  rw [turn_release, turn_release]
  by_cases hin : seat ∈ s.held
  · rw [if_pos hin, if_pos (hmem.mp hin)]
    refine ⟨h.desk.run (.touch seat .release), h.tasks, ?_⟩
    have herase := congrArg (List.erase · seat) h.held
    simpa only [heldFor, List.erase_filter] using herase
  · rw [if_neg hin, if_neg (mt hmem.mpr hin)]
    exact h

/-- An event for the order is lost in both sessions or in neither. -/
theorem loses_eq (hfor : e.isFor o others = true) : s'.loses e = s.loses e := by
  cases e with
  | begin id _ | answer id _ | drop id =>
    have hid : others id = false := by simpa [Event.isFor] using hfor
    simp only [loses, h.task?_eq hid]
  | _ => rfl

/-- An event for the order comes to the same in both sessions. -/
theorem turn (hs : s.Apart o others) (hs' : s'.Calm) (he : e.isApart o others = true)
    (hfor : e.isFor o others = true) : Twins o others qs qs' (s.turn e) (s'.turn e) := by
  cases hl : s.loses e with
  | true =>
    rw [turn_of_loses hs.calm hl, turn_of_loses hs' ((h.loses_eq hfor).trans hl)]
    exact h
  | false =>
    cases e with
    | begin id wish =>
      have hid : others id = false := by simpa [Event.isFor] using hfor
      exact h.begun hid (by simpa [Event.isApart, hid] using he) (by simpa [loses] using hl)
    | answer id reply =>
      have hid : others id = false := by simpa [Event.isFor] using hfor
      obtain ⟨t, ht⟩ := Option.isSome_iff_exists.mp (by simpa [loses] using hl)
      have hm := mem_of_task? ht
      exact h.answered hid ht (hs.calm.rests _ hm) (hs.own _ hm hid) reply
    | drop id =>
      have hid : others id = false := by simpa [Event.isFor] using hfor
      obtain ⟨t, ht⟩ := Option.isSome_iff_exists.mp (by simpa [loses] using hl)
      exact h.dropped hid ht
    | fire timer =>
      refine ⟨⟨?_, h.desk.now, h.desk.asked⟩, h.tasks, h.held⟩
      exact Desk.within_fire_congr h.desk.within timer
    | hold seat => exact h.claimed (by simpa [Event.isFor] using hfor)
    | release seat => exact h.released (by simpa [Event.isFor] using hfor)
    | touch seat u => exact ⟨h.desk.run (.touch seat u), h.tasks, h.held⟩
    | repopulate =>
      have hpage : s'.desk.page = s.desk.page := by
        rw [Desk.page, Desk.page, Desk.pages_of_within h.desk.within]
      have hrow := Desk.repopulation_of_within h.desk.within s.desk.page
      exact ⟨h.desk.perform (hrow.trans (by rw [hpage])), h.tasks, h.held⟩
    | replace graph => exact ⟨h.desk.store fun store => store.replace graph, h.tasks, h.held⟩
    | persist => exact ⟨h.desk.store fun store => store.persist.1, h.tasks, h.held⟩
    | restore => exact ⟨h.desk.store fun store => store.restore.1, h.tasks, h.held⟩
    | step | settle => cases hl
    | pass time => cases hfor

end Twins

/-- A number that no task of the order has is put in place unseen. -/
theorem tasksFor_put_of_other (hid : others id = true) (s : Session) (r : Desk × Task) :
    (s.put id r).tasksFor others = s.tasksFor others := by
  rw [tasksFor_put]
  refine (List.map_congr_left fun q hq => if_neg ?_).trans (List.map_id' _)
  rintro rfl
  simp [tasksFor, hid] at hq

/-- What happens on other orders is not seen on the order. -/
theorem turn_elsewhere (hs : s.Apart o others) (he : e.isApart o others = true)
    (hfor : e.isFor o others = false) : Alike o others (s.turn e) s := by
  have hsame : Alike o others s s := ⟨rfl, rfl, rfl⟩
  cases hl : s.loses e with
  | true => rwa [turn_of_loses hs.calm hl]
  | false =>
    cases e with
    | begin id wish =>
      have hid : others id = true := by simpa [Event.isFor] using hfor
      have hwish : wish.isElsewhere o = true := by simpa [Event.isApart, hid] using he
      rw [turn_begin (by simpa [loses] using hl)]
      refine ⟨(Task.settle_aloof (Task.ofWish_aloof hwish _) _).1, ?_, rfl⟩
      simp [tasksFor, hid]
    | answer id reply =>
      have hid : others id = true := by simpa [Event.isFor] using hfor
      have hreply : reply.isRefusal = false := by simpa [Event.isApart, hid] using he
      obtain ⟨t, ht⟩ := Option.isSome_iff_exists.mp (by simpa [loses] using hl)
      obtain ⟨hanswered, hafter⟩ :=
        Task.answered_aloof (hs.aloof _ (mem_of_task? ht) hid) s.desk hreply
      rw [turn_answer ht]
      refine ⟨?_, tasksFor_put_of_other hid s _, rfl⟩
      exact (Task.settle_aloof hafter _).1.trans hanswered
    | drop id =>
      have hid : others id = true := by simpa [Event.isFor] using hfor
      obtain ⟨t, ht⟩ := Option.isSome_iff_exists.mp (by simpa [loses] using hl)
      rw [turn_drop ht]
      refine ⟨Task.dropped_aloof (hs.aloof _ (mem_of_task? ht) hid) s.desk, ?_, rfl⟩
      refine (tasksFor_remove s id).trans (List.filter_eq_self.mpr fun q hq => ?_)
      have hne : q.1 ≠ id := by
        rintro rfl
        simp [tasksFor, hid] at hq
      simpa using hne
    | fire timer =>
      have hseat : timer.seat.order ≠ o := by simpa [Event.isFor] using hfor
      exact ⟨Desk.within_fire_of_ne hseat s.desk, rfl, rfl⟩
    | pass time => exact ⟨rfl, rfl, rfl⟩
    | hold seat =>
      have hseat : seat.order ≠ o := by simpa [Event.isFor] using hfor
      rw [turn_hold, Desk.claim?]
      split
      · exact ⟨Desk.within_touch_of_ne hseat _, rfl, by simp [heldFor, hseat]⟩
      · exact hsame
    | release seat =>
      have hseat : seat.order ≠ o := by simpa [Event.isFor] using hfor
      rw [turn_release]
      split
      · refine ⟨Desk.within_touch_of_ne hseat _, rfl, ?_⟩
        have hnot : seat ∉ s.heldFor o := by simp [heldFor, hseat]
        simpa only [heldFor, List.erase_filter] using List.erase_of_not_mem hnot
      · exact hsame
    | touch seat u =>
      have hseat : seat.order ≠ o := by simpa [Event.isFor] using hfor
      exact ⟨Desk.within_touch_of_ne hseat u, rfl, rfl⟩
    | step | settle => cases hl
    | repopulate | replace | persist | restore => cases hfor

theorem calls_append (s : Session) (es fs : List Event) :
    s.calls (es ++ fs) = s.calls es ++ (s.play es).calls fs := by
  induction es generalizing s with
  | nil => rfl
  | cons e es ih => rw [List.cons_append, calls, ih, calls, List.append_assoc, play_cons]

/-- What is asked in a turn is asked under the number of its task. -/
theorem calls_turn (s : Session) (e : Event) :
    s.calls e.toRest = ((s.calls e.toRest).map (·.2)).map fun q => (e.id?, q) := by
  cases e <;> simp [Event.toRest, calls, Event.id?, Function.comp_def]

/-- In a turn that is about no task nothing is asked. -/
theorem calls_turn_none (h : e.id? = none) (s : Session) : s.calls e.toRest = [] := by
  have hone : e.toRest = [e] := by cases e <;> first | rfl | cases h
  have hnone : s.asked e = [] := by
    rcases s.apply_asked_cases e with hasked | ⟨_, _, rfl | rfl, -⟩
    · exact asked_eq hasked
    · cases h
    · cases h
  rw [hone, calls, calls, hnone]
  rfl

/-- The questions that a run asks but for selections on other orders. -/
def callsFor (s : Session) (others : Nat → Bool) (es : List Event) :
    List (Option Nat × Question) :=
  (s.calls es).filter fun c => !c.1.any others

theorem callsFor_append (s : Session) (es fs : List Event) :
    s.callsFor others (es ++ fs) = s.callsFor others es ++ (s.play es).callsFor others fs := by
  rw [callsFor, calls_append, List.filter_append]
  rfl

theorem Twins.calls_eq
    (h : Twins o others s.desk.questions s'.desk.questions (s.turn e) (s'.turn e)) :
    s.calls e.toRest = s'.calls e.toRest := by
  obtain ⟨rs, hrs, hrs'⟩ := h.desk.asked
  have hasked := (s.play_asked e.toRest).questions
  have hasked' := (s'.play_asked e.toRest).questions
  have hsame : (s.calls e.toRest).map (·.2) = rs :=
    List.append_cancel_left (hasked.symm.trans hrs)
  have hsame' : (s'.calls e.toRest).map (·.2) = rs :=
    List.append_cancel_left (hasked'.symm.trans hrs')
  rw [calls_turn s, calls_turn s', hsame, hsame']

theorem callsFor_elsewhere (hfor : e.isFor o others = false) (s : Session) :
    s.callsFor others e.toRest = [] := by
  cases hid : e.id? with
  | none => rw [callsFor, calls_turn_none hid, List.filter_nil]
  | some id =>
    have hother : others id = true := by
      cases e <;> simp_all [Event.isFor, Event.id?]
    rw [callsFor, calls_turn, hid]
    refine List.filter_eq_nil_iff.mpr fun c hc => ?_
    obtain ⟨q, -, rfl⟩ := List.mem_map.mp hc
    simp [hother]

/-- A session at another time. -/
def atTime (s : Session) (now : Nat) : Session := { s with desk := { s.desk with now := now } }

/-- A session after a row of turns, each at its own time. -/
def resume (s : Session) : List (Nat × Event) → Session
  | [] => s
  | (now, e) :: rest => ((s.atTime now).turn e).resume rest

/-- The questions that a row of turns asks, each at its own time, but for selections on other
orders. -/
def resumedCalls (s : Session) (others : Nat → Bool) :
    List (Nat × Event) → List (Option Nat × Question)
  | [] => []
  | (now, e) :: rest =>
    (s.atTime now).callsFor others e.toRest ++
      ((s.atTime now).turn e).resumedCalls others rest

/-- As far as an order goes, a run comes to what the events for the order come to at their own
times. -/
theorem turns_timed (hs : s.Apart o others) (hs' : s'.Calm) (h : Alike o others s s')
    (hes : ∀ e ∈ es, e.isApart o others = true) :
    Alike o others (s.turns es)
      (s'.resume (Event.timed (Event.isFor o others) s.desk.now es)) ∧
    s.callsFor others (es.flatMap Event.toRest) =
      s'.resumedCalls others (Event.timed (Event.isFor o others) s.desk.now es) := by
  induction es generalizing s s' with
  | nil => exact ⟨h, rfl⟩
  | cons e es ih =>
    have he := hes e List.mem_cons_self
    have hafter := apart_turn hs he
    have hrest : ∀ f ∈ es, f.isApart o others = true := fun f hf =>
      hes f (List.mem_cons_of_mem e hf)
    rw [turns_cons, List.flatMap_cons, callsFor_append, Event.timed, ← now_turn]
    cases hfor : e.isFor o others with
    | true =>
      -- The clock of the other session may stand anywhere. It is set, and that alters nothing else.
      have hset : Alike o others s (s'.atTime s.desk.now) := ⟨h.desk, h.tasks, h.held⟩
      have hcalm : (s'.atTime s.desk.now).Calm := ⟨hs'.numbered, hs'.rests⟩
      have htwins := (hset.twins rfl).turn hs hcalm he hfor
      obtain ⟨hend, hcalls⟩ := ih hafter (calm_turn hcalm e) htwins.alike hrest
      refine ⟨hend, ?_⟩
      rw [if_pos rfl, resumedCalls, ← hcalls, callsFor, htwins.calls_eq]
      rfl
    | false =>
      have hsame := turn_elsewhere hs he hfor
      have halike : Alike o others (s.turn e) s' :=
        ⟨hsame.desk.trans h.desk, hsame.tasks.trans h.tasks, hsame.held.trans h.held⟩
      obtain ⟨hend, hcalls⟩ := ih hafter hs' halike hrest
      refine ⟨hend, ?_⟩
      rw [if_neg (by simp), callsFor_elsewhere hfor, ← hcalls]
      rfl

/-- Orders keep to themselves. Two runs at one page in which the same happens at the same times but
for selections on other orders than one, none of which is refused, have the same controls of that
order, the same tasks but for those selections, with the same outcomes, the same questions to the
backend but for theirs, and the same texts of progress to come and store. As the beginning of a run
is a run, this is so at every moment. -/
theorem orders_apart (store : Store) (schedule : Schedule) (ds : List Descriptor)
    (hes : ∀ e ∈ es, e.isApart o others = true) (hfs : ∀ e ∈ fs, e.isApart o others = true)
    (h : Event.timed (Event.isFor o others) 0 es = Event.timed (Event.isFor o others) 0 fs) :
    ((opened store schedule ds).turns es).desk.controlsOf o =
      ((opened store schedule ds).turns fs).desk.controlsOf o ∧
    ((opened store schedule ds).turns es).tasksFor others =
      ((opened store schedule ds).turns fs).tasksFor others ∧
    (opened store schedule ds).callsFor others (es.flatMap Event.toRest) =
      (opened store schedule ds).callsFor others (fs.flatMap Event.toRest) ∧
    (((opened store schedule ds).turns es).desk.timers.filter fun t => t.seat.order = o) =
      (((opened store schedule ds).turns fs).desk.timers.filter fun t => t.seat.order = o) ∧
    ((opened store schedule ds).turns es).desk.store =
      ((opened store schedule ds).turns fs).desk.store := by
  have hs : (opened store schedule ds).Apart o others := apart_opened store schedule ds
  obtain ⟨halike, hcalls⟩ := turns_timed hs hs.calm ⟨rfl, rfl, rfl⟩ hes
  obtain ⟨halike', hcalls'⟩ := turns_timed hs hs.calm ⟨rfl, rfl, rfl⟩ hfs
  have hnow : (opened store schedule ds).desk.now = 0 := rfl
  rw [hnow, h] at halike hcalls
  rw [hnow] at halike' hcalls'
  have hdesk := halike.desk.trans halike'.desk.symm
  refine ⟨Desk.controlsOf_of_within hdesk, halike.tasks.trans halike'.tasks.symm,
    hcalls.trans hcalls'.symm, Desk.timers_of_within hdesk, Desk.store_of_within hdesk⟩

/-- A page with the order and the payment of one order and the order of another. -/
def mixedPage : List Descriptor :=
  samplePage ++ [⟨⟨"10002"⟩, .order, "open", some "/set-other"⟩]

/-- A selection on the first order, while one on the other is made, with states for both scopes. -/
def mixed : List Event :=
  [.begin 1 (.select ⟨0, ⟨"10002"⟩, .order⟩ "process"), .pass 100,
    .begin 0 (.select sampleSeat "process"), .pass 50,
    .answer 1 (.setState (.ok ⟨200, ⟨true, some "in_progress", some "paid", none, none⟩⟩)),
    .pass 50, .answer 0 (.setState processed)]

/-- The same selection on the first order, with one on the other that begins later and is
dropped. -/
def remixed : List Event :=
  [.pass 100, .begin 0 (.select sampleSeat "process"), .pass 75,
    .begin 1 (.select ⟨0, ⟨"10002"⟩, .order⟩ "cancel"), .pass 25, .answer 0 (.setState processed),
    .drop 1]

theorem orders_apart_mixed :
    (∀ e ∈ mixed, e.isApart ⟨"10001"⟩ (· == 1) = true) ∧
    (∀ e ∈ remixed, e.isApart ⟨"10001"⟩ (· == 1) = true) ∧
    ((opened sampleStore .usual mixedPage).turns mixed).desk.stateAt sampleSeat =
      some "in_progress" ∧
    ((opened sampleStore .usual mixedPage).turns mixed).desk.controlsOf ⟨"10001"⟩ =
      ((opened sampleStore .usual mixedPage).turns remixed).desk.controlsOf ⟨"10001"⟩ ∧
    ((opened sampleStore .usual mixedPage).turns mixed).desk.controlsOf ⟨"10002"⟩ ≠
      ((opened sampleStore .usual mixedPage).turns remixed).desk.controlsOf ⟨"10002"⟩ := by
  have hmixed : ∀ e ∈ mixed, e.isApart ⟨"10001"⟩ (· == 1) = true := by decide
  have hremixed : ∀ e ∈ remixed, e.isApart ⟨"10001"⟩ (· == 1) = true := by decide
  have hapart := orders_apart sampleStore .usual mixedPage hmixed hremixed rfl
  exact ⟨hmixed, hremixed, by decide, hapart.1, by decide⟩

end Session
end OrderDesk
