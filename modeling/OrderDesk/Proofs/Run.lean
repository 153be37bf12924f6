import Mathlib.Data.List.Nodup
import OrderDesk.Proofs.Step

/-! Runs of a session: the page that they begin with, the events that may happen, and the row of
tasks that an event changes in one place. -/
namespace OrderDesk

variable {s : Session} {t : Task} {id : Nat} {r : Desk × Task} {p : Nat × Task}

/-- An event that leaves it to requests and to holders of a claim to claim and to release a control,
and to requests to show their progress. -/
def Event.isOpen : Event → Bool
  | .touch _ t => t.isOpen
  | _ => true

namespace Session

/-- A session at a desk with one page that was just bound. -/
def opened (store : Store) (schedule : Schedule) (descriptors : List Descriptor) : Session where
  desk := Desk.bindPage { store, schedule } descriptors

/-- A store whose graph lets an open order go on. -/
def sampleStore : Store :=
  ⟨Graph.empty.withActions .order "open" ["process", "cancel"], .unavailable, none⟩

/-- A page with the order and the payment of one order, both open. -/
def samplePage : List Descriptor :=
  [⟨⟨"10001"⟩, .order, "open", some "/set-order"⟩,
    ⟨⟨"10001"⟩, .payment, "open", some "/set-payment"⟩]

/-- A session at that page. -/
def sample : Session := opened sampleStore Schedule.usual samplePage

/-- The seat of the order on that page. -/
def sampleSeat : Seat := ⟨0, ⟨"10001"⟩, .order⟩

/-- A session at that page whose store has an endpoint to fetch the graph from. -/
def remote : Session :=
  opened { sampleStore with metaUrl := some "/meta" } Schedule.usual samplePage

/-- No two tasks have one number. -/
def Numbered (s : Session) : Prop := (s.tasks.map (·.1)).Nodup

theorem play_append (s : Session) (es fs : List Event) :
    s.play (es ++ fs) = (s.play es).play fs := by
  simp [play]

@[simp] theorem play_nil (s : Session) : s.play [] = s := rfl

@[simp] theorem play_cons (s : Session) (e : Event) (es : List Event) :
    s.play (e :: es) = (s.apply e).play es := rfl

/-- What holds at first and is kept by each event holds throughout a run. -/
theorem play_keeps {P : Session → Prop} {ok : Event → Bool}
    (hP : ∀ s e, P s → ok e → P (s.apply e)) {es : List Event} (hs : P s)
    (hes : ∀ e ∈ es, ok e) : P (s.play es) :=
  List.foldlRecOn es apply hs fun s hs e he => hP s e hs (hes e he)

/-- An event of a task that is not there is lost. -/
theorem elim_task? {P : Session → Prop} {f : Task → Session} (hs : P s)
    (hf : ∀ t, s.task? id = some t → P (f t)) : P ((s.task? id).elim s f) := by
  cases h : s.task? id with
  | none => exact hs
  | some t => exact hf t h

/-- Whatever happens to controls in a session is a row of operations. -/
theorem apply_touched (s : Session) (e : Event) : s.desk.Touched (s.apply e).desk := by
  have hs : s.desk.Touched s.desk := .of_eq rfl
  cases e with
  | begin id wish =>
    simp only [apply]
    split <;> exact hs
  | step id => exact elim_task? (P := fun u => s.desk.Touched u.desk) hs fun t _ => t.step_touched _
  | settle id =>
    exact elim_task? (P := fun u => s.desk.Touched u.desk) hs fun t _ => t.settleWithin_touched _ _
  | answer id reply =>
    exact elim_task? (P := fun u => s.desk.Touched u.desk) hs fun t _ =>
      .of_eq (t.answered_frame s.desk reply default).1
  | drop id =>
    exact elim_task? (P := fun u => s.desk.Touched u.desk) hs fun t _ => t.dropped_touched _
  | fire timer => exact .touch s.desk timer.seat _
  | hold seat =>
    simp only [apply, Desk.claim?]
    split
    · exact .touch s.desk seat _
    · exact hs
  | release seat =>
    simp only [apply]
    split
    · exact .touch s.desk seat _
    · exact hs
  | touch seat t => exact .touch s.desk seat t
  | repopulate => exact ⟨_, rfl⟩
  | _ => exact .of_eq rfl

theorem play_touched (s : Session) (es : List Event) : s.desk.Touched (s.play es).desk :=
  List.foldlRecOn (motive := fun u => s.desk.Touched u.desk) es apply (.of_eq rfl)
    fun u hu e _ => hu.trans (u.apply_touched e)

theorem mem_of_task? (h : s.task? id = some t) : (id, t) ∈ s.tasks := by
  obtain ⟨q, hq, rfl⟩ := Option.map_eq_some_iff.mp h
  have hid : q.1 = id := by simpa using List.find?_some hq
  exact hid ▸ List.mem_of_find?_eq_some hq

/-- A task stands in one place of the row. What an event does to it changes the row there alone. -/
theorem tasks_split (hn : s.Numbered) (h : s.task? id = some t) :
    ∃ before after, s.tasks = before ++ (id, t) :: after ∧
      (∀ r, (s.put id r).tasks = before ++ (id, r.2) :: after) ∧
      (s.remove id).tasks = before ++ after := by
  obtain ⟨before, after, hs⟩ := List.append_of_mem (mem_of_task? h)
  have hne : ∀ q ∈ before ++ after, q.1 ≠ id := by
    intro q hq he
    simp only [Numbered, hs, List.map_append, List.map_cons] at hn
    have hnd := List.nodup_middle.mp hn
    refine (List.nodup_cons.mp hnd).1 ?_
    rw [← List.map_append]
    exact List.mem_map.mpr ⟨q, hq, he⟩
  have hb : ∀ q ∈ before, q.1 ≠ id := fun q hq => hne q (List.mem_append_left _ hq)
  have ha : ∀ q ∈ after, q.1 ≠ id := fun q hq => hne q (List.mem_append_right _ hq)
  refine ⟨before, after, hs, ?_, ?_⟩
  · intro r
    have hmap : ∀ row : List (Nat × Task), (∀ q ∈ row, q.1 ≠ id) →
        row.map (fun q => if q.1 = id then (id, r.2) else q) = row := by
      intro row hrow
      exact (List.map_congr_left fun q hq => if_neg (hrow q hq)).trans (List.map_id' row)
    simp [put, hs, hmap before hb, hmap after ha]
  · have hfilter : ∀ row : List (Nat × Task), (∀ q ∈ row, q.1 ≠ id) →
        row.filter (fun q => q.1 != id) = row := by
      intro row hrow
      exact List.filter_eq_self.mpr fun q hq => by simpa using hrow q hq
    simp [remove, hs, hfilter before hb, hfilter after ha]

theorem numbered_put (hn : s.Numbered) : (s.put id r).Numbered := by
  have hmap : (s.put id r).tasks.map (·.1) = s.tasks.map (·.1) := by
    simp only [put, List.map_map]
    refine List.map_congr_left fun q _ => ?_
    by_cases hq : q.1 = id <;> simp [hq]
  simpa [Numbered, hmap] using hn

theorem numbered_begin (hn : s.Numbered) (id : Nat) (wish : Wish) :
    (s.apply (.begin id wish)).Numbered := by
  cases ht : s.task? id with
  | some t => simpa [apply, ht] using hn
  | none =>
    have hfresh : id ∉ s.tasks.map (·.1) := by
      intro hid
      obtain ⟨q, hq, hqid⟩ := List.mem_map.mp hid
      have hne := List.find?_eq_none.mp (Option.map_eq_none_iff.mp ht) q hq
      simp [hqid] at hne
    simp only [apply, ht, Option.isSome_none, Bool.false_eq_true, if_false]
    rw [Numbered, List.map_append, List.nodup_append]
    refine ⟨hn, List.nodup_singleton id, ?_⟩
    rintro a ha b hb rfl
    obtain rfl := List.mem_singleton.mp hb
    exact hfresh ha

/-- Tasks keep numbers of their own. -/
theorem numbered_apply (hn : s.Numbered) (e : Event) : (s.apply e).Numbered := by
  cases e with
  | begin id wish => exact numbered_begin hn id wish
  | step id => exact elim_task? hn fun t _ => numbered_put hn
  | settle id => exact elim_task? hn fun t _ => numbered_put hn
  | answer id reply => exact elim_task? hn fun t _ => numbered_put hn
  | drop id =>
    have hsub : (s.remove id).tasks.Sublist s.tasks := List.filter_sublist
    exact elim_task? hn fun t _ => (hsub.map _).nodup hn
  | hold seat =>
    simp only [apply]
    cases s.desk.claim? seat <;> exact hn
  | release seat =>
    simp only [apply]
    split <;> exact hn
  | _ => exact hn

theorem task?_put (h : s.task? id = some t) : (s.put id r).task? id = some r.2 := by
  obtain ⟨q, hq, rfl⟩ := Option.map_eq_some_iff.mp h
  have hid : (fun q : Nat × Task => q.1 == id) ∘ (fun q => if q.1 = id then (id, r.2) else q) =
      fun q => q.1 == id := by
    funext q
    by_cases hq : q.1 = id <;> simp [hq]
  have hq1 : q.1 = id := by simpa using List.find?_some hq
  simp only [task?, put, List.find?_map, hid, hq, Option.map_some, hq1, if_true]

/-- A task that was put somewhere else is the one of that number, and the others are as before. -/
theorem mem_put (h : p ∈ (s.put id r).tasks) : p = (id, r.2) ∨ p ∈ s.tasks := by
  obtain ⟨q, hq, rfl⟩ := List.mem_map.mp h
  split
  · exact Or.inl rfl
  · exact Or.inr hq

theorem put_put (s : Session) (id : Nat) (r r' : Desk × Task) :
    (s.put id r).put id r' = s.put id r' := by
  simp only [put, List.map_map]
  congr 1
  refine List.map_congr_left fun q _ => ?_
  by_cases hq : q.1 = id <;> simp [hq]

theorem put_self (hn : s.Numbered) (h : s.task? id = some t) : s.put id (s.desk, t) = s := by
  obtain ⟨before, after, hs, hput, _⟩ := tasks_split hn h
  have := hput (s.desk, t)
  cases s
  simp_all [put]

/-- Going on to where a task waits is a number of its steps. -/
theorem exists_steps_of_settle (hn : s.Numbered) (id : Nat) :
    ∃ n, s.apply (.settle id) = s.play (List.replicate n (.step id)) := by
  cases h : s.task? id with
  | none => exact ⟨0, by simp [apply, h]⟩
  | some t =>
    suffices hw : ∀ fuel, ∃ n, s.put id (Task.settleWithin fuel s.desk t) =
        s.play (List.replicate n (.step id)) by
      simpa [apply, h, Task.settle] using hw (t.rank s.desk)
    intro fuel
    induction fuel generalizing s t with
    | zero => exact ⟨0, put_self hn h⟩
    | succ fuel ih =>
      by_cases hr : t.rests
      · exact ⟨0, by simpa [Task.settleWithin, hr] using put_self hn h⟩
      · obtain ⟨n, hstep⟩ := ih (s := s.put id (t.step s.desk)) (numbered_put hn) _ (task?_put h)
        refine ⟨n + 1, ?_⟩
        rw [List.replicate_succ, play_cons, show s.apply (.step id) = s.put id (t.step s.desk) by
          simp [apply, h], ← hstep, put_put]
        simp [Task.settleWithin, hr, put]

/-- What the steps of a task keep is kept as it goes on to where it waits. -/
theorem settle_by_steps {P : Session → Prop} (hn : s.Numbered) (hs : P s)
    (hstep : ∀ u : Session, P u → P (u.apply (.step id))) : P (s.apply (.settle id)) := by
  obtain ⟨n, hsteps⟩ := exists_steps_of_settle hn id
  rw [hsteps]
  exact List.foldlRecOn _ apply hs fun u hu e he => List.eq_of_mem_replicate he ▸ hstep u hu

end Session
end OrderDesk
