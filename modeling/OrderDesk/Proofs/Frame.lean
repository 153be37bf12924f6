import OrderDesk.Proofs.Exclusion

/-! What belongs to the request that holds a control. Others leave it alone while the request holds
it, so what the steps of the request keep of it is there whenever the request goes on. -/
namespace OrderDesk

variable {s : Session} {t : Task} {id : Nat} {e : Event} {es : List Event} {d : Desk} {seat : Seat}
  {sel : Selection} {Q : Selection → Hold → Prop} {ok : Touch → Bool}

namespace Selection

/-- A selection that holds its control has a property of what belongs to it there. -/
def Has (Q : Selection → Hold → Prop) (d : Desk) (s : Selection) : Prop :=
  s.holdsClaim = true → ∃ h, d.hold? s.seat = some h ∧ Q s h

/-- A property that the steps of a selection keep, and the answers that it waits for, and the
operations of a kind. -/
structure Kept (Q : Selection → Hold → Prop) (ok : Touch → Bool) : Prop where
  step : ∀ {d s d' g h h'}, Step d s d' g → d.hold? s.seat = some h → d'.hold? s.seat = some h' →
    (s.holdsClaim = true → Q s h) → Q (s.moveTo g) h'
  conclude : ∀ {s h epoch url} result, s.stage = .sent epoch url → Q s h →
    Q (s.moveTo (.conclude epoch result)) h
  fetched : ∀ {s h refused url} result, s.stage = .fetch refused (.asked url) → Q s h →
    Q (s.moveTo (.fetch refused (Refresh.answered result))) h
  touch : ∀ {s h u}, ok u = true → Q s h → Q s (h.touch u)

theorem Has.congr {d' : Desk} (h : sel.Has Q d) (hd : d'.hold? sel.seat = d.hold? sel.seat) :
    sel.Has Q d' := by
  intro hc
  rw [hd]
  exact h hc

theorem Has.touch {u : Touch} (hQ : Kept Q ok) (h : sel.Has Q d) (hu : ok u = true) :
    sel.Has Q (d.touch seat u) := by
  intro hc
  obtain ⟨k, hk, hq⟩ := h hc
  by_cases ho : seat = sel.seat
  · exact ⟨k.touch u, by simp [hk, ho], hQ.touch hu hq⟩
  · exact ⟨k, by simp [hk, ho], hq⟩

theorem Has.answered (hQ : Kept Q ok) (h : sel.Has Q d) (reply : Reply) :
    (sel.answered d reply).2.Has Q (sel.answered d reply).1 := by
  rcases sel.answered_cases d reply with ha | ⟨epoch, url, result, hs, -, ha⟩ |
    ⟨refused, url, result, hs, -, ha⟩
  · simpa [ha] using h
  · rw [ha]
    intro _
    obtain ⟨k, hk, hq⟩ := h (by simp [holdsClaim, hs])
    exact ⟨k, hk, hQ.conclude result hs hq⟩
  · rw [ha]
    intro _
    obtain ⟨k, hk, hq⟩ := h (by simp [holdsClaim, hs])
    exact ⟨k, hk, hQ.fetched result hs hq⟩

/-- A selection that holds its control after a step has it in its seat. -/
theorem Step.exists_hold {d' : Desk} {g : Stage} (h : Step d sel d' g) (hs : sel.Has Q d)
    (hc : (sel.moveTo g).holdsClaim = true) :
    ∃ k, d.hold? sel.seat = some k ∧ ∃ k', d'.hold? sel.seat = some k' := by
  have hseat : sel.seat ∈ d.seats := by
    refine h.seat_mem (fun hb => ?_) hc
    obtain ⟨k, hk, -⟩ := hs hb
    obtain ⟨c, hcontrol, -⟩ := Option.map_eq_some_iff.mp hk
    exact Desk.exists_control_iff.mp ⟨c, hcontrol⟩
  obtain ⟨c, hcontrol⟩ := Desk.exists_control_iff.mpr hseat
  obtain ⟨c', hcontrol'⟩ := h.touched.exists_control hcontrol
  exact ⟨c.hold, by simp [Desk.hold?, hcontrol], c'.hold, by simp [Desk.hold?, hcontrol']⟩

theorem Has.step {d' : Desk} {g : Stage} (hQ : Kept Q ok) (hs : sel.Has Q d)
    (h : Step d sel d' g) : (sel.moveTo g).Has Q d' := by
  intro hc
  obtain ⟨k, hk, k', hk'⟩ := h.exists_hold hs hc
  refine ⟨k', hk', hQ.step h hk hk' fun hb => ?_⟩
  obtain ⟨k₀, hk₀, hq⟩ := hs hb
  obtain rfl : k₀ = k := Option.some.inj (hk₀.symm.trans hk)
  exact hq

end Selection

namespace Session

/-- Whoever holds a control keeps it busy. -/
theorem Balanced.busy (h : s.Balanced) {p : Nat × Task} (hp : p ∈ s.tasks)
    (hc : p.2.claims seat = true) : s.desk.isBusy seat = true := by
  have hpos : 0 < s.claims seat :=
    Nat.lt_of_lt_of_le (List.countP_pos_iff.mpr ⟨p, hp, hc⟩) (Nat.le_add_right _ _)
  have hb := h.balance seat
  cases hbusy : s.desk.isBusy seat with
  | true => rfl
  | false => simp only [hbusy, Bool.toNat_false] at hb; omega

/-- While a task holds a control, no other task does. -/
theorem Balanced.exclusive (h : s.Balanced) (ht : s.task? id = some t) {p : Nat × Task}
    (hp : p ∈ s.tasks) (hne : p.1 ≠ id) (hc : p.2.claims seat = true) :
    t.claims seat = false := by
  have hmem : p ∈ (s.remove id).tasks := List.mem_filter.mpr ⟨hp, by simpa using hne⟩
  have hpos : 0 < (s.remove id).claims seat :=
    Nat.lt_of_lt_of_le (List.countP_pos_iff.mpr ⟨p, hmem, hc⟩) (Nat.le_add_right _ _)
  have hsplit := (claims_split h.numbered ht seat).1
  have hb := h.balance seat
  have hle := (s.desk.isBusy seat).toNat_le
  cases hcl : t.claims seat with
  | false => rfl
  | true => simp only [hcl, Bool.toNat_true] at hsplit; omega

/-- No other task holds a control that a task holds. -/
theorem Balanced.not_claims (h : s.Balanced) (ht : s.task? id = some t)
    (hc : t.claims seat = true) {p : Nat × Task} (hp : p ∈ s.tasks) (hne : p.1 ≠ id) :
    p.2.claims seat = false := by
  cases hcl : p.2.claims seat with
  | false => rfl
  | true =>
    rw [h.exclusive ht hp hne hcl] at hc
    cases hc

/-- While a task holds a control, it is not held apart from tasks. -/
theorem Balanced.not_held (h : s.Balanced) {p : Nat × Task} (hp : p ∈ s.tasks)
    (hc : p.2.claims seat = true) : seat ∉ s.held := by
  intro hheld
  have htask : 0 < s.tasks.countP (fun p => p.2.claims seat) :=
    List.countP_pos_iff.mpr ⟨p, hp, hc⟩
  have hapart : 0 < s.held.count seat := List.count_pos_iff.mpr hheld
  have hb := h.balance seat
  have hle := (s.desk.isBusy seat).toNat_le
  rw [claims] at hb
  omega

/-- Every selection that holds a control has a property of what belongs to it there. -/
def Has (Q : Selection → Hold → Prop) (s : Session) : Prop :=
  ∀ id sel, (id, Task.selection sel) ∈ s.tasks → sel.Has Q s.desk

theorem has_desk (h : s.Has Q) (hd : ∀ sel : Selection, sel.Has Q s.desk → sel.Has Q d) :
    Has Q { s with desk := d } :=
  fun id sel hm => hd sel (h id sel hm)

/-- What a task does to a control that another one holds is nothing to that one. -/
theorem has_put {r : Desk × Task} (hb : s.Balanced) (h : s.Has Q) (ht : s.task? id = some t)
    (hframe : ∀ seat, t.claims seat = false → s.desk.isBusy seat = true →
      r.1.hold? seat = s.desk.hold? seat)
    (hown : ∀ sel, r.2 = .selection sel → sel.Has Q r.1) : (s.put id r).Has Q := by
  intro id' sel hm
  obtain ⟨q, hq, hqe⟩ := List.mem_map.mp hm
  split at hqe
  · exact hown sel (congrArg Prod.snd hqe)
  · next hne =>
    subst hqe
    intro hc
    have hcl : (Task.selection sel).claims sel.seat = true := by simp [Task.claims, hc]
    exact (h id' sel hq).congr (hframe _ (hb.exclusive ht hq hne hcl) (hb.busy hq hcl)) hc

theorem has_step (hQ : Selection.Kept Q ok) (hb : s.Balanced) (h : s.Has Q) (id : Nat) :
    (s.apply (.step id)).Has Q := by
  refine elim_task? h fun t ht => ?_
  have hm := mem_of_task? ht
  refine has_put hb h ht (fun seat => Task.step_frame (hb.orderly _ hm)) ?_
  intro sel hr
  obtain ⟨s', d', g, rfl, hstep, rfl, hd⟩ := Task.step_selection hr
  rw [hd]
  exact (h id s' hm).step hQ hstep

theorem has_answer (hQ : Selection.Kept Q ok) (hb : s.Balanced) (h : s.Has Q) (id : Nat)
    (reply : Reply) : (s.apply (.answer id reply)).Has Q := by
  refine elim_task? h fun t ht => ?_
  have hcontrols := (t.answered_frame s.desk reply default).1
  refine has_put hb h ht (fun seat _ _ => Desk.hold?_congr hcontrols seat) ?_
  intro sel hr
  obtain ⟨s', rfl, rfl, hd⟩ := Task.answered_selection hr
  rw [hd]
  exact (h id s' (mem_of_task? ht)).answered hQ reply

theorem has_drop (hb : s.Balanced) (h : s.Has Q) (id : Nat) : (s.apply (.drop id)).Has Q := by
  refine elim_task? h fun t ht => ?_
  intro id' sel hm hc
  obtain ⟨hm, hne⟩ := List.mem_filter.mp hm
  have hcl : (Task.selection sel).claims sel.seat = true := by simp [Task.claims, hc]
  have hidle := hb.exclusive ht hm (by simpa using hne) hcl
  exact (h id' sel hm).congr (Task.dropped_frame hidle) hc

theorem has_begin (h : s.Has Q) (id : Nat) (wish : Wish) : (s.apply (.begin id wish)).Has Q := by
  simp only [apply]
  split
  · exact h
  · intro id' sel hm hc
    rcases List.mem_append.mp hm with hm | hm
    · exact h id' sel hm hc
    · have hw : Task.selection sel = .ofWish s.desk wish := by simp_all
      have hidle := (Task.ofWish_idle s.desk wish sel.seat).1
      simp [← hw, Task.claims, hc] at hidle

theorem has_hold (hb : s.Balanced) (h : s.Has Q) (seat : Seat) :
    (s.apply (.hold seat)).Has Q := by
  simp only [apply, Desk.claim?]
  split
  · next hidle =>
    intro id sel hm hc
    have hcl : (Task.selection sel).claims sel.seat = true := by simp [Task.claims, hc]
    have hbusy := hb.busy hm hcl
    have hne : seat ≠ sel.seat := by
      rintro rfl
      simp [hbusy] at hidle
    exact (h id sel hm).congr (by simp [hne]) hc
  · exact h

theorem has_release (hb : s.Balanced) (h : s.Has Q) (seat : Seat) :
    (s.apply (.release seat)).Has Q := by
  simp only [apply]
  split
  · next hheld =>
    intro id sel hm hc
    have hcl : (Task.selection sel).claims sel.seat = true := by simp [Task.claims, hc]
    have hfree := hb.not_held hm hcl
    have hne : seat ≠ sel.seat := by
      rintro rfl
      exact hfree hheld
    exact (h id sel hm).congr (by simp [hne]) hc
  · exact h

theorem has_apply (hQ : Selection.Kept Q ok) (hb : s.Balanced) (h : s.Has Q)
    (he : ∀ seat u, e = .touch seat u → ok u = true) : (s.apply e).Has Q := by
  cases e with
  | begin id wish => exact has_begin h id wish
  | step id => exact has_step hQ hb h id
  | settle id =>
    refine (settle_by_steps (P := fun u => u.Balanced ∧ u.Has Q) hb.numbered ⟨hb, h⟩ ?_).2
    exact fun u hu => ⟨balanced_step hu.1 id, has_step hQ hu.1 hu.2 id⟩
  | answer id reply => exact has_answer hQ hb h id reply
  | drop id => exact has_drop hb h id
  | fire timer => exact has_desk h fun _ hs => hs.congr (Desk.hold?_touch_of_isShared rfl)
  | hold seat => exact has_hold hb h seat
  | release seat => exact has_release hb h seat
  | touch seat u => exact has_desk h fun _ hs => hs.touch hQ (he seat u rfl)
  | repopulate =>
    exact has_desk h fun _ hs =>
      hs.congr (Desk.hold?_perform_of_isShared fun p hp => repopulation_shared hp)
  | _ => exact has_desk h fun _ hs => hs

/-- What the steps of a request keep of its control is there throughout a run. -/
theorem has_play (hQ : Selection.Kept Q ok) {kind : Event → Bool}
    (hopen : ∀ e, kind e = true → e.isOpen = true)
    (hok : ∀ seat u, kind (.touch seat u) = true → ok u = true)
    (hb : s.Balanced) (h : s.Has Q) (hes : ∀ e ∈ es, kind e = true) : (s.play es).Has Q := by
  refine (play_keeps (P := fun s => s.Balanced ∧ s.Has Q) ?_ ⟨hb, h⟩ hes).2
  intro s e hs he
  refine ⟨balanced_apply hs.1 (hopen e he), has_apply hQ hs.1 hs.2 ?_⟩
  rintro seat u rfl
  exact hok seat u he

theorem has_opened (store : Store) (schedule : Schedule) (ds : List Descriptor) :
    (opened store schedule ds).Has Q :=
  fun _ _ hm => by simp [opened] at hm

end Session
end OrderDesk
