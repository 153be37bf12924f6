import OrderDesk.Proofs.Pending
import OrderDesk.Proofs.Separation

/-! What happens next to a request. While a request holds its control, the text there and the texts
that are left for it are the business of the request and of its timers; whatever else happens leaves
them alone, but for the success of another request that tells of the control. -/
namespace OrderDesk

variable {d d' : Desk} {s : Session} {sel : Selection} {t u : Task} {g : Stage} {id other : Nat}
  {seat at' : Seat} {m : Timer} {e : Event} {es : List Event} {touch : Touch}

/-- An operation that writes the text next to a control. -/
def Touch.writes : Touch → Bool
  | .tell _ | .beginProgress _ | .progress _ _ => true
  | _ => false

theorem Control.feedback_touch (c : Control) (h : touch.writes = false) :
    (c.touch touch).feedback = c.feedback := by
  cases touch <;> simp_all [Touch.writes, Control.touch, derive, apply_ite Control.feedback]

namespace Desk

/-- The text next to the control in a seat. -/
def feedback? (d : Desk) (seat : Seat) : Option Feedback := (d.control? seat).bind (·.feedback)

/-- The texts of progress that are left for the control in a seat. -/
def timersFor (d : Desk) (seat : Seat) : List Timer := d.timers.filter (·.seat = seat)

/-- The text next to a control, and those that are left for it. -/
def outlook (d : Desk) (seat : Seat) : Option Feedback × List Timer :=
  (d.feedback? seat, d.timersFor seat)

@[simp] theorem mem_timersFor : m ∈ d.timersFor seat ↔ m ∈ d.timers ∧ m.seat = seat := by
  simp [timersFor]

theorem outlook_congr (hc : d'.controls = d.controls) (ht : d'.timers = d.timers) (seat : Seat) :
    d'.outlook seat = d.outlook seat := by
  simp only [outlook, feedback?, control?_congr hc, timersFor, ht]

/-- An operation elsewhere, or one that writes no text, is not seen. -/
theorem outlook_touch (h : at' = seat → touch.writes = false) :
    (d.touch at' touch).outlook seat = d.outlook seat := by
  have htext : (d.touch at' touch).feedback? seat = d.feedback? seat := by
    simp only [feedback?, control?_touch, Option.bind_map]
    congr 1
    funext c
    by_cases ho : at' = seat
    · simp [ho, c.feedback_touch (h ho)]
    · simp [ho]
  rw [outlook, htext]
  rfl

theorem outlook_perform {w : List (Seat × Touch)} (hw : ∀ p ∈ w, p.2.writes = false) :
    (d.perform w).outlook seat = d.outlook seat :=
  List.foldlRecOn (motive := fun e : Desk => e.outlook seat = d.outlook seat) w _ rfl
    fun _ he p hp => (outlook_touch fun _ => hw p hp).trans he

theorem outlook_startTimers (h : at' ≠ seat) (epoch : Nat) :
    (d.startTimers at' epoch).outlook seat = d.outlook seat := by
  simp [outlook, feedback?, timersFor, startTimers, control?, List.filter_map, Function.comp_def, h]

theorem outlook_stopTimers (h : at' ≠ seat) (epoch : Nat) :
    (d.stopTimers at' epoch).outlook seat = d.outlook seat := by
  have hkeep : ∀ m : Timer, (decide (m.seat = seat) && !(m.seat == at' && m.epoch == epoch)) =
      decide (m.seat = seat) := by
    intro m
    by_cases hm : m.seat = seat
    · simp [hm, Ne.symm h]
    · simp [hm]
  simp only [outlook, feedback?, timersFor, stopTimers, control?, List.filter_filter, hkeep]

theorem outlook_fire (h : m.seat ≠ seat) : (d.fire m).outlook seat = d.outlook seat := by
  have hkeep : (d.timers.erase m).filter (·.seat = seat) = d.timers.filter (·.seat = seat) := by
    rw [← List.erase_filter, List.erase_of_not_mem (by simp [h])]
  have htext : (d.touch m.seat (.progress m.epoch m.text)).outlook seat = d.outlook seat :=
    outlook_touch fun he => absurd he h
  exact Prod.ext (congrArg (·.1) htext) hkeep

end Desk

theorem Deed.schedule_run (d : Desk) (deed : Deed) : (deed.run d).schedule = d.schedule := by
  cases deed with
  | refresh r => rw [run, r.step_rest d]
  | _ => rfl

namespace Task

theorem schedule_step (d : Desk) (t : Task) : (t.step d).1.schedule = d.schedule := by
  cases t with
  | selection s =>
    obtain ⟨d', g, he, h⟩ := s.step_spec d
    obtain ⟨deed, rfl, -⟩ := h.deed ⟨rfl, rfl, fun _ _ _ _ => rfl⟩
    rw [step, he]
    exact deed.schedule_run d
  | pageRefresh page r =>
    obtain ⟨d', r', he, h⟩ := r.step_spec d page
    obtain ⟨deed, rfl, -⟩ := h.deed rfl fun _ => rfl
    rw [step, he]
    exact deed.schedule_run d
  | storeRefresh r => exact Deed.schedule_run d (.refresh r)

/-- Whether a task is about to open an epoch of progress on a control and to leave texts there. -/
def opens (seat : Seat) : Task → Bool
  | selection s => s.seat == seat && (selection s).isOpening
  | _ => false

/-- Whether the next step of a task writes the text next to a control, as a success that was
reported does. -/
def writes (seat : Seat) (t : Task) : Bool :=
  t.todo.head?.any fun p => p.1 == seat && p.2.writes

theorem not_opens_of_not_claims (h : t.claims seat = false) : t.opens seat = false := by
  cases t with
  | selection s =>
    by_cases hseat : s.seat = seat
    · have hfree : s.holdsClaim = false := by simpa [claims, hseat] using h
      cases hs : s.stage <;> simp_all [opens, isOpening, Selection.holdsClaim]
    · simp [opens, hseat]
  | _ => rfl

end Task

theorem Selection.Step.outlook (h : Selection.Step d sel d' g)
    (ho : (Task.selection sel).opens seat = false) (hw : (Task.selection sel).writes seat = false) :
    d'.outlook seat = d.outlook seat := by
  have hopen : (Task.selection sel).isOpening = true → sel.seat ≠ seat := by
    rintro hgo rfl
    simp [Task.opens, hgo] at ho
  cases h with
  | announce hs =>
    exact Desk.outlook_touch fun he => absurd he (hopen (by simp [Task.isOpening, hs]))
  | @send epoch _ hs =>
    have hne := hopen (by simp [Task.isOpening, hs])
    have hask : ∀ (e : Desk) (q : Question), (e.ask q).outlook seat = e.outlook seat :=
      fun _ _ => rfl
    exact (hask _ _).trans (Desk.outlook_startTimers hne epoch)
  | fetch => exact Desk.outlook_congr (Refresh.step_controls _ _) (Refresh.step_timers _ _) seat
  | perform hs =>
    refine Desk.outlook_touch fun he => ?_
    simpa [Task.writes, Task.todo, hs, he] using hw
  | release => exact (Desk.outlook_touch fun _ => rfl).trans (Desk.outlook_touch fun _ => rfl)
  | freshen | claim | choose | fail | accept | refuse | renew =>
    exact Desk.outlook_touch fun _ => rfl
  | _ => rfl

namespace Task

/-- A step is seen next to a control where it opens an epoch there or writes the text. -/
theorem outlook_step (ho : t.opens seat = false) (hw : t.writes seat = false) :
    (t.step d).1.outlook seat = d.outlook seat := by
  cases t with
  | selection s =>
    obtain ⟨d', g, he, h⟩ := s.step_spec d
    simpa [step, he] using h.outlook ho hw
  | pageRefresh page r =>
    obtain ⟨d', r', he, h⟩ := r.step_spec d page
    have hd : ((pageRefresh page r).step d).1 = d' := by simp [step, he]
    rw [hd]
    cases h with
    | fetch => exact Desk.outlook_congr (Refresh.step_controls _ _) (Refresh.step_timers _ _) seat
    | perform =>
      refine Desk.outlook_touch fun hseat => ?_
      simpa [writes, todo, hseat] using hw
    | _ => rfl
  | storeRefresh r =>
    exact Desk.outlook_congr (Refresh.step_controls _ _) (Refresh.step_timers _ _) seat

/-- An answer takes back texts of the control that the task holds, if it does anything. -/
theorem outlook_answered (h : t.claims seat = false) (reply : Reply) :
    (t.answered d reply).1.outlook seat = d.outlook seat := by
  cases t with
  | selection s =>
    simp only [answered]
    rcases s.answered_cases d reply with ha | ⟨epoch, url, result, hs, -, ha⟩ |
      ⟨refused, url, result, hs, -, ha⟩
    · rw [ha]
    · rw [ha]
      refine Desk.outlook_stopTimers ?_ epoch
      simpa [claims, Selection.holdsClaim, hs] using h
    · rw [ha]
  | pageRefresh page r | storeRefresh r =>
    unfold answered
    split <;> simp_all

theorem outlook_dropped (h : t.claims seat = false) :
    (t.dropped d).outlook seat = d.outlook seat := by
  cases t with
  | selection s =>
    have hrelease : ∀ e : Desk, (if s.holdsClaim then e.touch s.seat .release else e).outlook seat =
        e.outlook seat := by
      intro e
      split
      · exact Desk.outlook_touch fun _ => rfl
      · rfl
    simp only [dropped, Selection.dropped]
    rw [hrelease]
    split
    · next epoch url hs =>
      refine Desk.outlook_stopTimers ?_ epoch
      simpa [claims, Selection.holdsClaim, hs] using h
    · rfl
  | _ => rfl

end Task

namespace Session

/-- Going on to where a task rests is as many steps as its rank, of which those that are too many do
nothing. -/
theorem settle_eq_steps (hn : s.Numbered) (ht : s.task? id = some t) :
    s.apply (.settle id) = s.play (List.replicate (t.rank s.desk) (.step id)) := by
  suffices hw : ∀ n, s.put id (Task.settleWithin n s.desk t) =
      s.play (List.replicate n (.step id)) by
    simpa [apply, ht, Task.settle] using hw (t.rank s.desk)
  intro n
  induction n generalizing s t with
  | zero => exact put_self hn ht
  | succ n ih =>
    have hstep : s.apply (.step id) = s.put id (t.step s.desk) := by simp [apply, ht]
    rw [List.replicate_succ, play_cons, hstep]
    have hgo := ih (numbered_put hn) (task?_put (r := t.step s.desk) ht)
    rw [← hgo, put_put]
    cases hr : t.rests with
    | false => simp [Task.settleWithin, hr, put]
    | true =>
      have hrest : ∀ k, Task.settleWithin k s.desk t = (s.desk, t) := by
        intro k
        cases k <;> simp [Task.settleWithin, hr]
      simp [Task.step_of_rests hr, hrest, put]

/-- A step of a task that is a selection. -/
theorem apply_step_selection (ht : s.task? id = some (.selection sel)) :
    ∃ d' g, Selection.Step s.desk sel d' g ∧
      s.apply (.step id) = s.put id (d', .selection (sel.moveTo g)) := by
  obtain ⟨d', g, he, h⟩ := sel.step_spec s.desk
  exact ⟨d', g, h, by simp [apply, ht, Task.step, he]⟩

/-- An answer to a task that is a selection. -/
theorem apply_answer_selection (ht : s.task? id = some (.selection sel)) (reply : Reply) :
    s.apply (.answer id reply) =
      s.put id ((sel.answered s.desk reply).1, .selection (sel.answered s.desk reply).2) := by
  simp [apply, ht, Task.answered]

/-- Whether an event writes the text next to a control, other than by the progress of a request. -/
def writes (seat : Seat) (s : Session) : Event → Bool
  | .step id => (s.task? id).any (Task.writes seat)
  | .settle id => (s.task? id).any fun t => (List.range (t.rank s.desk)).any fun n =>
      ((s.play (List.replicate n (.step id))).task? id).any (Task.writes seat)
  | .touch other touch => other == seat && touch.writes
  | _ => false

/-- The steps of a task are like one event when they keep what the event is to keep. -/
theorem settle_unwritten {P : Session → Prop} (hs : P s) (hn : s.Numbered)
    (hstep : ∀ u : Session, P u → u.writes seat (.step id) = false → P (u.apply (.step id)))
    (hw : s.writes seat (.settle id) = false) : P (s.apply (.settle id)) := by
  cases ht : s.task? id with
  | none => simpa [apply, ht] using hs
  | some t =>
    rw [settle_eq_steps hn ht]
    have hquiet : ∀ n < t.rank s.desk,
        (s.play (List.replicate n (.step id))).writes seat (.step id) = false := by
      simpa [writes, ht] using hw
    suffices hall : ∀ n ≤ t.rank s.desk, P (s.play (List.replicate n (.step id))) from
      hall _ (Nat.le_refl _)
    intro n hle
    induction n with
    | zero => exact hs
    | succ n ih =>
      rw [List.replicate_succ', play_append]
      exact hstep _ (ih (by omega)) (hquiet n (by omega))

/-- What a task does next to a control that another task holds is nothing, unless it tells a success
there. -/
theorem outlook_step_of_ne (hb : s.Balanced) (ht : s.task? id = some t)
    (hc : t.claims seat = true) (hne : other ≠ id) (hw : s.writes seat (.step other) = false) :
    (s.apply (.step other)).desk.outlook seat = s.desk.outlook seat := by
  refine elim_task? (P := fun u => u.desk.outlook seat = s.desk.outlook seat) rfl fun u hu => ?_
  have hfree := hb.not_claims ht hc (mem_of_task? hu) hne
  exact Task.outlook_step (Task.not_opens_of_not_claims hfree) (by simpa [writes, hu] using hw)

/-- An event that is not about a task leaves the text next to the control that the task holds, and
those that are left for it, unless it writes the text or is one of those that are left. -/
theorem outlook_apply_of_ne (hb : s.Balanced) (ht : s.task? id = some t)
    (hc : t.claims seat = true) (hid : e.id? ≠ some id) (hw : s.writes seat e = false)
    (hfire : ∀ m, e = .fire m → m.seat ≠ seat) :
    (s.apply e).desk.outlook seat = s.desk.outlook seat := by
  have hfree : ∀ {other u}, other ≠ id → s.task? other = some u → u.claims seat = false :=
    fun hne hu => hb.not_claims ht hc (mem_of_task? hu) hne
  cases e with
  | begin other wish =>
    simp only [apply]
    split <;> rfl
  | step other => exact outlook_step_of_ne hb ht hc (by simpa [Event.id?] using hid) hw
  | settle other =>
    have hne : other ≠ id := by simpa [Event.id?] using hid
    refine (settle_unwritten (P := fun u => u.Balanced ∧ u.task? id = some t ∧
      u.desk.outlook seat = s.desk.outlook seat) ⟨hb, ht, rfl⟩ hb.numbered ?_ hw).2.2
    rintro u ⟨hub, hut, hsame⟩ huw
    exact ⟨balanced_step hub other, (task?_apply_of_ne (by simpa [Event.id?] using hne)).trans hut,
      (outlook_step_of_ne hub hut hc hne huw).trans hsame⟩
  | answer other reply =>
    refine elim_task? (P := fun u => u.desk.outlook seat = s.desk.outlook seat) rfl fun u hu => ?_
    exact Task.outlook_answered (hfree (by simpa [Event.id?] using hid) hu) reply
  | drop other =>
    refine elim_task? (P := fun u => u.desk.outlook seat = s.desk.outlook seat) rfl fun u hu => ?_
    exact Task.outlook_dropped (hfree (by simpa [Event.id?] using hid) hu)
  | fire m => exact Desk.outlook_fire (hfire m rfl)
  | hold other =>
    simp only [apply, Desk.claim?]
    split
    · exact Desk.outlook_touch fun _ => rfl
    · rfl
  | release other =>
    simp only [apply]
    split
    · exact Desk.outlook_touch fun _ => rfl
    · rfl
  | touch other touch =>
    refine Desk.outlook_touch fun he => ?_
    simpa [writes, he] using hw
  | repopulate =>
    refine Desk.outlook_perform fun p hp => ?_
    obtain ⟨_, _, rfl⟩ := List.mem_map.mp hp
    rfl
  | _ => rfl

/-- What is so of each selection as it begins, and stays so with its steps, with its answers and
with whatever else happens to the controls, is so of all selections after an event. -/
theorem meets_apply {P : Desk → Selection → Prop}
    (hstep : ∀ {d sel d' g}, Selection.Step d sel d' g → P d sel → P d' (sel.moveTo g))
    (hanswered : ∀ {d sel} reply, P d sel → P (sel.answered d reply).1 (sel.answered d reply).2)
    (htouched : ∀ {d e sel}, d.Touched e → P d sel → P e sel)
    (hbegin : ∀ wish, (Task.ofWish s.desk wish).Meets P s.desk)
    (h : ∀ p ∈ s.tasks, p.2.Meets P s.desk) (e : Event) :
    ∀ p ∈ (s.apply e).tasks, p.2.Meets P (s.apply e).desk := by
  have hput : ∀ {id : Nat} {r : Desk × Task}, s.desk.Touched r.1 → r.2.Meets P r.1 →
      ∀ p ∈ (s.put id r).tasks, p.2.Meets P r.1 := by
    intro id r htouch hr p hp
    rcases mem_put hp with rfl | hold
    · exact hr
    · exact fun sel hsel => htouched htouch (h p hold sel hsel)
  cases e with
  | begin id wish =>
    simp only [apply]
    split
    · exact h
    · intro p hp
      rcases List.mem_append.mp hp with hold | hnew
      · exact h p hold
      · rw [List.mem_singleton.mp hnew]
        exact hbegin wish
  | step id =>
    refine elim_task? (P := fun u => ∀ p ∈ u.tasks, p.2.Meets P u.desk) h fun t ht => ?_
    exact hput (t.step_touched _) (Task.meets_step hstep (h _ (mem_of_task? ht)))
  | settle id =>
    refine elim_task? (P := fun u => ∀ p ∈ u.tasks, p.2.Meets P u.desk) h fun t ht => ?_
    exact hput (t.settleWithin_touched _ _) (Task.meets_settle hstep (h _ (mem_of_task? ht)))
  | answer id reply =>
    refine elim_task? (P := fun u => ∀ p ∈ u.tasks, p.2.Meets P u.desk) h fun t ht => ?_
    exact hput (.of_eq (t.answered_frame s.desk reply default).1)
      (Task.meets_answered (fun _ hp => hanswered reply hp) (h _ (mem_of_task? ht)))
  | drop id =>
    refine elim_task? (P := fun u => ∀ p ∈ u.tasks, p.2.Meets P u.desk) h fun t ht => ?_
    exact fun p hp sel hsel =>
      htouched (t.dropped_touched _) (h p (List.mem_of_mem_filter hp) sel hsel)
  | _ =>
    intro p hp sel hsel
    rw [tasks_apply rfl] at hp
    exact htouched (apply_touched s _) (h p hp sel hsel)

end Session

namespace Task

/-- A step leaves the texts of progress as they are, or adds those of the epoch in which the task
waits then. -/
theorem timers_step (d : Desk) (t : Task) (hm : m ∈ (t.step d).1.timers) :
    m ∈ d.timers ∨ (t.step d).2.Attends m := by
  cases t with
  | selection s =>
    obtain ⟨d', g, he, h⟩ := s.step_spec d
    simp only [step, he] at hm ⊢
    rcases h.timers_cases with hsame | ⟨epoch, url, -, rfl, hd⟩
    · exact Or.inl (hsame ▸ hm)
    · rw [hd] at hm
      rcases List.mem_append.mp hm with hold | hnew
      · exact Or.inl hold
      · obtain ⟨p, -, rfl⟩ := List.mem_map.mp hnew
        exact Or.inr ⟨_, url, rfl, rfl, rfl⟩
  | pageRefresh page r =>
    obtain ⟨d', r', he, h⟩ := r.step_spec d page
    simp only [step, he, h.timers] at hm
    exact Or.inl hm
  | storeRefresh r =>
    rw [step, Refresh.step_timers] at hm
    exact Or.inl hm

/-- Only a task that rests gets an answer. -/
theorem answered_of_not_rests (hr : t.rests = false) (reply : Reply) :
    t.answered d reply = (d, t) := by
  cases t with
  | selection s =>
    rcases s.answered_cases d reply with h | ⟨_, _, _, hs, -, -⟩ | ⟨_, _, _, hs, -, -⟩
    · rw [answered, h]
    · simp [rests, awaits, Selection.awaits, hs] at hr
    · simp [rests, awaits, Selection.awaits, hs] at hr
  | pageRefresh page r | storeRefresh r =>
    unfold answered
    split <;> simp_all [rests, awaits]

end Task

namespace Session

theorem attended_step (hn : s.Numbered) (h : s.Attended) (id : Nat) :
    (s.apply (.step id)).Attended := by
  refine elim_task? h fun t ht m hm => ?_
  rcases Task.timers_step s.desk t hm with hold | hnew
  · obtain ⟨other, u, hu, ha⟩ := h m hold
    by_cases ho : other = id
    · obtain rfl : u = t := Option.some.inj (hu.symm.trans (ho ▸ ht))
      rw [Task.step_of_rests ha.rests, put_self hn ht]
      exact ⟨other, u, hu, ha⟩
    · exact ⟨other, u, (task?_put_of_ne (Ne.symm ho)).trans hu, ha⟩
  · exact ⟨id, _, task?_put ht, hnew⟩

theorem attended_answer (h : s.Attended) (id : Nat) (reply : Reply) :
    (s.apply (.answer id reply)).Attended := by
  refine elim_task? h fun t ht m hm => ?_
  have hmem : m ∈ s.desk.timers ∧
      (t.Attends m → t.answered s.desk reply = (s.desk, t)) := by
    cases hr : t.rests with
    | true => exact (Task.answered_timers hr reply).2 m hm
    | false =>
      have hsame := Task.answered_of_not_rests (d := s.desk) hr reply
      exact ⟨by simpa [put, hsame] using hm, fun _ => hsame⟩
  obtain ⟨other, u, hu, ha⟩ := h m hmem.1
  by_cases ho : other = id
  · obtain rfl : u = t := Option.some.inj (hu.symm.trans (ho ▸ ht))
    exact ⟨id, u, by rw [task?_put ht, hmem.2 ha], ha⟩
  · exact ⟨other, u, (task?_put_of_ne (Ne.symm ho)).trans hu, ha⟩

/-- In single steps too each text that is still to come has a task that waits there. -/
theorem attended_apply (hn : s.Numbered) (h : s.Attended) (e : Event) : (s.apply e).Attended := by
  cases e with
  | begin id wish =>
    intro m hm
    have hold : m ∈ s.desk.timers := by
      simp only [apply] at hm
      split at hm <;> exact hm
    obtain ⟨other, u, hu, ha⟩ := h m hold
    refine ⟨other, u, ?_, ha⟩
    by_cases ho : id = other
    · simp [apply, ho, hu]
    · exact (task?_begin_of_ne ho wish).trans hu
  | step id => exact attended_step hn h id
  | settle id =>
    refine (settle_by_steps (P := fun u => u.Numbered ∧ u.Attended) hn ⟨hn, h⟩ ?_).2
    exact fun u hu => ⟨numbered_apply hu.1 _, attended_step hu.1 hu.2 id⟩
  | answer id reply => exact attended_answer h id reply
  | drop id =>
    refine elim_task? h fun t ht m hm => ?_
    obtain ⟨hold, hgone⟩ := Task.dropped_timers hm
    obtain ⟨other, u, hu, ha⟩ := h m hold
    have hne : other ≠ id := by
      rintro rfl
      obtain rfl : u = t := Option.some.inj (hu.symm.trans ht)
      exact hgone ha
    exact ⟨other, u, (task?_remove_of_ne (Ne.symm hne)).trans hu, ha⟩
  | _ =>
    intro m hm
    obtain ⟨other, u, hu, ha⟩ := h m (timers_apply rfl hm)
    exact ⟨other, u, (task?_apply_of_ne (by simp [Event.id?])).trans hu, ha⟩

theorem attended_reachable (h : s.Reachable) : s.Attended := by
  obtain ⟨store, schedule, ds, es, -, rfl⟩ := h
  exact (List.foldlRecOn (motive := fun u => u.Numbered ∧ u.Attended) es apply
    ⟨List.nodup_nil, attended_opened store schedule ds⟩ fun _ hu e _ =>
      ⟨numbered_apply hu.1 e, attended_apply hu.1 hu.2 e⟩).2

/-- No event changes the schedule. -/
theorem schedule_apply (s : Session) (e : Event) : (s.apply e).desk.schedule = s.desk.schedule := by
  cases e with
  | begin id wish =>
    simp only [apply]
    split <;> rfl
  | step id =>
    refine elim_task? (P := fun u => u.desk.schedule = s.desk.schedule) rfl fun t _ => ?_
    exact t.schedule_step s.desk
  | settle id =>
    refine elim_task? (P := fun u => u.desk.schedule = s.desk.schedule) rfl fun t _ => ?_
    exact Task.settle_keeps (P := fun d _ => d.schedule = s.desk.schedule)
      (fun d t h _ => (t.schedule_step d).trans h) rfl
  | answer id reply =>
    refine elim_task? (P := fun u => u.desk.schedule = s.desk.schedule) rfl fun t _ => ?_
    obtain ⟨deed, hd, -⟩ := Task.answered_deed s.desk s.desk t reply
    exact (congrArg (fun r : Desk × Task => r.1.schedule) hd).trans (deed.schedule_run s.desk)
  | drop id =>
    refine elim_task? (P := fun u => u.desk.schedule = s.desk.schedule) rfl fun t _ => ?_
    obtain ⟨first, last, hd, -⟩ := Task.dropped_deeds s.desk s.desk t
    exact (congrArg Desk.schedule hd).trans
      ((last.schedule_run _).trans (first.schedule_run _))
  | hold seat =>
    simp only [apply, Desk.claim?]
    split <;> rfl
  | release seat =>
    simp only [apply]
    split <;> rfl
  | repopulate =>
    simp only [apply, Desk.repopulate, Desk.perform_eq]
  | _ => rfl

theorem schedule_play (s : Session) (es : List Event) :
    (s.play es).desk.schedule = s.desk.schedule :=
  List.foldlRecOn (motive := fun u => u.desk.schedule = s.desk.schedule) es apply rfl
    fun u hu e _ => (u.schedule_apply e).trans hu

end Session
end OrderDesk
