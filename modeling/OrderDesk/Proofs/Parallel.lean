import OrderDesk.Proofs.Settling

/-! One task at two desks. What a step looks at is little, and what it does is one deed; so where
what it looks at is alike at two desks, a task goes the same way at both and does the same there. -/
namespace OrderDesk

variable {d d' e : Desk} {t : Task} {sel : Selection} {g : Stage} {page : Nat}
  {r r' : PageRefresh}

namespace Refresh

/-- A step of a refresh changes the store and the questions at most. -/
theorem step_rest (d : Desk) (r : Refresh) : (r.step d).1 =
    { d with store := (r.step d).1.store, questions := (r.step d).1.questions } := by
  cases r with
  | ask => simp only [step]; split <;> rfl
  | _ => rfl

theorem step_alike (r : Refresh) (h : e.store = d.store) :
    (r.step e).1.store = (r.step d).1.store ∧ (r.step e).2 = (r.step d).2 := by
  cases r with
  | ask => simp only [step, h]; split <;> exact ⟨h, rfl⟩
  | _ => simp only [step, h, and_self]

end Refresh

/-- What a step does to a desk. -/
inductive Deed where
  | nothing
  | touch (seat : Seat) (touch : Touch)
  /-- A request goes out, and the texts of progress are left to be told. -/
  | send (seat : Seat) (epoch : Nat) (question : Question)
  | refresh (refresh : Refresh)
  /-- The texts that were left for an epoch are taken back. -/
  | stop (seat : Seat) (epoch : Nat)
  /-- The progress is hidden and the claim released. -/
  | finish (seat : Seat)

namespace Deed

/-- A desk after a deed. -/
def run (d : Desk) : Deed → Desk
  | nothing => d
  | touch seat u => d.touch seat u
  | send seat epoch q => (d.startTimers seat epoch).ask q
  | refresh r => (r.step d).1
  | stop seat epoch => d.stopTimers seat epoch
  | finish seat => (d.touch seat .hideProgress).touch seat .release

/-- The questions that a deed asks. -/
def asks (d : Desk) : Deed → List Question
  | send _ _ q => [q]
  | refresh .ask => d.store.metaUrl.toList.map .transitions
  | _ => []

/-- Whether a deed hides the progress of a control. -/
def hides : Deed → Bool
  | touch _ .hideProgress | finish _ => true
  | _ => false

theorem now_run (d : Desk) (deed : Deed) : (deed.run d).now = d.now := by
  cases deed with
  | refresh r => rw [run, r.step_rest d]
  | _ => rfl

theorem questions_run (d : Desk) (deed : Deed) :
    (deed.run d).questions = d.questions ++ deed.asks d := by
  cases deed with
  | refresh r =>
    cases r with
    | ask => cases h : d.store.metaUrl <;> simp [run, asks, Refresh.step, h, Desk.ask]
    | _ => simp [run, asks, Refresh.step]
  | send seat epoch q => rfl
  | _ => simp [run, asks, Desk.touch, Desk.stopTimers]

/-- What a deed asks depends on the store. -/
theorem asks_congr (h : e.store = d.store) (deed : Deed) : deed.asks e = deed.asks d := by
  cases deed with
  | refresh r => cases r <;> simp only [asks, h]
  | _ => rfl

end Deed

/-- What a selection may look at of its own control. -/
def Control.looks (c : Control) : Bool × Option String × Nat × String :=
  (c.busy, c.setUrl, c.epoch, c.state)

namespace Desk

theorem isBusy_eq_looks (d : Desk) (seat : Seat) :
    d.isBusy seat = ((d.control? seat).map Control.looks).any (·.1) := by
  simp only [isBusy, Option.any_map]
  rfl

/-- Whether a control is there and idle tells whether it can be claimed. -/
theorem claim?_eq_looks (d : Desk) (seat : Seat) : d.claim? seat =
    if ((d.control? seat).map Control.looks).any (!·.1) then some (d.touch seat .claim)
    else none := by
  have hidle : ((d.control? seat).isSome && !d.isBusy seat) =
      ((d.control? seat).map Control.looks).any (!·.1) := by
    cases h : d.control? seat <;> simp [isBusy, h, Control.looks]
  rw [claim?, hidle]

theorem setUrl?_eq_looks (d : Desk) (seat : Seat) :
    (d.control? seat).bind (·.setUrl) = ((d.control? seat).map Control.looks).bind (·.2.1) := by
  cases d.control? seat <;> rfl

theorem epoch_eq_looks (d : Desk) (seat : Seat) (text : String) :
    ((d.touch seat (.beginProgress text)).control? seat).elim 0 (·.epoch) =
      ((d.control? seat).map Control.looks).elim 0 (·.2.2.1 + 1) := by
  cases h : d.control? seat <;> simp [control?_touch, h, Control.touch, Control.looks]

theorem permitted_eq_looks (d : Desk) (seat : Seat) (g : Graph) :
    (d.control? seat).elim [] (·.permitted g) =
      ((d.control? seat).map Control.looks).elim [] fun l => g.actionsFor seat.scope l.2.2.2 := by
  cases h : d.control? seat with
  | none => rfl
  | some c => simp [Control.permitted, Control.looks, seat_of_control? h]

end Desk

namespace Selection

/-- What a selection looks at in its next step is alike at two desks. -/
structure Alike (d e : Desk) (s : Selection) : Prop where
  store : e.store = d.store
  looks : (e.control? s.seat).map Control.looks = (d.control? s.seat).map Control.looks
  busy : ∀ g seat todo, s.stage = .repopulate g (seat :: todo) → e.isBusy seat = d.isBusy seat

variable (ha : sel.Alike d e)
include ha

theorem Alike.isBusy : e.isBusy sel.seat = d.isBusy sel.seat := by
  rw [Desk.isBusy_eq_looks, Desk.isBusy_eq_looks, ha.looks]

theorem Alike.setUrl : (e.control? sel.seat).bind (·.setUrl) =
    (d.control? sel.seat).bind (·.setUrl) := by
  rw [Desk.setUrl?_eq_looks, Desk.setUrl?_eq_looks, ha.looks]

theorem Alike.epoch (text : String) :
    ((e.touch sel.seat (.beginProgress text)).control? sel.seat).elim 0 (·.epoch) =
      ((d.touch sel.seat (.beginProgress text)).control? sel.seat).elim 0 (·.epoch) := by
  rw [Desk.epoch_eq_looks, Desk.epoch_eq_looks, ha.looks]

theorem Alike.permitted (g : Graph) : (e.control? sel.seat).elim [] (·.permitted g) =
    (d.control? sel.seat).elim [] (·.permitted g) := by
  rw [Desk.permitted_eq_looks, Desk.permitted_eq_looks, ha.looks]

theorem Alike.ignored? : sel.ignored? e = sel.ignored? d := by
  simp only [Selection.ignored?, ha.isBusy, ha.setUrl]

/-- Where what it looks at is alike, a selection goes the same way and does the same. -/
theorem Step.deed (h : Step d sel d' g) :
    ∃ deed : Deed, d' = deed.run d ∧ sel.step e = (deed.run e, sel.moveTo g) ∧
      (deed.hides = false ∨ ∃ todo o, sel.stage = .perform todo o) := by
  cases h with
  | lookBusy hs hb => exact ⟨.nothing, rfl, by simp [step, hs, ha.isBusy, hb, Deed.run], .inl rfl⟩
  | lookIdle hs hb => exact ⟨.nothing, rfl, by simp [step, hs, ha.isBusy, hb, Deed.run], .inl rfl⟩
  | ignore hs hi => exact ⟨.nothing, rfl, by simp [step, hs, ha.ignored?, hi, Deed.run], .inl rfl⟩
  | claim hs hi => exact ⟨.touch _ _, rfl, by simp [step, hs, ha.ignored?, hi, Deed.run], .inl rfl⟩
  | peek hs | survey hs =>
    exact ⟨.nothing, rfl, by simp [step, hs, ha.store, Deed.run], .inl rfl⟩
  | wait hs | unfetched hs | fetched hs | renewed hs | rest hs =>
    exact ⟨.nothing, rfl, by simp [step, hs, Deed.run], .inl rfl⟩
  | freshen hs | choose hs | renew hs =>
    exact ⟨.touch _ _, rfl, by simp [step, hs, Deed.run], .inl rfl⟩
  | fail hs => exact ⟨.touch _ _, rfl, by simp [step, hs, verdict, Deed.run], .inl rfl⟩
  | accept hs hr | refuse hs hr =>
    exact ⟨.touch _ _, rfl, by simp [step, hs, verdict, hr, Deed.run], .inl rfl⟩
  | announce hs =>
    exact ⟨.touch sel.seat (.beginProgress Feedback.saveStarted), rfl,
      by simp only [step, hs, ha.epoch, Deed.run], .inl rfl⟩
  | send hs hu =>
    exact ⟨.send _ _ _, rfl, by simp only [step, hs, ha.setUrl, hu, Deed.run], .inl rfl⟩
  | @fetch refused refresh hs hd =>
    have hsame := (refresh.step_alike ha.store).2
    refine ⟨.refresh refresh, rfl, ?_, .inl rfl⟩
    cases refresh with
    | done result => exact absurd rfl (hd result)
    | _ => simp only [step, hs, hsame, Deed.run]
  | next hs hn =>
    have hbusy := ha.busy _ _ _ hs
    exact ⟨.nothing, rfl, by simp [step, hs, hbusy, hn, Deed.run], .inl rfl⟩
  | skip hs hne hb =>
    have hbusy := ha.busy _ _ _ hs
    exact ⟨.nothing, rfl, by simp [step, hs, hbusy, hne, hb, Deed.run], .inl rfl⟩
  | reread hs =>
    exact ⟨.nothing, rfl, by simp only [step, hs, ha.permitted, Deed.run], .inl rfl⟩
  | perform hs => exact ⟨.touch _ _, rfl, by simp [step, hs, Deed.run], .inr ⟨_, _, hs⟩⟩
  | release hs => exact ⟨.finish _, rfl, by simp [step, hs, Deed.run], .inr ⟨_, _, hs⟩⟩

end Selection

/-- Where what it looks at is alike, a refresh for a page goes the same way and does the same. -/
theorem PageRefresh.Step.deed (h : PageRefresh.Step d page r d' r') (hs : e.store = d.store)
    (hr : r = .survey → e.repopulation page = d.repopulation page) :
    ∃ deed : Deed, d' = deed.run d ∧ r.step e page = (deed.run e, r') ∧
      (deed.hides = false ∨ ∃ seat todo, r = .perform ((seat, .hideProgress) :: todo)) := by
  cases h with
  | @fetch refresh hd =>
    have hsame := (refresh.step_alike hs).2
    refine ⟨.refresh refresh, rfl, ?_, .inl rfl⟩
    cases refresh with
    | done result => exact absurd rfl (hd result)
    | _ => simp only [step, hsame, Deed.run]
  | survey => exact ⟨.nothing, rfl, by simp [step, hr rfl, Deed.run], .inl rfl⟩
  | @perform p todo =>
    obtain ⟨seat, u⟩ := p
    refine ⟨.touch seat u, rfl, rfl, ?_⟩
    cases u with
    | hideProgress => exact .inr ⟨seat, todo, rfl⟩
    | _ => exact .inl rfl
  | _ => exact ⟨.nothing, rfl, rfl, .inl rfl⟩

namespace Task

/-- What a task looks at in its next step is alike at two desks. -/
def Alike (d e : Desk) : Task → Prop
  | selection s => s.Alike d e
  | pageRefresh page r =>
    e.store = d.store ∧ (r = .survey → e.repopulation page = d.repopulation page)
  | storeRefresh _ => e.store = d.store

/-- Where what it looks at is alike, a task goes the same way and does the same. Only one that
finishes hides the progress of a control. -/
theorem step_deed (ha : t.Alike d e) (ho : t.Orderly) :
    ∃ deed : Deed, t.step d = (deed.run d, (t.step d).2) ∧ t.step e = (deed.run e, (t.step d).2) ∧
      (deed.hides = false ∨ ∃ s todo o, t = selection s ∧ s.stage = .perform todo o) := by
  cases t with
  | selection s =>
    obtain ⟨d', g, he, h⟩ := s.step_spec d
    obtain ⟨deed, rfl, hsame, hhide⟩ := h.deed ha
    refine ⟨deed, by simp [step, he], by simp [step, he, hsame], hhide.imp_right ?_⟩
    rintro ⟨todo, o, hs⟩
    exact ⟨s, todo, o, rfl, hs⟩
  | pageRefresh page r =>
    obtain ⟨d', r', he, h⟩ := r.step_spec d page
    obtain ⟨deed, rfl, hsame, hhide⟩ := h.deed ha.1 ha.2
    refine ⟨deed, by simp [step, he], by simp [step, he, hsame], hhide.imp_right ?_⟩
    rintro ⟨seat, todo, rfl⟩
    simpa [Touch.isShared] using pageRefresh_shared ho List.mem_cons_self
  | storeRefresh r =>
    have hsame := (r.step_alike (d := d) (e := e) ha).2
    exact ⟨.refresh r, rfl, by simp [step, hsame, Deed.run], .inl rfl⟩

/-- Where what it looks at is alike, a task goes on by the same deed. -/
theorem settle_deed (ha : t.Alike d e) (ho : t.Orderly) (hr : t.rests = false) :
    ∃ deed : Deed, t.settle d = (t.step d).2.settle (deed.run d) ∧
      t.settle e = (t.step d).2.settle (deed.run e) ∧
      (t.step d).2.rank (deed.run d) < t.rank d ∧
      (deed.hides = false ∨ ∃ s todo o, t = selection s ∧ s.stage = .perform todo o) := by
  obtain ⟨deed, hd, he, hhide⟩ := step_deed ha ho
  have hlt := rank_step (d := d) hr
  have hdesk : (t.step d).1 = deed.run d := congrArg Prod.fst hd
  rw [hdesk] at hlt
  refine ⟨deed, ?_, ?_, hlt, hhide⟩
  · rw [settle_step hr, hdesk]
  · rw [settle_step hr, he]

/-- An answer brings a task on in the same way wherever it arrives. -/
theorem answered_deed (d e : Desk) (t : Task) (reply : Reply) :
    ∃ deed : Deed, t.answered d reply = (deed.run d, (t.answered d reply).2) ∧
      t.answered e reply = (deed.run e, (t.answered d reply).2) ∧ deed.hides = false := by
  cases t with
  | selection s =>
    cases reply with
    | setState result =>
      simp only [answered, Selection.answered]
      split
      · next epoch _ _ => exact ⟨.stop s.seat epoch, rfl, rfl, rfl⟩
      · exact ⟨.nothing, rfl, rfl, rfl⟩
    | transitions result =>
      simp only [answered, Selection.answered]
      split <;> exact ⟨.nothing, rfl, rfl, rfl⟩
  | pageRefresh page r | storeRefresh r =>
    refine ⟨.nothing, ?_, ?_, rfl⟩
    all_goals
      unfold answered
      split <;> simp_all [Deed.run]

/-- A task is dropped in the same way wherever it stands. -/
theorem dropped_deeds (d e : Desk) (t : Task) :
    ∃ first last : Deed, t.dropped d = last.run (first.run d) ∧
      t.dropped e = last.run (first.run e) ∧ first.hides = false ∧ last.hides = false := by
  cases t with
  | selection s =>
    obtain ⟨first, hfirst, hh⟩ : ∃ first : Deed, (∀ d, s.dropped d =
        if s.holdsClaim then (first.run d).touch s.seat .release else first.run d) ∧
          first.hides = false := by
      cases hs : s.stage with
      | sent epoch url =>
        exact ⟨.stop s.seat epoch, fun d => by simp [Selection.dropped, hs, Deed.run], rfl⟩
      | _ => exact ⟨.nothing, fun d => by simp [Selection.dropped, hs, Deed.run], rfl⟩
    simp only [dropped, hfirst]
    split
    · exact ⟨first, .touch s.seat .release, rfl, rfl, hh, rfl⟩
    · exact ⟨first, .nothing, rfl, rfl, hh, rfl⟩
  | _ => exact ⟨.nothing, .nothing, rfl, rfl, rfl, rfl⟩

/-- Two desks at which a task goes on side by side, up to where it rests. It goes on at both to a
task of lower rank and desks that are in the same relation, or it comes to rest at both alike. -/
theorem settle_parallel {P : Desk → Desk → Task → Prop}
    (hP : ∀ d e t, P d e t → t.rests = false →
      (∃ d' e' t', t.settle d = t'.settle d' ∧ t.settle e = t'.settle e' ∧
        t'.rank d' < t.rank d ∧ P d' e' t') ∨
      ∃ d' e' t', t.settle d = (d', t') ∧ t.settle e = (e', t') ∧ P d' e' t')
    (h : P d e t) : ∃ d' e' t', t.settle d = (d', t') ∧ t.settle e = (e', t') ∧ P d' e' t' := by
  obtain ⟨n, hn⟩ : ∃ n, t.rank d ≤ n := ⟨_, Nat.le_refl _⟩
  induction n using Nat.strongRecOn generalizing d e t with
  | ind n ih =>
    cases hr : t.rests with
    | true => exact ⟨d, e, t, settle_of_rests hr, settle_of_rests hr, h⟩
    | false =>
      rcases hP d e t h hr with ⟨d', e', t', hd, he, hlt, h'⟩ | hend
      · rw [hd, he]
        exact ih _ (by omega) h' (Nat.le_refl _)
      · exact hend

end Task
end OrderDesk
