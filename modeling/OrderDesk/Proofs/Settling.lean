import OrderDesk.Proofs.Step

/-! A task that goes on comes to rest: each step lowers a rank, and the bound on the steps that the
task is given is that rank. What each step keeps is there when it rests. -/
namespace OrderDesk

variable {d d' : Desk} {s : Selection} {g : Stage} {t : Task} {n : Nat}

theorem reconciliation_length_le (order : OrderId) (response : SetResponse) (seats : List Seat)
    (graph : Graph) : (reconciliation order response seats graph).length ≤ 9 := by
  have h : (reconcilable order response seats).length ≤ 3 := List.length_filterMap_le _ Scope.all
  simp only [reconciliation, List.length_flatMap, List.length_cons, List.length_nil,
    List.map_const', List.sum_replicate_nat]
  omega

theorem repopulation_length_le (d : Desk) (page : Nat) :
    (d.repopulation page).length ≤ d.controls.length := by
  simp only [Desk.repopulation, List.length_map, Desk.controlsOn]
  exact Nat.le_trans (List.length_filter_le _ _) (List.length_filter_le _ _)

theorem Refresh.rank_step (r : Refresh) (ha : ∀ url, r ≠ .asked url) (hd : ∀ x, r ≠ .done x) :
    (r.step d).2.rank < r.rank := by
  cases r with
  | ask =>
    simp only [step]
    split <;> simp [rank]
  | asked url => exact absurd rfl (ha url)
  | done x => exact absurd rfl (hd x)
  | _ => simp [step, rank]

theorem Selection.Step.rank_lt (h : Selection.Step d s d' g)
    (hr : (Task.selection s).rests = false) : (s.moveTo g).rank < s.rank := by
  simp only [Task.rests, Task.awaits, Task.isFinished, Bool.or_eq_false_iff,
    Option.isSome_eq_false_iff, Option.isNone_iff_eq_none] at hr
  cases h with
  | @survey response hs =>
    have hlen := reconciliation_length_le s.seat.order response s.seats d.store.graph
    simp only [rank, hs, success, moveTo_stage, List.length_append, List.length_cons,
      List.length_nil]
    omega
  | fetch hs hd =>
    have := Refresh.rank_step (d := d) _ (by rintro url rfl; simp [awaits, hs] at hr) hd
    simp only [rank, hs, moveTo_stage, moveTo_seats]
    omega
  | refuse hs _ =>
    simp only [rank, hs, moveTo_stage, moveTo_seats, Refresh.rank]
    omega
  | _ => simp_all [rank, awaits, outcome?, refusal, explanation] <;> omega

theorem PageRefresh.Step.rank_lt {page : Nat} {r r' : PageRefresh}
    (h : PageRefresh.Step d page r d' r') (hr : (Task.pageRefresh page r).rests = false) :
    r'.rank d' < r.rank d := by
  cases h with
  | @fetch refresh hd =>
    have ha : ∀ url, refresh ≠ .asked url := by
      rintro url rfl
      simp [Task.rests, Task.awaits] at hr
    have := Refresh.rank_step (d := d) refresh ha hd
    simp only [rank, Refresh.step_controls]
    omega
  | survey =>
    have := repopulation_length_le d page
    simp only [rank]
    omega
  | rest => simp [Task.rests, Task.isFinished] at hr
  | _ => simp [rank, Refresh.rank]

namespace Task

/-- Where a task rests: it waits for an answer or is finished. -/
inductive Resting : Task → Prop where
  | sent {s : Selection} {epoch url} : s.stage = .sent epoch url → Resting (selection s)
  | asked {s : Selection} {refused url} : s.stage = .fetch refused (.asked url) →
      Resting (selection s)
  | ended {s : Selection} {outcome} : s.stage = .finished outcome → Resting (selection s)
  | pageAsked {page url} : Resting (pageRefresh page (.fetch (.asked url)))
  | pageEnded {page refreshed} : Resting (pageRefresh page (.finished refreshed))
  | storeAsked {url} : Resting (storeRefresh (.asked url))
  | storeEnded {result} : Resting (storeRefresh (.done result))

theorem resting_of_rests (hr : t.rests = true) : t.Resting := by
  cases t with
  | selection s =>
    simp only [rests, awaits, isFinished, Selection.awaits, Selection.outcome?] at hr
    cases hs : s.stage with
    | sent epoch url => exact .sent hs
    | finished outcome => exact .ended hs
    | fetch refused refresh =>
      cases refresh with
      | asked url => exact .asked hs
      | _ => simp [hs] at hr
    | _ => simp [hs] at hr
  | pageRefresh page r =>
    cases r with
    | fetch r =>
      cases r with
      | asked url => exact .pageAsked
      | _ => simp [rests, awaits, isFinished] at hr
    | finished refreshed => exact .pageEnded
    | _ => simp [rests, awaits, isFinished] at hr
  | storeRefresh r =>
    cases r with
    | asked url => exact .storeAsked
    | done result => exact .storeEnded
    | _ => simp [rests, awaits, isFinished] at hr

theorem orderly_of_rests (hr : t.rests = true) : t.Orderly := by
  cases resting_of_rests hr with
  | sent hs | asked hs | ended hs => simp [Orderly, todo, hs]
  | _ => simp [Orderly, todo]

/-- Each step of a task that goes on brings it closer to where it rests. -/
theorem rank_step (hr : t.rests = false) : (t.step d).2.rank (t.step d).1 < t.rank d := by
  cases t with
  | selection s =>
    obtain ⟨d', g, he, h⟩ := s.step_spec d
    simpa [step, he, rank] using h.rank_lt hr
  | pageRefresh page r =>
    obtain ⟨d', r', he, hstep⟩ := r.step_spec d page
    simpa [step, rank, he] using hstep.rank_lt hr
  | storeRefresh r =>
    refine Refresh.rank_step r ?_ ?_
    · rintro url rfl
      simp [rests, awaits] at hr
    · rintro x rfl
      simp [rests, isFinished] at hr

theorem settleWithin_rests (hn : t.rank d ≤ n) : (settleWithin n d t).2.rests = true := by
  induction n generalizing d t with
  | zero =>
    cases hr : t.rests with
    | true => simp [settleWithin, hr]
    | false =>
      have := rank_step (d := d) hr
      omega
  | succ n ih =>
    cases hr : t.rests with
    | true => simp [settleWithin, hr]
    | false =>
      have := rank_step (d := d) hr
      simpa [settleWithin, hr] using ih (by omega)

/-- A task that goes on comes to where it waits or is finished. -/
theorem settle_rests (d : Desk) (t : Task) : (t.settle d).2.rests = true :=
  settleWithin_rests (Nat.le_refl _)

theorem settle_of_rests (hr : t.rests = true) : t.settle d = (d, t) := by
  unfold settle
  cases t.rank d <;> simp [settleWithin, hr]

theorem settleWithin_of_le (hn : t.rank d ≤ n) : settleWithin n d t = t.settle d := by
  suffices h : ∀ m k d t, rank d t ≤ m → rank d t ≤ k → settleWithin m d t = settleWithin k d t from
    h n (t.rank d) d t hn (Nat.le_refl _)
  intro m
  induction m with
  | zero =>
    intro k d t hm hk
    cases hr : t.rests with
    | true => cases k <;> simp [settleWithin, hr]
    | false =>
      have := rank_step (d := d) hr
      omega
  | succ m ih =>
    intro k d t hm hk
    cases hr : t.rests with
    | true => cases k <;> simp [settleWithin, hr]
    | false =>
      have hlt := rank_step (d := d) hr
      cases k with
      | zero => omega
      | succ k => simpa [settleWithin, hr] using ih k _ _ (by omega) (by omega)

/-- A task that goes on takes its next step first. -/
theorem settle_step (hr : t.rests = false) : t.settle d = (t.step d).2.settle (t.step d).1 := by
  have hlt := rank_step (d := d) hr
  obtain ⟨m, hm⟩ : ∃ m, t.rank d = m + 1 := ⟨t.rank d - 1, by omega⟩
  rw [settle, hm, settleWithin, ← settleWithin_of_le (n := m) (by omega)]
  simp [hr]

/-- Whether a selection rests is told by its stage. -/
theorem rests_of_stage (hs : s.stage = g) :
    (selection s).rests = (selection (s.moveTo g)).rests := by
  subst hs
  rfl

/-- A selection with operations to do does them all and gives up its control. -/
theorem settle_perform {todo : List (Seat × Touch)} {o : Outcome} (hs : s.stage = .perform todo o) :
    (selection s).settle d =
      (((d.perform todo).touch s.seat .hideProgress).touch s.seat .release,
        selection (s.moveTo (.finished o))) := by
  have hgo : (selection s).rests = false := rests_of_stage hs
  induction todo generalizing d s with
  | nil =>
    rw [settle_step hgo]
    simp only [step, Selection.step, hs]
    exact settle_of_rests rfl
  | cons p todo ih =>
    rw [settle_step hgo]
    simp only [step, Selection.step, hs]
    exact ih rfl rfl

/-- A refresh brings the idle controls of its page up to date all at once. -/
theorem settle_survey (d : Desk) (page : Nat) :
    (pageRefresh page .survey).settle d =
      (d.perform (d.repopulation page), pageRefresh page (.finished true)) := by
  have hgo : ∀ (todo : List (Seat × Touch)) (e : Desk),
      (pageRefresh page (.perform todo)).settle e =
        (e.perform todo, pageRefresh page (.finished true)) := by
    intro todo
    induction todo with
    | nil => exact fun e => (settle_step rfl).trans (settle_of_rests rfl)
    | cons p todo ih => exact fun e => (settle_step rfl).trans (ih _)
  exact (settle_step rfl).trans (hgo _ d)

/-- A refresh for the page fails at once when there is no endpoint to ask. -/
theorem settle_refreshPage_none (h : d.store.metaUrl = none) :
    (ofWish d .refreshPage).settle d = (d, pageRefresh d.page (.finished false)) := by
  rw [ofWish, settle_step rfl]
  simp only [step, PageRefresh.step, Refresh.step, h]
  rw [settle_step rfl, settle_of_rests rfl]
  rfl

/-- Else it asks for the graph and waits. -/
theorem settle_refreshPage_some {url : String} (h : d.store.metaUrl = some url) :
    (ofWish d .refreshPage).settle d =
      (d.ask (.transitions url), pageRefresh d.page (.fetch (.asked url))) := by
  rw [ofWish, settle_step rfl]
  simp only [step, PageRefresh.step, Refresh.step, h]
  rw [settle_of_rests rfl]

/-- What the steps of a task keep is there when it rests. -/
theorem settle_keeps {P : Desk → Task → Prop}
    (hP : ∀ d t, P d t → t.rests = false → P (t.step d).1 (t.step d).2) (h : P d t) :
    P (t.settle d).1 (t.settle d).2 := by
  unfold settle
  generalize t.rank d = n
  induction n generalizing d t with
  | zero => exact h
  | succ n ih =>
    cases hr : t.rests with
    | true => simpa [settleWithin, hr] using h
    | false => simpa [settleWithin, hr] using ih (hP d t h hr)

/-- A property of a task that is a selection. -/
def Meets (P : Desk → Selection → Prop) (d : Desk) (t : Task) : Prop :=
  ∀ s, t = selection s → P d s

variable {P : Desk → Selection → Prop}

theorem meets_step (hP : ∀ {d s d' g}, Selection.Step d s d' g → P d s → P d' (s.moveTo g))
    (h : t.Meets P d) : (t.step d).2.Meets P (t.step d).1 := by
  intro s hs
  obtain ⟨s', d', g, rfl, hstep, rfl, hd⟩ := step_selection hs
  rw [hd]
  exact hP hstep (h s' rfl)

theorem meets_settle (hP : ∀ {d s d' g}, Selection.Step d s d' g → P d s → P d' (s.moveTo g))
    (h : t.Meets P d) : (t.settle d).2.Meets P (t.settle d).1 :=
  settle_keeps (P := fun d t => t.Meets P d) (fun _ _ h _ => meets_step hP h) h

theorem meets_answered {reply : Reply}
    (hP : ∀ s, P d s → P (s.answered d reply).1 (s.answered d reply).2) (h : t.Meets P d) :
    (t.answered d reply).2.Meets P (t.answered d reply).1 := by
  intro s hs
  obtain ⟨s', rfl, rfl, hd⟩ := answered_selection hs
  rw [hd]
  exact hP s' (h s' rfl)

end Task
end OrderDesk
