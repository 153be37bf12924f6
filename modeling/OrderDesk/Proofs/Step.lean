import OrderDesk.Proofs.Touch
import OrderDesk.Session

/-! The steps of tasks, case by case, and what a step does to a control that the task does not
hold. -/
namespace OrderDesk

variable {d d' : Desk} {s : Selection} {g : Stage} {t : Task} {seat : Seat} {n : Nat}

namespace Selection

@[simp] theorem moveTo_seat (s : Selection) (g : Stage) : (s.moveTo g).seat = s.seat := rfl

@[simp] theorem moveTo_seats (s : Selection) (g : Stage) : (s.moveTo g).seats = s.seats := rfl

@[simp] theorem moveTo_wanted (s : Selection) (g : Stage) : (s.moveTo g).wanted = s.wanted := rfl

@[simp] theorem moveTo_stage (s : Selection) (g : Stage) : (s.moveTo g).stage = g := rfl

/-- What a step of a selection comes to: another desk and another stage. -/
inductive Step (d : Desk) (s : Selection) : Desk → Stage → Prop where
  | lookBusy : s.stage = .look → d.isBusy s.seat = true → Step d s d (.finished (.ignored .busy))
  | lookIdle : s.stage = .look → d.isBusy s.seat = false → Step d s d .peek
  | peek : s.stage = .peek → Step d s d (.freshen d.store.graph)
  | freshen {graph} : s.stage = .freshen graph →
      Step d s (d.touch s.seat (.freshen graph)) .claim
  | ignore {reason} : s.stage = .claim → s.ignored? d = some reason →
      Step d s d (.finished (.ignored reason))
  | claim : s.stage = .claim → s.ignored? d = none → Step d s (d.touch s.seat .claim) .choose
  | choose : s.stage = .choose → Step d s (d.touch s.seat (.select s.wanted)) .announce
  | announce : s.stage = .announce →
      Step d s (d.touch s.seat (.beginProgress Feedback.saveStarted))
        (.send (((d.touch s.seat (.beginProgress Feedback.saveStarted)).control? s.seat).elim 0
          (·.epoch)))
  | send {epoch url} : s.stage = .send epoch → url = ((d.control? s.seat).bind (·.setUrl)).getD "" →
      Step d s ((d.startTimers s.seat epoch).ask (.setState url s.request)) (.sent epoch url)
  | wait {epoch url} : s.stage = .sent epoch url → Step d s d (.sent epoch url)
  | fail {epoch error} : s.stage = .conclude epoch (.error error) →
      Step d s (d.touch s.seat .endProgress)
        (.perform [(s.seat, .tell (Feedback.error Feedback.networkFailure))]
          (.failed Feedback.networkFailure))
  | accept {epoch reply} : s.stage = .conclude epoch (.ok reply) → reply.isSuccess = true →
      Step d s (d.touch s.seat .endProgress) (.survey reply.body)
  | refuse {epoch reply} : s.stage = .conclude epoch (.ok reply) → reply.isSuccess = false →
      Step d s (d.touch s.seat .endProgress) (.fetch reply .ask)
  | survey {response} : s.stage = .survey response → Step d s d (s.success response d.store.graph)
  | fetch {refused refresh} : s.stage = .fetch refused refresh →
      (∀ result, refresh ≠ .done result) →
      Step d s (refresh.step d).1 (.fetch refused (refresh.step d).2)
  | unfetched {refused error} : s.stage = .fetch refused (.done (.error error)) →
      Step d s d (s.refusal refused)
  | fetched {refused graph} : s.stage = .fetch refused (.done (.ok graph)) →
      Step d s d (.repopulate graph s.seats)
  | renewed {graph} : s.stage = .repopulate graph [] → Step d s d (.reread graph)
  | next {graph seat todo} : s.stage = .repopulate graph (seat :: todo) →
      seat = s.seat ∨ d.isBusy seat = false → Step d s d (.renew graph seat todo)
  | skip {graph seat todo} : s.stage = .repopulate graph (seat :: todo) →
      seat ≠ s.seat → d.isBusy seat = true → Step d s d (.repopulate graph todo)
  | renew {graph seat todo} : s.stage = .renew graph seat todo →
      Step d s (d.touch seat (.populate graph)) (.repopulate graph todo)
  | reread {graph} : s.stage = .reread graph →
      Step d s d (s.explanation ((d.control? s.seat).elim [] (·.permitted graph)))
  | perform {p todo outcome} : s.stage = .perform (p :: todo) outcome →
      Step d s (d.touch p.1 p.2) (.perform todo outcome)
  | release {outcome} : s.stage = .perform [] outcome →
      Step d s ((d.touch s.seat .hideProgress).touch s.seat .release) (.finished outcome)
  | rest {outcome} : s.stage = .finished outcome → Step d s d (.finished outcome)

theorem step_spec (d : Desk) (s : Selection) :
    ∃ d' g, s.step d = (d', s.moveTo g) ∧ Step d s d' g := by
  cases hs : s.stage with
  | look =>
    cases hb : d.isBusy s.seat
    · exact ⟨_, _, by simp [step, hs, hb], .lookIdle hs hb⟩
    · exact ⟨_, _, by simp [step, hs, hb], .lookBusy hs hb⟩
  | peek => exact ⟨_, _, by simp [step, hs], .peek hs⟩
  | freshen graph => exact ⟨_, _, by simp [step, hs], .freshen hs⟩
  | claim =>
    cases hi : s.ignored? d with
    | none => exact ⟨_, _, by simp [step, hs, hi], .claim hs hi⟩
    | some reason => exact ⟨_, _, by simp [step, hs, hi], .ignore hs hi⟩
  | choose => exact ⟨_, _, by simp [step, hs], .choose hs⟩
  | announce => exact ⟨_, _, by simp [step, hs], .announce hs⟩
  | send epoch => exact ⟨_, _, by simp [step, hs], .send hs rfl⟩
  | sent epoch url => exact ⟨_, _, by simp [step, hs], .wait hs⟩
  | conclude epoch result =>
    cases result with
    | error error => exact ⟨_, _, by simp [step, hs, verdict], .fail hs⟩
    | ok reply =>
      cases hr : reply.isSuccess
      · exact ⟨_, _, by simp [step, hs, verdict, hr], .refuse hs hr⟩
      · exact ⟨_, _, by simp [step, hs, verdict, hr], .accept hs hr⟩
  | survey response => exact ⟨_, _, by simp [step, hs], .survey hs⟩
  | fetch refused refresh =>
    cases refresh with
    | done result =>
      cases result with
      | error error => exact ⟨_, _, by simp [step, hs], .unfetched hs⟩
      | ok graph => exact ⟨_, _, by simp [step, hs], .fetched hs⟩
    | _ => exact ⟨_, _, by simp [step, hs], .fetch hs (by simp)⟩
  | repopulate graph todo =>
    cases todo with
    | nil => exact ⟨_, _, by simp [step, hs], .renewed hs⟩
    | cons seat todo =>
      by_cases hn : seat = s.seat ∨ d.isBusy seat = false
      · exact ⟨_, _, by simp [step, hs, hn], .next hs hn⟩
      · have hne : seat ≠ s.seat := fun he => hn (.inl he)
        have hb : d.isBusy seat = true := by simpa using fun hb => hn (.inr hb)
        exact ⟨_, _, by simp [step, hs, hne, hb], .skip hs hne hb⟩
  | renew graph seat todo => exact ⟨_, _, by simp [step, hs], .renew hs⟩
  | reread graph => exact ⟨_, _, by simp [step, hs], .reread hs⟩
  | perform todo outcome =>
    cases todo with
    | nil => exact ⟨_, _, by simp [step, hs], .release hs⟩
    | cons p todo => exact ⟨_, _, by simp [step, hs], .perform hs⟩
  | finished outcome => exact ⟨_, _, by simp [step, hs], .rest hs⟩

end Selection

theorem Refresh.step_controls (d : Desk) (r : Refresh) : (r.step d).1.controls = d.controls := by
  unfold Refresh.step
  split
  · split <;> rfl
  all_goals rfl

@[simp] theorem Refresh.step_hold? (d : Desk) (r : Refresh) :
    (r.step d).1.hold? seat = d.hold? seat :=
  Desk.hold?_congr (r.step_controls d) seat

namespace Task

/-- The operations that a task is resolved to perform, but for the release of its control. -/
def todo : Task → List (Seat × Touch)
  | selection s =>
    match s.stage with
    | .perform todo _ => todo
    | _ => []
  | pageRefresh _ (.perform todo) => todo
  | _ => []

/-- Whether a task holds the claim on a control. -/
def claims (seat : Seat) : Task → Bool
  | selection s => s.seat == seat && s.holdsClaim
  | _ => false

/-- A task is resolved to do what anyone may do, and a selection to forget its own action. -/
def Orderly (t : Task) : Prop :=
  ∀ p ∈ t.todo, p.2.isShared ∨ ∃ s, t = selection s ∧ p = (s.seat, .unselect)

end Task

theorem reconciliation_shared {order : OrderId} {response : SetResponse} {seats : List Seat}
    {graph : Graph} {p : Seat × Touch} (h : p ∈ reconciliation order response seats graph) :
    p.2.isShared := by
  simp only [reconciliation, List.mem_flatMap, List.mem_cons, List.not_mem_nil, or_false] at h
  obtain ⟨_, _, rfl | rfl | rfl⟩ := h <;> rfl

theorem repopulation_shared {page : Nat} {p : Seat × Touch} (h : p ∈ d.repopulation page) :
    p.2.isShared := by
  obtain ⟨_, _, rfl⟩ := List.mem_map.mp h
  rfl

namespace Selection

theorem Step.orderly (h : Step d s d' g) (ho : (Task.selection s).Orderly) :
    (Task.selection (s.moveTo g)).Orderly := by
  intro p hp
  cases h with
  | survey hs =>
    simp only [Task.todo, moveTo_stage, success, List.mem_append, List.mem_cons,
      List.not_mem_nil, or_false] at hp
    rcases hp with hp | rfl | rfl
    · exact Or.inl (reconciliation_shared hp)
    · exact Or.inr ⟨_, rfl, rfl⟩
    · exact Or.inl rfl
  | perform hs =>
    rcases ho p (by simp_all [Task.todo]) with hp | ⟨_, he, hp⟩
    · exact Or.inl hp
    · cases he
      exact Or.inr ⟨_, rfl, hp⟩
  | _ => simp_all [Task.todo, refusal, explanation, Touch.isShared]

/-- A step claims the control, gives it up, or leaves the claim with whoever holds it. -/
theorem Step.claim_cases (h : Step d s d' g) (ho : (Task.selection s).Orderly) :
    (s.ignored? d = none ∧ s.holdsClaim = false ∧ (s.moveTo g).holdsClaim = true ∧
      d' = d.touch s.seat .claim) ∨
    (s.holdsClaim = true ∧ (s.moveTo g).holdsClaim = false ∧
      d' = (d.touch s.seat .hideProgress).touch s.seat .release) ∨
    ((s.moveTo g).holdsClaim = s.holdsClaim ∧ ∀ seat, d'.isBusy seat = d.isBusy seat) := by
  cases h with
  | claim hs hi => exact Or.inl ⟨hi, by simp [holdsClaim, hs], rfl, rfl⟩
  | release hs => exact Or.inr (Or.inl ⟨by simp [holdsClaim, hs], rfl, rfl⟩)
  | send hs => exact Or.inr (Or.inr ⟨by simp [holdsClaim, hs], fun _ => rfl⟩)
  | fetch hs =>
    exact Or.inr (Or.inr ⟨by simp [holdsClaim, hs], Desk.isBusy_congr (Refresh.step_controls _ _)⟩)
  | @perform p todo outcome hs =>
    right; right
    refine ⟨by simp [holdsClaim, hs], fun seat => ?_⟩
    rcases ho p (by simp [Task.todo, hs]) with hp | ⟨_, _, hp⟩
    · exact Desk.isBusy_touch (Touch.ne_claim_of_isShared hp) (Touch.ne_release_of_isShared hp)
    · exact Desk.isBusy_touch (by simp [hp]) (by simp [hp])
  | _ =>
    right; right
    simp_all [holdsClaim, success, refusal, explanation, Desk.isBusy_touch]

theorem ignored?_eq_none (h : s.ignored? d = none) :
    (d.hold? s.seat).isSome ∧ d.isBusy s.seat = false := by
  simp only [ignored?] at h
  split at h
  · simp at h
  · split at h
    · simp at h
    · next hu =>
      split at h
      · simp at h
      · next hb =>
        refine ⟨?_, by simpa using hb⟩
        cases hc : d.control? s.seat <;> simp_all [Desk.hold?]

/-- A step leaves alone what belongs to others on a control that the selection neither holds nor
claims. -/
theorem Step.hold?_idle (h : Step d s d' g) (ho : (Task.selection s).Orderly)
    (hc : (Task.selection s).claims seat = false)
    (hc' : (Task.selection (s.moveTo g)).claims seat = false) :
    d'.hold? seat = d.hold? seat := by
  simp only [Task.claims, Bool.and_eq_false_imp, beq_iff_eq] at hc hc'
  cases h with
  | freshen hs => exact Desk.hold?_touch_of_isShared rfl
  | renew hs => exact Desk.hold?_touch_of_isShared rfl
  | claim hs hi =>
    have hne : s.seat ≠ seat := by simpa [holdsClaim] using hc'
    simp [hne]
  | @perform p todo outcome hs =>
    have hne : s.seat ≠ seat := by simpa [holdsClaim, hs] using hc
    rcases ho p (by simp [Task.todo, hs]) with hp | ⟨_, he, hp⟩
    · exact Desk.hold?_touch_of_isShared hp
    · cases he
      simp [hp, hne]
  | _ => simp_all [holdsClaim]

/-- What belongs to another request is left alone. -/
theorem Step.hold?_frame (h : Step d s d' g) (ho : (Task.selection s).Orderly)
    (hc : (Task.selection s).claims seat = false) (hb : d.isBusy seat = true) :
    d'.hold? seat = d.hold? seat := by
  refine h.hold?_idle ho hc ?_
  rcases h.claim_cases ho with ⟨hi, -, -, -⟩ | ⟨-, hgone, -⟩ | ⟨hsame, -⟩
  · have hne : s.seat ≠ seat := by
      rintro rfl
      simp [(ignored?_eq_none hi).2] at hb
    simp [Task.claims, hne]
  · simp [Task.claims, hgone]
  · simpa [Task.claims, hsame] using hc

/-- An answer concludes a request that was sent or a fetch, and else is lost. -/
theorem answered_cases (d : Desk) (s : Selection) (reply : Reply) :
    s.answered d reply = (d, s) ∨
    (∃ epoch url result, s.stage = .sent epoch url ∧ reply = .setState result ∧
      s.answered d reply = (d.stopTimers s.seat epoch, s.moveTo (.conclude epoch result))) ∨
    (∃ refused url result, s.stage = .fetch refused (.asked url) ∧ reply = .transitions result ∧
      s.answered d reply = (d, s.moveTo (.fetch refused (Refresh.answered result)))) := by
  cases reply with
  | setState result =>
    cases hs : s.stage with
    | sent epoch url => exact Or.inr (Or.inl ⟨_, _, _, rfl, rfl, by simp [answered, hs]⟩)
    | _ => exact Or.inl (by simp [answered, hs])
  | transitions result =>
    cases hs : s.stage with
    | fetch refused refresh =>
      cases refresh with
      | asked url => exact Or.inr (Or.inr ⟨_, _, _, rfl, rfl, by simp [answered, hs]⟩)
      | _ => exact Or.inl (by simp [answered, hs])
    | _ => exact Or.inl (by simp [answered, hs])

end Selection

namespace PageRefresh

/-- What a step of a refresh that an operator asked for comes to: another desk, and how far the
refresh has come there. -/
inductive Step (d : Desk) (page : Nat) : PageRefresh → Desk → PageRefresh → Prop where
  | fetch {refresh : Refresh} : (∀ result, refresh ≠ .done result) →
      Step d page (.fetch refresh) (refresh.step d).1 (.fetch (refresh.step d).2)
  | unfetched {error} : Step d page (.fetch (.done (.error error))) d (.finished false)
  | fetched {graph} : Step d page (.fetch (.done (.ok graph))) d .survey
  | survey : Step d page .survey d (.perform (d.repopulation page))
  | perform {p todo} : Step d page (.perform (p :: todo)) (d.touch p.1 p.2) (.perform todo)
  | performed : Step d page (.perform []) d (.finished true)
  | rest {refreshed} : Step d page (.finished refreshed) d (.finished refreshed)

theorem step_spec (d : Desk) (page : Nat) (r : PageRefresh) :
    ∃ d' r', r.step d page = (d', r') ∧ Step d page r d' r' := by
  cases r with
  | fetch refresh =>
    cases refresh with
    | done result =>
      cases result with
      | error error => exact ⟨_, _, rfl, .unfetched⟩
      | ok graph => exact ⟨_, _, rfl, .fetched⟩
    | _ => exact ⟨_, _, rfl, .fetch (by simp)⟩
  | survey => exact ⟨_, _, rfl, .survey⟩
  | perform todo =>
    cases todo with
    | nil => exact ⟨_, _, rfl, .performed⟩
    | cons p todo => exact ⟨_, _, rfl, .perform⟩
  | finished refreshed => exact ⟨_, _, rfl, .rest⟩

/-- A step of a page refresh touches no control, or does the next thing it is resolved to do. -/
theorem step_cases (d : Desk) (page : Nat) (r : PageRefresh) :
    ((r.step d page).1.controls = d.controls ∧
      ((Task.pageRefresh page (r.step d page).2).todo = [] ∨
        (r.step d page).2 = .perform (d.repopulation page))) ∨
    ∃ p todo, r = .perform (p :: todo) ∧ r.step d page = (d.touch p.1 p.2, .perform todo) := by
  obtain ⟨d', r', he, hstep⟩ := r.step_spec d page
  rw [he]
  cases hstep with
  | fetch => exact Or.inl ⟨Refresh.step_controls _ _, Or.inl rfl⟩
  | survey => exact Or.inl ⟨rfl, Or.inr rfl⟩
  | @perform p todo => exact Or.inr ⟨p, todo, rfl, rfl⟩
  | _ => exact Or.inl ⟨rfl, Or.inl rfl⟩

end PageRefresh

theorem Selection.Step.touched (h : Selection.Step d s d' g) : d.Touched d' := by
  cases h with
  | fetch => exact .of_eq (Refresh.step_controls _ _)
  | release => exact (Desk.Touched.touch _ _ _).trans (Desk.Touched.touch _ _ _)
  | freshen | claim | choose | announce | fail | accept | refuse | renew | perform =>
    exact Desk.Touched.touch _ _ _
  | _ => exact .of_eq rfl

namespace Task

/-- Whatever a task does to controls is a row of operations. -/
theorem step_touched (d : Desk) (t : Task) : d.Touched (t.step d).1 := by
  cases t with
  | selection s =>
    obtain ⟨d', g, he, h⟩ := s.step_spec d
    simpa [step, he] using h.touched
  | pageRefresh page r =>
    change d.Touched (r.step d page).1
    rcases r.step_cases d page with ⟨h, _⟩ | ⟨p, todo, rfl, he⟩
    · exact .of_eq h
    · rw [he]
      exact .touch _ _ _
  | storeRefresh r => exact .of_eq (Refresh.step_controls d r)

theorem settleWithin_touched (n : Nat) (d : Desk) (t : Task) :
    d.Touched (settleWithin n d t).1 := by
  induction n generalizing d t with
  | zero => exact .of_eq rfl
  | succ n ih =>
    by_cases hr : t.rests
    · simpa [settleWithin, hr] using Desk.Touched.of_eq (d := d) rfl
    · simpa [settleWithin, hr] using (step_touched d t).trans (ih _ _)

theorem pageRefresh_shared {page : Nat} {r : PageRefresh} (ho : (pageRefresh page r).Orderly)
    {p : Seat × Touch} (hp : p ∈ (pageRefresh page r).todo) : p.2.isShared := by
  rcases ho p hp with hp | ⟨_, he, _⟩
  · exact hp
  · cases he

theorem step_orderly (ho : t.Orderly) : (t.step d).2.Orderly := by
  cases t with
  | selection s =>
    obtain ⟨d', g, he, h⟩ := s.step_spec d
    simpa [step, he] using h.orderly ho
  | pageRefresh page r =>
    intro p hp
    left
    change p ∈ (pageRefresh page (r.step d page).2).todo at hp
    obtain ⟨_, ht | ht⟩ | ⟨q, todo, rfl, he⟩ := r.step_cases d page
    · simp [ht] at hp
    · rw [ht] at hp
      exact repopulation_shared hp
    · rw [he] at hp
      exact pageRefresh_shared ho (List.mem_cons_of_mem _ hp)
  | storeRefresh r => intro p hp; simp [step, todo] at hp

/-- A step of a task leaves alone what belongs to others on a control that the task neither holds
nor claims. -/
theorem step_idle (ho : t.Orderly) (hc : t.claims seat = false)
    (hc' : (t.step d).2.claims seat = false) : (t.step d).1.hold? seat = d.hold? seat := by
  cases t with
  | selection s =>
    obtain ⟨d', g, he, h⟩ := s.step_spec d
    simp only [step, he] at hc' ⊢
    exact h.hold?_idle ho hc hc'
  | pageRefresh page r =>
    change (r.step d page).1.hold? seat = _
    rcases r.step_cases d page with ⟨h, _⟩ | ⟨p, todo, rfl, he⟩
    · exact Desk.hold?_congr h seat
    · rw [he]
      exact Desk.hold?_touch_of_isShared (pageRefresh_shared ho List.mem_cons_self)
  | storeRefresh r => exact Refresh.step_hold? d r

/-- A step of a task leaves alone what belongs to a request of another task. -/
theorem step_frame (ho : t.Orderly) (hc : t.claims seat = false) (hb : d.isBusy seat = true) :
    (t.step d).1.hold? seat = d.hold? seat := by
  cases t with
  | selection s =>
    obtain ⟨d', g, he, h⟩ := s.step_spec d
    simpa [step, he] using h.hold?_frame ho hc hb
  | _ => exact step_idle ho hc rfl

/-- A step makes a control busy as it claims it, and idle as it gives it up. The claims of all
others on it are `n`. -/
theorem step_balance (ho : t.Orderly)
    (h : (d.isBusy seat).toNat = n + (t.claims seat).toNat) :
    ((t.step d).1.isBusy seat).toNat = n + ((t.step d).2.claims seat).toNat := by
  cases t with
  | selection s =>
    obtain ⟨d', g, he, hstep⟩ := s.step_spec d
    simp only [step, he]
    rcases hstep.claim_cases ho with ⟨hi, hc, hc', rfl⟩ | ⟨hc, hc', rfl⟩ | ⟨hc, hb⟩
    · obtain ⟨hsome, hb⟩ := Selection.ignored?_eq_none hi
      by_cases hseat : s.seat = seat
      · subst hseat
        simp_all [claims, Desk.isBusy_touch_claim]
      · simp_all [claims, Desk.isBusy_touch_claim]
    · by_cases hseat : s.seat = seat
      · subst hseat
        have := (d.isBusy s.seat).toNat_le
        simp_all [claims, Desk.isBusy_touch_release]
      · simp_all [claims, Desk.isBusy_touch_release, Desk.isBusy_touch]
    · simpa [claims, hc, hb] using h
  | pageRefresh page r =>
    change ((r.step d page).1.isBusy seat).toNat = n + 0
    rcases r.step_cases d page with ⟨hc, _⟩ | ⟨p, todo, rfl, he⟩
    · simpa [claims, Desk.isBusy_congr hc] using h
    · have hp := pageRefresh_shared ho List.mem_cons_self
      rw [he, Desk.isBusy_touch (Touch.ne_claim_of_isShared hp) (Touch.ne_release_of_isShared hp)]
      exact h
  | storeRefresh r =>
    simpa [step, claims, Desk.isBusy_congr (Refresh.step_controls d r)] using h

/-- An answer touches no control, and leaves claims and resolutions as they are. -/
theorem answered_frame (d : Desk) (t : Task) (reply : Reply) (seat : Seat) :
    (t.answered d reply).1.controls = d.controls ∧
      (t.answered d reply).2.claims seat = t.claims seat ∧
      (t.Orderly → (t.answered d reply).2.Orderly) := by
  cases t with
  | selection s =>
    simp only [answered]
    rcases s.answered_cases d reply with h | ⟨_, _, _, hs, _, h⟩ | ⟨_, _, _, hs, _, h⟩
    · simp [h]
    · simp [h, claims, Selection.holdsClaim, hs, Desk.stopTimers, Orderly, todo]
    · simp [h, claims, Selection.holdsClaim, hs, Orderly, todo]
  | pageRefresh page r =>
    unfold answered
    split <;> simp_all [claims, Orderly, todo]
  | storeRefresh r =>
    unfold answered
    split <;> simp_all [claims, Orderly, todo]

/-- A task that is dropped gives up its claim and nothing else. -/
theorem dropped_cases (d : Desk) (t : Task) :
    ∃ e : Desk, e.controls = d.controls ∧
      (t.dropped d = e ∧ (∀ seat, t.claims seat = false) ∨
        ∃ s, t = selection s ∧ s.holdsClaim = true ∧ t.dropped d = e.touch s.seat .release) := by
  cases t with
  | selection s =>
    have hd : ∃ e : Desk, e.controls = d.controls ∧
        s.dropped d = if s.holdsClaim then e.touch s.seat .release else e := by
      unfold Selection.dropped
      split
      · exact ⟨d.stopTimers s.seat _, rfl, rfl⟩
      · exact ⟨d, rfl, rfl⟩
    obtain ⟨e, he, hd⟩ := hd
    refine ⟨e, he, ?_⟩
    cases hc : s.holdsClaim with
    | false => exact Or.inl ⟨by simp [dropped, hd, hc], by simp [claims, hc]⟩
    | true => exact Or.inr ⟨s, rfl, hc, by simp [dropped, hd, hc]⟩
  | pageRefresh page r => exact ⟨d, rfl, Or.inl ⟨rfl, fun _ => rfl⟩⟩
  | storeRefresh r => exact ⟨d, rfl, Or.inl ⟨rfl, fun _ => rfl⟩⟩

theorem dropped_touched (d : Desk) (t : Task) : d.Touched (t.dropped d) := by
  obtain ⟨e, he, ⟨hd, _⟩ | ⟨s, _, _, hd⟩⟩ := dropped_cases d t
  · exact hd ▸ .of_eq he
  · exact hd ▸ (Desk.Touched.of_eq he).trans (.touch _ _ _)

theorem dropped_balance (h : (d.isBusy seat).toNat = n + (t.claims seat).toNat) :
    ((t.dropped d).isBusy seat).toNat = n := by
  obtain ⟨e, he, ⟨hd, hc⟩ | ⟨s, rfl, hc, hd⟩⟩ := dropped_cases d t
  · simpa [hd, Desk.isBusy_congr he, hc] using h
  · rw [hd, Desk.isBusy_touch_release, Desk.isBusy_congr he]
    have := (d.isBusy seat).toNat_le
    by_cases hseat : s.seat = seat
    · simp_all [claims]
    · simp_all [claims]

theorem dropped_frame (hc : t.claims seat = false) : (t.dropped d).hold? seat = d.hold? seat := by
  obtain ⟨e, he, ⟨hd, _⟩ | ⟨s, rfl, hs, hd⟩⟩ := dropped_cases d t
  · rw [hd, Desk.hold?_congr he]
  · have hne : s.seat ≠ seat := by simpa [claims, hs] using hc
    simp [hd, hne, Desk.hold?_congr he]

/-- Only a selection becomes a selection, by a step of its own. -/
theorem step_selection {s' : Selection} (h : (t.step d).2 = selection s') :
    ∃ s d' g, t = selection s ∧ Selection.Step d s d' g ∧ s' = s.moveTo g ∧
      (t.step d).1 = d' := by
  cases t with
  | selection s =>
    obtain ⟨d', g, he, hstep⟩ := s.step_spec d
    simp only [step, he, selection.injEq] at h
    exact ⟨s, d', g, rfl, hstep, h.symm, by simp [step, he]⟩
  | pageRefresh page r => simp [step] at h
  | storeRefresh r => simp [step] at h

/-- Only a selection becomes a selection by an answer. -/
theorem answered_selection {s' : Selection} {reply : Reply}
    (h : (t.answered d reply).2 = selection s') :
    ∃ s, t = selection s ∧ s' = (s.answered d reply).2 ∧
      (t.answered d reply).1 = (s.answered d reply).1 := by
  cases t with
  | selection s =>
    simp only [answered, selection.injEq] at h
    exact ⟨s, rfl, h.symm, rfl⟩
  | pageRefresh page r => unfold answered at h; split at h <;> simp_all
  | storeRefresh r => unfold answered at h; split at h <;> simp_all

/-- The answer to its request lets a selection close the progress. -/
theorem answered_of_sent {epoch : Nat} {url : String} (hs : s.stage = .sent epoch url)
    (result : SetResult) : (selection s).answered d (.setState result) =
      (d.stopTimers s.seat epoch, selection (s.moveTo (.conclude epoch result))) := by
  simp [answered, Selection.answered, hs]

/-- The answer for the graph lets a selection that was refused go on with what it brings. -/
theorem answered_of_asked {refused : SetReply} {url : String}
    (hs : s.stage = .fetch refused (.asked url)) (result : MetaResult) :
    (selection s).answered d (.transitions result) =
      (d, selection (s.moveTo (.fetch refused (Refresh.answered result)))) := by
  simp [answered, Selection.answered, hs]

theorem ofWish_idle (d : Desk) (wish : Wish) (seat : Seat) :
    (ofWish d wish).claims seat = false ∧ (ofWish d wish).Orderly := by
  cases wish <;> simp [ofWish, claims, Selection.holdsClaim, Orderly, todo]

end Task
end OrderDesk
