import OrderDesk.Proofs.History
import OrderDesk.Proofs.Reconciliation
import OrderDesk.Proofs.Verdict

/-! The graph that the choices of a control come from, while a task goes on. A refresh or a refusal
fetches a graph and brings the controls up to date with it one by one, and a change that is made
brings up to date the controls that it reports a state for. Each stage of a task is about to bring
a control up to date with some graph or to leave it, and no step changes which. -/
namespace OrderDesk

variable {d e : Desk} {sel : Selection} {t : Task} {c : Control} {g fetched final : Graph}
  {stage : Stage} {u : Touch} {w : List (Seat × Touch)} {seat other : Seat} {seats : List Seat}
  {page : Nat} {order : OrderId} {response : SetResponse} {reply : Reply}

/-- An operation that leaves the state of a control and the choices for it as they are. -/
def Touch.keepsChoices : Touch → Bool
  | .populate _ | .adopt _ => false
  | _ => true

namespace Control

/-- The list that a derivation leaves has one entry without an action, and after it the actions
with their labels, if there are any. -/
theorem choicesFor_cases (actions : List String) :
    (actions = [] ∧ choicesFor actions = [⟨"", Feedback.noOptions⟩]) ∨
      (actions ≠ [] ∧ choicesFor actions =
        ⟨"", Feedback.chooseState⟩ :: actions.map fun a => ⟨a, labelOf a⟩) := by
  cases actions with
  | nil => exact Or.inl ⟨rfl, rfl⟩
  | cons a actions => exact Or.inr ⟨List.cons_ne_nil a actions, rfl⟩

/-- The first entry of a list of choices is not among the actions on offer, nor is any other that
has no sign. -/
theorem actions_choicesFor (actions : List String) :
    ((choicesFor actions).map (·.action)).filter (!·.isEmpty) = actions.filter (!·.isEmpty) := by
  rcases choicesFor_cases actions with ⟨rfl, h⟩ | ⟨-, h⟩
  · rw [h]
    rfl
  · simp [h, Function.comp_def]

/-- A control that offers what a graph permits in its present state, if it offers anything. -/
def Offers (g : Graph) (c : Control) : Prop :=
  c.isBound = true → c.loaded = true ∧ c.choices = choicesFor (c.permitted g)

theorem Offers.touch (h : c.Offers g) (hu : u.keepsChoices = true) : (c.touch u).Offers g := by
  cases u with
  | populate | adopt => simp [Touch.keepsChoices] at hu
  | freshen fetched =>
    cases hb : c.isBound with
    | false => simpa [Control.touch, hb] using h
    | true => simpa [Control.touch, hb, (h hb).1] using h
  | progress epoch text =>
    simp only [Control.touch]
    split <;> exact h
  | _ => exact h

theorem offers_populate (c : Control) (g : Graph) : (c.touch (.populate g)).Offers g := by
  intro hb
  cases hc : c.isBound with
  | false => simp [touch, hc] at hb
  | true => simp [touch, hc, derive, permitted]

theorem offers_bind (g : Graph) (page : Nat) (x : Descriptor) : (bind g page x).Offers g := by
  intro hb
  cases hu : x.setUrl with
  | none => simp [bind, isBound, hu] at hb
  | some url => simp [bind, isBound, derive, permitted, hu]

theorem offers_updated (c : Control) (g : Graph) (state : String) :
    (c.updated g state).Offers g := by
  intro hb
  have hc : c.isBound = true := hb
  simp [updated, hc, permitted]

@[simp] theorem undergo_seat (c : Control) (w : List (Seat × Touch)) :
    (c.undergo w).seat = c.seat := by
  induction w generalizing c with
  | nil => rfl
  | cons p w ih =>
    rw [undergo_cons, ih]
    split <;> simp

end Control

namespace Desk

/-- The control in a seat offers what a graph permits. -/
def OffersAt (d : Desk) (seat : Seat) (g : Graph) : Prop :=
  ∀ c, d.control? seat = some c → c.Offers g

theorem OffersAt.congr (h : d.OffersAt seat g) (hd : e.controls = d.controls) :
    e.OffersAt seat g := by
  intro c hc
  exact h c (control?_congr hd seat ▸ hc)

theorem OffersAt.touch (h : d.OffersAt seat g) (hu : u.keepsChoices = true) :
    (d.touch other u).OffersAt seat g := by
  intro c hc
  rw [control?_touch] at hc
  obtain ⟨c₀, hc₀, rfl⟩ := Option.map_eq_some_iff.mp hc
  split
  · exact (h c₀ hc₀).touch hu
  · exact h c₀ hc₀

theorem OffersAt.populate (h : d.OffersAt seat g) :
    (d.touch other (.populate fetched)).OffersAt seat (if other = seat then fetched else g) := by
  intro c hc
  rw [control?_touch] at hc
  obtain ⟨c₀, hc₀, rfl⟩ := Option.map_eq_some_iff.mp hc
  split
  · exact c₀.offers_populate fetched
  · exact h c₀ hc₀

theorem OffersAt.perform (h : d.OffersAt seat g) (hw : ∀ p ∈ w, p.2.keepsChoices = true) :
    (d.perform w).OffersAt seat g := by
  induction w generalizing d with
  | nil => exact h
  | cons p w ih =>
    exact ih (h.touch (hw p List.mem_cons_self)) fun q hq => hw q (List.mem_cons_of_mem p hq)

/-- The controls that are brought up to date with a graph offer what it permits. -/
theorem OffersAt.populates (h : d.OffersAt seat g) (seats : List Seat) :
    (d.perform (seats.map fun other => (other, .populate fetched))).OffersAt seat
      (if seat ∈ seats then fetched else g) := by
  induction seats generalizing d g with
  | nil => exact h
  | cons other seats ih =>
    have hfirst : (d.touch other (.populate fetched)).OffersAt seat
        (if other = seat then fetched else g) := h.populate
    have hrest := ih hfirst
    change ((d.touch other (.populate fetched)).perform _).OffersAt seat _
    by_cases ho : other = seat
    · simpa [ho] using hrest
    · simpa [ho, Ne.symm ho] using hrest

theorem control?_perform (d : Desk) (w : List (Seat × Touch)) (seat : Seat) :
    (d.perform w).control? seat = (d.control? seat).map (·.undergo w) := by
  have hsame : (fun c : Control => c.seat == seat) ∘ (fun c : Control => c.undergo w) =
      fun c => c.seat == seat := by
    funext c
    simp
  rw [perform_eq, control?, control?, List.find?_map, hsame]

/-- The controls that a response reports a state for offer what the graph permits there. -/
theorem OffersAt.reconciliation (h : d.OffersAt seat g)
    (hpage : ∀ other ∈ seats, other.page = page) (hseat : seat ∈ seats) :
    (d.perform (reconciliation order response seats fetched)).OffersAt seat
      (if (response.reports order seat).isSome then fetched else g) := by
  intro c hc
  rw [control?_perform] at hc
  obtain ⟨c₀, hc₀, rfl⟩ := Option.map_eq_some_iff.mp hc
  obtain rfl : c₀.seat = seat := seat_of_control? hc₀
  rw [Control.undergo_reconciliation hpage, if_pos hseat]
  cases response.reports order c₀.seat with
  | none => exact h c₀ hc₀
  | some state => exact c₀.offers_updated fetched state

end Desk

/-- The graph that an answer brings, if it brings one. -/
def Refresh.graph? : MetaResult → Option Graph
  | .ok response => response.graph?
  | .error _ => none

theorem Refresh.answered_cases (result : MetaResult) :
    (∃ g, Refresh.graph? result = some g ∧ Refresh.answered result = .adopt g) ∨
      (Refresh.graph? result = none ∧ ∃ error, Refresh.answered result = .done (.error error)) := by
  cases result with
  | error error => exact Or.inr ⟨rfl, _, rfl⟩
  | ok response =>
    cases hg : response.graph? with
    | some g => exact Or.inl ⟨g, hg, by simp [Refresh.answered, hg]⟩
    | none => exact Or.inr ⟨hg, .missingGraph, by simp [Refresh.answered, hg]⟩

theorem Refresh.answered_of_graph? {result : MetaResult} (h : Refresh.graph? result = some g) :
    Refresh.answered result = .adopt g := by
  rcases answered_cases result with ⟨g', hg, ha⟩ | ⟨hg, -⟩
  · obtain rfl := Option.some.inj (hg.symm.trans h)
    exact ha
  · simp [hg] at h

theorem Refresh.answered_of_graph?_none {result : MetaResult} (h : Refresh.graph? result = none) :
    ∃ error, Refresh.answered result = .done (.error error) := by
  rcases answered_cases result with ⟨g, hg, -⟩ | ⟨-, error, ha⟩
  · simp [hg] at h
  · exact ⟨error, ha⟩

/-- The graph that a refresh has fetched and that controls are still to follow. -/
def Refresh.fetched? : Refresh → Option Graph
  | .adopt g | .copy g | .save g _ | .done (.ok g) => some g
  | _ => none

theorem Refresh.fetched?_step (d : Desk) (r : Refresh) : (r.step d).2.fetched? = r.fetched? := by
  cases r with
  | ask =>
    simp only [step]
    split <;> rfl
  | _ => rfl

/-- The graph that a refresh is about to put in the store. -/
def Refresh.incoming? : Refresh → Option Graph
  | .adopt g => some g
  | _ => none

theorem Refresh.incoming?_step (d : Desk) (r : Refresh) :
    (r.step d).2.incoming?.getD (r.step d).1.store.graph = r.incoming?.getD d.store.graph := by
  cases r with
  | ask =>
    simp only [step]
    split <;> rfl
  | save graph text =>
    simp only [step, Store.save]
    split <;> rfl
  | _ => rfl

/-- The graph that is in the store when a refresh is done, if it fetches one. -/
def Refresh.coming? (d : Desk) (r : Refresh) : Option Graph :=
  r.fetched?.map fun _ => r.incoming?.getD d.store.graph

theorem Refresh.coming?_step (d : Desk) (r : Refresh) :
    (r.step d).2.coming? (r.step d).1 = r.coming? d := by
  rw [coming?, coming?, fetched?_step, incoming?_step]

/-- Whether a fetch by a selection lets the control in a seat follow: it is idle, or the one that
the selection itself holds. -/
def Selection.reaches (d : Desk) (s : Selection) (seat : Seat) : Bool :=
  decide (seat = s.seat) || !d.isBusy seat

/-- The graph that a selection is about to bring the choices of the control in a seat up to date
with. -/
def Selection.renewal? (d : Desk) (s : Selection) (seat : Seat) : Option Graph :=
  match s.stage with
  | .fetch _ r => if s.reaches d seat then r.fetched? else none
  | .repopulate g todo => if seat ∈ todo ∧ s.reaches d seat then some g else none
  | .renew g next todo =>
    if next = seat ∨ seat ∈ todo ∧ s.reaches d seat then some g else none
  | .conclude _ (.ok reply) =>
    if reply.isSuccess then (reply.body.reports s.seat.order seat).map fun _ => d.store.graph
    else none
  | .survey response => (response.reports s.seat.order seat).map fun _ => d.store.graph
  | _ => none

/-- The graph that a refresh of the page is about to bring the choices of the control in a seat up
to date with. -/
def PageRefresh.renewal? (d : Desk) (seat : Seat) : PageRefresh → Option Graph
  | .fetch r => if d.isBusy seat then none else r.coming? d
  | .survey => if d.isBusy seat then none else some d.store.graph
  | _ => none

namespace Task

/-- The graph that a task is about to bring the choices of the control in a seat up to date with. -/
def renewal? (d : Desk) (seat : Seat) : Task → Option Graph
  | selection s => s.renewal? d seat
  | pageRefresh _ r => r.renewal? d seat
  | storeRefresh _ => none

/-- When a task comes to rest, the control in a seat offers what a graph permits. -/
def Leads (d : Desk) (t : Task) (seat : Seat) (final : Graph) : Prop :=
  ∃ g, (d.perform t.todo).OffersAt seat g ∧ (t.renewal? d seat).getD g = final

end Task

namespace Selection

theorem reaches_moveTo (hd : e.isBusy seat = d.isBusy seat) (s : Selection) (stage : Stage) :
    (s.moveTo stage).reaches e seat = s.reaches d seat := by
  rw [reaches, reaches, hd]
  rfl

/-- A control that is next comes before those that follow, if the fetch reaches it. -/
theorem renewal?_next {next : Seat} {todo : List Seat}
    (hstage : sel.stage = .repopulate fetched (next :: todo))
    (hn : next = sel.seat ∨ d.isBusy next = false) :
    (sel.moveTo (.renew fetched next todo)).renewal? d seat = sel.renewal? d seat := by
  have hreach := reaches_moveTo (rfl : d.isBusy seat = d.isBusy seat) sel
  by_cases hnext : next = seat
  · have hyes : sel.reaches d seat = true := by simpa [reaches, ← hnext] using hn
    simp [renewal?, hstage, hnext, hyes]
  · simp [renewal?, hstage, hnext, Ne.symm hnext, hreach]

theorem renewal?_skip {next : Seat} {todo : List Seat}
    (hstage : sel.stage = .repopulate fetched (next :: todo))
    (hne : next ≠ sel.seat) (hb : d.isBusy next = true) :
    (sel.moveTo (.repopulate fetched todo)).renewal? d seat = sel.renewal? d seat := by
  have hreach := reaches_moveTo (rfl : d.isBusy seat = d.isBusy seat) sel
  by_cases hnext : next = seat
  · have hno : sel.reaches d seat = false := by simp [reaches, ← hnext, hne, hb]
    simp [renewal?, hstage, hno, hreach]
  · simp [renewal?, hstage, Ne.symm hnext, hreach]

/-- A control that is brought up to date offers what the fetched graph permits, and if it comes
again it is brought up to date with the same graph. -/
theorem leads_renew {next : Seat} {todo : List Seat}
    (hstage : sel.stage = .renew fetched next todo) (ho : d.OffersAt seat g) :
    (Task.selection (sel.moveTo (.repopulate fetched todo))).Leads
      (d.touch next (.populate fetched)) seat ((sel.renewal? d seat).getD g) := by
  have hbusy : (d.touch next (.populate fetched)).isBusy seat = d.isBusy seat :=
    Desk.isBusy_touch (by simp) (by simp)
  have hreach := reaches_moveTo hbusy sel
  refine ⟨_, ho.populate, ?_⟩
  by_cases hnext : next = seat
  · simp only [Task.renewal?, renewal?, hstage, moveTo_stage, hnext, if_true, true_or,
      Option.getD_some]
    split <;> rfl
  · simp [Task.renewal?, renewal?, hstage, hnext, hreach]

/-- The operations after a change was made bring up to date what the response reports. -/
theorem leads_success (hs : d.Single) (hseats : sel.seats = d.seats) (hseat : seat ∈ d.seats)
    (ho : d.OffersAt seat g) :
    (Task.selection (sel.moveTo (sel.success response d.store.graph))).Leads d seat
      (if (response.reports sel.seat.order seat).isSome then d.store.graph else g) := by
  have hrec :
      (d.perform (reconciliation sel.seat.order response sel.seats d.store.graph)).OffersAt seat
        (if (response.reports sel.seat.order seat).isSome then d.store.graph else g) := by
    rw [hseats]
    exact ho.reconciliation hs hseat
  refine ⟨_, ?_, rfl⟩
  change (d.perform (_ ++ _)).OffersAt seat _
  rw [Desk.perform_append]
  exact hrec.perform (by simp [Touch.keepsChoices])

/-- No step changes the graph that the choices of a control are about to come from. -/
theorem Step.leads (h : Step d sel e stage) (hs : d.Single) (hp : sel.Placed d)
    (hseat : seat ∈ d.seats) (hl : (Task.selection sel).Leads d seat final) :
    (Task.selection (sel.moveTo stage)).Leads e seat final := by
  obtain ⟨g, hoffers, hfinal⟩ := hl
  -- Most steps leave the choices alone, and have nothing to do before or after.
  have ho : (Task.selection sel).todo = [] → d.OffersAt seat g := fun htodo => by
    simpa [htodo, Desk.perform] using hoffers
  have hkeep : ∀ {e : Desk} {stage : Stage}, e.OffersAt seat g →
      (Task.selection (sel.moveTo stage)).todo = [] →
      (sel.moveTo stage).renewal? e seat = sel.renewal? d seat →
      (Task.selection (sel.moveTo stage)).Leads e seat final := by
    intro e stage ho htodo hr
    refine ⟨g, by simpa [htodo, Desk.perform] using ho, ?_⟩
    rw [← hfinal]
    exact congrArg (·.getD g) hr
  have htold : ∀ {e : Desk} {f : Feedback} {o : Outcome}, e.OffersAt seat g →
      sel.renewal? d seat = none →
      (Task.selection (sel.moveTo (.perform [(sel.seat, .tell f)] o))).Leads e seat final := by
    intro e f o ho hr
    refine ⟨g, ho.perform (by simp [Task.todo, Touch.keepsChoices]), ?_⟩
    rw [← hfinal]
    exact congrArg (·.getD g) hr.symm
  cases h with
  | lookBusy hstage _ | lookIdle hstage _ | peek hstage | ignore hstage _ | wait hstage
  | renewed hstage | rest hstage =>
    exact hkeep (ho (by simp [Task.todo, hstage])) rfl (by simp [renewal?, hstage])
  | freshen hstage | claim hstage _ | choose hstage | announce hstage =>
    exact hkeep ((ho (by simp [Task.todo, hstage])).touch rfl) rfl (by simp [renewal?, hstage])
  | accept hstage hr =>
    exact hkeep ((ho (by simp [Task.todo, hstage])).touch rfl) rfl
      (by simp [renewal?, hstage, hr, Desk.touch])
  | refuse hstage hr =>
    exact hkeep ((ho (by simp [Task.todo, hstage])).touch rfl) rfl
      (by simp [renewal?, hstage, hr, Refresh.fetched?])
  | send hstage _ =>
    exact hkeep ((ho (by simp [Task.todo, hstage])).congr rfl) rfl (by simp [renewal?, hstage])
  | fail hstage =>
    exact htold ((ho (by simp [Task.todo, hstage])).touch rfl) (by simp [renewal?, hstage])
  | unfetched hstage =>
    exact htold (ho (by simp [Task.todo, hstage])) (by simp [renewal?, hstage, Refresh.fetched?])
  | reread hstage =>
    exact htold (ho (by simp [Task.todo, hstage])) (by simp [renewal?, hstage])
  | @fetch refused refresh hstage _ =>
    have hcontrols := refresh.step_controls d
    have hreach := reaches_moveTo (Desk.isBusy_congr hcontrols seat) sel
    exact hkeep ((ho (by simp [Task.todo, hstage])).congr hcontrols) rfl
      (by simp [renewal?, hstage, hreach, Refresh.fetched?_step])
  | fetched hstage =>
    have hseats : seat ∈ sel.seats := by
      rw [hp.2 (hp.1 (by simp [holdsClaim, hstage]))]
      exact hseat
    have hreach := reaches_moveTo (rfl : d.isBusy seat = d.isBusy seat) sel
    exact hkeep (ho (by simp [Task.todo, hstage])) rfl
      (by simp [renewal?, hstage, hseats, Refresh.fetched?, hreach])
  | next hstage hn => exact hkeep (ho (by simp [Task.todo, hstage])) rfl (renewal?_next hstage hn)
  | skip hstage hne hb =>
    exact hkeep (ho (by simp [Task.todo, hstage])) rfl (renewal?_skip hstage hne hb)
  | renew hstage =>
    rw [← hfinal]
    exact leads_renew hstage (ho (by simp [Task.todo, hstage]))
  | @perform p todo outcome hstage =>
    refine ⟨g, ?_, ?_⟩
    · simpa [Task.todo, hstage, Desk.perform] using hoffers
    · rw [← hfinal]
      simp [Task.renewal?, renewal?, hstage]
  | release hstage =>
    have hnow : d.OffersAt seat g := by simpa [Task.todo, hstage, Desk.perform] using hoffers
    refine hkeep ((hnow.touch rfl).touch rfl) rfl (by simp [renewal?, hstage])
  | @survey response hstage =>
    have hseats := hp.2 (hp.1 (by simp [holdsClaim, hstage]))
    have hreported : (sel.renewal? d seat).getD g =
        if (response.reports sel.seat.order seat).isSome then d.store.graph else g := by
      simp only [renewal?, hstage]
      cases response.reports sel.seat.order seat <;> rfl
    rw [← hfinal, Task.renewal?, hreported]
    exact leads_success hs hseats hseat (ho (by simp [Task.todo, hstage]))

end Selection

/-- The seats of a page that a repopulation goes to are those of the idle controls. -/
theorem Desk.mem_repopulation (hn : d.seats.Nodup) (hseat : seat ∈ d.seats) :
    seat ∈ ((d.controlsOn seat.page).filter fun c => !c.busy).map (·.seat) ↔
      d.isBusy seat = false := by
  constructor
  · intro hm
    obtain ⟨c, hc, rfl⟩ := List.mem_map.mp hm
    obtain ⟨hon, hidle⟩ := List.mem_filter.mp hc
    simpa [isBusy, control?_of_mem hn (List.mem_of_mem_filter hon)] using hidle
  · intro hidle
    obtain ⟨c, hc⟩ := exists_control_iff.mpr hseat
    obtain rfl := seat_of_control? hc
    refine List.mem_map_of_mem (List.mem_filter.mpr ⟨List.mem_filter.mpr ⟨?_, by simp⟩, ?_⟩)
    · exact List.mem_of_find?_eq_some hc
    · simpa [isBusy, hc] using hidle

theorem PageRefresh.Step.leads {r r' : PageRefresh} (h : PageRefresh.Step d seat.page r e r')
    (hn : d.seats.Nodup) (hseat : seat ∈ d.seats)
    (hl : (Task.pageRefresh seat.page r).Leads d seat final) :
    (Task.pageRefresh seat.page r').Leads e seat final := by
  obtain ⟨g, ho, hfinal⟩ := hl
  cases h with
  | @fetch refresh _ =>
    refine ⟨g, Desk.OffersAt.congr ho (refresh.step_controls d), ?_⟩
    rw [← hfinal, Task.renewal?, Task.renewal?, renewal?, renewal?, refresh.coming?_step,
      Desk.isBusy_congr (refresh.step_controls d)]
  | unfetched =>
    refine ⟨g, ho, ?_⟩
    rw [← hfinal]
    change none.getD g = (if d.isBusy seat = true then none else none).getD g
    rw [ite_self]
  | survey =>
    have ho : d.OffersAt seat g := ho
    have hrows : d.repopulation seat.page =
        (((d.controlsOn seat.page).filter fun c => !c.busy).map (·.seat)).map fun other =>
          (other, .populate d.store.graph) := by
      simp [Desk.repopulation, List.map_map, Function.comp_def]
    have hrepopulated : (d.perform (d.repopulation seat.page)).OffersAt seat
        (if d.isBusy seat = false then d.store.graph else g) := by
      simp only [← Desk.mem_repopulation hn hseat, hrows]
      exact ho.populates _
    refine ⟨_, hrepopulated, ?_⟩
    rw [← hfinal]
    cases hb : d.isBusy seat <;> simp [Task.renewal?, renewal?, hb]
  | _ => exact ⟨g, ho, hfinal⟩

namespace Task

/-- A task that brings the controls of a page up to date when it fetches the graph. -/
def Local (page : Nat) : Task → Prop
  | selection _ => True
  | pageRefresh p _ => p = page
  | storeRefresh _ => False

/-- Whether a task is a selection on the control in a seat. -/
def isOn (seat : Seat) : Task → Bool
  | selection s => s.seat == seat
  | _ => false

/-- Whether a control is passed over when a task fetches the graph: another request holds it. -/
def passes (d : Desk) (t : Task) (seat : Seat) : Bool :=
  d.isBusy seat && !t.isOn seat

/-- The graph that an answer brings to a task that waits for one. -/
def fetched? (t : Task) : Reply → Option Graph
  | .transitions result =>
    if t.awaits.any fun q => !q.isChange then Refresh.graph? result else none
  | .setState _ => none

/-- The graph that the choices of the control in a seat come from when a task goes on with an
answer, if they are derived anew: the fetched graph, unless the control is passed over, and for a
change that is reported as made with a state for the control the graph of the store. -/
def renews? (d : Desk) (t : Task) (reply : Reply) (seat : Seat) : Option Graph :=
  match t.fetched? reply with
  | some g => if t.passes d seat then none else some g
  | none => ((t.success? reply).bind fun m => m.2.reports m.1 seat).map fun _ => d.store.graph

theorem leads_step (hs : d.Single) (hn : d.seats.Nodup) (hseat : seat ∈ d.seats)
    (hp : t.Meets Selection.Placed d) (hlocal : t.Local seat.page) (hl : t.Leads d seat final) :
    (t.step d).2.Leads (t.step d).1 seat final := by
  cases t with
  | selection s =>
    obtain ⟨e, stage, he, hstep⟩ := s.step_spec d
    rw [step, he]
    exact hstep.leads hs (hp s rfl) hseat hl
  | pageRefresh page r =>
    obtain rfl : page = seat.page := hlocal
    obtain ⟨e, r', he, hstep⟩ := r.step_spec d seat.page
    rw [step, he]
    exact hstep.leads hn hseat hl
  | storeRefresh r => exact hlocal.elim

theorem renewal?_of_rests (hr : t.rests = true) : t.renewal? d seat = none := by
  cases resting_of_rests hr with
  | sent hs | asked hs | ended hs => simp [renewal?, Selection.renewal?, Refresh.fetched?, hs]
  | pageAsked => simp [renewal?, PageRefresh.renewal?, Refresh.coming?, Refresh.fetched?]
  | _ => rfl

/-- When a task comes to rest, the choices of a control come from the graph that the task was about
to bring them up to date with, or from the graph that they came from before. -/
theorem offersAt_settle (hs : d.Single) (hn : d.seats.Nodup) (hseat : seat ∈ d.seats)
    (hp : t.Meets Selection.Placed d) (hlocal : t.Local seat.page) (htodo : t.todo = [])
    (ho : d.OffersAt seat g) :
    (t.settle d).1.OffersAt seat ((t.renewal? d seat).getD g) := by
  have hkeep := settle_keeps (d := d) (t := t)
    (P := fun e u => e.seats = d.seats ∧ u.Meets Selection.Placed e ∧ u.Local seat.page ∧
      u.Leads e seat ((t.renewal? d seat).getD g)) ?_
    ⟨rfl, hp, hlocal, g, by simpa [htodo, Desk.perform] using ho, rfl⟩
  · obtain ⟨-, -, -, g', ho', hfinal⟩ := hkeep
    have hrests := settle_rests d t
    rw [renewal?_of_rests hrests] at hfinal
    rw [(idle_of_rests hrests seat).1] at ho'
    rw [← hfinal]
    exact ho'
  · rintro e u ⟨hseats, hp', hlocal', hl⟩ -
    have hs' : e.Single := fun other hm => hs other (hseats ▸ hm)
    refine ⟨(step_touched e u).seats_eq.trans hseats, meets_step Selection.Step.placed hp', ?_,
      leads_step hs' (hseats ▸ hn) (hseats ▸ hseat) hp' hlocal' hl⟩
    cases u <;> exact hlocal'

theorem renewal?_answered (hr : t.rests = true) (hlocal : t.Local page) (reply : Reply) :
    (t.answered d reply).2.renewal? (t.answered d reply).1 seat = t.renews? d reply seat := by
  cases resting_of_rests hr with
  | sent hs =>
    rcases reply with result | _ | reply
    · simp [answered, Selection.answered, renewal?, Selection.renewal?, renews?, fetched?, awaits,
        Selection.awaits, Question.isChange, success?, hs]
    · simp [answered, Selection.answered, renewal?, Selection.renewal?, renews?, fetched?, success?,
        hs]
    · cases hok : reply.isSuccess <;>
        simp [answered, Selection.answered, renewal?, Selection.renewal?, renews?, fetched?,
          success?, hs, hok, Desk.stopTimers]
  | @asked s refused url hs =>
    have hnone : (selection s).success? reply = none := by
      rcases reply with result | _ | _ <;> simp [success?, hs]
    cases reply with
    | setState result =>
      simp [answered, Selection.answered, renewal?, Selection.renewal?, renews?, fetched?, hnone,
        Refresh.fetched?, hs]
    | transitions result =>
      rcases Refresh.answered_cases result with ⟨g, hg, ha⟩ | ⟨hg, error, ha⟩
      · have hreach : ∀ stage, (s.moveTo stage).reaches d seat = !(selection s).passes d seat := by
          intro stage
          rw [Selection.reaches_moveTo rfl]
          simp [Selection.reaches, passes, isOn, Bool.or_comm, eq_comm, beq_eq_decide]
        cases hpass : (selection s).passes d seat <;>
          simp [answered, Selection.answered, renewal?, Selection.renewal?, Refresh.fetched?,
            renews?, fetched?, awaits, Selection.awaits, Question.isChange, hs, hg, ha, hreach,
            hpass]
      · simp [answered, Selection.answered, renewal?, Selection.renewal?, renews?, fetched?, hnone,
          Refresh.fetched?, hs, hg, ha]
  | @ended s outcome hs =>
    have hnone : (selection s).success? reply = none := by
      rcases reply with result | _ | _ <;> simp [success?, hs]
    cases reply <;>
      simp [answered, Selection.answered, renewal?, Selection.renewal?, renews?, fetched?, awaits,
        Selection.awaits, hnone, hs]
  | pageAsked =>
    cases reply with
    | setState result => exact ite_self _
    | transitions result =>
      rcases Refresh.answered_cases result with ⟨g, hg, ha⟩ | ⟨hg, error, ha⟩
      · simp [answered, renewal?, PageRefresh.renewal?, Refresh.coming?, Refresh.incoming?,
          Refresh.fetched?, renews?, fetched?, awaits, Question.isChange, passes, isOn, hg, ha]
      · simp [answered, renewal?, PageRefresh.renewal?, Refresh.coming?, Refresh.fetched?, renews?,
          fetched?, success?, hg, ha]
  | storeAsked | storeEnded => exact hlocal.elim
  | pageEnded => cases reply <;> rfl

theorem local_settle (h : t.Local page) : (t.settle d).2.Local page := by
  refine settle_keeps (P := fun _ u => u.Local page) (fun e u hu _ => ?_) h
  cases u <;> exact hu

theorem local_answered (h : t.Local page) (reply : Reply) : (t.answered d reply).2.Local page := by
  cases t with
  | selection s => trivial
  | pageRefresh p r =>
    unfold answered
    split <;> simp_all [Local]
  | storeRefresh r => exact h.elim

theorem store_answered (d : Desk) (t : Task) (reply : Reply) :
    (t.answered d reply).1.store = d.store := by
  cases t with
  | selection s =>
    rcases s.answered_cases d reply with h | ⟨_, _, _, -, -, h⟩ | ⟨_, _, _, -, -, h⟩ <;>
      simp [answered, h, Desk.stopTimers]
  | _ =>
    unfold answered
    split <;> simp_all

theorem store_dropped (d : Desk) (t : Task) : (t.dropped d).store = d.store := by
  cases t with
  | selection s =>
    simp only [dropped, Selection.dropped]
    split <;> split <;> rfl
  | _ => rfl

/-- The graph that choices are derived anew from is the fetched one, or the store has it. -/
theorem fetched?_of_renews? (h : t.renews? d reply seat = some g) :
    (t.fetched? reply).getD d.store.graph = g := by
  unfold renews? at h
  cases hf : t.fetched? reply with
  | some graph => 
    simp only [hf] at h
    split at h
    · simp at h
    · simpa using h
  | none =>
    simp only [hf, Option.map_eq_some_iff] at h
    obtain ⟨_, -, rfl⟩ := h
    rfl

/-- A fetched graph that does not bring the choices of a control up to date passes it over. -/
theorem passes_of_fetched? (h : t.fetched? reply = some g) (hr : t.renews? d reply seat = none) :
    t.passes d seat = true := by
  simpa [renews?, h] using hr

end Task
end OrderDesk
