import OrderDesk.Proofs.Replacement

/-! The cache after refreshes that go on at one time. A refresh swaps the graph, looks up the graph
that is to be saved and saves it, and others may come between any two of these. So the cache holds
the graph that was looked up by the refresh that saved last, and that is the graph of the store
unless another refresh swapped it in the meantime. -/
namespace OrderDesk

variable {d : Desk} {s : Session} {t t' : Task} {r : Refresh} {g : Graph} {text : String} {id : Nat}
  {ev : Event} {es : List Event} {P : Session → Event → Prop}

namespace Store

theorem keeps_save {st : Store} (hc : st.cache.Keeps) (text : String) :
    (st.save text).1.cache.Keeps := by
  simp only [save]
  split
  · next hwrite => exact hc.write hwrite
  · exact hc

/-- A store whose cache keeps what it is given has the graph there whose text it saved. -/
theorem cached?_save {st : Store} (hc : st.cache.Keeps) (g : Graph) :
    cached? (st.save g.text).1.cache = some g := by
  obtain ⟨cache, entry, hwrite, hread, hvalue⟩ := hc Cache.graphKey g.text
  have hsave : (st.save g.text).1.cache = cache := by simp only [save, hwrite]
  rw [hsave, cached?_of_read hread, hvalue, Graph.ofText?_text]

end Store

namespace Refresh

/-- A refresh that has swapped the graph and is still to save it. -/
def owes : Refresh → Bool
  | .copy _ | .save _ _ => true
  | _ => false

/-- A refresh that has the graph and is not done with it. -/
def isWriting : Refresh → Bool
  | .adopt _ => true
  | r => r.owes

/-- A refresh that has swapped the graph. -/
def hasSwapped : Refresh → Bool
  | .done (.ok _) => true
  | r => r.owes

theorem isWriting_of_owes (h : r.owes = true) : r.isWriting = true := by
  cases r <;> first | rfl | cases h

end Refresh

namespace Task

/-- The refresh of the store that a task is at. -/
def refresh? : Task → Option Refresh
  | selection s =>
    match s.stage with
    | .fetch _ r => some r
    | _ => none
  | pageRefresh _ (.fetch r) => some r
  | pageRefresh _ _ => none
  | storeRefresh r => some r

/-- A task that has swapped the graph, and is done with it or not. -/
def hasSwapped : Task → Bool
  | selection s =>
    match s.stage with
    | .fetch _ r => r.hasSwapped
    | .repopulate _ _ | .renew _ _ _ | .reread _ => true
    | .perform _ (.rejected available _) | .finished (.rejected available _) => available.isSome
    | _ => false
  | pageRefresh _ (.fetch r) => r.hasSwapped
  | pageRefresh _ (.finished refreshed) => refreshed
  | pageRefresh _ _ => true
  | storeRefresh r => r.hasSwapped

/-- What becomes of a task that does nothing about a graph it has. -/
structure Passes (t t' : Task) : Prop where
  /-- It has no graph at hand. -/
  before : t.refresh?.any Refresh.isWriting = false
  /-- It owes none either. -/
  after : t'.refresh?.any Refresh.owes = false
  /-- If it swapped the graph, it has done so before. -/
  swapped : t'.hasSwapped = true → t.hasSwapped = true

end Task

/-- A refresh that has no graph at hand leaves the store alone, and does not swap the graph. -/
theorem Refresh.step_passes (h : r.isWriting = false) (d : Desk) :
    (r.step d).1.store = d.store ∧ (r.step d).2.owes = false ∧
      ((r.step d).2.hasSwapped = true → r.hasSwapped = true) := by
  cases r with
  | ask =>
    simp only [step]
    split <;> simp [owes, hasSwapped, Desk.ask]
  | asked url => exact ⟨rfl, rfl, fun h => h⟩
  | done result => exact ⟨rfl, rfl, fun h => h⟩
  | adopt | copy | save => cases h

namespace Task

/-- A step of a task is the next one of a refresh that has a graph at hand, or it leaves the store
alone. -/
theorem step_writing (d : Desk) (t : Task) :
    (∃ r, t.refresh? = some r ∧ r.isWriting = true ∧
      (t.step d).2.refresh? = some (r.step d).2 ∧ (t.step d).1.store = (r.step d).1.store) ∨
    ((t.step d).1.store = d.store ∧ t.Passes (t.step d).2) := by
  cases t with
  | storeRefresh r =>
    cases hr : r.isWriting with
    | true => exact Or.inl ⟨r, rfl, hr, rfl, rfl⟩
    | false =>
      obtain ⟨hstore, howes, hswapped⟩ := Refresh.step_passes hr d
      exact Or.inr ⟨hstore, hr, howes, hswapped⟩
  | pageRefresh page r =>
    obtain ⟨e, r', he, hstep⟩ := r.step_spec d page
    rw [step, he]
    cases hstep with
    | @fetch refresh _ =>
      cases hr : refresh.isWriting with
      | true => exact Or.inl ⟨refresh, rfl, hr, rfl, rfl⟩
      | false =>
        obtain ⟨hstore, howes, hswapped⟩ := Refresh.step_passes hr d
        exact Or.inr ⟨hstore, hr, howes, hswapped⟩
    | unfetched | rest => exact Or.inr ⟨rfl, rfl, rfl, fun h => h⟩
    | fetched | survey | perform | performed => exact Or.inr ⟨rfl, rfl, rfl, fun _ => rfl⟩
  | selection s =>
    obtain ⟨e, stage, he, hstep⟩ := s.step_spec d
    rw [step, he]
    cases hstep with
    | @fetch refused refresh hs _ =>
      cases hr : refresh.isWriting with
      | true => exact Or.inl ⟨refresh, by simp [refresh?, hs], hr, rfl, rfl⟩
      | false =>
        obtain ⟨hstore, howes, hswapped⟩ := Refresh.step_passes hr d
        exact Or.inr ⟨hstore, by simp [refresh?, hs, hr], howes, by simpa [hasSwapped, hs]⟩
    | @perform p todo outcome hs | @release outcome hs | @rest outcome hs =>
      refine Or.inr ⟨rfl, by simp [refresh?, hs], rfl, ?_⟩
      cases outcome <;> simp [hasSwapped, hs]
    | _ =>
      refine Or.inr ⟨rfl, ?_, ?_, ?_⟩ <;>
        simp_all [refresh?, hasSwapped, Refresh.hasSwapped, Refresh.owes, Refresh.isWriting,
          Selection.success, Selection.refusal, Selection.explanation]

theorem ofWish_owes (d : Desk) (wish : Wish) :
    (ofWish d wish).refresh?.any Refresh.owes = false ∧ (ofWish d wish).hasSwapped = false := by
  cases wish <;> exact ⟨rfl, rfl⟩

/-- An answer brings a graph at most. -/
theorem answered_passes (t : Task) (d : Desk) (reply : Reply) :
    (t.answered d reply).2 = t ∨ t.Passes (t.answered d reply).2 := by
  have hfetch : ∀ m, (Refresh.answered m).owes = false ∧
      (Refresh.answered m).hasSwapped = false := by
    intro m
    rcases Refresh.answered_cases m with ⟨g, -, ha⟩ | ⟨-, error, ha⟩ <;> rw [ha] <;>
      exact ⟨rfl, rfl⟩
  cases t with
  | selection s =>
    rcases s.answered_cases d reply with h | ⟨_, _, result, hs, -, h⟩ | ⟨_, _, result, hs, -, h⟩
    · exact Or.inl (by simp [answered, h])
    · refine Or.inr ⟨by simp [refresh?, hs], by simp [answered, h, refresh?], ?_⟩
      simp [answered, h, hasSwapped]
    · refine Or.inr ⟨by simp [refresh?, hs, Refresh.isWriting, Refresh.owes], ?_, ?_⟩
      · simp [answered, h, refresh?, (hfetch result).1]
      · simp [answered, h, hasSwapped, (hfetch result).2]
  | pageRefresh page r =>
    cases reply with
    | setState result => exact Or.inl (by simp [answered])
    | transitions m =>
      cases r with
      | fetch refresh =>
        cases refresh with
        | asked url =>
          exact Or.inr ⟨rfl, (hfetch m).1, fun h => absurd ((hfetch m).2.symm.trans h) (by simp)⟩
        | _ => exact Or.inl rfl
      | _ => exact Or.inl rfl
  | storeRefresh r =>
    cases reply with
    | setState result => exact Or.inl (by simp [answered])
    | transitions m =>
      cases r with
      | asked url =>
        exact Or.inr ⟨rfl, (hfetch m).1, fun h => absurd ((hfetch m).2.symm.trans h) (by simp)⟩
      | _ => exact Or.inl rfl

theorem owes_of_isFinished (h : t.isFinished = true) : t.refresh?.any Refresh.owes = false := by
  cases t with
  | selection s =>
    cases hs : s.stage with
    | finished outcome => simp [refresh?, hs]
    | _ => simp [isFinished, Selection.outcome?, hs] at h
  | pageRefresh page r =>
    cases r with
    | finished refreshed => rfl
    | _ => cases h
  | storeRefresh r =>
    cases r with
    | done result => rfl
    | _ => cases h

theorem hasSwapped_of_returned (h : t.Returned (.ok g)) : t.hasSwapped = true := by
  cases t with
  | selection s =>
    obtain ⟨available, message, hs, havailable⟩ := h
    have havailable : available.isSome = true := havailable
    simp [hasSwapped, hs, havailable]
  | pageRefresh page r =>
    obtain rfl : r = .finished true := h
    rfl
  | storeRefresh r =>
    obtain rfl : r = .done (.ok g) := h
    rfl

end Task

/-- An event that lets a task take one step at most, drops none, and changes the store only by what
the task does to it. -/
def Event.isSingle : Event → Bool
  | .settle _ | .drop _ | .replace _ | .persist | .restore => false
  | _ => true

namespace Session

/-- The refresh of the store that a task is at. -/
def refresh? (s : Session) (id : Nat) : Option Refresh :=
  (s.task? id).bind Task.refresh?

/-- An event by which a refresh swaps the graph. -/
def Swaps (s : Session) (ev : Event) : Prop :=
  ∃ id g, ev = .step id ∧ s.refresh? id = some (.adopt g)

/-- An event by which a refresh saves a text. -/
def Saves (s : Session) (ev : Event) : Prop :=
  ∃ id g text, ev = .step id ∧ s.refresh? id = some (.save g text)

/-- No event of a run is of a kind. -/
def Spares (P : Session → Event → Prop) (s : Session) : List Event → Prop
  | [] => True
  | ev :: es => ¬P s ev ∧ (s.apply ev).Spares P es

/-- A task that has swapped the graph and is still to save it. -/
def owes (s : Session) (id : Nat) : Bool :=
  (s.refresh? id).any Refresh.owes

/-- A task that has swapped the graph, and is done with it or not. -/
def hasSwapped (s : Session) (id : Nat) : Bool :=
  (s.task? id).any Task.hasSwapped

theorem refresh?_of_task? (h : s.task? id = some t) : s.refresh? id = t.refresh? := by
  simp [refresh?, h]

/-- What becomes of the tasks when an event leaves the store alone: each stays as it is or does
nothing about a graph that it has. -/
def Passes (s s' : Session) : Prop :=
  ∀ id, s'.task? id = s.task? id ∨
    ((s.refresh? id).any Refresh.isWriting = false ∧ s'.owes id = false ∧
      (s'.hasSwapped id = true → s.hasSwapped id = true))

theorem passes_of_tasks {s' : Session} (h : s'.tasks = s.tasks) : s.Passes s' := fun id =>
  Or.inl (by rw [task?, task?, h])

theorem passes_put (ht : s.task? id = some t) {r : Desk × Task} (h : r.2 = t ∨ t.Passes r.2) :
    s.Passes (s.put id r) := by
  intro other
  by_cases hid : id = other
  · subst hid
    have hput := task?_put (r := r) ht
    rcases h with rfl | h
    · exact Or.inl (hput.trans ht.symm)
    · right
      rw [owes, refresh?_of_task? ht, refresh?_of_task? hput, hasSwapped, hasSwapped, ht, hput]
      exact ⟨h.before, h.after, h.swapped⟩
  · exact Or.inl (task?_put_of_ne hid)

/-- What an event does about graphs: a refresh that has one at hand goes on, or the store is left
alone and no task does anything about a graph that it has. -/
theorem apply_writing (hev : ev.isSingle = true) :
    (∃ id r, ev = .step id ∧ s.refresh? id = some r ∧ r.isWriting = true ∧
      (s.apply ev).refresh? id = some (r.step s.desk).2 ∧
      (s.apply ev).desk.store = (r.step s.desk).1.store ∧
      ∀ other, other ≠ id → (s.apply ev).task? other = s.task? other) ∨
    ((s.apply ev).desk.store = s.desk.store ∧ s.Passes (s.apply ev)) := by
  have hstay : s.desk.store = s.desk.store ∧ s.Passes s := ⟨rfl, passes_of_tasks rfl⟩
  cases ev with
  | settle | drop | replace | persist | restore => cases hev
  | begin id wish =>
    right
    cases ht : s.task? id with
    | some t => simpa [apply, ht] using hstay.2
    | none =>
      have hdesk : (s.apply (.begin id wish)).desk = s.desk := by simp [apply, ht]
      refine ⟨congrArg Desk.store hdesk, fun other => ?_⟩
      by_cases hid : id = other
      · subst hid
        obtain ⟨howes, hswapped⟩ := Task.ofWish_owes s.desk wish
        right
        rw [owes, refresh?_of_task? (task?_begin ht wish), hasSwapped, task?_begin ht wish]
        refine ⟨by simp [refresh?, ht], howes, fun h => absurd (hswapped.symm.trans h) (by simp)⟩
      · exact Or.inl (task?_begin_of_ne hid wish)
  | step id =>
    cases ht : s.task? id with
    | none => exact Or.inr (by simpa [apply, ht] using hstay)
    | some t =>
      have hput : s.apply (.step id) = s.put id (t.step s.desk) := by simp [apply, ht]
      rw [hput]
      rcases Task.step_writing s.desk t with ⟨r, hr, hwriting, hnext, hstore⟩ | ⟨hstore, hpass⟩
      · refine Or.inl ⟨id, r, rfl, (refresh?_of_task? ht).trans hr, hwriting, ?_, hstore, ?_⟩
        · exact (refresh?_of_task? (task?_put ht)).trans hnext
        · exact fun other hne => task?_put_of_ne hne.symm
      · exact Or.inr ⟨hstore, passes_put ht (Or.inr hpass)⟩
  | answer id reply =>
    right
    cases ht : s.task? id with
    | none => simpa [apply, ht] using hstay
    | some t =>
      have hput : s.apply (.answer id reply) = s.put id (t.answered s.desk reply) := by
        simp [apply, ht]
      rw [hput]
      exact ⟨Task.store_answered s.desk t reply, passes_put ht (t.answered_passes s.desk reply)⟩
  | fire | pass | hold | release | touch | repopulate =>
    exact Or.inr ⟨store_apply rfl, passes_of_tasks (tasks_apply rfl)⟩

/-- A refresh that has a graph at hand goes on with it when its task takes a step. -/
theorem step_of_writing (h : s.refresh? id = some r) (hr : r.isWriting = true) :
    (s.apply (.step id)).refresh? id = some (r.step s.desk).2 ∧
      (s.apply (.step id)).desk.store = (r.step s.desk).1.store := by
  obtain ⟨t, ht, htr⟩ := Option.bind_eq_some_iff.mp h
  have hput : s.apply (.step id) = s.put id (t.step s.desk) := by simp [apply, ht]
  rw [hput]
  rcases Task.step_writing s.desk t with ⟨r', hr', -, hnext, hstore⟩ | ⟨-, hpass⟩
  · obtain rfl := Option.some.inj (htr.symm.trans hr')
    exact ⟨(refresh?_of_task? (task?_put ht)).trans hnext, hstore⟩
  · have hbefore := hpass.before
    simp [htr, hr] at hbefore

/-- What an event does about a graph that a task has: its refresh goes on with it, or the task stays
as it is or does nothing about it. -/
theorem refresh_cases (hev : ev.isSingle = true) (id : Nat) :
    (∃ r, ev = .step id ∧ s.refresh? id = some r ∧ r.isWriting = true ∧
      (s.apply ev).refresh? id = some (r.step s.desk).2) ∨
    (s.apply ev).task? id = s.task? id ∨
    ((s.refresh? id).any Refresh.isWriting = false ∧ (s.apply ev).owes id = false ∧
      ((s.apply ev).hasSwapped id = true → s.hasSwapped id = true)) := by
  rcases apply_writing (s := s) hev with
    ⟨other, r, he, hr, hwriting, hnext, -, hothers⟩ | ⟨-, hpass⟩
  · by_cases hid : id = other
    · subst hid
      exact Or.inl ⟨r, he, hr, hwriting, hnext⟩
    · exact Or.inr (Or.inl (hothers id hid))
  · exact Or.inr (hpass id)

/-- The store keeps its graph unless a refresh swaps it. -/
theorem graph_of_not_swaps (hev : ev.isSingle = true) (h : ¬s.Swaps ev) :
    (s.apply ev).desk.store.graph = s.desk.store.graph := by
  rcases apply_writing (s := s) hev with ⟨id, r, rfl, hr, hwriting, -, hstore, -⟩ | ⟨hstore, -⟩
  · rw [hstore]
    cases r with
    | adopt g => exact absurd ⟨id, g, rfl, hr⟩ h
    | copy g => rfl
    | save g text => exact Store.save_graph _ text
    | _ => cases hwriting
  · rw [hstore]

/-- The store keeps its cache unless a refresh saves a text. -/
theorem cache_of_not_saves (hev : ev.isSingle = true) (h : ¬s.Saves ev) :
    (s.apply ev).desk.store.cache = s.desk.store.cache := by
  rcases apply_writing (s := s) hev with ⟨id, r, rfl, hr, hwriting, -, hstore, -⟩ | ⟨hstore, -⟩
  · rw [hstore]
    cases r with
    | save g text => exact absurd ⟨id, g, text, rfl, hr⟩ h
    | adopt | copy => rfl
    | _ => cases hwriting
  · rw [hstore]

/-- A task that is to save a text has been, or it has just looked up the graph with that text. -/
theorem saving_cases (hev : ev.isSingle = true)
    (h : (s.apply ev).refresh? id = some (.save g text)) :
    s.refresh? id = some (.save g text) ∨
      (ev = .step id ∧ s.refresh? id = some (.copy g) ∧ text = s.desk.store.graph.text) := by
  rcases refresh_cases (s := s) hev id with ⟨r, rfl, hr, hwriting, hnext⟩ | hsame | ⟨-, hafter, -⟩
  · right
    rw [h] at hnext
    cases r with
    | copy g' =>
      obtain ⟨rfl, rfl⟩ := Refresh.save.inj (Option.some.inj hnext)
      exact ⟨rfl, hr, rfl⟩
    | adopt | save => cases Option.some.inj hnext
    | _ => cases hwriting
  · exact Or.inl (by rw [← h, refresh?, refresh?, hsame])
  · rw [owes, h] at hafter
    cases hafter

/-- A task that is still to save the graph is so until it saves a text. -/
theorem owes_of_not_saves (hev : ev.isSingle = true) (hsaves : ¬s.Saves ev) (h : s.owes id = true) :
    (s.apply ev).owes id = true := by
  rcases refresh_cases (s := s) hev id with ⟨r, rfl, hr, hwriting, hnext⟩ | hsame | ⟨hbefore, -⟩
  · rw [owes, hnext]
    cases r with
    | save g text => exact absurd ⟨id, g, text, rfl, hr⟩ hsaves
    | adopt | copy => rfl
    | _ => cases hwriting
  · rwa [owes, refresh?, hsame]
  · cases hr : s.refresh? id with
    | none => simp [owes, hr] at h
    | some r =>
      simp only [owes, hr, Option.any_some] at h hbefore
      exact absurd (hbefore.symm.trans (Refresh.isWriting_of_owes h)) (by simp)

/-- As long as nothing is saved, a task that has swapped the graph is still to save it. -/
theorem owes_of_hasSwapped (hev : ev.isSingle = true) (hsaves : ¬s.Saves ev)
    (hs : s.hasSwapped id = true → s.owes id = true) (h : (s.apply ev).hasSwapped id = true) :
    (s.apply ev).owes id = true := by
  suffices hbefore : s.hasSwapped id = true ∨ (s.apply ev).owes id = true by
    rcases hbefore with hbefore | hafter
    · exact owes_of_not_saves hev hsaves (hs hbefore)
    · exact hafter
  rcases refresh_cases (s := s) hev id with ⟨r, rfl, hr, hwriting, -⟩ | hsame | ⟨-, -, hswapped⟩
  · cases r with
    | save g text => exact absurd ⟨id, g, text, rfl, hr⟩ hsaves
    | adopt g =>
      right
      rw [owes, (step_of_writing hr rfl).1]
      rfl
    | copy g => exact Or.inr (owes_of_not_saves rfl hsaves (by simp [owes, hr, Refresh.owes]))
    | _ => cases hwriting
  · exact Or.inl (by rwa [hasSwapped, ← hsame])
  · exact Or.inl (hswapped h)

theorem keeps_of_isSingle (hev : ev.isSingle = true) (hc : s.desk.store.cache.Keeps) :
    (s.apply ev).desk.store.cache.Keeps := by
  by_cases hsaves : s.Saves ev
  · obtain ⟨id, g, text, rfl, hr⟩ := hsaves
    rw [(step_of_writing hr rfl).2]
    exact Store.keeps_save hc text
  · rwa [cache_of_not_saves hev hsaves]

/-- What each event keeps that is not of a kind is kept by a run without such events. -/
theorem play_spares {Q : Session → Prop}
    (hQ : ∀ {s : Session} {ev : Event}, ev.isSingle = true → ¬P s ev → Q s → Q (s.apply ev))
    (hes : ∀ ev ∈ es, ev.isSingle = true) (h : s.Spares P es) (hs : Q s) : Q (s.play es) := by
  induction es generalizing s with
  | nil => exact hs
  | cons ev es ih =>
    exact ih (fun e he => hes e (List.mem_cons_of_mem ev he)) h.2
      (hQ (hes ev List.mem_cons_self) h.1 hs)

/-- An event of a kind that happens in a run has a last time. -/
theorem exists_last (h : ¬s.Spares P es) : ∃ before ev after, es = before ++ ev :: after ∧
    P (s.play before) ev ∧ ((s.play before).apply ev).Spares P after := by
  induction es generalizing s with
  | nil => exact absurd trivial h
  | cons ev es ih =>
    by_cases hrest : (s.apply ev).Spares P es
    · have hev : P s ev := Classical.byContradiction fun hn => h ⟨hn, hrest⟩
      exact ⟨[], ev, es, rfl, hev, hrest⟩
    · obtain ⟨before, e, after, rfl, he, hafter⟩ := ih hrest
      exact ⟨ev :: before, e, after, rfl, he, hafter⟩

/-- A task that is to save a text has looked up the graph with that text, if it was not to save it
from the first. -/
theorem exists_lookup (hes : ∀ ev ∈ es, ev.isSingle = true)
    (h : (s.play es).refresh? id = some (.save g text)) :
    s.refresh? id = some (.save g text) ∨ ∃ before after, es = before ++ .step id :: after ∧
      (s.play before).refresh? id = some (.copy g) ∧
      text = (s.play before).desk.store.graph.text := by
  induction es generalizing s with
  | nil => exact Or.inl h
  | cons ev es ih =>
    rcases ih (fun e he => hes e (List.mem_cons_of_mem ev he)) h with hnext | hlater
    · rcases saving_cases (hes ev List.mem_cons_self) hnext with hr | ⟨rfl, hr, htext⟩
      · exact Or.inl hr
      · exact Or.inr ⟨[], es, rfl, hr, htext⟩
    · obtain ⟨before, after, rfl, hr, htext⟩ := hlater
      exact Or.inr ⟨ev :: before, after, rfl, hr, htext⟩

/-- Where nothing is saved and nothing remains to be saved, the graph was not swapped either. -/
theorem spares_swaps (hes : ∀ ev ∈ es, ev.isSingle = true) (h : s.Spares Saves es)
    (hdone : ∀ id, (s.play es).owes id = false) : s.Spares Swaps es := by
  induction es generalizing s with
  | nil => trivial
  | cons ev es ih =>
    have hes' : ∀ e ∈ es, e.isSingle = true := fun e he => hes e (List.mem_cons_of_mem ev he)
    refine ⟨?_, ih hes' h.2 hdone⟩
    rintro ⟨id, g, rfl, hr⟩
    have howes : (s.apply (.step id)).owes id = true := by
      rw [owes, (step_of_writing hr rfl).1]
      rfl
    have hend := play_spares (Q := fun u => u.owes id = true) owes_of_not_saves hes' h.2 howes
    exact absurd ((hdone id).symm.trans hend) (by simp)

/-- The refresh that saved last in a run: where it looked up the graph, and where it saved. -/
structure LastSave (s : Session) (es before between after : List Event) (id : Nat) : Prop where
  run : es = before ++ .step id :: between ++ .step id :: after
  /-- At first it looks up the graph, -/
  looks : ∃ g, (s.play before).refresh? id = some (.copy g)
  /-- then it saves the text of that graph, -/
  saves : ∃ g, (s.play (before ++ .step id :: between)).refresh? id =
    some (.save g (s.play before).desk.store.graph.text)
  /-- and after that none is saved. -/
  last : ((s.play (before ++ .step id :: between)).apply (.step id)).Spares Saves after

/-- Where a task has returned a graph and all are done, there is a refresh that saved last. -/
theorem exists_lastSave (hs : s.tasks = []) (hes : ∀ ev ∈ es, ev.isSingle = true)
    (ht : (s.play es).task? id = some t) (hg : t.Returned (.ok g))
    (hdone : ∀ id, (s.play es).owes id = false) :
    ∃ before between after id, s.LastSave es before between after id := by
  have hnone : ∀ id, s.task? id = none := fun id => by simp [task?, hs]
  have hsaves : ¬s.Spares Saves es := by
    intro hspares
    have howes := play_spares (Q := fun u => u.hasSwapped id = true → u.owes id = true)
      owes_of_hasSwapped hes hspares (by simp [hasSwapped, hnone])
    have hswapped : (s.play es).hasSwapped id = true := by
      simp [hasSwapped, ht, Task.hasSwapped_of_returned hg]
    exact absurd ((hdone id).symm.trans (howes hswapped)) (by simp)
  obtain ⟨earlier, _, after, rfl, ⟨id, g, text, rfl, hr⟩, hlast⟩ := exists_last hsaves
  have hearlier : ∀ ev ∈ earlier, ev.isSingle = true := fun ev he =>
    hes ev (List.mem_append_left _ he)
  rcases exists_lookup hearlier hr with hfirst | ⟨before, between, rfl, hlook, rfl⟩
  · simp [refresh?, hnone] at hfirst
  · exact ⟨before, between, after, id, rfl, ⟨g, hlook⟩, ⟨g, hr⟩, hlast⟩

section LastSave

variable {before between after : List Event} (h : s.LastSave es before between after id)
  (hes : ∀ ev ∈ es, ev.isSingle = true)
include h hes

theorem LastSave.isSingle_parts : (∀ ev ∈ between, ev.isSingle = true) ∧
    ∀ ev ∈ after, ev.isSingle = true := by
  rw [h.run] at hes
  simp only [List.mem_append, List.mem_cons] at hes
  exact ⟨fun ev he => hes ev (.inl (.inr (.inr he))), fun ev he => hes ev (.inr (.inr he))⟩

/-- The graph that was looked up by the refresh that saved last is in the cache from then on. -/
theorem LastSave.cached (hc : s.desk.store.cache.Keeps) :
    Store.cached? (s.play es).desk.store.cache = some (s.play before).desk.store.graph := by
  obtain ⟨-, hafter⟩ := h.isSingle_parts hes
  obtain ⟨g, hr⟩ := h.saves
  have hkeeps : (s.play (before ++ .step id :: between)).desk.store.cache.Keeps := by
    refine play_keeps (P := fun u => u.desk.store.cache.Keeps)
      (fun u ev hu hev => keeps_of_isSingle hev hu) hc fun ev he => ?_
    exact hes ev (h.run ▸ List.mem_append_left _ he)
  have hend : (s.play es).desk.store.cache =
      ((s.play (before ++ .step id :: between)).apply (.step id)).desk.store.cache := by
    rw [h.run, play_append, play_cons]
    exact play_spares (Q := fun u => u.desk.store.cache = _)
      (fun hev hsaves hu => (cache_of_not_saves hev hsaves).trans hu) hafter h.last rfl
  rw [hend, (step_of_writing hr rfl).2]
  exact Store.cached?_save hkeeps _

/-- The graph that it looked up is that of the store, if no other refresh swapped the graph before
it saved. -/
theorem LastSave.graph_eq (hdone : ∀ id, (s.play es).owes id = false)
    (hswaps : ((s.play before).apply (.step id)).Spares Swaps between) :
    (s.play es).desk.store.graph = (s.play before).desk.store.graph := by
  obtain ⟨hbetween, hafter⟩ := h.isSingle_parts hes
  obtain ⟨g, hr⟩ := h.saves
  obtain ⟨g', hlook⟩ := h.looks
  have hkept : ∀ {u : Session} {fs : List Event}, (∀ ev ∈ fs, ev.isSingle = true) →
      u.Spares Swaps fs → (u.play fs).desk.store.graph = u.desk.store.graph := fun hfs hspares =>
    play_spares (Q := fun v => v.desk.store.graph = _)
      (fun hev hn hv => (graph_of_not_swaps hev hn).trans hv) hfs hspares rfl
  have hend : (s.play es) =
      ((s.play (before ++ .step id :: between)).apply (.step id)).play after := by
    rw [h.run, play_append]
    rfl
  rw [hend] at hdone ⊢
  calc _ = ((s.play (before ++ .step id :: between)).apply (.step id)).desk.store.graph :=
        hkept hafter (spares_swaps hafter h.last hdone)
    _ = (s.play (before ++ .step id :: between)).desk.store.graph := by
        rw [(step_of_writing hr rfl).2]
        exact Store.save_graph _ _
    _ = (((s.play before).apply (.step id)).play between).desk.store.graph := by
        rw [play_append]
        rfl
    _ = ((s.play before).apply (.step id)).desk.store.graph := hkept hbetween hswaps
    _ = (s.play before).desk.store.graph := by
        rw [(step_of_writing hlook rfl).2]
        rfl

end LastSave

/-- In every run in which tasks may switch at each step and a cache keeps what it is given, once all
are done and one has returned a graph, there is a refresh that saved last. The cache holds the graph
that this one looked up. That is the graph of the store, and a store that starts with the cache has
it, unless another refresh swapped the graph between the look and the saving. -/
theorem cached_graph (store : Store) (schedule : Schedule) (ds : List Descriptor)
    (hc : store.cache.Keeps) (hes : ∀ ev ∈ es, ev.isSingle = true)
    (hreturned : ∃ id t g, ((opened store schedule ds).play es).task? id = some t ∧
      t.Returned (.ok g))
    (hfinished : ∀ p ∈ ((opened store schedule ds).play es).tasks, p.2.isFinished = true) :
    (∃ before between after id, (opened store schedule ds).LastSave es before between after id) ∧
    ∀ before between after id, (opened store schedule ds).LastSave es before between after id →
      Store.cached? ((opened store schedule ds).play es).desk.store.cache =
        some ((opened store schedule ds).play before).desk.store.graph ∧
      ((((opened store schedule ds).play before).apply (.step id)).Spares Swaps between →
        Store.cached? ((opened store schedule ds).play es).desk.store.cache =
          some ((opened store schedule ds).play es).desk.store.graph ∧
        ∀ metaUrl,
          (Store.starting ((opened store schedule ds).play es).desk.store.cache metaUrl).graph =
            ((opened store schedule ds).play es).desk.store.graph) := by
  obtain ⟨id, t, g, ht, hg⟩ := hreturned
  have hdone : ∀ id, ((opened store schedule ds).play es).owes id = false := by
    intro id
    cases hu : ((opened store schedule ds).play es).task? id with
    | none => simp [owes, refresh?, hu]
    | some u =>
      rw [owes, refresh?_of_task? hu]
      exact Task.owes_of_isFinished (hfinished _ (mem_of_task? hu))
  refine ⟨exists_lastSave rfl hes ht hg hdone, fun before between after id hlast => ?_⟩
  have hcached := hlast.cached hes hc
  refine ⟨hcached, fun hswaps => ?_⟩
  rw [← hlast.graph_eq hes hdone hswaps] at hcached
  refine ⟨hcached, fun metaUrl => ?_⟩
  rw [Store.starting, Store.restore_eq]
  simp only [hcached, Option.getD_some]

/-- A graph that lets an order that is done be sent back. -/
def returning : Graph := Graph.empty.withActions .order "done" ["return"]

/-- Two refreshes of the store ask, and each gets a graph of its own. -/
def fetches : List Event :=
  [.begin 0 .refreshStore, .begin 1 .refreshStore, .step 0, .step 1,
    .answer 0 (.transitions (.ok ⟨true, some reopening⟩)),
    .answer 1 (.transitions (.ok ⟨true, some returning⟩))]

/-- Both swap the graph before either looks up what is to be saved. -/
def swapsFirst : List Event :=
  fetches ++ [.step 0, .step 1, .step 0, .step 1, .step 0, .step 1]

theorem cached_graph_swapsFirst :
    cachedStore.cache.Keeps ∧ (∀ ev ∈ swapsFirst, ev.isSingle = true) ∧
    (∀ p ∈ ((opened cachedStore Schedule.none []).play swapsFirst).tasks, p.2.isFinished = true) ∧
    Store.cached? ((opened cachedStore Schedule.none []).play swapsFirst).desk.store.cache =
      some returning ∧
    ∀ metaUrl, (Store.starting
      ((opened cachedStore Schedule.none []).play swapsFirst).desk.store.cache metaUrl).graph =
        returning := by
  have hkeeps : cachedStore.cache.Keeps := Cache.keeps_memory _
  have hsingle : ∀ ev ∈ swapsFirst, ev.isSingle = true := by
    simp [swapsFirst, fetches, Event.isSingle]
  have htasks : ((opened cachedStore Schedule.none []).play swapsFirst).tasks =
      [(0, .storeRefresh (.done (.ok reopening))),
        (1, .storeRefresh (.done (.ok returning)))] := rfl
  have hfinished : ∀ p ∈ ((opened cachedStore Schedule.none []).play swapsFirst).tasks,
      p.2.isFinished = true := by simp [htasks, Task.isFinished]
  have hlast : (opened cachedStore Schedule.none []).LastSave swapsFirst
      (fetches ++ [.step 0, .step 1, .step 0]) [.step 0] [] 1 :=
    ⟨rfl, ⟨returning, rfl⟩, ⟨returning, rfl⟩, trivial⟩
  have hswaps : (((opened cachedStore Schedule.none []).play
      (fetches ++ [.step 0, .step 1, .step 0])).apply (.step 1)).Spares Swaps [.step 0] := by
    refine ⟨?_, trivial⟩
    rintro ⟨id, g, he, hr⟩
    cases he
    cases hr
  obtain ⟨-, hcached⟩ := cached_graph cachedStore Schedule.none [] hkeeps hsingle
    ⟨0, _, reopening, rfl, rfl⟩ hfinished
  obtain ⟨-, hagree⟩ := hcached _ _ _ _ hlast
  exact ⟨hkeeps, hsingle, hfinished, hagree hswaps⟩

/-- The first one looks up its graph, and saves it when the second one has swapped the graph and is
done. -/
def swapBetween : List Event :=
  fetches ++ [.step 0, .step 0, .step 1, .step 1, .step 1, .step 0]

/-- After that run the cache holds a graph that the store has no longer, and a store that starts
with the cache takes it. Without any refresh, a cache may hold no graph at all. -/
theorem cached_graph_swapBetween :
    cachedStore.cache.Keeps ∧ (∀ ev ∈ swapBetween, ev.isSingle = true) ∧
    ((opened cachedStore Schedule.none []).play swapBetween).tasks =
      [(0, .storeRefresh (.done (.ok reopening))), (1, .storeRefresh (.done (.ok returning)))] ∧
    ((opened cachedStore Schedule.none []).play swapBetween).desk.store.graph = returning ∧
    Store.cached? ((opened cachedStore Schedule.none []).play swapBetween).desk.store.cache =
      some reopening ∧
    (∀ metaUrl, (Store.starting
      ((opened cachedStore Schedule.none []).play swapBetween).desk.store.cache metaUrl).graph =
        reopening) ∧
    reopening ≠ returning ∧
    Store.cached? (opened cachedStore Schedule.none []).desk.store.cache = none := by
  have hsingle : ∀ ev ∈ swapBetween, ev.isSingle = true := by
    simp [swapBetween, fetches, Event.isSingle]
  have hcached :
      Store.cached? ((opened cachedStore Schedule.none []).play swapBetween).desk.store.cache =
        some reopening := by
    have hsaved : ((opened cachedStore Schedule.none []).play swapBetween).desk.store =
        ((⟨returning, Cache.memory (Text.Dict.empty.insert Cache.graphKey returning.text),
          some "/meta"⟩ : Store).save reopening.text).1 := rfl
    rw [hsaved]
    exact Store.cached?_save (Cache.keeps_memory _) reopening
  refine ⟨Cache.keeps_memory _, hsingle, rfl, rfl, hcached, fun metaUrl => ?_, by decide, rfl⟩
  rw [Store.starting, Store.restore_eq, hcached]
  rfl

end Session
end OrderDesk
