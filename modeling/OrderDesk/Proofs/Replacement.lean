import OrderDesk.Proofs.Renewal
import OrderDesk.Proofs.RoundTrip

/-! What becomes of the store. Its graph is replaced as a whole, and its cache takes the text of a
graph as a whole. A refresh that gets a graph puts it in both when it is done; one that gets none
leaves both alone, whatever the reason. -/
namespace OrderDesk

variable {d e : Desk} {s s' : Session} {sel : Selection} {t : Task} {stage : Stage} {g : Graph}
  {ev : Event} {es : List Event} {reply : Reply} {res : Except RefreshError Graph}

namespace Store

/-- The store when it has taken a graph, and its cache as well if it can be written. -/
def adopted (st : Store) (g : Graph) : Store := (st.replace g).persist.1

theorem save_graph (st : Store) (text : String) : (st.save text).1.graph = st.graph := by
  simp only [save]
  split <;> rfl

theorem adopted_graph (st : Store) (g : Graph) : (st.adopted g).graph = g :=
  save_graph (st.replace g) g.text

theorem adopted_of_write {st : Store} {cache : Cache}
    (h : st.cache.write Cache.graphKey g.text = .ok cache) :
    st.adopted g = { st with graph := g, cache := cache } := by
  have h : (st.replace g).cache.write Cache.graphKey g.text = .ok cache := h
  simp only [adopted, persist, save, replace] at h ⊢
  rw [h]

theorem adopted_of_error {st : Store} {error : CacheError}
    (h : st.cache.write Cache.graphKey g.text = .error error) :
    st.adopted g = { st with graph := g } := by
  have h : (st.replace g).cache.write Cache.graphKey g.text = .error error := h
  simp only [adopted, persist, save, replace] at h ⊢
  rw [h]

theorem restore_eq (st : Store) :
    st.restore.1 = { st with graph := (cached? st.cache).getD st.graph } := by
  simp only [restore]
  cases cached? st.cache <;> rfl

theorem cached?_of_read {c : Cache} {entry : Entry}
    (hread : c.read Cache.graphKey = .ok (some entry)) :
    cached? c = Graph.ofText? entry.value := by
  simp [cached?, hread]

end Store

@[simp] theorem Desk.store_perform (d : Desk) (w : List (Seat × Touch)) :
    (d.perform w).store = d.store := by
  rw [perform_eq]

namespace Refresh

/-- The store when a refresh is done, if nothing comes between. -/
def stored (st : Store) : Refresh → Store
  | .adopt g => st.adopted g
  | .copy _ => st.persist.1
  | .save _ text => (st.save text).1
  | _ => st

theorem stored_step (d : Desk) (r : Refresh) :
    (r.step d).2.stored (r.step d).1.store = r.stored d.store := by
  cases r with
  | ask =>
    simp only [step]
    split <;> rfl
  | _ => rfl

/-- What a refresh returns for the answer to its question. -/
def resultOf : MetaResult → Except RefreshError Graph
  | .error error => .error (.transport error)
  | .ok response =>
    match response.graph? with
    | some g => .ok g
    | none => .error .missingGraph

/-- What a refresh is going to return, once that is clear. -/
def result? (metaUrl : Option String) : Refresh → Option (Except RefreshError Graph)
  | .ask => if metaUrl.isNone then some (.error .noEndpoint) else none
  | .asked _ => none
  | .adopt g | .copy g | .save g _ => some (.ok g)
  | .done res => some res

theorem result?_answered (metaUrl : Option String) (m : MetaResult) :
    (Refresh.answered m).result? metaUrl = some (resultOf m) := by
  cases m with
  | error error => rfl
  | ok response => cases hg : response.graph? <;> simp [Refresh.answered, resultOf, hg, result?]

theorem result?_step {r : Refresh} (h : r.result? d.store.metaUrl = some res) :
    (r.step d).2.result? (r.step d).1.store.metaUrl = some res := by
  cases r with
  | ask =>
    simp only [result?] at h
    split at h
    · next hnone =>
      rw [Option.isNone_iff_eq_none] at hnone
      simpa [step, hnone, result?] using h
    · cases h
  | _ => exact h

/-- The graph that an answer brings is what the refresh returns, and without one it fails. -/
theorem graph?_eq (m : MetaResult) : graph? m = (resultOf m).toOption := by
  cases m with
  | error error => rfl
  | ok response => cases hg : response.graph? <;> simp [graph?, resultOf, hg, Except.toOption]

end Refresh

/-- The desk and the store that a refresh for a page leaves, when it is done. -/
def PageRefresh.stored (st : Store) : PageRefresh → Store
  | .fetch r => r.stored st
  | _ => st

namespace Task

/-- The store when a task comes to rest. -/
def stored (st : Store) : Task → Store
  | selection s =>
    match s.stage with
    | .fetch _ r => r.stored st
    | _ => st
  | pageRefresh _ r => r.stored st
  | storeRefresh r => r.stored st

theorem stored_step (d : Desk) (t : Task) :
    (t.step d).2.stored (t.step d).1.store = t.stored d.store := by
  cases t with
  | selection s =>
    obtain ⟨e, stage, he, hstep⟩ := s.step_spec d
    rw [step, he]
    cases hstep with
    | @fetch refused refresh hstage _ => simpa [stored, hstage] using refresh.stored_step d
    | _ => simp_all [stored, Selection.success, Selection.refusal, Selection.explanation,
        Refresh.stored, Desk.touch, Desk.startTimers, Desk.ask]
  | pageRefresh page r =>
    obtain ⟨e, r', he, hstep⟩ := r.step_spec d page
    rw [step, he]
    cases hstep with
    | fetch => exact Refresh.stored_step d _
    | _ => rfl
  | storeRefresh r => exact r.stored_step d

theorem stored_of_rests (hr : t.rests = true) (st : Store) : t.stored st = st := by
  cases resting_of_rests hr with
  | sent hs | asked hs | ended hs => simp [stored, Refresh.stored, hs]
  | _ => rfl

theorem store_settle (d : Desk) (t : Task) : (t.settle d).1.store = t.stored d.store := by
  have hkeep := settle_keeps (d := d) (t := t)
    (P := fun e u => u.stored e.store = t.stored d.store)
    (fun e u hu _ => (u.stored_step e).trans hu) rfl
  simpa [stored_of_rests (settle_rests d t)] using hkeep

theorem stored_ofWish (d : Desk) (wish : Wish) (st : Store) : (ofWish d wish).stored st = st := by
  cases wish <;> rfl

theorem stored_answered (hr : t.rests = true) (reply : Reply) (st : Store) :
    (t.answered d reply).2.stored st = (t.fetched? reply).elim st st.adopted := by
  have hwait : ∀ url, (Refresh.asked url).stored st = st := fun _ => rfl
  have hfetch : ∀ m, (Refresh.answered m).stored st = (Refresh.graph? m).elim st st.adopted := by
    intro m
    rcases Refresh.answered_cases m with ⟨g, hg, ha⟩ | ⟨hg, error, ha⟩ <;> rw [hg, ha] <;> rfl
  cases resting_of_rests hr with
  | sent hs | ended hs | asked hs =>
    cases reply <;>
      simp [answered, Selection.answered, stored, fetched?, awaits, Selection.awaits, hs,
        Question.isChange, hwait, hfetch]
  | pageAsked | storeAsked =>
    cases reply <;>
      simp [answered, stored, PageRefresh.stored, fetched?, awaits, Question.isChange, hwait,
        hfetch]
  | _ => cases reply <;> rfl

end Task

namespace Task

/-- A task that is over and has returned the result of its refresh: a refresh of the store as it
is, and one for a page and a rejected selection by what they tell of it. -/
def Returned (res : Except RefreshError Graph) : Task → Prop
  | selection s => ∃ available message,
    s.stage = .finished (.rejected available message) ∧ available.isSome = res.isOk
  | pageRefresh _ r => r = .finished res.isOk
  | storeRefresh r => r = .done res

/-- A task that is going to return a result of its refresh. -/
def Due (d : Desk) (res : Except RefreshError Graph) : Task → Prop
  | selection s =>
    match s.stage with
    | .conclude _ (.ok reply) =>
      reply.isSuccess = false ∧ Refresh.ask.result? d.store.metaUrl = some res
    | .fetch _ r => r.result? d.store.metaUrl = some res
    | .repopulate _ _ | .renew _ _ _ | .reread _ => res.isOk = true
    | .perform _ (.rejected available _) | .finished (.rejected available _) =>
      available.isSome = res.isOk
    | _ => False
  | pageRefresh _ (.fetch r) => r.result? d.store.metaUrl = some res
  | pageRefresh _ (.finished refreshed) => refreshed = res.isOk
  | pageRefresh _ _ => res.isOk = true
  | storeRefresh r => r.result? d.store.metaUrl = some res

/-- What the refresh of a task returns when an answer arrives, if it returns then: what the answer
brings, or at once an error after a refusal when there is no endpoint to ask. -/
def returns? (metaUrl : Option String) (t : Task) : Reply → Option (Except RefreshError Graph)
  | .transitions m =>
    if t.awaits.any fun q => !q.isChange then some (Refresh.resultOf m) else none
  | .setState (.ok reply) =>
    if t.awaits.any Question.isChange && !reply.isSuccess && metaUrl.isNone then
      some (.error .noEndpoint)
    else none
  | .setState (.error _) => none

end Task

theorem Selection.Step.due (h : Selection.Step d sel e stage)
    (hd : (Task.selection sel).Due d res) : (Task.selection (sel.moveTo stage)).Due e res := by
  cases h with
  | @fetch refused refresh hstage _ =>
    simp only [Task.Due, hstage] at hd
    exact Refresh.result?_step hd
  | @perform p todo outcome hstage | @release outcome hstage | @rest outcome hstage =>
    cases outcome <;> simp_all [Task.Due]
  | unfetched hstage | fetched hstage =>
    simp only [Task.Due, hstage, Refresh.result?, Option.some.injEq] at hd
    subst hd
    rfl
  | _ => simp_all [Task.Due, explanation, Desk.touch]

theorem PageRefresh.Step.due {page : Nat} {r r' : PageRefresh}
    (h : PageRefresh.Step d page r e r') (hd : (Task.pageRefresh page r).Due d res) :
    (Task.pageRefresh page r').Due e res := by
  cases h with
  | fetch => exact Refresh.result?_step hd
  | unfetched | fetched =>
    obtain rfl := Option.some.inj hd
    rfl
  | performed =>
    exact Eq.symm hd
  | _ => exact hd

namespace Task

theorem due_step (h : t.Due d res) : (t.step d).2.Due (t.step d).1 res := by
  cases t with
  | selection s =>
    obtain ⟨e, stage, he, hstep⟩ := s.step_spec d
    rw [step, he]
    exact hstep.due h
  | pageRefresh page r =>
    obtain ⟨e, r', he, hstep⟩ := r.step_spec d page
    rw [step, he]
    exact hstep.due h
  | storeRefresh r => exact Refresh.result?_step h

theorem returned_of_rests (hr : t.rests = true) (h : t.Due d res) : t.Returned res := by
  cases resting_of_rests hr with
  | sent hs | asked hs => simp [Due, hs, Refresh.result?] at h
  | @ended s outcome hs =>
    cases outcome with
    | rejected available message => exact ⟨_, _, hs, by simpa [Due, hs] using h⟩
    | _ => simp [Due, hs] at h
  | pageAsked | storeAsked => cases h
  | pageEnded => exact congrArg PageRefresh.finished h
  | storeEnded => exact congrArg Refresh.done (Option.some.inj h)

/-- A task that is going to return a result returns it before it waits again. -/
theorem returned_settle (h : t.Due d res) : (t.settle d).2.Returned res :=
  returned_of_rests (settle_rests d t)
    (settle_keeps (P := fun e u => u.Due e res) (fun _ _ hu _ => due_step hu) h)

theorem due_answered (hr : t.rests = true) (h : t.returns? d.store.metaUrl reply = some res) :
    (t.answered d reply).2.Due (t.answered d reply).1 res := by
  have hasked := fun m => Refresh.result?_answered d.store.metaUrl m
  rcases reply with m | error | reply
  · simp only [returns?, Option.ite_none_right_eq_some, Option.some.injEq] at h
    obtain ⟨hwait, rfl⟩ := h
    cases resting_of_rests hr with
    | sent hs => simp [awaits, Selection.awaits, hs, Question.isChange] at hwait
    | asked hs => simpa [answered, Selection.answered, hs, Due] using hasked m
    | ended hs => simp [awaits, Selection.awaits, hs] at hwait
    | pageAsked | storeAsked => exact hasked m
    | pageEnded | storeEnded => simp [awaits] at hwait
  · cases h
  · simp only [returns?, Option.ite_none_right_eq_some, Option.some.injEq, Bool.and_eq_true,
      Bool.not_eq_true', Option.isNone_iff_eq_none] at h
    obtain ⟨⟨⟨hwait, hrefused⟩, hnone⟩, rfl⟩ := h
    cases resting_of_rests hr with
    | sent hs =>
      simp [answered, Selection.answered, hs, Due, hrefused, Desk.stopTimers, hnone,
        Refresh.result?]
    | asked hs => simp [awaits, Selection.awaits, hs, Question.isChange] at hwait
    | ended hs => simp [awaits, Selection.awaits, hs] at hwait
    | pageAsked | storeAsked => simp [awaits, Question.isChange] at hwait
    | pageEnded | storeEnded => simp [awaits] at hwait

end Task

/-- What the refresh that is wanted returns at once, if it does. -/
def Wish.returns? (metaUrl : Option String) : Wish → Option (Except RefreshError Graph)
  | .refreshPage | .refreshStore =>
    if metaUrl.isNone then some (.error .noEndpoint) else none
  | _ => none

theorem Task.due_ofWish {wish : Wish} (h : wish.returns? d.store.metaUrl = some res) :
    (Task.ofWish d wish).Due d res := by
  cases wish with
  | refreshPage | refreshStore => exact h
  | _ => cases h

namespace Session

/-- The graph that an event fetches. -/
def fetched? (s : Session) : Event → Option Graph
  | .answer id reply => (s.task? id).bind (·.fetched? reply)
  | _ => none

/-- The graph that the store takes by an event: a given one, the cached one, or a fetched one. -/
def taken? (s : Session) : Event → Option Graph
  | .replace g => some g
  | .restore => Store.cached? s.desk.store.cache
  | e => s.fetched? e

/-- The graphs that the store takes in the turns of a row of events, one after another. -/
def taken (s : Session) : List Event → List Graph
  | [] => []
  | e :: es => (s.taken? e).toList ++ (s.turn e).taken es

/-- What the refresh of a task returns by an event, if it returns by it. -/
def returns? (s : Session) (id : Nat) : Event → Option (Except RefreshError Graph)
  | .begin other wish =>
    if other = id ∧ (s.task? id).isNone then wish.returns? s.desk.store.metaUrl else none
  | .answer other reply =>
    if other = id then (s.task? id).bind (·.returns? s.desk.store.metaUrl reply) else none
  | _ => none

/-- The store after an event. -/
def stored (s : Session) : Event → Store
  | .replace g => s.desk.store.replace g
  | .persist => s.desk.store.persist.1
  | .restore => s.desk.store.restore.1
  | .answer id reply =>
    (s.fetched? (.answer id reply)).elim s.desk.store s.desk.store.adopted
  | _ => s.desk.store

/-- An event that is about no task changes the store only if it is one on the store. -/
theorem store_apply (hid : ev.id? = none) : (s.apply ev).desk.store = s.stored ev := by
  cases ev with
  | begin | step | settle | answer | drop => simp [Event.id?] at hid
  | hold other =>
    simp only [apply, Desk.claim?]
    split <;> rfl
  | release other =>
    simp only [apply]
    split <;> rfl
  | repopulate => exact s.desk.store_perform _
  | _ => rfl

/-- What a turn leaves in the store. -/
theorem store_turn (hs : s.Calm) (ev : Event) : (s.turn ev).desk.store = s.stored ev := by
  have h := turn_spec hs ev
  have hother : ev.id? = none → s.turn ev = s.apply ev := fun hid => by
    cases ev <;> first | rfl | simp [Event.id?] at hid
  cases hid : ev.id? with
  | none => rw [hother hid, store_apply hid]
  | some id =>
    generalize s.turn ev = s' at h
    cases h with
    | still hnone =>
      cases ev with
      | answer id reply => simp [stored, fetched?, hnone id reply rfl]
      | begin | step | settle | drop => rfl
      | _ => simp [Event.id?] at hid
    | begun _ => exact (Task.store_settle _ _).trans (Task.stored_ofWish _ _ _)
    | @answered id reply t ht =>
      have hr := hs.rests _ (mem_of_task? ht)
      change ((t.answered s.desk reply).2.settle (t.answered s.desk reply).1).1.store = _
      rw [Task.store_settle, Task.stored_answered hr, Task.store_answered]
      simp [stored, fetched?, ht]
    | @dropped id t ht => exact Task.store_dropped _ _
    | other hno => simp [hno] at hid

/-- The store keeps its graph by an event, or takes one as a whole. -/
theorem stored_graph (s : Session) (ev : Event) :
    (s.stored ev).graph = (s.taken? ev).getD s.desk.store.graph := by
  cases ev with
  | persist => exact Store.save_graph _ _
  | restore => rw [stored, Store.restore_eq]; rfl
  | answer id reply =>
    simp only [stored, taken?]
    cases s.fetched? (.answer id reply) with
    | none => rfl
    | some g => exact Store.adopted_graph _ g
  | _ => rfl

/-- Where no graph is taken and nothing is persisted, the store stays as it is. -/
theorem stored_of_taken? (h : s.taken? ev = none) (hp : ev ≠ .persist) :
    s.stored ev = s.desk.store := by
  cases ev with
  | replace g => cases h
  | persist => exact absurd rfl hp
  | restore =>
    have h : Store.cached? s.desk.store.cache = none := h
    rw [stored, Store.restore_eq, h]
    rfl
  | answer id reply =>
    have h : s.fetched? (.answer id reply) = none := h
    simp [stored, h]
  | _ => rfl

/-- In every run of turns the graph of the store is the one that it took last. -/
theorem graph_turns (hs : s.Calm) (es : List Event) :
    (s.turns es).desk.store.graph = (s.taken es).getLast?.getD s.desk.store.graph := by
  induction es generalizing s with
  | nil => rfl
  | cons ev es ih =>
    rw [turns_cons, ih (calm_turn hs ev), store_turn hs, stored_graph, taken,
      List.getLast?_append]
    cases ((s.turn ev).taken es).getLast? <;> cases s.taken? ev <;> rfl

/-- A refresh that returns the result of an event is over after its turn, and has fetched what it
returns. -/
theorem returned_turn (hs : s.Calm) {id : Nat} (h : s.returns? id ev = some res) :
    s.fetched? ev = res.toOption ∧
      ∃ t, (s.turn ev).task? id = some t ∧ t.Returned res := by
  cases ev with
  | begin other wish =>
    simp only [returns?, Option.ite_none_right_eq_some, Option.isNone_iff_eq_none] at h
    obtain ⟨⟨rfl, hnew⟩, hreturn⟩ := h
    have hfailed : res.toOption = none := by
      cases wish <;>
        simp only [Wish.returns?, Option.ite_none_right_eq_some, reduceCtorEq] at hreturn
      all_goals
        obtain ⟨-, hres⟩ := hreturn
        cases hres
        rfl
    exact ⟨hfailed.symm, _, task?_turn_begin hnew wish,
      Task.returned_settle (Task.due_ofWish hreturn)⟩
  | answer other reply =>
    simp only [returns?, Option.ite_none_right_eq_some] at h
    obtain ⟨rfl, h⟩ := h
    obtain ⟨t, ht, hreturn⟩ := Option.bind_eq_some_iff.mp h
    have hr := hs.rests _ (mem_of_task? ht)
    constructor
    · simp only [fetched?, ht, Option.bind_some]
      rcases reply with m | error | reply
      · simp only [Task.returns?, Option.ite_none_right_eq_some, Option.some.injEq] at hreturn
        obtain ⟨hwait, rfl⟩ := hreturn
        simp [Task.fetched?, hwait, Refresh.graph?_eq]
      · cases hreturn
      · simp only [Task.returns?, Option.ite_none_right_eq_some, Option.some.injEq] at hreturn
        obtain ⟨-, rfl⟩ := hreturn
        rfl
    · rw [turn_answer ht]
      exact ⟨_, task?_put ht, Task.returned_settle (Task.due_answered hr hreturn)⟩
  | _ => cases h

/-- What a turn makes of the store: its graph and its cache stay as they are or are replaced as a
whole. -/
structure Stores (s : Session) (ev : Event) : Prop where
  /-- Where no graph is taken and nothing is persisted, all stays as it is. -/
  kept : s.taken? ev = none → ev ≠ .persist → (s.turn ev).desk.store = s.desk.store
  /-- A refresh that fails returns its error and leaves all as it is. -/
  failed : ∀ id error, s.returns? id ev = some (.error error) →
    (s.turn ev).desk.store = s.desk.store ∧
      ∃ t, (s.turn ev).task? id = some t ∧ t.Returned (.error error)
  /-- A refresh that gets a graph returns it and leaves it in the store, and its text in the cache
  if that can be written. -/
  refreshed : ∀ id g, s.returns? id ev = some (.ok g) →
    (s.turn ev).desk.store.graph = g ∧
      (∃ t, (s.turn ev).task? id = some t ∧ t.Returned (.ok g)) ∧
      (∀ error, s.desk.store.cache.write Cache.graphKey g.text = .error error →
        (s.turn ev).desk.store.cache = s.desk.store.cache) ∧
      ∀ cache, s.desk.store.cache.write Cache.graphKey g.text = .ok cache →
        (s.turn ev).desk.store.cache = cache ∧
          ∃ entry, cache.read Cache.graphKey = .ok (some entry) ∧ entry.value = g.text
  /-- A cached text that can be read takes the place of the graph alone. -/
  restored : ∀ entry g, ev = .restore →
    s.desk.store.cache.read Cache.graphKey = .ok (some entry) →
    Graph.ofText? entry.value = some g → (s.turn ev).desk.store = s.desk.store.replace g
  /-- Where there is no such text, all stays as it is. -/
  unrestored : ev = .restore →
    (∀ entry, s.desk.store.cache.read Cache.graphKey = .ok (some entry) →
      Graph.ofText? entry.value = none) → (s.turn ev).desk.store = s.desk.store

theorem stores_of_calm (hs : s.Calm) (ev : Event) : s.Stores ev where
  kept := fun h hp => (store_turn hs ev).trans (stored_of_taken? h hp)
  failed := by
    intro id error h
    obtain ⟨hnone, hreturned⟩ := returned_turn hs h
    refine ⟨?_, hreturned⟩
    rw [store_turn hs]
    cases ev with
    | begin other wish => rfl
    | answer other reply => simp [stored, hnone, Except.toOption]
    | _ => cases h
  refreshed := by
    intro id g h
    obtain ⟨hfetched, hreturned⟩ := returned_turn hs h
    have hstore : (s.turn ev).desk.store = s.desk.store.adopted g := by
      rw [store_turn hs]
      cases ev with
      | answer other reply => simp [stored, hfetched, Except.toOption]
      | begin other wish => cases hfetched
      | _ => cases h
    rw [hstore]
    refine ⟨Store.adopted_graph _ g, hreturned, fun error he => ?_, fun cache hw => ?_⟩
    · rw [Store.adopted_of_error he]
    · exact ⟨by rw [Store.adopted_of_write hw], Cache.read_of_write hw⟩
  restored := by
    rintro entry g rfl hread hg
    rw [store_turn hs, stored, Store.restore_eq, Store.cached?_of_read hread, hg]
    rfl
  unrestored := by
    rintro rfl hnone
    have hcached : Store.cached? s.desk.store.cache = none := by
      simp only [Store.cached?]
      split
      · next entry hread => exact hnone entry hread
      · rfl
    rw [store_turn hs, stored, Store.restore_eq, hcached]
    rfl

/-- In every run of turns the graph of the store is the one that it took last, of those that were
given, cached or fetched, or else the one that it was opened with. Each turn leaves graph and cache
as they are or replaces them as a whole. A store that starts has the cached graph or the standard
one, and leaves the cache as it is. -/
theorem store_history (store : Store) (schedule : Schedule) (ds : List Descriptor)
    (es : List Event) :
    ((opened store schedule ds).turns es).desk.store.graph =
      ((opened store schedule ds).taken es).getLast?.getD store.graph ∧
    (∀ ev, ((opened store schedule ds).turns es).Stores ev) ∧
    ∀ cache metaUrl, Store.starting cache metaUrl =
      ⟨(Store.cached? cache).getD Graph.standard, cache, metaUrl⟩ := by
  have hs := calm_opened store schedule ds
  exact ⟨graph_turns hs es, fun ev => stores_of_calm (calm_turns hs es) ev,
    fun cache metaUrl => Store.restore_eq ⟨Graph.standard, cache, metaUrl⟩⟩

/-- A store with an empty cache in memory. -/
def cachedStore : Store := ⟨Graph.empty, Cache.emptyMemory, some "/meta"⟩

/-- A graph that lets an order that is done be opened again. -/
def reopening : Graph := Graph.empty.withActions .order "done" ["reopen"]

/-- Of two refreshes that wait, one gets that graph. -/
def refreshes : List Event :=
  [.begin 0 .refreshStore, .begin 1 .refreshStore,
    .answer 1 (.transitions (.ok ⟨true, some reopening⟩))]

/-- The answer to the other one is marked as a failure. -/
def failure : Event := .answer 0 (.transitions (.ok ⟨false, some Graph.empty⟩))

theorem store_history_refreshes :
    ((opened cachedStore Schedule.none []).turns refreshes).desk.store.graph = reopening ∧
    (((opened cachedStore Schedule.none []).turns refreshes).turn failure).desk.store =
      ((opened cachedStore Schedule.none []).turns refreshes).desk.store ∧
    ∃ t, (((opened cachedStore Schedule.none []).turns refreshes).turn failure).task? 0 = some t ∧
      t.Returned (.error .missingGraph) := by
  obtain ⟨hgraph, hstores, -⟩ := store_history cachedStore Schedule.none [] refreshes
  exact ⟨hgraph.trans rfl, (hstores failure).failed 0 .missingGraph rfl⟩

end Session
end OrderDesk
