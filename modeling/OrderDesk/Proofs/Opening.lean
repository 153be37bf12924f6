import OrderDesk.Proofs.Documents
import OrderDesk.Proofs.Replacement
import OrderDesk.Workplace

/-! What a workplace opens with, whatever its cache is. A cache is opened, read and decoded, and
where one of these fails the standard graph takes the place of the cached one. From then on each
call on the store comes to its end, and a cache that fails leaves the graph alone. -/
namespace OrderDesk
open Text

variable {s : Session} {id : Nat} {ev : Event} {es : List Event} {g : Graph} {cache : Cache}
  {disk : Disk} {raw : String}

/-- A row whose time can be read: the clock gave it, or it was put in by hand as a time. -/
def Row.IsReadable (row : Row) : Prop :=
  row.stamp = .clock ∨ ∃ raw t, row.stamp = .byHand raw ∧ Instant.parse? raw = some t

namespace Cache

/-- A location at which a cache can be opened: the directory is there or can be made, and so is the
database. -/
def Opens (disk : Disk) (raw : String) (cache : Cache) : Prop :=
  ∃ made url used, prepare disk raw = (made, .ok url) ∧ openUrl made url = (used, .ok cache)

/-- A cache that holds a graph: its row is there and can be read, and its text is that of the
graph. -/
def Holds (g : Graph) : Cache → Prop
  | database db => ∃ row, db.rows.get? graphKey = some row ∧ row.IsReadable ∧
    Graph.ofText? row.value = some g
  | _ => False

theorem openAt_of_barred {made : Disk} {error : CacheError}
    (hp : prepare disk raw = (made, .error error)) : openAt disk raw = (made, unavailable) := by
  unfold openAt
  simp only [hp]

theorem openAt_of_refused {made used : Disk} {url : String} {error : CacheError}
    (hp : prepare disk raw = (made, .ok url)) (hu : openUrl made url = (used, .error error)) :
    openAt disk raw = (used, unavailable) := by
  unfold openAt
  simp only [hp, hu]

theorem openAt_of_opened {made used : Disk} {url : String}
    (hp : prepare disk raw = (made, .ok url)) (hu : openUrl made url = (used, .ok cache)) :
    openAt disk raw = (used, cache) := by
  unfold openAt
  simp only [hp, hu]

/-- There is one cache at a location, and the stand-in where none opens. -/
theorem openAt_cases (disk : Disk) (raw : String) :
    Opens disk raw (openAt disk raw).2 ∨
      ((openAt disk raw).2 = unavailable ∧ ∀ cache, ¬Opens disk raw cache) := by
  by_cases h : ∃ cache, Opens disk raw cache
  · obtain ⟨cache, made, url, used, hp, hu⟩ := h
    rw [openAt_of_opened hp hu]
    exact Or.inl ⟨made, url, used, hp, hu⟩
  · refine Or.inr ⟨?_, fun cache hc => h ⟨cache, hc⟩⟩
    rcases hp : prepare disk raw with ⟨made, error | url⟩
    · rw [openAt_of_barred hp]
    · rcases hu : openUrl made url with ⟨used, error | cache⟩
      · rw [openAt_of_refused hp hu]
      · exact absurd ⟨cache, made, url, used, hp, hu⟩ h

theorem Opens.openAt_eq (h : Opens disk raw cache) : (openAt disk raw).2 = cache := by
  obtain ⟨made, url, used, hp, hu⟩ := h
  rw [openAt_of_opened hp hu]

theorem opens_of_openAt {db : Database} (h : (openAt disk raw).2 = database db) :
    Opens disk raw (database db) := by
  rcases openAt_cases disk raw with hopens | ⟨hstandin, -⟩
  · rwa [h] at hopens
  · cases h.symm.trans hstandin

/-- What opens is a database. -/
theorem Opens.exists_database (h : Opens disk raw cache) : ∃ db, cache = database db := by
  obtain ⟨made, url, used, -, hu⟩ := h
  simp only [openUrl] at hu
  split at hu
  · cases hu
  · split at hu
    · cases hu
    · split at hu
      · cases hu
      · obtain ⟨-, hc⟩ := Prod.mk.inj hu
        exact ⟨_, (Except.ok.inj hc).symm⟩

/-- A row gives its value while its time can be read, and else an error. -/
theorem entryOf_cases (key : String) (row : Row) :
    (row.IsReadable ∧ ∃ entry, entryOf key row = .ok entry ∧ entry.value = row.value) ∨
      (¬row.IsReadable ∧ entryOf key row = .error (.invalidTimestamp key)) := by
  unfold entryOf Row.IsReadable
  cases hstamp : row.stamp with
  | clock => simp
  | byHand raw => cases hp : Instant.parse? raw <;> simp [hp]

/-- A database gives the graph that it holds, and no other one. -/
theorem cached?_iff_holds (db : Database) :
    Store.cached? (database db) = some g ↔ (database db).Holds g := by
  simp only [Store.cached?, read, Holds]
  cases hrow : db.rows.get? graphKey with
  | none => simp
  | some row =>
    rcases entryOf_cases graphKey row with ⟨hr, entry, he, hvalue⟩ | ⟨hr, he⟩
    · simp [he, Except.map, hvalue, hr]
    · simp [he, Except.map, hr]

/-- A cache that is a database, or the stand-in. -/
def IsOpened (c : Cache) : Prop := (∃ db, c = database db) ∨ c = unavailable

theorem IsOpened.cached?_iff (h : cache.IsOpened) :
    Store.cached? cache = some g ↔ cache.Holds g := by
  obtain ⟨db, rfl⟩ | rfl := h
  · exact cached?_iff_holds db
  · simp [Store.cached?, read, Holds]

theorem isOpened_openAt (disk : Disk) (raw : String) : (openAt disk raw).2.IsOpened := by
  rcases openAt_cases disk raw with h | ⟨h, -⟩
  · exact Or.inl h.exists_database
  · exact Or.inr h

/-- What is written to a database is in a database. -/
theorem IsOpened.write {c' : Cache} {key value : String} (h : cache.IsOpened)
    (hw : cache.write key value = .ok c') : c'.IsOpened := by
  obtain ⟨db, rfl⟩ | rfl := h
  · simp only [Cache.write] at hw
    split at hw
    · cases hw
    · exact Or.inl ⟨_, (Except.ok.inj hw).symm⟩
  · cases hw

end Cache

namespace Store

theorem persist_of_error {st : Store} {error : CacheError}
    (h : st.cache.write Cache.graphKey st.graph.text = .error error) :
    st.persist = (st, false) := by
  simp [persist, save, h]

theorem persist_of_write {st : Store}
    (h : st.cache.write Cache.graphKey st.graph.text = .ok cache) :
    st.persist = ({ st with cache := cache }, true) := by
  simp [persist, save, h]

theorem starting_eq (cache : Cache) (metaUrl : Option String) :
    starting cache metaUrl = ⟨(cached? cache).getD Graph.standard, cache, metaUrl⟩ :=
  restore_eq ⟨Graph.standard, cache, metaUrl⟩

/-- A store that saves a text has the cache that was written, or the same one. -/
theorem save_cache (st : Store) (text : String) :
    (st.save text).1.cache = st.cache ∨
      st.cache.write Cache.graphKey text = .ok (st.save text).1.cache := by
  unfold save
  split
  · next cache hw => exact Or.inr hw
  · exact Or.inl rfl

end Store

namespace Session

/-- An event leaves the cache as it is, or writes to it. -/
theorem stored_cache (s : Session) (ev : Event) :
    (s.stored ev).cache = s.desk.store.cache ∨
      ∃ text, s.desk.store.cache.write Cache.graphKey text = .ok (s.stored ev).cache := by
  cases ev with
  | persist => exact (Store.save_cache _ _).imp_right fun h => ⟨_, h⟩
  | restore =>
    refine Or.inl ?_
    rw [stored, Store.restore_eq]
  | answer id reply =>
    rw [stored]
    cases s.fetched? (.answer id reply) with
    | none => exact Or.inl rfl
    | some g => exact (Store.save_cache (s.desk.store.replace g) _).imp_right fun h => ⟨_, h⟩
  | _ => exact Or.inl rfl

/-- A cache that was opened stays one, and the stand-in stays. -/
theorem isOpened_turns (hs : s.Calm) (h : s.desk.store.cache.IsOpened) (es : List Event) :
    (s.turns es).desk.store.cache.IsOpened ∧
      (s.desk.store.cache = .unavailable → (s.turns es).desk.store.cache = .unavailable) := by
  induction es generalizing s with
  | nil => exact ⟨h, id⟩
  | cons ev es ih =>
    have hnext : (s.turn ev).desk.store.cache.IsOpened ∧
        (s.desk.store.cache = .unavailable → (s.turn ev).desk.store.cache = .unavailable) := by
      rw [store_turn hs]
      rcases s.stored_cache ev with hsame | ⟨text, hw⟩
      · exact hsame.symm ▸ ⟨h, id⟩
      · refine ⟨h.write hw, fun hu => ?_⟩
        rw [hu] at hw
        cases hw
    obtain ⟨hkept, hstays⟩ := ih (calm_turn hs ev) hnext.1
    exact ⟨hkept, fun hu => hstays (hnext.2 hu)⟩

/-- What the calls on the store of a session come to, whatever its cache does. -/
structure Copes (s : Session) : Prop where
  /-- A graph that cannot be written is not, and the store is as before. -/
  unwritten : ∀ error,
    s.desk.store.cache.write Cache.graphKey s.desk.store.graph.text = .error error →
    s.desk.store.persist = (s.desk.store, false)
  written : ∀ cache, s.desk.store.cache.write Cache.graphKey s.desk.store.graph.text = .ok cache →
    s.desk.store.persist = ({ s.desk.store with cache := cache }, true)
  /-- Where the cache holds no graph, the store is as before. -/
  unread : (∀ g, ¬s.desk.store.cache.Holds g) → s.desk.store.restore = (s.desk.store, false)
  restored : ∀ g, s.desk.store.cache.Holds g → s.desk.store.restore = (s.desk.store.replace g, true)
  /-- A refresh without an endpoint returns at once, and the store is as before. -/
  refused : ∀ id, s.task? id = none → s.desk.store.metaUrl = none →
    (∃ t, (s.turn (.begin id .refreshStore)).task? id = some t ∧ t.Returned (.error .noEndpoint)) ∧
      (s.turn (.begin id .refreshStore)).desk.store = s.desk.store
  /-- One with an endpoint waits for the answer and returns with it. The store has the graph that
  the answer brings, or the one that it had before, whether or not it can be cached. -/
  refreshed : ∀ id url, s.task? id = none → s.desk.store.metaUrl = some url →
    ∀ es, (∀ e ∈ es, e.id? ≠ some id) →
      (∃ t, (s.turns (.begin id .refreshStore :: es)).task? id = some t ∧
        t.awaits = some (.transitions url)) ∧
      ∀ m, let after := s.turns (.begin id .refreshStore :: es ++ [.answer id (.transitions m)])
        (∃ t, after.task? id = some t ∧ t.Returned (Refresh.resultOf m)) ∧
          after.desk.store.graph = (Refresh.resultOf m).toOption.getD
            (s.turns (.begin id .refreshStore :: es)).desk.store.graph

theorem copes_of_calm (hs : s.Calm) (h : s.desk.store.cache.IsOpened) : s.Copes where
  unwritten := fun _ => Store.persist_of_error
  written := fun _ => Store.persist_of_write
  unread := by
    intro hno
    refine Store.restore_of_none (Option.eq_none_iff_forall_ne_some.mpr fun g hg => hno g ?_)
    exact h.cached?_iff.mp hg
  restored := fun g hg => Store.restore_of_cached? (h.cached?_iff.mpr hg)
  refused := by
    intro id hnew hnone
    have hreturn : s.returns? id (.begin id .refreshStore) = some (.error .noEndpoint) := by
      simp [returns?, hnew, Wish.returns?, hnone]
    exact ⟨(returned_turn hs hreturn).2, store_turn hs _⟩
  refreshed := by
    intro id url hnew hurl es hes
    have hasked : (s.turns (.begin id .refreshStore :: es)).task? id =
        some (.storeRefresh (.asked url)) := by
      rw [turns_cons, task?_turns_of_ne hes, task?_turn_begin hnew, Task.ofWish,
        Task.settle_step rfl]
      simp only [Task.step, Refresh.step, hurl]
      rw [Task.settle_of_rests rfl]
    have hcalm := calm_turns hs (.begin id .refreshStore :: es)
    refine ⟨⟨_, hasked, rfl⟩, fun m => ?_⟩
    have hreturn : (s.turns (.begin id .refreshStore :: es)).returns? id
        (.answer id (.transitions m)) = some (Refresh.resultOf m) := by
      rw [returns?, if_pos rfl, hasked]
      rfl
    obtain ⟨hfetched, hreturned⟩ := returned_turn hcalm hreturn
    rw [turns_append]
    refine ⟨hreturned, ?_⟩
    have htaken : (s.turns (.begin id .refreshStore :: es)).taken? (.answer id (.transitions m)) =
        (Refresh.resultOf m).toOption := hfetched
    rw [turns_cons, turns_nil, store_turn hcalm, stored_graph, htaken]

end Session

namespace Workplace

/-- Only a base that is no url keeps a workplace from being opened. -/
theorem open?_error_iff (s : Settings) (disk : Disk) (network : Http.Network) :
    (∃ error, open? s disk network = .error error) ↔
      ∃ raw error, s.baseUrl = some raw ∧ Url.read none raw = .error error := by
  unfold open? Client.ofCookie? Client.make?
  cases s.baseUrl with
  | none => simp
  | some raw => cases hread : Url.read none raw <;> simp [hread]

/-- The session of a workplace that was opened with a cache. -/
def sessionWith (s : Settings) (cache : Cache) : Session where
  desk := startingDesk s cache

theorem session_of_open? {s : Settings} {network : Http.Network} {w : Workplace}
    (h : open? s disk network = .ok w) :
    w.timeline.session = sessionWith s (Cache.openAt disk s.cacheUrl).2 := by
  unfold open? at h
  generalize Cache.openAt disk s.cacheUrl = opened at h ⊢
  split at h
  · cases h
  · obtain rfl := Except.ok.inj h
    rfl

theorem session_bindPage (w : Workplace) (ds : List Descriptor) :
    (w.bindPage ds).timeline.session =
      { w.timeline.session with desk := w.timeline.session.desk.bindPage ds } := rfl

/-- A page of a workplace that was just opened. -/
theorem session_page {s : Settings} {w : Workplace}
    (h : w.timeline.session = sessionWith s cache) (ds : List Descriptor) :
    (w.bindPage ds).timeline.session =
      Session.opened (Store.starting cache s.metaUrl) s.schedule ds := by
  rw [session_bindPage, h]
  rfl

/-- For all settings, a workplace can be opened unless its base is no url, whatever the location of
its cache is and whatever is on the disk. It starts with the graph that the cache holds when one
opens there and holds a graph, and with the standard graph in all other cases. In every run that
follows, the calls on its store come to their ends and a cache that fails changes nothing in it, and
where no cache opens none is there later. A text is that of a graph when it is an object of objects
of lists of texts. -/
theorem starts_with_any_cache (s : Settings) (disk : Disk) (network : Http.Network) :
    ((∃ error, open? s disk network = .error error) ↔
      ∃ raw error, s.baseUrl = some raw ∧ Url.read none raw = .error error) ∧
    (∀ text, (∃ g, Graph.ofText? text = some g) ↔ ∃ n, Json.ofText? text = some n ∧ n.IsGraph) ∧
    ∀ w, open? s disk network = .ok w →
      (∀ cache g, Cache.Opens disk s.cacheUrl cache → cache.Holds g → w.desk.store.graph = g) ∧
      ((∀ cache g, Cache.Opens disk s.cacheUrl cache → ¬cache.Holds g) →
        w.desk.store.graph = Graph.standard) ∧
      ∀ ds es, ((w.bindPage ds).timeline.session.turns es).Copes ∧
        ((∀ cache, ¬Cache.Opens disk s.cacheUrl cache) →
          ((w.bindPage ds).timeline.session.turns es).desk.store.cache = .unavailable ∧
          ((w.bindPage ds).timeline.session.turns es).desk.store.persist =
            (((w.bindPage ds).timeline.session.turns es).desk.store, false)) := by
  refine ⟨open?_error_iff s disk network, Graph.exists_ofText?_iff, fun w hw => ?_⟩
  have hsession := session_of_open? hw
  have hopened := Cache.isOpened_openAt disk s.cacheUrl
  have hthere := Cache.openAt_cases disk s.cacheUrl
  have hat : ∀ cache, Cache.Opens disk s.cacheUrl cache →
      (Cache.openAt disk s.cacheUrl).2 = cache := fun _ h => h.openAt_eq
  generalize (Cache.openAt disk s.cacheUrl).2 = cache at hsession hopened hthere hat
  have hgraph : w.desk.store.graph = (Store.cached? cache).getD Graph.standard := by
    rw [desk, Timeline.desk, hsession, sessionWith, startingDesk, Store.starting_eq]
  refine ⟨fun other g hother hg => ?_, fun hno => ?_, fun ds es => ?_⟩
  · rw [hgraph, hopened.cached?_iff.mpr (hat other hother ▸ hg), Option.getD_some]
  · have hnone : Store.cached? cache = none := by
      refine Option.eq_none_iff_forall_ne_some.mpr fun g hg => ?_
      have hholds := hopened.cached?_iff.mp hg
      rcases hthere with hcache | ⟨rfl, -⟩
      · exact hno _ g hcache hholds
      · exact hholds
    rw [hgraph, hnone, Option.getD_none]
  · have hcache : (w.bindPage ds).timeline.session.desk.store.cache = cache := by
      rw [session_page hsession, Store.starting_eq]
      rfl
    have hcalm : (w.bindPage ds).timeline.session.Calm :=
      session_page hsession ds ▸ Session.calm_opened _ s.schedule ds
    obtain ⟨hkept, hstays⟩ := Session.isOpened_turns hcalm (hcache ▸ hopened) es
    refine ⟨Session.copes_of_calm (Session.calm_turns hcalm es) hkept, fun hno => ?_⟩
    have hnone := hstays (hcache.trans (hthere.resolve_left (hno _)).1)
    exact ⟨hnone, Store.persist_of_error (by rw [hnone]; rfl)⟩

/-- A table with a text of another kind than a graph. -/
def strayTable : Table := Dict.ofList [(Cache.graphKey, ⟨"null", .clock⟩)]

/-- A disk with a database of that table. -/
def strayDisk : Disk where
  items := [(["home"], .directory), (["home", "cache.db"], .table strayTable)]
  working := ["home"]

/-- A workplace with the cache there and no base. -/
def straySettings : Settings := { cacheUrl := "cache.db", metaUrl := some "/meta" }

theorem starts_with_any_cache_stray :
    ∃ w, open? straySettings strayDisk ⟨none, [], []⟩ = .ok w ∧
      w.desk.store.graph = Graph.standard ∧
      ((w.bindPage Session.samplePage).timeline.session.turns
        [.begin 0 (.select Session.sampleSeat "process")]).Copes := by
  obtain ⟨hopens, -, hstarts⟩ := starts_with_any_cache straySettings strayDisk ⟨none, [], []⟩
  cases hw : open? straySettings strayDisk ⟨none, [], []⟩ with
  | error error =>
    obtain ⟨raw, _, hbase, -⟩ := hopens.mp ⟨error, hw⟩
    cases hbase
  | ok w =>
    obtain ⟨-, hstandard, hlater⟩ := hstarts w hw
    have hcache : (Cache.openAt strayDisk straySettings.cacheUrl).2 =
        .database ⟨some ["home", "cache.db"], false, strayTable⟩ := by decide +kernel
    refine ⟨w, rfl, hstandard fun cache g hopened hg => ?_, (hlater _ _).1⟩
    obtain rfl := hopened.openAt_eq.symm.trans hcache
    obtain ⟨row, hrow, -, hread⟩ := hg
    obtain rfl : (⟨"null", .clock⟩ : Row) = row :=
      Option.some.inj (Eq.trans (by decide +kernel) hrow)
    have hnull : Graph.ofText? "null" = none := by cbv
    simp [hnull] at hread

end Workplace

end OrderDesk
