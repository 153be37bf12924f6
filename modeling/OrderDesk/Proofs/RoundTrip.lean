import OrderDesk.Proofs.Reading
import OrderDesk.Store

/-! The text of a graph is a form of the graph: reading gives back what was written, and no two
graphs have one text. So a graph that was put into a cache comes out of it as it was. -/
namespace OrderDesk
open Text Json

/-- A row is read back when each of it is. -/
theorem mapM_map_read {α β : Type} {f : α → β} {g : β → Option α}
    (h : ∀ x, g (f x) = some x) (xs : List α) : (xs.map f).mapM g = some xs := by
  induction xs with
  | nil => rfl
  | cons x xs ih => simp [h, ih]

/-- The entries of a map are read back from a record when each of their values is. -/
theorem rows_record {α : Type} {write : α → Value} {read : Node → Option α}
    (h : ∀ a, read (write a).toNode = some a) (d : Dict α) :
    ∃ ms, (Value.record (d.entries.map fun e => (e.1, write e.2))).toNode.members? = some ms ∧
      ms.mapM (fun m => (read m.2).map (m.1, ·)) = some d.entries := by
  refine ⟨_, Value.members?_record _, ?_⟩
  rw [List.map_map]
  exact mapM_map_read (fun e => by simp [h]) d.entries

namespace Graph

theorem actionsOf?_texts (actions : List String) :
    actionsOf? (Value.texts actions).toNode = some actions := by
  rw [actionsOf?, Value.texts, Value.toNode, Value.toNodes_eq, List.map_map]
  exact mapM_map_read (f := Value.toNode ∘ .text) (g := Node.text?) (fun _ => rfl) actions

theorem statesOf?_statesValue (states : States) :
    statesOf? (statesValue states).toNode = some states := by
  obtain ⟨ms, hms, hrows⟩ := rows_record actionsOf?_texts states
  simp [statesOf?, statesValue, hms, hrows, Dict.ofList_entries]

theorem ofNode?_toValue (g : Graph) : ofNode? g.toValue.toNode = some g := by
  obtain ⟨ms, hms, hrows⟩ := rows_record statesOf?_statesValue g.scopes
  simp [ofNode?, toValue, hms, hrows, Dict.ofList_entries]

/-- A graph is read back from its text. -/
theorem ofText?_text (g : Graph) : ofText? g.text = some g := by
  rw [ofText?, text, ofText?_compact]
  exact ofNode?_toValue g

theorem text_inj {g h : Graph} : g.text = h.text ↔ g = h := by
  refine ⟨fun ht => ?_, fun he => he ▸ rfl⟩
  have hread := ofText?_text g
  rw [ht, ofText?_text h] at hread
  exact (Option.some.inj hread).symm

end Graph

/-- A cache that takes every text and gives it back. -/
def Cache.Keeps (c : Cache) : Prop :=
  ∀ key value, ∃ c' entry, c.write key value = .ok c' ∧ c'.read key = .ok (some entry) ∧
    entry.value = value

namespace Cache

/-- A text that was written is there to be read. -/
theorem read_of_write {c c' : Cache} {key value : String} (h : c.write key value = .ok c') :
    ∃ entry, c'.read key = .ok (some entry) ∧ entry.value = value := by
  cases c with
  | unavailable => cases h
  | memory values =>
    obtain rfl := Except.ok.inj h
    exact ⟨⟨value, none⟩, by simp [read, Dict.get?_insert], rfl⟩
  | database db =>
    simp only [write] at h
    split at h
    · cases h
    · obtain rfl := Except.ok.inj h
      refine ⟨⟨value, none⟩, ?_, rfl⟩
      simp only [read, Dict.get?_insert]
      rfl

theorem keeps_of_write {c : Cache} (h : ∀ key value, ∃ c', c.write key value = .ok c') :
    c.Keeps := by
  intro key value
  obtain ⟨c', hwrite⟩ := h key value
  obtain ⟨entry, hread, hvalue⟩ := read_of_write hwrite
  exact ⟨c', entry, hwrite, hread, hvalue⟩

theorem keeps_memory (values : Dict String) : (memory values).Keeps :=
  keeps_of_write fun _ _ => ⟨_, rfl⟩

/-- A database that may be written to keeps what it is given. -/
theorem keeps_database {db : Database} (h : db.readOnly = false) : (database db).Keeps := by
  refine keeps_of_write fun key value =>
    ⟨database { db with rows := db.rows.insert key ⟨value, .clock⟩ }, ?_⟩
  simp [write, h]

/-- A cache that keeps what it is given goes on to do so. -/
theorem Keeps.write {c c' : Cache} {key value : String} (hc : c.Keeps)
    (h : c.write key value = .ok c') : c'.Keeps := by
  cases c with
  | unavailable => cases h
  | memory values =>
    obtain rfl := Except.ok.inj h
    exact keeps_memory _
  | database db =>
    simp only [Cache.write] at h
    split at h
    · cases h
    · next hwritable =>
      obtain rfl := Except.ok.inj h
      exact keeps_database (by simpa using hwritable)

end Cache

namespace Store

theorem persist_keeps {s : Store} (h : s.cache.Keeps) :
    ∃ cache entry, s.persist = ({ s with cache := cache }, true) ∧
      cache.read Cache.graphKey = .ok (some entry) ∧ entry.value = s.graph.text := by
  obtain ⟨cache, entry, hwrite, hread, hvalue⟩ := h Cache.graphKey s.graph.text
  exact ⟨cache, entry, by simp [persist, save, hwrite], hread, hvalue⟩

theorem restore_of_read {u : Store} {entry : Entry} {g : Graph}
    (hread : u.cache.read Cache.graphKey = .ok (some entry)) (hvalue : entry.value = g.text) :
    u.restore = (u.replace g, true) := by
  simp [restore, cached?, hread, hvalue, Graph.ofText?_text]

/-- A graph that is put into a cache that keeps what it is given comes out of it as it was, for a
store that restores it and for one that starts with the cache. A graph is read back from its text,
no two graphs have one text, and a graph that was read from any text is read from its own. -/
theorem graph_round_trip :
    (∀ s : Store, s.cache.Keeps →
      ∃ cache, s.persist = ({ s with cache := cache }, true) ∧
        (∀ u : Store, u.cache = cache → u.restore = ({ u with graph := s.graph }, true)) ∧
        ∀ metaUrl, starting cache metaUrl = ⟨s.graph, cache, metaUrl⟩) ∧
    (∀ g : Graph, Graph.ofText? g.text = some g) ∧
    (∀ g h : Graph, g.text = h.text ↔ g = h) ∧
    ∀ t g, Graph.ofText? t = some g → Graph.ofText? g.text = some g := by
  refine ⟨fun s hc => ?_, Graph.ofText?_text, fun _ _ => Graph.text_inj,
    fun _ g _ => Graph.ofText?_text g⟩
  obtain ⟨cache, entry, hpersist, hread, hvalue⟩ := persist_keeps hc
  refine ⟨cache, hpersist, fun u hu => ?_, fun metaUrl => ?_⟩
  · exact restore_of_read (hu ▸ hread) hvalue
  · rw [starting, restore_of_read hread hvalue]
    rfl

/-- A graph with an unknown scope without states, a state without a name and without actions, and
actions that are empty, repeated, and full of signs that are written in another way. -/
def unusual : Graph :=
  ⟨Dict.ofList [("Lager\u0007", Dict.empty),
    ("order", Dict.ofList [("", []), ("offen\t\"\\\"", ["", "\n\u0000ß", "", "\n\u0000ß"])])]⟩

/-- A cache in memory holds that graph from one store for others. -/
theorem graph_round_trip_unusual :
    ∃ cache, (Store.mk unusual Cache.emptyMemory none).persist =
        (⟨unusual, cache, none⟩, true) ∧
      (∀ u : Store, u.cache = cache → u.restore = ({ u with graph := unusual }, true)) ∧
      ∀ metaUrl, starting cache metaUrl = ⟨unusual, cache, metaUrl⟩ :=
  graph_round_trip.1 ⟨unusual, Cache.emptyMemory, none⟩ (Cache.keeps_memory Dict.empty)

end Store
end OrderDesk
