import OrderDesk.Http.Client
import OrderDesk.Proofs.Tolerance
import OrderDesk.Refresh

/-! Which documents are graphs, and of what. A document is taken as a whole or not at all: it is an
object of objects of lists of texts throughout, and the graph has under each name what stands there
last. An answer for the graph is read strictly, and brings a graph only if it reports success and
carries one. -/
namespace OrderDesk
open Text

variable {n : Json.Node}

namespace Text.Dict

variable {α β : Type} {d d' : Dict α} {k : String} {v : α}

/-- A map gives a key what its entries say. -/
theorem get?_eq_some_iff : d.get? k = some v ↔ (k, v) ∈ d.entries := by
  constructor
  · intro h
    obtain ⟨e, he, rfl⟩ := Option.map_eq_some_iff.mp h
    have hk : e.1 = k := by simpa using List.find?_some he
    exact hk ▸ List.mem_of_find?_eq_some he
  · intro h
    have hkeys : (d.entries.map (·.1)).Nodup := by
      refine List.pairwise_map.mpr (d.ordered.imp fun hlt he => ?_)
      exact String.lt_irrefl _ (he ▸ hlt)
    obtain ⟨e, he⟩ : ∃ e, d.entries.find? (fun e => e.1 == k) = some e :=
      Option.isSome_iff_exists.mp (List.find?_isSome.mpr ⟨(k, v), h, by simp⟩)
    have hk : e.1 = k := by simpa using List.find?_some he
    have hsame := List.inj_on_of_nodup_map hkeys (List.mem_of_find?_eq_some he) h hk
    simp [get?, he, hsame]

/-- Two maps that give each key the same are one. -/
theorem ext_get? (h : ∀ k, d.get? k = d'.get? k) : d = d' := by
  have hmem : ∀ e, e ∈ d.entries ↔ e ∈ d'.entries := fun e => by
    rw [← get?_eq_some_iff, ← get?_eq_some_iff, h]
  have : Std.Irrefl fun a b : String × α => a.1 < b.1 := ⟨fun a => String.lt_irrefl a.1⟩
  have : Std.Antisymm fun a b : String × α => a.1 < b.1 :=
    ⟨fun a b hab hba => absurd (String.lt_trans hab hba) (String.lt_irrefl a.1)⟩
  exact Dict.ext (d.ordered.eq_of_mem_iff d'.ordered hmem)

theorem ofList_concat (es : List (String × α)) (e : String × α) :
    ofList (es ++ [e]) = (ofList es).insert e.1 e.2 := by
  simp [ofList]

end Text.Dict

namespace Json.Node

variable {α : Type} {read : Node → Option α} {members : List (Option String × Node)}
  {rows : List (String × α)}

/-- A list of texts. -/
def IsTexts : Node → Prop
  | .array items => ∀ item ∈ items, ∃ t, item = .string (some t)
  | _ => False

/-- An object whose members have names, and values of a kind. -/
def IsRecordOf (P : Node → Prop) : Node → Prop
  | .object members => ∀ m ∈ members, m.1.isSome = true ∧ P m.2
  | _ => False

/-- An object of objects of lists of texts. -/
def IsGraph (n : Node) : Prop := n.IsRecordOf (IsRecordOf IsTexts)

/-- The list of certain texts. -/
def Lists (texts : List String) (n : Node) : Prop :=
  n = .array (texts.map fun t => .string (some t))

/-- The last value under a name. -/
def lastOf (members : List (Option String × Node)) (name : String) : Option Node :=
  valueOf members.reverse name

/-- An object and a map: what the map has under a name agrees with the last value under it, and a
name that the object does not have is none of the map. -/
def Records (R : α → Node → Prop) (d : Dict α) (n : Node) : Prop :=
  ∃ members, n = .object members ∧ ∀ name, Option.Rel R (d.get? name) (lastOf members name)

theorem lastOf_concat (members : List (Option String × Node)) (m : Option String × Node)
    (name : String) :
    lastOf (members ++ [m]) name = if m.1 = some name then some m.2 else lastOf members name := by
  by_cases h : m.1 = some name <;> simp [lastOf, valueOf, h]

/-- A member with a name whose value is read. -/
def rowOf? (read : Node → Option α) (m : Option String × Node) : Option (String × α) := do
  let name ← m.1
  let a ← read m.2
  some (name, a)

/-- The members of an object, each with a name and a value that is read. -/
def rowsOf? (read : Node → Option α) : Node → Option (List (String × α))
  | .object members => members.mapM (rowOf? read)
  | _ => none

theorem rowOf?_eq_some_iff {m : Option String × Node} {row : String × α} :
    rowOf? read m = some row ↔ m.1 = some row.1 ∧ read m.2 = some row.2 := by
  obtain ⟨name, v⟩ := m
  obtain ⟨k, a⟩ := row
  cases name with
  | none => simp [rowOf?]
  | some name => cases hv : read v <;> simp [rowOf?, hv]

/-- To name the members first and to read their values then comes to the same as both at once. -/
theorem members?_bind_mapM (read : Node → Option α) (n : Node) :
    (n.members?.bind fun named => named.mapM fun m => (read m.2).map (m.1, ·)) =
      n.rowsOf? read := by
  cases n with
  | object members =>
    simp only [members?, rowsOf?]
    by_cases hnames : (members.all fun m => m.1.isSome) = true
    · obtain ⟨named, rfl⟩ := exists_named hnames
      have hrow : (fun m : String × Node => (read m.2).map (m.1, ·)) =
          rowOf? read ∘ fun m => (some m.1, m.2) := by
        funext m
        cases hm : read m.2 <;> simp [rowOf?, hm]
      rw [namedMembers?_map, Option.bind_some, hrow, List.mapM_map]
    · obtain ⟨m, hm, hname⟩ : ∃ m ∈ members, ¬ m.1.isSome = true := by simpa using hnames
      have hrow : rowOf? read m = none := by simp [rowOf?, Option.not_isSome_iff_eq_none.mp hname]
      rw [namedMembers?_eq_none hnames, mapM_eq_none hm hrow]
      rfl
  | _ => rfl

/-- A row is read when each of it is. -/
theorem exists_mapM_iff {α β : Type} {f : α → Option β} {xs : List α} :
    (∃ ys, xs.mapM f = some ys) ↔ ∀ x ∈ xs, ∃ y, f x = some y := by
  induction xs with
  | nil => simp
  | cons x xs ih =>
    cases hx : f x with
    | none => simp [hx]
    | some y =>
      simp only [List.mapM_cons, hx, Option.bind_eq_bind, Option.bind_some, List.forall_mem_cons,
        Option.some.injEq, exists_eq', true_and, ← ih]
      cases xs.mapM f <;> simp

theorem forall₂_of_mapM {α β : Type} {f : α → Option β} {xs : List α} {ys : List β}
    (h : xs.mapM f = some ys) : List.Forall₂ (fun x y => f x = some y) xs ys := by
  induction xs generalizing ys with
  | nil => cases h; exact .nil
  | cons x xs ih =>
    simp only [List.mapM_cons, Option.bind_eq_bind, Option.bind_eq_some_iff] at h
    obtain ⟨y, hy, rest, hrest, ⟨⟩⟩ := h
    exact .cons hy (ih hrest)

theorem exists_texts_iff : (∃ ts, Graph.actionsOf? n = some ts) ↔ n.IsTexts := by
  cases n with
  | array items =>
    refine exists_mapM_iff.trans (forall₂_congr fun item _ => ?_)
    cases item with
    | string t => cases t <;> simp [text?]
    | _ => simp [text?]
  | _ => simp [Graph.actionsOf?, items?, IsTexts]

/-- An object is read when its names are texts and its values are read. -/
theorem exists_rows_iff {P : Node → Prop} (h : ∀ n, (∃ a, read n = some a) ↔ P n) :
    (∃ rows, n.rowsOf? read = some rows) ↔ n.IsRecordOf P := by
  cases n with
  | object members =>
    refine exists_mapM_iff.trans (forall₂_congr fun m _ => ?_)
    simp only [rowOf?_eq_some_iff, Prod.exists, exists_and_left, exists_and_right, h,
      Option.isSome_iff_exists]
  | _ => simp [rowsOf?, IsRecordOf]

/-- A list is read as its texts, in their order. -/
theorem lists_of_actionsOf? {texts : List String} (h : Graph.actionsOf? n = some texts) :
    Lists texts n := by
  cases n with
  | array items =>
    have hitems := forall₂_of_mapM (f := text?) h
    clear h
    refine congrArg Node.array ?_
    induction hitems with
    | nil => rfl
    | @cons item t _ _ ht _ ih =>
      have hitem : item = .string (some t) := by cases item <;> simp_all [text?]
      rw [hitem, ih, List.map_cons]
  | _ => cases h

/-- The map of the rows of an object has the last row of each name. -/
theorem records_of_rowsOf? {R : α → Node → Prop} (hread : ∀ a v, read v = some a → R a v)
    (h : n.rowsOf? read = some rows) : Records R (Dict.ofList rows) n := by
  cases n with
  | object members =>
    refine ⟨members, rfl, fun name => ?_⟩
    have hrows : members.mapM (rowOf? read) = some rows := h
    clear h
    induction members using List.reverseRecOn generalizing rows with
    | nil => cases hrows; exact .none
    | append_singleton members m ih =>
      simp only [List.mapM_append, List.mapM_cons, List.mapM_nil, Option.bind_eq_bind,
        Option.bind_eq_some_iff] at hrows
      obtain ⟨front, hfront, back, ⟨row, hrow, -, ⟨⟩, ⟨⟩⟩, ⟨⟩⟩ := hrows
      obtain ⟨hname, hvalue⟩ := rowOf?_eq_some_iff.mp hrow
      simp only [Dict.ofList_concat, Dict.get?_insert_ite, lastOf_concat, hname,
        Option.some.injEq]
      split
      · exact .some (hread _ _ hvalue)
      · exact ih hfront
  | _ => cases h

/-- What a map has under its names decides which map it is. -/
theorem Records.unique {R : α → Node → Prop} {d d' : Dict α}
    (hR : ∀ a a' v, R a v → R a' v → a = a') (h : Records R d n) (h' : Records R d' n) : d = d' := by
  obtain ⟨members, rfl, hd⟩ := h
  obtain ⟨_, ⟨⟩, hd'⟩ := h'
  refine Dict.ext_get? fun name => ?_
  have hname := hd name
  have hname' := hd' name
  revert hname hname'
  generalize lastOf members name = v, d.get? name = a, d'.get? name = a'
  rintro (h | -) (h' | -)
  · exact congrArg some (hR _ _ _ h h')
  · rfl

end Json.Node

namespace Graph
open Json Node

variable {g g' : Graph} {states : States}

/-- A graph and the document of it: a scope of the one has the last object under its name in the
other, and a state of it the last list under its own name there. -/
def Mirrors (g : Graph) (n : Node) : Prop := Records (Records Lists) g.scopes n

theorem Mirrors.unique (h : g.Mirrors n) (h' : g'.Mirrors n) : g = g' := by
  have hlists : ∀ (ts ts' : List String) v, Lists ts v → Lists ts' v → ts = ts' := by
    rintro ts ts' _ rfl h
    have hinj : Function.Injective fun t : String => Node.string (some t) := fun t t' h => by
      simpa using h
    exact hinj.list_map (Node.array.inj h)
  have hstates : ∀ (states states' : States) v, Records Lists states v → Records Lists states' v →
      states = states' := fun _ _ _ => Records.unique hlists
  exact Graph.ext (Records.unique hstates h h')

theorem statesOf?_eq (n : Node) : statesOf? n = (n.rowsOf? actionsOf?).map Dict.ofList := by
  rw [← members?_bind_mapM, Option.map_eq_bind, Option.bind_assoc]
  rfl

theorem ofNode?_eq (n : Node) :
    ofNode? n = (n.rowsOf? statesOf?).map fun rows => ⟨Dict.ofList rows⟩ := by
  rw [← members?_bind_mapM, Option.map_eq_bind, Option.bind_assoc]
  rfl

/-- A document is that of a graph when it has the shape of one. -/
theorem exists_ofNode?_iff : (∃ g, ofNode? n = some g) ↔ n.IsGraph := by
  have hstates : ∀ n, (∃ states, statesOf? n = some states) ↔ n.IsRecordOf IsTexts := fun n => by
    rw [← exists_rows_iff fun n => exists_texts_iff]
    simp [statesOf?_eq]
  rw [IsGraph, ← exists_rows_iff hstates]
  simp [ofNode?_eq]

theorem mirrors_of_ofNode? (h : ofNode? n = some g) : g.Mirrors n := by
  rw [ofNode?_eq] at h
  obtain ⟨rows, hrows, rfl⟩ := Option.map_eq_some_iff.mp h
  refine records_of_rowsOf? (fun states v hv => ?_) hrows
  rw [statesOf?_eq] at hv
  obtain ⟨rows, hrows, rfl⟩ := Option.map_eq_some_iff.mp hv
  exact records_of_rowsOf? (fun _ _ => lists_of_actionsOf?) hrows

/-- What is read of a document is the one graph that mirrors it. -/
theorem ofNode?_eq_some_iff : ofNode? n = some g ↔ n.IsGraph ∧ g.Mirrors n := by
  constructor
  · exact fun h => ⟨exists_ofNode?_iff.mp ⟨g, h⟩, mirrors_of_ofNode? h⟩
  · rintro ⟨hn, hg⟩
    obtain ⟨g', h⟩ := exists_ofNode?_iff.mpr hn
    rw [h, (mirrors_of_ofNode? h).unique hg]

/-- A text is that of a graph when it is a document of the shape of one. -/
theorem exists_ofText?_iff (text : String) :
    (∃ g, Graph.ofText? text = some g) ↔ ∃ n, Json.ofText? text = some n ∧ n.IsGraph := by
  cases h : Json.ofText? text with
  | none => simp [ofText?, h]
  | some n => simp [ofText?, h, exists_ofNode?_iff]

example : ofText? "null" = none := by cbv

example : ofText? "[]" = none := by cbv

example : ofText? "\x7b\"order\":\x7b\"open\":[1]\x7d\x7d" = none := by cbv

end Graph

namespace MetaResponse
open Json Node

variable {members : List (Option String × Node)} {r : MetaResponse} {g : Graph}

/-- The names of the fields. -/
def fieldNames : List String := ["ok", "transitions"]

/-- The members of an answer for the graph: each has a name, a field does not stand twice, the flag
is a truth value, and what stands for a graph is one or `null`. -/
structure WellFormed (members : List (Option String × Node)) : Prop where
  named : (members.all fun m => m.1.isSome) = true
  once : ¬ Repeats fieldNames members
  flag : ∀ v, valueOf members "ok" = some v → ∃ b, v = .bool b
  graph : ∀ v, valueOf members "transitions" = some v → v = .null ∨ v.IsGraph

/-- An object is an answer if its members have names and no field stands twice, and then each field
is read from the value under its own name. -/
theorem ofNode?_object : ofNode? (.object members) = some r ↔
    ((members.all fun m => m.1.isSome) = true ∧ ¬ Repeats fieldNames members) ∧
      flagOf? (valueOf members "ok") = some r.ok ∧
      graphOf? (valueOf members "transitions") = some r.transitions := by
  have hfields := fields?_eq fieldNames members
  rw [fieldNames] at hfields
  by_cases hform : (members.all fun m => m.1.isSome) = true ∧ ¬ Repeats fieldNames members
  · obtain ⟨ok, transitions⟩ := r
    have hread : ofNode? (.object members) =
        (flagOf? (valueOf members "ok")).bind fun ok =>
          (graphOf? (valueOf members "transitions")).bind fun transitions =>
            some ⟨ok, transitions⟩ := by
      rw [fieldNames] at hform
      simp only [ofNode?, hfields, if_pos hform, Option.bind_eq_bind, Option.bind_some,
        List.map_cons, List.map_nil]
    simp [hread, hform, Option.bind_eq_some_iff]
  · have hread : ofNode? (.object members) = none := by
      rw [fieldNames] at hform
      simp only [ofNode?, hfields, if_neg hform, Option.bind_eq_bind, Option.bind_none]
    simp only [hread, hform, reduceCtorEq, false_and]

theorem flagOf?_eq_true_iff {field : Option Node} :
    flagOf? field = some true ↔ field = some (.bool true) := by
  rcases field with _ | _ | b | _ | _ | _ | _ <;> simp [flagOf?, Node.bool?]

theorem exists_flagOf?_iff {field : Option Node} :
    (∃ b, flagOf? field = some b) ↔ ∀ v, field = some v → ∃ b, v = .bool b := by
  rcases field with _ | _ | b | _ | _ | _ | _ <;> simp [flagOf?, Node.bool?]

theorem graphOf?_of_ne_null {v : Node} (h : v ≠ .null) :
    graphOf? (some v) = (Graph.ofNode? v).map some := by
  cases v <;> first | rfl | exact absurd rfl h

theorem graphOf?_eq_some_iff {field : Option Node} :
    graphOf? field = some (some g) ↔ ∃ v, field = some v ∧ v.IsGraph ∧ g.Mirrors v := by
  rcases field with _ | v
  · simp [graphOf?]
  · by_cases hv : v = .null
    · subst hv
      simp [graphOf?, IsGraph, IsRecordOf]
    · simp [graphOf?_of_ne_null hv, Graph.ofNode?_eq_some_iff]

theorem exists_graphOf?_iff {field : Option Node} :
    (∃ g, graphOf? field = some g) ↔ ∀ v, field = some v → v = .null ∨ v.IsGraph := by
  rcases field with _ | v
  · simp [graphOf?]
  · by_cases hv : v = .null
    · subst hv
      simp [graphOf?]
    · simp [graphOf?_of_ne_null hv, hv, Graph.exists_ofNode?_iff]

theorem exists_ofNode?_iff : (∃ r, ofNode? (.object members) = some r) ↔ WellFormed members := by
  simp only [ofNode?_object, exists_and_left]
  constructor
  · rintro ⟨⟨hnames, hone⟩, r, hok, hgraph⟩
    exact ⟨hnames, hone, exists_flagOf?_iff.mp ⟨_, hok⟩, exists_graphOf?_iff.mp ⟨_, hgraph⟩⟩
  · rintro ⟨hnames, hone, hok, hgraph⟩
    obtain ⟨b, hb⟩ := exists_flagOf?_iff.mpr hok
    obtain ⟨g, hg⟩ := exists_graphOf?_iff.mpr hgraph
    exact ⟨⟨hnames, hone⟩, ⟨b, g⟩, hb, hg⟩

theorem graph?_eq_some_iff : r.graph? = some g ↔ r.ok = true ∧ r.transitions = some g := by
  cases h : r.ok <;> simp [graph?, h]

/-- An answer brings a graph if it reports success and carries one. -/
theorem exists_graph?_iff :
    (∃ r, ofNode? (.object members) = some r ∧ r.graph? = some g) ↔
      WellFormed members ∧ valueOf members "ok" = some (.bool true) ∧
        ∃ v, valueOf members "transitions" = some v ∧ v.IsGraph ∧ g.Mirrors v := by
  rw [← exists_ofNode?_iff, ← graphOf?_eq_some_iff, ← flagOf?_eq_true_iff]
  constructor
  · rintro ⟨r, hr, hg⟩
    obtain ⟨hok, htransitions⟩ := graph?_eq_some_iff.mp hg
    obtain ⟨-, hflag, hgraph⟩ := ofNode?_object.mp hr
    exact ⟨⟨r, hr⟩, hok ▸ hflag, htransitions ▸ hgraph⟩
  · rintro ⟨⟨r, hr⟩, hflag, hgraph⟩
    obtain ⟨hform, -, -⟩ := ofNode?_object.mp hr
    exact ⟨⟨true, some g⟩, ofNode?_object.mpr ⟨hform, hflag, hgraph⟩, rfl⟩

/-- The graph of an answer is that of a part of the document, and of all of that part. In an object
it is the one under its name, beside the flag that reports success. -/
theorem exists_mirrored (h : ofNode? n = some r) (hg : r.graph? = some g) :
    ∃ v ∈ n.parts, (v.IsGraph ∧ g.Mirrors v) ∧ ∀ members, n = .object members →
      valueOf members "ok" = some (.bool true) ∧ valueOf members "transitions" = some v := by
  cases n with
  | object members =>
    obtain ⟨-, hok, v, hv, hshape⟩ := exists_graph?_iff.mp ⟨r, h, hg⟩
    have hpart := (value_bounds (mem_of_valueOf hv)).2 v (self_mem_parts v)
    refine ⟨v, List.mem_cons_of_mem _ hpart, hshape, ?_⟩
    rintro _ ⟨⟩
    exact ⟨hok, hv⟩
  | array items =>
    rcases items with _ | ⟨ok, _ | ⟨v, _ | ⟨_, _⟩⟩⟩
    · cases h
      cases hg
    · obtain ⟨b, -, hr⟩ := Option.bind_eq_some_iff.mp h
      cases hr
      cases b <;> cases hg
    · obtain ⟨b, -, hr⟩ := Option.bind_eq_some_iff.mp h
      obtain ⟨transitions, htransitions, hr⟩ := Option.bind_eq_some_iff.mp hr
      cases hr
      obtain ⟨-, rfl⟩ := graph?_eq_some_iff.mp hg
      obtain ⟨_, ⟨⟩, hshape⟩ := graphOf?_eq_some_iff.mp htransitions
      exact ⟨v, by simp [parts, itemsParts, self_mem_parts], hshape, by simp⟩
    · cases h
  | _ => cases h

end MetaResponse

/-- What is fetched is taken over only from an answer that came in full, and is the graph of it. -/
theorem Refresh.body_of_adopt {u : Url} {answer : Http.Answer} {g : Graph}
    (h : answered (Client.readTransitions u answer) = .adopt g) :
    ∃ status body r, answer = .whole status body ∧ MetaResponse.ofBytes? body = some r ∧
      r.graph? = some g := by
  cases answer with
  | whole status body =>
    simp only [Client.readTransitions] at h
    split at h
    · split at h
      · next r hr =>
        cases hg : r.graph? with
        | none => simp [answered, hg] at h
        | some g' =>
          simp only [answered, hg, adopt.injEq] at h
          exact ⟨status, body, r, rfl, hr, h ▸ hg⟩
      · cases h
    · cases h
  | _ => cases h

namespace Store

variable {st : Store} {g : Graph}

theorem restore_of_cached? (h : cached? st.cache = some g) :
    st.restore = (st.replace g, true) := by
  simp [restore, h]

theorem restore_of_none (h : cached? st.cache = none) : st.restore = (st, false) := by
  simp [restore, h]

theorem restore_eq_iff : st.restore = (st.replace g, true) ↔ cached? st.cache = some g := by
  refine ⟨fun h => ?_, restore_of_cached?⟩
  cases hc : cached? st.cache with
  | none => simp [restore_of_none hc] at h
  | some g' =>
    rw [restore_of_cached? hc] at h
    exact congrArg (fun r => some r.1.graph) h

/-- A cache gives the graph of a whole document. -/
theorem cached?_eq_some_iff {cache : Cache} : cached? cache = some g ↔
    ∃ entry n, cache.read Cache.graphKey = .ok (some entry) ∧ Json.ofText? entry.value = some n ∧
      n.IsGraph ∧ g.Mirrors n := by
  unfold cached?
  split
  · next entry hread =>
    rw [hread]
    simp [Graph.ofText?, Option.bind_eq_some_iff, Graph.ofNode?_eq_some_iff]
  · next hread =>
    simp only [reduceCtorEq, false_iff]
    rintro ⟨entry, -, h, -⟩
    exact hread entry h

end Store

open Json Node MetaResponse in
/-- A document is that of a graph when it is an object of objects of lists of texts throughout, and
else it is refused; the graph mirrors the document: under each name it has what stands there last,
and each list as it is written. So what a store takes from its cache, and what a refresh takes over
from an answer, is the graph of a whole document of that shape. An object is an answer for the graph
when its flag is a truth value and its graph is one or `null`, as far as they are there, and neither
stands twice; it brings a graph if the flag is the literal `true` and it carries that graph. -/
theorem graph_documents :
    (∀ s n, Json.ofText? s = some n →
      ((∃ g, Graph.ofText? s = some g) ↔ n.IsGraph) ∧
      (∀ g, Graph.ofText? s = some g ↔ n.IsGraph ∧ g.Mirrors n) ∧
      ∀ members, n = .object members →
        ((∃ r, MetaResponse.ofText? s = some r) ↔ WellFormed members) ∧
        (∀ g, (∃ r, MetaResponse.ofText? s = some r ∧ r.graph? = some g) ↔
          WellFormed members ∧ valueOf members "ok" = some (.bool true) ∧
            ∃ v, valueOf members "transitions" = some v ∧ v.IsGraph ∧ g.Mirrors v) ∧
        ∀ r, MetaResponse.ofText? s = some r →
          (valueOf members "ok" = none ∨ valueOf members "ok" = some (.bool false) ∨
            valueOf members "transitions" = none ∨ valueOf members "transitions" = some .null) →
          r.graph? = none) ∧
    (∀ st : Store,
      (∀ g, st.restore = (st.replace g, true) ↔
        ∃ entry n, st.cache.read Cache.graphKey = .ok (some entry) ∧
          Json.ofText? entry.value = some n ∧ n.IsGraph ∧ g.Mirrors n) ∧
      ((∃ g, st.restore = (st.replace g, true)) ∨ st.restore = (st, false))) ∧
    ∀ u answer g, Refresh.answered (Client.readTransitions u answer) = .adopt g →
      ∃ status body n, answer = .whole status body ∧ Json.ofBytes? body = some n ∧
        ∃ v ∈ n.parts, (v.IsGraph ∧ g.Mirrors v) ∧ ∀ members, n = .object members →
          valueOf members "ok" = some (.bool true) ∧ valueOf members "transitions" = some v := by
  refine ⟨fun s n hs => ?_, fun st => ?_, fun u answer g h => ?_⟩
  · have hgraph : Graph.ofText? s = Graph.ofNode? n := by simp [Graph.ofText?, hs]
    have hmeta : MetaResponse.ofText? s = MetaResponse.ofNode? n := by
      simp [MetaResponse.ofText?, hs]
    rw [hgraph, hmeta]
    refine ⟨Graph.exists_ofNode?_iff, fun g => Graph.ofNode?_eq_some_iff, ?_⟩
    rintro members rfl
    refine ⟨exists_ofNode?_iff, fun g => exists_graph?_iff, fun r hr hnone => ?_⟩
    refine Option.eq_none_iff_forall_ne_some.mpr fun g hg => ?_
    obtain ⟨-, hok, v, hv, hshape, -⟩ := exists_graph?_iff.mp ⟨r, hr, hg⟩
    rcases hnone with h | h | h | h
    · simp [hok] at h
    · simp [hok] at h
    · simp [hv] at h
    · obtain rfl := Option.some.inj (hv.symm.trans h)
      exact hshape
  · refine ⟨fun g => Store.restore_eq_iff.trans Store.cached?_eq_some_iff, ?_⟩
    cases hc : Store.cached? st.cache with
    | none => exact Or.inr (Store.restore_of_none hc)
    | some g => exact Or.inl ⟨g, Store.restore_of_cached? hc⟩
  · obtain ⟨status, body, r, rfl, hr, hg⟩ := Refresh.body_of_adopt h
    obtain ⟨n, hn, hr⟩ := Option.bind_eq_some_iff.mp hr
    exact ⟨status, body, n, rfl, hn, exists_mirrored hr hg⟩

example : MetaResponse.ofText? "\x7b\"ok\":\"true\"\x7d" = none := by cbv

example : SetResponse.ofText? "\x7b\"ok\":\"true\"\x7d" = some { } := by cbv

namespace Graph
open Json Node

/-- A scope that stands twice, and in the second place a state that does. -/
def doubled : String :=
  "\x7b\"order\":\x7b\"open\":[\"process\"]\x7d,\"order\":\x7b\"done\":[\"cancel\"]," ++
    "\"done\":[\"reopen\",\"cancel\"]\x7d\x7d"

/-- The members of `doubled`. -/
def doubledMembers : List (Option String × Node) :=
  [(some "order", .object [(some "open", .array [.string (some "process")])]),
    (some "order", .object [(some "done", .array [.string (some "cancel")]),
      (some "done", .array [.string (some "reopen"), .string (some "cancel")])])]

/-- An answer that carries a graph without scopes. -/
def bare : String := "\x7b\"ok\":true,\"transitions\":\x7b\x7d\x7d"

theorem graph_documents_doubled :
    Json.ofText? doubled = some (.object doubledMembers) ∧
      (∃ g, ofText? doubled = some g ∧ g.Mirrors (.object doubledMembers)) ∧
      ∃ n v, Json.ofBytes? (bytes bare.toList) = some n ∧ v ∈ n.parts ∧ v.IsGraph ∧
        empty.Mirrors v := by
  obtain ⟨hdocuments, -, hadopt⟩ := graph_documents
  have hs : Json.ofText? doubled = some (.object doubledMembers) := by cbv
  have hshape : (Node.object doubledMembers).IsGraph := by
    simp only [IsGraph, IsRecordOf, doubledMembers, List.forall_mem_cons]
    simp [IsTexts]
  obtain ⟨hread, hmirrors, -⟩ := hdocuments _ _ hs
  obtain ⟨g, hg⟩ := hread.mpr hshape
  have hfetched : Refresh.answered (Client.readTransitions ⟨"http", none, .names [], none, none⟩
      (.whole 200 (bytes bare.toList))) = .adopt empty := by cbv
  obtain ⟨_, _, n, ⟨⟩, hn, v, hv, hshape, -⟩ := hadopt _ _ _ hfetched
  exact ⟨hs, ⟨g, hg, ((hmirrors g).mp hg).2⟩, n, v, hn, hv, hshape⟩

end Graph

end OrderDesk
