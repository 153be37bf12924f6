import OrderDesk.Proofs.Documents

/-! What a graph answers after a change of it. A state of exactly the spelling that is asked for
goes before all others, and of those that differ in letter case alone the first one counts, in the
order of bytes; so neither the order in which a graph was put together nor that of the members of
its document has a part in any answer. -/
namespace OrderDesk
open Text

namespace Text

/-- The bytes of a character come before those of a later one, whatever follows them. -/
theorem utf8EncodeChar_append_lt {c d : Char} (h : c < d) (x y : List UInt8) :
    String.utf8EncodeChar c ++ x < String.utf8EncodeChar d ++ y := by
  have hlt : c.val.toNat < d.val.toNat := h
  have hbound : d.val.toNat < 0x110000 := d.valid.elim (by omega) (by omega)
  -- one division after another, by which the bytes of one length are told apart
  have hsplit : ∀ v : Nat, v / 4096 = v / 64 / 64 ∧ v / 262144 = v / 64 / 64 / 64 := fun v => by
    omega
  simp only [String.utf8EncodeChar, (hsplit _).1, (hsplit _).2]
  split_ifs <;> first | omega | skip
  all_goals
    simp only [List.cons_append, List.nil_append, List.cons_lt_cons_iff, UInt8.lt_iff_toNat_lt,
      ← UInt8.toNat_inj, UInt8.toNat_ofNat']
    omega

theorem bytes_cons (c : Char) (s : List Char) :
    bytes (c :: s) = String.utf8EncodeChar c ++ bytes s := rfl

theorem bytes_lt_bytes {s t : List Char} (h : s < t) : bytes s < bytes t := by
  induction h with
  | nil =>
    rw [bytes_cons, String.utf8EncodeChar]
    split_ifs <;> exact List.nil_lt_cons _ _
  | cons _ ih => exact List.append_left_lt ih
  | rel h => exact utf8EncodeChar_append_lt h _ _

/-- Texts stand in the order of their bytes. -/
theorem lt_iff_bytes_lt {s t : String} : s < t ↔ bytes s.toList < bytes t.toList := by
  rw [String.lt_iff_toList_lt]
  refine ⟨bytes_lt_bytes, fun h => ?_⟩
  rcases lt_trichotomy s.toList t.toList with hlt | heq | hgt
  · exact hlt
  · exact absurd (heq ▸ h) (List.lt_irrefl _)
  · exact absurd (bytes_lt_bytes hgt) (List.lt_asymm h)

theorem LowerCase.small_ne_nil (c : Char) : small c ≠ [] := by
  simp only [small]
  split_ifs <;> simp

theorem lowerCase_eq_empty_iff {s : String} : lowerCase s = "" ↔ s = "" := by
  constructor
  · intro h
    have hsmall : LowerCase.smallFrom [] s.toList = [] := by
      simpa [lowerCase, ← String.toList_inj] using h
    rw [← String.toList_inj]
    cases hs : s.toList with
    | nil => rfl
    | cons c rest =>
      simp only [hs, LowerCase.smallFrom, List.append_eq_nil_iff] at hsmall
      have hfirst := hsmall.1
      split_ifs at hfirst
      exact absurd hfirst (LowerCase.small_ne_nil c)
  · rintro rfl
    rfl

namespace Dict

variable {α : Type} {d d' : Dict α} {k : String} {v : α} {p : String → Bool}

theorem insert_insert (d : Dict α) (k : String) (v w : α) :
    (d.insert k v).insert k w = d.insert k w := by
  refine ext_get? fun j => ?_
  simp only [get?_insert_ite]
  split_ifs <;> rfl

theorem insert_comm (d : Dict α) {j k : String} (h : j ≠ k) (v w : α) :
    (d.insert j v).insert k w = (d.insert k w).insert j v := by
  refine ext_get? fun i => ?_
  simp only [get?_insert_ite]
  split_ifs with hk hj
  · exact absurd (hj.trans hk.symm) h
  all_goals rfl

/-- Entries of different keys make up the same map in any order. -/
theorem ofList_perm {es es' : List (String × α)} (h : es.Perm es')
    (hkeys : (es.map (·.1)).Nodup) : ofList es = ofList es' := by
  refine h.foldl_eq' (fun e he f hf d => ?_) _
  by_cases hef : e.1 = f.1
  · rw [List.inj_on_of_nodup_map hkeys he hf hef]
  · exact insert_comm d hef _ _

theorem of_find?_entries (h : d.entries.find? (fun e => p e.1) = some (k, v)) :
    d.get? k = some v ∧ p k = true ∧ ∀ j w, d.get? j = some w → p j = true → k = j ∨ k < j := by
  obtain ⟨hp, front, back, hentries, hfront⟩ := List.find?_eq_some_iff_append.mp h
  refine ⟨get?_eq_some_iff.mpr (List.mem_of_find?_eq_some h), hp, fun j w hj hpj => ?_⟩
  have hordered := d.ordered
  rw [hentries] at hordered
  rw [get?_eq_some_iff, hentries, List.mem_append, List.mem_cons] at hj
  rcases hj with hj | hj | hj
  · exact absurd hpj (by simpa using hfront _ hj)
  · exact Or.inl (congrArg Prod.fst hj).symm
  · exact Or.inr ((List.pairwise_cons.mp (List.pairwise_append.mp hordered).2.1).1 _ hj)

/-- The first entry of a kind is the one with the least key of that kind. -/
theorem find?_entries_eq_some_iff :
    d.entries.find? (fun e => p e.1) = some (k, v) ↔
      d.get? k = some v ∧ p k = true ∧ ∀ j w, d.get? j = some w → p j = true → k = j ∨ k < j := by
  refine ⟨of_find?_entries, fun ⟨hk, hp, hleast⟩ => ?_⟩
  obtain ⟨⟨j, w⟩, hj⟩ : ∃ e, d.entries.find? (fun e => p e.1) = some e :=
    Option.isSome_iff_exists.mp (List.find?_isSome.mpr ⟨(k, v), get?_eq_some_iff.mp hk, hp⟩)
  obtain ⟨hget, hpj, hleast'⟩ := of_find?_entries hj
  have hjk : j = k := by
    rcases hleast' k v hk hp, hleast j w hget hpj with ⟨h | h, h' | h'⟩
    · exact h
    · exact h
    · exact h'.symm
    · exact absurd (String.lt_trans h h') (String.lt_irrefl _)
  subst hjk
  rw [hj, Option.some.inj (hget.symm.trans hk)]

end Dict
end Text

theorem Scope.name_inj {c d : Scope} : c.name = d.name ↔ c = d := by
  cases c <;> cases d <;> decide

namespace Graph

variable {g : Graph} {c d : Scope} {s q q' : String} {a b : List String}

theorem states_withActions (g : Graph) (c d : Scope) (s : String) (a : List String) :
    (g.withActions c s a).states d = if c = d then (g.states c).insert s a else g.states d := by
  simp only [states, withActions, Dict.get?_insert_ite, Scope.name_inj]
  split_ifs <;> rfl

/-- The key that a state is looked up under if no key has its own spelling: the first one, in the
order of bytes, of those that differ from it in letter case alone. -/
def IsLike (known : String → Prop) (q k : String) : Prop :=
  (known k ∧ lowerCase k = lowerCase q) ∧
    ∀ j, known j → lowerCase j = lowerCase q → k = j ∨ bytes k.toList < bytes j.toList

theorem likeState?_eq_some_iff {states : States} : likeState? states q = some a ↔
    ∃ k, IsLike (fun j => (states.get? j).isSome = true) q k ∧ states.get? k = some a := by
  simp only [likeState?, Option.map_eq_some_iff, Prod.exists, exists_eq_right]
  refine exists_congr fun k => ?_
  rw [Dict.find?_entries_eq_some_iff (p := fun j => lowerCase j == lowerCase q)]
  simp only [IsLike, beq_iff_eq, lt_iff_bytes_lt, Option.isSome_iff_exists, forall_exists_index]
  constructor
  · rintro ⟨hk, hlike, hleast⟩
    exact ⟨⟨⟨⟨a, hk⟩, hlike⟩, hleast⟩, hk⟩
  · rintro ⟨⟨⟨-, hlike⟩, hleast⟩, hk⟩
    exact ⟨hk, hlike, hleast⟩

/-- Of the known keys of one small form there is a first one. -/
theorem exists_isLike {states : States} (h : (states.get? s).isSome = true)
    (hlike : lowerCase s = lowerCase q) :
    ∃ k, IsLike (fun j => (states.get? j).isSome = true) q k := by
  obtain ⟨a, ha⟩ := Option.isSome_iff_exists.mp h
  have hfound : (likeState? states q).isSome = true := by
    simp only [likeState?, Option.isSome_map, List.find?_isSome]
    exact ⟨(s, a), Dict.get?_eq_some_iff.mp ha, by simpa using hlike⟩
  obtain ⟨b, hb⟩ := Option.isSome_iff_exists.mp hfound
  obtain ⟨k, hk, -⟩ := likeState?_eq_some_iff.mp hb
  exact ⟨k, hk⟩

/-- A state of exactly the spelling goes before one of another letter case, and the empty one is
like no other. -/
theorem actionsFor_eq (g : Graph) (d : Scope) (q : String) : g.actionsFor d q =
    (((g.states d).get? q).or (likeState? (g.states d) q)).getD [] := by
  cases hq : (g.states d).get? q with
  | some actions => simp [actionsFor, hq]
  | none =>
    simp only [actionsFor, hq, Option.none_or]
    split
    · next hempty =>
      obtain rfl : q = "" := String.isEmpty_iff.mp hempty
      cases hlike : likeState? (g.states d) "" with
      | none => rfl
      | some a =>
        obtain ⟨k, hk, hget⟩ := likeState?_eq_some_iff.mp hlike
        obtain rfl : k = "" := lowerCase_eq_empty_iff.mp hk.1.2
        simp [hq] at hget
    · rfl

/-- A state that is no key has the actions of the first one that is like it. -/
theorem actionsFor_of_isLike {k : String} (hq : (g.states d).get? q = none)
    (hk : IsLike (fun j => ((g.states d).get? j).isSome = true) q k) :
    g.actionsFor d q = ((g.states d).get? k).getD [] := by
  obtain ⟨a, ha⟩ := Option.isSome_iff_exists.mp hk.1.1
  rw [actionsFor_eq, hq, Option.none_or, likeState?_eq_some_iff.mpr ⟨k, hk, ha⟩, ha]

theorem actionsFor_congr {g' : Graph} (h : g'.states d = g.states d) :
    g'.actionsFor d q = g.actionsFor d q := by
  rw [actionsFor_eq, actionsFor_eq, h]

/-- What is found for a state depends on the keys that are like it alone. -/
theorem likeState?_congr {states states' : States}
    (h : ∀ k, lowerCase k = lowerCase q → states'.get? k = states.get? k) :
    likeState? states' q = likeState? states q := by
  refine Option.ext fun a => ?_
  rw [likeState?_eq_some_iff, likeState?_eq_some_iff]
  refine exists_congr fun k => ?_
  simp only [IsLike]
  constructor
  · rintro ⟨⟨⟨hk, hlike⟩, hleast⟩, ha⟩
    rw [h k hlike] at hk ha
    exact ⟨⟨⟨hk, hlike⟩, fun j hj hjlike => hleast j (by rwa [h j hjlike]) hjlike⟩, ha⟩
  · rintro ⟨⟨⟨hk, hlike⟩, hleast⟩, ha⟩
    rw [← h k hlike] at hk ha
    exact ⟨⟨⟨hk, hlike⟩, fun j hj hjlike => hleast j (by rwa [← h j hjlike]) hjlike⟩, ha⟩

theorem actionsFor_withActions_self (g : Graph) (c : Scope) (s : String) (a : List String) :
    (g.withActions c s a).actionsFor c s = a := by
  rw [actionsFor_eq, states_withActions, if_pos rfl, Dict.get?_insert]
  rfl

theorem withActions_comm (g : Graph) (h : (c, s) ≠ (d, q)) (a b : List String) :
    (g.withActions c s a).withActions d q b = (g.withActions d q b).withActions c s a := by
  by_cases hcd : c = d
  · subst hcd
    have hsq : s ≠ q := fun he => h (by rw [he])
    have ha := states_withActions g c c s a
    have hb := states_withActions g c c q b
    rw [if_pos rfl] at ha hb
    rw [withActions, ha, withActions, Dict.insert_insert, Dict.insert_comm _ hsq, withActions, hb,
      withActions, Dict.insert_insert]
  · have ha := states_withActions g c d s a
    have hb := states_withActions g d c q b
    rw [if_neg hcd] at ha
    rw [if_neg (Ne.symm hcd)] at hb
    rw [withActions, ha, withActions, Dict.insert_comm _ (Scope.name_inj.not.mpr hcd), withActions,
      hb, withActions]

theorem withActions_withActions (g : Graph) (c : Scope) (s : String) (a b : List String) :
    (g.withActions c s a).withActions c s b = g.withActions c s b := by
  have hstates := states_withActions g c c s a
  rw [withActions, hstates, if_pos rfl, Dict.insert_insert, withActions, Dict.insert_insert]
  rfl

/-- A change leaves the other scopes, the other states that are keys, and the states of another
small form. -/
theorem actionsFor_withActions_of_apart (h : ¬(d = c ∧ q = s))
    (hother : d ≠ c ∨ ((g.states c).get? q).isSome = true ∨ lowerCase q ≠ lowerCase s) :
    (g.withActions c s a).actionsFor d q = g.actionsFor d q := by
  by_cases hdc : d = c
  · subst hdc
    have hqs : q ≠ s := fun hqs => h ⟨rfl, hqs⟩
    have hget : ((g.states d).insert s a).get? q = (g.states d).get? q :=
      Dict.get?_insert_of_ne _ hqs a
    rw [actionsFor_eq, actionsFor_eq, states_withActions, if_pos rfl, hget]
    rcases hother with hne | hkey | hform
    · exact absurd rfl hne
    · obtain ⟨b, hb⟩ := Option.isSome_iff_exists.mp hkey
      rw [hb, Option.some_or, Option.some_or]
    · have hlike : likeState? ((g.states d).insert s a) q = likeState? (g.states d) q :=
        likeState?_congr fun k hk => by
          have hks : k ≠ s := fun hks => hform (hks ▸ hk).symm
          exact Dict.get?_insert_of_ne _ hks a
      rw [hlike]
  · refine actionsFor_congr ?_
    rw [states_withActions, if_neg (Ne.symm hdc)]

/-- A state that is no key is answered from the first key that is like it, the changed one among
them. -/
theorem actionsFor_withActions_of_like (hqs : q ≠ s) (hq : (g.states c).get? q = none)
    (hform : lowerCase q = lowerCase s) :
    ∃ k, IsLike (fun j => j = s ∨ ((g.states c).get? j).isSome = true) q k ∧
      (g.withActions c s a).actionsFor c q =
        if k = s then a else ((g.states c).get? k).getD [] := by
  have hstates : (g.withActions c s a).states c = (g.states c).insert s a := by
    rw [states_withActions, if_pos rfl]
  have hknown : (fun j => (((g.withActions c s a).states c).get? j).isSome = true) =
      fun j => j = s ∨ ((g.states c).get? j).isSome = true := by
    funext j
    rw [hstates, Dict.get?_insert_ite]
    by_cases hj : s = j
    · simp [hj]
    · simp [hj, Ne.symm hj]
  have hs : (((g.withActions c s a).states c).get? s).isSome = true := by
    rw [hstates, Dict.get?_insert]
    rfl
  obtain ⟨k, hk⟩ := exists_isLike hs hform.symm
  have hnone : ((g.withActions c s a).states c).get? q = none := by
    rw [hstates, Dict.get?_insert_of_ne _ hqs, hq]
  refine ⟨k, hknown ▸ hk, ?_⟩
  rw [actionsFor_of_isLike hnone hk, hstates, Dict.get?_insert_ite]
  by_cases hks : k = s
  · simp [hks]
  · simp [hks, Ne.symm hks]

theorem actionsFor_eq_of_absent (hq : (g.states d).get? q = none)
    (hq' : (g.states d).get? q' = none) (h : lowerCase q = lowerCase q') :
    g.actionsFor d q = g.actionsFor d q' := by
  simp only [actionsFor_eq, hq, hq', likeState?, h]

end Graph

namespace Json.Node

variable {α : Type} {n n' : Node} {read : Node → Option α}
  {members members' : List (Option String × Node)} {rows : List (String × α)}

/-- Two documents that differ in the order of the members of their objects alone. -/
inductive Reorders : Node → Node → Prop
  | same (n : Node) : Reorders n n
  | array (items : List (Node × Node)) (h : ∀ v ∈ items, Reorders v.1 v.2) :
      Reorders (.array (items.map (·.1))) (.array (items.map (·.2)))
  | object (members : List (Option String × Node × Node)) (h : ∀ m ∈ members, Reorders m.2.1 m.2.2)
      {permuted : List (Option String × Node)}
      (hp : (members.map fun m => (m.1, m.2.2)).Perm permuted) :
      Reorders (.object (members.map fun m => (m.1, m.2.1))) (.object permuted)

/-- No name stands twice in one object. -/
def IsDistinct (n : Node) : Prop :=
  ∀ members, .object members ∈ n.parts → ∀ name : String, (members.map (·.1)).count (some name) ≤ 1

theorem mapM_congr {β γ : Type} {f g : β → Option γ} {xs : List β} (h : ∀ x ∈ xs, f x = g x) :
    xs.mapM f = xs.mapM g := by
  induction xs with
  | nil => rfl
  | cons x xs ih => simp [h x, ih fun y hy => h y (List.mem_cons_of_mem x hy)]

theorem eq_filterMap_of_mapM {β γ : Type} {f : β → Option γ} {xs : List β} {ys : List γ}
    (h : xs.mapM f = some ys) : ys = xs.filterMap f := by
  have hread := forall₂_of_mapM h
  clear h
  induction hread with
  | nil => rfl
  | cons hy _ ih => rw [List.filterMap_cons_some hy, ← ih]

theorem names_of_rows (h : members.mapM (rowOf? read) = some rows) :
    members.map (·.1) = (rows.map (·.1)).map some := by
  have hrows := forall₂_of_mapM h
  clear h
  induction hrows with
  | nil => rfl
  | cons hrow _ ih =>
    rw [List.map_cons, ih, (rowOf?_eq_some_iff.mp hrow).1]
    rfl

/-- The members of an object without repeated names make up the same map in any order. -/
theorem map_ofList_perm (hp : members.Perm members')
    (hone : ∀ name : String, (members.map (·.1)).count (some name) ≤ 1) :
    (members.mapM (rowOf? read)).map Dict.ofList =
      (members'.mapM (rowOf? read)).map Dict.ofList := by
  have hall : (∃ rows, members.mapM (rowOf? read) = some rows) ↔
      ∃ rows, members'.mapM (rowOf? read) = some rows := by
    simp only [exists_mapM_iff, hp.mem_iff]
  cases h : members.mapM (rowOf? read) with
  | none =>
    cases h' : members'.mapM (rowOf? read) with
    | none => rfl
    | some rows => simp [h, h'] at hall
  | some rows =>
    obtain ⟨rows', h'⟩ := hall.mp ⟨rows, h⟩
    have hkeys : (rows.map (·.1)).Nodup := by
      refine List.nodup_iff_count_le_one.mpr fun name => ?_
      rw [← List.count_map_of_injective _ some (Option.some_injective _), ← names_of_rows h]
      exact hone name
    have hrows : rows.Perm rows' := by
      rw [eq_filterMap_of_mapM h, eq_filterMap_of_mapM h']
      exact hp.filterMap _
    rw [h', Option.map_some, Option.map_some, Dict.ofList_perm hrows hkeys]

theorem Reorders.map_ofList (h : Reorders n n') (hn : n.IsDistinct)
    (hread : ∀ v v', Reorders v v' → v.IsDistinct → read v = read v') :
    (n.rowsOf? read).map Dict.ofList = (n'.rowsOf? read).map Dict.ofList := by
  cases h with
  | same => rfl
  | array => rfl
  | object members hvalues hp =>
    have hrow : ∀ m ∈ members, rowOf? read (m.1, m.2.1) = rowOf? read (m.1, m.2.2) := by
      intro m hm
      have hpart : ∀ p ∈ m.2.1.parts, p ∈ (Node.object (members.map fun m => (m.1, m.2.1))).parts :=
        fun p hp => List.mem_cons_of_mem _
          ((value_bounds (List.mem_map.mpr ⟨m, hm, rfl⟩)).2 p hp)
      have hdistinct : m.2.1.IsDistinct := fun ms hms => hn ms (hpart _ hms)
      simp only [rowOf?, hread _ _ (hvalues m hm) hdistinct]
    have hone := hn _ (self_mem_parts _)
    have hnames : (members.map fun m => (m.1, m.2.1)).map (·.1) =
        (members.map fun m => (m.1, m.2.2)).map (·.1) := by
      rw [List.map_map, List.map_map]
      rfl
    rw [hnames] at hone
    rw [rowsOf?, rowsOf?, ← map_ofList_perm hp hone, List.mapM_map, List.mapM_map]
    exact congrArg _ (mapM_congr hrow)

theorem Reorders.text?_eq (h : Reorders n n') : n.text? = n'.text? := by
  cases h <;> rfl

theorem Reorders.actionsOf?_eq (h : Reorders n n') : Graph.actionsOf? n = Graph.actionsOf? n' := by
  cases h with
  | same => rfl
  | object => rfl
  | array items hitems =>
    have htexts : ∀ v ∈ items, text? v.1 = text? v.2 := fun v hv => (hitems v hv).text?_eq
    show (items.map (·.1)).mapM text? = (items.map (·.2)).mapM text?
    rw [List.mapM_map, List.mapM_map]
    exact mapM_congr htexts

/-- Documents that differ in the order of their members alone are of the same graph, if no name
stands twice. -/
theorem Reorders.graph_eq (h : Reorders n n') (hn : n.IsDistinct) :
    Graph.ofNode? n = Graph.ofNode? n' := by
  have hstates : ∀ v v', Reorders v v' → v.IsDistinct → Graph.statesOf? v = Graph.statesOf? v' := by
    intro v v' hv hdistinct
    rw [Graph.statesOf?_eq, Graph.statesOf?_eq]
    exact hv.map_ofList hdistinct fun _ _ ht _ => ht.actionsOf?_eq
  have hscopes := h.map_ofList hn hstates
  have hgraph : ∀ m : Node, Graph.ofNode? m =
      ((m.rowsOf? Graph.statesOf?).map Dict.ofList).map Graph.mk := fun m => by
    rw [Graph.ofNode?_eq, Option.map_map]
    rfl
  rw [hgraph, hgraph, hscopes]

end Json.Node

namespace Graph

/-- A look-up after a change. The changed state has its new actions; other scopes, other keys and
states of another small form answer as before; and a state that is no key is answered from the first
key that is like it, in the order of bytes, the changed one among them. So states of one small form
that are no keys answer alike, and nothing comes of asking for the empty state first. Changes of
different states commute, the last one of a state counts, and documents without repeated names that
differ in the order of their members alone are of the same graph. -/
theorem lookup_update :
    (∀ (g : Graph) c s a d q,
      (d = c ∧ q = s → (g.withActions c s a).actionsFor d q = a) ∧
      (¬(d = c ∧ q = s) →
        d ≠ c ∨ ((g.states c).get? q).isSome = true ∨ lowerCase q ≠ lowerCase s →
          (g.withActions c s a).actionsFor d q = g.actionsFor d q) ∧
      (q ≠ s → (g.states c).get? q = none → lowerCase q = lowerCase s →
        ∃ k, IsLike (fun j => j = s ∨ ((g.states c).get? j).isSome = true) q k ∧
          (g.withActions c s a).actionsFor c q =
            if k = s then a else ((g.states c).get? k).getD [])) ∧
    (∀ (g : Graph) d q q', (g.states d).get? q = none → (g.states d).get? q' = none →
      lowerCase q = lowerCase q' → g.actionsFor d q = g.actionsFor d q') ∧
    (∀ (g : Graph) d q,
      g.actionsFor d q = (((g.states d).get? q).or (likeState? (g.states d) q)).getD []) ∧
    (∀ (g : Graph) c s a d q b, (c, s) ≠ (d, q) →
      (g.withActions c s a).withActions d q b = (g.withActions d q b).withActions c s a) ∧
    (∀ (g : Graph) c s a b, (g.withActions c s a).withActions c s b = g.withActions c s b) ∧
    ∀ s s' n n', Json.ofText? s = some n → Json.ofText? s' = some n' → n.Reorders n' →
      n.IsDistinct → ofText? s = ofText? s' := by
  refine ⟨fun g c s a d q => ⟨?_, actionsFor_withActions_of_apart, actionsFor_withActions_of_like⟩,
    fun g d q q' => actionsFor_eq_of_absent, actionsFor_eq,
    fun g c s a d q b h => g.withActions_comm h a b, withActions_withActions, ?_⟩
  · rintro ⟨rfl, rfl⟩
    exact g.actionsFor_withActions_self d q a
  · intro s s' n n' hs hs' h hn
    simp only [ofText?, hs, hs', Option.bind_eq_bind, Option.bind_some, h.graph_eq hn]

/-- Two spellings of one state. -/
def spellings : Graph :=
  (empty.withActions .order "open" ["cancel"]).withActions .order "Open" ["complete"]

/-- Two scopes without states, by their names. -/
def bareScopes (first second : String) : Json.Node :=
  .object [(some first, .object []), (some second, .object [])]

theorem lookup_update_spellings :
    (∃ k, IsLike (fun j => j = "OPEN" ∨ ((spellings.states .order).get? j).isSome = true) "oPEN" k ∧
      (spellings.withActions .order "OPEN" ["process"]).actionsFor .order "oPEN" =
        if k = "OPEN" then ["process"] else ((spellings.states .order).get? k).getD []) ∧
    (spellings.withActions .order "OPEN" ["process"]).actionsFor .order "open" =
      spellings.actionsFor .order "open" ∧
    spellings.actionsFor .order "oPEN" = spellings.actionsFor .order "OPEN" ∧
    spellings =
      (empty.withActions .order "Open" ["complete"]).withActions .order "open" ["cancel"] ∧
    ofText? "\x7b\"order\":\x7b\x7d,\"delivery\":\x7b\x7d\x7d" =
      ofText? "\x7b\"delivery\":\x7b\x7d,\"order\":\x7b\x7d\x7d" := by
  obtain ⟨hchange, habsent, -, hcomm, -, horder⟩ := lookup_update
  obtain ⟨-, -, hlike⟩ := hchange spellings .order "OPEN" ["process"] .order "oPEN"
  obtain ⟨-, hapart, -⟩ := hchange spellings .order "OPEN" ["process"] .order "open"
  have hs : Json.ofText? "\x7b\"order\":\x7b\x7d,\"delivery\":\x7b\x7d\x7d" =
      some (bareScopes "order" "delivery") := by cbv
  have hs' : Json.ofText? "\x7b\"delivery\":\x7b\x7d,\"order\":\x7b\x7d\x7d" =
      some (bareScopes "delivery" "order") := by cbv
  have hreorders : (bareScopes "order" "delivery").Reorders (bareScopes "delivery" "order") :=
    .object [(some "order", .object [], .object []), (some "delivery", .object [], .object [])]
      (by simp [Json.Node.Reorders.same]) (List.Perm.swap _ _ _)
  have hdistinct : (bareScopes "order" "delivery").IsDistinct := by
    intro members hm name
    refine List.nodup_iff_count_le_one.mp ?_ _
    simp only [bareScopes, Json.Node.parts, Json.Node.membersParts, List.append_nil,
      List.mem_cons, List.cons_append, List.nil_append, List.not_mem_nil, or_false,
      Json.Node.object.injEq] at hm
    rcases hm with rfl | rfl | rfl <;> decide
  exact ⟨hlike (by decide) (by decide +kernel) (by decide +kernel),
    hapart (by decide) (Or.inr (Or.inl (by decide +kernel))),
    habsent _ _ _ _ (by decide +kernel) (by decide +kernel) (by decide +kernel),
    hcomm _ _ _ _ _ _ _ (by decide), horder _ _ _ _ hs hs' hreorders hdistinct⟩

example : (spellings.withActions .order "OPEN" ["process"]).actionsFor .order "oPEN" =
    ["process"] := by decide +kernel

end Graph
end OrderDesk
