import Mathlib
import OrderDesk.Message

/-! The answer to a change is read field by field. A part of a document that can be read, and in
which nothing stands for another document, is itself what is read; so each field of the answer is
taken from the value under its own name, and the rest of the document is of no consequence. -/
namespace OrderDesk
open Json

namespace Json.Node

mutual
/-- How deep arrays and objects nest. -/
def depth : Node → Nat
  | .array items => itemsDepth items + 1
  | .object members => membersDepth members + 1
  | _ => 0

/-- How deep the items of an array nest. -/
def itemsDepth : List Node → Nat
  | [] => 0
  | n :: rest => max (depth n) (itemsDepth rest)

/-- How deep the members of an object nest. -/
def membersDepth : List (Option String × Node) → Nat
  | [] => 0
  | (_, n) :: rest => max (depth n) (membersDepth rest)
end

mutual
/-- A node and all nodes that stand in it. -/
def parts : Node → List Node
  | .array items => .array items :: itemsParts items
  | .object members => .object members :: membersParts members
  | n => [n]

/-- The items of an array and all nodes that stand in them. -/
def itemsParts : List Node → List Node
  | [] => []
  | n :: rest => parts n ++ itemsParts rest

/-- The values of an object and all nodes that stand in them. -/
def membersParts : List (Option String × Node) → List Node
  | [] => []
  | (_, n) :: rest => parts n ++ membersParts rest
end

/-- A string that spells a text, a numeral that fits, an object whose names are texts, or any other
node. -/
def isLegible : Node → Bool
  | .string t => t.isSome
  | .number n => n.fits
  | .object members => members.all fun m => m.1.isSome
  | _ => true

/-- An object that stands for the document in its first member. -/
def standsIn : Node → Bool
  | .object ((name, _) :: _) => name == some documentName
  | _ => false

/-- A document that can be read as a value of any kind. -/
def IsReadable (n : Node) : Prop :=
  n.depth ≤ maxDepth ∧ ∀ p ∈ n.parts, p.isLegible = true

/-- No object in a node stands for a document. -/
def IsPlain (n : Node) : Prop := ∀ p ∈ n.parts, p.standsIn = false

instance (n : Node) : Decidable n.IsReadable :=
  inferInstanceAs (Decidable (_ ∧ _))

instance (n : Node) : Decidable n.IsPlain :=
  inferInstanceAs (Decidable (∀ _ ∈ _, _))

/-- A value that is neither an array nor an object. -/
def isScalar : Node → Bool
  | .array _ | .object _ => false
  | _ => true

variable {document : String → Option Node} {n v : Node} {name : Option String}
  {key : String} {room : Nat} {members : List (Option String × Node)}

theorem self_mem_parts (n : Node) : n ∈ n.parts := by
  cases n <;> simp [parts]

/-- The members of an object that stands for no document are read one by one. -/
theorem fullWith_object (hroom : 0 < room) (hplain : (object members).standsIn = false) :
    fullWith document room (.object members) =
      (fullMembers document (room - 1) members).map .object := by
  match members with
  | [] => simp [fullWith, fullMembers, hroom]
  | (name, v) :: rest =>
    have hname : name ≠ some documentName := by simpa [standsIn] using hplain
    have hroom : room ≠ 0 := by omega
    cases name with
    | none => simp [fullWith, fullMembers, hroom]
    | some name =>
      simp only [fullWith, fullMembers, hroom, hname, if_false]
      cases fullWith document (room - 1) v with
      | none => rfl
      | some v => cases fullMembers document (room - 1) rest <;> rfl

mutual
/-- A node that can be read and is plain is read as it stands. -/
theorem fullWith_plain : ∀ (n : Node) (room : Nat), n.depth ≤ room →
    (∀ p ∈ n.parts, p.isLegible = true) → n.IsPlain → fullWith document room n = some n
  | .null, _, _, _, _ => by simp [fullWith]
  | .bool b, _, _, _, _ => by simp [fullWith]
  | .number m, _, _, hlegible, _ => by
    have hfits : m.fits = true := hlegible _ (self_mem_parts _)
    simp [fullWith, hfits]
  | .string t, _, _, hlegible, _ => by
    have ht : t.isSome = true := hlegible _ (self_mem_parts _)
    obtain ⟨text, rfl⟩ := Option.isSome_iff_exists.mp ht
    simp [fullWith]
  | .array items, room, hdepth, hlegible, hplain => by
    simp only [depth] at hdepth
    have hroom : 0 < room := by omega
    have hitems := fullItems_plain items (room - 1) (by omega)
      (fun p hp => hlegible p (by simp [parts, hp])) (fun p hp => hplain p (by simp [parts, hp]))
    simp [fullWith, hroom, hitems]
  | .object members, room, hdepth, hlegible, hplain => by
    simp only [depth] at hdepth
    have hmembers := fullMembers_plain members (room - 1) (by omega)
      (hlegible _ (self_mem_parts _)) (fun p hp => hlegible p (by simp [parts, hp]))
      (fun p hp => hplain p (by simp [parts, hp]))
    rw [fullWith_object (by omega) (hplain _ (self_mem_parts _)), hmembers]
    rfl

theorem fullItems_plain : ∀ (items : List Node) (room : Nat), itemsDepth items ≤ room →
    (∀ p ∈ itemsParts items, p.isLegible = true) → (∀ p ∈ itemsParts items, p.standsIn = false) →
      fullItems document room items = some items
  | [], _, _, _, _ => by simp [fullItems]
  | n :: rest, room, hdepth, hlegible, hplain => by
    simp only [itemsDepth] at hdepth
    have hfirst := fullWith_plain n room (by omega)
      (fun p hp => hlegible p (by simp [itemsParts, hp]))
      (fun p hp => hplain p (by simp [itemsParts, hp]))
    have hrest := fullItems_plain rest room (by omega)
      (fun p hp => hlegible p (by simp [itemsParts, hp]))
      (fun p hp => hplain p (by simp [itemsParts, hp]))
    simp [fullItems, hfirst, hrest]

theorem fullMembers_plain : ∀ (members : List (Option String × Node)) (room : Nat),
    membersDepth members ≤ room → (members.all fun m => m.1.isSome) = true →
    (∀ p ∈ membersParts members, p.isLegible = true) →
    (∀ p ∈ membersParts members, p.standsIn = false) →
      fullMembers document room members = some members
  | [], _, _, _, _, _ => by simp [fullMembers]
  | (name, n) :: rest, room, hdepth, hnames, hlegible, hplain => by
    simp only [membersDepth] at hdepth
    simp only [List.all_cons, Bool.and_eq_true] at hnames
    obtain ⟨text, rfl⟩ := Option.isSome_iff_exists.mp hnames.1
    have hfirst := fullWith_plain n room (by omega)
      (fun p hp => hlegible p (by simp [membersParts, hp]))
      (fun p hp => hplain p (by simp [membersParts, hp]))
    have hrest := fullMembers_plain rest room (by omega) hnames.2
      (fun p hp => hlegible p (by simp [membersParts, hp]))
      (fun p hp => hplain p (by simp [membersParts, hp]))
    simp [fullMembers, hfirst, hrest]
end

/-- The value under a name. -/
def valueOf (members : List (Option String × Node)) (name : String) : Option Node :=
  (members.find? fun m => m.1 == some name).map (·.2)

/-- One of some names stands more than once in an object. -/
def Repeats (names : List String) (members : List (Option String × Node)) : Prop :=
  ∃ name ∈ names, 1 < (members.map (·.1)).count (some name)

instance (names : List String) (members : List (Option String × Node)) :
    Decidable (Repeats names members) :=
  inferInstanceAs (Decidable (∃ _ ∈ _, _))

theorem value_bounds (h : (name, v) ∈ members) :
    v.depth ≤ membersDepth members ∧ ∀ p ∈ v.parts, p ∈ membersParts members := by
  induction members with
  | nil => cases h
  | cons first rest ih =>
    rcases List.mem_cons.mp h with rfl | h
    · exact ⟨Nat.le_max_left _ _, fun p hp => List.mem_append_left _ hp⟩
    · obtain ⟨hdepth, hparts⟩ := ih h
      exact ⟨Nat.le_trans hdepth (Nat.le_max_right _ _),
        fun p hp => List.mem_append_right _ (hparts p hp)⟩

theorem mem_of_valueOf (h : valueOf members key = some v) : (some key, v) ∈ members := by
  obtain ⟨m, hm, rfl⟩ := Option.map_eq_some_iff.mp h
  have hname : m.1 = some key := by simpa using List.find?_some hm
  exact hname ▸ List.mem_of_find?_eq_some hm

/-- Where an object can be read, the value under a name can be read as a part of it, and it is read
as it stands if it is plain. -/
theorem full?_valueOf (h : (object members).IsReadable) (hv : valueOf members key = some v)
    (hplain : v.IsPlain) : v.full? = some v := by
  obtain ⟨hdepth, hparts⟩ := value_bounds (mem_of_valueOf hv)
  have hroom := h.1
  simp only [depth] at hroom
  exact fullWith_plain v _ (by omega) (fun p hp => h.2 p (by simp [parts, hparts p hp])) hplain

theorem namedMembers?_map (named : List (String × Node)) :
    namedMembers? (named.map fun m => (some m.1, m.2)) = some named := by
  induction named with
  | nil => rfl
  | cons m named ih => simp [namedMembers?, ih]

theorem exists_named (h : (members.all fun m => m.1.isSome) = true) :
    ∃ named : List (String × Node), members = named.map fun m => (some m.1, m.2) := by
  induction members with
  | nil => exact ⟨[], rfl⟩
  | cons m members ih =>
    simp only [List.all_cons, Bool.and_eq_true] at h
    obtain ⟨named, rfl⟩ := ih h.2
    obtain ⟨name, hname⟩ := Option.isSome_iff_exists.mp h.1
    exact ⟨(name, m.2) :: named, by simp [← hname]⟩

theorem namedMembers?_eq_none (h : ¬ (members.all fun m => m.1.isSome) = true) :
    namedMembers? members = none := by
  induction members with
  | nil => simp at h
  | cons m members ih =>
    obtain ⟨_ | name, v⟩ := m
    · rfl
    · simp [namedMembers?, ih (by simpa using h)]

/-- The fields of an object whose names are texts are the values under their names, if no name of a
field stands twice. -/
theorem fields?_object (hnames : (members.all fun m => m.1.isSome) = true) (names : List String) :
    (object members).fields? names = names.mapM fun name =>
      if 1 < (members.map (·.1)).count (some name) then none else some (valueOf members name) := by
  obtain ⟨named, rfl⟩ := exists_named hnames
  simp only [fields?, namedMembers?_map, Option.bind_eq_bind, Option.bind_some]
  congr 1
  funext name
  have hfind : valueOf (named.map fun m => (some m.1, m.2)) name =
      (named.filter fun m => m.1 == name).head?.map (·.2) := by
    rw [List.head?_filter]
    simp [valueOf, List.find?_map, Function.comp_def]
  have hcount : ((named.map fun m => (some m.1, m.2)).map (·.1)).count (some name) =
      (named.filter fun m => m.1 == name).length := by
    rw [List.map_map, List.count, List.countP_map, List.countP_eq_length_filter]
    simp [Function.comp_def]
  rw [hfind, hcount]
  generalize named.filter (fun m => m.1 == name) = row
  rcases row with _ | ⟨m, _ | ⟨m', rest⟩⟩ <;> simp

theorem mapM_of_forall {α β : Type} {f : α → Option β} {g : α → β} {xs : List α}
    (h : ∀ x ∈ xs, f x = some (g x)) : xs.mapM f = some (xs.map g) := by
  induction xs with
  | nil => rfl
  | cons x xs ih => simp [h x, ih fun y hy => h y (List.mem_cons_of_mem _ hy)]

theorem mapM_eq_none {α β : Type} {f : α → Option β} {x : α} {xs : List α} (hx : x ∈ xs)
    (h : f x = none) : xs.mapM f = none := by
  induction xs with
  | nil => cases hx
  | cons y ys ih =>
    rcases List.mem_cons.mp hx with rfl | hx
    · simp [h]
    · cases hy : f y <;> simp [hy, ih hx]

/-- A row in which each entry passes or fails the whole is the row of the results, if all pass. -/
theorem mapM_ite {α β : Type} (p : α → Bool) (f : α → β) (xs : List α) :
    (xs.mapM fun x => if p x then some (f x) else none) =
      if xs.all p then some (xs.map f) else none := by
  by_cases h : xs.all p = true
  · rw [if_pos h]
    exact mapM_of_forall fun x hx => if_pos (List.all_eq_true.mp h x hx)
  · obtain ⟨x, hx, hp⟩ : ∃ x ∈ xs, ¬ p x = true := by simpa using h
    rw [if_neg h]
    exact mapM_eq_none hx (if_neg hp)

/-- An object has the fields of some names if its names are texts and none of those names stands
twice. -/
theorem fields?_eq (names : List String) (members : List (Option String × Node)) :
    (object members).fields? names =
      if (members.all fun m => m.1.isSome) = true ∧ ¬ Repeats names members then
        some (names.map (valueOf members))
      else none := by
  by_cases hnames : (members.all fun m => m.1.isSome) = true
  · rw [fields?_object hnames]
    by_cases hrepeats : Repeats names members
    · obtain ⟨name, hname, hcount⟩ := id hrepeats
      rw [if_neg fun h => h.2 hrepeats]
      exact mapM_eq_none hname (if_pos hcount)
    · rw [if_pos ⟨hnames, hrepeats⟩]
      exact mapM_of_forall fun name hname => if_neg fun h => hrepeats ⟨name, hname, h⟩
  · rw [if_neg fun h => hnames h.1, fields?, namedMembers?_eq_none hnames]
    rfl

end Json.Node

namespace SetResponse
open Node

variable {s : String} {n : Node} {members : List (Option String × Node)} {r : SetResponse}
  {field field' : Option Node}

/-- Each field of an answer follows the value under its own name: the flag is up for the literal
`true` alone, and a text is there for a string alone. -/
structure Follows (value : String → Option Node) (r : SetResponse) : Prop where
  ok : r.ok = true ↔ value "ok" = some (.bool true)
  orderState : ∀ t, r.orderState = some t ↔ value "order_state" = some (.string (some t))
  paymentState : ∀ t, r.paymentState = some t ↔ value "payment_state" = some (.string (some t))
  shippingState : ∀ t, r.shippingState = some t ↔ value "shipping_state" = some (.string (some t))
  error : ∀ t, r.error = some t ↔ value "error" = some (.string (some t))

theorem lenientFlag_iff (field : Option Node) :
    lenientFlag field = true ↔ field = some (.bool true) := by
  rcases field with _ | _ | b | _ | _ | _ | _ <;> simp [lenientFlag, Node.bool?]

theorem lenientText_iff (field : Option Node) (t : String) :
    lenientText field = some t ↔ field = some (.string (some t)) := by
  rcases field with _ | _ | _ | _ | _ | _ | _ <;> simp [lenientText, Node.text?]

/-- The answer whose fields are taken from the values under their names. -/
def ofValues (value : String → Option Node) : SetResponse where
  ok := lenientFlag (value "ok")
  orderState := lenientText (value "order_state")
  paymentState := lenientText (value "payment_state")
  shippingState := lenientText (value "shipping_state")
  error := lenientText (value "error")

theorem ofValues_follows (value : String → Option Node) : (ofValues value).Follows value where
  ok := lenientFlag_iff _
  orderState := lenientText_iff _
  paymentState := lenientText_iff _
  shippingState := lenientText_iff _
  error := lenientText_iff _

theorem ofValues_congr {value value' : String → Option Node}
    (h : ∀ name ∈ fieldNames, value name = value' name) : ofValues value = ofValues value' := by
  simp [ofValues, fieldNames] at h ⊢
  simp [h]

/-- A field that is there has to be readable in full, and a missing one is left out. -/
theorem fullField?_eq (field : Option Node) : fullField? field =
    if field.all (·.full?.isSome) then some (field.bind Node.full?) else none := by
  cases field with
  | none => rfl
  | some v => cases h : v.full? <;> simp [fullField?, h]

/-- An object none of whose names repeats a known one is read from the values under the known
names, each for itself, if all of these can be read. -/
theorem ofNode?_object (hnames : (members.all fun m => m.1.isSome) = true)
    (hone : ¬ Repeats fieldNames members) : ofNode? (.object members) =
      if fieldNames.all fun name => (valueOf members name).all (·.full?.isSome) then
        some (ofValues fun name => (valueOf members name).bind Node.full?)
      else none := by
  have hfields := (fields?_eq fieldNames members).trans (if_pos ⟨hnames, hone⟩)
  simp only [ofNode?, hfields, Option.bind_eq_bind, Option.bind_some, funext fullField?_eq,
    mapM_ite, List.all_map, Function.comp_def]
  split <;> rfl

/-- A repeated name refuses the whole answer. -/
theorem ofNode?_repeats (h : Repeats fieldNames members) : ofNode? (.object members) = none := by
  simp [ofNode?, fields?_eq, h]

theorem ofNode?_scalar (h : n.isScalar = true) : ofNode? n = none := by
  cases n <;> simp_all [isScalar, ofNode?, fields?]

/-- The answer to a change is read field by field. An object all of whose parts can be read, and
in which no known name stands twice, is an answer just if each value under a known name can be read
in full, and then each field follows what the value under its own name is read as: the members
around it, their order and the other fields have no part in it. A plain value is read as it stands,
of whatever kind it is; so an object whose known values are plain is an answer. A known name that
stands twice, and a value that is no object and no array, are refused. -/
theorem field_tolerance (hs : Json.ofText? s = some n) :
    (∀ members, n = .object members → n.IsReadable → ¬ Repeats fieldNames members →
      ((ofText? s).isSome = true ↔
        ∀ name ∈ fieldNames, ∀ v, valueOf members name = some v → v.full?.isSome = true) ∧
      (∀ r, ofText? s = some r → r.Follows fun name => (valueOf members name).bind Node.full?) ∧
      ((∀ name ∈ fieldNames, ∀ v, valueOf members name = some v → v.IsPlain) →
        ∃ r, ofText? s = some r ∧ r.Follows (valueOf members))) ∧
    (∀ members, n = .object members → Repeats fieldNames members → ofText? s = none) ∧
    (n.isScalar = true → ofText? s = none) := by
  have hof : ofText? s = ofNode? n := by simp [ofText?, hs]
  rw [hof]
  refine ⟨?_, ?_, ofNode?_scalar⟩
  · rintro members rfl hreadable hone
    have hread := ofNode?_object (hreadable.2 _ (self_mem_parts _)) hone
    have hall : (fieldNames.all fun name => (valueOf members name).all (·.full?.isSome)) = true ↔
        ∀ name ∈ fieldNames, ∀ v, valueOf members name = some v → v.full?.isSome = true := by
      simp only [List.all_eq_true, Option.all_eq_true]
    refine ⟨?_, ?_, ?_⟩
    · rw [hread, ← hall]
      split <;> simp_all
    · intro r hr
      rw [hread] at hr
      split at hr
      · cases hr
        exact ofValues_follows _
      · cases hr
    · intro hplain
      have hfull : ∀ name ∈ fieldNames, ∀ v, valueOf members name = some v → v.full? = some v :=
        fun name hname v hv => full?_valueOf hreadable hv (hplain name hname v hv)
      have hvalue : ∀ name ∈ fieldNames,
          (valueOf members name).bind Node.full? = valueOf members name := fun name hname => by
        cases hv : valueOf members name with
        | none => rfl
        | some v => exact hfull name hname v hv
      have hsome : ∀ name ∈ fieldNames, ∀ v, valueOf members name = some v →
          v.full?.isSome = true := fun name hname v hv => by simp [hfull name hname v hv]
      rw [hread, if_pos (hall.mpr hsome), ofValues_congr hvalue]
      exact ⟨_, rfl, ofValues_follows _⟩
  · rintro members rfl hrepeats
    exact ofNode?_repeats hrepeats

/-- Fields of other types than they should have, among members of other names. -/
def mistyped : String :=
  "\x7b\"x\":[1,\x7b\"ok\":false\x7d], \"error\":\x7b\"detail\":\"x\"\x7d,\"payment_state\":5," ++
    "\"order_state\":\"in_progress\",\"shipping_state\":null,\"ok\":true\x7d"

/-- The members of `mistyped`. -/
def mistypedMembers : List (Option String × Node) :=
  [(some "x", .array [.number ⟨[1], [], none⟩, .object [(some "ok", .bool false)]]),
    (some "error", .object [(some "detail", .string (some "x"))]),
    (some "payment_state", .number ⟨[5], [], none⟩),
    (some "order_state", .string (some "in_progress")),
    (some "shipping_state", .null), (some "ok", .bool true)]

theorem ofText?_mistyped : Json.ofText? mistyped = some (.object mistypedMembers) := by cbv

theorem field_tolerance_mistyped : Json.ofText? mistyped = some (.object mistypedMembers) ∧
    ∃ r, ofText? mistyped = some r ∧ r.Follows (valueOf mistypedMembers) := by
  have hreadable : (Node.object mistypedMembers).IsReadable := by decide +kernel
  have hone : ¬ Repeats fieldNames mistypedMembers := by decide
  have hplain : ∀ m ∈ mistypedMembers, m.2.IsPlain := by decide
  obtain ⟨-, -, hplainly⟩ := (field_tolerance ofText?_mistyped).1 _ rfl hreadable hone
  exact ⟨ofText?_mistyped, hplainly fun name _ v hv => hplain _ (mem_of_valueOf hv)⟩

/-- A state that is an object of one member, whose name is that of a document. -/
def standing : String :=
  "\x7b\"ok\":true,\"order_state\":\x7b\"$serde_json::private::RawValue\":1\x7d\x7d"

/-- The members of `standing`. -/
def standingMembers : List (Option String × Node) :=
  [(some "ok", .bool true),
    (some "order_state", .object [(some documentName, .number ⟨[1], [], none⟩)])]

/-- A value that can be read refuses the whole answer, for it is taken for a document. -/
theorem standing_refused : Json.ofText? standing = some (.object standingMembers) ∧
    (Node.object standingMembers).IsReadable ∧ ¬ Repeats fieldNames standingMembers ∧
      ofText? standing = none := by
  have hs : Json.ofText? standing = some (.object standingMembers) := by cbv
  have hreadable : (Node.object standingMembers).IsReadable := by decide +kernel
  have hone : ¬ Repeats fieldNames standingMembers := by decide
  refine ⟨hs, hreadable, hone, ?_⟩
  simp only [ofText?, hs, Option.bind_eq_bind, Option.bind_some]
  exact (ofNode?_object (by decide) hone).trans (if_neg (by decide))

end SetResponse
end OrderDesk
