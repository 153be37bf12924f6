/-!
Finite maps whose keys are texts, held in ascending order of their keys. The order is that of the
characters' code points, which is also the order of the texts' bytes. A map has one form, so two
maps with the same entries are equal.
-/
namespace OrderDesk.Text

/-- A finite map with texts as keys. -/
@[ext]
structure Dict (α : Type) where
  entries : List (String × α)
  ordered : entries.Pairwise fun a b => a.1 < b.1

namespace Dict
variable {α β : Type}

/-- Puts an entry in its place, which a former entry of its key leaves. -/
def place (k : String) (v : α) : List (String × α) → List (String × α)
  | [] => [(k, v)]
  | e :: rest =>
    if k < e.1 then (k, v) :: e :: rest
    else if e.1 < k then e :: place k v rest
    else (k, v) :: rest

theorem mem_place {k : String} {v : α} {e : String × α} {es : List (String × α)}
    (h : e ∈ place k v es) : e = (k, v) ∨ e ∈ es := by
  induction es with
  | nil => simp_all [place]
  | cons d rest ih =>
    unfold place at h
    split at h
    · simpa using h
    · split at h
      · obtain rfl | h := List.mem_cons.1 h
        · simp
        · obtain h | h := ih h <;> simp [h]
      · obtain h | h := List.mem_cons.1 h <;> simp [h]

theorem place_ordered (k : String) (v : α) {es : List (String × α)}
    (h : es.Pairwise fun a b => a.1 < b.1) :
    (place k v es).Pairwise fun a b => a.1 < b.1 := by
  induction es with
  | nil => simp [place]
  | cons d rest ih =>
    obtain ⟨hd, hr⟩ := List.pairwise_cons.1 h
    unfold place
    split
    · rename_i hk
      refine List.pairwise_cons.2 ⟨fun e he => ?_, h⟩
      obtain rfl | he := List.mem_cons.1 he
      · exact hk
      · exact String.lt_trans hk (hd e he)
    · split
      · rename_i hk
        refine List.pairwise_cons.2 ⟨fun e he => ?_, ih hr⟩
        obtain rfl | he := mem_place he
        · exact hk
        · exact hd e he
      · rename_i h1 h2
        have : k = d.1 := String.le_antisymm (String.not_lt.1 h2) (String.not_lt.1 h1)
        exact List.pairwise_cons.2 ⟨fun e he => this ▸ hd e he, hr⟩

/-- The map without entries. -/
def empty : Dict α := ⟨[], .nil⟩

instance : Inhabited (Dict α) := ⟨empty⟩

instance [DecidableEq α] : DecidableEq (Dict α) := fun a b =>
  decidable_of_iff (a.entries = b.entries) Dict.ext_iff.symm

/-- Gives the key a value in place of any former one. -/
def insert (d : Dict α) (k : String) (v : α) : Dict α :=
  ⟨place k v d.entries, place_ordered k v d.ordered⟩

/-- The value of a key. -/
def get? (d : Dict α) (k : String) : Option α :=
  (d.entries.find? fun e => e.1 == k).map (·.2)

/-- The map with the given entries, in which a later entry of a key replaces an earlier one. -/
def ofList (es : List (String × α)) : Dict α :=
  es.foldl (fun d e => d.insert e.1 e.2) empty

/-- What comes after all entries is put at the end. -/
theorem place_last {k : String} {es : List (String × α)} (h : ∀ e ∈ es, e.1 < k) (v : α) :
    place k v es = es ++ [(k, v)] := by
  induction es with
  | nil => rfl
  | cons e es ih =>
    have hlt := h e List.mem_cons_self
    have hnot : ¬ k < e.1 := fun hk => String.lt_irrefl k (String.lt_trans hk hlt)
    simp [place, hnot, hlt, ih fun f hf => h f (List.mem_cons_of_mem e hf)]

theorem find?_place (k : String) (v : α) (es : List (String × α)) :
    (place k v es).find? (fun e => e.1 == k) = some (k, v) := by
  induction es with
  | nil => simp [place]
  | cons e es ih =>
    unfold place
    split
    · simp
    · split
      · next hlt =>
        have hne : e.1 ≠ k := fun he => String.lt_irrefl k (he ▸ hlt)
        simp [hne, ih]
      · simp

/-- What was put in under a key is found under it. -/
theorem get?_insert (d : Dict α) (k : String) (v : α) : (d.insert k v).get? k = some v := by
  simp [get?, insert, find?_place]

theorem find?_place_of_ne {j k : String} (h : j ≠ k) (v : α) (es : List (String × α)) :
    (place k v es).find? (fun e => e.1 == j) = es.find? (fun e => e.1 == j) := by
  induction es with
  | nil => simp [place, h.symm]
  | cons e es ih =>
    unfold place
    split
    · simp [h.symm]
    · split
      · simp [List.find?_cons, ih]
      · next hk hk' =>
        have he : e.1 = k := String.le_antisymm (String.not_lt.1 hk) (String.not_lt.1 hk')
        simp [he, h.symm]

/-- What is found under another key stays. -/
theorem get?_insert_of_ne (d : Dict α) {j k : String} (h : j ≠ k) (v : α) :
    (d.insert k v).get? j = d.get? j := by
  simp [get?, insert, find?_place_of_ne h]

theorem get?_insert_ite (d : Dict α) (k : String) (v : α) (j : String) :
    (d.insert k v).get? j = if k = j then some v else d.get? j := by
  split
  · next h => rw [← h, get?_insert]
  · next h => exact get?_insert_of_ne d (Ne.symm h) v

/-- The entries of a map, in their order, make up the map. -/
theorem ofList_entries (d : Dict α) : ofList d.entries = d := by
  suffices h : ∀ (rest : List (String × α)) (front : Dict α),
      (front.entries ++ rest).Pairwise (fun a b => a.1 < b.1) →
        (rest.foldl (fun d e => d.insert e.1 e.2) front).entries = front.entries ++ rest by
    exact Dict.ext (h d.entries empty (by simpa [empty] using d.ordered))
  intro rest
  induction rest with
  | nil => simp
  | cons e rest ih =>
    intro front ho
    have hlast : (front.insert e.1 e.2).entries = front.entries ++ [e] :=
      place_last (fun f hf => (List.pairwise_append.mp ho).2.2 f hf e List.mem_cons_self) e.2
    rw [List.foldl_cons, ih _ (by simpa [hlast] using ho), hlast]
    simp

end Dict
end OrderDesk.Text
