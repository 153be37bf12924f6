import Mathlib.Data.List.DropRight
import OrderDesk.Text.Blank

/-! Texts without the blanks around them, texts that begin with a text, and texts that another one
stands in. What is left of a text when it is trimmed is known by where it stands: blanks are before
and behind it, and it neither begins nor ends with one. -/
namespace OrderDesk.Text

variable {start part rest s : List Char}

theorem after?_eq_some_iff : after? start s = some rest ↔ s = start ++ rest := by
  induction start generalizing s with
  | nil => simp [after?]
  | cons a start ih =>
    cases s with
    | nil => simp [after?]
    | cons b s =>
      by_cases hab : a = b
      · simp [after?, hab, ih]
      · simp [after?, hab, Ne.symm hab]

theorem after?_isSome_iff : (after? start s).isSome = true ↔ start <+: s := by
  rw [Option.isSome_iff_exists]
  exact exists_congr fun rest => after?_eq_some_iff.trans eq_comm

theorem occurs_iff : occurs part s = true ↔ part <:+: s := by
  induction s with
  | nil => simp [occurs]
  | cons c s ih => rw [occurs, Bool.or_eq_true, after?_isSome_iff, ih, List.infix_cons_iff]

variable {α : Type} {p : α → Bool} {xs front back : List α} {t u : String}

/-- What is dropped at the start does not matter. -/
theorem strip_append_left (hfront : ∀ a ∈ front, p a = true) :
    strip p (front ++ xs) = strip p xs := by
  rw [strip, strip, List.dropWhile_append_of_pos hfront]

/-- What is dropped at the ends does not matter. -/
theorem strip_append (hfront : ∀ a ∈ front, p a = true) (hback : ∀ a ∈ back, p a = true) :
    strip p (front ++ xs ++ back) = strip p xs := by
  have hdrop : (back.reverse).dropWhile p = [] :=
    List.dropWhile_eq_nil_iff.mpr fun a ha => hback a (List.mem_reverse.mp ha)
  rw [List.append_assoc, strip_append_left hfront, strip, strip, List.dropWhile_append]
  split
  · next hnil =>
    have hback' : back.dropWhile p = [] := List.dropWhile_eq_nil_iff.mpr hback
    rw [hback', List.isEmpty_iff.mp hnil]
  · rw [List.reverse_append, List.dropWhile_append, hdrop]
    rfl

/-- What is left of a text stands between what is dropped at its ends. -/
theorem exists_strip (p : α → Bool) (xs : List α) :
    ∃ front back, xs = front ++ strip p xs ++ back ∧ (∀ a ∈ front, p a = true) ∧
      ∀ a ∈ back, p a = true := by
  refine ⟨xs.takeWhile p, (xs.dropWhile p).rtakeWhile p, ?_,
    fun a ha => List.mem_takeWhile_imp ha, fun a ha => List.mem_rtakeWhile_imp ha⟩
  have hback : strip p xs ++ (xs.dropWhile p).rtakeWhile p = xs.dropWhile p :=
    List.rdropWhile_append_rtakeWhile
  rw [List.append_assoc, hback, List.takeWhile_append_dropWhile]

theorem strip_eq_nil_iff : strip p xs = [] ↔ ∀ a ∈ xs, p a = true := by
  change (xs.dropWhile p).rdropWhile p = [] ↔ _
  rw [List.rdropWhile_eq_nil_iff]
  constructor
  · intro h
    rw [← List.dropWhile_eq_nil_iff]
    by_contra hne
    have hfirst := h _ (List.head_mem hne)
    rw [List.head_dropWhile_not p hne] at hfirst
    cases hfirst
  · intro h a ha
    exact h a ((List.dropWhile_suffix p).subset ha)

theorem strip_eq_self_iff :
    strip p xs = xs ↔ (∀ a ∈ xs.head?, p a = false) ∧ ∀ a ∈ xs.getLast?, p a = false := by
  change (xs.dropWhile p).rdropWhile p = xs ↔ _
  have hfront : xs.dropWhile p = xs ↔ ∀ a ∈ xs.head?, p a = false := by
    cases xs <;> simp [List.dropWhile_eq_self_iff]
  have hback : xs.rdropWhile p = xs ↔ ∀ a ∈ xs.getLast?, p a = false := by
    cases xs with
    | nil => simp
    | cons a rest =>
      rw [List.rdropWhile_eq_self_iff, List.getLast?_eq_some_getLast (List.cons_ne_nil a rest)]
      simp
  rw [← hfront, ← hback]
  constructor
  · intro h
    have hle : xs.length ≤ (xs.dropWhile p).length := by
      conv_lhs => rw [← h]
      exact (List.rdropWhile_prefix p _).length_le
    have hdrop := (List.dropWhile_suffix p).eq_of_length_le hle
    exact ⟨hdrop, by rwa [hdrop] at h⟩
  · rintro ⟨hdrop, hrdrop⟩
    rw [hdrop, hrdrop]

/-- What is left when blanks are dropped neither begins nor ends with one. -/
theorem strip_strip (p : α → Bool) (xs : List α) :
    strip p (strip p xs) = strip p xs := by
  have hback : strip p xs = (xs.dropWhile p).rdropWhile p := rfl
  rw [strip_eq_self_iff]
  constructor
  · intro a ha
    have hfirst : a ∈ (xs.dropWhile p).head? := by
      obtain ⟨rest, hrest⟩ := List.rdropWhile_prefix p (l := xs.dropWhile p)
      rw [← hrest, List.head?_append, ← hback, ha, Option.some_or]
      rfl
    have hne : xs.dropWhile p ≠ [] := List.ne_nil_of_mem (List.mem_of_mem_head? hfirst)
    rw [List.head?_eq_some_head hne] at hfirst
    exact Option.some.inj hfirst ▸ List.head_dropWhile_not p hne
  · intro a ha
    rw [hback] at ha
    have hne : (xs.dropWhile p).rdropWhile p ≠ [] := List.ne_nil_of_mem (List.mem_of_getLast? ha)
    rw [List.getLast?_eq_some_getLast hne] at ha
    exact Option.some.inj ha ▸ Bool.of_not_eq_true (List.rdropWhile_last_not p _ hne)

/-- Nothing is left of a text that is all blanks. -/
theorem trim_eq_empty_iff : trim t = "" ↔ ∀ a ∈ t.toList, isBlank a = true := by
  rw [← strip_eq_nil_iff, trim, ← String.toList_inj, String.toList_ofList]
  rfl

/-- A text that neither begins nor ends with a blank is left as it is. -/
theorem trim_eq_self_iff : trim t = t ↔ (∀ a ∈ t.toList.head?, isBlank a = false) ∧
    ∀ a ∈ t.toList.getLast?, isBlank a = false := by
  rw [← strip_eq_self_iff, trim, ← String.toList_inj, String.toList_ofList]

theorem trim_trim (t : String) : trim (trim t) = trim t := by
  rw [← String.toList_inj]
  simp only [trim, String.toList_ofList, strip_strip]

/-- A text without the blanks around it. -/
structure Trims (t u : String) : Prop where
  cut : ∃ front back, t.toList = front ++ u.toList ++ back ∧
    (∀ c ∈ front, isBlank c = true) ∧ ∀ c ∈ back, isBlank c = true
  first : ∀ c ∈ u.toList.head?, isBlank c = false
  last : ∀ c ∈ u.toList.getLast?, isBlank c = false

theorem trims_iff : Trims t u ↔ trim t = u := by
  constructor
  · rintro ⟨⟨front, back, ht, hfront, hback⟩, hfirst, hlast⟩
    rw [trim, ht, strip_append hfront hback, strip_eq_self_iff.mpr ⟨hfirst, hlast⟩,
      String.ofList_toList]
  · rintro rfl
    obtain ⟨hfirst, hlast⟩ := trim_eq_self_iff.mp (trim_trim t)
    obtain ⟨front, back, ht, hfront, hback⟩ := exists_strip isBlank t.toList
    refine ⟨⟨front, back, ?_, hfront, hback⟩, hfirst, hlast⟩
    rwa [trim, String.toList_ofList]

theorem trims_trim (t : String) : Trims t (trim t) := trims_iff.mpr rfl

end OrderDesk.Text
