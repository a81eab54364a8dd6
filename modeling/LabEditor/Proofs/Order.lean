import LabEditor.Order
import LabEditor.Proofs.Text.CodePoint
import LabEditor.Text.Basic
import Mathlib.Data.List.Sort

/-! Sorting by insertion is that of the library. The order of texts is total, so that sorting by keys
puts them in order, and sorting again changes nothing. -/
namespace LabEditor.Order
variable {α : Type} {le : α → α → Bool}

theorem insertBy_orderedInsert (le : α → α → Bool) (x : α) (xs : List α) :
    insertBy le x xs = xs.orderedInsert (fun a b => le a b = true) x := by
  induction xs with
  | nil => rfl
  | cons y ys ih => rw [insertBy, List.orderedInsert_cons, ih]

theorem sortBy_insertionSort (le : α → α → Bool) (xs : List α) :
    sortBy le xs = xs.insertionSort fun a b => le a b = true := by
  induction xs with
  | nil => rfl
  | cons x xs ih => rw [sortBy, ih, insertBy_orderedInsert, List.insertionSort_cons]

theorem perm_sortBy (le : α → α → Bool) (xs : List α) : (sortBy le xs).Perm xs := by
  rw [sortBy_insertionSort]
  exact List.perm_insertionSort _ xs

theorem mem_sortBy : x ∈ sortBy le xs ↔ x ∈ xs :=
  (perm_sortBy le xs).mem_iff

theorem sortBy_sorted (sorted : xs.Pairwise fun a b => le a b = true) : sortBy le xs = xs := by
  rw [sortBy_insertionSort, sorted.insertionSort_eq]

/-- A function that keeps the order carries a sorted list to a sorted one. -/
theorem sortBy_map {β : Type} {le' : β → β → Bool} {f : α → β}
    (same : ∀ a b, le' (f a) (f b) = le a b) (xs : List α) :
    sortBy le' (xs.map f) = (sortBy le xs).map f := by
  rw [sortBy_insertionSort, sortBy_insertionSort]
  refine (List.map_insertionSort _ _ f xs fun a _ b _ => ?_).symm
  rw [same]

theorem pairwise_sortBy (total : ∀ a b, le a b = true ∨ le b a = true)
    (trans : ∀ a b c, le a b = true → le b c = true → le a c = true) (xs : List α) :
    (sortBy le xs).Pairwise fun a b => le a b = true := by
  have : Std.Total fun a b => le a b = true := ⟨total⟩
  have : IsTrans α fun a b => le a b = true := ⟨trans⟩
  rw [sortBy_insertionSort]
  exact List.pairwise_insertionSort _ xs

/-- Sorting forgets the order of a list if the members are told apart. -/
theorem sortBy_perm (total : ∀ a b, le a b = true ∨ le b a = true)
    (trans : ∀ a b c, le a b = true → le b c = true → le a c = true)
    (antisymm : ∀ a ∈ xs, ∀ b ∈ xs, le a b = true → le b a = true → a = b)
    (perm : List.Perm xs ys) : sortBy le xs = sortBy le ys := by
  have sorted := (perm_sortBy le xs).trans (perm.trans (perm_sortBy le ys).symm)
  refine sorted.eq_of_pairwise ?_ (pairwise_sortBy total trans xs) (pairwise_sortBy total trans ys)
  intro a b left right
  exact antisymm a (mem_sortBy.mp left) b (perm.mem_iff.mpr (mem_sortBy.mp right))

end LabEditor.Order

namespace LabEditor.Text

theorem le_total (s t : Text) : le s t = true ∨ le t s = true := by
  induction s generalizing t with
  | nil => exact Or.inl rfl
  | cons c s ih =>
    cases t with
    | nil => exact Or.inr rfl
    | cons d t =>
      by_cases same : c = d
      · simpa [le, same] using ih t
      · have apart : c.toNat ≠ d.toNat := fun equal => same (CodePoint.toNat_inj.mp equal)
        simp only [le, same, Ne.symm same, if_false, decide_eq_true_eq]
        omega

theorem le_trans (s t u : Text) (first : le s t = true) (second : le t u = true) :
    le s u = true := by
  induction s generalizing t u with
  | nil => rfl
  | cons c s ih =>
    cases t with
    | nil => contradiction
    | cons d t =>
      cases u with
      | nil => contradiction
      | cons e u =>
        simp only [le] at first second ⊢
        by_cases left : c = d
        · by_cases right : d = e
          · simp only [left, right, if_true] at first second ⊢
            exact ih t u first second
          · simpa only [left, right, if_false] using second
        · by_cases right : d = e
          · simpa only [← right, left, if_false] using first
          · simp only [left, right, if_false, decide_eq_true_eq] at first second
            have below : c.toNat < e.toNat := Nat.lt_trans first second
            have apart : c ≠ e := fun same => Nat.ne_of_lt below (congrArg CodePoint.toNat same)
            simpa only [apart, if_false, decide_eq_true_eq] using below

theorem le_antisymm (s t : Text) (first : le s t = true) (second : le t s = true) : s = t := by
  induction s generalizing t with
  | nil =>
    cases t with
    | nil => rfl
    | cons d t => contradiction
  | cons c s ih =>
    cases t with
    | nil => contradiction
    | cons d t =>
      by_cases same : c = d
      · simp only [same, le, if_true] at first second
        rw [same, ih t first second]
      · simp only [le, same, Ne.symm same, if_false, decide_eq_true_eq] at first second
        omega

end LabEditor.Text

namespace LabEditor

theorem nodup_eraseDups (names : List Text) : names.eraseDups.Nodup := by
  match names with
  | [] => exact List.nodup_nil
  | name :: names =>
    rw [List.eraseDups_cons, List.nodup_cons]
    refine ⟨fun again => ?_, nodup_eraseDups _⟩
    have left := (List.mem_filter.mp (List.mem_eraseDups.mp again)).2
    simp at left
  termination_by names.length
  decreasing_by exact Nat.lt_succ_of_le (List.length_filter_le _ _)

/-- What is left without repetitions depends only on which texts are there. -/
theorem perm_eraseDups {names others : List Text} (same : ∀ name, name ∈ others ↔ name ∈ names) :
    others.eraseDups.Perm names.eraseDups := by
  refine (List.perm_ext_iff_of_nodup (nodup_eraseDups _) (nodup_eraseDups _)).mpr fun name => ?_
  rw [List.mem_eraseDups, List.mem_eraseDups, same]

end LabEditor
