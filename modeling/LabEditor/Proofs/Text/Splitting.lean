import LabEditor.Text.Basic
import Mathlib.Algebra.Ring.Nat
import Mathlib.Data.List.Basic

/-! Cutting a text and glueing its pieces are inverse, wherever no piece holds the separator. Both
are the library's splitting and intercalation by one element. -/
namespace LabEditor.Text

theorem cut_splitOn (sep : CodePoint) (t : Text) : cut sep t = t.splitOn sep := by
  induction t with
  | nil => rfl
  | cons c t ih =>
    rw [cut, List.splitOn_cons_eq_if_modifyHead, ← ih]
    by_cases same : c = sep
    · simp only [same, if_true, beq_self_eq_true]
    · simp only [same, if_false, beq_iff_eq]
      cases pieces : cut sep t with
      | nil => exact absurd (ih.symm.trans pieces) (List.splitOn_ne_nil sep t)
      | cons w ws => rfl

theorem glue_intercalate (sep : CodePoint) (ws : List Text) : glue sep ws = [sep].intercalate ws := by
  induction ws with
  | nil => rfl
  | cons w ws ih =>
    cases ws with
    | nil => simp [glue]
    | cons v vs =>
      rw [glue, ih, List.intercalate_cons_cons, List.append_assoc, List.singleton_append]
      simp

theorem glue_cut (sep : CodePoint) (t : Text) : glue sep (cut sep t) = t := by
  rw [glue_intercalate, cut_splitOn, List.intercalate_splitOn]

theorem cut_glue (free : ∀ w ∈ ws, sep ∉ w) (some : ws ≠ []) : cut sep (glue sep ws) = ws := by
  rw [glue_intercalate, cut_splitOn, List.splitOn_intercalate sep free some]

theorem cut_append (sep : CodePoint) (s t : Text) :
    cut sep (s ++ sep :: t) = cut sep s ++ cut sep t := by
  simp only [cut_splitOn, List.splitOn_append_cons_self]

theorem cut_free (member : w ∈ cut sep t) : sep ∉ w := by
  induction t generalizing w with
  | nil => simp_all [cut]
  | cons c t ih =>
    rw [cut] at member
    by_cases same : c = sep
    · simp only [same, if_true, List.mem_cons] at member
      rcases member with rfl | member
      · exact List.not_mem_nil
      · exact ih member
    · simp only [same, if_false] at member
      cases pieces : cut sep t with
      | nil =>
        simp only [pieces, List.mem_singleton] at member
        simp [member, Ne.symm same]
      | cons v vs =>
        simp only [pieces, List.mem_cons] at member
        rcases member with rfl | member
        · have free := ih (pieces ▸ List.mem_cons_self)
          simp [Ne.symm same, free]
        · exact ih (pieces ▸ List.mem_cons_of_mem v member)

theorem cut_ne_nil (sep : CodePoint) (t : Text) : cut sep t ≠ [] := by
  rw [cut_splitOn]
  exact List.splitOn_ne_nil sep t

theorem cut_cons (apart : c ≠ sep) (pieces : cut sep t = w :: ws) :
    cut sep (c :: t) = (c :: w) :: ws := by
  rw [cut, if_neg apart, pieces]

theorem length_cut (sep : CodePoint) (t : Text) : (cut sep t).length = t.count sep + 1 := by
  induction t with
  | nil => rfl
  | cons c t ih =>
    rw [cut]
    split
    · rename_i same
      rw [same, List.count_cons_self, List.length_cons, ih]
    · rename_i apart
      rw [List.count_cons_of_ne apart, ← ih]
      split
      · rename_i none
        exact absurd none (cut_ne_nil sep t)
      · rename_i w ws pieces
        rw [pieces]
        rfl

theorem length_cut_le (sep : CodePoint) (t : Text) : (cut sep t).length ≤ t.length + 1 := by
  rw [length_cut]
  exact Nat.succ_le_succ List.count_le_length

theorem length_joinLineEnds_le (t : Text) : (joinLineEnds t).length ≤ t.length := by
  fun_induction joinLineEnds t with
  | case1 t ih => simp only [List.length_cons]; omega
  | case2 c t _ ih => simp only [List.length_cons]; omega
  | case3 => exact Nat.le_refl 0

theorem glue_append (left : xs ≠ []) (right : ys ≠ []) :
    glue sep (xs ++ ys) = glue sep xs ++ sep :: glue sep ys := by
  induction xs with
  | nil => contradiction
  | cons x xs ih =>
    cases xs with
    | nil =>
      cases ys with
      | nil => contradiction
      | cons y ys => rfl
    | cons x' xs =>
      have rest := ih (by simp)
      simp only [List.cons_append] at rest ⊢
      simp only [glue, rest, List.append_assoc, List.cons_append]

theorem glue_cons (w : Text) (more : ws ≠ []) : glue sep (w :: ws) = w ++ sep :: glue sep ws := by
  obtain ⟨v, vs, rfl⟩ := List.exists_cons_of_ne_nil more
  rfl

theorem mem_of_mem_glue (member : c ∈ glue sep ws) : c = sep ∨ ∃ w ∈ ws, c ∈ w := by
  induction ws with
  | nil => contradiction
  | cons w ws ih =>
    by_cases last : ws = []
    · rw [last] at member
      exact Or.inr ⟨w, List.mem_cons_self, member⟩
    · rw [glue_cons w last, List.mem_append, List.mem_cons] at member
      rcases member with here | same | later
      · exact Or.inr ⟨w, List.mem_cons_self, here⟩
      · exact Or.inl same
      · exact (ih later).imp_right fun ⟨other, known, inside⟩ =>
          ⟨other, List.mem_cons_of_mem w known, inside⟩

theorem infix_glue (known : w ∈ ws) : w <:+: glue sep ws := by
  induction ws with
  | nil => contradiction
  | cons v ws ih =>
    by_cases last : ws = []
    · rw [last] at known ⊢
      cases List.mem_singleton.mp known
      exact List.infix_rfl
    · rw [glue_cons v last]
      rcases List.mem_cons.mp known with rfl | later
      · exact (List.prefix_append _ _).isInfix
      · exact (ih later).trans ((List.suffix_cons sep _).trans (List.suffix_append v _)).isInfix

theorem infix_of_mem_cut (member : w ∈ cut sep t) : w <:+: t := by
  have inside : w <:+: glue sep (cut sep t) := infix_glue member
  rwa [glue_cut] at inside

theorem mem_of_mem_cut (member : w ∈ cut sep t) (inside : c ∈ w) : c ∈ t :=
  (infix_of_mem_cut member).subset inside

theorem mem_glue_of_mem (known : w ∈ ws) (inside : c ∈ w) : c ∈ glue sep ws :=
  (infix_glue known).subset inside

/-- Each text takes its own length and one separator, which the last one lacks. -/
theorem length_glue (sep : CodePoint) (some : ws ≠ []) :
    (glue sep ws).length + 1 = (ws.map fun w => w.length + 1).sum := by
  induction ws with
  | nil => contradiction
  | cons w ws ih =>
    by_cases last : ws = []
    · rw [last]
      rfl
    · rw [glue_cons w last, List.map_cons, List.sum_cons, ← ih last, List.length_append,
        List.length_cons]
      omega

/-- Each of several texts is cut on its own. -/
theorem cut_glue_flatMap (some : ws ≠ []) : cut sep (glue sep ws) = ws.flatMap (cut sep) := by
  induction ws with
  | nil => contradiction
  | cons w ws ih =>
    by_cases last : ws = []
    · simp [last, glue]
    · rw [glue_cons w last, cut_append, ih last, List.flatMap_cons]

theorem after?_eq_some : after? start t = some rest ↔ t = start ++ rest := by
  induction start generalizing t with
  | nil => simp [after?]
  | cons c start ih =>
    cases t with
    | nil => simp [after?]
    | cons d t =>
      by_cases same : c = d
      · simp [after?, same, ih]
      · simp [after?, same, Ne.symm same]

theorem startsWith_iff : startsWith t start = true ↔ start <+: t := by
  rw [startsWith, Option.isSome_iff_exists]
  constructor
  · rintro ⟨rest, found⟩
    exact ⟨rest, (after?_eq_some.mp found).symm⟩
  · rintro ⟨rest, same⟩
    exact ⟨rest, after?_eq_some.mpr same.symm⟩

end LabEditor.Text
