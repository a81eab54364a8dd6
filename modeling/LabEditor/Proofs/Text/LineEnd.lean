import LabEditor.Markup.Block
import LabEditor.Proofs.Text.Splitting
import Mathlib.Data.List.Forall2

/-! Line ends. A carriage return at the end of a line is dropped, except on the last one, which no
line feed follows. -/
namespace LabEditor

/-- Every element changed but the last. -/
def exceptLast (f : α → α) : List α → List α
  | [] => []
  | [x] => [x]
  | x :: y :: xs => f x :: exceptLast f (y :: xs)

theorem exceptLast_cons {xs : List α} (f : α → α) (x : α) (more : xs ≠ []) :
    exceptLast f (x :: xs) = f x :: exceptLast f xs := by
  obtain ⟨y, ys, rfl⟩ := List.exists_cons_of_ne_nil more
  rfl

theorem exceptLast_append {ys : List α} (f : α → α) (xs : List α) (more : ys ≠ []) :
    exceptLast f (xs ++ ys) = xs.map f ++ exceptLast f ys := by
  induction xs with
  | nil => rfl
  | cons x xs ih =>
    rw [List.cons_append, exceptLast_cons f x (List.append_ne_nil_of_right_ne_nil xs more), ih]
    rfl

theorem exceptLast_ne_nil {xs : List α} (f : α → α) (some : xs ≠ []) : exceptLast f xs ≠ [] := by
  cases xs with
  | nil => contradiction
  | cons x xs => cases xs <;> simp [exceptLast]

theorem exceptLast_map {f : β → β} {g : α → α} {h : α → β} (same : ∀ x, f (h x) = h (g x))
    (xs : List α) :
    exceptLast f (xs.map h) = (exceptLast g xs).map h := by
  induction xs with
  | nil => rfl
  | cons x xs ih =>
    cases xs with
    | nil => rfl
    | cons y ys =>
      rw [List.map_cons, exceptLast_cons f _ (by simp), ih, exceptLast_cons g x (by simp), same]
      rfl

theorem exceptLast_forall₂ {R : α → β → Prop} {f : α → α} {g : β → β}
    (step : ∀ x y, R x y → R (f x) (g y))
    (related : List.Forall₂ R xs ys) : List.Forall₂ R (exceptLast f xs) (exceptLast g ys) := by
  induction related with
  | nil => exact .nil
  | cons here rest ih =>
    cases rest with
    | nil => exact .cons here .nil
    | cons next rest => exact .cons (step _ _ here) ih

theorem forall₂_exceptLast {R : α → α → Prop} {f : α → α} (refl : ∀ x, R x x)
    (step : ∀ x, R x (f x))
    (xs : List α) : List.Forall₂ R xs (exceptLast f xs) := by
  induction xs with
  | nil => exact .nil
  | cons x xs ih =>
    by_cases last : xs = []
    · rw [last]
      exact .cons (refl x) .nil
    · rw [exceptLast_cons f x last]
      exact .cons (step x) ih

theorem exceptLast_eq_self {f : α → α} {xs : List α} (more : xs ≠ []) :
    exceptLast f (x :: xs) = x :: xs ↔ f x = x ∧ exceptLast f xs = xs := by
  rw [exceptLast_cons f x more, List.cons.injEq]

theorem exceptLast_id {f : α → α} {xs : List α} (same : ∀ x ∈ xs, f x = x) : exceptLast f xs = xs := by
  induction xs with
  | nil => rfl
  | cons x xs ih =>
    by_cases last : xs = []
    · rw [last]
      rfl
    · obtain ⟨first, rest⟩ := List.forall_mem_cons.mp same
      exact (exceptLast_eq_self last).mpr ⟨first, ih rest⟩

/-- What a function leaves alone in a list, it leaves alone in a related one. -/
theorem exceptLast_eq_self_of_forall₂ {R : α → α → Prop} {f : α → α}
    (step : ∀ x y, R x y → f x = x → f y = y)
    (related : List.Forall₂ R xs ys) (same : exceptLast f xs = xs) : exceptLast f ys = ys := by
  induction related with
  | nil => rfl
  | @cons x y xs ys here rest ih =>
    by_cases last : xs = []
    · subst last
      cases rest
      rfl
    · have more : ys ≠ [] := by
        rintro rfl
        exact last (List.forall₂_nil_right_iff.mp rest)
      obtain ⟨first, others⟩ := (exceptLast_eq_self last).mp same
      exact (exceptLast_eq_self more).mpr ⟨step x y here first, ih others⟩

theorem of_mem_exceptLast {f : α → α} {xs : List α} (member : y ∈ exceptLast f xs) :
    ∃ x ∈ xs, y = x ∨ y = f x := by
  induction xs with
  | nil => contradiction
  | cons x xs ih =>
    by_cases last : xs = []
    · rw [last] at member
      exact ⟨x, List.mem_cons_self, Or.inl (List.mem_singleton.mp member)⟩
    · rw [exceptLast_cons f x last] at member
      rcases List.mem_cons.mp member with here | later
      · exact ⟨x, List.mem_cons_self, Or.inr here⟩
      · obtain ⟨other, known, same⟩ := ih later
        exact ⟨other, List.mem_cons_of_mem x known, same⟩

namespace Text
variable {c : CodePoint} {t rest : Text}

/-- A text without the carriage return that may end it. -/
def chomp : Text → Text
  | [] => []
  | ['\r'] => []
  | c :: t => c :: chomp t

theorem chomp_cons (c : CodePoint) (some : t ≠ []) : chomp (c :: t) = c :: chomp t := by
  rw [chomp]
  rintro rfl rfl
  contradiction

theorem chomp_singleton (visible : c ≠ '\r') : chomp [c] = [c] := by
  rw [chomp]
  · rfl
  · rintro rfl _
    contradiction

/-- A text is what is left of it, or that with a carriage return behind. -/
theorem chomp_cases (t : Text) : t = chomp t ∨ t = chomp t ++ (['\r'] : Text) := by
  fun_induction chomp t with
  | case1 => exact Or.inl rfl
  | case2 => exact Or.inr rfl
  | case3 c t _ ih =>
    rcases ih with same | same
    · exact Or.inl (congrArg (c :: ·) same)
    · exact Or.inr (congrArg (c :: ·) same)

theorem chomp_append (s : Text) (some : t ≠ []) : chomp (s ++ t) = s ++ chomp t := by
  induction s with
  | nil => rfl
  | cons c s ih =>
    rw [List.cons_append, chomp_cons c (List.append_ne_nil_of_right_ne_nil s some), ih]; rfl

theorem chomp_isPrefix (t : Text) : chomp t <+: t := by
  rcases chomp_cases t with same | same
  · exact same ▸ List.prefix_rfl
  · exact ⟨['\r'], same.symm⟩

/-- The lines of a text, each without the carriage return of its end. -/
theorem cut_joinLineEnds (t : Text) :
    cut '\n' (joinLineEnds t) = exceptLast chomp (cut '\n' t) := by
  fun_induction joinLineEnds t with
  | case1 t ih =>
    have first : cut '\n' ('\r' :: '\n' :: t) = (['\r'] : Text) :: cut '\n' t := rfl
    rw [first, exceptLast_cons _ _ (cut_ne_nil _ _), ← ih]
    rfl
  | case2 c t apart ih =>
    by_cases lineEnd : c = '\n'
    · subst lineEnd
      have first : cut '\n' ('\n' :: t) = [] :: cut '\n' t := rfl
      rw [first, exceptLast_cons _ _ (cut_ne_nil _ _), ← ih]
      rfl
    · obtain ⟨w, ws, pieces⟩ := List.exists_cons_of_ne_nil (cut_ne_nil '\n' t)
      rw [cut_cons lineEnd pieces]
      rw [pieces] at ih
      by_cases last : ws = []
      · subst last
        exact cut_cons lineEnd ih
      · have kept : chomp (c :: w) = c :: chomp w := by
          cases w with
          | cons d w => exact chomp_cons c (by simp)
          | nil =>
            have shape : t = ('\n' : CodePoint) :: glue '\n' ws := by
              rw [← glue_cut '\n' t, pieces, glue_cons [] last, List.nil_append]
            exact chomp_singleton fun same => apart _ same shape
        rw [exceptLast_cons _ _ last] at ih
        rw [cut_cons lineEnd ih, exceptLast_cons _ _ last, kept]
  | case3 => rfl

theorem joinLineEnds_cons (apart : ∀ rest, c = '\r' → t = ('\n' : CodePoint) :: rest → False) :
    joinLineEnds (c :: t) = c :: joinLineEnds t := by
  rw [joinLineEnds]
  exact apart

/-- A line end comes from a line feed, with or without a carriage return. -/
theorem of_joinLineEnds_cons (lineEnd : joinLineEnds t = ('\n' : CodePoint) :: rest) :
    (∃ behind, t = ('\n' : CodePoint) :: behind) ∨ ∃ behind, t = ('\r' : CodePoint) :: '\n' :: behind := by
  fun_cases joinLineEnds t with
  | case1 t => exact Or.inr ⟨t, rfl⟩
  | case2 c t apart =>
    rw [joinLineEnds_cons apart] at lineEnd
    cases lineEnd
    exact Or.inl ⟨t, rfl⟩
  | case3 => contradiction

theorem hasPart_cons (none : hasPart part (c :: t) = false) :
    startsWith (c :: t) part = false ∧ hasPart part t = false := by
  simpa [hasPart] using none

/-- Where no two carriage returns come before a line feed, no line has another one at its end. -/
theorem joinLineEnds_idem (single : hasPart "\r\r\n" t = false) :
    joinLineEnds (joinLineEnds t) = joinLineEnds t := by
  fun_induction joinLineEnds t with
  | case1 t ih =>
    have behind := (hasPart_cons (hasPart_cons single).2).2
    rw [joinLineEnds_cons (fun _ same _ => absurd same (by decide)), ih behind]
  | case2 c t apart ih =>
    obtain ⟨here, behind⟩ := hasPart_cons single
    rw [joinLineEnds_cons, ih behind]
    rintro rest rfl lineEnd
    rcases of_joinLineEnds_cons lineEnd with ⟨more, rfl⟩ | ⟨more, rfl⟩
    · exact apart more rfl rfl
    · contradiction
  | case3 => rfl

theorem single_of_paired
    (paired : ∀ rest, ('\r' : CodePoint) :: rest <:+ t → rest.head? = some ('\n' : CodePoint)) :
    hasPart "\r\r\n" t = false := by
  induction t with
  | nil => rfl
  | cons c t ih =>
    have behind : hasPart "\r\r\n" t = false :=
      ih fun rest tail => paired rest (tail.trans (List.suffix_cons c t))
    have here : startsWith (c :: t) "\r\r\n" = false := by
      rw [Bool.eq_false_iff]
      intro begins
      obtain ⟨rest, same⟩ := startsWith_iff.mp begins
      have shape : c :: t = ('\r' : CodePoint) :: '\r' :: '\n' :: rest := same.symm
      rw [shape] at paired
      exact absurd (paired _ List.suffix_rfl) (by simp)
    rw [hasPart, here, behind, Bool.or_false]

theorem exceptLast_chomp_idem (single : hasPart "\r\r\n" t = false) :
    exceptLast chomp (exceptLast chomp (cut '\n' t)) = exceptLast chomp (cut '\n' t) := by
  rw [← cut_joinLineEnds, ← cut_joinLineEnds, joinLineEnds_idem single]

theorem joinLineEnds_oneLine (oneLine : ('\n' : CodePoint) ∉ t) : joinLineEnds t = t := by
  fun_induction joinLineEnds t with
  | case1 t => simp at oneLine
  | case2 c t _ ih => rw [ih fun member => oneLine (List.mem_cons_of_mem c member)]
  | case3 => rfl

theorem joinLineEnds_free (free : ('\r' : CodePoint) ∉ t) : joinLineEnds t = t := by
  fun_induction joinLineEnds t with
  | case1 t => simp at free
  | case2 c t _ ih => rw [ih fun member => free (List.mem_cons_of_mem c member)]
  | case3 => rfl

theorem chomp_free (free : ('\r' : CodePoint) ∉ t) : chomp t = t := by
  rcases chomp_cases t with same | same
  · exact same.symm
  · rw [same] at free
    simp at free

/-- Only carriage returns are lost. -/
theorem mem_joinLineEnds (visible : c ≠ '\r') : c ∈ joinLineEnds t ↔ c ∈ t := by
  fun_induction joinLineEnds t with
  | case1 t ih => simp [visible, ih]
  | case2 d t _ ih => rw [List.mem_cons, List.mem_cons, ih]
  | case3 => rfl

/-- A carriage return at the end of a text is at the end of its last line. -/
theorem cut_chomp (t : Text) :
    ∃ front last, cut '\n' t = front ++ [last] ∧ cut '\n' (chomp t) = front ++ [chomp last] := by
  have lines := List.dropLast_append_getLast (cut_ne_nil '\n' t)
  have free : ∀ line ∈ cut '\n' t, ('\n' : CodePoint) ∉ line := fun line => cut_free
  generalize (cut '\n' t).dropLast = front, (cut '\n' t).getLast _ = last at lines
  refine ⟨front, last, lines.symm, ?_⟩
  rw [← lines] at free
  have whole : t = glue '\n' (front ++ [last]) := by rw [lines, glue_cut]
  have ends : ('\n' : CodePoint) ∉ chomp last := fun inside =>
    free last (by simp) ((chomp_isPrefix last).subset inside)
  by_cases first : front = []
  · subst first
    rw [whole, List.nil_append, glue]
    have single := cut_glue (List.forall_mem_singleton.mpr ends) (List.cons_ne_nil _ [])
    rwa [glue] at single
  · have behind : chomp ('\n' :: last) = ('\n' : CodePoint) :: chomp last := by
      cases last with
      | nil => rfl
      | cons c last => exact chomp_cons '\n' (by simp)
    have split : ∀ last, glue '\n' (front ++ [last]) =
        glue '\n' front ++ ('\n' : CodePoint) :: last := fun last =>
      glue_append first (by simp)
    rw [whole, split, chomp_append _ (by simp), behind, ← split, cut_glue _ (by simp)]
    intro line member
    rcases List.mem_append.mp member with inside | inside
    · exact free line (List.mem_append_left _ inside)
    · exact List.mem_singleton.mp inside ▸ ends

theorem cut_joinLineEnds_chomp (t : Text) :
    cut '\n' (joinLineEnds (chomp t)) = (cut '\n' t).map chomp := by
  obtain ⟨front, last, whole, chomped⟩ := cut_chomp t
  rw [cut_joinLineEnds, chomped, whole, exceptLast_append _ _ (by simp), List.map_append]
  rfl

/-- Line ends are joined part by part; one may lie between two parts. -/
theorem joinLineEnds_glue (ts : List Text) :
    joinLineEnds (glue '\n' ts) = glue '\n' ((exceptLast chomp ts).map joinLineEnds) := by
  induction ts with
  | nil => rfl
  | cons t ts ih =>
    by_cases last : ts = []
    · rw [last]
      rfl
    · have more : (exceptLast chomp ts).map joinLineEnds ≠ [] := by
        simpa using exceptLast_ne_nil chomp last
      rw [exceptLast_cons _ _ last, List.map_cons, glue_cons _ last, glue_cons _ more, ← ih,
        ← glue_cut '\n' (joinLineEnds _), cut_joinLineEnds, cut_append,
        exceptLast_append _ _ (cut_ne_nil _ _), ← cut_joinLineEnds_chomp, ← cut_joinLineEnds,
        ← cut_append, glue_cut]

/-- A text with a carriage return before every line feed. -/
def withReturns (t : Text) : Text :=
  t.flatMap fun (c : CodePoint) => if c = '\n' then ['\r', '\n'] else [c]

theorem joinLineEnds_withReturns (free : ('\r' : CodePoint) ∉ t) : joinLineEnds (withReturns t) = t := by
  induction t with
  | nil => rfl
  | cons c t ih =>
    obtain ⟨visible, behind⟩ := not_or.mp (List.mem_cons.not.mp free)
    by_cases lineEnd : c = '\n'
    · subst lineEnd
      exact congrArg (List.cons _) (ih behind)
    · have first : withReturns (c :: t) = c :: withReturns t := by simp [withReturns, lineEnd]
      rw [first, joinLineEnds_cons fun _ same _ => visible same.symm, ih behind]

theorem lines_eq (page : Text) : Markup.lines page = exceptLast chomp (cut '\n' page) :=
  cut_joinLineEnds page

end Text
end LabEditor
