import LabEditor.Text.Blank
import LabEditor.Text.Case
import LabEditor.Proofs.Text.Splitting
import Mathlib.Data.List.Forall2

/-! What trimming and the reading of beginnings leave of a text. -/
namespace LabEditor.Text
variable {p : CodePoint → Bool} {s t rest : Text}

theorem after?_append (start t : Text) : after? start (start ++ t) = some t :=
  after?_eq_some.mpr rfl

theorem after?_suffix (found : after? start t = some rest) : rest <:+ t :=
  ⟨start, (after?_eq_some.mp found).symm⟩

/-- A beginning that has another first character than the text. -/
theorem after?_head_ne (apart : c ≠ d) (start t : Text) : after? (c :: start) (d :: t) = none := by
  rw [after?, if_neg apart]

/-- A beginning is seen in front of a character that it does not hold. -/
theorem after?_stop (apart : x ∉ start) (front behind : Text) :
    after? start (front ++ x :: behind) = (after? start front).map (· ++ x :: behind) := by
  induction start generalizing front with
  | nil => rfl
  | cons c start ih =>
    obtain ⟨first, others⟩ := not_or.mp (List.mem_cons.not.mp apart)
    cases front with
    | nil => exact after?_head_ne (Ne.symm first) start behind
    | cons d front =>
      rw [List.cons_append, after?, after?]
      split
      · exact ih others front
      · rfl

/-- No part reaches over a character that is not in it. -/
theorem hasPart_apart {part : Text} (full : part ≠ []) (apart : d ∉ part) (s t : Text) :
    hasPart part (s ++ d :: t) = (hasPart part s || hasPart part t) := by
  have start (s : Text) : startsWith (s ++ d :: t) part = startsWith s part := by
    rw [startsWith, after?_stop apart, Option.isSome_map, startsWith]
  induction s with
  | nil =>
    obtain ⟨c, part, rfl⟩ := List.exists_cons_of_ne_nil full
    have here := start []
    rw [List.nil_append] at here ⊢
    rw [hasPart, hasPart, here]
    rfl
  | cons c s ih =>
    have here := start (c :: s)
    rw [List.cons_append] at here ⊢
    rw [hasPart, hasPart, here, ih, Bool.or_assoc]

theorem afterWord?_stop (apart : ∀ c ∈ word, sameLetter c x = false) (front behind : Text) :
    afterWord? word (front ++ x :: behind) = (afterWord? word front).map (· ++ x :: behind) := by
  induction word generalizing front with
  | nil => rfl
  | cons c word ih =>
    obtain ⟨first, others⟩ := List.forall_mem_cons.mp apart
    cases front with
    | nil => simp [afterWord?, first]
    | cons d front =>
      rw [List.cons_append, afterWord?, afterWord?]
      split
      · exact ih others front
      · rfl

theorem afterWord?_eq_some : afterWord? word t = some rest ↔ ∃ spelled, t = spelled ++ rest ∧
    List.Forall₂ (fun c d => sameLetter c d = true) word spelled := by
  induction word generalizing t with
  | nil => simp [afterWord?]
  | cons c word ih =>
    cases t with
    | nil => simp [afterWord?, List.forall₂_cons_left_iff]
    | cons d t =>
      rw [afterWord?]
      split
      · rename_i same
        rw [ih]
        constructor
        · rintro ⟨spelled, rfl, others⟩
          exact ⟨d :: spelled, rfl, .cons same others⟩
        · rintro ⟨spelled, whole, others⟩
          cases others with
          | cons _ others =>
            cases whole
            exact ⟨_, rfl, others⟩
      · rename_i apart
        constructor
        · intro none
          contradiction
        · rintro ⟨spelled, whole, others⟩
          cases others with
          | cons same _ =>
            cases whole
            exact absurd same apart

theorem length_of_afterWord? (found : afterWord? word t = some rest) : word.length ≤ t.length := by
  obtain ⟨spelled, rfl, same⟩ := afterWord?_eq_some.mp found
  rw [List.length_append, same.length_eq]
  exact Nat.le_add_right _ _

theorem afterWord?_append (found : afterWord? word t = some rest) (behind : Text) :
    afterWord? word (t ++ behind) = some (rest ++ behind) := by
  obtain ⟨spelled, rfl, same⟩ := afterWord?_eq_some.mp found
  exact afterWord?_eq_some.mpr ⟨spelled, List.append_assoc _ _ _, same⟩

theorem splitWhen_eq (p : CodePoint → Bool) (t : Text) :
    splitWhen p t = (t.takeWhile (!p ·), t.dropWhile (!p ·)) := by
  induction t with
  | nil => rfl
  | cons c t ih =>
    cases here : p c with
    | true => simp [splitWhen, here]
    | false => simp [splitWhen, here, ih]

theorem splitWhen_suffix (p : CodePoint → Bool) (t : Text) : (splitWhen p t).2 <:+ t := by
  rw [splitWhen_eq]
  exact List.dropWhile_suffix _

theorem splitWhen_found (free : ∀ c ∈ s, p c = false) (here : p d = true) (t : Text) :
    splitWhen p (s ++ d :: t) = (s, d :: t) := by
  have all : ∀ c ∈ s, (!p c) = true := fun c member => by simp [free c member]
  rw [splitWhen_eq, List.takeWhile_append_of_pos all, List.dropWhile_append_of_pos all,
    List.takeWhile_cons_of_neg (by simp [here]), List.dropWhile_cons_of_neg (by simp [here]),
    List.append_nil]

theorem splitWhen_char (free : x ∉ s) (t : Text) :
    splitWhen (· == x) (s ++ x :: t) = (s, x :: t) := by
  have apart : ∀ c ∈ s, (c == x) = false := by
    intro c member
    refine beq_eq_false_iff_ne.mpr ?_
    rintro rfl
    exact free member
  exact splitWhen_found apart (beq_self_eq_true x) t

theorem of_splitWhen_char (found : (splitWhen (· == x) t).2 = d :: rest) :
    ∃ s, x ∉ s ∧ t = s ++ d :: rest := by
  rw [splitWhen_eq] at found
  refine ⟨t.takeWhile (!· == x), fun member => ?_, ?_⟩
  · have kept := List.all_eq_true.mp (List.all_takeWhile (p := fun c => !c == x)) x member
    simp at kept
  · rw [← found, List.takeWhile_append_dropWhile]

/-- The first occurrence of a character is at one place only. -/
theorem split_unique (left : x ∉ s) (right : x ∉ s') (same : s ++ x :: t = s' ++ x :: rest) :
    s = s' ∧ t = rest := by
  have split := congrArg (splitWhen (· == x)) same
  rw [splitWhen_char left, splitWhen_char right] at split
  simpa using split

theorem dropEndWhile_isPrefix (p : CodePoint → Bool) (t : Text) : dropEndWhile p t <+: t := by
  induction t with
  | nil => exact List.prefix_rfl
  | cons c t ih =>
    rw [dropEndWhile]
    split
    · split
      · exact List.nil_prefix
      · exact List.prefix_append [c] t
    · exact List.cons_prefix_cons.mpr ⟨rfl, ih⟩

theorem dropEndWhile_eq_nil (all : ∀ c ∈ t, p c = true) : dropEndWhile p t = [] := by
  induction t with
  | nil => rfl
  | cons c t ih =>
    rw [dropEndWhile, ih fun d member => all d (List.mem_cons_of_mem c member)]
    exact if_pos (all c List.mem_cons_self)

theorem dropEndWhile_append (stays : dropEndWhile p t ≠ []) :
    dropEndWhile p (s ++ t) = s ++ dropEndWhile p t := by
  induction s with
  | nil => rfl
  | cons c s ih =>
    have some : s ++ dropEndWhile p t ≠ [] := List.append_ne_nil_of_right_ne_nil s stays
    rw [List.cons_append, dropEndWhile, ih]
    split
    · contradiction
    · rfl

theorem dropEndWhile_append_all (all : ∀ c ∈ t, p c = true) :
    dropEndWhile p (s ++ t) = dropEndWhile p s := by
  induction s with
  | nil => exact dropEndWhile_eq_nil all
  | cons c s ih => rw [List.cons_append, dropEndWhile, ih, dropEndWhile]

theorem dropEndWhile_self (last : p c = false) : dropEndWhile p (s ++ [c]) = s ++ [c] := by
  have stays : dropEndWhile p [c] = [c] := by simp [dropEndWhile, last]
  rw [dropEndWhile_append (by rw [stays]; simp), stays]

theorem dropEndWhile_ne_nil (member : c ∈ t) (stop : p c = false) : dropEndWhile p t ≠ [] := by
  induction t with
  | nil => contradiction
  | cons d t ih =>
    rw [dropEndWhile]
    split
    · rename_i gone
      rcases List.mem_cons.mp member with rfl | later
      · simp [stop]
      · exact absurd gone (ih later)
    · simp

theorem dropEndWhile_dropped (p : CodePoint → Bool) (t : Text) :
    ∃ dropped, t = dropEndWhile p t ++ dropped ∧ ∀ c ∈ dropped, p c = true := by
  induction t with
  | nil => exact ⟨[], rfl, by simp⟩
  | cons c t ih =>
    obtain ⟨dropped, same, all⟩ := ih
    rw [dropEndWhile]
    split
    · rename_i gone
      rw [gone, List.nil_append] at same
      split
      · rename_i here
        exact ⟨c :: t, rfl, List.forall_mem_cons.mpr ⟨here, same ▸ all⟩⟩
      · exact ⟨dropped, congrArg (List.cons c) same, all⟩
    · exact ⟨dropped, congrArg (List.cons c) same, all⟩

/-- What is dropped at the end are copies of one character. -/
theorem dropEndWhile_replicate (c : CodePoint) (t : Text) :
    ∃ n, t = dropEndWhile (· == c) t ++ List.replicate n c := by
  obtain ⟨dropped, same, all⟩ := dropEndWhile_dropped (· == c) t
  have copies : dropped = List.replicate dropped.length c :=
    List.eq_replicate_iff.mpr ⟨rfl, fun d member => eq_of_beq (all d member)⟩
  exact ⟨dropped.length, copies ▸ same⟩

/-- How often a character stands at the front of a text. -/
def run (c : CodePoint) (t : Text) : Nat :=
  (t.takeWhile (· == c)).length

theorem run_cons_self (c : CodePoint) (t : Text) : run c (c :: t) = run c t + 1 := by
  simp [run]

theorem run_cons (apart : d ≠ c) (t : Text) : run c (d :: t) = 0 := by
  simp [run, apart]

theorem run_le (c : CodePoint) (t : Text) : run c t ≤ t.length :=
  List.IsPrefix.length_le (List.takeWhile_prefix _)

theorem run_append (front : rest.head? ≠ some c) (t : Text) : run c (t ++ rest) = run c t := by
  induction t with
  | nil =>
    cases rest with
    | nil => rfl
    | cons d rest => exact run_cons (fun same => front (congrArg some same)) rest
  | cons d t ih =>
    by_cases same : d = c
    · subst same
      rw [List.cons_append, run_cons_self, run_cons_self, ih]
    · rw [List.cons_append, run_cons same, run_cons same]

theorem run_replicate (front : rest.head? ≠ some c) (n : Nat) :
    run c (List.replicate n c ++ rest) = n := by
  induction n with
  | zero =>
    cases rest with
    | nil => rfl
    | cons d rest => exact run_cons (fun same => front (congrArg some same)) rest
  | succ n ih => rw [List.replicate_succ, List.cons_append, run_cons_self, ih]

theorem trimStart_suffix (t : Text) : trimStart t <:+ t :=
  List.dropWhile_suffix _

theorem visible_of_trimStart (shape : trimStart t = c :: rest) : isBlank c = false := by
  have first := List.head?_dropWhile_not isBlank t
  rw [trimStart] at shape
  rw [shape] at first
  simpa using first

theorem trimStart_cons (visible : isBlank c = false) (t : Text) : trimStart (c :: t) = c :: t :=
  List.dropWhile_cons_of_neg (by simp [visible])

theorem trim_sublist (t : Text) : (trim t).Sublist t :=
  (dropEndWhile_isPrefix isBlank (trimStart t)).sublist.trans (trimStart_suffix t).sublist

theorem mem_of_mem_trim (member : c ∈ trim t) : c ∈ t :=
  (trim_sublist t).subset member

theorem mem_of_mem_squeezeBlanks (member : c ∈ squeezeBlanks filler t) : c = filler ∨ c ∈ t := by
  fun_induction squeezeBlanks filler t with
  | case1 => contradiction
  | case2 d blank => exact Or.inl (List.mem_singleton.mp member)
  | case3 d blank e t next ih => exact (ih member).imp_right (List.mem_cons_of_mem d)
  | case4 d blank e t visible ih =>
    rcases List.mem_cons.mp member with here | later
    · exact Or.inl here
    · exact (ih later).imp_right (List.mem_cons_of_mem d)
  | case5 d t visible ih =>
    rcases List.mem_cons.mp member with rfl | later
    · exact Or.inr List.mem_cons_self
    · exact (ih later).imp_right (List.mem_cons_of_mem d)

end LabEditor.Text
