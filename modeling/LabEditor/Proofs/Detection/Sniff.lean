import LabEditor.Detection.Basic
import LabEditor.Proofs.Text.LineEnd
import LabEditor.Proofs.Text.Trimming

/-! Whether a text looks like a page does not depend on its line ends: no mark of a page holds a line
end, and a blank before or behind a list marker is one with either line end. -/
namespace LabEditor

namespace Text
variable {t start : Text}

/-- What a text begins with is seen through its line ends. -/
theorem after?_joinLineEnds (feeds : ('\n' : CodePoint) ∉ start) (returns : ('\r' : CodePoint) ∉ start)
    (t : Text) :
    after? start (joinLineEnds t) = (after? start t).map joinLineEnds := by
  induction start generalizing t with
  | nil => rfl
  | cons c start ih =>
    obtain ⟨noFeed, feeds⟩ := not_or.mp (List.mem_cons.not.mp feeds)
    obtain ⟨noReturn, returns⟩ := not_or.mp (List.mem_cons.not.mp returns)
    fun_cases joinLineEnds t with
    | case1 t => rw [after?_head_ne (Ne.symm noFeed), after?_head_ne (Ne.symm noReturn)]; rfl
    | case2 d t _ =>
      rw [after?, after?, ih feeds returns]
      split <;> rfl
    | case3 => rfl

theorem startsWith_joinLineEnds (feeds : ('\n' : CodePoint) ∉ start) (returns : ('\r' : CodePoint) ∉ start)
    (t : Text) :
    startsWith (joinLineEnds t) start = startsWith t start := by
  rw [startsWith, after?_joinLineEnds feeds returns, Option.isSome_map, startsWith]

theorem startsWith_head (some : start ≠ []) (apart : c ∉ start) (t : Text) :
    startsWith (c :: t) start = false := by
  obtain ⟨d, start, rfl⟩ := List.exists_cons_of_ne_nil some
  have first : d ≠ c := fun same => apart (by rw [← same]; exact List.mem_cons_self)
  rw [startsWith, after?_head_ne first]
  rfl

theorem hasPart_joinLineEnds (feeds : ('\n' : CodePoint) ∉ start) (returns : ('\r' : CodePoint) ∉ start)
    (some : start ≠ [])
    (t : Text) : hasPart start (joinLineEnds t) = hasPart start t := by
  fun_induction joinLineEnds t with
  | case1 t ih => simp only [hasPart, startsWith_head some feeds, startsWith_head some returns, ih,
      Bool.false_or]
  | case2 c t apart ih =>
    have here := startsWith_joinLineEnds feeds returns (c :: t)
    rw [joinLineEnds_cons apart] at here
    rw [hasPart, hasPart, here, ih]
  | case3 => rfl

theorem trimStart_joinLineEnds (t : Text) : trimStart (joinLineEnds t) = joinLineEnds (trimStart t) := by
  fun_induction joinLineEnds t with
  | case1 t ih => exact ih
  | case2 c t apart ih =>
    cases blank : isBlank c with
    | true =>
      rw [trimStart, List.dropWhile_cons_of_pos blank, trimStart, List.dropWhile_cons_of_pos blank]
      exact ih
    | false => rw [trimStart_cons blank, trimStart_cons blank, joinLineEnds_cons apart]
  | case3 => rfl

theorem dropDigits_joinLineEnds (t : Text) :
    (joinLineEnds t).dropWhile isDigit = joinLineEnds (t.dropWhile isDigit) := by
  fun_induction joinLineEnds t with
  | case1 t ih => rfl
  | case2 c t apart ih =>
    cases digit : isDigit c with
    | true => rw [List.dropWhile_cons_of_pos digit, List.dropWhile_cons_of_pos digit, ih]
    | false =>
      have stop : ¬ isDigit c = true := by simp [digit]
      rw [List.dropWhile_cons_of_neg stop, List.dropWhile_cons_of_neg stop, joinLineEnds_cons apart]
  | case3 => rfl

/-- A line end is blank in either form. -/
theorem blank_head_joinLineEnds (t : Text) :
    (joinLineEnds t).head?.any isBlank = t.head?.any isBlank := by
  fun_cases joinLineEnds t with
  | case1 t => rfl
  | case2 c t _ => rfl
  | case3 => rfl

end Text

namespace Detection

/-- What stands behind the digits of a numbered list marker. -/
def endsNumber (t : Text) : Bool :=
  t.head?.any (fun (c : CodePoint) => c = '.' || c = ')') && t.tail.head?.any Text.isBlank

theorem endsNumber_joinLineEnds (t : Text) : endsNumber (Text.joinLineEnds t) = endsNumber t := by
  fun_cases Text.joinLineEnds t with
  | case1 t => rfl
  | case2 c t _ =>
    rw [endsNumber, endsNumber, List.tail_cons, List.tail_cons, Text.blank_head_joinLineEnds]
    rfl
  | case3 => rfl

theorem startsWithListMarker_eq (visible : Text.trimStart t = c :: rest) :
    startsWithListMarker t =
      if c = '-' ∨ c = '+' ∨ c = '*' then rest.head?.any Text.isBlank
      else Text.isDigit c && endsNumber ((c :: rest).dropWhile Text.isDigit) := by
  rw [startsWithListMarker, visible]
  simp only [or_assoc, Bool.or_eq_true, decide_eq_true_eq]
  congr 1
  generalize (c :: rest).dropWhile Text.isDigit = behind
  rcases behind with _ | ⟨d, _ | ⟨e, behind⟩⟩ <;> simp [endsNumber, Bool.and_assoc]

theorem startsWithListMarker_joinLineEnds (t : Text) :
    startsWithListMarker (Text.joinLineEnds t) = startsWithListMarker t := by
  have trimmed := Text.trimStart_joinLineEnds t
  cases shape : Text.trimStart t with
  | nil =>
    rw [shape] at trimmed
    rw [startsWithListMarker, startsWithListMarker, trimmed, shape]
    rfl
  | cons c rest =>
    have visible := Text.visible_of_trimStart shape
    have apart : ∀ behind, c = '\r' → rest = ('\n' : CodePoint) :: behind → False := by
      rintro _ rfl
      exact absurd visible (by decide)
    rw [shape, Text.joinLineEnds_cons apart] at trimmed
    rw [startsWithListMarker_eq trimmed, startsWithListMarker_eq shape, Text.blank_head_joinLineEnds,
      ← Text.joinLineEnds_cons apart, Text.dropDigits_joinLineEnds, endsNumber_joinLineEnds]

theorem hasListMarker_joinLineEnds (atLineStart : Bool) (t : Text) :
    hasListMarker atLineStart (Text.joinLineEnds t) = hasListMarker atLineStart t := by
  fun_induction Text.joinLineEnds t generalizing atLineStart with
  | case1 t ih =>
    have here := startsWithListMarker_joinLineEnds ('\r' :: '\n' :: t)
    have inside : hasListMarker (('\r' : CodePoint) == '\n') ('\n' :: t) = hasListMarker true t := rfl
    rw [hasListMarker, hasListMarker, inside, ← here, ← ih]
    rfl
  | case2 c t apart ih =>
    have here := startsWithListMarker_joinLineEnds (c :: t)
    rw [Text.joinLineEnds_cons apart] at here
    rw [hasListMarker, hasListMarker, here, ih]
  | case3 => rfl

theorem looksLikeMarkdown_joinLineEnds (t : Text) (file? : Option Text) :
    looksLikeMarkdown (Text.joinLineEnds t) file? = looksLikeMarkdown t file? := by
  have marks : ∀ c : CodePoint, c ≠ '\r' → (Text.joinLineEnds t).contains c = t.contains c := by
    intro c visible
    rw [List.contains_eq_mem, List.contains_eq_mem]
    exact decide_eq_decide.mpr (Text.mem_joinLineEnds visible)
  have fences : Text.hasPart "\x60\x60\x60" (Text.joinLineEnds t) = Text.hasPart "\x60\x60\x60" t :=
    Text.hasPart_joinLineEnds (by decide) (by decide) (by decide) t
  simp only [looksLikeMarkdown, marks _ (by decide : ('#' : CodePoint) ≠ '\r'),
    marks _ (by decide : ('*' : CodePoint) ≠ '\r'),
    marks _ (by decide : ('[' : CodePoint) ≠ '\r'), marks _ (by decide : ('|' : CodePoint) ≠ '\r'),
      hasListMarker_joinLineEnds,
    fences]

end Detection
end LabEditor
