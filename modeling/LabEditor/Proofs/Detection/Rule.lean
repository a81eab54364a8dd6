import LabEditor.Detection.Basic
import LabEditor.Proofs.Detection.Fence
import LabEditor.Proofs.Detection.Span
import LabEditor.Proofs.Markup.Tag
import Mathlib.Data.Option.Basic

/-! What the rules make of a line: a heading, or a snippet of code. No rule applies to what another
one has made, so that the rules are one rule in one pass. -/
namespace LabEditor.Detection

open Markup (tagLine?)

variable {line t code : Text}

theorem tagLine?_none (apart : t.head? ≠ some ('{' : CodePoint)) : tagLine? t = none := by
  have closed : Text.after? "\x7b\x7b" t = none := by
    cases t with
    | nil => rfl
    | cons c t => exact Text.after?_head_ne (fun same => apart (congrArg some same.symm)) _ t
  refine List.findSome?_eq_none_iff.mpr fun tag _ => ?_
  simp only [Markup.TagLine.readAs?, closed, Option.bind_eq_bind, Option.bind_none]

/-- A heading, as a rule writes it. -/
def IsHeading (t : Text) : Prop :=
  ∃ title, t = "\x7b\x7bh1\x7d\x7d " ++ title

theorem IsHeading.tag (heading : IsHeading t) :
    ∃ tag, tagLine? t = some tag ∧ tag.role.opensCode = false := by
  obtain ⟨title, rfl⟩ := heading
  obtain ⟨tag, read, spelled⟩ : ∃ tag,
      tagLine? ("\x7b\x7bh1\x7d\x7d " ++ title) = some tag ∧
        tag.spelling = "h1" := ⟨_, rfl, rfl⟩
  refine ⟨tag, read, ?_⟩
  have lowered : Text.lower "h1" = "h1" := by decide
  simp only [Markup.TagLine.role, spelled, lowered, if_true]
  rfl

/-- A snippet, as a rule writes it: code in backticks, and a marker. -/
structure IsSnippet (t : Text) (code mark : Text) : Prop where
  shape : t = inlineCode code ++ ('{' : CodePoint) :: mark
  full : code ≠ []
  line : ('\n' : CodePoint) ∉ code

theorem inlineCode_free (free : ('\x60' : CodePoint) ∉ code) :
    inlineCode code = List.replicate 1 ('\x60' : CodePoint) ++
      (code ++ List.replicate 1 ('\x60' : CodePoint)) := by
  rw [inlineCode, if_neg (by simpa using free)]
  rfl

theorem quotable_free (full : code ≠ []) (oneLine : ('\n' : CodePoint) ∉ code)
    (free : ('\x60' : CodePoint) ∉ code) :
    Quotable code :=
  ⟨full, oneLine, fun same => free (List.mem_of_mem_head? same),
    fun same => free (List.mem_of_getLast? same)⟩

theorem inlineCode_ticked (ticked : ('\x60' : CodePoint) ∈ code) : inlineCode code =
    List.replicate 2 ('\x60' : CodePoint) ++
      (((' ' : CodePoint) :: code ++ ([' '] : Text)) ++ List.replicate 2 ('\x60' : CodePoint)) := by
  rw [inlineCode, if_pos (by simpa using ticked), List.append_assoc, List.append_assoc]
  rfl

theorem quotable_padded (oneLine : ('\n' : CodePoint) ∉ code) :
    Quotable ((' ' : CodePoint) :: code ++ ([' '] : Text)) := by
  refine ⟨by simp, by simpa using oneLine, by simp, ?_⟩
  rw [List.getLast?_append_of_ne_nil _ (by simp)]
  decide

/-- Code stands between one backtick and another, or between two and two. -/
theorem inlineCode_eq (full : code ≠ []) (oneLine : ('\n' : CodePoint) ∉ code) :
    ∃ n body, n < 2 ∧ Quotable body ∧
    inlineCode code = List.replicate (n + 1) ('\x60' : CodePoint) ++
      (body ++ List.replicate (n + 1) ('\x60' : CodePoint)) := by
  by_cases ticked : ('\x60' : CodePoint) ∈ code
  · exact ⟨1, _, by decide, quotable_padded oneLine, inlineCode_ticked ticked⟩
  · exact ⟨0, code, by decide, quotable_free full oneLine ticked, inlineCode_free ticked⟩

theorem IsSnippet.quoted (snippet : IsSnippet t code mark) : ∃ n body, n < 2 ∧ Quotable body ∧
    t = List.replicate (n + 1) ('\x60' : CodePoint) ++
      (body ++ (List.replicate (n + 1) ('\x60' : CodePoint) ++ ('{' : CodePoint) :: mark)) := by
  obtain ⟨n, body, few, quotable, same⟩ := inlineCode_eq snippet.full snippet.line
  refine ⟨n, body, few, quotable, ?_⟩
  rw [snippet.shape, same, List.append_assoc, List.append_assoc]

theorem IsSnippet.front (snippet : IsSnippet t code mark) : t.head? = some ('\x60' : CodePoint) := by
  obtain ⟨n, body, _, _, rfl⟩ := snippet.quoted
  rfl

theorem IsSnippet.untagged (snippet : IsSnippet t code mark) : tagLine? t = none :=
  tagLine?_none (by rw [snippet.front]; decide)

theorem IsSnippet.visible (snippet : IsSnippet t code mark) : Text.isBlankText t = false := by
  obtain ⟨n, body, _, _, rfl⟩ := snippet.quoted
  rfl

/-- A snippet begins with a code span. -/
theorem IsSnippet.held (snippet : IsSnippet t code mark) :
    (inlinePattern.pieces t).any Piece.isHit = true := by
  obtain ⟨n, body, _, quotable, rfl⟩ := snippet.quoted
  exact held_quoted quotable (by decide) n mark

theorem run_lt (apart : ¬ IsFenceChar d) (rest : Text) :
    ∀ c, IsFenceChar c → Text.run c (d :: rest) < 3 := by
  intro c fence
  have other : d ≠ c := by
    rintro rfl
    exact apart fence
  rw [Text.run_cons other]
  decide

theorem IsSnippet.run_lt (snippet : IsSnippet t code mark) :
    ∀ c, IsFenceChar c → Text.run c t < 3 := by
  obtain ⟨n, body, few, quotable, rfl⟩ := snippet.quoted
  rintro c (rfl | rfl)
  · have front : (body ++ (List.replicate (n + 1) ('\x60' : CodePoint) ++ ('{' : CodePoint) ::
        mark)).head? ≠ some ('\x60' : CodePoint) := by
      rw [List.head?_append_of_ne_nil _ quotable.full]
      exact quotable.first
    rw [Text.run_replicate front]
    omega
  · rw [List.replicate_succ, List.cons_append, Text.run_cons (by decide)]
    decide

theorem of_asHeading (found : asHeading line = some t) : line.head?.any Text.isBlank = false ∧
    isTitle (Text.trim line) = true ∧ t = "\x7b\x7bh1\x7d\x7d " ++ Text.trim line := by
  simp only [asHeading] at found
  split at found
  · contradiction
  · rename_i go
    simp only [Bool.or_eq_true, Bool.not_eq_true', decide_eq_true_eq, not_or, Bool.not_eq_false,
      Bool.not_eq_true] at go
    cases found
    exact ⟨go.1.1.1, go.2, rfl⟩

/-- Code is cut out of the line behind its mark. -/
theorem of_snippet? (found : snippet? t = some code) (mark : Text) :
    code <:+: t ∧ IsSnippet (inlineCode code ++ ('{' : CodePoint) :: mark) code mark := by
  simp only [snippet?] at found
  split at found
  · contradiction
  · rename_i go
    cases found
    rw [Text.splitWhen_eq] at go ⊢
    have taken : (Text.trimStart t).takeWhile (fun (c : CodePoint) => !c == '\n') <+: Text.trimStart t :=
      List.takeWhile_prefix _
    have part := Text.dropEndWhile_isPrefix Text.isBlank
      ((Text.trimStart t).takeWhile (fun c => !c == '\n'))
    refine ⟨(part.trans taken).isInfix.trans (Text.trimStart_suffix t).isInfix, rfl, ?_, ?_⟩
    · cases body : Text.trimStart t with
      | nil => simp [body] at go
      | cons c more =>
        have visible := Text.visible_of_trimStart body
        have line : (!c == '\n') = true := by
          by_cases same : c = '\n'
          · rw [same] at visible
            exact absurd visible (by decide)
          · simpa using same
        have first : c ∈ (c :: more).takeWhile (fun (c : CodePoint) => !c == '\n') := by
          rw [List.takeWhile_cons, if_pos line]
          exact List.mem_cons_self
        exact Text.dropEndWhile_ne_nil first visible
    · intro member
      have kept := List.mem_takeWhile_imp (part.subset member)
      simp at kept

theorem of_asExec (found : asExec line = some t) : ∃ c rest code, line = c :: rest ∧
    (c = '$' ∨ c = '>') ∧ code <:+: rest ∧ IsSnippet t code ("\x7bexec\x7d\x7d" : Text) := by
  unfold asExec at found
  split at found
  · contradiction
  · rename_i c rest
    split at found
    · rename_i sign
      obtain ⟨code, read, rfl⟩ := Option.map_eq_some_iff.mp found
      obtain ⟨origin, snippet⟩ := of_snippet? read "\x7bexec\x7d\x7d"
      exact ⟨c, rest, code, rfl, by simpa using sign, origin, snippet⟩
    · contradiction

theorem of_asCopy (found : asCopy line = some t) : ∃ c rest code, line = c :: rest ∧
    (c = '\t' ∨ c = ' ') ∧ code <:+: rest ∧ IsSnippet t code ("\x7bcopy\x7d\x7d" : Text) := by
  unfold asCopy at found
  split at found
  · rename_i rest
    obtain ⟨code, read, rfl⟩ := Option.map_eq_some_iff.mp found
    obtain ⟨origin, snippet⟩ := of_snippet? read "\x7bcopy\x7d\x7d"
    exact ⟨'\t', rest, code, rfl, Or.inl rfl, origin, snippet⟩
  · simp only at found
    split at found
    · rename_i rest spaces
      obtain ⟨code, read, rfl⟩ := Option.map_eq_some_iff.mp found
      obtain ⟨origin, snippet⟩ := of_snippet? read "\x7bcopy\x7d\x7d"
      exact ⟨' ', _, code, Text.after?_eq_some.mp spaces, Or.inr rfl,
        origin.trans (List.suffix_append _ rest).isInfix, snippet⟩
    · contradiction

/-- The rules as one: the first of them that applies. -/
def guessLine : Rule := fun line =>
  (asHeading line <|> asExec line) <|> asCopy line

/-- A character of ASCII that does not end a line. -/
def Ordinary (c : CodePoint) : Prop :=
  c ≠ '\n' ∧ c.toNat < 0x80

instance : DecidablePred Ordinary := fun c =>
  inferInstanceAs (Decidable (c ≠ '\n' ∧ c.toNat < 0x80))

theorem ordinary_of_all (all : t.all (decide <| Ordinary ·) = true) (member : c ∈ t) : Ordinary c :=
  of_decide_eq_true (List.all_eq_true.mp all c member)

/-- What comes of an unmarked line that a rule applies to. -/
structure Guessed (line t : Text) : Prop where
  kind : IsHeading t ∨ ∃ code mark, IsSnippet t code mark
  fence : SameFence line t
  mem : ∀ c ∈ t, c ∈ line ∨ Ordinary c
  ended : Text.chomp t = t
  short : t.length ≤ line.length + 14

theorem mem_inlineCode (member : c ∈ inlineCode code) : c ∈ code ∨ c = '\x60' ∨ c = ' ' := by
  unfold inlineCode at member
  split at member
  · simp at member
    tauto
  · simp at member
    tauto

theorem length_inlineCode_le (code : Text) : (inlineCode code).length ≤ code.length + 6 := by
  unfold inlineCode
  split
  · simp
  · simp

theorem of_isTitle (title : isTitle t = true) : ∃ c front last, t = c :: (front ++ [last]) ∧
    ('A' ≤ c ∧ c ≤ 'Z') ∧ isHeadingEnd last = true := by
  unfold isTitle at title
  split at title
  · rename_i c d rest
    simp only [Bool.and_eq_true, decide_eq_true_eq] at title
    obtain ⟨⟨capital, _⟩, ending⟩ := title
    obtain ⟨front, last, shape⟩ := (List.eq_nil_or_concat (d :: rest)).resolve_left (by simp)
    rw [shape, List.concat_eq_append] at ending ⊢
    exact ⟨c, front, last, rfl, capital, by simpa using ending⟩
  · contradiction

theorem guessed_heading (found : asHeading line = some t) : Guessed line t := by
  obtain ⟨front, title, rfl⟩ := of_asHeading found
  obtain ⟨first, body, last, shape, capital, ending⟩ := of_isTitle title
  have brace : ¬ IsFenceChar '{' := by decide
  refine ⟨Or.inl ⟨_, rfl⟩, SameFence.of_none ?_ (run_lt brace _), fun c member => ?_, ?_, ?_⟩
  · cases line with
    | nil => contradiction
    | cons d rest =>
      -- The line is not indented, so its first character is the capital letter of the title.
      have visible : Text.isBlank d = false := by simpa using front
      have same : first = d := by
        have part := Text.dropEndWhile_isPrefix Text.isBlank (d :: rest)
        rw [Text.trim, Text.trimStart_cons visible, Text.trimEnd] at shape
        rw [shape] at part
        exact (List.cons_prefix_cons.mp part).1
      refine run_lt ?_ rest
      rw [← same]
      rintro (rfl | rfl)
      · exact absurd capital (by decide)
      · exact absurd capital (by decide)
  · rcases List.mem_append.mp member with literal | inside
    · exact Or.inr (ordinary_of_all (by decide) literal)
    · exact Or.inl (Text.mem_of_mem_trim inside)
  · have visible : last ≠ '\r' := by
      rintro rfl
      exact absurd ending (by decide)
    rw [shape, ← List.cons_append, ← List.append_assoc, Text.chomp_append _ (by simp),
      Text.chomp_singleton visible]
  · have size := (Text.trim_sublist line).length_le
    have mark : ("\x7b\x7bh1\x7d\x7d " : Text).length = 7 := rfl
    rw [List.length_append, mark]
    omega

/-- A snippet of the code behind the first character of a line. -/
theorem IsSnippet.guessed (snippet : IsSnippet t code mark) (apart : ¬ IsFenceChar c)
    (origin : code <:+: rest)
    (marker : mark = ("\x7bexec\x7d\x7d" : Text) ∨ mark = "\x7bcopy\x7d\x7d") :
    Guessed (c :: rest) t := by
  refine ⟨Or.inr ⟨code, mark, snippet⟩,
    SameFence.of_none (Detection.run_lt apart rest) snippet.run_lt, fun d member => ?_, ?_, ?_⟩
  · rw [snippet.shape] at member
    rcases List.mem_append.mp member with inside | behind
    · rcases mem_inlineCode inside with here | rfl | rfl
      · exact Or.inl (List.mem_cons_of_mem c (origin.subset here))
      · exact Or.inr (by decide)
      · exact Or.inr (by decide)
    · refine Or.inr ?_
      rcases marker with rfl | rfl
      · exact ordinary_of_all (by decide) behind
      · exact ordinary_of_all (by decide) behind
  · rw [snippet.shape, Text.chomp_append _ (by simp)]
    rcases marker with rfl | rfl <;> rfl
  · have quoted := length_inlineCode_le code
    have size := origin.length_le
    have behind : (('{' : CodePoint) :: mark).length = 8 := by
      rcases marker with rfl | rfl <;> rfl
    rw [snippet.shape, List.length_append, behind, List.length_cons]
    omega

theorem guessed_exec (found : asExec line = some t) : Guessed line t := by
  obtain ⟨c, rest, code, rfl, sign, origin, snippet⟩ := of_asExec found
  refine snippet.guessed ?_ origin (Or.inl rfl)
  rcases sign with rfl | rfl <;> decide

theorem guessed_copy (found : asCopy line = some t) : Guessed line t := by
  obtain ⟨c, rest, code, rfl, indent, origin, snippet⟩ := of_asCopy found
  refine snippet.guessed ?_ origin (Or.inr rfl)
  rcases indent with rfl | rfl <;> decide

theorem guessed (found : guessLine line = some t) : Guessed line t := by
  rcases (Option.orElse_eq_some _ _ _).mp found with ahead | ⟨_, copy⟩
  · rcases (Option.orElse_eq_some _ _ _).mp ahead with heading | ⟨_, exec⟩
    · exact guessed_heading heading
    · exact guessed_exec exec
  · exact guessed_copy copy

end LabEditor.Detection
