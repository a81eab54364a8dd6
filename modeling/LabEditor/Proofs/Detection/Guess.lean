import LabEditor.Proofs.Detection.Pass

/-! What detection makes of a page, said without tokens: its fenced blocks stay, and its other
lines are rewritten one by one, where a line that holds a code span stays too. -/
namespace LabEditor.Detection

open Markup (Block)

variable {spans : List Text} {line t : Text} {inBlock : Bool} {ps : List (Piece Text Text)}
  {numbers : List (Piece CodePoint Nat)} {lines : List (List (Piece CodePoint Nat))} {page out : Text}

def holdsCode (line : Text) : Bool :=
  (inlinePattern.pieces line).any Piece.isHit

/-- The parts of a page after detection. A block is passed over, even where it would end a code
tag. -/
def guessFrom : (inBlock : Bool) → List (Piece Text Text) → List (Piece Text Text)
  | _, [] => []
  | inBlock, .plain line :: ps =>
    .plain (rewrite guessLine inBlock (holdsCode line) line) :: guessFrom (after inBlock line) ps
  | inBlock, .hit block :: ps => .hit block :: guessFrom inBlock ps

/-- The page after detection. -/
def guess (page : Text) : Text :=
  Text.glue '\n' ((guessFrom false (sheet page)).map text)

/-- Up to its first number, a line is the line that it stands for. -/
theorem Stands.front {pieces : List (Piece CodePoint Text)} (stands : Stands spans numbers pieces) :
    ∃ front : Text, numbers = front.map .plain ∧ pieces = front.map .plain ∨
      ∃ n span others rest, numbers = front.map .plain ++ .hit n :: others ∧
        pieces = front.map .plain ++ .hit span :: rest := by
  induction pieces generalizing numbers with
  | nil =>
    have none : numbers = [] := List.map_eq_nil_iff.mp stands
    exact ⟨[], Or.inl ⟨none, rfl⟩⟩
  | cons piece pieces ih =>
    obtain ⟨number, others, rfl, here, rest⟩ := List.map_eq_cons_iff.mp stands
    cases piece with
    | hit span =>
      cases number with
      | plain c => contradiction
      | hit n => exact ⟨[], Or.inr ⟨n, span, others, pieces, rfl, rfl⟩⟩
    | plain c =>
      cases number with
      | hit n => contradiction
      | plain d =>
        cases here
        obtain ⟨front, ⟨rfl, rfl⟩ | ⟨n, span, behind, later, rfl, rfl⟩⟩ := ih rest
        · exact ⟨c :: front, Or.inl ⟨rfl, rfl⟩⟩
        · exact ⟨c :: front, Or.inr ⟨n, span, behind, later, rfl, rfl⟩⟩

theorem occurs_spell (unmarked : ∀ c, .plain c ∈ numbers → c ≠ spanMarks.opening) :
    tokenPattern.occurs (spanMarks.spell numbers) = numbers.any Piece.isHit := by
  rw [Pattern.occurs, Pattern.findAll, tokens_spell unmarked, Piece.values_map]
  induction numbers with
  | nil => rfl
  | cons number numbers ih =>
    cases number with
    | plain c => exact ih fun d member => unmarked d (List.mem_cons_of_mem _ member)
    | hit n => rfl

/-- A line with numbers for its spans looks like the line itself. -/
structure Alike (spelled line : Text) (holds : Bool) : Prop where
  occurs : tokenPattern.occurs spelled = holds
  opening : opening? spelled = opening? line
  blank : Text.isBlankText spelled = Text.isBlankText line
  same : holds = false → spelled = line

theorem Alike.after (alike : Alike spelled line holds) (inBlock : Bool) :
    Detection.after inBlock spelled = Detection.after inBlock line := by
  rw [Detection.after, Detection.after, alike.opening, alike.blank]

theorem blank_front (visible : Text.isBlank c = false) (front behind : Text) :
    Text.isBlankText (front ++ c :: behind) = false := by
  rw [Text.isBlankText, List.all_append, List.all_cons, visible, Bool.false_and, Bool.and_false]

theorem any_plains (front : Text) :
    (front.map (.plain : CodePoint → Piece CodePoint α)).any Piece.isHit = false := by
  simp [Piece.isHit, Piece.value?]

theorem any_hit (front : List (Piece CodePoint α)) (value : α) (rest : List (Piece CodePoint α)) :
    (front ++ .hit value :: rest).any Piece.isHit = true := by
  simp [Piece.isHit, Piece.value?]

/-- Where a token and a span begin, neither is seen as part of a tag, nor as blank. -/
theorem alike_front (found : tokenPattern.occurs (front ++ spanMarks.opening :: behind) = true)
    (rest : Text) :
    Alike (front ++ spanMarks.opening :: behind) (front ++ ('\x60' : CodePoint) :: rest) true where
  occurs := found
  opening := by
    rw [opening?, opening?, Markup.role_foreign (by decide), Markup.role_foreign (by decide)]
  blank := by
    rw [blank_front (by decide), blank_front (by decide)]
  same := fun free => absurd free (by decide)

theorem alike_line (unmarked : spanMarks.opening ∉ line)
    (stands : Stands spans numbers (inlinePattern.pieces line)) :
    Alike (spanMarks.spell numbers) line (holdsCode line) := by
  have marks : ∀ c, .plain c ∈ numbers → c ≠ spanMarks.opening := by
    rintro c member rfl
    exact unmarked (Pattern.mem_of_plain_mem_scan (stands.plain_mem member))
  have whole := text_pieces line
  have occurs := occurs_spell marks
  -- Without a span the line is spelled as itself; with one, both agree up to the first span.
  obtain ⟨front, ⟨plain, pieces⟩ | ⟨n, span, others, rest, found, pieces⟩⟩ := stands.front
  · have spelled : spanMarks.spell numbers = line := by
      rw [pieces, Piece.writeAll_plains] at whole
      rw [plain, TokenMarks.spell, Piece.writeAll_plains, whole]
    rw [holdsCode, pieces, any_plains]
    rw [plain, any_plains, ← plain] at occurs
    exact ⟨occurs, by rw [spelled], by rw [spelled], fun _ => spelled⟩
  · have held : holdsCode line = true := by
      rw [holdsCode, pieces]
      exact any_hit _ span rest
    have hit : numbers.any Piece.isHit = true := by
      rw [found]
      exact any_hit _ n others
    have tick : .hit span ∈ inlinePattern.pieces line := by
      rw [pieces]
      exact List.mem_append_right _ List.mem_cons_self
    obtain ⟨more, rfl⟩ := tick_of_hit_mem tick
    obtain ⟨behind, shape⟩ : ∃ behind, line = front ++ ('\x60' : CodePoint) :: behind := by
      rw [pieces, Piece.writeAll_append, Piece.writeAll_plains, Piece.writeAll_hit] at whole
      exact ⟨_, whole.symm⟩
    obtain ⟨later, spelled⟩ : ∃ later,
        spanMarks.spell numbers = front ++ spanMarks.opening :: later := by
      rw [found, TokenMarks.spell, Piece.writeAll_append, Piece.writeAll_plains, Piece.writeAll_hit]
      exact ⟨_, rfl⟩
    rw [hit, spelled] at occurs
    rw [held, spelled, shape]
    exact alike_front occurs behind

theorem stands_plains (spans : List Text) (t : Text) :
    Stands spans (t.map .plain) (t.map .plain) := by
  rw [Stands, List.map_map, List.map_map]
  rfl

theorem restores_plains (unmarked : spanMarks.opening ∉ t) : Restores spans (t.map .plain) t := by
  refine ⟨t.map .plain, stands_plains spans t, fun c member => ?_, Piece.writeAll_plains id t⟩
  rintro rfl
  exact unmarked (by simpa using member)

/-- A line stays, or the rules make another of it; then it is unmarked and holds no code. -/
theorem rewrite_cases (inBlock holds : Bool) (line : Text) :
    rewrite guessLine inBlock holds line = line ∨ Block.isBodyLine line = true ∧ inBlock = false ∧
      holds = false ∧ guessLine line = some (rewrite guessLine inBlock holds line) := by
  rw [rewrite]
  split
  · rename_i go
    simp only [Bool.and_eq_true, Bool.not_eq_true', Bool.or_eq_false_iff] at go
    obtain ⟨body, outside, free⟩ := go
    cases found : guessLine line with
    | none => exact Or.inl rfl
    | some t => exact Or.inr ⟨body, outside, free, rfl⟩
  · exact Or.inl rfl

theorem rewrite_unmarked (unmarked : spanMarks.opening ∉ line) (inBlock holds : Bool) :
    spanMarks.opening ∉ rewrite guessLine inBlock holds line := by
  rcases rewrite_cases inBlock holds line with same | ⟨_, _, _, found⟩
  · rwa [same]
  · intro member
    rcases (guessed found).mem _ member with inside | ordinary
    · exact unmarked inside
    · exact absurd ordinary.2 (by decide)

/-- The rules do to a line with numbers what they do to the line that it stands for. -/
theorem restores_rewrite (unmarked : spanMarks.opening ∉ line)
    (stands : Stands spans numbers (inlinePattern.pieces line)) (inBlock : Bool) :
    ∃ rewritten, rewrite guessLine inBlock (tokenPattern.occurs (spanMarks.spell numbers))
        (spanMarks.spell numbers) = spanMarks.spell rewritten ∧
      Restores spans rewritten (rewrite guessLine inBlock (holdsCode line) line) := by
  have alike := alike_line unmarked stands
  rw [alike.occurs]
  cases holds : holdsCode line with
  | false =>
    rw [alike.same holds]
    refine ⟨(rewrite guessLine inBlock false line).map .plain, ?_, ?_⟩
    · exact (Piece.writeAll_plains _ _).symm
    · exact restores_plains (rewrite_unmarked unmarked inBlock false)
  | true =>
    rw [rewrite_held, rewrite_held]
    refine ⟨numbers, rfl, inlinePattern.pieces line, stands, ?_, text_pieces line⟩
    rintro c member rfl
    exact unmarked (Pattern.mem_of_plain_mem_scan member)

theorem occurs_token (n : Nat) : tokenPattern.occurs (spanMarks.spell [.hit n]) = true :=
  occurs_spell fun c member => by simp at member

theorem after_token (inBlock : Bool) (n : Nat) :
    after inBlock (spanMarks.spell [.hit n]) = inBlock := by
  obtain ⟨rest, spelled⟩ : ∃ rest, spanMarks.spell [.hit n] = [] ++ spanMarks.opening :: rest :=
    ⟨_, rfl⟩
  have untagged : opening? (spanMarks.spell [.hit n]) = none := by
    rw [spelled, opening?, Markup.role_foreign (by decide)]
    rfl
  rw [after, untagged, spelled, blank_front (by decide), Bool.not_false, Bool.and_true]

theorem apply_guess (unmarked : ∀ line, .plain line ∈ ps → spanMarks.opening ∉ line)
    (related : List.Forall₂ (Stands spans) lines (ps.map spansOf)) (inBlock : Bool) :
    ∃ rewritten,
      apply guessLine inBlock (lines.map spanMarks.spell) = rewritten.map spanMarks.spell ∧
      List.Forall₂ (Restores spans) rewritten ((guessFrom inBlock ps).map text) := by
  induction ps generalizing lines inBlock with
  | nil =>
    cases related
    exact ⟨[], rfl, .nil⟩
  | cons part ps ih =>
    have others : ∀ line, .plain line ∈ ps → spanMarks.opening ∉ line :=
      fun line member => unmarked line (List.mem_cons_of_mem _ member)
    cases related with
    | @cons numbers _ rest _ stands related =>
      cases part with
      | plain line =>
        have free := unmarked line List.mem_cons_self
        obtain ⟨first, here, restores⟩ := restores_rewrite free stands inBlock
        obtain ⟨rewritten, later, all⟩ := ih others related (after inBlock line)
        refine ⟨first :: rewritten, ?_, .cons restores all⟩
        rw [List.map_cons, apply_cons, here, (alike_line free stands).after, later, List.map_cons]
      | hit block =>
        obtain ⟨rewritten, later, all⟩ := ih others related inBlock
        obtain ⟨number, others, rfl, here, none⟩ := List.map_eq_cons_iff.mp stands
        cases List.map_eq_nil_iff.mp none
        cases number with
        | plain c => contradiction
        | hit n =>
          -- A token is neither tagged nor blank, so what follows it is as far inside as before.
          refine ⟨[.hit n] :: rewritten, ?_, .cons ⟨[.hit block], stands, ?_, ?_⟩ all⟩
          · rw [List.map_cons, apply_cons, occurs_token, rewrite_held, after_token, later,
              List.map_cons]
          · intro c member
            simp at member
          · exact List.append_nil block

theorem detect_eq (unmarked : spanMarks.opening ∉ page) : ∃ lines,
    detect page = restore (protect page).spans (Text.glue '\n' (lines.map spanMarks.spell)) ∧
      List.Forall₂ (Restores (protect page).spans) lines
        ((guessFrom false (sheet page)).map text) := by
  obtain ⟨numbers, lines, stands⟩ := protected_lines page
  have free : ∀ line, .plain line ∈ sheet page → spanMarks.opening ∉ line :=
    fun line member inside => unmarked (mem_text_sheet member inside)
  obtain ⟨rewritten, same, restores⟩ := apply_guess free stands false
  refine ⟨rewritten, ?_, restores⟩
  rw [← same, ← lines, ← applyAll_eq]
  rfl

/-- What detection returns, if it returns anything. -/
theorem of_detect (unmarked : spanMarks.opening ∉ page) (found : detect page = .ok out) :
    out = guess page := by
  obtain ⟨lines, same, restores⟩ := detect_eq unmarked
  rw [same] at found
  exact of_restore restores found

theorem detect_of_few (unmarked : spanMarks.opening ∉ page)
    (few : (protect page).spans.length ≤ 10 ^ Text.maxDigits) : detect page = .ok (guess page) := by
  obtain ⟨lines, same, restores⟩ := detect_eq unmarked
  rw [same]
  exact restore_total restores few

end LabEditor.Detection
