import LabEditor.Proofs.Detection.Guess

/-! How the parts of a page and those of its guess are related. Blocks stay, and each other line
stays or gives way to a heading or a snippet; so the parts are found again in the guess. -/
namespace LabEditor.Detection

open Markup (Block)

variable {line t page : Text} {ps qs : List (Piece Text Text)} {part other : Piece Text Text}

/-- What detection makes of a part. -/
inductive Guesses : Piece Text Text → Piece Text Text → Prop where
  | same {part : Piece Text Text} : Guesses part part
  | line {line t : Text} : Guessed line t → Guesses (.plain line) (.plain t)

theorem forall₂_guesses (inBlock : Bool) (ps : List (Piece Text Text)) :
    List.Forall₂ Guesses ps (guessFrom inBlock ps) := by
  induction ps generalizing inBlock with
  | nil => exact .nil
  | cons part ps ih =>
    cases part with
    | hit block => exact .cons .same (ih inBlock)
    | plain line =>
      refine .cons ?_ (ih _)
      rcases rewrite_cases inBlock (holdsCode line) line with same | ⟨_, _, _, found⟩
      · rw [same]
        exact .same
      · exact .line (guessed found)

theorem Guesses.chomp (guesses : Guesses part other) (same : chompPart part = part) :
    chompPart other = other := by
  cases guesses with
  | same => exact same
  | line guessed => exact congrArg Piece.plain guessed.ended

theorem Guesses.mem (guesses : Guesses part other) (member : c ∈ text other) :
    c ∈ text part ∨ Ordinary c := by
  cases guesses with
  | same => exact Or.inl member
  | line guessed => exact guessed.mem c member

theorem Guesses.length_le (guesses : Guesses part other) :
    (text other).length ≤ (text part).length + 14 := by
  cases guesses with
  | same => exact Nat.le_add_right _ _
  | line guessed => exact guessed.short

theorem keeps_refl (part : Piece Text Text) : Keeps part part := by
  cases part with
  | plain line => exact .plain (.refl line)
  | hit block => exact .hit

theorem keeps_chomp (part : Piece Text Text) : Keeps part (chompPart part) := by
  cases part with
  | hit block => exact .hit
  | plain line => exact .plain (sameFence_chomp line)

theorem Keeps.guesses (keeps : Keeps part other) (guesses : Guesses other last) :
    Keeps part last := by
  cases guesses with
  | same => exact keeps
  | line guessed =>
    cases keeps with
    | plain same => exact .plain (same.trans guessed.fence)

theorem keeps_guess (page : Text) :
    List.Forall₂ Keeps (parts page) (guessFrom false (sheet page)) := by
  have chomped : List.Forall₂ Keeps (parts page) (sheet page) :=
    forall₂_exceptLast keeps_refl keeps_chomp _
  refine forall₂_trans (fun part other last keeps guesses => ?_) chomped
    (forall₂_guesses false (sheet page))
  exact Keeps.guesses keeps guesses

theorem mem_text_guess (known : part ∈ guessFrom false (sheet page)) (inside : c ∈ text part) :
    c ∈ page ∨ Ordinary c := by
  have related := (forall₂_guesses false (sheet page)).flip
  refine forall_of_forall₂ related (P := fun part => ∀ c ∈ text part, c ∈ page ∨ Ordinary c) ?_ part
    known c inside
  intro other origin member guesses c inside
  exact (guesses.mem inside).imp_left (mem_text_sheet member)

/-- Detection brings no character into a page that is not one of ASCII. -/
theorem guess_free (beyond : 0x80 ≤ c.toNat) (free : c ∉ page) : c ∉ guess page := by
  intro member
  rcases Text.mem_of_mem_glue member with rfl | ⟨t, known, inside⟩
  · exact absurd beyond (by decide)
  · obtain ⟨part, origin, rfl⟩ := List.mem_map.mp known
    rcases mem_text_guess origin inside with here | ordinary
    · exact free here
    · exact Nat.not_lt_of_le beyond ordinary.2

theorem unmarked_guess (unmarked : spanMarks.opening ∉ page) : spanMarks.opening ∉ guess page :=
  guess_free (by decide) unmarked

theorem guess_oneLine (known : .plain line ∈ guessFrom false (sheet page)) : ('\n' : CodePoint) ∉ line := by
  have related := (forall₂_guesses false (sheet page)).flip
  refine forall_of_forall₂ related
    (P := fun part => ∀ line, part = .plain line → ('\n' : CodePoint) ∉ line) ?_ _
    known line rfl
  rintro other origin member guesses line rfl inside
  cases guesses with
  | same => exact sheet_oneLine member inside
  | line guessed =>
    rcases guessed.mem _ inside with here | ordinary
    · exact sheet_oneLine member here
    · exact ordinary.1 rfl

theorem guessFrom_ne_nil (inBlock : Bool) (some : ps ≠ []) : guessFrom inBlock ps ≠ [] := by
  obtain ⟨part, ps, rfl⟩ := List.exists_cons_of_ne_nil some
  cases part with
  | plain line => exact List.cons_ne_nil _ _
  | hit block => exact List.cons_ne_nil _ _

theorem cut_guess (page : Text) : Text.cut '\n' (guess page) =
    Piece.writeAll (Text.cut '\n') (guessFrom false (sheet page)) :=
  cut_text (guessFrom_ne_nil false (sheet_ne_nil page)) fun _ => guess_oneLine

/-- Detection keeps the parts of a page apart as they are. -/
theorem parts_guess (page : Text) : parts (guess page) = guessFrom false (sheet page) := by
  have scans := rescan (fun line => Text.cut_free) (scans_fenced (Text.cut '\n' page))
    (keeps_guess page) none
  rw [parts, cut_guess]
  exact scans.pieces

end LabEditor.Detection
