import LabEditor.Proofs.Detection.Size
import Mathlib.Data.List.Infix

/-! Detection does nothing to a page that it has made. The second run sets the same blocks aside,
finds a code span in each snippet that the first one has written, and follows the code tags as
before. -/
namespace LabEditor.Detection

open Markup (Block)

variable {line t page once twice : Text} {ps : List (Piece Text Text)}

theorem sheet_guess (single : Text.hasPart "\r\r\n" page = false) :
    sheet (guess page) = guessFrom false (sheet page) := by
  rw [sheet, parts_guess]
  exact exceptLast_eq_self_of_forall₂ (fun _ _ => Guesses.chomp)
    (forall₂_guesses false (sheet page)) (sheet_chomped single)

/-- What a rule has made is left alone, and no code tag takes in what follows. -/
theorem Guessed.stays (guessed : Guessed line t) :
    rewrite guessLine false (holdsCode t) t = t ∧ after false t = false := by
  rcases guessed.kind with heading | ⟨code, mark, snippet⟩
  · have settled : Settled guessLine t := Or.inl heading.opening?
    exact ⟨settled.rewrite false (holdsCode t), settled.after⟩
  · have held : holdsCode t = true := snippet.held
    refine ⟨?_, after_body snippet.body false⟩
    rw [held, rewrite_held]

theorem guessFrom_idem (inBlock : Bool) (ps : List (Piece Text Text)) :
    guessFrom inBlock (guessFrom inBlock ps) = guessFrom inBlock ps := by
  -- `inBlock` is the same in both runs: a line is rewritten outside only, and the result stays so.
  induction ps generalizing inBlock with
  | nil => rfl
  | cons part ps ih =>
    cases part with
    | hit block => exact congrArg (Piece.hit block :: ·) (ih inBlock)
    | plain line =>
      rw [guessFrom]
      rcases rewrite_cases inBlock (holdsCode line) line with same | ⟨body, outside, free, found⟩
      · rw [same, guessFrom, same, ih]
      · obtain ⟨stays, outsideStill⟩ := (guessed found).stays
        rw [outside] at stays outsideStill ⊢
        rw [guessFrom, stays, outsideStill, after_body body, ih]

theorem guess_idem (single : Text.hasPart "\r\r\n" page = false) :
    guess (guess page) = guess page := by
  rw [guess, sheet_guess single, guessFrom_idem]
  rfl

/-- Detection is idempotent on pages without marks of tokens, whose carriage returns all belong to
line ends. On a page that fits a machine, both runs return. -/
theorem detect_idempotent (page : Text) (unmarked : spanMarks.opening ∉ page)
    (paired : ∀ rest, ('\r' : CodePoint) :: rest <:+ page → rest.head? = some ('\n' : CodePoint)) :
    (∀ once twice, detect page = .ok once → detect once = .ok twice → twice = once) ∧
      (page.Addressable → ∃ once, detect page = .ok once ∧ detect once = .ok once) := by
  have same := guess_idem (Text.single_of_paired paired)
  have unmarkedStill := unmarked_guess unmarked
  refine ⟨fun once twice first second => ?_, fun addressable => ⟨guess page, ?_, ?_⟩⟩
  · rw [of_detect unmarked first] at second ⊢
    rw [of_detect unmarkedStill second, same]
  · exact detect_total unmarked (addressable.few (by omega))
  · have size := guess_length_le page
    rw [detect_total unmarkedStill (addressable.few (by omega)), same]

theorem detect_idempotent_mixed : ∃ once,
    detect "Getting Started\r\n$ echo it`s\n\x7b\x7bexec\x7d\x7d\n$ ls" = .ok once ∧
      detect once = .ok once := by
  have paired : ∀ t ∈
      List.tails ("Getting Started\r\n$ echo it`s\n\x7b\x7bexec\x7d\x7d\n$ ls" : Text),
      t.head? = some ('\r' : CodePoint) → t.tail.head? = some ('\n' : CodePoint) := by decide
  obtain ⟨_, total⟩ := detect_idempotent
    "Getting Started\r\n$ echo it`s\n\x7b\x7bexec\x7d\x7d\n$ ls" (by decide)
    fun rest tail => paired ('\r' :: rest) ((List.mem_tails _ _).mpr tail) rfl
  exact total (by decide)

end LabEditor.Detection
