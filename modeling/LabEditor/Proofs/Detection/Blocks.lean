import LabEditor.Proofs.Detection.Idempotent

/-! The code blocks of a page before and after detection. Detection passes over fenced blocks, and
the reader of a page does not; so both agree on what a code tag takes in as long as no fenced block
leaves a code tag open behind it. -/
namespace LabEditor.Detection

open Markup (tagLine? Block)

variable {line other page out : Text} {lines others : List Text} {inBody inBlock : Bool}
  {ps : List (Piece Text Text)}

def isCode : Block → Bool
  | .exec _ _ | .copy _ => true
  | _ => false

/-- The code that a reader of a page can run or copy. -/
def codeOf (page : Text) : List Block :=
  (Block.ofLines (Markup.lines page)).filter isCode

/-- The code of a line, given the lines behind it that a code tag would take in. -/
def codeAt (line : Text) (body : List Text) : List Block :=
  match tagLine? line with
  | some tag => (Block.ofTagLine tag (if tag.role.opensCode then body else [])).filter isCode
  | none => []

theorem isCode_ofPlainLine (line : Text) : isCode (Block.ofPlainLine line) = false := by
  unfold Block.ofPlainLine
  split <;> rfl

/-- A body that is not skipped is no code. -/
theorem code_skip (lines : List Text) :
    (Block.ofLinesFrom (lines.takeWhile Block.isBodyLine).length lines).filter isCode =
      (Block.ofLinesFrom 0 lines).filter isCode := by
  induction lines with
  | nil => rfl
  | cons line lines ih =>
    by_cases body : Block.isBodyLine line = true
    · have untagged : tagLine? line = none := by
        rw [Block.isBodyLine, Bool.and_eq_true] at body
        exact Option.isNone_iff_eq_none.mp body.2
      rw [List.takeWhile_cons_of_pos body, List.length_cons, Block.ofLinesFrom, ih,
        Block.ofLinesFrom, untagged, List.filter_cons_of_neg (by simp [isCode_ofPlainLine])]
    · rw [List.takeWhile_cons_of_neg body]
      rfl

theorem code_cons (line : Text) (lines : List Text) :
    (Block.ofLinesFrom 0 (line :: lines)).filter isCode =
      codeAt line (lines.takeWhile Block.isBodyLine) ++
        (Block.ofLinesFrom 0 lines).filter isCode := by
  rw [Block.ofLinesFrom, codeAt]
  cases tagLine? line with
  | none => exact List.filter_cons_of_neg (by simp [isCode_ofPlainLine])
  | some tag =>
    have rest : (Block.ofLinesFrom
        (if tag.role.opensCode then lines.takeWhile Block.isBodyLine else []).length
        lines).filter isCode = (Block.ofLinesFrom 0 lines).filter isCode := by
      split
      · exact code_skip lines
      · rfl
    simp only [List.filter_append, rest]

theorem codeAt_closed (closed : opening? line ≠ some true) (body : List Text) :
    codeAt line body = [] := by
  rw [codeAt]
  cases read : tagLine? line with
  | none => rfl
  | some tag =>
    rw [opening?, read] at closed
    cases role : tag.role with
    | heading level => simp only [Block.ofTagLine, role]; rfl
    | image => simp only [Block.ofTagLine, role]; rfl
    | copy => simp [role, Markup.Role.opensCode] at closed
    | exec interrupt => simp [role, Markup.Role.opensCode] at closed

theorem codeAt_other (closed : opening? line ≠ some true) (body rest : List Text) :
    codeAt line body = codeAt line rest := by
  rw [codeAt_closed closed, codeAt_closed closed]

/-- Lines that give way to others only where no code tag takes them in. -/
inductive Kept : (inBody : Bool) → List Text → List Text → Prop where
  | nil {inBody : Bool} : Kept inBody [] []
  | same {inBody : Bool} {line : Text} {lines others : List Text} :
      Kept (after inBody line) lines others → Kept inBody (line :: lines) (line :: others)
  | changed {line other : Text} {lines others : List Text} : opening? line ≠ some true →
      opening? other ≠ some true → Kept false lines others →
        Kept false (line :: lines) (other :: others)

theorem Kept.body (kept : Kept inBody lines others) (inside : inBody = true) :
    lines.takeWhile Block.isBodyLine = others.takeWhile Block.isBodyLine := by
  induction kept with
  | nil => rfl
  | changed => contradiction
  | @same inBody line lines others _ ih =>
    by_cases body : Block.isBodyLine line = true
    · rw [List.takeWhile_cons_of_pos body, List.takeWhile_cons_of_pos body,
        ih ((after_body body inBody).trans inside)]
    · rw [List.takeWhile_cons_of_neg body, List.takeWhile_cons_of_neg body]

/-- Such lines make the same code. -/
theorem Kept.code (kept : Kept inBody lines others) :
    (Block.ofLinesFrom 0 lines).filter isCode = (Block.ofLinesFrom 0 others).filter isCode := by
  induction kept with
  | nil => rfl
  | changed first second _ ih =>
    rw [code_cons, code_cons, codeAt_closed first, codeAt_closed second, ih]
  | @same inBody line lines others kept ih =>
    rw [code_cons, code_cons, ih]
    congr 1
    by_cases opens : opening? line = some true
    · -- The tag takes in lines, and none of those has been changed.
      have inside : after inBody line = true := by rw [after, opens]
      rw [kept.body inside]
    · exact codeAt_other opens _ _

theorem Kept.append (inBody : Bool) (lines : List Text)
    (kept : Kept (lines.foldl after inBody) rest others) :
    Kept inBody (lines ++ rest) (lines ++ others) := by
  induction lines generalizing inBody with
  | nil => exact kept
  | cons line lines ih => exact .same (ih _ kept)

theorem Kept.refl (inBody : Bool) (lines : List Text) : Kept inBody lines lines := by
  have whole := Kept.append inBody lines .nil
  rwa [List.append_nil] at whole

theorem after_chomp (inBody : Bool) (line : Text) :
    after inBody (Text.chomp line) = after inBody line := by
  rcases Text.chomp_cases line with same | same
  · rw [← same]
  · have opening : opening? line = opening? (Text.chomp line) := by
      conv_lhs => rw [same]
      rw [opening?, Markup.role_foreign (by decide)]
      rfl
    have blank : Text.isBlankText line = Text.isBlankText (Text.chomp line) := by
      conv_lhs => rw [same]
      rw [Text.isBlankText, List.all_append]
      exact Bool.and_true _
    rw [after, after, opening, blank]

/-- What is inside for the reader of a page is inside for detection. -/
theorem after_mono (within : inBody ≤ inBlock) (line : Text) :
    after inBody line ≤ after inBlock line := by
  rw [after, after]
  cases opening? line with
  | some opens => exact Bool.le_refl opens
  | none =>
    intro inside
    rw [Bool.and_eq_true] at inside ⊢
    exact inside.imp_left within

/-- A block at whose end a code tag still takes in lines. -/
def LeavesOpen (block : Text) : Prop :=
  (Text.cut '\n' block).foldl after false = true

instance : DecidablePred LeavesOpen := fun block =>
  inferInstanceAs (Decidable ((Text.cut '\n' block).foldl after false = true))

/-- The lines of parts, as the reader of a page gets them. -/
def rows (ps : List (Piece Text Text)) : List Text :=
  exceptLast Text.chomp (Piece.writeAll (Text.cut '\n') ps)

theorem rows_cons (part : Piece Text Text) (more : ps ≠ []) :
    rows (part :: ps) = (part.write (Text.cut '\n')).map Text.chomp ++ rows ps :=
  exceptLast_append _ _ (writeAll_cut_ne_nil more)

theorem rows_line (ended : Text.chomp line = line) (more : ps ≠ []) :
    rows (.plain line :: ps) = line :: rows ps := by
  rw [rows_cons _ more, Piece.write, List.map_singleton, ended, List.singleton_append]

theorem foldl_after_chomp (inBody : Bool) (lines : List Text) :
    (lines.map Text.chomp).foldl after inBody = lines.foldl after inBody := by
  rw [List.foldl_map]
  congr 1
  funext inBody line
  exact after_chomp inBody line

theorem opening?_of_body (body : Block.isBodyLine line = true) : opening? line ≠ some true := by
  rw [isBodyLine_eq, Bool.and_eq_true, Option.isNone_iff_eq_none] at body
  rw [body.2]
  simp

theorem Guessed.opening? (guessed : Guessed line t) : Detection.opening? t ≠ some true := by
  rcases guessed.kind with heading | ⟨code, mark, snippet⟩
  · rw [heading.opening?]
    decide
  · exact opening?_of_body snippet.body

/-- One line, and the lines that follow it. -/
theorem kept_line (within : inBody ≤ inBlock) (holds : Bool) (line : Text)
    (rest : Kept (after inBody line) lines others) :
    Kept inBody (line :: lines) (rewrite guessLine inBlock holds line :: others) := by
  rcases rewrite_cases inBlock holds line with same | ⟨body, outside, _, found⟩
  · rw [same]
    exact .same rest
  · rw [outside] at within
    cases Bool.eq_false_of_le_false within
    rw [after_body body] at rest
    exact .changed (opening?_of_body body) (guessed found).opening? rest

/-- What detection does to the lines of a page, where `inBody` is what the reader of the page
knows, and `inBlock` what detection knows. -/
theorem kept_guess (within : inBody ≤ inBlock) (chomped : exceptLast chompPart ps = ps)
    (closed : ∀ block, .hit block ∈ ps → ¬ LeavesOpen block) :
    Kept inBody (rows ps) (rows (guessFrom inBlock ps)) := by
  induction ps generalizing inBody inBlock with
  | nil => exact .nil
  | cons part ps ih =>
    by_cases last : ps = []
    · subst last
      cases part with
      | hit block => exact Kept.refl inBody _
      | plain line => exact kept_line within (holdsCode line) line .nil
    · obtain ⟨here, rest⟩ := (exceptLast_eq_self last).mp chomped
      have later : ∀ block, .hit block ∈ ps → ¬ LeavesOpen block :=
        fun block member => closed block (List.mem_cons_of_mem part member)
      have more (inBlock : Bool) : guessFrom inBlock ps ≠ [] := guessFrom_ne_nil inBlock last
      cases part with
      | hit block =>
        rw [rows_cons _ last, guessFrom, rows_cons _ (more inBlock)]
        refine Kept.append _ _ (ih (fun inside => ?_) rest later)
        -- If detection knows of no code tag here, the block itself leaves one open for the reader.
        refine Bool.of_not_eq_false fun outside => ?_
        rw [outside] at within
        rw [Bool.eq_false_of_le_false within, Piece.write, foldl_after_chomp] at inside
        exact closed block List.mem_cons_self inside
      | plain line =>
        have ended : Text.chomp (rewrite guessLine inBlock (holdsCode line) line) =
            rewrite guessLine inBlock (holdsCode line) line := by
          rcases rewrite_cases inBlock (holdsCode line) line with same | ⟨_, _, _, found⟩
          · rw [same]
            exact Piece.plain.inj here
          · exact (guessed found).ended
        rw [rows_line (Piece.plain.inj here) last, guessFrom, rows_line ended (more _)]
        exact kept_line within _ line (ih (after_mono within line) rest later)

theorem rows_chomped
    (chomped : exceptLast chompPart (exceptLast chompPart ps) = exceptLast chompPart ps) :
    rows (exceptLast chompPart ps) = rows ps := by
  induction ps with
  | nil => rfl
  | cons part ps ih =>
    by_cases last : ps = []
    · rw [last]
      rfl
    · have more := exceptLast_ne_nil chompPart last
      rw [exceptLast_cons _ _ last] at chomped ⊢
      obtain ⟨here, rest⟩ := (exceptLast_eq_self more).mp chomped
      rw [rows_cons _ more, rows_cons _ last, ih rest]
      congr 1
      cases part with
      | hit block => rfl
      | plain line => exact congrArg ([·]) (Piece.plain.inj here)

theorem rows_page (single : Text.hasPart "\r\r\n" page = false) :
    rows (sheet page) = Markup.lines page := by
  rw [sheet, rows_chomped (sheet_chomped single), rows, writeAll_parts, Text.lines_eq]

theorem rows_guess (page : Text) :
    rows (guessFrom false (sheet page)) = Markup.lines (guess page) := by
  rw [rows, Text.lines_eq, cut_guess]

/-- Detection changes no code block of a page without marks of tokens, if none of the fenced blocks
of the page leaves a code tag open, and no line of it ends in two carriage returns. -/
theorem detect_code (page : Text) (unmarked : spanMarks.opening ∉ page)
    (single : Text.hasPart "\r\r\n" page = false)
    (closed : ∀ block ∈ fencedPattern.findAll (Text.cut '\n' page), ¬ LeavesOpen block) :
    (∀ out, detect page = .ok out → codeOf out = codeOf page) ∧
      (page.Addressable → ∃ out, detect page = .ok out) := by
  refine ⟨fun out found => ?_, fun addressable => ⟨guess page, ?_⟩⟩
  · have kept := kept_guess (Bool.le_refl false) (sheet_chomped single)
      fun block member => closed block (block_mem_sheet member)
    rw [rows_page single, rows_guess] at kept
    rw [of_detect unmarked found]
    exact kept.code.symm
  · exact detect_total unmarked (addressable.few (by omega))

theorem detect_code_fence : ∃ out,
    detect "```\n\x7b\x7bexec\x7d\x7d ls\n\n```\n\x7b\x7bcopy\x7d\x7d\n$ foo\n\n$ bar" = .ok out ∧
      codeOf out =
        codeOf "```\n\x7b\x7bexec\x7d\x7d ls\n\n```\n\x7b\x7bcopy\x7d\x7d\n$ foo\n\n$ bar" := by
  obtain ⟨same, total⟩ := detect_code
    "```\n\x7b\x7bexec\x7d\x7d ls\n\n```\n\x7b\x7bcopy\x7d\x7d\n$ foo\n\n$ bar"
    (by decide) (by decide) (by decide)
  obtain ⟨out, made⟩ := total (by decide)
  exact ⟨out, made, same out made⟩

/-- A code tag inside of a fenced block takes in lines behind it, which detection rewrites. -/
theorem detect_code_open_fence : ¬ ∀ page, spanMarks.opening ∉ page → spanMarks.closing ∉ page →
    ∀ out, detect page = .ok out → codeOf out = codeOf page := by
  intro kept
  have made : detect "```\n\x7b\x7bexec\x7d\x7d\n```\n$ foo" =
      .ok "```\n\x7b\x7bexec\x7d\x7d\n```\n`foo`\x7b\x7bexec\x7d\x7d" := by decide
  exact absurd (kept _ (by decide) (by decide) _ made) (by decide)

end LabEditor.Detection
