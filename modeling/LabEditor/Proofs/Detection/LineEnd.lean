import LabEditor.Proofs.Detection.Size

/-! Detection and line ends. Blocks are set aside with the carriage returns in them, but the lines are
looked at without; so joining the line ends of a page before detection or after it comes to the same. -/
namespace LabEditor.Detection

open Markup (Block)

variable {line t page : Text} {ps qs : List (Piece Text Text)}

/-- A block inside of a page, without the carriage return that belongs to the line end behind it. -/
def chompBlock : Piece Text Text → Piece Text Text
  | .plain line => .plain line
  | .hit block => .hit (Text.chomp block)

def joinBlock : Piece Text Text → Piece Text Text
  | .plain line => .plain line
  | .hit block => .hit (Text.joinLineEnds block)

/-- The parts of a page with the line ends of their blocks joined. -/
def joinBlocks (ps : List (Piece Text Text)) : List (Piece Text Text) :=
  (exceptLast chompBlock ps).map joinBlock

theorem joinBlocks_cons (part : Piece Text Text) (more : ps ≠ []) :
    joinBlocks (part :: ps) = joinBlock (chompBlock part) :: joinBlocks ps := by
  rw [joinBlocks, exceptLast_cons _ _ more]
  rfl

/-- The same line, or blocks of any kind. -/
inductive SameLine : Piece Text Text → Piece Text Text → Prop where
  | plain (line : Text) : SameLine (.plain line) (.plain line)
  | hit (block other : Text) : SameLine (.hit block) (.hit other)

theorem sameLines_joinBlocks (ps : List (Piece Text Text)) :
    List.Forall₂ SameLine ps (joinBlocks ps) := by
  rw [joinBlocks, List.forall₂_map_right_iff]
  refine forall₂_exceptLast (R := fun part other => SameLine part (joinBlock other)) ?_ ?_ ps
  · rintro (line | block)
    · exact .plain line
    · exact .hit block _
  · rintro (line | block)
    · exact .plain line
    · exact .hit block _

theorem plain_mem_of_sameLines (same : List.Forall₂ SameLine ps qs) (member : .plain line ∈ ps) :
    .plain line ∈ qs := by
  induction same with
  | nil => exact member
  | cons here _ ih =>
    rcases List.mem_cons.mp member with first | later
    · subst first
      cases here
      exact List.mem_cons_self
    · exact List.mem_cons_of_mem _ (ih later)

/-- What detection makes of the lines does not depend on what is in the blocks. -/
theorem guessFrom_joinBlocks (inBlock : Bool) (ps : List (Piece Text Text)) :
    guessFrom inBlock (joinBlocks ps) = joinBlocks (guessFrom inBlock ps) := by
  induction ps generalizing inBlock with
  | nil => rfl
  | cons part ps ih =>
    by_cases last : ps = []
    · subst last
      cases part <;> rfl
    · rw [joinBlocks_cons part last]
      cases part with
      | plain line =>
        rw [chompBlock, joinBlock, guessFrom, guessFrom, ih,
          joinBlocks_cons _ (guessFrom_ne_nil _ last)]
        rfl
      | hit block =>
        rw [chompBlock, joinBlock, guessFrom, guessFrom, ih,
          joinBlocks_cons _ (guessFrom_ne_nil _ last)]
        rfl

/-- A part whose text, if it is a line, ends in no carriage return and holds no line feed. -/
theorem text_joinBlocks
    (lines : ∀ line, .plain line ∈ ps → Text.chomp line = line ∧ ('\n' : CodePoint) ∉ line) :
    Text.glue '\n' ((joinBlocks ps).map text) = Text.joinLineEnds (Text.glue '\n' (ps.map text)) := by
  rw [Text.joinLineEnds_glue]
  congr 1
  induction ps with
  | nil => rfl
  | cons part ps ih =>
    have rest := ih fun line member => lines line (List.mem_cons_of_mem _ member)
    by_cases last : ps = []
    · subst last
      cases part with
      | plain line =>
        have oneLine := Text.joinLineEnds_oneLine (lines line List.mem_cons_self).2
        simp [joinBlocks, exceptLast, joinBlock, text, oneLine]
      | hit block => rfl
    · rw [joinBlocks_cons part last, List.map_cons, List.map_cons,
        exceptLast_cons _ _ (by simpa using last), List.map_cons, rest]
      cases part with
      | plain line =>
        obtain ⟨ended, oneLine⟩ := lines line List.mem_cons_self
        simp [chompBlock, joinBlock, text, ended, Text.joinLineEnds_oneLine oneLine]
      | hit block => rfl

theorem writeAll_joinBlocks (ps : List (Piece Text Text)) :
    Piece.writeAll (Text.cut '\n') (joinBlocks (exceptLast chompPart ps)) =
      exceptLast Text.chomp (Piece.writeAll (Text.cut '\n') ps) := by
  induction ps with
  | nil => rfl
  | cons part ps ih =>
    by_cases last : ps = []
    · subst last
      cases part with
      | plain line => rfl
      | hit block =>
        have lines : Text.cut '\n' (Text.joinLineEnds block) ++ [] =
            exceptLast Text.chomp (Text.cut '\n' block ++ []) := by
          rw [List.append_nil, List.append_nil, Text.cut_joinLineEnds]
        exact lines
    · rw [exceptLast_cons _ _ last, joinBlocks_cons _ (exceptLast_ne_nil _ last)]
      cases part with
      | plain line =>
        rw [Piece.writeAll_plain, exceptLast_cons _ _ (writeAll_cut_ne_nil last), ← ih]
        rfl
      | hit block =>
        rw [Piece.writeAll_hit, exceptLast_append _ _ (writeAll_cut_ne_nil last), ← ih,
          ← Text.cut_joinLineEnds_chomp]
        rfl

theorem sameFences_joinBlocks (ps : List (Piece Text Text)) :
    List.Forall₂ SameFences ps (joinBlocks (exceptLast chompPart ps)) := by
  induction ps with
  | nil => exact .nil
  | cons part ps ih =>
    by_cases last : ps = []
    · subst last
      refine .cons ?_ .nil
      cases part with
      | plain line => exact .plain (.refl line)
      | hit block =>
        refine .hit ?_
        rw [Text.cut_joinLineEnds]
        exact forall₂_exceptLast SameFence.refl sameFence_chomp _
    · rw [exceptLast_cons _ _ last, joinBlocks_cons _ (exceptLast_ne_nil _ last)]
      refine .cons ?_ ih
      cases part with
      | plain line => exact .plain (sameFence_chomp line)
      | hit block =>
        refine .hit ?_
        rw [Text.cut_joinLineEnds_chomp]
        exact List.forall₂_map_right_iff.mpr (List.forall₂_same.mpr fun line _ => sameFence_chomp line)

/-- The parts of a page with its line ends joined. -/
theorem parts_joinLineEnds (page : Text) :
    parts (Text.joinLineEnds page) = joinBlocks (sheet page) := by
  have scans := rescan_lines (fun line => Text.cut_free) (scans_fenced (Text.cut '\n' page))
    (sameFences_joinBlocks (parts page)) none
  rw [writeAll_joinBlocks, writeAll_parts, ← Text.cut_joinLineEnds] at scans
  exact scans.pieces

theorem chompPart_free (free : ('\r' : CodePoint) ∉ page) (member : part ∈ parts page) :
    chompPart part = part := by
  cases part with
  | plain line =>
    have inside : ('\r' : CodePoint) ∉ line := fun inside =>
      free (Text.mem_of_mem_cut (plain_mem_parts member) inside)
    exact congrArg Piece.plain (Text.chomp_free inside)
  | hit block => rfl

/-- A page without carriage returns is looked at as it is. -/
theorem sheet_free (free : ('\r' : CodePoint) ∉ page) : sheet page = parts page :=
  exceptLast_id fun _ => chompPart_free free

theorem ended_guess {part : Piece Text Text} (free : ('\r' : CodePoint) ∉ page)
    (known : part ∈ guessFrom false (parts page)) :
    ∀ line ∈ Piece.write (Text.cut '\n') part, Text.chomp line = line := by
  have related := (forall₂_guesses false (parts page)).flip
  refine forall_of_forall₂ related
    (P := fun part => ∀ line ∈ Piece.write (Text.cut '\n') part, Text.chomp line = line) ?_ _ known
  intro other origin member guesses line inside
  cases guesses with
  | same =>
    have inPage : line ∈ Text.cut '\n' page := by
      rw [← writeAll_parts]
      exact List.mem_flatMap.mpr ⟨other, member, inside⟩
    exact Text.chomp_free fun within => free (Text.mem_of_mem_cut inPage within)
  | line guessed =>
    rw [List.mem_singleton.mp inside]
    exact guessed.ended

/-- Detection adds no carriage return at the end of a line. -/
theorem joinLineEnds_guess (free : ('\r' : CodePoint) ∉ page) :
    Text.joinLineEnds (guess page) = guess page := by
  rw [← Text.glue_cut '\n' (Text.joinLineEnds _), Text.cut_joinLineEnds, exceptLast_id, Text.glue_cut]
  rw [cut_guess, sheet_free free]
  intro line member
  obtain ⟨part, known, inside⟩ := List.mem_flatMap.mp member
  exact ended_guess free known line inside

/-- What detection makes of a page, and of the page with its line ends joined. -/
theorem guess_joinLineEnds (free : ('\r' : CodePoint) ∉ Text.joinLineEnds page) :
    guess (Text.joinLineEnds page) = Text.joinLineEnds (guess page) := by
  rw [guess, guess, ← text_joinBlocks, ← guessFrom_joinBlocks, ← parts_joinLineEnds,
    sheet_free free]
  intro line member
  have known : .plain line ∈ guessFrom false (parts (Text.joinLineEnds page)) := by
    rw [parts_joinLineEnds, guessFrom_joinBlocks]
    exact plain_mem_of_sameLines (sameLines_joinBlocks _) member
  exact ⟨ended_guess free known line (List.mem_singleton_self line), guess_oneLine member⟩

/-- The numbers in the lines are the same, whatever the blocks hold. -/
theorem number_sameLines (same : List.Forall₂ SameLine ps qs) (first : Nat) :
    Piece.number first ps = Piece.number first qs := by
  induction same generalizing first with
  | nil => rfl
  | cons here _ ih =>
    cases here with
    | plain line => rw [Piece.number, Piece.number, ih]
    | hit block other => rw [Piece.number, Piece.number, ih]

theorem values_sameLines (same : List.Forall₂ SameLine ps qs) :
    (ps.filterMap Piece.value?).length = (qs.filterMap Piece.value?).length := by
  induction same with
  | nil => rfl
  | cons here _ ih =>
    cases here with
    | plain line => exact ih
    | hit block other => exact congrArg (· + 1) ih

theorem inlines_sameLines (same : List.Forall₂ SameLine ps qs) : inlines ps = inlines qs := by
  induction same with
  | nil => rfl
  | cons here _ ih =>
    cases here with
    | plain line => exact congrArg (_ ++ ·) ih
    | hit block other => exact ih

theorem values_sheet (ps : List (Piece Text Text)) :
    (exceptLast chompPart ps).filterMap Piece.value? = ps.filterMap Piece.value? := by
  induction ps with
  | nil => rfl
  | cons part ps ih =>
    by_cases last : ps = []
    · rw [last]
      rfl
    · rw [exceptLast_cons _ _ last]
      cases part with
      | plain line => exact ih
      | hit block => exact congrArg (block :: ·) ih

theorem inlines_sheet (ps : List (Piece Text Text)) :
    inlines (exceptLast chompPart ps) = inlines ps := by
  induction ps with
  | nil => rfl
  | cons part ps ih =>
    by_cases last : ps = []
    · rw [last]
      rfl
    · rw [exceptLast_cons _ _ last]
      cases part with
      | plain line =>
        have here : (inlinePattern.pieces (Text.chomp line)).filterMap Piece.value? =
            (inlinePattern.pieces line).filterMap Piece.value? := by
          rw [← pieces_chomp, values_chomp]
        exact congrArg₂ (· ++ ·) here ih
      | hit block => exact ih

theorem numbered_sheet (next first : Nat) (ps : List (Piece Text Text)) :
    numbered next (Piece.number first (exceptLast chompPart ps)) =
      exceptLast chompPieces (numbered next (Piece.number first ps)) := by
  induction ps generalizing next first with
  | nil => rfl
  | cons part ps ih =>
    by_cases last : ps = []
    · rw [last]
      cases part <;> rfl
    · have more : ∀ next first, numbered next (Piece.number first ps) ≠ [] := by
        intro next first
        obtain ⟨other, ps, rfl⟩ := List.exists_cons_of_ne_nil last
        cases other <;> exact List.cons_ne_nil _ _
      rw [exceptLast_cons _ _ last]
      cases part with
      | plain line =>
        rw [chompPart, Piece.number, Piece.number, numbered, numbered, exceptLast_cons _ _ (more _ _),
          ← pieces_chomp, number_chomp, values_chomp, ih]
      | hit block =>
        rw [chompPart, Piece.number, Piece.number, numbered, numbered, exceptLast_cons _ _ (more _ _),
          ih]
        rfl

/-- The rules see the same lines in a page and in the page with its line ends joined. -/
theorem lines_protect_joinLineEnds (free : ('\r' : CodePoint) ∉ Text.joinLineEnds page) :
    Markup.lines (protect (Text.joinLineEnds page)).text = Markup.lines (protect page).text := by
  rw [lines_protect, lines_protect, ← numbered_sheet, ← numbered_sheet, ← sheet, ← sheet,
    sheet_free free, parts_joinLineEnds, ← number_sameLines (sameLines_joinBlocks _),
    ← values_sameLines (sameLines_joinBlocks _), sheet, values_sheet]

theorem length_spans_joinLineEnds (page : Text) :
    (protect (Text.joinLineEnds page)).spans.length = (protect page).spans.length := by
  rw [protect_spans, protect_spans, List.length_append, List.length_append, parts_joinLineEnds,
    ← values_sameLines (sameLines_joinBlocks _), ← inlines_sameLines (sameLines_joinBlocks _), sheet,
    values_sheet, inlines_sheet]

theorem resolve_unit {xs ys : List α} (same : xs.length = ys.length) (digits : Text) :
    (resolve xs digits).map (fun _ => ()) = (resolve ys digits).map fun _ => () := by
  rw [resolve, resolve]
  cases Text.number? digits with
  | none => rfl
  | some n =>
    by_cases known : n < xs.length
    · simp only [List.getElem?_eq_getElem known, List.getElem?_eq_getElem (same ▸ known)]
      rfl
    · have unknown : ¬ n < ys.length := same ▸ known
      simp [known, unknown]

/-- Joining the line ends of a page after detection or before it comes to the same. -/
theorem detect_joinLineEnds (unmarked : spanMarks.opening ∉ page)
    (free : ('\r' : CodePoint) ∉ Text.joinLineEnds page) :
    detect (Text.joinLineEnds page) = (detect page).map Text.joinLineEnds := by
  have unmarkedJoined : spanMarks.opening ∉ Text.joinLineEnds page :=
    (Text.mem_joinLineEnds (by decide)).not.mpr unmarked
  have same : (detect (Text.joinLineEnds page)).map (fun _ => ()) =
      (detect page).map fun _ => () := by
    simp only [detect, lines_protect_joinLineEnds free]
    exact Piece.writeAll?_unit (resolve_unit (length_spans_joinLineEnds page)) _
  cases joined : detect (Text.joinLineEnds page) with
  | error cause =>
    cases found : detect page with
    | error other =>
      rw [joined, found] at same
      cases same
      rfl
    | ok out =>
      rw [joined, found] at same
      contradiction
  | ok out =>
    cases found : detect page with
    | error other =>
      rw [joined, found] at same
      contradiction
    | ok given =>
      rw [of_detect unmarkedJoined joined, of_detect unmarked found, guess_joinLineEnds free]
      rfl

end LabEditor.Detection
