import LabEditor.Proofs.Detection.Protect
import LabEditor.Proofs.Occurrence

/-! The tokens of a page beside those of its code spans. Detection fails on a page exactly if some
token that was there before stands for none of the spans: the rules and the line ends keep all tokens
as they are, and make none. -/
namespace LabEditor.Detection

variable {line t code mark page : Text}

theorem spanMarks_distinct : spanMarks.Distinct :=
  ⟨by decide, by decide, by decide⟩

theorem consumes_token : Pattern.Consumes tokenPattern := by
  intro _ c t digits rest read
  obtain ⟨whole, _, _⟩ := (TokenMarks.read?_eq_some spanMarks_distinct.closing).mp read
  obtain ⟨_, rfl⟩ := List.cons.inj whole
  exact ⟨digits ++ [spanMarks.closing], by rw [List.append_assoc]; rfl⟩

theorem findAll_token (t : Text) : tokenPattern.findAll t = spanMarks.found t :=
  TokenMarks.values_of_scans (fun _ _ none => none)
    (fun _ _ _ _ read => spanMarks_distinct.found_read read)
    (Pattern.scans_pieces consumes_token t)

theorem found_of_free (free : tokenPattern.occurs line = false) : spanMarks.found line = [] := by
  rw [Pattern.occurs, findAll_token, Bool.not_eq_false', List.isEmpty_iff] at free
  exact free

theorem trim_isInfix (t : Text) : Text.trim t <:+: t :=
  (Text.dropEndWhile_isPrefix Text.isBlank _).isInfix.trans (Text.trimStart_suffix t).isInfix

/-- Code keeps its tokens when it is put between backticks and marked. -/
theorem IsSnippet.found (snippet : IsSnippet t code mark) (free : spanMarks.opening ∉ mark) :
    spanMarks.found t = spanMarks.found code := by
  have behind (ticks : Text) (bare : spanMarks.opening ∉ ticks) :
      spanMarks.opening ∉ ticks ++ ('{' : CodePoint) :: mark := by
    intro member
    rcases List.mem_append.mp member with tick | rest
    · exact bare tick
    · exact free ((List.mem_cons.mp rest).resolve_left (by decide))
  rw [snippet.shape, inlineCode]
  split
  · have shape : ("\x60\x60 " ++ code ++ " \x60\x60") ++ ('{' : CodePoint) :: mark =
        "\x60\x60 " ++ (code ++ (" \x60\x60" ++ ('{' : CodePoint) :: mark)) := by
      simp
    rw [shape]
    have after := behind " \x60\x60" (by decide)
    exact spanMarks_distinct.found_inside (by decide) (by decide) after code
  · have shape : (('\x60' : CodePoint) :: code ++ (['\x60'] : Text)) ++ ('{' : CodePoint) :: mark =
        (['\x60'] : Text) ++ (code ++ ('\x60' : CodePoint) :: '{' :: mark) := by
      simp
    rw [shape]
    have after := behind ['\x60'] (by decide)
    exact spanMarks_distinct.found_inside (by decide) (by decide) after code

/-- The rules make no token out of a line that holds none. -/
theorem found_guessLine (guessed : guessLine line = some t) (none : spanMarks.found line = []) :
    spanMarks.found t = [] := by
  have of_code {code c rest} (origin : code <:+: rest) (whole : line = c :: rest) :
      spanMarks.found code = [] :=
    spanMarks_distinct.found_part (origin.trans (whole ▸ (List.suffix_cons c rest).isInfix)) none
  rcases (Option.orElse_eq_some _ _ _).mp guessed with ahead | ⟨_, copy⟩
  · rcases (Option.orElse_eq_some _ _ _).mp ahead with heading | ⟨_, exec⟩
    · obtain ⟨_, _, rfl⟩ := of_asHeading heading
      rw [TokenMarks.found_skip (by decide)]
      exact spanMarks_distinct.found_part (trim_isInfix line) none
    · obtain ⟨c, rest, code, whole, _, origin, snippet⟩ := of_asExec exec
      rw [snippet.found (by decide), of_code origin whole]
  · obtain ⟨c, rest, code, whole, _, origin, snippet⟩ := of_asCopy copy
    rw [snippet.found (by decide), of_code origin whole]

theorem found_rewrite (inBlock : Bool) (line : Text) :
    spanMarks.found (rewrite guessLine inBlock (tokenPattern.occurs line) line) =
      spanMarks.found line := by
  rcases rewrite_cases inBlock (tokenPattern.occurs line) line with same | ⟨_, _, free, guessed⟩
  · rw [same]
  · have none := found_of_free free
    rw [found_guessLine guessed none, none]

theorem found_apply (inBlock : Bool) (lines : List Text) :
    (apply guessLine inBlock lines).flatMap spanMarks.found = lines.flatMap spanMarks.found := by
  induction lines generalizing inBlock with
  | nil => rfl
  | cons line lines ih =>
    rw [apply_cons, List.flatMap_cons, found_rewrite, ih, List.flatMap_cons]

theorem found_page (lines : List Text) :
    spanMarks.found (Text.glue '\n' lines) = lines.flatMap spanMarks.found :=
  spanMarks_distinct.found_glue (by decide) (by decide) lines

theorem found_chomp (line : Text) :
    spanMarks.found (Text.chomp line) = spanMarks.found line := by
  rcases Text.chomp_cases line with same | same
  · rw [← same]
  · conv_rhs => rw [same, spanMarks_distinct.found_apart (by decide) (by decide)]
    exact (List.append_nil _).symm

/-- A carriage return that is dropped from a line end is part of no token. -/
theorem found_lines (t : Text) :
    (Markup.lines t).flatMap spanMarks.found = spanMarks.found t := by
  have same (lines : List Text) :
      (exceptLast Text.chomp lines).flatMap spanMarks.found = lines.flatMap spanMarks.found := by
    induction lines with
    | nil => rfl
    | cons line lines ih =>
      by_cases last : lines = []
      · rw [last]
        rfl
      · rw [exceptLast_cons _ _ last, List.flatMap_cons, found_chomp, ih, List.flatMap_cons]
  rw [Text.lines_eq, same, ← found_page, Text.glue_cut]

/-- Detection neither makes nor breaks a token before the spans are put back. -/
theorem found_applyAll (t : Text) :
    spanMarks.found (Text.glue '\n' (applyAll (Markup.lines t))) = spanMarks.found t := by
  rw [found_page, applyAll_eq, found_apply, found_lines]

/-- A line with a blank for each code span in it. -/
def bareLine : Piece Text Text → Text
  | .plain line => inlinePattern.replace (fun _ => [' ']) line
  | .hit _ => [' ']

/-- The page with a blank for each code span. -/
def bare (page : Text) : Text :=
  Text.glue '\n' ((parts page).map bareLine)

theorem bare_eq (page : Text) :
    Piece.writeAll (fun _ => ([' '] : Text)) (Piece.glue '\n'
      (numbered ((parts page).filterMap Piece.value?).length (Piece.number 0 (parts page)))) =
    bare page := by
  have lines (first next : Nat) (ps : List (Piece Text Text)) :
      (numbered next (Piece.number first ps)).map (Piece.writeAll fun _ => ([' '] : Text)) =
        ps.map bareLine := by
    induction ps generalizing first next with
    | nil => rfl
    | cons part ps ih =>
      cases part with
      | plain line =>
        rw [Piece.number, numbered, List.map_cons, ih, Piece.writeAll_number]
        rfl
      | hit block =>
        rw [Piece.number, numbered, List.map_cons, ih]
        rfl
  rw [Piece.writeAll_glue, lines, bare]

/-- The tokens of a protected page are those of the page beside its spans, and its own. -/
theorem found_protect (page : Text) :
    (spanMarks.found (protect page).text).Perm (spanMarks.found (bare page) ++
      (List.range (protect page).spans.length).map Text.digits) := by
  have text : (protect page).text = spanMarks.spell (Piece.glue '\n'
      (numbered ((parts page).filterMap Piece.value?).length (Piece.number 0 (parts page)))) := by
    rw [protect_text, TokenMarks.spell, Piece.writeAll_glue]
    rfl
  have numbers := values_protect page
  rw [← Piece.values_glue '\n'] at numbers
  have tokens := spanMarks_distinct.found_spell (by decide) (Piece.glue '\n'
    (numbered ((parts page).filterMap Piece.value?).length (Piece.number 0 (parts page))))
  rw [← text, bare_eq] at tokens
  exact tokens.trans ((numbers.map Text.digits).append_left _)

/-- Each token beside the code of a page stands for some of the code. -/
def Restorable (page : Text) : Prop :=
  LabEditor.Restorable (protect page).spans (tokenPattern.findAll (bare page))

theorem detect_total_iff (page : Text) : (∃ out, detect page = .ok out) ↔ Restorable page := by
  rw [Restorable, findAll_token, ← restorable_iff (found_protect page), ← found_applyAll,
    ← findAll_token, detect, restore, Piece.writeAll?_total_iff]
  simp only [Pattern.findAll, Piece.mem_values]

end LabEditor.Detection
