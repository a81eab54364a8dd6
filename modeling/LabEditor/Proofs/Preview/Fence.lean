import LabEditor.Preview.Basic
import LabEditor.Proofs.Preview.Rows
import LabEditor.Proofs.Token

/-! The code of a written page is set aside and put back as it is. -/
namespace LabEditor.Preview

open Markup (Block)

variable {block : Marked} {ps : List (Piece Text Marked)}

theorem fenceRun?_rows (block : Marked) :
    Detection.fenceRun? (Block.fence ++ block.info) = some (('\x60' : CodePoint), 4) := by
  obtain ⟨kind, code, interrupt⟩ := block
  cases kind <;> cases interrupt <;> rfl

theorem closingKind?_rows (block : Marked) :
    closingKind? ("\x7b\x7b" ++ block.kind.name ++ "\x7d\x7d") =
      some block.kind := by
  obtain ⟨kind, code, interrupt⟩ := block
  cases kind <;> rfl

theorem interrupt_info (readable : block.Readable) :
    ((Text.words block.info).drop 1).contains "interrupt" = block.interrupt := by
  obtain ⟨kind, code, interrupt⟩ := block
  cases kind with
  | exec => cases interrupt <;> rfl
  | copy =>
    have plain : interrupt = false := readable.copied rfl
    subst plain
    rfl

theorem info_free (block : Marked) : block.info.contains '\x60' = false := by
  obtain ⟨kind, code, interrupt⟩ := block
  cases kind <;> cases interrupt <;> rfl

/-- The code of a block goes as far as its closing row, which is the first that begins with a
fence. -/
theorem markedBlock?_rows (readable : block.Readable) (rest : List Text) :
    markedBlock? '\x60' 4 (Block.fence ++ block.info)
        (Text.cut '\n' block.code ++ block.closing :: rest) =
      some (block, rest) := by
  have some := Text.cut_ne_nil '\n' block.code
  obtain ⟨first, more, code⟩ := List.exists_cons_of_ne_nil some
  have opening : (Block.fence ++ block.info).drop 4 = block.info := rfl
  have closes : Text.after? (List.replicate 4 '\x60') block.closing =
      Option.some ("\x7b\x7b" ++ block.kind.name ++ "\x7d\x7d") := rfl
  -- The fence of a block has four backticks, and no line of its code but the first begins so.
  have body : (more ++ block.closing :: rest).takeWhile
      (fun l => !Text.startsWith l (List.replicate 4 '\x60')) = more := by
    have inside : ∀ l ∈ more, (!Text.startsWith l (List.replicate 4 '\x60')) = true := by
      intro l member
      have apart := readable.inside l (by rw [code]; exact member)
      exact congrArg Bool.not apart
    have stops : Text.startsWith block.closing (List.replicate 4 '\x60') = true := by
      rw [Text.startsWith, closes]
      rfl
    rw [List.takeWhile_append_of_pos inside, List.takeWhile_cons, stops]
    exact List.append_nil more
  have code' : Text.glue '\n' (first :: more) = block.code := by
    rw [← code, Text.glue_cut]
  have behind : (first :: (more ++ block.closing :: rest)).drop (first :: more).length =
      block.closing :: rest :=
    List.drop_left
  rw [code, List.cons_append]
  simp only [markedBlock?, opening, info_free, body, behind, closes, Option.bind_some,
    closingKind?_rows, Option.map_some, code', interrupt_info readable]
  rfl

theorem markedPattern_rows (readable : block.Readable) (before : Option Text) (rest : List Text) :
    markedPattern before (block.rows ++ rest) = some (block, rest) := by
  have found := markedBlock?_rows readable rest
  simp only [markedPattern, Marked.rows, List.cons_append, List.append_assoc, List.nil_append,
    fenceRun?_rows, longestMarked?, found]
  rfl

theorem fenceRun?_quiet {row : Text} (quiet : Quiet row) : Detection.fenceRun? row = none := by
  cases row with
  | nil => rfl
  | cons c row =>
    obtain ⟨noTick, noTilde⟩ := quiet.front c rfl
    simp [Detection.fenceRun?, noTick, noTilde]

theorem Quiet.oneLine {row : Text} (quiet : Quiet row) : ('\n' : CodePoint) ∉ row := by
  intro member
  have harmless := List.all_eq_true.mp quiet.free _ member
  contradiction

theorem Marked.rows_oneLine (block : Marked) {row : Text} (member : row ∈ block.rows) :
    ('\n' : CodePoint) ∉ row := by
  have head : (Block.fence ++ block.info).contains '\n' = false := by
    obtain ⟨kind, code, interrupt⟩ := block
    cases kind <;> cases interrupt <;> rfl
  have last : block.closing.contains '\n' = false := by
    obtain ⟨kind, code, interrupt⟩ := block
    cases kind <;> rfl
  rcases List.mem_cons.mp member with rfl | later
  · exact List.contains_iff_mem.not.mp (ne_true_of_eq_false head)
  · rcases List.mem_append.mp later with code | same
    · exact Text.cut_free code
    · cases List.mem_singleton.mp same
      exact List.contains_iff_mem.not.mp (ne_true_of_eq_false last)

theorem pieces_rows (sound : ∀ piece ∈ ps, Sound piece) :
    markedPattern.pieces (Piece.writeAll Marked.rows ps) = ps := by
  have scans := Pattern.scans_writeAll (p := markedPattern) (f := Marked.rows) (g := id) ps
    (fun row member before rest => by
      have quiet : Quiet row := sound _ member
      simp only [markedPattern, fenceRun?_quiet quiet])
    (fun block rest tail => by
      have readable : block.Readable := sound _ (tail.subset List.mem_cons_self)
      exact ⟨List.cons_ne_nil _ _, fun before => markedPattern_rows readable before _⟩) none
  rw [scans.pieces, Piece.map_id]

/-- A row of a page character by character; what is set aside has a paragraph of its own. -/
def spread : Piece Text α → List (List (Piece CodePoint α))
  | .plain row => [row.map .plain]
  | .hit value => [[], [], [.hit value], [], []]

def characters (ps : List (Piece Text α)) : List (Piece CodePoint α) :=
  Piece.glue '\n' (ps.flatMap spread)

theorem spread_map (f : α → β) (piece : Piece Text α) :
    (spread piece).map (List.map (Piece.map f)) = spread (piece.map f) := by
  cases piece with
  | plain row => simp [spread, Piece.map, Function.comp_def]
  | hit value => rfl

theorem characters_map (f : α → β) (ps : List (Piece Text α)) :
    (characters ps).map (Piece.map f) = characters (ps.map (Piece.map f)) := by
  rw [characters, Piece.glue_map, characters]
  congr 1
  induction ps with
  | nil => rfl
  | cons piece ps ih =>
    rw [List.flatMap_cons, List.map_append, spread_map, ih, List.map_cons, List.flatMap_cons]

theorem values_characters (ps : List (Piece Text α)) :
    (characters ps).filterMap Piece.value? = ps.filterMap Piece.value? := by
  rw [characters, Piece.values_glue]
  induction ps with
  | nil => rfl
  | cons piece ps ih =>
    rw [List.flatMap_cons, List.flatMap_append, ih]
    cases piece with
    | plain row => simp [spread, List.filterMap_cons, Piece.value?, Function.comp_def]
    | hit value => simp [spread, Piece.value?]

theorem mem_characters {ps : List (Piece Text α)} (member : piece ∈ characters ps) :
    (∃ c : CodePoint, piece = .plain c ∧ (c = '\n' ∨ ∃ row, .plain row ∈ ps ∧ c ∈ row)) ∨
      ∃ value, piece = .hit value ∧ .hit value ∈ ps := by
  rcases Piece.mem_glue member with same | ⟨line, known, inside⟩
  · exact Or.inl ⟨'\n', same, Or.inl rfl⟩
  · obtain ⟨origin, here, part⟩ := List.mem_flatMap.mp known
    cases origin with
    | plain row =>
      cases List.mem_singleton.mp part
      obtain ⟨c, there, rfl⟩ := List.mem_map.mp inside
      exact Or.inl ⟨c, rfl, Or.inr ⟨row, here, there⟩⟩
    | hit value =>
      have single : piece = .hit value := by
        simp only [spread, List.mem_cons, List.not_mem_nil, or_false] at part
        rcases part with rfl | rfl | rfl | rfl | rfl <;> simp_all
      exact Or.inr ⟨value, single, here⟩

theorem spell_characters (ps : List (Piece Text Nat)) :
    blockMarks.spell (characters ps) = Text.glue '\n' (Piece.writeAll blockLines ps) := by
  rw [TokenMarks.spell, characters, Piece.writeAll_glue]
  congr 1
  induction ps with
  | nil => rfl
  | cons piece ps ih =>
    rw [List.flatMap_cons, List.map_append, ih]
    cases piece with
    | plain row => simp [spread]
    | hit n => simp [spread, blockLines]

/-- What is sent to be rendered, and what is kept back. -/
theorem setAsideMarked_rows (some : Piece.writeAll Marked.rows ps ≠ [])
    (sound : ∀ piece ∈ ps, Sound piece) :
    setAsideMarked (Text.glue '\n' (Piece.writeAll Marked.rows ps)) =
      (blockMarks.spell (characters (Piece.number 0 ps)), ps.filterMap Piece.value?) := by
  have lines : ∀ row ∈ Piece.writeAll Marked.rows ps, ('\n' : CodePoint) ∉ row := by
    intro row member
    obtain ⟨piece, known, inside⟩ := List.mem_flatMap.mp member
    cases piece with
    | plain other =>
      cases List.mem_singleton.mp inside
      have quiet : Quiet row := sound _ known
      exact quiet.oneLine
    | hit block => exact block.rows_oneLine inside
  rw [setAsideMarked, Text.cut_glue lines some, pieces_rows sound, Piece.setAside_eq,
    spell_characters]

/-- Rows in which nothing is taken for a tag or a token. -/
def AllQuiet (ps : List (Piece Text α)) : Prop :=
  ∀ row, .plain row ∈ ps → Quiet row

theorem AllQuiet.harmless {c : CodePoint} {ps : List (Piece Text α)} (quiet : AllQuiet ps)
    (member : .plain c ∈ characters ps) :
    c ≠ '<' ∧ c ≠ blockMarks.opening := by
  rcases mem_characters member with ⟨d, same, lineEnd | ⟨row, known, inside⟩⟩ | ⟨_, same, _⟩
  · cases same
    rw [lineEnd]
    decide
  · cases same
    have free := List.all_eq_true.mp (quiet row known).free c inside
    simp only [isHarmless, Bool.and_eq_true, bne_iff_ne] at free
    exact ⟨free.1.2, free.2⟩
  · cases same

/-- The tokens of a page that is sent unchanged through the renderer are found again. -/
theorem stashed_characters {ps : List (Piece Text Nat)} (quiet : AllQuiet ps) :
    stashedPattern.pieces (blockMarks.spell (characters ps)) =
      (characters ps).map (Piece.map Text.digits) := by
  refine (TokenMarks.scans_spell (fun c member before t => ?_)
    (fun n rest tail before => ?_) none).pieces
  · obtain ⟨noTag, noMark⟩ := quiet.harmless member
    have opened : Text.after? "<p>" (c :: t) = none := Text.after?_head_ne (Ne.symm noTag) _ t
    simp only [stashedPattern, opened, Option.getD_none, TokenMarks.read?_plain noMark,
      Option.map_none]
  · have opened : Text.after? "<p>" (blockMarks.token n ++ blockMarks.spell rest) = none := rfl
    have closed : Text.after? "</p>" (blockMarks.spell rest) = none := by
      cases rest with
      | nil => rfl
      | cons piece rest =>
        cases piece with
        | plain c =>
          have inside : .plain c ∈ characters ps := tail.subset (by simp)
          exact Text.after?_head_ne (Ne.symm (quiet.harmless inside).1) _ _
        | hit m => rfl
    have digit : Text.isDigit blockMarks.closing = false := by decide
    simp only [stashedPattern, opened, Option.getD_none, TokenMarks.read?_token digit,
      Option.map_some, closed]

/-- The blocks of a page in the places of their numbers. -/
theorem writeAll_numbers (write : Marked → Text) (ps : List (Piece Text Marked)) :
    Piece.writeAll (fun n => ((ps.filterMap Piece.value?)[n]?.map write).getD [])
      (characters (Piece.number 0 ps)) = Piece.writeAll write (characters ps) := by
  have through := Piece.writeAll_map (fun value? : Option Marked => (value?.map write).getD [])
    (fun n => (ps.filterMap Piece.value?)[n]?) (characters (Piece.number 0 ps))
  rw [characters_map, Piece.number_map (Piece.holds_values ps), ← characters_map,
    Piece.writeAll_map] at through
  exact through.symm

end LabEditor.Preview
