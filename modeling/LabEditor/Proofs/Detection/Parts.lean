import LabEditor.Proofs.Detection.Fence
import LabEditor.Proofs.Text.LineEnd

/-! The parts of a page: its fenced blocks, and the lines between them. -/
namespace LabEditor.Detection

variable {line page : Text} {ps : List (Piece Text Text)} {part : Piece Text Text}

/-- The fenced blocks of a page between its other lines. -/
def parts (page : Text) : List (Piece Text Text) :=
  fencedPattern.pieces (Text.cut '\n' page)

def text : Piece Text Text → Text
  | .plain line => line
  | .hit block => block

theorem writeAll_parts (page : Text) :
    Piece.writeAll (Text.cut '\n') (parts page) = Text.cut '\n' page :=
  writeAll_cut (fun _ => Text.cut_free) (scans_fenced (Text.cut '\n' page))

theorem parts_ne_nil (page : Text) : parts page ≠ [] := by
  intro none
  have lines := writeAll_parts page
  rw [none] at lines
  exact Text.cut_ne_nil '\n' page lines.symm

theorem plain_mem_parts (member : .plain line ∈ parts page) : line ∈ Text.cut '\n' page :=
  Pattern.mem_of_plain_mem_scan member

theorem writeAll_cut_ne_nil (some : ps ≠ []) : Piece.writeAll (Text.cut '\n') ps ≠ [] := by
  obtain ⟨part, ps, rfl⟩ := List.exists_cons_of_ne_nil some
  cases part with
  | plain line => exact List.cons_ne_nil _ _
  | hit block => exact List.append_ne_nil_of_left_ne_nil (Text.cut_ne_nil '\n' block) _

theorem writeAll_text (free : ∀ line, .plain line ∈ ps → ('\n' : CodePoint) ∉ line) :
    Piece.writeAll (Text.cut '\n') ps = (ps.map text).flatMap (Text.cut '\n') := by
  induction ps with
  | nil => rfl
  | cons part ps ih =>
    have rest := ih fun line member => free line (List.mem_cons_of_mem part member)
    rw [List.map_cons, List.flatMap_cons, ← rest]
    cases part with
    | hit block => rfl
    | plain line =>
      have whole : Text.cut '\n' (Text.glue '\n' [line]) = [line] :=
        Text.cut_glue (List.forall_mem_singleton.mpr (free line List.mem_cons_self)) (by simp)
      rw [Text.glue] at whole
      rw [text, whole]
      rfl

theorem cut_text (some : ps ≠ []) (free : ∀ line, .plain line ∈ ps → ('\n' : CodePoint) ∉ line) :
    Text.cut '\n' (Text.glue '\n' (ps.map text)) = Piece.writeAll (Text.cut '\n') ps := by
  rw [Text.cut_glue_flatMap (by simpa using some), writeAll_text free]

/-- The parts of a page make up the page. -/
theorem glue_parts (page : Text) : Text.glue '\n' ((parts page).map text) = page := by
  have free : ∀ line, .plain line ∈ parts page → ('\n' : CodePoint) ∉ line := fun line member =>
    Text.cut_free (plain_mem_parts member)
  have same := cut_text (parts_ne_nil page) free
  rw [writeAll_parts] at same
  rw [← Text.glue_cut '\n' (Text.glue '\n' ((parts page).map text)), same, Text.glue_cut]

/-- A part without the carriage return that may end it; a block keeps its own. -/
def chompPart : Piece Text Text → Piece Text Text
  | .plain line => .plain (Text.chomp line)
  | .hit block => .hit block

/-- A page as its lines are looked at: each without the carriage return of its end, between the
blocks. -/
def sheet (page : Text) : List (Piece Text Text) :=
  exceptLast chompPart (parts page)

theorem sheet_ne_nil (page : Text) : sheet page ≠ [] :=
  exceptLast_ne_nil chompPart (parts_ne_nil page)

theorem of_plain_mem_sheet (member : .plain line ∈ sheet page) :
    ∃ whole ∈ Text.cut '\n' page, line <+: whole := by
  obtain ⟨part, known, same⟩ := of_mem_exceptLast member
  cases part with
  | plain whole =>
    refine ⟨whole, plain_mem_parts known, ?_⟩
    rcases same with same | same
    · cases same
      exact List.prefix_rfl
    · cases same
      exact Text.chomp_isPrefix whole
  | hit block => rcases same with same | same <;> contradiction

theorem sheet_oneLine (member : .plain line ∈ sheet page) : ('\n' : CodePoint) ∉ line := by
  obtain ⟨whole, known, part⟩ := of_plain_mem_sheet member
  exact fun inside => Text.cut_free known (part.subset inside)

theorem mem_text_parts (known : part ∈ parts page) (inside : c ∈ text part) : c ∈ page := by
  rw [← glue_parts page]
  exact Text.mem_glue_of_mem (List.mem_map_of_mem known) inside

theorem mem_text_sheet (known : part ∈ sheet page) (inside : c ∈ text part) : c ∈ page := by
  obtain ⟨whole, origin, same⟩ := of_mem_exceptLast known
  have found : c ∈ text whole := by
    rcases same with rfl | rfl
    · exact inside
    · cases whole with
      | plain line => exact (Text.chomp_isPrefix line).subset inside
      | hit block => exact inside
  exact mem_text_parts origin found

theorem block_mem_sheet (member : .hit block ∈ sheet page) :
    block ∈ fencedPattern.findAll (Text.cut '\n' page) := by
  obtain ⟨part, known, same⟩ := of_mem_exceptLast member
  cases part with
  | plain line => rcases same with same | same <;> contradiction
  | hit found =>
    have here : block = found := by rcases same with same | same <;> exact Piece.hit.inj same
    rw [here]
    exact Piece.mem_values.mpr known

/-- Lines that end in one carriage return at most are without one after it is dropped. -/
theorem chompPart_idem
    (single : exceptLast Text.chomp (exceptLast Text.chomp (Piece.writeAll (Text.cut '\n') ps)) =
      exceptLast Text.chomp (Piece.writeAll (Text.cut '\n') ps)) :
    exceptLast chompPart (exceptLast chompPart ps) = exceptLast chompPart ps := by
  induction ps with
  | nil => rfl
  | cons part ps ih =>
    by_cases last : ps = []
    · rw [last]
      rfl
    · have more := writeAll_cut_ne_nil last
      have shape : Piece.writeAll (Text.cut '\n') (part :: ps) =
          part.write (Text.cut '\n') ++ Piece.writeAll (Text.cut '\n') ps := rfl
      rw [shape, exceptLast_append _ _ more,
        exceptLast_append _ _ (exceptLast_ne_nil _ more)] at single
      obtain ⟨first, rest⟩ := List.append_inj single (by simp)
      rw [exceptLast_cons _ _ last]
      refine (exceptLast_eq_self (exceptLast_ne_nil _ last)).mpr ⟨?_, ih rest⟩
      cases part with
      | plain line => exact congrArg Piece.plain (List.singleton_inj.mp first)
      | hit block => rfl

theorem sheet_chomped (single : Text.hasPart "\r\r\n" page = false) :
    exceptLast chompPart (sheet page) = sheet page := by
  refine chompPart_idem ?_
  rw [writeAll_parts]
  exact Text.exceptLast_chomp_idem single

end LabEditor.Detection
