import LabEditor.Preview.Fence
import LabEditor.Proofs.Markup.Block
import Mathlib.Data.List.Induction

/-! The rows of a written page. A code block takes the rows of a fence, which belong together; every
other row begins with no fence, and what surrounds the page is trimmed off without touching code. -/
namespace LabEditor.Preview

open Markup (Block)

variable {block : Block} {blocks : List Block} {t : Text}

def texts : Block → List Text
  | .heading _ text | .bullet text => [text]
  | .exec lines _ | .copy lines => lines
  | .image alt title path => [alt, title, path]
  | .blank => []

/-- A text that holds no tag of HTML and no mark of code that is set aside. -/
def Unmarked (t : Text) : Prop :=
  ('<' : CodePoint) ∉ t ∧ blockMarks.opening ∉ t ∧ blockMarks.closing ∉ t

instance : DecidablePred Unmarked := fun t =>
  inferInstanceAs (Decidable (('<' : CodePoint) ∉ t ∧ blockMarks.opening ∉ t ∧ blockMarks.closing ∉ t))

/-- A block that can be told from what surrounds it on a page: code closes no fence of its own. -/
def Fits : Block → Prop
  | .exec lines _ | .copy lines => ∀ line ∈ lines.tail, Text.startsWith line Block.fence = false
  | block => ∀ t ∈ texts block, Unmarked t

instance : DecidablePred Fits
  | .exec lines _ | .copy lines =>
    inferInstanceAs (Decidable (∀ line ∈ lines.tail, Text.startsWith line Block.fence = false))
  | .heading level text =>
    inferInstanceAs (Decidable (∀ t ∈ texts (.heading level text), Unmarked t))
  | .image alt title path =>
    inferInstanceAs (Decidable (∀ t ∈ texts (.image alt title path), Unmarked t))
  | .bullet text => inferInstanceAs (Decidable (∀ t ∈ texts (.bullet text), Unmarked t))
  | .blank => inferInstanceAs (Decidable (∀ t ∈ texts .blank, Unmarked t))

/-- The block that stands for a code block. -/
def marked? : Block → Option Marked
  | .exec lines interrupt => some ⟨.exec, Text.glue '\n' lines, interrupt⟩
  | .copy lines => some ⟨.copy, Text.glue '\n' lines, false⟩
  | _ => none

namespace Marked

def info (block : Marked) : Text :=
  match block.kind with
  | .exec => if block.interrupt then "bash interrupt" else "bash"
  | .copy => "text"

def closing (block : Marked) : Text :=
  Block.fence ++ "\x7b\x7b" ++ block.kind.name ++ "\x7d\x7d"

def rows (block : Marked) : List Text :=
  (Block.fence ++ block.info) :: (Text.cut '\n' block.code ++ [block.closing])

/-- What is read back from the rows of a block. -/
structure Readable (block : Marked) : Prop where
  inside : ∀ row ∈ (Text.cut '\n' block.code).tail, Text.startsWith row Block.fence = false
  copied : block.kind = .copy → block.interrupt = false

end Marked

def isHarmless (c : CodePoint) : Bool :=
  c != '\n' && c != '<' && c != blockMarks.opening

/-- A row that opens no fence and holds nothing that is looked for in a page. -/
structure Quiet (row : Text) : Prop where
  free : row.all isHarmless = true
  front : ∀ c ∈ row.head?, c ≠ '\x60' ∧ c ≠ '~'

theorem Quiet.of_prefix {row start : Text} (quiet : Quiet row) (part : start <+: row) :
    Quiet start where
  free := List.all_eq_true.mpr fun c member =>
    List.all_eq_true.mp quiet.free c (part.subset member)
  front := fun c first => quiet.front c (by
    obtain ⟨rest, rfl⟩ := part
    cases start with
    | nil => contradiction
    | cons d start => exact first)

def Sound : Piece Text Marked → Prop
  | .plain row => Quiet row
  | .hit block => block.Readable

/-- A block on its rows, with the empty one that may follow it. -/
def rows : Block → List (Piece Text Marked)
  | .heading level text =>
    [.plain (List.replicate level ('#' : CodePoint) ++ (' ' : CodePoint) :: Markup.linkAddresses text),
      .plain []]
  | .exec lines interrupt => [.hit ⟨.exec, Text.glue '\n' lines, interrupt⟩, .plain []]
  | .copy lines => [.hit ⟨.copy, Text.glue '\n' lines, false⟩, .plain []]
  | .image alt title path =>
    let shown : Text := if title.isEmpty then [] else " \"" ++ title ++ (['"'] : Text)
    [.plain (('!' : CodePoint) :: '[' :: alt ++ "](" ++ Block.assetFolder ++ Block.fileName path ++
      shown ++ ([')'] : Text)), .plain []]
  | .bullet text => [.plain ('*' :: ' ' :: Markup.linkAddresses text)]
  | .blank => [.plain []]

theorem glue_rows (block : Marked) : Text.glue '\n' block.rows =
    Block.fence ++ block.info ++ ('\n' : CodePoint) :: block.code ++ ('\n' : CodePoint) :: block.closing := by
  have some := Text.cut_ne_nil '\n' block.code
  have whole : block.rows = [Block.fence ++ block.info] ++
      (Text.cut '\n' block.code ++ [block.closing]) :=
    rfl
  rw [whole, Text.glue_append (by simp) (by simp), Text.glue_append some (by simp), Text.glue_cut]
  simp [Text.glue]

theorem fenced_eq (block : Marked) (lines : List Text) (same : block.code = Text.glue '\n' lines) :
    Block.fenced block.info lines block.kind.name = Text.glue '\n' block.rows ++ (['\n', '\n'] : Text) := by
  have ending : ("\x7d\x7d\n\n" : Text) = "\x7d\x7d" ++ (['\n', '\n'] : Text) := rfl
  rw [glue_rows, same]
  simp only [Block.fenced, Marked.closing, ending, List.append_assoc, List.cons_append]

theorem write_eq (block : Block) :
    block.write = Text.glue '\n' (Piece.writeAll Marked.rows (rows block)) ++ (['\n'] : Text) := by
  have gap {row : Text} : Text.glue '\n' [row, []] ++ (['\n'] : Text) = row ++ (['\n', '\n'] : Text) := by
    simp [Text.glue]
  have code (block : Marked) :
      Text.glue '\n' (Piece.writeAll Marked.rows [.hit block, .plain []]) ++ (['\n'] : Text) =
        Text.glue '\n' block.rows ++ (['\n', '\n'] : Text) := by
    have some : block.rows ≠ [] := List.cons_ne_nil _ _
    rw [Piece.writeAll_hit, Text.glue_append some (by simp)]
    simp [Text.glue]
  cases block with
  | heading level text =>
    simp only [rows, Piece.writeAll_plain, Piece.writeAll_nil, gap]
    rfl
  | exec lines interrupt => exact (fenced_eq ⟨.exec, _, interrupt⟩ lines rfl).trans (code _).symm
  | copy lines => exact (fenced_eq ⟨.copy, _, false⟩ lines rfl).trans (code _).symm
  | image alt title path =>
    have ending : ")\n\n" = ([')'] : Text) ++ (['\n', '\n'] : Text) := rfl
    simp only [rows, Piece.writeAll_plain, Piece.writeAll_nil, gap, Block.write, ending]
    simp only [List.append_assoc, List.cons_append]
  | bullet text => rfl
  | blank => rfl

theorem values_rows (block : Block) :
    (rows block).filterMap Piece.value? = (marked? block).toList := by
  cases block <;> rfl

theorem harmless_of (line : ('\n' : CodePoint) ∉ t) (plain : Unmarked t) :
    t.all isHarmless = true := by
  refine List.all_eq_true.mpr fun c member => ?_
  have noLine : c ≠ '\n' := fun same => line (same ▸ member)
  have noTag : c ≠ '<' := fun same => plain.1 (same ▸ member)
  have noMark : c ≠ blockMarks.opening := fun same => plain.2.1 (same ▸ member)
  simp [isHarmless, noLine, noTag, noMark]

theorem harmless_linkAddresses (harmless : t.all isHarmless = true) :
    (Markup.linkAddresses t).all isHarmless = true := by
  refine List.all_eq_true.mpr fun c member => ?_
  by_cases bracket : c ∈ ("[]()" : Text)
  · have brackets : ("[]()" : Text).all isHarmless = true := by decide
    exact List.all_eq_true.mp brackets c bracket
  · exact List.all_eq_true.mp harmless c (Markup.mem_of_mem_linkAddresses member bracket)

theorem harmless_fileName (harmless : t.all isHarmless = true) :
    (Block.fileName t).all isHarmless = true :=
  List.all_eq_true.mpr fun c member =>
    List.all_eq_true.mp harmless c (Block.mem_of_mem_fileName member)

theorem sound_blank : Sound (.plain []) where
  free := rfl
  front := by simp

/-- Each row of a block is quiet, and its code is read back. -/
theorem sound_rows (whole : block.Whole) (fits : Fits block) :
    ∀ piece ∈ rows block, Sound piece := by
  have code (lines : List Text) (free : lines ≠ [] ∧ ∀ l ∈ lines, ('\n' : CodePoint) ∉ l) :
      Text.cut '\n' (Text.glue '\n' lines) = lines := Text.cut_glue free.2 free.1
  cases block with
  | heading level text =>
    have harmless := harmless_linkAddresses (harmless_of whole.2 (fits text List.mem_cons_self))
    refine List.forall_mem_cons.mpr ⟨⟨?_, ?_⟩, List.forall_mem_singleton.mpr sound_blank⟩
    · have signs : (List.replicate level ('#' : CodePoint)).all isHarmless = true := by
        simp [isHarmless, blockMarks]
      simp only [List.all_append, List.all_cons, signs, harmless]
      decide
    · obtain ⟨level, rfl⟩ := Nat.exists_eq_succ_of_ne_zero (Nat.ne_of_gt whole.1)
      simp [List.replicate_succ]
  | exec lines interrupt =>
    refine List.forall_mem_cons.mpr ⟨⟨?_, by simp⟩, List.forall_mem_singleton.mpr sound_blank⟩
    rw [code lines whole]
    exact fits
  | copy lines =>
    refine List.forall_mem_cons.mpr ⟨⟨?_, fun _ => rfl⟩, List.forall_mem_singleton.mpr sound_blank⟩
    rw [code lines whole]
    exact fits
  | image alt title path =>
    have altHarmless := harmless_of whole.1 (fits alt (by simp [texts]))
    have titleHarmless := harmless_of whole.2.1 (fits title (by simp [texts]))
    have nameHarmless := harmless_fileName (harmless_of whole.2.2 (fits path (by simp [texts])))
    refine List.forall_mem_cons.mpr ⟨⟨?_, by simp⟩, List.forall_mem_singleton.mpr sound_blank⟩
    have shown : (if title.isEmpty then [] else " \"" ++ title ++ (['"'] : Text) : Text).all isHarmless =
        true := by
      split
      · rfl
      · simp only [List.all_append, titleHarmless]
        decide
    simp only [List.all_append, List.all_cons, altHarmless, nameHarmless, shown]
    decide
  | bullet text =>
    have harmless := harmless_linkAddresses (harmless_of whole (fits text List.mem_cons_self))
    refine List.forall_mem_singleton.mpr ⟨?_, by simp⟩
    simp only [List.all_cons, harmless]
    decide
  | blank => exact List.forall_mem_singleton.mpr sound_blank

theorem write_cons (whole : block.Whole) (some : block ≠ .blank) :
    ∃ c t, block.write = c :: t ∧ Text.isBlank c = false := by
  cases block with
  | heading level text =>
    obtain ⟨level, rfl⟩ := Nat.exists_eq_succ_of_ne_zero (Nat.ne_of_gt whole.1)
    exact ⟨'#', _, rfl, rfl⟩
  | exec lines interrupt => exact ⟨'\x60', _, rfl, rfl⟩
  | copy lines => exact ⟨'\x60', _, rfl, rfl⟩
  | image alt title path => exact ⟨'!', _, rfl, rfl⟩
  | bullet text => exact ⟨'*', _, rfl, rfl⟩
  | blank => contradiction

/-- A block that is not blank is one row or one piece of code, with line ends behind it. -/
theorem write_ending (some : block ≠ .blank) : ∃ piece ∈ rows block, ∃ ends : Text,
    block.write = Text.glue '\n' (Piece.writeAll Marked.rows [piece]) ++ ends ∧
      (∀ c ∈ ends, Text.isBlank c = true) ∧ piece.value? = marked? block := by
  have gap (piece : Piece Text Marked) (row : Piece.writeAll Marked.rows [piece] ≠ []) :
      Text.glue '\n' (Piece.writeAll Marked.rows [piece, .plain []]) ++ (['\n'] : Text) =
        Text.glue '\n' (Piece.writeAll Marked.rows [piece]) ++ (['\n', '\n'] : Text) := by
    rw [← List.singleton_append, Piece.writeAll_append, Text.glue_append row (by simp)]
    simp [Text.glue]
  have blank : ∀ c ∈ (['\n', '\n'] : Text), Text.isBlank c = true := List.all_eq_true.mp rfl
  have lineEnd : ∀ c ∈ (['\n'] : Text), Text.isBlank c = true := List.all_eq_true.mp rfl
  cases block with
  | heading level text =>
    exact ⟨_, List.mem_cons_self, _, (write_eq _).trans (gap _ (by simp)), blank, rfl⟩
  | exec lines interrupt =>
    exact ⟨_, List.mem_cons_self, _, (write_eq _).trans (gap _ (by simp [Marked.rows])), blank, rfl⟩
  | copy lines =>
    exact ⟨_, List.mem_cons_self, _, (write_eq _).trans (gap _ (by simp [Marked.rows])), blank, rfl⟩
  | image alt title path =>
    exact ⟨_, List.mem_cons_self, _, (write_eq _).trans (gap _ (by simp)), blank, rfl⟩
  | bullet text => exact ⟨_, List.mem_cons_self, _, write_eq _, lineEnd, rfl⟩
  | blank => exact absurd rfl some

/-- The last block of a page loses the line ends behind it, and maybe blanks that end its row. -/
theorem trimEnd_write (whole : block.Whole) (fits : Fits block) (some : block ≠ .blank) :
    ∃ piece, Text.trimEnd block.write = Text.glue '\n' (Piece.writeAll Marked.rows [piece]) ∧
      piece.value? = marked? block ∧ Sound piece := by
  obtain ⟨piece, member, ends, written, blank, value⟩ := write_ending some
  have sound := sound_rows whole fits piece member
  rw [Text.trimEnd, written, Text.dropEndWhile_append_all blank]
  cases piece with
  | plain row =>
    exact ⟨.plain (Text.trimEnd row), rfl, value,
      sound.of_prefix (Text.dropEndWhile_isPrefix _ row)⟩
  | hit code =>
    refine ⟨.hit code, ?_, value, sound⟩
    have last : Text.glue '\n' code.rows =
        Block.fence ++ code.info ++ ('\n' : CodePoint) :: code.code ++ ('\n' : CodePoint) ::
        (Block.fence ++ "\x7b\x7b" ++ code.kind.name ++ (['\x7d'] : Text)) ++ (['\x7d'] : Text) := by
      rw [glue_rows]
      simp only [Marked.closing, List.append_assoc, List.cons_append]
      rfl
    rw [Piece.writeAll_hit, Piece.writeAll_nil, List.append_nil, last]
    exact Text.dropEndWhile_self rfl

theorem trimStart_page (whole : ∀ block ∈ blocks, block.Whole) :
    Text.trimStart (blocks.flatMap Block.write) =
    (blocks.dropWhile (· == .blank)).flatMap Block.write := by
  induction blocks with
  | nil => rfl
  | cons block blocks ih =>
    by_cases blank : block = .blank
    · subst blank
      exact ih fun other member => whole other (List.mem_cons_of_mem _ member)
    · have kept : (block :: blocks).dropWhile (· == .blank) = block :: blocks :=
        List.dropWhile_cons_of_neg (by simpa using blank)
      obtain ⟨c, t, written, visible⟩ := write_cons (whole block List.mem_cons_self) blank
      rw [kept, List.flatMap_cons, written]
      exact Text.trimStart_cons visible _

/-- Blocks before the end of a page keep all of their rows. -/
theorem glue_page (blocks : List Block) (last : List (Piece Text Marked))
    (some : Piece.writeAll Marked.rows last ≠ []) :
    Text.glue '\n' (Piece.writeAll Marked.rows (blocks.flatMap rows ++ last)) =
      blocks.flatMap Block.write ++ Text.glue '\n' (Piece.writeAll Marked.rows last) := by
  induction blocks with
  | nil => rfl
  | cons block blocks ih =>
    have first : Piece.writeAll Marked.rows (rows block) ≠ [] := by
      cases block <;> simp [rows, Marked.rows]
    have more : Piece.writeAll Marked.rows (blocks.flatMap rows ++ last) ≠ [] := by
      rw [Piece.writeAll_append]
      exact List.append_ne_nil_of_right_ne_nil _ some
    rw [List.flatMap_cons, List.append_assoc, Piece.writeAll_append, Text.glue_append first more,
      ih, List.flatMap_cons, write_eq]
    simp only [List.append_assoc, List.cons_append, List.nil_append]

theorem values_page (blocks : List Block) :
    (blocks.flatMap rows).filterMap Piece.value? = blocks.filterMap marked? := by
  induction blocks with
  | nil => rfl
  | cons block blocks ih =>
    rw [List.flatMap_cons, List.filterMap_append, ih, values_rows, List.filterMap_cons]
    cases marked? block <;> rfl

/-- Blank blocks at the end of a page leave nothing on it. -/
theorem trimEnd_page (whole : ∀ block ∈ blocks, block.Whole) (fits : ∀ block ∈ blocks, Fits block) :
    ∃ ps, Piece.writeAll Marked.rows ps ≠ [] ∧
      Text.trimEnd (blocks.flatMap Block.write) = Text.glue '\n' (Piece.writeAll Marked.rows ps) ∧
      ps.filterMap Piece.value? = blocks.filterMap marked? ∧ ∀ piece ∈ ps, Sound piece := by
  induction blocks using List.reverseRecOn with
  | nil => exact ⟨[.plain []], by simp, rfl, rfl, List.forall_mem_singleton.mpr sound_blank⟩
  | append_singleton blocks block ih =>
    have wholeFront : ∀ other ∈ blocks, other.Whole := fun other member =>
      whole other (List.mem_append_left _ member)
    have fitsFront : ∀ other ∈ blocks, Fits other := fun other member =>
      fits other (List.mem_append_left _ member)
    rw [List.flatMap_append, List.flatMap_singleton, List.filterMap_append]
    by_cases blank : block = .blank
    · subst blank
      have gone : ∀ c ∈ Block.blank.write, Text.isBlank c = true := List.all_eq_true.mp rfl
      have none : [Block.blank].filterMap marked? = [] := rfl
      rw [Text.trimEnd, Text.dropEndWhile_append_all gone, none, List.append_nil]
      exact ih wholeFront fitsFront
    · have wholeLast := whole block (List.mem_append_right _ (List.mem_singleton_self block))
      have fitsLast := fits block (List.mem_append_right _ (List.mem_singleton_self block))
      obtain ⟨c, t, written, visible⟩ := write_cons wholeLast blank
      have stays : Text.dropEndWhile Text.isBlank block.write ≠ [] :=
        Text.dropEndWhile_ne_nil (written ▸ List.mem_cons_self) visible
      obtain ⟨piece, last, value, sound⟩ := trimEnd_write wholeLast fitsLast blank
      have some : Piece.writeAll Marked.rows [piece] ≠ [] := by
        cases piece <;> simp [Marked.rows]
      refine ⟨blocks.flatMap rows ++ [piece], ?_, ?_, ?_, ?_⟩
      · rw [Piece.writeAll_append]
        exact List.append_ne_nil_of_right_ne_nil _ some
      · rw [Text.trimEnd, Text.dropEndWhile_append stays, glue_page blocks [piece] some, ← last]
        rfl
      · rw [List.filterMap_append, values_page, List.filterMap_cons, List.filterMap_cons, value]
        rfl
      · intro other member
        rcases List.mem_append.mp member with front | here
        · obtain ⟨origin, known, inside⟩ := List.mem_flatMap.mp front
          exact sound_rows (wholeFront origin known) (fitsFront origin known) other inside
        · cases List.mem_singleton.mp here
          exact sound

theorem values_dropBlanks (blocks : List Block) :
    (blocks.dropWhile (· == .blank)).filterMap marked? = blocks.filterMap marked? := by
  induction blocks with
  | nil => rfl
  | cons block blocks ih =>
    by_cases blank : block = .blank
    · subst blank
      exact ih
    · rw [List.dropWhile_cons_of_neg (by simpa using blank)]

/-- A page in rows: its code blocks in order, between rows that are quiet. -/
theorem writeAll_rows (whole : ∀ block ∈ blocks, block.Whole)
    (fits : ∀ block ∈ blocks, Fits block) :
    ∃ ps, Piece.writeAll Marked.rows ps ≠ [] ∧
      Block.writeAll blocks = Text.glue '\n' (Piece.writeAll Marked.rows ps) ∧
      ps.filterMap Piece.value? = blocks.filterMap marked? ∧ ∀ piece ∈ ps, Sound piece := by
  have kept : blocks.dropWhile (· == .blank) <:+ blocks := List.dropWhile_suffix _
  rw [Block.writeAll, Text.trim, trimStart_page whole, ← values_dropBlanks]
  exact trimEnd_page (fun block member => whole block (kept.subset member))
    fun block member => fits block (kept.subset member)

end LabEditor.Preview
