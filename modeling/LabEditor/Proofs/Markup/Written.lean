import LabEditor.Proofs.Markup.Block
import LabEditor.Proofs.Text.Ascii
import LabEditor.Proofs.Text.LineEnd

/-! What the Markdown of a page is made of. It brings in no character beyond ASCII, and few line feeds
for each line. -/
namespace LabEditor.Markup

variable {c : CodePoint} {t page : Text} {lines : List Text}

open Text (IsAscii)

theorem ne_of_ascii {d : CodePoint} (beyond : 0x80 ≤ c.toNat) (ascii : d.toNat < 0x80) : c ≠ d := by
  rintro rfl
  exact Nat.not_lt_of_le beyond ascii

theorem linkAddresses_free (beyond : 0x80 ≤ c.toNat) (free : c ∉ t) : c ∉ linkAddresses t :=
  fun member => free (mem_of_mem_linkAddresses member (IsAscii.not_mem (by decide) beyond))

theorem linkAddresses_oneLine (oneLine : ('\n' : CodePoint) ∉ t) : ('\n' : CodePoint) ∉ linkAddresses t :=
  fun member => oneLine (mem_of_mem_linkAddresses member (by decide))

namespace Block
variable {block : Block}

theorem fenced_free {info marker : Text} (beyond : 0x80 ≤ c.toNat)
    (opened : IsAscii info) (closed : IsAscii marker)
    (free : ∀ l ∈ lines, c ∉ l) : c ∉ fenced info lines marker := by
  have apart : c ≠ '\n' := ne_of_ascii beyond (by decide)
  have code : c ∉ Text.glue '\n' lines := by
    intro member
    rcases Text.mem_of_mem_glue member with same | ⟨l, known, inside⟩
    · exact apart same
    · exact free l known inside
  have front := opened.not_mem beyond
  have back := closed.not_mem beyond
  have ticks : c ∉ fence := IsAscii.not_mem (by decide) beyond
  have braces : c ∉ ("\x7b\x7b" : Text) := IsAscii.not_mem (by decide) beyond
  have ending : c ∉ ("\x7d\x7d\n\n" : Text) := IsAscii.not_mem (by decide) beyond
  simp only [fenced, List.mem_append, List.mem_cons, apart, code, front, back, ticks, braces, ending,
    or_self, not_false_eq_true]

/-- Nothing but ASCII stands between the texts of a block. -/
theorem write_free (beyond : 0x80 ≤ c.toNat) (free : block.Free c) : c ∉ block.write := by
  have apart {d : CodePoint} (ascii : d.toNat < 0x80) : c ≠ d := ne_of_ascii beyond ascii
  have gap : c ≠ '\n' ∧ c ≠ ' ' := ⟨apart (by decide), apart (by decide)⟩
  cases block with
  | heading level text =>
    have signs : c ∉ List.replicate level ('#' : CodePoint) :=
      fun member => apart (by decide) (List.eq_of_mem_replicate member)
    have linked := linkAddresses_free beyond free
    simp only [write, List.mem_append, List.mem_cons, List.not_mem_nil, signs, linked, gap.1, gap.2,
      or_self, not_false_eq_true]
  | exec lines interrupt =>
    refine fenced_free beyond ?_ (by decide) free
    split <;> decide
  | copy lines => exact fenced_free beyond (by decide) (by decide) free
  | image alt title path =>
    obtain ⟨inAlt, inTitle, inPath⟩ := free
    have file : c ∉ fileName path := fun member => inPath (mem_of_mem_fileName member)
    have folder : c ∉ assetFolder := IsAscii.not_mem (by decide) beyond
    have link : c ∉ ("](" : Text) := IsAscii.not_mem (by decide) beyond
    have ending : c ∉ (")\n\n" : Text) := IsAscii.not_mem (by decide) beyond
    have quote : c ∉ (" \"" : Text) := IsAscii.not_mem (by decide) beyond
    have shown : c ∉ (if title.isEmpty then [] else (" \"" : Text) ++ title ++ (['"'] : Text)) := by
      split
      · exact List.not_mem_nil
      · have last : c ∉ (['"'] : Text) := IsAscii.not_mem (by decide) beyond
        simp only [List.mem_append, quote, inTitle, last, or_self, not_false_eq_true]
    have sign : c ≠ '!' ∧ c ≠ '[' := ⟨apart (by decide), apart (by decide)⟩
    simp only [write, List.mem_append, List.mem_cons, sign.1, sign.2, inAlt, link, folder, file,
      shown, ending, or_self, not_false_eq_true]
  | bullet text =>
    have linked := linkAddresses_free beyond free
    have sign : c ≠ '*' := apart (by decide)
    simp only [write, List.mem_append, List.mem_cons, List.not_mem_nil, sign, linked, gap.1, gap.2,
      or_self, not_false_eq_true]
  | blank => exact IsAscii.not_mem (by decide) beyond

/-- The line feeds that a block is written with. -/
def height : Block → Nat
  | .heading _ _ | .image _ _ _ => 2
  | .exec lines _ | .copy lines => lines.length + 3
  | .bullet _ | .blank => 1

theorem count_fenced {info marker : Text} (opened : ('\n' : CodePoint) ∉ info)
    (closed : ('\n' : CodePoint) ∉ marker)
    (some : lines ≠ []) (free : ∀ l ∈ lines, ('\n' : CodePoint) ∉ l) :
    (fenced info lines marker).count ('\n' : CodePoint) = lines.length + 3 := by
  have code : (Text.glue '\n' lines).count ('\n' : CodePoint) + 1 = lines.length := by
    rw [← Text.length_cut, Text.cut_glue free some]
  have ticks : fence.count ('\n' : CodePoint) = 0 := by decide
  have braces : ("\x7b\x7b" : Text).count ('\n' : CodePoint) = 0 := by decide
  have ending : ("\x7d\x7d\n\n" : Text).count ('\n' : CodePoint) = 2 := by decide
  have front := List.count_eq_zero.mpr opened
  have back := List.count_eq_zero.mpr closed
  simp only [fenced, List.count_append, List.count_cons_self, ticks, braces, ending, front, back]
  omega

theorem count_write (whole : block.Whole) : block.write.count ('\n' : CodePoint) = block.height := by
  have linked {t : Text} (oneLine : ('\n' : CodePoint) ∉ t) :
      (linkAddresses t).count ('\n' : CodePoint) = 0 :=
    List.count_eq_zero.mpr (linkAddresses_oneLine oneLine)
  cases block with
  | heading level text =>
    have signs : (List.replicate level ('#' : CodePoint)).count ('\n' : CodePoint) = 0 :=
      List.count_eq_zero.mpr fun member => absurd (List.eq_of_mem_replicate member) (by decide)
    have gap : (['\n', '\n'] : Text).count ('\n' : CodePoint) = 2 := by decide
    have blank : (' ' : CodePoint) ≠ '\n' := by decide
    simp only [write, List.count_append, List.count_cons_of_ne blank, signs, linked whole.2, gap,
      height]
  | exec lines interrupt =>
    refine count_fenced ?_ (by decide) whole.1 whole.2
    split <;> decide
  | copy lines => exact count_fenced (by decide) (by decide) whole.1 whole.2
  | image alt title path =>
    obtain ⟨inAlt, inTitle, inPath⟩ := whole
    have file : ('\n' : CodePoint) ∉ fileName path := fun member => inPath (mem_of_mem_fileName member)
    have shown : ('\n' : CodePoint) ∉
        (if title.isEmpty then [] else (" \"" : Text) ++ title ++ (['"'] : Text)) := by
      split
      · exact List.not_mem_nil
      · simp [inTitle]
    have front : ('\n' : CodePoint) ∉ ('!' : CodePoint) :: '[' :: alt := by simp [inAlt]
    have link : ("](" : Text).count ('\n' : CodePoint) = 0 := by decide
    have folder : assetFolder.count ('\n' : CodePoint) = 0 := by decide
    have ending : (")\n\n" : Text).count ('\n' : CodePoint) = 2 := by decide
    simp only [write, List.count_append, List.count_eq_zero.mpr front, List.count_eq_zero.mpr file,
      List.count_eq_zero.mpr shown, link, folder, ending, height]
  | bullet text =>
    have front : (('*' : CodePoint) :: ' ' :: linkAddresses text).count ('\n' : CodePoint) = 0 :=
      List.count_eq_zero.mpr (by simp [linkAddresses_oneLine whole])
    have gap : (['\n'] : Text).count ('\n' : CodePoint) = 1 := by decide
    simp only [write, List.count_append, front, gap, height]
  | blank => rfl

theorem sum_ofTagLine_le (tag : TagLine) (body : List Text) :
    ((ofTagLine tag body).map height).sum ≤ body.length + 4 := by
  have one := length_ofTagLine_le tag body
  have each : ∀ block ∈ ofTagLine tag body, block.height ≤ body.length + 4 := by
    intro block member
    rcases of_mem_ofTagLine member with ⟨level, _, rfl⟩ | rfl | ⟨code, _, size, _, same⟩
    · simp only [height]
      omega
    · simp only [ofImage, height]
      omega
    · rcases same with rfl | ⟨interrupt, rfl⟩
      · exact Nat.add_le_add_right size 3
      · exact Nat.add_le_add_right size 3
  cases blocks : ofTagLine tag body with
  | nil => exact Nat.zero_le _
  | cons block rest =>
    rw [blocks] at one each
    have none : rest.length = 0 := Nat.le_zero.mp (Nat.le_of_succ_le_succ one)
    have single : rest = [] := List.length_eq_zero_iff.mp none
    rw [single]
    exact each block List.mem_cons_self

/-- Code takes a row for each line of its body, and any block a few more. -/
theorem sum_ofLinesFrom_le (skip : Nat) (lines : List Text) :
    ((ofLinesFrom skip lines).map height).sum ≤ 4 * (lines.length - skip) := by
  induction lines generalizing skip with
  | nil => simp [ofLinesFrom]
  | cons line lines ih =>
    cases skip with
    | succ skip =>
      rw [List.length_cons, Nat.add_sub_add_right]
      exact ih skip
    | zero =>
      rw [ofLinesFrom, List.length_cons]
      split
      · have plain : (ofPlainLine line).height = 1 := by
          unfold ofPlainLine
          split <;> rfl
        have others := ih 0
        rw [List.map_cons, List.sum_cons, plain]
        omega
      · rename_i tag read
        have body : (if tag.role.opensCode then lines.takeWhile isBodyLine else []).length ≤
            lines.length := by
          split
          · exact (List.takeWhile_prefix _).length_le
          · exact Nat.zero_le _
        have first := sum_ofTagLine_le tag
          (if tag.role.opensCode then lines.takeWhile isBodyLine else [])
        have others := ih (if tag.role.opensCode then lines.takeWhile isBodyLine else []).length
        rw [List.map_append, List.sum_append]
        omega

end Block

theorem mem_of_mem_lines {line : Text} (known : line ∈ Markup.lines page) (member : c ∈ line)
    (visible : c ≠ '\r') : c ∈ page :=
  (Text.mem_joinLineEnds visible).mp (Text.mem_of_mem_cut known member)

/-- A character beyond ASCII that a page lacks is not in its Markdown either. -/
theorem toMarkdown_free (beyond : 0x80 ≤ c.toNat) (free : c ∉ page) : c ∉ toMarkdown page := by
  intro member
  obtain ⟨block, known, written⟩ := List.mem_flatMap.mp (Text.mem_of_mem_trim member)
  refine Block.write_free beyond ?_ written
  refine Block.free_ofLinesFrom (IsAscii.not_mem (by decide) beyond) (fun l inside here => free ?_)
    block known
  exact mem_of_mem_lines inside here (ne_of_ascii beyond (by decide))

theorem count_toMarkdown_le (page : Text) :
    (toMarkdown page).count ('\n' : CodePoint) ≤ 4 * (page.length + 1) := by
  have written : ((Block.ofLines (Markup.lines page)).flatMap Block.write).count ('\n' : CodePoint) =
      ((Block.ofLines (Markup.lines page)).map Block.height).sum := by
    rw [List.count_flatMap]
    exact congrArg List.sum (List.map_congr_left fun block member =>
      Block.count_write (Block.whole_of_page page block member))
  have trimmed := List.Sublist.count_le ('\n' : CodePoint)
    (Text.trim_sublist ((Block.ofLines (Markup.lines page)).flatMap Block.write))
  have blocks := Block.sum_ofLinesFrom_le 0 (Markup.lines page)
  have lines := length_lines_le page
  rw [written] at trimmed
  rw [toMarkdown, Block.writeAll]
  refine trimmed.trans (blocks.trans ?_)
  exact Nat.mul_le_mul_left 4 lines

end LabEditor.Markup
