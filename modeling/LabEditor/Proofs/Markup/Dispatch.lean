import LabEditor.Proofs.Detection.Pass
import LabEditor.Proofs.Markup.Group
import LabEditor.Proofs.Text.Case

/-! From the name of a tag to what becomes of its lines. A name is read in any case. Spelled in ASCII
it counts as the tag that it is read with; with a letter i beyond ASCII it is read too, and counts as
the name of a command. -/
namespace LabEditor.Markup
variable {line : Text} {tag other : Tag} {found more : TagLine} {lines rest : List Text}

namespace Tag

theorem small (tag : Tag) : Text.IsSmall tag.name := by
  cases tag <;> decide

theorem name_injective (same : tag.name = other.name) : tag = other := by
  cases tag <;> cases other <;> first | rfl | exact absurd same (by decide)

/-- Whether the lines behind a tag are its body. -/
def takesBody : Tag → Bool
  | .h1 | .h2 | .img => false
  | .copy | .exec | .execInterrupt => true

/-- The lines behind a tag that belong to it. -/
def body (tag : Tag) (below : List Text) : List Text :=
  if tag.takesBody then below.takeWhile Block.isBodyLine else []

/-- The block that each tag is there for. -/
def blocks (tag : Tag) (content : Text) (body : List Text) : List Block :=
  let lines := if content.isEmpty then body else content :: body
  match tag with
  | .h1 => [.heading 1 content]
  | .h2 => [.heading 2 content]
  | .img => [.ofImage content]
  | .copy => Block.ofCode lines .copy
  | .exec => Block.ofCode lines fun lines => .exec lines false
  | .execInterrupt => Block.ofCode lines fun lines => .exec lines true

/-- What the lines of a tag are to become. -/
def role : Tag → Role
  | .h1 => .heading 1
  | .h2 => .heading 2
  | .img => .image
  | .copy => .copy
  | .exec => .exec false
  | .execInterrupt => .exec true

theorem opensCode_role (tag : Tag) : tag.role.opensCode = tag.takesBody := by
  cases tag <;> rfl

end Tag

namespace TagLine

/-- A tag line begins with the name of its tag in double braces, letter by letter. -/
theorem of_readAs? (read : readAs? tag line = some found) : found.tag = tag ∧
    List.Forall₂ (fun c d => Text.sameLetter c d = true) tag.name found.spelling ∧
    ∃ rest, line = ('\x7b' : CodePoint) :: '\x7b' :: (found.spelling ++ ('\x7d' : CodePoint) :: rest) := by
  obtain ⟨inside, behind, rest, opened, named, closed, rfl⟩ := readAs?_eq_some.mp read
  obtain ⟨spelled, rfl, same⟩ := Text.afterWord?_eq_some.mp named
  have whole : (spelled ++ behind).take tag.name.length = spelled := by
    rw [same.length_eq, List.take_left]
  cases Text.after?_eq_some.mp closed
  simp only [whole]
  exact ⟨trivial, same, _, Text.after?_eq_some.mp opened⟩

theorem letters (read : readAs? tag line = some found) :
    found.spelling.map Text.letter = tag.name :=
  Text.map_letter tag.small (of_readAs? read).2.1

theorem closing (read : readAs? tag line = some found) : ('\x7d' : CodePoint) ∉ found.spelling := by
  intro member
  have inName := letters read ▸ List.mem_map_of_mem (f := Text.letter) member
  cases tag <;> exact absurd inName (by decide)

/-- No line is read with two tags. -/
theorem readAs?_unique (read : readAs? tag line = some found)
    (again : readAs? other line = some more) : tag = other := by
  obtain ⟨_, _, rest, whole⟩ := of_readAs? read
  obtain ⟨_, _, rest', whole'⟩ := of_readAs? again
  have inside := (List.cons.inj (List.cons.inj (whole.symm.trans whole')).2).2
  obtain ⟨same, _⟩ := Text.split_unique (closing read) (closing again) inside
  exact Tag.name_injective ((letters read).symm.trans ((congrArg _ same).trans (letters again)))

theorem tagLine?_of_readAs? (read : readAs? tag line = some found) : tagLine? line = some found := by
  cases first : tagLine? line with
  | none =>
    have none := List.findSome?_eq_none_iff.mp first tag tag.mem_all
    rw [read] at none
    contradiction
  | some more =>
    obtain ⟨other, again⟩ := readAs?_of_tagLine? first
    cases readAs?_unique read again
    rw [← again, read]

/-- The tag that a line counts as. -/
def counted (found : TagLine) : Tag :=
  if Text.IsAscii found.spelling then found.tag else .exec

theorem role_named (named : found.name = tag.name) : found.role = tag.role := by
  rw [role_eq, named]
  cases tag <;> rfl

theorem role_beyond (beyond : ¬ Text.IsAscii found.name) : found.role = .exec false := by
  have apart (name : Text) (ascii : Text.IsAscii name) : found.name ≠ name := by
    rintro rfl
    exact beyond ascii
  rw [role_eq, if_neg (apart _ (by decide)), if_neg (apart _ (by decide)),
    if_neg (apart _ (by decide)), if_neg (apart _ (by decide)), beq_false_of_ne (apart _ (by decide))]

theorem role_counted (read : readAs? tag line = some found) : found.role = found.counted.role := by
  obtain ⟨rfl, same, _⟩ := of_readAs? read
  rw [counted]
  split
  · rename_i ascii
    exact role_named (Text.lower_spelled (Tag.small _) same ascii)
  · rename_i beyond
    exact role_beyond ((Text.isAscii_lower (Tag.small _) same).not.mpr beyond)

theorem counted_eq_iff (read : readAs? tag line = some found) :
    found.counted = tag ↔ Text.IsAscii found.spelling := by
  constructor
  · intro same d member
    by_contra beyond
    rw [counted, if_neg fun ascii => beyond (ascii d member)] at same
    -- No letter of the command's name has a form beyond ASCII.
    have inName := letters read ▸ List.mem_map_of_mem (f := Text.letter) member
    have ascii := (tag.small _ inName).1
    cases same
    rcases Text.odd_letter (Nat.le_of_not_lt beyond) ascii with rfl | rfl | rfl | rfl
    all_goals
      exact absurd inName (by decide)
  · intro ascii
    rw [counted, if_pos ascii, (of_readAs? read).1]

end TagLine

namespace Block

theorem ofLines_append (apart : Apart rest) : ofLines (lines ++ rest) = ofLines lines ++ ofLines rest := by
  obtain ⟨groups, grouped⟩ := exists_grouped lines
  obtain ⟨more, later⟩ := exists_grouped rest
  rw [ofLines_of_grouped (grouped.append apart later), List.filterMap_append,
    ofLines_of_grouped grouped, ofLines_of_grouped later]

theorem ofTagLine_blocks (role : found.role = tag.role) (body : List Text) :
    ofTagLine found body = tag.blocks found.content body := by
  rw [ofTagLine, role]
  cases tag <;> rfl

/-- A tag line is read as a tag, wherever it stands. -/
theorem ofLines_tagged (tagged : tagLine? line = some found) (role : found.role = tag.role)
    (above below : List Text) : ofLines (above ++ line :: below) =
      ofLines above ++ tag.blocks found.content (tag.body below) ++
        ofLines (below.drop (tag.body below).length) := by
  have apart : Apart (line :: below) := by
    rintro _ ⟨⟩
    exact Or.inr (tagged ▸ rfl)
  have here : ofLines (line :: below) = ofTagLine found (tag.body below) ++
      ofLines (below.drop (tag.body below).length) := by
    rw [ofLines, ofLinesFrom, tagged, Tag.body, ← tag.opensCode_role, ← role]
    simp only [ofLinesFrom_skip]
  rw [ofLines_append apart, here, ofTagLine_blocks role, List.append_assoc]

end Block

/-- A pass over the lines goes on behind a tag line as its role says, whatever stands above it. -/
theorem apply_tagged (tagged : tagLine? line = some found) (rule : Detection.Rule) (inBlock : Bool)
    (above below : List Text) : Detection.apply rule inBlock (above ++ line :: below) =
      Detection.apply rule inBlock above ++
        line :: Detection.apply rule found.role.opensCode below := by
  induction above generalizing inBlock with
  | nil => simp only [List.nil_append, Detection.apply, tagged]
  | cons first above ih =>
    rw [List.cons_append, Detection.apply_cons, Detection.apply_cons, ih, List.cons_append]

/-- Wherever a line stands that is read with a tag, the block of the tag is made, and detection takes
the lines behind it for a body if the tag has one; so it is for the tag that the name was read as if the
name is spelled in ASCII, and for that of a command if not. -/
theorem dispatched_iff_ascii (read : TagLine.readAs? tag line = some found)
    (above below : List Text) (rule : Detection.Rule) (inBlock : Bool) :
    (found.counted = tag ↔ Text.IsAscii found.spelling) ∧
      (found.counted ≠ tag → found.counted = .exec) ∧
      Block.ofLines (above ++ line :: below) =
        Block.ofLines above ++ found.counted.blocks found.content (found.counted.body below) ++
          Block.ofLines (below.drop (found.counted.body below).length) ∧
      Detection.apply rule inBlock (above ++ line :: below) =
        Detection.apply rule inBlock above ++
          line :: Detection.apply rule found.counted.takesBody below := by
  have tagged := TagLine.tagLine?_of_readAs? read
  have role := TagLine.role_counted read
  have ascii := TagLine.counted_eq_iff read
  refine ⟨ascii, fun other => ?_, Block.ofLines_tagged tagged role above below, ?_⟩
  · rw [TagLine.counted, if_neg (ascii.not.mp other)]
  · rw [apply_tagged tagged, role, Tag.opensCode_role]

theorem dispatched_iff_ascii_upper :
    TagLine.readAs? .execInterrupt "\x7b\x7bEXEC Interrupt\x7d\x7d top" =
        some ⟨.execInterrupt, "EXEC Interrupt", "top"⟩ ∧
      Block.ofLines ["x", "\x7b\x7bEXEC Interrupt\x7d\x7d top", " -b", "", "y"] =
        [.bullet "x", .exec ["top", " -b"] true, .blank, .bullet "y"] := by
  have read : TagLine.readAs? .execInterrupt "\x7b\x7bEXEC Interrupt\x7d\x7d top" =
      some ⟨.execInterrupt, "EXEC Interrupt", "top"⟩ := by decide
  obtain ⟨own, _, blocks, _⟩ :=
    dispatched_iff_ascii read ["x"] [" -b", "", "y"] Detection.asHeading false
  rw [own.mpr (by decide)] at blocks
  exact ⟨read, blocks⟩

/-- An image whose tag is spelled with a dotless i is run as a command, and the next line with it. -/
theorem dotless_image_runs :
    TagLine.readAs? .img "\x7b\x7bımg\x7d\x7d logo.png" = some ⟨.img, "ımg", "logo.png"⟩ ∧
      Block.ofLines ["\x7b\x7bımg\x7d\x7d logo.png", "Setup"] = [.exec ["logo.png", "Setup"] false] ∧
      Detection.apply Detection.asHeading false ["\x7b\x7bımg\x7d\x7d logo.png", "Setup"] =
        (["\x7b\x7bımg\x7d\x7d logo.png", "Setup"] : List Text) :=
  ⟨by decide, rfl, rfl⟩

end LabEditor.Markup
