import LabEditor.Markup.Block
import Mathlib.Data.List.TakeWhile

/-! The blocks of a page by groups of neighbouring lines. Every line belongs to one group, each group
makes at most one block, and a code tag takes in lines up to the next blank or tagged one; so what
stands from such a line on is read as a page of its own. -/
namespace LabEditor.Markup

namespace TagLine
variable {tag : TagLine}

/-- The name of a tag as it counts. -/
def name (tag : TagLine) : Text :=
  Text.lower tag.spelling

/-- A tag that stands for itself, whatever lines follow it. -/
def Alone (tag : TagLine) : Prop :=
  tag.name = "h1" ∨ tag.name = "h2" ∨ tag.name = "img"

theorem role_eq (tag : TagLine) : tag.role =
    if tag.name = "h1" then .heading 1
    else if tag.name = "h2" then .heading 2
    else if tag.name = "img" then .image
    else if tag.name = "copy" then .copy
    else .exec (tag.name == "exec interrupt") := rfl

theorem role_code (takes : ¬ tag.Alone) : tag.role =
    if tag.name = "copy" then .copy else .exec (tag.name == "exec interrupt") := by
  obtain ⟨first, second, image⟩ : tag.name ≠ "h1" ∧ tag.name ≠ "h2" ∧ tag.name ≠ "img" := by
    simpa only [Alone, not_or] using takes
  rw [role_eq, if_neg first, if_neg second, if_neg image]

theorem opensCode_role (tag : TagLine) : tag.role.opensCode = true ↔ ¬ tag.Alone := by
  constructor
  · rintro opens (name | name | name)
    · simp [role_eq, name, Role.opensCode] at opens
    · simp [role_eq, name, Role.opensCode] at opens
    · simp [role_eq, name, Role.opensCode] at opens
  · intro takes
    rw [role_code takes]
    split <;> rfl

end TagLine

/-- Lines that belong together. -/
inductive Group where
  /-- A line without a tag that no code tag takes in. -/
  | plain (line : Text)
  | mark (line : Text) (tag : TagLine)
  /-- A code tag with the lines that it takes in. -/
  | code (line : Text) (tag : TagLine) (body : List Text)

namespace Group

def lines : Group → List Text
  | .plain line => [line]
  | .mark line _ => [line]
  | .code line _ body => line :: body

/-- The lines of a code block: what stands beside its tag, and what follows it. -/
def codeLines (tag : TagLine) (body : List Text) : List Text :=
  if tag.content.isEmpty then body else tag.content :: body

def block? : Group → Option Block
  | .plain line => if Text.isBlankText line then some .blank else some (.bullet (Text.trim line))
  | .mark _ tag =>
    if tag.name = "h1" then some (.heading 1 tag.content)
    else if tag.name = "h2" then some (.heading 2 tag.content)
    else some (.ofImage tag.content)
  | .code _ tag body =>
    if (codeLines tag body).isEmpty then none
    else if tag.name = "copy" then some (.copy (codeLines tag body))
    else some (.exec (codeLines tag body) (tag.name == "exec interrupt"))

end Group

/-- A line that can be part of a code block. -/
def InBody (line : Text) : Prop :=
  Text.isBlankText line = false ∧ tagLine? line = none

/-- Lines that no code tag before them takes in: there are none, or the first is blank or tagged. -/
def Apart (lines : List Text) : Prop :=
  ∀ line, lines.head? = some line → Text.isBlankText line = true ∨ (tagLine? line).isSome = true

/-- Lines cut into groups, from the first to the last. A code tag takes in as many lines as it
can. -/
inductive Grouped : List Text → List Group → Prop where
  | nil : Grouped [] []
  | plain {line : Text} : tagLine? line = none → Grouped rest groups →
      Grouped (line :: rest) (.plain line :: groups)
  | mark {line : Text} {tag : TagLine} : tagLine? line = some tag → tag.Alone →
      Grouped rest groups → Grouped (line :: rest) (.mark line tag :: groups)
  | code {line : Text} {tag : TagLine} {body : List Text} : tagLine? line = some tag →
      ¬ tag.Alone → (∀ l ∈ body, InBody l) → Apart rest → Grouped rest groups →
      Grouped (line :: (body ++ rest)) (.code line tag body :: groups)

variable {line : Text} {lines rest body : List Text} {tag : TagLine} {groups more : List Group}

theorem Apart.append (apart : Apart lines) (behind : Apart rest) : Apart (lines ++ rest) := by
  cases lines with
  | nil => exact behind
  | cons line lines => exact apart

/-- No line is lost, repeated or moved. -/
theorem Grouped.lines_eq (grouped : Grouped lines groups) :
    groups.flatMap Group.lines = lines := by
  induction grouped with
  | nil => rfl
  | plain _ _ ih => exact congrArg _ ih
  | mark _ _ _ ih => exact congrArg _ ih
  | code _ _ _ _ _ ih => rw [List.flatMap_cons, ih, Group.lines, List.cons_append]

theorem Grouped.append (grouped : Grouped lines groups) (apart : Apart rest)
    (later : Grouped rest more) : Grouped (lines ++ rest) (groups ++ more) := by
  induction grouped with
  | nil => exact later
  | plain untagged _ ih => exact .plain untagged ih
  | mark tagged alone _ ih => exact .mark tagged alone ih
  | code tagged takes inside stops _ ih =>
    rw [List.cons_append, List.append_assoc]
    exact .code tagged takes inside (stops.append apart) ih

namespace Block

theorem isBodyLine_iff : isBodyLine line = true ↔ InBody line := by
  simp [isBodyLine, InBody]

theorem takeWhile_body (inside : ∀ l ∈ body, InBody l) (apart : Apart rest) :
    (body ++ rest).takeWhile isBodyLine = body := by
  have stops : rest.takeWhile isBodyLine = [] := by
    cases rest with
    | nil => rfl
    | cons line rest =>
      refine List.takeWhile_cons_of_neg ?_
      rw [isBodyLine_iff]
      rintro ⟨visible, untagged⟩
      rcases apart line rfl with blank | tagged
      · simp [visible] at blank
      · simp [untagged] at tagged
  rw [List.takeWhile_append_of_pos fun l member => isBodyLine_iff.mpr (inside l member), stops,
    List.append_nil]

theorem apart_dropWhile (lines : List Text) : Apart (lines.dropWhile isBodyLine) := by
  intro line first
  have stop := List.head?_dropWhile_not isBodyLine lines
  rw [first] at stop
  cases blank : Text.isBlankText line with
  | true => exact Or.inl rfl
  | false => exact Or.inr (by simpa [isBodyLine, blank] using stop)

theorem ofLinesFrom_skip (skip : Nat) (lines : List Text) :
    ofLinesFrom skip lines = ofLines (lines.drop skip) := by
  induction lines generalizing skip with
  | nil => cases skip <;> rfl
  | cons line lines ih =>
    cases skip with
    | zero => rfl
    | succ skip => exact ih skip

theorem ofTagLine_mark (alone : tag.Alone) (line : Text) :
    ofTagLine tag [] = (Group.mark line tag).block?.toList := by
  unfold ofTagLine
  rcases alone with name | name | name
  · simp [TagLine.role_eq, Group.block?, name]
  · simp [TagLine.role_eq, Group.block?, name]
  · simp [TagLine.role_eq, Group.block?, name]

theorem ofCode_eq (lines : List Text) (make : List Text → Block) :
    ofCode lines make = (if lines.isEmpty then none else some (make lines)).toList := by
  rw [ofCode]
  split <;> rfl

theorem ofTagLine_code (takes : ¬ tag.Alone) (line : Text) (body : List Text) :
    ofTagLine tag body = (Group.code line tag body).block?.toList := by
  have role := TagLine.role_code takes
  rw [ofTagLine, Group.block?]
  by_cases copy : tag.name = "copy"
  · rw [if_pos copy] at role ⊢
    simp only [role, ofCode_eq]
    rfl
  · rw [if_neg copy] at role ⊢
    simp only [role, ofCode_eq]
    rfl

theorem ofLines_plain (untagged : tagLine? line = none) (lines : List Text) :
    ofLines (line :: lines) = (Group.plain line).block?.toList ++ ofLines lines := by
  have block : (Group.plain line).block? = some (ofPlainLine line) := by
    rw [Group.block?, ofPlainLine]
    split <;> rfl
  rw [ofLines, ofLinesFrom, untagged, block]
  rfl

theorem ofLines_mark (tagged : tagLine? line = some tag) (alone : tag.Alone) (lines : List Text) :
    ofLines (line :: lines) = (Group.mark line tag).block?.toList ++ ofLines lines := by
  have closed : tag.role.opensCode = false := by
    rw [← Bool.not_eq_true, TagLine.opensCode_role]
    exact fun takes => takes alone
  simp only [ofLines, ofLinesFrom, tagged, closed, Bool.false_eq_true, if_false,
    ofTagLine_mark alone line, List.length_nil]

theorem ofLines_code (tagged : tagLine? line = some tag) (takes : ¬ tag.Alone)
    (inside : ∀ l ∈ body, InBody l) (apart : Apart rest) :
    ofLines (line :: (body ++ rest)) =
      (Group.code line tag body).block?.toList ++ ofLines rest := by
  have opens := tag.opensCode_role.mpr takes
  rw [ofLines, ofLinesFrom, tagged]
  simp only [opens, if_true, takeWhile_body inside apart, ofLinesFrom_skip, List.drop_left,
    ofTagLine_code takes line body]

/-- Blocks are made group by group. -/
theorem ofLines_of_grouped (grouped : Grouped lines groups) :
    ofLines lines = groups.filterMap Group.block? := by
  have front (group : Group) (groups : List Group) :
      (group :: groups).filterMap Group.block? =
        group.block?.toList ++ groups.filterMap Group.block? := by
    rw [List.filterMap_cons]
    split <;> simp [*]
  induction grouped with
  | nil => rfl
  | plain untagged _ ih => rw [ofLines_plain untagged, front, ih]
  | mark tagged alone _ ih => rw [ofLines_mark tagged alone, front, ih]
  | code tagged takes inside apart _ ih => rw [ofLines_code tagged takes inside apart, front, ih]

end Block

/-- All lines can be grouped. -/
theorem exists_grouped (lines : List Text) : ∃ groups, Grouped lines groups := by
  match lines with
  | [] => exact ⟨[], .nil⟩
  | line :: lines =>
    cases tagged : tagLine? line with
    | none =>
      obtain ⟨groups, grouped⟩ := exists_grouped lines
      exact ⟨_, .plain tagged grouped⟩
    | some tag =>
      by_cases alone : tag.Alone
      · obtain ⟨groups, grouped⟩ := exists_grouped lines
        exact ⟨_, .mark tagged alone grouped⟩
      · have shorter := (List.dropWhile_suffix (l := lines) Block.isBodyLine).length_le
        obtain ⟨groups, grouped⟩ := exists_grouped (lines.dropWhile Block.isBodyLine)
        have inside : ∀ l ∈ lines.takeWhile Block.isBodyLine, InBody l := fun l member =>
          Block.isBodyLine_iff.mp (List.mem_takeWhile_imp member)
        have whole := Grouped.code tagged alone inside (Block.apart_dropWhile lines) grouped
        rw [List.takeWhile_append_dropWhile] at whole
        exact ⟨_, whole⟩
termination_by lines.length

/-- Lines can be grouped in one way only. -/
theorem Grouped.unique (grouped : Grouped lines groups) (other : Grouped lines more) :
    groups = more := by
  induction grouped generalizing more with
  | nil =>
    cases other
    rfl
  | plain untagged _ ih =>
    cases other with
    | plain _ later => exact congrArg _ (ih later)
    | mark tagged => simp [untagged] at tagged
    | code tagged => simp [untagged] at tagged
  | mark tagged alone _ ih =>
    cases other with
    | plain untagged => simp [untagged] at tagged
    | mark again _ later =>
      cases tagged.symm.trans again
      exact congrArg _ (ih later)
    | code again takes =>
      cases tagged.symm.trans again
      exact absurd alone takes
  | @code rest groups line tag body tagged takes inside apart _ ih =>
    generalize whole : line :: (body ++ rest) = lines at other
    cases other with
    | nil => contradiction
    | plain untagged =>
      cases whole
      simp [untagged] at tagged
    | mark again alone =>
      cases whole
      cases tagged.symm.trans again
      exact absurd alone takes
    | @code others _ _ _ body' again _ inside' apart' later =>
      -- Both bodies are the longest run of lines that can be one.
      obtain ⟨rfl, same⟩ := List.cons.inj whole
      cases tagged.symm.trans again
      have bodies := congrArg (List.takeWhile Block.isBodyLine) same
      rw [Block.takeWhile_body inside apart, Block.takeWhile_body inside' apart'] at bodies
      subst bodies
      cases List.append_cancel_left same
      exact congrArg _ (ih later)

namespace Block

/-- The blocks of a page are those of its groups of lines, and there is one way to group them. What
begins with a blank or tagged line is read on its own. -/
theorem ofLines_grouped (lines : List Text) :
    (∃ groups, Grouped lines groups ∧ groups.flatMap Group.lines = lines ∧
        ofLines lines = groups.filterMap Group.block? ∧
        ∀ more, Grouped lines more → more = groups) ∧
      ∀ rest, Apart rest → ofLines (lines ++ rest) = ofLines lines ++ ofLines rest := by
  obtain ⟨groups, grouped⟩ := exists_grouped lines
  refine ⟨⟨groups, grouped, grouped.lines_eq, ofLines_of_grouped grouped, ?_⟩, ?_⟩
  · intro more other
    exact other.unique grouped
  · intro rest apart
    obtain ⟨more, later⟩ := exists_grouped rest
    rw [ofLines_of_grouped (grouped.append apart later), List.filterMap_append,
      ofLines_of_grouped grouped, ofLines_of_grouped later]

theorem ofLines_grouped_pair :
    ofLines ["\x7b\x7bExec\x7d\x7d ls", "  -l", "\x7b\x7bcopy\x7d\x7d", "x", "", "y "] =
      [.exec ["ls", "  -l"] false, .copy ["x"], .blank, .bullet "y"] := by
  obtain ⟨_, split⟩ := ofLines_grouped ["\x7b\x7bExec\x7d\x7d ls", "  -l"]
  have first := split ["\x7b\x7bcopy\x7d\x7d", "x", "", "y "] fun line first => by
    cases first
    exact Or.inr (by decide)
  refine first.trans ?_
  decide

end Block
end LabEditor.Markup
