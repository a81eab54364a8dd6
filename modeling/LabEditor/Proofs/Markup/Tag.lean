import LabEditor.Markup.Tag
import LabEditor.Proofs.Text.Trimming
import Mathlib.Data.List.TakeWhile

/-! What a tag line is read as. -/
namespace LabEditor.Markup
variable {line : Text} {tag : Tag} {found : TagLine}

theorem TagLine.readAs?_eq_some : readAs? tag line = some found ↔
    ∃ inside behind rest, Text.after? "\x7b\x7b" line = some inside ∧
      Text.afterWord? tag.name inside = some behind ∧ Text.after? "\x7d\x7d" behind = some rest ∧
      found = ⟨tag, inside.take tag.name.length,
        Text.trim ((Text.trimStart rest).takeWhile (· != '\n'))⟩ := by
  simp only [readAs?, Option.bind_eq_bind, Option.bind_eq_some_iff, Option.pure_def,
    Option.some.injEq, eq_comm (a := found)]
  constructor
  · rintro ⟨inside, opened, behind, named, rest, closed, same⟩
    exact ⟨inside, behind, rest, opened, named, closed, same⟩
  · rintro ⟨inside, behind, rest, opened, named, closed, same⟩
    exact ⟨inside, opened, behind, named, rest, closed, same⟩

theorem readAs?_of_tagLine? (read : tagLine? line = some found) :
    ∃ tag, TagLine.readAs? tag line = some found := by
  obtain ⟨tag, _, here⟩ := List.exists_of_findSome?_eq_some read
  exact ⟨tag, here⟩

/-- The content of a tag line is part of the line. -/
theorem mem_of_mem_content (read : tagLine? line = some found) (member : c ∈ found.content) :
    c ∈ line := by
  obtain ⟨tag, here⟩ := readAs?_of_tagLine? read
  obtain ⟨inside, behind, rest, opened, named, closed, rfl⟩ := TagLine.readAs?_eq_some.mp here
  obtain ⟨spelled, whole, _⟩ := Text.afterWord?_eq_some.mp named
  have behindTag := (List.takeWhile_prefix _).subset (Text.mem_of_mem_trim member)
  have inRest : c ∈ rest := (Text.trimStart_suffix rest).subset behindTag
  have inBehind : c ∈ behind := (Text.after?_suffix closed).subset inRest
  have inInside : c ∈ inside := whole ▸ List.mem_append_right spelled inBehind
  exact (Text.after?_suffix opened).subset inInside

theorem TagLine.heading_pos (role : found.role = .heading level) : 0 < level := by
  simp only [TagLine.role] at role
  split at role
  · cases role
    decide
  · split at role
    · cases role
      decide
    · split at role
      · cases role
      · split at role
        · cases role
        · cases role

/-- A tag opens code unless it is spelled as a heading or an image. -/
theorem TagLine.opensCode_iff : found.role.opensCode = true ↔
    Text.lower found.spelling ∉ [("h1" : Text), "h2", "img"] := by
  simp only [TagLine.role, List.mem_cons, List.not_mem_nil, or_false, not_or]
  split
  · rename_i first
    exact iff_of_false Bool.false_ne_true fun apart => apart.1 first
  · rename_i first
    split
    · rename_i second
      exact iff_of_false Bool.false_ne_true fun apart => apart.2.1 second
    · rename_i second
      split
      · rename_i image
        exact iff_of_false Bool.false_ne_true fun apart => apart.2.2 image
      · rename_i image
        refine iff_of_true ?_ ⟨first, second, image⟩
        split <;> rfl

theorem Tag.mem_all (tag : Tag) : tag ∈ all := by
  cases tag <;> decide

/-- A character that no tag is written with. -/
def Foreign (x : CodePoint) : Prop :=
  x ≠ '{' ∧ x ≠ '}' ∧ ∀ tag ∈ Tag.all, tag.name.all (fun c => !Text.sameLetter c x) = true

instance : DecidablePred Foreign := fun x => by
  unfold Foreign
  infer_instance

theorem Foreign.letters (foreign : Foreign x) (tag : Tag) :
    ∀ c ∈ tag.name, Text.sameLetter c x = false := by
  intro c member
  simpa using List.all_eq_true.mp (foreign.2.2 tag tag.mem_all) c member

theorem readAs?_foreign (foreign : Foreign x) (front behind : Text) (tag : Tag) :
    (TagLine.readAs? tag (front ++ x :: behind)).map TagLine.role =
      (TagLine.readAs? tag front).map TagLine.role := by
  have opening : x ∉ ("\x7b\x7b" : Text) := fun member => foreign.1 (by simpa using member)
  have closing : x ∉ ("\x7d\x7d" : Text) := fun member => foreign.2.1 (by simpa using member)
  simp only [TagLine.readAs?, Text.after?_stop opening]
  cases opened : Text.after? "\x7b\x7b" front with
  | none => rfl
  | some inside =>
    simp only [Option.map_some, Option.bind_eq_bind, Option.bind_some,
      Text.afterWord?_stop (foreign.letters tag)]
    cases named : Text.afterWord? tag.name inside with
    | none => rfl
    | some rest =>
      simp only [Option.map_some, Option.bind_some, Text.after?_stop closing]
      have spelled : (inside ++ x :: behind).take tag.name.length = inside.take tag.name.length :=
        List.take_append_of_le_length (Text.length_of_afterWord? named)
      cases closed : Text.after? "\x7d\x7d" rest with
      | none => rfl
      | some content =>
        simp only [Option.map_some, Option.bind_some, Option.pure_def, spelled]
        rfl

/-- What a line is tagged as is seen in front of any character that no tag is written with. -/
theorem role_foreign (foreign : Foreign x) (front behind : Text) :
    (tagLine? (front ++ x :: behind)).map TagLine.role = (tagLine? front).map TagLine.role := by
  rw [tagLine?, tagLine?, List.map_findSome?, List.map_findSome?]
  exact congrArg (Tag.all.findSome? ·) (funext (readAs?_foreign foreign front behind))

end LabEditor.Markup
