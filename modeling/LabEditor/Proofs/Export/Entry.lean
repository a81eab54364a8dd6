import LabEditor.Proofs.Export.Directory
import LabEditor.Proofs.Path.Lineage
import LabEditor.Proofs.Text.CodePoint

/-! Writing entries whose paths are those of records: each puts a folder or a file at its path, and
folders above it. Where the entries agree, all of them are written, and nothing else is there. -/
namespace LabEditor

/-- Separators stand inside of the path of a record, not at an end. -/
theorem Path.IsPlace.inner {front rest : Text} (place : IsPlace (front ++ separator :: rest)) :
    front ≠ [] ∧ rest ≠ [] := by
  have whole := (canonical_iff_cut.mp place.canonical).resolve_left place.some
  rw [Text.cut_append] at whole
  constructor
  · rintro rfl
    exact whole [] (List.mem_append_left _ (List.mem_singleton_self [])) rfl
  · rintro rfl
    exact whole [] (List.mem_append_right _ (List.mem_singleton_self [])) rfl

/-- The entry of a text, or of a folder in place of one. -/
def Entry.of (file : Text × Option Text) : Entry :=
  ⟨.str file.1, .ofText? file.2⟩

namespace Export

variable {medium : Medium} {directory last : Directory} {path : Text} {file : Text × Option Text}
  {files : List (Text × Option Text)} {front names way : List Text}

/-- A medium takes the names of a way, and each part of the way. -/
structure Medium.Takes (medium : Medium) (names : List Text) : Prop where
  name : ∀ name ∈ names, medium.takesName name = true
  way : ∀ front, front <+: names → medium.takesWay front = true

/-- A path of a record that has no end inside. -/
structure Named (path : Text) : Prop where
  place : Path.IsPlace path
  noNull : ('\x00' : CodePoint) ∉ path

/-- A path of a record that can be encoded, and that a medium takes. -/
structure Portable (medium : Medium) (path : Text) : Prop extends Named path where
  encodable : path.isEncodable = true
  takes : medium.Takes (Path.segments path)

/-- Where a way leads that begins somewhere. -/
def Place.follow (place : Place) (names : List Text) : Place :=
  names.foldl Place.enter place

namespace Portable

theorem taken (portable : Portable medium path) :
    ∀ name ∈ Path.segments path, Taken medium name := by
  intro name member
  refine ⟨?_, portable.takes.name name member⟩
  rintro rfl
  exact absurd (portable.place.plain _ member) (by decide)

/-- The way to a record begins at the directory. -/
theorem start (portable : Portable medium path) : Place.start path = .below [] := by
  rw [Place.start, if_neg]
  intro slash
  obtain ⟨rest, rfl⟩ := List.head?_eq_some_iff.mp slash
  have place : Path.IsPlace ([] ++ Path.separator :: rest) := portable.place
  exact place.inner.1 rfl

theorem names_eq (portable : Portable medium path) : Place.names path = Path.segments path := by
  refine List.filter_eq_self.mpr fun name member => ?_
  rw [bne_iff_ne]
  rintro rfl
  exact absurd (portable.place.plain _ member) (by decide)

theorem follow (portable : Portable medium path) (above : List Text) (ahead : names <+: Place.names path) :
    (Place.below above).follow names = .below (above ++ names) := by
  have taken : ∀ name ∈ names, Taken medium name := fun name member =>
    portable.taken name (portable.names_eq ▸ ahead.subset member)
  clear ahead
  induction names generalizing above with
  | nil => rw [List.append_nil]; rfl
  | cons name names ih =>
    obtain ⟨first, rest⟩ := List.forall_mem_cons.mp taken
    rw [Place.follow, List.foldl_cons, first.enter]
    exact (ih (above ++ [name]) rest).trans (by rw [List.append_assoc]; rfl)

theorem checkWay (portable : Portable medium path) (ahead : front <+: Path.segments path) :
    medium.checkWay front = .ok () := by
  have inside : ∀ name ∈ front, name ⊆ path := fun name member c here =>
    Text.mem_of_mem_cut (List.mem_of_mem_filter (ahead.subset member)) here
  have encodable : ¬ front.any (fun name => (Text.pathBytes? name).isNone) = true := by
    rw [List.any_eq_true]
    rintro ⟨name, member, none⟩
    obtain ⟨bytes, written⟩ :=
      Text.pathBytes?_of_encodable (Text.isEncodable_of_subset portable.encodable (inside name member))
    rw [written] at none
    contradiction
  have noNull : ¬ front.any (·.contains '\x00') = true := by
    rw [List.any_eq_true]
    rintro ⟨name, member, null⟩
    exact portable.noNull (inside name member (List.contains_iff_mem.mp null))
  rw [Medium.checkWay, if_neg encodable, if_neg noNull, if_pos (portable.takes.way front ahead)]

end Portable

theorem through_dropLast_iff (place : Path.IsPlace path) :
    Through [] (Path.segments path).dropLast way ↔
      ∃ above, way = Path.segments above ∧ Path.isAncestor above path = true := by
  have split := Path.segments_basename place.canonical place.some
  rw [through_root]
  constructor
  · rintro ⟨some, rest, same⟩
    rw [← same, List.append_assoc] at split
    have valid : ∀ name ∈ way, Path.IsSegment name := fun name member =>
      Path.segments_valid path name (split ▸ List.mem_append_left _ member)
    have parts := Path.segments_ofSegments valid
    have canonical := Path.canonical_ofSegments valid
    refine ⟨Path.ofSegments way, parts.symm, (Path.isAncestor_iff place.canonical).mpr ?_⟩
    refine ⟨canonical, ?_, rest ++ [Path.basename path], by simp, by rw [parts, split]⟩
    rwa [Ne, ← Path.segments_eq_nil canonical, parts]
  · rintro ⟨above, rfl, ancestor⟩
    obtain ⟨canonical, some, rest, more, same⟩ := (Path.isAncestor_iff place.canonical).mp ancestor
    refine ⟨(Path.segments_eq_nil canonical).not.mpr some, ?_⟩
    rw [same, List.dropLast_append_of_ne_nil more]
    exact List.prefix_append _ _

theorem through_segments_iff (place : Path.IsPlace path) :
    Through [] (Path.segments path) way ↔
      Through [] (Path.segments path).dropLast way ∨ way = Path.segments path := by
  have split := Path.segments_basename place.canonical place.some
  rw [through_root, through_root]
  constructor
  · rintro ⟨some, ahead⟩
    rw [split, List.prefix_concat_iff, ← split] at ahead
    exact ahead.symm.imp_left fun upper => ⟨some, upper⟩
  · rintro (⟨some, ahead⟩ | rfl)
    · exact ⟨some, ahead.trans (List.dropLast_prefix _)⟩
    · exact ⟨place.segments_ne_nil, List.prefix_rfl⟩

/-- What stands for a text, or for a folder in place of one. -/
def itemOf : Option Text → Item
  | none => .folder
  | some t => .file t

/-- What a file or folder puts at which place: itself at its path, and a folder at each path above. -/
def Puts (file : Text × Option Text) (place : List Text) (item : Item) : Prop :=
  ∃ path, place = Path.segments path ∧
    ((Path.isAncestor path file.1 = true ∧ item = .folder) ∨ (path = file.1 ∧ item = itemOf file.2))

/-- The texts of files can be encoded. -/
def Encodes (files : List (Text × Option Text)) : Prop :=
  ∀ file ∈ files, ∀ t ∈ file.2, t.isEncodable = true

theorem puts_iff {content? : Option Text} {item : Item} (placed : Path.IsPlace path) :
    Puts (path, content?) way item ↔
      Through [] (Path.segments path).dropLast way ∧ item = .folder ∨
        way = Path.segments path ∧ item = itemOf content? := by
  rw [through_dropLast_iff placed]
  constructor
  · rintro ⟨above, rfl, ⟨ancestor, rfl⟩ | ⟨rfl, rfl⟩⟩
    · exact Or.inl ⟨⟨above, rfl, ancestor⟩, rfl⟩
    · exact Or.inr ⟨rfl, rfl⟩
  · rintro (⟨⟨above, rfl, ancestor⟩, rfl⟩ | ⟨rfl, rfl⟩)
    · exact ⟨above, rfl, Or.inl ⟨ancestor, rfl⟩⟩
    · exact ⟨path, rfl, Or.inr ⟨rfl, rfl⟩⟩

/-- No part of a way above its end is the whole of it. -/
theorem ne_of_through (placed : Path.IsPlace path)
    (through : Through [] (Path.segments path).dropLast way) : way ≠ Path.segments path := by
  rintro rfl
  have short := (through_root.mp through).2.length_le
  have some := List.length_pos_of_ne_nil placed.segments_ne_nil
  rw [List.length_dropLast] at short
  omega

theorem writeFolder_on (portable : Portable medium path)
    (clear : ∀ place item, Puts (path, none) place item →
      ∀ other, (place, other) ∈ directory → other = item) :
    ∃ next, (writeEntry medium (Entry.of (path, none))).on directory = (.ok (), next) ∧
      Added directory next (Puts (path, none)) := by
  have clearWay : ∀ place, Through [] (Path.segments path) place →
      ∀ item, (place, item) ∈ directory → item = .folder := by
    intro place through
    refine clear place .folder ((puts_iff portable.place).mpr ?_)
    exact ((through_segments_iff portable.place).mp through).imp (⟨·, rfl⟩) (⟨·, rfl⟩)
  obtain ⟨next, made, added⟩ := Writing.makeFolders_on portable.taken clearWay
  refine ⟨next, ?_, added.congr fun place item => ?_⟩
  · simp only [writeEntry, Entry.of, Json.text?, Json.ofText?, Json.isNull, if_true, Writing.folder,
      portable.start, portable.names_eq, portable.checkWay List.prefix_rfl, made, Writing.bind_on,
      Writing.lift_on, Writing.pure_on]
  · rw [puts_iff portable.place, through_segments_iff portable.place, or_and_right]
    rfl

theorem writeFile_on (portable : Portable medium path) {t : Text} (encodable : t.isEncodable = true)
    (clear : ∀ place item, Puts (path, some t) place item →
      ∀ other, (place, other) ∈ directory → other = item) :
    ∃ next, (writeEntry medium (Entry.of (path, some t))).on directory = (.ok (), next) ∧
      Added directory next (Puts (path, some t)) := by
  have ahead : (Path.segments path).dropLast <+: Path.segments path := List.dropLast_prefix _
  have split := Path.segments_basename portable.place.canonical portable.place.some
  have last : (Path.segments path).getLast? = some (Path.basename path) := by
    rw [split, List.getLast?_concat]
  obtain ⟨middle, made, added⟩ := Writing.makeFolders_on
    (fun name member => portable.taken name (ahead.subset member)) fun place through =>
      clear place .folder ((puts_iff portable.place).mpr (Or.inl ⟨through, rfl⟩))
  have clearStill : ∀ other,
      ([] ++ (Path.segments path).dropLast ++ [Path.basename path], other) ∈ middle → other = .file t := by
    rw [List.nil_append, ← split]
    intro other there
    rcases (added.mem _ other).mp there with before | ⟨through, _⟩
    · exact clear _ _ ((puts_iff portable.place).mpr (Or.inr ⟨rfl, rfl⟩)) other before
    · exact absurd rfl (ne_of_through portable.place through)
  obtain ⟨next, written, more⟩ := Writing.writeItem_on
    (portable.taken _ (List.mem_of_getLast? last)) (by simp) clearStill
  refine ⟨next, ?_, (added.trans more).congr fun place item => ?_⟩
  · simp only [writeEntry, Entry.of, Json.text?, Json.ofText?, Json.isNull, Bool.false_eq_true,
      if_false, Writing.file, portable.start, portable.names_eq, portable.checkWay ahead, made,
      portable.checkWay List.prefix_rfl, last, Writing.writeText_encodable encodable, written,
      Writing.bind_on, Writing.lift_on]
  · rw [List.nil_append, ← split, puts_iff portable.place]
    rfl

/-- An entry that meets nothing but what it puts itself is written. -/
theorem writeEntry_on (portable : Portable medium path) {content? : Option Text}
    (encodable : ∀ t ∈ content?, t.isEncodable = true)
    (clear : ∀ place item, Puts (path, content?) place item →
      ∀ other, (place, other) ∈ directory → other = item) :
    ∃ next, (writeEntry medium (Entry.of (path, content?))).on directory = (.ok (), next) ∧
      Added directory next (Puts (path, content?)) := by
  cases content? with
  | none => exact writeFolder_on portable clear
  | some t => exact writeFile_on portable (encodable t rfl) clear

/-- Entries that agree with one another, and with what is there, are all written. -/
theorem writeEntries_on (portable : ∀ file ∈ files, Portable medium file.1) (encodes : Encodes files)
    (agree : ∀ file ∈ files, ∀ other ∈ files, ∀ place item thing,
      Puts file place item → Puts other place thing → thing = item)
    (clear : ∀ file ∈ files, ∀ place item, Puts file place item →
      ∀ other, (place, other) ∈ directory → other = item) :
    ∃ next, (writeEntries medium (files.map Entry.of)).on directory =
        (.ok (files.countP (·.2.isSome)), next) ∧
      Added directory next fun place item => ∃ file ∈ files, Puts file place item := by
  induction files generalizing directory with
  | nil => exact ⟨directory, rfl, .none (by simp)⟩
  | cons file files ih =>
    obtain ⟨path, content?⟩ := file
    obtain ⟨first, rest⟩ := List.forall_mem_cons.mp portable
    obtain ⟨encodable, others⟩ := List.forall_mem_cons.mp encodes
    obtain ⟨middle, written, added⟩ := writeEntry_on first encodable (clear _ List.mem_cons_self)
    have clearStill : ∀ other ∈ files, ∀ place item, Puts other place item →
        ∀ thing, (place, thing) ∈ middle → thing = item := by
      intro other member place item puts thing there
      have known := List.mem_cons_of_mem (path, content?) member
      rcases (added.mem place thing).mp there with before | here
      · exact clear other known place item puts thing before
      · exact agree other known _ List.mem_cons_self place item thing puts here
    have agreeStill := fun other member one known =>
      agree other (List.mem_cons_of_mem _ member) one (List.mem_cons_of_mem _ known)
    obtain ⟨last, later, more⟩ := ih rest others agreeStill clearStill
    refine ⟨last, ?_, (added.trans more).congr fun place item => ?_⟩
    · rw [List.map_cons, writeEntries, List.countP_cons]
      simp only [Writing.bind_on, written, later, Writing.pure_on]
      cases content? <;> rfl
    · rw [List.exists_mem_cons_iff]

/-- Where all entries are written, their texts can be encoded. -/
theorem encodes_of_writeEntries {written : Nat}
    (done : (writeEntries medium (files.map Entry.of)).on directory = (.ok written, last)) :
    Encodes files := by
  induction files generalizing directory last written with
  | nil => exact List.forall_mem_nil _
  | cons file files ih =>
    obtain ⟨path, content?⟩ := file
    obtain ⟨_, middle, first, done⟩ := Writing.bind_on_ok.mp done
    obtain ⟨_, _, rest, _⟩ := Writing.bind_on_ok.mp done
    refine List.forall_mem_cons.mpr ⟨?_, ih rest⟩
    rintro t rfl
    exact Writing.encodable_of_file first

end Export
end LabEditor
