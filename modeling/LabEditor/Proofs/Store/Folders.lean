import LabEditor.Proofs.Path.Lineage
import LabEditor.Proofs.Store.Relocation

/-! What is at a path without having a record: something lies under it, so there is a folder. Renaming
and moving make no folder above the target that was not there, and the target is apart from what
moves. -/
namespace LabEditor.Store
variable {store next : Store} {files : Table Record} {path old new : Text}

/-- Whether some record is at a path or under it. -/
def holds (files : Table Record) (path : Text) : Bool :=
  files.keys.any fun key => Path.isWithin key path

/-- Whether there is a folder at a path, with or without a record of its own. -/
def isFolder (files : Table Record) (path : Text) : Bool :=
  files.keys.any (Path.isAncestor path) || (files.get? path).any Record.isDirectory

theorem holds_iff : holds files path = true ↔ ∃ key ∈ files.keys, Path.isWithin key path = true := by
  rw [holds, List.any_eq_true]

theorem isFolder_iff : isFolder files path = true ↔
    (∃ key ∈ files.keys, Path.isAncestor path key = true) ∨
      ∃ record, files.get? path = some record ∧ record.isDirectory = true := by
  rw [isFolder, Bool.or_eq_true, List.any_eq_true, Option.any_eq_true]

theorem holds_of_isFolder (folder : isFolder files path = true) : holds files path = true := by
  rw [holds_iff]
  rcases isFolder_iff.mp folder with ⟨key, member, above⟩ | ⟨record, found, _⟩
  · exact ⟨key, member, Path.isWithin_iff_or.mpr (Or.inr above)⟩
  · exact ⟨path, Table.mem_keys_of_get? found, Path.isWithin_refl path⟩

theorem place_of_holds (sound : store.Sound) (there : holds store.files path = true) : Path.IsPlace path := by
  obtain ⟨key, member, within⟩ := holds_iff.mp there
  exact (sound.places key member).above within

/-- Above the target of a move there is what lies above the record that moves, or the folder that it
is moved into and what lies above that. -/
theorem Relocated.above (sound : store.Sound) (relocated : store.Relocated old new next)
    (above : Path.isAncestor path new = true) :
    Path.isAncestor path old = true ∨ isFolder store.files path = true := by
  rcases relocated with ⟨newName, renamed⟩ | ⟨folder, moved⟩
  · obtain ⟨record, found, named, rfl, _⟩ := rename_ok renamed
    have place := (sound.found found).place
    obtain ⟨canonical, some, between, parts⟩ := Path.isAncestor_child (checkName_ok.mp named).1 above
    have longer : Path.segments old = Path.segments path ++ (between ++ [Path.basename old]) := by
      rw [Path.segments_basename place.canonical place.some, ← Path.segments_parent, parts,
        List.append_assoc]
    exact Or.inl ((Path.isAncestor_iff place.canonical).mpr ⟨canonical, some, _, by simp, longer⟩)
  · obtain ⟨record, found, into, rfl, _⟩ := move_ok moved
    have place := (sound.found found).place
    obtain ⟨canonical, some, between, parts⟩ :=
      Path.isAncestor_child (Path.basename_valid place.canonical place.some) above
    have filled : Path.segments path ≠ [] := (Path.segments_eq_nil canonical).not.mpr some
    have inside : folder ≠ [] := by
      rintro rfl
      exact filled (List.append_eq_nil_iff.mp parts.symm).1
    obtain ⟨upper, there, kind, _⟩ := into inside
    have target := (sound.found there).place
    have within : Path.isWithin folder path = true :=
      (Path.isWithin_iff target.canonical target.some).mpr ⟨canonical, some, between, parts⟩
    refine Or.inr (isFolder_iff.mpr ?_)
    rcases Path.isWithin_iff_or.mp within with rfl | higher
    · exact Or.inr ⟨upper, there, kind⟩
    · exact Or.inl ⟨folder, Table.mem_keys_of_get? there, higher⟩

/-- Nothing is moved into itself. -/
theorem Attempt.apart {result : Except Refusal (Store × Text)} (sound : store.Sound)
    (attempt : store.Attempt old new result) (other : new ≠ old) : Path.isWithin new old = false := by
  rw [Bool.eq_false_iff]
  intro within
  have under := (Path.isWithin_iff_or.mp within).resolve_left other
  cases attempt with
  | rename found named =>
    have place := (sound.found found).place
    obtain ⟨_, _, between, parts⟩ := Path.isAncestor_child (checkName_ok.mp named).1 under
    have lengths := congrArg List.length parts
    have filled := List.length_pos_of_ne_nil place.segments_ne_nil
    rw [Path.segments_parent, List.length_dropLast, List.length_append] at lengths
    omega
  | @move record folder found into =>
    have place := (sound.found found).place
    obtain ⟨_, _, between, parts⟩ :=
      Path.isAncestor_child (Path.basename_valid place.canonical place.some) under
    have inside : folder ≠ [] := by
      rintro rfl
      exact place.segments_ne_nil (List.append_eq_nil_iff.mp parts.symm).1
    obtain ⟨upper, there, _, outside⟩ := into inside
    have above := (sound.found there).place
    have within := (Path.isWithin_iff above.canonical above.some).mpr
      ⟨place.canonical, place.some, between, parts⟩
    exact Bool.false_ne_true (outside.symm.trans within)

theorem Relocated.apart (sound : store.Sound) (relocated : store.Relocated old new next) :
    Path.isWithin new old = false := by
  refine relocated.attempt.apart sound ?_
  rintro rfl
  obtain ⟨record, found⟩ := relocated.found
  exact relocated.relocates.clear.target (Table.mem_keys_of_get? found)

end LabEditor.Store
