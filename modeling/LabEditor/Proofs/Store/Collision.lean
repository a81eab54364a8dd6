import LabEditor.Proofs.Store.Folders
import LabEditor.Proofs.Store.Run

/-! When renaming and moving are refused for what is at the target. They are wherever what moves
would meet what stays, and nothing is lost elsewhere. But the check looks at the records that move as
well, so that one that goes up past a folder of its own name may be refused for what leaves with it. -/
namespace LabEditor.Store
variable {store next : Store} {old new : Text} {result : Except Refusal (Store × Text)}

/-- The record would keep its path, or something that moves would get that of a record which stays. -/
def Collides (store : Store) (old new : Text) : Prop :=
  new = old ∨ ∃ target ∈ new :: store.targets old new,
    target ∈ store.files.keys ∧ Path.isWithin target old = false

instance (store : Store) (old new : Text) : Decidable (store.Collides old new) :=
  inferInstanceAs (Decidable (_ ∨ ∃ _ ∈ _, _ ∧ _))

/-- The record goes up to the place of a folder that it lies in, and something under it would get the
path of a record that moves too. -/
def Overlaps (store : Store) (old new : Text) : Prop :=
  Path.isAncestor new old = true ∧ ∃ target ∈ store.targets old new,
    target ∈ store.files.keys ∧ Path.isWithin target old = true

instance (store : Store) (old new : Text) : Decidable (store.Overlaps old new) :=
  inferInstanceAs (Decidable (_ ∧ ∃ _ ∈ _, _ ∧ _))

theorem mem_targets : target ∈ store.targets old new ↔
    ∃ key ∈ store.files.keys, Path.isAncestor old key = true ∧ Path.rebase key old new = target := by
  simp only [targets, List.mem_map, List.mem_filter, and_assoc]

theorem checkRelocation_refused :
    (∃ taken, store.checkRelocation old new = .error (.duplicatePath taken)) ↔
      ∃ target ∈ new :: store.targets old new, target ∈ store.files.keys := by
  constructor
  · rintro ⟨taken, refused⟩
    rw [checkRelocation] at refused
    split at refused
    · rename_i target found
      exact ⟨target, List.mem_of_find?_eq_some found, Table.has_iff.mp (List.find?_some found)⟩
    · contradiction
  · rintro ⟨target, member, known⟩
    rw [checkRelocation]
    split
    · exact ⟨_, rfl⟩
    · rename_i free
      exact absurd (Table.has_iff.mpr known) (List.find?_eq_none.mp free target member)

theorem checkRelocation_cases (store : Store) (old new : Text) :
    store.checkRelocation old new = .ok () ∨
      ∃ taken, store.checkRelocation old new = .error (.duplicatePath taken) := by
  rw [checkRelocation]
  split
  · exact Or.inr ⟨_, rfl⟩
  · exact Or.inl rfl

/-- All that moves comes to lie at or under the new path. -/
theorem target_within (place : Path.IsPlace new)
    (member : target ∈ new :: store.targets old new) : Path.isWithin target new = true := by
  rcases List.mem_cons.mp member with rfl | below
  · exact Path.isWithin_refl target
  · obtain ⟨key, _, under, rfl⟩ := mem_targets.mp below
    exact Path.isWithin_rebase place.isKey (Path.isWithin_iff_or.mpr (Or.inr under))

namespace Attempt

theorem refused_iff (sound : store.Sound) (attempt : store.Attempt old new result) :
    (∃ taken, result = .error (.duplicatePath taken)) ↔
      store.Collides old new ∨ store.Overlaps old new := by
  have checked : (∃ taken, result = .error (.duplicatePath taken)) ↔
      ∃ taken, store.checkRelocation old new = .error (.duplicatePath taken) := by
    rw [attempt.result_eq]
    cases store.checkRelocation old new with
    | error reason => simp
    | ok => simp
  rw [checked, checkRelocation_refused]
  constructor
  · rintro ⟨target, member, known⟩
    cases moves : Path.isWithin target old with
    | false => exact Or.inl (Or.inr ⟨target, member, known, moves⟩)
    | true =>
      -- The target lies under the old path and under the new one, so one of them lies above the other.
      by_cases same : new = old
      · exact Or.inl (Or.inl same)
      · have apart := attempt.apart sound same
        have lands := target_within (attempt.suits sound).place member
        have upper : Path.isAncestor new old = true := by
          rcases Path.isWithin_or_isWithin lands moves with under | within
          · exact absurd (apart.symm.trans under) Bool.false_ne_true
          · exact (Path.isWithin_iff_or.mp within).resolve_left (Ne.symm same)
        have below : target ∈ store.targets old new := by
          refine (List.mem_cons.mp member).resolve_left ?_
          rintro rfl
          exact Bool.false_ne_true (apart.symm.trans moves)
        exact Or.inr ⟨upper, target, below, known, moves⟩
  · rintro ((rfl | ⟨target, member, known, _⟩) | ⟨_, target, below, known, _⟩)
    · obtain ⟨record, found⟩ := attempt.found
      exact ⟨new, List.mem_cons_self, Table.mem_keys_of_get? found⟩
    · exact ⟨target, member, known⟩
    · exact ⟨target, List.mem_cons_of_mem new below, known⟩

theorem succeeds (sound : store.Sound) (attempt : store.Attempt old new result)
    (free : ¬ store.Collides old new) (clear : ¬ store.Overlaps old new) :
    ∃ next, result = .ok (next, new) := by
  have passes := (attempt.refused_iff sound).not.mpr (not_or.mpr ⟨free, clear⟩)
  rw [attempt.result_eq] at passes ⊢
  rcases checkRelocation_cases store old new with checked | ⟨taken, refused⟩
  · rw [checked]
    exact ⟨_, rfl⟩
  · rw [refused] at passes
    exact absurd ⟨taken, rfl⟩ passes

/-- Where nothing is met that stays, no two paths become one. -/
theorem nodup_relocated (sound : store.Sound) (attempt : store.Attempt old new result)
    (free : ¬ store.Collides old new) :
    (store.files.keys.map (Path.relocated old new)).Nodup := by
  have place := (attempt.suits sound).place
  have apart : ∀ key ∈ store.files.keys, Path.isWithin key old = true →
      Path.rebase key old new ∈ store.files.keys →
        Path.isWithin (Path.rebase key old new) old = true := by
    intro key member within taken
    rw [← Bool.not_eq_false]
    intro stays
    refine free (Or.inr ⟨_, ?_, taken, stays⟩)
    rcases Path.isWithin_iff_or.mp within with rfl | under
    · rw [Path.rebase_self place.canonical]
      exact List.mem_cons_self
    · exact List.mem_cons_of_mem new (mem_targets.mpr ⟨key, member, under, rfl⟩)
  exact List.Nodup.map_on
    (fun _ left _ right => Path.relocated_injective apart sound.places left right) sound.distinct

end Attempt

/-- A new name does not lead out of the folder. -/
theorem not_overlaps_rename (sound : store.Sound) (found : store.files.get? old = some record)
    (valid : Path.IsSegment name) :
    ¬ store.Overlaps old (Path.join [Path.parent old, name]) := by
  rintro ⟨above, _⟩
  have place := (sound.found found).place
  obtain ⟨_, _, rest, more, parts⟩ := (Path.isAncestor_iff place.canonical).mp above
  have lengths := congrArg List.length parts
  have filled := List.length_pos_of_ne_nil place.segments_ne_nil
  have longer := List.length_pos_of_ne_nil more
  rw [Path.segments_child _ valid, Path.segments_parent, List.length_append, List.length_append,
    List.length_dropLast, List.length_singleton] at lengths
  omega

namespace Run

/-- Wherever a run stands, a record that may be renamed is refused its new path exactly if something
would collide there. A record that may be moved is refused it then too, and also if it would go up
and overlap with what moves along, though no two records would meet. -/
theorem refused_iff_collides (steps : List Step) :
    let store := (after steps).store
    (∀ path newName record, store.files.get? path = some record →
      checkName (Text.trim newName) record.isDirectory = .ok () →
        let target := Path.join [Path.parent path, Text.trim newName]
        ((∃ taken, store.rename path newName = .error (.duplicatePath taken)) ↔
          store.Collides path target) ∧
        (¬ store.Collides path target → ∃ next, store.rename path newName = .ok (next, target))) ∧
    (∀ source folder record, store.files.get? source = some record →
      (folder ≠ [] → ∃ above, store.files.get? folder = some above ∧ above.isDirectory = true ∧
        Path.isWithin folder source = false) →
        let target := Path.join [folder, Path.basename source]
        ((∃ taken, store.move source folder = .error (.duplicatePath taken)) ↔
          store.Collides source target ∨ store.Overlaps source target) ∧
        (¬ store.Collides source target →
          (store.files.keys.map (Path.relocated source target)).Nodup ∧
            (¬ store.Overlaps source target →
              ∃ next, store.move source folder = .ok (next, target)))) := by
  intro store
  have sound : store.Sound := sound steps
  constructor
  · intro path newName record found named target
    have attempt : store.Attempt path target (store.rename path newName) := .rename found named
    have clear : ¬ store.Overlaps path target :=
      not_overlaps_rename sound found (checkName_ok.mp named).1
    refine ⟨?_, fun free => attempt.succeeds sound free clear⟩
    rw [attempt.refused_iff sound, or_iff_left clear]
  · intro source folder record found into target
    have attempt : store.Attempt source target (store.move source folder) := .move found into
    exact ⟨attempt.refused_iff sound,
      fun free => ⟨attempt.nodup_relocated sound free, attempt.succeeds sound free⟩⟩

/-- A folder that meets a file of another one under a new name, and another in a new place. -/
theorem refused_iff_collides_folder :
    let store := (after [.call (.create "docs" true .null),
      .call (.create "docs/a.md" false (.str "text")), .call (.create "notes/a.md" false (.str [])),
      .call (.create "lab" true .null), .call (.create "lab/docs/a.md" false (.str []))]).store
    ∃ record, store.files.get? "docs" = some record ∧
      checkName (Text.trim "notes") record.isDirectory = .ok () ∧
      (("lab" : Text) ≠ [] → ∃ above, store.files.get? "lab" = some above ∧
        above.isDirectory = true ∧ Path.isWithin "lab" "docs" = false) ∧
      (∃ taken, store.rename "docs" "notes" = .error (.duplicatePath taken)) ∧
      ∃ taken, store.move "docs" "lab" = .error (.duplicatePath taken) := by
  intro store
  have found : ∃ record, store.files.get? "docs" = some record ∧
      checkName (Text.trim "notes") record.isDirectory = .ok () := ⟨_, rfl, rfl⟩
  have into : ("lab" : Text) ≠ [] → ∃ above, store.files.get? "lab" = some above ∧
      above.isDirectory = true ∧ Path.isWithin "lab" "docs" = false := fun _ => ⟨_, rfl, rfl, rfl⟩
  obtain ⟨record, found, named⟩ := found
  obtain ⟨renamed, moved⟩ := refused_iff_collides _
  exact ⟨record, found, named, into,
    (renamed "docs" "notes" record found named).1.mpr (by decide),
    (moved "docs" "lab" record found into).1.mpr (Or.inl (by decide))⟩

/-- Moving a folder up to the place of one that has no record is refused for what lies in it, which
would move out of the way. -/
theorem moved_up_refused :
    let store := (after [.call (.create "a/a" true .null), .call (.create "a/a/a" true .null)]).store
    (∃ record, store.files.get? "a/a" = some record) ∧
      store.move "a/a" [] = .error (.duplicatePath "a/a") ∧
      ¬ store.Collides "a/a" (Path.join [[], Path.basename "a/a"]) :=
  ⟨⟨_, rfl⟩, rfl, by decide⟩

end Run

end LabEditor.Store
