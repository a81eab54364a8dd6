import LabEditor.Proofs.Along
import LabEditor.Proofs.Path.Normal
import LabEditor.Proofs.Store.Run

/-! When the paths of all records are those that typing them gives, so that what is there can be found
and is not made again. Each call that makes a path has its own way to go wrong: a path that is typed
is trimmed as a whole only, a new name may hold a backslash, and in the root a name that began
with white space begins the path. -/
namespace LabEditor.Store
variable {store next : Store} {record : Record} {path old new : Text}

/-- All paths are left as they are when they are typed again. -/
def Normal (store : Store) : Prop :=
  ∀ key ∈ store.files.keys, Path.normalize key = key

instance (store : Store) : Decidable store.Normal :=
  inferInstanceAs (Decidable (∀ _ ∈ _, _))

theorem Normal.neat (normal : store.Normal) (sound : store.Sound) (member : key ∈ store.files.keys) :
    Path.Neat key :=
  (Path.normalize_eq_self_iff (sound.places key member)).mp (normal key member)

theorem Normal.create_iff (normal : store.Normal)
    (made : store.create typed isDirectory content = .ok (next, record)) :
    next.Normal ↔ Path.normalize (Path.normalize typed) = Path.normalize typed := by
  obtain ⟨_, absent, rfl, rfl⟩ := create_ok made
  simp only [Normal, changed, Table.keys_put, if_neg absent, List.mem_append, List.mem_singleton]
  exact ⟨fun all => all _ (Or.inr rfl), fun same key member => member.elim (normal key) (· ▸ same)⟩

theorem Normal.relocated_iff (normal : store.Normal) (sound : store.Sound)
    (relocated : store.Relocated old new next) : next.Normal ↔ Path.Neat new := by
  have target := (relocated.suits sound).place
  have order := (relocated.carries sound).order
  obtain ⟨record, found⟩ := relocated.found
  have known := Table.mem_keys_of_get? found
  constructor
  · intro normal
    have there : new ∈ next.files.keys := by
      have moved := List.mem_map_of_mem (f := Path.relocated old new) known
      rwa [← order, Path.relocated_within (Path.isWithin_refl old), Path.rebase_self target.canonical]
        at moved
    exact normal.neat (sound.relocated relocated) there
  · intro neat key member
    obtain ⟨before, there, rfl⟩ := List.mem_map.mp (order ▸ member)
    have moved : Path.Neat (Path.relocated old new before) :=
      (normal.neat sound there).relocated (sound.places before there) neat target
    exact (Path.normalize_eq_self_iff ((sound.places before there).relocated target)).mpr moved

theorem Normal.rename_iff (normal : store.Normal) (sound : store.Sound)
    (renamed : store.rename path newName = .ok (next, new)) :
    next.Normal ↔ ('\\' : CodePoint) ∉ Text.trim newName := by
  obtain ⟨record, found, named, target, _⟩ := rename_ok renamed
  have known := Table.mem_keys_of_get? found
  rw [normal.relocated_iff sound (Or.inl ⟨newName, renamed⟩), target]
  exact Path.neat_rename_iff (normal.neat sound known) (sound.places path known)
    (checkName_ok.mp named).1

theorem Normal.move_iff (normal : store.Normal) (sound : store.Sound)
    (moved : store.move path folder = .ok (next, new)) :
    next.Normal ↔ (folder = [] → Text.trimStart (Path.basename path) = Path.basename path) := by
  obtain ⟨record, found, into, target, _⟩ := move_ok moved
  have known := Table.mem_keys_of_get? found
  have above : folder ≠ [] → folder ∈ store.files.keys := fun some => by
    obtain ⟨_, there, _⟩ := into some
    exact Table.mem_keys_of_get? there
  have canonical : Path.Canonical folder := by
    by_cases root : folder = []
    · exact root ▸ Path.canonical_nil
    · exact (sound.places folder (above root)).canonical
  rw [normal.relocated_iff sound (Or.inr ⟨folder, moved⟩), target, Text.trimStart_eq_self_iff]
  exact Path.neat_move_iff (normal.neat sound known) (sound.places path known)
    (fun some => normal.neat sound (above some)) canonical

/-- All that another store holds lies under paths of this one. -/
theorem Normal.mono (normal : store.Normal) (keys : ∀ key ∈ next.files.keys, key ∈ store.files.keys) :
    next.Normal :=
  fun key member => normal key (keys key member)

theorem Normal.scaffold (normal : store.Normal) (title image : Text) :
    (Lab.scaffold store title image).1.Normal := by
  refine Lab.scaffold_keeps (fun offered before made => ?_) normal title image
  have clean := offered.clean.1
  exact (before.create_iff made).mpr (by rw [clean, clean])

theorem checkName_ne_duplicate : checkName name isDirectory ≠ .error (.duplicatePath path) := by
  rw [checkName]
  dsimp only
  split
  · simp
  · split
    · simp
    · split <;> simp

/-- To make a record again is refused for the record that is there, if its path is typed as it is. -/
theorem create_held_iff (sound : store.Sound) (member : (path, record) ∈ store.files)
    (kind : isDirectory = true ∨ record.isDirectory = false) (content : Json) :
    store.create path isDirectory content = .error (.duplicatePath path) ↔
      Path.normalize path = path := by
  constructor
  · intro refused
    rw [create] at refused
    cases named : checkName (Path.basename (Path.normalize path)) isDirectory with
    | error reason =>
      rw [named] at refused
      cases refused
      exact absurd named checkName_ne_duplicate
    | ok =>
      rw [named, Outcome.ok_bind] at refused
      rcases Outcome.guard_error.mp refused with ⟨_, same⟩ | ⟨_, made⟩
      · simpa using same
      · contradiction
  · intro same
    have held := sound.records _ member
    have named : checkName (Path.basename path) isDirectory = .ok () := by
      have last := Path.segments_basename held.place.canonical held.place.some
      refine checkName_ok.mpr ⟨Path.basename_valid held.place.canonical held.place.some,
        held.place.plain _ (last ▸ List.mem_append_right _ List.mem_cons_self), fun file => ?_⟩
      have plain := kind.resolve_left (file ▸ Bool.false_ne_true)
      rw [Path.extension_basename held.place.canonical held.place.some]
      exact held.allowed plain
    have there : store.has path = true :=
      Table.has_iff.mpr (List.mem_map_of_mem (f := Prod.fst) member)
    simp only [create, same, named, Outcome.ok_bind, there, if_true]
    rfl

namespace Call

/-- Whether the path that a call makes, if it makes one, is as it would be typed. -/
def Tidy : Call → Prop
  | create typed _ _ => Text.trim (Path.normalize typed) = Path.normalize typed
  | rename _ newName => ('\\' : CodePoint) ∉ Text.trim newName
  | move source folder =>
    folder = [] → Text.trimStart (Path.basename source) = Path.basename source
  | write _ _ | openFile _ | close | delete _ => True

instance : (call : Call) → Decidable call.Tidy
  | create _ _ _ => inferInstanceAs (Decidable (_ = _))
  | rename _ _ => inferInstanceAs (Decidable (¬ _))
  | move _ _ => inferInstanceAs (Decidable (_ → _))
  | write _ _ | openFile _ | close | delete _ => inferInstanceAs (Decidable True)

theorem normal_iff_tidy (normal : store.Normal) (sound : store.Sound) (call : Call)
    (done : call.outcome store = .ok next) : next.Normal ↔ call.Tidy := by
  cases call with
  | create typed isDirectory content =>
    obtain ⟨_, made, rfl⟩ := Outcome.map_eq_ok.mp done
    obtain ⟨named, _⟩ := create_ok (Outcome.ofRefusal_eq_ok.mp made)
    rw [normal.create_iff (Outcome.ofRefusal_eq_ok.mp made)]
    exact Path.normalize_normalize_iff (Path.place_normalize (checkName_ok.mp named).1.1)
  | write path content =>
    obtain ⟨record, found, _, rfl⟩ := write_ok (Outcome.ofRefusal_eq_ok.mp done)
    have known := Table.mem_keys_of_get? found
    refine iff_of_true (normal.mono fun key member => ?_) trivial
    simpa only [changed, Table.keys_put, known, if_true] using member
  | openFile path =>
    obtain ⟨_, opened, rfl⟩ := Outcome.map_eq_ok.mp done
    obtain ⟨_, _, result⟩ := openFile_ok (Outcome.ofRefusal_eq_ok.mp opened)
    exact iff_of_true (result ▸ normal) trivial
  | close =>
    cases done
    rw [Store.close]
    split
    · exact iff_of_true normal trivial
    · exact iff_of_true normal trivial
  | rename path newName =>
    obtain ⟨_, renamed, rfl⟩ := Outcome.map_eq_ok.mp done
    exact normal.rename_iff sound (Outcome.ofRefusal_eq_ok.mp renamed)
  | move source folder =>
    obtain ⟨_, moved, rfl⟩ := Outcome.map_eq_ok.mp done
    exact normal.move_iff sound (Outcome.ofRefusal_eq_ok.mp moved)
  | delete path =>
    obtain ⟨_, deleted, rfl⟩ := Outcome.map_eq_ok.mp done
    obtain ⟨_, _, _, result⟩ := delete_ok (Outcome.ofRefusal_eq_ok.mp deleted)
    refine iff_of_true (normal.mono fun key member => ?_) trivial
    rw [result] at member
    simp only [changed, Table.keys_keep, List.mem_filter] at member
    exact member.1

end Call

namespace Run

/-- Whether a step makes only paths as they would be typed; a call that is refused makes none, and
neither does putting back what was there. -/
def Step.Tidy (run : Run) : Step → Prop
  | .call taken => (taken.outcome run.store).isOk = true → taken.Tidy
  | .scaffold _ _ | .putBack _ => True

instance (run : Run) : (step : Step) → Decidable (step.Tidy run)
  | .call _ => inferInstanceAs (Decidable (_ → _))
  | .scaffold _ _ | .putBack _ => inferInstanceAs (Decidable True)

/-- All stores of a run are sound and normal, so that each of them can be gone back to. -/
def Settled (run : Run) : Prop :=
  ∀ past ∈ run.stores, past.Sound ∧ past.Normal

theorem step_normal_iff (run : Run) (settled : run.Settled) (step : Step) :
    (run.step step).store.Normal ↔ step.Tidy run := by
  obtain ⟨here, before⟩ := settled run.store List.mem_cons_self
  rw [Run.step]
  cases step with
  | call call =>
    rw [live, Call.steps_on, Step.Tidy]
    cases done : call.outcome run.store with
    | error failure => exact iff_of_true before fun succeeded => absurd succeeded Bool.false_ne_true
    | ok next =>
      refine (call.normal_iff_tidy before here done).trans ⟨fun tidy _ => tidy, fun tidy => tidy rfl⟩
  | scaffold title image =>
    rw [live, Live.ignore_after, Lab.scaffold_on]
    exact iff_of_true (Normal.scaffold before title image) trivial
  | putBack ago =>
    rw [live]
    refine iff_of_true ?_ trivial
    split
    · rename_i past found
      obtain ⟨listed, normal⟩ := settled past (List.mem_of_getElem? found)
      rw [Live.replaceWritten_on, replaceWritten_listing here.plain listed.plain]
      refine normal.mono fun key known => ?_
      rw [Outcome.ofFault_ok, Outcome.map_ok, Live.whole_ok] at known
      exact (mem_keys_sorted past).mp (listed.replaceAll_files run.store ▸ known)
    · exact before

/-- All along a run the paths are normal exactly if each step makes only such. Where a path is normal,
and only there, to make its record again is refused for that path. -/
theorem paths_normal_iff_tidy (steps : List Step) :
    ((∀ n, (after (steps.take n)).store.Normal) ↔ Along step Step.Tidy start steps) ∧
      ∀ key record, (key, record) ∈ (after steps).store.files →
        ∀ isDirectory content, (isDirectory = true ∨ record.isDirectory = false) →
          ((after steps).store.create key isDirectory content = .error (.duplicatePath key) ↔
            Path.normalize key = key) := by
  have empty : start.Settled := by
    intro past member
    cases List.mem_singleton.mp member
    exact ⟨Sound.empty, fun key none => absurd none List.not_mem_nil⟩
  constructor
  · refine along_iff (I := Settled) (P := fun run => run.store.Normal) ?_ ?_ ?_ empty steps
    · exact fun run settled => (settled run.store List.mem_cons_self).2
    · exact fun run step settled => step_normal_iff run settled step
    · intro run step settled normal
      have sound := step_sound run (fun past member => (settled past member).1) step
      exact forall_stores_step.mpr ⟨⟨sound, normal⟩, settled⟩
  · exact fun key record held isDirectory content kind =>
      create_held_iff (sound steps) held kind content

/-- A new name may hold a backslash, which is a separator where the path is typed again. -/
theorem renamed_with_backslash :
    let store := (after [.call (.create "a.md" false (.str [])), .call (.rename "a.md" "b\\c.md")]).store
    ¬ store.Normal ∧ ("b\\c.md" : Text) ∈ store.files.keys ∧
      ∃ next record, store.create "b\\c.md" false (.str []) = .ok (next, record) := by
  refine ⟨by decide, by decide, _, _, rfl⟩

end Run

end LabEditor.Store
