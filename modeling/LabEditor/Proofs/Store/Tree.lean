import LabEditor.Proofs.Store.Folders
import LabEditor.Proofs.Store.Run

/-! When the flat table of a store stands for a tree: no file lies above another record. Calls check
that their target is free, but neither what lies above it nor, for a file, what lies under it, so a
store stays a tree exactly as long as its records are put where a tree can hold them. -/
namespace LabEditor

namespace Store
variable {store next : Store} {files : Table Record} {record : Record} {path old new : Text}

/-- No file lies above a record, so that only folders have anything in them. -/
def IsTree (files : Table Record) : Prop :=
  ∀ file ∈ files.keys, isFile files file = true →
    ∀ key ∈ files.keys, Path.isAncestor file key = false

instance (files : Table Record) : Decidable (IsTree files) :=
  inferInstanceAs (Decidable (∀ _ ∈ _, _ → ∀ _ ∈ _, _))

/-- Where a tree can hold a new record: under no file and, if it is a file, over no record. -/
structure Fits (files : Table Record) (path : Text) (isDirectory : Bool) : Prop where
  below : ∀ file ∈ files.keys, isFile files file = true → Path.isAncestor file path = false
  above : isDirectory = false → ∀ key ∈ files.keys, Path.isAncestor path key = false

instance (files : Table Record) (path : Text) (isDirectory : Bool) :
    Decidable (Fits files path isDirectory) :=
  decidable_of_iff (_ ∧ _) ⟨fun both => ⟨both.1, both.2⟩, fun fits => ⟨fits.below, fits.above⟩⟩

/-- Where a tree can hold what lies at or under a path that moves: what comes to the new place meets
no file that stays above it, and no file that comes there lies above what stays. -/
structure FitsMoved (files : Table Record) (old new : Text) : Prop where
  below : ∀ file ∈ files.keys, isFile files file = true → Path.isWithin file old = false →
    ∀ key ∈ files.keys, Path.isWithin key old = true →
      Path.isAncestor file (Path.rebase key old new) = false
  above : ∀ file ∈ files.keys, isFile files file = true → Path.isWithin file old = true →
    ∀ key ∈ files.keys, Path.isWithin key old = false →
      Path.isAncestor (Path.rebase file old new) key = false

instance (files : Table Record) (old new : Text) : Decidable (FitsMoved files old new) :=
  decidable_of_iff (_ ∧ _) ⟨fun both => ⟨both.1, both.2⟩, fun fits => ⟨fits.below, fits.above⟩⟩

theorem IsTree.apart (tree : IsTree files) (there : isFile files path = true)
    (member : key ∈ files.keys) :
    Path.isAncestor path key = false :=
  tree path (isFile_member there) there key member

theorem isFile_put (absent : path ∉ files.keys) :
    isFile (files.put path record) file = true ↔
      (file = path ∧ record.isDirectory = false) ∨ isFile files file = true := by
  simp only [isFile_iff, Table.get?_put]
  by_cases same : file = path
  · have none := Table.get?_eq_none.mpr absent
    simp [same, none]
  · simp [same]

theorem mem_keys_put (absent : path ∉ files.keys) :
    key ∈ (files.put path record).keys ↔ key = path ∨ key ∈ files.keys := by
  rw [Table.keys_put, if_neg absent, List.mem_append, List.mem_singleton, or_comm]

theorem IsTree.put_iff (tree : IsTree files) (absent : path ∉ files.keys) :
    IsTree (files.put path record) ↔ Fits files path record.isDirectory := by
  constructor
  · intro tree
    refine ⟨fun file _ there => ?_, fun kind key member => ?_⟩
    · exact tree.apart ((isFile_put absent).mpr (Or.inr there))
        ((mem_keys_put absent).mpr (Or.inl rfl))
    · exact tree.apart ((isFile_put absent).mpr (Or.inl ⟨rfl, kind⟩))
        ((mem_keys_put absent).mpr (Or.inr member))
  · intro fits file _ there key member
    rcases (isFile_put absent).mp there with ⟨rfl, kind⟩ | before
    · rcases (mem_keys_put absent).mp member with rfl | old
      · exact Path.isAncestor_irrefl key
      · exact fits.above kind key old
    · rcases (mem_keys_put absent).mp member with rfl | old
      · exact fits.below file (isFile_member before) before
      · exact tree.apart before old

theorem IsTree.create_iff (tree : IsTree store.files)
    (made : store.create typed isDirectory content = .ok (next, record)) :
    IsTree next.files ↔ Fits store.files (Path.normalize typed) isDirectory := by
  obtain ⟨_, absent, rfl, rfl⟩ := create_ok made
  exact tree.put_iff absent

/-- Tables with the same paths, and the same files among them, are trees alike. -/
theorem IsTree.congr (tree : IsTree files) (keys : ∀ key ∈ others.keys, key ∈ files.keys)
    (kinds : ∀ file, isFile others file = true → isFile files file = true) : IsTree others :=
  fun file _ there key member => tree.apart (kinds file there) (keys key member)

theorem IsTree.write (tree : IsTree store.files) (written : store.write path content = .ok next) :
    IsTree next.files := by
  obtain ⟨record, found, kind, rfl⟩ := write_ok written
  have known := Table.mem_keys_of_get? found
  refine tree.congr (fun key member => ?_) fun file there => ?_
  · simp only [changed, Table.keys_put, known, if_true] at member
    exact member
  · simp only [changed, isFile_iff, Table.get?_put] at there
    by_cases same : file = path
    · exact same ▸ isFile_iff.mpr ⟨record, found, kind⟩
    · simpa only [same, if_false, ← isFile_iff] using there

theorem IsTree.delete (tree : IsTree store.files) (sound : store.Sound)
    (deleted : store.delete path = .ok (next, removed)) : IsTree next.files := by
  obtain ⟨_, _, _, rfl⟩ := delete_ok deleted
  refine tree.congr (fun key member => ?_) fun file there => ?_
  · simp only [changed, Table.keys_keep, List.mem_filter] at member
    exact member.1
  · obtain ⟨record, found, kind⟩ := isFile_iff.mp there
    simp only [changed, Table.get?_keep sound.distinct] at found
    exact isFile_iff.mpr ⟨record, found.1, kind⟩

theorem IsTree.replaceAll {past : Store} (tree : IsTree past.files) (listed : past.Sound)
    (store : Store) :
    IsTree (store.replaceAll past.records).files := by
  rw [listed.replaceAll_files]
  refine tree.congr (fun key member => ?_) fun file there => ?_
  · exact (mem_keys_sorted past).mp member
  · rwa [isFile, get?_sorted listed.distinct] at there

theorem isFile_relocate (sound : store.Sound) (target : Path.IsPlace new)
    (clear : Path.Clear store.files.keys old new) :
    isFile (store.relocate old new).files path = true ↔
      ∃ file, isFile store.files file = true ∧ Path.relocated old new file = path := by
  constructor
  · intro there
    obtain ⟨moved, found, kind⟩ := isFile_iff.mp there
    have member := Table.mem_of_get? found
    rw [relocate_files sound target clear] at member
    obtain ⟨entry, before, same⟩ := List.mem_map.mp member
    have key := congrArg Prod.fst same
    have kept : moved.isDirectory = entry.2.isDirectory :=
      (congrArg (fun entry => entry.2.isDirectory) same).symm.trans (relocateEntry_keeps entry).2
    exact ⟨entry.1, isFile_iff.mpr ⟨entry.2, Table.get?_of_mem sound.distinct before, kept ▸ kind⟩,
      (relocateEntry_key entry).symm.trans key⟩
  · rintro ⟨file, there, rfl⟩
    obtain ⟨record, found, kind⟩ := isFile_iff.mp there
    exact isFile_iff.mpr ⟨_, relocate_get? sound target clear found,
      (relocateEntry_keeps (file, record)).2.trans kind⟩

/-- Two records that both move, or both stay, keep how they lie to each other. -/
theorem IsTree.relocated_iff (tree : IsTree store.files) (sound : store.Sound)
    (relocated : store.Relocated old new next) :
    IsTree next.files ↔ FitsMoved store.files old new := by
  have target := (relocated.suits sound).place
  obtain ⟨clear, rfl⟩ := relocated.relocates
  have keys := relocate_keys sound target clear
  have inside : ∀ key ∈ store.files.keys, Path.isWithin key old = true →
      ∃ rest, Path.segments key = Path.segments old ++ rest := fun _ _ =>
    Path.inside_of_isWithin
  have moves : ∀ {key}, Path.isWithin key old = true →
      Path.relocated old new key = Path.rebase key old new := fun within => if_pos within
  have stays : ∀ {key}, Path.isWithin key old = false → Path.relocated old new key = key := by
    intro key outside
    simp [Path.relocated, outside]
  -- Every path of the new table is where an old one has come to, so both sides are about old paths.
  have pairs : IsTree (store.relocate old new).changed.files ↔
      ∀ file, isFile store.files file = true → ∀ key ∈ store.files.keys,
        Path.isAncestor (Path.relocated old new file) (Path.relocated old new key) = false := by
    constructor
    · intro tree file there key member
      refine tree.apart ((isFile_relocate sound target clear).mpr ⟨file, there, rfl⟩) ?_
      exact keys ▸ List.mem_map_of_mem member
    · intro apart path _ there key member
      obtain ⟨file, before, rfl⟩ := (isFile_relocate sound target clear).mp there
      obtain ⟨start, known, rfl⟩ := List.mem_map.mp (keys ▸ member)
      exact apart file before start known
  rw [pairs]
  constructor
  · intro apart
    refine ⟨fun file _ there outside key member within => ?_,
      fun file _ there within key member outside => ?_⟩
    · have lies := apart file there key member
      rwa [stays outside, moves within] at lies
    · have lies := apart file there key member
      rwa [moves within, stays outside] at lies
  · intro fits file there key member
    cases first : Path.isWithin file old with
    | true =>
      cases second : Path.isWithin key old with
      | true =>
        obtain ⟨xs, upper⟩ := inside file (isFile_member there) first
        obtain ⟨ys, lower⟩ := inside key member second
        rw [moves first, moves second, Path.isAncestor_rebase
          (sound.places file (isFile_member there))
          (sound.places key member) target upper lower]
        exact tree.apart there member
      | false =>
        rw [moves first, stays second]
        exact fits.above file (isFile_member there) there first key member second
    | false =>
      cases second : Path.isWithin key old with
      | true =>
        rw [stays first, moves second]
        exact fits.below file (isFile_member there) there first key member second
      | false =>
        rw [stays first, stays second]
        exact tree.apart there member

/-- Above the target there is no file, since only a folder has something in it. -/
theorem IsTree.relocated_below (tree : IsTree store.files) (sound : store.Sound)
    (relocated : store.Relocated old new next) (there : isFile store.files file = true) :
    Path.isAncestor file new = false := by
  have free : ∀ key ∈ store.files.keys, Path.isAncestor file key ≠ true := fun key member above =>
    Bool.false_ne_true ((tree.apart there member).symm.trans above)
  rw [Bool.eq_false_iff]
  intro above
  rcases relocated.above sound above with higher | folder
  · obtain ⟨record, found⟩ := relocated.found
    exact free old (Table.mem_keys_of_get? found) higher
  · rcases isFolder_iff.mp folder with ⟨key, member, higher⟩ | ⟨record, found, kind⟩
    · exact free key member higher
    · obtain ⟨other, known, plain⟩ := isFile_iff.mp there
      cases known.symm.trans found
      exact Bool.false_ne_true (plain.symm.trans kind)

/-- A folder without a record of its own is the only target that can break a tree. -/
theorem IsTree.fitsMoved_of_free (tree : IsTree store.files) (sound : store.Sound)
    (relocated : store.Relocated old new next)
    (free : ∀ key ∈ store.files.keys, Path.isAncestor new key = false) :
    FitsMoved store.files old new := by
  have target := (relocated.suits sound).place
  have absent := relocated.relocates.clear.target
  have lands : ∀ {key}, Path.isWithin key old = true →
      Path.isWithin (Path.rebase key old new) new = true := Path.isWithin_rebase target.isKey
  constructor
  · intro file known there outside key _ within
    rw [Bool.eq_false_iff]
    intro above
    -- The file lies above the target, or is it, or lies under it; each has been ruled out.
    rcases Path.isAncestor_or_isWithin above (lands within) with higher | under
    · exact Bool.false_ne_true ((tree.relocated_below sound relocated there).symm.trans higher)
    · rcases Path.isWithin_iff_or.mp under with rfl | under
      · exact absent known
      · exact Bool.false_ne_true ((free file known).symm.trans under)
  · intro file _ _ within key member outside
    rw [Bool.eq_false_iff]
    intro above
    rcases Path.isWithin_iff_or.mp (lands within) with same | under
    · exact Bool.false_ne_true ((free key member).symm.trans (same ▸ above))
    · exact Bool.false_ne_true ((free key member).symm.trans (Path.isAncestor_trans under above))

/-- What a tree needs to hold all of some new files that are made one after the other. -/
structure Takes (files : Table Record) (news : List (Text × Option Text)) : Prop where
  fits : ∀ new ∈ news, new.1 ∉ files.keys → Fits files new.1 new.2.isNone
  apart : news.Pairwise fun a b =>
    (a.2.isNone = false → Path.isAncestor a.1 b.1 = false) ∧
      (b.2.isNone = false → Path.isAncestor b.1 a.1 = false)

theorem Takes.put {news : List (Text × Option Text)}
    (takes : Takes files ((path, content?) :: news))
    (absent : path ∉ files.keys) (kind : record.isDirectory = content?.isNone) :
    Takes (files.put path record) news := by
  have apart := List.pairwise_cons.mp takes.apart
  refine ⟨fun new member missing => ?_, apart.2⟩
  have outside : new.1 ∉ files.keys := fun old => missing ((mem_keys_put absent).mpr (Or.inr old))
  have fits := takes.fits new (List.mem_cons_of_mem _ member) outside
  refine ⟨fun file _ there => ?_, fun plain key known => ?_⟩
  · rcases (isFile_put absent).mp there with ⟨rfl, file⟩ | before
    · exact (apart.1 new member).1 (kind ▸ file)
    · exact fits.below file (isFile_member before) before
  · rcases (mem_keys_put absent).mp known with rfl | old
    · exact (apart.1 new member).2 plain
    · exact fits.above plain key old

theorem IsTree.addMissing {news more : List (Text × Option Text)} (tree : IsTree store.files)
    (takes : Takes store.files (news ++ more)) (clean : ∀ file ∈ news, Lab.Clean file)
    (made : Lab.addMissing news store = .ok (next, created)) :
    IsTree next.files ∧ Takes next.files more := by
  induction news generalizing store created with
  | nil =>
    cases made
    exact ⟨tree, takes⟩
  | cons new news ih =>
    obtain ⟨path, content?⟩ := new
    have rest := fun file member => clean file (List.mem_cons_of_mem _ member)
    rw [Lab.addMissing] at made
    split at made
    · exact ih tree ⟨fun new member => takes.fits new (List.mem_cons_of_mem _ member),
        (List.pairwise_cons.mp takes.apart).2⟩ rest made
    · obtain ⟨⟨middle, record⟩, first, made⟩ := Outcome.bind_ok.mp made
      obtain ⟨⟨last, others⟩, later, made⟩ := Outcome.bind_ok.mp made
      cases made
      have same : Path.normalize path = path := (clean _ List.mem_cons_self).1
      have fits := (tree.create_iff first).mpr
      obtain ⟨_, absent, rfl, rfl⟩ := create_ok first
      rw [same] at absent fits later
      exact ih (fits (takes.fits _ List.mem_cons_self absent)) (takes.put absent rfl) rest later

/-- The files of a starter lab with its descriptor, as far as their places go. -/
def starterPlaces : List (Text × Option Text) :=
  Lab.starterFiles ++ [(Lab.indexFile, some [])]

theorem IsTree.scaffold (tree : IsTree store.files)
    (fits : ∀ new ∈ starterPlaces, new.1 ∉ store.files.keys → Fits store.files new.1 new.2.isNone)
    (title image : Text) : IsTree (Lab.scaffold store title image).1.files := by
  have takes : Takes store.files starterPlaces := ⟨fits, by decide⟩
  obtain ⟨started, created, made⟩ := Lab.addMissing_total Lab.starterFiles_clean store
  obtain ⟨middle, takes⟩ := tree.addMissing takes Lab.starterFiles_clean made
  simp only [Lab.scaffold, made]
  cases described : Lab.addIndex started title [] image with
  | error failure => exact middle
  | ok found =>
    obtain ⟨last, index⟩ := found
    rw [Lab.addIndex] at described
    split at described
    · cases described
      exact middle
    · obtain ⟨files, _, described⟩ := Outcome.bind_ok.mp described
      have takes : Takes started.files
          ([(Lab.indexFile, some (Lab.indexContent title [] image files))] ++ []) :=
        ⟨by simpa using takes.fits, by simp⟩
      have clean : ∀ file ∈ [(Lab.indexFile, some (Lab.indexContent title [] image files))],
        Lab.Clean file := by
        simpa using Lab.indexFile_clean (Lab.indexContent title [] image files)
      exact (middle.addMissing takes clean (Outcome.ofRefusal_eq_ok.mp described)).1

namespace Call

/-- Whether a call puts its records only where a tree can hold them. -/
def Fits (store : Store) : Call → Prop
  | create typed isDirectory _ => Store.Fits store.files (Path.normalize typed) isDirectory
  | rename path newName =>
    FitsMoved store.files path (Path.join [Path.parent path, Text.trim newName])
  | move source folder => FitsMoved store.files source (Path.join [folder, Path.basename source])
  | write _ _ | openFile _ | close | delete _ => True

instance (store : Store) : (call : Call) → Decidable (call.Fits store)
  | create _ _ _ => inferInstanceAs (Decidable (Store.Fits _ _ _))
  | rename _ _ | move _ _ => inferInstanceAs (Decidable (FitsMoved _ _ _))
  | write _ _ | openFile _ | close | delete _ => inferInstanceAs (Decidable True)

theorem isTree_iff_fits (tree : IsTree store.files) (sound : store.Sound) (call : Call)
    (done : call.outcome store = .ok next) : IsTree next.files ↔ call.Fits store := by
  cases call with
  | create typed isDirectory content =>
    obtain ⟨_, made, rfl⟩ := Outcome.map_eq_ok.mp done
    exact tree.create_iff (Outcome.ofRefusal_eq_ok.mp made)
  | write path content =>
    exact iff_of_true (tree.write (Outcome.ofRefusal_eq_ok.mp done)) trivial
  | openFile path =>
    obtain ⟨_, opened, rfl⟩ := Outcome.map_eq_ok.mp done
    obtain ⟨_, _, result⟩ := openFile_ok (Outcome.ofRefusal_eq_ok.mp opened)
    exact iff_of_true (result ▸ tree) trivial
  | close =>
    cases done
    rw [Store.close]
    split
    · exact iff_of_true tree trivial
    · exact iff_of_true tree trivial
  | rename path newName =>
    obtain ⟨_, renamed, rfl⟩ := Outcome.map_eq_ok.mp done
    have relocated := Outcome.ofRefusal_eq_ok.mp renamed
    obtain ⟨_, _, _, target, _⟩ := rename_ok relocated
    exact (tree.relocated_iff sound (Or.inl ⟨newName, relocated⟩)).trans (by rw [Fits, target])
  | move source folder =>
    obtain ⟨_, moved, rfl⟩ := Outcome.map_eq_ok.mp done
    have relocated := Outcome.ofRefusal_eq_ok.mp moved
    obtain ⟨_, _, _, target, _⟩ := move_ok relocated
    exact (tree.relocated_iff sound (Or.inr ⟨folder, relocated⟩)).trans (by rw [Fits, target])
  | delete path =>
    obtain ⟨_, deleted, rfl⟩ := Outcome.map_eq_ok.mp done
    exact iff_of_true (tree.delete sound (Outcome.ofRefusal_eq_ok.mp deleted)) trivial

end Call

namespace Run

/-- Whether a step puts its records only where a tree can hold them; a call that is refused puts
none anywhere, and what is put back has been a tree. -/
def Step.Fits (store : Store) : Step → Prop
  | .call taken => (taken.outcome store).isOk = true → taken.Fits store
  | .scaffold _ _ =>
    ∀ place ∈ starterPlaces, place.1 ∉ store.files.keys →
      Store.Fits store.files place.1 place.2.isNone
  | .putBack _ => True

instance (store : Store) : (step : Step) → Decidable (step.Fits store)
  | .call _ => inferInstanceAs (Decidable (_ → _))
  | .scaffold _ _ => inferInstanceAs (Decidable (∀ _ ∈ _, _ → _))
  | .putBack _ => inferInstanceAs (Decidable True)

/-- Whether all steps fit, each where the run has come to. -/
def Fits : Run → List Step → Prop
  | _, [] => True
  | run, step :: steps => step.Fits run.store ∧ Fits (run.step step) steps

instance decidableFits : (run : Run) → (steps : List Step) → Decidable (run.Fits steps)
  | _, [] => inferInstanceAs (Decidable True)
  | run, step :: steps => @instDecidableAnd _ _ _ (decidableFits (run.step step) steps)

theorem step_isTree (run : Run) (sound : ∀ past ∈ run.stores, past.Sound)
    (trees : ∀ past ∈ run.stores, IsTree past.files) (step : Step) (fits : step.Fits run.store) :
    IsTree (run.step step).store.files := by
  have here : run.store.Sound := sound run.store List.mem_cons_self
  have tree : IsTree run.store.files := trees run.store List.mem_cons_self
  rw [Run.step]
  cases step with
  | call call =>
    rw [live, Call.steps_on]
    refine Live.whole_keeps (P := fun store : Store => IsTree store.files) tree fun next _ made =>
      ?_
    obtain ⟨_, done, same⟩ := Outcome.map_eq_ok.mp made
    cases same
    exact (call.isTree_iff_fits tree here done).mpr (fits (by rw [done]; rfl))
  | scaffold title image =>
    rw [live, Live.ignore_after, Lab.scaffold_on]
    exact tree.scaffold fits title image
  | putBack ago =>
    rw [live]
    split
    · rename_i past found
      have listed := sound past (List.mem_of_getElem? found)
      rw [Live.replaceWritten_on, replaceWritten_listing here.plain listed.plain]
      exact (trees past (List.mem_of_getElem? found)).replaceAll listed run.store
    · exact tree

theorem trees_of_fits (run : Run) (sound : ∀ past ∈ run.stores, past.Sound)
    (trees : ∀ past ∈ run.stores, IsTree past.files) (steps : List Step) (fits : run.Fits steps) :
    ∀ past ∈ (steps.foldl step run).stores, IsTree past.files := by
  induction steps generalizing run with
  | nil => exact trees
  | cons step steps ih =>
    refine ih (run.step step) ?_ ?_ fits.2
    · exact forall_stores_step.mpr ⟨step_sound run sound step, sound⟩
    · exact forall_stores_step.mpr ⟨step_isTree run sound trees step fits.1, trees⟩

/-- While every step puts its records where a tree can hold them, the store is a tree. The next
call leaves it one exactly if it does so too, as renaming and moving do if nothing lies under the
target. -/
theorem isTree_while_fits (steps : List Step) (fits : start.Fits steps) :
    IsTree (after steps).store.files ∧
      (∀ (call : Call) (next : Store), call.outcome (after steps).store = .ok next →
        (IsTree next.files ↔ call.Fits (after steps).store)) ∧
      ∀ old new next, (after steps).store.Relocated old new next →
        (∀ key ∈ (after steps).store.files.keys, Path.isAncestor new key = false) →
          IsTree next.files := by
  have tree : IsTree (after steps).store.files := by
    refine trees_of_fits start ?_ ?_ steps fits _ List.mem_cons_self
    · intro past member
      cases List.mem_singleton.mp member
      exact Sound.empty
    · intro past member
      cases List.mem_singleton.mp member
      exact fun file none => absurd none List.not_mem_nil
  have sound := sound steps
  refine ⟨tree, fun call _ done => call.isTree_iff_fits tree sound done, ?_⟩
  intro old new next relocated free
  exact (tree.relocated_iff sound relocated).mpr (tree.fitsMoved_of_free sound relocated free)

/-- A folder is renamed, and another one is moved into it. -/
theorem isTree_while_fits_folders :
    let steps : List Step :=
      [.call (.create "docs" true .null), .call (.create "docs/a.md" false (.str "text")),
        .call (.create "old" true .null), .call (.rename "docs" "notes"),
        .call (.move "old" "notes"), .scaffold "Lab" "ubuntu"]
    start.Fits steps ∧ IsTree (after steps).store.files := by
  have fits : start.Fits
      [.call (.create "docs" true .null), .call (.create "docs/a.md" false (.str "text")),
        .call (.create "old" true .null), .call (.rename "docs" "notes"),
        .call (.move "old" "notes"), .scaffold "Lab" "ubuntu"] := by
    decide
  exact ⟨fits, (isTree_while_fits _ fits).1⟩

/-- A record can be made under a file, and the store is no tree then. -/
theorem create_under_file_no_tree :
    ¬ IsTree (after [.call (.create "notes" false (.str "text")),
      .call (.create "notes/a.md" false (.str []))]).store.files := by
  decide

end Run

end Store
end LabEditor
