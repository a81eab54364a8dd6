import LabEditor.Proofs.Workspace.Tree

/-! Whether the table of open folders is in step with the tree. A folder without a record goes with
the last record under it, and no call then looks for it in the table, so the table stays in step
exactly as long as what is removed, moved away or replaced takes no such folder along. -/
namespace LabEditor

namespace Store
variable {store next past : Store} {files : Table Record} {path old new key : Text}

/-- Whether there is a folder at a path once each record has gone where `goes` says, or nowhere. -/
def FolderAfter (files : Table Record) (goes : Text → Option Text) (path : Text) : Prop :=
  ∃ entry ∈ files, ∃ target ∈ goes entry.1,
    Path.isAncestor path target = true ∨ target = path ∧ entry.2.isDirectory = true

instance (files : Table Record) (goes : Text → Option Text) (path : Text) :
    Decidable (FolderAfter files goes path) :=
  inferInstanceAs (Decidable (∃ _ ∈ _, ∃ _ ∈ _, _ ∨ _ ∧ _))

/-- Nothing at or under a path goes anywhere, and all else stays. -/
def without (gone key : Text) : Option Text :=
  if Path.isWithin key gone then none else some key

theorem folderAfter_stays (distinct : files.keys.Nodup) :
    FolderAfter files some path ↔ isFolder files path = true := by
  rw [isFolder_iff]
  constructor
  · rintro ⟨⟨key, record⟩, member, _, ⟨⟩, above | ⟨same, kind⟩⟩
    · exact Or.inl ⟨key, Table.mem_keys.mpr ⟨record, member⟩, above⟩
    · exact Or.inr ⟨record, Table.get?_of_mem distinct (same ▸ member), kind⟩
  · rintro (⟨key, member, above⟩ | ⟨record, found, kind⟩)
    · obtain ⟨record, there⟩ := Table.mem_keys.mp member
      exact ⟨_, there, key, rfl, Or.inl above⟩
    · exact ⟨_, Table.mem_of_get? found, path, rfl, Or.inr ⟨rfl, kind⟩⟩

theorem isFolder_delete (sound : store.Sound) (deleted : store.delete old = .ok (next, removed)) :
    isFolder next.files path = true ↔ FolderAfter store.files (without old) path := by
  have after := sound.delete deleted
  obtain ⟨_, _, _, result⟩ := delete_ok deleted
  have files : next.files = store.files.keep fun key => !Path.isWithin key old :=
    congrArg Store.files result
  rw [← folderAfter_stays after.distinct, files]
  constructor
  · rintro ⟨entry, member, target, stays, way⟩
    obtain ⟨there, outside⟩ := Table.mem_keep.mp member
    refine ⟨entry, there, target, ?_, way⟩
    rw [without, if_neg (by simpa using outside)]
    exact stays
  · rintro ⟨entry, member, target, stays, way⟩
    rw [without] at stays
    split at stays
    · contradiction
    · rename_i outside
      exact ⟨entry, Table.mem_keep.mpr ⟨member, by simpa using outside⟩, target, stays, way⟩

theorem isFolder_relocated (sound : store.Sound) (relocated : store.Relocated old new next) :
    isFolder next.files path = true ↔
      FolderAfter store.files (fun key => some (Path.relocated old new key)) path := by
  have after := sound.relocated relocated
  have target := (relocated.suits sound).place
  obtain ⟨clear, rfl⟩ := relocated.relocates
  have files : (store.relocate old new).changed.files = store.files.map (relocateEntry old new) :=
    relocate_files sound target clear
  rw [← folderAfter_stays after.distinct, files]
  constructor
  · rintro ⟨_, member, _, ⟨⟩, way⟩
    obtain ⟨entry, there, rfl⟩ := List.mem_map.mp member
    rw [relocateEntry_key, (relocateEntry_keeps entry).2] at way
    exact ⟨entry, there, _, rfl, way⟩
  · rintro ⟨entry, member, _, ⟨⟩, way⟩
    refine ⟨_, List.mem_map_of_mem member, _, rfl, ?_⟩
    rwa [relocateEntry_key, (relocateEntry_keeps entry).2]

theorem isFolder_put {record : Record} (absent : path ∉ files.keys)
    (folder : isFolder files key = true) :
    isFolder (files.put path record) key = true := by
  rw [isFolder_iff] at folder ⊢
  rcases folder with ⟨other, member, above⟩ | ⟨own, found, kind⟩
  · refine Or.inl ⟨other, ?_, above⟩
    rw [Table.keys_put, if_neg absent]
    exact List.mem_append_left _ member
  · refine Or.inr ⟨own, ?_, kind⟩
    rw [Table.get?_put, if_neg]
    · exact found
    · rintro rfl
      exact absent (Table.mem_keys_of_get? found)

/-- What lies under a folder, or its own record, is not what lies at or under another path, unless
that path is in the folder. -/
theorem folder_outside (outside : Path.isWithin path old = false)
    (higher : Path.isAncestor path old = false)
    (way : Path.isAncestor path key = true ∨ key = path ∧ directory) :
    Path.isWithin key old = false := by
  refine Path.outside_of_isWithin outside higher (Path.isWithin_iff_or.mpr ?_)
  exact way.symm.imp_left And.left

end Store

namespace Workspace
variable {ws next : Workspace} {old new path : Text}

/-- Every folder that the table knows of is a folder of the tree that is shown. -/
def InStep (ws : Workspace) : Prop :=
  ∃ shown, ws.listedTree = .ok shown ∧
    ∀ key ∈ ws.expansion.table.keys, ∃ isExpanded, shown.Shows key true isExpanded

theorem inStep_iff (sound : ws.store.Sound) (folders : ws.expansion.Sound) :
    ws.InStep ↔ ∀ key ∈ ws.expansion.table.keys, Store.isFolder ws.store.files key = true := by
  have flag : ∀ key ∈ ws.expansion.table.keys,
      ((∃ isExpanded, ws.tree.Shows key true isExpanded) ↔
        Store.isFolder ws.store.files key = true) := by
    intro key member
    simp only [shows_iff sound (folders.places key member).some]
    constructor
    · rintro ⟨_, _, folder, _⟩
      exact folder.symm
    · intro folder
      exact ⟨_, Store.holds_of_isFolder folder, folder.symm, rfl⟩
  rw [InStep, listedTree_sound sound]
  constructor
  · rintro ⟨_, ⟨⟩, shown⟩ key member
    exact (flag key member).mp (shown key member)
  · intro folder
    exact ⟨_, rfl, fun key member => (flag key member).mpr (folder key member)⟩

/-- A folder that is no longer there is not remembered as open. -/
theorem closed_of_inStep
    (inStep : ∀ key ∈ ws.expansion.table.keys, Store.isFolder ws.store.files key = true)
    (gone : Store.isFolder ws.store.files path = false) : ws.expansion.isExpanded path = false := by
  rw [Expansion.isExpanded]
  cases found : ws.expansion.table.get? path with
  | none => rfl
  | some expanded =>
    have folder := inStep path (Table.mem_keys_of_get? found)
    exact absurd (gone.symm.trans folder) Bool.false_ne_true

theorem mem_keys_rebase {expansion : Expansion} : path ∈ (expansion.rebase old new).table.keys ↔
    ∃ key ∈ expansion.table.keys, Path.relocated old new key = path := by
  rw [Expansion.table_rebase, Table.mem_keys_ofEntries, List.map_map, Table.keys]
  simp

/-- Only the folders that something is moved out of can be lost. -/
theorem relocated_inStep_iff {store : Store} (sound : ws.store.Sound) (folders : ws.expansion.Sound)
    (inStep : ∀ key ∈ ws.expansion.table.keys, Store.isFolder ws.store.files key = true)
    (relocated : ws.store.Relocated old new store) :
    (∀ key ∈ (ws.expansion.rebase old new).table.keys, Store.isFolder store.files key = true) ↔
      ∀ key ∈ ws.expansion.table.keys, Path.isAncestor key old = true →
        Store.FolderAfter ws.store.files (fun key => some (Path.relocated old new key)) key := by
  have target := (relocated.suits sound).place
  simp only [Store.isFolder_relocated sound relocated, mem_keys_rebase, forall_exists_index,
    and_imp,
    forall_apply_eq_imp_iff₂]
  constructor
  · intro kept key member above
    have same := kept key member
    rwa [Path.relocated_outside (Path.outside_of_isAncestor above)] at same
  · intro kept key member
    have place := folders.places key member
    obtain ⟨entry, there, _, ⟨⟩, way⟩ :=
      (Store.folderAfter_stays sound.distinct).mpr (inStep key member)
    have inside := sound.places entry.1 (List.mem_map_of_mem there)
    cases moves : Path.isWithin key old with
    | true =>
      refine ⟨entry, there, _, rfl, ?_⟩
      rcases way with above | ⟨same, kind⟩
      · have along := Path.isWithin_trans (Path.isWithin_iff_or.mpr (Or.inr above)) moves
        obtain ⟨xs, upper⟩ := Path.inside_of_isWithin moves
        obtain ⟨ys, lower⟩ := Path.inside_of_isWithin along
        rw [Path.relocated_within moves, Path.relocated_within along]
        exact Or.inl ((Path.isAncestor_rebase place inside target upper lower).trans above)
      · exact Or.inr ⟨congrArg _ same, kind⟩
    | false =>
      rw [Path.relocated_outside moves]
      cases higher : Path.isAncestor key old with
      | true => exact kept key member higher
      | false =>
        refine ⟨entry, there, _, rfl, ?_⟩
        rwa [Path.relocated_outside (Store.folder_outside moves higher way)]

/-- Only the folders that something is deleted in can be lost. -/
theorem deleted_inStep_iff {store : Store} (sound : ws.store.Sound)
    (inStep : ∀ key ∈ ws.expansion.table.keys, Store.isFolder ws.store.files key = true)
    (deleted : ws.store.delete path = .ok (store, removed)) :
    (∀ key ∈ (ws.expansion.forget path).table.keys, Store.isFolder store.files key = true) ↔
      ∀ key ∈ ws.expansion.table.keys, Path.isAncestor key path = true →
        Store.FolderAfter ws.store.files (Store.without path) key := by
  simp only [Store.isFolder_delete sound deleted, Expansion.table_forget, Table.keys_keep,
    List.mem_filter,
    Bool.not_eq_true', and_imp]
  constructor
  · intro kept key member above
    exact kept key member (Path.outside_of_isAncestor above)
  · intro kept key member outside
    cases higher : Path.isAncestor key path with
    | true => exact kept key member higher
    | false =>
      obtain ⟨entry, there, _, ⟨⟩, way⟩ :=
        (Store.folderAfter_stays sound.distinct).mpr (inStep key member)
      refine ⟨entry, there, entry.1, ?_, way⟩
      rw [Store.without, if_neg (Bool.eq_false_iff.mp (Store.folder_outside outside higher way))]
      rfl

/-- A new name leaves a record in the folder that it is in. -/
theorem isAncestor_renamed {store : Store} (sound : ws.store.Sound)
    (renamed : ws.store.rename old newName = .ok (store, new))
    (above : Path.isAncestor path old = true) :
    Path.isAncestor path new = true := by
  obtain ⟨record, found, named, rfl, _⟩ := Store.rename_ok renamed
  have place := (sound.found found).place
  obtain ⟨canonical, some, rest, more, same⟩ := (Path.isAncestor_iff place.canonical).mp above
  refine (Path.isAncestor_iff (Path.canonical_join _)).mpr
    ⟨canonical, some, rest.dropLast ++ [Text.trim newName], by simp, ?_⟩
  rw [Path.segments_child _ (checkName_ok.mp named).1, Path.segments_parent, same,
    List.dropLast_append_of_ne_nil more, List.append_assoc]

/-- What changes folders, or how they are shown, or puts other records in place of all. -/
inductive Edit where
  | create (typed : Text) (isDirectory : Bool) (content : Json)
  | rename (path newName : Text)
  | move (source folder : Text)
  | delete (path : Text)
  | toggleFolder (path : Text)
  | recordSubmission (id : Text) (clock : Clock) (labName authorName : Text)
  | restoreSubmission (id : Text)

namespace Edit

def call : Edit → Call
  | create typed isDirectory content => .onStore (.create typed isDirectory content)
  | rename path newName => .rename path newName
  | move source folder => .move source folder
  | delete path => .delete path
  | toggleFolder path => .toggleFolder path
  | recordSubmission id clock labName authorName => .recordSubmission id clock labName authorName
  | restoreSubmission id => .restoreSubmission id

/-- Whether all folders in the table are there still. The folders above what is moved or deleted must
have something else in them or a record of their own, and a submission must have them all. -/
def Keeps (ws : Workspace) : Edit → Prop
  | move source folder =>
    ∀ key ∈ ws.expansion.table.keys, Path.isAncestor key source = true →
      Store.FolderAfter ws.store.files
        (fun key => some (Path.relocated source (Path.join [folder, Path.basename source]) key)) key
  | delete path =>
    ∀ key ∈ ws.expansion.table.keys, Path.isAncestor key path = true →
      Store.FolderAfter ws.store.files (Store.without path) key
  | restoreSubmission id =>
    ∀ submission ∈ (ws.findSubmission id).toOption, ∀ key ∈ ws.expansion.table.keys,
      Store.isFolder (Store.tableOf ((submission.files.map (·.2)).filterMap Record.Written.record?))
        key = true
  | create _ _ _ | rename _ _ | toggleFolder _ | recordSubmission _ _ _ _ => True

instance (ws : Workspace) : (edit : Edit) → Decidable (edit.Keeps ws)
  | move _ _ | delete _ => inferInstanceAs (Decidable (∀ _ ∈ _, _ → _))
  | restoreSubmission _ => inferInstanceAs (Decidable (∀ _ ∈ _, ∀ _ ∈ _, _))
  | create _ _ _ | rename _ _ | toggleFolder _ | recordSubmission _ _ _ _ =>
    inferInstanceAs (Decidable True)

theorem inStep_iff_keeps (sound : ws.Sound) (folders : ws.expansion.Sound) (inStep : ws.InStep)
    (edit : Edit)
    (done : edit.call.outcome ws = .ok next) : next.InStep ↔ edit.Keeps ws := by
  have known := (inStep_iff sound.store folders).mp inStep
  have leads := Leads.outcome edit.call done
  rw [inStep_iff (sound.leads leads).store (folders.leads sound.store leads)]
  cases edit with
  | create typed isDirectory content =>
    obtain ⟨store, outcome, rfl⟩ := Outcome.map_eq_ok.mp done
    obtain ⟨⟨_, record⟩, made, rfl⟩ := Outcome.map_eq_ok.mp outcome
    obtain ⟨_, absent, _, rfl⟩ := Store.create_ok (Outcome.ofRefusal_eq_ok.mp made)
    rw [withStore_store, withStore_expansion]
    exact iff_of_true (fun key member => Store.isFolder_put absent (known key member)) trivial
  | rename path newName =>
    obtain ⟨⟨_, target⟩, renamed, rfl⟩ := Outcome.map_eq_ok.mp done
    obtain ⟨⟨store, _⟩, changed, same⟩ := Outcome.bind_ok.mp (Outcome.ofRefusal_eq_ok.mp renamed)
    cases same
    rw [save_store, save_expansion]
    have relocated : ws.store.Relocated path target store := Or.inl ⟨newName, changed⟩
    refine iff_of_true ((relocated_inStep_iff sound.store folders known relocated).mpr ?_) trivial
    intro key _ above
    obtain ⟨record, found⟩ := relocated.found
    have place := (relocated.suits sound.store).place
    refine ⟨_, Table.mem_of_get? found, _, rfl, Or.inl ?_⟩
    rw [Path.relocated_within (Path.isWithin_refl path), Path.rebase_self place.canonical]
    exact isAncestor_renamed sound.store changed above
  | move source folder =>
    obtain ⟨⟨_, target⟩, moved, rfl⟩ := Outcome.map_eq_ok.mp done
    obtain ⟨⟨store, _⟩, changed, same⟩ := Outcome.bind_ok.mp (Outcome.ofRefusal_eq_ok.mp moved)
    cases same
    rw [save_store, save_expansion]
    obtain ⟨_, _, _, spelled, _⟩ := Store.move_ok changed
    rw [Keeps, ← spelled]
    exact relocated_inStep_iff sound.store folders known (Or.inr ⟨folder, changed⟩)
  | delete path =>
    obtain ⟨_, deleted, rfl⟩ := Outcome.map_eq_ok.mp done
    obtain ⟨⟨store, removed⟩, changed, same⟩ :=
      Outcome.bind_ok.mp (Outcome.ofRefusal_eq_ok.mp deleted)
    cases same
    rw [save_store, save_expansion]
    exact deleted_inStep_iff sound.store known changed
  | toggleFolder path =>
    obtain ⟨_, toggled, rfl⟩ := Outcome.map_eq_ok.mp done
    obtain ⟨_, folder, same⟩ := Outcome.bind_ok.mp toggled
    cases same
    rw [save_store, save_expansion]
    refine iff_of_true (fun key member => ?_) trivial
    have there : key ∈ (ws.expansion.toggle path).1.table.keys := member
    rw [Expansion.table_toggle] at there
    rcases Table.mem_keys_put.mp there with before | rfl
    · exact known key before
    · exact checkFolder_ok folder
  | recordSubmission id clock labName authorName =>
    cases done
    rw [Workspace.recordSubmission, save_store, save_expansion]
    exact iff_of_true known trivial
  | restoreSubmission id =>
    obtain ⟨_, restored, rfl⟩ := Outcome.map_eq_ok.mp done
    obtain ⟨submission, found, restored⟩ := Outcome.bind_ok.mp restored
    obtain ⟨store, replaced, same⟩ := Outcome.bind_ok.mp restored
    cases same
    obtain ⟨_, _, replaced⟩ := Outcome.bind_ok.mp (Outcome.ofFault_eq_ok.mp replaced)
    cases replaced
    rw [withStore_store, withStore_expansion, Keeps, Outcome.ofRefusal_eq_ok.mp found]
    simp [Except.toOption, Store.replaceAll, Store.changed]

end Edit

/-- Whether all edits of a list keep the folders, each where the run has come to; an edit that fails
changes none. -/
def Keeps : Workspace → List Edit → Prop
  | _, [] => True
  | ws, edit :: edits =>
    ((edit.call.outcome ws).isOk = true → edit.Keeps ws) ∧ Keeps (ws.step (.call edit.call)) edits

instance decidableKeeps : (ws : Workspace) → (edits : List Edit) → Decidable (ws.Keeps edits)
  | _, [] => inferInstanceAs (Decidable True)
  | ws, edit :: edits => @instDecidableAnd _ _ _ (decidableKeeps (ws.step (.call edit.call)) edits)

/-- The workspace after edits. -/
def edited (ws : Workspace) (edits : List Edit) : Workspace :=
  ws.after (edits.map fun edit => .call edit.call)

/-- The tree has no new folder that is open. -/
def OpensNone (ws next : Workspace) : Prop :=
  ∀ shown shownNext path isExpanded, ws.listedTree = .ok shown → next.listedTree = .ok shownNext →
    (∀ wasExpanded, ¬ shown.Shows path true wasExpanded) → shownNext.Shows path true isExpanded →
      isExpanded = false

theorem opensNone_of_inStep {typed : Text} {isDirectory : Bool} {content : Json} (sound : ws.Sound)
    (folders : ws.expansion.Sound) (inStep : ws.InStep)
    (done : (Edit.create typed isDirectory content).call.outcome ws = .ok next) :
    ws.OpensNone next := by
  rintro shown shownNext path isExpanded before after absent present
  have leads := Leads.outcome _ done
  rw [listedTree_sound sound.store] at before
  rw [listedTree_sound (sound.leads leads).store] at after
  cases before
  cases after
  by_cases root : path = []
  · exact absurd (root ▸ shows_root.mpr ⟨rfl, rfl⟩) (absent true)
  · obtain ⟨_, _, rfl⟩ := (shows_iff (sound.leads leads).store root).mp present
    have gone : Store.isFolder ws.store.files path = false := by
      rw [Bool.eq_false_iff]
      intro folder
      exact absent _
        ((shows_iff sound.store root).mpr ⟨Store.holds_of_isFolder folder, folder.symm, rfl⟩)
    obtain ⟨store, _, rfl⟩ := Outcome.map_eq_ok.mp done
    rw [withStore_expansion, closed_of_inStep ((inStep_iff sound.store folders).mp inStep) gone,
      Bool.and_false]

theorem inStep_iff_keeps (sound : ws.Sound) (folders : ws.expansion.Sound) (inStep : ws.InStep)
    (edits : List Edit) : (∀ n, (ws.edited (edits.take n)).InStep) ↔ ws.Keeps edits := by
  induction edits generalizing ws with
  | nil => exact iff_of_true (fun n => by rw [List.take_nil]; exact inStep) trivial
  | cons edit edits ih =>
    have next := folders.step sound.store (.call edit.call)
    have first : (ws.step (.call edit.call)).InStep ↔
        ((edit.call.outcome ws).isOk = true → edit.Keeps ws) := by
      cases done : edit.call.outcome ws with
      | error failure =>
        rw [step_error done]
        exact iff_of_true inStep fun succeeded => absurd succeeded Bool.false_ne_true
      | ok result =>
        rw [step_ok done, edit.inStep_iff_keeps sound folders inStep done]
        exact ⟨fun keeps _ => keeps, fun keeps => keeps rfl⟩
    rw [Keeps, ← first]
    constructor
    · intro all
      have here : (ws.step (.call edit.call)).InStep := all 1
      refine ⟨here, (ih (sound.step _) next here).mp fun n => ?_⟩
      exact all (n + 1)
    · rintro ⟨here, later⟩ n
      cases n with
      | zero => exact inStep
      | succ n => exact (ih (sound.step _) next here).mpr later n

theorem inStep_empty (disk : Disk) : (empty disk).InStep :=
  ⟨_, listedTree_sound Store.Sound.empty, fun _ none => absurd none List.not_mem_nil⟩

/-- All along a run the open folders are folders of the tree exactly if each edit keeps them, and then a
new folder is closed. -/
theorem table_inStep_iff_keeps (disk : Disk) (edits : List Edit) :
    ((∀ n, ((empty disk).edited (edits.take n)).InStep) ↔ (empty disk).Keeps edits) ∧
      ((empty disk).Keeps edits → ∀ typed isDirectory content next,
        (Edit.create typed isDirectory content).call.outcome ((empty disk).edited edits) =
          .ok next →
          ((empty disk).edited edits).OpensNone next) := by
  have start := Sound.empty disk
  have along := inStep_iff_keeps start Expansion.Sound.empty (inStep_empty disk) edits
  refine ⟨along, fun keeps typed isDirectory content next done => ?_⟩
  have inStep := along.mpr keeps edits.length
  rw [List.take_length] at inStep
  exact opensNone_of_inStep (start.after _) (Expansion.Sound.after disk _) inStep done

/-- With its last file goes a folder that was open, and it is open when it comes back. -/
theorem emptied_folder_reopens :
    let ws := (empty .absent).edited
      [.create "docs/a.md" false (.str []), .toggleFolder "docs", .delete "docs/a.md"]
    ¬ ws.InStep ∧ ∃ next,
      (Edit.create "docs/b.md" false (.str [])).call.outcome ws = .ok next ∧
        ¬ ws.OpensNone next := by
  intro ws
  have sound : ws.Sound := (Sound.empty .absent).after _
  have folders : ws.expansion.Sound := Expansion.Sound.after .absent _
  have created : ∃ next, (Edit.create "docs/b.md" false (.str [])).call.outcome ws = .ok next ∧
      Store.isFolder next.store.files "docs" = true ∧ next.expansion.isExpanded "docs" = true :=
    ⟨_, rfl, by decide, by decide⟩
  obtain ⟨next, done, folder, opened⟩ := created
  have after := (sound.leads (.outcome _ done)).store
  have none : Store.isFolder ws.store.files "docs" = false := by decide
  refine ⟨fun inStep => ?_, next, done, fun closed => ?_⟩
  · have there := (inStep_iff sound.store folders).mp inStep "docs" (by decide)
    exact Bool.false_ne_true (none.symm.trans there)
  · have shown : next.tree.Shows "docs" true true :=
      (shows_iff after (by decide)).mpr
        ⟨Store.holds_of_isFolder folder, folder.symm, by rw [folder, opened]; rfl⟩
    refine absurd (closed _ _ _ _ (listedTree_sound sound.store) (listedTree_sound after) ?_ shown)
      (by decide)
    intro wasExpanded before
    have there := ((shows_iff sound.store (by decide)).mp before).2.1
    exact Bool.false_ne_true (none.symm.trans there.symm)

end Workspace
end LabEditor
