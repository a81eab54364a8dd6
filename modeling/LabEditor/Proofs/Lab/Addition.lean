import LabEditor.Proofs.Json.RoundTrip
import LabEditor.Proofs.Lab.Descriptor
import LabEditor.Proofs.Store.Run

/-! The making of a starter lab only adds to a store: what is missing of it, in the order of the lab,
and last a descriptor of all that is there by then. -/
namespace LabEditor.Lab

variable {store next last : Store} {path content : Text} {content? : Option Text}
  {file : Text × Option Text} {files more : List (Text × Option Text)}

/-- The record of a file that is made for a lab, under its path. -/
def entry (file : Text × Option Text) : Text × Record :=
  (file.1, ⟨.str (Path.basename file.1), file.1, .str (file.2.getD []), file.2.isNone⟩)

/-- One store is another one with some files added to it. -/
structure Adds (store : Store) (files : List (Text × Option Text)) (next : Store) : Prop where
  files : next.files = store.files ++ files.map entry
  current : next.currentFile = store.currentFile
  strays : next.strays = store.strays

namespace Adds

theorem refl (store : Store) : Adds store [] store :=
  ⟨(List.append_nil _).symm, rfl, rfl⟩

theorem trans (first : Adds store files next) (second : Adds next more last) :
    Adds store (files ++ more) last where
  files := by rw [second.files, first.files, List.map_append, List.append_assoc]
  current := second.current.trans first.current
  strays := second.strays.trans first.strays

theorem has_iff (adds : Adds store files next) :
    next.has path = true ↔ store.has path = true ∨ path ∈ files.map (·.1) := by
  have keys : (files.map entry).map Prod.fst = files.map (·.1) := List.map_map
  rw [Store.has, Store.has, Table.has_iff, Table.has_iff, adds.files, Table.keys, List.map_append,
    List.mem_append, keys]
  rfl

end Adds

/-- What is missing in a store of some files. -/
def missing (store : Store) (files : List (Text × Option Text)) : List (Text × Option Text) :=
  files.filter fun file => !store.has file.1

theorem create_adds (clean : Clean (path, content?)) (absent : store.has path = false) :
    ∃ next record, store.create path content?.isNone (.str (content?.getD [])) =
      .ok (next, record) ∧ Adds store [(path, content?)] next := by
  obtain ⟨next, record, made⟩ := create_clean clean absent (.str (content?.getD []))
  obtain ⟨_, new, rfl, rfl⟩ := Store.create_ok made
  have same : Path.normalize path = path := clean.1
  have fresh : Store.fresh path content?.isNone (.str (content?.getD [])) =
      (entry (path, content?)).2 := by
    rw [Store.fresh, same]
    cases content? <;> rfl
  refine ⟨_, _, made, ?_, rfl, rfl⟩
  rw [same] at new ⊢
  rw [fresh]
  exact Table.put_new new

theorem missing_cons_of_has (there : store.has file.1 = true) :
    missing store (file :: files) = missing store files :=
  List.filter_cons_of_neg (by rw [there]; exact Bool.false_ne_true)

theorem missing_cons_of_absent (absent : store.has file.1 = false) :
    missing store (file :: files) = file :: missing store files :=
  List.filter_cons_of_pos (by rw [absent]; rfl)

theorem addMissing_adds (clean : ∀ file ∈ files, Clean file) (once : (files.map (·.1)).Nodup)
    (store : Store) : ∃ next, addMissing files store = .ok (next, (missing store files).map (·.1)) ∧
      Adds store (missing store files) next := by
  induction files generalizing store with
  | nil => exact ⟨store, rfl, .refl store⟩
  | cons file files ih =>
    obtain ⟨path, content?⟩ := file
    obtain ⟨here, others⟩ := List.forall_mem_cons.mp clean
    obtain ⟨first, once⟩ := List.nodup_cons.mp once
    rw [addMissing]
    cases there : store.has path with
    | true =>
      rw [missing_cons_of_has there]
      exact ih others once store
    | false =>
      obtain ⟨middle, record, made, one⟩ := create_adds here there
      obtain ⟨last, later, rest⟩ := ih others once middle
      have same : missing middle files = missing store files := by
        refine List.filter_congr fun file member => ?_
        have apart : file.1 ∉ [path] := fun same =>
          first (List.mem_singleton.mp same ▸ List.mem_map_of_mem (f := (·.1)) member)
        have kept : middle.has file.1 = store.has file.1 :=
          Bool.eq_iff_iff.mpr (one.has_iff.trans (or_iff_left apart))
        rw [kept]
      rw [same] at later rest
      rw [missing_cons_of_absent there]
      refine ⟨last, ?_, one.trans rest⟩
      simp only [Bool.false_eq_true, if_false, made, later, Outcome.ok_bind, List.map_cons]
      rfl

/-- Where nothing is missing, nothing is done. -/
theorem addMissing_none (all : ∀ file ∈ files, store.has file.1 = true) :
    addMissing files store = .ok (store, []) := by
  induction files with
  | nil => rfl
  | cons file files ih =>
    obtain ⟨here, others⟩ := List.forall_mem_cons.mp all
    rw [addMissing, if_pos here]
    exact ih others

theorem Adds.all (adds : Adds store (missing store files) next) :
    ∀ file ∈ files, next.has file.1 = true := by
  intro file member
  rw [adds.has_iff]
  cases there : store.has file.1 with
  | true => exact .inl rfl
  | false =>
    have absent : file ∈ missing store files := List.mem_filter.mpr ⟨member, by rw [there]; rfl⟩
    exact .inr (List.mem_map_of_mem absent)

/-- Files that are given are files of their records as well. -/
theorem Adds.hasFile (adds : Adds store files next) (there : HasFile next.records path) :
    HasFile store.records path ∨ path ∈ files.map (·.1) := by
  obtain ⟨record, known, kind, rfl⟩ := there
  obtain ⟨key, inside⟩ := Store.mem_records.mp known
  rw [adds.files, List.mem_append, List.mem_map] at inside
  rcases inside with before | ⟨file, new, same⟩
  · exact .inl ⟨record, Store.mem_records.mpr ⟨key, before⟩, kind, rfl⟩
  · cases same
    exact .inr (List.mem_map_of_mem new)

theorem filePaths_filter (records : List Record) :
    filePaths (records.filter fun record => !record.isDirectory) = filePaths records := by
  rw [filePaths, List.filter_filter, filePaths]
  simp only [Bool.and_self]

/-- Without strays, the files of the lab are found among the records. -/
theorem scanStore_eq (plain : store.strays = .none) : scanStore store = scan store.records := by
  have files : (store.records.map Record.written).filter (fun record => !record.isDirectory) =
      (store.records.filter fun record => !record.isDirectory).map Record.written := List.filter_map
  have named : ((store.records.filter fun record => !record.isDirectory).map Record.written).all
      (fun record => record.record?.isSome) = true := by
    simp only [List.all_map, List.all_eq_true]
    exact fun _ _ => rfl
  rw [scanStore, Store.checkOrder_plain plain, Outcome.ok_bind, Store.listing_plain plain, scanWritten]
  simp only [files, Store.checkKeys_written, Outcome.ok_bind, named, Store.record?_written,
    Bool.not_true, Bool.false_eq_true, if_false]
  rw [scan, filePaths_filter, scan]

theorem starter_readable :
    ∀ path ∈ starterFiles.map (·.1), (stepFolder? path).all isReadable = true := by decide

theorem Adds.readable (adds : Adds store (missing store starterFiles) next)
    (readable : StepsReadable store.records) : StepsReadable next.records := by
  rintro folder digits ⟨named, path, there, inside⟩
  rcases adds.hasFile there with before | new
  · exact readable folder digits ⟨named, path, before, inside⟩
  · have starter : path ∈ starterFiles.map (·.1) :=
      (List.Sublist.map Prod.fst List.filter_sublist).subset new
    have first := starter_readable path starter
    rw [stepFolder?_eq_some.mpr ⟨⟨digits, named⟩, inside⟩] at first
    exact (isReadable_iff named).mp first

theorem starterFiles_once : (starterFiles.map (·.1)).Nodup := by decide

theorem has_indexFile (adds : Adds store (missing store starterFiles) next) :
    next.has indexFile = store.has indexFile := by
  have apart : indexFile ∉ (missing store starterFiles).map (·.1) := fun inside =>
    absurd ((List.Sublist.map Prod.fst List.filter_sublist).subset inside) (by decide)
  exact Bool.eq_iff_iff.mpr (adds.has_iff.trans (or_iff_left apart))

section
variable {P : Json → Prop} {name : Text} {path? : Option Text}

theorem fileMember_each (texts : ∀ t, P (.str t)) : ∀ entry ∈ fileMember name path?, P entry.2 := by
  cases path? with
  | none => simp [fileMember]
  | some path => simpa [fileMember] using texts path

theorem fileMember_names : ((fileMember name path?).map Prod.fst).Sublist [name] := by
  cases path? with
  | none => exact List.nil_sublist _
  | some path => exact List.Sublist.refl _

theorem Step.describe_proper (step : Step) (number : Nat) : (step.describe number).Proper := by
  have distinct : (["title", "text", "verify"] : List Text).Nodup := by decide
  refine .obj (distinct.sublist ?_) ?_
  · rw [List.map_cons, List.map_append]
    exact (fileMember_names.append fileMember_names).cons_cons _
  · simp only [List.forall_mem_cons, List.forall_mem_append]
    exact ⟨.str _, fileMember_each .str, fileMember_each .str⟩

theorem Step.describe_legible (step : Step) (number : Nat) : (step.describe number).Legible 1 := by
  refine .obj ?_
  simp only [List.forall_mem_cons, List.forall_mem_append]
  exact ⟨.str _, fileMember_each fun t => .str t, fileMember_each fun t => .str t⟩

theorem describeSteps_each (described : ∀ (step : Step) number, P (step.describe number))
    (number : Nat) (steps : List Step) : ∀ item ∈ describeSteps number steps, P item := by
  induction steps generalizing number with
  | nil => simp [describeSteps]
  | cons step steps ih => exact List.forall_mem_cons.mpr ⟨described step number, ih _⟩

theorem Files.details_proper (files : Files) : files.details.Proper := by
  have introNames : (files.introMember.map Prod.fst).Sublist ["intro"] := by
    rw [introMember]
    cases files.intro? with
    | none => exact List.nil_sublist _
    | some path => exact List.Sublist.refl _
  have finishNames : (files.finishMember.map Prod.fst).Sublist ["finish"] := by
    rw [finishMember]
    cases files.finish? with
    | none => exact List.nil_sublist _
    | some path => exact List.Sublist.refl _
  have distinct : (["intro", "steps", "finish"] : List Text).Nodup := by decide
  refine .obj (distinct.sublist ?_) ?_
  · rw [List.map_append, List.map_cons]
    exact introNames.append (finishNames.cons_cons _)
  · simp only [List.forall_mem_cons, List.forall_mem_append]
    refine ⟨?_, .arr (describeSteps_each Step.describe_proper 1 files.steps), ?_⟩
    · rw [introMember]
      cases files.intro? with
      | none => simp
      | some path =>
        have names : (["text", "background"] : List Text).Nodup := by decide
        refine List.forall_mem_singleton.mpr (.obj (names.sublist ?_) ?_)
        · exact fileMember_names.cons_cons _
        · exact List.forall_mem_cons.mpr ⟨.str _, fileMember_each .str⟩
    · rw [finishMember]
      cases files.finish? with
      | none => simp
      | some path =>
        exact List.forall_mem_singleton.mpr (.obj (List.nodup_singleton _)
          (List.forall_mem_singleton.mpr (.str path)))

theorem Files.details_legible (files : Files) : files.details.Legible 3 := by
  refine .obj ?_
  simp only [List.forall_mem_cons, List.forall_mem_append]
  refine ⟨?_, .arr (describeSteps_each Step.describe_legible 1 files.steps), ?_⟩
  · rw [introMember]
    cases files.intro? with
    | none => simp
    | some path =>
      exact List.forall_mem_singleton.mpr (.obj (List.forall_mem_cons.mpr
        ⟨.str path, fileMember_each fun t => .str t⟩))
  · rw [finishMember]
    cases files.finish? with
    | none => simp
    | some path =>
      exact List.forall_mem_singleton.mpr (.obj (List.forall_mem_singleton.mpr (.str path)))

/-- The content of a descriptor file is read as the descriptor, where lists and objects may stand in one
another at least as often as they do in it. -/
theorem read_indexContent {title description image : Text} {files : Files} {limit : Nat}
    (joined : (describe title description image files).Joined) (enough : 4 ≤ limit) :
    Json.read limit (indexContent title description image files) =
      .ok (describe title description image files) := by
  have distinct : (["title", "description", "details", "backend"] : List Text).Nodup := by decide
  have legible : (describe title description image files).Legible 4 := by
    refine .obj ?_
    simp only [List.forall_mem_cons, List.not_mem_nil, false_implies, implies_true, and_true]
    exact ⟨.str _, .str _, files.details_legible,
      .obj (List.forall_mem_singleton.mpr (.str image))⟩
  refine Json.read_indented_ok (.obj distinct ?_) joined (legible.mono enough)
  simp only [List.forall_mem_cons, List.not_mem_nil, false_implies, implies_true, and_true]
  exact ⟨.str _, .str _, files.details_proper,
    .obj (List.nodup_singleton _) (List.forall_mem_singleton.mpr (.str image))⟩

end

/-- A descriptor is made of all that is in the store by then. -/
theorem addIndex_adds (plain : store.strays = .none) (readable : StepsReadable store.records)
    (absent : store.has indexFile = false) (title description image : Text) :
    ∃ files next, scanStore store = .ok files ∧
      addIndex store title description image = .ok (next, [indexFile]) ∧
      Adds store [(indexFile, some (indexContent title description image files))] next ∧
      ∀ name ∈ fileNames (describe title description image files), HasFile store.records name := by
  have found := (scanStore_eq plain).trans (scan_ok_iff.mpr ⟨readable, rfl⟩)
  have describes := describes_of store.records title description image
  generalize Files.of (filePaths store.records) = files at found describes
  obtain ⟨next, made, adds⟩ := addMissing_adds
    (List.forall_mem_singleton.mpr (indexFile_clean (indexContent title description image files)))
    (List.nodup_singleton _) store
  rw [missing_cons_of_absent absent] at made adds
  refine ⟨files, next, found, ?_, adds, fun _ => describes.sound⟩
  simp only [addIndex, absent, Bool.false_eq_true, if_false, found, made, Outcome.ofFault_ok,
    Outcome.ok_bind, Outcome.ofRefusal_ok]
  rfl

/-- There is a descriptor in the end, the one that was there or a new one. -/
theorem addIndex_total (plain : store.strays = .none) (readable : StepsReadable store.records)
    (title description image : Text) : ∃ more next,
      addIndex store title description image =
        .ok (next, [indexFile].filter fun path => !store.has path) ∧
      Adds store more next ∧ next.has indexFile = true ∧
      (store.has indexFile = true → next = store) ∧
      (store.has indexFile = false → ∃ files, scanStore store = .ok files ∧
        Adds store [(indexFile, some (indexContent title description image files))] next ∧
        ∀ name ∈ fileNames (describe title description image files), HasFile store.records name) := by
  cases there : store.has indexFile with
  | true =>
    refine ⟨[], store, ?_, .refl store, there, fun _ => rfl,
      fun absent => absurd absent.symm Bool.false_ne_true⟩
    simp only [addIndex, there, if_true, List.filter_cons, Bool.not_true, Bool.false_eq_true, if_false,
      List.filter_nil]
  | false =>
    obtain ⟨files, next, found, made, adds, named⟩ :=
      addIndex_adds plain readable there title description image
    refine ⟨_, next, ?_, adds, adds.has_iff.mpr (.inr List.mem_cons_self),
      fun present => absurd present Bool.false_ne_true, fun _ => ⟨files, found, adds, named⟩⟩
    rw [made, List.filter_cons_of_pos (by rw [there]; rfl)]
    rfl

theorem scaffold_again (starters : ∀ file ∈ starterFiles, store.has file.1 = true)
    (index : store.has indexFile = true) (title image : Text) :
    scaffold store title image = (store, .ok []) := by
  simp only [scaffold, addMissing_none starters, addIndex, index, if_true, List.append_nil]

end LabEditor.Lab

namespace LabEditor.Store.Run

open Lab (Adds HasFile StepsReadable addIndex describe fileNames indexContent indexFile missing scaffold
  scanStore starterFiles)

/-- To scaffold a lab never fails and only adds to the store: the files of the starter lab that are
missing, and a descriptor of what is there by then if there is none. Done again, it does nothing. -/
theorem scaffold_only_adds (steps : List Step) (readable : StepsReadable (after steps).store.records)
    (title image : Text) :
    let store := (after steps).store
    let paths := starterFiles.map (·.1) ++ [indexFile]
    ∃ before next, Adds store (missing store starterFiles) before ∧
      scaffold store title image = (next, .ok (paths.filter fun path => !store.has path)) ∧
      (store.has indexFile = true → next = before) ∧
      (store.has indexFile = false → ∃ files, scanStore before = .ok files ∧
        Adds before [(indexFile, some (indexContent title [] image files))] next ∧
        ((describe title [] image files).Joined → ∀ limit, 4 ≤ limit →
          Json.read limit (indexContent title [] image files) = .ok (describe title [] image files)) ∧
        ∀ name ∈ fileNames (describe title [] image files), HasFile before.records name) ∧
      store.files <+: next.files ∧ next.currentFile = store.currentFile ∧
      (∀ path ∈ paths, next.has path = true) ∧
      ∀ title image, scaffold next title image = (next, .ok []) := by
  intro store paths
  obtain ⟨before, started, adds⟩ :=
    Lab.addMissing_adds Lab.starterFiles_clean Lab.starterFiles_once store
  have plain : before.strays = .none := adds.strays.trans (sound steps).plain
  have created : (starterFiles.map (·.1)).filter (fun path => !store.has path) =
      (missing store starterFiles).map (·.1) := by
    rw [List.filter_map]
    rfl
  have index := Lab.has_indexFile adds
  obtain ⟨more, next, described, last, there, kept, new⟩ :=
    Lab.addIndex_total plain (adds.readable readable) title [] image
  rw [index] at kept new
  have content (absent : store.has indexFile = false) : ∃ files, scanStore before = .ok files ∧
      Adds before [(indexFile, some (indexContent title [] image files))] next ∧
      ((describe title [] image files).Joined → ∀ limit, 4 ≤ limit →
        Json.read limit (indexContent title [] image files) = .ok (describe title [] image files)) ∧
      ∀ name ∈ fileNames (describe title [] image files), HasFile before.records name := by
    obtain ⟨files, found, made, named⟩ := new absent
    exact ⟨files, found, made, fun joined _ => Lab.read_indexContent joined, named⟩
  have starters : ∀ file ∈ starterFiles, next.has file.1 = true :=
    fun file member => last.has_iff.mpr (.inl (adds.all file member))
  have both := adds.trans last
  refine ⟨before, next, adds, ?_, kept, content, both.files ▸ List.prefix_append _ _, both.current,
    List.forall_mem_append.mpr
      ⟨List.forall_mem_map.mpr starters, List.forall_mem_singleton.mpr there⟩,
    Lab.scaffold_again starters there⟩
  simp only [scaffold, started, described, paths, List.filter_append, created, List.filter_cons,
    List.filter_nil, index]

theorem scaffold_only_adds_folder :
    let steps : List Step := [.call (.create "step2/a.md" false (.str "text")),
      .call (.create "intro.md" true .null)]
    StepsReadable (after steps).store.records ∧
      ∃ next, scaffold (after steps).store "Lab" "ubuntu" = (next, .ok
        ["setup.sh", "step1", "step1/text.md", "step1/verify.sh", "finish.md", "index.json"]) ∧
        scaffold next "Other" "debian" = (next, .ok []) := by
  intro steps
  have readable : StepsReadable (after steps).store.records := by decide
  obtain ⟨_, next, _, made, _, _, _, _, _, again⟩ := scaffold_only_adds steps readable "Lab" "ubuntu"
  have missing : (starterFiles.map (·.1) ++ [indexFile]).filter
      (fun path => !(after steps).store.has path) = (["setup.sh", "step1", "step1/text.md",
        "step1/verify.sh", "finish.md", "index.json"] : List Text) := by decide
  rw [missing] at made
  exact ⟨readable, next, made, again "Other" "debian"⟩

end LabEditor.Store.Run
