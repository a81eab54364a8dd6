import LabEditor.Lab.Index
import LabEditor.Proofs.Order
import LabEditor.Proofs.Outcome
import LabEditor.Proofs.Text.Trimming
import Mathlib.Data.List.TakeWhile

/-! The descriptor of a lab, and what it says of the records it is made from. It names files only, and
all that the platform looks for, in the order of the steps, and nothing counts of a list of records but
which files are in it. -/
namespace LabEditor.Lab

variable {records others : List Record} {paths : List Text} {path folder digits name : Text}
  {title description image : Text} {n : Nat}

/-- A file stands at a path. -/
def HasFile (records : List Record) (path : Text) : Prop :=
  ∃ record ∈ records, record.isDirectory = false ∧ record.path = path

/-- The name of a step folder, with the digits of its number; a line feed may end it. -/
structure IsStepName (folder digits : Text) : Prop where
  full : digits ≠ []
  decimal : ∀ c ∈ digits, Text.isDigit c = true
  shape : ∃ ending, (ending = [] ∨ ending = (['\n'] : Text)) ∧ folder = "step" ++ (digits ++ ending)

/-- A file lies somewhere under a folder that is named as a step. -/
def HasStep (records : List Record) (folder digits : Text) : Prop :=
  IsStepName folder digits ∧ ∃ path, HasFile records path ∧
    ∃ below names, Path.segments path = folder :: below :: names

theorem mem_filePaths : path ∈ filePaths records ↔ HasFile records path := by
  simp only [filePaths, HasFile, List.mem_map, List.mem_filter, Bool.not_eq_true', and_assoc]

theorem stepDigits?_eq_some : stepDigits? folder = some digits ↔ IsStepName folder digits := by
  constructor
  · intro read
    obtain ⟨t, here, read⟩ := Option.bind_eq_some_iff.mp read
    simp only [Option.ite_none_left_eq_some, Bool.or_eq_true, List.isEmpty_iff, Bool.not_eq_true',
      Bool.or_eq_false_iff, not_or, Option.some.injEq] at read
    obtain ⟨⟨full, ends⟩, rfl⟩ := read
    have whole := List.prefix_iff_eq_append.mp (List.takeWhile_prefix (l := t) Text.isDigit)
    refine ⟨full, fun c member => List.mem_takeWhile_imp member,
      t.drop (t.takeWhile Text.isDigit).length, ?_, ?_⟩
    · by_contra others
      obtain ⟨some, visible⟩ := not_or.mp others
      exact ends ⟨List.isEmpty_eq_false_iff.mpr some, beq_eq_false_iff_ne.mpr visible⟩
    · rw [whole]
      exact Text.after?_eq_some.mp here
  · rintro ⟨full, decimal, ending, ends, rfl⟩
    have stop : ending.takeWhile Text.isDigit = [] := by
      rcases ends with rfl | rfl <;> decide
    have run : (digits ++ ending).takeWhile Text.isDigit = digits := by
      rw [List.takeWhile_append_of_pos decimal, stop, List.append_nil]
    have here : Text.after? "step" (("step" : Text) ++ (digits ++ ending)) =
      some (digits ++ ending) := Text.after?_append _ _
    have filled : digits.isEmpty = false := List.isEmpty_eq_false_iff.mpr full
    have closed : (ending.isEmpty || ending == (['\n'] : Text)) = true := by
      rcases ends with rfl | rfl <;> rfl
    simp only [stepDigits?, here, Option.bind_eq_bind, Option.bind_some, run, List.drop_left, filled,
      closed, Bool.not_true, Bool.or_false, Bool.false_eq_true, if_false]

theorem stepNumber?_eq (named : IsStepName folder digits) :
    stepNumber? folder = some (Text.numberOf digits) := by
  rw [stepNumber?, stepDigits?_eq_some.mpr named, Option.map_some]

theorem stepFolder?_eq_some : stepFolder? path = some folder ↔
    (∃ digits, IsStepName folder digits) ∧
      ∃ below names, Path.segments path = folder :: below :: names := by
  simp only [← stepDigits?_eq_some, ← Option.isSome_iff_exists]
  rw [stepFolder?]
  split
  · rename_i first below names shape
    simp only [stepNumber?, Option.isSome_map, Option.ite_none_right_eq_some, Option.some.injEq, shape]
    constructor
    · rintro ⟨named, rfl⟩
      exact ⟨named, below, names, rfl⟩
    · rintro ⟨named, _, _, same⟩
      cases same
      exact ⟨named, rfl⟩
  · rename_i other
    simp only [reduceCtorEq, false_iff, not_and, not_exists]
    exact fun _ below names shape => other folder below names shape

theorem mem_stepFolders :
    folder ∈ stepFolders (filePaths records) ↔ ∃ digits, HasStep records folder digits := by
  simp only [stepFolders, List.mem_eraseDups, List.mem_filterMap, mem_filePaths, stepFolder?_eq_some]
  constructor
  · rintro ⟨path, file, ⟨digits, named⟩, inside⟩
    exact ⟨digits, named, path, file, inside⟩
  · rintro ⟨digits, named, path, file, inside⟩
    exact ⟨path, file, ⟨digits, named⟩, inside⟩

/-- The numbers of all step folders are short enough to be read. -/
def StepsReadable (records : List Record) : Prop :=
  ∀ folder digits, HasStep records folder digits → digits.length ≤ Text.maxDigits

/-- No two step folders have the same number. -/
def StepsApart (records : List Record) : Prop :=
  ∀ folder other digits figures, HasStep records folder digits → HasStep records other figures →
    Text.numberOf digits = Text.numberOf figures → folder = other

theorem isReadable_iff (named : IsStepName folder digits) :
    isReadable folder = true ↔ digits.length ≤ Text.maxDigits := by
  rw [isReadable, stepDigits?_eq_some.mpr named, Option.bind_some, Text.number?]
  split <;> simp_all

theorem stepsReadable_iff :
    StepsReadable records ↔ (stepFolders (filePaths records)).all isReadable = true := by
  simp only [List.all_eq_true, mem_stepFolders, StepsReadable, forall_exists_index]
  exact forall₂_congr fun folder digits => forall_congr' fun here => (isReadable_iff here.1).symm

theorem stepsApart_iff : StepsApart records ↔
    ∀ folder ∈ stepFolders (filePaths records), ∀ other ∈ stepFolders (filePaths records),
      (stepNumber? folder).getD 0 = (stepNumber? other).getD 0 → folder = other := by
  constructor
  · intro apart folder left other right same
    obtain ⟨digits, here⟩ := mem_stepFolders.mp left
    obtain ⟨figures, there⟩ := mem_stepFolders.mp right
    rw [stepNumber?_eq here.1, stepNumber?_eq there.1] at same
    exact apart folder other digits figures here there same
  · intro apart folder other digits figures here there same
    refine apart folder (mem_stepFolders.mpr ⟨digits, here⟩) other
      (mem_stepFolders.mpr ⟨figures, there⟩) ?_
    rw [stepNumber?_eq here.1, stepNumber?_eq there.1, same]

instance (records : List Record) : Decidable (StepsReadable records) :=
  decidable_of_iff _ stepsReadable_iff.symm

instance (records : List Record) : Decidable (StepsApart records) :=
  decidable_of_iff _ stepsApart_iff.symm

/-- Records are scanned unless the number of a step cannot be read. -/
theorem scan_ok_iff {files : Files} :
    scan records = .ok files ↔ StepsReadable records ∧ files = .of (filePaths records) := by
  rw [scan, stepsReadable_iff]
  split
  · rename_i all
    simp only [all, Except.ok.injEq, true_and, eq_comm]
  · rename_i some
    simp only [reduceCtorEq, some, false_and]

/-- A member that is there exactly if a file is. -/
def MemberFor (records : List Record) (path : Text) (member : Text × Json)
    (members : List (Text × Json)) : Prop :=
  HasFile records path ∧ members = [member] ∨ ¬ HasFile records path ∧ members = []

/-- A member with the path of a file, which is there exactly if the file is. -/
abbrev FileMember (records : List Record) (name path : Text) : List (Text × Json) → Prop :=
  MemberFor records path (name, .str path)

/-- What is said of a step folder, in the entry with a number. -/
def DescribesStep (records : List Record) (folder : Text) (number : Nat) (step : Json) : Prop :=
  ∃ text verify, FileMember records "text" (folder ++ "/text.md") text ∧
    FileMember records "verify" (folder ++ "/verify.sh") verify ∧
      step = .obj (("title", .str ("Step " ++ Text.digits number)) :: (text ++ verify))

/-- The script that sets up the lab has one of two names. -/
def DescribesSetup (records : List Record) (background : List (Text × Json)) : Prop :=
  ∃ path : Text, (HasFile records "setup.sh" ∧ path = "setup.sh" ∨
    ¬ HasFile records "setup.sh" ∧ path = "background.sh") ∧
      FileMember records "background" path background

def DescribesIntro (records : List Record) (intro : List (Text × Json)) : Prop :=
  ∃ background, DescribesSetup records background ∧ MemberFor records "intro.md"
    ("intro", .obj (("text", .str "intro.md") :: background)) intro

def DescribesFinish (records : List Record) : List (Text × Json) → Prop :=
  MemberFor records "finish.md" ("finish", .obj [("text", .str "finish.md")])

/-- What a descriptor says of some records, given their step folders with their numbers. -/
structure Describes (records : List Record) (title description image : Text)
    (folders : List (Text × Nat)) (index : Json) : Prop where
  known : ∀ folder number, (folder, number) ∈ folders ↔
    ∃ digits, HasStep records folder digits ∧ Text.numberOf digits = number
  shape : ∃ intro steps finish, DescribesIntro records intro ∧
    List.Forall₂ (fun place step => DescribesStep records place.1.1 place.2 step)
      (folders.zipIdx 1) steps ∧ DescribesFinish records finish ∧
    index = .obj [("title", .str title), ("description", .str description),
      ("details", .obj (intro ++ ((("steps" : Text), .arr steps) :: finish))),
      ("backend", .obj [("imageid", .str image)])]

theorem listed?_cases (records : List Record) (path : Text) :
    HasFile records path ∧ listed? (filePaths records) path = some path ∨
      ¬ HasFile records path ∧ listed? (filePaths records) path = none := by
  have same : (filePaths records).contains path = true ↔ HasFile records path :=
    List.contains_iff_mem.trans mem_filePaths
  by_cases there : HasFile records path
  · exact .inl ⟨there, if_pos (same.mpr there)⟩
  · exact .inr ⟨there, if_neg (mt same.mp there)⟩

theorem fileMember_listed (records : List Record) (name path : Text) :
    FileMember records name path (fileMember name (listed? (filePaths records) path)) := by
  refine (listed?_cases records path).imp ?_ ?_ <;> rintro ⟨file, same⟩
  · exact ⟨file, by rw [same]; rfl⟩
  · exact ⟨file, by rw [same]; rfl⟩

theorem describes_setup (records : List Record) :
    DescribesSetup records (fileMember "background" (Files.of (filePaths records)).setup?) := by
  rcases listed?_cases records "setup.sh" with ⟨file, same⟩ | ⟨absent, same⟩
  · have first : (Files.of (filePaths records)).setup? = some ("setup.sh" : Text) := by
      simp only [Files.of, setupFiles, List.findSome?, same]
    exact ⟨"setup.sh", .inl ⟨file, rfl⟩, by rw [first]; exact .inl ⟨file, rfl⟩⟩
  · have second : (Files.of (filePaths records)).setup? =
        listed? (filePaths records) "background.sh" := by
      simp only [Files.of, setupFiles, List.findSome?, same]
      cases listed? (filePaths records) "background.sh" <;> rfl
    exact ⟨"background.sh", .inr ⟨absent, rfl⟩, by rw [second]; exact fileMember_listed _ _ _⟩

theorem describes_intro (records : List Record) :
    DescribesIntro records (Files.of (filePaths records)).introMember := by
  refine ⟨_, describes_setup records, ?_⟩
  refine (listed?_cases records "intro.md").imp ?_ ?_ <;> rintro ⟨file, same⟩
  · exact ⟨file, by rw [Files.introMember, Files.of, same]⟩
  · exact ⟨file, by rw [Files.introMember, Files.of, same]⟩

theorem describes_finish (records : List Record) :
    DescribesFinish records (Files.of (filePaths records)).finishMember := by
  refine (listed?_cases records "finish.md").imp ?_ ?_ <;> rintro ⟨file, same⟩
  · exact ⟨file, by rw [Files.finishMember, Files.of, same]⟩
  · exact ⟨file, by rw [Files.finishMember, Files.of, same]⟩

theorem describes_steps (records : List Record) (folders : List Text) (number : Nat)
    (numberOf : Text → Nat) :
    List.Forall₂ (fun place step => DescribesStep records place.1.1 place.2 step)
      ((folders.map fun folder => (folder, numberOf folder)).zipIdx number)
      (describeSteps number (folders.map (Step.of (filePaths records)))) := by
  induction folders generalizing number with
  | nil => exact .nil
  | cons folder folders ih =>
    refine .cons ⟨_, _, fileMember_listed _ _ _, fileMember_listed _ _ _, rfl⟩ (ih _)

/-- The step folders of the files at some paths, in the order of their numbers. -/
def sortedFolders (paths : List Text) : List Text :=
  Order.sortBy (fun a b => decide ((stepNumber? a).getD 0 ≤ (stepNumber? b).getD 0))
    (stepFolders paths)

def numbered (folder : Text) : Text × Nat :=
  (folder, (stepNumber? folder).getD 0)

theorem number_total (a b : Text) :
    decide ((stepNumber? a).getD 0 ≤ (stepNumber? b).getD 0) = true ∨
      decide ((stepNumber? b).getD 0 ≤ (stepNumber? a).getD 0) = true := by
  simpa only [decide_eq_true_eq] using Nat.le_total _ _

theorem number_trans (a b c : Text)
    (first : decide ((stepNumber? a).getD 0 ≤ (stepNumber? b).getD 0) = true)
    (second : decide ((stepNumber? b).getD 0 ≤ (stepNumber? c).getD 0) = true) :
    decide ((stepNumber? a).getD 0 ≤ (stepNumber? c).getD 0) = true :=
  decide_eq_true ((of_decide_eq_true first).trans (of_decide_eq_true second))

theorem mem_sortedFolders :
    folder ∈ sortedFolders (filePaths records) ↔ ∃ digits, HasStep records folder digits :=
  Order.mem_sortBy.trans mem_stepFolders

theorem describes_of (records : List Record) (title description image : Text) :
    Describes records title description image ((sortedFolders (filePaths records)).map numbered)
      (describe title description image (.of (filePaths records))) where
  known folder number := by
    simp only [List.mem_map, mem_sortedFolders, numbered, Prod.mk.injEq]
    constructor
    · rintro ⟨_, ⟨digits, step⟩, rfl, rfl⟩
      exact ⟨digits, step, by rw [stepNumber?_eq step.1, Option.getD_some]⟩
    · rintro ⟨digits, step, rfl⟩
      exact ⟨folder, ⟨digits, step⟩, rfl, by rw [stepNumber?_eq step.1, Option.getD_some]⟩
  shape :=
    ⟨_, _, _, describes_intro records, describes_steps records _ 1 _, describes_finish records, rfl⟩

/-- If no two step folders have the same number, the steps stand in increasing order of it. -/
theorem increasing_of (apart : StepsApart records) :
    ((sortedFolders (filePaths records)).map numbered).Pairwise fun a b => a.2 < b.2 := by
  have ordered := Order.pairwise_sortBy number_total number_trans (stepFolders (filePaths records))
  have once : (sortedFolders (filePaths records)).Nodup :=
    (Order.perm_sortBy _ _).nodup_iff.mpr (nodup_eraseDups _)
  refine List.pairwise_map.mpr ((ordered.and once).imp_of_mem fun left right both => ?_)
  refine Nat.lt_of_le_of_ne (of_decide_eq_true both.1) (mt ?_ both.2)
  exact stepsApart_iff.mp apart _ (Order.mem_sortBy.mp left) _ (Order.mem_sortBy.mp right)

/-- Nothing counts of the records but which files are among them. -/
theorem of_congr (apart : StepsApart records) (same : ∀ record, record ∈ others ↔ record ∈ records) :
    Files.of (filePaths others) = Files.of (filePaths records) := by
  have paths (path : Text) : path ∈ filePaths others ↔ path ∈ filePaths records := by
    simp only [mem_filePaths, HasFile, same]
  have listed : listed? (filePaths others) = listed? (filePaths records) := by
    funext path
    have there : (filePaths others).contains path = (filePaths records).contains path := by
      rw [Bool.eq_iff_iff, List.contains_iff_mem, List.contains_iff_mem, paths]
    rw [listed?, there, listed?]
  have steps : Step.of (filePaths others) = Step.of (filePaths records) := by
    funext folder
    rw [Step.of, listed, Step.of]
  have perm : (stepFolders (filePaths records)).Perm (stepFolders (filePaths others)) :=
    perm_eraseDups fun folder => by simp only [List.mem_filterMap, paths]
  have sorted : sortedFolders (filePaths records) = sortedFolders (filePaths others) :=
    Order.sortBy_perm number_total number_trans (fun a left b right first second =>
      stepsApart_iff.mp apart a left b right
        (Nat.le_antisymm (of_decide_eq_true first) (of_decide_eq_true second))) perm
  rw [sortedFolders, sortedFolders] at sorted
  rw [Files.of, Files.of, listed, steps, sorted]

theorem scan_congr (apart : StepsApart records) (same : ∀ record, record ∈ others ↔ record ∈ records)
    {files : Files} (found : scan records = .ok files) : scan others = .ok files := by
  obtain ⟨readable, rfl⟩ := scan_ok_iff.mp found
  refine scan_ok_iff.mpr ⟨?_, (of_congr apart same).symm⟩
  simpa only [StepsReadable, HasStep, HasFile, same] using readable

/-- The members that name files. -/
def namingMembers : List Text := ["text", "background", "verify"]

mutual

/-- The names of files in a descriptor, at any depth. -/
def fileNames : Json → List Text
  | .arr items => itemNames items
  | .obj members => memberNames members
  | _ => []

def itemNames : List Json → List Text
  | [] => []
  | item :: items => fileNames item ++ itemNames items

def memberNames : List (Text × Json) → List Text
  | [] => []
  | (name, value) :: members =>
    let here := if namingMembers.contains name then value.text?.toList else []
    here ++ fileNames value ++ memberNames members

end

theorem memberNames_append (left right : List (Text × Json)) :
    memberNames (left ++ right) = memberNames left ++ memberNames right := by
  induction left with
  | nil => rfl
  | cons entry left ih =>
    obtain ⟨member, value⟩ := entry
    simp only [List.cons_append, memberNames, ih, List.append_assoc]

section
variable {key : Text} {members : List (Text × Json)} {step : Json} {number : Nat}

theorem FileMember.sound (member : FileMember records key path members)
    (named : name ∈ memberNames members) : HasFile records name := by
  rcases member with ⟨file, rfl⟩ | ⟨_, rfl⟩
  · rw [memberNames] at named
    split at named
    · cases List.mem_singleton.mp named
      exact file
    · cases named
  · cases named

theorem DescribesStep.sound (describes : DescribesStep records folder number step)
    (named : name ∈ fileNames step) : HasFile records name := by
  obtain ⟨text, verify, left, right, rfl⟩ := describes
  have named : name ∈ memberNames (text ++ verify) := named
  rw [memberNames_append, List.mem_append] at named
  exact named.elim left.sound right.sound

theorem DescribesIntro.sound (describes : DescribesIntro records members)
    (named : name ∈ memberNames members) : HasFile records name := by
  obtain ⟨background, ⟨path, _, setup⟩, ⟨file, rfl⟩ | ⟨_, rfl⟩⟩ := describes
  · have named : name ∈ ([("intro.md" : Text)] ++ memberNames background) ++ [] := named
    rw [List.append_nil, List.mem_append, List.mem_singleton] at named
    rcases named with rfl | inside
    · exact file
    · exact setup.sound inside
  · cases named

theorem DescribesFinish.sound (describes : DescribesFinish records members)
    (named : name ∈ memberNames members) : HasFile records name := by
  rcases describes with ⟨file, rfl⟩ | ⟨_, rfl⟩
  · cases List.mem_singleton.mp named
    exact file
  · cases named

theorem itemNames_sound {α : Type} {R : α → Json → Prop} {places : List α} {steps : List Json}
    (each : ∀ {place step}, R place step → name ∈ fileNames step → HasFile records name)
    (related : List.Forall₂ R places steps) (named : name ∈ itemNames steps) :
    HasFile records name := by
  induction related with
  | nil => cases named
  | cons here _ ih => exact (List.mem_append.mp named).elim (each here) ih

/-- A descriptor names files only. -/
theorem Describes.sound {folders : List (Text × Nat)} {index : Json}
    (describes : Describes records title description image folders index)
    (named : name ∈ fileNames index) : HasFile records name := by
  obtain ⟨intro, steps, finish, first, each, last, rfl⟩ := describes.shape
  have named : name ∈ memberNames (intro ++ (("steps" : Text), .arr steps) :: finish) ++ [] := named
  rw [List.append_nil, memberNames_append, List.mem_append] at named
  rcases named with inside | named
  · exact first.sound inside
  · have named : name ∈ itemNames steps ++ memberNames finish := named
    exact (List.mem_append.mp named).elim (itemNames_sound (fun here => here.sound) each) last.sound

end

/-- If the numbers of the step folders can be read and are all different, the records have a
descriptor. It names files only; it tells of all files of the lab, and of its steps in increasing
order of their numbers; and it is the same for all lists of the same records. -/
theorem describe_scan (readable : StepsReadable records) (apart : StepsApart records)
    (title description image : Text) : ∃ files folders, scan records = .ok files ∧
      Describes records title description image folders (describe title description image files) ∧
      folders.Pairwise (fun a b => a.2 < b.2) ∧
      (∀ name ∈ fileNames (describe title description image files), HasFile records name) ∧
      ∀ others, (∀ record, record ∈ others ↔ record ∈ records) → scan others = .ok files := by
  have found := scan_ok_iff.mpr ⟨readable, rfl⟩
  have describes := describes_of records title description image
  exact ⟨_, _, found, describes, increasing_of apart, fun _ => describes.sound,
    fun _ same => scan_congr apart same found⟩

theorem describe_scan_gap :
    let file (path : Text) : Record := ⟨.null, path, .str [], false⟩
    let records := [file "step10/text.md", file "step2/pages/a.md", file "intro.md",
      file "background.sh", file "step2/verify.sh", ⟨.null, "finish.md", .str [], true⟩]
    StepsReadable records ∧ StepsApart records ∧ ∃ files, scan records = .ok files ∧
      scan (records ++ records.reverse) = .ok files ∧
        fileNames (describe "Lab" [] "ubuntu" files) =
          (["intro.md", "background.sh", "step2/verify.sh", "step10/text.md"] : List Text) := by
  intro file records
  have readable : StepsReadable records := by decide
  have apart : StepsApart records := by decide
  obtain ⟨files, _, found, _, _, _, same⟩ := describe_scan readable apart "Lab" [] "ubuntu"
  refine ⟨readable, apart, files, found, same _ (by simp), ?_⟩
  obtain ⟨_, rfl⟩ := scan_ok_iff.mp found
  decide

end LabEditor.Lab
