import LabEditor.Store.Basic
import LabEditor.Text.Digit

/-! The files of a lab that the platform knows: introduction, setup script, steps and end. -/
namespace LabEditor.Lab

open Record (Written)

structure Step where
  folder : Text
  text? : Option Text
  verify? : Option Text
deriving DecidableEq, Repr

structure Files where
  intro? : Option Text
  setup? : Option Text
  finish? : Option Text
  steps : List Step
deriving DecidableEq, Repr

/-- The scripts that can set up a lab; the first one that is there counts. -/
def setupFiles : List Text := ["setup.sh", "background.sh"]

/-- The digits in the name of a step folder; a line feed may end the name. -/
def stepDigits? (folder : Text) : Option Text := do
  let t ← Text.after? "step" folder
  let digits := t.takeWhile Text.isDigit
  let rest := t.drop digits.length
  if digits.isEmpty || !(rest.isEmpty || rest == (['\n'] : Text)) then none else some digits

def stepNumber? (folder : Text) : Option Nat :=
  (stepDigits? folder).map Text.numberOf

/-- The step folder that a file lies in. -/
def stepFolder? (path : Text) : Option Text :=
  match Path.segments path with
  | folder :: _ :: _ => if (stepNumber? folder).isSome then some folder else none
  | _ => none

/-- The paths of the files among the records. -/
def filePaths (records : List Record) : List Text :=
  (records.filter fun record => !record.isDirectory).map (·.path)

/-- A path, if it is among the given ones. -/
def listed? (paths : List Text) (path : Text) : Option Text :=
  if paths.contains path then some path else none

/-- The step in a folder, given the paths of all files. -/
def Step.of (paths : List Text) (folder : Text) : Step where
  folder
  text? := listed? paths (folder ++ "/text.md")
  verify? := listed? paths (folder ++ "/verify.sh")

/-- The step folders among some paths, each once. -/
def stepFolders (paths : List Text) : List Text :=
  (paths.filterMap stepFolder?).eraseDups

/-- The files of a lab among all files. Steps come in the order of their numbers. -/
def Files.of (paths : List Text) : Files where
  intro? := listed? paths "intro.md"
  setup? := setupFiles.findSome? (listed? paths)
  finish? := listed? paths "finish.md"
  steps := (Order.sortBy
    (fun a b => decide ((stepNumber? a).getD 0 ≤ (stepNumber? b).getD 0)) (stepFolders paths)).map
      (Step.of paths)

/-- Whether the number in the name of a step folder can be read. -/
def isReadable (folder : Text) : Bool :=
  ((stepDigits? folder).bind Text.number?).isSome

/-- Finds the files of a lab among its records. -/
def scan (records : List Record) : Except Fault Files :=
  let paths := filePaths records
  if (stepFolders paths).all isReadable then .ok (.of paths) else .error .numberTooLong

/-- Finds the files of a lab among written records, where folders may have any path. -/
def scanWritten (records : List Written) : Except Fault Files := do
  let files := records.filter fun record => !record.isDirectory
  Store.checkKeys (files.map Written.path)
  if !files.all fun record => record.record?.isSome then throw .notText
  scan (files.filterMap Written.record?)

/-- Finds the files of the lab in a store. -/
def scanStore (store : Store) : Except Fault Files := do
  store.checkOrder
  scanWritten store.listing

end LabEditor.Lab
