import LabEditor.Json.Writer
import LabEditor.Lab.Files

/-! The descriptor of a lab, which tells the platform its title, files and machine. -/
namespace LabEditor.Lab

def indexFile : Text := "index.json"

/-- A member with the path of a file, if the file is there. -/
def fileMember (name : Text) : Option Text → List (Text × Json)
  | some path => [(name, .str path)]
  | none => []

/-- The step with a number, counted from one. -/
def Step.describe (step : Step) (number : Nat) : Json :=
  .obj (("title", .str ("Step " ++ Text.digits number)) ::
    (fileMember "text" step.text? ++ fileMember "verify" step.verify?))

/-- Numbers the steps from a first number on. -/
def describeSteps : (number : Nat) → List Step → List Json
  | _, [] => []
  | number, step :: steps => step.describe number :: describeSteps (number + 1) steps

def Files.introMember (files : Files) : List (Text × Json) :=
  match files.intro? with
  | some path =>
    [("intro", .obj (("text", .str path) :: fileMember "background" files.setup?))]
  | none => []

def Files.finishMember (files : Files) : List (Text × Json) :=
  match files.finish? with
  | some path => [("finish", .obj [("text", .str path)])]
  | none => []

def Files.details (files : Files) : Json :=
  let steps : Text × Json := ("steps", .arr (describeSteps 1 files.steps))
  .obj (files.introMember ++ steps :: files.finishMember)

def describe (title description image : Text) (files : Files) : Json :=
  .obj [("title", .str title), ("description", .str description), ("details", files.details),
    ("backend", .obj [("imageid", .str image)])]

/-- The content of a descriptor file. -/
def indexContent (title description image : Text) (files : Files) : Text :=
  (describe title description image files).indented

end LabEditor.Lab
