import LabEditor.Deployment.Remote
import LabEditor.Path.Basic

/-! Committing the files of a lab under a folder of its own. -/
namespace LabEditor.Deployment

/-- The folder of a lab: its name and its author's, with low lines for blanks. -/
def labFolder (labName authorName : Text) : Except Refusal Text :=
  let lab := Text.squeezeBlanks '_' (Text.trim labName)
  let author := Text.squeezeBlanks '_' (Text.trim authorName)
  if lab.isEmpty then .error .noLabName
  else .ok (if author.isEmpty then lab else lab ++ ('-' : CodePoint) :: author)

/-- Scripts are executable. -/
def fileMode (path : Text) : Text :=
  if Path.extension path = ".sh" then "100755" else "100644"

/-- A file under the folder of its lab. -/
def blob (folder : Text) (file : Text × Json) : Blob :=
  let path := Path.join [folder, file.1]
  ⟨path, fileMode path, file.2⟩

/-- Members of members, the outermost name first. -/
def memberAt (names : List Text) (value : Json) : Except Fault Json :=
  names.foldlM (fun value name => value.member name) value

/-- Sends a request and takes an object name out of the answer. -/
def ask (client : Client) (request : Request) (names : List Text) : Exchange Json := do
  let value ← send client request
  ExceptT.mk (pure (Failure.ofFault (memberAt names value)))

/-- Whether a value has a beginning, as the name of a commit must. -/
def hasBeginning : Json → Bool
  | .str _ | .arr _ => true
  | _ => false

/-- Commits the files on top of a branch and moves the branch there; the answer is the commit. All
that can be refused is refused before the first request, and nothing is tried twice. -/
def deploy (client : Client) (branch : Text) (files : List (Text × Json))
    (labName authorName message : Text) : Exchange Json := do
  if files.isEmpty then throw (.refusal .nothingSelected)
  let folder ← ExceptT.mk (pure (Failure.ofRefusal (labFolder labName authorName)))
  let message := if message.isEmpty then "Deploy " ++ folder else message
  let head ← ask client (.branchHead branch) ["object", "sha"]
  let base ← ask client (.commit head) ["tree", "sha"]
  let tree ← ask client (.createTree base (files.map (blob folder))) ["sha"]
  let commit ← ask client (.createCommit message tree head) ["sha"]
  let _ ← send client (.moveBranch branch commit)
  if hasBeginning commit then pure commit else throw (.fault .noBeginning)

end LabEditor.Deployment
