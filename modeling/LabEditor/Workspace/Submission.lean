import LabEditor.Store.Record

/-! Labs as they were when they were submitted. -/
namespace LabEditor

open Record (Written)

/-- A submission made here holds texts; one that was read holds whatever was written. -/
structure Submission where
  id : Json
  labName : Json
  authorName : Json
  timestamp : Json
  /-- The records, each with the path that it was listed under. -/
  files : List (Json × Written)
deriving Inhabited, Repr

namespace Submission

/-- The written form with the files in a form of choice. -/
def toJsonWith (file : Json × Written → Json) (submission : Submission) : Json :=
  .obj [("id", submission.id), ("labName", submission.labName),
    ("authorName", submission.authorName), ("timestamp", submission.timestamp),
    ("files", .arr (submission.files.map file))]

def toJson : Submission → Json :=
  toJsonWith fun (path, record) => .arr [path, record.toJson]

/-- The written form with the paths alone in place of the files. -/
def summary : Submission → Json :=
  toJsonWith (·.1)

/-- A file of a submission: its path and its record. -/
def fileOfJson (value : Json) : Except Fault (Json × Written) := do
  let (path, record) ← value.pair
  pure (path, ← Written.ofJson record)

def ofJson (value : Json) : Except Fault Submission := do
  let id ← value.member "id"
  let labName ← value.memberOr "labName" (.str [])
  let authorName ← value.memberOr "authorName" (.str [])
  let timestamp ← value.memberOr "timestamp" (.str [])
  let files ← (← value.memberOr "files" (.arr [])).items
  pure ⟨id, labName, authorName, timestamp, ← files.mapM fileOfJson⟩

end Submission
end LabEditor
