import LabEditor.Json.Order
import LabEditor.Order
import LabEditor.Store.Record

/-! Records whose path is no text. The editor makes none, but a written store may hold some: they
are kept and listed, and have no place in the tree. -/
namespace LabEditor

open Record (Written)

structure Strays where
  /-- The records by their paths, each path as it was first written. -/
  entries : List (Json × Written)
  /-- The path of the current file, if that is one of these. -/
  current? : Option Json
deriving Inhabited, Repr

namespace Strays

def none : Strays := ⟨[], .none⟩

/-- Puts a record under its path. A path already there keeps its spelling. -/
def put (record : Written) : List (Json × Written) → List (Json × Written)
  | [] => [(record.path, record)]
  | entry :: rest =>
    if entry.1.same record.path then (entry.1, record) :: rest else entry :: put record rest

/-- The entries of those records whose path is no text. -/
def entriesOf (records : List Written) : List (Json × Written) :=
  (records.filter fun record => record.path.text?.isNone).foldl
    (fun entries record => put record entries) []

/-- Whether a path is that of a file. -/
def isFile (entries : List (Json × Written)) (path : Json) : Bool :=
  ((entries.find? fun entry => entry.1.same path).map (·.2)).any fun record => !record.isDirectory

/-- The records of a store; null stands for no current file. -/
def ofRecords (records : List Written) (current : Json) : Strays :=
  let entries := entriesOf records
  ⟨entries, if !current.isNull && isFile entries current then some current else .none⟩

/-- Puts other records in place of all; the current file stays open if it is still a file. -/
def replaceAll (strays : Strays) (records : List Written) : Strays :=
  let entries := entriesOf records
  ⟨entries, strays.current?.filter fun path => path.truthy && isFile entries path⟩

/-- The entries in the order of their paths. -/
def sorted (strays : Strays) : List (Json × Written) :=
  Order.sortBy (fun a b => Json.before? b.1 a.1 != some true) strays.entries

end Strays
end LabEditor
