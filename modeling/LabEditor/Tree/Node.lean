import LabEditor.Json.Order
import LabEditor.Order
import LabEditor.Store.Record

/-! The tree that a flat list of paths stands for. -/
namespace LabEditor

inductive Node where
  | file (name path : Text)
  | folder (name path : Text) (expanded : Bool) (children : List Node)
deriving Inhabited, Repr

namespace Node

def name : Node → Text
  | .file name _ => name
  | .folder name _ _ _ => name

def path : Node → Text
  | .file _ path => path
  | .folder _ path _ _ => path

def isFolder : Node → Bool
  | .file _ _ => false
  | .folder _ _ _ _ => true

def isExpanded : Node → Bool
  | .file _ _ => false
  | .folder _ _ expanded _ => expanded

def children : Node → List Node
  | .file _ _ => []
  | .folder _ _ _ children => children

/-- Folders come before files, and otherwise names decide. -/
def before (a b : Node) : Bool :=
  if a.isFolder == b.isFolder then Text.le a.name b.name else a.isFolder

/-- A path as its segments, and whether it is that of a folder record. -/
abbrev Trail := List Text × Bool

/-- The trails that go through a name, from behind it. -/
def through (name : Text) (trails : List Trail) : List Trail :=
  trails.filterMap fun
    | ([], _) => none
    | (head :: rest, isDirectory) => if head = name then some (rest, isDirectory) else none

/-- The first segments of the trails, each once. -/
def heads (trails : List Trail) : List Text :=
  (trails.filterMap (·.1.head?)).eraseDups

/-- The nodes at the places right under the folder `above`, down to a depth. A node is a folder if
some trail goes on behind it or is that of a folder record. -/
def forest (expanded : Text → Bool) : (depth : Nat) → (above : List Text) → List Trail → List Node
  | 0, _, _ => []
  | depth + 1, above, trails =>
    Order.sortBy before ((heads trails).map fun name =>
      let behind := through name trails
      let place := above ++ [name]
      let path := Path.ofSegments place
      if behind.any fun (rest, isDirectory) => !rest.isEmpty || isDirectory then
        .folder name path (expanded path) (forest expanded depth place behind)
      else .file name path)

/-- The tree of a list of paths, each with the mark of a folder record. The root is a folder that is
always open. -/
def build (entries : List (Text × Bool)) (expanded : Text → Bool) : Node :=
  let trails := entries.map fun (path, isDirectory) => (Path.segments path, isDirectory)
  let depth := (trails.map fun trail => trail.1.length).foldr max 0
  .folder [] [] true (forest expanded depth [] trails)

/-- The tree of written records. They must have an order, and their paths must be texts. -/
def ofWritten (records : List Record.Written) (expanded : Text → Bool) : Except Fault Node := do
  if !Json.haveOrder (records.map Record.Written.path) then throw .unordered
  let written ← records.mapM fun record =>
    match record.path.text? with
    | some path => pure (path, record.isDirectory)
    | none => throw .notText
  pure (build written expanded)

mutual

/-- A node and all under it, parents first. -/
def walk : Node → List Node
  | .file name path => [.file name path]
  | .folder name path expanded children =>
    .folder name path expanded children :: walkAll children

def walkAll : List Node → List Node
  | [] => []
  | node :: nodes => walk node ++ walkAll nodes

end

mutual

def toJson : Node → Json
  | .file name path => .obj [("name", .str name), ("path", .str path), ("type", .str "file")]
  | .folder name path expanded children =>
    .obj [("name", .str name), ("path", .str path), ("type", .str "folder"),
      ("expanded", .bool expanded), ("children", .arr (toJsonAll children))]

def toJsonAll : List Node → List Json
  | [] => []
  | node :: nodes => toJson node :: toJsonAll nodes

end

end Node
end LabEditor
