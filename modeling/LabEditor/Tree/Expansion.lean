import LabEditor.Path.Basic
import LabEditor.Table

/-! Which folders are shown open. Folders start closed. -/
namespace LabEditor

structure Expansion where
  table : Table Bool
  /-- How often the table has been changed. -/
  revision : Nat
deriving Inhabited, Repr, DecidableEq

namespace Expansion

def empty : Expansion := ⟨[], 0⟩

def isExpanded (expansion : Expansion) (path : Text) : Bool :=
  (expansion.table.get? path).getD false

def withTable (expansion : Expansion) (table : Table Bool) : Expansion :=
  ⟨table, expansion.revision + 1⟩

def set (expansion : Expansion) (path : Text) (expanded : Bool) : Expansion :=
  expansion.withTable (expansion.table.put path expanded)

/-- Opens a closed folder or closes an open one; the answer is whether it is open then. -/
def toggle (expansion : Expansion) (path : Text) : Expansion × Bool :=
  let expanded := !expansion.isExpanded path
  (expansion.set path expanded, expanded)

/-- Follows a folder that moves from one path to another. -/
def rebase (expansion : Expansion) (old new : Text) : Expansion :=
  expansion.withTable (Table.ofEntries (expansion.table.map fun (key, expanded) =>
    (if Path.isWithin key old then Path.rebase key old new else key, expanded)))

/-- Drops what is remembered of a folder and of the folders under it. -/
def forget (expansion : Expansion) (path : Text) : Expansion :=
  expansion.withTable (expansion.table.keep fun key => !Path.isWithin key path)

end Expansion
end LabEditor
