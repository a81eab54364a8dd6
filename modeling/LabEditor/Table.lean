import LabEditor.Text.Basic

/-! Tables that keep their entries in the order in which the keys were first given. -/
namespace LabEditor

abbrev Table (α : Type) := List (Text × α)

namespace Table

def keys (table : Table α) : List Text :=
  table.map (·.1)

def get? (table : Table α) (key : Text) : Option α :=
  (table.find? fun entry => entry.1 == key).map (·.2)

def has (table : Table α) (key : Text) : Bool :=
  table.any fun entry => entry.1 == key

/-- A new key goes to the end; a key already there keeps its place and changes its value. -/
def put (key : Text) (value : α) : Table α → Table α
  | [] => [(key, value)]
  | entry :: rest => if entry.1 = key then (key, value) :: rest else entry :: put key value rest

/-- The table of the given entries, where a later entry of a key replaces an earlier one. -/
def ofEntries (entries : List (Text × α)) : Table α :=
  entries.foldl (fun table entry => put entry.1 entry.2 table) []

/-- The entries whose keys satisfy a test. -/
def keep (test : Text → Bool) (table : Table α) : Table α :=
  table.filter fun entry => test entry.1

end Table
end LabEditor
