import LabEditor.Conversion
import LabEditor.Workspace.Basic

/-! The files and folders of a lab as they leave the editor. -/
namespace LabEditor

open Record (Written)

/-- A path with its content, or a folder in place of one with no content. -/
structure Entry where
  path : Json
  content : Json
deriving Inhabited, Repr

namespace Entry

/-- The entry of a record, with its content converted for the platform or as it is. -/
def ofRecord (record : Record) (converted auto : Bool) : Except Fault Entry :=
  let path : Json := .str record.path
  if record.isDirectory then .ok ⟨path, .null⟩
  else if converted then
    (convertContent record.path record.content auto).map fun content => ⟨path, content⟩
  else .ok ⟨path, record.content⟩

/-- The entry of a written record. How to convert a file is told by its path, which must be a
text. -/
def ofWritten (written : Written) (converted auto : Bool) : Except Fault Entry :=
  match written.record? with
  | some record => ofRecord record converted auto
  | none =>
    if written.isDirectory then .ok ⟨written.path, .null⟩
    else if converted then .error .notText
    else .ok ⟨written.path, written.content⟩

/-- All records of a workspace as entries, in the order of their paths. -/
def ofWorkspace (ws : Workspace) (converted : Bool) : Except Fault (List Entry) := do
  ws.store.checkOrder
  ws.store.listing.mapM fun record => ofWritten record converted ws.settings.autoDetect

end Entry
end LabEditor
