import LabEditor.Workspace.Basic

/-! What a user does in the file tree, as a value that carries all it needs. -/
namespace LabEditor

inductive Action where
  | createFile (parent name : Text) (content : Json)
  | createFolder (parent name : Text)
  | rename (path newName : Text)
  | move (source folder : Text)
  | delete (path : Text) (confirmed : Bool)
  | openFile (path : Text)
  | toggleFolder (path : Text)
deriving Inhabited, Repr

namespace Action

/-- A trimmed text of a request; one that is required must not be empty. -/
def field (request : Json) (name : Text) (required : Bool) : Except Failure Text := do
  match ← Failure.ofFault (request.memberOr name (.str [])) with
  | .str t =>
    let t := Text.trim t
    if required && t.isEmpty then throw (.refusal (.missing name))
    pure t
  | _ => throw (.refusal (.notText name))

/-- Reads the action that a request names. -/
def ofJson (request : Json) : Except Failure Action := do
  let name ← Failure.ofFault (request.memberOr "op" .null)
  if name.isText "createFile" then
    let parent ← field request "parent" false
    let file ← field request "name" true
    let content ← Failure.ofFault (request.memberOr "content" .null)
    pure (.createFile parent file (if content.truthy then content else .str []))
  else if name.isText "createFolder" then
    pure (.createFolder (← field request "parent" false) (← field request "name" true))
  else if name.isText "rename" then
    pure (.rename (← field request "path" true) (← field request "newName" true))
  else if name.isText "move" then
    pure (.move (← field request "source" true) (← field request "targetDir" false))
  else if name.isText "delete" then
    let path ← field request "path" true
    let confirmed ← Failure.ofFault (request.memberOr "confirm" (.bool false))
    pure (.delete path confirmed.truthy)
  else if name.isText "open" then
    pure (.openFile (← field request "path" true))
  else if name.isText "toggle" then
    pure (.toggleFolder (← field request "path" true))
  else throw (.refusal (.unknownAction name))

/-- Carries an action out; the answer is what the editor page is told, as members of an object. -/
def apply (ws : Workspace) : Action → Except Failure (Workspace × List (Text × Json))
  | .createFile parent name content => do
    let (store, record) ←
      Failure.ofRefusal (ws.store.create (Path.join [parent, name]) false content)
    pure (ws.withStore store, [("path", .str record.path)])
  | .createFolder parent name => do
    let (store, record) ←
      Failure.ofRefusal (ws.store.create (Path.join [parent, name]) true (.str []))
    pure (ws.withStore store, [("path", .str record.path)])
  | .rename path newName => do
    let (ws, target) ← Failure.ofRefusal (ws.rename path newName)
    pure (ws, [("path", .str target)])
  | .move source folder => do
    let (ws, target) ← Failure.ofRefusal (ws.move source folder)
    pure (ws, [("path", .str target)])
  | .delete path confirmed => do
    if !confirmed then throw (.refusal (.unconfirmed path))
    let (ws, removed) ← Failure.ofRefusal (ws.delete path)
    pure (ws, [("removed", .texts removed)])
  | .openFile path => do
    let (store, record) ← Failure.ofRefusal (ws.store.openFile path)
    pure (ws.withStore store, [("path", .str record.path), ("content", record.content)])
  | .toggleFolder path => do
    let (ws, expanded) ← ws.toggleFolder path
    pure (ws, [("path", .str path), ("expanded", .bool expanded)])

end Action
end LabEditor
