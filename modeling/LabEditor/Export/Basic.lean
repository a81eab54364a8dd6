import LabEditor.Export.Directory
import LabEditor.Lab.Starter

/-! Exporting a lab: its files in a directory, converted for the platform, and an archive of the
same. -/
namespace LabEditor.Export

/-- Writes an entry; one without content is a folder. -/
def writeEntry (medium : Medium) (entry : Entry) : Writing Unit := do
  let some path := entry.path.text? | throw .notWritable
  if entry.content.isNull then Writing.folder medium (Place.start path) (Place.names path)
  else Writing.file medium (Place.start path) (Place.names path) entry.content

/-- Adds a descriptor with the given title, if there is a title and the lab has no descriptor. -/
def ensureIndex (ws : Workspace) (title : Text) : Except Failure Workspace :=
  if title.isEmpty then .ok ws
  else (Lab.addIndex ws.store title [] Lab.defaultImage).map fun (store, _) => ws.withStore store

/-- Writes entries in order; the answer is the number of files among them. -/
def writeEntries (medium : Medium) : List Entry → Writing Nat
  | [] => pure 0
  | entry :: entries => do
    writeEntry medium entry
    let files ← writeEntries medium entries
    pure (if entry.content.isNull then files else files + 1)

/-- Writes entries in order, and then an archive of all of them. -/
def writeAll (medium : Medium) (entries : List Entry) (clock : Clock) : Writing Unit := do
  let _ ← writeEntries medium entries
  let members ← Writing.lift (archive entries)
  Writing.writeItem medium (.below []) (archiveName clock) (.archive members)

/-- Exports a lab into a directory that may hold an older one. What was written before a step that
does not succeed stays there. -/
def build (medium : Medium) (ws : Workspace) (clock : Clock) (title : Text)
    (existing : Directory) : Directory × Except Failure Unit :=
  let start := existing.cleaned
  match ensureIndex ws title with
  | .error failure => (start, .error failure)
  | .ok ws =>
    match Entry.ofWorkspace ws true with
    | .error fault => (start, .error (.fault fault))
    | .ok entries =>
      let (outcome, directory) := (writeAll medium entries clock).run.run start
      (directory, Failure.ofFault outcome)

/-- The lab that a file of a workspace holds, detached from the file. -/
def labOf (limit : Nat) (state? : Option ByteArray) : Except Fault Workspace := do
  let ws ← match state? with
    | some bytes => Workspace.loadBytes limit bytes
    | none => Workspace.load limit none
  pure { ws with disk := .detached }

/-- Exports the lab that a file of a workspace holds; the file itself is left as it is. -/
def run (limit : Nat) (medium : Medium) (state? : Option ByteArray) (clock : Clock) (title : Text)
    (existing : Directory) : Directory × Except Failure Unit :=
  match labOf limit state? with
  | .error fault => (existing, .error (.fault fault))
  | .ok ws => build medium ws clock title existing

end LabEditor.Export
