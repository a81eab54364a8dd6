import LabEditor.Archive.Zip
import LabEditor.Export.Basic
import LabEditor.Export.Options
import LabEditor.Log
import LabEditor.Service.Config
import Std.Time.DateTime.Timestamp

/-! The command that exports a saved lab: its pages in the form of the platform, in a directory and
as an archive. -/
namespace LabEditor

/-- A text with a sign of its own for each half of a pair. -/
def Text.shown (t : Text) : String :=
  String.ofList (t.map fun c => c.char?.getD '\ufffd')

/-- The directory that relative paths of the configuration start from. -/
def homeDirectory : IO String := do
  pure ((← IO.getEnv "LABMARK_HOME").getD ".")

/-- A path, from a directory on if it is relative. -/
def placeIn (directory : String) (path : Text) : String :=
  if path.head? = some ('/' : CodePoint) then path.shown else directory ++ "/" ++ path.shown

def readBytes? (path : String) : IO (Option ByteArray) := do
  try
    pure (some (← IO.FS.readBinFile path))
  catch _ => pure none

def currentClock : IO Clock := do
  pure (Clock.ofSeconds (← Std.Time.Timestamp.now).toSecondsSinceUnixEpoch.val.toNat)

/-- Writes a line of the log. -/
def say (level : Int) (message : String) : IO Unit := do
  let line : Log.Line := ⟨"export", 20, message⟩
  IO.print (Text.shown (Log.write ((← currentClock).time ':') level [line]))

/-- Empties a directory but for the history of its versions, and makes it if it is not there. The
answer is what was left. -/
def cleanOutput (output : String) : IO Export.Directory := do
  IO.FS.createDirAll output
  let mut kept : Export.Directory := []
  for entry in ← (← IO.FS.realPath output).readDir do
    let isFolder ← entry.path.isDir
    if entry.fileName = ".git" then
      kept := [([(entry.fileName : Text)], if isFolder then .folder else .file [])]
    else if isFolder then IO.FS.removeDirAll entry.path
    else IO.FS.removeFile entry.path
  pure kept

/-- Writes the items of a directory under a path, but for those that are there already. -/
def writeItems (output : String) (clock : Clock) (kept directory : Export.Directory) : IO Unit := do
  for (place, item) in directory do
    if (kept.get? place).isNone then
      let path := placeIn output (Path.ofSegments place)
      match item with
      | .folder => IO.FS.createDirAll path
      | .file content => IO.FS.writeFile path content.shown
      | .archive members => IO.FS.writeBinFile path ⟨(Zip.bytes clock members).toArray⟩

/-- A file system below a directory: a name has 255 bytes at most, and a path with that of the directory
4095. -/
def fileSystem (directory : String) : Export.Medium where
  takesName name := (Text.pathBytes? name).any (·.length ≤ 255)
  takesWay names :=
    (Text.pathBytes? (Path.ofSegments names)).any (directory.utf8ByteSize + 1 + ·.length ≤ 4095)

/-- Exports a lab to a directory. -/
def exportLab (ws : Workspace) (title : Text) (output : String) (level : Int) :
    IO (Except Failure Unit) := do
  say level s!"Exporting lab to {output}"
  let clock ← currentClock
  let kept ← cleanOutput output
  let (directory, outcome) := Export.build (fileSystem output) ws clock title kept
  writeItems output clock kept directory
  if outcome.isOk then
    let written := directory.countP fun (place, item) => item.isText && (kept.get? place).isNone
    say level s!"  {written} files written"
    say level s!"  {(archiveName clock).shown}"
  pure outcome

/-- Reports an error and gives the code to exit with. -/
def stopWith (code : UInt32) (message : Text) : IO UInt32 := do
  IO.eprintln message.shown
  pure code

/-- How many lists and objects may stand in one another in a file. -/
def nestingLimit : Nat := 985

def runExport (arguments : List String) : IO UInt32 := do
  let home ← homeDirectory
  let file? ← readBytes? (home ++ "/labmark.config.json")
  let content? := (file?.bind String.fromUTF8?).map fun s => (s : Text)
  let options := Export.Options.read .none (arguments.map fun s : String => (s : Text))
  match Config.load nestingLimit content?, options with
  | .error fault, _ => stopWith 1 fault.message
  | _, .error problem => stopWith 2 problem.message
  | .ok config, .ok options =>
    match Log.levelOf (Config.setting config "log_level") with
    | .error fault => stopWith 1 fault.message
    | .ok level =>
      let stateFile := options.stateFile.getD (Config.setting config "state_file").display
      match Export.labOf nestingLimit (← readBytes? (placeIn home stateFile)) with
      | .error fault => stopWith 1 fault.message
      | .ok ws =>
        let output := (options.output.map Text.shown).getD (home ++ "/_lab")
        match ← exportLab ws options.title output level with
        | .ok _ => pure 0
        | .error failure => stopWith 1 failure.message

end LabEditor

def main (arguments : List String) : IO UInt32 :=
  LabEditor.runExport arguments
