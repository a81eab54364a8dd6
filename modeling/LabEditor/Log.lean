import LabEditor.Json.Access

/-! The log: lines of a level, the part of the program that speaks, and a message. -/
namespace LabEditor.Log

/-- The levels by name. -/
def levels : List (Text × Int) := [
  ("CRITICAL", 50), ("ERROR", 40), ("WARNING", 30), ("INFO", 20), ("DEBUG", 10), ("NOTSET", 0)]

/-- Other names of levels. -/
def aliases : List (Text × Int) := [("FATAL", 50), ("WARN", 30)]

/-- The level that a configuration names. -/
def levelOf : Json → Except Fault Int
  | .int n => .ok n
  | .bool b => .ok (if b then 1 else 0)
  | .str name =>
    match (levels ++ aliases).find? fun level => level.1 == name with
    | some (_, n) => .ok n
    | none => .error .unknownLevel
  | _ => .error .notALevel

def levelName (n : Int) : Text :=
  match levels.find? fun level => level.2 == n with
  | some (name, _) => name
  | none => "Level " ++ Json.writeInt n

structure Line where
  speaker : Text
  level : Int
  message : Text
deriving DecidableEq, Repr

/-- A line of the log; the unnamed speaker is the root. -/
def Line.write (time : Text) (line : Line) : Text :=
  ('[' : CodePoint) :: time ++ "] [" ++ levelName line.level ++ "] [" ++
    (if line.speaker.isEmpty then ("root" : Text) else line.speaker) ++ "] " ++ line.message ++
      (['\n'] : Text)

/-- The lines of at least the given level; lines without a level are never written. -/
def write (time : Text) (level : Int) (lines : List Line) : Text :=
  (lines.filter fun line => decide (level ≤ line.level) && decide (0 < line.level)).flatMap
    (Line.write time)

end LabEditor.Log
