import LabEditor.Path.Basic
import LabEditor.Text.Decomposition
import LabEditor.Failure

/-! Paths typed into a form, made safe for any file system: segments of ASCII letters, digits, low
lines, dots and hyphens. -/
namespace LabEditor.Path

def isSafe (c : CodePoint) : Bool :=
  c.toNat < 0x80 && (c.isAlphanum || c == '_' || c == '.' || c == '-')

/-- One segment in safe characters: marks are taken off letters, blanks become low lines, and dots
and low lines at the ends are dropped. -/
def cleanSegment (segment : Text) : Text :=
  let spaced : Text := (Text.toAscii segment).map fun (c : CodePoint) => if c = '/' then ' ' else c
  let safe := (Text.glue '_' (Text.words spaced)).filter isSafe
  let isEdge (c : CodePoint) : Bool := c == '.' || c == '_'
  Text.dropEndWhile isEdge (safe.dropWhile isEdge)

/-- The path of the cleaned segments. It is refused if no segment is there or one of them holds
nothing that is safe. -/
def clean (typed : Text) : Except Refusal Text :=
  let parts := (segments (typed.map fun (c : CodePoint) =>
    if c = '\\' then separator else c)).map cleanSegment
  if parts.isEmpty || parts.any (·.isEmpty) then .error (.invalidPath typed)
  else .ok (ofSegments parts)

end LabEditor.Path
