import LabEditor.Failure
import LabEditor.Json.Reader
import LabEditor.Text.Encoding

/-! JSON that comes from outside, as bytes of some encoding. -/
namespace LabEditor.Json

/-- The value that some bytes write in an encoding, in which halves may or may not pass; there is none
if the encoding is not known. -/
def readBytes (limit : Nat) (halves : Bool) (encoding? : Option Text.Encoding)
    (bytes : List UInt8) : Except ReadError Json :=
  match encoding?.bind (·.decode? halves bytes) with
  | some t => read limit t
  | none => .error .malformed

/-- What was received, or nothing if it is no value. Only a value that is nested too deeply cannot
be passed over. -/
def received (outcome : Except ReadError Json) : Except Fault (Option Json) :=
  match outcome with
  | .ok value => .ok (some value)
  | .error .tooDeep => .error .tooDeep
  | .error _ => .ok none

end LabEditor.Json
