import LabEditor.Text.Basic

/-! The options of the command that exports a lab. -/
namespace LabEditor.Export

/-- Where the lab is read and written, and the title of a descriptor to add; what is not given is
left to the configuration. -/
structure Options where
  stateFile : Option Text
  output : Option Text
  title : Text
deriving DecidableEq, Inhabited, Repr

/-- Why the options cannot be read. -/
inductive OptionError where
  | unknown (argument : Text)
  | noValue (option : Text)
deriving DecidableEq, Inhabited, Repr

def OptionError.message : OptionError → Text
  | .unknown argument => "unrecognized arguments: " ++ argument
  | .noValue option => "argument " ++ option ++ ": expected one argument"

namespace Options

def none : Options := ⟨.none, .none, []⟩

/-- What sets the option of a name. -/
def setter? (option : Text) : Option (Text → Options → Options) :=
  if option = "--state" then some fun value options => { options with stateFile := some value }
  else if option = "--output" then some fun value options => { options with output := some value }
  else if option = "--title" then some fun value options => { options with title := value }
  else .none

/-- An argument that carries its value behind an equals sign. -/
def assignment? (argument : Text) : Option (Text × Text) :=
  match Text.splitWhen (· == '=') argument with
  | (option, _ :: value) => some (option, value)
  | _ => .none

/-- Reads arguments in order; the last value of an option counts. -/
def read : Options → List Text → Except OptionError Options
  | options, [] => .ok options
  | options, argument :: arguments =>
    match setter? argument with
    | some set =>
      match arguments with
      | [] => .error (.noValue argument)
      | value :: rest => read (set value options) rest
    | .none =>
      match assignment? argument with
      | some (option, value) =>
        match setter? option with
        | some set => read (set value options) arguments
        | .none => .error (.unknown argument)
      | .none => .error (.unknown argument)

end Options
end LabEditor.Export
