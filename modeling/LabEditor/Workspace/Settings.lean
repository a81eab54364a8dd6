import LabEditor.Json.Access

/-! What the user has chosen for the editor. -/
namespace LabEditor

inductive Theme where
  | light
  | dark
deriving DecidableEq, Repr, Inhabited

namespace Theme

def name : Theme → Text
  | .light => "light"
  | .dark => "dark"

/-- The theme that a value names. -/
def ofJson? : Json → Option Theme
  | .str t => [light, dark].find? fun theme => theme.name == t
  | _ => none

end Theme

structure Settings where
  theme : Theme
  /-- Whether tags are guessed for unmarked lines. -/
  autoDetect : Bool
deriving DecidableEq, Repr, Inhabited

namespace Settings

def default : Settings := ⟨.light, false⟩

def toJson (settings : Settings) : Json :=
  .obj [("theme", .str settings.theme.name), ("autoDetect", .bool settings.autoDetect)]

/-- Reads settings; an unknown theme counts as the light one. -/
def ofJson (value : Json) : Except Fault Settings := do
  let theme ← value.memberOr "theme" (.str Theme.light.name)
  let autoDetect ← value.memberOr "autoDetect" (.bool false)
  pure ⟨(Theme.ofJson? theme).getD .light, autoDetect.truthy⟩

/-- Changes what is given: a known theme, and any value but null for detection. -/
def update (settings : Settings) (theme autoDetect : Json) : Settings :=
  ⟨(Theme.ofJson? theme).getD settings.theme,
    if autoDetect.isNull then settings.autoDetect else autoDetect.truthy⟩

end Settings
end LabEditor
