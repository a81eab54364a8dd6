import LabEditor.Detection.Basic

/-! Files of a lab in the form that the platform takes. Pages are converted; scripts and data pass
through unchanged. -/
namespace LabEditor

def treatedAsMarkdown (path : Text) : Bool :=
  !Detection.plainExtensions.contains (Path.extension path)

/-- A text that belongs to no file, with tags guessed first if `auto` is set. -/
def convertText (t : Text) (auto : Bool) : Except Fault Text :=
  if auto then (Detection.detectIn t none).map Markup.toMarkdown else .ok (Markup.toMarkdown t)

def convertFile (path t : Text) (auto : Bool) : Except Fault Text :=
  if !treatedAsMarkdown path then .ok t
  else if auto then (Detection.detectIn t (some path)).map Markup.toMarkdown
  else .ok (Markup.toMarkdown t)

/-- The content of a record, which is converted only if it is a text. -/
def convertContent (path : Text) (content : Json) (auto : Bool) : Except Fault Json :=
  if !treatedAsMarkdown path then .ok content
  else
    match content with
    | .str t => (convertFile path t auto).map .str
    | _ => .error (if auto then .notSearchable else .notText)

end LabEditor
