import LabEditor.Text.Blank
import LabEditor.Text.Case

/-! Tag lines: a line that begins with the name of a tag in double braces. -/
namespace LabEditor.Markup

inductive Tag where
  | h1
  | h2
  | copy
  | exec
  | execInterrupt
  | img
deriving DecidableEq, Repr

namespace Tag

def all : List Tag := [.h1, .h2, .copy, .exec, .execInterrupt, .img]

def name : Tag → Text
  | .h1 => "h1"
  | .h2 => "h2"
  | .copy => "copy"
  | .exec => "exec"
  | .execInterrupt => "exec interrupt"
  | .img => "img"

end Tag

structure TagLine where
  tag : Tag
  /-- The name as the line spells it. -/
  spelling : Text
  /-- What follows the tag, up to a line feed, trimmed. -/
  content : Text
deriving DecidableEq, Repr

/-- The line read with one tag; its name may be written in any case. -/
def TagLine.readAs? (tag : Tag) (line : Text) : Option TagLine := do
  let inside ← Text.after? "\x7b\x7b" line
  let behind ← Text.afterWord? tag.name inside
  let rest ← Text.after? "\x7d\x7d" behind
  pure {
    tag
    spelling := inside.take tag.name.length
    content := Text.trim ((Text.trimStart rest).takeWhile (· != '\n')) }

/-- A line that begins with some tag; names are tried in the order of `Tag.all`. -/
def tagLine? (line : Text) : Option TagLine :=
  Tag.all.findSome? fun tag => TagLine.readAs? tag line

/-- What the lines of a tag become. -/
inductive Role where
  | heading (level : Nat)
  | image
  | copy
  | exec (interrupt : Bool)
deriving DecidableEq, Repr

/-- The spelling decides after it has been put into lower case, and any that is not a known name in
lower case marks a command. -/
def TagLine.role (line : TagLine) : Role :=
  let name := Text.lower line.spelling
  if name = "h1" then .heading 1
  else if name = "h2" then .heading 2
  else if name = "img" then .image
  else if name = "copy" then .copy
  else .exec (name == "exec interrupt")

/-- Whether the lines that follow belong to the tag. -/
def Role.opensCode : Role → Bool
  | .heading _ | .image => false
  | .copy | .exec _ => true

end LabEditor.Markup
