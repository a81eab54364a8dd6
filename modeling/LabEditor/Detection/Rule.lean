import LabEditor.Text.Blank
import LabEditor.Text.Digit

/-! The rules by which an unmarked line is taken for a heading, a command or a snippet. -/
namespace LabEditor.Detection

/-- A rule gives another line for each line that it applies to. -/
abbrev Rule := Text → Option Text

def isHeadingChar (c : CodePoint) : Bool :=
  (c.toNat < 0x80 && c.isAlphanum) || (" ,'()/&-" : Text).contains c

def isHeadingEnd (c : CodePoint) : Bool :=
  (c.toNat < 0x80 && c.isAlphanum) || c == ')'

/-- At least two plain characters, the first a capital letter and the last no punctuation mark. -/
def isTitle : Text → Bool
  | c :: d :: t =>
    'A' ≤ c && c ≤ 'Z' && (d :: t).all isHeadingChar && (d :: t).getLast?.any isHeadingEnd
  | _ => false

/-- A short line that starts with a capital letter is a heading, unless it is indented. -/
def asHeading : Rule := fun line =>
  let title := Text.trim line
  if line.head?.any Text.isBlank || 60 < title.length || 8 < (Text.words title).length
      || !isTitle title then none
  else some ("\x7b\x7bh1\x7d\x7d " ++ title)

/-- Code in backticks, doubled if the code holds one itself. -/
def inlineCode (code : Text) : Text :=
  if code.contains '\x60' then "\x60\x60 " ++ code ++ " \x60\x60"
  else ('\x60' : CodePoint) :: code ++ (['\x60'] : Text)

/-- What a marked line holds behind its mark and the blanks after it; a line feed may only end the
line. -/
def snippet? (t : Text) : Option Text :=
  let body := Text.trimStart t
  let (code, rest) := Text.splitWhen (· == '\n') body
  if code.isEmpty || (!rest.isEmpty && rest != (['\n'] : Text)) then none else some (Text.trimEnd code)

/-- A line after a prompt sign is a command. -/
def asExec : Rule := fun line =>
  match line with
  | [] => none
  | c :: t =>
    if c = '$' || c = '>' then
      (snippet? t).map fun code => inlineCode code ++ "\x7b\x7bexec\x7d\x7d"
    else none

/-- A line indented by four spaces or a tab is a snippet. -/
def asCopy : Rule := fun line =>
  let indented? := match line with
    | '\t' :: t => some t
    | _ => Text.after? "    " line
  match indented? with
  | some t => (snippet? t).map fun code => inlineCode code ++ "\x7b\x7bcopy\x7d\x7d"
  | none => none

end LabEditor.Detection
