import LabEditor.Failure
import LabEditor.Scan
import LabEditor.Text.Blank
import LabEditor.Text.Entity

/-! Code that a reader of a lab can run or copy, as HTML, and finding it in HTML. -/
namespace LabEditor.Preview

inductive Kind where
  | exec
  | copy
deriving DecidableEq, Repr

def Kind.name : Kind → Text
  | .exec => "exec"
  | .copy => "copy"

/-- The kind named at the front of a text. -/
def Kind.read? (t : Text) : Option (Kind × Text) :=
  match Text.after? "exec" t, Text.after? "copy" t with
  | some rest, _ => some (.exec, rest)
  | none, some rest => some (.copy, rest)
  | none, none => none

def interruptFlag (interrupt : Bool) : Text :=
  if interrupt then " data-interrupt=\"true\"" else []

/-- A code block, given its code as HTML. -/
def styledBlock (kind : Kind) (code : Text) (interrupt : Bool) : Text :=
  "<div class=\"" ++ kind.name ++ "-block\"" ++ interruptFlag interrupt ++ "><pre><code>" ++ code ++
    "</code></pre></div>"

/-- A code span, given its code as HTML. -/
def styledSpan (kind : Kind) (code : Text) (interrupt : Bool) : Text :=
  "<code class=\"" ++ kind.name ++ "-block\"" ++ interruptFlag interrupt ++ (('>' : CodePoint) :: code) ++
    "</code>"

/-- The shortest text in front of something that can be read, what is read, and the rest. -/
def upTo? (read? : Text → Option (α × Text)) : Text → Option (Text × α × Text)
  | [] => (read? []).map fun (value, rest) => ([], value, rest)
  | c :: t =>
    match read? (c :: t) with
    | some (value, rest) => some ([], value, rest)
    | none => (upTo? read? t).map fun (front, found) => (c :: front, found)

def literal (word : Text) (t : Text) : Option (Unit × Text) :=
  (Text.after? word t).map fun rest => ((), rest)

/-- The rest behind a class of styled code and the other attributes of the tag. -/
def afterClass? (t : Text) : Option (Kind × Text) := do
  let (kind, t) ← Kind.read? t
  let t ← Text.after? "-block\"" t
  match (Text.splitWhen (· == '>') t).2 with
  | [] => none
  | _ :: t => some (kind, t)

def blockPattern : Pattern CodePoint (Kind × Text) := fun _ t => do
  let (kind, t) ← afterClass? (← Text.after? "<div class=\"" t)
  let (code, _, rest) ← upTo? (literal "</code></pre></div>") (← Text.after? "<pre><code>" t)
  pure ((kind, code), rest)

def spanPattern : Pattern CodePoint (Kind × Text) := fun _ t => do
  let (kind, t) ← afterClass? (← Text.after? "<code class=\"" t)
  let (code, t) := Text.splitWhen (· == '<') t
  pure ((kind, code), ← Text.after? "</code>" t)

/-- The text of some code, given as HTML. -/
def codeText (html : Text) : Except Fault Text :=
  match Text.unescapeHtml? html with
  | some t => .ok t
  | none => .error .numberTooLong

/-- The styled code of a page of HTML in order, as plain text. -/
def codeBlocks (html : Text) : Except Fault (List (Kind × Text)) :=
  (Pattern.findAll (fun before t => blockPattern before t <|> spanPattern before t) html).mapM
    fun (kind, code) => (codeText code).map fun t => (kind, t)

end LabEditor.Preview
