import LabEditor.Conversion
import LabEditor.Preview.Fence

/-! The preview of a page: HTML in which code with a marker is styled. The renderer of plain
Markdown is a parameter. -/
namespace LabEditor.Preview

/-- The extensions of Markdown that a page may use. -/
def extensions : List Text := ["fenced_code", "tables", "toc", "sane_lists", "nl2br"]

/-- Renders Markdown as HTML. -/
abbrev Renderer := Text → Text

/-- The digits of a token of a block, with the paragraph that the renderer put around it. -/
def stashedPattern : Pattern CodePoint Text := fun _ t =>
  (blockMarks.read? ((Text.after? "<p>" t).getD t)).map fun (digits, rest) =>
    (digits, (Text.after? "</p>" rest).getD rest)

/-- A marker, and whether it interrupts. -/
def marker? (t : Text) : Option ((Kind × Bool) × Text) := do
  let (kind, t) ← Kind.read? (← Text.after? "\x7b\x7b" t)
  match Text.after? " interrupt" t with
  | some t => (Text.after? "\x7d\x7d" t).map fun rest => ((kind, true), rest)
  | none => (Text.after? "\x7d\x7d" t).map fun rest => ((kind, false), rest)

/-- The end of a code block and a paragraph that holds only a marker. -/
def markedEnd? (t : Text) : Option ((Kind × Bool) × Text) := do
  let t ← Text.after? "</code></pre>" t
  let (mark, t) ← marker? (← Text.after? "<p>" (Text.trimStart t))
  pure (mark, ← Text.after? "</p>" t)

/-- The rest behind the opening tags of a code block, with or without a language. -/
def afterCodeOpen? (t : Text) : Option Text := do
  let t ← Text.after? "<pre><code" t
  match Text.after? " class=\"language-" t with
  | some t => Text.after? "\">" (Text.splitWhen (· == '"') t).2
  | none => Text.after? ">" t

/-- A code block followed by a marker; the block reaches to the first end that a marker follows. -/
def fencedPattern : Pattern CodePoint Text := fun _ t => do
  let (code, (kind, interrupt), rest) ← upTo? markedEnd? (← afterCodeOpen? t)
  pure (styledBlock kind (Text.dropEndWhile (· == '\n') code) interrupt, rest)

/-- A code span followed by a marker. -/
def inlinePattern : Pattern CodePoint Text := fun _ t => do
  let (code, t) := Text.splitWhen (· == '<') (← Text.after? "<code>" t)
  let ((kind, interrupt), rest) ← marker? (Text.trimStart (← Text.after? "</code>" t))
  pure (styledSpan kind code interrupt, rest)

/-- The opening of a link to another host, and the address. -/
def hostPattern : Pattern CodePoint Text := fun _ t => do
  let t ← Text.after? "<a href=\"" t
  let host ← (["https://", "http://", "ftp://"] : List Text).findSome? fun scheme =>
    Text.after? scheme t
  let (name, rest) := Text.splitWhen (· == '"') host
  if name.isEmpty then none
  else pure (t.take (t.length - rest.length), ← Text.after? "\"" rest)

/-- Links to other hosts open in a page of their own. -/
def openOutside (address : Text) : Text :=
  "<a href=\"" ++ address ++ "\" target=\"_blank\" rel=\"noopener noreferrer\""

/-- The rendered page with the blocks put back and the markers taken out. A token of no block is an
error. -/
def finish (blocks : List Marked) (html : Text) : Except Fault Text :=
  (Piece.writeAll? (fun digits => (resolve blocks digits).map Marked.html)
    (stashedPattern.pieces html)).map fun html =>
      hostPattern.replace openOutside (inlinePattern.replace id (fencedPattern.replace id html))

/-- The preview of a page in the Markdown dialect of the platform. -/
def render (renderer : Renderer) (page : Text) : Except Fault Text :=
  let (sent, blocks) := setAsideMarked page
  finish blocks (renderer sent)

/-- The page that is shown for a file which is no page itself: its content as code. -/
def asCode (content : Text) : Text :=
  "````\n" ++ content ++ "\n````"

/-- The page that a file is previewed as. -/
def pageOf (path t : Text) (auto : Bool) : Except Fault Text :=
  if treatedAsMarkdown path then convertFile path t auto else .ok (asCode t)

/-- The preview of a file. -/
def ofFile (renderer : Renderer) (path t : Text) (auto : Bool) : Except Fault Text :=
  (pageOf path t auto).bind (render renderer)

/-- The preview of a record's content; in a script or data file it is shown whatever it is. -/
def ofContent (renderer : Renderer) (path : Text) (content : Json) (auto : Bool) :
    Except Fault Text :=
  if treatedAsMarkdown path then
    match convertContent path content auto with
    | .ok (.str page) => render renderer page
    | .ok _ => .error .notText
    | .error fault => .error fault
  else render renderer (asCode content.display)

end LabEditor.Preview
