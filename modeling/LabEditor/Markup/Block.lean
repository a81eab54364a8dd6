import LabEditor.Markup.Link
import LabEditor.Markup.Tag

/-! The blocks that the lines of a lab page make up, and their form in the Markdown dialect of the
platform. -/
namespace LabEditor.Markup

inductive Block where
  | heading (level : Nat) (text : Text)
  /-- Commands to run; an interrupting block stops what is running first. -/
  | exec (lines : List Text) (interrupt : Bool)
  | copy (lines : List Text)
  | image (alt title path : Text)
  | bullet (text : Text)
  | blank
deriving DecidableEq, Repr

namespace Block

/-- The content of an image tag: alternative text, title and path, set apart by bars. Without a
third part the whole content is the path. -/
def ofImage (content : Text) : Block :=
  let parts := (Text.cut '|' content).map Text.trim
  let alt := parts[0]?.getD []
  let path := parts[2]?.getD []
  .image (if alt.isEmpty then "image" else alt) (parts[1]?.getD [])
    (if path.isEmpty then content else path)

/-- A line outside of code blocks and without a tag. -/
def ofPlainLine (line : Text) : Block :=
  if Text.isBlankText line then .blank else .bullet (Text.trim line)

/-- A line that a code tag before it takes in. -/
def isBodyLine (line : Text) : Bool :=
  !Text.isBlankText line && (tagLine? line).isNone

/-- A code tag with nothing to hold makes no block. -/
def ofCode (lines : List Text) (block : List Text → Block) : List Block :=
  if lines.isEmpty then [] else [block lines]

/-- The blocks of a tag line, given the body lines that follow it. -/
def ofTagLine (line : TagLine) (body : List Text) : List Block :=
  let lines := if line.content.isEmpty then body else line.content :: body
  match line.role with
  | .heading level => [.heading level line.content]
  | .image => [ofImage line.content]
  | .copy => ofCode lines .copy
  | .exec interrupt => ofCode lines fun lines => .exec lines interrupt

/-- The blocks of the lines after the first `skip`, which are the body of a code tag. -/
def ofLinesFrom : (skip : Nat) → List Text → List Block
  | _, [] => []
  | skip + 1, _ :: lines => ofLinesFrom skip lines
  | 0, line :: lines =>
    match tagLine? line with
    | none => ofPlainLine line :: ofLinesFrom 0 lines
    | some tag =>
      let body := if tag.role.opensCode then lines.takeWhile isBodyLine else []
      ofTagLine tag body ++ ofLinesFrom body.length lines

def ofLines (lines : List Text) : List Block :=
  ofLinesFrom 0 lines

/-- Four backticks, so that a body may hold ordinary code fences. -/
def fence : Text := "````"

/-- The folder of images on the platform. -/
def assetFolder : Text := "/assets/"

/-- What follows the last slash. -/
def fileName (path : Text) : Text :=
  (Text.splitWhen (· == '/') path.reverse).1.reverse

def fenced (info : Text) (lines : List Text) (marker : Text) : Text :=
  fence ++ info ++ ('\n' : CodePoint) :: Text.glue '\n' lines ++ ('\n' : CodePoint) :: fence ++
    "\x7b\x7b" ++ marker ++ "\x7d\x7d\n\n"

def write : Block → Text
  | .heading level text =>
    List.replicate level ('#' : CodePoint) ++ (' ' : CodePoint) :: linkAddresses text ++
      (['\n', '\n'] : Text)
  | .exec lines interrupt => fenced (if interrupt then "bash interrupt" else "bash") lines "exec"
  | .copy lines => fenced "text" lines "copy"
  | .image alt title path =>
    let shown : Text := if title.isEmpty then [] else " \"" ++ title ++ (['"'] : Text)
    ('!' : CodePoint) :: '[' :: alt ++ "](" ++ assetFolder ++ fileName path ++ shown ++ ")\n\n"
  | .bullet text => ('*' : CodePoint) :: ' ' :: linkAddresses text ++ (['\n'] : Text)
  | .blank => ['\n']

/-- The page of a list of blocks. -/
def writeAll (blocks : List Block) : Text :=
  Text.trim (blocks.flatMap write)

end Block

/-- The lines of a page; a carriage return before a line feed belongs to the line end. -/
def lines (page : Text) : List Text :=
  Text.cut '\n' (Text.joinLineEnds page)

/-- A lab page in the Markdown dialect of the platform. -/
def toMarkdown (page : Text) : Text :=
  Block.writeAll (Block.ofLines (lines page))

end LabEditor.Markup
