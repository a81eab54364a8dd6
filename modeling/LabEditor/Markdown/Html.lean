import LabEditor.Markdown.Block
import LabEditor.Markdown.Inline
import LabEditor.Text.Decomposition

/-! Markdown pages as HTML. Every block stands on lines of its own, and headings carry an id made
from their text. -/
namespace LabEditor.Markdown
open Node

def htmlAttribute (name value : Text) : Text :=
  (' ' : CodePoint) :: name ++ ('=' : CodePoint) :: '"' :: escapeAttribute value ++ (['"'] : Text)

def titleAttribute : Option Text → Text
  | some title => htmlAttribute "title" title
  | none => []

def element (name attributes content : Text) : Text :=
  ('<' : CodePoint) :: name ++ attributes ++ ('>' : CodePoint) :: content ++
    ('<' : CodePoint) :: '/' :: name ++ (['>'] : Text)

/-- HTML without its tags. -/
def dropTags : (inTag : Bool) → Text → Text
  | _, [] => []
  | true, c :: t => dropTags (c != '>') t
  | false, c :: t => if c = '<' && t.contains '>' then dropTags true t else c :: dropTags false t

/-- The words of a heading as an id: ASCII letters, digits and low lines in lower case, with hyphens
between them. -/
def slug (html : Text) : Text :=
  let words := Text.glue ' ' (Text.words (dropTags false html))
  let name := Text.toAscii ((Text.unescapeHtml? words).getD words)
  let kept := name.filter fun (c : CodePoint) => c.isAlphanum || c == '_' || c == '-' || Text.isBlank c
  let spaced : Text := (Text.trim kept).map fun (c : CodePoint) => if c = '-' then ' ' else c.toLower
  Text.squeezeBlanks '-' spaced

/-- A number at the end of an id, behind a low line. -/
def splitCount? (id : Text) : Option (Text × Nat) :=
  match Text.splitWhen (· == '_') id.reverse with
  | (count, _ :: stem) =>
    if !count.isEmpty && count.all CodePoint.isDigit then
      some (stem.reverse, Text.numberOf count.reverse)
    else none
  | _ => none

/-- The next id to try if one is taken. -/
def nextId (id : Text) : Text :=
  match splitCount? id with
  | some (stem, n) => stem ++ ('_' : CodePoint) :: Text.digits (n + 1)
  | none => id ++ (['_', '1'] : Text)

/-- The first id that is free and not empty; each try meets another of the ids in use. -/
def freeId (used : List Text) : (tries : Nat) → Text → Text
  | 0, id => id
  | tries + 1, id => if id.isEmpty || used.contains id then freeId used tries (nextId id) else id

def alignAttribute : Align → Text
  | .none => []
  | .left => htmlAttribute "style" "text-align: left;"
  | .center => htmlAttribute "style" "text-align: center;"
  | .right => htmlAttribute "style" "text-align: right;"

/-- A part with the HTML of its content; a heading has an id. -/
def partHtml (id : Text) (kind : Kind) (content : Text) : Text :=
  match kind with
  | .page => content
  | .heading level => element ('h' :: Text.digits level) (htmlAttribute "id" id) content
  | .paragraph => element "p" [] content
  | .list true start =>
    element "ol" (if start.isEmpty then [] else htmlAttribute "start" start) content
  | .list false _ => element "ul" [] content
  | .item => element "li" [] content
  | .quote => element "blockquote" [] content
  | .rule => "<hr />"
  | .indentedCode body =>
    element "pre" [] (element "code" [] (escapeCode (Text.trimEnd body ++ (['\n'] : Text))))
  | .fencedCode language body =>
    element "pre" [] (element "code"
      (if language.isEmpty then [] else htmlAttribute "class" ("language-" ++ language))
      (escapeFencedCode body))
  | .table => element "table" [] content
  | .tableHead => element "thead" [] content
  | .tableBody => element "tbody" [] content
  | .row => element "tr" [] content
  | .cell inHead align => element (if inHead then "th" else "td") (alignAttribute align) content
  | .codeSpan text => element "code" [] (escapeCode text)
  | .link address title? =>
    element "a" (htmlAttribute "href" address ++ titleAttribute title?) content
  | .image source alt title? =>
    "<img" ++ htmlAttribute "alt" alt ++ htmlAttribute "src" source ++ titleAttribute title? ++
      " />"
  | .emphasis => element "em" [] content
  | .strong => element "strong" [] content
  | .lineBreak => "<br />"

/-- A running text without parts. References to characters are kept as a whole. -/
def textHtml (read : Text) : List Node → Text
  | [] => escapeText read.reverse
  | .char c :: xs | .literal c :: xs => textHtml (c :: read) xs
  | .markup text :: xs => escapeText read.reverse ++ text ++ textHtml [] xs
  | .part _ _ :: xs => textHtml read xs

/-- Running text in its place. Blank text is a line end behind a block, and in front of one that
comes first; a line break ends its line. -/
def runningHtml (before? after? : Option Kind) (text : List Node) : Text :=
  let isBlank := text.all Node.isBlank
  match before?, after? with
  | none, some after => if isBlank && after.isBlock then ['\n'] else textHtml [] text
  | none, none => textHtml [] text
  | some .lineBreak, _ => if isBlank then ['\n'] else '\n' :: textHtml [] text
  | some before, _ => if isBlank && before.isBlock then ['\n'] else textHtml [] text

mutual

/-- A part, given the ids in use and with those that it uses. -/
def nodeHtml (used : List Text) : Node → Text × List Text
  | .part kind content =>
    let (html, used) := contentHtml used none [] content
    match kind with
    | .heading _ =>
      let id := freeId used (used.length + 2) (slug html)
      (partHtml id kind html, id :: used)
    | _ => (partHtml [] kind html, used)
  | x => (textHtml [] [x], used)

/-- A content behind a part or none, and behind running text that is given with its last node
first. -/
def contentHtml (used : List Text) (before? : Option Kind) (text : List Node) :
    List Node → Text × List Text
  | [] => (runningHtml before? none text.reverse, used)
  | .part kind content :: rest =>
    let (html, used) := nodeHtml used (.part kind content)
    let (more, used) := contentHtml used (some kind) [] rest
    (runningHtml before? (some kind) text.reverse ++ html ++ more, used)
  | x :: rest => contentHtml used before? (x :: text) rest

end

/-- The content of a page with all of its running texts read. -/
def nodesOf (page : Text) : List Node :=
  let draft := Block.ofPage page
  Inline.readParts draft.definitions (8 * page.length + 64) draft.content

/-- The HTML of a page. -/
def render (page : Text) : Text :=
  if Text.isBlankText page then [] else Text.trim (contentHtml [] none [] (nodesOf page)).1

end LabEditor.Markdown
