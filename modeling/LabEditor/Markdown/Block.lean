import LabEditor.Markdown.Definition
import LabEditor.Markdown.Line
import LabEditor.Markdown.Section
import LabEditor.Markdown.Table

/-! The blocks of a page: headings, paragraphs, lists, quotes, code, rules and tables. A block is
read into the part that it belongs to, which is not always the one that is open: an indented block
belongs to a list item further up. -/
namespace LabEditor.Markdown.Block
open Node

/-- How the blocks of a part are read. -/
inductive Mode where
  | plain
  /-- In an item without blank lines: running text needs no paragraph. -/
  | tight
  /-- In an item that a blank line divides from the one before. -/
  | loose
  /-- In a block whose indent is taken off already. -/
  | outdented
  | quoted
deriving DecidableEq, Repr, Inhabited

/-- What is read so far of a part, and of the definitions of the page. -/
structure Draft where
  definitions : List Definition
  content : List Node
deriving Inhabited, Repr

namespace Draft

def append (draft : Draft) (more : List Node) : Draft :=
  { draft with content := draft.content ++ more }

/-- Reads into a new part behind all others. -/
def addPart (kind : Kind) (read : Draft → Draft) (draft : Draft) : Draft :=
  let inner := read { draft with content := [] }
  { inner with content := draft.content ++ [part kind inner.content] }

/-- Reads into the last part again; without one, nothing is read. -/
def reopenLast (read : Kind → Draft → Draft) (draft : Draft) : Draft :=
  match lastPart? draft.content with
  | some last =>
    let inner := read last.kind { draft with content := last.content }
    { inner with content := { last with content := inner.content }.join }
  | none => draft

/-- Reads into the last part of the last part, and so on for `depth` steps. -/
def reopenAt (read : Kind → Draft → Draft) : (depth : Nat) → Kind → Draft → Draft
  | 0, kind, draft => read kind draft
  | depth + 1, _, draft => reopenLast (reopenAt read depth) draft

end Draft

/-- Empty lines behind indented code may belong to it. -/
def padCode (filler : Text) (content : List Node) : List Node :=
  match lastPart? content with
  | some last =>
    match last.kind with
    | .indentedCode body => { last with kind := .indentedCode (body ++ filler) }.join
    | _ => content
  | none => content

/-- Adds indented lines: to the code at the end, or as new code. -/
def addCode (lines : List Text) (content : List Node) : List Node :=
  let code := Text.trimEnd (Text.glue '\n' lines) ++ (['\n'] : Text)
  match lastPart? content with
  | some last =>
    match last.kind with
    | .indentedCode body => { last with kind := .indentedCode (body ++ ('\n' : CodePoint) :: code) }.join
    | _ => content ++ [part (.indentedCode code) []]
  | none => content ++ [part (.indentedCode code) []]

/-- Text in front of the parts of an item becomes a paragraph. -/
def leadAsParagraph (content : List Node) : List Node :=
  if (lead content).isEmpty then content
  else part .paragraph (lead content) :: fromFirstPart content

/-- Text behind the last part of an item becomes a paragraph too. -/
def endAsParagraph (content : List Node) : List Node :=
  match lastPart? content with
  | some last =>
    if last.behind.isEmpty then content
    else { last with behind := [] }.join ++ [part .paragraph (last.behind.dropWhile isBlank)]
  | none => content

/-- The last item of a list that goes on behind a blank line holds paragraphs. -/
def loosenLast (list : List Node) : List Node :=
  match lastPart? list with
  | some last => { last with content := endAsParagraph (leadAsParagraph last.content) }.join
  | none => list

/-- Adds running text: as a paragraph, or to the text of a tight item. -/
def addText (mode : Mode) (block : Text) (content : List Node) : List Node :=
  if Text.isBlankText block then content
  else if mode != .tight then content ++ [part .paragraph (ofText (Text.trimStart block))]
  else if (lastPart? content).isSome then content ++ ofText ('\n' :: block)
  else if content.isEmpty then ofText (Text.trimStart block)
  else content ++ ofText ('\n' :: Text.trimStart block)

/-- A text added to the last of some texts, on a line of its own. -/
def joinToLast (line : Text) : List Text → List Text
  | [] => [line]
  | [t] => [t ++ ('\n' : CodePoint) :: line]
  | t :: ts => t :: joinToLast line ts

/-- The items of a list. Lines without a marker go on with the item before, and so do indented items
that follow an indented one; else an indented item is kept apart with its indent. -/
def itemsOf (ordered : Bool) (lines : List Text) : List Text :=
  lines.foldl (fun items line =>
    match Line.item? ordered line with
    | some (_, text) => items ++ [text]
    | none =>
      if Line.isInnerItem line && !items.getLast?.any Line.isIndented then items ++ [line]
      else joinToLast line items) []

/-- A list begins with the number of its first item, which is left out if it is one. -/
def startOf (number : Text) : Text :=
  if number = (['1'] : Text) then [] else number

/-- How far down an indent reaches: one more list for each step, from `level` on. The result is the
level and the number of parts to go down. -/
def reach (indent : Nat) : (bound level depth : Nat) → List Node → Nat × Nat
  | 0, level, depth, _ => (level, depth)
  | bound + 1, level, depth, content =>
    if indent ≤ level then (level, depth)
    else
      match lastPart? content with
      | some last =>
        match last.kind with
        | .list _ _ => reach indent bound (level + 1) (depth + 1) last.content
        | .item => reach indent bound level (depth + 1) last.content
        | _ => (level, depth)
      | none => (level, depth)

/-- Whether an indented block may go on with a list item. -/
def mayContinue (mode : Mode) (kind : Kind) (content : List Node) : Bool :=
  mode != .outdented && (kind == .item || (lastKind? content).any Kind.isList)

/-- Reads an indented block into the item that its indent points to. -/
def readContinued (read : Mode → Kind → Draft → List Text → Draft) (mode : Mode) (kind : Kind)
    (draft : Draft) (block : Text) : Draft :=
  let indent := (block.takeWhile (· == (' ' : CodePoint))).length / 4
  let (level, depth) :=
    reach indent (2 * indent + 1) (if mode = .tight then 1 else 0) 0 draft.content
  let block := Text.glue '\n' ((Text.cut '\n' block).map (Line.outdent level))
  let readHere (kind : Kind) (draft : Draft) : Draft := read .outdented kind draft [block]
  if kind = .item then
    if (lastKind? draft.content).any Kind.isList then draft.reopenLast readHere
    else readHere kind draft
  else
    draft.reopenAt (fun kind draft =>
      if kind = .item then readHere kind draft
      else if lastKind? draft.content = some .item then
        draft.reopenLast fun kind draft =>
          read .outdented kind { draft with content := leadAsParagraph draft.content }
            (Section.blocksOf block)
      else draft.addPart .item (readHere .item)) depth kind

/-- Reads the items of a list into it. -/
def readItems (read : Mode → Kind → Draft → List Text → Draft) (items : List Text)
    (list : Draft) : Draft :=
  items.foldl (fun list item =>
    if Line.isIndented item then list.reopenLast fun kind draft => read .tight kind draft [item]
    else list.addPart .item fun draft => read .tight .item draft [item]) list

/-- Reads a list: on behind one of the same kind, into an open list, or as a new one. -/
def readList (read : Mode → Kind → Draft → List Text → Draft) (ordered : Bool) (number : Text)
    (kind : Kind) (draft : Draft) (block : Text) : Draft :=
  let items := itemsOf ordered (Text.cut '\n' block)
  let goesOn := match lastKind? draft.content with
    | some (.list ordered' _) => ordered' == ordered
    | _ => false
  if goesOn then
    draft.reopenLast fun _ list =>
      readItems read (items.drop 1)
        ({ list with content := loosenLast list.content }.addPart .item fun draft =>
          read .loose .item draft (items.take 1))
  else if kind.isList then readItems read items draft
  else
    draft.addPart (.list ordered (if ordered then startOf number else [])) (readItems read items)

/-- The front lines up to the first one for which `find?` gives a value, that value, and the lines
behind. -/
def splitAtLine? (find? : Text → Option α) : List Text → Option (List Text × α × List Text)
  | [] => none
  | line :: lines =>
    match find? line with
    | some found => some ([], found, lines)
    | none =>
      (splitAtLine? find? lines).map fun (front, found, rest) => (line :: front, found, rest)

/-- Reads blocks into a part of some kind. Every step takes characters or a block away, or turns to
outdented reading once, so that `fuel` in proportion to the page is enough. -/
def read : (fuel : Nat) → Mode → Kind → Draft → List Text → Draft
  | 0, _, _, draft, _ => draft
  | _ + 1, _, _, draft, [] => draft
  | fuel + 1, mode, kind, draft, block :: blocks =>
    let lines := Text.cut '\n' block
    let goOn (draft : Draft) (rest : Text) : Draft :=
      read fuel mode kind draft (if rest.isEmpty then blocks else rest :: blocks)
    let readFirst (front : List Text) : Draft :=
      let front := Text.dropEndWhile (· == '\n') (Text.glue '\n' front)
      if front.isEmpty then draft else read fuel mode kind draft [front]
    match block with
    | [] => goOn { draft with content := padCode ['\n', '\n'] draft.content } []
    | '\n' :: rest => goOn { draft with content := padCode ['\n'] draft.content } rest
    | _ =>
      if Line.isIndented block then
        if mayContinue mode kind draft.content then
          goOn (readContinued (read fuel) mode kind draft block) []
        else
          let isCode (line : Text) : Bool := Line.isIndented line || Text.isBlankText line
          let code := (lines.takeWhile isCode).map fun line =>
            if Line.isIndented line then line.drop 4 else []
          goOn { draft with content := addCode code draft.content }
            (Text.glue '\n' (lines.drop code.length))
      else if let some table := Table.ofLines? lines then goOn (draft.append [table]) []
      else if let some (front, (level, text), rest) := splitAtLine? Line.heading? lines then
        let rest := if mode = .loose then rest.map (Line.outdent 1) else rest
        goOn ((readFirst front).append [part (.heading level) (ofText text)])
          (Text.glue '\n' rest)
      else if let some level := lines[1]?.bind Line.underline? then
        goOn (draft.append [part (.heading level) (ofText (Text.trim (lines.headD [])))])
          (Text.glue '\n' (lines.drop 2))
      else if let some (front, _, rest) :=
          splitAtLine? (fun line => if Line.isRule line then some () else none) lines then
        goOn ((readFirst front).append [part .rule []])
          ((Text.glue '\n' rest).dropWhile (· == '\n'))
      else if let some (number, _) := Line.item? true (lines.headD []) then
        goOn (readList (read fuel) true number kind draft block) []
      else if (Line.item? false (lines.headD [])).isSome then
        goOn (readList (read fuel) false [] kind draft block) []
      else if let some (front, line, rest) :=
          splitAtLine? (fun line => (Line.quoted? line).map fun _ => line) lines then
        let quote := Text.glue '\n' ((line :: rest).map Line.unquoted)
        let inner := Section.blocksOf (if front.isEmpty then quote else '\n' :: quote)
        let draft := readFirst front
        let readQuote (draft : Draft) : Draft := read fuel .quoted .quote draft inner
        goOn (if lastKind? draft.content = some .quote
          then draft.reopenLast fun _ => readQuote
          else draft.addPart .quote readQuote) []
      else
        match Definition.inText? true block with
        | some (front, found, rest) =>
          let draft := { draft with definitions := draft.definitions ++ [found] }
          let kept := [Text.dropEndWhile (· == '\n') front, rest.dropWhile (· == '\n')]
          read fuel mode kind draft (kept.filter (fun t => !Text.isBlankText t) ++ blocks)
        | none => goOn { draft with content := addText mode block draft.content } []

/-- The content of a page and its definitions. -/
def ofPage (page : Text) : Draft :=
  (Section.ofPage page).foldl (fun draft stretch =>
    match stretch with
    | .plain blocks => read (4 * page.length + 16) .plain .page draft blocks
    | .fencedCode language body => draft.append [part (.fencedCode language body) []])
    ⟨[], []⟩

end LabEditor.Markdown.Block
