import LabEditor.Detection.Vault
import LabEditor.Preview.Styled

/-! Platform fences: fenced code whose closing line carries a marker. They are set aside before a
page is rendered, so that their code comes back character by character. -/
namespace LabEditor.Preview

/-- A fenced block with a marker. -/
structure Marked where
  kind : Kind
  code : Text
  interrupt : Bool
deriving DecidableEq, Repr

def Marked.html (block : Marked) : Text :=
  styledBlock block.kind (Text.escapeHtml block.code) block.interrupt

/-- The kind named by a closing line, behind its fence. -/
def closingKind? (t : Text) : Option Kind := do
  let (kind, t) ← Kind.read? (← Text.after? "\x7b\x7b" t)
  let t ← Text.after? "\x7d\x7d" t
  if t.all fun c => c == ' ' || c == '\t' then some kind else none

/-- A block between a fence of `n` characters and the first line that begins with it; at least one
line lies between. -/
def markedBlock? (c : CodePoint) (n : Nat) (line : Text) (lines : List Text) :
    Option (Marked × List Text) :=
  let fence := List.replicate n c
  let info := line.drop n
  if info.contains '\x60' then none
  else
    match lines with
    | [] => none
    | first :: more =>
      let body := first :: more.takeWhile fun l => !Text.startsWith l fence
      match lines.drop body.length with
      | [] => none
      | last :: rest =>
        ((Text.after? fence last).bind closingKind?).map fun kind =>
          (⟨kind, Text.glue '\n' body, ((Text.words info).drop 1).contains "interrupt"⟩, rest)

/-- The block for the longest fence of at most `n` characters that makes one. -/
def longestMarked? (c : CodePoint) (line : Text) (lines : List Text) :
    (n : Nat) → Option (Marked × List Text)
  | 0 => none
  | n + 1 =>
    if n + 1 < 3 then none
    else
      match markedBlock? c (n + 1) line lines with
      | some found => some found
      | none => longestMarked? c line lines n

def markedPattern : Pattern Text Marked := fun _ lines =>
  match lines with
  | [] => none
  | line :: lines =>
    match Detection.fenceRun? line with
    | none => none
    | some (c, n) => longestMarked? c line lines n

def blockMarks : TokenMarks := ⟨'\ue010', '\ue011'⟩

/-- The lines that stand for a block while the page is rendered: a paragraph of its own. -/
def blockLines (n : Nat) : List Text :=
  [[], [], blockMarks.token n, [], []]

/-- The page to render, and the blocks set aside from it. -/
def setAsideMarked (page : Text) : Text × List Marked :=
  let (lines, blocks) := Piece.setAside blockLines 0 (markedPattern.pieces (Text.cut '\n' page))
  (Text.glue '\n' lines, blocks)

end LabEditor.Preview
