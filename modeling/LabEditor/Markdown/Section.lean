import LabEditor.Scan
import LabEditor.Text.Blank
import LabEditor.Text.Entity
import LabEditor.Text.Word

/-! A page is cut into fenced code and what stands between: texts that blank lines divide. -/
namespace LabEditor.Markdown

/-- A stretch of a page. -/
inductive Section where
  | plain (blocks : List Text)
  | fencedCode (language body : Text)
deriving DecidableEq, Repr, Inhabited

namespace Section

/-- Tabs reach to the next column that is a multiple of four. -/
def expandTabs : (column : Nat) → Text → Text
  | _, [] => []
  | column, c :: t =>
    if c = '\t' then
      let width := 4 - column % 4
      List.replicate width (' ' : CodePoint) ++ expandTabs (column + width) t
    else c :: expandTabs (column + 1) t

/-- Every kind of line end becomes a line feed. -/
def unifyLineEnds (t : Text) : Text :=
  (Text.joinLineEnds t).map fun (c : CodePoint) => if c = '\r' then '\n' else c

/-- The lines of a page. Every line of spaces but the first is empty. -/
def linesOf (page : Text) : List Text :=
  let t := page.filter fun (c : CodePoint) => c != '\x02' && c != '\x03'
  match (Text.cut '\n' (unifyLineEnds t)).map (expandTabs 0) with
  | [] => []
  | first :: rest =>
    first :: rest.map fun line => if line.all (· == ' ') then [] else line

/-- A fence with a language word or none, the lines of code, and the next line of the same fence. -/
def fencePattern : Pattern Text (Text × Text) := fun _ lines =>
  match lines with
  | [] => none
  | line :: lines =>
    match line with
    | [] => none
    | c :: _ =>
      let fence := line.takeWhile (· == c)
      let info := Text.dropEndWhile (· == ' ') ((line.drop fence.length).dropWhile (· == ' '))
      let language := match info with
        | '.' :: word => word
        | word => word
      let isLanguage (c : CodePoint) : Bool := Text.isWordChar c || ("#.+-" : Text).contains c
      if (c = '\x60' || c = '~') && 3 ≤ fence.length && info.all isLanguage then
        let closes (l : Text) : Bool := Text.dropEndWhile (· == ' ') l == fence
        let body := lines.takeWhile fun l => !closes l
        match lines.drop body.length with
        | [] => none
        | _ :: rest => some ((language, body.flatMap (· ++ (['\n'] : Text))), rest)
      else none

/-- The texts between pairs of line feeds. Of an odd number the last one begins the next text. -/
def blocksOf : Text → List Text
  | '\n' :: '\n' :: t => [] :: blocksOf t
  | c :: t =>
    match blocksOf t with
    | [] => [[c]]
    | block :: blocks => (c :: block) :: blocks
  | [] => [[]]

/-- How many characters behind an ampersand make up a numeric reference without its semicolon. -/
def unclosedLength (t : Text) : Nat :=
  let isHexadecimal (c : CodePoint) : Bool := (Text.hexValue? c).isSome
  let (start, number) : Nat × Text := match t with
    | '#' :: x :: u =>
      if x = 'x' || x = 'X' then (2, u.takeWhile isHexadecimal)
      else (1, (x :: u).takeWhile CodePoint.isDigit)
    | _ => (0, [])
  let length := start + number.length
  match number, t.drop length with
  | _ :: _, c :: _ => if c = ';' || isHexadecimal c then 0 else length
  | _, _ => 0

/-- Gives numeric references their semicolon. The next one is due behind `left` characters, if
`left` is not zero. -/
def closeReferences : (left : Nat) → Text → Text
  | _, [] => []
  | 0, c :: t => c :: closeReferences (if c = '&' then unclosedLength t else 0) t
  | 1, c :: t => c :: ';' :: closeReferences 0 t
  | left + 2, c :: t => c :: closeReferences (left + 1) t

/-- Lines as texts, with an end to the last one. -/
def ofLines (lines : List Text) : Section :=
  .plain (blocksOf (closeReferences 0 (Text.glue '\n' (lines ++ [[], []]))))

/-- The lines up to the first fenced code. -/
def plainLines : List (Piece Text (Text × Text)) → List Text
  | .plain line :: pieces => line :: plainLines pieces
  | _ => []

/-- The code fences, each with the lines that follow it. -/
def fences : List (Piece Text (Text × Text)) → List Section
  | [] => []
  | .plain _ :: pieces => fences pieces
  | .hit (language, body) :: pieces =>
    .fencedCode language body :: ofLines (plainLines pieces) :: fences pieces

/-- The sections of a page in order. -/
def ofPage (page : Text) : List Section :=
  let pieces := fencePattern.pieces (linesOf page)
  ofLines (plainLines pieces) :: fences pieces

end Section
end LabEditor.Markdown
