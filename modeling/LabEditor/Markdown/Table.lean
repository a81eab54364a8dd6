import LabEditor.Markdown.Node

/-! Tables: rows of cells between bars, under a header and a row of marks. -/
namespace LabEditor.Markdown.Table

def trimSpaces (t : Text) : Text :=
  Text.dropEndWhile (· == ' ') (t.dropWhile (· == ' '))

/-- A sign of a row that matters for its cells. -/
inductive Sign where
  | bar
  | ticks (escaped : Bool) (count : Nat)
deriving DecidableEq, Repr

/-- The signs of a row with the places where they begin. A backslash hides a backslash or a bar
behind it. The first `skip` characters belong to a sign already read. -/
def signs : (place skip : Nat) → Text → List (Nat × Sign)
  | _, _, [] => []
  | place, skip + 1, _ :: t => signs (place + 1) skip t
  | place, 0, c :: t =>
    let ticksOf (t : Text) : Nat := (t.takeWhile fun (c : CodePoint) => c == '\x60').length
    if c = '\\' then
      if t.head? == some ('\\' : CodePoint) || t.head? == some ('|' : CodePoint) then signs (place + 1) 1 t
      else if ticksOf t = 0 then signs (place + 1) 0 t
      else (place, .ticks true (ticksOf t)) :: signs (place + 1) (ticksOf t) t
    else if c = '\x60' then
      (place, .ticks false (ticksOf t + 1)) :: signs (place + 1) (ticksOf t) t
    else if c = '|' then (place, .bar) :: signs (place + 1) 0 t
    else signs (place + 1) 0 t

/-- The signs behind the next run of `count` backticks. -/
def closeTicks? (count : Nat) : List (Nat × Sign) → Option (List (Nat × Sign))
  | [] => none
  | (_, .ticks _ found) :: rest => if found = count then some rest else closeTicks? count rest
  | (_, .bar) :: rest => closeTicks? count rest

/-- The places of the bars outside code. A run of backticks opens code up to the next run of as
many; an escaped run opens with one backtick fewer, but closes with all. -/
def bars : (skip : Nat) → List (Nat × Sign) → List Nat
  | _, [] => []
  | skip + 1, _ :: rest => bars skip rest
  | 0, (place, .bar) :: rest => place :: bars 0 rest
  | 0, (_, .ticks escaped count) :: rest =>
    let size := if escaped then count - 1 else count
    match if size = 0 then none else closeTicks? size rest with
    | some behind => bars (rest.length - behind.length) rest
    | none => bars 0 rest

/-- The texts between the given places of a text that begins at `place`. -/
def cutAt : (place : Nat) → (places : List Nat) → Text → List Text
  | _, [], t => [t]
  | place, next :: places, t =>
    t.take (next - place) :: cutAt (next + 1) places (t.drop (next - place + 1))

def splitCells (row : Text) : List Text :=
  cutAt 0 (bars 0 (signs 0 0 row)) row

/-- A row that ends in a bar, without the bar and the escaped backslashes in front of it. -/
def beforeEndBar? (row : Text) : Option Text :=
  match row.reverse with
  | '|' :: t =>
    let backslashes := t.takeWhile (· == ('\\' : CodePoint))
    if backslashes.length % 2 = 0 then some (t.drop backslashes.length).reverse else none
  | _ => none

def startsWithBar (row : Text) : Bool :=
  row.head? == some ('|' : CodePoint)

def hasBorder (row : Text) : Bool :=
  startsWithBar row || (beforeEndBar? row).isSome

/-- The cells of a row, in a table whose header has a bar at one of its ends or none. -/
def cellsOf (bordered : Bool) (row : Text) : List Text :=
  if bordered then
    let row := if startsWithBar row then row.drop 1 else row
    splitCells ((beforeEndBar? row).getD row)
  else splitCells row

def alignOf (marks : Text) : Align :=
  let marks := trimSpaces marks
  match marks.head? == some (':' : CodePoint), marks.getLast? == some (':' : CodePoint) with
  | true, true => .center
  | true, false => .left
  | false, true => .right
  | false, false => .none

/-- A row has one cell for each column, whatever is written. -/
def rowOf (inHead : Bool) (aligns : List Align) (cells : List Text) : Node :=
  let texts := cells.map trimSpaces ++ List.replicate (aligns.length - cells.length) []
  .part .row ((aligns.zip texts).map fun (align, t) => .part (.cell inHead align) (Node.ofText t))

/-- A row under a table that ends with its marks: the cells are there but have no alignment. -/
def emptyRow (columns : Nat) : Node :=
  .part .row (List.replicate columns (.part (.cell false .none) []))

/-- The table that some lines make up. One column is enough if each row has a bar at an end. -/
def ofLines? (lines : List Text) : Option Node :=
  match lines with
  | header :: marks :: rows =>
    let header := trimSpaces header
    let bordered := hasBorder header
    let cells := cellsOf bordered header
    let aligns := cellsOf bordered (trimSpaces marks)
    let isWide := 1 < cells.length ||
      (bordered && (marks :: rows).all fun row => hasBorder (trimSpaces row))
    if isWide && aligns.length = cells.length
        && aligns.all fun cell => cell.all fun c => ("|:- " : Text).contains c then
      let aligns := aligns.map alignOf
      let body := if rows.isEmpty then [emptyRow aligns.length]
        else rows.map fun row => rowOf false aligns (cellsOf bordered (trimSpaces row))
      some (.part .table [.part .tableHead [rowOf true aligns cells], .part .tableBody body])
    else none
  | _ => none

end LabEditor.Markdown.Table
