import LabEditor.Text.Basic
import LabEditor.Text.Blank
import LabEditor.Text.Digit

/-! What the beginning of a line says about the part of a page that it belongs to. -/
namespace LabEditor.Markdown.Line

/-- What follows an indent of at most three spaces. -/
def outdented? (line : Text) : Option Text :=
  let indent := (line.takeWhile (· == (' ' : CodePoint))).length
  if 3 < indent then none else some (line.drop indent)

/-- Four spaces are one step of indentation. -/
def isIndented (t : Text) : Bool :=
  Text.startsWith t "    "

/-- A line without `steps` steps of indentation; a line that has fewer is left alone. -/
def outdent (steps : Nat) (line : Text) : Text :=
  if (line.takeWhile (· == (' ' : CodePoint))).length < 4 * steps then line else line.drop (4 * steps)

/-- The text of a heading without the number signs that close it. A backslash and the character
behind it belong together, so that an escaped sign closes nothing; a backslash at the end cannot
stand in a heading. -/
def headingText? : Text → Option Text
  | [] => some []
  | ['\\'] => none
  | '\\' :: c :: t => (headingText? t).map fun text => '\\' :: c :: text
  | c :: t =>
    (headingText? t).map fun text => if text.isEmpty && c = '#' then [] else c :: text

/-- A heading: up to six number signs and a text. -/
def heading? (line : Text) : Option (Nat × Text) :=
  match line with
  | '#' :: _ =>
    let level := min 6 (line.takeWhile (· == ('#' : CodePoint))).length
    (headingText? (line.drop level)).map fun text => (level, Text.trim text)
  | _ => none

/-- The level of the heading that a line of equals signs or hyphens makes of the line above. -/
def underline? (line : Text) : Option Nat :=
  let marks := line.takeWhile fun (c : CodePoint) => c == '=' || c == '-'
  match marks with
  | [] => none
  | first :: _ =>
    if (line.drop marks.length).all (· == ' ') then some (if first = '=' then 1 else 2) else none

/-- Whether a sign occurs at least `more` times, and but for it only in gaps of two spaces at
most. -/
def repeats (sign : CodePoint) : (more gap : Nat) → Text → Bool
  | more, _, [] => more == 0
  | more, gap, c :: t =>
    if c = sign then repeats sign (more - 1) 0 t
    else c == ' ' && (if gap < 2 then repeats sign more (gap + 1) t
      else more == 0 && t.all (· == ' '))

/-- Three or more hyphens, low lines or stars rule a page off. -/
def isRule (line : Text) : Bool :=
  match outdented? line with
  | some (c :: t) => (c == '-' || c == '_' || c == '*') && repeats c 2 0 t
  | _ => false

/-- The marker of a list item: the digits in front of a period, or a sign. -/
def marker? (ordered : Bool) (t : Text) : Option (Text × Text) :=
  if ordered then
    let digits := t.takeWhile Text.isDigit
    match t.drop digits.length with
    | '.' :: rest => if digits.isEmpty then none else some (digits, rest)
    | _ => none
  else
    match t with
    | c :: rest => if c = '*' || c = '+' || c = '-' then some ([], rest) else none
    | [] => none

/-- A list item: its number, if it has one, and the text behind its marker. -/
def item? (ordered : Bool) (line : Text) : Option (Text × Text) := do
  match ← marker? ordered (← outdented? line) with
  | (number, ' ' :: rest) => some (number, rest.dropWhile (· == ' '))
  | _ => none

/-- An item of either kind that is indented by one step. -/
def isInnerItem (line : Text) : Bool :=
  isIndented line && ((item? true (line.drop 4)).isSome || (item? false (line.drop 4)).isSome)

/-- A quoted line without its mark. -/
def quoted? (line : Text) : Option Text := do
  match ← outdented? line with
  | '>' :: ' ' :: rest => some rest
  | '>' :: rest => some rest
  | _ => none

/-- A line inside a quote; one without a mark still belongs to it. -/
def unquoted (line : Text) : Text :=
  if Text.trim line == (['>'] : Text) then [] else (quoted? line).getD line

end LabEditor.Markdown.Line
