import LabEditor.Text.Basic
import LabEditor.Text.Blank
import LabEditor.Text.Case

/-! Definitions give an address a name, by which links in running text can call it. -/
namespace LabEditor.Markdown

structure Definition where
  name : Text
  address : Text
  title? : Option Text
deriving DecidableEq, Repr, Inhabited

namespace Definition

/-- The last definition of a name is the one that counts. -/
def find? (definitions : List Definition) (name : Text) : Option Definition :=
  definitions.reverse.find? fun d => d.name == name

def afterSpaces (t : Text) : Text :=
  t.dropWhile (· == ' ')

/-- The rest of a line that holds nothing but a title in quotes or parentheses. -/
def titleOnly? (t : Text) : Option (Text × Text) :=
  let (line, rest) := Text.splitWhen (· == '\n') t
  let line := Text.dropEndWhile (· == ' ') line
  match line, line.getLast? with
  | first :: _ :: _, some last =>
    if ((first = '"' || first = '\'') && last = first) || (first = '(' && last = ')') then
      some ((line.drop 1).dropLast, rest)
    else none
  | _, _ => none

/-- A title, if there is one, and then the end of a line. -/
def titleAndEnd? (t : Text) : Option (Option Text × Text) :=
  match titleOnly? t with
  | some (title, rest) => some (if title.isEmpty then none else some title, rest)
  | none =>
    match t with
    | [] | '\n' :: _ => some (none, t)
    | _ => none

/-- What follows an address: a title may stand on a line of its own. -/
def behindAddress? (t : Text) : Option (Option Text × Text) :=
  let t := afterSpaces t
  match t with
  | '\n' :: u => titleAndEnd? (afterSpaces u) <|> titleAndEnd? t
  | _ => titleAndEnd? t

/-- The longest address from which a title can follow. Fewer than all of the characters are taken
only if the title begins right behind them. -/
def addressAndEnd? (word behind : Text) : (kept : Nat) → Option (Text × Option Text × Text)
  | 0 => none
  | kept + 1 =>
    let found := if kept + 1 = word.length then behindAddress? behind
      else (titleOnly? (word.drop (kept + 1) ++ behind)).map fun (title, rest) =>
        (if title.isEmpty then none else some title, rest)
    match found with
    | some (title?, rest) => some (word.take (kept + 1), title?, rest)
    | none => addressAndEnd? word behind kept

/-- The definition that a line begins: a name in brackets, a colon, an address and maybe a title. -/
def ofFront? (t : Text) : Option (Definition × Text) :=
  let indent := (t.takeWhile (· == (' ' : CodePoint))).length
  match if 3 < indent then [] else t.drop indent with
  | '[' :: t =>
    let (name, t) := Text.splitWhen (fun c => c == '[' || c == ']') t
    match t with
    | ']' :: ':' :: t =>
      let t := afterSpaces t
      let t := match t with
        | '\n' :: t => afterSpaces t
        | _ => t
      let word := t.takeWhile fun c => !Text.isBlank c
      (addressAndEnd? word (t.drop word.length) word.length).map fun (address, title?, rest) =>
        (⟨Text.lower (Text.trim name),
          Text.dropEndWhile (· == '>') (address.dropWhile (· == '<')), title?⟩, rest)
    | _ => none
  | _ => none

/-- The first definition in a text, with what stands in front of it and behind it. -/
def inText? : (lineBegins : Bool) → Text → Option (Text × Definition × Text)
  | _, [] => none
  | lineBegins, c :: t =>
    match if lineBegins then ofFront? (c :: t) else none with
    | some (found, rest) => some ([], found, rest)
    | none => (inText? (c == '\n') t).map fun (front, found, rest) => (c :: front, found, rest)

end Definition
end LabEditor.Markdown
