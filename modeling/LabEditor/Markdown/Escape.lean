import LabEditor.Text.Entity

/-! Signs of HTML in texts and attributes. A text may hold references to characters, which stay
references; code is taken literally. -/
namespace LabEditor.Markdown

/-- Whether a reference to a character follows an ampersand. -/
def startsWithReference (t : Text) : Bool :=
  match t with
  | '#' :: u =>
    let digits := u.dropWhile CodePoint.isDigit
    let hexadecimal : Text := match u with
      | x :: v => if x = 'x' || x = 'X' then v else []
      | [] => []
    (digits.length < u.length && digits.head? == some (';' : CodePoint)) ||
      (let rest := hexadecimal.dropWhile fun c => (Text.hexValue? c).isSome
       rest.length < hexadecimal.length && rest.head? == some (';' : CodePoint))
  | _ =>
    let rest := t.dropWhile CodePoint.isAlphanum
    rest.length < t.length && rest.head? == some (';' : CodePoint)

/-- A text as the content of an element. -/
def escapeText : Text → Text
  | [] => []
  | c :: t =>
    let escaped : Text :=
      if c = '&' then if startsWithReference t then ['&'] else "&amp;"
      else if c = '<' then "&lt;"
      else if c = '>' then "&gt;"
      else [c]
    escaped ++ escapeText t

/-- A text as the value of an attribute. -/
def escapeAttribute (t : Text) : Text :=
  (escapeText t).flatMap fun (c : CodePoint) => if c = '"' then "&quot;" else [c]

/-- Code, in which nothing is a reference. -/
def escapeCode (t : Text) : Text :=
  t.flatMap fun (c : CodePoint) =>
    if c = '&' then "&amp;"
    else if c = '<' then "&lt;"
    else if c = '>' then "&gt;"
    else [c]

/-- Fenced code, where double quotes are escaped too. -/
def escapeFencedCode (t : Text) : Text :=
  (escapeCode t).flatMap fun (c : CodePoint) => if c = '"' then "&quot;" else [c]

end LabEditor.Markdown
