import LabEditor.Text.Digit
import LabEditor.Text.EntityName

/-! Characters written as character references of HTML. -/
namespace LabEditor.Text

def escapeChar : CodePoint → Text
  | '&' => "&amp;"
  | '<' => "&lt;"
  | '>' => "&gt;"
  | '"' => "&quot;"
  | '\'' => "&#x27;"
  | c => [c]

/-- A text as the content of an element or of a quoted attribute. -/
def escapeHtml (t : Text) : Text :=
  t.flatMap escapeChar

/-- Code points 80 to 9f are read as the characters of the Windows code page 1252. -/
def windowsCharacters : List CodePoint := [
  '€', '\u0081', '‚', 'ƒ', '„', '…', '†', '‡', 'ˆ', '‰', 'Š', '‹', 'Œ', '\u008d', 'Ž', '\u008f',
  '\u0090', '‘', '’', '“', '”', '•', '–', '—', '˜', '™', 'š', '›', 'œ', '\u009d', 'ž', 'Ÿ']

/-- The characters that a numeric reference stands for: none for a code point that is a control or
no character, and the replacement character for one outside Unicode. -/
def numericReference (n : Nat) : Text :=
  if n = 0 then ['\ufffd']
  else if n = 0x0d then ['\r']
  else if 0x80 ≤ n && n ≤ 0x9f then (windowsCharacters[n - 0x80]?).toList
  else if (0xd800 ≤ n && n ≤ 0xdfff) || 0x10ffff < n then ['\ufffd']
  else if (1 ≤ n && n ≤ 8) || n = 0x0b || (0x0e ≤ n && n ≤ 0x1f) || n = 0x7f
      || (0xfdd0 ≤ n && n ≤ 0xfdef) || n % 0x10000 = 0xfffe || n % 0x10000 = 0xffff then []
  else [Char.ofNat n]

def hexValue? (c : CodePoint) : Option Nat :=
  if '0' ≤ c && c ≤ '9' then some (c.toNat - '0'.toNat)
  else if 'a' ≤ c && c ≤ 'f' then some (c.toNat - 'a'.toNat + 10)
  else if 'A' ≤ c && c ≤ 'F' then some (c.toNat - 'A'.toNat + 10)
  else none

def hexNumber (t : Text) : Nat :=
  t.foldl (fun n c => 16 * n + (hexValue? c).getD 0) 0

/-- A semicolon that closes a reference is part of it. -/
def afterSemicolon : Text → Text
  | ';' :: t => t
  | t => t

/-- What a name stands for; one that needs a semicolon has it. -/
def entity? : Text → Option Text
  | [] => none
  | c :: t =>
    ((entities c).find? fun (name, _) => (name : Text) == c :: t).map fun (_, value) => (value : Text)

/-- The longest of the names that begin a text, if there is one. -/
def longestName (t : Text) : List (String × String) → Text
  | [] => []
  | (name, _) :: others =>
    let other := longestName t others
    if startsWith t name && other.length < (name : Text).length then name else other

/-- What stands behind an ampersand. -/
inductive Reference where
  /-- The characters of a reference, and the text behind it. -/
  | read (characters rest : Text)
  /-- A decimal number with too many digits. -/
  | tooLong
  | none
deriving DecidableEq, Repr

/-- The reference behind an ampersand and a number sign. -/
def Reference.numbered (t : Text) : Reference :=
  let decimal := t.takeWhile CodePoint.isDigit
  if decimal.isEmpty then
    match t with
    | x :: u =>
      let hexadecimal := u.takeWhile fun c => (hexValue? c).isSome
      if (x == 'x' || x == 'X') && !hexadecimal.isEmpty then
        .read (numericReference (hexNumber hexadecimal))
          (afterSemicolon (u.drop hexadecimal.length))
      else .none
    | [] => .none
  else
    match number? decimal with
    | some n => .read (numericReference n) (afterSemicolon (t.drop decimal.length))
    | .none => .tooLong

/-- The reference by the longest name that begins a text. -/
def Reference.named (t : Text) : Reference :=
  match longestName t (entities (t.headD ';')) with
  | [] => .none
  | name => .read ((entity? name).getD []) (t.drop name.length)

/-- The reference behind an ampersand. -/
def Reference.of : Text → Reference
  | '#' :: t => .numbered t
  | t => .named t

/-- The text with its character references replaced, unless a number in it is too long; the first
`skip` characters belong to a reference already read. -/
def unescapeFrom? : (skip : Nat) → Text → Option Text
  | _, [] => some []
  | skip + 1, _ :: t => unescapeFrom? skip t
  | 0, c :: t =>
    if c = '&' then
      match Reference.of t with
      | .read characters rest =>
        (unescapeFrom? (t.length - rest.length) t).map (characters ++ ·)
      | .tooLong => none
      | .none => (unescapeFrom? 0 t).map (c :: ·)
    else (unescapeFrom? 0 t).map (c :: ·)

def unescapeHtml? (t : Text) : Option Text :=
  unescapeFrom? 0 t

end LabEditor.Text
