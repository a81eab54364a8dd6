import LabEditor.Text.Basic

/-! White space, and the cutting and trimming of texts by it. -/
namespace LabEditor.Text

/-- White space in the sense of Unicode, with the four information separators. -/
def isBlank (c : CodePoint) : Bool :=
  let n := c.toNat
  (0x09 ≤ n && n ≤ 0x0d) || (0x1c ≤ n && n ≤ 0x20) || n == 0x85 || n == 0xa0 || n == 0x1680 ||
    (0x2000 ≤ n && n ≤ 0x200a) || n == 0x2028 || n == 0x2029 || n == 0x202f || n == 0x205f ||
    n == 0x3000

def trimStart (t : Text) : Text :=
  t.dropWhile isBlank

def trimEnd (t : Text) : Text :=
  dropEndWhile isBlank t

def trim (t : Text) : Text :=
  trimEnd (trimStart t)

/-- A text without a visible character, the empty text included. -/
def isBlankText (t : Text) : Bool :=
  t.all isBlank

/-- The longest runs of characters that are not blank. -/
def words : Text → List Text
  | [] => []
  | c :: t =>
    if isBlank c then words t
    else match t with
      | [] => [[c]]
      | d :: _ =>
        if isBlank d then [c] :: words t
        else match words t with
          | [] => [[c]]
          | w :: ws => (c :: w) :: ws

/-- Every run of blanks becomes one copy of `filler`. -/
def squeezeBlanks (filler : CodePoint) : Text → Text
  | [] => []
  | c :: t =>
    if isBlank c then
      match t with
      | [] => [filler]
      | d :: _ => if isBlank d then squeezeBlanks filler t else filler :: squeezeBlanks filler t
    else c :: squeezeBlanks filler t

end LabEditor.Text
