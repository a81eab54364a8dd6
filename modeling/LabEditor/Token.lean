import LabEditor.Failure
import LabEditor.Scan
import LabEditor.Text.Digit

/-! Tokens: numbers between two private characters, which stand in a text for what has been set
aside from it. -/
namespace LabEditor

/-- The characters around the number of a token. -/
structure TokenMarks where
  opening : CodePoint
  closing : CodePoint
deriving DecidableEq, Repr

namespace TokenMarks

def token (marks : TokenMarks) (n : Nat) : Text :=
  marks.opening :: Text.digits n ++ [marks.closing]

/-- A token at the front of a text, read as its digits. -/
def read? (marks : TokenMarks) : Text → Option (Text × Text)
  | [] => none
  | c :: t =>
    if c = marks.opening then
      let digits := t.takeWhile Text.isDigit
      match t.drop digits.length with
      | [] => none
      | d :: rest => if !digits.isEmpty && d = marks.closing then some (digits, rest) else none
    else none

end TokenMarks

/-- What was set aside under the number of a token. -/
def resolve (values : List α) (digits : Text) : Except Fault α :=
  match Text.number? digits with
  | none => .error .numberTooLong
  | some n =>
    match values[n]? with
    | some value => .ok value
    | none => .error .unknownSpan

end LabEditor
