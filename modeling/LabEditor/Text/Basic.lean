import LabEditor.Text.CodePoint

/-! Texts are lists of code points, so that every scan is a recursion on its input. -/
namespace LabEditor

abbrev Text := List CodePoint

instance : Coe String Text := ⟨fun s => s.toList.map .char⟩

namespace Text

/-- What follows `start` in a text that begins with it. -/
def after? : (start t : Text) → Option Text
  | [], t => some t
  | _ :: _, [] => none
  | c :: start, d :: t => if c = d then after? start t else none

def startsWith (t start : Text) : Bool :=
  (after? start t).isSome

/-- Whether `part` occurs somewhere in the text. -/
def hasPart (part : Text) : Text → Bool
  | [] => part.isEmpty
  | c :: t => startsWith (c :: t) part || hasPart part t

/-- The texts between the occurrences of a separator; there is always at least one. -/
def cut (sep : CodePoint) : Text → List Text
  | [] => [[]]
  | c :: t =>
    if c = sep then [] :: cut sep t
    else match cut sep t with
      | [] => [[c]]
      | w :: ws => (c :: w) :: ws

/-- Texts set one after the other with a separator between neighbours. -/
def glue (sep : CodePoint) : List Text → Text
  | [] => []
  | [w] => w
  | w :: ws => w ++ sep :: glue sep ws

def dropEndWhile (p : CodePoint → Bool) : Text → Text
  | [] => []
  | c :: t =>
    match dropEndWhile p t with
    | [] => if p c then [] else [c]
    | kept => c :: kept

/-- The text up to the first character that satisfies `p`, and the rest from there on. -/
def splitWhen (p : CodePoint → Bool) : Text → Text × Text
  | [] => ([], [])
  | c :: t => if p c then ([], c :: t) else ((c :: (splitWhen p t).1), (splitWhen p t).2)

/-- A carriage return before a line feed belongs to the line end. -/
def joinLineEnds : Text → Text
  | '\r' :: '\n' :: t => '\n' :: joinLineEnds t
  | c :: t => c :: joinLineEnds t
  | [] => []

/-- Code points decide the order, and a beginning comes before what it begins. -/
def le : Text → Text → Bool
  | [], _ => true
  | _ :: _, [] => false
  | c :: s, d :: t => if c = d then le s t else c.toNat < d.toNat

end Text
end LabEditor
