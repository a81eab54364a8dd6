import LabEditor.Text.Basic

/-! Searching a sequence from left to right for matches that do not overlap. Texts are searched by
characters, and pages by lines. A pattern sees the element before its place, so that a match can
depend on what it follows. -/
namespace LabEditor

/-- Reads a value off the front of a sequence, given the element before it, and returns the rest. -/
abbrev Pattern (σ α : Type) := Option σ → List σ → Option (α × List σ)

/-- A scanned sequence consists of matches and of the single elements between them. -/
inductive Piece (σ α : Type) where
  | plain (element : σ)
  | hit (value : α)
deriving Repr, DecidableEq

namespace Pattern

/-- The pieces of a sequence after its first `skip` elements, which belong to a match already
found. -/
def scan (p : Pattern σ α) : (before : Option σ) → (skip : Nat) → List σ → List (Piece σ α)
  | _, _, [] => []
  | _, skip + 1, x :: xs => p.scan (some x) skip xs
  | before, 0, x :: xs =>
    match p before (x :: xs) with
    | some (value, rest) => .hit value :: p.scan (some x) (xs.length - rest.length) xs
    | none => .plain x :: p.scan (some x) 0 xs

def pieces (p : Pattern σ α) (xs : List σ) : List (Piece σ α) :=
  p.scan none 0 xs

end Pattern

namespace Piece

def value? : Piece σ α → Option α
  | .plain _ => none
  | .hit value => some value

/-- The elements of a piece, given those that stand for a match. -/
def write (f : α → List σ) : Piece σ α → List σ
  | .plain x => [x]
  | .hit value => f value

/-- Writes matches by elements that may be missing; the first missing ones are an error. -/
def writeAll? (f : α → Except ε (List σ)) : List (Piece σ α) → Except ε (List σ)
  | [] => .ok []
  | .plain x :: pieces => (writeAll? f pieces).map (x :: ·)
  | .hit value :: pieces =>
    match f value with
    | .error e => .error e
    | .ok xs => (writeAll? f pieces).map (xs ++ ·)

/-- Sets the matches aside: the sequence with the `n`th of them replaced by `token n`, where
numbering starts at `first`, and the values set aside in order. -/
def setAside (token : Nat → List σ) : (first : Nat) → List (Piece σ α) → List σ × List α
  | _, [] => ([], [])
  | first, .plain x :: pieces =>
    let (xs, values) := setAside token first pieces
    (x :: xs, values)
  | first, .hit value :: pieces =>
    let (xs, values) := setAside token (first + 1) pieces
    (token first ++ xs, value :: values)

end Piece

namespace Pattern

/-- The values of all matches, from left to right. -/
def findAll (p : Pattern σ α) (xs : List σ) : List α :=
  (p.pieces xs).filterMap Piece.value?

def occurs (p : Pattern σ α) (xs : List σ) : Bool :=
  !(p.findAll xs).isEmpty

/-- The sequence with each match replaced. -/
def replace (p : Pattern σ α) (f : α → List σ) (xs : List σ) : List σ :=
  (p.pieces xs).flatMap (Piece.write f)

end Pattern
end LabEditor
