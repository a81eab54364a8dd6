import LabEditor.Markdown.Node
import LabEditor.Text.Word

/-! Emphasis between runs of stars or low lines. A run opens emphasis in front of something and
closes it behind something. -/
namespace LabEditor.Markdown.Emphasis
open Node

/-- A run of signs, the place where it begins, and what it can do. -/
structure Run where
  place : Nat
  length : Nat
  opens : Bool
  closes : Bool
deriving DecidableEq, Repr

def isWord : Node → Bool
  | char c => Text.isWordChar c
  | _ => false

/-- Whether emphasis can stand on this side of the run, where `within` is the node there and
`outside` the node on the other side. Low lines inside words are no emphasis. -/
def canFlank (sign : CodePoint) (within outside : Option Node) : Bool :=
  within.any (!·.isBlank) && !(sign == '_' && outside.any isWord)

/-- The runs of a sign in order. -/
def runsFrom (sign : CodePoint) : (before : Option Node) → (place : Nat) → List Node → List Run
  | _, _, [] => []
  | before, place, x :: xs =>
    let rest := runsFrom sign (some x) (place + 1) xs
    if x.isChar sign && !before.any (·.isChar sign) then
      let after := (xs.dropWhile (·.isChar sign)).head?
      ⟨place, (xs.takeWhile (·.isChar sign)).length + 1, canFlank sign after before,
        canFlank sign before after⟩ :: rest
    else rest

namespace Run

def isTwoSided (run : Run) : Bool :=
  run.opens && run.closes

/-- Whether two runs can be a pair. If one of them could both open and close, their lengths must not
add up to a multiple of three, unless both are multiples of three. -/
def pairsWith (opener closer : Run) : Bool :=
  opener.opens && closer.closes &&
    !(opener.isTwoSided != closer.isTwoSided && (opener.length + closer.length) % 3 == 0 &&
      !(opener.length % 3 == 0 && closer.length % 3 == 0))

end Run

/-- The first run that closes emphasis, with the nearest one that opens it. The runs already seen
are given with the last one first. -/
def firstPair? (seen : List Run) : List Run → Option (Run × Run)
  | [] => none
  | run :: runs =>
    match seen.find? (·.pairsWith run) with
    | some opener => some (opener, run)
    | none => firstPair? (run :: seen) runs

/-- How many signs a pair takes at each end: one is emphasis and two are strong emphasis. A closing
run that could open as well counts as long as an opening one of this kind. -/
def signCount (opener closer : Run) : Nat :=
  let closing := if opener.isTwoSided && closer.isTwoSided then opener.length else closer.length
  if min opener.length closing % 2 = 1 then 1 else 2

/-- Replaces one pair and what stands between by a part. -/
def applyPair (inner : List Node → List Node) (opener closer : Run) (xs : List Node) : List Node :=
  let count := signCount opener closer
  let start := opener.place + opener.length
  xs.take (start - count) ++
    part (if count = 1 then .emphasis else .strong)
      (inner ((xs.take closer.place).drop start)) :: xs.drop (closer.place + count)

/-- Finds pairs until there is none; each takes signs away. -/
def applyAll (sign : CodePoint) (inner : List Node → List Node) : (tries : Nat) → List Node → List Node
  | 0, xs => xs
  | tries + 1, xs =>
    match firstPair? [] (runsFrom sign none 0 xs) with
    | some (opener, closer) => applyAll sign inner tries (applyPair inner opener closer xs)
    | none => xs

/-- A running text with its emphasis; `inner` is applied to what is emphasized. -/
def mark (sign : CodePoint) (inner : List Node → List Node) (xs : List Node) : List Node :=
  applyAll sign inner xs.length xs

end LabEditor.Markdown.Emphasis
