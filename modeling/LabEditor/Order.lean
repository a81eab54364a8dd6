/-! Sorting by insertion: stable, and computed by recursion on the list. -/
namespace LabEditor.Order

/-- Puts `x` before the first element that is not below it. -/
def insertBy (le : α → α → Bool) (x : α) : List α → List α
  | [] => [x]
  | y :: ys => if le x y then x :: y :: ys else y :: insertBy le x ys

def sortBy (le : α → α → Bool) : List α → List α
  | [] => []
  | x :: xs => insertBy le x (sortBy le xs)

end LabEditor.Order
