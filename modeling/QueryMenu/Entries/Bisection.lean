namespace QueryMenu

/-! Where a value belongs in an ordered list, found by halving.

On a list whose elements before the wanted place all pass a test and whose other
elements all fail it, the result is that place.  On any other list the result is
still fixed: it depends only on the elements that the halving looks at.
-/

namespace Bisection

/-- Searches the `size` elements from `base` on. -/
def search {α : Type} (before : α → Bool) (elements : List α) (base size : Nat) : Nat :=
  if size ≤ 1 then
    match elements[base]? with
    | some element => if before element then base + 1 else base
    | none => base
  else
    let half := size / 2
    match elements[base + half]? with
    | some element =>
      search before elements (if before element then base + half else base) (size - half)
    | none => search before elements base (size - half)
termination_by size
decreasing_by all_goals omega

/-- The number of leading elements that pass the test, if those that pass come first. -/
def partitionPoint {α : Type} (before : α → Bool) (elements : List α) : Nat :=
  search before elements 0 elements.length

end Bisection

end QueryMenu
