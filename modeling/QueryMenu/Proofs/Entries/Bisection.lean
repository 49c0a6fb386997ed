import QueryMenu.Entries.Bisection

namespace QueryMenu.Bisection

/-! Halving finds the place where a test stops passing.

The test is only ever asked of the elements the search looks at, so the result is
stated for lists in which the elements that pass come first.  The interval that is
searched always holds the place, or ends at it.
-/

variable {α : Type} {before : α → Bool} {elements : List α} {count base size : Nat}

theorem search_eq
    (split : ∀ index element, elements[index]? = some element →
      (before element = true ↔ index < count))
    (lower : base ≤ count) (upper : count ≤ base + size)
    (inside : base + size ≤ elements.length) :
    search before elements base size = count := by
  induction size using Nat.strongRecOn generalizing base with
  | _ size ih =>
      rw [search]
      by_cases small : size ≤ 1
      · rw [if_pos small]
        by_cases within : base < elements.length
        · have tested := split base elements[base] (List.getElem?_eq_getElem within)
          rw [List.getElem?_eq_getElem within]
          by_cases passes : before elements[base] = true
          · have := tested.mp passes
            simp only [passes, if_true]
            omega
          · have : ¬ base < count := fun below => passes (tested.mpr below)
            simp only [passes, Bool.false_eq_true, if_false]
            omega
        · rw [List.getElem?_eq_none (by omega)]
          show base = count
          omega
      · rw [if_neg small]
        have within : base + size / 2 < elements.length := by omega
        have tested := split (base + size / 2) elements[base + size / 2]
          (List.getElem?_eq_getElem within)
        simp only [List.getElem?_eq_getElem within]
        by_cases passes : before elements[base + size / 2] = true
        · have := tested.mp passes
          rw [if_pos passes]
          exact ih _ (by omega) (by omega) (by omega) (by omega)
        · have : ¬ base + size / 2 < count := fun below => passes (tested.mpr below)
          rw [if_neg passes]
          exact ih _ (by omega) (by omega) (by omega) (by omega)

/-- The elements that pass stand before those that fail, and the place is between them. -/
theorem partitionPoint_append {passing failing : List α}
    (pass : ∀ element ∈ passing, before element = true)
    (fail : ∀ element ∈ failing, before element = false) :
    partitionPoint before (passing ++ failing) = passing.length := by
  apply search_eq _ (Nat.zero_le _) (by simp) (by simp)
  intro index element found
  by_cases early : index < passing.length
  · rw [List.getElem?_append_left early] at found
    simp [early, pass element (List.mem_of_getElem? found)]
  · rw [List.getElem?_append_right (by omega)] at found
    simp [early, fail element (List.mem_of_getElem? found)]

end QueryMenu.Bisection
