import Mathlib.Data.List.Nodup
import QueryMenu.Aggregation.Menu
import QueryMenu.Proofs.Entries.Slots

namespace QueryMenu

/-! The order in which entries are read.

A host that moves entries by hand can leave them in any order, and several of them at one
position.  Reading sorts them all the same: only entries that share a position come in the
order in which they are stored, so where none do the storage makes no difference.
-/

variable {π : Type}

namespace Entry

theorem position_le_trans (first second third : Entry π)
    (one : decide (first.position ≤ second.position) = true)
    (two : decide (second.position ≤ third.position) = true) :
    decide (first.position ≤ third.position) = true := by
  simp only [decide_eq_true_eq] at *
  omega

theorem position_le_total (first second : Entry π) :
    (decide (first.position ≤ second.position) || decide (second.position ≤ first.position)) =
      true := by
  simp only [Bool.or_eq_true, decide_eq_true_eq]
  omega

end Entry

namespace Entries

variable {entries others : Entries π}

theorem sorted_perm (entries : Entries π) : entries.sorted.Perm entries.toList :=
  List.mergeSort_perm ..

theorem sorted_pairwise (entries : Entries π) :
    entries.sorted.Pairwise fun earlier later => earlier.position ≤ later.position := by
  have ordered := List.pairwise_mergeSort Entry.position_le_trans Entry.position_le_total
    entries.toList
  exact ordered.imp fun before => of_decide_eq_true before

theorem sorted_stable (entries : Entries π) (position : Nat) :
    (entries.sorted.filter fun entry => entry.position = position) =
      entries.toList.filter fun entry => entry.position = position := by
  have level : (entries.toList.filter fun entry => entry.position = position).Pairwise
      fun earlier later => decide (earlier.position ≤ later.position) = true := by
    refine List.pairwise_of_forall_mem_list fun earlier first later second => ?_
    have one := (List.mem_filter.mp first).2
    have two := (List.mem_filter.mp second).2
    simp only [decide_eq_true_eq] at *
    omega
  have kept := List.sublist_mergeSort Entry.position_le_trans Entry.position_le_total level
    List.filter_sublist
  have inside := kept.filter fun entry => decide (entry.position = position)
  rw [List.filter_filter] at inside
  simp only [Bool.and_self] at inside
  have count := ((sorted_perm entries).filter fun entry => decide (entry.position = position)).length_eq
  exact (inside.eq_of_length count.symm).symm

theorem sorted_eq_of_perm (same : others.toList.Perm entries.toList)
    (distinct : entries.positions.Nodup) : others.sorted = entries.sorted := by
  have rearranged := ((sorted_perm others).trans same).trans (sorted_perm entries).symm
  refine rearranged.eq_of_pairwise ?_ (sorted_pairwise others) (sorted_pairwise entries)
  intro first second one two before after
  have stored := same.mem_iff.mp ((sorted_perm others).mem_iff.mp one)
  have storedToo := (sorted_perm entries).mem_iff.mp two
  exact List.inj_on_of_nodup_map distinct stored storedToo (Nat.le_antisymm before after)

theorem intercalate_cons (separator first : String) (rest : List String) :
    separator.intercalate (first :: rest) = first ++ String.join (rest.map (separator ++ ·)) := by
  induction rest generalizing first with
  | nil => simp
  | cons second rest ih =>
      rw [String.intercalate_cons_cons, ih, List.map_cons, String.join_cons, String.append_assoc,
        String.append_assoc]

variable [Payload π]

theorem render_eq_placeholder (empty : entries.toList = []) (joiner placeholder : String) :
    entries.render joiner placeholder = placeholder := by
  rw [render, isEmpty, empty, List.isEmpty_nil, if_pos rfl]

theorem render_of_sorted {first : Entry π} {rest : List (Entry π)}
    (read : entries.sorted = first :: rest) (joiner placeholder : String) :
    entries.render joiner placeholder =
      first.label ++ String.join (rest.map fun entry => " " ++ joiner ++ " " ++ entry.label) := by
  have several : entries.toList ≠ [] := by
    intro empty
    simp [sorted, empty] at read
  rw [render, isEmpty, if_neg (by simpa using several), read, List.map_cons, intercalate_cons,
    List.map_map]
  rfl

theorem render_eq_of_perm (same : others.toList.Perm entries.toList)
    (distinct : entries.positions.Nodup) (joiner placeholder : String) :
    others.render joiner placeholder = entries.render joiner placeholder := by
  rw [render, render, sorted_eq_of_perm same distinct, isEmpty, isEmpty, same.isEmpty_eq]

/-- Whatever the storage, entries are read in position order, those of one position as they are
stored, and written with the joining word between any two and nowhere else. -/
theorem reading_in_order (entries : Entries π) :
    entries.sorted.Perm entries.toList ∧
    entries.sorted.Pairwise (fun earlier later => earlier.position ≤ later.position) ∧
    (∀ position, (entries.sorted.filter fun entry => entry.position = position) =
      entries.toList.filter fun entry => entry.position = position) ∧
    (entries.Ascending → entries.sorted = entries.toList) ∧
    ∀ joiner placeholder,
      (entries.toList = [] → entries.render joiner placeholder = placeholder) ∧
      (∀ first rest, entries.sorted = first :: rest →
        entries.render joiner placeholder =
          first.label ++
            String.join (rest.map fun entry => " " ++ joiner ++ " " ++ entry.label)) ∧
      (entries.positions.Nodup → ∀ others : Entries π, others.toList.Perm entries.toList →
        others.render joiner placeholder = entries.render joiner placeholder) := by
  refine ⟨sorted_perm entries, sorted_pairwise entries, sorted_stable entries,
    Ascending.sorted_eq, fun joiner placeholder => ⟨?_, ?_, ?_⟩⟩
  · exact fun empty => render_eq_placeholder empty joiner placeholder
  · exact fun first rest read => render_of_sorted read joiner placeholder
  · exact fun distinct others same => render_eq_of_perm same distinct joiner placeholder

/-- The first of three entries is moved by hand onto the position of the last one, and then
beyond it. -/
theorem reading_in_order_moved :
    let stored : Entries Aggregator :=
      ⟨[⟨0, ⟨"Sum", true⟩⟩, ⟨1, ⟨"Mean", false⟩⟩, ⟨2, ⟨"Max", false⟩⟩]⟩
    let shared := stored.modifyAt 0 fun entry => { entry with position := 2 }
    let beyond := stored.modifyAt 0 fun entry => { entry with position := 7 }
    let reversed : Entries Aggregator := ⟨beyond.toList.reverse⟩
    (shared.sorted.filter fun entry => entry.position = 2) =
        [⟨2, ⟨"Sum", true⟩⟩, ⟨2, ⟨"Max", false⟩⟩] ∧
      shared.sorted = [⟨1, ⟨"Mean", false⟩⟩, ⟨2, ⟨"Sum", true⟩⟩, ⟨2, ⟨"Max", false⟩⟩] ∧
      shared.render "then" "none" = "Mean then Sum then Max" ∧
      beyond.positions.Nodup ∧ reversed.toList.Perm beyond.toList ∧
      reversed.render "then" "none" = beyond.render "then" "none" ∧
      stored.Ascending ∧ stored.sorted = stored.toList := by
  intro stored shared beyond reversed
  have ascending : stored.Ascending := by decide
  have distinct : beyond.positions.Nodup := by decide
  have backwards : reversed.toList.Perm beyond.toList := List.reverse_perm beyond.toList
  have sorted : shared.sorted =
      [⟨1, ⟨"Mean", false⟩⟩, ⟨2, ⟨"Sum", true⟩⟩, ⟨2, ⟨"Max", false⟩⟩] := by
    simp [shared, stored, Entries.sorted, modifyAt, List.mergeSort]
  obtain ⟨-, -, stable, -, written⟩ := reading_in_order shared
  obtain ⟨-, -, -, -, rearranged⟩ := reading_in_order beyond
  obtain ⟨-, -, -, kept, -⟩ := reading_in_order stored
  refine ⟨stable 2, sorted, ((written "then" "none").2.1 _ _ sorted).trans ?_, distinct, backwards,
    (rearranged "then" "none").2.2 distinct reversed backwards, ascending, kept ascending⟩
  decide +kernel

end Entries

end QueryMenu
