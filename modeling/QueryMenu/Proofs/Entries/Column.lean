import Mathlib.Data.List.Induction
import QueryMenu.Aggregation.Menu
import QueryMenu.DataSource.Basic
import QueryMenu.Proofs.Entries.Slots

namespace QueryMenu

/-! Runs of edits on the entries of a column.

A host adds rows, edits the entry of a row on screen and deletes rows; it keeps an
entry list and the number of its rows.  The same steps on a list of slots need no
positions at all.  Both runs give the same answers, and the entry list shows nothing
but the slots.
-/

/-- What a host keeps of a column of rows. -/
structure Column (π : Type) where
  entries : Entries π
  rows : Nat

namespace Column

variable {π : Type}

/-- What a host does to its rows. -/
inductive Step (π : Type) where
  | addRow
  | choose (position : Nat) (choice : Choice π)
  | clear (position : Nat)
  | deleteRow (position : Nat)

/-- What a host is told of a step. -/
inductive Answer (π : Type) where
  | added
  | chosen (effect : ChoiceEffect)
  | cleared (entry : Option (Entry π))
  | deleted (effect : DeletionEffect π)
deriving DecidableEq, Repr

def start : Column π :=
  ⟨.empty, 1⟩

/-- The only row stays when it is deleted. -/
def step [Payload π] (column : Column π) : Step π → Except Fault (Answer π × Column π)
  | .addRow => .ok (.added, { column with rows := column.rows + 1 })
  | .choose position choice =>
    let edit := column.entries.choose position choice
    edit.answer.map fun effect => (.chosen effect, { column with entries := edit.entries })
  | .clear position =>
    let edit := column.entries.clear position
    edit.answer.map fun entry => (.cleared entry, { column with entries := edit.entries })
  | .deleteRow position =>
    let edit := column.entries.deleteRow position column.rows
    edit.answer.map fun effect =>
      (.deleted effect, ⟨edit.entries, if column.rows = 1 then 1 else column.rows - 1⟩)

def run [Payload π] (column : Column π) :
    List (Step π) → Except Fault (List (Answer π) × Column π)
  | [] => .ok ([], column)
  | step :: rest =>
    (column.step step).bind fun (answer, next) =>
      (next.run rest).map fun (answers, last) => (answer :: answers, last)

namespace Step

/-- The step is about a row on screen. -/
def Fits (rows : Nat) : Step π → Prop
  | .addRow => True
  | .choose position _ | .clear position | .deleteRow position => position < rows

def onSlots [Payload π] (slots : List (Option π)) : Step π → List (Option π)
  | .addRow => slots ++ [none]
  | .choose position choice => slots.set position (Slot.choose slots[position]?.join choice)
  | .clear position => slots.set position none
  | .deleteRow position => if slots.length = 1 then [none] else slots.eraseIdx position

def answer (slots : List (Option π)) : Step π → Answer π
  | .addRow => .added
  | .choose position choice => .chosen (Slot.effect slots[position]?.join choice)
  | .clear position => .cleared (slots[position]?.join.map (Entry.mk position))
  | .deleteRow position =>
    .deleted (if slots.length = 1 then .reset
      else .removed (slots[position]?.join.map (Entry.mk position)))

end Step

/-- Every step of the run is about a row that is then on screen. -/
def OnScreen [Payload π] : List (Option π) → List (Step π) → Prop
  | _, [] => True
  | slots, step :: rest => step.Fits slots.length ∧ OnScreen (step.onSlots slots) rest

def slotsAfter [Payload π] (slots : List (Option π)) (steps : List (Step π)) :
    List (Option π) :=
  steps.foldl Step.onSlots slots

def answers [Payload π] : List (Option π) → List (Step π) → List (Answer π)
  | _, [] => []
  | slots, step :: rest => step.answer slots :: answers (step.onSlots slots) rest

/-- All that a host can see of its entries is what the slots say. -/
structure Represents [Payload π] (column : Column π) (slots : List (Option π)) : Prop where
  rows : column.rows = slots.length
  positions : column.entries.positions =
    (List.range slots.length).filter fun position => slots[position]?.join.isSome
  full : (∀ slot ∈ slots, slot.isSome) → column.entries.positions = List.range slots.length
  find : ∀ position,
    column.entries.find? position = slots[position]?.join.map (Entry.mk position)
  fits : column.entries.FitsRows column.rows
  render : ∀ joiner placeholder, column.entries.render joiner placeholder =
    if slots.filterMap id = [] then placeholder
    else (" " ++ joiner ++ " ").intercalate ((slots.filterMap id).map Payload.label)

/-- The column whose rows hold these slots. -/
def ofSlots (slots : List (Option π)) : Column π :=
  ⟨.ofSlots slots, slots.length⟩

@[simp] theorem ofSlots_entries (slots : List (Option π)) :
    (ofSlots slots).entries = .ofSlots slots := rfl

@[simp] theorem ofSlots_rows (slots : List (Option π)) : (ofSlots slots).rows = slots.length := rfl

theorem step_ofSlots [Payload π] (slots : List (Option π)) (step : Step π)
    (fits : step.Fits slots.length) :
    (ofSlots slots).step step = .ok (step.answer slots, ofSlots (step.onSlots slots)) := by
  have held : ∀ position, position < slots.length →
      slots[position]? = some slots[position]?.join := by
    intro position onScreen
    simp [List.getElem?_eq_getElem onScreen]
  cases step with
  | addRow =>
      have entries : Entries.ofSlots (slots ++ [none]) = .ofSlots slots := by
        simp [Entries.ofSlots, Entry.ofSlots_append, Entry.ofSlots]
      simp [Column.step, ofSlots, Step.answer, Step.onSlots, entries]
  | choose position choice =>
      simp only [Column.step, ofSlots, Entries.choose_ofSlots (held position fits), Except.map,
        Step.answer, Step.onSlots, List.length_set]
  | clear position =>
      simp only [Column.step, ofSlots, Entries.clear_ofSlots (held position fits), Except.map,
        Step.answer, Step.onSlots, List.length_set]
  | deleteRow position =>
      have onScreen : position < slots.length := fits
      by_cases single : slots.length = 1
      · obtain ⟨slot, rfl⟩ := List.length_eq_one_iff.mp single
        simp only [Column.step, ofSlots, List.length_singleton, Except.map, Step.answer,
          Step.onSlots, Entries.deleteRow_ofSlots_single, if_true]
      · have several : 2 ≤ (ofSlots slots).rows := by rw [ofSlots_rows]; omega
        have lone : ¬ (ofSlots slots).rows = 1 := single
        have fewer : (ofSlots slots).rows - 1 = (slots.eraseIdx position).length :=
          (List.length_eraseIdx_of_lt onScreen).symm
        simp only [Column.step, ofSlots_entries, Step.answer, Step.onSlots, if_neg single,
          Entries.deleteRow_ofSlots (held position onScreen) several, Except.map, if_neg lone,
          fewer]
        rfl

theorem run_ofSlots [Payload π] (slots : List (Option π)) (steps : List (Step π))
    (onScreen : OnScreen slots steps) :
    (ofSlots slots).run steps = .ok (answers slots steps, ofSlots (slotsAfter slots steps)) := by
  induction steps generalizing slots with
  | nil => rfl
  | cons step rest ih =>
      obtain ⟨fits, later⟩ := onScreen
      simp only [run, step_ofSlots slots step fits, Except.bind, ih _ later, Except.map, answers,
        slotsAfter, List.foldl_cons]

theorem OnScreen.of_prefix [Payload π] {slots : List (Option π)} {done steps : List (Step π)}
    (onScreen : OnScreen slots steps) (early : done <+: steps) : OnScreen slots done := by
  induction done generalizing slots steps with
  | nil => trivial
  | cons step done ih =>
      obtain ⟨rest, rfl⟩ := early
      exact ⟨onScreen.1, ih onScreen.2 (List.prefix_append done rest)⟩

theorem positions_ofSlots (slots : List (Option π)) :
    (Entries.ofSlots slots).positions =
      (List.range slots.length).filter fun position => slots[position]?.join.isSome := by
  -- from the last row back, so that the rows before it keep their positions
  induction slots using List.reverseRecOn with
  | nil => rfl
  | append_singleton slots slot ih =>
      have earlier : (List.range slots.length).filter
          (fun position => (slots ++ [slot])[position]?.join.isSome) =
          (List.range slots.length).filter fun position => slots[position]?.join.isSome := by
        refine List.filter_congr fun position member => ?_
        rw [List.getElem?_append_left (List.mem_range.mp member)]
      rw [List.length_append, List.length_singleton, List.range_succ, List.filter_append, earlier,
        ← ih]
      cases slot <;>
        simp [Entries.positions, Entries.ofSlots, Entry.ofSlots_append, Entry.ofSlots]

theorem ofSlots_represents [Payload π] (slots : List (Option π)) :
    (ofSlots slots).Represents slots where
  rows := rfl
  positions := positions_ofSlots slots
  full filled := by
    refine (positions_ofSlots slots).trans (List.filter_eq_self.mpr fun position member => ?_)
    have onScreen := List.mem_range.mp member
    rw [List.getElem?_eq_getElem onScreen, Option.join_some]
    exact filled _ (List.getElem_mem onScreen)
  find := Entries.find?_ofSlots slots
  fits := Entries.ofSlots_fitsRows slots
  render joiner placeholder := by
    simp only [ofSlots, Entries.render_ofSlots, List.isEmpty_iff]

/-- A run of edits never breaks a rule; after each of its steps the answers are those
that the slots dictate, and the entries show the slots.  Choosing anew on a row
replaces a chosen source altogether, and of an aggregator only its name. -/
theorem run_represents [Payload π] (steps : List (Step π)) (onScreen : OnScreen [none] steps) :
    (∀ done, done <+: steps → ∃ column : Column π,
      start.run done = .ok (answers [none] done, column) ∧
        column.Represents (slotsAfter [none] done)) ∧
    (∀ (slot : Option DataSource) (fresh : DataSource),
      Slot.choose slot (.value fresh) = some fresh) ∧
    (∀ fresh : Aggregator, Slot.choose none (.value fresh) = some fresh) ∧
    (∀ old fresh : Aggregator,
      Slot.choose (some old) (.value fresh) = some { name := fresh.name, required := old.required })
    := by
  refine ⟨fun done early => ?_, fun slot fresh => ?_, fun _ => rfl, fun _ _ => rfl⟩
  · exact ⟨_, run_ofSlots [none] done (onScreen.of_prefix early), ofSlots_represents _⟩
  · cases slot <;> rfl

/-- Gaps, a choice out of order, the deletion of a row without an entry, and the reset of
the only row. -/
theorem run_represents_gaps :
    let steps : List (Step Aggregator) :=
      [.addRow, .addRow, .choose 2 (.value ⟨"Max", true⟩), .choose 0 (.value ⟨"Sum", false⟩),
        .deleteRow 1, .choose 1 (.value ⟨"Mean", false⟩), .clear 0, .deleteRow 0, .deleteRow 0]
    OnScreen [none] steps ∧
      slotsAfter [none] (steps.take 6) = [some ⟨"Sum", false⟩, some ⟨"Mean", true⟩] ∧
      slotsAfter [none] steps = [none] ∧
      ∃ column : Column Aggregator, start.run steps = .ok (answers [none] steps, column) ∧
        column.Represents [none] := by
  intro steps
  have onScreen : OnScreen [none] steps := by simp [steps, OnScreen, Step.Fits, Step.onSlots]
  exact ⟨onScreen, rfl, rfl, (run_represents steps onScreen).1 steps (List.prefix_refl steps)⟩

end Column

end QueryMenu
