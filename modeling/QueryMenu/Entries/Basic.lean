import QueryMenu.Entries.Bisection
import QueryMenu.Labels

namespace QueryMenu

/-! What the rows have chosen, keyed by row position.

A row that has chosen something owns one entry, stored under the row's position; a
row on its placeholder owns none.  Deleting a row renumbers the entries after it,
whether or not the deleted row owned one.

The list is meant to be stored by strictly ascending position.  Each edit checks
this on what it leaves behind and reports a list that breaks it as a `Fault`; a
host that moves an entry by hand (`modifyAt`, `modifyFirst`) is not checked.
-/

class Payload (π : Type) where
  /-- The text that the entry adds to the rendered query. -/
  label : π → String
  /-- What remains when `fresh` is chosen on a row that already holds `old`. -/
  revise : (old fresh : π) → π

structure Entry (π : Type) where
  position : Nat
  payload : π
deriving DecidableEq, Repr

def Entry.label {π : Type} [Payload π] (entry : Entry π) : String :=
  Payload.label entry.payload

/-- A broken rule of the entry list. -/
inductive Fault where
  /-- The only row on screen is reset while the list holds several entries. -/
  | crowdedRow
  /-- An edit left the list in this order of positions. -/
  | disordered (positions : List Nat)
  /-- A deletion left an entry without a row. -/
  | entryWithoutRow
deriving DecidableEq, Repr

def Fault.message : Fault → String
  | .crowdedRow => "single row holds at most one entry"
  | .disordered positions =>
    "entry positions must be unique and ascending: [" ++
      ", ".intercalate (positions.map toString) ++ "]"
  | .entryWithoutRow => "every entry must belong to a row"

inductive ChoiceEffect where
  | inserted
  | updated
  | removed
  /-- The placeholder was chosen on a row without an entry. -/
  | unchanged
deriving DecidableEq, Repr

def ChoiceEffect.name : ChoiceEffect → String
  | .inserted => "inserted"
  | .updated => "updated"
  | .removed => "removed"
  | .unchanged => "unchanged"

inductive DeletionEffect (π : Type) where
  /-- The only row was reset, and the list is empty. -/
  | reset
  /-- The row is gone, with the entry it owned. -/
  | removed (entry : Option (Entry π))
deriving DecidableEq, Repr

structure Entries (π : Type) where
  toList : List (Entry π)
deriving DecidableEq, Repr

/-- The list that an edit leaves, with the edit's answer or the rule it broke. -/
structure Edit (π α : Type) where
  entries : Entries π
  answer : Except Fault α

namespace Entries

variable {π : Type}

def empty : Entries π := ⟨[]⟩

def size (entries : Entries π) : Nat :=
  entries.toList.length

def isEmpty (entries : Entries π) : Bool :=
  entries.toList.isEmpty

def positions (entries : Entries π) : List Nat :=
  entries.toList.map Entry.position

/-- Every position is smaller than all the positions stored after it. -/
def Ascending (entries : Entries π) : Prop :=
  entries.positions.Pairwise (· < ·)

instance (entries : Entries π) : Decidable entries.Ascending :=
  inferInstanceAs (Decidable (List.Pairwise _ _))

/-- Every entry belongs to one of the first `rows` rows. -/
def FitsRows (entries : Entries π) (rows : Nat) : Prop :=
  ∀ entry ∈ entries.toList, entry.position < rows

instance (entries : Entries π) (rows : Nat) : Decidable (entries.FitsRows rows) :=
  inferInstanceAs (Decidable (∀ entry ∈ entries.toList, entry.position < rows))

/-- The place in storage of the entry at a position. -/
def indexOf? (entries : Entries π) (position : Nat) : Option Nat :=
  entries.toList.findIdx? fun entry => entry.position = position

def find? (entries : Entries π) (position : Nat) : Option (Entry π) :=
  entries.toList.find? fun entry => entry.position = position

def get? (entries : Entries π) (index : Nat) : Option (Entry π) :=
  entries.toList[index]?

def modifyAt (entries : Entries π) (index : Nat) (change : Entry π → Entry π) : Entries π :=
  ⟨entries.toList.modify index change⟩

def modifyFirst (entries : Entries π) (position : Nat) (change : Entry π → Entry π) :
    Entries π :=
  match entries.indexOf? position with
  | some index => entries.modifyAt index change
  | none => entries

def revisePayload (entries : Entries π) (position : Nat) (change : π → π) : Entries π :=
  entries.modifyFirst position fun entry => { entry with payload := change entry.payload }

def eraseAt (entries : Entries π) (index : Nat) : Entries π :=
  ⟨entries.toList.eraseIdx index⟩

/-- The place in storage where an entry for `position` belongs. -/
def insertionPoint (entries : Entries π) (position : Nat) : Nat :=
  Bisection.partitionPoint (fun entry => entry.position < position) entries.toList

def insertAt (entries : Entries π) (index : Nat) (entry : Entry π) : Entries π :=
  ⟨entries.toList.insertIdx index entry⟩

/-- Every entry after `position` moves up by one. -/
def closeGap (entries : Entries π) (position : Nat) : Entries π :=
  ⟨entries.toList.map fun entry =>
    if position < entry.position then { entry with position := entry.position - 1 } else entry⟩

/-- The end of an edit: the list is kept, and its order checked. -/
def checked {α : Type} (entries : Entries π) (answer : α) : Edit π α :=
  ⟨entries, if entries.Ascending then .ok answer else .error (.disordered entries.positions)⟩

/-- Applies a choice made on the row at `position`.  The placeholder drops the row's
entry; a value revises it, or inserts a new one where its position belongs. -/
def choose [Payload π] (entries : Entries π) (position : Nat) : Choice π → Edit π ChoiceEffect
  | .placeholder =>
    match entries.indexOf? position with
    | some index => (entries.eraseAt index).checked .removed
    | none => entries.checked .unchanged
  | .value fresh =>
    match entries.indexOf? position with
    | some index =>
      (entries.modifyAt index fun entry =>
        { entry with payload := Payload.revise entry.payload fresh }).checked .updated
    | none =>
      (entries.insertAt (entries.insertionPoint position) ⟨position, fresh⟩).checked .inserted

/-- Drops the entry at `position` without renumbering.  Nothing is checked if there is none. -/
def clear (entries : Entries π) (position : Nat) : Edit π (Option (Entry π)) :=
  match entries.indexOf? position with
  | some index => (entries.eraseAt index).checked (entries.get? index)
  | none => ⟨entries, .ok none⟩

/-- Deletes the row at `position` while `rows` rows are on screen.  The only row is
never removed: it is reset, and the list with it. -/
def deleteRow (entries : Entries π) (position rows : Nat) : Edit π (DeletionEffect π) :=
  if rows ≤ 1 then
    if entries.size ≤ 1 then ⟨empty, .ok .reset⟩ else ⟨entries, .error .crowdedRow⟩
  else
    let removed := entries.find? position
    let remaining := match entries.indexOf? position with
      | some index => entries.eraseAt index
      | none => entries
    (remaining.closeGap position).checked (.removed removed)

end Entries

/-- After a deletion every entry must still belong to one of the remaining rows. -/
def Edit.fitting {π α : Type} (edit : Edit π α) (rows : Nat) : Edit π α :=
  { edit with
    answer := edit.answer.bind fun answer =>
      if edit.entries.FitsRows rows then .ok answer else .error .entryWithoutRow }

namespace Entries

/-! The text of an entry list: the labels in position order, or a placeholder.

Neither the sorted view nor the text relies on the storage order; entries of one
position keep the order in which they are stored.
-/

variable {π : Type}

def sorted (entries : Entries π) : List (Entry π) :=
  entries.toList.mergeSort fun left right => left.position ≤ right.position

/-- The labels in position order with the word `joiner`, set off by blanks, between
consecutive ones; the placeholder if there are none. -/
def render [Payload π] (entries : Entries π) (joiner placeholder : String) : String :=
  if entries.isEmpty then placeholder
  else (" " ++ joiner ++ " ").intercalate (entries.sorted.map Entry.label)

end Entries

end QueryMenu
