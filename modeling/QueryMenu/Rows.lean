namespace QueryMenu

/-! Rows on screen, in display order.

A row's position is its place in the list, and changes when an earlier row is
removed; its id does not.  Ids are issued in increasing order and never issued
again, so an id that has left the screen names no row.
-/

structure RowId where
  number : Nat
deriving DecidableEq, Repr

def RowId.name (id : RowId) : String :=
  "row#" ++ toString id.number

structure Row (σ : Type) where
  id : RowId
  state : σ
deriving DecidableEq, Repr

/-- The first row named `id`, with the place it holds counted from `position`. -/
def Row.locate {σ : Type} (id : RowId) : List (Row σ) → Nat → Option (Nat × σ)
  | [], _ => none
  | row :: rest, position =>
    if row.id = id then some (position, row.state) else locate id rest (position + 1)

/-- Changes the state of the first row named `id`. -/
def Row.update {σ : Type} (id : RowId) (change : σ → σ) : List (Row σ) → List (Row σ)
  | [] => []
  | row :: rest =>
    if row.id = id then { row with state := change row.state } :: rest
    else row :: update id change rest

structure Rows (σ : Type) where
  rows : List (Row σ)
  /-- How many ids have been issued; the next row gets this number. -/
  issued : Nat
deriving DecidableEq, Repr

namespace Rows

variable {σ : Type}

def push (rows : Rows σ) (state : σ) : RowId × Rows σ :=
  let id : RowId := ⟨rows.issued⟩
  (id, ⟨rows.rows ++ [⟨id, state⟩], rows.issued + 1⟩)

def start (state : σ) : Rows σ :=
  (push ⟨[], 0⟩ state).2

def size (rows : Rows σ) : Nat :=
  rows.rows.length

def lookup? (rows : Rows σ) (id : RowId) : Option (Nat × σ) :=
  Row.locate id rows.rows 0

def position? (rows : Rows σ) (id : RowId) : Option Nat :=
  rows.rows.findIdx? fun row => row.id = id

def get? (rows : Rows σ) (id : RowId) : Option σ :=
  (rows.rows.find? fun row => row.id = id).map Row.state

def idAt? (rows : Rows σ) (position : Nat) : Option RowId :=
  rows.rows[position]?.map Row.id

def first? (rows : Rows σ) : Option RowId :=
  rows.idAt? 0

def last? (rows : Rows σ) : Option RowId :=
  rows.rows.getLast?.map Row.id

/-- Changes the state of a row; every other row stays as it is. -/
def modify (rows : Rows σ) (id : RowId) (change : σ → σ) : Rows σ :=
  { rows with rows := Row.update id change rows.rows }

def set (rows : Rows σ) (id : RowId) (state : σ) : Rows σ :=
  rows.modify id fun _ => state

/-- Removes a row and returns the position and the state it had.  Every later row
moves up by one. -/
def remove? (rows : Rows σ) (id : RowId) : Option (Nat × σ × Rows σ) :=
  (rows.lookup? id).map fun (position, state) =>
    (position, state, { rows with rows := rows.rows.eraseIdx position })

end Rows

end QueryMenu
