import QueryMenu.Calendar.Fields
import QueryMenu.Entries.Basic
import QueryMenu.Lifecycle
import QueryMenu.Rows
import QueryMenu.Text.Basic

namespace QueryMenu

/-! What a menu answers to an operation. -/

/-- Whether an operation applied to the menu in its present state. -/
inductive Response where
  | consumed
  | unhandled
deriving DecidableEq, Repr

def Response.name : Response → String
  | .consumed => "consumed"
  | .unhandled => "unhandled"

inductive MenuError where
  /-- The operation names a row that is not on screen. -/
  | unknownRow (row : RowId)
  /-- A version date that the configured pattern does not read. -/
  | invalidDate (text : String) (reason : Calendar.DateError)
  /-- A version date in a week that starts before every year that a word holds. -/
  | yearUnderflow
  /-- A rule of the entry list was found broken. -/
  | brokenRule (fault : Fault)
deriving DecidableEq, Repr

def MenuError.message : MenuError → String
  | .unknownRow row => "unknown row " ++ row.name
  | .invalidDate text reason => "invalid date " ++ Text.quote text ++ ": " ++ reason.message
  | .yearUnderflow => Calendar.DateError.yearUnderflow.message
  | .brokenRule fault => fault.message

/-- The menu that an operation leaves, its answer, and what listeners heard meanwhile. -/
structure Reply (μ α : Type) where
  menu : μ
  answer : Except MenuError α
  heard : List Heard := []

namespace Reply

variable {μ α : Type}

/-- The menu stays as it is and the operation fails. -/
def refused (menu : μ) (error : MenuError) : Reply μ α :=
  ⟨menu, .error error, []⟩

def consumed (menu : μ) : Reply μ Response :=
  ⟨menu, .ok .consumed, []⟩

/-- The operation does not apply, and the menu stays as it is. -/
def unhandled (menu : μ) : Reply μ Response :=
  ⟨menu, .ok .unhandled, []⟩

/-- The operation ends with an edit of the entry list, whose broken rule it reports. -/
def ofEdit {π β : Type} (menu : μ) (edit : Edit π β) : Reply μ Response :=
  match edit.answer with
  | .ok _ => consumed menu
  | .error fault => refused menu (.brokenRule fault)

end Reply

end QueryMenu
