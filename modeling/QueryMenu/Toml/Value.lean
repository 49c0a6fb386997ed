import QueryMenu.Decode.Misfit
import QueryMenu.Number.Shortest
import QueryMenu.Text.Basic

namespace QueryMenu

/-! Values of the TOML configuration format.  Of a date or time only the fact that it is
one is kept. -/

inductive Toml where
  | string (text : String)
  | integer (value : Int)
  | float (value : Number.Binary64)
  | boolean (value : Bool)
  | datetime
  | array (items : List Toml)
  | table (members : List (String × Toml))
  /-- A number without a value: one out of range, or a text that only starts like one. -/
  | unreadable
deriving Repr

/-- The members of a table.  No name occurs twice in a table that was read from a text. -/
abbrev TomlTable := List (String × Toml)

namespace Toml

/-- Floating-point numbers are written without an exponent, and of two decimals that are as
near the one farther from zero. -/
def floatLayout : Number.Layout where
  halfway := .toGreater
  positional _ := true
  infinity := "inf"
  nan := "NaN"

def describe : Toml → String
  | .string text => "string " ++ Text.quote text
  | .integer value => "integer " ++ Misfit.ticked (toString value)
  | .float value => "floating point " ++ Misfit.ticked (floatLayout.text value)
  | .boolean value => "boolean " ++ Misfit.ticked (if value then "true" else "false")
  | .datetime => "map"
  | .array _ => "sequence"
  | .table _ => "map"
  | .unreadable => "number without a value"

def refuse {α : Type} (value : Toml) (expected : String) : Except Misfit α :=
  .error (.wrongType value.describe expected)

def text : Toml → Except Misfit String
  | .string text => .ok text
  | value => value.refuse "a string"

end Toml

end QueryMenu
