import QueryMenu.Number.Shortest

namespace QueryMenu

/-! Values of the JSON data format.  The members of an object keep the order in which
they were written, and a name may occur twice. -/

inductive JsonNumber where
  | natural (value : Nat)
  /-- The number `-value`, with `value` above zero. -/
  | negative (value : Nat)
  | real (value : Number.Binary64)
deriving DecidableEq, Repr

inductive Json where
  | null
  | bool (value : Bool)
  | number (value : JsonNumber)
  | string (text : String)
  | array (items : List Json)
  | object (members : List (String × Json))
  /-- A well-formed part that stands for no value of the other forms. -/
  | unreadable
deriving Repr

namespace Json

mutual

/-- Nothing in the value is unreadable, and every number is finite. -/
def isReadable : Json → Bool
  | .null => true
  | .bool _ => true
  | .number (.real value) => value.isFinite
  | .number _ => true
  | .string _ => true
  | .array items => areReadable items
  | .object members => haveReadable members
  | .unreadable => false

def areReadable : List Json → Bool
  | [] => true
  | item :: rest => item.isReadable && areReadable rest

def haveReadable : List (String × Json) → Bool
  | [] => true
  | (_, value) :: rest => value.isReadable && haveReadable rest

end

def member? (name : String) (members : List (String × Json)) : Option Json :=
  members.lookup name

def ofTexts (texts : List String) : Json :=
  .array (texts.map .string)

def ofNat (value : Nat) : Json :=
  .number (.natural value)

def ofOption {α : Type} (encode : α → Json) : Option α → Json
  | none => .null
  | some value => encode value

end Json

/-- Numbers are written without an exponent from `1e-5` up to, not including, `1e16`, and of
two decimals that are as near the one with an even last digit. -/
def JsonNumber.layout : Number.Layout where
  halfway := .toEven
  positional leading := -5 ≤ leading && leading < 16
  infinity := "inf"
  nan := "NaN"

def JsonNumber.text : JsonNumber → String
  | .natural value => toString value
  | .negative value => "-" ++ toString value
  | .real value => layout.text value

end QueryMenu
