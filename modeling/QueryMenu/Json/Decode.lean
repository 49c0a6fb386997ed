import QueryMenu.Decode.Misfit
import QueryMenu.Json.Value
import QueryMenu.Text.Basic

namespace QueryMenu.Json

/-! Reading typed values out of JSON.

A record may be written as an object or as an array of its fields in order.  A variant
without content may be written as its name or as an object from its name to null.
-/

/-- Where the value to read stands: finished in memory, or in a text that is read as it
comes.  In a text, a fault that depends on what follows is noticed only on the way. -/
inductive Delivery where
  | finished
  | streamed
deriving DecidableEq, Repr

def describe : Json → String
  | .null => "null"
  | .bool value => "boolean " ++ Misfit.ticked (if value then "true" else "false")
  | .number (.real value) =>
    "floating point " ++ Misfit.ticked (JsonNumber.text (.real value))
  | .number value => "integer " ++ Misfit.ticked value.text
  | .string text => "string " ++ Text.quote text
  | .array _ => "sequence"
  | .object _ => "map"
  | .unreadable => "unreadable part"

def refuse {α : Type} (value : Json) (expected : String) : Except Misfit α :=
  .error (.wrongType value.describe expected)

def text : Json → Except Misfit String
  | .string text => .ok text
  | value => value.refuse "a string"

def flag : Json → Except Misfit Bool
  | .bool value => .ok value
  | value => value.refuse "a boolean"

/-- A number that counts or indexes things. -/
def index : Json → Except Misfit Nat
  | .number (.natural value) => .ok value
  | .number (.negative value) =>
    .error (.wrongValue (describe (.number (.negative value))) "usize")
  | value => value.refuse "usize"

def unit : Json → Except Misfit Unit
  | .null => .ok ()
  | value => value.refuse "unit"

def list {α : Type} (read : Json → Except Misfit α) : Json → Except Misfit (List α)
  | .array items => items.mapM read
  | value => value.refuse "a sequence"

/-- Null stands for an absent value. -/
def orNull {α : Type} (read : Json → Except Misfit α) : Json → Except Misfit (Option α)
  | .null => .ok none
  | value => (read value).map some

def namedVariant {α : Type} (variants : List (String × α)) (name : String) : Except Misfit α :=
  match variants.lookup name with
  | some variant => .ok variant
  | none => .error (.unknownVariant name (variants.map Prod.fst))

/-- A variant without content. -/
def variant {α : Type} (delivery : Delivery) (variants : List (String × α)) :
    Json → Except Misfit α
  | .string name => namedVariant variants name
  | .object members =>
    match delivery, members with
    | _, [(name, content)] => do
      let variant ← namedVariant variants name
      content.unit
      return variant
    | .finished, _ => .error (.wrongValue "map" "map with a single key")
    | .streamed, [] => .error .misplaced
    | .streamed, (name, content) :: _ => do
      let _ ← namedVariant variants name
      content.unit
      .error .misplaced
  | value =>
    match delivery with
    | .finished => value.refuse "string or map"
    | .streamed => .error .misplaced

/-- Reads an item of a record written as an array.  `whole` says what a complete array
would be. -/
def requiredItem {α : Type} (items : List Json) (place : Nat) (whole : String)
    (read : Json → Except Misfit α) : Except Misfit α :=
  match items[place]? with
  | some item => read item
  | none => .error (.wrongLength place whole)

def optionalItem {α : Type} (items : List Json) (place : Nat) (read : Json → Except Misfit α)
    (absent : α) : Except Misfit α :=
  match items[place]? with
  | some item => read item
  | none => .ok absent

/-- A record written as an array has no more items than fields. -/
def noFurtherItems (delivery : Delivery) (items : List Json) (fields : Nat) :
    Except Misfit Unit :=
  if items.length ≤ fields then .ok ()
  else
    match delivery with
    | .finished => .error (.wrongLength items.length "fewer elements in array")
    | .streamed => .error .misplaced

end QueryMenu.Json
