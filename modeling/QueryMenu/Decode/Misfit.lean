namespace QueryMenu

/-! Why a well-formed document is not of the wanted shape. -/

inductive Misfit where
  | wrongType (found expected : String)
  | wrongValue (found expected : String)
  | wrongLength (length : Nat) (expected : String)
  | unknownVariant (name : String) (known : List String)
  | unknownField (name : String) (known : List String)
  | missingField (name : String)
  | duplicateField (name : String)
  /-- The document goes on in a way that no document of the shape can. -/
  | misplaced
deriving DecidableEq, Repr

namespace Misfit

def ticked (name : String) : String :=
  "`" ++ name ++ "`"

/-- The names that would have been accepted. -/
def alternatives : List String → String
  | [] => "nothing"
  | [name] => ticked name
  | [first, second] => ticked first ++ " or " ++ ticked second
  | names => "one of " ++ ", ".intercalate (names.map ticked)

/-- The message for a misfit.  A misplaced part has none of its own. -/
def message? : Misfit → Option String
  | .wrongType found expected => some ("invalid type: " ++ found ++ ", expected " ++ expected)
  | .wrongValue found expected => some ("invalid value: " ++ found ++ ", expected " ++ expected)
  | .wrongLength length expected =>
    some ("invalid length " ++ toString length ++ ", expected " ++ expected)
  | .unknownVariant name known =>
    some ("unknown variant " ++ ticked name ++ ", expected " ++ alternatives known)
  | .unknownField name known =>
    some ("unknown field " ++ ticked name ++ ", expected " ++ alternatives known)
  | .missingField name => some ("missing field " ++ ticked name)
  | .duplicateField name => some ("duplicate field " ++ ticked name)
  | .misplaced => none

end Misfit

/-! Records: members whose values are read by name. -/

/-- A member that a record knows, and the test for its value. -/
structure Field (ν : Type) where
  name : String
  check : ν → Except Misfit Unit

/-- The members of a record.  A closed record refuses any other member, and an open one
skips it. -/
structure Record (ν : Type) where
  fields : List (Field ν)
  closed : Bool

namespace Record

variable {ν : Type}

/-- A field whose value must be readable. -/
def field {α : Type} (name : String) (read : ν → Except Misfit α) : Field ν :=
  ⟨name, fun value => (read value).map fun _ => ()⟩

def names (record : Record ν) : List String :=
  record.fields.map Field.name

/-- Finds the first fault among the members, in their order.  `seen` holds the names of
the known members that came before. -/
def check (record : Record ν) : (seen : List String) → List (String × ν) → Except Misfit Unit
  | _, [] => .ok ()
  | seen, (name, value) :: rest =>
    match record.fields.find? fun field => field.name = name with
    | none =>
      if record.closed then .error (.unknownField name record.names) else record.check seen rest
    | some field =>
      if seen.contains name then .error (.duplicateField name)
      else (field.check value).bind fun _ => record.check (name :: seen) rest

def required {α : Type} (members : List (String × ν)) (name : String)
    (read : ν → Except Misfit α) : Except Misfit α :=
  match members.lookup name with
  | some value => read value
  | none => .error (.missingField name)

def optional {α : Type} (members : List (String × ν)) (name : String)
    (read : ν → Except Misfit α) (absent : α) : Except Misfit α :=
  match members.lookup name with
  | some value => read value
  | none => .ok absent

end Record

end QueryMenu
