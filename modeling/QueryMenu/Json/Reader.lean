import QueryMenu.Json.Token

namespace QueryMenu.Json

/-! Reading a JSON value from its tokens.

The reader remembers the arrays and objects that are still open, innermost first, and
what may come next.  It takes one token at a time.

A part may be well-formed and yet unreadable: a string or an object with a name that is
no text, or an array or object that is nested too deeply.  Such a part does no harm where
nobody reads it, so `skim?` keeps its place; `ofText?` refuses a text that has one.
-/

inductive Frame where
  /-- An array, with its items so far, last first. -/
  | array (items : List Json)
  /-- An object, with its members so far, last first. -/
  | object (members : List (Option String × Json))
  /-- The member with this name, whose value is still to come. -/
  | member (name : Option String)

inductive Expected where
  | value
  /-- A value, or the end of the array just opened. -/
  | valueOrEnd
  | name
  /-- A name, or the end of the object just opened. -/
  | nameOrEnd
  | colon
  /-- A comma, or the end of the innermost array or object. -/
  | commaOrEnd
  /-- Nothing more: the whole value has been read. -/
  | nothing (value : Json)

structure Reader where
  frames : List Frame
  expected : Expected

namespace Reader

def start : Reader := ⟨[], .value⟩

/-- How deeply arrays and objects may be nested. -/
def greatestDepth : Nat := 127

def depth (frames : List Frame) : Nat :=
  frames.countP fun frame => match frame with
    | .member _ => false
    | _ => true

/-- A finished array or object inside the open ones. -/
def nested (frames : List Frame) (value : Json) : Json :=
  if depth frames < greatestDepth then value else .unreadable

/-- The object of its members, if all their names are texts. -/
def ofMembers (members : List (Option String × Json)) : Json :=
  match members.mapM fun (name, value) => name.map fun name => (name, value) with
  | some members => .object members
  | none => .unreadable

def deliver (value : Json) : List Frame → Option Reader
  | [] => some ⟨[], .nothing value⟩
  | .array items :: frames => some ⟨.array (value :: items) :: frames, .commaOrEnd⟩
  | .member name :: .object members :: frames =>
    some ⟨.object ((name, value) :: members) :: frames, .commaOrEnd⟩
  | _ => none

def value (reader : Reader) : Token → Option Reader
  | .literal value => deliver value reader.frames
  | .string (some text) => deliver (.string text) reader.frames
  | .string none => deliver .unreadable reader.frames
  | .openArray => some ⟨.array [] :: reader.frames, .valueOrEnd⟩
  | .openObject => some ⟨.object [] :: reader.frames, .nameOrEnd⟩
  | _ => none

def close (reader : Reader) : Token → Option Reader
  | .closeArray =>
    match reader.frames with
    | .array items :: frames => deliver (nested frames (.array items.reverse)) frames
    | _ => none
  | .closeObject =>
    match reader.frames with
    | .object members :: frames => deliver (nested frames (ofMembers members.reverse)) frames
    | _ => none
  | _ => none

def name (reader : Reader) : Token → Option Reader
  | .string name => some ⟨.member name :: reader.frames, .colon⟩
  | _ => none

def step (reader : Reader) (token : Token) : Option Reader :=
  match reader.expected, token with
  | .value, token => reader.value token
  | .valueOrEnd, .closeArray => reader.close .closeArray
  | .valueOrEnd, token => reader.value token
  | .name, token => reader.name token
  | .nameOrEnd, .closeObject => reader.close .closeObject
  | .nameOrEnd, token => reader.name token
  | .colon, .colon => some { reader with expected := .value }
  | .colon, _ => none
  | .commaOrEnd, .comma =>
    match reader.frames with
    | .array _ :: _ => some { reader with expected := .value }
    | .object _ :: _ => some { reader with expected := .name }
    | _ => none
  | .commaOrEnd, token => reader.close token
  | .nothing _, _ => none

end Reader

/-- The value that a text writes, or `none` if the text is not well-formed. -/
def skim? (text : String) : Option Json := do
  let tokens ← Token.ofText? text.toList
  match (← tokens.foldlM Reader.step Reader.start).expected with
  | .nothing value => some value
  | _ => none

/-- The value that a text writes, if it is well-formed and readable throughout. -/
def ofText? (text : String) : Option Json :=
  (skim? text).filter isReadable

end QueryMenu.Json
