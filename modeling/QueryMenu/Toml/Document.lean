import QueryMenu.Toml.Scalar
import QueryMenu.Toml.Token
import QueryMenu.Toml.Tree

namespace QueryMenu.Toml

/-! Reading a TOML document from its tokens.

The reader remembers the tables read so far, the header it is under, the values that are
still open, innermost first, and what may come next.  It takes one token at a time.

A line ends the binding of a key at the start of a line, but means nothing inside brackets
and braces, where comments may stand as well.  A key itself stays on one line everywhere.
A number without a value does no harm where nobody reads it, so its place is kept.
-/

inductive Frame where
  /-- An array, with its items so far, last first. -/
  | array (items : List Toml)
  /-- A table in braces, with its members so far. -/
  | inline (members : Members)
  /-- A key whose value is still to come, as its path. -/
  | binding (path : List String)

inductive KeyPlace where
  | line
  | inline
  | header (repeated : Bool)
deriving DecidableEq

inductive Expected where
  | lineStart
  /-- Right after a bracket at the start of a line. -/
  | headerStart
  /-- A part of a key, after the parts in `path`. -/
  | keyPart (place : KeyPlace) (path : List String)
  /-- A dot, or what ends the key. -/
  | keyEnd (place : KeyPlace) (path : List String)
  /-- The equals sign of a member of a table in braces, after a line end or a comment. -/
  | memberEquals (path : List String)
  /-- The second bracket that ends a repeated header. -/
  | headerEnd (path : List String)
  | value
  /-- A value, or the end of the innermost array. -/
  | itemOrEnd
  /-- A key, or the end of the innermost table in braces. -/
  | memberOrEnd
  /-- A comma, or the end of the innermost array or table in braces. -/
  | commaOrEnd
  | scalar (text : List Char)
  /-- As `scalar`, after a blank: a word behind it belongs to the value, as the time of a
  day does. -/
  | scalarGap (text blank : List Char)
  | lineEnd

structure Reader where
  root : Members
  /-- The path of the last header. -/
  header : List String
  frames : List Frame
  expected : Expected

namespace Reader

def start : Reader := ⟨[], [], [], .lineStart⟩

/-- How deeply arrays and tables in braces may be nested, and how many parts a key may have. -/
def greatestDepth : Nat := 80

def depth (frames : List Frame) : Nat :=
  frames.countP fun frame => match frame with
    | .binding _ => false
    | _ => true

def push (reader : Reader) (frame : Frame) (expected : Expected) : Option Reader :=
  if depth reader.frames < greatestDepth then
    some { reader with frames := frame :: reader.frames, expected }
  else none

def deliver (reader : Reader) (value : Toml) : List Frame → Option Reader
  | .array items :: frames =>
    some { reader with frames := .array (value :: items) :: frames, expected := .commaOrEnd }
  | .binding path :: .inline members :: frames =>
    (members.bind path value).map fun members =>
      { reader with frames := .inline members :: frames, expected := .commaOrEnd }
  | [.binding path] =>
    (reader.root.bindAt reader.header path value).map fun root =>
      { reader with root, frames := [], expected := .lineEnd }
  | _ => none

def deliverScalar (reader : Reader) (text : List Char) : Option Reader :=
  (Scalar.ofText? text).bind fun value => reader.deliver value reader.frames

def isBareKey (word : List Char) : Bool :=
  word.all fun c => c.isAlphanum || c = '_' || c = '-'

def keyPart (reader : Reader) (place : KeyPlace) (path : List String) : Token → Option Reader
  | .quoted text false =>
    if path.length < greatestDepth then
      some { reader with expected := .keyEnd place (path ++ [text]) }
    else none
  | .word word =>
    if isBareKey word && path.length < greatestDepth then
      some { reader with expected := .keyEnd place (path ++ [String.ofList word]) }
    else none
  | _ => none

/-- Waits for the value of a member of a table in braces. -/
def bindMember (reader : Reader) (path : List String) : Reader :=
  { reader with frames := .binding path :: reader.frames, expected := .value }

def keyEnd (reader : Reader) (place : KeyPlace) (path : List String) (token : Token) :
    Option Reader :=
  match token, place with
  | .dot, place => some { reader with expected := .keyPart place path }
  | .equals, .line => some { reader with frames := [.binding path], expected := .value }
  | .equals, .inline => some (reader.bindMember path)
  | .newline, .inline => some { reader with expected := .memberEquals path }
  | .comment, .inline => some { reader with expected := .memberEquals path }
  | .closeBracket, .header false =>
    (reader.root.openPath false path).map fun root =>
      { reader with root, header := path, expected := .lineEnd }
  | .closeBracket, .header true => some { reader with expected := .headerEnd path }
  | _, _ => none

def value (reader : Reader) : Token → Option Reader
  | .quoted text _ => reader.deliver (.string text) reader.frames
  | .openBracket => reader.push (.array []) .itemOrEnd
  | .openBrace => reader.push (.inline []) .memberOrEnd
  | .word word => some { reader with expected := .scalar word }
  | .dot => some { reader with expected := .scalar ['.'] }
  | _ => none

/-- Takes a line end or a comment before a value, which only the value of a member of a
table in braces may have there. -/
def beforeValue (reader : Reader) : Option Reader :=
  match reader.frames with
  | .binding _ :: .inline _ :: _ => some reader
  | _ => none

def close (reader : Reader) (token : Token) : Option Reader :=
  match token, reader.frames with
  | .closeBracket, .array items :: frames => reader.deliver (.array items.reverse) frames
  | .closeBrace, .inline members :: frames => reader.deliver (.table members.finish) frames
  | _, _ => none

def afterValue (reader : Reader) (token : Token) : Option Reader :=
  match reader.expected, token with
  | _, .blank _ => some reader
  | _, .comment => some reader
  | .lineEnd, .newline => some { reader with expected := .lineStart }
  | .commaOrEnd, .newline => some reader
  | .commaOrEnd, .comma =>
    match reader.frames with
    | .array _ :: _ => some { reader with expected := .itemOrEnd }
    | .inline _ :: _ => some { reader with expected := .memberOrEnd }
    | _ => none
  | .commaOrEnd, token => reader.close token
  | _, _ => none

def afterScalar (reader : Reader) (text : List Char) (token : Token) : Option Reader :=
  (reader.deliverScalar text).bind fun reader => reader.afterValue token

def step (reader : Reader) (token : Token) : Option Reader :=
  match reader.expected, token with
  | .lineStart, .blank _ => some reader
  | .lineStart, .newline => some reader
  | .lineStart, .comment => some reader
  | .lineStart, .openBracket => some { reader with expected := .headerStart }
  | .lineStart, token => reader.keyPart .line [] token
  | .headerStart, .openBracket => some { reader with expected := .keyPart (.header true) [] }
  | .headerStart, .blank _ => some { reader with expected := .keyPart (.header false) [] }
  | .headerStart, token => reader.keyPart (.header false) [] token
  | .keyPart _ _, .blank _ => some reader
  | .keyPart place path, token => reader.keyPart place path token
  | .keyEnd _ _, .blank _ => some reader
  | .keyEnd place path, token => reader.keyEnd place path token
  | .headerEnd path, .closeBracket =>
    (reader.root.openPath true path).map fun root =>
      { reader with root, header := path, expected := .lineEnd }
  | .headerEnd _, _ => none
  | .memberEquals _, .blank _ => some reader
  | .memberEquals _, .newline => some reader
  | .memberEquals _, .comment => some reader
  | .memberEquals path, .equals => some (reader.bindMember path)
  | .memberEquals _, _ => none
  | .value, .blank _ => some reader
  | .value, .newline => reader.beforeValue
  | .value, .comment => reader.beforeValue
  | .value, token => reader.value token
  | .itemOrEnd, .blank _ => some reader
  | .itemOrEnd, .newline => some reader
  | .itemOrEnd, .comment => some reader
  | .itemOrEnd, .closeBracket => reader.close .closeBracket
  | .itemOrEnd, token => reader.value token
  | .memberOrEnd, .blank _ => some reader
  | .memberOrEnd, .newline => some reader
  | .memberOrEnd, .comment => some reader
  | .memberOrEnd, .closeBrace => reader.close .closeBrace
  | .memberOrEnd, token => reader.keyPart .inline [] token
  | .scalar text, .word word => some { reader with expected := .scalar (text ++ word) }
  | .scalar text, .dot => some { reader with expected := .scalar (text ++ ['.']) }
  | .scalar text, .blank blank => some { reader with expected := .scalarGap text blank }
  | .scalar text, token => reader.afterScalar text token
  | .scalarGap text blank, .word word =>
    some { reader with expected := .scalar (text ++ blank ++ word) }
  | .scalarGap text _, token => reader.afterScalar text token
  | .commaOrEnd, token => reader.afterValue token
  | .lineEnd, token => reader.afterValue token

end Reader

/-- A mark of byte order at the start of a text does not count. -/
def dropByteOrderMark : List Char → List Char
  | '\uFEFF' :: rest => rest
  | text => text

/-- The table that a text writes, or `none` if the text is not well-formed. -/
def ofText? (text : String) : Option TomlTable := do
  let tokens ← Token.ofText? (dropByteOrderMark text.toList)
  let reader ← (tokens ++ [Token.newline]).foldlM Reader.step Reader.start
  match reader.expected with
  | .lineStart => some reader.root.finish
  | _ => none

end QueryMenu.Toml
