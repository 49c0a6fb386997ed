import QueryMenu.Json.Numeral
import QueryMenu.Text.Basic

namespace QueryMenu.Json

/-! The tokens of a JSON text. -/

inductive Token where
  | openArray
  | closeArray
  | openObject
  | closeObject
  | comma
  | colon
  | literal (value : Json)
  /-- A string; `none` if it holds a surrogate without a partner, and so is no text. -/
  | string (text : Option String)
deriving Repr

namespace Token

def isBlank (c : Char) : Bool :=
  c = ' ' || c = '\n' || c = '\t' || c = '\r'

def punctuation? : Char → Option Token
  | '[' => some .openArray
  | ']' => some .closeArray
  | '\x7b' => some .openObject
  | '\x7d' => some .closeObject
  | ',' => some .comma
  | ':' => some .colon
  | _ => none

/-- The characters of numerals and of the names of literals. -/
def isWordChar (c : Char) : Bool :=
  c.isAlphanum || c = '+' || c = '-' || c = '.'

def ofWord? (word : List Char) : Option Token :=
  if word = "null".toList then some (.literal .null)
  else if word = "true".toList then some (.literal (.bool true))
  else if word = "false".toList then some (.literal (.bool false))
  else (JsonNumber.ofText? word).map fun number => .literal (.number number)

/-- The character after a backslash, for the escapes of one letter. -/
def shortEscape? : Char → Option Char
  | '"' => some '"'
  | '\\' => some '\\'
  | '/' => some '/'
  | 'b' => some '\x08'
  | 'f' => some '\x0c'
  | 'n' => some '\n'
  | 'r' => some '\r'
  | 't' => some '\t'
  | _ => none

def isHighSurrogate (unit : Nat) : Bool :=
  0xD800 ≤ unit && unit < 0xDC00

def isLowSurrogate (unit : Nat) : Bool :=
  0xDC00 ≤ unit && unit < 0xE000

def isSurrogate (unit : Nat) : Bool :=
  isHighSurrogate unit || isLowSurrogate unit

inductive Piece where
  | char (c : Char)
  /-- A code unit of 16 bits, written as an escape. -/
  | unit (value : Nat)
deriving DecidableEq, Repr

/-- The pieces of a string after its opening quote, and the text after its closing one.
A bare control character is refused. -/
def pieces? : (done : List Piece) → List Char → Option (List Piece × List Char)
  | _, [] => none
  | done, '"' :: rest => some (done.reverse, rest)
  | done, '\\' :: 'u' :: a :: b :: c :: d :: rest =>
    match Text.hexNumber? [a, b, c, d] with
    | none => none
    | some unit => pieces? (.unit unit :: done) rest
  | done, '\\' :: c :: rest =>
    match shortEscape? c with
    | none => none
    | some escaped => pieces? (.char escaped :: done) rest
  | done, c :: rest => if c.toNat < 0x20 then none else pieces? (.char c :: done) rest

/-- What follows a string is shorter than what followed its opening quote. -/
theorem pieces?_shorter {done pieces : List Piece} {text rest : List Char}
    (found : pieces? done text = some (pieces, rest)) : rest.length < text.length := by
  fun_induction pieces? done text <;> simp_all <;> omega

/-- The characters of a string.  A high surrogate and the low one after it stand for one
character; with a surrogate on its own the string is no text. -/
def characters? : List Piece → Option (List Char)
  | [] => some []
  | .char c :: rest => (characters? rest).map (c :: ·)
  | .unit high :: .unit low :: rest =>
    if isHighSurrogate high && isLowSurrogate low then
      (characters? rest).map
        (Char.ofNat (0x10000 + (high - 0xD800) * 0x400 + (low - 0xDC00)) :: ·)
    else if isSurrogate high then none
    else (characters? (.unit low :: rest)).map (Char.ofNat high :: ·)
  | .unit unit :: rest =>
    if isSurrogate unit then none else (characters? rest).map (Char.ofNat unit :: ·)

def ofText? (text : List Char) : Option (List Token) :=
  match text with
  | [] => some []
  | c :: rest =>
    if isBlank c then ofText? rest
    else
      match punctuation? c with
      | some token => (ofText? rest).map (token :: ·)
      | none =>
        if c = '"' then
          match _found : pieces? [] rest with
          | none => none
          | some (pieces, after) =>
            (ofText? after).map (.string ((characters? pieces).map String.ofList) :: ·)
        else if isWordChar c then
          match ofWord? (c :: rest.takeWhile isWordChar) with
          | none => none
          | some token => (ofText? (rest.dropWhile isWordChar)).map (token :: ·)
        else none
termination_by text.length
decreasing_by
  · simp
  · simp
  · have := pieces?_shorter _found
    simp only [List.length_cons]
    omega
  · have := (List.dropWhile_sublist (p := isWordChar) (l := rest)).length_le
    simp only [List.length_cons]
    omega

end Token

end QueryMenu.Json
