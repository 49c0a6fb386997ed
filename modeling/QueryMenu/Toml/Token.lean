import QueryMenu.Text.Basic
import QueryMenu.Toml.Value

namespace QueryMenu.Toml

/-! The tokens of a TOML text. -/

inductive Token where
  | dot
  | equals
  | comma
  | openBracket
  | closeBracket
  | openBrace
  | closeBrace
  | blank (text : List Char)
  | newline
  | comment
  /-- A quoted text.  A text in triple quotes cannot be a key. -/
  | quoted (text : String) (triple : Bool)
  /-- A run of other characters.  Behind its first one, a quote is a character like others. -/
  | word (text : List Char)
deriving DecidableEq, Repr

namespace Token

def punctuation? : Char → Option Token
  | '.' => some .dot
  | '=' => some .equals
  | ',' => some .comma
  | '[' => some .openBracket
  | ']' => some .closeBracket
  | '\x7b' => some .openBrace
  | '\x7d' => some .closeBrace
  | _ => none

def isBlank (c : Char) : Bool :=
  c = ' ' || c = '\t'

def isControl (c : Char) : Bool :=
  (c.toNat < 0x20 && c ≠ '\t') || c.toNat = 0x7F

def isWordChar (c : Char) : Bool :=
  !isBlank c && c ≠ '\n' && c ≠ '\r' && c ≠ '#' && (punctuation? c).isNone

def newline? : List Char → Option (List Char)
  | '\n' :: rest => some rest
  | '\r' :: '\n' :: rest => some rest
  | _ => none

/-- The character that a run of hexadecimal digits stands for. -/
def scalar? (digits : List Char) : Option Char := do
  let point ← Text.hexNumber? digits
  if point < 0xD800 ∨ (0xE000 ≤ point ∧ point < 0x110000) then some (Char.ofNat point) else none

def shortEscape? : Char → Option Char
  | 'b' => some '\x08'
  | 'e' => some '\x1b'
  | 'f' => some '\x0c'
  | 'n' => some '\n'
  | 'r' => some '\r'
  | 't' => some '\t'
  | '"' => some '"'
  | '\\' => some '\\'
  | _ => none

/-- The character that an escape stands for, read after its backslash, and how many
characters the escape takes. -/
def escape? : List Char → Option (Char × Nat)
  | [] => none
  | 'x' :: rest => numeric 2 rest
  | 'u' :: rest => numeric 4 rest
  | 'U' :: rest => numeric 8 rest
  | c :: _ => (shortEscape? c).map fun c => (c, 1)
where
  numeric (width : Nat) (rest : List Char) : Option (Char × Nat) :=
    if rest.length < width then none
    else (scalar? (rest.take width)).map fun c => (c, width + 1)

/-- A quoted text on one line, read after its opening quote. -/
def basic? (done : List Char) (text : List Char) : Option (List Char × List Char) :=
  match text with
  | [] => none
  | '"' :: rest => some (done.reverse, rest)
  | '\\' :: rest =>
    match escape? rest with
    | none => none
    | some (c, taken) => basic? (c :: done) (rest.drop taken)
  | c :: rest => if isControl c then none else basic? (c :: done) rest
termination_by text.length
decreasing_by all_goals (simp only [List.length_drop, List.length_cons]; omega)

/-- A text in single quotes on one line, read after its opening quote. -/
def literal? : (done : List Char) → List Char → Option (List Char × List Char)
  | _, [] => none
  | done, '\'' :: rest => some (done.reverse, rest)
  | done, c :: rest => if isControl c then none else literal? (c :: done) rest

/-- The end of a text in triple quotes: up to two more quotes belong to the text. -/
def tripleEnd (quote : Char) (done : List Char) : List Char → List Char × List Char
  | a :: b :: rest =>
    if a = quote ∧ b = quote then ((quote :: quote :: done).reverse, rest)
    else if a = quote then ((quote :: done).reverse, b :: rest)
    else (done.reverse, a :: b :: rest)
  | [a] => if a = quote then ((quote :: done).reverse, []) else (done.reverse, [a])
  | [] => (done.reverse, [])

def dropLines : List Char → List Char
  | [] => []
  | '\r' :: '\n' :: rest => dropLines rest
  | c :: rest => if isBlank c || c = '\n' then dropLines rest else c :: rest

theorem dropLines_length (text : List Char) : (dropLines text).length ≤ text.length := by
  fun_induction dropLines text <;> simp_all <;> omega

theorem newline?_shorter {text rest : List Char} (found : newline? text = some rest) :
    rest.length < text.length := by
  unfold newline? at found
  split at found
  · cases found
    simp only [List.length_cons]
    omega
  · cases found
    simp only [List.length_cons]
    omega
  · cases found

/-- What follows a backslash at the end of a line: the text from the next character that
is neither a blank nor a line end. -/
def afterLineEnd? (text : List Char) : Option (List Char) :=
  (newline? (text.dropWhile isBlank)).map dropLines

theorem afterLineEnd?_length {text rest : List Char} (found : afterLineEnd? text = some rest) :
    rest.length ≤ text.length := by
  obtain ⟨after, split, rfl⟩ := Option.map_eq_some_iff.1 found
  have blanks := (List.dropWhile_sublist (p := isBlank) (l := text)).length_le
  have lineEnd := newline?_shorter split
  have lines := dropLines_length after
  omega

/-- A text in triple double quotes, read after the opening ones.  Line ends are kept as
they are; a backslash at the end of a line joins the lines. -/
def tripleBasic? (done : List Char) (text : List Char) : Option (List Char × List Char) :=
  match text with
  | [] => none
  | '"' :: '"' :: '"' :: rest => some (tripleEnd '"' done rest)
  | '\\' :: rest =>
    match escape? rest with
    | some (c, taken) => tripleBasic? (c :: done) (rest.drop taken)
    | none =>
      match _found : afterLineEnd? rest with
      | some rest => tripleBasic? done rest
      | none => none
  | '\r' :: '\n' :: rest => tripleBasic? ('\n' :: '\r' :: done) rest
  | '\n' :: rest => tripleBasic? ('\n' :: done) rest
  | c :: rest => if isControl c then none else tripleBasic? (c :: done) rest
termination_by text.length
decreasing_by
  · simp only [List.length_drop, List.length_cons]
    omega
  · have := afterLineEnd?_length _found
    simp only [List.length_cons]
    omega
  · simp only [List.length_cons]
    omega
  · simp
  · simp

/-- A text in triple single quotes, read after the opening ones. -/
def tripleLiteral? : (done : List Char) → List Char → Option (List Char × List Char)
  | _, [] => none
  | done, '\'' :: '\'' :: '\'' :: rest => some (tripleEnd '\'' done rest)
  | done, '\r' :: '\n' :: rest => tripleLiteral? ('\n' :: '\r' :: done) rest
  | done, '\n' :: rest => tripleLiteral? ('\n' :: done) rest
  | done, c :: rest => if isControl c then none else tripleLiteral? (c :: done) rest

/-- A line end right after the opening triple quotes does not count. -/
def skipNewline (text : List Char) : List Char :=
  (newline? text).getD text

theorem basic?_shorter {done text content rest : List Char}
    (found : basic? done text = some (content, rest)) : rest.length < text.length := by
  fun_induction basic? done text with
  | case1 => simp at found
  | case2 => simp_all
  | case3 => simp at found
  | case4 done rest c taken escaped ih =>
    have := ih found
    simp only [List.length_drop, List.length_cons] at *
    omega
  | case5 => simp at found
  | case6 done c rest _ _ _ ih =>
    have := ih found
    simp only [List.length_cons]
    omega

theorem literal?_shorter {done text content rest : List Char}
    (found : literal? done text = some (content, rest)) : rest.length < text.length := by
  fun_induction literal? done text <;> simp_all
  omega

theorem tripleEnd_length (quote : Char) (done text : List Char) :
    (tripleEnd quote done text).2.length ≤ text.length := by
  unfold tripleEnd
  split
  · split
    · simp only [List.length_cons]
      omega
    · split <;> simp
  · split <;> simp
  · simp

theorem tripleBasic?_shorter {done text content rest : List Char}
    (found : tripleBasic? done text = some (content, rest)) : rest.length < text.length := by
  fun_induction tripleBasic? done text with
  | case1 => simp at found
  | case2 done rest =>
    have := tripleEnd_length '"' done rest
    simp_all only [Option.some.injEq, List.length_cons]
    omega
  | case3 done rest c taken escaped ih =>
    have := ih found
    simp only [List.length_drop, List.length_cons] at *
    omega
  | case4 done rest _ next lineEnd ih =>
    have := ih found
    have := afterLineEnd?_length lineEnd
    simp only [List.length_cons]
    omega
  | case5 => simp at found
  | case6 done rest ih =>
    have := ih found
    simp only [List.length_cons]
    omega
  | case7 done rest ih =>
    have := ih found
    simp only [List.length_cons]
    omega
  | case8 => simp at found
  | case9 =>
    rename_i ih
    have := ih found
    simp only [List.length_cons]
    omega

theorem tripleLiteral?_shorter {done text content rest : List Char}
    (found : tripleLiteral? done text = some (content, rest)) : rest.length < text.length := by
  fun_induction tripleLiteral? done text with
  | case1 => simp at found
  | case2 done rest =>
    have := tripleEnd_length '\'' done rest
    simp_all only [Option.some.injEq, List.length_cons]
    omega
  | case3 done rest ih =>
    have := ih found
    simp only [List.length_cons]
    omega
  | case4 done rest ih =>
    have := ih found
    simp only [List.length_cons]
    omega
  | case5 => simp at found
  | case6 =>
    rename_i ih
    have := ih found
    simp only [List.length_cons]
    omega

theorem skipNewline_length (text : List Char) : (skipNewline text).length ≤ text.length := by
  unfold skipNewline
  cases split : newline? text with
  | none => simp
  | some rest =>
    have := newline?_shorter split
    simp only [Option.getD_some]
    omega

def next? : List Char → Option (Token × List Char)
  | [] => none
  | '"' :: '"' :: '"' :: rest => (tripleBasic? [] (skipNewline rest)).map (quoted true)
  | '\'' :: '\'' :: '\'' :: rest => (tripleLiteral? [] (skipNewline rest)).map (quoted true)
  | '"' :: rest => (basic? [] rest).map (quoted false)
  | '\'' :: rest => (literal? [] rest).map (quoted false)
  | '#' :: rest => some (.comment, rest.dropWhile fun c => !isControl c)
  | '\n' :: rest => some (.newline, rest)
  | '\r' :: '\n' :: rest => some (.newline, rest)
  | c :: rest =>
    match punctuation? c with
    | some token => some (token, rest)
    | none =>
      if isBlank c then some (.blank (c :: rest.takeWhile isBlank), rest.dropWhile isBlank)
      else if isWordChar c then
        some (.word (c :: rest.takeWhile isWordChar), rest.dropWhile isWordChar)
      else none
where
  quoted (triple : Bool) : List Char × List Char → Token × List Char
    | (content, rest) => (.quoted (String.ofList content) triple, rest)

/-- A token takes at least one character. -/
theorem next?_shorter {text rest : List Char} {token : Token}
    (found : next? text = some (token, rest)) : rest.length < text.length := by
  unfold next? at found
  split at found
  · simp at found
  · rename_i after
    obtain ⟨⟨content, tail⟩, read, same⟩ := Option.map_eq_some_iff.1 found
    have := tripleBasic?_shorter read
    have := skipNewline_length after
    simp only [next?.quoted, Prod.mk.injEq] at same
    simp only [List.length_cons, ← same.2]
    omega
  · rename_i after
    obtain ⟨⟨content, tail⟩, read, same⟩ := Option.map_eq_some_iff.1 found
    have := tripleLiteral?_shorter read
    have := skipNewline_length after
    simp only [next?.quoted, Prod.mk.injEq] at same
    simp only [List.length_cons, ← same.2]
    omega
  · obtain ⟨⟨content, tail⟩, read, same⟩ := Option.map_eq_some_iff.1 found
    have := basic?_shorter read
    simp only [next?.quoted, Prod.mk.injEq] at same
    simp only [List.length_cons, ← same.2]
    omega
  · obtain ⟨⟨content, tail⟩, read, same⟩ := Option.map_eq_some_iff.1 found
    have := literal?_shorter read
    simp only [next?.quoted, Prod.mk.injEq] at same
    simp only [List.length_cons, ← same.2]
    omega
  · rename_i after
    have := (List.dropWhile_sublist (p := fun c => !isControl c) (l := after)).length_le
    simp only [Option.some.injEq, Prod.mk.injEq] at found
    simp only [List.length_cons, ← found.2]
    omega
  · simp only [Option.some.injEq, Prod.mk.injEq] at found
    simp [← found.2]
  · simp only [Option.some.injEq, Prod.mk.injEq] at found
    simp only [List.length_cons, ← found.2]
    omega
  · rename_i c after _ _ _ _ _ _ _
    have blanks := (List.dropWhile_sublist (p := isBlank) (l := after)).length_le
    have word := (List.dropWhile_sublist (p := isWordChar) (l := after)).length_le
    split at found
    · simp only [Option.some.injEq, Prod.mk.injEq] at found
      simp [← found.2]
    · split at found
      · simp only [Option.some.injEq, Prod.mk.injEq] at found
        simp only [List.length_cons, ← found.2]
        omega
      · split at found
        · simp only [Option.some.injEq, Prod.mk.injEq] at found
          simp only [List.length_cons, ← found.2]
          omega
        · simp at found

def ofText? (text : List Char) : Option (List Token) :=
  if text.isEmpty then some []
  else
    match _found : next? text with
    | none => none
    | some (token, rest) => (ofText? rest).map (token :: ·)
termination_by text.length
decreasing_by exact next?_shorter _found

end Token

end QueryMenu.Toml
