import QueryMenu.Toml.Scalar

namespace QueryMenu.Toml

/-! Which values of a document have a meaning of their own.

A number may have none.  A table may stand for a date or time, which then is written as a
text under a name kept for it, and such a table means something exactly when the text is
one of a date or time.  The name only counts where it comes first among the names of its
table, and a document as a whole never stands for a date.
-/

/-- The name under which a table that stands for a date or time holds its text. -/
def datetimeName : String := "$__toml_private_datetime"

/-- What stands for a date or time in a table whose first name is the one kept for it.  The
other members of such a table mean nothing. -/
def datetimeText? (members : TomlTable) : Option Toml :=
  if members.all fun member => datetimeName ≤ member.1 then members.lookup datetimeName
  else none

/-- A text that would be a date or time without its quotes. -/
def isDatetimeText : Toml → Bool
  | .string text => Scalar.isDatetime text.toList
  | _ => false

mutual

/-- Every number and every date in the value has a meaning. -/
def isReadable : Toml → Bool
  | .array items => areReadable items
  | .table members =>
    match datetimeText? members with
    | some value => value.isDatetimeText
    | none => haveReadable members
  | .unreadable => false
  | _ => true

def areReadable : List Toml → Bool
  | [] => true
  | item :: rest => item.isReadable && areReadable rest

def haveReadable : TomlTable → Bool
  | [] => true
  | (_, value) :: rest => value.isReadable && haveReadable rest

end

end QueryMenu.Toml
