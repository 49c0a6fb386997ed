import QueryMenu.Config.Decode

namespace QueryMenu

/-! Finding and loading the configuration file.

A missing file is no error.  A file that cannot be read or does not fit is reported, and
the stock labels stand in for it.
-/

def joinPath (directory name : String) : String :=
  if directory.toList.getLast? = some '/' then directory ++ name else directory ++ "/" ++ name

inductive FileState where
  | missing
  | directory
  | file (content : ByteArray)

namespace FileState

inductive ReadError where
  | missing
  | directory
  | notUnicode
deriving DecidableEq, Repr

def ReadError.message : ReadError → String
  | .missing => "No such file or directory (os error 2)"
  | .directory => "Is a directory (os error 21)"
  | .notUnicode => "stream did not contain valid UTF-8"

def read : FileState → Except ReadError String
  | .missing => .error .missing
  | .directory => .error .directory
  | .file content =>
    match String.fromUTF8? content with
    | some text => .ok text
    | none => .error .notUnicode

end FileState

/-- Labels if a file was there and could be used, and what went wrong otherwise, by path. -/
structure LoadReport where
  labels : Option Labels := none
  errors : List (String × String) := []
deriving DecidableEq, Repr

namespace LoadReport

def labelsOrStock (report : LoadReport) : Labels :=
  report.labels.getD {}

end LoadReport

namespace Config

def fileName : String := "dropmenu.toml"

def load (path : String) : FileState → LoadReport
  | .missing => {}
  | state =>
    match state.read with
    | .error error =>
      { errors := [(path, "I/O error reading " ++ path ++ ": " ++ error.message)] }
    | .ok text =>
      match Labels.parse text with
      | .ok labels => { labels := some labels }
      | .error _ => { errors := [(path, "TOML parse error")] }

/-- The user's configuration directory: below the configured base directory if that is an
absolute path, and else below the home directory. -/
def defaultDirectory (home : String) (base : Option String) : String :=
  let base := match base.filter fun path => path.toList.head? = some '/' with
    | some path => path
    | none => joinPath home ".config"
  joinPath base "dropmenu"

end Config

end QueryMenu
