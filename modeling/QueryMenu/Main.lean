import QueryMenu.CommandLine

namespace QueryMenu

/-! The command line: the file system and the standard streams around `CommandLine.execute`. -/

def findFile (path : String) : IO FileState := do
  try
    return .file (← IO.FS.readBinFile path)
  catch error =>
    match error with
    | .noFileOrDirectory .. => return .missing
    | _ => return .directory

def runCommand (arguments : List String) : IO UInt32 := do
  let home := (← IO.getEnv "HOME").getD ""
  let base ← IO.getEnv "XDG_CONFIG_HOME"
  let outcome ← CommandLine.execute findFile (Config.defaultDirectory home base) arguments
  IO.print outcome.output
  if let some error := outcome.error then
    IO.eprintln ("Error: " ++ error)
  return outcome.exitCode.toUInt32

end QueryMenu

def main (arguments : List String) : IO UInt32 :=
  QueryMenu.runCommand arguments
