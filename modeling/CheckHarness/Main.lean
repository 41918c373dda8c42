import CheckHarness.Program

/-!
# The command line program

Reads the environment and the settings file, and prints what `Program.run` shows.
The printed lines go to standard output.  Warnings, the log and the error go to
standard error.
-/

namespace CheckHarness

/-- What a path of the file system leads to. -/
def lookupFile (path : String) : IO Lookup := do
  try
    let bytes ← IO.FS.readBinFile path
    return .file bytes.toList
  catch
    | .inappropriateType .. => return .directory
    | _ => return .missing

/-- What the path of the settings file leads to, the only path that is looked up. -/
def lookupConfig (words : List String) : IO (String → Lookup) := do
  match Invocation.ofWords words with
  | .ok { config := some path, .. } =>
    let found ← lookupFile path
    return fun asked => if asked = path then found else .missing
  | _ => return fun _ => .missing

end CheckHarness

open CheckHarness in
/-- Runs the program on the words of its command line. -/
def main (words : List String) : IO UInt32 := do
  let output := Program.run (← lookupConfig words) (← IO.getEnv "RUST_LOG") words
  IO.print (Program.textOf output.printed)
  for line in output.warnings do
    IO.eprintln line
  for line in output.log do
    IO.eprintln ("[" ++ line.level.name ++ "] " ++ line.message)
  for line in output.error do
    IO.eprintln line
  return UInt32.ofNat output.exit
