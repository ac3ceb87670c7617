import EdgeRouting.CommandLine.Program

/-!
# The command line

Reads the arguments, the environment and the files, runs the program and prints its result.  It
keeps no log.
-/

namespace EdgeRouting.Shell

/-- The variables that have a say, with the values that they have. -/
def environment : IO Environment := do
  let mut found : List (String × String) := []
  for name in Parameter.all.filterMap Parameter.environmentName? do
    if let some value ← IO.getEnv name then
      found := (name, value) :: found
  let values := found
  return fun name => KeyMap.findEntry name values

/-- Why a file could not be read.  An error names the path if the file could not even be opened. -/
def fileError : IO.Error → FileError
  | .noFileOrDirectory _ _ _ => .notFound
  | .inappropriateType (some _) _ _ => .notADirectory
  | .inappropriateType none _ _ => .directory
  | .invalidArgument _ _ _ => .nameTooLong
  | _ => .denied

def readText (path : String) : IO (Except FileError String) := do
  if path.toList.contains '\x00' then
    return .error .invalidName
  try
    match String.fromUTF8? (← IO.FS.readBinFile path) with
    | some text => return .ok text
    | none => return .error .notText
  catch error =>
    return .error (fileError error)

def readFiles (options : Options) : IO Files := do
  let mut found : List (String × Except FileError String) := []
  for path in options.ingress :: options.resources do
    found := (path, ← readText path) :: found
  let texts := found
  return fun path => (KeyMap.findEntry path texts).getD (.error .notFound)

end EdgeRouting.Shell

open EdgeRouting in
def main (words : List String) : IO UInt32 := do
  let environment ← Shell.environment
  let files ← match Options.parse environment words with
    | .ok options => Shell.readFiles options
    | .error _ => pure fun _ => .error .notFound
  let result := Program.run files environment words
  IO.print (Program.stdout [] result)
  if let .error error := result then
    IO.eprintln ("Error: " ++ error.message?.getD "the arguments are refused")
  return UInt32.ofNat (Program.exitCode result)
