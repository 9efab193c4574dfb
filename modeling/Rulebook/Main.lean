/-
**The program.**

The paths of the files of a project come from standard input, one a line.  These files, those of the
user's settings and those that the command line names are read into a tree; then the command runs,
and what comes of it is printed.
-/

import Rulebook.Cli.Run

set_option autoImplicit false

namespace Rulebook.Main

/-- The directory of the settings of the user. -/
def userDirectory : IO (Option String) := do
  let home := (← IO.getEnv "HOME").map fun home => Path.joinAll home [".config", "canon"]
  match ← IO.getEnv "XDG_CONFIG_HOME" with
  | some directory =>
    return if Path.isAbsolute directory then some (Path.join directory "canon") else home
  | none => return home

/-- The variables that stand for options. -/
def environment : IO (List (String × String)) := do
  let mut found := []
  for name in ["CANON_RULES_DIR", "CANON_TEMPLATES_DIR", "CANON_CONFIG"] do
    if let some value ← IO.getEnv name then found := (name, value) :: found
  return found

/-- Adds the file under a path, if it can be read. -/
def withFile (tree : FileTree) (path : String) : IO FileTree := do
  match ← (IO.FS.readBinFile path).toBaseIO with
  | .error _ => return tree
  | .ok bytes =>
    match String.fromUTF8? bytes with
    | some text => return tree.write path (.file (.text text))
    | none => return tree.write path (.file .binary)

/-- The lines of standard input. -/
def inputLines : IO (List String) := do
  let bytes ← (← IO.getStdin).readBinToEnd
  return (Text.lines ((String.fromUTF8? bytes).getD "").toList).map String.ofList

/-- The files that a command may read. -/
def files (named : List String) (user : Option String) : IO FileTree := do
  let settings := user.toList.flatMap fun directory =>
    Configuration.userFiles.map (Path.join directory)
  let paths := Configuration.projectFiles ++ settings ++ named ++ (← inputLines)
  paths.foldlM withFile (.empty (toString (← IO.currentDir)))

end Rulebook.Main

open Rulebook in
/-- Runs the command of the command line. -/
def main (arguments : List String) : IO UInt32 := do
  let settings ← Main.environment
  match Cli.Invocation.read? settings arguments with
  | none =>
    IO.eprintln Cli.usage
    return 2
  | some invocation =>
    let user ← Main.userDirectory
    let tree ← Main.files (arguments ++ settings.map Prod.snd) user
    let outcome := invocation.run tree user
    IO.print outcome.output
    for line in outcome.remarks ++ outcome.failureLines do
      IO.eprintln line
    return outcome.status.toUInt32
