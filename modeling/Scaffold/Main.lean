/-
# Scaffold.Main -- the program at work

The outer layer: it holds the interview as long as it lacks answers, copies the part of the file
system that a plan looks at into a file tree, lets `Plan.run` work on that, and brings what was
put into the tree back to the file system. What is said and what is generated is decided by
`Scaffold.Program` alone.

The console is taken as a strict one that knows no emoji.
-/

import Scaffold.Program

namespace Scaffold.Main

/-! ## The surroundings of a run -/

/-- The characters of a text. -/
def written (s : Text) : String :=
  String.ofList (s.filterMap fun
    | chr c => some c
    | .surrogate _ => none)

/-- The console, as wide as the environment says, or of the usual width. -/
def screen : IO Console.Screen := do
  let columns ← IO.getEnv "COLUMNS"
  return { width := (columns.bind String.toNat?).getD 80, emoji := fun _ => none, isStrict := true }

/-- The variables of the environment that a run looks at. -/
def environment : IO Environment :=
  Config.Variable.all.filterMapM fun v => do
    let value ← IO.getEnv (written v.name)
    return value.map fun s => (v.name, s.text)

/-- The location of the working directory. -/
def workingDirectory : IO Location := do
  return (Path.ofText (← IO.currentDir).toString.text).parts

/-- Shows a text. -/
def say (text : Text) : IO Unit := do
  let out ← IO.getStdout
  out.putStr (written text)
  out.flush

/-- Reads lines for as long as an interview lacks answers, showing each question before its
answer is read. Returns the lines with what was shown. -/
partial def converse (screen : Console.Screen) (words : List Text) (env : Environment)
    (input shown : Text) : IO (Text × Text) := do
  match Program.awaiting? screen words env input with
  | none => return (input, shown)
  | some text =>
    say (text.drop shown.length)
    let line ← (← IO.getStdin).getLine
    if line.isEmpty then return (input, text)
    converse screen words env (input ++ line.text) text

/-! ## The file system -/

/-- A location as the file system knows it. -/
def place (l : Location) : String := written (chr '/' :: Text.join '/' l)

/-- What is at a location of the file system. -/
def entryAt? (l : Location) : IO (Option Entry) := do
  let path := (← IO.currentDir) / place l
  if ← path.isDir then return some .directory
  else if ← path.pathExists then return some (.file (← IO.FS.readBinFile path).toList)
  else return none

/-- The part of the file system that the given paths lead through. -/
def treeAround (paths : List Path) : IO FileTree := do
  let here ← workingDirectory
  let locations := ((Path.mk .here []) :: paths).flatMap (FileTree.passed here)
  let prefixes (l : Location) : List Location := (List.range l.length).map fun n => l.take (n + 1)
  let mut tree : FileTree := { workingDirectory := here }
  for l in (locations.flatMap prefixes).eraseDups do
    unless l.any fun name => name.contains (chr '\x00') do
      if let some e ← entryAt? l then tree := tree.put l e
  return tree

/-- Puts an entry into the file system. -/
def putEntry : Location × Entry → IO Unit
  | (l, .directory) => do IO.FS.createDir (place l)
  | (l, .file content) => do IO.FS.writeBinFile (place l) ⟨content.toArray⟩

/-! ## A run -/

/-- What a run says where it stops without a status. -/
def breakdownText : Program.Breakdown → Text
  | .markup e => e.message
  | .generation failure => failure.message
  | .fieldsEmpty => CommandLine.ArgumentFailure.fieldsEmptyMessage
  | .faulty faults => Text.join '\n' (faults.map fun f => f.kind.message)

/-- Shows what an outcome says beyond what was shown before, and gives its status. -/
def report (outcome : Program.Outcome) (shown : Text) : IO UInt32 := do
  say (outcome.output.drop shown.length)
  let complain (text : Text) : IO Unit := do (← IO.getStderr).putStr (written text)
  complain outcome.complaint
  match outcome.ending with
  | .status code => return code.toUInt32
  | .breakdown why =>
    complain (breakdownText why ++ [chr '\n'])
    return 1

end Scaffold.Main

open Scaffold in
/-- Runs the program. -/
def main (arguments : List String) : IO UInt32 := do
  let words := arguments.map String.text
  let env ← Main.environment
  let screen ← Main.screen
  let (input, shown) ← Main.converse screen words env [] []
  match Program.prepare screen words env input with
  | .ended ending said complaint => Main.report (Program.finish ending said complaint {}) shown
  | .planned plan said =>
    let before ← Main.treeAround plan.paths
    let outcome := plan.run screen said before
    for x in before.changesSince outcome.tree do Main.putEntry x
    Main.report outcome shown
