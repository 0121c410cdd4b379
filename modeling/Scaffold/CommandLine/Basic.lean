/-
# Scaffold.CommandLine.Basic -- switches and arguments

The eight switches of the command line, their spellings, and what they leave behind. Four of them
take a value. A switch that takes a value is in one of three states afterwards: not given, given
with a text, or given without any: a value `--` that is written in one word with its switch marks
the end of the switches there and is no value (`Setting.empty`).
-/

import Scaffold.Text.Basic

namespace Scaffold.CommandLine

/-! ## Switches -/

/-- The switches of the command line. -/
inductive Switch where
  | help
  | version
  | model
  | fields
  | rest
  | tree
  | typed
  | output
  deriving DecidableEq, Repr

namespace Switch

/-- All switches, in the order in which they are documented. -/
def all : List Switch := [help, version, model, fields, rest, tree, typed, output]

/-- The spellings of a switch, the short one first. -/
def spellings : Switch → List Text
  | help => ["-h", "--help"].map String.text
  | version => ["--version"].map String.text
  | model => ["-m", "--model"].map String.text
  | fields => ["-f", "--fields"].map String.text
  | rest => ["-r", "--rest"].map String.text
  | tree => ["-t", "--tree"].map String.text
  | typed => ["--ts"].map String.text
  | output => ["-o", "--output"].map String.text

/-- Whether a switch takes a value. -/
def takesValue : Switch → Bool
  | model | fields | tree | output => true
  | help | version | rest | typed => false

/-- Every spelling with its switch, in the order in which they are documented. -/
def table : List (Text × Switch) := all.flatMap fun s => s.spellings.map fun t => (t, s)

/-- The switch with the given spelling. -/
def ofSpelling? (spelling : Text) : Option Switch := table.lookup spelling

/-- A switch as messages name it, by all its spellings. -/
def shown (s : Switch) : Text := Text.join '/' s.spellings

end Switch

/-! ## Arguments -/

/-- What is known of a switch that takes a value. -/
inductive Setting where
  /-- The switch was not given. -/
  | absent
  /-- The switch was given with the end mark in place of a value. -/
  | empty
  /-- The switch was given with a value. -/
  | value (text : Text)
  deriving DecidableEq, Repr

namespace Setting

/-- Whether the switch was given. -/
def isGiven : Setting → Bool
  | absent => false
  | _ => true

/-- The value, if there is one. -/
def text? : Setting → Option Text
  | value s => some s
  | _ => none

/-- The setting that a value written with its switch leaves behind. -/
def ofAttached (s : Text) : Setting := if s = "--".text then empty else value s

end Setting

/-- What a command line says. -/
structure Arguments where
  model : Setting := .absent
  fields : Setting := .absent
  rest : Bool := false
  tree : Setting := .absent
  typed : Bool := false
  output : Setting := .absent
  deriving DecidableEq, Repr

/-- The arguments with a switch added. Later values of a switch replace earlier ones; `help` and
`version` leave nothing behind. -/
def Arguments.add (a : Arguments) (s : Switch) (value : Setting) : Arguments :=
  match s with
  | .help | .version => a
  | .model => { a with model := value }
  | .fields => { a with fields := value }
  | .rest => { a with rest := true }
  | .tree => { a with tree := value }
  | .typed => { a with typed := true }
  | .output => { a with output := value }

end Scaffold.CommandLine
