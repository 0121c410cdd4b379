/-
# Scaffold.CommandLine.Parser -- reading a command line

A command line is read in two passes. The first says of each word what it is: a switch, the end
mark `--`, or an operand. A switch may be written out, abbreviated to any beginning that no other
long switch shares, or, with one dash, run together with the text that follows it; `=` separates a
long switch, or a short one, from a value in the same word. Behind the end mark every word is an
operand, and so are, before it, negative numbers, the single dash, and words with a space in them
that are no switch. A beginning that several long switches share is an error at once, whatever
stands before it.

The second pass goes through the words in order. A switch that takes a value takes it from its own
word or else from the next one, which must be an operand. No switch asks for operands of its own,
so an operand that is not taken this way is left over, as are unknown switches and the end mark;
what is left over is an error at the end. `help` and `version` end the reading where they stand,
after the words of errors before them.
-/

import Scaffold.CommandLine.Basic
import Scaffold.Text.Digit
import Scaffold.Text.Quoted

namespace Scaffold.CommandLine

/-! ## Errors -/

/-- What is wrong with a command line. -/
inductive UsageError where
  /-- The beginning of several long switches. -/
  | ambiguous (word : Text) (candidates : List Text)
  /-- A switch without the value that it takes. -/
  | valueMissing (s : Switch)
  /-- A value for a switch that takes none. -/
  | valueIgnored (s : Switch) (value : Text)
  /-- Words that nothing asked for. -/
  | leftOver (words : List Text)
  deriving DecidableEq, Repr

/-- What is said of an error. -/
def UsageError.message : UsageError → Text
  | ambiguous word candidates =>
    "ambiguous option: ".text ++ word ++ " could match ".text ++
      Text.joinWith ", ".text candidates
  | valueMissing s => "argument ".text ++ s.shown ++ ": expected one argument".text
  | valueIgnored s value =>
    "argument ".text ++ s.shown ++ ": ignored explicit argument ".text ++ Text.quoted value
  | leftOver words => "unrecognized arguments: ".text ++ Text.join ' ' words

/-! ## What a word is -/

/-- What a word of the command line is. -/
inductive Reading where
  | operand
  | endMark
  /-- A known switch with its full spelling and the value written in the same word. -/
  | switch (s : Switch) (spelling : Text) (attached : Option Text)
  /-- A word that looks like a switch and is none. -/
  | unknown
  deriving DecidableEq, Repr

/-- The two parts of a word around its first `=`, if it has one. -/
def splitAtEquals (word : Text) : Text × Option Text :=
  match word.span (· ≠ chr '=') with
  | (before, []) => (before, none)
  | (before, _ :: after) => (before, some after)

/-- The long switches that begin with the given text. -/
def candidates (beginning : Text) : List (Text × Switch) :=
  Switch.table.filter fun x => Text.beginsWith beginning x.1

/-- Whether a word is a dash and then the decimal digits of a number, with or without a point; a
line feed may follow. -/
def looksNegative (word : Text) : Bool :=
  let word := if word.getLast? = some (chr '\n') then word.dropLast else word
  match word with
  | chr '-' :: number =>
    match number.span (· ≠ chr '.') with
    | (whole, []) => whole ≠ [] && whole.all Text.isDigitChar
    | (whole, _ :: places) =>
      whole.all Text.isDigitChar && places ≠ [] && places.all Text.isDigitChar
  | _ => false

/-- What a word that is no complete switch stands for where it might still be one: a beginning of
long switches, or a short switch with its value behind it. -/
def readIncomplete (word : Text) : Except UsageError (Option Reading) :=
  match word with
  | chr '-' :: chr '-' :: _ =>
    let (beginning, attached) := splitAtEquals word
    match candidates beginning with
    | [] => .ok none
    | [(spelling, s)] => .ok (some (.switch s spelling attached))
    | several => .error (.ambiguous word (several.map Prod.fst))
  | chr '-' :: c :: attached =>
    match Switch.ofSpelling? [chr '-', c] with
    | some s => .ok (some (.switch s [chr '-', c] (some attached)))
    | none => .ok none
  | _ => .ok none

/-- What a word in front of the end mark is. -/
def readWord (word : Text) : Except UsageError Reading :=
  match word with
  | chr '-' :: _ :: _ =>
    let (before, attached) := splitAtEquals word
    match Switch.ofSpelling? word, Switch.ofSpelling? before with
    | some s, _ => .ok (.switch s word none)
    | none, some s => .ok (.switch s before attached)
    | none, none =>
      match readIncomplete word with
      | .error e => .error e
      | .ok (some reading) => .ok reading
      | .ok none =>
        if looksNegative word || word.contains ' ' then .ok .operand else .ok .unknown
  | _ => .ok .operand

/-- What each word of a command line is. -/
def readWords : List Text → Except UsageError (List (Text × Reading))
  | [] => .ok []
  | word :: words =>
    if word = "--".text then
      .ok ((word, .endMark) :: words.map fun w => (w, .operand))
    else
      match readWord word with
      | .error e => .error e
      | .ok reading =>
        match readWords words with
        | .error e => .error e
        | .ok readings => .ok ((word, reading) :: readings)

/-! ## What the words say -/

/-- What one word with switches comes to: the switches without value that it runs together, and
the last switch with the value that stands in the same word, if any. -/
structure Cluster where
  before : List Switch
  last : Switch
  attached : Option Text
  deriving DecidableEq, Repr

/-- Takes a word of switches apart. Only short switches can be run together. -/
def cluster (s : Switch) (short : Bool) : Option Text → Except UsageError Cluster
  | none => .ok ⟨[], s, none⟩
  | some attached =>
    if s.takesValue then .ok ⟨[], s, some attached⟩
    else
      match attached with
      | [] => .error (.valueIgnored s [])
      | c :: more =>
        if short then
          match Switch.ofSpelling? [chr '-', c] with
          | none => .error (.valueIgnored s (c :: more))
          | some s' =>
            if more = [] then .ok ⟨[s], s', none⟩
            else
              match cluster s' true (some more) with
              | .error e => .error e
              | .ok rest => .ok { rest with before := s :: rest.before }
        else .error (.valueIgnored s (c :: more))

/-- What a command line asks for. -/
inductive Command where
  /-- To show how the program is called. -/
  | help
  /-- To show the version. -/
  | version
  /-- To do something with the arguments. -/
  | run (arguments : Arguments)
  deriving DecidableEq, Repr

/-- Adds switches one after another; `help` or `version` among them decides. -/
def addAll (a : Arguments) : List (Switch × Setting) → Command
  | [] => .run a
  | (.help, _) :: _ => .help
  | (.version, _) :: _ => .version
  | (s, value) :: more => addAll (a.add s value) more

/-- A word of switches with the values that they get, and how many of the words behind it are
used up for that. -/
def settings (c : Cluster) (next : Option (Text × Reading)) :
    Except UsageError (List (Switch × Setting) × Nat) :=
  let before := c.before.map fun s => (s, Setting.absent)
  match c.attached with
  | some attached => .ok (before ++ [(c.last, .ofAttached attached)], 0)
  | none =>
    if c.last.takesValue then
      match next with
      | some (value, .operand) => .ok (before ++ [(c.last, .value value)], 1)
      | _ => .error (.valueMissing c.last)
    else .ok (before ++ [(c.last, .absent)], 0)

/-- Goes through the words, of which the first `done` are already accounted for, with the words
left over so far. -/
def interpretFrom (done : Nat) (a : Arguments) (leftOver : List Text) :
    List (Text × Reading) → Except UsageError Command
  | [] => if leftOver = [] then .ok (.run a) else .error (.leftOver leftOver)
  | (word, reading) :: rest =>
    match done with
    | done + 1 => interpretFrom done a leftOver rest
    | 0 =>
      match reading with
      | .switch s spelling attached =>
        match cluster s (!Text.beginsWith "--".text spelling) attached with
        | .error e => .error e
        | .ok c =>
          match settings c rest.head? with
          | .error e => .error e
          | .ok (added, used) =>
            match addAll a added with
            | .run a => interpretFrom used a leftOver rest
            | command => .ok command
      | _ => interpretFrom 0 a (leftOver ++ [word]) rest

/-- Reads a command line. -/
def parse (words : List Text) : Except UsageError Command :=
  match readWords words with
  | .error e => .error e
  | .ok readings => interpretFrom 0 {} [] readings

end Scaffold.CommandLine
