/-
# Scaffold.Text.Shell -- words of a shell

Writes a list of words as one line that a POSIX shell takes apart into the same words, and takes
such lines apart. A word of harmless characters is written as it is; any other, the empty word
included, goes into single quotes, and a single quote inside it is written between double quotes
of its own.

The reader knows blanks between words, single quotes, double quotes with their two escapes, and
the backslash. It knows no variables, no comments and no operators.
-/

import Scaffold.Text.Basic

namespace Scaffold.Text.Shell

/-! ## Writing -/

/-- Characters besides letters and digits that mean nothing to a shell. -/
def harmlessMarks : Text := "_@%+=:,./-".text

/-- Whether a character means nothing to a shell: ASCII letters and digits and a few marks. -/
def isHarmless (c : CodePoint) : Bool := c.isAlphanum || harmlessMarks.contains c

/-- A character inside single quotes. A single quote ends them, stands between double quotes, and
begins them again. -/
def quotedChar (c : CodePoint) : Text := if c = '\'' then "'\"'\"'".text else [c]

/-- Writes a word. -/
def writeWord (s : Text) : Text :=
  if s ≠ [] && s.all isHarmless then s else chr '\'' :: s.flatMap quotedChar ++ [chr '\'']

/-- Writes words with a space between each two. -/
def write (words : List Text) : Text := Text.join ' ' (words.map writeWord)

/-! ## Reading -/

/-- Where a reader stands inside a line. -/
inductive State where
  /-- Between words. -/
  | between
  /-- In a word, outside quotes. -/
  | word
  /-- Behind a backslash outside quotes. -/
  | escape
  /-- Inside single quotes. -/
  | single
  /-- Inside double quotes. -/
  | double
  /-- Behind a backslash inside double quotes. -/
  | doubleEscape
  deriving DecidableEq, Repr

/-- Whether a character separates words. -/
def isSeparator (c : CodePoint) : Bool := c = ' ' || c = '\t' || c = '\r' || c = '\n'

/-- Where a character leads that has no quotes around it. -/
def opening (c : CodePoint) : Option State :=
  if c = '\\' then some .escape
  else if c = '\'' then some .single
  else if c = '"' then some .double
  else none

/-- Reads on from a state with the part of a word that is already read. There is no result where
the line ends inside quotes or behind a backslash. -/
def readFrom (state : State) (part : Text) : Text → Option (List Text)
  | [] =>
    match state with
    | .between => some []
    | .word => some [part]
    | _ => none
  | c :: s =>
    match state with
    | .between =>
      if isSeparator c then readFrom .between [] s
      else
        match opening c with
        | some state => readFrom state [] s
        | none => readFrom .word [c] s
    | .word =>
      if isSeparator c then (part :: ·) <$> readFrom .between [] s
      else
        match opening c with
        | some state => readFrom state part s
        | none => readFrom .word (part ++ [c]) s
    | .escape => readFrom .word (part ++ [c]) s
    | .single => if c = '\'' then readFrom .word part s else readFrom .single (part ++ [c]) s
    | .double =>
      if c = '"' then readFrom .word part s
      else if c = '\\' then readFrom .doubleEscape part s
      else readFrom .double (part ++ [c]) s
    | .doubleEscape =>
      if c = '"' || c = '\\' then readFrom .double (part ++ [c]) s
      else readFrom .double (part ++ [chr '\\', c]) s

/-- The words of a line. -/
def read? (line : Text) : Option (List Text) := readFrom .between [] line

end Scaffold.Text.Shell
