/-
# Scaffold.Console.Parameters -- the parameters of handlers

A handler tag may name what it calls and the arguments of that call: a name with dots, then the
arguments in parentheses, each part optional. The arguments are a term that writes a value out:
numbers with their sign, texts in quotes, constants, tuples, sets and tables. Nothing is computed,
so a name or an operator is a fault, and so is whatever does not fit together. `flaw?` finds what is
wrong with parameters, if anything is; what the values are does not matter to anybody.
-/

import Scaffold.Console.Parameters.Formatted
import Scaffold.Text.Blank

namespace Scaffold.Console.Parameters

/-! ## Arguments -/

/-- The arguments in parameters: what stands in parentheses behind a name, with the parentheses,
and no arguments behind a name alone. Parameters that have not this form are all arguments. -/
def arguments (parameters : Text) : Text :=
  let s := parameters.strip
  match s.span fun c => Text.isWordChar c || c = '.' with
  | (_, []) => "()".text
  | (_, chr '(' :: rest) =>
    if rest.getLast? = some (chr ')') && !rest.contains '\n' then chr '(' :: rest else s
  | _ => s

/-- A text in which every line ends with a line feed alone. -/
def withLineFeeds : Text → Text
  | chr '\r' :: chr '\n' :: s => chr '\n' :: withLineFeeds s
  | c :: s => (if c = '\r' then '\n' else c) :: withLineFeeds s
  | [] => []

/-! ## What can be wrong -/

/-- What is wrong with parameters. -/
inductive Flaw where
  /-- The arguments cannot be read. -/
  | unreadable (fault : Fault)
  /-- The arguments are no value. -/
  | worthless (fault : ValueFault)
  deriving DecidableEq, Repr

/-- What is said of parameters with a flaw. -/
def Flaw.message (parameters : Text) : Flaw → Text
  | unreadable fault =>
    "error parsing ".text ++ Text.quoted (arguments parameters) ++ " in ".text ++
      Text.quoted parameters ++ "; ".text ++ fault.message
  | worthless fault =>
    "error parsing ".text ++ Text.quoted parameters ++ "; ".text ++ fault.message

/-- The flaw of parameters. -/
def flaw? (parameters : Text) : Option Flaw :=
  let s := arguments parameters
  if s.contains '\x00' then some (.worthless .nul)
  else
    match readTerm .whole id (s.length + 1) 1 (withLineFeeds s) with
    | .error e => some (.unreadable e)
    | .ok term =>
      match term.value with
      | .error e => some (.worthless e)
      | .ok _ => none

end Scaffold.Console.Parameters
