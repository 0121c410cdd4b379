/-
# Scaffold.Console.Parameters.Term -- what parameters write

The arguments of a handler are terms. Of a term only that is kept which decides whether it is a
value written out, and what is said where it stands in the wrong place.

`Term.value` is the value of a term: numbers with their sign, texts, the three constants and the
three dots, tuples, sets and tables of values. What would have to be computed has none, apart from
complex numbers, which are written as sums. Of a value only that matters which may be wrong with
it: sets and tables cannot be members of sets or keys of tables.
-/

import Scaffold.Console.Parameters.Numeral

namespace Scaffold.Console.Parameters

/-! ## Terms -/

/-- A term. -/
inductive Term where
  | name (s : Text)
  /-- The absent value. -/
  | absent
  | truth (b : Bool)
  /-- Three dots. -/
  | dots
  | number (n : Number)
  /-- A text, or octets. -/
  | text
  /-- A text with fields. -/
  | formatted
  | tuple (terms : List Term)
  | set (terms : List Term)
  | table (entries : List Term)
  /-- An entry of a table. -/
  | entry (key value : Term)
  /-- The entries of a table from elsewhere. -/
  | spread (table : Term)
  /-- A call, which is bare without arguments. -/
  | call (called : Term) (bare : Bool)
  /-- A term behind a plus or minus. -/
  | signed (term : Term)
  /-- A sum or difference. -/
  | sum (left right : Term)
  /-- A comparison: its first term, and whether that is compared to the members of something. -/
  | comparison (first : Term) (membership : Bool)
  | starred (term : Term)
  /-- A term of another kind. -/
  | other (description : Text)
  deriving Repr

/-- What a term is called. -/
def Term.description : Term → Text
  | name _ => "name".text
  | absent => "None".text
  | truth true => "True".text
  | truth false => "False".text
  | dots => "ellipsis".text
  | number _ | text => "literal".text
  | formatted => "f-string expression".text
  | tuple _ => "tuple".text
  | set _ => "set display".text
  | table _ => "dict literal".text
  | call _ _ => "function call".text
  | signed _ | sum _ _ => "expression".text
  | comparison _ _ => "comparison".text
  | starred _ => "starred".text
  | other description => description
  | entry _ _ | spread _ => []

/-! ## Targets -/

mutual

/-- The first term in a term that cannot be a target of a loop, if there is one. -/
def Term.noTarget? : Term → Option Term
  | .name _ => none
  | .tuple terms => noTargetAmong? terms
  | .starred term => term.noTarget?
  | .comparison first membership => if membership then first.noTarget? else none
  | term => if term.description = "attribute".text then none else some term

/-- The first of several terms that cannot be targets of a loop. -/
def noTargetAmong? : List Term → Option Term
  | [] => none
  | term :: terms =>
    match term.noTarget? with
    | some t => some t
    | none => noTargetAmong? terms

end

/-! ## Values -/

/-- A number with an optional sign. -/
def Term.number? : Term → Option Number
  | number n | signed (.number n) => some n
  | _ => none

/-- Checks that a number may be the real part of a complex one. -/
def Number.checkReal : Number → Except ValueFault Unit
  | whole n => if inexactLimit ≤ n then .error .tooLarge else .ok ()
  | inexact => .ok ()
  | imaginary => .error .notLiteral

/-- Checks that a value may be a member of a set or a key of a table. -/
def checkHashable : Option Unhashable → Except ValueFault Unit
  | some kind => .error (.unhashable kind)
  | none => .ok ()

mutual

/-- The value of a term, of which is told what in it, if anything, can be neither a member of a set
nor a key of a table. -/
def Term.value : Term → Except ValueFault (Option Unhashable)
  | .absent | .truth _ | .dots | .number _ | .text | .signed (.number _) => .ok none
  | .tuple terms => tupleValue terms
  | .set terms =>
    match checkMembers terms with
    | .ok () => .ok (some .set)
    | .error e => .error e
  | .table entries =>
    match checkEntries entries with
    | .ok () => .ok (some .table)
    | .error e => .error e
  | .call (.name s) true => if s = "set".text then .ok (some .set) else .error .notLiteral
  | .sum left (.number .imaginary) =>
    match left.number? with
    | some n => (fun _ => none) <$> n.checkReal
    | none => .error .notLiteral
  | _ => .error .notLiteral

/-- The value of a tuple. -/
def tupleValue : List Term → Except ValueFault (Option Unhashable)
  | [] => .ok none
  | term :: terms =>
    match term.value, tupleValue terms with
    | .error e, _ => .error e
    | .ok _, .error e => .error e
    | .ok kind, .ok kinds => .ok (kind.orElse fun _ => kinds)

/-- Checks that the values of terms may be the members of a set. -/
def checkMembers : List Term → Except ValueFault Unit
  | [] => .ok ()
  | term :: terms =>
    match term.value with
    | .error e => .error e
    | .ok kind =>
      match checkHashable kind with
      | .error e => .error e
      | .ok () => checkMembers terms

/-- Checks that the values of terms may be the entries of a table. -/
def checkEntries : List Term → Except ValueFault Unit
  | [] => .ok ()
  | .entry key value :: terms =>
    match key.value, value.value with
    | .error e, _ => .error e
    | .ok _, .error e => .error e
    | .ok kind, .ok _ =>
      match checkHashable kind with
      | .error e => .error e
      | .ok () => checkEntries terms
  | .spread _ :: _ => .error .noKey
  | _ :: _ => .error .notLiteral

end

/-! ## Trees -/

/-- What is read by a part of the grammar. -/
inductive Tree where
  /-- Nothing, where a part is left out. -/
  | nothing
  /-- A token that is always written in the same way. -/
  | word (s : String)
  | term (t : Term)
  | list (trees : List Tree)
  /-- The arguments of a call: the number of those without a name, and for each of the others
  whether it is given by two stars. -/
  | arguments (positional : Nat) (spreads : List Bool)
  deriving Repr

mutual

/-- The terms in a tree. -/
def Tree.terms : Tree → List Term
  | .term t => [t]
  | .list trees => termsOf trees
  | _ => []

/-- The terms in trees. -/
def termsOf : List Tree → List Term
  | [] => []
  | t :: trees => t.terms ++ termsOf trees

end

end Scaffold.Console.Parameters
