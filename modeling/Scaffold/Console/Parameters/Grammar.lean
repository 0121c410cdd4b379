/-
# Scaffold.Console.Parameters.Grammar -- how terms are written

The grammar of the arguments of a handler: the rules by which tokens make terms. A rule has
alternatives, of which the first one that fits counts, and an alternative is a sequence of parts
with what they make. Some rules describe mistakes: they fit to what is often written wrongly, and
what they make is a fault. Most of them are looked at only when it is clear that something is wrong.

`Rule.alternatives` is the grammar; `Scaffold.Console.Parameters.Parsing` reads by it.
-/

import Scaffold.Console.Parameters.Term
import Scaffold.Console.Parameters.Token

namespace Scaffold.Console.Parameters

/-! ## Rules -/

/-- The names of the rules. -/
inductive Rule where
  | whole | field
  -- expressions
  | expressions | expression | plainExpression | yielded
  | starExpressions | starExpression | starNamedExpressions | starNamedExpression
  | assignment | namedExpression
  -- operators
  | disjunction | conjunction | inversion | comparison | comparisonPair
  | bitOr | bitXor | bitAnd | shift | sum | product | factor | power | awaited
  -- values
  | primary | atom | texts | group | tuple | set | table | entries | entry
  -- comprehensions
  | clauses | clause | generator | setComprehension | tableComprehension
  -- targets
  | targets | tupleTargets | target | targetAtom | nestedTarget | targetPrimary | targetGoesOn
  -- arguments
  | arguments | argumentList | namedArguments | starredArgument | namedOrStarred
  | namedOrDoubleStarred
  -- lambdas
  | lambda | lambdaHead | lambdaParameters | slashPlain | slashDefault | starParameters
  | doubleStarParameter | plainParameter | defaultParameter | parameter | parameterName | default
  -- mistakes
  | faultyExpression | faultyStatement | faultyNamed | faultyGroup | faultyEntries | faultyEntry
  | faultyComprehension | faultyTableComprehension | faultyClause | faultyArguments | faultyArgument
  | faultyHead | faultyHeadDefaults | faultyStar | faultyDoubleStar | faultyDefault
  deriving DecidableEq, Repr

/-- Whether a rule begins with itself. -/
def Rule.isLeftRecursive : Rule → Bool
  | bitOr | bitXor | bitAnd | shift | sum | product | primary | targetPrimary => true
  | _ => false

/-- Whether what a rule reads at a place is kept for the next time. -/
def Rule.isKept : Rule → Bool
  | expression | starExpression | disjunction | conjunction | inversion | factor | awaited | texts
  | arguments | target | targetAtom | faultyNamed => true
  | _ => false

/-- Whether a rule describes mistakes that are looked for only when something is wrong. The mistakes
in the entries of a table are looked for at once. -/
def Rule.isFaulty : Rule → Bool
  | faultyExpression | faultyStatement | faultyNamed | faultyGroup | faultyComprehension
  | faultyTableComprehension | faultyClause | faultyArguments | faultyArgument | faultyHead
  | faultyStar | faultyDoubleStar | faultyDefault => true
  | _ => false

/-! ## Parts -/

/-- What the parts of an alternative make, given the number of brackets that are open behind them:
a tree, or nothing, which means that the rule does not fit at all. -/
abbrev Make := Nat → List Tree → Except Fault (Option Tree)

mutual

/-- A part of an alternative. -/
inductive Part where
  /-- The token that is written so. -/
  | fixed (s : String)
  | name
  /-- A name with which a word begins that is a name in other places. -/
  | softWord
  | number
  | quoted
  /-- All texts in quotes that stand side by side. -/
  | texts
  | lineEnd
  | stop
  | rule (r : Rule)
  /-- One of several alternatives. -/
  | choice (alternatives : List Alternative)
  /-- One of several alternatives, or nothing. -/
  | option (alternatives : List Alternative)
  /-- One of several alternatives as often as possible, and at least so often. -/
  | many (least : Nat) (alternatives : List Alternative)
  /-- One of several alternatives as often as possible, with a token between each two. -/
  | separated (separator : String) (alternatives : List Alternative)
  /-- Whether one of several alternatives comes next, of which nothing is read. -/
  | ahead (expected : Bool) (alternatives : List Alternative)
  /-- The place behind which no other alternative counts. -/
  | commit

/-- An alternative: its parts and what they make. -/
inductive Alternative where
  | mk (parts : List Part) (make : Make)

end

/-! ## What parts make -/

/-- What the part with a number makes. -/
def pick (i : Nat) : Make := fun _ trees => .ok trees[i]?

/-- What all parts make. -/
def keep : Make := fun _ trees => .ok (some (.list trees))

/-- A term of the terms that the parts make. -/
def build (f : List Term → Term) : Make := fun _ trees => .ok (some (.term (f (termsOf trees))))

/-- A term of a kind. -/
def other (description : String) : Make := build fun _ => .other description.text

/-- A fault. -/
def fail (e : Fault) : Make := fun _ _ => .error e

/-- A fault that depends on the first of the terms that the parts make. -/
def failWith (f : Term → Fault) : Make := fun _ trees =>
  match termsOf trees with
  | t :: _ => .error (f t)
  | [] => .ok none

/-- A term of the first term that the parts make. -/
def buildOne (f : Term → Term) : Make := fun _ trees =>
  .ok ((termsOf trees).head?.map fun t => .term (f t))

/-- A term of the first two terms that the parts make. -/
def buildTwo (f : Term → Term → Term) : Make := fun _ trees =>
  match termsOf trees with
  | t :: u :: _ => .ok (some (.term (f t u)))
  | _ => .ok none

/-- A comparison. -/
def buildComparison : Make := fun _ trees =>
  match trees with
  | [.term t, .list (.list (.word s :: _) :: _)] => .ok (some (.term (.comparison t (s = "in"))))
  | _ => .ok none

/-- A call. -/
def buildCall : Make := fun _ trees =>
  match trees with
  | [.term t, _, arguments, _] =>
    .ok (some (.term (.call t (match arguments with | .nothing => true | _ => false))))
  | _ => .ok none

mutual

/-- The arguments in a tree: the number of those without a name, and the others. -/
def Tree.tally : Tree → Nat × List Bool
  | .term _ => (1, [])
  | .arguments positional spreads => (positional, spreads)
  | .list trees => tallyOf trees
  | _ => (0, [])

/-- The arguments in trees. -/
def tallyOf : List Tree → Nat × List Bool
  | [] => (0, [])
  | t :: trees => (t.tally.1 + (tallyOf trees).1, t.tally.2 ++ (tallyOf trees).2)

end

/-- The arguments that the parts make. -/
def buildArguments : Make := fun _ trees =>
  .ok (some (.arguments (tallyOf trees).1 (tallyOf trees).2))

/-- A single argument with a name, or behind two stars. -/
def buildNamed (spread : Bool) : Make := fun _ _ => .ok (some (.arguments 0 [spread]))

/-! ## Abbreviations -/

/-- The alternative of a single part. -/
def one (p : Part) : Alternative := ⟨[p], pick 0⟩

/-- An alternative of parts that are all kept. -/
def all (ps : List Part) : Alternative := ⟨ps, keep⟩

/-- One of several tokens. -/
def anyOf (words : List String) : Part := .choice (words.map fun s => one (.fixed s))

/-- A part that may be left out. -/
def Part.optional (p : Part) : Part := .option [one p]

/-- What comes next. -/
def Part.next (p : Part) : Part := .ahead true [one p]

/-- What does not come next. -/
def Part.notNext (p : Part) : Part := .ahead false [one p]

/-- An operator between two terms. -/
def binary (left : Rule) (operator : String) (right : Rule) (make : Make := other "expression") :
    Alternative :=
  ⟨[.rule left, .fixed operator, .rule right], make⟩

/-- A term of one or more terms that are joined by a word. -/
def joined (word : String) (r : Rule) : List Alternative :=
  [⟨[.rule r, .many 1 [all [.fixed word, .rule r]]], other "expression"⟩, one (.rule r)]

/-- One term, or a tuple of terms without parentheses. -/
def enumeration (r : Rule) : List Alternative :=
  [⟨[.rule r, .many 1 [all [.fixed ",", .rule r]], (Part.fixed ",").optional], build .tuple⟩,
   ⟨[.rule r, .fixed ","], build .tuple⟩, one (.rule r)]

/-- The conditions of a clause. -/
def conditions : Part := .many 0 [all [.fixed "if", .rule .disjunction]]

/-- An expression that is not the name in an assignment. -/
def argumentValue : Part :=
  .choice [one (.rule .assignment), ⟨[.rule .expression, (Part.fixed ":=").notNext], pick 0⟩]

/-- An argument without a name. -/
def positionalArgument : List Alternative :=
  [one (.rule .starredArgument), ⟨[argumentValue, (Part.fixed "=").notNext], pick 0⟩]

/-- A parameter of a lambda and what comes behind it. -/
def parameterEnding (ps : List Part) : List Alternative :=
  [all (ps ++ [.fixed ","]), all (ps ++ [(Part.fixed ":").next])]

/-- The parameters in front of a slash, with or without defaults. -/
def slashed : Part := .choice [one (.rule .slashPlain), one (.rule .slashDefault)]

/-! ## The grammar -/

/-- The names of statements of old that are now calls. -/
def formerStatements : List Text := ["print", "exec"].map String.text

/-- Whether a term is the name of a statement of old. -/
def Term.isFormerStatement : Term → Bool
  | name s => formerStatements.contains s
  | _ => false

/-- What two terms side by side make: a fault inside of brackets. -/
def sideBySide : Make := fun depth trees =>
  match termsOf trees with
  | t :: _ => if t.isFormerStatement || depth = 0 then .ok none else .error .missingComma
  | [] => .ok none

/-- What the name of a statement with something behind it makes. -/
def formerStatement : Make := fun _ trees =>
  match termsOf trees with
  | .name s :: _ =>
    if formerStatements.contains s then .error (.missingParentheses s) else .ok none
  | _ => .ok none

/-- What comprehensions behind arguments make: a fault where they are not the only ones. -/
def generatorAmongArguments : Make := fun _ trees =>
  match trees with
  | .arguments positional _ :: _ => if 1 < positional then .error .bareGenerator else .ok none
  | _ => .ok none

/-- What arguments behind others make. -/
def argumentsBehindNamed : Make := fun _ trees =>
  match trees with
  | .arguments _ spreads :: _ =>
    .error (if spreads.contains true then .positionalAfterStars else .positionalAfterKeyword)
  | _ => .ok none

/-- What a word with an equals sign makes. -/
def wordAssigned : Make := fun _ trees =>
  match trees with
  | .word s :: _ => .error (.noTarget s.text)
  | _ => .ok none

/-- What the target of a clause makes, if it is none. -/
def targetFault : Make := fun _ trees =>
  match termsOf trees with
  | t :: _ =>
    match t.noTarget? with
    | some u => .error (.noTarget u.description)
    | none => .ok none
  | [] => .ok none

/-- The alternatives of a rule. -/
def Rule.alternatives : Rule → List Alternative
  | whole => [⟨[.rule .expressions, .many 0 [one .lineEnd], .stop], pick 0⟩]
  | field => [one (.rule .starExpressions)]
  | expressions => enumeration .expression
  | expression =>
    [one (.rule .faultyExpression), one (.rule .faultyStatement),
     ⟨[.rule .disjunction, .fixed "if", .rule .disjunction, .fixed "else", .rule .expression],
      other "conditional expression"⟩,
     one (.rule .disjunction), one (.rule .lambda)]
  | plainExpression =>
    [⟨[.rule .disjunction, .fixed "if", .rule .disjunction, .fixed "else", .rule .expression],
      other "conditional expression"⟩,
     one (.rule .disjunction), one (.rule .lambda)]
  | yielded =>
    [⟨[.fixed "yield", .fixed "from", .rule .expression], other "yield expression"⟩,
     ⟨[.fixed "yield", (Part.rule .starExpressions).optional], other "yield expression"⟩]
  | starExpressions => enumeration .starExpression
  | starExpression =>
    [⟨[.fixed "*", .rule .bitOr], buildOne .starred⟩, one (.rule .expression)]
  | starNamedExpressions =>
    [all [.separated "," [one (.rule .starNamedExpression)], (Part.fixed ",").optional]]
  | starNamedExpression =>
    [⟨[.fixed "*", .rule .bitOr], buildOne .starred⟩, one (.rule .namedExpression)]
  | assignment => [⟨[.name, .fixed ":=", .commit, .rule .expression], other "named expression"⟩]
  | namedExpression =>
    [one (.rule .assignment), one (.rule .faultyNamed),
     ⟨[.rule .expression, (Part.fixed ":=").notNext], pick 0⟩]
  | disjunction => joined "or" .conjunction
  | conjunction => joined "and" .inversion
  | inversion => [⟨[.fixed "not", .rule .inversion], other "expression"⟩, one (.rule .comparison)]
  | comparison =>
    [⟨[.rule .bitOr, .many 1 [one (.rule .comparisonPair)]], buildComparison⟩, one (.rule .bitOr)]
  | comparisonPair =>
    [["=="], ["!="], ["<="], ["<"], [">="], [">"], ["not", "in"], ["in"], ["is", "not"], ["is"]].map
      fun words => all (words.map Part.fixed ++ [.rule .bitOr])
  | bitOr => [binary .bitOr "|" .bitXor, one (.rule .bitXor)]
  | bitXor => [binary .bitXor "^" .bitAnd, one (.rule .bitAnd)]
  | bitAnd => [binary .bitAnd "&" .shift, one (.rule .shift)]
  | shift => [binary .shift "<<" .sum, binary .shift ">>" .sum, one (.rule .sum)]
  | sum =>
    [binary .sum "+" .product (buildTwo .sum), binary .sum "-" .product (buildTwo .sum),
     one (.rule .product)]
  | product =>
    (["*", "/", "//", "%", "@"].map fun s => binary .product s .factor) ++ [one (.rule .factor)]
  | factor =>
    [⟨[.fixed "+", .rule .factor], buildOne .signed⟩,
     ⟨[.fixed "-", .rule .factor], buildOne .signed⟩,
     ⟨[.fixed "~", .rule .factor], other "expression"⟩, one (.rule .power)]
  | power => [binary .awaited "**" .factor, one (.rule .awaited)]
  | awaited => [⟨[.fixed "await", .rule .primary], other "await expression"⟩, one (.rule .primary)]
  | primary =>
    [⟨[.rule .primary, .fixed ".", .name], other "attribute"⟩,
     ⟨[.rule .primary, .rule .generator], buildOne fun t => .call t false⟩,
     ⟨[.rule .primary, .fixed "(", (Part.rule .arguments).optional, .fixed ")"], buildCall⟩,
     one (.rule .atom)]
  | atom =>
    [one .name, ⟨[.fixed "True"], build fun _ => .truth true⟩,
     ⟨[.fixed "False"], build fun _ => .truth false⟩, ⟨[.fixed "None"], build fun _ => .absent⟩,
     ⟨[Part.quoted.next, .rule .texts], pick 1⟩, one .number,
     ⟨[(Part.fixed "(").next,
       .choice [one (.rule .tuple), one (.rule .group), one (.rule .generator)]], pick 1⟩,
     ⟨[(Part.fixed leftBrace).next,
       .choice [one (.rule .table), one (.rule .set), one (.rule .tableComprehension),
         one (.rule .setComprehension)]], pick 1⟩,
     ⟨[.fixed "..."], build fun _ => .dots⟩]
  | texts => [one .texts]
  | group =>
    [⟨[.fixed "(", .choice [one (.rule .yielded), one (.rule .namedExpression)], .fixed ")"],
      pick 1⟩,
     one (.rule .faultyGroup)]
  | tuple =>
    [⟨[.fixed "(",
       .option [all [.rule .starNamedExpression, .fixed ",",
         (Part.rule .starNamedExpressions).optional]],
       .fixed ")"], build .tuple⟩]
  | set => [⟨[.fixed leftBrace, .rule .starNamedExpressions, .fixed rightBrace], build .set⟩]
  | table =>
    [⟨[.fixed leftBrace, (Part.rule .entries).optional, .fixed rightBrace], build .table⟩,
     ⟨[.fixed leftBrace, .rule .faultyEntries, .fixed rightBrace], pick 1⟩]
  | entries =>
    [all [.separated ","
        [⟨[.fixed "**", .rule .bitOr], buildOne .spread⟩, one (.rule .entry)],
      (Part.fixed ",").optional]]
  | entry => [⟨[.rule .expression, .fixed ":", .rule .expression], buildTwo .entry⟩]
  | clauses => [all [.many 1 [one (.rule .clause)]]]
  | clause =>
    [all [.fixed "async", .fixed "for", .rule .targets, .fixed "in", .commit, .rule .disjunction,
      conditions],
     all [.fixed "for", .rule .targets, .fixed "in", .commit, .rule .disjunction, conditions],
     one (.rule .faultyClause)]
  | generator =>
    [⟨[.fixed "(", argumentValue, .rule .clauses, .fixed ")"], other "generator expression"⟩,
     one (.rule .faultyComprehension)]
  | setComprehension =>
    [⟨[.fixed leftBrace, .rule .namedExpression, .rule .clauses, .fixed rightBrace],
      other "set comprehension"⟩,
     one (.rule .faultyComprehension)]
  | tableComprehension =>
    [⟨[.fixed leftBrace, .rule .entry, .rule .clauses, .fixed rightBrace],
      other "dict comprehension"⟩,
     one (.rule .faultyTableComprehension)]
  | targets =>
    [all [.rule .target, (Part.fixed ",").notNext],
     all [.rule .target, .many 0 [all [.fixed ",", .rule .target]], (Part.fixed ",").optional]]
  | tupleTargets =>
    [all [.rule .target, .many 1 [all [.fixed ",", .rule .target]], (Part.fixed ",").optional],
     all [.rule .target, .fixed ","]]
  | target =>
    [all [.fixed "*", .choice [all [(Part.fixed "*").notNext, .rule .target]]],
     one (.rule .targetAtom)]
  | targetAtom =>
    [all [.rule .targetPrimary, .fixed ".", .name, (Part.rule .targetGoesOn).notNext],
     one (.rule .nestedTarget)]
  | nestedTarget =>
    [one .name, all [.fixed "(", .rule .targetAtom, .fixed ")"],
     all [.fixed "(", (Part.rule .tupleTargets).optional, .fixed ")"]]
  | targetPrimary =>
    [⟨[.rule .targetPrimary, .fixed ".", .name, (Part.rule .targetGoesOn).next], pick 0⟩,
     ⟨[.rule .targetPrimary, .rule .generator, (Part.rule .targetGoesOn).next], pick 0⟩,
     ⟨[.rule .targetPrimary, .fixed "(", (Part.rule .arguments).optional, .fixed ")",
       (Part.rule .targetGoesOn).next], pick 0⟩,
     ⟨[.rule .atom, (Part.rule .targetGoesOn).next], pick 0⟩]
  | targetGoesOn => [one (.fixed "("), one (.fixed "["), one (.fixed ".")]
  | arguments =>
    [⟨[.rule .argumentList, (Part.fixed ",").optional, (Part.fixed ")").next], pick 0⟩,
     one (.rule .faultyArguments)]
  | argumentList =>
    [⟨[.separated "," positionalArgument, .option [all [.fixed ",", .rule .namedArguments]]],
      buildArguments⟩,
     ⟨[.rule .namedArguments], buildArguments⟩]
  | namedArguments =>
    [all [.separated "," [one (.rule .namedOrStarred)], .fixed ",",
       .separated "," [one (.rule .namedOrDoubleStarred)]],
     all [.separated "," [one (.rule .namedOrStarred)]],
     all [.separated "," [one (.rule .namedOrDoubleStarred)]]]
  | starredArgument =>
    [⟨[.fixed "*", .rule .expression], buildOne .starred⟩, ⟨[.fixed "*"], fail .bareStar⟩]
  | namedOrStarred =>
    [one (.rule .faultyArgument), ⟨[.name, .fixed "=", .rule .expression], buildNamed false⟩,
     one (.rule .starredArgument)]
  | namedOrDoubleStarred =>
    [one (.rule .faultyArgument), ⟨[.name, .fixed "=", .rule .expression], buildNamed false⟩,
     ⟨[.fixed "**", .rule .expression], buildNamed true⟩]
  | lambda =>
    [⟨[.fixed "lambda", (Part.rule .lambdaHead).optional, .fixed ":", .rule .expression],
      other "lambda"⟩]
  | lambdaHead => [one (.rule .faultyHead), one (.rule .lambdaParameters)]
  | lambdaParameters =>
    [all [.rule .slashPlain, .many 0 [one (.rule .plainParameter)],
       .many 0 [one (.rule .defaultParameter)], (Part.rule .starParameters).optional],
     all [.rule .slashDefault, .many 0 [one (.rule .defaultParameter)],
       (Part.rule .starParameters).optional],
     all [.many 1 [one (.rule .plainParameter)], .many 0 [one (.rule .defaultParameter)],
       (Part.rule .starParameters).optional],
     all [.many 1 [one (.rule .defaultParameter)], (Part.rule .starParameters).optional],
     one (.rule .starParameters)]
  | slashPlain =>
    [all [.many 1 [one (.rule .plainParameter)], .fixed "/", .fixed ","],
     all [.many 1 [one (.rule .plainParameter)], .fixed "/", (Part.fixed ":").next]]
  | slashDefault =>
    [all [.many 0 [one (.rule .plainParameter)], .many 1 [one (.rule .defaultParameter)],
       .fixed "/", .fixed ","],
     all [.many 0 [one (.rule .plainParameter)], .many 1 [one (.rule .defaultParameter)],
       .fixed "/", (Part.fixed ":").next]]
  | starParameters =>
    [one (.rule .faultyStar),
     all [.fixed "*", .rule .plainParameter, .many 0 [one (.rule .parameter)],
       (Part.rule .doubleStarParameter).optional],
     all [.fixed "*", .fixed ",", .many 1 [one (.rule .parameter)],
       (Part.rule .doubleStarParameter).optional],
     one (.rule .doubleStarParameter)]
  | doubleStarParameter =>
    [one (.rule .faultyDoubleStar), all [.fixed "**", .rule .plainParameter]]
  | plainParameter => parameterEnding [.rule .parameterName]
  | defaultParameter => parameterEnding [.rule .parameterName, .rule .default]
  | parameter => parameterEnding [.rule .parameterName, (Part.rule .default).optional]
  | parameterName => [one .name]
  | default => [all [.fixed "=", .rule .expression], one (.rule .faultyDefault)]
  | faultyExpression =>
    [⟨[.ahead false [all [.name, .quoted], one .softWord], .rule .disjunction,
       .rule .plainExpression], sideBySide⟩,
     ⟨[.rule .disjunction, .fixed "if", .rule .disjunction, (anyOf ["else", ":"]).notNext],
      fail .missingElse⟩]
  | faultyStatement =>
    [⟨[.name, (Part.fixed "(").notNext, .rule .starExpressions], formerStatement⟩]
  | faultyNamed =>
    [⟨[.rule .expression, .fixed ":=", .rule .expression],
      failWith fun t => .unnamed t.description⟩,
     ⟨[.name, .fixed "=", .rule .bitOr, (anyOf ["=", ":="]).notNext], fail .nameAssigned⟩,
     ⟨[.ahead false ([.rule .tuple, .rule .generator, anyOf ["True", "None", "False"]].map one),
       .rule .bitOr, .fixed "=", .rule .bitOr, (anyOf ["=", ":="]).notNext],
      failWith fun t => .assigned t.description⟩]
  | faultyGroup =>
    [⟨[.fixed "(", .rule .starredArgument, .fixed ")"], fail .starredGroup⟩,
     ⟨[.fixed "(", .fixed "**", .rule .expression, .fixed ")"], fail .doubleStarredGroup⟩]
  | faultyEntries =>
    [all [.separated ","
        [⟨[.fixed "**", .rule .bitOr], buildOne .spread⟩, one (.rule .entry)],
       .fixed ",", .rule .faultyEntry],
     ⟨[.rule .expression, .fixed ":", .fixed "*", .rule .bitOr], fail .starredValue⟩,
     ⟨[.rule .expression, .fixed ":", (anyOf [rightBrace, ","]).next], fail .missingValue⟩]
  | faultyEntry =>
    [⟨[.rule .expression, (Part.fixed ":").notNext], fail .missingColon⟩,
     ⟨[.rule .expression, .fixed ":", .fixed "*", .rule .bitOr], fail .starredValue⟩,
     ⟨[.rule .expression, .fixed ":", (anyOf [rightBrace, ","]).next], fail .missingValue⟩]
  | faultyComprehension =>
    [⟨[anyOf ["[", "(", leftBrace], .rule .starredArgument, .rule .clauses],
      fail .starredComprehension⟩,
     ⟨[anyOf ["[", leftBrace], .rule .starNamedExpression, .fixed ",", .rule .starNamedExpressions,
       .rule .clauses], fail .bareTarget⟩,
     ⟨[anyOf ["[", leftBrace], .rule .starNamedExpression, .fixed ",", .rule .clauses],
      fail .bareTarget⟩]
  | faultyTableComprehension =>
    [⟨[.fixed leftBrace, .fixed "**", .rule .bitOr, .rule .clauses, .fixed rightBrace],
      fail .doubleStarredComprehension⟩]
  | faultyClause =>
    [⟨[(Part.fixed "async").optional, .fixed "for", .rule .starExpressions], targetFault⟩]
  | faultyArguments =>
    [⟨[.choice [all [.separated "," positionalArgument, .fixed ",", .rule .namedArguments],
         one (.rule .namedArguments)],
       .fixed ",",
       .separated "," [⟨[.rule .starredArgument, (Part.fixed "=").notNext], pick 0⟩]],
      fail .starAfterStars⟩,
     ⟨[.rule .expression, .rule .clauses, .fixed ",",
       .option [one (.rule .argumentList), all [.rule .expression, .rule .clauses]]],
      fail .bareGenerator⟩,
     ⟨[.name, .fixed "=", .rule .expression, .rule .clauses], fail .nameAssigned⟩,
     ⟨[.rule .argumentList, .rule .clauses], generatorAmongArguments⟩,
     ⟨[.rule .argumentList, .fixed ",", .rule .expression, .rule .clauses], fail .bareGenerator⟩,
     ⟨[.rule .argumentList, .fixed ",", .rule .argumentList], argumentsBehindNamed⟩]
  | faultyArgument =>
    [⟨[anyOf ["True", "False", "None"], .fixed "="], wordAssigned⟩,
     ⟨[.name, .fixed "=", .rule .expression, .rule .clauses], fail .nameAssigned⟩,
     ⟨[.ahead false [all [.name, .fixed "="]], .rule .expression, .fixed "="],
      fail .argumentAssigned⟩]
  | faultyHead =>
    [⟨[.many 0 [one (.rule .plainParameter)], .rule .faultyHeadDefaults, .rule .plainParameter],
      fail .missingLaterDefault⟩,
     ⟨[.many 0 [one (.rule .plainParameter)], .fixed "(",
       .separated "," [one (.rule .parameterName)], (Part.fixed ",").optional, .fixed ")"],
      fail .parenthesizedParameters⟩,
     ⟨[.fixed "/", .fixed ","], fail .slashFirst⟩,
     ⟨[slashed, .many 0 [one (.rule .parameter)], .fixed "/"], fail .secondSlash⟩,
     ⟨[slashed.optional, .many 0 [one (.rule .parameter)], .fixed "*",
       .choice [one (.fixed ","), one (.rule .plainParameter)], .many 0 [one (.rule .parameter)],
       .fixed "/"], fail .slashAfterStar⟩,
     ⟨[.many 1 [one (.rule .parameter)], .fixed "/", .fixed "*"], fail .slashBeforeStar⟩]
  | faultyHeadDefaults =>
    [one (.rule .slashDefault), all [.many 1 [one (.rule .defaultParameter)]]]
  | faultyStar =>
    [⟨[.fixed "*", .choice [one (.fixed ":"), all [.fixed ",", anyOf [":", "**"]]]],
      fail .bareParameterStar⟩,
     ⟨[.fixed "*", .rule .parameterName, .fixed "="], fail .starredDefault⟩,
     ⟨[.fixed "*", .choice [one (.rule .plainParameter), one (.fixed ",")],
       .many 0 [one (.rule .parameter)], .fixed "*",
       .choice [one (.rule .plainParameter), one (.fixed ",")]], fail .secondStar⟩]
  | faultyDoubleStar =>
    [⟨[.fixed "**", .rule .parameterName, .fixed "="], fail .doubleStarredDefault⟩,
     ⟨[.fixed "**", .rule .parameterName, .fixed ",", .rule .parameterName],
      fail .behindDoubleStarred⟩,
     ⟨[.fixed "**", .rule .parameterName, .fixed ",", anyOf ["*", "**", "/"]],
      fail .behindDoubleStarred⟩]
  | faultyDefault => [⟨[.fixed "=", (anyOf [")", ","]).next], fail .missingDefault⟩]

end Scaffold.Console.Parameters
