/-
# Scaffold.Console.Parameters.Parsing -- reading tokens by the grammar

Reads tokens by the rules of the grammar: the first alternative that fits counts, and what some
rules read at a place is kept for the next time. A rule that begins with itself first fits without
that and then grows, one round after the other.

Tokens are read twice at most. The first time without the rules that describe mistakes; only where
that fails they are looked at. `parse` says what is wrong then. The fault of a mistake counts less
than what is certainly wrong with the tokens behind it.

The readers take a number of steps that bounds how deeply they call each other; `parse` gives them
more than they can use.
-/

import Scaffold.Console.Parameters.Grammar

namespace Scaffold.Console.Parameters

/-! ## States -/

/-- What a rule has read at a place, and where that ends. -/
structure Kept where
  rule : Rule
  tree : Option Tree
  stop : Nat

/-- How far the reading has come. -/
structure State where
  position : Nat := 0
  /-- The number of tokens that have been looked at. -/
  reach : Nat := 0
  /-- What is kept, for each place. -/
  kept : Array (List Kept)
  /-- Whether the rules that describe mistakes are looked at. -/
  faulty : Bool := false

/-- What comes out of reading. -/
inductive Outcome where
  | found (tree : Tree) (s : State)
  /-- Nothing fits; `final` says that no other alternative counts. -/
  | absent (s : State) (final : Bool)
  /-- A fault, with the number of tokens that have been looked at, unless it is where the tokens
  end. -/
  | stopped (fault : Fault) (reach : Option Nat)

/-- What is read, how texts in quotes that stand side by side make a term, and how faults that are
found in reading are told. -/
structure Source where
  list : TokenList
  join : List Quoted → Except Fault Term
  tell : Fault → Fault

/-- The state at another place. -/
def State.at (s : State) (position : Nat) : State := { s with position }

/-- What a rule is known to read at the place. -/
def State.known? (s : State) (r : Rule) : Option Kept :=
  (s.kept.getD s.position []).find? (·.rule = r)

/-- The state with what a rule reads at a place. -/
def State.keep (s : State) (position : Nat) (k : Kept) : State :=
  { s with kept := s.kept.modify position fun l => k :: l.filter (·.rule ≠ k.rule) }

/-! ## Tokens -/

/-- Looks at the token at the place. -/
def Source.look (c : Source) (s : State) (use : Token → State → Outcome) : Outcome :=
  match c.list.tokens[s.position]? with
  | some t => use t.token { s with reach := max s.reach (s.position + 1) }
  | none =>
    match c.list.ending with
    | .complete => .absent s false
    | .certain e => .stopped e none
    | .possible e _ _ => .stopped (c.tell e) none

/-- Takes the token at the place if it makes a tree. -/
def Source.take (c : Source) (s : State) (f : Token → Option Tree) : Outcome :=
  c.look s fun t s =>
    match f t with
    | some tree => .found tree (s.at (s.position + 1))
    | none => .absent s false

/-- Takes the token that is written in a way. -/
def Source.word (c : Source) (w : String) (s : State) : Outcome :=
  c.take s fun t => if t = .fixed w then some (.word w) else none

/-- The texts in quotes that begin at a place, of which at most so many can follow. -/
def Source.quoted (c : Source) (position : Nat) : (steps : Nat) → List Quoted
  | 0 => []
  | steps + 1 =>
    match c.list.tokens[position]? with
    | some ⟨.quoted q, _, _⟩ => q :: c.quoted (position + 1) steps
    | _ => []

/-- Reads all texts in quotes that stand side by side. -/
def Source.texts (c : Source) (s : State) : Outcome :=
  let qs := c.quoted s.position c.list.tokens.size
  if qs = [] then c.look s fun _ s => .absent s false
  else
    c.look (s.at (s.position + qs.length)) fun _ s =>
      match c.join qs with
      | .ok t => .found (.term t) s
      | .error e => .stopped e (some s.reach)

/-- Words that are names in other places. -/
def softWords : List Text := ["_", "case", "match"].map String.text

/-- Reads a number. -/
def Source.number (c : Source) (s : State) : Outcome :=
  c.look s fun t s =>
    match t with
    | .number text =>
      match Number.read text with
      | .ok n => .found (.term (.number n)) (s.at (s.position + 1))
      | .error e => .stopped (c.tell e) (some s.reach)
    | _ => .absent s false

/-- The number of brackets that are open behind the token in front of the place. -/
def Source.depth (c : Source) (s : State) : Nat :=
  ((c.list.tokens[s.position - 1]?).map PlacedToken.depth).getD 0

/-! ## Rules -/

mutual

/-- Reads a part. -/
def Source.part (c : Source) : (steps : Nat) → Part → State → Outcome
  | 0, _, s => .absent s false
  | steps + 1, p, s =>
    match p with
    | .fixed w => c.word w s
    | .name => c.take s fun t => match t with | .name n => some (.term (.name n)) | _ => none
    | .softWord =>
      c.take s fun t => match t with
        | .name n => if softWords.any n.isPrefixOf then some .nothing else none
        | _ => none
    | .number => c.number s
    | .quoted => c.take s fun t => match t with | .quoted _ => some .nothing | _ => none
    | .texts => c.texts s
    | .lineEnd => c.take s fun t => if t = .lineEnd then some .nothing else none
    | .stop => c.take s fun t => if t = .stop then some .nothing else none
    | .rule r =>
      if r.isFaulty && !s.faulty then .absent s false
      else if r = .plainExpression then
        match c.choose steps r.alternatives { s with faulty := false } with
        | .found tree s' => .found tree { s' with faulty := s.faulty }
        | .absent s' final => .absent { s' with faulty := s.faulty } final
        | x => x
      else if r.isKept || r.isLeftRecursive then
        match s.known? r with
        | some ⟨_, some tree, stop⟩ => .found tree (s.at stop)
        | some ⟨_, none, _⟩ => .absent s false
        | none =>
          if r.isLeftRecursive then c.grow steps r s.position none s.position s
          else
            match c.choose steps r.alternatives s with
            | .found tree s' => .found tree (s'.keep s.position ⟨r, some tree, s'.position⟩)
            | .absent s' final => .absent (s'.keep s.position ⟨r, none, s.position⟩) final
            | x => x
      else c.choose steps r.alternatives s
    | .choice alternatives => c.choose steps alternatives s
    | .option alternatives =>
      match c.choose steps alternatives s with
      | .absent s _ => .found .nothing s
      | x => x
    | .many least alternatives => c.many steps none least alternatives [] s.position s
    | .separated separator alternatives =>
      match c.choose steps alternatives s with
      | .found tree s' => c.many steps (some separator) 0 alternatives [tree] s.position s'
      | x => x
    | .ahead expected alternatives =>
      match c.choose steps alternatives s with
      | .found _ s' =>
        if expected then .found .nothing (s'.at s.position) else .absent (s'.at s.position) false
      | .absent s' _ => if expected then .absent s' false else .found .nothing s'
      | x => x
    | .commit => .found .nothing s

/-- Reads by the first alternative that fits. -/
def Source.choose (c : Source) : (steps : Nat) → List Alternative → State → Outcome
  | 0, _, s | _, [], s => .absent s false
  | steps + 1, ⟨parts, make⟩ :: alternatives, s =>
    match c.sequence steps make [] false parts s with
    | .absent s' final =>
      if final then .absent (s'.at s.position) false
      else c.choose steps alternatives (s'.at s.position)
    | x => x

/-- Reads the remaining parts of an alternative, behind others that have made trees, the latest
first. -/
def Source.sequence (c : Source) :
    (steps : Nat) → Make → List Tree → (committed : Bool) → List Part → State → Outcome
  | 0, _, _, _, _, s => .absent s false
  | _, make, trees, _, [], s =>
    match make (c.depth s) trees.reverse with
    | .ok (some tree) => .found tree s
    | .ok none => .absent s true
    | .error e => .stopped (c.tell e) (some s.reach)
  | steps + 1, make, trees, committed, p :: parts, s =>
    match c.part steps p s with
    | .found tree s =>
      c.sequence steps make (tree :: trees) (committed || p matches .commit) parts s
    | .absent s _ => .absent s committed
    | x => x

/-- Reads alternatives as often as possible, behind others that have made trees, the latest first,
with a separator in front of each. -/
def Source.many (c : Source) :
    (steps : Nat) → Option String → (least : Nat) → List Alternative → List Tree → (start : Nat) →
      State → Outcome
  | 0, _, _, _, _, _, s => .absent s false
  | steps + 1, separator, least, alternatives, trees, start, s =>
    let round :=
      match separator with
      | none => c.choose steps alternatives s
      | some w =>
        match c.word w s with
        | .found _ s => c.choose steps alternatives s
        | x => x
    match round with
    | .found tree s => c.many steps separator least alternatives (tree :: trees) start s
    | .absent s' _ =>
      if trees.length < least then .absent (s'.at start) false
      else .found (.list trees.reverse) (s'.at s.position)
    | x => x

/-- Reads by a rule that begins with itself and has read up to a place so far. -/
def Source.grow (c : Source) :
    (steps : Nat) → Rule → (start : Nat) → Option Tree → (stop : Nat) → State → Outcome
  | 0, _, _, _, _, s => .absent s false
  | steps + 1, r, start, best, stop, s =>
    match c.choose steps r.alternatives ((s.keep start ⟨r, best, stop⟩).at start) with
    | .found tree s' =>
      if s'.position ≤ stop then
        match best with
        | some tree => .found tree (s'.at stop)
        | none => .absent (s'.at start) false
      else c.grow steps r start (some tree) s'.position s'
    | .absent s' _ =>
      match best with
      | some tree => .found tree (s'.at stop)
      | none => .absent (s'.at start) false
    | x => x

end

/-! ## Faults -/

/-- The fault that counts where another one is found and so many tokens have been looked at. -/
def Source.faultBehind (c : Source) (reach : Nat) (e : Fault) : Fault :=
  match c.list.ending with
  | .complete | .possible _ [] _ => e
  | .certain e' => e'
  | .possible _ (o :: _) _ =>
    let line := ((c.list.tokens[reach - 1]?).map PlacedToken.line).getD 0
    if o.line < line then c.tell (.neverClosed o.bracket) else e

/-- The fault at which reading has stopped, given the number of tokens that have been looked at.
Nothing else counts where the text has been read up to its end. -/
def Source.faultAt (c : Source) (e : Fault) : Option Nat → Fault
  | none => e
  | some reach =>
    match c.list.ending with
    | .possible _ _ true => if reach = c.list.tokens.size then e else c.faultBehind reach e
    | _ => c.faultBehind reach e

/-- The term that tokens make by a rule. -/
def Source.parse (c : Source) (r : Rule) : Except Fault Term :=
  let size := c.list.tokens.size
  let steps := 1000 * (size + 2)
  let start : State := { kept := Array.replicate (size + 1) [] }
  match c.part steps (.rule r) start with
  | .found (.term t) _ => .ok t
  | .found _ s | .absent s _ =>
    match c.part steps (.rule r) { start with faulty := true, reach := s.reach } with
    | .stopped e reach => .error (c.faultAt e reach)
    | .found _ s' | .absent s' _ =>
      match (c.list.tokens[s.reach - 1]?).map PlacedToken.token with
      | some .indent => .error (c.tell .indented)
      | _ => .error (c.faultBehind s'.reach (c.tell .ungrammatical))
  | .stopped e reach => .error (c.faultAt e reach)

end Scaffold.Console.Parameters
