/-
# Scaffold.Console.Pattern -- patterns in texts

A pattern fits to a stretch of a text. It is put together from characters of a class, runs of them,
sequences, choices and repetitions, and from conditions on the place. Of several ways to fit the
first one counts, in the order in which a choice names them; a run or repetition is as long as
possible, or as short as possible where it is reluctant. Parts of a pattern can be marked: what they
fit to is what is wanted from the text.

`Pattern.marks` are the marked stretches of all places of a text where a pattern fits, one behind
the other.
-/

import Scaffold.Text.Letter

namespace Scaffold.Console

/-! ## Patterns -/

/-- A pattern. -/
inductive Pattern where
  /-- A character of a class. -/
  | char (isMember : CodePoint → Bool)
  /-- Characters of a class, at least and at most so many. -/
  | run (isMember : CodePoint → Bool) (least : Nat) (most : Option Nat) (reluctant : Bool)
  | sequence (first second : Pattern)
  | choice (first second : Pattern)
  /-- A pattern at least and at most so often. -/
  | repetition (p : Pattern) (least : Nat) (most : Option Nat)
  /-- A pattern whose stretch is wanted. -/
  | marked (p : Pattern)
  /-- Whether a word begins or ends at the place. -/
  | wordBorder (expected : Bool)
  /-- No character of a class in front of the place. -/
  | notBehind (isMember : CodePoint → Bool)

namespace Pattern

/-- Patterns one behind the other. -/
def all : List Pattern → Pattern
  | [] => run (fun _ => false) 0 none false
  | [p] => p
  | p :: ps => sequence p (all ps)

/-- One of several patterns. -/
def any : List Pattern → Pattern
  | [] => char fun _ => false
  | [p] => p
  | p :: ps => choice p (any ps)

/-- A text as it is written. -/
def text (s : String) : Pattern := all (s.text.map fun c => char (· = c))

/-- A pattern that may be left out. -/
def optional (p : Pattern) : Pattern := repetition p 0 (some 1)

/-! ## Fitting -/

/-- A place in a text: the character in front of it, the text behind it and its position. -/
structure Place where
  behind : Option CodePoint
  rest : Text
  position : Nat

/-- The place behind the next character. -/
def Place.next (c : CodePoint) (rest : Text) (place : Place) : Place :=
  ⟨some c, rest, place.position + 1⟩

/-- A stretch of a text, from its first position up to the one behind its last. -/
abbrev Stretch := Nat × Nat

/-- How a pattern goes on behind a place, given the stretches that are marked so far, and what comes
of that: the position at which the whole fits, and all that is marked. -/
abbrev Continuation := Place → List Stretch → Option (Nat × List Stretch)

/-- The places behind characters of a class, at most so many, the latest first and behind others. -/
def runPlaces (isMember : CodePoint → Bool) (places : List Place) :
    (most : Nat) → Place → List Place
  | 0, place => place :: places
  | most + 1, place =>
    match place.rest with
    | c :: rest =>
      if isMember c then runPlaces isMember (place :: places) most (place.next c rest)
      else place :: places
    | [] => place :: places

/-- Goes on behind as many characters of a class as possible. -/
def runLong (isMember : CodePoint → Bool) (least most : Nat) (goOn : Continuation) : Continuation :=
  fun place marks =>
    let places := runPlaces isMember [] most place
    (places.take (places.length - least)).findSome? fun place => goOn place marks

/-- Goes on behind as few characters of a class as possible. -/
def runShort (isMember : CodePoint → Bool) (goOn : Continuation) :
    (least most : Nat) → Continuation
  | least, 0, place, marks => if least = 0 then goOn place marks else none
  | least, most + 1, place, marks =>
    match if least = 0 then goOn place marks else none with
    | some found => some found
    | none =>
      match place.rest with
      | c :: rest =>
        if isMember c then runShort isMember goOn (least - 1) most (place.next c rest) marks
        else none
      | [] => none

/-- Goes on behind as many repetitions as possible, each of which has to get on. -/
def repeatLong (once : Continuation → Continuation) (goOn : Continuation) :
    (least most : Nat) → Continuation
  | least, 0, place, marks => if least = 0 then goOn place marks else none
  | least, most + 1, place, marks =>
    let more : Continuation := fun place' marks' =>
      if place'.position = place.position then none
      else repeatLong once goOn (least - 1) most place' marks'
    match once more place marks with
    | some found => some found
    | none => if least = 0 then goOn place marks else none

/-- Whether a word begins or ends at a place. -/
def Place.isWordBorder (place : Place) : Bool :=
  place.behind.any Text.isWordChar != place.rest.head?.any Text.isWordChar

/-- Goes on behind a pattern. -/
def fit : Pattern → Continuation → Continuation
  | char isMember, goOn => fun place marks =>
    match place.rest with
    | c :: rest => if isMember c then goOn (place.next c rest) marks else none
    | [] => none
  | run isMember least most reluctant, goOn => fun place marks =>
    let most := most.getD place.rest.length
    if reluctant then runShort isMember goOn least most place marks
    else runLong isMember least most goOn place marks
  | sequence first second, goOn => first.fit (second.fit goOn)
  | choice first second, goOn => fun place marks =>
    (first.fit goOn place marks).orElse fun _ => second.fit goOn place marks
  | repetition p least most, goOn => fun place marks =>
    repeatLong p.fit goOn least (most.getD place.rest.length) place marks
  | marked p, goOn => fun place marks =>
    p.fit (fun place' marks' => goOn place' ((place.position, place'.position) :: marks')) place
      marks
  | wordBorder expected, goOn => fun place marks =>
    if place.isWordBorder = expected then goOn place marks else none
  | notBehind isMember, goOn => fun place marks =>
    if place.behind.any isMember then none else goOn place marks

/-! ## Searching -/

/-- The stretches that a pattern marks where it fits behind a place; the next `done` characters are
already accounted for. -/
def marksFrom (p : Pattern) (behind : Option CodePoint) (position done : Nat) : Text → List Stretch
  | [] => []
  | c :: s =>
    match done with
    | done + 1 => marksFrom p (some c) (position + 1) done s
    | 0 =>
      let atEnd : Continuation := fun place marks => some (place.position, marks)
      match p.fit atEnd ⟨behind, c :: s, position⟩ [] with
      | some (stop, marks) => marks ++ marksFrom p (some c) (position + 1) (stop - position - 1) s
      | none => marksFrom p (some c) (position + 1) 0 s

/-- The stretches that a pattern marks in a text. -/
def marks (p : Pattern) (s : Text) : List Stretch := marksFrom p none 0 0 s

end Pattern

end Scaffold.Console
