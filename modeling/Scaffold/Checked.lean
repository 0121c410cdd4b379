/-
# Scaffold.Checked -- checks of values

A check takes a value for something, a text, one of some words, a truth value, or finds faults in
it. A fault says what is wrong, in one of a few kinds, and where: its place is the steps that lead
to the value at fault, and a check that is seen from outside has one step more in front
(`Checked.below`).

A text can hold halves of surrogate pairs. A check that looks into a text refuses it for that
before anything else; a text that is taken for itself is not looked into.
-/

import Scaffold.Json

namespace Scaffold

/-! ## Faults -/

/-- One step from a value to a value inside it. -/
inductive Step where
  | member (key : Text)
  | index (i : Nat)
  deriving DecidableEq, Repr

/-- What can be wrong with a value in its place. -/
inductive FaultKind where
  /-- A required member is absent. -/
  | missing
  /-- A text was wanted. -/
  | notText
  /-- A text of characters was wanted. -/
  | notUnicode
  /-- A text of at least one character was wanted. -/
  | emptyText
  /-- One of the listed words was wanted. -/
  | notOneOf (words : List Text)
  /-- The value cannot be interpreted as a truth value. -/
  | notInterpretable
  /-- The value is of a kind that never stands for a truth value. -/
  | notBool
  /-- A list was wanted. -/
  | notList
  /-- An object of the named kind was wanted. -/
  | notObject (kind : Text)
  deriving DecidableEq, Repr

/-- A fault with its place: the steps that lead to the value at fault. -/
structure Fault where
  place : List Step
  kind : FaultKind
  deriving DecidableEq, Repr

/-- The words quoted and joined by commas, the last by `or`. -/
def FaultKind.choices : List Text → Text
  | [] => []
  | [w] => chr '\'' :: w ++ [chr '\'']
  | [w, v] => chr '\'' :: w ++ "' or '".text ++ v ++ [chr '\'']
  | w :: ws => chr '\'' :: w ++ "', ".text ++ choices ws

/-- What a fault says to the user. -/
def FaultKind.message : FaultKind → Text
  | missing => "Field required".text
  | notText => "Input should be a valid string".text
  | notUnicode =>
    "Input should be a valid string, unable to parse raw data as a unicode string".text
  | emptyText => "String should have at least 1 character".text
  | notOneOf words => "Input should be ".text ++ choices words
  | notInterpretable => "Input should be a valid boolean, unable to interpret input".text
  | notBool => "Input should be a valid boolean".text
  | notList => "Input should be a valid tuple".text
  | notObject kind => "Input should be a valid dictionary or instance of ".text ++ kind

/-! ## Checks of single values -/

/-- What a check of a value says: the value it stands for, or the faults found in it. -/
abbrev Checked (α : Type) := Except (List Fault) α

namespace Checked

variable {α β : Type}

/-- A single fault at the value itself. -/
def fault (kind : FaultKind) : Checked α := .error [⟨[], kind⟩]

/-- The faults of a check, none where it passed. -/
def faults : Checked α → List Fault
  | .ok _ => []
  | .error fs => fs

/-- The check seen from outside: each fault is one step further away. -/
def below (step : Step) : Checked α → Checked α
  | .ok a => .ok a
  | .error fs => .error (fs.map fun f => { f with place := step :: f.place })

/-- Two checks, the faults of the first before those of the second. -/
def both (a : Checked α) (b : Checked β) : Checked (α × β) :=
  match a, b with
  | .ok x, .ok y => .ok (x, y)
  | a, b => .error (a.faults ++ b.faults)

end Checked

/-- A text of at least one character, and of characters only. -/
def Json.asNonemptyText : Json → Checked Text
  | .text s =>
    if s.isUnicode = false then .fault .notUnicode
    else if s = [] then .fault .emptyText
    else .ok s
  | _ => .fault .notText

/-- One of the listed words, turned into what it stands for. -/
def Json.asWord {α : Type} (words : List Text) (meaning : Text → Option α) (v : Json) :
    Checked α :=
  match v with
  | .text s =>
    if s.isUnicode = false then .fault .notUnicode
    else
      match meaning s with
      | some a => .ok a
      | none => .fault (.notOneOf words)
  | _ => .fault (.notOneOf words)

/-- Words that stand for truth, whatever their letter case. -/
def trueWords : List Text := ["1", "on", "t", "true", "y", "yes"].map String.text

/-- Words that stand for falsehood, whatever their letter case. -/
def falseWords : List Text := ["0", "off", "f", "false", "n", "no"].map String.text

/-- The numbers of 64 bits with sign. -/
def fitsWord (n : Int) : Bool := -0x8000000000000000 ≤ n && n < 0x8000000000000000

/-- Whether a float is a whole number strictly between the ends of the numbers of 64 bits. -/
def isWhole (x : Float) : Bool :=
  x.floor == x && -9223372036854775808.0 < x && x < 9223372036854775808.0

/-- A truth value: itself, a zero or a one, or one of the words for it. Nothing is stripped. -/
def Json.asBool : Json → Checked Bool
  | .bool b => .ok b
  | .integer n =>
    if n = 0 then .ok false
    else if n = 1 then .ok true
    else if fitsWord n then .fault .notInterpretable
    else .fault .notBool
  | .real x =>
    if x == 0 then .ok false
    else if x == 1 then .ok true
    else if isWhole x then .fault .notInterpretable
    else .fault .notBool
  | .text s =>
    let word := s.map CodePoint.toLower
    if s.isUnicode = false then .fault .notUnicode
    else if trueWords.contains word then .ok true
    else if falseWords.contains word then .ok false
    else .fault .notInterpretable
  | _ => .fault .notBool

/-- The member with the given key, checked; `absent` where there is none. -/
def Json.checkMember {α : Type} (members : List (Text × Json)) (key : String)
    (absent : Checked α) (check : Json → Checked α) : Checked α :=
  Checked.below (.member key.text) <|
    match Json.member? key.text members with
    | none => absent
    | some v => check v

/-! ## Names -/

/-- A text that something is to be called by, from the member with the given key. -/
def Checked.name (key : String) (name : Text) : Checked Text :=
  Checked.below (.member key.text) (Json.text name).asNonemptyText

/-- The fault of a name that is not made of characters only. -/
def Fault.ofName (key : String) : Fault := ⟨[.member key.text], .notUnicode⟩

namespace Checked

variable {key : String} {name : Text}

theorem asNonemptyText_eq_ok_iff {s : Text} :
    (Json.text name).asNonemptyText = .ok s ↔ s = name ∧ name.isUnicode = true ∧ name ≠ [] := by
  show (if name.isUnicode = false then .fault .notUnicode
    else if name = [] then .fault .emptyText else .ok name : Checked Text) = _ ↔ _
  cases name.isUnicode with
  | false => simp [fault]
  | true =>
      by_cases hname : name = []
      · simp [hname, fault]
      · simp only [hname, if_false, Bool.true_eq_false, Except.ok.injEq, ne_eq, not_false_eq_true,
          and_self, and_true]
        exact eq_comm

theorem name_eq_ok_iff {s : Text} :
    Checked.name key name = .ok s ↔ s = name ∧ name.isUnicode = true ∧ name ≠ [] := by
  rw [← asNonemptyText_eq_ok_iff, Checked.name]
  cases (Json.text name).asNonemptyText <;> simp [Checked.below]

theorem name_of_isUnicode (h : name.isUnicode = true) (hne : name ≠ []) :
    Checked.name key name = .ok name := name_eq_ok_iff.2 ⟨rfl, h, hne⟩

theorem name_of_not_isUnicode (h : name.isUnicode = false) :
    Checked.name key name = .error [.ofName key] := by
  simp only [Checked.name, Json.asNonemptyText, h, if_true, Checked.fault, Checked.below,
    List.map_cons, List.map_nil, Fault.ofName]

/-- The only place at fault is that of the name. -/
theorem place_of_name_eq_error {faults : List Fault} (h : Checked.name key name = .error faults) :
    faults.map Fault.place = [[.member key.text]] := by
  unfold Checked.name Json.asNonemptyText at h
  dsimp only at h
  split at h
  · cases h; rfl
  · split at h
    · cases h; rfl
    · cases h

end Checked

end Scaffold
