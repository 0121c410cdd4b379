/-
# Scaffold.Template.Basic -- texts with holes

A template is a text in which the ten placeholders may stand, each between braces. Everything
else, other names between braces included, is plain text. `Template.pieces` cuts a text into its
characters and its holes from left to right, and `written` puts the pieces back together
(`written_pieces`).

Filling replaces every hole whose placeholder has a value and leaves the others as they were
written. What is filled in is not looked at again, whatever braces it holds. A value may be
computed on demand; it is computed at the first hole that needs it and kept, and `Filled.computed`
records the order.
-/

import Scaffold.Text.Quoted

namespace Scaffold

/-! ## Placeholders -/

/-- The names that may stand in a template, in alphabetical order. -/
inductive Placeholder where
  | controllerName
  | controllerPath
  | createFields
  | fields
  | modelName
  | modelPath
  | name
  | pluralName
  | schemaName
  | updateFields
  deriving DecidableEq, Repr

namespace Placeholder

/-- All placeholders, in alphabetical order. -/
def all : List Placeholder :=
  [controllerName, controllerPath, createFields, fields, modelName, modelPath, name, pluralName,
   schemaName, updateFields]

/-- The spelling of a placeholder, without braces. -/
def text : Placeholder → Text
  | controllerName => "controllerName".text
  | controllerPath => "controllerPath".text
  | createFields => "createFields".text
  | fields => "fields".text
  | modelName => "modelName".text
  | modelPath => "modelPath".text
  | name => "name".text
  | pluralName => "pluralName".text
  | schemaName => "schemaName".text
  | updateFields => "updateFields".text

/-- A placeholder as it stands in a template. -/
def token (p : Placeholder) : Text := chr '\x7b' :: p.text ++ [chr '\x7d']

end Placeholder

/-! ## Pieces -/

/-- A piece of a template: a character of plain text, or a hole. -/
inductive Piece where
  | char (c : CodePoint)
  | hole (p : Placeholder)
  deriving DecidableEq, Repr

/-- A piece as it stands in a template. -/
def Piece.text : Piece → Text
  | char c => [c]
  | hole p => p.token

namespace Template

/-- The placeholder whose token a text begins with. Only a brace can begin a token. -/
def holeAt? : Text → Option Placeholder
  | [] => none
  | c :: s =>
    if c = '\x7b' then Placeholder.all.find? fun p => Text.beginsWith p.token (c :: s) else none

/-- The pieces of a text of which the first `done` characters are already accounted for. -/
def piecesFrom : (done : Nat) → Text → List Piece
  | _, [] => []
  | done + 1, _ :: s => piecesFrom done s
  | 0, c :: s =>
    match holeAt? (c :: s) with
    | some p => .hole p :: piecesFrom (p.token.length - 1) s
    | none => .char c :: piecesFrom 0 s

/-- The pieces of a text. -/
def pieces (s : Text) : List Piece := piecesFrom 0 s

/-- The text that pieces make up. -/
def written (ps : List Piece) : Text := ps.flatMap Piece.text

theorem holeAt?_eq_some {s : Text} {p : Placeholder} (h : holeAt? s = some p) :
    ∃ rest, s = p.token ++ rest := by
  cases s with
  | nil => simp [holeAt?] at h
  | cons c s =>
    simp only [holeAt?] at h
    split at h
    · have := List.find?_some h
      simp only [Text.beginsWith] at this
      obtain ⟨rest, hr⟩ := List.isPrefixOf_iff_prefix.1 this
      exact ⟨rest, hr.symm⟩
    · simp at h

theorem written_piecesFrom (done : Nat) (s : Text) :
    written (piecesFrom done s) = s.drop done := by
  fun_induction piecesFrom done s with
  | case1 => simp [written]
  | case2 done c s ih => simpa using ih
  | case3 c s p hp ih =>
    obtain ⟨rest, hr⟩ := holeAt?_eq_some hp
    simp only [written, List.flatMap_cons, Piece.text] at ih ⊢
    rw [ih, List.drop_zero]
    have hlen : p.token = c :: p.token.tail := by
      cases p <;> simp_all [Placeholder.token]
    have hs : s = p.token.tail ++ rest := by
      rw [hlen] at hr
      simpa using hr
    have hl : p.token.length - 1 = p.token.tail.length := by simp
    rw [hs, hl, List.drop_left, ← List.cons_append, ← hlen]
  | case4 c s _ ih => simpa [written, Piece.text] using ih

/-- Cutting a text into pieces loses nothing. -/
theorem written_pieces (s : Text) : written (pieces s) = s := by
  simpa [pieces] using written_piecesFrom 0 s

/-! ## The placeholders of a template -/

/-- The placeholders that occur in a text, in alphabetical order. -/
def placeholders (s : Text) : List Placeholder :=
  let ps := pieces s
  Placeholder.all.filter fun p => ps.contains (.hole p)

/-- A placeholder is listed exactly where one of the pieces is its hole. -/
theorem mem_placeholders {s : Text} {p : Placeholder} :
    p ∈ placeholders s ↔ .hole p ∈ pieces s := by
  have : p ∈ Placeholder.all := by cases p <;> decide
  simp [placeholders, this]

/-! ## Filling -/

/-- A value for a placeholder: a text, or one that is computed when it is first needed. -/
inductive Value where
  | ready (text : Text)
  | onDemand (compute : Unit → Text)

/-- The text of a value. -/
def Value.text : Value → Text
  | ready s => s
  | onDemand compute => compute ()

/-- The values of the placeholders that have one. -/
abbrev Values := Placeholder → Option Value

/-- The placeholders that occur in a text and have no value, in alphabetical order. -/
def missing (values : Values) (s : Text) : List Placeholder :=
  (placeholders s).filter fun p => (values p).isNone

/-- A filled template. -/
structure Filled where
  text : Text
  /-- The placeholders whose values were computed, in that order. -/
  computed : List Placeholder
  deriving DecidableEq, Repr

/-- Fills the pieces of a template, given the values that were computed before. -/
def fillFrom (values : Values) (known : List (Placeholder × Text)) : List Piece → Filled
  | [] => ⟨[], []⟩
  | .char c :: ps =>
    let rest := fillFrom values known ps
    ⟨c :: rest.text, rest.computed⟩
  | .hole p :: ps =>
    match values p with
    | none =>
      let rest := fillFrom values known ps
      ⟨p.token ++ rest.text, rest.computed⟩
    | some (.ready s) =>
      let rest := fillFrom values known ps
      ⟨s ++ rest.text, rest.computed⟩
    | some (.onDemand compute) =>
      match known.lookup p with
      | some s =>
        let rest := fillFrom values known ps
        ⟨s ++ rest.text, rest.computed⟩
      | none =>
        let s := compute ()
        let rest := fillFrom values ((p, s) :: known) ps
        ⟨s ++ rest.text, p :: rest.computed⟩

/-- Fills a template. -/
def fill (values : Values) (s : Text) : Filled := fillFrom values [] (pieces s)

/-- A template shown by its name. -/
def shown (name : Text) : Text := "PlaceholderTemplate(".text ++ Text.quoted name ++ [chr ')']

end Template

end Scaffold
