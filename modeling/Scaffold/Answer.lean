/-
# Scaffold.Answer -- reading single answers

An answer is a text or nothing at all, and nothing counts as blank. Two of the four questions
have a default for a blank answer (`string` for a type, by type for the layout), one reads it as
`yes`, and a blank model name is refused. Every answer is stripped before it is read.
-/

import Scaffold.Rejection
import Scaffold.Request.Basic

namespace Scaffold

/-- What was answered to a question, if anything. -/
abbrev Answer := Option Text

namespace Answer

/-- The stripped text of an answer, empty where there is none. -/
def stripped (a : Answer) : Text := (a.getD []).strip

/-- The stripped text of an answer, or the given text where the answer is blank. -/
def orElse (a : Answer) (blank : Text) : Text :=
  if a.stripped = [] then blank else a.stripped

/-- A model name: anything that is not blank. -/
def modelName (a : Answer) : Except Rejection Text :=
  if a.stripped = [] then .error .modelNameRequired else .ok a.stripped

/-- A model name is read as it is, stripped, and there is one. -/
theorem modelName_eq_ok_iff {a : Answer} {model : Text} :
    a.modelName = .ok model ↔ a.stripped = model ∧ model ≠ [] := by
  rw [modelName]
  split
  next hblank =>
    constructor
    · intro h
      cases h
    · rintro ⟨rfl, hne⟩
      exact absurd hblank hne
  next hne =>
    constructor
    · intro h
      cases h
      exact ⟨rfl, hne⟩
    · rintro ⟨rfl, -⟩
      rfl

/-- A type word, `string` where the answer is blank. -/
def typeWord (a : Answer) : Except Rejection TypeWord :=
  if a.stripped = [] then .ok .string
  else
    match TypeWord.ofText? a.stripped with
    | some w => .ok w
    | none => .error (.fieldTypeInvalid a.stripped)

/-- A type is answered with a blank, which means `string`, or with the spelling of its word. -/
theorem typeWord_eq_ok_iff {a : Answer} {w : TypeWord} :
    a.typeWord = .ok w ↔ a.stripped = [] ∧ w = .string ∨ a.stripped = w.text := by
  rw [typeWord]
  by_cases hblank : a.stripped = []
  · have hne : [] ≠ w.text := w.text_ne_nil.symm
    rw [if_pos hblank, Except.ok.injEq, hblank]
    simp only [hne, true_and, or_false]
    exact eq_comm
  · rw [if_neg hblank]
    simp only [hblank, false_and, false_or, ← TypeWord.ofText?_eq_some_iff]
    cases TypeWord.ofText? a.stripped <;> simp

/-- An answer that is read as no type word is refused with what it says. -/
theorem typeWord_eq_error {a : Answer} (h : ∀ w, a.typeWord ≠ .ok w) :
    a.typeWord = .error (.fieldTypeInvalid a.stripped) := by
  rw [typeWord] at h ⊢
  split
  next hblank => exact absurd (if_pos hblank) (h .string)
  next hblank =>
    rw [if_neg hblank] at h
    cases hword : TypeWord.ofText? a.stripped with
    | none => rfl
    | some w => exact absurd (by rw [hword]) (h w)

/-- Whether the router and the controller are wanted. A blank answer wants them. -/
def wantsRest (a : Answer) : Except Rejection Bool :=
  let word := a.orElse "yes".text
  if word = "yes".text then .ok true
  else if word = "no".text then .ok false
  else .error (.restInvalid word)

/-- A layout letter, by type where the answer is blank. -/
def layout (a : Answer) : Except Rejection Layout :=
  let letter := a.orElse Layout.byType.letter
  match Layout.ofLetter? letter with
  | some l => .ok l
  | none => .error (.treeInvalid letter)

end Answer

end Scaffold
