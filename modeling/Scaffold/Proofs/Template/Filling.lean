/-
# Scaffold.Proofs.Template.Filling -- a filled template, piece by piece

`fillFrom` keeps the values that were computed on demand and uses them again. That is a matter of
cost and not of the text: `text_fill` says that the text of a filled template is its pieces, one
after another, each character as it is and each hole as its value, or as it was written where it has
none. So what stands together in a template stands together in the filled one (`infix_fill`).
-/

import Scaffold.Template.Basic
import Mathlib.Data.List.Infix

namespace Scaffold.Template

/-- What a piece of a template becomes. -/
def filledPiece (values : Values) : Piece → Text
  | .char c => [c]
  | .hole p =>
    match values p with
    | some value => value.text
    | none => p.token

theorem filledPiece_of_eq_some {values : Values} {p : Placeholder} {value : Value}
    (h : values p = some value) : filledPiece values (.hole p) = value.text := by
  rw [filledPiece, h]

theorem filledPiece_of_eq_none {values : Values} {p : Placeholder} (h : values p = none) :
    filledPiece values (.hole p) = p.token := by
  rw [filledPiece, h]

/-- Plain text becomes itself. -/
theorem flatMap_filledPiece_chars (values : Values) (s : Text) :
    (s.map Piece.char).flatMap (filledPiece values) = s := by
  rw [List.flatMap_map]
  exact List.flatMap_singleton' s

/-- The texts that were computed before are those of the values. -/
def Remembers (values : Values) (known : List (Placeholder × Text)) : Prop :=
  ∀ p s, known.lookup p = some s → filledPiece values (.hole p) = s

theorem remembers_nil (values : Values) : Remembers values [] := by
  intro p s h
  simp at h

theorem Remembers.cons {values : Values} {known : List (Placeholder × Text)}
    (h : Remembers values known) {p : Placeholder} {s : Text}
    (hp : filledPiece values (.hole p) = s) : Remembers values ((p, s) :: known) := by
  intro q t hq
  by_cases hqp : q = p
  · subst hqp
    rw [List.lookup_cons_self] at hq
    rw [hp]
    exact Option.some.inj hq
  · rw [List.lookup_cons, beq_eq_false_iff_ne.2 hqp] at hq
    exact h q t hq

/-- **Remembering does not show**: the text is that of the pieces, whatever was computed before. -/
theorem text_fillFrom {values : Values} {known : List (Placeholder × Text)}
    (h : Remembers values known) (ps : List Piece) :
    (fillFrom values known ps).text = ps.flatMap (filledPiece values) := by
  induction ps generalizing known with
  | nil => rfl
  | cons piece ps ih =>
      cases piece with
      | char c =>
          show c :: (fillFrom values known ps).text = _
          rw [ih h]
          rfl
      | hole p =>
          rw [fillFrom, List.flatMap_cons]
          cases hvalue : values p with
          | none => rw [filledPiece_of_eq_none hvalue, ← ih h]
          | some value =>
              cases value with
              | ready s => rw [filledPiece_of_eq_some hvalue, ← ih h]; rfl
              | onDemand compute =>
                  cases hknown : known.lookup p with
                  | some s => rw [h p s hknown, ← ih h]
                  | none =>
                      have hcomputed : filledPiece values (.hole p) = compute () :=
                        filledPiece_of_eq_some hvalue
                      rw [hcomputed, ← ih (h.cons hcomputed)]

/-- The text of a filled template is that of its pieces. -/
theorem text_fill (values : Values) (s : Text) :
    (fill values s).text = (pieces s).flatMap (filledPiece values) :=
  text_fillFrom (remembers_nil values) (pieces s)

/-- Where nothing is missing, every hole has a value. -/
theorem exists_value_of_missing_eq_nil {values : Values} {s : Text} (h : missing values s = [])
    {p : Placeholder} (hp : .hole p ∈ pieces s) : ∃ value, values p = some value := by
  rw [missing, List.filter_eq_nil_iff] at h
  have hvalue := h p (mem_placeholders.2 hp)
  rw [Option.isNone_iff_eq_none] at hvalue
  exact Option.ne_none_iff_exists'.1 hvalue

/-- Pieces that stand together in a template stand together when it is filled. -/
theorem infix_fill (values : Values) {s : Text} {ps : List Piece} (h : ps <:+: pieces s) :
    ps.flatMap (filledPiece values) <:+: (fill values s).text := by
  obtain ⟨before, after, hpieces⟩ := h
  refine ⟨before.flatMap (filledPiece values), after.flatMap (filledPiece values), ?_⟩
  rw [text_fill, ← hpieces, List.flatMap_append, List.flatMap_append]

end Scaffold.Template
