/-
# Scaffold.Proofs.Template.Substitution -- what filling does to a text

Filling replaces the tokens of a text and touches nothing else. In terms of the one cut of the text
into literals and tokens, each token becomes its value, or stays where it has none, and each literal
stays (`fill_replaces_tokens`). The two lists that are kept about a template, its placeholders and
those without a value, are read off the same tokens.

A value that is computed on demand is computed at the first token that needs it. So the record of
what was computed lists each placeholder once, in the order of their first tokens, and the text is
the one that values computed beforehand give (`computed_once_in_order`).
-/

import Scaffold.Proofs.Template.Filling
import Scaffold.Proofs.Template.Occurrences

namespace Scaffold.Template

variable {p q : Placeholder} {s rest : Text} {c : CodePoint} {values : Values}
  {known : List (Placeholder × Text)}

/-! ## Mappings -/

/-- The values that a mapping of names gives to the placeholders. Of all names only the spellings of
the placeholders are looked up. -/
def Values.ofMap (m : Text → Option Value) : Values := fun p => m p.text

/-- The values that a mapping of names to texts gives to the placeholders. -/
def Values.ofTexts (m : Text → Option Text) : Values := .ofMap fun key => (m key).map .ready

theorem filledPiece_ofMap (m : Text → Option Value) (p : Placeholder) :
    filledPiece (.ofMap m) (.hole p) = ((m p.text).map Value.text).getD p.token := by
  cases hvalue : m p.text <;> simp [filledPiece, Values.ofMap, hvalue]

theorem filledPiece_ofTexts (m : Text → Option Text) (p : Placeholder) :
    filledPiece (.ofTexts m) (.hole p) = (m p.text).getD p.token := by
  rw [Values.ofTexts, filledPiece_ofMap]
  cases m p.text <;> rfl

/-- What pieces become depends on the values of their placeholders only. -/
theorem flatMap_filledPiece_congr {values' : Values} {ps : List Piece}
    (h : ∀ p, .hole p ∈ ps → filledPiece values (.hole p) = filledPiece values' (.hole p)) :
    ps.flatMap (filledPiece values) = ps.flatMap (filledPiece values') := by
  refine List.flatMap_congr fun piece hpiece => ?_
  cases piece with
  | char c => rfl
  | hole p => exact h p hpiece

/-! ## The text -/

/-- The pieces of a cut become its literals with the values between them. -/
theorem Cut.flatMap_filledPiece (values : Values) (cut : Cut) :
    cut.pieces.flatMap (filledPiece values) =
      cut.filledBy fun p => filledPiece values (.hole p) := by
  rw [Cut.pieces, Cut.filledBy, List.flatMap_append, List.flatMap_assoc,
    flatMap_filledPiece_chars]
  congr 2
  funext x
  rw [List.flatMap_append, flatMap_filledPiece_chars, List.flatMap_singleton]

theorem Cut.IsOf.text_fill {cut : Cut} (h : cut.IsOf s) (values : Values) :
    (fill values s).text = cut.filledBy fun p => filledPiece values (.hole p) := by
  rw [Template.text_fill, h.pieces_eq, cut.flatMap_filledPiece]

theorem Cut.IsOf.mem_placeholders_iff {cut : Cut} (h : cut.IsOf s) :
    p ∈ placeholders s ↔ p ∈ cut.keys := by
  rw [mem_placeholders, h.pieces_eq, Cut.hole_mem_pieces_iff]

/-- **Filling replaces the tokens and nothing else.** No two tokens of a text stand at the same
place or overlap, so the text has one cut; its tokens are replaced by their values as these are,
whatever the values hold, and stay where there is none. The placeholders are those of the tokens,
those without a value are those of the tokens that stay, and nothing else about a mapping matters.
-/
theorem fill_replaces_tokens (s : Text) :
    (∀ i p q, OccursAt s i p → OccursAt s i q → p = q) ∧
    (∀ i j p q, OccursAt s i p → OccursAt s j q → i < j → i + p.token.length ≤ j) ∧
    (∃! cut : Cut, cut.IsOf s) ∧
    ∀ cut : Cut, cut.IsOf s →
      (∀ p, p ∈ placeholders s ↔ p ∈ cut.keys) ∧
      ∀ m : Text → Option Text,
        (fill (.ofTexts m) s).text = cut.filledBy (fun p => (m p.text).getD p.token) ∧
        (∀ p, p ∈ missing (.ofTexts m) s ↔ p ∈ cut.keys ∧ m p.text = none) ∧
        ∀ m' : Text → Option Text, (∀ p ∈ placeholders s, m' p.text = m p.text) →
          (fill (.ofTexts m') s).text = (fill (.ofTexts m) s).text := by
  refine ⟨fun i p q hp hq => hp.unique hq, fun i j p q hp hq hlt => hp.add_length_le hq hlt,
    Cut.existsUnique_isOf s, fun cut hcut => ⟨fun p => hcut.mem_placeholders_iff, fun m => ?_⟩⟩
  refine ⟨?text, ?missing, ?agreeing⟩
  case text =>
    rw [hcut.text_fill]
    congr 1
    funext p
    exact filledPiece_ofTexts m p
  case missing =>
    intro p
    rw [missing, List.mem_filter, hcut.mem_placeholders_iff, Values.ofTexts, Values.ofMap,
      Option.isNone_iff_eq_none, Option.map_eq_none_iff]
  case agreeing =>
    intro m' hagree
    rw [text_fill, text_fill]
    refine flatMap_filledPiece_congr fun p hp => ?_
    rw [filledPiece_ofTexts, filledPiece_ofTexts, hagree p (mem_placeholders.2 hp)]

/-! ## Values on demand -/

/-- A value as it is once its text is there. -/
def Value.made (value : Value) : Value := .ready value.text

/-- The value of a placeholder is computed on demand and was not computed before. -/
def Due (values : Values) (known : List (Placeholder × Text)) (p : Placeholder) : Prop :=
  (∃ compute, values p = some (.onDemand compute)) ∧ known.lookup p = none

/-- What was computed is not due again. -/
theorem due_cons_iff {t : Text} : Due values ((q, t) :: known) p ↔ p ≠ q ∧ Due values known p := by
  rw [Due, Due, List.lookup_cons]
  by_cases hpq : p = q
  · subst hpq
    simp
  · rw [beq_eq_false_iff_ne.2 hpq]
    simp [hpq]

/-- At a hole whose value is due, the value is computed first. -/
theorem computed_fillFrom_of_due (h : Due values known p) (ps : List Piece) :
    ∃ t, (fillFrom values known (.hole p :: ps)).computed =
      p :: (fillFrom values ((p, t) :: known) ps).computed := by
  obtain ⟨⟨compute, hvalue⟩, hknown⟩ := h
  refine ⟨compute (), ?_⟩
  rw [fillFrom, hvalue]
  dsimp only
  rw [hknown]

/-- At any other hole nothing is computed. -/
theorem computed_fillFrom_of_not_due (h : ¬ Due values known p) (ps : List Piece) :
    (fillFrom values known (.hole p :: ps)).computed = (fillFrom values known ps).computed := by
  rw [fillFrom]
  cases hvalue : values p with
  | none => rfl
  | some value =>
      cases value with
      | ready t => rfl
      | onDemand compute =>
          cases hknown : known.lookup p with
          | none => exact absurd ⟨⟨compute, hvalue⟩, hknown⟩ h
          | some t => rfl

/-- The values that are computed are those that are due and have a hole. -/
theorem mem_computed_fillFrom_iff {ps : List Piece} :
    p ∈ (fillFrom values known ps).computed ↔ .hole p ∈ ps ∧ Due values known p := by
  induction ps generalizing known with
  | nil => exact iff_of_false List.not_mem_nil fun h => List.not_mem_nil h.1
  | cons piece ps ih =>
      cases piece with
      | char c =>
          rw [List.mem_cons, or_iff_right (by simp)]
          exact ih
      | hole q =>
          rw [List.mem_cons, Piece.hole.injEq]
          by_cases hdue : Due values known q
          · obtain ⟨t, ht⟩ := computed_fillFrom_of_due hdue ps
            rw [ht, List.mem_cons, ih, due_cons_iff]
            by_cases hpq : p = q
            · subst hpq
              simp [hdue]
            · simp [hpq]
          · rw [computed_fillFrom_of_not_due hdue, ih, or_and_right]
            refine (or_iff_right ?_).symm
            rintro ⟨rfl, h⟩
            exact hdue h

/-- The first token of a placeholder stands before all tokens of another. -/
def Precedes (s : Text) (p q : Placeholder) : Prop :=
  ∃ i, OccursAt s i p ∧ ∀ j, OccursAt s j q → i < j

theorem Precedes.ne (h : Precedes s p q) : p ≠ q := by
  rintro rfl
  obtain ⟨i, hi, hfirst⟩ := h
  exact (hfirst i hi).false

theorem Precedes.cons (h : Precedes s p q) (hnone : holeAt? (c :: s) = none) :
    Precedes (c :: s) p q := by
  obtain ⟨i, hi, hfirst⟩ := h
  refine ⟨i + 1, hi, fun j hj => ?_⟩
  cases j with
  | zero => exact absurd hj (holeAt?_eq_none_iff.1 hnone q)
  | succ j => exact Nat.succ_lt_succ (hfirst j hj)

theorem precedes_token_append (hne : q ≠ p) : Precedes (p.token ++ rest) p q := by
  refine ⟨0, List.prefix_append p.token rest, fun j hj => ?_⟩
  rcases occursAt_token_append_iff.1 hj with ⟨-, rfl⟩ | ⟨k, rfl, -⟩
  · exact absurd rfl hne
  · exact Nat.lt_add_right k p.length_token_pos

theorem Precedes.token_append (h : Precedes rest p q) {first : Placeholder} (hne : q ≠ first) :
    Precedes (first.token ++ rest) p q := by
  obtain ⟨i, hi, hfirst⟩ := h
  refine ⟨first.token.length + i, occursAt_token_append_iff.2 (.inr ⟨i, rfl, hi⟩), fun j hj => ?_⟩
  rcases occursAt_token_append_iff.1 hj with ⟨-, rfl⟩ | ⟨k, rfl, hk⟩
  · exact absurd rfl hne
  · exact Nat.add_lt_add_left (hfirst k hk) _

/-- Values are computed in the order of the first tokens. What stands behind a token keeps its
order, because the placeholder of that token does not come up again. -/
theorem pairwise_computed_fillFrom :
    (fillFrom values known (pieces s)).computed.Pairwise (Precedes s) := by
  induction s using pieces_induction generalizing known with
  | nil => exact List.Pairwise.nil
  | token first rest ih =>
      have hlater : ∀ {known' : List (Placeholder × Text)}, ¬ Due values known' first →
          (fillFrom values known' (pieces rest)).computed.Pairwise
            (Precedes (first.token ++ rest)) := by
        intro known' hdone
        refine ih.imp_of_mem fun _ hq h => h.token_append ?_
        rintro rfl
        exact hdone (mem_computed_fillFrom_iff.1 hq).2
      rw [pieces_token_append]
      -- A value that is computed here is known from here on, so it is not due behind its token.
      by_cases hdue : Due values known first
      · obtain ⟨t, ht⟩ := computed_fillFrom_of_due hdue (pieces rest)
        have hdone : ¬ Due values ((first, t) :: known) first := fun h => (due_cons_iff.1 h).1 rfl
        rw [ht]
        refine List.Pairwise.cons (fun q hq => precedes_token_append ?_) (hlater hdone)
        exact (due_cons_iff.1 (mem_computed_fillFrom_iff.1 hq).2).1
      · rw [computed_fillFrom_of_not_due hdue]
        exact hlater hdue
  | char c s hnone ih =>
      rw [pieces_cons hnone]
      exact ih.imp fun h => h.cons hnone

/-- **A value on demand is computed once, and only where it is needed.** The text is the one that
the same values give when they are all there beforehand. What is computed are the values on demand
that have a token in the text, each once, in the order of their first tokens. -/
theorem computed_once_in_order (m : Text → Option Value) (s : Text) :
    (fill (.ofMap m) s).text = (fill (.ofMap fun key => (m key).map Value.made) s).text ∧
    (∀ p, p ∈ (fill (.ofMap m) s).computed ↔
      (∃ i, OccursAt s i p) ∧ ∃ compute, m p.text = some (.onDemand compute)) ∧
    (fill (.ofMap m) s).computed.Nodup ∧
    (fill (.ofMap m) s).computed.Pairwise fun p q =>
      ∃ i, OccursAt s i p ∧ ∀ j, OccursAt s j q → i < j := by
  refine ⟨?text, ?members, ?once, pairwise_computed_fillFrom⟩
  case text =>
    rw [text_fill, text_fill]
    refine flatMap_filledPiece_congr fun p _ => ?_
    rw [filledPiece_ofMap, filledPiece_ofMap, Option.map_map]
    rfl
  case members =>
    intro p
    rw [fill, mem_computed_fillFrom_iff, exists_occursAt_iff, Due, List.lookup_nil]
    exact and_congr_right' (and_iff_left rfl)
  case once =>
    exact pairwise_computed_fillFrom.imp fun h => h.ne

end Scaffold.Template
