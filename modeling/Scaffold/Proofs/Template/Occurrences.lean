/-
# Scaffold.Proofs.Template.Occurrences -- every token of a text, and nothing else

A template is cut into pieces in one pass from left to right, and after a token the pass goes on
behind it. Nothing is missed by that. A token has its only opening brace in front, so two tokens
never overlap (`OccursAt.add_length_le`), and no two stand at the same place (`OccursAt.unique`).

A `Cut` is a text taken apart into literals and tokens. It is a cut of a text (`Cut.IsOf`) if it
makes up the text and its tokens are all the places where a token stands, wherever the pass would
have looked for them. There is exactly one such cut (`existsUnique_isOf`), and the pieces of the
text are those of the cut (`Cut.IsOf.pieces_eq`).
-/

import Mathlib.Data.List.Infix
import Scaffold.Template.Basic

namespace Scaffold

/-! ## Tokens -/

namespace Placeholder

variable {p q : Placeholder} {s : Text}

/-- The brace in front is the only opening brace of a token. -/
theorem brace_not_mem_tail (p : Placeholder) : chr '\x7b' ∉ p.token.tail := by
  cases p <;> decide

theorem token_eq_cons (p : Placeholder) : p.token = chr '\x7b' :: p.token.tail := rfl

theorem length_token_pos (p : Placeholder) : 0 < p.token.length := Nat.succ_pos _

theorem eq_of_token_prefix_token (h : p.token <+: q.token) : p = q := by
  revert h
  cases p <;> cases q <;> decide

/-- A text begins with one token at most. -/
theorem eq_of_token_prefix (hp : p.token <+: s) (hq : q.token <+: s) : p = q := by
  rcases List.prefix_or_prefix_of_prefix hp hq with h | h
  · exact eq_of_token_prefix_token h
  · exact (eq_of_token_prefix_token h).symm

end Placeholder

namespace Template

variable {p q : Placeholder} {s rest : Text} {c : CodePoint} {i j : Nat}

theorem holeAt?_eq_some_iff : holeAt? s = some p ↔ p.token <+: s := by
  constructor
  · intro h
    obtain ⟨rest, rfl⟩ := holeAt?_eq_some h
    exact List.prefix_append p.token rest
  · intro h
    obtain ⟨rest, rfl⟩ := h
    have hmem : p ∈ Placeholder.all := by cases p <;> decide
    cases hhole : holeAt? (p.token ++ rest) with
    | some q =>
        obtain ⟨rest', hrest'⟩ := holeAt?_eq_some hhole
        rw [Placeholder.eq_of_token_prefix ⟨rest', hrest'.symm⟩ (List.prefix_append p.token rest)]
    | none =>
        rw [p.token_eq_cons, List.cons_append, holeAt?, if_pos rfl, List.find?_eq_none] at hhole
        refine absurd ?_ (hhole p hmem)
        exact List.isPrefixOf_iff_prefix.2 (List.prefix_append p.token rest)

theorem holeAt?_eq_none_iff : holeAt? s = none ↔ ∀ p : Placeholder, ¬ p.token <+: s := by
  rw [Option.eq_none_iff_forall_ne_some]
  exact forall_congr' fun p => not_congr holeAt?_eq_some_iff

/-! ## Occurrences -/

/-- The token of a placeholder stands at a position of a text. -/
def OccursAt (s : Text) (i : Nat) (p : Placeholder) : Prop := p.token <+: s.drop i

theorem occursAt_succ_iff : OccursAt (c :: s) (i + 1) p ↔ OccursAt s i p := Iff.rfl

/-- No two tokens stand at the same place. -/
theorem OccursAt.unique (hp : OccursAt s i p) (hq : OccursAt s i q) : p = q :=
  Placeholder.eq_of_token_prefix hp hq

/-- **Tokens never overlap.** The second would have its opening brace inside the first. -/
theorem OccursAt.add_length_le (hp : OccursAt s i p) (hq : OccursAt s j q) (hlt : i < j) :
    i + p.token.length ≤ j := by
  by_contra hover
  obtain ⟨rest, hrest⟩ := hp
  obtain ⟨k, rfl⟩ : ∃ k, j = i + (k + 1) := ⟨j - i - 1, by omega⟩
  have hinside : k + 1 ≤ p.token.length := by omega
  have hdrop : s.drop (i + (k + 1)) = p.token.tail.drop k ++ rest := by
    rw [← List.drop_drop, ← hrest, List.drop_append_of_le_length hinside, List.drop_tail]
  obtain ⟨rest', hrest'⟩ := hq
  -- What stands at the second place is the end of the first token, unless nothing is left of it.
  rw [hdrop, q.token_eq_cons] at hrest'
  cases hleft : p.token.tail.drop k with
  | nil =>
      have hlength := congrArg List.length hleft
      simp only [List.length_drop, List.length_tail, List.length_nil] at hlength
      omega
  | cons d left =>
      rw [hleft, List.cons_append, List.cons_append] at hrest'
      obtain ⟨rfl, -⟩ := List.cons.inj hrest'
      have hmem := List.mem_cons_self (a := chr '\x7b') (l := left)
      rw [← hleft] at hmem
      exact p.brace_not_mem_tail (List.mem_of_mem_drop hmem)

/-- Behind a token at the beginning the occurrences are those of the rest. -/
theorem occursAt_token_append_iff :
    OccursAt (q.token ++ rest) i p ↔
      (i = 0 ∧ p = q) ∨ ∃ j, i = q.token.length + j ∧ OccursAt rest j p := by
  have hfirst : OccursAt (q.token ++ rest) 0 q := List.prefix_append q.token rest
  have hlater : ∀ j, OccursAt (q.token ++ rest) (q.token.length + j) p ↔ OccursAt rest j p := by
    intro j
    rw [OccursAt, OccursAt, List.drop_append, List.drop_of_length_le (Nat.le_add_right _ _),
      List.nil_append, Nat.add_sub_cancel_left]
  constructor
  · intro h
    rcases Nat.eq_zero_or_pos i with rfl | hpos
    · exact .inl ⟨rfl, h.unique hfirst⟩
    · have hle := hfirst.add_length_le h hpos
      obtain ⟨j, rfl⟩ := Nat.exists_eq_add_of_le (Nat.zero_add q.token.length ▸ hle)
      exact .inr ⟨j, rfl, (hlater j).1 h⟩
  · rintro (⟨rfl, rfl⟩ | ⟨j, rfl, h⟩)
    · exact hfirst
    · exact (hlater j).2 h

/-! ## The pass over a text -/

theorem piecesFrom_eq (done : Nat) (s : Text) : piecesFrom done s = pieces (s.drop done) := by
  induction done generalizing s with
  | zero => rfl
  | succ done ih =>
      cases s with
      | nil => rfl
      | cons c s => exact ih s

theorem pieces_token_append (p : Placeholder) (rest : Text) :
    pieces (p.token ++ rest) = .hole p :: pieces rest := by
  have hhole : holeAt? (chr '\x7b' :: (p.token.tail ++ rest)) = some p :=
    holeAt?_eq_some_iff.2 (List.prefix_append p.token rest)
  rw [p.token_eq_cons, List.cons_append, pieces, piecesFrom, hhole]
  dsimp only
  rw [piecesFrom_eq, ← List.length_tail, List.drop_left]

theorem pieces_cons (h : holeAt? (c :: s) = none) : pieces (c :: s) = .char c :: pieces s := by
  rw [pieces, piecesFrom, h]
  rfl

/-- Induction along the pass: a text is empty, or begins with a token, or with a character at which
no token stands. -/
@[elab_as_elim]
theorem pieces_induction {motive : Text → Prop} (nil : motive [])
    (token : ∀ (p : Placeholder) rest, motive rest → motive (p.token ++ rest))
    (char : ∀ c s, holeAt? (c :: s) = none → motive s → motive (c :: s)) (s : Text) : motive s := by
  induction hn : s.length using Nat.strong_induction_on generalizing s with
  | _ n ih =>
      subst hn
      cases s with
      | nil => exact nil
      | cons c s =>
          cases hhole : holeAt? (c :: s) with
          | none => exact char c s hhole (ih s.length (Nat.lt_succ_self _) s rfl)
          | some p =>
              obtain ⟨rest, hrest⟩ := holeAt?_eq_some hhole
              rw [hrest] at ih ⊢
              refine token p rest (ih rest.length ?_ rest rfl)
              rw [List.length_append]
              exact Nat.lt_add_of_pos_left p.length_token_pos

/-- A token stands somewhere in a text exactly where one of the pieces is its hole. -/
theorem exists_occursAt_iff : (∃ i, OccursAt s i p) ↔ .hole p ∈ pieces s := by
  induction s using pieces_induction with
  | nil =>
      refine iff_of_false ?_ List.not_mem_nil
      rintro ⟨i, hi⟩
      rw [OccursAt, List.drop_nil, List.prefix_nil] at hi
      exact List.cons_ne_nil _ _ hi
  | token q rest ih =>
      simp only [occursAt_token_append_iff, exists_or, exists_eq_left, pieces_token_append,
        List.mem_cons, Piece.hole.injEq, ← ih]
      refine or_congr Iff.rfl ⟨?_, ?_⟩
      · rintro ⟨_, j, -, hj⟩
        exact ⟨j, hj⟩
      · rintro ⟨j, hj⟩
        exact ⟨_, j, rfl, hj⟩
  | char c s hnone ih =>
      rw [pieces_cons hnone, List.mem_cons, or_iff_right (by simp), ← ih]
      constructor
      · rintro ⟨i, hi⟩
        cases i with
        | zero => exact absurd hi (holeAt?_eq_none_iff.1 hnone p)
        | succ i => exact ⟨i, hi⟩
      · rintro ⟨i, hi⟩
        exact ⟨i + 1, hi⟩

/-! ## Cuts -/

/-- A text taken apart: literals with a token behind each, and what follows the last token. -/
structure Cut where
  parts : List (Text × Placeholder)
  last : Text

namespace Cut

/-- The text that a cut makes up, with a text for each token. -/
def filledBy (value : Placeholder → Text) (cut : Cut) : Text :=
  (cut.parts.flatMap fun x => x.1 ++ value x.2) ++ cut.last

/-- The text that was taken apart. -/
def text (cut : Cut) : Text := cut.filledBy Placeholder.token

/-- The placeholders of the tokens, in their order. -/
def keys (cut : Cut) : List Placeholder := cut.parts.map Prod.snd

/-- The positions of the tokens behind some literals. -/
def tokensOf : List (Text × Placeholder) → List (Nat × Placeholder)
  | [] => []
  | (literal, p) :: parts =>
    (literal.length, p) ::
      (tokensOf parts).map fun x => (literal.length + p.token.length + x.1, x.2)

/-- The tokens of a cut with their positions. -/
def tokens (cut : Cut) : List (Nat × Placeholder) := tokensOf cut.parts

/-- The pieces of a cut. -/
def pieces (cut : Cut) : List Piece :=
  (cut.parts.flatMap fun x => x.1.map .char ++ [.hole x.2]) ++ cut.last.map .char

/-- A cut makes up a text, and its tokens are all tokens that stand in the text. -/
structure IsOf (cut : Cut) (s : Text) : Prop where
  text : cut.text = s
  mem_tokens_iff : ∀ i p, (i, p) ∈ cut.tokens ↔ OccursAt s i p

/-- The cut with a character in front. -/
def cons (c : CodePoint) : Cut → Cut
  | ⟨[], last⟩ => ⟨[], c :: last⟩
  | ⟨(literal, p) :: parts, last⟩ => ⟨(c :: literal, p) :: parts, last⟩

theorem text_cons (c : CodePoint) (cut : Cut) : (cut.cons c).text = c :: cut.text := by
  obtain ⟨_ | ⟨⟨literal, p⟩, parts⟩, last⟩ := cut <;> rfl

theorem pieces_cons (c : CodePoint) (cut : Cut) : (cut.cons c).pieces = .char c :: cut.pieces := by
  obtain ⟨_ | ⟨⟨literal, p⟩, parts⟩, last⟩ := cut <;> rfl

theorem mem_tokens_cons_iff (c : CodePoint) (cut : Cut) :
    (i, p) ∈ (cut.cons c).tokens ↔ ∃ j, i = j + 1 ∧ (j, p) ∈ cut.tokens := by
  obtain ⟨_ | ⟨⟨literal, q⟩, parts⟩, last⟩ := cut
  · simp [cons, tokens, tokensOf]
  · simp only [cons, tokens, tokensOf, List.length_cons, List.mem_cons, List.mem_map, Prod.mk.injEq,
      Prod.exists]
    constructor
    · rintro (⟨rfl, rfl⟩ | ⟨k, _, hmem, rfl, rfl⟩)
      · exact ⟨_, rfl, .inl ⟨rfl, rfl⟩⟩
      · exact ⟨literal.length + q.token.length + k, by omega, .inr ⟨k, _, hmem, rfl, rfl⟩⟩
    · rintro ⟨j, rfl, ⟨rfl, rfl⟩ | ⟨k, _, hmem, rfl, rfl⟩⟩
      · exact .inl ⟨rfl, rfl⟩
      · exact .inr ⟨k, _, hmem, by omega, rfl⟩

/-- What the pass finds is a cut of the text. -/
theorem exists_isOf (s : Text) : ∃ cut : Cut, cut.IsOf s ∧ cut.pieces = Template.pieces s := by
  induction s using pieces_induction with
  | nil =>
      refine ⟨⟨[], []⟩, ⟨rfl, fun i p => ?_⟩, rfl⟩
      simp [tokens, tokensOf, OccursAt, Placeholder.token]
  | token q rest ih =>
      obtain ⟨cut, ⟨htext, htokens⟩, hpieces⟩ := ih
      refine ⟨⟨([], q) :: cut.parts, cut.last⟩, ⟨?_, fun i p => ?_⟩, ?_⟩
      · rw [← htext, text, filledBy, text, filledBy, List.flatMap_cons, List.nil_append,
          List.append_assoc]
      · rw [occursAt_token_append_iff]
        simp only [tokens, tokensOf, List.length_nil, Nat.zero_add, List.mem_cons, List.mem_map,
          Prod.mk.injEq, Prod.exists]
        refine or_congr Iff.rfl ⟨?_, ?_⟩
        · rintro ⟨j, _, hmem, rfl, rfl⟩
          exact ⟨j, rfl, (htokens j _).1 hmem⟩
        · rintro ⟨j, rfl, hoccurs⟩
          exact ⟨j, p, (htokens j p).2 hoccurs, rfl, rfl⟩
      · rw [pieces_token_append, ← hpieces]
        rfl
  | char c s hnone ih =>
      obtain ⟨cut, ⟨htext, htokens⟩, hpieces⟩ := ih
      refine ⟨cut.cons c, ⟨by rw [text_cons, htext], fun i p => ?_⟩, ?_⟩
      · rw [mem_tokens_cons_iff]
        cases i with
        | zero =>
            refine iff_of_false (by simp) ?_
            exact holeAt?_eq_none_iff.1 hnone p
        | succ i => simp [occursAt_succ_iff, htokens]
      · rw [pieces_cons, hpieces, Template.pieces_cons hnone]

/-- The first token of a cut stands before all others, so it is told by them. -/
theorem head_eq_of_mem_tokens {literal literal' : Text} {parts parts' : List (Text × Placeholder)}
    (h : (literal.length, p) ∈ tokensOf ((literal', q) :: parts'))
    (h' : (literal'.length, q) ∈ tokensOf ((literal, p) :: parts)) :
    literal.length = literal'.length ∧ p = q := by
  simp only [tokensOf, List.mem_cons, List.mem_map, Prod.mk.injEq, Prod.exists] at h h'
  rcases h with ⟨hlength, rfl⟩ | ⟨k, _, -, hlength, -⟩
  · exact ⟨hlength, rfl⟩
  · rcases h' with ⟨hlength', rfl⟩ | ⟨k', _, -, hlength', -⟩
    · exact ⟨hlength'.symm, rfl⟩
    · have := p.length_token_pos
      have := q.length_token_pos
      omega

theorem mem_tokensOf_cons_add_iff (literal : Text) (q : Placeholder)
    (parts : List (Text × Placeholder)) :
    (literal.length + q.token.length + i, p) ∈ tokensOf ((literal, q) :: parts) ↔
      (i, p) ∈ tokensOf parts := by
  have hpos := q.length_token_pos
  simp only [tokensOf, List.mem_cons, List.mem_map, Prod.mk.injEq, Prod.exists]
  constructor
  · rintro (⟨hlength, -⟩ | ⟨k, _, hmem, hlength, rfl⟩)
    · omega
    · obtain rfl : k = i := by omega
      exact hmem
  · exact fun hmem => .inr ⟨i, p, hmem, rfl, rfl⟩

/-- Cuts of the same text with tokens at the same places are equal. -/
theorem parts_eq_of_mem_tokens {parts parts' : List (Text × Placeholder)} {last last' : Text}
    (htext : (⟨parts, last⟩ : Cut).text = (⟨parts', last'⟩ : Cut).text)
    (htokens : ∀ x, x ∈ tokensOf parts ↔ x ∈ tokensOf parts') :
    parts = parts' ∧ last = last' := by
  induction parts generalizing parts' with
  | nil =>
      cases parts' with
      | nil => exact ⟨rfl, htext⟩
      | cons part' parts' => exact absurd ((htokens _).2 List.mem_cons_self) List.not_mem_nil
  | cons part parts ih =>
      cases parts' with
      | nil => exact absurd ((htokens _).1 List.mem_cons_self) List.not_mem_nil
      | cons part' parts' =>
          obtain ⟨literal, p⟩ := part
          obtain ⟨literal', q⟩ := part'
          -- Literals of one length in front of the same text are equal, and the rest is compared
          -- from behind the first token.
          obtain ⟨hlength, rfl⟩ := head_eq_of_mem_tokens ((htokens _).1 List.mem_cons_self)
            ((htokens _).2 List.mem_cons_self)
          simp only [text, filledBy, List.flatMap_cons, List.append_assoc] at htext
          obtain ⟨rfl, hrest⟩ := List.append_inj htext hlength
          obtain ⟨rfl, rfl⟩ := ih (List.append_cancel_left hrest) fun x => by
            rw [← mem_tokensOf_cons_add_iff literal p parts, htokens,
              mem_tokensOf_cons_add_iff literal p parts']
          exact ⟨rfl, rfl⟩

/-- **A text has exactly one cut.** -/
theorem existsUnique_isOf (s : Text) : ∃! cut : Cut, cut.IsOf s := by
  obtain ⟨cut, hcut, -⟩ := exists_isOf s
  refine ⟨cut, hcut, fun cut' hcut' => ?_⟩
  obtain ⟨parts, last⟩ := cut
  obtain ⟨parts', last'⟩ := cut'
  obtain ⟨rfl, rfl⟩ := parts_eq_of_mem_tokens (hcut'.text.trans hcut.text.symm) fun ⟨i, p⟩ =>
    (hcut'.mem_tokens_iff i p).trans (hcut.mem_tokens_iff i p).symm
  rfl

/-- The pieces of a text are those of its cut. -/
theorem IsOf.pieces_eq {cut : Cut} (h : cut.IsOf s) : Template.pieces s = cut.pieces := by
  obtain ⟨cut', hcut', hpieces⟩ := exists_isOf s
  rw [← hpieces, (existsUnique_isOf s).unique hcut' h]

theorem hole_mem_pieces_iff {cut : Cut} : .hole p ∈ cut.pieces ↔ p ∈ cut.keys := by
  simp [pieces, keys]

end Cut

end Template

end Scaffold
