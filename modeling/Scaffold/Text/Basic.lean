/-
# Scaffold.Text.Basic -- texts, cutting and joining

A text is a list of characters, and every operation of the library works on it one character at
a time. Cutting at a separator and joining with it are the two halves of every line format here:
`join_split` says that cutting loses nothing, `split_join` that joining pieces free of the
separator can be undone, and `not_mem_of_mem_split` that no piece still holds the separator.
-/

import Scaffold.Text.CodePoint

namespace Scaffold.Text

/-! ## Cutting at a separator -/

/-- The pieces of a text between occurrences of `sep`. There is always at least one piece, and
one more than there are separators. -/
def split (sep : CodePoint) : Text → List Text
  | [] => [[]]
  | c :: s =>
    if c = sep then [] :: split sep s
    else
      match split sep s with
      | [] => [[c]]
      | piece :: pieces => (c :: piece) :: pieces

/-- The pieces with `sep` written between each two. -/
def join (sep : CodePoint) : List Text → Text
  | [] => []
  | [piece] => piece
  | piece :: pieces => piece ++ sep :: join sep pieces

theorem split_ne_nil (sep : CodePoint) (s : Text) : split sep s ≠ [] := by
  cases s with
  | nil => simp [split]
  | cons c s =>
    simp only [split]
    split
    · simp
    · split <;> simp

theorem split_cons_sep (sep : CodePoint) (s : Text) : split sep (sep :: s) = [] :: split sep s := by
  simp [split]

theorem split_cons_of_ne {sep c : CodePoint} (h : c ≠ sep) {s piece : Text} {pieces : List Text}
    (hs : split sep s = piece :: pieces) : split sep (c :: s) = (c :: piece) :: pieces := by
  simp [split, h, hs]

/-- Cutting loses nothing. -/
theorem join_split (sep : CodePoint) (s : Text) : join sep (split sep s) = s := by
  induction s with
  | nil => rfl
  | cons c s ih =>
    obtain ⟨piece, pieces, hs⟩ := List.exists_cons_of_ne_nil (split_ne_nil sep s)
    by_cases h : c = sep
    · subst h
      rw [split_cons_sep, hs]
      rw [hs] at ih
      simp [join, ih]
    · rw [split_cons_of_ne h hs]
      rw [hs] at ih
      cases pieces with
      | nil => simpa [join] using ih
      | cons p ps => simpa [join] using ih

/-- No piece holds the separator. -/
theorem not_mem_of_mem_split {sep : CodePoint} {s piece : Text} (h : piece ∈ split sep s) :
    sep ∉ piece := by
  induction s generalizing piece with
  | nil => simp [split] at h; simp [h]
  | cons c s ih =>
    obtain ⟨p, ps, hs⟩ := List.exists_cons_of_ne_nil (split_ne_nil sep s)
    by_cases hc : c = sep
    · subst hc
      rw [split_cons_sep] at h
      rcases List.mem_cons.1 h with rfl | h
      · simp
      · exact ih h
    · rw [split_cons_of_ne hc hs] at h
      rcases List.mem_cons.1 h with rfl | h
      · have := ih (hs ▸ List.mem_cons_self)
        simp [this, Ne.symm hc]
      · exact ih (hs ▸ List.mem_cons_of_mem _ h)

/-- A text without the separator is its own only piece. -/
theorem split_eq_singleton {sep : CodePoint} {s : Text} (h : sep ∉ s) : split sep s = [s] := by
  induction s with
  | nil => rfl
  | cons c s ih =>
    simp only [List.mem_cons, not_or] at h
    exact split_cons_of_ne (Ne.symm h.1) (ih h.2)

theorem split_append_sep {sep : CodePoint} {s : Text} (h : sep ∉ s) (t : Text) :
    split sep (s ++ sep :: t) = s :: split sep t := by
  induction s with
  | nil => exact split_cons_sep sep t
  | cons c s ih =>
    simp only [List.mem_cons, not_or] at h
    exact split_cons_of_ne (Ne.symm h.1) (ih h.2)

/-- What is free of the separator only lengthens the last piece. -/
theorem split_append_of_not_mem {sep : CodePoint} {t : Text} (ht : sep ∉ t) (s : Text) :
    ∃ last, split sep (s ++ t) = (split sep s).dropLast ++ [last ++ t] := by
  induction s with
  | nil => exact ⟨[], split_eq_singleton ht⟩
  | cons c s ih =>
    obtain ⟨last, hlast⟩ := ih
    obtain ⟨piece, pieces, hs⟩ := List.exists_cons_of_ne_nil (split_ne_nil sep s)
    rw [hs] at hlast
    by_cases h : c = sep
    · subst h
      refine ⟨last, ?_⟩
      rw [List.cons_append, split_cons_sep, split_cons_sep, hlast, hs]
      rfl
    · rw [split_cons_of_ne h hs]
      cases pieces with
      | nil => exact ⟨c :: last, split_cons_of_ne h hlast⟩
      | cons q qs => exact ⟨last, split_cons_of_ne h hlast⟩

/-- Joining at least one piece, none of which holds the separator, is undone by cutting. -/
theorem split_join {sep : CodePoint} {pieces : List Text} (hne : pieces ≠ [])
    (h : ∀ piece ∈ pieces, sep ∉ piece) : split sep (join sep pieces) = pieces := by
  induction pieces with
  | nil => exact absurd rfl hne
  | cons p ps ih =>
    cases ps with
    | nil => exact split_eq_singleton (h p (by simp))
    | cons q qs =>
      show split sep (p ++ sep :: join sep (q :: qs)) = _
      rw [split_append_sep (h p (by simp)), ih (by simp) (fun r hr => h r (by simp [hr]))]

/-- There is one piece more than there are separators. -/
theorem length_split (sep : CodePoint) (s : Text) : (split sep s).length = s.count sep + 1 := by
  induction s with
  | nil => rfl
  | cons c s ih =>
    obtain ⟨piece, pieces, hs⟩ := List.exists_cons_of_ne_nil (split_ne_nil sep s)
    by_cases h : c = sep
    · subst h
      simp [split_cons_sep, ih]
    · rw [split_cons_of_ne h hs, List.count_cons_of_ne h, ← ih, hs]
      simp

/-- What stands in a piece stands in the joined text. -/
theorem mem_join_of_mem {sep c : CodePoint} {piece : Text} {pieces : List Text}
    (hp : piece ∈ pieces)
    (hc : c ∈ piece) : c ∈ join sep pieces := by
  induction pieces with
  | nil => simp at hp
  | cons p ps ih =>
    cases ps with
    | nil => simp_all [join]
    | cons q qs =>
      show c ∈ p ++ sep :: join sep (q :: qs)
      rcases List.mem_cons.1 hp with rfl | hp
      · exact List.mem_append_left _ hc
      · exact List.mem_append_right _ (List.mem_cons_of_mem _ (ih hp))

/-- Joining brings nothing into a text but the pieces and the separator. -/
theorem not_mem_join {sep c : CodePoint} {pieces : List Text} (hc : c ≠ sep)
    (h : ∀ piece ∈ pieces, c ∉ piece) : c ∉ join sep pieces := by
  induction pieces with
  | nil => simp [join]
  | cons p ps ih =>
    have hp : c ∉ p := h p List.mem_cons_self
    have hps := ih fun q hq => h q (List.mem_cons_of_mem p hq)
    cases ps with
    | nil => exact hp
    | cons q qs => simpa [join, hp, hc] using hps

/-- What stands in a piece stands in the text that was cut. -/
theorem mem_of_mem_split {sep c : CodePoint} {s piece : Text} (hp : piece ∈ split sep s)
    (hc : c ∈ piece) : c ∈ s := by
  rw [← join_split sep s]
  exact mem_join_of_mem hp hc

/-! ## Classes of characters -/

/-- Whether a code point lies in one of the ranges, both ends included. Every class of characters
of the library is given in this form. -/
def inRanges (ranges : List (Nat × Nat)) (n : Nat) : Bool :=
  ranges.any fun r => r.1 ≤ n && n ≤ r.2

/-! ## Longer separators, beginnings and ends, numbers -/

/-- The pieces with the text `glue` written between each two. -/
def joinWith (glue : Text) : List Text → Text
  | [] => []
  | [piece] => piece
  | piece :: pieces => piece ++ glue ++ joinWith glue pieces

/-- The rest of a text after the given beginning, or nothing where it begins otherwise. -/
def dropBeginning? : Text → Text → Option Text
  | [], s => some s
  | _ :: _, [] => none
  | b :: beginning, c :: s => if b = c then dropBeginning? beginning s else none

/-- Whether a text begins with the given text. -/
def beginsWith (beginning s : Text) : Bool := beginning.isPrefixOf s

/-- Whether a text ends with the given text. -/
def endsWith (ending s : Text) : Bool := ending.isSuffixOf s

/-- The sum of numbers, such as the widths of pieces. -/
def total : List Nat → Nat
  | [] => 0
  | n :: ns => n + total ns

/-- The decimal numeral of a natural number. -/
def ofNat (n : Nat) : Text := (Nat.toDigits 10 n).map chr

/-- `n` spaces. -/
def spaces (n : Nat) : Text := List.replicate n ' '

end Scaffold.Text
