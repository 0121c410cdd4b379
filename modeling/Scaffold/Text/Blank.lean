/-
# Scaffold.Text.Blank -- blank characters and stripping

Blank characters are the white space of Unicode together with the four information separators
`U+001C` to `U+001F`. Characters that merely print nothing (zero-width space, byte-order mark,
soft hyphen, NUL) are not blank. Stripping takes the blank characters off both ends and leaves
the inside alone: the result is stripped (`strip_strip`), and a text that neither begins nor
ends with a blank character is left as it is (`strip_eq_self_iff`).
-/

import Scaffold.Text.Basic

namespace Scaffold.Text

/-! ## Blank characters -/

/-- The blank characters, as ranges of code points with both ends included. -/
def blankRanges : List (Nat × Nat) :=
  [(0x09, 0x0D), (0x1C, 0x20), (0x85, 0x85), (0xA0, 0xA0), (0x1680, 0x1680), (0x2000, 0x200A),
   (0x2028, 0x2029), (0x202F, 0x202F), (0x205F, 0x205F), (0x3000, 0x3000)]

/-- Whether a character is blank. -/
def isBlankChar (c : CodePoint) : Bool := inRanges blankRanges c.toNat

/-- Whether a text has nothing but blank characters. -/
def isBlank (s : Text) : Bool := s.all isBlankChar

theorem ne_nil_of_isBlank_eq_false {s : Text} (h : isBlank s = false) : s ≠ [] := by
  rintro rfl
  exact absurd h (by decide)

/-! ## Stripping -/

/-- The text without its leading blank characters. -/
def stripLeft (s : Text) : Text := s.dropWhile isBlankChar

/-- The text without its trailing blank characters. -/
def stripRight : Text → Text
  | [] => []
  | c :: s =>
    match stripRight s with
    | [] => if isBlankChar c then [] else [c]
    | t => c :: t

/-- The text without the blank characters at its two ends. -/
def strip (s : Text) : Text := stripRight (stripLeft s)

theorem stripRight_cons (c : CodePoint) (s : Text) :
    stripRight (c :: s) =
      if stripRight s = [] then (if isBlankChar c then [] else [c]) else c :: stripRight s := by
  rw [stripRight]
  split <;> simp_all

theorem stripRight_eq_nil_iff {s : Text} : stripRight s = [] ↔ isBlank s := by
  induction s with
  | nil => simp [stripRight, isBlank]
  | cons c s ih =>
    rw [stripRight_cons]
    by_cases h : stripRight s = []
    · have hs := ih.1 h
      by_cases hc : isBlankChar c <;> simp_all [isBlank]
    · have hs : ¬ isBlank s := fun hb => h (ih.2 hb)
      simp_all [isBlank]

theorem stripRight_cons_of_not_blank {c : CodePoint} (h : isBlankChar c = false) (s : Text) :
    stripRight (c :: s) = c :: stripRight s := by
  rw [stripRight_cons]
  split <;> simp_all

theorem stripLeft_cons_of_not_blank {c : CodePoint} (h : isBlankChar c = false) (s : Text) :
    stripLeft (c :: s) = c :: s := by
  simp [stripLeft, h]

/-- Whatever is left at the front of a left-stripped text is not blank. -/
theorem stripLeft_eq_cons {s rest : Text} {c : CodePoint} (h : stripLeft s = c :: rest) :
    isBlankChar c = false := by
  induction s with
  | nil => simp [stripLeft] at h
  | cons d s ih =>
    by_cases hd : isBlankChar d
    · exact ih (by simpa [stripLeft, hd] using h)
    · rw [stripLeft_cons_of_not_blank (by simpa using hd)] at h
      cases h
      simpa using hd

theorem isBlank_stripLeft (s : Text) : isBlank (stripLeft s) = isBlank s := by
  induction s with
  | nil => rfl
  | cons c s ih =>
    by_cases h : isBlankChar c
    · simpa [stripLeft, isBlank, h] using ih
    · simp [stripLeft, isBlank, h]

/-- A text strips to nothing exactly when it is blank. -/
theorem strip_eq_nil_iff {s : Text} : strip s = [] ↔ isBlank s := by
  rw [strip, stripRight_eq_nil_iff, isBlank_stripLeft]

theorem stripRight_stripRight (s : Text) : stripRight (stripRight s) = stripRight s := by
  induction s with
  | nil => rfl
  | cons c s ih =>
    rw [stripRight_cons]
    split
    · split
      · rfl
      · next h => simp [stripRight, h]
    · next h => rw [stripRight_cons, ih, if_neg h]

theorem strip_strip (s : Text) : strip (strip s) = strip s := by
  unfold strip
  cases h : stripLeft s with
  | nil => rfl
  | cons c t =>
    have hc := stripLeft_eq_cons h
    rw [stripRight_cons_of_not_blank hc, stripLeft_cons_of_not_blank hc,
      stripRight_cons_of_not_blank hc, stripRight_stripRight]

/-- A text is stripped when stripping leaves it as it is. -/
def IsStripped (s : Text) : Prop := strip s = s

instance (s : Text) : Decidable (IsStripped s) := inferInstanceAs (Decidable (strip s = s))

theorem isStripped_strip (s : Text) : IsStripped (strip s) := strip_strip s

/-- A stripped text is blank only if there is nothing in it. -/
theorem IsStripped.isBlank_eq_false {s : Text} (h : IsStripped s) (hne : s ≠ []) :
    isBlank s = false := by
  rw [Bool.eq_false_iff, ne_eq, ← strip_eq_nil_iff, h]
  exact hne

theorem mem_of_mem_stripRight {c : CodePoint} {s : Text} (h : c ∈ stripRight s) : c ∈ s := by
  induction s with
  | nil => simp [stripRight] at h
  | cons d s ih =>
    rw [stripRight_cons] at h
    split at h
    · split at h <;> simp_all
    · rcases List.mem_cons.1 h with rfl | h
      · simp
      · exact List.mem_cons_of_mem _ (ih h)

/-- Everything that stripping leaves was there before. -/
theorem mem_of_mem_strip {c : CodePoint} {s : Text} (h : c ∈ strip s) : c ∈ s :=
  List.dropWhile_subset _ (mem_of_mem_stripRight h)

theorem mem_stripLeft_of_not_blank {c : CodePoint} (hc : isBlankChar c = false) {s : Text}
    (h : c ∈ s) : c ∈ stripLeft s := by
  induction s with
  | nil => cases h
  | cons d s ih =>
    by_cases hd : isBlankChar d
    · rcases List.mem_cons.1 h with rfl | h
      · rw [hd] at hc
        cases hc
      · simpa [stripLeft, hd] using ih h
    · rwa [stripLeft_cons_of_not_blank (by simpa using hd)]

theorem mem_stripRight_of_not_blank {c : CodePoint} (hc : isBlankChar c = false) {s : Text}
    (h : c ∈ s) : c ∈ stripRight s := by
  induction s with
  | nil => cases h
  | cons d s ih =>
    rw [stripRight_cons]
    rcases List.mem_cons.1 h with rfl | h
    · simp only [hc, Bool.false_eq_true, if_false]
      split <;> exact List.mem_cons_self
    · rw [if_neg (List.ne_nil_of_mem (ih h))]
      exact List.mem_cons_of_mem _ (ih h)

/-- Stripping leaves everything that is not blank. -/
theorem mem_strip_of_not_blank {c : CodePoint} (hc : isBlankChar c = false) {s : Text}
    (h : c ∈ s) : c ∈ strip s :=
  mem_stripRight_of_not_blank hc (mem_stripLeft_of_not_blank hc h)

theorem isBlankChar_surrogate (n : Fin 0x800) : isBlankChar (.surrogate n) = false := by
  simp only [isBlankChar, inRanges, blankRanges, CodePoint.toNat, List.any_cons, List.any_nil]
  grind

/-- Surrogates are not blank, so stripping neither adds nor takes any. -/
@[simp] theorem isUnicode_strip (s : Text) : isUnicode (strip s) = isUnicode s := by
  rw [Bool.eq_iff_iff]
  refine ⟨fun h => ?_, fun h => isUnicode_of_subset h fun _ => mem_of_mem_strip⟩
  rw [isUnicode, List.all_eq_true] at h ⊢
  intro c hc
  cases c with
  | chr c => rfl
  | surrogate n => exact h _ (mem_strip_of_not_blank (isBlankChar_surrogate n) hc)

end Scaffold.Text
