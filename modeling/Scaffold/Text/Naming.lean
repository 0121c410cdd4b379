/-
# Scaffold.Text.Naming -- names made from names

A generated program calls its document, its list of documents and its model by names that are
made from the model's name: the plural, and the name with its first character in upper case. The
rules for the plural are those of English spelling, read off the end of the name whatever its
letter case; the ending itself is added in lower case.
-/

import Scaffold.Text.Case

namespace Scaffold.Text

/-- The name with its first character in upper case. -/
def capitalized : Text → Text
  | [] => []
  | c :: s => upperChar c ++ s

/-- No name becomes shorter by its first character in upper case. -/
theorem length_le_capitalized (s : Text) : s.length ≤ (capitalized s).length := by
  cases s with
  | nil => exact Nat.le_refl 0
  | cons c s =>
    have hupper : 0 < (upperChar c).length := List.length_pos_iff.2 (upperChar_ne_nil c)
    rw [capitalized, List.length_append, List.length_cons]
    omega

/-- The vowels of English spelling. -/
def vowels : List CodePoint := [chr 'a', chr 'e', chr 'i', chr 'o', chr 'u']

/-- Endings after which a plural is heard as a syllable of its own. -/
def sibilants : List Text := ["s", "x", "z", "ch", "sh"].map String.text

/-- Whether a name ends in `y` after something that is no vowel. -/
def endsInConsonantY (s : Text) : Bool :=
  match (lower s).reverse with
  | chr 'y' :: c :: _ => s.length > 1 && !vowels.contains c
  | _ => false

/-- The English plural of a name. -/
def plural (s : Text) : Text :=
  if s = [] then []
  else if endsInConsonantY s then s.dropLast ++ "ies".text
  else if sibilants.any fun ending => endsWith ending (lower s) then s ++ "es".text
  else s ++ "s".text

/-- What a plural ends in. -/
def pluralEndings : List Text := ["s", "es", "ies"].map String.text

/-- A plural is the name, or all of it but its last character, with one of the endings behind it,
and it is longer than the name. -/
theorem exists_plural_eq {s : Text} (h : s ≠ []) :
    ∃ stem, ∃ ending ∈ pluralEndings, plural s = stem ++ ending ∧ stem <+: s ∧
      s.length < (plural s).length := by
  have hs : 0 < s.length := List.length_pos_iff.2 h
  rw [plural, if_neg h]
  split
  · refine ⟨s.dropLast, "ies".text, by decide, rfl, s.dropLast_prefix, ?_⟩
    have hlength : (s.dropLast ++ "ies".text).length = s.length - 1 + 3 := by simp
    omega
  · split
    · exact ⟨s, "es".text, by decide, rfl, List.prefix_rfl, by simp⟩
    · exact ⟨s, "s".text, by decide, rfl, List.prefix_rfl, by simp⟩

end Scaffold.Text
