/-
# Scaffold.Proofs.Text.Shell -- a shell takes apart what was put together

`read?_write` is the law of the two halves of `Scaffold.Text.Shell`: for every list of words, the
empty word and words of quotes, blanks and line feeds included, reading the written line gives the
words back. Nothing is assumed of the characters.

The induction over the words rests on one step, `readFrom_writeWord`: a reader that stands between
words and meets a written word stands in that word afterwards, with whatever follows still ahead
of it. The step quantifies over what follows, since the end of a word is only seen there.
-/

import Scaffold.Text.Shell

namespace Scaffold.Text.Shell

/-! ## Words of harmless characters -/

theorem isSeparator_of_isHarmless {c : CodePoint} (h : isHarmless c) : isSeparator c = false := by
  rw [Bool.eq_false_iff]
  intro hs
  have hc : c = ' ' ∨ c = '\t' ∨ c = '\r' ∨ c = '\n' := by
    simpa [isSeparator, or_assoc] using hs
  rcases hc with rfl | rfl | rfl | rfl <;> exact absurd h (by decide)

theorem opening_of_isHarmless {c : CodePoint} (h : isHarmless c) : opening c = none := by
  have hb : c ≠ '\\' := by rintro rfl; exact absurd h (by decide)
  have hs : c ≠ '\'' := by rintro rfl; exact absurd h (by decide)
  have hd : c ≠ '"' := by rintro rfl; exact absurd h (by decide)
  rw [opening, if_neg hb, if_neg hs, if_neg hd]

/-- Inside a word harmless characters are taken as they are. -/
theorem readFrom_word_harmless {s : Text} (h : ∀ c ∈ s, isHarmless c) (part rest : Text) :
    readFrom .word part (s ++ rest) = readFrom .word (part ++ s) rest := by
  induction s generalizing part with
  | nil => simp
  | cons c s ih =>
      have hc : isHarmless c := h c (by simp)
      have hs := ih (fun d hd => h d (List.mem_cons_of_mem c hd)) (part ++ [c])
      simp only [List.cons_append, readFrom, isSeparator_of_isHarmless hc,
        opening_of_isHarmless hc, Bool.false_eq_true, if_false]
      rw [hs, List.append_assoc, List.singleton_append]

/-! ## Quoted words -/

/-- A quote that was taken out of its quotes is put back. -/
theorem readFrom_single_quote (part rest : Text) :
    readFrom .single part (quotedChar '\'' ++ rest) =
      readFrom .single (part ++ [chr '\'']) rest := by
  have hq : quotedChar '\'' = [chr '\'', chr '"', chr '\'', chr '"', chr '\''] := by decide
  have hd : isSeparator '"' = false ∧ opening '"' = some .double := by decide
  have hs : isSeparator '\'' = false ∧ opening '\'' = some .single := by decide
  simp [hq, readFrom, hd, hs]

/-- Inside single quotes every character comes back, the quotes themselves included. -/
theorem readFrom_single (s part rest : Text) :
    readFrom .single part (s.flatMap quotedChar ++ rest) = readFrom .single (part ++ s) rest := by
  induction s generalizing part with
  | nil => simp
  | cons c s ih =>
      rw [List.flatMap_cons, List.append_assoc]
      by_cases hc : c = '\''
      · subst hc
        rw [readFrom_single_quote, ih, List.append_assoc, List.singleton_append]
      · have hq : quotedChar c = [c] := if_neg hc
        rw [hq, List.singleton_append, readFrom, if_neg hc, ih, List.append_assoc,
          List.singleton_append]

/-! ## Lines of words -/

/-- **One word.** A reader between words that meets a written word stands in that word behind it,
whatever follows. -/
theorem readFrom_writeWord (w rest : Text) :
    readFrom .between [] (writeWord w ++ rest) = readFrom .word w rest := by
  unfold writeWord
  split
  next h =>
    have hw : w ≠ [] ∧ ∀ c ∈ w, isHarmless c := by simpa using h
    obtain ⟨c, s, rfl⟩ := List.exists_cons_of_ne_nil hw.1
    have hc : isHarmless c := hw.2 c (by simp)
    rw [List.cons_append, readFrom]
    simp only [isSeparator_of_isHarmless hc, opening_of_isHarmless hc, Bool.false_eq_true, if_false]
    exact readFrom_word_harmless (fun d hd => hw.2 d (List.mem_cons_of_mem c hd)) [c] rest
  next =>
    have hs : isSeparator '\'' = false ∧ opening '\'' = some .single := by decide
    rw [List.append_assoc, List.cons_append, readFrom]
    simp only [hs, Bool.false_eq_true, if_false]
    rw [readFrom_single, List.nil_append, List.singleton_append, readFrom, if_pos rfl]

/-- **Writing words and reading the line gives the words back.** -/
theorem read?_write (words : List Text) : read? (write words) = some words := by
  unfold read? write
  induction words with
  | nil => rfl
  | cons w words ih =>
      cases words with
      | nil =>
          have h := readFrom_writeWord w []
          rw [List.append_nil] at h
          simpa [Text.join, readFrom] using h
      -- The blank between two words ends the first, whatever is in it.
      | cons v words =>
          have hsep : isSeparator ' ' = true := by decide
          show readFrom .between []
            (writeWord w ++ chr ' ' :: Text.join ' ' ((v :: words).map writeWord)) = _
          rw [readFrom_writeWord, readFrom]
          simp only [hsep, if_true]
          rw [ih]
          rfl

end Scaffold.Text.Shell
