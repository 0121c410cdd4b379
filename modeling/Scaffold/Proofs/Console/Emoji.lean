/-
# Scaffold.Proofs.Console.Emoji -- when emoji codes are replaced

Emoji have no colons in them, and with that it can be told from a text whether a code in it was
replaced: two colons are taken away with each (`leavesAlone_or_fewer`). So a text stays as it is
exactly when none of its codes is in the table.
-/

import Mathlib.Data.List.Infix
import Mathlib.Data.List.TakeWhile
import Scaffold.Console.Emoji

namespace Scaffold.Console

/-! ## Reading -/

theorem codeContent?_eq_some_iff {s content : Text} :
    codeContent? s = some content ↔
      (∀ c ∈ content, c ≠ ':' ∧ Text.isBlankChar c = false) ∧
        ∃ rest, s = content ++ chr ':' :: rest := by
  rw [codeContent?, List.span_eq_takeWhile_dropWhile]
  constructor
  · intro h
    split at h
    · rename_i inside rest hspan
      obtain rfl := Option.some.inj h
      obtain ⟨rfl, hdrop⟩ := Prod.mk.inj hspan
      refine ⟨fun c hc => by simpa using List.mem_takeWhile_imp hc, rest, ?_⟩
      rw [← hdrop, List.takeWhile_append_dropWhile]
    · cases h
  · rintro ⟨hcontent, rest, rfl⟩
    have hgoesOn : ∀ c ∈ content, (decide (c ≠ chr ':') && !Text.isBlankChar c) = true := by
      intro c hc
      simpa using hcontent c hc
    rw [List.takeWhile_append_of_pos hgoesOn, List.dropWhile_append_of_pos hgoesOn]
    simp

theorem codeItems_drop (done : Nat) (s : Text) : codeItems done s = codeItems 0 (s.drop done) := by
  induction s generalizing done with
  | nil => simp [codeItems]
  | cons c s ih =>
      cases done with
      | zero => rfl
      | succ done => rw [List.drop_succ_cons, ← ih, codeItems]

/-- What stands between two colons is a code, and reading goes on behind it. -/
theorem codeItems_code {content : Text} (h : ∀ c ∈ content, c ≠ ':' ∧ Text.isBlankChar c = false)
    (rest : Text) :
    codeItems 0 (chr ':' :: (content ++ chr ':' :: rest)) = .code content :: codeItems 0 rest := by
  have hrest : (content ++ chr ':' :: rest).drop (content.length + 1) = rest := by
    rw [← List.drop_drop, List.drop_left]
    rfl
  rw [codeItems, if_pos rfl, codeContent?_eq_some_iff.2 ⟨h, rest, rfl⟩]
  dsimp only
  rw [codeItems_drop, hrest]

/-- Reading loses nothing. -/
theorem flatMap_written_codeItems (s : Text) :
    (codeItems 0 s).flatMap CodeItem.written = s := by
  -- A code is skipped as a whole, so the induction is on the length.
  induction hlen : s.length using Nat.strong_induction_on generalizing s with
  | _ k ih =>
  cases s with
  | nil => rfl
  | cons c s =>
      have hchar : (CodeItem.char c :: codeItems 0 s).flatMap CodeItem.written = c :: s := by
        rw [List.flatMap_cons, ih s.length (by simp [← hlen]) s rfl]
        rfl
      by_cases hcolon : c = ':'
      · subst hcolon
        cases hcode : codeContent? s with
        | none =>
            rw [codeItems, if_pos rfl, hcode]
            exact hchar
        | some content =>
            obtain ⟨hcontent, rest, rfl⟩ := codeContent?_eq_some_iff.1 hcode
            have hlength : rest.length < k := by
              rw [← hlen]
              simp
              omega
            rw [codeItems_code hcontent, List.flatMap_cons, ih _ hlength rest rfl]
            simp [CodeItem.written]
      · rw [codeItems, if_neg hcolon]
        exact hchar

/-! ## Replacing -/

/-- Whether an item is a code with an emoji in the table. -/
def CodeItem.isKnown (emoji : EmojiTable) : CodeItem → Bool
  | char _ => false
  | code content => (emoji.meaning? content).isSome

namespace EmojiTable

variable {emoji : EmojiTable} {s : Text}

/-- No emoji has a colon in it. -/
def IsColonFree (emoji : EmojiTable) : Prop := ∀ name s, emoji name = some s → chr ':' ∉ s.text

/-- No code of a text stands for an emoji. -/
def LeavesAlone (emoji : EmojiTable) (s : Text) : Prop :=
  ∀ i ∈ codeItems 0 s, i.isKnown emoji = false

instance : Decidable (emoji.LeavesAlone s) :=
  inferInstanceAs (Decidable (∀ i ∈ codeItems 0 s, i.isKnown emoji = false))

theorem selector_mem (content : Text) :
    (codeParts content).2 ∈ [[], [chr '\uFE0F'], [chr '\uFE0E']] := by
  unfold codeParts
  split
  · simp
  · split <;> simp

/-- What is put in the place of a code. -/
theorem exists_of_meaning? {content t : Text} (h : emoji.meaning? content = some t) :
    ∃ name shown selector, emoji name = some shown ∧ t = shown.text ++ selector ∧
      selector ∈ [[], [chr '\uFE0F'], [chr '\uFE0E']] := by
  obtain ⟨shown, hshown, rfl⟩ := Option.map_eq_some_iff.1 h
  exact ⟨_, shown, _, hshown, rfl, selector_mem content⟩

theorem shown_of_isKnown_eq_false {i : CodeItem} (h : i.isKnown emoji = false) :
    i.shown emoji = i.written := by
  cases i with
  | char c => rfl
  | code content =>
      have hnone : emoji.meaning? content = none := by simpa [CodeItem.isKnown] using h
      rw [CodeItem.shown, hnone, Option.getD_none]

theorem replace_eq_self (h : emoji.LeavesAlone s) : emoji.replace s = s := by
  calc emoji.replace s
      = (codeItems 0 s).flatMap CodeItem.written :=
        List.flatMap_congr fun i hi => shown_of_isKnown_eq_false (h i hi)
    _ = s := flatMap_written_codeItems s

/-- A code that is replaced takes two colons with it. -/
theorem count_shown_add_two (hemoji : emoji.IsColonFree) {i : CodeItem}
    (h : i.isKnown emoji = true) :
    (i.shown emoji).count (chr ':') + 2 ≤ i.written.count (chr ':') := by
  cases i with
  | char c => cases h
  | code content =>
      obtain ⟨t, hmeaning⟩ := Option.isSome_iff_exists.1 h
      obtain ⟨name, shown, selector, hshown, rfl, hselector⟩ := exists_of_meaning? hmeaning
      have hfree : chr ':' ∉ shown.text ++ selector := by
        rw [List.mem_append, not_or]
        refine ⟨hemoji name shown hshown, fun hmem => ?_⟩
        simp only [List.mem_cons, List.not_mem_nil, or_false] at hselector
        rcases hselector with rfl | rfl | rfl <;> exact absurd hmem (by decide)
      rw [CodeItem.shown, hmeaning, Option.getD_some, List.count_eq_zero_of_not_mem hfree]
      simp [CodeItem.written]

/-- **Replacing takes colons away**, wherever there is something to replace. -/
theorem leavesAlone_or_fewer (hemoji : emoji.IsColonFree) (s : Text) :
    emoji.LeavesAlone s ∨ (emoji.replace s).count (chr ':') < s.count (chr ':') := by
  have hitems : ∀ items : List CodeItem, (∀ i ∈ items, i.isKnown emoji = false) ∨
      (items.flatMap (CodeItem.shown emoji)).count (chr ':') <
        (items.flatMap CodeItem.written).count (chr ':') := by
    intro items
    induction items with
    | nil => exact .inl (by simp)
    | cons i items ih =>
        simp only [List.flatMap_cons, List.count_append]
        cases hknown : i.isKnown emoji with
        | true =>
            have hfewer := count_shown_add_two hemoji hknown
            rcases ih with hall | hless
            · have hsame : items.flatMap (CodeItem.shown emoji) = items.flatMap CodeItem.written :=
                List.flatMap_congr fun i hi => shown_of_isKnown_eq_false (hall i hi)
              rw [hsame]
              omega
            · omega
        | false =>
            rw [shown_of_isKnown_eq_false hknown]
            exact ih.imp (fun hall => List.forall_mem_cons.2 ⟨hknown, hall⟩)
              (Nat.add_lt_add_left · _)
  have hs := hitems (codeItems 0 s)
  rwa [flatMap_written_codeItems] at hs

/-- What can come of a code: what an emoji is made of, and the marks behind it. -/
def Brings (emoji : EmojiTable) (c : CodePoint) : Prop :=
  c ∈ [chr '\uFE0F', chr '\uFE0E'] ∨ ∃ name shown, emoji name = some shown ∧ c ∈ shown.text

theorem Brings.isSurrogate {c : CodePoint} (h : emoji.Brings c) : c.isSurrogate = false := by
  rcases h with h | ⟨name, shown, -, h⟩
  · simp only [List.mem_cons, List.not_mem_nil, or_false] at h
    rcases h with rfl | rfl <;> rfl
  · obtain ⟨d, -, rfl⟩ := List.mem_map.1 h
    rfl

/-- What stands in a text whose codes are replaced stood in the text or came of a code. -/
theorem mem_of_mem_replace {c : CodePoint} (h : c ∈ emoji.replace s) :
    c ∈ s ∨ emoji.Brings c ∧ chr ':' ∈ s := by
  obtain ⟨i, hi, hc⟩ := List.mem_flatMap.1 h
  have hsub : i.written ⊆ s := by
    rw [← flatMap_written_codeItems s]
    exact fun d hd => List.mem_flatMap.2 ⟨i, hi, hd⟩
  cases hknown : i.isKnown emoji with
  | false =>
      rw [shown_of_isKnown_eq_false hknown] at hc
      exact .inl (hsub hc)
  | true =>
      cases i with
      | char c => cases hknown
      | code content =>
          obtain ⟨t, hmeaning⟩ := Option.isSome_iff_exists.1 hknown
          obtain ⟨name, shown, selector, hshown, rfl, hselector⟩ := exists_of_meaning? hmeaning
          rw [CodeItem.shown, hmeaning, Option.getD_some] at hc
          refine .inr ⟨?_, hsub (List.mem_cons_self ..)⟩
          rcases List.mem_append.1 hc with hc | hc
          · exact .inr ⟨name, shown, hshown, hc⟩
          · simp only [List.mem_cons, List.not_mem_nil, or_false] at hselector
            rcases hselector with rfl | rfl | rfl
            · cases hc
            · exact .inl (List.mem_cons.2 (.inl (List.mem_singleton.1 hc)))
            · exact .inl (List.mem_cons_of_mem _ hc)

end EmojiTable

end Scaffold.Console
