/-
# Scaffold.Proofs.Console.Setting -- what can be shown can be told from its characters

Setting a text breaks it into lines, cuts what is too wide and puts it out in pieces. Three things
can go wrong on the way: a span whose style cannot be read; a text that is too wide but has too few
graphemes to be cut; and, on a strict screen, a surrogate. The second needs a joiner that begins a
text, because only there do the cells of the graphemes not add up to the width (`total_cells`).

Every step is treated alike. Spans and characters are traced through it (`MadeOf`, `Holds`): no step
makes up a style, and none makes up a character but spaces and ellipses. And what goes wrong in it
goes wrong for one of the three reasons (`ComesTo`, `FailsOnly`). The reasons are propositions, so
that texts without joiners and texts with some go through the same lemmas.

So messages and prompts can always be shown, unless a joiner comes of what is read in them or a
surrogate stands in them (`failsOnly_of_message`, `failsOnly_of_prompt`). Tables are set by the same
steps, but they hold names as they are, and a faulty tag in a name leaves no table.
-/

import Scaffold.Proofs.Console.Escaping

namespace Scaffold

/-! ## Graphemes -/

namespace Text

/-- Without joiners the graphemes of a text together are as wide as the text. -/
theorem total_cells_from {part : Text} {cells : Nat} {seen : Option CodePoint} {s : Text}
    (hstart : part = [] → cells = 0 ∧ seen = none) (hs : joiner ∉ s) :
    total ((graphemesFrom part cells seen false s).map Grapheme.cells) =
      cells + widthFrom seen false s := by
  induction s generalizing part cells seen with
  | nil =>
      by_cases hpart : part = []
      · simp [graphemesFrom, hpart, widthFrom, total, (hstart hpart).1]
      · simp [graphemesFrom, hpart, widthFrom, total]
  | cons c s ih =>
      obtain ⟨hc, hs⟩ : c ≠ joiner ∧ joiner ∉ s := by
        simpa only [List.mem_cons, not_or, ne_comm] using hs
      have hselector : charWidth emojiSelector = 0 := by decide
      have hwidth : widthFrom seen false (c :: s) =
          if c = emojiSelector then (seen.map widening).getD 0 + widthFrom none false s
          else charWidth c + widthFrom (if charWidth c = 0 then seen else some c) false s := by
        rw [widthFrom, if_neg (by decide), if_neg hc]
      rw [hwidth]
      by_cases hpart : part = []
      · obtain ⟨rfl, rfl⟩ := hstart hpart
        rw [graphemesFrom, if_pos hpart, ih (by simp) hs]
        by_cases hc' : c = emojiSelector
        · simp [hc', hselector]
        · simp [hc']
      · rw [graphemesFrom, if_neg hpart, if_neg (by decide), if_neg hc]
        by_cases hc' : c = emojiSelector
        · rw [if_pos hc', if_pos hc', ih (by simp) hs, Nat.add_assoc]
        · rw [if_neg hc', if_neg hc']
          by_cases hnone : charWidth c = 0
          · rw [if_pos hnone, if_pos hnone, ih (by simp) hs, hnone, Nat.zero_add]
          · rw [if_neg hnone, if_neg hnone, List.map_cons, total, ih (by simp) hs]

/-- Without joiners the graphemes of a text together are as wide as the text. -/
theorem total_cells {s : Text} (h : joiner ∉ s) :
    total ((graphemes s).map Grapheme.cells) = width s := by
  rw [graphemes, total_cells_from (fun _ => ⟨rfl, rfl⟩) h, Nat.zero_add, width]

/-- A text that is too wide can be cut, unless it has a joiner. -/
theorem exists_cut {s : Text} {n : Nat} (h : joiner ∉ s) (hwide : n < width s) :
    ∃ t, cut n s = .ok t := by
  unfold cut
  by_cases hn : n = 0
  · exact ⟨[], if_pos hn⟩
  · have hcells := total_cells h
    rw [if_neg hn]
    dsimp only
    rw [hcells, if_neg (by omega), if_neg (by omega)]
    exact ⟨_, rfl⟩

theorem mem_of_mem_cutGraphemes {gs : List Grapheme} {n : Nat} {c : CodePoint}
    (h : c ∈ cutGraphemes n gs) : c = ' ' ∨ c ∈ gs.flatMap Grapheme.text := by
  induction gs generalizing n with
  | nil => simp [cutGraphemes] at h
  | cons g gs ih =>
      rw [cutGraphemes] at h
      split at h
      · rw [List.flatMap_cons, List.mem_append]
        rcases List.mem_append.1 h with hg | hgs
        · exact .inr (.inl hg)
        · exact (ih hgs).imp_right .inr
      · exact .inl (List.eq_of_mem_replicate h)

/-- Cutting puts in spaces and no other characters. -/
theorem mem_of_mem_cut {s t : Text} {n : Nat} {c : CodePoint} (h : cut n s = .ok t) (hc : c ∈ t) :
    c = ' ' ∨ c ∈ s := by
  unfold cut at h
  split at h
  · obtain rfl := Except.ok.inj h
    simp at hc
  · dsimp only at h
    split at h
    · simp at h
    · split at h
      · simp at h
      · obtain rfl := Except.ok.inj h
        simpa only [flatMap_graphemes] using mem_of_mem_cutGraphemes hc

theorem mem_of_mem_chopFrom {gs : List Grapheme} {n used : Nat} {filling piece : Text}
    {c : CodePoint} (h : piece ∈ chopFrom n used filling gs) (hc : c ∈ piece) :
    c ∈ filling ∨ c ∈ gs.flatMap Grapheme.text := by
  induction gs generalizing used filling with
  | nil =>
      rw [chopFrom] at h
      split at h
      · simp at h
      · obtain rfl := List.mem_singleton.1 h
        exact .inl (List.mem_reverse.1 hc)
  | cons g gs ih =>
      rw [chopFrom] at h
      rw [List.flatMap_cons, List.mem_append]
      split at h
      -- The grapheme is put to the piece that is being filled.
      · rcases ih h with hfilling | hgs
        · rw [List.mem_append, List.mem_reverse] at hfilling
          exact hfilling.symm.imp_right .inl
        · exact .inr (.inr hgs)
      · rcases List.mem_cons.1 h with rfl | h
        · exact .inl (List.mem_reverse.1 hc)
        · exact .inr ((ih h).imp_left List.mem_reverse.1)

/-- A text is chopped into its own characters. -/
theorem mem_of_mem_chop {s piece : Text} {n : Nat} {c : CodePoint} (h : piece ∈ chop n s)
    (hc : c ∈ piece) : c ∈ s := by
  simpa [flatMap_graphemes] using mem_of_mem_chopFrom h hc

end Text

namespace Console

/-! ## Lines and words -/

theorem mem_of_mem_flowWordsFrom {part s word : Text} {seen ended : Bool} {c : CodePoint}
    (h : word ∈ flowWordsFrom part seen ended s) (hc : c ∈ word) : c ∈ part ∨ c ∈ s := by
  induction s generalizing part seen ended with
  | nil =>
      rw [flowWordsFrom] at h
      split at h
      · obtain rfl := List.mem_singleton.1 h
        exact .inl (List.mem_reverse.1 hc)
      · simp at h
  | cons d s ih =>
      have hlonger : ∀ {part' : Text}, c ∈ d :: part' ∨ c ∈ s → c ∈ part' ∨ c ∈ d :: s := by
        intro part' h
        rcases h with h | h
        · rcases List.mem_cons.1 h with rfl | h
          · exact .inr (List.mem_cons_self ..)
          · exact .inl h
        · exact .inr (List.mem_cons_of_mem _ h)
      rw [flowWordsFrom] at h
      split at h
      · exact hlonger (ih h)
      · split at h
        · rcases List.mem_cons.1 h with rfl | h
          · exact .inl (List.mem_reverse.1 hc)
          · exact (hlonger (ih h)).imp_left (by simp)
        · exact hlonger (ih h)

theorem mem_of_mem_placeWords {width used : Nat} {fold fresh : Bool} {line placed : Text}
    {words : List Text} {c : CodePoint} (h : placed ∈ placeWords width fold line used fresh words)
    (hc : c ∈ placed) : c ∈ line ∨ ∃ word ∈ words, c ∈ word := by
  induction words generalizing line used fresh with
  | nil =>
      obtain rfl := List.mem_singleton.1 h
      exact .inl hc
  | cons word words ih =>
      have hword : c ∈ word → c ∈ line ∨ ∃ w ∈ word :: words, c ∈ w := fun hc =>
        .inr ⟨word, List.mem_cons_self .., hc⟩
      have hline : placed ∈ (if fresh then [] else [line]) →
          c ∈ line ∨ ∃ w ∈ word :: words, c ∈ w := by
        intro h
        split at h
        · simp at h
        · obtain rfl := List.mem_singleton.1 h
          exact .inl hc
      -- The words that are left follow a line that holds nothing but the line so far and this word.
      have hrest : ∀ {line' : Text} {used' : Nat}, (c ∈ line' → c ∈ line ∨ c ∈ word) →
          placed ∈ placeWords width fold line' used' false words →
          c ∈ line ∨ ∃ w ∈ word :: words, c ∈ w := by
        intro line' used' hline' h
        rcases ih h with hc | ⟨w, hw, hc⟩
        · rcases hline' hc with hc | hc
          · exact .inl hc
          · exact hword hc
        · exact .inr ⟨w, List.mem_cons_of_mem _ hw, hc⟩
      rw [placeWords] at h
      split at h
      · exact hrest List.mem_append.1 h
      · split at h
        · split at h
          · split at h
            · exact hrest List.mem_append.1 h
            · rename_i last others hchop
              have hpiece : ∀ piece ∈ last :: others, c ∈ piece → c ∈ word := fun piece hp hc =>
                Text.mem_of_mem_chop (List.mem_reverse.1 (hchop ▸ hp)) hc
              rcases List.mem_append.1 h with h | h
              · rcases List.mem_append.1 h with h | h
                · exact hline h
                · exact hword (hpiece _ (List.mem_cons_of_mem _ (List.mem_reverse.1 h)) hc)
              · exact hrest (fun hc => .inr (hpiece last (List.mem_cons_self ..) hc)) h
          · rcases List.mem_append.1 h with h | h
            · exact hline h
            · exact hrest .inr h
        · split at h
          · rcases List.mem_cons.1 h with rfl | h
            · exact .inl hc
            · exact hrest .inr h
          · exact hrest List.mem_append.1 h

/-- A text is broken into its own characters. -/
theorem mem_of_mem_brokenText {width : Nat} {fold : Bool} {s line : Text} {c : CodePoint}
    (h : line ∈ brokenText width fold s) (hc : c ∈ line) : c ∈ s := by
  rw [brokenText] at h
  split at h
  · rwa [List.mem_singleton.1 h] at hc
  · rcases mem_of_mem_placeWords h hc with hc | ⟨word, hword, hc⟩
    · simp at hc
    · simpa using mem_of_mem_flowWordsFrom hword hc

/-! ## Spans -/

/-- A text of characters of one class whose spans stand in styles of another. -/
structure StyledText.MadeOf (P : CodePoint → Prop) (S : Text → Prop) (s : StyledText) : Prop where
  text : ∀ c ∈ s.text, P c
  styles : ∀ x ∈ s.spans, S x.style

namespace StyledText.MadeOf

variable {P : CodePoint → Prop} {S : Text → Prop} {s t : StyledText} {width : Nat}

theorem replaceText {u : Text} (h : s.MadeOf P S) (hu : ∀ c ∈ u, P c) :
    (s.replaceText u).MadeOf P S := by
  unfold StyledText.replaceText
  split
  · refine ⟨hu, fun x hx => ?_⟩
    obtain ⟨y, hy, rfl⟩ := List.mem_map.1 hx
    exact h.styles y (List.mem_of_mem_filter hy)
  · exact ⟨hu, h.styles⟩

theorem append (hs : s.MadeOf P S) (ht : t.MadeOf P S) : (s.append t).MadeOf P S := by
  refine ⟨fun c hc => ?_, fun x hx => ?_⟩
  · exact (List.mem_append.1 hc).elim (hs.text c) (ht.text c)
  · rcases List.mem_append.1 hx with hx | hx
    · exact hs.styles x hx
    · obtain ⟨y, hy, rfl⟩ := List.mem_map.1 hx
      exact ht.styles y hy

/-- The parts of spans that lie in a stretch stand in the styles of the spans. -/
theorem style_of_mem_between {spans : List Span} {start stop : Nat} {x : Span}
    (h : x ∈ spans.filterMap (Span.between? start stop)) : ∃ y ∈ spans, y.style = x.style := by
  obtain ⟨y, hy, hbetween⟩ := List.mem_filterMap.1 h
  unfold Span.between? at hbetween
  dsimp only at hbetween
  split at hbetween
  · obtain rfl := Option.some.inj hbetween
    exact ⟨y, hy, rfl⟩
  · simp at hbetween

theorem of_mem_stretches {gap position : Nat} {begun others : List Span} {parts : List Text}
    (hparts : ∀ part ∈ parts, ∀ c ∈ part, P c) (hbegun : ∀ x ∈ begun, S x.style)
    (hothers : ∀ x ∈ others, S x.style) (h : t ∈ stretches gap begun others position parts) :
    t.MadeOf P S := by
  induction parts generalizing begun others position with
  | nil => simp [stretches] at h
  | cons part parts ih =>
      rw [stretches, List.span_eq_takeWhile_dropWhile] at h
      have hentered : ∀ x ∈ others.takeWhile (·.start < position + part.length) ++ begun,
          S x.style := by
        intro x hx
        rcases List.mem_append.1 hx with hx | hx
        · exact hothers x ((List.takeWhile_sublist _).mem hx)
        · exact hbegun x hx
      rcases List.mem_cons.1 h with rfl | h
      · refine ⟨hparts part (List.mem_cons_self ..), fun x hx => ?_⟩
        obtain ⟨y, hy, hstyle⟩ := style_of_mem_between hx
        exact hstyle ▸ hentered y hy
      · exact ih (fun q hq => hparts q (List.mem_cons_of_mem _ hq))
          (fun x hx => hentered x (List.mem_of_mem_filter hx))
          (fun x hx => hothers x ((List.dropWhile_sublist _).mem hx)) h

theorem of_mem_divide {gap : Nat} {parts : List Text} (hs : s.MadeOf P S)
    (hparts : ∀ part ∈ parts, ∀ c ∈ part, P c) (h : t ∈ s.divide gap parts) : t.MadeOf P S := by
  unfold divide at h
  split at h
  · rwa [List.mem_singleton.1 h]
  · exact of_mem_stretches hparts (by simp) (fun x hx => hs.styles x (List.mem_mergeSort.1 hx)) h

theorem fillTab (hs : s.MadeOf P S) (hspace : P ' ') (count : Nat) :
    (StyledText.fillTab count s).MadeOf P S := by
  refine ⟨fun c hc => ?_, fun x hx => ?_⟩
  · rcases List.mem_append.1 hc with hc | hc
    · exact hs.text c hc
    · rwa [List.eq_of_mem_replicate hc]
  · obtain ⟨y, hy, rfl⟩ := List.mem_map.1 hx
    have hstyle := hs.styles y hy
    split <;> exact hstyle

theorem expandTabsFrom {marked : Bool} {spans : List Span} {column position : Nat}
    {parts : List Text} (hspace : P ' ') (hmark : marked = true → S [])
    (hparts : ∀ part ∈ parts, ∀ c ∈ part, P c) (hspans : ∀ x ∈ spans, S x.style) :
    (StyledText.expandTabsFrom marked spans column position parts).MadeOf P S := by
  induction parts generalizing column position with
  | nil => exact ⟨by simp [StyledText.expandTabsFrom], by simp [StyledText.expandTabsFrom]⟩
  | cons part parts ih =>
      rw [StyledText.expandTabsFrom]
      have hstretch := fillTab (s := ⟨part, spans.filterMap (Span.between? position
        (position + part.length + if parts = [] then 0 else 1))⟩) (P := P) (S := S)
        ⟨hparts part (List.mem_cons_self ..), fun x hx => by
          obtain ⟨y, hy, hstyle⟩ := style_of_mem_between hx
          exact hstyle ▸ hspans y hy⟩ hspace
      refine append ⟨(hstretch _).text, fun x hx => ?_⟩
        (ih fun q hq => hparts q (List.mem_cons_of_mem _ hq))
      rcases List.mem_append.1 hx with hx | hx
      · split at hx
        · rw [List.mem_singleton.1 hx]
          exact hmark (by assumption)
        · simp at hx
      · exact (hstretch _).styles x hx

theorem expandTabs {marked : Bool} (hs : s.MadeOf P S) (hspace : P ' ')
    (hmark : marked = true → S []) : (StyledText.expandTabs marked s).MadeOf P S := by
  unfold StyledText.expandTabs
  split
  · exact hs
  · exact expandTabsFrom hspace hmark
      (fun part hp c hc => hs.text c (Text.mem_of_mem_split hp hc)) hs.styles

theorem of_mem_lines {marked : Bool} (hs : s.MadeOf P S) (hspace : P ' ')
    (hmark : marked = true → S []) (h : t ∈ s.lines marked) : t.MadeOf P S := by
  obtain ⟨line, hline, rfl⟩ := List.mem_map.1 h
  refine expandTabs (of_mem_divide hs (fun part hp c hc => ?_) hline) hspace hmark
  exact hs.text c (Text.mem_of_mem_split hp hc)

theorem of_mem_breakLine {fold : Bool} (hs : s.MadeOf P S) (h : t ∈ breakLine width fold s) :
    t.MadeOf P S := by
  obtain ⟨line, hline, rfl⟩ := List.mem_map.1 h
  have hmade := of_mem_divide hs (fun part hp c hc => hs.text c (mem_of_mem_brokenText hp hc)) hline
  exact hmade.replaceText fun c hc => hmade.text c (List.mem_of_mem_take hc)

end StyledText.MadeOf

/-! ## What fallible steps come to -/

/-- What a fallible step comes to: a result of one kind, or a fault of another. -/
def ComesTo {α ε : Type} (Q : α → Prop) (E : ε → Prop) : Except ε α → Prop
  | .ok a => Q a
  | .error e => E e

namespace ComesTo

variable {α β ε ε' : Type} {Q : α → Prop} {R : β → Prop} {E : ε → Prop} {E' : ε' → Prop}
  {x : Except ε α}

theorem bind {f : α → Except ε β} (h : ComesTo Q E x) (hf : ∀ a, Q a → ComesTo R E (f a)) :
    ComesTo R E (x >>= f) := by
  cases x with
  | ok a => exact hf a h
  | error e => exact h

theorem map {f : α → β} (h : ComesTo Q E x) (hf : ∀ a, Q a → R (f a)) :
    ComesTo R E (f <$> x) := by
  cases x with
  | ok a => exact hf a h
  | error e => exact h

theorem mapError {f : ε → ε'} (h : ComesTo Q E x) (hf : ∀ e, E e → E' (f e)) :
    ComesTo Q E' (x.mapError f) := by
  cases x with
  | ok a => exact h
  | error e => exact hf e h

theorem mono {Q' : α → Prop} {E' : ε → Prop} (h : ComesTo Q E x) (hQ : ∀ a, Q a → Q' a)
    (hE : ∀ e, E e → E' e) : ComesTo Q' E' x := by
  cases x with
  | ok a => exact hQ a h
  | error e => exact hE e h

theorem mapM {f : α → Except ε β} {xs : List α} (h : ∀ a ∈ xs, ComesTo R E (f a)) :
    ComesTo (fun ys => ∀ y ∈ ys, R y) E (xs.mapM f) := by
  induction xs with
  | nil =>
      show ∀ y ∈ ([] : List β), R y
      simp
  | cons a xs ih =>
      rw [List.mapM_cons]
      refine (h a (List.mem_cons_self ..)).bind fun y hy => ?_
      refine (ih fun b hb => h b (List.mem_cons_of_mem a hb)).bind fun ys hys => ?_
      show ∀ z ∈ y :: ys, R z
      exact List.forall_mem_cons.2 ⟨hy, hys⟩

end ComesTo

/-! ## The three reasons -/

/-- What there can be about some texts that makes their setting go wrong. -/
structure Reasons where
  /-- One of their styles cannot be read. -/
  style : Prop
  /-- There is a joiner in one of them. -/
  joiner : Prop
  /-- There is a surrogate in one of them. -/
  surrogate : Prop
  /-- The screen that they are put out on is strict. -/
  strict : Prop

/-- What makes the setting of lines go wrong. -/
inductive FailsOnly (R : Reasons) : MarkupError → Prop
  | unreadableStyle (h : R.style) : FailsOnly R .unreadableStyle
  | uncut {fault : Text.CutFault} (h : R.joiner) : FailsOnly R (.uncut fault)
  | unencodable {error : Text.EncodeError} (h : R.surrogate) (hstrict : R.strict) :
      FailsOnly R (.unencodable error)

/-- What makes a cut go wrong. -/
abbrev OnlyIf (R : Reasons) : Text.CutFault → Prop := fun _ => R.joiner

/-- A code point that makes nothing go wrong, unless there is a reason for it. -/
structure Admitted (R : Reasons) (c : CodePoint) : Prop where
  joiner : c = Text.joiner → R.joiner
  surrogate : c.isSurrogate = true → R.surrogate

/-- A style that can be read, unless there is a reason for another. -/
def Legible (R : Reasons) (style : Text) : Prop := isUnreadable style = true → R.style

/-- A line of admitted code points. -/
abbrev Holds (R : Reasons) (l : Line) : Prop := ∀ c ∈ l.flatten, Admitted R c

variable {R : Reasons} {s : StyledText} {l : Line} {width : Nat}

/-- A character that is no joiner makes nothing go wrong. -/
theorem admitted_chr {c : Char} (h : chr c ≠ Text.joiner) : Admitted R c :=
  ⟨fun heq => absurd heq h, fun hsurrogate => absurd hsurrogate (by simp)⟩

/-- Nor does a text of characters without a joiner. -/
theorem admitted_of_not_mem {t : Text} (hjoiner : Text.joiner ∉ t) (hunicode : t.isUnicode = true) :
    ∀ c ∈ t, Admitted R c := by
  intro c hc
  refine ⟨fun heq => absurd (heq ▸ hc) hjoiner, fun hsurrogate => ?_⟩
  rw [Text.isUnicode_eq_false_iff.2 ⟨c, hc, hsurrogate⟩] at hunicode
  cases hunicode

theorem admitted_space : Admitted R ' ' := admitted_chr (by decide)

theorem admitted_ellipsis : Admitted R '…' := admitted_chr (by decide)

theorem isUnreadable_nil : isUnreadable [] = false := by decide +kernel

theorem legible_unnamed : Legible R [] := fun h => absurd h (by simp [isUnreadable_nil])

theorem admitted_spaces (n : Nat) : ∀ c ∈ Text.spaces n, Admitted R c := by
  intro c hc
  rw [List.eq_of_mem_replicate hc]
  exact admitted_space

/-- A text is free of joiners where there is no reason for one. -/
theorem joiner_not_mem {t : Text} (h : ∀ c ∈ t, Admitted R c) (hJ : ¬R.joiner) :
    Text.joiner ∉ t :=
  fun hmem => hJ ((h _ hmem).joiner rfl)

/-- The spans and the characters of a text that can be laid out. -/
abbrev Sets (R : Reasons) : StyledText → Prop := StyledText.MadeOf (Admitted R) (Legible R)

/-! ## Cutting and putting out -/

theorem comesTo_cutText {t : Text} (ht : ∀ c ∈ t, Admitted R c) (hwide : width < Text.width t) :
    ComesTo (fun t' => ∀ c ∈ t', Admitted R c) (OnlyIf R) (Text.cut width t) := by
  cases hcut : Text.cut width t with
  | ok t' =>
      intro c hc
      rcases Text.mem_of_mem_cut hcut hc with rfl | hc
      · exact admitted_space
      · exact ht c hc
  | error fault =>
      show R.joiner
      by_contra hJ
      obtain ⟨t', ht'⟩ := Text.exists_cut (joiner_not_mem ht hJ) hwide
      exact absurd (ht'.symm.trans hcut) (by simp)

theorem comesTo_cut (ellipsis : Bool) (hs : Sets R s) :
    ComesTo (Sets R) (OnlyIf R) (s.cut ellipsis width) := by
  unfold StyledText.cut
  split
  · rename_i hwide
    split
    · have hwide : width - 1 < Text.width s.text := Nat.lt_of_le_of_lt (Nat.sub_le width 1) hwide
      refine (comesTo_cutText hs.text hwide).map fun t ht => hs.replaceText ?_
      exact List.forall_mem_append.2 ⟨ht, by simpa using admitted_ellipsis⟩
    · exact (comesTo_cutText hs.text hwide).map fun t ht => hs.replaceText ht
  · exact hs

theorem comesTo_line? (hs : Sets R s) : ComesTo (Holds R) (FailsOnly R) s.line? := by
  unfold StyledText.line?
  split
  · rename_i hany
    obtain ⟨x, hx, hunreadable⟩ := List.any_eq_true.1 hany
    exact FailsOnly.unreadableStyle (hs.styles x hx hunreadable)
  · show Holds R s.line
    rw [Holds, StyledText.flatten_line]
    exact hs.text

theorem comesTo_resized {t : Text} (ht : ∀ c ∈ t, Admitted R c) :
    ComesTo (fun t' => ∀ c ∈ t', Admitted R c) (OnlyIf R) (Text.resized width t) := by
  unfold Text.resized
  split
  · rename_i hwide
    exact comesTo_cutText ht hwide
  · exact List.forall_mem_append.2 ⟨ht, admitted_spaces _⟩

theorem comesTo_cropPieces (hl : Holds R l) :
    ComesTo (Holds R) (OnlyIf R) (l.cropPieces width) := by
  induction l generalizing width with
  | nil => exact hl
  | cons piece l ih =>
      obtain ⟨hpiece, hrest⟩ := List.forall_mem_append.1 hl
      rw [Line.cropPieces]
      split
      · exact (ih hrest).map fun l' hl' => List.forall_mem_append.2 ⟨hpiece, hl'⟩
      · refine (comesTo_resized hpiece).map fun t ht => ?_
        rwa [Holds, List.flatten_singleton]

theorem comesTo_crop (hl : Holds R l) : ComesTo (Holds R) (OnlyIf R) (l.crop width) := by
  unfold Line.crop
  split
  · exact comesTo_cropPieces hl
  · exact hl

/-- A traversal that only cuts. -/
theorem comesTo_mapM_uncut {α β : Type} {f : α → Except Text.CutFault β} {Q : β → Prop}
    {xs : List α} (h : ∀ a ∈ xs, ComesTo Q (OnlyIf R) (f a)) :
    ComesTo (fun ys => ∀ y ∈ ys, Q y) (FailsOnly R) ((xs.mapM f).mapError .uncut) :=
  (ComesTo.mapM h).mapError fun _ hJ => .uncut hJ

/-! ## Setting -/

theorem comesTo_setText (hs : Sets R s) :
    ComesTo (fun t => ∀ c ∈ t, Admitted R c) (FailsOnly R) (setText width s) := by
  have hlines : ∀ t ∈ (s.lines false).flatMap (StyledText.breakLine width true), Sets R t := by
    intro t ht
    obtain ⟨line, hline, ht⟩ := List.mem_flatMap.1 ht
    exact .of_mem_breakLine (.of_mem_lines hs admitted_space (by simp) hline) ht
  unfold setText
  refine ComesTo.bind (comesTo_mapM_uncut fun t ht => comesTo_cut false (hlines t ht))
    fun ts hts => ?_
  refine (ComesTo.mapM fun t ht => comesTo_line? (hts t ht)).bind fun ls hls => ?_
  refine (comesTo_mapM_uncut fun l hl => comesTo_crop (hls l hl)).bind fun ls hls => ?_
  show ∀ c ∈ Text.join '\n' (ls.map List.flatten), Admitted R c
  intro c hc
  by_contra hnot
  refine Text.not_mem_join ?_ (fun piece hpiece hmem => ?_) hc
  · rintro rfl
    exact hnot (admitted_chr (by decide))
  · obtain ⟨l, hl, rfl⟩ := List.mem_map.1 hpiece
    exact hnot (hls l hl c hmem)

/-- Only a strict screen refuses a text, because of a surrogate in it. -/
theorem comesTo_put {screen : Screen} (hstrict : screen.isStrict = true → R.strict) {t : Text}
    (ht : ∀ c ∈ t, Admitted R c) : ComesTo (fun _ => True) (FailsOnly R) (screen.put t) := by
  unfold Screen.put
  split
  · rename_i e herror
    split at herror
    · rename_i hscreen
      have hunicode : t.isUnicode = false := by
        rw [← Bool.not_eq_true, ← Text.encodeError?_eq_none_iff, herror]
        simp
      obtain ⟨c, hc, hsurrogate⟩ := Text.isUnicode_eq_false_iff.1 hunicode
      exact .unencodable ((ht c hc).surrogate hsurrogate) (hstrict hscreen)
    · cases herror
  · trivial

theorem text_highlighted (s : StyledText) : s.highlighted.text = s.text := by
  unfold StyledText.highlighted
  split <;> rfl

/-- A text that was read is highlighted, set and put out, with some more behind it. -/
theorem comesTo_shown (screen : Screen) (hstrict : screen.isStrict = true → R.strict)
    (hs : Sets R s) {more : Text} (hmore : ∀ c ∈ more, Admitted R c) :
    ComesTo (fun _ => True) (FailsOnly R)
      (setText screen.width s.highlighted >>= fun t => screen.put (t ++ more)) := by
  have hhighlighted : Sets R s.highlighted := by
    refine ⟨by simpa only [text_highlighted] using hs.text, fun x hx hunreadable => ?_⟩
    unfold StyledText.highlighted at hx
    split at hx
    -- Highlights are spans of the style without a name, which can be read.
    · rcases List.mem_append.1 hx with hx | hx
      · obtain ⟨mark, -, rfl⟩ := List.mem_map.1 hx
        exact absurd hunreadable (by simp [isUnreadable_nil])
      · exact hs.styles x hx hunreadable
    · exact hs.styles x hx hunreadable
  exact (comesTo_setText hhighlighted).bind fun t ht =>
    comesTo_put hstrict (List.forall_mem_append.2 ⟨ht, hmore⟩)

/-- The marked-up texts that say a text, as a prompt or as a message. -/
def Says (s markup : Text) : Prop :=
  markup = escape s ∨ ∃ tone : Tone, markup = styled tone.style (escape s)

/-- What there can be about a text that is said. -/
def Screen.said (screen : Screen) (s : Text) : Reasons where
  style := False
  joiner := ∃ markup t, Says s markup ∧ render screen.emoji markup = .ok t ∧ Text.joiner ∈ t.text
  surrogate := s.isUnicode = false
  strict := screen.isStrict = true

variable {screen : Screen} {text : Text} {e : MarkupError}

/-- What is read of a text that is said can be set, as far as there is nothing about it. -/
theorem sets_said {markup : Text} {t : StyledText} (hsaid : Says text markup)
    (hmarkup : text.isUnicode = true → markup.isUnicode = true)
    (hread : render screen.emoji markup = .ok t)
    (hstyles : ∀ x ∈ t.spans, isUnreadable x.style = false) : Sets (screen.said text) t := by
  refine ⟨fun c hc => ⟨?_, fun hsurrogate => ?_⟩, fun x hx hunreadable => ?_⟩
  · rintro rfl
    exact ⟨markup, t, hsaid, hread, hc⟩
  · show text.isUnicode = false
    refine Bool.eq_false_iff.2 fun hunicode => ?_
    have hmarkup := hmarkup hunicode
    rw [isUnicode_eq_false_of_mem_render hread hc hsurrogate] at hmarkup
    cases hmarkup
  · rw [hstyles x hx] at hunreadable
    cases hunreadable

theorem mem_of_mem_styled {style markup : Text} {c : CodePoint} (h : c ∈ styled style markup)
    (hnot : c ∉ styled style []) : c ∈ markup := by
  unfold styled at h hnot
  simp only [List.mem_append, List.mem_cons] at h hnot
  tauto

/-- What is neither a part of the tags nor a backslash stands in the text itself. -/
theorem mem_of_said {markup : Text} {c : CodePoint} (hsaid : Says text markup) (hc : c ∈ markup)
    (htags : ∀ tone : Tone, c ∉ styled tone.style []) (hslash : c ≠ '\\') : c ∈ text := by
  have hescape : c ∈ escape text → c ∈ text := fun h => (mem_of_mem_escape h).resolve_left hslash
  rcases hsaid with rfl | ⟨tone, rfl⟩
  · exact hescape hc
  · exact hescape (mem_of_mem_styled hc (htags tone))

/-- A joiner in what is read stands in the text, or is part of an emoji that it has a code for. -/
theorem joiner_of_said (h : (screen.said text).joiner) :
    Text.joiner ∈ text ∨ screen.emoji.Brings Text.joiner ∧ chr ':' ∈ text := by
  obtain ⟨markup, t, hsaid, hread, hjoiner⟩ := h
  rcases mem_of_mem_render hread hjoiner with hmem | ⟨hbrings, hcolon⟩
  · exact .inl (mem_of_said hsaid hmem (by intro tone; cases tone <;> decide) (by decide))
  · exact .inr ⟨hbrings,
      mem_of_said hsaid hcolon (by intro tone; cases tone <;> decide) (by decide)⟩

/-- **A message can be shown** unless something is about its text. -/
theorem failsOnly_of_message {tone : Tone} (h : screen.message tone text = .error e) :
    FailsOnly (screen.said text) e := by
  have hstyle := isStyleName_of_tone tone
  obtain ⟨plain, stop, hread⟩ := render_styled screen.emoji hstyle text
  have htone : tone.style.isUnicode = true := by cases tone <;> rfl
  have hsets : Sets (screen.said text) ⟨plain, [⟨0, stop, tone.style⟩]⟩ :=
    sets_said (.inr ⟨tone, rfl⟩)
      (fun hunicode => isUnicode_styled htone (isUnicode_escape hunicode)) hread
      (by simp [hstyle.isUnreadable_eq_false])
  have hend : ∀ c ∈ ([chr '\n'] : Text), Admitted (screen.said text) c := by
    simpa using admitted_chr (by decide)
  have hcomes := comesTo_shown screen id hsets hend
  rw [Screen.message, hread] at h
  have hset : (setText screen.width (StyledText.highlighted ⟨plain, [⟨0, stop, tone.style⟩]⟩) >>=
      fun t => screen.put (t ++ [chr '\n'])) = .error e := h
  rwa [hset] at hcomes

/-- **A prompt can be shown** unless something is about its text. -/
theorem failsOnly_of_prompt (h : screen.prompt text = .error e) :
    FailsOnly (screen.said text) e := by
  obtain ⟨plain, hread⟩ := render_escape screen.emoji text
  have hsets : Sets (screen.said text) ⟨plain, []⟩ :=
    sets_said (.inl rfl) isUnicode_escape hread (by simp)
  have hend : ∀ c ∈ ([] : Text), Admitted (screen.said text) c := by simp
  have hcomes := comesTo_shown screen id hsets hend
  simp only [List.append_nil] at hcomes
  rw [Screen.prompt, hread] at h
  have hset : (setText screen.width (StyledText.highlighted ⟨plain, []⟩) >>=
      fun t => screen.put t) = .error e := h
  rwa [hset] at hcomes

end Console

end Scaffold
