/-
# Scaffold.Proofs.Console.Literal -- marked-up texts that say what is written in them

Reading marked-up text takes tags out of it and backslashes that stand in front of brackets, and
replaces emoji codes. A text is literal if there is nothing to take and nothing to replace: none of
its opening brackets begins a tag, none has a backslash in front of it, and no emoji is known by the
name in any of its codes (`IsLiteral`). Then reading yields the text itself, with no style in it and
without the characters that a terminal would act on; and it yields that of no other text
(`render_eq_plain_iff`).

The exactness is by counting. Reading never yields more characters than were written, and it yields
fewer as soon as one bracket is not literal (`literal_or_shorter`). Emoji can be longer than their
codes, so where codes are replaced the colons are counted instead; no emoji has one.
-/

import Scaffold.Proofs.Console.Escaping

namespace Scaffold.Console

/-! ## Literal texts -/

/-- No bracket of a text begins a tag, and none has a backslash in front of it. -/
def Untagged (s : Text) : Prop :=
  ∀ before after, s = before ++ chr '[' :: after →
    tagContent? after = none ∧ before.getLast? ≠ some (chr '\\')

theorem untagged_nil : Untagged [] := by
  intro before after h
  simp at h

/-- A text is untagged if its first character is no exception and the rest is untagged. -/
theorem untagged_cons_iff {c : CodePoint} {s : Text} :
    Untagged (c :: s) ↔ (c = '[' → tagContent? s = none) ∧ (c = '\\' → s.head? ≠ some (chr '[')) ∧
      Untagged s := by
  constructor
  · intro h
    refine ⟨?_, ?_, ?_⟩
    · rintro rfl
      exact (h [] s rfl).1
    · rintro rfl hs
      obtain ⟨after, rfl⟩ := List.head?_eq_some_iff.1 hs
      exact (h [chr '\\'] after rfl).2 rfl
    · rintro before after rfl
      obtain ⟨htag, hlast⟩ := h (c :: before) after rfl
      refine ⟨htag, fun hbefore => hlast ?_⟩
      rw [List.getLast?_cons, hbefore]
      rfl
  · rintro ⟨htag, hslash, hs⟩ before after heq
    cases before with
    | nil =>
        obtain ⟨rfl, rfl⟩ := List.cons.inj heq
        exact ⟨htag rfl, by simp⟩
    | cons d before =>
        obtain ⟨rfl, rfl⟩ := List.cons.inj heq
        obtain ⟨hafter, hlast⟩ := hs before after rfl
        refine ⟨hafter, ?_⟩
        cases before with
        | nil =>
            rintro h
            obtain rfl : c = '\\' := by simpa using h
            exact hslash rfl rfl
        | cons d before => rwa [List.getLast?_cons_cons]

instance decidableUntagged : (s : Text) → Decidable (Untagged s)
  | [] => .isTrue untagged_nil
  | _ :: s =>
    have := decidableUntagged s
    decidable_of_iff' _ untagged_cons_iff

/-- A text without opening brackets is untagged. -/
theorem untagged_of_not_mem {s : Text} (h : chr '[' ∉ s) : Untagged s := by
  rintro before after rfl
  exact absurd (by simp) h

/-- A tag is not continued by a text without brackets. -/
theorem tagContent?_append_eq_none_iff {s t : Text} (h : chr ']' ∉ t) :
    tagContent? (s ++ t) = none ↔ tagContent? s = none := by
  simp only [Option.eq_none_iff_forall_ne_some, ne_eq, tagContent?_eq_some_iff]
  refine forall_congr' fun content => not_congr (and_congr_right fun _ => ?_)
  constructor
  · rintro ⟨rest, heq⟩
    rcases List.append_eq_append_iff.1 heq with ⟨more, rfl, ht⟩ | ⟨more, rfl, hrest⟩
    · rw [ht] at h
      simp at h
    · cases more with
      | nil =>
          rw [List.nil_append] at hrest
          rw [← hrest] at h
          simp at h
      | cons c more => exact ⟨more, by rw [(List.cons.inj hrest).1]⟩
  · rintro ⟨rest, rfl⟩
    exact ⟨rest ++ t, by simp⟩

/-- A text without brackets that is put behind a text leaves it untagged or not. -/
theorem untagged_append_iff {s t : Text} (hopen : chr '[' ∉ t) (hclose : chr ']' ∉ t) :
    Untagged (s ++ t) ↔ Untagged s := by
  induction s with
  | nil => exact iff_of_true (untagged_of_not_mem hopen) untagged_nil
  | cons c s ih =>
      have hhead : (s ++ t).head? = some (chr '[') ↔ s.head? = some (chr '[') := by
        cases s with
        | cons d s => rfl
        | nil =>
            refine iff_of_false (fun h => hopen ?_) (by simp)
            exact List.mem_of_mem_head? h
      rw [List.cons_append, untagged_cons_iff, untagged_cons_iff, ih, ne_eq, ne_eq, hhead,
        tagContent?_append_eq_none_iff hclose]

variable {emoji : EmojiTable}

/-- A text with no tag to be taken out and no code to be replaced. -/
structure IsLiteral (emoji : EmojiTable) (s : Text) : Prop where
  untagged : Untagged s
  noEmoji : emoji.LeavesAlone s

theorem isLiteral_iff {s : Text} : IsLiteral emoji s ↔ Untagged s ∧ emoji.LeavesAlone s :=
  ⟨fun h => ⟨h.untagged, h.noEmoji⟩, fun h => ⟨h.1, h.2⟩⟩

instance (s : Text) : Decidable (IsLiteral emoji s) := decidable_of_iff' _ isLiteral_iff

theorem isLiteral_nil : IsLiteral emoji [] := ⟨untagged_nil, fun _ hi => absurd hi List.not_mem_nil⟩

/-- A code does not reach into a text without colons behind it. -/
theorem codeContent?_append {s t : Text} (h : chr ':' ∉ t) :
    codeContent? (s ++ t) = codeContent? s := by
  ext content
  rw [codeContent?_eq_some_iff, codeContent?_eq_some_iff]
  refine and_congr_right fun hcontent => ?_
  constructor
  · rintro ⟨rest, heq⟩
    rcases List.append_eq_append_iff.1 heq with ⟨more, rfl, ht⟩ | ⟨more, rfl, hrest⟩
    · rw [ht] at h
      simp at h
    · cases more with
      | nil =>
          rw [List.nil_append] at hrest
          rw [← hrest] at h
          simp at h
      | cons c more => exact ⟨more, by rw [(List.cons.inj hrest).1]⟩
  · rintro ⟨rest, rfl⟩
    exact ⟨rest ++ t, by simp⟩

theorem codeItems_of_not_mem {t : Text} (h : chr ':' ∉ t) : codeItems 0 t = t.map .char := by
  induction t with
  | nil => rfl
  | cons c t ih =>
      rw [List.mem_cons, not_or] at h
      rw [codeItems, if_neg (Ne.symm h.1), ih h.2, List.map_cons]

theorem codeItems_append {t : Text} (h : chr ':' ∉ t) (s : Text) :
    codeItems 0 (s ++ t) = codeItems 0 s ++ t.map .char := by
  induction hlen : s.length using Nat.strong_induction_on generalizing s with
  | _ k ih =>
  cases s with
  | nil => exact codeItems_of_not_mem h
  | cons c s =>
      have hrest := ih s.length (by simp [← hlen]) s rfl
      rw [List.cons_append]
      by_cases hcolon : c = ':'
      · subst hcolon
        cases hcode : codeContent? s with
        | none =>
            have hnone : codeContent? (s ++ t) = none := by rw [codeContent?_append h, hcode]
            rw [codeItems, codeItems, if_pos rfl, if_pos rfl, hnone, hcode, hrest, List.cons_append]
        | some content =>
            obtain ⟨hcontent, rest, rfl⟩ := codeContent?_eq_some_iff.1 hcode
            have hlength : rest.length < k := by
              rw [← hlen]
              simp
              omega
            rw [List.append_assoc, List.cons_append, codeItems_code hcontent,
              codeItems_code hcontent, ih _ hlength rest rfl, List.cons_append]
      · rw [codeItems, codeItems, if_neg hcolon, if_neg hcolon, hrest, List.cons_append]

/-- A text without brackets and colons that is put behind a text leaves it literal or not. -/
theorem isLiteral_append_iff {s t : Text} (hopen : chr '[' ∉ t) (hclose : chr ']' ∉ t)
    (hcolon : chr ':' ∉ t) : IsLiteral emoji (s ++ t) ↔ IsLiteral emoji s := by
  have hcodes : emoji.LeavesAlone (s ++ t) ↔ emoji.LeavesAlone s := by
    rw [EmojiTable.LeavesAlone, codeItems_append hcolon, List.forall_mem_append]
    refine and_iff_left fun i hi => ?_
    obtain ⟨c, -, rfl⟩ := List.mem_map.1 hi
    rfl
  rw [isLiteral_iff, isLiteral_iff, untagged_append_iff hopen hclose, hcodes]

/-! ## Reading -/

/-- The characters of a text that are shown. -/
def shownChars (s : Text) : Text := s.filter fun c => !isControl c

/-- A text as it is shown when it is taken literally. -/
def plain (s : Text) : StyledText := ⟨shownChars s, []⟩

theorem shownChars_append (s t : Text) : shownChars (s ++ t) = shownChars s ++ shownChars t :=
  List.filter_append s t

theorem shownChars_cons {c : CodePoint} (h : isControl c = false) (s : Text) :
    shownChars (c :: s) = c :: shownChars s :=
  List.filter_cons_of_pos (by rw [h]; rfl)

theorem shownChars_backslashes (n : Nat) : shownChars (backslashes n) = backslashes n :=
  List.filter_eq_self.2 fun c hc => by rw [List.eq_of_mem_replicate hc]; decide

theorem plainText_text_cons (s : Text) (items : List MarkupItem) :
    plainText (.text s :: items) = s ++ plainText items := rfl

/-- Items that are not tags, nor ever were, make one stretch. -/
theorem segments_of_text {items : List MarkupItem} (h : ∀ i ∈ items, ∃ t, i = .text t)
    (before : Text) : segments before items = [.text (before ++ plainText items)] := by
  induction items generalizing before with
  | nil => simp [segments, plainText]
  | cons i items ih =>
      obtain ⟨⟨t, rfl⟩, hitems⟩ := List.forall_mem_cons.1 h
      rw [segments, ih hitems, plainText_text_cons, List.append_assoc]

/-- No colon is hidden. -/
theorem count_shownChars (s : Text) : (shownChars s).count (chr ':') = s.count (chr ':') :=
  List.count_filter (by decide)

/-- What is shown of stretches is their plain text, or colons are lacking in it. -/
theorem shown_or_fewer (hemoji : emoji.IsColonFree) (parts : List Segment) :
    ((parts.map (Segment.shown emoji)).flatMap Segment.plain =
        shownChars (parts.flatMap Segment.plain)) ∨
      ((parts.map (Segment.shown emoji)).flatMap Segment.plain).count (chr ':') <
        (parts.flatMap Segment.plain).count (chr ':') := by
  induction parts with
  | nil => exact .inl rfl
  | cons part parts ih =>
      simp only [List.map_cons, List.flatMap_cons, List.count_append, shownChars_append]
      cases part with
      | tag position content => simpa [Segment.shown, Segment.plain, shownChars] using ih
      | text s =>
          simp only [Segment.shown, Segment.plain]
          rw [← shownChars, count_shownChars]
          rcases EmojiTable.leavesAlone_or_fewer hemoji s with halone | hless
          · rw [EmojiTable.replace_eq_self halone]
            exact ih.imp (congrArg _) (Nat.add_lt_add_left · _)
          · rcases ih with hsame | hfewer
            · rw [hsame, count_shownChars]
              omega
            · omega

/-! ## Counting -/

/-- A text is untagged behind some backslashes: they must not stand in front of a bracket. -/
def LiteralBehind (slashes : Nat) (s : Text) : Prop :=
  (0 < slashes → s.head? ≠ some (chr '[')) ∧ Untagged s

theorem literalBehind_backslash_iff {slashes : Nat} {s : Text} :
    LiteralBehind slashes (chr '\\' :: s) ↔ LiteralBehind (slashes + 1) s := by
  rw [LiteralBehind, LiteralBehind, untagged_cons_iff]
  simp

theorem literalBehind_bracket_iff {slashes : Nat} {s : Text} :
    LiteralBehind slashes (chr '[' :: s) ↔
      slashes = 0 ∧ tagContent? s = none ∧ LiteralBehind 0 s := by
  rw [LiteralBehind, LiteralBehind, untagged_cons_iff]
  simp

theorem literalBehind_other_iff {slashes : Nat} {c : CodePoint} {s : Text} (hslash : c ≠ '\\')
    (hbracket : c ≠ '[') : LiteralBehind slashes (c :: s) ↔ LiteralBehind 0 s := by
  rw [LiteralBehind, LiteralBehind, untagged_cons_iff]
  simp [hslash, hbracket]

/-- The items of an untagged text behind some backslashes: they are the text. -/
structure ReadsLiterally (slashes : Nat) (s : Text) (items : List MarkupItem) : Prop where
  literal : LiteralBehind slashes s
  onlyText : ∀ i ∈ items, ∃ t, i = .text t
  text : plainText items = backslashes slashes ++ s

/-- The items of any other text: less is shown than was written. -/
structure Shortens (slashes : Nat) (s : Text) (items : List MarkupItem) : Prop where
  notLiteral : ¬ LiteralBehind slashes s
  fewer : (shownChars (plainText items)).length < slashes + (shownChars s).length

/-- Never more is shown than was written. -/
theorem length_plainText_le {slashes : Nat} {s : Text} {items : List MarkupItem}
    (h : ReadsLiterally slashes s items ∨ Shortens slashes s items) :
    (shownChars (plainText items)).length ≤ slashes + (shownChars s).length := by
  rcases h with h | h
  · rw [h.text, shownChars_append, shownChars_backslashes, List.length_append, backslashes,
      List.length_replicate]
  · exact h.fewer.le

/-- Behind a backslash. -/
theorem reads_backslash {slashes : Nat} {s : Text} {items : List MarkupItem}
    (h : ReadsLiterally (slashes + 1) s items ∨ Shortens (slashes + 1) s items) :
    ReadsLiterally slashes (chr '\\' :: s) items ∨ Shortens slashes (chr '\\' :: s) items := by
  have hshown : shownChars (chr '\\' :: s) = chr '\\' :: shownChars s :=
    shownChars_cons (by decide) s
  refine h.imp (fun h => ?_) fun h => ?_
  · exact ⟨literalBehind_backslash_iff.2 h.literal, h.onlyText,
      h.text.trans (backslashes_append_cons slashes s).symm⟩
  · refine ⟨mt literalBehind_backslash_iff.1 h.notLiteral, ?_⟩
    rw [hshown, List.length_cons, Nat.add_comm _ 1, ← Nat.add_assoc]
    exact h.fewer

/-- Behind a bracket that begins no tag; a backslash in front of it is taken away. -/
theorem reads_bracket {slashes : Nat} {s : Text} {items : List MarkupItem}
    (htag : tagContent? s = none) (h : ReadsLiterally 0 s items ∨ Shortens 0 s items) :
    ReadsLiterally slashes (chr '[' :: s)
        (.text (backslashes (slashes - 1) ++ [chr '[']) :: items) ∨
      Shortens slashes (chr '[' :: s)
        (.text (backslashes (slashes - 1) ++ [chr '[']) :: items) := by
  have hshown : shownChars (chr '[' :: s) = chr '[' :: shownChars s := shownChars_cons (by decide) s
  have hplain : plainText (.text (backslashes (slashes - 1) ++ [chr '[']) :: items) =
      backslashes (slashes - 1) ++ chr '[' :: plainText items := by
    rw [plainText_text_cons, List.append_assoc]
    rfl
  have hplainShown :
      shownChars (plainText (.text (backslashes (slashes - 1) ++ [chr '[']) :: items)) =
      backslashes (slashes - 1) ++ chr '[' :: shownChars (plainText items) := by
    rw [hplain, shownChars_append, shownChars_backslashes, shownChars_cons (by decide)]
  cases slashes with
  | zero =>
      refine h.imp (fun h => ⟨?_, List.forall_mem_cons.2 ⟨⟨_, rfl⟩, h.onlyText⟩, ?_⟩) fun h =>
        ⟨fun hliteral => ?_, ?_⟩
      · exact literalBehind_bracket_iff.2 ⟨rfl, htag, h.literal⟩
      · rw [hplain, h.text]
        rfl
      · exact h.notLiteral (literalBehind_bracket_iff.1 hliteral).2.2
      · have hfewer := h.fewer
        rw [hplainShown, hshown]
        simp only [List.length_append, List.length_cons, backslashes, List.length_replicate]
        omega
  | succ n =>
      have hlength := length_plainText_le h
      refine .inr ⟨fun hliteral => ?_, ?_⟩
      · exact absurd (literalBehind_bracket_iff.1 hliteral).1 (Nat.succ_ne_zero n)
      · rw [hplainShown, hshown]
        simp only [List.length_append, List.length_cons, backslashes, List.length_replicate]
        omega

/-- Behind any other character. -/
theorem reads_other {slashes : Nat} {c : CodePoint} {s : Text} {items : List MarkupItem}
    (hslash : c ≠ '\\') (hbracket : c ≠ '[') (h : ReadsLiterally 0 s items ∨ Shortens 0 s items) :
    ReadsLiterally slashes (c :: s) (.text (backslashes slashes ++ [c]) :: items) ∨
      Shortens slashes (c :: s) (.text (backslashes slashes ++ [c]) :: items) := by
  have hshown : shownChars (c :: s) = shownChars [c] ++ shownChars s := shownChars_append [c] s
  have hplainShown : shownChars (plainText (.text (backslashes slashes ++ [c]) :: items)) =
      backslashes slashes ++ (shownChars [c] ++ shownChars (plainText items)) := by
    rw [plainText_text_cons, shownChars_append, shownChars_append, shownChars_backslashes,
      List.append_assoc]
  have hliteral : LiteralBehind slashes (c :: s) ↔ LiteralBehind 0 s :=
    literalBehind_other_iff hslash hbracket
  refine h.imp (fun h => ⟨hliteral.2 h.literal, List.forall_mem_cons.2 ⟨⟨_, rfl⟩, h.onlyText⟩, ?_⟩)
    fun h => ⟨mt hliteral.1 h.notLiteral, ?_⟩
  · rw [plainText_text_cons, h.text, List.append_assoc]
    rfl
  · have hfewer := h.fewer
    rw [hplainShown, hshown]
    simp only [List.length_append, backslashes, List.length_replicate]
    omega

/-- Behind a tag, which is not shown, or not with all backslashes in front of it. -/
theorem reads_tag {slashes position : Nat} {content rest : Text} {items : List MarkupItem}
    (hcontent : IsTagContent content) (h : ReadsLiterally 0 rest items ∨ Shortens 0 rest items) :
    Shortens slashes (chr '[' :: (content ++ chr ']' :: rest)) (.text (backslashes (slashes / 2)) ::
      (if slashes % 2 = 0 then .tag position content else .escaped content) :: items) := by
  have hshown : shownChars (chr '[' :: (content ++ chr ']' :: rest)) =
      chr '[' :: (shownChars content ++ chr ']' :: shownChars rest) := by
    rw [shownChars_cons (by decide), shownChars_append, shownChars_cons (by decide) rest]
  have hlength := length_plainText_le h
  refine ⟨fun hliteral => ?_, ?_⟩
  · have hnone := (literalBehind_bracket_iff.1 hliteral).2.1
    rw [tagContent?_eq_some_iff.2 ⟨hcontent, rest, rfl⟩] at hnone
    simp at hnone
  -- At most the brackets and the content of the tag are shown, and one backslash less.
  have htaken : (shownChars (MarkupItem.plain
      (if slashes % 2 = 0 then .tag position content else .escaped content))).length +
        slashes / 2 < slashes + ((shownChars content).length + 2) := by
    split
    · simp only [MarkupItem.plain, shownChars, List.filter_nil, List.length_nil]
      omega
    · simp only [MarkupItem.plain, List.cons_append, shownChars_cons (c := chr '[') (by decide),
        shownChars_append, shownChars_cons (c := chr ']') (by decide) [], List.length_cons,
        List.length_append]
      have hnil : (shownChars []).length = 0 := rfl
      omega
  have hslashes : (shownChars (MarkupItem.plain (.text (backslashes (slashes / 2))))).length =
      slashes / 2 := by
    rw [MarkupItem.plain, shownChars_backslashes, backslashes, List.length_replicate]
  rw [plainText_cons, plainText_cons, shownChars_append, shownChars_append, hshown]
  simp only [List.length_append, List.length_cons, hslashes]
  omega

/-- **Literal or shorter**: behind some backslashes a text is read literally, or less is shown than
was written. -/
theorem literal_or_shorter (s : Text) (position slashes : Nat) :
    ReadsLiterally slashes s (markupItems position slashes 0 s) ∨
      Shortens slashes s (markupItems position slashes 0 s) := by
  -- A tag is skipped as a whole, so the induction is on the length.
  induction hlen : s.length using Nat.strong_induction_on generalizing s position slashes with
  | _ k ih =>
  cases s with
  | nil =>
      exact .inl ⟨⟨by simp, untagged_nil⟩, fun i hi => ⟨_, List.mem_singleton.1 hi⟩, rfl⟩
  | cons c s =>
      have hrest := fun position slashes =>
        ih s.length (by simp [← hlen]) s position slashes rfl
      by_cases hslash : c = '\\'
      · subst hslash
        rw [markupItems, if_pos rfl]
        exact reads_backslash (hrest (position + 1) (slashes + 1))
      by_cases hbracket : c = '['
      · subst hbracket
        cases htag : tagContent? s with
        | none =>
            rw [markupItems, if_neg hslash, if_pos rfl, htag]
            exact reads_bracket htag (hrest (position + 1) 0)
        | some content =>
            obtain ⟨hcontent, rest, rfl⟩ := tagContent?_eq_some_iff.1 htag
            rw [markupItems_tag hcontent]
            refine .inr (reads_tag hcontent (ih _ ?_ rest _ 0 rfl))
            rw [← hlen]
            simp
            omega
      · rw [markupItems, if_neg hslash, if_neg hbracket]
        exact reads_other hslash hbracket (hrest (position + 1) 0)

/-- An untagged text is read at once. -/
theorem render_of_readsLiterally {s : Text}
    (h : ReadsLiterally 0 s (markupItems 0 0 0 s)) :
    render emoji s = .ok (plain (emoji.replace s)) := by
  rw [render, segments_of_text h.onlyText, h.text]
  simp [renderSegments, Segment.shown, Functor.map, Except.map, plain, backslashes, shownChars]

/-- **A text is read as it is written exactly when it is literal.** -/
theorem render_eq_plain_iff (hemoji : emoji.IsColonFree) {s : Text} :
    render emoji s = .ok (plain s) ↔ IsLiteral emoji s := by
  rcases literal_or_shorter s 0 0 with hread | hread
  · rw [render_of_readsLiterally hread, isLiteral_iff, and_iff_right hread.literal.2]
    constructor
    · intro heq
      refine (EmojiTable.leavesAlone_or_fewer hemoji s).resolve_right fun hless => ?_
      have htext : shownChars (emoji.replace s) = shownChars s :=
        congrArg StyledText.text (Except.ok.inj heq)
      rw [← count_shownChars, htext, count_shownChars] at hless
      exact Nat.lt_irrefl _ hless
    · intro halone
      rw [EmojiTable.replace_eq_self halone]
  · refine iff_of_false (fun hrender => ?_) fun hliteral => ?_
    · have htext : shownChars s = _ := text_of_renderSegments hrender
      have hplain := flatMap_plain_segments [] (markupItems 0 0 0 s)
      rw [List.nil_append] at hplain
      rcases shown_or_fewer hemoji (segments [] (markupItems 0 0 0 s)) with hsame | hless
      · have hfewer := hread.fewer
        rw [← hplain, ← hsame, ← htext, Nat.zero_add] at hfewer
        exact Nat.lt_irrefl _ hfewer
      · have hle := (plainText_sublist 0 0 0 s).count_le (chr ':')
        rw [← htext, count_shownChars, hplain] at hless
        exact Nat.lt_irrefl _ (hless.trans_le hle)
    · exact hread.notLiteral ⟨by simp, hliteral.untagged⟩

end Scaffold.Console
