/-
# Scaffold.Proofs.Console.Escaping -- escaped texts hold no tags

Messages and prompts are escaped before they are read as marked-up text. `markupItems_escape` says
what that is good for: whatever the text is, and whatever stands behind it as long as it does not
begin by closing a bracket, reading it yields plain text only. So reading a prompt or a message
never fails (`render_escape`, `render_styled`), and the only span in it is the style of the message.

Reading only takes characters away (`plainText_sublist`), but for the emoji that it puts in the
place of their codes. No surrogate comes of that (`isUnicode_eq_false_of_mem_render`).

How many backslashes are read back is not settled here: those at the end of a text are not all
doubled, so a text that ends in backslashes can make the tag behind it plain. That loses a style,
and no more.
-/

import Scaffold.Console.Message
import Scaffold.Proofs.Console.Emoji

namespace Scaffold.Console

/-! ## The first bracket -/

/-- Whether a character is a bracket of a tag. -/
def isTagBracket (c : CodePoint) : Bool := c = ']' || c = '['

/-- What begins a tag is neither a bracket nor a backslash. -/
theorem beginsTag_ne {c : CodePoint} (h : beginsTag c = true) :
    isTagBracket c = false ∧ c ≠ '\\' := by
  refine ⟨?_, ?_⟩
  · by_contra hb
    have hc : c = ']' ∨ c = '[' := by
      rw [Bool.not_eq_false, isTagBracket, Bool.or_eq_true] at hb
      exact hb.imp of_decide_eq_true of_decide_eq_true
    rcases hc with rfl | rfl <;> exact absurd h (by decide)
  · rintro rfl
    exact absurd h (by decide)

/-- What stands between the brackets of a tag. -/
def IsTagContent (content : Text) : Prop :=
  ∃ c cs, content = c :: cs ∧ beginsTag c = true ∧ ∀ d ∈ cs, isTagBracket d = false

/-- The reader finds the content of a tag, and nothing else, in front of a closing bracket. -/
theorem tagContent?_eq_some_iff {t content : Text} :
    tagContent? t = some content ↔
      IsTagContent content ∧ ∃ rest, t = content ++ chr ']' :: rest := by
  have hpred : (fun d => d ≠ chr ']' && d ≠ chr '[') = fun d => !isTagBracket d := by
    funext d
    by_cases h1 : d = ']' <;> by_cases h2 : d = '[' <;> simp [isTagBracket, h1, h2]
  constructor
  · intro h
    cases t with
    | nil => simp [tagContent?] at h
    | cons c s =>
        rw [tagContent?] at h
        split at h
        · rename_i hc
          split at h
          · rename_i inside rest hspan
            obtain rfl := Option.some.inj h
            rw [List.span_eq_takeWhile_dropWhile, hpred] at hspan
            obtain ⟨htake, hdrop⟩ := Prod.mk.inj hspan
            refine ⟨⟨c, inside, rfl, hc, fun d hd => ?_⟩, rest, ?_⟩
            · rw [← htake] at hd
              simpa using List.mem_takeWhile_imp hd
            · rw [← List.takeWhile_append_dropWhile (p := fun d => !isTagBracket d) (l := s), htake,
                hdrop]
              rfl
          · simp at h
        · simp at h
  · rintro ⟨⟨c, cs, rfl, hc, hcs⟩, rest, rfl⟩
    have hstop : ∀ d ∈ cs, (!isTagBracket d) = true := fun d hd => by simp [hcs d hd]
    rw [List.cons_append, tagContent?, if_pos hc, List.span_eq_takeWhile_dropWhile, hpred,
      List.takeWhile_append_of_pos hstop, List.dropWhile_append_of_pos hstop]
    simp [isTagBracket]

/-- Where the first bracket is not one that closes, there is no tag. -/
theorem tagContent?_eq_none {t : Text} (h : t.find? isTagBracket ≠ some (chr ']')) :
    tagContent? t = none := by
  rw [Option.eq_none_iff_forall_ne_some]
  intro content hcontent
  obtain ⟨⟨c, cs, rfl, hc, hcs⟩, rest, rfl⟩ := tagContent?_eq_some_iff.1 hcontent
  refine h ?_
  rw [List.find?_append, List.find?_eq_none.2]
  · rfl
  · intro d hd
    rcases List.mem_cons.1 hd with rfl | hd
    · simp [(beginsTag_ne hc).1]
    · simp [hcs d hd]

/-- Where a text begins as a tag does and the next bracket is one that closes, there is a tag. -/
theorem exists_tagContent? {c : CodePoint} {s : Text} (hc : beginsTag c = true)
    (h : s.find? isTagBracket = some (chr ']')) :
    ∃ content, tagContent? (c :: s) = some content := by
  obtain ⟨-, inside, after, rfl, hfree⟩ := List.find?_eq_some_iff_append.1 h
  refine ⟨c :: inside, tagContent?_eq_some_iff.2 ⟨⟨c, inside, rfl, hc, fun d hd => ?_⟩, after, rfl⟩⟩
  simpa using hfree d hd

/-! ## Escaping and reading -/

/-- What is left behind the content of a tag and its closing bracket. -/
theorem drop_tag (content t : Text) : (content ++ chr ']' :: t).drop (content.length + 1) = t := by
  rw [← List.drop_drop, List.drop_left]
  rfl

/-- Behind the content of a tag both go on where the tag ends. -/
theorem escapeTags_drop (n done : Nat) (s : Text) :
    escapeTags n done s = escapeTags n 0 (s.drop done) := by
  induction s generalizing done with
  | nil => simp [escapeTags]
  | cons c s ih =>
      cases done with
      | zero => rfl
      | succ done => rw [List.drop_succ_cons, ← ih, escapeTags]

theorem markupItems_drop (position slashes done : Nat) (s : Text) (h : done ≤ s.length) :
    markupItems position slashes done s =
      markupItems (position + done) slashes 0 (s.drop done) := by
  induction s generalizing position done with
  | nil =>
      obtain rfl : done = 0 := Nat.le_zero.1 h
      rfl
  | cons c s ih =>
      cases done with
      | zero => rfl
      | succ done =>
          rw [List.drop_succ_cons, markupItems, ih _ _ (Nat.le_of_succ_le_succ h), Nat.add_assoc,
            Nat.add_comm 1 done]

theorem markupItems_backslashes (position slashes n : Nat) (t : Text) :
    markupItems position slashes 0 (backslashes n ++ t) =
      markupItems (position + n) (slashes + n) 0 t := by
  induction n generalizing position slashes with
  | zero => rfl
  | succ n ih =>
      rw [backslashes, List.replicate_succ, List.cons_append, markupItems, if_pos rfl]
      rw [← backslashes, ih, Nat.add_assoc, Nat.add_comm 1 n, Nat.add_assoc, Nat.add_comm 1 n]

/-- Content between brackets is a tag, and reading goes on behind it. -/
theorem markupItems_tag {content : Text} (h : IsTagContent content) (position slashes : Nat)
    (t : Text) :
    markupItems position slashes 0 (chr '[' :: (content ++ chr ']' :: t)) =
      .text (backslashes (slashes / 2)) ::
        (if slashes % 2 = 0 then .tag position content else .escaped content) ::
        markupItems (position + 1 + (content.length + 1)) 0 0 t := by
  have htag : tagContent? (content ++ chr ']' :: t) = some content :=
    tagContent?_eq_some_iff.2 ⟨h, t, rfl⟩
  rw [markupItems, if_neg (by decide), if_pos rfl, htag]
  dsimp only
  rw [markupItems_drop _ _ _ _ (by simp), drop_tag]

theorem find?_backslashes_append (n : Nat) (t : Text) :
    (backslashes n ++ t).find? isTagBracket = t.find? isTagBracket := by
  induction n with
  | zero => rfl
  | succ n ih =>
      rw [backslashes, List.replicate_succ, List.cons_append, List.find?_cons_of_neg (by decide)]
      exact ih

/-- Escaping leaves the first bracket what it is. -/
theorem find?_escapeTags_append (n : Nat) (s t : Text) :
    (escapeTags n 0 s ++ t).find? isTagBracket = (s ++ t).find? isTagBracket := by
  induction s generalizing n with
  | nil => exact find?_backslashes_append n t
  | cons c s ih =>
      rw [escapeTags]
      split
      · rename_i hc
        subst hc
        rw [ih, List.cons_append, List.find?_cons_of_neg (by decide)]
      · split
        · rename_i hc
          subst hc
          split <;>
            simp only [List.append_assoc, List.cons_append, find?_backslashes_append] <;> rfl
        · rw [List.append_assoc, find?_backslashes_append, List.cons_append, List.cons_append]
          by_cases hb : isTagBracket c = true
          · rw [List.find?_cons_of_pos hb, List.find?_cons_of_pos hb]
          · rw [List.find?_cons_of_neg hb, List.find?_cons_of_neg hb, ih]

/-- Backslashes that are not yet written come first. -/
theorem head?_escapeTags_succ (n : Nat) (s : Text) :
    (escapeTags (n + 1) 0 s).head? = some (chr '\\') := by
  induction s generalizing n with
  | nil => rfl
  | cons c s ih =>
      rw [escapeTags]
      split
      · exact ih (n + 1)
      · split
        · split <;> rfl
        · rfl

/-- What begins no tag in a text begins none in the escaped text, whatever stands behind it. -/
theorem tagContent?_escapeTags_append {s t : Text} (hs : tagContent? s = none)
    (ht : t.find? isTagBracket ≠ some (chr ']')) : tagContent? (escapeTags 0 0 s ++ t) = none := by
  rw [Option.eq_none_iff_forall_ne_some]
  intro content hcontent
  have hfind : (s ++ t).find? isTagBracket = some (chr ']') := by
    by_contra hne
    rw [tagContent?_eq_none (by rwa [find?_escapeTags_append])] at hcontent
    simp at hcontent
  obtain ⟨⟨c, cs, rfl, hc, -⟩, rest, heq⟩ := tagContent?_eq_some_iff.1 hcontent
  cases s with
  | nil => exact ht hfind
  | cons d s =>
      rw [escapeTags] at heq
      split at heq
      · have hhead := congrArg List.head? heq
        rw [List.head?_append, head?_escapeTags_succ] at hhead
        have hslash : '\\' = c := by simpa using hhead
        exact (beginsTag_ne hc).2 hslash.symm
      · split at heq
        · rename_i hd
          subst hd
          rw [List.cons_append, List.find?_cons_of_pos (by decide)] at hfind
          exact absurd hfind (by decide)
        -- The text begins as a tag does, and its first bracket is one that closes.
        · have hdc : d = c := by
            have hhead := congrArg List.head? heq
            simpa [backslashes] using hhead
          subst hdc
          rw [List.cons_append, List.find?_cons_of_neg (by simp [(beginsTag_ne hc).1]),
            List.find?_append] at hfind
          cases hinside : s.find? isTagBracket with
          | none =>
              rw [hinside] at hfind
              exact ht hfind
          | some b =>
              rw [hinside] at hfind
              obtain rfl : b = ']' := by simpa using hfind
              obtain ⟨content, htag⟩ := exists_tagContent? hc hinside
              exact absurd (hs.symm.trans htag) (by simp)

/-- Whether an item is plain text. -/
def MarkupItem.isPlain : MarkupItem → Bool
  | tag _ _ => false
  | _ => true

/-- **Escaped text is read as plain text**, up to what stands behind it. Some of the backslashes at
its end may still be open there. -/
theorem markupItems_escapeTags (s : Text) (n position : Nat) {t : Text}
    (ht : t.find? isTagBracket ≠ some (chr ']')) :
    ∃ texts position' slashes, (∀ i ∈ texts, i.isPlain = true) ∧
      markupItems position 0 0 (escapeTags n 0 s ++ t) =
        texts ++ markupItems position' slashes 0 t := by
  -- A tag is skipped as a whole, so the induction is on the length.
  induction hlen : s.length using Nat.strong_induction_on generalizing s n position with
  | _ k ih =>
  cases s with
  | nil => exact ⟨[], position + n, 0 + n, by simp, markupItems_backslashes position 0 n t⟩
  | cons c s =>
      have hshorter : s.length < k := by simp [← hlen]
      rw [escapeTags]
      split
      · exact ih _ hshorter s (n + 1) position rfl
      · rename_i hslash
        split
        · rename_i hc
          subst hc
          split
          · rename_i content hcontent
            obtain ⟨htag, rest, rfl⟩ := tagContent?_eq_some_iff.1 hcontent
            have hodd : (0 + (2 * n + 1)) % 2 ≠ 0 := by omega
            have hlength : rest.length < k := by
              rw [← hlen]
              simp
              omega
            obtain ⟨texts, position', slashes, htexts, hitems⟩ := ih _ hlength rest 0
              (position + (2 * n + 1) + 1 + (content.length + 1)) rfl
            refine ⟨.text (backslashes ((0 + (2 * n + 1)) / 2)) :: .escaped content :: texts,
              position', slashes, ?_, ?_⟩
            · exact List.forall_mem_cons.2 ⟨rfl, List.forall_mem_cons.2 ⟨rfl, htexts⟩⟩
            -- The number of backslashes in front of the tag is odd, so the tag is plain text.
            · rw [escapeTags_drop, drop_tag]
              simp only [List.append_assoc, List.cons_append, markupItems_backslashes]
              rw [markupItems_tag htag, if_neg hodd, hitems]
          · rename_i hnone
            obtain ⟨texts, position', slashes, htexts, hitems⟩ :=
              ih _ hshorter s 0 (position + n + 1) rfl
            refine ⟨.text (backslashes (0 + n - 1) ++ [chr '[']) :: texts, position', slashes,
              List.forall_mem_cons.2 ⟨rfl, htexts⟩, ?_⟩
            · rw [List.append_assoc, markupItems_backslashes, List.cons_append, markupItems,
                if_neg hslash, if_pos rfl, tagContent?_escapeTags_append hnone ht]
              dsimp only
              rw [hitems, List.cons_append]
        · rename_i hbracket
          obtain ⟨texts, position', slashes, htexts, hitems⟩ :=
            ih _ hshorter s 0 (position + n + 1) rfl
          refine ⟨.text (backslashes (0 + n) ++ [c]) :: texts, position', slashes,
            List.forall_mem_cons.2 ⟨rfl, htexts⟩, ?_⟩
          · rw [List.append_assoc, markupItems_backslashes, List.cons_append, markupItems,
              if_neg hslash, if_neg hbracket, hitems, List.cons_append]

/-- The same of `escape`, which can put one more backslash at the end. -/
theorem markupItems_escape (s : Text) (position : Nat) {t : Text}
    (ht : t.find? isTagBracket ≠ some (chr ']')) :
    ∃ texts position' slashes, (∀ i ∈ texts, i.isPlain = true) ∧
      markupItems position 0 0 (escape s ++ t) = texts ++ markupItems position' slashes 0 t := by
  unfold escape
  dsimp only
  split
  · obtain ⟨texts, position', slashes, htexts, hitems⟩ :=
      markupItems_escapeTags s 0 position (t := chr '\\' :: t)
        (by rwa [List.find?_cons_of_neg (by decide)])
    refine ⟨texts, position' + 1, slashes + 1, htexts, ?_⟩
    rw [List.append_assoc, List.singleton_append, hitems, markupItems, if_pos rfl]
  · exact markupItems_escapeTags s 0 position ht

/-! ## Plain text -/

/-- The plain text of an item. -/
def MarkupItem.plain : MarkupItem → Text
  | text s => s
  | escaped content => chr '[' :: content ++ [chr ']']
  | tag _ _ => []

/-- The plain text of items. -/
def plainText (items : List MarkupItem) : Text := items.flatMap MarkupItem.plain

theorem plainText_cons (i : MarkupItem) (items : List MarkupItem) :
    plainText (i :: items) = i.plain ++ plainText items := rfl

theorem backslashes_append_cons (n : Nat) (s : Text) :
    backslashes n ++ chr '\\' :: s = backslashes (n + 1) ++ s := by
  rw [backslashes, backslashes, List.replicate_succ', List.append_assoc]
  rfl

theorem backslashes_sublist {m n : Nat} (h : m ≤ n) : (backslashes m).Sublist (backslashes n) :=
  (List.replicate_sublist_replicate _).2 h

/-- **Reading takes characters away and puts in none.** -/
theorem plainText_sublist (position slashes done : Nat) (s : Text) :
    (plainText (markupItems position slashes done s)).Sublist
      (backslashes slashes ++ s.drop done) := by
  fun_induction markupItems position slashes done s with
  | case1 position slashes =>
      rw [List.drop_nil, plainText_cons]
      exact List.Sublist.refl _
  | case2 position slashes c s done ih => exact ih
  | case3 position slashes s ih =>
      rwa [List.drop_zero, backslashes_append_cons]
  | case4 position slashes s content htag hslash ih =>
      obtain ⟨-, rest, rfl⟩ := tagContent?_eq_some_iff.1 htag
      rw [drop_tag] at ih
      have htaken : (MarkupItem.plain (if slashes % 2 = 0 then .tag position content
          else .escaped content)).Sublist (chr '[' :: content ++ [chr ']']) := by
        split
        · exact List.nil_sublist _
        · exact List.Sublist.refl _
      have hall := (backslashes_sublist (Nat.div_le_self slashes 2)).append (htaken.append ih)
      simpa [plainText_cons, MarkupItem.plain, backslashes] using hall
  | case5 position slashes s htag hslash ih =>
      have hall := (backslashes_sublist (Nat.sub_le slashes 1)).append (ih.cons_cons (chr '['))
      simpa [plainText_cons, MarkupItem.plain, backslashes] using hall
  | case6 position slashes c s hslash hbracket ih =>
      have hall := (List.Sublist.refl (backslashes slashes)).append (ih.cons_cons c)
      simpa [plainText_cons, MarkupItem.plain, backslashes] using hall

/-- The plain text of a stretch. -/
def Segment.plain : Segment → Text
  | text s => s
  | tag _ _ => []

/-- Items are divided into stretches without any loss. -/
theorem flatMap_plain_segments (before : Text) (items : List MarkupItem) :
    (segments before items).flatMap Segment.plain = before ++ plainText items := by
  induction items generalizing before with
  | nil => simp [segments, Segment.plain, plainText]
  | cons i items ih =>
      cases i <;> simp [segments, ih, Segment.plain, plainText_cons, MarkupItem.plain]

/-- Plain items are divided into stretches of text, of which the last may still go on. -/
theorem segments_append {texts : List MarkupItem} (h : ∀ i ∈ texts, i.isPlain = true)
    (before : Text) (items : List MarkupItem) :
    ∃ (said : List Text) (before' : Text), segments before (texts ++ items) =
      said.map Segment.text ++ segments before' items := by
  induction texts generalizing before with
  | nil => exact ⟨[], before, rfl⟩
  | cons i texts ih =>
      obtain ⟨hi, htexts⟩ := List.forall_mem_cons.1 h
      cases i with
      | text s => exact ih htexts (before ++ s)
      | escaped content =>
          obtain ⟨said, before', hsegments⟩ := ih htexts []
          refine ⟨before :: (chr '[' :: content ++ [chr ']']) :: said, before', ?_⟩
          rw [List.cons_append, segments, hsegments]
          rfl
      | tag position content => cases hi

/-! ## Rendering -/

variable {emoji : EmojiTable}

theorem exists_of_map_eq_ok {α β ε : Type} {f : α → β} {x : Except ε α} {b : β}
    (h : f <$> x = .ok b) : ∃ a, x = .ok a ∧ f a = b := by
  cases x with
  | error e => cases h
  | ok a => exact ⟨a, rfl, Except.ok.inj h⟩

/-- The text that is read is the plain text of the stretches; tags only put styles on it. -/
theorem text_of_renderSegments {openStyles : List OpenStyle} {stop : Nat} {parts : List Segment}
    {t : StyledText} (h : renderSegments openStyles stop parts = .ok t) :
    t.text = parts.flatMap Segment.plain := by
  induction parts generalizing openStyles stop t with
  | nil =>
      rw [← Except.ok.inj h]
      rfl
  | cons part parts ih =>
      cases part with
      | text s =>
          rw [renderSegments] at h
          obtain ⟨rest, hrest, rfl⟩ := exists_of_map_eq_ok h
          rw [List.flatMap_cons, ← ih hrest]
          rfl
      | tag position content =>
          rw [renderSegments] at h
          rw [List.flatMap_cons, Segment.plain, List.nil_append]
          split at h
          -- The tag closes a style, whose span is added in front of the others.
          · split at h
            · cases h
            · split at h
              · cases h
              · obtain ⟨rest, hrest, rfl⟩ := exists_of_map_eq_ok h
                rw [← ih hrest]
          · split at h
            · cases h
            · exact ih h

/-- What is read stood in the text or came of a code. -/
theorem mem_of_mem_render {markup : Text} {t : StyledText} (h : render emoji markup = .ok t)
    {c : CodePoint} (hc : c ∈ t.text) : c ∈ markup ∨ emoji.Brings c ∧ chr ':' ∈ markup := by
  have hmarkup : ∀ part ∈ segments [] (markupItems 0 0 0 markup), part.plain ⊆ markup := by
    intro part hpart d hd
    refine (plainText_sublist 0 0 0 markup).subset ?_
    have hplain := flatMap_plain_segments [] (markupItems 0 0 0 markup)
    rw [List.nil_append] at hplain
    exact hplain ▸ List.mem_flatMap.2 ⟨part, hpart, hd⟩
  rw [text_of_renderSegments h, List.flatMap_map] at hc
  obtain ⟨part, hpart, hc⟩ := List.mem_flatMap.1 hc
  cases part with
  | tag position content => cases hc
  | text s =>
      rcases EmojiTable.mem_of_mem_replace (List.mem_of_mem_filter hc) with hc | ⟨hc, hcolon⟩
      · exact .inl (hmarkup _ hpart hc)
      · exact .inr ⟨hc, hmarkup _ hpart hcolon⟩

/-- **Reading makes up no surrogates**: where one is read, one is written. -/
theorem isUnicode_eq_false_of_mem_render {markup : Text} {t : StyledText} {c : CodePoint}
    (h : render emoji markup = .ok t) (hc : c ∈ t.text) (hsurrogate : c.isSurrogate = true) :
    markup.isUnicode = false := by
  rcases mem_of_mem_render h hc with hc | ⟨hbrings, -⟩
  · exact Text.isUnicode_eq_false_iff.2 ⟨c, hc, hsurrogate⟩
  · rw [hbrings.isSurrogate] at hsurrogate
    cases hsurrogate

/-- Stretches of text in front of others only add their text. -/
theorem renderSegments_texts (emoji : EmojiTable) (said : List Text)
    (openStyles : List OpenStyle) (stop : Nat) (rest : List Segment) :
    ∃ text, renderSegments openStyles stop
        ((said.map Segment.text ++ rest).map (Segment.shown emoji)) =
      (fun t => ⟨text ++ t.text, t.spans⟩) <$>
        renderSegments openStyles (stop + text.length) (rest.map (Segment.shown emoji)) := by
  induction said generalizing stop with
  | nil =>
      refine ⟨[], ?_⟩
      simp only [List.map_nil, List.nil_append, List.length_nil, Nat.add_zero]
      cases renderSegments openStyles stop (rest.map (Segment.shown emoji)) <;> rfl
  | cons s said ih =>
      let first := (emoji.replace s).filter fun c => !isControl c
      obtain ⟨text, hrest⟩ := ih (stop + first.length)
      refine ⟨first ++ text, ?_⟩
      rw [List.map_cons, List.cons_append, List.map_cons, Segment.shown, renderSegments, hrest,
        List.length_append, Nat.add_assoc]
      cases renderSegments openStyles _ (rest.map (Segment.shown emoji)) with
      | error e => rfl
      | ok t => simp [Functor.map, Except.map, first]

/-- **Reading an escaped text never fails**, and finds no style in it. -/
theorem render_escape (emoji : EmojiTable) (s : Text) :
    ∃ text, render emoji (escape s) = .ok ⟨text, []⟩ := by
  obtain ⟨texts, position', slashes, htexts, hitems⟩ := markupItems_escape s 0 (t := []) (by simp)
  obtain ⟨said, before, hsegments⟩ :=
    segments_append htexts [] [MarkupItem.text (backslashes slashes)]
  obtain ⟨text, hrender⟩ := renderSegments_texts emoji said [] 0
    (segments before [MarkupItem.text (backslashes slashes)])
  rw [List.append_nil, markupItems] at hitems
  rw [render, hitems, hsegments, hrender]
  exact ⟨_, rfl⟩

theorem mem_of_mem_backslashes {n : Nat} {c : CodePoint} (h : c ∈ backslashes n) : c = '\\' :=
  List.eq_of_mem_replicate h

theorem mem_of_mem_escapeTags {s : Text} {slashes done : Nat} {c : CodePoint}
    (h : c ∈ escapeTags slashes done s) : c = '\\' ∨ c ∈ s := by
  fun_induction escapeTags slashes done s with
  | case1 slashes => exact .inl (mem_of_mem_backslashes h)
  | case2 slashes d s done ih => exact (ih h).imp_right (List.mem_cons_of_mem d)
  | case3 slashes s ih => exact (ih h).imp_right (List.mem_cons_of_mem _)
  | case4 slashes s content htag hslash ih =>
      obtain ⟨-, rest, rfl⟩ := tagContent?_eq_some_iff.1 htag
      simp only [List.mem_append, List.mem_cons] at h ih ⊢
      rcases h with (h | rfl | h) | rfl | h
      · exact .inl (mem_of_mem_backslashes h)
      · exact .inr (.inl rfl)
      · exact .inr (.inr (.inl h))
      · exact .inr (.inr (.inr (.inl rfl)))
      · exact (ih h).imp_right .inr
  | case5 slashes s htag hslash ih =>
      simp only [List.mem_append, List.mem_cons] at h ⊢
      rcases h with h | rfl | h
      · exact .inl (mem_of_mem_backslashes h)
      · exact .inr (.inl rfl)
      · exact (ih h).imp_right .inr
  | case6 slashes d s hslash hbracket ih =>
      simp only [List.mem_append, List.mem_cons] at h ⊢
      rcases h with h | rfl | h
      · exact .inl (mem_of_mem_backslashes h)
      · exact .inr (.inl rfl)
      · exact (ih h).imp_right .inr

/-- Escaping puts in backslashes and nothing else. -/
theorem mem_of_mem_escape {s : Text} {c : CodePoint} (h : c ∈ escape s) : c = '\\' ∨ c ∈ s := by
  unfold escape at h
  dsimp only at h
  split at h
  · rcases List.mem_append.1 h with h | h
    · exact mem_of_mem_escapeTags h
    · exact .inl (List.mem_singleton.1 h)
  · exact mem_of_mem_escapeTags h

theorem isUnicode_escape {s : Text} (h : s.isUnicode = true) :
    Text.isUnicode (escape s) = true := by
  rw [Text.isUnicode, List.all_eq_true] at h ⊢
  intro c hc
  rcases mem_of_mem_escape hc with rfl | hc
  · rfl
  · exact h c hc

/-! ## Styles of messages -/

theorem checkColour_of_mem {name : String} (h : name ∈ colourNames) :
    checkColour name.text = .ok () := by
  have hmem : (colourNames.map String.text).contains name.text = true :=
    List.contains_iff_mem.2 (List.mem_map_of_mem h)
  unfold checkColour
  rw [if_pos]
  rw [hmem, Bool.or_true, Bool.true_or, Bool.true_or]

theorem attribute?_of_mem {name : String} (h : name ∈ attributeNames) :
    attribute? name.text = some name.text := by
  have hmem : (attributeNames.map String.text).contains name.text = true :=
    List.contains_iff_mem.2 (List.mem_map_of_mem h)
  unfold attribute?
  rw [if_pos hmem]

theorem attribute?_of_not_mem {name : String} (hname : name ∉ attributeNames)
    (halias : name ∉ attributeAliases.map Prod.fst) : attribute? name.text = none := by
  have hmem : ¬(attributeNames.map String.text).contains name.text = true := by
    rw [List.contains_iff_mem]
    intro h
    obtain ⟨other, hother, heq⟩ := List.mem_map.1 h
    exact hname (String.text_inj.1 heq ▸ hother)
  unfold attribute?
  rw [if_neg hmem, List.lookup_eq_none_iff]
  intro x hx
  obtain ⟨y, hy, rfl⟩ := List.mem_map.1 hx
  rw [bne_iff_ne]
  intro heq
  exact halias (List.mem_map.2 ⟨y, hy, (String.text_inj.1 heq).symm⟩)

/-- Words that are read as something else than a colour. -/
def otherWords : List String :=
  attributeNames ++ attributeAliases.map Prod.fst ++ ["on", "not", "link"]

theorem styleWords_colour {colour : String} (s : StyleWords) (hcolour : colour ∈ colourNames)
    (hother : colour ∉ otherWords) (hlower : Text.lower colour.text = colour.text) :
    styleWords s [colour.text] = .ok { s with colour := some colour.text } := by
  simp only [otherWords, List.mem_append, not_or] at hother
  have hkey : ∀ key ∈ ["on", "not", "link"], colour.text ≠ key.text := fun key hkey heq =>
    hother.2 (String.text_inj.1 heq ▸ hkey)
  rw [styleWords, hlower]
  simp only [if_neg (hkey "on" (by simp)), if_neg (hkey "not" (by simp)),
    if_neg (hkey "link" (by simp))]
  rw [attribute?_of_not_mem hother.1.1 hother.1.2, checkColour_of_mem hcolour]
  rfl

theorem styleWords_bold (s : StyleWords) (word : Text) :
    styleWords s ["bold".text, word] =
      styleWords { s with attributes := ("bold".text, true) :: s.attributes } [word] := by
  have hlower : Text.lower "bold".text = "bold".text := by decide +kernel
  rw [styleWords.eq_def]
  simp only [hlower]
  rw [if_neg (by decide), if_neg (by decide), if_neg (by decide), attribute?_of_mem (by decide)]

/-- A style name that is its own normal name, so that a tag with it opens a style and the tag with a
slash in front closes that style. -/
structure IsStyleName (style : Text) : Prop where
  tag : IsTagContent style
  noParameters : chr '=' ∉ style
  noSlash : style.head? ≠ some (chr '/')
  noHandler : style.head? ≠ some (chr '@')
  stripped : Text.strip style = style
  notNone : style ≠ "none".text
  normal : ∃ words, readStyle style = .ok words ∧ Text.join ' ' words.normalWords = style

theorem readStyle_colour {colour : Text} (hwords : blankWords colour = [colour])
    (hcolour : ∀ s, styleWords s [colour] = .ok { s with colour := some colour }) :
    ∃ words, readStyle colour = .ok words ∧ Text.join ' ' words.normalWords = colour := by
  refine ⟨{ colour := some colour }, (congrArg (styleWords {}) hwords).trans (hcolour {}), ?_⟩
  simp [StyleWords.normalWords, attributeNames, Text.join]

theorem readStyle_bold {style colour : Text} (hwords : blankWords style = ["bold".text, colour])
    (hcolour : ∀ s, styleWords s [colour] = .ok { s with colour := some colour }) :
    ∃ words, readStyle style = .ok words ∧
      Text.join ' ' words.normalWords = "bold ".text ++ colour := by
  refine ⟨{ attributes := [("bold".text, true)], colour := some colour }, ?_, ?_⟩
  · rw [readStyle, hwords, styleWords_bold, hcolour]
  · simp [StyleWords.normalWords, attributeNames, List.lookup_cons, Text.join]

/-- The styles of messages are names: a colour, as it is or in bold. -/
theorem isStyleName_of_tone (tone : Tone) : IsStyleName tone.style := by
  have hgreen : ∀ s, styleWords s ["green".text] = .ok { s with colour := some "green".text } :=
    fun s => styleWords_colour s (by decide) (by decide) (by decide +kernel)
  have hred : ∀ s, styleWords s ["red".text] = .ok { s with colour := some "red".text } :=
    fun s => styleWords_colour s (by decide) (by decide) (by decide +kernel)
  have hyellow :
      ∀ s, styleWords s ["yellow".text] = .ok { s with colour := some "yellow".text } :=
    fun s => styleWords_colour s (by decide) (by decide) (by decide +kernel)
  cases tone with
  | success =>
      exact ⟨⟨chr 'b', "old green".text, rfl, rfl, by simp [isTagBracket]⟩, by decide, by decide,
        by decide, by decide +kernel, by decide, readStyle_bold (by decide +kernel) hgreen⟩
  | error =>
      exact ⟨⟨chr 'b', "old red".text, rfl, rfl, by simp [isTagBracket]⟩, by decide, by decide,
        by decide, by decide +kernel, by decide, readStyle_bold (by decide +kernel) hred⟩
  | warning =>
      exact ⟨⟨chr 'b', "old yellow".text, rfl, rfl, by simp [isTagBracket]⟩, by decide, by decide,
        by decide, by decide +kernel, by decide, readStyle_bold (by decide +kernel) hyellow⟩
  | info =>
      exact ⟨⟨chr 'g', "reen".text, rfl, rfl, by simp [isTagBracket]⟩, by decide, by decide,
        by decide, by decide +kernel, by decide, readStyle_colour (by decide +kernel) hgreen⟩

namespace IsStyleName

variable {style : Text}

theorem tag_closing (h : IsStyleName style) : IsTagContent (chr '/' :: style) := by
  obtain ⟨c, cs, hstyle, hc, hcs⟩ := h.tag
  refine ⟨chr '/', style, rfl, by decide, fun d hd => ?_⟩
  rw [hstyle] at hd
  rcases List.mem_cons.1 hd with rfl | hd
  · exact (beginsTag_ne hc).1
  · exact hcs d hd

theorem ofContent (h : IsStyleName style) : Tag.ofContent style = ⟨style, none⟩ := by
  have hsigns : ∀ c ∈ style, decide (c ≠ '=') = true := fun c hc =>
    decide_eq_true fun heq => h.noParameters (heq ▸ hc)
  rw [Tag.ofContent, List.span_eq_takeWhile_dropWhile, List.takeWhile_eq_self_iff.2 hsigns,
    List.dropWhile_eq_nil_iff.2 hsigns]

theorem ofContent_closing (h : IsStyleName style) :
    Tag.ofContent (chr '/' :: style) = ⟨chr '/' :: style, none⟩ := by
  have hsigns : ∀ c ∈ chr '/' :: style, decide (c ≠ '=') = true := by
    intro c hc
    rcases List.mem_cons.1 hc with rfl | hc
    · decide
    · exact decide_eq_true fun heq => h.noParameters (heq ▸ hc)
  rw [Tag.ofContent, List.span_eq_takeWhile_dropWhile, List.takeWhile_eq_self_iff.2 hsigns,
    List.dropWhile_eq_nil_iff.2 hsigns]

theorem readName_eq (h : IsStyleName style) : readName style = .ok style := by
  obtain ⟨words, hread, hnormal⟩ := h.normal
  rw [readName, normalName?, h.stripped, if_neg h.notNone, hread]
  simp only [hnormal]

theorem isUnreadable_eq_false (h : IsStyleName style) : isUnreadable style = false := by
  obtain ⟨words, hread, -⟩ := h.normal
  rw [isUnreadable, hread]

theorem ne_nil (h : IsStyleName style) : style ≠ [] := by
  obtain ⟨c, cs, rfl, -⟩ := h.tag
  exact List.cons_ne_nil c cs

end IsStyleName

/-- A name opens a style. -/
theorem renderSegments_opening {style : Text} (h : IsStyleName style)
    (openStyles : List OpenStyle) (stop position : Nat) (rest : List Segment) :
    renderSegments openStyles stop (.tag position style :: rest) =
      renderSegments (⟨style, none, stop⟩ :: openStyles) stop rest := by
  have hslash : ∀ closed, style ≠ chr '/' :: closed := by
    rintro closed rfl
    exact h.noSlash rfl
  rw [renderSegments, h.ofContent]
  split
  · exact absurd (by assumption) (hslash _)
  · simp only [h.readName_eq]

/-- The name behind a slash closes the style. -/
theorem renderSegments_closing {style : Text} (h : IsStyleName style) (start stop position : Nat)
    (rest : List Segment) :
    renderSegments [⟨style, none, start⟩] stop (.tag position (chr '/' :: style) :: rest) =
      (fun t => ⟨t.text, ⟨start, stop, style⟩ :: t.spans⟩) <$> renderSegments [] stop rest := by
  have hfound : findClosed [⟨style, none, start⟩] position (chr '/' :: style) style =
      .ok ⟨style, none, start⟩ := by
    rw [findClosed, h.stripped, if_neg h.ne_nil, h.readName_eq]
    simp
  have hclosed : OpenStyle.close stop ⟨style, none, start⟩ = .ok ⟨start, stop, style⟩ := by
    rw [OpenStyle.close, OpenStyle.isHandler, if_neg (by simpa using h.noHandler)]
    rfl
  rw [renderSegments, h.ofContent_closing]
  simp only [hfound, hclosed, List.erase_cons_head]

/-- What ends a message closes its style, or is plain text where backslashes in front of it take its
meaning away; then the style is closed by the end. -/
theorem renderSegments_ending (emoji : EmojiTable) {style : Text} (h : IsStyleName style)
    (before : Text) (slashes position stop : Nat) :
    ∃ text stop', renderSegments [⟨style, none, 0⟩] stop
        ((segments before (markupItems position slashes 0
          (chr '[' :: (chr '/' :: style ++ [chr ']'])))).map (Segment.shown emoji)) =
      .ok ⟨text, [⟨0, stop', style⟩]⟩ := by
  rw [markupItems_tag h.tag_closing, markupItems]
  by_cases heven : slashes % 2 = 0
  · rw [if_pos heven]
    simp only [segments, List.map_cons, List.map_nil, Segment.shown]
    rw [renderSegments, renderSegments_closing h]
    exact ⟨_, _, rfl⟩
  · rw [if_neg heven]
    exact ⟨_, _, rfl⟩

/-- **Reading a message never fails**: escaped text between the tags of a style stands in that
style, and in no other. -/
theorem render_styled (emoji : EmojiTable) {style : Text} (h : IsStyleName style) (s : Text) :
    ∃ text stop, render emoji (styled style (escape s)) = .ok ⟨text, [⟨0, stop, style⟩]⟩ := by
  have hstyled : styled style (escape s) =
      chr '[' ::
        (style ++ chr ']' :: (escape s ++ chr '[' :: (chr '/' :: style ++ [chr ']']))) := by
    simp [styled]
  obtain ⟨texts, position, slashes, htexts, hitems⟩ := markupItems_escape s
    (0 + 1 + (style.length + 1)) (t := chr '[' :: (chr '/' :: style ++ [chr ']']))
    (by rw [List.find?_cons_of_pos (by decide)]; decide)
  obtain ⟨said, before, hsegments⟩ := segments_append htexts []
    (markupItems position slashes 0 (chr '[' :: (chr '/' :: style ++ [chr ']'])))
  have hread : segments [] (markupItems 0 0 0 (styled style (escape s))) =
      .text [] :: .tag 0 style :: (said.map Segment.text ++ segments before
        (markupItems position slashes 0 (chr '[' :: (chr '/' :: style ++ [chr ']'])))) := by
    rw [hstyled, markupItems_tag h.tag, hitems, ← hsegments]
    rfl
  obtain ⟨text, hsaid⟩ := renderSegments_texts emoji said [⟨style, none, 0⟩] 0
    (segments before (markupItems position slashes 0 (chr '[' :: (chr '/' :: style ++ [chr ']']))))
  obtain ⟨last, stop, hending⟩ :=
    renderSegments_ending emoji h before slashes position (0 + text.length)
  have hnothing : Segment.shown emoji (.text []) = .text [] := rfl
  refine ⟨text ++ last, stop, ?_⟩
  rw [render, hread, List.map_cons, List.map_cons, hnothing, Segment.shown, renderSegments,
    List.length_nil, Nat.add_zero, renderSegments_opening h, hsaid, hending]
  rfl

theorem isUnicode_styled {style markup : Text} (hstyle : style.isUnicode = true)
    (hmarkup : markup.isUnicode = true) : Text.isUnicode (styled style markup) = true := by
  simp [styled, hstyle, hmarkup]

end Scaffold.Console
