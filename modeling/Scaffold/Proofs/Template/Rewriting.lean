/-
# Scaffold.Proofs.Template.Rewriting -- filling by replacing one token after another

Filling looks at a template once. The obvious other way is to go over the whole text for each value
and put it in wherever its token stands, what was put in before included. That may find tokens that
the template does not hold: a value can hold one, and so can a value together with what stands
around it.

Two conditions exclude both. A text is inert (`Inert`) if no token begins in it, whatever follows.
And each opening brace of the template is guarded (`guarded`): what stands directly behind it, with
or without values, does not go on like a token. Then the holes that are left after some replacements
are those of the template (`pieces_flatMap_filledPiece`), so that each replacement does what filling
does with its value (`replaceKey_filled`), and the order does not matter (`replaceEach_eq_fill`).
-/

import Scaffold.Proofs.Template.Filling
import Scaffold.Proofs.Template.Occurrences

namespace Scaffold

/-! ## Replacing -/

namespace Text

/-- A text of which the first `done` characters are already accounted for, with `new` in place of
each occurrence of `old`. -/
def replaceFrom (old new : Text) : (done : Nat) → Text → Text
  | _, [] => []
  | done + 1, _ :: s => replaceFrom old new done s
  | 0, c :: s =>
    if beginsWith old (c :: s) then new ++ replaceFrom old new (old.length - 1) s
    else c :: replaceFrom old new 0 s

/-- A text with `new` in place of each occurrence of `old`, which is not empty, from left to right.
Where occurrences overlap, the first one counts. -/
def replaceAll (old new s : Text) : Text := replaceFrom old new 0 s

variable {old new s : Text} {c : CodePoint}

theorem replaceFrom_eq (done : Nat) (s : Text) :
    replaceFrom old new done s = replaceAll old new (s.drop done) := by
  induction done generalizing s with
  | zero => rfl
  | succ done ih =>
      cases s with
      | nil => rfl
      | cons c s => exact ih s

theorem replaceAll_cons (h : ¬ old <+: c :: s) :
    replaceAll old new (c :: s) = c :: replaceAll old new s := by
  have hbegins : ¬ beginsWith old (c :: s) = true := mt List.isPrefixOf_iff_prefix.1 h
  rw [replaceAll, replaceFrom, if_neg hbegins]
  rfl

theorem replaceAll_append (h : old ≠ []) (new s : Text) :
    replaceAll old new (old ++ s) = new ++ replaceAll old new s := by
  obtain ⟨c, rest, rfl⟩ := List.exists_cons_of_ne_nil h
  have hbegins : beginsWith (c :: rest) (c :: (rest ++ s)) = true :=
    List.isPrefixOf_iff_prefix.2 (List.prefix_append (c :: rest) s)
  rw [List.cons_append, replaceAll, replaceFrom, if_pos hbegins, replaceFrom_eq, List.length_cons,
    Nat.add_sub_cancel, List.drop_left]

/-- Nothing is replaced where the first character of `old` does not stand. -/
theorem replaceAll_append_of_not_mem {u : Text} (h : c ∉ u) (s : Text) :
    replaceAll (c :: old) new (u ++ s) = u ++ replaceAll (c :: old) new s := by
  induction u with
  | nil => rfl
  | cons d u ih =>
      obtain ⟨hne, hu⟩ := not_or.1 (mt List.mem_cons.2 h)
      have hbegins : ¬ c :: old <+: d :: (u ++ s) := fun hprefix =>
        hne (List.cons_prefix_cons.1 hprefix).1
      rw [List.cons_append, replaceAll_cons hbegins, ih hu, List.cons_append]

end Text

namespace Template

variable {p q : Placeholder} {s t rest : Text} {c d : CodePoint} {values : Values} {ps : List Piece}

/-! ## Replacing tokens -/

/-- A value for one placeholder only. -/
def Values.single (p : Placeholder) (v : Text) : Values := fun q =>
  if q = p then some (.ready v) else none

theorem filledPiece_single_self (p : Placeholder) (v : Text) :
    filledPiece (.single p v) (.hole p) = v := by
  have hvalue : Values.single p v p = some (.ready v) := if_pos rfl
  exact filledPiece_of_eq_some hvalue

theorem filledPiece_single_of_ne (h : q ≠ p) (v : Text) :
    filledPiece (.single p v) (.hole q) = q.token :=
  filledPiece_of_eq_none (if_neg h)

/-- Replacing a token is filling with a single value: tokens do not overlap, so none is missed. -/
theorem replaceAll_token (p : Placeholder) (v s : Text) :
    Text.replaceAll p.token v s = (pieces s).flatMap (filledPiece (.single p v)) := by
  induction s using pieces_induction with
  | nil => rfl
  | token q rest ih =>
      rw [pieces_token_append, List.flatMap_cons, ← ih]
      by_cases hqp : q = p
      · subst hqp
        rw [filledPiece_single_self]
        exact Text.replaceAll_append (List.cons_ne_nil _ _) v rest
      · -- Another token does not begin here, nor inside this one, which holds no second brace.
        have hbegins : ¬ p.token <+: chr '\x7b' :: (q.token.tail ++ rest) := fun hprefix =>
          hqp (Placeholder.eq_of_token_prefix (List.prefix_append q.token rest) hprefix)
        rw [filledPiece_single_of_ne hqp, q.token_eq_cons, List.cons_append,
          Text.replaceAll_cons hbegins, p.token_eq_cons,
          Text.replaceAll_append_of_not_mem q.brace_not_mem_tail, List.cons_append]
  | char c s hnone ih =>
      rw [pieces_cons hnone, List.flatMap_cons, ← ih,
        Text.replaceAll_cons (holeAt?_eq_none_iff.1 hnone p)]
      rfl

/-! ## Inert texts -/

/-- The character begins the name of a placeholder. -/
def beginsName (c : CodePoint) : Bool := Placeholder.all.any fun p => p.text.head? = some c

/-- An opening brace in front of the text begins no token. -/
def Blunt (s : Text) : Prop := ∀ c ∈ s.head?, beginsName c = false

theorem blunt_nil : Blunt [] := fun c hc => absurd hc (Option.not_mem_none c)

theorem blunt_cons (h : beginsName c = false) (s : Text) : Blunt (c :: s) := by
  intro d hd
  obtain rfl : c = d := by simpa using hd
  exact h

theorem Blunt.holeAt?_eq_none (h : Blunt s) : holeAt? (chr '\x7b' :: s) = none := by
  rw [holeAt?_eq_none_iff]
  intro p hprefix
  obtain ⟨rest, hrest⟩ := hprefix
  obtain ⟨c, name, hname⟩ := List.exists_cons_of_ne_nil (show p.text ≠ [] by cases p <;> decide)
  have hs : c :: (name ++ [chr '\x7d'] ++ rest) = s := by
    rw [Placeholder.token, hname] at hrest
    exact (List.cons.inj hrest).2
  have hbegins : beginsName c = true := by
    rw [beginsName, List.any_eq_true]
    refine ⟨p, by cases p <;> decide, ?_⟩
    rw [hname]
    exact decide_eq_true rfl
  have hblunt := h c (by rw [← hs]; rfl)
  rw [hbegins] at hblunt
  exact Bool.noConfusion hblunt

/-- No token begins inside the text, whatever stands behind it. -/
def Inert (s : Text) : Prop := ∀ t, pieces (s ++ t) = s.map .char ++ pieces t

theorem inert_nil : Inert [] := fun _ => rfl

theorem Inert.append (hs : Inert s) (ht : Inert t) : Inert (s ++ t) := by
  intro u
  rw [List.append_assoc, hs, ht, List.map_append, List.append_assoc]

theorem Inert.cons_of_ne (hs : Inert s) (hc : c ≠ '\x7b') : Inert (c :: s) := by
  intro t
  have hhole : holeAt? (c :: (s ++ t)) = none := by rw [holeAt?, if_neg hc]
  rw [List.cons_append, pieces_cons hhole, hs]
  rfl

/-- A text without opening braces is inert. -/
theorem inert_of_not_mem (h : chr '\x7b' ∉ s) : Inert s := by
  induction s with
  | nil => exact inert_nil
  | cons c s ih =>
      obtain ⟨hne, hs⟩ := not_or.1 (mt List.mem_cons.2 h)
      exact (ih hs).cons_of_ne (Ne.symm hne)

/-- An opening brace is inert together with a character that begins no name. -/
theorem Inert.brace_cons (hs : Inert (c :: s)) (hc : beginsName c = false) :
    Inert (chr '\x7b' :: c :: s) := by
  intro t
  have hhole : holeAt? (chr '\x7b' :: (c :: s ++ t)) = none :=
    (blunt_cons hc (s ++ t)).holeAt?_eq_none
  rw [List.cons_append, pieces_cons hhole, hs]
  rfl

theorem Inert.joinWith {glue : Text} {xs : List Text} (hglue : Inert glue)
    (h : ∀ x ∈ xs, Inert x) : Inert (Text.joinWith glue xs) := by
  induction xs with
  | nil => exact inert_nil
  | cons x xs ih =>
      obtain ⟨hx, hxs⟩ := List.forall_mem_cons.1 h
      cases xs with
      | nil => exact hx
      | cons y ys => exact (hx.append hglue).append (ih hxs)

/-! ## Guarded braces -/

/-- What follows an opening brace does not go on like a token: the end of the template, a character
that begins no name, or a hole whose value does not go on like a token either, and behind it the
same, as the value may be empty. -/
def guards (blunt : Placeholder → Bool) : List Piece → Bool
  | [] => true
  | .char c :: _ => !beginsName c
  | .hole p :: ps => blunt p && guards blunt ps

/-- Every opening brace of the plain text in a template is guarded. -/
def guarded (blunt : Placeholder → Bool) : List Piece → Bool
  | [] => true
  | .char c :: ps => (c != '\x7b' || guards blunt ps) && guarded blunt ps
  | .hole _ :: ps => guarded blunt ps

/-- The values are inert, and those of the marked placeholders begin no name. -/
structure Harmless (blunt : Placeholder → Bool) (values : Values) : Prop where
  inert : ∀ p value, values p = some value → Inert value.text
  blunt : ∀ p value, values p = some value → blunt p = true → Blunt value.text

variable {blunt : Placeholder → Bool}

/-- A hole without a value begins with a brace, and a hole with an empty one leaves the word to what
stands behind it. -/
theorem blunt_of_guards (h : Harmless blunt values) (hguards : guards blunt ps = true) :
    Blunt (ps.flatMap (filledPiece values)) := by
  induction ps with
  | nil => exact blunt_nil
  | cons piece ps ih =>
      cases piece with
      | char c =>
          rw [guards, Bool.not_eq_true'] at hguards
          exact blunt_cons hguards _
      | hole p =>
          rw [guards, Bool.and_eq_true] at hguards
          rw [List.flatMap_cons]
          cases hvalue : values p with
          | none =>
              rw [filledPiece_of_eq_none hvalue, p.token_eq_cons, List.cons_append]
              exact blunt_cons (by decide) _
          | some value =>
              have hblunt := h.blunt p value hvalue hguards.1
              rw [filledPiece_of_eq_some hvalue]
              cases htext : value.text with
              | nil => exact ih hguards.2
              | cons c v =>
                  rw [htext] at hblunt
                  exact blunt_cons (hblunt c rfl) _

/-- What a piece of a template becomes, piece by piece: a value is plain text, and a hole without a
value stays a hole. -/
def filledPieces (values : Values) : Piece → List Piece
  | .char c => [.char c]
  | .hole p =>
    match values p with
    | some value => value.text.map .char
    | none => [.hole p]

/-- **No token comes about.** The pieces of a filled template are those of the template, with the
characters of the values for the holes that have one. -/
theorem pieces_flatMap_filledPiece (h : Harmless blunt values)
    (hguarded : guarded blunt ps = true) :
    pieces (ps.flatMap (filledPiece values)) = ps.flatMap (filledPieces values) := by
  induction ps with
  | nil => rfl
  | cons piece ps ih =>
      rw [List.flatMap_cons, List.flatMap_cons]
      cases piece with
      | char c =>
          rw [guarded, Bool.and_eq_true, Bool.or_eq_true, bne_iff_ne] at hguarded
          have hhole : holeAt? (c :: ps.flatMap (filledPiece values)) = none := by
            by_cases hc : c = '\x7b'
            · subst hc
              have hguards := hguarded.1.resolve_left fun hne => hne rfl
              exact (blunt_of_guards h hguards).holeAt?_eq_none
            · rw [holeAt?, if_neg hc]
          show pieces (c :: ps.flatMap (filledPiece values)) = _
          rw [pieces_cons hhole, ih hguarded.2]
          rfl
      | hole p =>
          rw [guarded] at hguarded
          rw [filledPiece, filledPieces]
          cases hvalue : values p with
          | none =>
              show pieces (p.token ++ _) = _
              rw [pieces_token_append, ih hguarded]
              rfl
          | some value =>
              show pieces (value.text ++ _) = _
              rw [h.inert p value hvalue, ih hguarded]

/-! ## One replacement after another -/

/-- The placeholders that have a value, in alphabetical order. -/
def Values.keys (values : Values) : List Placeholder :=
  Placeholder.all.filter fun p => (values p).isSome

theorem Values.mem_keys_iff : p ∈ values.keys ↔ (values p).isSome = true := by
  have hmem : p ∈ Placeholder.all := by cases p <;> decide
  rw [keys, List.mem_filter, and_iff_right hmem]

/-- The text with the value of a placeholder, if it has one, in place of each of its tokens. -/
def replaceKey (values : Values) (s : Text) (p : Placeholder) : Text :=
  match values p with
  | some value => Text.replaceAll p.token value.text s
  | none => s

/-- The text after the replacements for some placeholders, one after another. Each looks at the
whole text that the ones before have left. -/
def replaceEach (values : Values) (ks : List Placeholder) (s : Text) : Text :=
  ks.foldl (replaceKey values) s

/-- The values of some placeholders only. -/
def Values.within (values : Values) (done : List Placeholder) : Values := fun p =>
  if p ∈ done then values p else none

theorem Values.within_cons (values : Values) (p : Placeholder) (done : List Placeholder)
    (q : Placeholder) :
    values.within (p :: done) q = if q = p then values p else values.within done q := by
  by_cases hqp : q = p
  · subst hqp
    rw [if_pos rfl, within, if_pos List.mem_cons_self]
  · simp [within, hqp]

theorem Values.within_eq_some {done : List Placeholder} {value : Value}
    (h : values.within done p = some value) : values p = some value := by
  rw [within] at h
  split at h
  · exact h
  · cases h

theorem Harmless.within (h : Harmless blunt values) (done : List Placeholder) :
    Harmless blunt (values.within done) :=
  ⟨fun p value hvalue => h.inert p value (Values.within_eq_some hvalue),
    fun p value hvalue => h.blunt p value (Values.within_eq_some hvalue)⟩

/-- When all placeholders with a value are done, all values are in. -/
theorem Values.within_eq_self {done : List Placeholder} (h : values.keys ⊆ done) :
    values.within done = values := by
  funext p
  by_cases hmem : p ∈ done
  · exact if_pos hmem
  · have hnone : values p = none := by
      by_contra hsome
      exact hmem (h (mem_keys_iff.2 (Option.isSome_iff_ne_none.2 hsome)))
    rw [within, if_neg hmem, hnone]

/-- What becomes of a piece when one placeholder more is done. Where it was done before, its value
stands there as plain text. -/
theorem flatMap_filledPieces_within {value : Value} (hvalue : values p = some value)
    (done : List Placeholder) (piece : Piece) :
    (filledPieces (values.within done) piece).flatMap (filledPiece (.single p value.text)) =
      filledPiece (values.within (p :: done)) piece := by
  cases piece with
  | char c => rfl
  | hole q =>
      have hnext := values.within_cons p done q
      rw [filledPieces]
      cases hwithin : values.within done q with
      | some v =>
          -- There is no hole left to replace, and the value in the text is the one that stays.
          have hsame : values.within (p :: done) q = some v := by
            rw [hnext, hwithin, ← Values.within_eq_some hwithin, ite_eq_right_iff]
            rintro rfl
            rfl
          rw [filledPiece_of_eq_some hsame]
          exact flatMap_filledPiece_chars _ v.text
      | none =>
          show filledPiece (.single p value.text) (.hole q) ++ [] = _
          rw [List.append_nil]
          by_cases hqp : q = p
          · subst hqp
            rw [if_pos rfl, hvalue] at hnext
            rw [filledPiece_single_self, filledPiece_of_eq_some hnext]
          · rw [if_neg hqp, hwithin] at hnext
            rw [filledPiece_single_of_ne hqp, filledPiece_of_eq_none hnext]

/-- **One replacement**: done to the template with some values, it adds one value to them. -/
theorem replaceKey_filled (h : Harmless blunt values) (hguarded : guarded blunt ps = true)
    (hkey : p ∈ values.keys) (done : List Placeholder) :
    replaceKey values (ps.flatMap (filledPiece (values.within done))) p =
      ps.flatMap (filledPiece (values.within (p :: done))) := by
  obtain ⟨value, hvalue⟩ := Option.isSome_iff_exists.1 (Values.mem_keys_iff.1 hkey)
  rw [replaceKey, hvalue]
  show Text.replaceAll p.token value.text _ = _
  rw [replaceAll_token, pieces_flatMap_filledPiece (h.within done) hguarded, List.flatMap_assoc]
  exact List.flatMap_congr fun piece _ => flatMap_filledPieces_within hvalue done piece

/-- The replacements for some placeholders give the template with their values. -/
theorem replaceEach_filled (h : Harmless blunt values) (hguarded : guarded blunt ps = true)
    {ks : List Placeholder} (hkeys : ks ⊆ values.keys) (done : List Placeholder) :
    replaceEach values ks (ps.flatMap (filledPiece (values.within done))) =
      ps.flatMap (filledPiece (values.within (ks.reverse ++ done))) := by
  induction ks generalizing done with
  | nil => rfl
  | cons p ks ih =>
      obtain ⟨hp, hks⟩ := List.cons_subset.1 hkeys
      rw [replaceEach, List.foldl_cons, replaceKey_filled h hguarded hp]
      rw [List.reverse_cons, List.append_assoc]
      exact ih hks (p :: done)

/-- The template itself is the template with no values. -/
theorem flatMap_filledPiece_within_nil (values : Values) (s : Text) :
    (pieces s).flatMap (filledPiece (values.within [])) = s := by
  have hwritten : filledPiece (values.within []) = Piece.text := by
    funext piece
    cases piece <;> rfl
  rw [hwritten]
  exact written_pieces s

/-- **Filling is replacing one token after another**, in every order of the placeholders that have a
value, where no token can come about on the way. -/
theorem replaceEach_eq_fill (h : Harmless blunt values)
    (hguarded : guarded blunt (pieces s) = true) {ks : List Placeholder}
    (hperm : ks.Perm values.keys) : replaceEach values ks s = (fill values s).text := by
  have hall : values.keys ⊆ ks.reverse ++ [] := by
    intro p hp
    rw [List.append_nil, List.mem_reverse]
    exact hperm.mem_iff.2 hp
  calc replaceEach values ks s
      = replaceEach values ks ((pieces s).flatMap (filledPiece (values.within []))) := by
        rw [flatMap_filledPiece_within_nil]
    _ = (pieces s).flatMap (filledPiece (values.within (ks.reverse ++ []))) :=
        replaceEach_filled h hguarded hperm.subset []
    _ = (fill values s).text := by rw [Values.within_eq_self hall, text_fill]

/-- A brace that is not guarded makes a difference: behind it the first value becomes a token. -/
example :
    let values : Values
      | .name => some (.ready "modelName".text)
      | .modelName => some (.ready "Post".text)
      | _ => none
    let s := "\x7b\x7bname\x7d\x7d".text
    replaceEach values [.name, .modelName] s = "Post".text ∧
      (fill values s).text = "\x7bmodelName\x7d".text := by
  decide

/-- No token is left where every placeholder of the template has a value. -/
theorem not_occursAt_fill (h : Harmless blunt values)
    (hguarded : guarded blunt (pieces s) = true) (hcovered : missing values s = []) (i : Nat)
    (p : Placeholder) : ¬ OccursAt (fill values s).text i p := by
  intro hoccurs
  have hhole := exists_occursAt_iff.1 ⟨i, hoccurs⟩
  rw [text_fill, pieces_flatMap_filledPiece h hguarded, List.mem_flatMap] at hhole
  obtain ⟨piece, hpiece, hmem⟩ := hhole
  cases piece with
  | char c => cases List.mem_singleton.1 hmem
  | hole q =>
      rw [filledPieces] at hmem
      obtain ⟨value, hvalue⟩ := exists_value_of_missing_eq_nil hcovered hpiece
      simp [hvalue] at hmem

end Template

end Scaffold
