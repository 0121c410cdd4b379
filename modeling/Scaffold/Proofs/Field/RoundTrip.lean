/-
# Scaffold.Proofs.Field.RoundTrip -- field lists written and read again

`Field.Spec.format` puts no quotes around anything, so it has an inverse on part of the field lists
only. `written_form_exact` says which part: among the tidy field lists, those that a front end can
hand over, exactly the ones without a comma or a colon in a name or a reference are read back from
what is written, exactly these are read from any line at all, and exactly for these there is a
command line.

`Field.Tidy` is the shape that reading guarantees (`Denotes.tidy`) and that writing needs
(`denotes_formatField`). Both directions go through the grammar of `Scaffold.Proofs.Field.Grammar`:
a field denoted by its own written form is read back, and a denoted field holds only what its group
held.
-/

import Mathlib.Data.List.TFAE
import Mathlib.Tactic.TFAE
import Scaffold.CommandLine.Request
import Scaffold.Proofs.Field.Grammar

namespace Scaffold.Field

/-- The fields that a front end hands over: name and reference are stripped, the name is not blank
and has characters only, and the reference is not blank where the type has one. -/
structure Tidy (f : Field) : Prop where
  name_not_blank : f.name.isBlank = false
  name_isUnicode : f.name.isUnicode = true
  name_stripped : f.name.IsStripped
  reference_not_blank : f.type.isReference → f.reference.isBlank = false
  reference_stripped : f.reference.IsStripped

theorem Tidy.name_ne_nil {f : Field} (h : f.Tidy) : f.name ≠ [] :=
  Text.ne_nil_of_isBlank_eq_false h.name_not_blank

theorem Tidy.reference_ne_nil {f : Field} (h : f.Tidy) (hr : f.type.isReference) :
    f.reference ≠ [] :=
  Text.ne_nil_of_isBlank_eq_false (h.reference_not_blank hr)

namespace Spec

/-! ## Fields without separators -/

/-- Whether a field can be written: neither its name nor its reference holds a separator. -/
def Plain (f : Field) : Prop := ∀ token ∈ [f.name, f.reference], chr ',' ∉ token ∧ chr ':' ∉ token

theorem plainToken_iff {token : Text} : plainToken token ↔ chr ',' ∉ token ∧ chr ':' ∉ token := by
  simp [plainToken, groupSeparator, tokenSeparator]

theorem expressible_iff {fs : List Field} : expressible fs ↔ ∀ f ∈ fs, Plain f := by
  simp [expressible, Plain, plainToken_iff]

theorem plain_word (w : TypeWord) : chr ',' ∉ w.text ∧ chr ':' ∉ w.text := by
  cases w <;> decide

/-- No token of a field that can be written holds a separator. -/
theorem plain_tokens {f : Field} (h : Plain f) :
    ∀ token ∈ tokens f, chr ',' ∉ token ∧ chr ':' ∉ token := by
  have hname := h f.name (by simp)
  have hreference := h f.reference (by simp)
  intro token ht
  unfold tokens at ht
  rcases List.mem_append.1 ht with ht | ht
  · rcases List.mem_append.1 ht with ht | ht
    · rcases List.mem_pair.1 ht with rfl | rfl
      · exact hname
      · exact plain_word f.type.word
    · split at ht
      next => exact List.mem_singleton.1 ht ▸ hreference
      next => exact absurd ht (by simp)
  · split at ht
    next => exact List.mem_singleton.1 ht ▸ plain_word .array
    next => exact absurd ht (by simp)

/-- Cutting a written field gives its tokens back. -/
theorem split_formatField {f : Field} (h : Plain f) :
    (formatField f).split tokenSeparator = tokens f :=
  Text.split_join (by simp [tokens]) fun token ht => (plain_tokens h token ht).2

theorem groupSeparator_not_mem_formatField {f : Field} (h : Plain f) :
    groupSeparator ∉ formatField f :=
  Text.not_mem_join (by decide) fun token ht => (plain_tokens h token ht).1

theorem tokenSeparator_mem_formatField (f : Field) : tokenSeparator ∈ formatField f := by
  simp [formatField, tokens, Text.join]

/-! ## Reading back what was written -/

theorem isStripped_word (w : TypeWord) : w.text.IsStripped := by
  cases w <;> decide

/-- The first two tokens of a written field are its name and its type word. -/
theorem groupToken_formatField_head {f : Field} (hp : Plain f) (ht : f.Tidy) :
    groupToken (formatField f) 0 = f.name ∧ groupToken (formatField f) 1 = f.type.word.text := by
  simp only [groupToken, split_formatField hp]
  exact ⟨ht.name_stripped, isStripped_word f.type.word⟩

theorem readable_formatField {f : Field} (hp : Plain f) (ht : f.Tidy) :
    Readable (formatField f) := by
  obtain ⟨hname, hword⟩ := groupToken_formatField_head hp ht
  refine ⟨⟨hname ▸ ht.name_ne_nil, ?_⟩, hname ▸ ht.name_isUnicode⟩
  rw [hword]
  cases f.type.word <;> decide

/-- A written field denotes the field: mark and reference stand where its type wants them. -/
theorem denotes_formatField {f : Field} (hp : Plain f) (ht : f.Tidy) :
    Denotes (formatField f) f := by
  obtain ⟨hname, hword⟩ := groupToken_formatField_head hp ht
  have hmark : "array".text = arrayMark := rfl
  have hblank : [] ≠ arrayMark := (TypeWord.text_ne_nil .array).symm
  have harray : f.type.word.text ≠ arrayMark := fun h =>
    f.type.word_ne_array (TypeWord.text_injective h)
  -- The third token is the reference or the mark, whichever the type has room for there.
  have hthird : groupToken (formatField f) 2 =
      if f.type.isReference then f.reference else if f.isArray then arrayMark else [] := by
    rw [groupToken, split_formatField hp]
    cases hr : f.type.isReference <;> cases ha : f.isArray <;> simp only [tokens, hr, ha]
    · rfl
    · exact isStripped_word .array
    · exact ht.reference_stripped
    · exact ht.reference_stripped
  have hfourth : f.type.isReference →
      groupToken (formatField f) 3 = if f.isArray then arrayMark else [] := by
    intro hr
    rw [groupToken, split_formatField hp]
    cases ha : f.isArray <;> simp only [tokens, hr, ha]
    · rfl
    · exact isStripped_word .array
  refine ⟨hname.symm, ?_, ?_, ?_⟩
  · rw [hword, hmark, if_neg (by simp [f.type.word.text_ne_nil, harray])]
  · rw [hword, hthird, hmark]
    cases hr : f.type.isReference with
    | false => cases f.isArray <;> simp [harray, hblank]
    | true =>
        rw [hfourth hr]
        cases f.isArray <;> simp [harray, hblank]
  · rw [hthird]
    cases hr : f.type.isReference with
    | false => exact FieldType.reference_eq_nil hr
    | true => simp [ht.reference_ne_nil hr]

theorem isBlank_format_eq_false {fs : List Field} (h : fs ≠ []) : (format fs).isBlank = false := by
  obtain ⟨f, rest, rfl⟩ := List.exists_cons_of_ne_nil h
  have hmem : tokenSeparator ∈ format (f :: rest) :=
    Text.mem_join_of_mem (List.mem_map_of_mem List.mem_cons_self) (tokenSeparator_mem_formatField f)
  rw [Bool.eq_false_iff, Text.isBlank, ne_eq, List.all_eq_true]
  exact fun hall => absurd (hall _ hmem) (by decide)

/-- **Read after write.** A tidy field list without separators is read back from its line. -/
theorem parse_format {fs : List Field} (hne : fs ≠ []) (htidy : ∀ f ∈ fs, f.Tidy)
    (hplain : ∀ f ∈ fs, Plain f) : parse (some (format fs)) = .ok fs := by
  have hsplit : (format fs).split groupSeparator = fs.map formatField := by
    refine Text.split_join (by simpa using hne) fun group hgroup => ?_
    obtain ⟨f, hf, rfl⟩ := List.mem_map.1 hgroup
    exact groupSeparator_not_mem_formatField (hplain f hf)
  rw [parse_some_of_not_blank (isBlank_format_eq_false hne), hsplit, parseGroups_eq_ok_iff]
  constructor
  · intro group hgroup
    obtain ⟨f, hf, rfl⟩ := List.mem_map.1 hgroup
    exact readable_formatField (hplain f hf) (htidy f hf)
  · rw [List.forall₂_map_left_iff, List.forall₂_same]
    exact fun f hf => denotes_formatField (hplain f hf) (htidy f hf)

/-! ## What reading leaves behind -/

/-- A token holds what its group holds, and no colon. -/
theorem mem_of_mem_groupToken {c : CodePoint} {group : Text} {i : Nat}
    (h : c ∈ groupToken group i) : c ∈ group ∧ c ≠ ':' := by
  have hc : c ∈ (group.split tokenSeparator).getD i [] := Text.mem_of_mem_strip h
  rw [List.getD_eq_getElem?_getD] at hc
  cases hi : (group.split tokenSeparator)[i]? with
  | none => simp [hi] at hc
  | some piece =>
      rw [hi, Option.getD_some] at hc
      have hpiece : piece ∈ group.split tokenSeparator := List.mem_of_getElem? hi
      refine ⟨Text.mem_of_mem_split hpiece hc, ?_⟩
      rintro rfl
      exact Text.not_mem_of_mem_split hpiece hc

/-- A reference that a group denotes is a token of the group, unless it is the placeholder. -/
theorem Denotes.reference_cases {group : Text} {f : Field} (h : Denotes group f)
    (hr : f.type.isReference) :
    f.reference = referencePlaceholder ∨
      f.reference = groupToken group 2 ∧ groupToken group 2 ≠ [] := by
  have href := h.reference
  rw [if_pos hr] at href
  split at href
  next => exact Or.inl href
  next hne => exact Or.inr ⟨href, hne⟩

theorem isBlank_groupToken_eq_false {group : Text} {i : Nat} (h : groupToken group i ≠ []) :
    (groupToken group i).isBlank = false := by
  rw [Bool.eq_false_iff, ne_eq, ← Text.strip_eq_nil_iff, isStripped_groupToken group i]
  exact h

/-- The field of a group is tidy: its texts are stripped tokens, or the placeholder. -/
theorem Denotes.tidy {group : Text} {f : Field} (hread : Readable group) (h : Denotes group f) :
    f.Tidy := by
  refine ⟨?_, ?_, ?_, fun hr => ?_, ?_⟩
  · rw [h.name]
    exact isBlank_groupToken_eq_false hread.name
  · rw [h.name]
    exact hread.name_isUnicode
  · rw [h.name]
    exact isStripped_groupToken group 0
  · rcases h.reference_cases hr with href | ⟨href, hne⟩
    · rw [href]; decide
    · rw [href]; exact isBlank_groupToken_eq_false hne
  · cases hr : f.type.isReference with
    | false => rw [Field.reference, FieldType.reference_eq_nil hr]; rfl
    | true =>
        rcases h.reference_cases hr with href | ⟨href, -⟩
        · rw [href]; decide
        · rw [href]; exact isStripped_groupToken group 2

/-- The field of a group without commas can be written: tokens hold no colon either. -/
theorem Denotes.plain {group : Text} {f : Field} (hgroup : chr ',' ∉ group) (h : Denotes group f) :
    Plain f := by
  have htoken (i : Nat) : chr ',' ∉ groupToken group i ∧ chr ':' ∉ groupToken group i :=
    ⟨fun hc => hgroup (mem_of_mem_groupToken hc).1, fun hc => (mem_of_mem_groupToken hc).2 rfl⟩
  intro token ht
  rcases List.mem_pair.1 ht with rfl | rfl
  · rw [h.name]
    exact htoken 0
  · cases hr : f.type.isReference with
    | false => rw [Field.reference, FieldType.reference_eq_nil hr]; simp
    | true =>
        rcases h.reference_cases hr with href | ⟨href, -⟩
        · rw [href]; decide
        · rw [href]; exact htoken 2

/-- **What reading guarantees.** A field list that was read is not empty, and its fields are tidy
and free of separators. -/
theorem tidy_of_parse {raw : Text} {fs : List Field} (h : parse (some raw) = .ok fs) :
    fs ≠ [] ∧ (∀ f ∈ fs, f.Tidy) ∧ ∀ f ∈ fs, Plain f := by
  have hblank : raw.isBlank = false := by
    rw [Bool.eq_false_iff]
    intro hb
    simp [parse, hb] at h
  rw [parse_some_of_not_blank hblank, parseGroups_eq_ok_iff] at h
  obtain ⟨hread, hdenotes⟩ := h
  refine ⟨?_, fun f hf => ?_, fun f hf => ?_⟩
  · rintro rfl
    exact Text.split_ne_nil _ _ (List.forall₂_nil_right_iff.1 hdenotes)
  · obtain ⟨group, hg, hd⟩ := exists_mem_of_forall₂ hdenotes hf
    exact hd.tidy (hread group hg)
  · obtain ⟨group, hg, hd⟩ := exists_mem_of_forall₂ hdenotes hf
    exact hd.plain (Text.not_mem_of_mem_split hg)

/-! ## Which field lists have a written form -/

theorem equivalentCommand?_isSome {r : Request} :
    (CommandLine.equivalentCommand? r).isSome ↔ ∀ f ∈ r.fields, Plain f := by
  rw [← expressible_iff, CommandLine.equivalentCommand?]
  split <;> simp_all

/-- **Writing and reading are inverse on exactly the field lists that can be written.** For a tidy
field list that is not empty it is all the same whether no name and no reference holds a separator,
whether its written form reads back as itself, whether any line at all reads as it, and whether
the requests with these fields have a command line. And whatever line is read, its fields are such
a list: they are tidy, hold no separators, and read back from their own written form. -/
theorem written_form_exact (fs : List Field) :
    (fs ≠ [] → (∀ f ∈ fs, f.Tidy) → ∀ r : Request, r.fields = fs →
      List.TFAE
        [∀ f ∈ fs, ∀ token ∈ [f.name, f.reference], chr ',' ∉ token ∧ chr ':' ∉ token,
          parse (some (format fs)) = .ok fs,
          ∃ raw : Text, parse (some raw) = .ok fs,
          CommandLine.equivalentCommand? r ≠ none]) ∧
    ∀ raw : Text, parse (some raw) = .ok fs →
      fs ≠ [] ∧ (∀ f ∈ fs, f.Tidy) ∧
      (∀ f ∈ fs, ∀ token ∈ [f.name, f.reference], chr ',' ∉ token ∧ chr ':' ∉ token) ∧
      parse (some (format fs)) = .ok fs := by
  constructor
  · rintro hne htidy r rfl
    tfae_have 1 → 2 := parse_format hne htidy
    tfae_have 2 → 3 := fun h => ⟨format r.fields, h⟩
    tfae_have 3 → 1 := fun ⟨_, h⟩ => (tidy_of_parse h).2.2
    tfae_have 4 ↔ 1 := by
      rw [← Option.isSome_iff_ne_none]
      exact equivalentCommand?_isSome
    tfae_finish
  · intro raw h
    obtain ⟨hne, htidy, hplain⟩ := tidy_of_parse h
    exact ⟨hne, htidy, hplain, parse_format hne htidy hplain⟩

/-- A model named `array` is no mark of a collection. -/
theorem written_form_of_reference_to_array :
    let fs : List Field :=
      [⟨"tags".text, .string, true⟩, ⟨"owner".text, .objectId "array".text, false⟩]
    (fs ≠ [] ∧ ∀ f ∈ fs, f.Tidy) ∧ format fs = "tags:string:array,owner:objectId:array".text ∧
      parse (some (format fs)) = .ok fs := by
  intro fs
  have hne : fs ≠ [] := by simp [fs]
  have htidy : ∀ f ∈ fs, f.Tidy := by
    simp only [fs, List.forall_mem_cons, List.not_mem_nil, false_implies, implies_true, and_true]
    exact ⟨⟨by decide, by decide, by decide, by decide, by decide⟩,
      ⟨by decide, by decide, by decide, by decide, by decide⟩⟩
  have hplain : ∀ f ∈ fs, ∀ token ∈ [f.name, f.reference], chr ',' ∉ token ∧ chr ':' ∉ token := by
    decide
  exact ⟨⟨hne, htidy⟩, by decide,
    (((written_form_exact fs).1 hne htidy ⟨"Post".text, fs, .byType, .plain, false⟩ rfl).out
      0 1).1 hplain⟩

end Spec

end Scaffold.Field
