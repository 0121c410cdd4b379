/-
# Scaffold.Proofs.Field.Grammar -- the language of field lists

What `Field.Spec.parse` accepts, what it makes of it, and what it says of everything else.

The grammar is stated apart from the reader: `WellFormed` says which groups are fields,
`Denotes` says which field a group is, and `fault` says what is wrong with a group that is none.
All three look at the stripped tokens of one group and at nothing else. `parseGroup_eq_ok_iff` and
`parseGroup_eq_rejected_iff` tie the reader of one group to them, `mapM_eq_ok_iff` and
`exists_first_of_mapM_eq_error` carry that over a list of groups of any length, and `parse_exact`
is the whole reader: acceptance, the fields in their order, and the error of the leftmost group at
fault.

The reader accepts a little less than the grammar. The name of a field has to consist of characters
(`Readable`), and a well-formed group whose name does not is no rejection but a fault of the field
that was to be made of it (`well_formed_name_is_faulty`).

Two refusals that the reader's parts know never come out of it. A type word is there whenever it
is checked, since a blank one was replaced before, and a name is never empty where a field is made
of it.
-/

import Mathlib.Data.List.Forall2
import Scaffold.Field.Spec
import Scaffold.Request.Reader

namespace Scaffold.Field.Spec

/-! ## One group, by its tokens -/

/-- The stripped token of a group at a position, empty where the group has none. -/
def groupToken (group : Text) (i : Nat) : Text := token (group.split tokenSeparator) i

/-- Whether a group is a field: its name is there, and its type is blank or one of the six words. -/
structure WellFormed (group : Text) : Prop where
  name : groupToken group 0 ≠ []
  type : groupToken group 1 ∈
    ["", "string", "number", "date", "boolean", "array", "objectId"].map String.text

/-- Which field a group is. A blank type and `array` both mean `string`; the mark of a collection
stands behind the type, or behind the reference where there is one. -/
structure Denotes (group : Text) (f : Field) : Prop where
  name : f.name = groupToken group 0
  type : f.type.word.text =
    if groupToken group 1 = [] ∨ groupToken group 1 = "array".text then "string".text
    else groupToken group 1
  isArray : f.isArray ↔
    groupToken group 1 = "array".text ∨
    f.type.isReference = false ∧ groupToken group 2 = "array".text ∨
    f.type.isReference ∧ groupToken group 3 = "array".text
  reference : f.reference =
    if f.type.isReference then
      if groupToken group 2 = [] then referencePlaceholder else groupToken group 2
    else []

/-- Whether a field can be made of a group: it is well formed, and its name has characters only. -/
structure Readable (group : Text) : Prop extends WellFormed group where
  name_isUnicode : (groupToken group 0).isUnicode = true

/-- The type word that a group writes, `string` where it writes none. -/
def writtenWord (group : Text) : Text :=
  if groupToken group 1 = [] then TypeWord.string.text else groupToken group 1

/-- What is wrong with a group that is no field: its name is missing, or else its type is none. -/
def fault (group : Text) : Rejection :=
  if groupToken group 0 = [] then .fieldNameRequired else .fieldTypeInvalid (groupToken group 1)

/-- Whether a group writes the mark of a collection where a type word leaves room for it. -/
def writtenMark (group : Text) (w : TypeWord) : Bool :=
  groupToken group (if w = .objectId then 3 else 2) = arrayMark

/-- The reference that a group writes where a type word leaves room for one. -/
def writtenReference (group : Text) (w : TypeWord) : Text :=
  if w = .objectId then groupToken group 2 else []

/-- The field that a group writes with the given type word. -/
def writtenField (group : Text) (w : TypeWord) : Field :=
  .ofWord (groupToken group 0) w (writtenMark group w) (writtenReference group w)

/-- The same as members of a structured value. -/
def writtenMembers (group : Text) (w : TypeWord) : Json :=
  .object
    (Field.members (groupToken group 0) w (writtenMark group w) (writtenReference group w))

/-- Whether the structured reader makes the given field of the members that a group writes. -/
def Accepts (group : Text) (f : Field) : Prop :=
  ∃ w : TypeWord, writtenWord group = w.text ∧ Field.ofJson (writtenMembers group w) = .ok f

theorem isStripped_groupToken (group : Text) (i : Nat) : (groupToken group i).IsStripped :=
  Text.isStripped_strip _

theorem isStripped_writtenWord (group : Text) : (writtenWord group).IsStripped := by
  unfold writtenWord
  split
  · decide
  · exact isStripped_groupToken group 1

theorem writtenWord_ne_nil (group : Text) : writtenWord group ≠ [] := by
  unfold writtenWord
  split
  · decide
  · assumption

/-- The written word is one of the type words exactly when the token is blank or one of them. -/
theorem ofText?_writtenWord_isSome (group : Text) :
    (TypeWord.ofText? (writtenWord group)).isSome ↔ groupToken group 1 ∈
      ["", "string", "number", "date", "boolean", "array", "objectId"].map String.text := by
  constructor
  · intro h
    obtain ⟨w, hw⟩ := Option.isSome_iff_exists.1 h
    have hword := TypeWord.ofText?_eq_some_iff.1 hw
    unfold writtenWord at hword
    split at hword
    next hnil => rw [hnil]; decide
    next => rw [hword]; cases w <;> decide
  · intro h
    unfold writtenWord
    simp only [List.map_cons, List.map_nil, List.mem_cons, List.not_mem_nil, or_false] at h
    rcases h with h | h | h | h | h | h | h <;> rw [h] <;> decide

/-- A blank type token is read as `string`, any other as the word that it spells. -/
theorem groupToken_of_writtenWord {group : Text} {w : TypeWord} (h : writtenWord group = w.text) :
    groupToken group 1 = [] ∧ w = .string ∨ groupToken group 1 = w.text := by
  unfold writtenWord at h
  split at h
  next hnil => exact Or.inl ⟨hnil, (TypeWord.text_injective h).symm⟩
  next => exact Or.inr h

/-- The field that is written with a group's own word is the field that the group denotes. -/
theorem denotes_writtenField {group : Text} {w : TypeWord} (h : writtenWord group = w.text) :
    Denotes group (writtenField group w) := by
  have htoken := groupToken_of_writtenWord h
  have harray : groupToken group 1 = "array".text ↔ w = .array := by
    rcases htoken with ⟨hnil, rfl⟩ | hword
    · rw [hnil]; decide
    · rw [hword]
      exact ⟨fun he => TypeWord.text_injective (v := .array) he, fun he => he ▸ rfl⟩
  have hblank : (groupToken group 2).isBlank ↔ groupToken group 2 = [] := by
    rw [← Text.strip_eq_nil_iff, isStripped_groupToken group 2]
  refine ⟨name_ofWord _ _ _ _, ?_, ?_, ?_⟩
  · rw [writtenField, word_ofWord]
    simp only [harray]
    rcases htoken with ⟨hnil, rfl⟩ | hword
    · rw [if_pos (Or.inl hnil)]; rfl
    · by_cases hw : w = .array
      · rw [if_pos hw, if_pos (Or.inr hw)]; rfl
      · have hne : groupToken group 1 ≠ [] := hword ▸ w.text_ne_nil
        rw [if_neg hw, if_neg (by simp [hne, hw]), hword]
  · have hmark : arrayMark = "array".text := rfl
    rw [writtenField, isArray_ofWord, isReference_ofWord, harray, writtenMark, hmark]
    by_cases hw : w = .objectId
    · simp [hw]
    · simp [hw]
  · rw [writtenField, reference_ofWord, isReference_ofWord]
    by_cases hw : w = .objectId
    · simp only [hw, writtenReference, keptReference, hblank, if_true, decide_true]
    · simp only [hw, if_false, decide_false, Bool.false_eq_true]

/-- A group denotes one field at most, so nothing but the group decides about its field. -/
theorem Denotes.unique {group : Text} {f g : Field} (hf : Denotes group f) (hg : Denotes group g) :
    f = g := by
  have hword : f.type.word = g.type.word :=
    TypeWord.text_injective (hf.type.trans hg.type.symm)
  have hkind : f.type.isReference = g.type.isReference := by
    rw [FieldType.isReference_eq, FieldType.isReference_eq, hword]
  have href : f.reference = g.reference := by
    rw [hf.reference, hg.reference, hkind]
  have hmark : f.isArray = g.isArray := by
    rw [Bool.eq_iff_iff, hf.isArray, hg.isArray, hkind]
  have hname : f.name = g.name := hf.name.trans hg.name.symm
  -- The word leaves only the reference of a type open.
  have htype : f.type = g.type := FieldType.eq_of_word_eq hword href
  cases f
  cases g
  simp_all only

/-! ## The reader of one group -/

/-- The checks of a group's tokens, without the blank type word that they never see. -/
theorem checkField_written (group : Text) :
    checkField (some (groupToken group 0)) (some (writtenWord group)) =
      if groupToken group 0 = [] then .error .fieldNameRequired
      else
        match TypeWord.ofText? (writtenWord group) with
        | some w => .ok w
        | none => .error (.fieldTypeInvalid (writtenWord group)) := by
  have hname : (groupToken group 0).strip = groupToken group 0 := isStripped_groupToken group 0
  have hword : (writtenWord group).strip = writtenWord group := isStripped_writtenWord group
  simp only [checkField, Option.getD_some, hname, hword]
  exact ite_congr rfl (fun _ => rfl) fun _ => if_neg (writtenWord_ne_nil group)

/-- Reading a group is checking its tokens and then making its field. -/
theorem parseGroup_eq (group : Text) :
    parseGroup group =
      match checkField (some (groupToken group 0)) (some (writtenWord group)) with
      | .error why => .error (.rejected why)
      | .ok w => (Field.make (groupToken group 0) w (writtenMark group w)
          (writtenReference group w)).mapError .faulty := by
  show ((checkField (some (groupToken group 0)) (some (writtenWord group))).mapError
    InputFailure.rejected).bind _ = _
  cases checkField (some (groupToken group 0)) (some (writtenWord group)) with
  | error why => rfl
  | ok w => cases w <;> rfl

/-- A well-formed group writes a type word, and reading it makes the field with that, if its name
can be one. -/
theorem parseGroup_of_wellFormed {group : Text} (h : WellFormed group) :
    ∃ w, writtenWord group = w.text ∧
      parseGroup group = (Field.make (groupToken group 0) w (writtenMark group w)
        (writtenReference group w)).mapError .faulty := by
  obtain ⟨w, hw⟩ := Option.isSome_iff_exists.1 ((ofText?_writtenWord_isSome group).2 h.type)
  refine ⟨w, TypeWord.ofText?_eq_some_iff.1 hw, ?_⟩
  rw [parseGroup_eq, checkField_written, if_neg h.name, hw]

theorem parseGroup_of_readable {group : Text} (h : Readable group) :
    ∃ w, writtenWord group = w.text ∧ parseGroup group = .ok (writtenField group w) := by
  obtain ⟨w, hword, hread⟩ := parseGroup_of_wellFormed h.toWellFormed
  refine ⟨w, hword, ?_⟩
  rw [hread, Field.make_of_isUnicode h.name_isUnicode h.name]
  rfl

/-- A well-formed group with a name that cannot be one. -/
theorem parseGroup_of_not_isUnicode {group : Text} (h : WellFormed group)
    (hname : (groupToken group 0).isUnicode = false) :
    parseGroup group = .error (.faulty [.ofName "name"]) := by
  obtain ⟨w, -, hread⟩ := parseGroup_of_wellFormed h
  rw [hread, Field.make_of_not_isUnicode hname]
  rfl

theorem parseGroup_of_not_wellFormed {group : Text} (h : ¬ WellFormed group) :
    parseGroup group = .error (.rejected (fault group)) := by
  rw [parseGroup_eq, checkField_written, fault]
  by_cases hname : groupToken group 0 = []
  · rw [if_pos hname, if_pos hname]
  · have hword : TypeWord.ofText? (writtenWord group) = none := by
      rw [← Option.not_isSome_iff_eq_none, ofText?_writtenWord_isSome]
      exact fun htype => h ⟨hname, htype⟩
    -- A word that is none cannot be the `string` that a blank type stands for.
    have htoken : writtenWord group = groupToken group 1 := by
      unfold writtenWord at hword ⊢
      split at hword
      next => exact absurd hword (by decide)
      next hne => exact if_neg hne
    rw [if_neg hname, if_neg hname, hword, htoken]

/-- The three things that can come of a group. -/
theorem parseGroup_cases (group : Text) :
    (∃ w, Readable group ∧ writtenWord group = w.text ∧
      parseGroup group = .ok (writtenField group w)) ∨
    (WellFormed group ∧ (groupToken group 0).isUnicode = false ∧
      parseGroup group = .error (.faulty [.ofName "name"])) ∨
    (¬ WellFormed group ∧ parseGroup group = .error (.rejected (fault group))) := by
  by_cases hwell : WellFormed group
  · cases hname : (groupToken group 0).isUnicode with
    | true =>
        obtain ⟨w, hword, hread⟩ := parseGroup_of_readable ⟨hwell, hname⟩
        exact .inl ⟨w, ⟨hwell, hname⟩, hword, hread⟩
    | false => exact .inr (.inl ⟨hwell, rfl, parseGroup_of_not_isUnicode hwell hname⟩)
  · exact .inr (.inr ⟨hwell, parseGroup_of_not_wellFormed hwell⟩)

/-- **One group, accepted.** The reader makes a field of exactly the readable groups, and it is the
field that the group denotes. -/
theorem parseGroup_eq_ok_iff {group : Text} {f : Field} :
    parseGroup group = .ok f ↔ Readable group ∧ Denotes group f := by
  rcases parseGroup_cases group with ⟨w, hread, hword, h⟩ | ⟨-, hname, h⟩ | ⟨hwell, h⟩
  · have hdenotes : Denotes group (writtenField group w) := denotes_writtenField hword
    rw [h, Except.ok.injEq]
    exact ⟨fun heq => ⟨hread, heq ▸ hdenotes⟩, fun hf => hdenotes.unique hf.2⟩
  · rw [h]
    refine iff_of_false (by simp) fun hf => ?_
    rw [hf.1.name_isUnicode] at hname
    cases hname
  · rw [h]
    exact iff_of_false (by simp) fun hf => hwell hf.1.toWellFormed

/-- **One group, rejected.** The reader rejects exactly the groups that are not well formed, for the
fault they have. -/
theorem parseGroup_eq_rejected_iff {group : Text} {why : Rejection} :
    parseGroup group = .error (.rejected why) ↔ ¬ WellFormed group ∧ why = fault group := by
  rcases parseGroup_cases group with ⟨w, hread, -, h⟩ | ⟨hwell, -, h⟩ | ⟨hwell, h⟩
  · simp [h, hread.toWellFormed]
  · simp [h, hwell]
  · rw [h]
    simp [hwell, eq_comm]

/-- **One group at fault.** No field is made of the other groups, because of their names. -/
theorem parseGroup_eq_faulty_iff {group : Text} {faults : List Fault} :
    parseGroup group = .error (.faulty faults) ↔
      WellFormed group ∧ (groupToken group 0).isUnicode = false ∧ faults = [.ofName "name"] := by
  rcases parseGroup_cases group with ⟨w, hread, -, h⟩ | ⟨hwell, hname, h⟩ | ⟨hwell, h⟩
  · simp [h, hread.name_isUnicode]
  · rw [h]
    simp [hwell, hname, eq_comm]
  · simp [h, hwell]

/-- The structured reader makes the same field of the members that an accepted group writes. -/
theorem accepts_of_parseGroup {group : Text} {f : Field} (h : parseGroup group = .ok f) :
    Accepts group f := by
  have hreadable : Readable group := (parseGroup_eq_ok_iff.1 h).1
  obtain ⟨w, hword, hok⟩ := parseGroup_of_readable hreadable
  rw [hok] at h
  cases h
  refine ⟨w, hword, ?_⟩
  rw [writtenMembers, Field.ofJson_members,
    Field.make_of_isUnicode hreadable.name_isUnicode hreadable.name]
  rfl

/-! ## Groups one after another -/

section Traversal

variable {α β ε : Type}

/-- A traversal succeeds with the results of its steps, item by item. -/
theorem mapM_eq_ok_iff {f : α → Except ε β} {xs : List α} {ys : List β} :
    xs.mapM f = .ok ys ↔ List.Forall₂ (fun x y => f x = .ok y) xs ys := by
  induction xs generalizing ys with
  | nil =>
      cases ys <;> simp [pure, Except.pure]
  | cons x xs ih =>
      rw [List.mapM_cons]
      cases hx : f x with
      | error e => cases ys <;> simp [bind, Except.bind, hx]
      | ok y =>
          cases hxs : xs.mapM f with
          | error e => cases ys <;> simp [bind, Except.bind, hx, ← ih, hxs]
          | ok zs => cases ys <;> simp [bind, Except.bind, pure, Except.pure, hx, ← ih, hxs]

theorem exists_mem_of_forall₂ {R : α → β → Prop} {xs : List α} {ys : List β}
    (h : List.Forall₂ R xs ys) {y : β} (hy : y ∈ ys) : ∃ x ∈ xs, R x y := by
  induction h with
  | nil => simp at hy
  | @cons x z xs zs hxz hrest ih =>
      rcases List.mem_cons.1 hy with rfl | hy
      · exact ⟨x, List.mem_cons_self, hxz⟩
      · obtain ⟨w, hw, hwy⟩ := ih hy
        exact ⟨w, List.mem_cons_of_mem x hw, hwy⟩

/-- A traversal that fails has a first step that fails, and its error. -/
theorem exists_first_of_mapM_eq_error {f : α → Except ε β} {xs : List α} {e : ε}
    (h : xs.mapM f = .error e) :
    ∃ before x after, xs = before ++ x :: after ∧ (∀ b ∈ before, ∃ y, f b = .ok y) ∧
      f x = .error e := by
  induction xs with
  | nil => cases h
  | cons x xs ih =>
      rw [List.mapM_cons] at h
      cases hx : f x with
      | error d =>
          rw [hx] at h
          have hd : (Except.error d : Except ε (List β)) = .error e := h
          exact ⟨[], x, xs, rfl, by simp, hx.trans (congrArg _ (Except.error.inj hd))⟩
      -- A first step that succeeds leaves the error to the rest, and joins the steps before it.
      | ok y =>
          rw [hx] at h
          have hxs : xs.mapM f = .error e := by
            cases hxs : xs.mapM f with
            | error d => simpa [hxs, bind, Except.bind] using h
            | ok ys => simp [hxs, bind, Except.bind, pure, Except.pure] at h
          obtain ⟨before, z, after, rfl, hbefore, hz⟩ := ih hxs
          exact ⟨x :: before, z, after, rfl, List.forall_mem_cons.2 ⟨⟨y, hx⟩, hbefore⟩, hz⟩

/-- The first step that fails decides about the traversal. -/
theorem mapM_eq_error_of_first {f : α → Except ε β} {before after : List α} {x : α} {e : ε}
    (hbefore : ∀ b ∈ before, ∃ y, f b = .ok y) (hx : f x = .error e) :
    (before ++ x :: after).mapM f = .error e := by
  induction before with
  | nil =>
      rw [List.nil_append, List.mapM_cons, hx]
      rfl
  | cons b before ih =>
      obtain ⟨y, hy⟩ := hbefore b List.mem_cons_self
      have hrest := ih fun c hc => hbefore c (List.mem_cons_of_mem b hc)
      rw [List.cons_append, List.mapM_cons, hy, hrest]
      rfl

end Traversal

/-! ## The whole reader -/

theorem parse_some_of_not_blank {s : Text} (h : s.isBlank = false) :
    parse (some s) = parseGroups (s.split groupSeparator) := by
  simp [parse, h]

theorem parseGroups_eq_ok_iff {groups : List Text} {fs : List Field} :
    parseGroups groups = .ok fs ↔
      (∀ group ∈ groups, Readable group) ∧ List.Forall₂ Denotes groups fs := by
  rw [parseGroups, mapM_eq_ok_iff, ← List.forall₂_and_left]
  simp only [parseGroup_eq_ok_iff]

/-- The error of a list of groups is that of its leftmost group that cannot be read. -/
theorem parseGroups_eq_error {groups : List Text} {why : InputFailure}
    (h : parseGroups groups = .error why) :
    ∃ before bad after, groups = before ++ bad :: after ∧
      (∀ group ∈ before, Readable group) ∧ parseGroup bad = .error why := by
  obtain ⟨before, bad, after, hsplit, hbefore, hbad⟩ := exists_first_of_mapM_eq_error h
  refine ⟨before, bad, after, hsplit, fun group hgroup => ?_, hbad⟩
  obtain ⟨f, hf⟩ := hbefore group hgroup
  exact (parseGroup_eq_ok_iff.1 hf).1

theorem exists_parseGroups_eq_ok_iff {groups : List Text} :
    (∃ fs, parseGroups groups = .ok fs) ↔ ∀ group ∈ groups, Readable group := by
  constructor
  · rintro ⟨fs, hfs⟩
    exact (parseGroups_eq_ok_iff.1 hfs).1
  · intro h
    cases hp : parseGroups groups with
    | ok fs => exact ⟨fs, rfl⟩
    | error why =>
        obtain ⟨before, bad, after, rfl, -, hbad⟩ := parseGroups_eq_error hp
        obtain ⟨w, -, hok⟩ := parseGroup_of_readable (h bad (by simp))
        rw [hok] at hbad
        cases hbad

theorem fault_ne_fieldsRequired (group : Text) : fault group ≠ .fieldsRequired := by
  unfold fault
  split <;> simp

/-- Nothing but the lack of a field list is reported as such. -/
theorem parse_eq_fieldsRequired_iff {raw : Option Text} :
    parse raw = .error (.rejected .fieldsRequired) ↔ ∀ s, raw = some s → s.isBlank := by
  cases raw with
  | none => simp [parse]
  | some s =>
      cases hs : s.isBlank with
      | true => simp [parse, hs]
      | false =>
          rw [parse_some_of_not_blank hs]
          refine ⟨fun h => ?_, fun h => by simp [hs] at h⟩
          obtain ⟨-, bad, -, -, -, hbad⟩ := parseGroups_eq_error h
          exact absurd (parseGroup_eq_rejected_iff.1 hbad).2.symm (fault_ne_fieldsRequired bad)

/-- **The whole reader.** A field list that is absent or blank is refused as such, and nothing else
is. Any other is accepted exactly when all its groups are well formed and their names have
characters only. Accepted, it has one field for each group, in their order, each the one that its
group denotes and that the structured reader makes of the group's members. Rejected, it is rejected
for the fault of its leftmost group that is not well formed; and where the groups before it are fine
and a group is well formed but for a name that cannot be one, no field is made of that. -/
theorem parse_exact (raw : Option Text) :
    (parse raw = .error (.rejected .fieldsRequired) ↔ ∀ s, raw = some s → s.isBlank) ∧
      ∀ s, raw = some s → s.isBlank = false →
        ((∃ fs, parse raw = .ok fs) ↔ ∀ group ∈ s.split ',', Readable group) ∧
        (∀ fs, parse raw = .ok fs →
          fs.length = s.count (chr ',') + 1 ∧ List.Forall₂ Denotes (s.split ',') fs ∧
            List.Forall₂ Accepts (s.split ',') fs) ∧
        (∀ why, parse raw = .error (.rejected why) →
          ∃ before bad after, s.split ',' = before ++ bad :: after ∧
            (∀ group ∈ before, Readable group) ∧ ¬ WellFormed bad ∧ why = fault bad) ∧
        ∀ faults, parse raw = .error (.faulty faults) →
          ∃ before bad after, s.split ',' = before ++ bad :: after ∧
            (∀ group ∈ before, Readable group) ∧ WellFormed bad ∧
            (groupToken bad 0).isUnicode = false ∧ faults = [.ofName "name"] := by
  refine ⟨parse_eq_fieldsRequired_iff, ?_⟩
  rintro s rfl hs
  rw [parse_some_of_not_blank hs]
  refine ⟨exists_parseGroups_eq_ok_iff, fun fs hfs => ?_, fun why hwhy => ?_, fun faults hwhy => ?_⟩
  · have hdenotes : List.Forall₂ Denotes (s.split ',') fs := (parseGroups_eq_ok_iff.1 hfs).2
    refine ⟨?_, hdenotes, (mapM_eq_ok_iff.1 hfs).imp fun _ _ => accepts_of_parseGroup⟩
    rw [← hdenotes.length_eq]
    exact Text.length_split ',' s
  · obtain ⟨before, bad, after, hsplit, hbefore, hbad⟩ := parseGroups_eq_error hwhy
    exact ⟨before, bad, after, hsplit, hbefore, parseGroup_eq_rejected_iff.1 hbad⟩
  · obtain ⟨before, bad, after, hsplit, hbefore, hbad⟩ := parseGroups_eq_error hwhy
    exact ⟨before, bad, after, hsplit, hbefore, parseGroup_eq_faulty_iff.1 hbad⟩

/-- **A well-formed field list can be no field list and yet not be rejected**: its name is half of a
surrogate pair. -/
theorem well_formed_name_is_faulty :
    let s : Text := .surrogate 0x4FF :: ":string".text
    (∀ group ∈ s.split ',', WellFormed group) ∧
      parse (some s) = .error (.faulty [⟨[.member "name".text], .notUnicode⟩]) := by
  intro s
  have hsplit : s.split ',' = [s] := by decide
  refine ⟨?_, by decide⟩
  rw [hsplit, List.forall_mem_singleton]
  exact ⟨by decide, by decide⟩

end Scaffold.Field.Spec
