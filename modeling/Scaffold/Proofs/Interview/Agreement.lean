/-
# Scaffold.Proofs.Interview.Agreement -- the same fields from an interview and from a line

What a user means by a field can be answered in an interview or written as a group of a field list.
An `Entry` is what is meant, a name, a type and a reference, and its `parts` are what there is of it
to answer or to write: the reference only where the type is `objectId`. The two ways do not check
alike. The interview takes a blank type for `string` by itself and asks again after a wrong one; the
field list fills a blank type in before it checks any, and gives up at the first wrong one.

`interview_agrees_with_line` says that they agree all the same. Where all types can be read, the
interview that is given the parts of the entries collects the fields that their line is read as. And
at the first entry whose type cannot be read both say the same, the interview in the round about
that entry and before anything else that it refuses. Before either, the first name that holds a
surrogate ends both, with the same fault.

Neither way is compared with the other directly. `Entry.Means` says which field an entry means; an
entry that means a field makes a round of the interview (`Entry.Means.round`) and a group that is
read (`Entry.Means.parseGroup`), and the two inductions over the entries run apart.
-/

import Scaffold.Proofs.Field.Grammar
import Scaffold.Proofs.Interview.Protocol

namespace Scaffold.Interview

open Dialogue (Walk readThen)
open Field.Spec (WellFormed groupToken writtenWord writtenMark writtenReference writtenField fault)

/-! ## Entries -/

/-- What a user means by a field. -/
structure Entry where
  name : Text
  type : Text
  reference : Text

namespace Entry

/-- What there is to say of a field: name, type, and the reference where the type has one. -/
def parts (e : Entry) : List Text :=
  [e.name, e.type] ++ if e.type.strip = "objectId".text then [e.reference] else []

/-- The parts of entries as answers. -/
def answers (entries : List Entry) : List Answer := entries.flatMap fun e => e.parts.map some

/-- The parts of an entry as a group of a field list. -/
def group (e : Entry) : Text := Text.join ':' e.parts

/-- The parts of entries as a field list on one line. -/
def line (entries : List Entry) : Text := Text.join ',' (entries.map group)

/-- The questions that an entry is asked. -/
def questions (e : Entry) : List Question :=
  [.fieldName, .fieldType] ++ if e.type.strip = "objectId".text then [.reference] else []

/-- What is said of entries that are not refused. -/
def said (entries : List Entry) : List Saying :=
  entries.flatMap fun e => e.questions.map fun q => .asked q.text

/-- The entries that can be written: the name is not blank, and nothing holds a separator. -/
structure Plain (e : Entry) : Prop where
  name_not_blank : e.name.isBlank = false
  no_separator : ∀ part ∈ [e.name, e.type, e.reference], chr ',' ∉ part ∧ chr ':' ∉ part

/-- The type of an entry is blank, or one of the type words with blank characters around it. -/
def TypeKnown (e : Entry) : Prop :=
  e.type.isBlank ∨ ∃ w : TypeWord, e.type.strip = w.text

instance (e : Entry) : Decidable e.Plain :=
  decidable_of_iff (e.name.isBlank = false ∧
      ∀ part ∈ [e.name, e.type, e.reference], chr ',' ∉ part ∧ chr ':' ∉ part)
    ⟨fun h => ⟨h.1, h.2⟩, fun h => ⟨h.name_not_blank, h.no_separator⟩⟩

instance (e : Entry) : Decidable e.TypeKnown :=
  decidable_of_iff (e.type.isBlank ∨ (TypeWord.ofText? e.type.strip).isSome) (by
    simp only [TypeKnown, Option.isSome_iff_exists, TypeWord.ofText?_eq_some_iff])

/-- The entry means the field, by the type word that its type is read as. -/
def Means (e : Entry) (f : Field) : Prop :=
  ∃ w, Answer.typeWord (some e.type) = .ok w ∧ f = .ofWord e.name.strip w false e.reference.strip

variable {e : Entry}

theorem typeWord_iff {w : TypeWord} :
    Answer.typeWord (some e.type) = .ok w ↔
      e.type.strip = [] ∧ w = .string ∨ e.type.strip = w.text :=
  Answer.typeWord_eq_ok_iff

theorem typeKnown_iff : e.TypeKnown ↔ ∃ w, Answer.typeWord (some e.type) = .ok w := by
  rw [TypeKnown, ← Text.strip_eq_nil_iff]
  constructor
  · rintro (hblank | ⟨w, hword⟩)
    · exact ⟨.string, typeWord_iff.2 (.inl ⟨hblank, rfl⟩)⟩
    · exact ⟨w, typeWord_iff.2 (.inr hword)⟩
  · rintro ⟨w, hread⟩
    rcases typeWord_iff.1 hread with ⟨hblank, -⟩ | hword
    · exact .inl hblank
    · exact .inr ⟨w, hword⟩

theorem typeWord_of_not_typeKnown (h : ¬ e.TypeKnown) :
    Answer.typeWord (some e.type) = .error (.fieldTypeInvalid e.type.strip) := by
  apply Answer.typeWord_eq_error
  intro w hread
  exact h (typeKnown_iff.2 ⟨w, hread⟩)

/-- The type is `objectId` in the interview exactly when it is spelled so. -/
theorem strip_eq_objectId_iff {w : TypeWord} (h : Answer.typeWord (some e.type) = .ok w) :
    e.type.strip = "objectId".text ↔ w = .objectId := by
  rcases typeWord_iff.1 h with ⟨hblank, rfl⟩ | hword
  · rw [hblank]
    decide
  · rw [hword]
    constructor
    · intro heq
      exact TypeWord.text_injective (v := .objectId) heq
    · rintro rfl
      rfl

/-! ## Entries in an interview -/

theorem parts_eq {w : TypeWord} (h : Answer.typeWord (some e.type) = .ok w) :
    e.parts = [e.name, e.type] ++ if w = .objectId then [e.reference] else [] := by
  rw [parts]
  simp only [strip_eq_objectId_iff h]

theorem questions_eq {w : TypeWord} (h : Answer.typeWord (some e.type) = .ok w) :
    e.questions = [.fieldName, .fieldType] ++ if w = .objectId then [.reference] else [] := by
  rw [questions]
  simp only [strip_eq_objectId_iff h]

theorem name_stripped_ne_nil (h : e.Plain) : e.name.strip ≠ [] := by
  intro hnil
  have hblank := Text.strip_eq_nil_iff.1 hnil
  rw [h.name_not_blank] at hblank
  cases hblank

/-- **An entry that means a field makes a round about it.** -/
theorem Means.round {f : Field} (h : e.Means f) (hplain : e.Plain) :
    Round f (e.parts.map some) (e.questions.map fun q => .asked q.text) := by
  obtain ⟨w, hread, rfl⟩ := h
  have hfield : Field.ofWord e.name.strip w false e.reference.strip =
      .ofWord (Answer.stripped (some e.name)) w false (Answer.stripped (some e.reference)) := rfl
  have hname : Answer.stripped (some e.name) ≠ [] := name_stripped_ne_nil hplain
  have hround := Round.intro hname (.read hread) hfield
  rw [Field.isReference_ofWord] at hround
  rw [parts_eq hread, questions_eq hread]
  by_cases hword : w = .objectId
  · simpa [hword] using hround
  · simpa [hword] using hround

theorem rounds_of_means {entries : List Entry} {fs : List Field}
    (h : List.Forall₂ Means entries fs) (hplain : ∀ e ∈ entries, e.Plain) :
    Rounds fs (answers entries) (said entries) := by
  induction h with
  | nil => exact .nil
  | cons hmeans hrest ih =>
      have hround := hmeans.round (hplain _ List.mem_cons_self)
      have hrounds := ih fun e he => hplain e (List.mem_cons_of_mem _ he)
      exact .cons hround hrounds

/-! ## Entries in a line -/

theorem separator_not_mem_parts (h : e.Plain) {part : Text} (hpart : part ∈ e.parts) :
    chr ',' ∉ part ∧ chr ':' ∉ part := by
  apply h.no_separator
  rw [parts] at hpart
  rcases List.mem_append.1 hpart with hmust | hmay
  · exact List.mem_append_left [e.reference] hmust
  · split at hmay
    · exact List.mem_append_right [e.name, e.type] hmay
    · cases hmay

theorem split_group (h : e.Plain) : Text.split ':' e.group = e.parts := by
  apply Text.split_join
  · exact List.cons_ne_nil _ _
  · intro part hpart
    exact (separator_not_mem_parts h hpart).2

theorem split_line {entries : List Entry} (hne : entries ≠ []) (hplain : ∀ e ∈ entries, e.Plain) :
    Text.split ',' (line entries) = entries.map group := by
  apply Text.split_join
  · simpa using hne
  · intro piece hpiece
    obtain ⟨e, he, rfl⟩ := List.mem_map.1 hpiece
    apply Text.not_mem_join (by decide)
    intro part hpart
    exact (separator_not_mem_parts (hplain e he) hpart).1

theorem isBlank_line {entries : List Entry} (hne : entries ≠ [])
    (hplain : ∀ e ∈ entries, e.Plain) : (line entries).isBlank = false := by
  obtain ⟨e, more, rfl⟩ := List.exists_cons_of_ne_nil hne
  have hname := (hplain e List.mem_cons_self).name_not_blank
  rw [Text.isBlank, List.all_eq_false] at hname ⊢
  obtain ⟨c, hc, hvisible⟩ := hname
  have hgroup : c ∈ e.group := Text.mem_join_of_mem List.mem_cons_self hc
  exact ⟨c, Text.mem_join_of_mem (List.mem_map_of_mem List.mem_cons_self) hgroup, hvisible⟩

theorem groupToken_group (h : e.Plain) (i : Nat) :
    groupToken e.group i = (e.parts.getD i []).strip := by
  show ((Text.split ':' e.group).getD i []).strip = _
  rw [split_group h]

theorem groupToken_name (h : e.Plain) : groupToken e.group 0 = e.name.strip := groupToken_group h 0

theorem groupToken_type (h : e.Plain) : groupToken e.group 1 = e.type.strip := groupToken_group h 1

/-- A group writes the type word that its entry's type is read as in an interview. -/
theorem writtenWord_group_iff (h : e.Plain) {w : TypeWord} :
    writtenWord e.group = w.text ↔ Answer.typeWord (some e.type) = .ok w := by
  rw [typeWord_iff, writtenWord, groupToken_type h]
  by_cases hblank : e.type.strip = []
  · have hne : [] ≠ w.text := w.text_ne_nil.symm
    rw [if_pos hblank, hblank]
    simp only [hne, true_and, or_false]
    constructor
    · intro htext
      exact (TypeWord.text_injective htext).symm
    · rintro rfl
      rfl
  · rw [if_neg hblank]
    simp only [hblank, false_and, false_or]

theorem wellFormed_group_iff (h : e.Plain) : WellFormed e.group ↔ e.TypeKnown := by
  rw [typeKnown_iff]
  constructor
  · intro hwell
    obtain ⟨w, hword, -⟩ := Field.Spec.parseGroup_of_wellFormed hwell
    exact ⟨w, (writtenWord_group_iff h).1 hword⟩
  · rintro ⟨w, hread⟩
    refine ⟨?_, ?_⟩
    · rw [groupToken_name h]
      exact name_stripped_ne_nil h
    · apply (Field.Spec.ofText?_writtenWord_isSome _).1
      rw [(writtenWord_group_iff h).2 hread, TypeWord.ofText?_text]
      rfl

theorem fault_group (h : e.Plain) : fault e.group = .fieldTypeInvalid e.type.strip := by
  rw [fault, groupToken_name h, groupToken_type h, if_neg (name_stripped_ne_nil h)]

/-- A group holds no mark of a collection, since there is no token behind its last part. -/
theorem writtenField_group (h : e.Plain) {w : TypeWord}
    (hread : Answer.typeWord (some e.type) = .ok w) :
    writtenField e.group w = .ofWord e.name.strip w false e.reference.strip := by
  rw [writtenField, writtenMark, writtenReference, groupToken_name h, groupToken_group h,
    groupToken_group h, parts_eq hread]
  by_cases hword : w = .objectId
  · subst hword
    rfl
  · simp only [if_neg hword]
    exact (ofWord_of_ne_objectId hword _ false _).symm

/-- **An entry that means a field is a group that is read as it**, if the field has a name. -/
theorem Means.parseGroup {f : Field} (h : e.Means f) (hplain : e.Plain)
    (hunicode : e.name.isUnicode = true) : Field.Spec.parseGroup e.group = .ok f := by
  obtain ⟨w, hread, rfl⟩ := h
  have hreadable : Field.Spec.Readable e.group := by
    refine ⟨(wellFormed_group_iff hplain).2 (typeKnown_iff.2 ⟨w, hread⟩), ?_⟩
    rwa [groupToken_name hplain, Text.isUnicode_strip]
  obtain ⟨v, hword, hparse⟩ := Field.Spec.parseGroup_of_readable hreadable
  rw [(writtenWord_group_iff hplain).2 hread] at hword
  obtain rfl := TypeWord.text_injective hword
  rw [hparse, writtenField_group hplain hread]

/-- An entry that means a field, but not by a name that a field can have. -/
theorem Means.parseGroup_of_not_isUnicode {f : Field} (h : e.Means f) (hplain : e.Plain)
    (hunicode : e.name.isUnicode = false) :
    Field.Spec.parseGroup e.group = .error (.faulty [.ofName "name"]) := by
  obtain ⟨w, hread, rfl⟩ := h
  apply Field.Spec.parseGroup_of_not_isUnicode
  · exact (wellFormed_group_iff hplain).2 (typeKnown_iff.2 ⟨w, hread⟩)
  · rwa [groupToken_name hplain, Text.isUnicode_strip]

theorem parse_line {entries : List Entry} (hne : entries ≠ []) (hplain : ∀ e ∈ entries, e.Plain) :
    Field.Spec.parse (some (line entries)) = Field.Spec.parseGroups (entries.map group) := by
  rw [Field.Spec.parse_some_of_not_blank (isBlank_line hne hplain)]
  exact congrArg _ (split_line hne hplain)

theorem parseGroups_of_means {entries : List Entry} {fs : List Field}
    (h : List.Forall₂ Means entries fs) (hplain : ∀ e ∈ entries, e.Plain)
    (hunicode : ∀ e ∈ entries, e.name.isUnicode = true) :
    Field.Spec.parseGroups (entries.map group) = .ok fs := by
  apply Field.Spec.mapM_eq_ok_iff.2
  induction h with
  | nil => exact .nil
  | cons hmeans hrest ih =>
      obtain ⟨hplain, hplainRest⟩ := List.forall_mem_cons.1 hplain
      obtain ⟨hunicode, hunicodeRest⟩ := List.forall_mem_cons.1 hunicode
      exact .cons (hmeans.parseGroup hplain hunicode) (ih hplainRest hunicodeRest)

/-- Behind entries that can be read, the first one that cannot decides about the line. -/
theorem parseGroups_of_first {before after : List Entry} {e : Entry} {why : InputFailure}
    (hplain : ∀ b ∈ before, b.Plain) (hbefore : ∀ b ∈ before, b.TypeKnown)
    (hunicode : ∀ b ∈ before, b.name.isUnicode = true)
    (he : Field.Spec.parseGroup e.group = .error why) :
    Field.Spec.parseGroups ((before ++ e :: after).map group) = .error why := by
  rw [List.map_append, List.map_cons]
  apply Field.Spec.mapM_eq_error_of_first _ he
  intro piece hpiece
  obtain ⟨b, hb, rfl⟩ := List.mem_map.1 hpiece
  obtain ⟨w, hread⟩ := typeKnown_iff.1 (hbefore b hb)
  have hmeans : b.Means _ := ⟨w, hread, rfl⟩
  exact ⟨_, hmeans.parseGroup (hplain b hb) (hunicode b hb)⟩

/-- An entry whose type cannot be read is refused in a line. -/
theorem parseGroup_of_not_typeKnown (h : e.Plain) (he : ¬ e.TypeKnown) :
    Field.Spec.parseGroup e.group = .error (.rejected (.fieldTypeInvalid e.type.strip)) := by
  have hbad : ¬ WellFormed e.group := by
    rw [wellFormed_group_iff h]
    exact he
  rw [Field.Spec.parseGroup_of_not_wellFormed hbad, fault_group h]

theorem isUnicode_of_means {entries : List Entry} {fs : List Field}
    (h : List.Forall₂ Means entries fs) (hunicode : ∀ e ∈ entries, e.name.isUnicode = true) :
    ∀ f ∈ fs, f.name.isUnicode = true := by
  intro f hf
  obtain ⟨e, he, w, -, rfl⟩ := Field.Spec.exists_mem_of_forall₂ h hf
  rw [Field.name_ofWord, Text.isUnicode_strip]
  exact hunicode e he

theorem exists_means {entries : List Entry} (h : ∀ e ∈ entries, e.TypeKnown) :
    ∃ fs, List.Forall₂ Means entries fs := by
  induction entries with
  | nil => exact ⟨[], .nil⟩
  | cons e entries ih =>
      obtain ⟨w, hread⟩ := typeKnown_iff.1 (h e List.mem_cons_self)
      obtain ⟨fs, hfs⟩ := ih fun e' he' => h e' (List.mem_cons_of_mem e he')
      exact ⟨_ :: fs, .cons ⟨w, hread, rfl⟩ hfs⟩

end Entry

/-! ## Agreement -/

/-- **Fed with entries that mean fields, the interview collects these.** -/
theorem collectFields_of_means {entries : List Entry} {fs : List Field}
    (h : List.Forall₂ Entry.Means entries fs) (hplain : ∀ e ∈ entries, e.Plain)
    (hunicode : ∀ e ∈ entries, e.name.isUnicode = true) {stop : Answer}
    (hstop : stop.stripped = []) (reporting : Bool) (rest : List Answer) :
    (collectFields reporting (Entry.answers entries ++ stop :: rest)).result = some (.ok fs) ∧
      (collectFields reporting (Entry.answers entries ++ stop :: rest)).unused = rest := by
  have hrounds := (Entry.rounds_of_means h hplain).walk (Entry.isUnicode_of_means h hunicode) []
  have hstopped : Walk fields (.name fs) [stop] [.asked Question.fieldName.text]
      (.result (.ok fs)) := .done (answer_name_of_stripped_eq_nil hstop fs)
  have hrun := Dialogue.run_of_walk_result (hrounds.append hstopped) rest
  rw [List.append_assoc, List.singleton_append] at hrun
  rw [collectFields, Dialogue.run_reporting, hrun]
  exact ⟨rfl, rfl⟩

theorem answers_append_cons (before after : List Entry) (e : Entry) :
    Entry.answers (before ++ e :: after) =
      Entry.answers before ++ (e.parts.map some ++ Entry.answers after) := by
  rw [Entry.answers, List.flatMap_append, List.flatMap_cons]
  rfl

/-- The answers about an entry begin with its name and its type. -/
theorem prefix_answers (before after : List Entry) (e : Entry) :
    Entry.answers before ++ [some e.name, some e.type] <+:
      Entry.answers (before ++ e :: after) := by
  rw [answers_append_cons]
  apply (List.prefix_append_right_inj _).2
  exact ⟨_, rfl⟩

/-- **The first type that cannot be read is refused**, and nothing is refused before. -/
theorem collectFields_of_unknown {before after : List Entry} {e : Entry}
    (hplain : ∀ e' ∈ before ++ e :: after, e'.Plain) (hbefore : ∀ b ∈ before, b.TypeKnown)
    (hunicode : ∀ b ∈ before, b.name.isUnicode = true) (he : ¬ e.TypeKnown) (rest : List Answer) :
    Entry.said before ++ [.asked Question.fieldName.text, .asked Question.fieldType.text,
        .refused (.fieldTypeInvalid e.type.strip)] <+:
      (collectFields true (Entry.answers (before ++ e :: after) ++ rest)).log := by
  obtain ⟨hplainBefore, hplainOthers⟩ := List.forall_mem_append.1 hplain
  have hplainBad : e.Plain := hplainOthers e List.mem_cons_self
  obtain ⟨fs, hfs⟩ := Entry.exists_means hbefore
  have hrounds := (Entry.rounds_of_means hfs hplainBefore).walk
    (Entry.isUnicode_of_means hfs hunicode) []
  have hname := answer_name_of_stripped_ne_nil (a := some e.name)
    (Entry.name_stripped_ne_nil hplainBad) fs
  have htype : fields.answer (.type fs e.name.strip) (some e.type) =
      .again (.fieldTypeInvalid e.type.strip) := by
    rw [answer_type, Entry.typeWord_of_not_typeKnown he, readThen]
  have hbad := Walk.next hname (.again htype (.stay _))
  obtain ⟨more, hmore⟩ := prefix_answers before after e
  rw [← hmore, List.append_assoc]
  exact Dialogue.prefix_log_of_walk (hrounds.append hbad) (more ++ rest)

/-- **The first name that cannot be one ends the interview**, if its type can be read. -/
theorem collectFields_of_not_isUnicode {before after : List Entry} {e : Entry}
    (hplain : ∀ e' ∈ before ++ e :: after, e'.Plain) (hbefore : ∀ b ∈ before, b.TypeKnown)
    (hunicode : ∀ b ∈ before, b.name.isUnicode = true) (he : e.TypeKnown)
    (hbad : e.name.isUnicode = false) (reporting : Bool) (rest : List Answer) :
    (collectFields reporting (Entry.answers (before ++ e :: after) ++ rest)).result =
      some (.error [.ofName "name"]) := by
  obtain ⟨hplainBefore, hplainOthers⟩ := List.forall_mem_append.1 hplain
  obtain ⟨fs, hfs⟩ := Entry.exists_means hbefore
  obtain ⟨w, hread⟩ := Entry.typeKnown_iff.1 he
  have hround := Entry.Means.round ⟨w, hread, rfl⟩ (hplainOthers e List.mem_cons_self)
  have hbroken : BrokenRounds _ _ := .intro (Entry.rounds_of_means hfs hplainBefore)
    (Entry.isUnicode_of_means hfs hunicode) hround
    (by rwa [Field.name_ofWord, Text.isUnicode_strip])
  apply Dialogue.result_run_eq_some_iff.2
  refine ⟨_, _, ?_, walk_fields_iff_brokenRounds.2 ⟨rfl, hbroken⟩⟩
  rw [answers_append_cons, ← List.append_assoc, List.append_assoc]
  exact List.prefix_append _ _

/-- **The interview and the line agree.** Take entries, at least one, that can be written in a field
list. If all their types are known and their names consist of characters, both ways make the same
fields of them, the interview whatever the blank answer is that ends it and whatever answers follow.
Otherwise the first entry of which that is not true decides. If its type is not known, it makes the
line be refused, and the interview refuses its type for the same reason: it has asked for all that
there is to say of the entries before, refused none of it, and asked for the name and the type of
this one. If its type is known, its name ends both with the same fault. -/
theorem interview_agrees_with_line {entries : List Entry} (hne : entries ≠ [])
    (hplain : ∀ e ∈ entries, e.Plain) :
    ((∀ e ∈ entries, e.TypeKnown ∧ e.name.isUnicode = true) →
      ∀ (stop : Answer), stop.stripped = [] → ∀ reporting rest,
      ∃ fs, Field.Spec.parse (some (Entry.line entries)) = .ok fs ∧
        (collectFields reporting (Entry.answers entries ++ stop :: rest)).result = some (.ok fs) ∧
        (collectFields reporting (Entry.answers entries ++ stop :: rest)).unused = rest) ∧
    ∀ before e after, entries = before ++ e :: after →
      (∀ b ∈ before, b.TypeKnown ∧ b.name.isUnicode = true) →
      (¬ e.TypeKnown →
        ∃ why, Field.Spec.parse (some (Entry.line entries)) = .error (.rejected why) ∧
          why.rule = .fieldTypeInvalid ∧
          ∀ rest, Entry.said before ++ [.asked Question.fieldName.text,
              .asked Question.fieldType.text, .refused why] <+:
            (collectFields true (Entry.answers entries ++ rest)).log) ∧
      (e.TypeKnown → e.name.isUnicode = false →
        ∃ faults, Field.Spec.parse (some (Entry.line entries)) = .error (.faulty faults) ∧
          ∀ reporting rest,
            (collectFields reporting (Entry.answers entries ++ rest)).result =
              some (.error faults)) := by
  rw [Entry.parse_line hne hplain]
  constructor
  · intro hread stop hstop reporting rest
    obtain ⟨hknown, hunicode⟩ := forall₂_and.1 hread
    obtain ⟨fs, hfs⟩ := Entry.exists_means hknown
    obtain ⟨hresult, hunused⟩ := collectFields_of_means hfs hplain hunicode hstop reporting rest
    exact ⟨fs, Entry.parseGroups_of_means hfs hplain hunicode, hresult, hunused⟩
  · rintro before e after rfl hbefore
    obtain ⟨hknown, hunicode⟩ := forall₂_and.1 hbefore
    obtain ⟨hplainBefore, hplainOthers⟩ := List.forall_mem_append.1 hplain
    have hplainFirst : e.Plain := hplainOthers e List.mem_cons_self
    have hline {why : InputFailure} (h : Field.Spec.parseGroup e.group = .error why) :
        Field.Spec.parseGroups ((before ++ e :: after).map Entry.group) = .error why :=
      Entry.parseGroups_of_first hplainBefore hknown hunicode h
    constructor
    · intro he
      exact ⟨_, hline (Entry.parseGroup_of_not_typeKnown hplainFirst he), rfl,
        collectFields_of_unknown hplain hknown hunicode he⟩
    · intro he hbad
      obtain ⟨w, hread⟩ := Entry.typeKnown_iff.1 he
      have hmeans : e.Means _ := ⟨w, hread, rfl⟩
      exact ⟨_, hline (hmeans.parseGroup_of_not_isUnicode hplainFirst hbad),
        collectFields_of_not_isUnicode hplain hknown hunicode he hbad⟩

/-- An `objectId` among blanks and a blank type are known; `colour` is none of the type words. -/
theorem interview_agrees_with_author_line :
    (∃ fs, Field.Spec.parse (some "author: objectId :User,title:".text) = .ok fs ∧
      (collectFields true [some "author".text, some " objectId ".text, some "User".text,
        some "title".text, some [], none]).result = some (.ok fs)) ∧
    ∃ why, Field.Spec.parse (some "title:,size:colour,seen:when".text) = .error (.rejected why) ∧
      why.rule = .fieldTypeInvalid ∧
      [.asked Question.fieldName.text, .asked Question.fieldType.text,
          .asked Question.fieldName.text, .asked Question.fieldType.text, .refused why] <+:
        (collectFields true [some "title".text, some [], some "size".text,
          some "colour".text, some "seen".text, some "when".text, none]).log := by
  let title : Entry := ⟨"title".text, [], []⟩
  let author : Entry := ⟨"author".text, " objectId ".text, "User".text⟩
  let size : Entry := ⟨"size".text, "colour".text, []⟩
  let seen : Entry := ⟨"seen".text, "when".text, []⟩
  have hread := (@interview_agrees_with_line [author, title] (by decide) (by decide)).1
    (by decide) none rfl true []
  have hrefused := ((@interview_agrees_with_line [title, size, seen] (by decide) (by decide)).2
    [title] size [seen] rfl (by decide)).1 (by decide)
  constructor
  · obtain ⟨fs, hparse, hresult, -⟩ := hread
    exact ⟨fs, hparse, hresult⟩
  · obtain ⟨why, hparse, hrule, hlog⟩ := hrefused
    exact ⟨why, hparse, hrule, hlog [none]⟩

/-- With a surrogate in its name, an entry of a known type makes no field in either way. -/
theorem surrogate_in_name_makes_no_field :
    let e : Entry := ⟨[.surrogate 0x4FF], "string".text, []⟩
    e.Plain ∧ e.TypeKnown ∧
      (collectFields true (Entry.answers [e] ++ [some []])).result =
        some (.error [⟨[.member "name".text], .notUnicode⟩]) ∧
      Field.Spec.parse (some (Entry.line [e])) =
        .error (.faulty [⟨[.member "name".text], .notUnicode⟩]) := by
  decide +kernel

end Scaffold.Interview
