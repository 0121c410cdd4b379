/-
# Scaffold.Proofs.Interview.Construction -- how an interview can end

An interview ends in one of three ways: with what was asked for, as soon as the answers up to there
decide it; with the fault of a name that holds a surrogate, at the field or the request that was to
be made with it; or without anything, when the answers run out. `reads_beginning_of_answers` says
when. Rejections are no further way. They are what a question is put again for.

The fault of a name is the only one that can occur, although what an interview builds is checked as
a field or a request that is written as a structured value is. A name is only taken when it is not
blank and a type only when it is a type word, so the members of what comes out have no other fault
(`Conversation.ofJson_members`), and answers that consist of characters lead to none
(`BrokenOff.exists_answer`).
-/

import Scaffold.Proofs.Field.NormalForm
import Scaffold.Proofs.Interview.Protocol

namespace Scaffold

/-! ## Requests written as structured values -/

/-- The members of a request object, each written as it is. -/
def Request.members (r : Request) : List (Text × Json) :=
  [("model_name".text, .text r.model), ("fields".text, .array (r.fields.map Field.toJson)),
   ("layout_mode".text, .text r.layout.letter),
   ("language_variant".text, .text r.language.extension),
   ("include_rest".text, .bool r.withRest)]

theorem Field.check_of_ofJson {v : Json} {f : Field} (h : Field.ofJson v = .ok f) :
    Field.check v = .ok (.ok f) := by
  unfold Field.ofJson at h
  split at h
  next => cases h
  next g hcheck =>
    cases h
    exact hcheck
  next => cases h

/-- Fields in normal form are read back as the items of a list, wherever in it they stand. -/
theorem Request.checkItems_toJson {fs : List Field} (h : ∀ f ∈ fs, f.Normal) (position : Nat) :
    Request.checkItems position (fs.map Field.toJson) = .ok (.ok fs) := by
  induction fs generalizing position with
  | nil => rfl
  | cons f fs ih =>
      have hf := Field.check_of_ofJson (h f List.mem_cons_self).ofJson_toJson
      have hfs := ih (fun g hg => h g (List.mem_cons_of_mem f hg)) (position + 1)
      simp only [List.map_cons, Request.checkItems, hf, hfs, Checked.below, Checked.both]

/-- With fields in normal form, a request is read from its members as it is made: the name of its
model is all that can be at fault. -/
theorem Request.ofJson_members {r : Request} (hfields : ∀ f ∈ r.fields, f.Normal) :
    Request.ofJson (.object r.members) =
      (Request.make r.model r.fields r.layout r.language r.withRest).mapError .faults := by
  have hname : Json.checkMember r.members "model_name" (.fault .missing) Json.asNonemptyText =
      Checked.name "model_name" r.model := rfl
  have hitems : Request.checkFields r.members = .ok (.ok r.fields) := by
    have hmember : Json.member? "fields".text r.members =
        some (.array (r.fields.map Field.toJson)) := rfl
    simp only [Request.checkFields, hmember, Request.checkItems_toJson hfields 0, Checked.below]
  have hlayout : Json.checkMember r.members "layout_mode" (.ok .byType)
      (Json.asWord (Layout.all.map Layout.letter) Layout.ofLetter?) = .ok r.layout := by
    refine Field.checkMember_eq_ok_iff.2 (.inr ⟨_, rfl, ?_⟩)
    cases r.layout <;> rfl
  have hlanguage : Json.checkMember r.members "language_variant" (.ok .plain)
      (Json.asWord (Language.all.map Language.extension) Language.ofExtension?) =
      .ok r.language := by
    refine Field.checkMember_eq_ok_iff.2 (.inr ⟨_, rfl, ?_⟩)
    cases r.language <;> rfl
  have hrest : Json.checkMember r.members "include_rest" (.ok false) Json.asBool =
      .ok r.withRest := Field.checkMember_eq_ok_iff.2 (.inr ⟨_, rfl, rfl⟩)
  simp only [Request.ofJson, Request.make, hitems, hname, hlayout, hlanguage, hrest]
  cases Checked.name "model_name" r.model with
  | ok model => rfl
  | error faults =>
      simp only [Checked.both, Checked.faults, List.append_nil]
      rfl

namespace Interview

/-! ## What a conversation makes -/

/-- A round settles a field in normal form, if it settles one at all. -/
theorem Round.normal {f : Field} {answers : List Answer} {said : List Saying}
    (h : Round f answers said) (hunicode : f.name.isUnicode = true) : f.Normal := by
  obtain ⟨hname, -, rfl⟩ := h
  rw [Field.name_ofWord] at hunicode
  exact Field.normal_ofWord hname hunicode _ _ _

theorem Rounds.normal {fs : List Field} {answers : List Answer} {said : List Saying}
    (h : Rounds fs answers said) (hunicode : ∀ f ∈ fs, f.name.isUnicode = true) :
    ∀ f ∈ fs, f.Normal := by
  induction h with
  | nil =>
      intro f hf
      cases hf
  | cons hround hrounds ih =>
      obtain ⟨hfirst, hothers⟩ := List.forall_mem_cons.1 hunicode
      exact List.forall_mem_cons.2 ⟨hround.normal hfirst, ih hothers⟩

/-- **What an interview comes to passes every check** that a structured value has to pass. -/
theorem Conversation.ofJson_members {r : Request} {answers : List Answer} {said : List Saying}
    (h : Conversation r answers said) (hnamed : r.Named) :
    Request.ofJson (.object r.members) = .ok r := by
  have hmodel := h.model_ne_nil
  obtain ⟨-, hrounds, -, -, -⟩ := h
  rw [Request.ofJson_members (hrounds.normal hnamed.fields),
    Request.make_of_isUnicode hnamed.model hmodel]
  rfl

/-! ## Where a fault comes from -/

/-- The name of a field is one of the answers in its round. -/
theorem Round.exists_name {f : Field} {answers : List Answer} {said : List Saying}
    (h : Round f answers said) : ∃ a ∈ answers, a.stripped = f.name := by
  obtain ⟨-, -, rfl⟩ := h
  exact ⟨_, by simp, (Field.name_ofWord _ _ _ _).symm⟩

theorem BrokenRounds.exists_answer {answers : List Answer} {said : List Saying}
    (h : BrokenRounds answers said) : ∃ a ∈ answers, a.stripped.isUnicode = false := by
  obtain ⟨-, -, hround, hname⟩ := h
  obtain ⟨a, ha, hstripped⟩ := hround.exists_name
  exact ⟨a, List.mem_append_right _ ha, by rwa [hstripped]⟩

/-- **An interview that a fault ends was given a surrogate.** -/
theorem BrokenOff.exists_answer {faults : List Fault} {answers : List Answer} {said : List Saying}
    (h : BrokenOff faults answers said) : ∃ a ∈ answers, a.stripped.isUnicode = false := by
  cases h with
  | field hmodel hrounds =>
      obtain ⟨a, ha, hunicode⟩ := hrounds.exists_answer
      exact ⟨a, List.mem_append_right _ ha, hunicode⟩
  | model hconversation hfields hname =>
      obtain ⟨hmodel, -, -, -, -⟩ := hconversation
      obtain ⟨a, ha, hread⟩ := hmodel.exists_read
      have hstripped := (Answer.modelName_eq_ok_iff.1 hread).1
      exact ⟨a, List.mem_append_left _ ha, by rwa [hstripped]⟩

/-! ## The ways to end -/

/-- **An interview reads a beginning of the answers, and fails by running out or at a name.** Asking
for a request, asking for the fields and putting a question until its answer can be read all use up
a beginning of the answers, which decides by itself that they stop behind it and with what; every
shorter beginning runs out. They stop with a fault exactly behind answers that make a name which
holds a surrogate, so never where the answers consist of characters. And what comes of the answers
otherwise passes every check that a request has to pass. -/
theorem reads_beginning_of_answers (language : Language) (reporting : Bool)
    (answers : List Answer) :
    SelfDelimiting (collectRequest language reporting) ∧
    SelfDelimiting (collectFields reporting) ∧
    (∀ (α : Type) question (read : Answer → Except Rejection α),
      SelfDelimiting ((Dialogue.untilRead question read).run reporting ())) ∧
    (∀ faults, (collectRequest language reporting answers).result = some (.error faults) ↔
      ∃ used said, used <+: answers ∧ BrokenOff faults used said) ∧
    (∀ faults, (collectFields reporting answers).result = some (.error faults) ↔
      faults = [.ofName "name"] ∧ ∃ used said, used <+: answers ∧ BrokenRounds used said) ∧
    ((∀ a ∈ answers, a.stripped.isUnicode = true) → ∀ faults,
      (collectRequest language reporting answers).result ≠ some (.error faults) ∧
        (collectFields reporting answers).result ≠ some (.error faults)) ∧
    ∀ r, (collectRequest language reporting answers).result = some (.ok r) →
      Request.ofJson (.object r.members) = .ok r := by
  have hrequest : ∀ faults,
      (collectRequest language reporting answers).result = some (.error faults) ↔
        ∃ used said, used <+: answers ∧ BrokenOff faults used said := by
    intro faults
    simp only [collectRequest, Dialogue.result_run_eq_some_iff, walk_iff_brokenOff]
  have hfields : ∀ faults, (collectFields reporting answers).result = some (.error faults) ↔
      faults = [.ofName "name"] ∧ ∃ used said, used <+: answers ∧ BrokenRounds used said := by
    intro faults
    simp only [collectFields, Dialogue.result_run_eq_some_iff, walk_fields_iff_brokenRounds]
    grind
  refine ⟨Dialogue.selfDelimiting_run (request language) reporting .model,
    Dialogue.selfDelimiting_run fields reporting (.name []), fun α question read =>
      Dialogue.selfDelimiting_run (Dialogue.untilRead question read) reporting (),
    hrequest, hfields, fun hunicode faults => ⟨fun hresult => ?_, fun hresult => ?_⟩,
    fun r hresult => ?_⟩
  · obtain ⟨used, said, hused, hbroken⟩ := (hrequest faults).1 hresult
    obtain ⟨a, ha, hsurrogate⟩ := hbroken.exists_answer
    rw [hunicode a (hused.subset ha)] at hsurrogate
    cases hsurrogate
  · obtain ⟨-, used, said, hused, hbroken⟩ := (hfields faults).1 hresult
    obtain ⟨a, ha, hsurrogate⟩ := hbroken.exists_answer
    rw [hunicode a (hused.subset ha)] at hsurrogate
    cases hsurrogate
  · obtain ⟨used, said, -, hwalk⟩ := Dialogue.result_run_eq_some_iff.1 hresult
    obtain ⟨-, hnamed, hconversation⟩ := walk_iff_conversation.1 hwalk
    exact hconversation.ofJson_members hnamed

/-- A name that holds a surrogate ends the questions about the fields with its fault. -/
theorem surrogate_ends_collectFields :
    (collectFields true [some [.surrogate 0x4FF], some [], some []]).result =
      some (.error [⟨[.member "name".text], .notUnicode⟩]) := by
  decide +kernel

end Interview

end Scaffold
