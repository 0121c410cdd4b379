/-
# Scaffold.Proofs.Interview.Attainment -- the requests that an interview can come to

An interview asks for less than a request can hold. It has no question about collections, so the
only ones that it can make are those of strings, by the type word `array`; and what it keeps of an
answer is stripped. `Request.Askable` is what is left, said of the request alone. That the names
consist of characters is true of every request that can be made at all.

`comes_to_request_iff` says that nothing else is lost: an interview comes to a request exactly when
the request is in the language of the interview and can be asked for. What every round of questions
keeps (`Round.askable`) is one half. The other is a script of answers (`script`), written down field
by field, that is never refused and comes to the request whatever would be answered next.
-/

import Scaffold.Proofs.Interview.Protocol

namespace Scaffold

/-! ## What can be asked for -/

/-- The fields that an interview can settle: a stripped name, a mark with the type `string` only,
and a stripped reference exactly where the type refers to a model. -/
structure Field.Askable (f : Field) : Prop where
  name_ne_nil : f.name ≠ []
  name_isUnicode : f.name.isUnicode = true
  name_stripped : f.name.IsStripped
  word_of_isArray : f.isArray = true → f.type.word = .string
  reference_eq_nil : f.type.word ≠ .objectId → f.reference = []
  reference_ne_nil : f.type.word = .objectId → f.reference ≠ []
  reference_stripped : f.type.word = .objectId → f.reference.IsStripped

/-- The requests that an interview can come to: a stripped name, and fields that can be asked for.
Every layout can be chosen, and the router and the controller can be wanted or not. -/
structure Request.Askable (r : Request) : Prop where
  model_ne_nil : r.model ≠ []
  model_isUnicode : r.model.isUnicode = true
  model_stripped : r.model.IsStripped
  fields : ∀ f ∈ r.fields, f.Askable

theorem Field.Askable.isStripped_reference {f : Field} (h : f.Askable) :
    f.reference.IsStripped := by
  by_cases hword : f.type.word = .objectId
  · exact h.reference_stripped hword
  · rw [h.reference_eq_nil hword]
    rfl

theorem Request.Askable.named {r : Request} (h : r.Askable) : r.Named where
  model := h.model_isUnicode
  fields f hf := (h.fields f hf).name_isUnicode

theorem Field.Askable.isBlank_reference {f : Field} (h : f.Askable)
    (hrefers : f.type.isReference = true) : f.reference.isBlank = false := by
  rw [FieldType.isReference_eq] at hrefers
  have hword := of_decide_eq_true hrefers
  exact (h.reference_stripped hword).isBlank_eq_false (h.reference_ne_nil hword)

namespace Interview

/-! ## What an interview makes -/

/-- The placeholder that stands in for a blank reference is stripped itself. -/
theorem isStripped_keptReference {reference : Text} (h : reference.IsStripped) :
    (Field.keptReference reference).IsStripped := by
  rw [Field.keptReference]
  split
  · decide
  · exact h

/-- What is settled from a name, a type word and a stripped reference can be asked for. -/
theorem askable_ofWord {name reference : Text} (hne : name ≠ []) (hunicode : name.isUnicode = true)
    (hname : name.IsStripped) (hreference : reference.IsStripped) (w : TypeWord) :
    (Field.ofWord name w false reference).Askable := by
  refine ⟨?_, ?_, ?_, ?_, ?_, ?_, ?_⟩
  · rwa [Field.name_ofWord]
  · rwa [Field.name_ofWord]
  · rwa [Field.name_ofWord]
  · intro hmark
    rw [Field.isArray_ofWord, Bool.or_false] at hmark
    rw [Field.word_ofWord, if_pos (of_decide_eq_true hmark)]
  · intro hword
    apply FieldType.reference_eq_nil
    rw [FieldType.isReference_eq]
    exact decide_eq_false hword
  · intro hword
    apply Text.ne_nil_of_isBlank_eq_false
    apply Field.reference_ofWord_not_blank
    rw [FieldType.isReference_eq]
    exact decide_eq_true hword
  · intro _
    rw [Field.reference_ofWord]
    split
    · exact isStripped_keptReference hreference
    · rfl

/-- **A round settles a field that can be asked for**, if it settles one at all. -/
theorem Round.askable {f : Field} {answers : List Answer} {said : List Saying}
    (h : Round f answers said) (hunicode : f.name.isUnicode = true) : f.Askable := by
  obtain ⟨hname, -, rfl⟩ := h
  rw [Field.name_ofWord] at hunicode
  exact askable_ofWord hname hunicode (Text.isStripped_strip _) (Text.isStripped_strip _) _

theorem Rounds.askable {fs : List Field} {answers : List Answer} {said : List Saying}
    (h : Rounds fs answers said) (hunicode : ∀ f ∈ fs, f.name.isUnicode = true) :
    ∀ f ∈ fs, f.Askable := by
  induction h with
  | nil =>
      intro f hf
      cases hf
  | cons hround hrounds ih =>
      obtain ⟨hfirst, hothers⟩ := List.forall_mem_cons.1 hunicode
      exact List.forall_mem_cons.2 ⟨hround.askable hfirst, ih hothers⟩

theorem Conversation.askable {r : Request} {answers : List Answer} {said : List Saying}
    (h : Conversation r answers said) (hnamed : r.Named) : r.Askable := by
  obtain ⟨hmodel, hrounds, -, -, -⟩ := h
  obtain ⟨a, -, hread⟩ := hmodel.exists_read
  obtain ⟨hname, hne⟩ := Answer.modelName_eq_ok_iff.1 hread
  refine ⟨hne, hnamed.model, ?_, hrounds.askable hnamed.fields⟩
  rw [← hname]
  exact Text.isStripped_strip _

/-! ## What to answer -/

/-- The type word to answer with. A collection that can be asked for is one of strings. -/
def askedWord (f : Field) : TypeWord := if f.isArray then .array else f.type.word

/-- The answers about a field. -/
def fieldScript (f : Field) : List Answer :=
  [some f.name, some (askedWord f).text] ++ if f.type.isReference then [some f.reference] else []

/-- The answers about a request: its model, its fields and a blank name behind them, and the two
last choices. -/
def script (r : Request) : List Answer :=
  some r.model :: (r.fields.flatMap fieldScript ++
    [some [], some (if r.withRest then "yes".text else "no".text), some r.layout.letter])

/-- Answered so, a field comes back unchanged. -/
theorem ofWord_askedWord {f : Field} (h : f.Askable) :
    Field.ofWord f.name (askedWord f) false f.reference = f := by
  rw [askedWord]
  by_cases hmark : f.isArray = true
  · rw [if_pos hmark]
    have hword : f.type.word = .string := h.word_of_isArray hmark
    have hreference : f.reference = [] := by
      apply h.reference_eq_nil
      rw [hword]
      decide
    have htype : f.type = .string := FieldType.eq_of_word_eq hword hreference
    obtain ⟨name, type, isArray⟩ := f
    cases hmark
    cases htype
    rfl
  · rw [if_neg hmark]
    have hself := f.ofWord_self h.isBlank_reference
    rwa [Bool.eq_false_iff.2 hmark] at hself

/-- The answers about a field make a round about it. -/
theorem exists_round {f : Field} (h : f.Askable) : ∃ said, Round f (fieldScript f) said := by
  have hname : Answer.stripped (some f.name) = f.name := h.name_stripped
  have htype : Answer.typeWord (some (askedWord f).text) = .ok (askedWord f) := by
    apply Answer.typeWord_eq_ok_iff.2
    right
    cases askedWord f <;> decide
  have hreference : Answer.stripped (some f.reference) = f.reference := h.isStripped_reference
  have hfield : f = .ofWord (Answer.stripped (some f.name)) (askedWord f) false
      (Answer.stripped (some f.reference)) := by
    rw [hname, hreference, ofWord_askedWord h]
  exact ⟨_, .intro (by rw [hname]; exact h.name_ne_nil) (.read htype) hfield⟩

theorem exists_rounds {fs : List Field} (h : ∀ f ∈ fs, f.Askable) :
    ∃ said, Rounds fs (fs.flatMap fieldScript) said := by
  induction fs with
  | nil => exact ⟨[], .nil⟩
  | cons f fs ih =>
      obtain ⟨hf, hfs⟩ := List.forall_mem_cons.1 h
      obtain ⟨said, hround⟩ := exists_round hf
      obtain ⟨later, hrounds⟩ := ih hfs
      exact ⟨said ++ later, .cons hround hrounds⟩

/-- **The script is a conversation about its request.** -/
theorem exists_conversation {r : Request} (h : r.Askable) :
    ∃ said, Conversation r (script r) said := by
  obtain ⟨roundSaid, hrounds⟩ := exists_rounds h.fields
  have hmodel : Answer.modelName (some r.model) = .ok r.model :=
    Answer.modelName_eq_ok_iff.2 ⟨h.model_stripped, h.model_ne_nil⟩
  have hrest : Answer.wantsRest (some (if r.withRest then "yes".text else "no".text)) =
      .ok r.withRest := by
    cases r.withRest <;> rfl
  have hlayout : Answer.layout (some r.layout.letter) = .ok r.layout := by
    cases r.layout <;> rfl
  have hstop : Answer.stripped (some []) = [] := rfl
  exact ⟨_, .intro (.read hmodel) hrounds hstop (.read hrest) (.read hlayout)⟩

/-- The script comes to its request, and leaves the answers behind it alone. -/
theorem collectRequest_script {r : Request} (h : r.Askable) (reporting : Bool)
    (rest : List Answer) :
    (collectRequest r.language reporting (script r ++ rest)).result = some (.ok r) ∧
      (collectRequest r.language reporting (script r ++ rest)).unused = rest := by
  obtain ⟨said, hconversation⟩ := exists_conversation h
  have hwalk := walk_iff_conversation.2 ⟨rfl, h.named, hconversation⟩
  have hrun := Dialogue.run_of_walk_result hwalk rest
  rw [collectRequest, Dialogue.run_reporting, hrun]
  exact ⟨rfl, rfl⟩

/-! ## Attainment -/

/-- **The requests that an interview can come to.** Some answers make an interview come to a request
exactly when it is in the language of the interview, its model has a stripped name, and so has every
field; only strings come in collections; and a field has a reference, which is stripped, where its
type is `objectId` and nowhere else. It makes no difference whether the interview reports. -/
theorem comes_to_request_iff (language : Language) (reporting : Bool) (r : Request) :
    (∃ answers, (collectRequest language reporting answers).result = some (.ok r)) ↔
      r.language = language ∧ r.Askable := by
  constructor
  · rintro ⟨answers, hresult⟩
    obtain ⟨used, said, -, hwalk⟩ := Dialogue.result_run_eq_some_iff.1 hresult
    obtain ⟨hlanguage, hnamed, hconversation⟩ := walk_iff_conversation.1 hwalk
    exact ⟨hlanguage, hconversation.askable hnamed⟩
  · rintro ⟨rfl, haskable⟩
    have hscript := collectRequest_script haskable reporting []
    exact ⟨script r ++ [], hscript.1⟩

/-- No answers make a collection of numbers. -/
example (language : Language) (answers : List Answer) :
    (collectRequest language true answers).result ≠
      some (.ok ⟨"Post".text, [⟨"marks".text, .number, true⟩], .byType, language, false⟩) := by
  intro hresult
  obtain ⟨used, said, -, hwalk⟩ := Dialogue.result_run_eq_some_iff.1 hresult
  obtain ⟨-, hnamed, hconversation⟩ := walk_iff_conversation.1 hwalk
  have hfield := (hconversation.askable hnamed).fields _ List.mem_cons_self
  exact absurd (hfield.word_of_isArray rfl) (by decide)

end Interview

end Scaffold
