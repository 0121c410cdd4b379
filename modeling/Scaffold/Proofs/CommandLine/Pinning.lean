/-
# Scaffold.Proofs.CommandLine.Pinning -- what a printed command line leaves to the defaults

A run that has held an interview prints a command line for the request that came of it. The line is
written from the request alone: it names the layout by module, the typed language, and the router
and the controller, and says nothing where a request has none of these. Read again, it is completed
by the defaults, and these come from the environment.

`command_line_pins_iff` says how far such a line determines what is made. It makes the request
with every choice that it does not write taken from the defaults (`Request.completedBy`). So two
configurations make the same of it exactly when they agree on these choices
(`Config.AgreeBeyond`), and a line that was printed in an environment makes its request again there
exactly when the environment changes none of them.

`usual_choices_not_pinned` is a request that is not made again where it was printed: all its choices
are the usual ones, and the environment asks for the layout by module.
-/

import Scaffold.Proofs.CommandLine.Reproduction
import Scaffold.Proofs.Interview.Attainment

namespace Scaffold

/-! ## Requests that come of interviews -/

/-- A field that an interview can settle is tidy. -/
theorem Field.Askable.tidy {f : Field} (h : f.Askable) : f.Tidy where
  name_not_blank := h.name_stripped.isBlank_eq_false h.name_ne_nil
  name_isUnicode := h.name_isUnicode
  name_stripped := h.name_stripped
  reference_not_blank := h.isBlank_reference
  reference_stripped := h.isStripped_reference

namespace Interview

/-- **A request that comes of an interview is tidy**, if it has fields. -/
theorem Conversation.tidy {r : Request} {answers : List Answer} {said : List Saying}
    (h : Conversation r answers said) (hnamed : r.Named) (hfields : r.fields ≠ []) : r.Tidy := by
  have haskable := h.askable hnamed
  refine ⟨haskable.model_ne_nil, haskable.model_isUnicode, haskable.model_stripped, hfields, ?_⟩
  intro f hf
  exact (haskable.fields f hf).tidy

end Interview

/-! ## Choices that are left to the defaults -/

/-- Two configurations agree on the choices that the command line of a request does not write. -/
structure Config.AgreeBeyond (c₁ : Config) (r : Request) (c₂ : Config) : Prop where
  layout : r.layout = .byModule ∨ c₁.layout = c₂.layout
  language : r.language = .typed ∨ c₁.language = c₂.language
  withRest : r.withRest ∨ c₁.withRest = c₂.withRest

/-- Configurations complete a request alike exactly when they agree beyond it. -/
theorem Request.completedBy_eq_iff {r : Request} {c₁ c₂ : Config} :
    r.completedBy c₁ = r.completedBy c₂ ↔ c₁.AgreeBeyond r c₂ := by
  have hpinned {α : Type} (p : Prop) [Decidable p] (x a b : α) :
      ((if p then x else a) = if p then x else b) ↔ p ∨ a = b := by
    by_cases hp : p <;> simp [hp]
  have hlayout := hpinned (r.layout = .byModule) .byModule c₁.layout c₂.layout
  have hlanguage := hpinned (r.language = .typed) .typed c₁.language c₂.language
  have hrest : ((r.withRest || c₁.withRest) = (r.withRest || c₂.withRest)) ↔
      r.withRest ∨ c₁.withRest = c₂.withRest := by
    cases r.withRest <;> simp
  rw [Request.completedBy, Request.completedBy, Request.mk.injEq, hlayout, hlanguage, hrest]
  constructor
  · rintro ⟨-, -, h⟩
    exact ⟨h.1, h.2.1, h.2.2⟩
  · intro h
    exact ⟨rfl, rfl, h.layout, h.language, h.withRest⟩

namespace CommandLine

/-! ## The printed line -/

/-- The line is printed for the request, and neither the model's name nor the field list in it
begins like a switch. -/
structure PrintedFor (line : Text) (r : Request) : Prop where
  written : equivalentCommand? r = some line
  model_head : r.model.head? ≠ some (chr '-')
  fields_head : (Field.Spec.format r.fields).head? ≠ some (chr '-')

section Printed

variable {r : Request} {line : Text}

/-- A shell takes the line apart into the words of the request. -/
theorem PrintedFor.read (h : PrintedFor line r) :
    Text.Shell.read? line = some (programName :: (commandWords r).tail) := by
  have hline := h.written
  rw [equivalentCommand?] at hline
  split at hline
  next =>
    rw [← Option.some.inj hline, Text.Shell.read?_write, commandWords_eq, List.tail_cons]
  next => cases hline

/-- The words of the request are read as its arguments. -/
theorem PrintedFor.parse (h : PrintedFor line r) :
    parse (commandWords r).tail = .ok (.run (requestArguments r)) := by
  have hmodel : IsOperand r.model := isOperand_of_head_ne_dash h.model_head
  have hfields : IsOperand (Field.Spec.format r.fields) := isOperand_of_head_ne_dash h.fields_head
  rw [commandWords_eq, List.tail_cons, parse_eq_parseFrom,
    parseFrom_value spells_model rfl hmodel, parseFrom_value spells_fields rfl hfields]
  exact parseFrom_choiceWords r

/-- **What the line makes**: the request, completed by the defaults. -/
theorem PrintedFor.request (h : PrintedFor line r) (hr : r.Tidy) (c : Config) :
    (requestArguments r).request c = .ok (r.completedBy c) := by
  have hplain : ∀ f ∈ r.fields, Field.Spec.Plain f := by
    apply Field.Spec.equivalentCommand?_isSome.1
    rw [h.written]
    rfl
  exact request_requestArguments_completed hr hplain c

end Printed

/-! ## Runs that print the line, and runs of it -/

section Runs

open Program (describesRequest interview plan prepare prepareWith shownCommand)

variable {screen : Console.Screen} {words : List Text} {a : Arguments} {env : Environment}
  {c : Config} {input : Text} {r : Request} {line : Text}

/-- The request of an interview is tidy and in the language that the interview was held for. -/
theorem tidy_of_interview (hresult : (interview a c input).result = some (.ok r))
    (hfields : r.fields ≠ []) : r.language = a.languageOr c.language ∧ r.Tidy := by
  obtain ⟨used, said, -, hwalk⟩ := Dialogue.result_run_eq_some_iff.1 hresult
  obtain ⟨hlanguage, hnamed, hconversation⟩ := Interview.walk_iff_conversation.1 hwalk
  exact ⟨hlanguage, hconversation.tidy hnamed hfields⟩

/-- A run that has held an interview prints the line last, before it carries out its plan. -/
theorem prepare_of_interview (hparse : parse words = .ok (.run a))
    (hasked : describesRequest a = false) (henv : Config.ofEnvironment env = .ok c)
    (hresult : (interview a c input).result = some (.ok r)) (hfields : r.fields ≠ [])
    (hline : equivalentCommand? r = some line) :
    ∃ shown, prepare screen words env input =
      .planned (plan a c r)
        (shown ++ [screen.message .info ("Equivalent command: ".text ++ line)]) := by
  have hshown : shownCommand screen r =
      [screen.message .info ("Equivalent command: ".text ++ line)] := by
    rw [shownCommand, if_neg hfields, hline]
  refine ⟨(interview a c input).log.map (Program.shownSaying screen), ?_⟩
  rw [prepare, hparse, henv, ← hshown]
  show prepareWith screen a c input = _
  rw [prepareWith, hasked]
  simp only [Bool.false_eq_true, if_false, hresult]

/-- A run of the words of a request holds no interview and plans what they make. -/
theorem prepare_commandWords (h : PrintedFor line r) (hr : r.Tidy)
    (henv : Config.ofEnvironment env = .ok c) (input : Text) :
    prepare screen (commandWords r).tail env input =
      .planned (plan (requestArguments r) c (r.completedBy c)) [] := by
  have hdescribes : describesRequest (requestArguments r) = true := rfl
  rw [prepare, h.parse, henv]
  show prepareWith screen (requestArguments r) c input = _
  rw [prepareWith, if_pos hdescribes, h.request hr c]

/-- Where the interview was held, the language is made again in any case: a request in the plain one
shows that the defaults do not ask for the typed one. -/
theorem agreeBeyond_default_iff (hlanguage : r.language = a.languageOr c.language) :
    c.AgreeBeyond r {} ↔
      (r.layout = .byModule ∨ c.layout = .byType) ∧ (r.withRest ∨ c.withRest = false) := by
  constructor
  · intro h
    exact ⟨h.layout, h.withRest⟩
  · rintro ⟨hlayout, hrest⟩
    refine ⟨hlayout, ?_, hrest⟩
    rw [hlanguage, Arguments.languageOr]
    cases a.typed with
    | true => exact .inl rfl
    | false =>
        cases c.language with
        | plain => exact .inr rfl
        | typed => exact .inl rfl

end Runs

/-! ## What the line pins down -/

open Program (describesRequest interview plan prepare)

/-- **A printed command line pins down what it writes, and nothing else.** Read back, the line for
a tidy request makes it with all choices that the line does not write taken from the defaults; so it
makes the same under two configurations exactly when these agree on them. Whenever a run has held an
interview and has come to this request with fields, the request is tidy and the run prints the line.
Run again in the same environment, whatever the input is, the line holds no interview and plans a
request, which is the one that it was printed for exactly when the request is by module or the
environment leaves the layout by type, and the request has router and controller or the environment
does not add them. -/
theorem command_line_pins_iff {r : Request} {line : Text} (h : PrintedFor line r) :
    ∃ words a, Text.Shell.read? line = some (programName :: words) ∧
      parse words = .ok (.run a) ∧
      (r.Tidy → ∀ c₁ c₂, a.request c₁ = .ok (r.completedBy c₁) ∧
        (a.request c₁ = a.request c₂ ↔ c₁.AgreeBeyond r c₂)) ∧
      ∀ (screen : Console.Screen) first asked env c input, parse first = .ok (.run asked) →
        describesRequest asked = false → Config.ofEnvironment env = .ok c →
        (interview asked c input).result = some (.ok r) → r.fields ≠ [] →
        r.Tidy ∧
        (∃ shown, prepare screen first env input =
          .planned (plan asked c r)
            (shown ++ [screen.message .info ("Equivalent command: ".text ++ line)])) ∧
        ∀ other, ∃ p, prepare screen words env other = .planned p [] ∧
          (p.request = r ↔
            (r.layout = .byModule ∨ c.layout = .byType) ∧ (r.withRest ∨ c.withRest = false)) := by
  refine ⟨(commandWords r).tail, requestArguments r, h.read, h.parse, ?_, ?_⟩
  · intro hr c₁ c₂
    refine ⟨h.request hr c₁, ?_⟩
    rw [h.request hr c₁, h.request hr c₂, Except.ok.injEq]
    exact Request.completedBy_eq_iff
  · intro screen first asked env c input hparse hasked henv hresult hfields
    obtain ⟨hlanguage, hr⟩ := tidy_of_interview hresult hfields
    refine ⟨hr, prepare_of_interview hparse hasked henv hresult hfields h.written, ?_⟩
    intro other
    refine ⟨_, prepare_commandWords h hr henv other, ?_⟩
    show r.completedBy c = r ↔ _
    rw [← agreeBeyond_default_iff hlanguage, ← Request.completedBy_eq_iff,
      Request.completedBy_default]

theorem tidy_titledPost (layout : Layout) (language : Language) (withRest : Bool) :
    Request.Tidy
      ⟨"Post".text, [⟨"title".text, .string, false⟩], layout, language, withRest⟩ := by
  have hne : "Post".text ≠ [] := by decide
  have hstripped : Text.IsStripped "Post".text := by decide
  refine ⟨hne, rfl, hstripped, List.cons_ne_nil _ _, ?_⟩
  intro f hf
  obtain rfl := List.mem_singleton.1 hf
  exact ⟨by decide, by decide, by decide, by decide, by decide⟩

/-- All choices of this request are written, so no environment changes what its line makes, and not
the one either that its interview was held in. -/
theorem command_line_pins_written_choices :
    let r : Request :=
      ⟨"Post".text, [⟨"title".text, .string, false⟩], .byModule, .typed, true⟩
    let line := "mongen -m Post -f title:string -r -t m --ts".text
    let env : Environment := [("MONGEN_TS".text, "1".text)]
    PrintedFor line r ∧
    ∃ words a, Text.Shell.read? line = some (programName :: words) ∧
      parse words = .ok (.run a) ∧ (∀ c₁ c₂, a.request c₁ = a.request c₂) ∧
      ∃ p, prepare ⟨80, fun _ => none, true⟩ words env [] = .planned p [] ∧ p.request = r := by
  intro r line env
  have hr : r.Tidy := tidy_titledPost _ _ _
  have hprinted : PrintedFor line r := ⟨by decide, by decide, by decide⟩
  have hparse : parse [] = .ok (.run {}) := rfl
  have henv : Config.ofEnvironment env = .ok { language := .typed } := rfl
  have hresult : (interview {} { language := .typed }
      "Post\ntitle\n\n\n\nm\n".text).result = some (.ok r) := by decide
  obtain ⟨words, a, hread, hwords, hmade, hagain⟩ := command_line_pins_iff hprinted
  obtain ⟨-, -, hplanned⟩ := hagain ⟨80, fun _ => none, true⟩ [] {} env _ _ hparse rfl henv hresult
    hr.fields_ne_nil
  obtain ⟨p, hprepared, hrequest⟩ := hplanned []
  refine ⟨hprinted, words, a, hread, hwords, ?_, p, hprepared, hrequest.2 ⟨.inl rfl, .inl rfl⟩⟩
  intro c₁ c₂
  exact (hmade hr c₁ c₂).2.2 ⟨.inl rfl, .inl rfl, .inl rfl⟩

/-- **The usual choices are not pinned down.** A request with the usual choices comes of an
interview in an environment that asks for the layout by module. The line that is printed for it
makes another request there than in an environment that sets nothing, and so not this one. -/
theorem usual_choices_not_pinned :
    let r : Request :=
      ⟨"Post".text, [⟨"title".text, .string, false⟩], .byType, .plain, false⟩
    let line := "mongen -m Post -f title:string".text
    let env : Environment := [("MONGEN_TREE".text, "m".text)]
    r.Tidy ∧ PrintedFor line r ∧
    ∃ words a c c', Text.Shell.read? line = some (programName :: words) ∧
      parse words = .ok (.run a) ∧ Config.ofEnvironment [] = .ok c ∧
      Config.ofEnvironment env = .ok c' ∧ a.request c ≠ a.request c' ∧
      (interview {} c' "Post\ntitle\n\n\nno\nt\n".text).result = some (.ok r) ∧
      a.request c' ≠ .ok r := by
  intro r line env
  have hr : r.Tidy := tidy_titledPost _ _ _
  have hprinted : PrintedFor line r := ⟨by decide, by decide, by decide⟩
  have hresult : (interview {} { layout := .byModule }
      "Post\ntitle\n\n\nno\nt\n".text).result = some (.ok r) := by decide
  have hother : r.completedBy { layout := .byModule } ≠ r := by decide
  refine ⟨hr, hprinted, _, _, {}, { layout := .byModule }, hprinted.read, hprinted.parse, rfl, rfl,
    ?_, hresult, ?_⟩
  · rw [hprinted.request hr, hprinted.request hr, Request.completedBy_default]
    intro heq
    exact hother (Except.ok.inj heq).symm
  · rw [hprinted.request hr]
    intro heq
    exact hother (Except.ok.inj heq)

end CommandLine

end Scaffold
