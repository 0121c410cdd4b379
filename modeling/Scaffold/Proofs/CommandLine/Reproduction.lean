/-
# Scaffold.Proofs.CommandLine.Reproduction -- command lines that make a request again

`equivalentCommand?` writes a command line for a request. `command_line_reproduces` says what
becomes of that line: a shell takes it apart into the program's name and words which, read and
completed by the defaults, make the same request again. The one way for them to fail is a usage
error, so that nothing is made at all, and then the model's name or the written field list begins
with a dash. Another request never comes of it.

The words are read from left to right. `parseFrom` is the reader with the arguments that are known
so far; each pair of a switch and its value is one step of it (`parseFrom_value`), and a word that
cannot be a value ends it with an error (`parseFrom_value_missing`). Which words can be values does
not matter beyond this: a word that begins without a dash can (`isOperand_of_head_ne_dash`).
-/

import Scaffold.Program
import Scaffold.Proofs.Field.RoundTrip
import Scaffold.Proofs.Text.Shell

namespace Scaffold

/-- The requests that a front end hands over: the name of the model is there, consists of characters
and is stripped, there is a field at least, and all fields are tidy. -/
structure Request.Tidy (r : Request) : Prop where
  model_ne_nil : r.model ≠ []
  model_isUnicode : r.model.isUnicode = true
  model_stripped : r.model.IsStripped
  fields_ne_nil : r.fields ≠ []
  fields_tidy : ∀ f ∈ r.fields, f.Tidy

/-- The request that becomes of a request whose command line is read under the given defaults. The
line writes a choice only where it is not the usual one, so the usual ones are left to the
defaults. -/
def Request.completedBy (r : Request) (c : Config) : Request :=
  { r with
    layout := if r.layout = .byModule then .byModule else c.layout
    language := if r.language = .typed then .typed else c.language
    withRest := r.withRest || c.withRest }

/-- The usual choices are those of an environment that sets nothing. -/
theorem Request.completedBy_default (r : Request) : r.completedBy {} = r := by
  obtain ⟨model, fields, layout, language, withRest⟩ := r
  cases layout <;> cases language <;> cases withRest <;> rfl

namespace CommandLine

/-! ## Reading on -/

/-- Reads the rest of a command line with the arguments that are known so far. -/
def parseFrom (a : Arguments) (words : List Text) : Except UsageError Command :=
  match readWords words with
  | .error e => .error e
  | .ok readings => interpretFrom 0 a [] readings

/-- Whether a word can be the value of a switch in front of it. -/
def IsOperand (word : Text) : Prop := word ≠ "--".text ∧ readWord word = .ok .operand

/-- Whether a word is a switch and nothing more. -/
def Spells (word : Text) (s : Switch) : Prop :=
  word ≠ "--".text ∧ readWord word = .ok (.switch s word none)

theorem parse_eq_parseFrom (words : List Text) : parse words = parseFrom {} words := rfl

/-- A word that is not the end mark is read by itself. -/
theorem readWords_cons {word : Text} (h : word ≠ "--".text) (words : List Text) :
    readWords (word :: words) =
      match readWord word with
      | .error e => .error e
      | .ok reading =>
        match readWords words with
        | .error e => .error e
        | .ok readings => .ok ((word, reading) :: readings) := by
  rw [readWords]
  exact if_neg h

/-- A word that begins without a dash is an operand whatever follows in it. -/
theorem isOperand_of_head_ne_dash {word : Text} (h : word.head? ≠ some (chr '-')) :
    IsOperand word := by
  constructor
  · rintro rfl
    exact h rfl
  · unfold readWord
    split
    next => exact absurd rfl h
    next => rfl

/-- A switch by itself takes what stands behind it. -/
theorem interpretFrom_switch (s : Switch) (a : Arguments) (spelling : Text)
    (rest : List (Text × Reading)) :
    interpretFrom 0 a [] ((spelling, .switch s spelling none) :: rest) =
      match settings ⟨[], s, none⟩ rest.head? with
      | .error e => .error e
      | .ok (added, used) =>
        match addAll a added with
        | .run a => interpretFrom used a [] rest
        | command => .ok command := by
  cases hset : settings ⟨[], s, none⟩ rest.head? with
  | error e => simp only [interpretFrom, cluster, hset]
  | ok taken =>
      cases hadd : addAll a taken.1 <;> simp only [interpretFrom, cluster, hset, hadd]

/-- The switch that takes the next word for its value adds it to the arguments. -/
theorem interpretFrom_value {s : Switch} (hs : s.takesValue) (a : Arguments) (spelling value : Text)
    (rest : List (Text × Reading)) :
    interpretFrom 0 a [] ((spelling, .switch s spelling none) :: (value, .operand) :: rest) =
      interpretFrom 0 (a.add s (.value value)) [] rest := by
  have hadded : addAll a [(s, .value value)] = .run (a.add s (.value value)) := by
    cases s <;> first | exact absurd hs (by decide) | rfl
  rw [interpretFrom_switch]
  simp only [settings, List.head?_cons, hs, if_true, List.map_nil, List.nil_append, hadded]
  rw [interpretFrom]

/-- **The step of a bare switch.** A switch without value becomes one of the arguments by itself. -/
theorem parseFrom_bare {spelling : Text} {s : Switch} (hspells : Spells spelling s)
    (hs : s = .rest ∨ s = .typed) (a : Arguments) (rest : List Text) :
    parseFrom a (spelling :: rest) = parseFrom (a.add s .absent) rest := by
  unfold parseFrom
  rw [readWords_cons hspells.1, hspells.2]
  cases readWords rest with
  | error e => rfl
  | ok readings => rcases hs with rfl | rfl <;> exact interpretFrom_switch _ a spelling readings

/-- A switch in front of anything but an operand lacks its value. -/
theorem interpretFrom_value_missing {s : Switch} (hs : s.takesValue) (a : Arguments)
    (spelling word : Text) {reading : Reading} (h : reading ≠ .operand)
    (rest : List (Text × Reading)) :
    interpretFrom 0 a [] ((spelling, .switch s spelling none) :: (word, reading) :: rest) =
      .error (.valueMissing s) := by
  rw [interpretFrom_switch]
  cases reading with
  | operand => exact absurd rfl h
  | endMark => simp [settings, hs]
  | switch t full attached => simp [settings, hs]
  | unknown => simp [settings, hs]

/-- **One step of the reader.** A switch with its value behind it becomes one of the arguments. -/
theorem parseFrom_value {spelling value : Text} {s : Switch} (hspells : Spells spelling s)
    (hs : s.takesValue) (hvalue : IsOperand value) (a : Arguments) (rest : List Text) :
    parseFrom a (spelling :: value :: rest) = parseFrom (a.add s (.value value)) rest := by
  unfold parseFrom
  rw [readWords_cons hspells.1, hspells.2, readWords_cons hvalue.1, hvalue.2]
  cases readWords rest with
  | error e => rfl
  | ok readings => exact interpretFrom_value hs a spelling value readings

/-- **The other step of the reader.** A switch in front of a word that is no operand is an error,
whatever comes after it. -/
theorem parseFrom_value_missing {spelling word : Text} {s : Switch} (hspells : Spells spelling s)
    (hs : s.takesValue) (hword : ¬ IsOperand word) (a : Arguments) (rest : List Text) :
    ∃ e, parseFrom a (spelling :: word :: rest) = .error e := by
  unfold parseFrom
  rw [readWords_cons hspells.1, hspells.2]
  by_cases hend : word = "--".text
  -- The end mark turns all words behind it into operands, but is none itself.
  · subst hend
    have hwords : readWords ("--".text :: rest) =
        .ok (("--".text, .endMark) :: rest.map fun w => (w, .operand)) := by
      rw [readWords, if_pos rfl]
    rw [hwords]
    exact ⟨_, interpretFrom_value_missing hs a spelling _ (by simp) _⟩
  · rw [readWords_cons hend]
    cases hread : readWord word with
    | error e => exact ⟨e, rfl⟩
    | ok reading =>
        cases readWords rest with
        | error e => exact ⟨e, rfl⟩
        | ok readings =>
            have hne : reading ≠ .operand := by
              rintro rfl
              exact hword ⟨hend, hread⟩
            exact ⟨_, interpretFrom_value_missing hs a spelling word hne readings⟩

/-! ## The words of a request -/

/-- The words of a request behind its model and its fields: the choices that are not the default. -/
def choiceWords (r : Request) : List Text :=
  (if r.withRest then ["-r".text] else []) ++
    (if r.layout = .byModule then ["-t".text, Layout.byModule.letter] else []) ++
    (if r.language = .typed then ["--ts".text] else [])

/-- The arguments that the words of a request stand for. -/
def requestArguments (r : Request) : Arguments where
  model := .value r.model
  fields := .value (Field.Spec.format r.fields)
  rest := r.withRest
  tree := if r.layout = .byModule then .value Layout.byModule.letter else .absent
  typed := r.language = .typed

theorem commandWords_eq (r : Request) :
    commandWords r =
      programName :: "-m".text :: r.model :: "-f".text :: Field.Spec.format r.fields ::
        choiceWords r := by
  simp [commandWords, choiceWords]

theorem spells_model : Spells "-m".text .model := ⟨by decide, rfl⟩

theorem spells_fields : Spells "-f".text .fields := ⟨by decide, rfl⟩

theorem spells_rest : Spells "-r".text .rest := ⟨by decide, rfl⟩

theorem spells_tree : Spells "-t".text .tree := ⟨by decide, rfl⟩

theorem spells_typed : Spells "--ts".text .typed := ⟨by decide, rfl⟩

/-- Words that are there or not add their arguments or none. -/
theorem parseFrom_if {p : Prop} [Decidable p] {words : List Text} {a b : Arguments}
    (h : ∀ rest, parseFrom a (words ++ rest) = parseFrom b rest) (rest : List Text) :
    parseFrom a ((if p then words else []) ++ rest) = parseFrom (if p then b else a) rest := by
  by_cases hp : p
  · rw [if_pos hp, if_pos hp, h]
  · rw [if_neg hp, if_neg hp, List.nil_append]

/-- The choices of a request are read back, behind its model and its fields. -/
theorem parseFrom_choiceWords (r : Request) :
    parseFrom
        { model := .value r.model, fields := .value (Field.Spec.format r.fields) }
        (choiceWords r) =
      .ok (.run (requestArguments r)) := by
  have hletter : IsOperand Layout.byModule.letter := isOperand_of_head_ne_dash (by decide)
  rw [choiceWords, ← List.append_nil (_ ++ _), List.append_assoc, List.append_assoc,
    parseFrom_if (parseFrom_bare spells_rest (Or.inl rfl) _),
    parseFrom_if (parseFrom_value spells_tree rfl hletter _),
    parseFrom_if (parseFrom_bare spells_typed (Or.inr rfl) _)]
  obtain ⟨model, fields, layout, language, withRest⟩ := r
  cases withRest <;> cases layout <;> cases language <;> rfl

/-- The arguments of a tidy request whose fields can be written make it again, but for the choices
that they leave to the defaults. -/
theorem request_requestArguments_completed {r : Request} (hr : r.Tidy)
    (hplain : ∀ f ∈ r.fields, Field.Spec.Plain f) (c : Config) :
    (requestArguments r).request c = .ok (r.completedBy c) := by
  have hmodel : Answer.modelName (some r.model) = .ok r.model :=
    Answer.modelName_eq_ok_iff.2 ⟨hr.model_stripped, hr.model_ne_nil⟩
  have hfields : (requestArguments r).fieldList = .ok r.fields := by
    show (Field.Spec.parse (some (Field.Spec.format r.fields))).mapError _ = _
    rw [Field.Spec.parse_format hr.fields_ne_nil hr.fields_tidy hplain]
    rfl
  have hlayout : (requestArguments r).layoutOr c.layout = .ok (r.completedBy c).layout := by
    unfold requestArguments Request.completedBy
    cases r.layout <;> rfl
  have hlanguage : (requestArguments r).languageOr c.language = (r.completedBy c).language := by
    unfold requestArguments Request.completedBy
    cases r.language <;> rfl
  show (do
    let model ← (Answer.modelName (some r.model)).mapError ArgumentFailure.rejected
    let fields ← (requestArguments r).fieldList
    let layout ← ((requestArguments r).layoutOr c.layout).mapError ArgumentFailure.rejected
    (Request.make model fields layout ((requestArguments r).languageOr c.language)
      (r.withRest || c.withRest)).mapError ArgumentFailure.faulty) = _
  rw [hmodel, hfields, hlayout, hlanguage]
  show (Request.make r.model r.fields _ _ _).mapError ArgumentFailure.faulty = _
  rw [Request.make_of_isUnicode hr.model_isUnicode hr.model_ne_nil]
  rfl

/-- With the usual defaults they make the request itself. -/
theorem request_requestArguments {r : Request} (hr : r.Tidy)
    (hplain : ∀ f ∈ r.fields, Field.Spec.Plain f) :
    (requestArguments r).request {} = .ok r := by
  rw [request_requestArguments_completed hr hplain, Request.completedBy_default]

/-! ## The command line of a request -/

/-- **Command lines reproduce their requests.** Where a tidy request has a command line, a shell
takes it apart into the program's name and words. Either the words and the defaults make the
request again, or the words are a usage error, at which every run ends with status 2 and has no
request; that happens only where the model's name or the written field list begins with a dash. -/
theorem command_line_reproduces {r : Request} (hr : r.Tidy) {line : Text}
    (h : equivalentCommand? r = some line) :
    ∃ words, Text.Shell.read? line = some (programName :: words) ∧
      ((∃ a, parse words = .ok (.run a) ∧ a.request {} = .ok r) ∨
        (∃ e, parse words = .error e ∧
          ∀ screen env input,
            Program.prepare screen words env input = .ended (.status 2) [] e.text) ∧
        (r.model.head? = some (chr '-') ∨
          (Field.Spec.format r.fields).head? = some (chr '-'))) := by
  have hplain : ∀ f ∈ r.fields, Field.Spec.Plain f :=
    Field.Spec.equivalentCommand?_isSome.1 (by rw [h]; rfl)
  have hline : line = Text.Shell.write (commandWords r) := by
    unfold equivalentCommand? at h
    split at h
    next => exact (Option.some.inj h).symm
    next => cases h
  have hended (words : List Text) : (∃ e, parse words = .error e) →
      ∃ e, parse words = .error e ∧
        ∀ screen env input,
          Program.prepare screen words env input = .ended (.status 2) [] e.text := by
    rintro ⟨e, he⟩
    exact ⟨e, he, fun screen env input => by rw [Program.prepare, he]⟩
  refine ⟨"-m".text :: r.model :: "-f".text :: Field.Spec.format r.fields :: choiceWords r,
    ?_, ?_⟩
  · rw [hline, Text.Shell.read?_write, commandWords_eq]
  -- The field list is only reached behind a model that could be read.
  · by_cases hmodel : IsOperand r.model
    · by_cases hfields : IsOperand (Field.Spec.format r.fields)
      · refine Or.inl ⟨requestArguments r, ?_, request_requestArguments hr hplain⟩
        rw [parse_eq_parseFrom, parseFrom_value spells_model rfl hmodel,
          parseFrom_value spells_fields rfl hfields]
        exact parseFrom_choiceWords r
      · refine Or.inr ⟨hended _ ?_, Or.inr ?_⟩
        · rw [parse_eq_parseFrom, parseFrom_value spells_model rfl hmodel]
          exact parseFrom_value_missing spells_fields rfl hfields _ _
        · exact by_contra fun hdash => hfields (isOperand_of_head_ne_dash hdash)
    · refine Or.inr ⟨hended _ ?_, Or.inl ?_⟩
      · rw [parse_eq_parseFrom]
        exact parseFrom_value_missing spells_model rfl hmodel _ _
      · exact by_contra fun hdash => hmodel (isOperand_of_head_ne_dash hdash)

/-- A name with a quote in it, a blank in a field's name, and a model that is named like the mark
of a collection. -/
theorem command_line_of_quoted_name :
    let r : Request :=
      ⟨"it's".text, [⟨"a b".text, .objectId "array".text, true⟩], .byModule, .typed, true⟩
    let line := "mongen -m 'it'\"'\"'s' -f 'a b:objectId:array:array' -r -t m --ts".text
    (r.Tidy ∧ equivalentCommand? r = some line) ∧
      ∃ words, Text.Shell.read? line = some (programName :: words) ∧
        ∃ a, parse words = .ok (.run a) ∧ a.request {} = .ok r := by
  intro r line
  have hr : r.Tidy := by
    refine ⟨by decide, by decide, by decide, by simp [r], ?_⟩
    simp only [r, List.forall_mem_cons, List.not_mem_nil, false_implies, implies_true, and_true]
    exact ⟨by decide, by decide, by decide, by decide, by decide⟩
  have hline : equivalentCommand? r = some line := by decide
  obtain ⟨words, hwords, hmade | ⟨-, hdash⟩⟩ := command_line_reproduces hr hline
  · exact ⟨⟨hr, hline⟩, words, hwords, hmade⟩
  · exact absurd hdash (by decide)

end CommandLine

end Scaffold
