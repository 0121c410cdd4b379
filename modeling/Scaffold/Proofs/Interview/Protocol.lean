/-
# Scaffold.Proofs.Interview.Protocol -- what is said in an interview, and in which order

The log of an interview is a word of a small language: the question about the model, put until it
is answered; the announcement of the type words; a round of questions for each field; the question
about a field that is answered with nothing; and the two last questions, each put until it is
answered. `Conversation` is this language, with the answers beside the words, so that a refusal in
the log stands for the answer that was refused and a round for the field that came of it.

A name that cannot be one is in no answer's way, so the language has it too; but the interview ends
at it, and then with a fault. `BrokenOff` says where: behind the round about the first such field,
or, if it is the model's, behind the last question.

`walk_iff_conversation` and `walk_iff_brokenOff` say that the interviews that come to a request are
exactly the conversations about it, and the others that come to an end the broken ones.
`log_follows_protocol` adds what becomes of an interview that lacks answers, whose log is the
beginning of a conversation, and of one that does not report, whose log has the same questions and
nothing else.
-/

import Scaffold.Interview
import Scaffold.Proofs.Dialogue.Walk

namespace Scaffold

/-- The names in a request consist of characters, so it can be made. -/
structure Request.Named (r : Request) : Prop where
  model : r.model.isUnicode = true
  fields : ∀ f ∈ r.fields, f.name.isUnicode = true

namespace Interview

open Dialogue (Walk AskedUntilRead Leaves readThen)

/-! ## The language of the log -/

/-- The round of questions about a field: its name, its type until it is a type word, and the model
that it refers to where the field has a reference. -/
inductive Round (f : Field) : List Answer → List Saying → Prop
  | intro {name reference : Answer} {word : TypeWord} {answers : List Answer} {said : List Saying}
      (hname : name.stripped ≠ [])
      (htype : AskedUntilRead Question.fieldType.text Answer.typeWord word answers said)
      (hfield : f = .ofWord name.stripped word false reference.stripped) :
      Round f (name :: answers ++ if f.type.isReference then [reference] else [])
        (.asked Question.fieldName.text :: said ++
          if f.type.isReference then [.asked Question.reference.text] else [])

/-- One round for each field, in their order. -/
inductive Rounds : List Field → List Answer → List Saying → Prop
  | nil : Rounds [] [] []
  | cons {f : Field} {fs : List Field} {answers more : List Answer} {said later : List Saying}
      (hround : Round f answers said) (hrounds : Rounds fs more later) :
      Rounds (f :: fs) (answers ++ more) (said ++ later)

/-- What is answered and said in an interview about a request. -/
inductive Conversation (r : Request) : List Answer → List Saying → Prop
  | intro {modelAnswers roundAnswers restAnswers layoutAnswers : List Answer}
      {modelSaid roundSaid restSaid layoutSaid : List Saying} {stop : Answer}
      (hmodel : AskedUntilRead Question.modelName.text Answer.modelName r.model modelAnswers
        modelSaid)
      (hrounds : Rounds r.fields roundAnswers roundSaid)
      (hstop : stop.stripped = [])
      (hrest : AskedUntilRead Question.rest.text Answer.wantsRest r.withRest restAnswers restSaid)
      (hlayout : AskedUntilRead Question.layout.text Answer.layout r.layout layoutAnswers
        layoutSaid) :
      Conversation r (modelAnswers ++ (roundAnswers ++ stop :: (restAnswers ++ layoutAnswers)))
        (modelSaid ++ .announced availableTypes :: (roundSaid ++
          .asked Question.fieldName.text :: (restSaid ++ layoutSaid)))

/-- Rounds of which the last one is about a field whose name cannot be one. -/
inductive BrokenRounds : List Answer → List Saying → Prop
  | intro {fs : List Field} {f : Field} {answers lastAnswers : List Answer}
      {said lastSaid : List Saying} (hrounds : Rounds fs answers said)
      (hfields : ∀ g ∈ fs, g.name.isUnicode = true) (hround : Round f lastAnswers lastSaid)
      (hname : f.name.isUnicode = false) :
      BrokenRounds (answers ++ lastAnswers) (said ++ lastSaid)

/-- What is answered and said in an interview that a name ends with its fault. -/
inductive BrokenOff : List Fault → List Answer → List Saying → Prop
  | field {model : Text} {modelAnswers roundAnswers : List Answer}
      {modelSaid roundSaid : List Saying}
      (hmodel : AskedUntilRead Question.modelName.text Answer.modelName model modelAnswers
        modelSaid)
      (hrounds : BrokenRounds roundAnswers roundSaid) :
      BrokenOff [.ofName "name"] (modelAnswers ++ roundAnswers)
        (modelSaid ++ .announced availableTypes :: roundSaid)
  | model {r : Request} {answers : List Answer} {said : List Saying}
      (hconversation : Conversation r answers said)
      (hfields : ∀ f ∈ r.fields, f.name.isUnicode = true) (hname : r.model.isUnicode = false) :
      BrokenOff [.ofName "model_name"] answers said

/-! ## Walks through the questions about the fields -/

/-- A field joins the settled ones, or its name ends the interview. -/
def join (settled : List Field) (f : Field) : Move FieldPoint (Checked (List Field)) :=
  if f.name.isUnicode then .next (.name (settled ++ [f])) [] else .done (.error [.ofName "name"])

theorem settle_eq_join {name : Text} (hname : name ≠ []) (settled : List Field) (word : TypeWord)
    (reference : Text) :
    settle settled name word reference = join settled (.ofWord name word false reference) := by
  rw [settle, join, Field.name_ofWord]
  cases hunicode : name.isUnicode with
  | true =>
      rw [Field.make_of_isUnicode hunicode hname]
      rfl
  | false =>
      rw [Field.make_of_not_isUnicode hunicode]
      rfl

/-- The field in hand is settled, or its reference is asked for. -/
def settleOrAsk (settled : List Field) (name : Text) (word : TypeWord) :
    Move FieldPoint (Checked (List Field)) :=
  if word = .objectId then .next (.reference settled name) [] else settle settled name word []

theorem answer_type (settled : List Field) (name : Text) (a : Answer) :
    fields.answer (.type settled name) a = readThen (settleOrAsk settled name) a.typeWord := by
  show FieldPoint.answer (.type settled name) a = _
  rw [FieldPoint.answer]
  cases a.typeWord with
  | error why => rfl
  | ok word => cases word <;> rfl

theorem answer_name_of_stripped_ne_nil {a : Answer} (h : a.stripped ≠ []) (settled : List Field) :
    fields.answer (.name settled) a = .next (.type settled a.stripped) [] :=
  if_neg h

theorem answer_name_of_stripped_eq_nil {a : Answer} (h : a.stripped = []) (settled : List Field) :
    fields.answer (.name settled) a = .done (.ok settled) :=
  if_pos h

/-- A reference makes a difference to an `objectId` only. -/
theorem ofWord_of_ne_objectId {word : TypeWord} (h : word ≠ .objectId) (name : Text)
    (isArray : Bool) (reference : Text) :
    Field.ofWord name word isArray reference = .ofWord name word isArray [] := by
  cases word <;> first | rfl | exact absurd rfl h

/-- **A round ends at its field**: the last answer of it leads to where the field leads. -/
theorem Round.last {f : Field} {answers : List Answer} {said : List Saying}
    (h : Round f answers said) (settled : List Field) :
    ∃ before a saidBefore point, answers = before ++ [a] ∧
      said = saidBefore ++ [.asked (fields.question point)] ∧
      Walk fields (.name settled) before saidBefore (.point point) ∧
      fields.answer point a = join settled f := by
  obtain @⟨name, reference, word, answers, said, hname, htype, rfl⟩ := h
  have hstart := answer_name_of_stripped_ne_nil hname settled
  have hreads := answer_type settled name.stripped
  rw [Field.isReference_ofWord]
  by_cases hword : word = .objectId
  · subst hword
    have hasked := htype.walk_point (d := fields) (p := .type settled name.stripped) hreads
      (if_pos rfl)
    rw [List.map_nil, List.append_nil] at hasked
    exact ⟨name :: answers, reference, _, .reference settled name.stripped, rfl, rfl,
      .next hstart hasked, settle_eq_join hname settled .objectId reference.stripped⟩
  · obtain ⟨refused, a, saidFirst, rfl, rfl, hlast, hwalk⟩ :=
      htype.stays (d := fields) (p := .type settled name.stripped) hreads
    rw [ofWord_of_ne_objectId hword, decide_eq_false hword]
    refine ⟨name :: refused, a, _, .type settled name.stripped, by simp, ?_, .next hstart hwalk, ?_⟩
    · simp [fields, FieldPoint.question]
    · rw [hlast, settleOrAsk, if_neg hword, settle_eq_join hname]

/-- **A round settles its field**, if that has a name. -/
theorem Round.walk {f : Field} {answers : List Answer} {said : List Saying}
    (h : Round f answers said) (hname : f.name.isUnicode = true) (settled : List Field) :
    Walk fields (.name settled) answers said (.point (.name (settled ++ [f]))) := by
  obtain ⟨before, a, saidBefore, point, rfl, rfl, hwalk, hlast⟩ := h.last settled
  exact hwalk.append (.next (hlast.trans (if_pos hname)) (.stay _))

theorem Rounds.walk {fs : List Field} {answers : List Answer} {said : List Saying}
    (h : Rounds fs answers said) (hnames : ∀ f ∈ fs, f.name.isUnicode = true)
    (settled : List Field) :
    Walk fields (.name settled) answers said (.point (.name (settled ++ fs))) := by
  induction h generalizing settled with
  | nil =>
      rw [List.append_nil]
      exact .stay _
  | @cons f fs answers more said later hround hrounds ih =>
      obtain ⟨hname, hnames⟩ := List.forall_mem_cons.1 hnames
      have hwalk := (hround.walk hname settled).append (ih hnames (settled ++ [f]))
      rwa [List.append_assoc] at hwalk

/-- How the questions about the fields end once some are settled: with a blank name, or with a field
whose name cannot be one. -/
inductive Concludes (settled : List Field) :
    List Answer → List Saying → Checked (List Field) → Prop
  | stopped {stop : Answer} (hstop : stop.stripped = []) :
      Concludes settled [stop] [.asked Question.fieldName.text] (.ok settled)
  | faulty {f : Field} {answers : List Answer} {said : List Saying} (hround : Round f answers said)
      (hname : f.name.isUnicode = false) :
      Concludes settled answers said (.error [.ofName "name"])

theorem Concludes.walk {settled : List Field} {answers : List Answer} {said : List Saying}
    {result : Checked (List Field)} (h : Concludes settled answers said result) :
    Walk fields (.name settled) answers said (.result result) := by
  cases h with
  | stopped hstop => exact .done (answer_name_of_stripped_eq_nil hstop settled)
  | faulty hround hname =>
      obtain ⟨before, a, saidBefore, point, rfl, rfl, hwalk, hlast⟩ := hround.last settled
      exact hwalk.append (.done (hlast.trans (if_neg (by simp [hname]))))

/-- What is left of a walk behind the round about a field. -/
theorem walk_of_leaves_join {point : FieldPoint} {settled : List Field} {f : Field}
    {answers : List Answer} {said : List Saying} {result : Checked (List Field)}
    (h : Leaves fields point result (join settled f) answers said) :
    f.name.isUnicode = true ∧ Walk fields (.name (settled ++ [f])) answers said (.result result) ∨
      f.name.isUnicode = false ∧ result = .error [.ofName "name"] ∧ answers = [] ∧ said = [] := by
  unfold join at h
  split at h
  next hname =>
    obtain ⟨_, rfl, hwalk⟩ := h
    exact .inl ⟨hname, hwalk⟩
  next hname =>
    obtain ⟨rfl, rfl, rfl⟩ := h
    exact .inr ⟨by simpa using hname, rfl, rfl, rfl⟩

/-- Behind a field's name a walk to a result ends the round about that field. -/
theorem round_of_walk_type {settled : List Field} {result : Checked (List Field)} {name : Answer}
    (hname : name.stripped ≠ []) {answers : List Answer} {said : List Saying}
    (h : Walk fields (.type settled name.stripped) answers said (.result result)) :
    ∃ f used more saidFirst later point, name :: answers = used ++ more ∧
      .asked Question.fieldName.text :: said = saidFirst ++ later ∧ Round f used saidFirst ∧
      more.length ≤ answers.length ∧
      Leaves fields point result (join settled f) more later := by
  obtain ⟨word, used, more, saidFirst, later, rfl, rfl, hasked, hleaves⟩ :=
    Dialogue.walk_result_of_reads (answer_type settled name.stripped) h
  by_cases hword : word = .objectId
  · subst hword
    obtain ⟨_, rfl, hreference⟩ := hleaves
    obtain ⟨reference, more, later, rfl, rfl, hleaves⟩ := Dialogue.walk_result_cases hreference
    have hjoin : fields.answer (.reference settled name.stripped) reference =
        join settled (.ofWord name.stripped .objectId false reference.stripped) :=
      settle_eq_join hname settled .objectId reference.stripped
    rw [hjoin] at hleaves
    refine ⟨.ofWord name.stripped .objectId false reference.stripped, _, more, _, later, _, ?_, ?_,
      .intro hname hasked rfl, ?_, hleaves⟩
    · simp [Field.isReference_ofWord]
    · simp [Field.isReference_ofWord, fields, FieldPoint.question]
    · simp only [List.length_append, List.length_cons]
      omega
  · rw [settleOrAsk, if_neg hword, settle_eq_join hname] at hleaves
    have hfield : Field.ofWord name.stripped word false [] =
        .ofWord name.stripped word false (Answer.stripped none) := rfl
    refine ⟨_, _, more, _, later, _, ?_, ?_, .intro hname hasked hfield, ?_, hleaves⟩
    · simp [Field.isReference_ofWord, hword]
    · simp [Field.isReference_ofWord, hword]
    · simp

/-- **The questions about the fields are rounds, and then a conclusion.** -/
theorem rounds_of_walk {settled : List Field} {answers : List Answer} {said : List Saying}
    {result : Checked (List Field)}
    (h : Walk fields (.name settled) answers said (.result result)) :
    ∃ made used more saidFirst later, answers = used ++ more ∧ said = saidFirst ++ later ∧
      Rounds made used saidFirst ∧ (∀ f ∈ made, f.name.isUnicode = true) ∧
      Concludes (settled ++ made) more later result := by
  -- Each round takes answers away, so the induction is on how many there are.
  induction hlength : answers.length using Nat.strongRecOn generalizing settled answers said with
  | ind n ih =>
      obtain ⟨name, more, later, rfl, rfl, hleaves⟩ := Dialogue.walk_result_cases h
      by_cases hname : name.stripped = []
      · rw [answer_name_of_stripped_eq_nil hname] at hleaves
        obtain ⟨rfl, rfl, rfl⟩ := hleaves
        refine ⟨[], [], _, [], _, rfl, rfl, .nil, by simp, ?_⟩
        rw [List.append_nil]
        exact .stopped hname
      · rw [answer_name_of_stripped_ne_nil hname] at hleaves
        obtain ⟨_, rfl, htype⟩ := hleaves
        obtain ⟨f, used, rest, saidFirst, last, point, hused, hsaid, hround, hle, hleaves⟩ :=
          round_of_walk_type hname htype
        have hsaid : [.asked (fields.question (.name settled))] ++
            ([].map Saying.announced ++ _) = saidFirst ++ last := hsaid
        rcases walk_of_leaves_join hleaves with ⟨hunicode, hwalk⟩ | ⟨hunicode, rfl, rfl, rfl⟩
        · have hlt : rest.length < n := by
            rw [List.length_cons] at hlength
            omega
          obtain ⟨made, others, more, saidOthers, later, rfl, rfl, hrounds, hnames, hconcludes⟩ :=
            ih rest.length hlt hwalk rfl
          refine ⟨f :: made, used ++ others, more, saidFirst ++ saidOthers, later, ?_, ?_,
            .cons hround hrounds, List.forall_mem_cons.2 ⟨hunicode, hnames⟩, ?_⟩
          · rw [hused, List.append_assoc]
          · rw [List.append_assoc]
            exact hsaid
          · rwa [List.append_assoc] at hconcludes
        · rw [List.append_nil] at hused hsaid
          subst hused hsaid
          refine ⟨[], [], _, [], _, rfl, rfl, .nil, by simp, ?_⟩
          rw [List.append_nil]
          exact .faulty hround hunicode

/-- **The questions about the fields end at a fault** exactly by broken rounds. -/
theorem walk_fields_iff_brokenRounds {faults : List Fault} {answers : List Answer}
    {said : List Saying} :
    Walk fields (.name []) answers said (.result (.error faults)) ↔
      faults = [.ofName "name"] ∧ BrokenRounds answers said := by
  constructor
  · intro h
    obtain ⟨made, used, more, saidFirst, later, rfl, rfl, hrounds, hnames, hconcludes⟩ :=
      rounds_of_walk h
    cases hconcludes with
    | faulty hround hname => exact ⟨rfl, .intro hrounds hnames hround hname⟩
  · rintro ⟨rfl, @⟨fs, f, answers, last, said, lastSaid, hrounds, hfields, hround, hname⟩⟩
    have hconcludes : Concludes fs last lastSaid (.error [.ofName "name"]) := .faulty hround hname
    exact (hrounds.walk hfields []).append hconcludes.walk

/-! ## Walks through the interview -/

variable {language : Language}

theorem answer_model (a : Answer) :
    (request language).answer .model a =
      readThen (fun model => .next (.fields model (.name [])) [availableTypes]) a.modelName := by
  show Point.answer language .model a = _
  rw [Point.answer]
  cases a.modelName <;> rfl

theorem answer_rest (model : Text) (settled : List Field) (a : Answer) :
    (request language).answer (.rest model settled) a =
      readThen (fun withRest => .next (.layout model settled withRest) []) a.wantsRest := by
  show Point.answer language (.rest model settled) a = _
  rw [Point.answer]
  cases a.wantsRest <;> rfl

theorem answer_layout (model : Text) (settled : List Field) (withRest : Bool) (a : Answer) :
    (request language).answer (.layout model settled withRest) a =
      readThen (fun layout => .done (Request.make model settled layout language withRest))
        a.layout := by
  show Point.answer language (.layout model settled withRest) a = _
  rw [Point.answer]
  cases a.layout <;> rfl

/-- Where an answer about the fields leads in the whole interview. -/
def moveWithin (model : Text) :
    Move FieldPoint (Checked (List Field)) → Move Point (Checked Request)
  | .next point announcements => .next (.fields model point) announcements
  | .again why => .again why
  | .done (.ok settled) => .next (.rest model settled) []
  | .done (.error faults) => .done (.error faults)

theorem answer_fields {point : FieldPoint} {a : Answer}
    {move : Move FieldPoint (Checked (List Field))} (hanswer : fields.answer point a = move)
    (model : Text) :
    (request language).answer (.fields model point) a = moveWithin model move := by
  have hmove : point.answer a = move := hanswer
  show Point.answer language (.fields model point) a = _
  rw [Point.answer, hmove]
  rcases move with _ | _ | result
  · rfl
  · rfl
  · cases result <;> rfl

/-- Where a walk through the questions about the fields arrives in the whole interview. -/
def arrivalWithin (model : Text) :
    Arrival FieldPoint (Checked (List Field)) → Arrival Point (Checked Request)
  | .point point => .point (.fields model point)
  | .result (.ok settled) => .point (.rest model settled)
  | .result (.error faults) => .result (.error faults)

theorem walk_within {point : FieldPoint} {answers : List Answer} {said : List Saying}
    {e : Arrival FieldPoint (Checked (List Field))} (h : Walk fields point answers said e)
    (model : Text) :
    Walk (request language) (.fields model point) answers said (arrivalWithin model e) := by
  induction h with
  | stay point => exact .stay _
  | @done _ _ result hanswer =>
      cases result with
      | ok settled => exact .next (answer_fields hanswer model) (.stay _)
      | error faults => exact .done (answer_fields hanswer model)
  | again hanswer hrest ih => exact .again (answer_fields hanswer model) ih
  | next hanswer hrest ih => exact .next (answer_fields hanswer model) ih

/-- What is left of a walk to a result behind the questions about the fields. -/
def Follows (language : Language) (model : Text) (result : Checked Request) :
    Checked (List Field) → List Answer → List Saying → Prop
  | .ok settled, answers, said =>
      Walk (request language) (.rest model settled) answers said (.result result)
  | .error faults, answers, said => result = .error faults ∧ answers = [] ∧ said = []

/-- From among the questions about the fields, a walk to a result first comes to theirs. -/
theorem walk_fields_cases {model : Text} {point : FieldPoint} {answers : List Answer}
    {said : List Saying} {result : Checked Request}
    (h : Walk (request language) (.fields model point) answers said (.result result)) :
    ∃ settled used more saidFirst later, answers = used ++ more ∧ said = saidFirst ++ later ∧
      Walk fields point used saidFirst (.result settled) ∧
      Follows language model result settled more later := by
  induction answers generalizing point said with
  | nil => cases h
  | cons a answers ih =>
      obtain ⟨_, _, later, hsplit, rfl, hleaves⟩ := Dialogue.walk_result_cases h
      cases hsplit
      cases hmove : fields.answer point a with
      | done settled =>
          rw [answer_fields hmove] at hleaves
          cases settled with
          | ok settled =>
              obtain ⟨later, rfl, hwalk⟩ := hleaves
              exact ⟨.ok settled, [a], answers, _, later, rfl, rfl, .done hmove, hwalk⟩
          | error faults =>
              obtain ⟨rfl, rfl, rfl⟩ := hleaves
              exact ⟨.error faults, [a], [], _, [], rfl, rfl, .done hmove, rfl, rfl, rfl⟩
      | again why =>
          rw [answer_fields hmove] at hleaves
          obtain ⟨later, rfl, hwalk⟩ := hleaves
          obtain ⟨settled, used, more, saidFirst, last, rfl, rfl, hfields, hrest⟩ := ih hwalk
          exact ⟨settled, a :: used, more, _, last, rfl, rfl, .again hmove hfields, hrest⟩
      | next point' announcements =>
          rw [answer_fields hmove] at hleaves
          obtain ⟨later, rfl, hwalk⟩ := hleaves
          obtain ⟨settled, used, more, saidFirst, last, rfl, rfl, hfields, hrest⟩ := ih hwalk
          refine ⟨settled, a :: used, more, _, last, rfl, ?_, .next hmove hfields, hrest⟩
          simp [request, fields, Point.question]

/-- A conversation about fields with names leads to the making of its request. -/
theorem Conversation.walk {r : Request} {answers : List Answer} {said : List Saying}
    (h : Conversation r answers said) (hfields : ∀ f ∈ r.fields, f.name.isUnicode = true)
    (language : Language) :
    Walk (request language) .model answers said
      (.result (Request.make r.model r.fields r.layout language r.withRest)) := by
  obtain @⟨modelAnswers, roundAnswers, restAnswers, layoutAnswers, modelSaid, roundSaid, restSaid,
    layoutSaid, stop, hmodel, hrounds, hstop, hrest, hlayout⟩ := h
  have hstopped : Walk fields (.name r.fields) [stop] [.asked Question.fieldName.text]
      (.result (.ok r.fields)) := .done (answer_name_of_stripped_eq_nil hstop r.fields)
  have hfirst := hmodel.walk_point (d := request language) (p := .model) answer_model rfl
  have hsettled : Walk (request language) (.fields r.model (.name [])) _ _ _ :=
    walk_within ((hrounds.walk hfields []).append hstopped) r.model
  have hthird := hrest.walk_point (d := request language) (p := .rest r.model r.fields)
    (answer_rest r.model r.fields) rfl
  have hlast := hlayout.walk_result (d := request language)
    (p := .layout r.model r.fields r.withRest) (answer_layout r.model r.fields r.withRest) rfl
  rw [List.map_nil, List.append_nil] at hthird
  have hwalk := hfirst.append (hsettled.append (hthird.append hlast))
  simpa only [List.append_assoc, List.map_cons, List.map_nil, List.cons_append,
    List.nil_append] using hwalk

/-- There is a name for the model in a conversation. -/
theorem Conversation.model_ne_nil {r : Request} {answers : List Answer} {said : List Saying}
    (h : Conversation r answers said) : r.model ≠ [] := by
  obtain ⟨hmodel, -⟩ := h
  obtain ⟨a, -, hread⟩ := hmodel.exists_read
  exact (Answer.modelName_eq_ok_iff.1 hread).2

theorem BrokenOff.walk {faults : List Fault} {answers : List Answer} {said : List Saying}
    (h : BrokenOff faults answers said) (language : Language) :
    Walk (request language) .model answers said (.result (.error faults)) := by
  cases h with
  | @field model _ _ _ _ hmodel hrounds =>
      have hfirst := hmodel.walk_point (d := request language) (p := .model) answer_model rfl
      have hlast : Walk (request language) (.fields model (.name [])) _ _
          (.result (.error [.ofName "name"])) :=
        walk_within (walk_fields_iff_brokenRounds.2 ⟨rfl, hrounds⟩) model
      have hwalk := hfirst.append hlast
      simpa only [List.append_assoc, List.map_cons, List.map_nil, List.cons_append,
        List.nil_append] using hwalk
  | @model r _ _ hconversation hfields hname =>
      have hwalk := hconversation.walk hfields language
      rwa [Request.make_of_not_isUnicode hname] at hwalk

/-- What is answered and said in an interview that comes to an end. -/
def Ends (language : Language) (answers : List Answer) (said : List Saying) :
    Checked Request → Prop
  | .ok r => r.language = language ∧ r.Named ∧ Conversation r answers said
  | .error faults => BrokenOff faults answers said

/-- **A walk through the interview to a result** is a conversation about it, or a broken one. -/
theorem ends_of_walk {answers : List Answer} {said : List Saying} {result : Checked Request}
    (h : Walk (request language) .model answers said (.result result)) :
    Ends language answers said result := by
  obtain ⟨model, modelAnswers, _, modelSaid, _, rfl, rfl, hmodel, _, rfl, hfields⟩ :=
    Dialogue.walk_result_of_reads answer_model h
  obtain ⟨settled, _, _, _, _, rfl, rfl, hsettled, hothers⟩ := walk_fields_cases hfields
  obtain ⟨made, roundAnswers, _, roundSaid, _, rfl, rfl, hrounds, hnames, hconcludes⟩ :=
    rounds_of_walk hsettled
  cases hconcludes with
  | faulty hround hname =>
      obtain ⟨rfl, rfl, rfl⟩ := hothers
      have hbroken := BrokenOff.field hmodel (.intro hrounds hnames hround hname)
      show BrokenOff _ _ _
      simpa using hbroken
  | @stopped stop hstop =>
      obtain ⟨withRest, restAnswers, _, restSaid, _, rfl, rfl, hrest, _, rfl, hlayout⟩ :=
        Dialogue.walk_result_of_reads (answer_rest model _) hothers
      obtain ⟨layout, layoutAnswers, _, layoutSaid, _, rfl, rfl, hchosen, rfl, rfl, rfl⟩ :=
        Dialogue.walk_result_of_reads (answer_layout model _ withRest) hlayout
      have hconversation := Conversation.intro (r := ⟨model, made, layout, language, withRest⟩)
        hmodel hrounds hstop hrest hchosen
      have hne := hconversation.model_ne_nil
      simp only [List.append_assoc, List.cons_append, List.nil_append, List.map_cons, List.map_nil,
        List.append_nil] at hconversation ⊢
      cases hname : model.isUnicode with
      | true =>
          rw [Request.make_of_isUnicode hname hne]
          exact ⟨rfl, ⟨hname, hnames⟩, hconversation⟩
      | false =>
          rw [Request.make_of_not_isUnicode hname]
          exact .model hconversation hnames hname

/-- **The interviews that come to a request are the conversations about it.** -/
theorem walk_iff_conversation {r : Request} {answers : List Answer} {said : List Saying} :
    Walk (request language) .model answers said (.result (.ok r)) ↔
      r.language = language ∧ r.Named ∧ Conversation r answers said := by
  refine ⟨ends_of_walk, ?_⟩
  rintro ⟨rfl, hnamed, h⟩
  have hwalk := h.walk hnamed.fields r.language
  rwa [Request.make_of_isUnicode hnamed.model h.model_ne_nil] at hwalk

/-- **The interviews that a fault ends are the broken conversations.** -/
theorem walk_iff_brokenOff {faults : List Fault} {answers : List Answer} {said : List Saying} :
    Walk (request language) .model answers said (.result (.error faults)) ↔
      BrokenOff faults answers said :=
  ⟨ends_of_walk, fun h => h.walk language⟩

/-! ## Interviews that lack answers -/

/-- A point from which answers lead to a result, with more to be said than the open question unless
the result is the fault of a field. -/
def CanEnd (language : Language) (point : Point) : Prop :=
  ∃ more said result,
    Walk (request language) point more (.asked point.question.text :: said) (.result result) ∧
      (said = [] → ∃ faults, result = .error faults ∧ faults ≠ [.ofName "model_name"])

/-- One more answer leads on from a point to one from which the interview can end. -/
theorem CanEnd.next {language : Language} {p p' : Point} {a : Answer} {announcements : List Text}
    (h : CanEnd language p')
    (hanswer : (request language).answer p a = .next p' announcements) : CanEnd language p := by
  obtain ⟨more, said, result, hwalk, -⟩ := h
  exact ⟨a :: more, announcements.map Saying.announced ++ .asked p'.question.text :: said, result,
    .next hanswer hwalk, fun hnil => by simp at hnil⟩

theorem canEnd_layout (language : Language) (model : Text) (settled : List Field)
    (withRest : Bool) : CanEnd language (.layout model settled withRest) := by
  -- The layout can be refused once.
  have hrefused : Answer.layout (some "x".text) = .error (.treeInvalid "x".text) := rfl
  have hread : Answer.layout (some "t".text) = .ok .byType := rfl
  have hasked : AskedUntilRead Question.layout.text Answer.layout .byType _ _ :=
    .refused hrefused (.read hread)
  exact ⟨_, _, _, hasked.walk_result (d := request language) (p := .layout model settled withRest)
    (answer_layout model settled withRest) rfl, by simp⟩

theorem canEnd_name (language : Language) (model : Text) (settled : List Field) :
    CanEnd language (.fields model (.name settled)) :=
  ((canEnd_layout language model settled true).next (p := .rest model settled) (a := none)
    rfl).next (a := none) rfl

/-- Where an answer settles the field in hand the interview can end, with that field if need be. -/
theorem canEnd_of_settle {language : Language} {model : Text} {settled : List Field}
    {point : FieldPoint} {name : Text} {word : TypeWord} {reference : Text} {a : Answer}
    (hanswer : fields.answer point a = settle settled name word reference) :
    CanEnd language (.fields model point) := by
  rw [settle] at hanswer
  cases hmake : Field.make name word false reference with
  | ok f =>
      rw [hmake] at hanswer
      exact (canEnd_name language model _).next (answer_fields hanswer model)
  | error faults =>
      rw [hmake] at hanswer
      refine ⟨[a], [], .error faults, .done (answer_fields hanswer model), fun _ =>
        ⟨faults, rfl, ?_⟩⟩
      rintro rfl
      exact absurd (Field.place_of_make_eq_error hmake) (by decide)

/-- **Every interview can be led to an end.** -/
theorem canEnd (language : Language) (point : Point) : CanEnd language point := by
  cases point with
  | model => exact (canEnd_name language "P".text []).next (a := some "P".text) rfl
  | rest model settled =>
      exact (canEnd_layout language model settled true).next (a := none) rfl
  | layout model settled withRest => exact canEnd_layout language model settled withRest
  | fields model point =>
      cases point with
      | name settled => exact canEnd_name language model settled
      | type settled name => exact canEnd_of_settle (a := none) rfl
      | reference settled name => exact canEnd_of_settle (a := none) rfl

theorem Rounds.concat {fs : List Field} {f : Field} {answers more : List Answer}
    {said later : List Saying} (h : Rounds fs answers said) (hround : Round f more later) :
    Rounds (fs ++ [f]) (answers ++ more) (said ++ later) := by
  induction h with
  | nil =>
      have hrounds := Rounds.cons hround .nil
      simpa using hrounds
  | cons hfirst hrounds ih =>
      rw [List.append_assoc, List.append_assoc]
      exact .cons hfirst ih

/-- **A broken conversation is the beginning of a conversation**, about a request that cannot be
made. -/
theorem BrokenOff.begins {faults : List Fault} {answers : List Answer} {said : List Saying}
    (h : BrokenOff faults answers said) (language : Language) :
    ∃ r more later, r.language = language ∧ Conversation r (answers ++ more) (said ++ later) ∧
      (faults ≠ [.ofName "model_name"] → later ≠ []) := by
  cases h with
  | @field model _ _ _ _ hmodel hbroken =>
      obtain @⟨fs, f, _, _, _, _, hrounds, hfields, hround, hname⟩ := hbroken
      -- Whatever the request is about otherwise, the usual answers bring it to its end.
      have hstop : Answer.stripped none = [] := rfl
      have hrest : AskedUntilRead Question.rest.text Answer.wantsRest true [none] _ := .read rfl
      have hlayout : AskedUntilRead Question.layout.text Answer.layout .byType [none] _ := .read rfl
      have hconversation : Conversation ⟨model, fs ++ [f], .byType, language, true⟩ _ _ :=
        .intro hmodel (hrounds.concat hround) hstop hrest hlayout
      simp only [List.append_assoc, List.cons_append, List.nil_append] at hconversation ⊢
      exact ⟨_, [none, none, none], _, rfl, hconversation, by simp⟩
  | @model r _ _ hconversation hfields hname =>
      refine ⟨{ r with language := language }, [], [], rfl, ?_, by simp⟩
      obtain ⟨hmodel, hrounds, hstop, hrest, hlayout⟩ := hconversation
      simpa using Conversation.intro (r := { r with language := language }) hmodel hrounds hstop
        hrest hlayout

/-- An interview that has an open question can become a conversation in which more is said. -/
theorem exists_longer_conversation {language : Language} {point : Point} {answers : List Answer}
    {said : List Saying} (h : Walk (request language) .model answers said (.point point)) :
    ∃ r more later, r.language = language ∧ later ≠ [] ∧
      Conversation r (answers ++ more) (said ++ .asked point.question.text :: later) := by
  obtain ⟨more, later, result, hend, hlast⟩ := canEnd language point
  have hends := ends_of_walk (h.append hend)
  cases result with
  | ok r =>
      obtain ⟨hlanguage, -, hconversation⟩ := hends
      exact ⟨r, more, later, hlanguage, fun hnil => by simpa using hlast hnil, hconversation⟩
  | error faults =>
      obtain ⟨r, others, last, hlanguage, hconversation, hlonger⟩ := BrokenOff.begins hends language
      refine ⟨r, more ++ others, later ++ last, hlanguage, fun hnil => ?_, ?_⟩
      · obtain ⟨rfl, hlastNil⟩ := List.append_eq_nil_iff.1 hnil
        obtain ⟨faults', hfaults, hfield⟩ := hlast rfl
        obtain rfl := Except.error.inj hfaults
        exact hlonger hfield hlastNil
      · simpa using hconversation

/-! ## The log -/

/-- **The log follows the protocol.** An interview that comes to a request has led a conversation
about it through the answers that it has used, with one question for each; every conversation about
a request with names is led so, whatever answers follow it. The log of an interview that lacks
answers is the beginning of a longer conversation. And an interview that does not report comes to
the same request, leaves the same answers and puts the same questions. -/
theorem log_follows_protocol (language : Language) (answers : List Answer) :
    let t := collectRequest language true answers
    let silent := collectRequest language false answers
    (∀ r, t.result = some (.ok r) →
      r.language = language ∧ ∃ used, answers = used ++ t.unused ∧ Conversation r used t.log ∧
        (t.log.filter Saying.isQuestion).length = used.length) ∧
    (∀ r used said, r.language = language → r.Named → Conversation r used said →
      collectRequest language true (used ++ answers) = ⟨some (.ok r), said, answers⟩) ∧
    (t.result = none →
      ∃ r more said, r.language = language ∧ Conversation r (answers ++ more) said ∧
        t.log <+: said ∧ t.log ≠ said) ∧
    silent.result = t.result ∧ silent.unused = t.unused ∧
      silent.log = t.log.filter Saying.isQuestion := by
  refine ⟨?_, ?_, ?_, ?_⟩
  · intro r hresult
    obtain ⟨used, hused, hwalk⟩ := Dialogue.walk_of_result_eq_some hresult
    obtain ⟨hlanguage, -, hconversation⟩ := walk_iff_conversation.1 hwalk
    exact ⟨hlanguage, used, hused, hconversation, hwalk.count_questions⟩
  · intro r used said hlanguage hnamed hconversation
    have hwalk := walk_iff_conversation.2 ⟨hlanguage, hnamed, hconversation⟩
    exact Dialogue.run_of_walk_result hwalk answers
  · intro hresult
    obtain ⟨said, point, hwalk, hrun⟩ := Dialogue.walk_of_result_eq_none hresult
    obtain ⟨r, more, later, hlanguage, hlater, hconversation⟩ := exists_longer_conversation hwalk
    have hlog : (collectRequest language true answers).log =
        said ++ [.asked point.question.text] := congrArg Transcript.log hrun
    refine ⟨r, more, _, hlanguage, hconversation, ?_, ?_⟩
    · rw [hlog]
      exact ⟨later, by simp⟩
    · rw [hlog]
      intro heq
      exact hlater (by simpa using heq)
  · rw [collectRequest, Dialogue.run_silent]
    exact ⟨rfl, rfl, rfl⟩

end Interview

end Scaffold
