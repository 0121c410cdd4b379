/-
# Scaffold.Proofs.Program.Validation -- nothing is touched before everything is checked

A run either stops while it is prepared or passes with a plan. `Stops` and `Passes` are the rules
for that: which checks there are, in which order they come, and how a run ends that fails one of
them. Every run falls under one of the rules (`stops_or_passes`), and
`validation_precedes_generation` says what follows: a run that stops leaves the tree as it was, and
a run that passes leaves what generating its request leaves, with a status that says whether every
kind of file was written.

Some ways to end without a status are left. A field list that is given with the end mark in place of
a value is not refused but breaks the run off (`end_mark_has_no_status`), and so does a name that is
not made of characters, of which no check says anything. And a text that a run is to say can be one
that cannot be shown (`Console.Screen.said`): it has a joiner and is too wide to be cut, or it has a
surrogate and the screen is strict; then the run breaks off where it would have said the text.
-/

import Scaffold.Program
import Scaffold.Proofs.CommandLine.Reproduction
import Scaffold.Proofs.Console.Setting
import Scaffold.Proofs.Engine.Effect

namespace Scaffold

/-! ## What is said -/

/-- The text of a saying. -/
def Saying.text : Saying → Text
  | asked question => question
  | refused why => why.message
  | announced text => text

namespace Program

open CommandLine (Arguments ArgumentFailure)
open Console (Reasons FailsOnly)

/-- What cannot be shown of a few things, cannot be for one of these reasons. -/
def Shows (about : List Reasons) (shown : Shown) : Prop :=
  ∀ e, .error e ∈ shown → ∃ R ∈ about, FailsOnly R e

/-- A run breaks off for one of these reasons, at something that cannot be shown. -/
def BreaksOff (out : Outcome) (about : List Reasons) : Prop :=
  ∃ e, out.ending = .breakdown (.markup e) ∧ ∃ R ∈ about, FailsOnly R e

/-- A run ends in some way, or breaks off for one of these reasons. -/
def EndsIn (out : Outcome) (about : List Reasons) (ending : Ending) : Prop :=
  out.ending = ending ∨ BreaksOff out about

/-- What is said of a request that was asked for. -/
def saidOfRequest (r : Request) : List Text :=
  if r.fields = [] then []
  else
    match CommandLine.equivalentCommand? r with
    | some line => ["Equivalent command: ".text ++ line]
    | none => [noEquivalentCommand]

/-- What is said in the interview that an input leads. -/
def saidInInterview (a : Arguments) (c : Config) (input : Text) : List Text :=
  (interview a c input).log.map Saying.text

/-- What is said of generated files. -/
def saidOfReport (report : Engine.Report) : List Text :=
  (report.written.map fun x => "Created ".text ++ x.1.name ++ ": ".text ++ x.2.text) ++
    report.failed.map fun x =>
      "Failed to generate ".text ++ x.1.name ++ ": ".text ++ x.2.message

/-! ## The rules -/

/-- The failure of a check. -/
def failure? {α : Type} : Except ArgumentFailure α → Option ArgumentFailure
  | .ok _ => none
  | .error failure => some failure

/-- The first check that fails for arguments that describe a request, in this order: the layout of
the environment, the model's name, the field list, the layout of the arguments; and last, whether
the name can be one. -/
def firstFailure? (env : Environment) (a : Arguments) : Option ArgumentFailure :=
  [failure? ((Config.layoutOf (Config.Variable.layout.value env)).mapError .rejected),
    failure? ((Answer.modelName a.model.text?).mapError .rejected),
    failure? a.fieldList,
    failure? ((a.layoutOr .byType).mapError .rejected),
    failure? ((Checked.name "model_name" (Answer.stripped a.model.text?)).mapError .faulty)
    ].findSome? id

variable (words : List Text) (env : Environment) (input : Text)

/-- A run stops before anything is generated: how it ends, and what it says. -/
inductive Stops : Ending → List Text → Prop where
  /-- The command line cannot be read. -/
  | misread {e} (hparse : CommandLine.parse words = .error e) : Stops (.status 2) []
  /-- The command line asks how the program is called. -/
  | help (hparse : CommandLine.parse words = .ok .help) : Stops (.status 0) []
  /-- The command line asks for the version. -/
  | version (hparse : CommandLine.parse words = .ok .version) : Stops (.status 0) []
  /-- The arguments describe a request, and a check refuses it. -/
  | refused {a why} (hparse : CommandLine.parse words = .ok (.run a))
      (hdescribes : describesRequest a = true)
      (hfailure : firstFailure? env a = some (.rejected why)) : Stops (.status 1) [why.message]
  /-- The arguments describe a request, and its field list is the end mark. -/
  | endMark {a} (hparse : CommandLine.parse words = .ok (.run a))
      (hdescribes : describesRequest a = true)
      (hfailure : firstFailure? env a = some .fieldsEmpty) : Stops (.breakdown .fieldsEmpty) []
  /-- The arguments describe a request, and a name in it cannot be one. -/
  | faulty {a faults} (hparse : CommandLine.parse words = .ok (.run a))
      (hdescribes : describesRequest a = true)
      (hfailure : firstFailure? env a = some (.faulty faults)) :
      Stops (.breakdown (.faulty faults)) []
  /-- The arguments describe no request, and the environment is refused. -/
  | environment {a why} (hparse : CommandLine.parse words = .ok (.run a))
      (hdescribes : describesRequest a = false)
      (hconfig : Config.ofEnvironment env = .error why) : Stops (.status 1) [why.message]
  /-- The arguments describe no request, and the answers run out. -/
  | unanswered {a c} (hparse : CommandLine.parse words = .ok (.run a))
      (hdescribes : describesRequest a = false) (hconfig : Config.ofEnvironment env = .ok c)
      (hresult : (interview a c input).result = none) :
      Stops (.status 1) (saidInInterview a c input ++ ["Aborted.".text])
  /-- The arguments describe no request, and a name in the answers cannot be one. -/
  | faultyAnswer {a c faults} (hparse : CommandLine.parse words = .ok (.run a))
      (hdescribes : describesRequest a = false) (hconfig : Config.ofEnvironment env = .ok c)
      (hresult : (interview a c input).result = some (.error faults)) :
      Stops (.breakdown (.faulty faults)) (saidInInterview a c input)

/-- A plan follows arguments and defaults: the files go where the arguments say, unless they say
nothing or an empty text, and the templates come from where the environment says. -/
structure Plan.Follows (p : Plan) (a : Arguments) (c : Config) (r : Request) : Prop where
  request : p.request = r
  given : ∀ s, a.output = .value s → s ≠ [] → p.output = .ofText s
  notGiven : (∀ s, a.output = .value s → s = []) → p.output = c.output
  bundled : c.templates = none → p.templates = .bundled
  directory : ∀ path, c.templates = some path → p.templates = .directory path

/-- A run passes with a plan: what it says on the way. -/
inductive Passes : Plan → List Text → Prop where
  /-- The arguments describe a request. -/
  | described {a c r p} (hparse : CommandLine.parse words = .ok (.run a))
      (hdescribes : describesRequest a = true) (hconfig : Config.ofEnvironment env = .ok c)
      (hrequest : a.request c = .ok r) (hplan : p.Follows a c r) : Passes p []
  /-- The answers describe a request. -/
  | answered {a c r p} (hparse : CommandLine.parse words = .ok (.run a))
      (hdescribes : describesRequest a = false) (hconfig : Config.ofEnvironment env = .ok c)
      (hresult : (interview a c input).result = some (.ok r)) (hplan : p.Follows a c r) :
      Passes p (saidInInterview a c input ++ saidOfRequest r)

variable {screen : Console.Screen} {words env input}

/-! ## Showing -/

namespace Shows

variable {about others : List Reasons} {shown more : Shown}

theorem mono (h : Shows about shown) (hsub : about ⊆ others) : Shows others shown := by
  intro e he
  obtain ⟨R, hR, hfails⟩ := h e he
  exact ⟨R, hsub hR, hfails⟩

theorem append (h : Shows about shown) (h' : Shows others more) :
    Shows (about ++ others) (shown ++ more) := by
  intro e he
  rcases List.mem_append.1 he with he | he
  · exact h.mono (List.subset_append_left ..) e he
  · exact h'.mono (List.subset_append_right ..) e he

theorem map_append {texts later : List Text} {f : Text → Reasons} (h : Shows (texts.map f) shown)
    (h' : Shows (later.map f) more) : Shows ((texts ++ later).map f) (shown ++ more) := by
  rw [List.map_append]
  exact h.append h'

theorem nil : Shows [] [] := fun _ he => absurd he List.not_mem_nil

theorem map {α : Type} {f : α → Reasons} {g : α → Except Console.MarkupError Text}
    (h : ∀ x, Shows [f x] [g x]) (xs : List α) : Shows (xs.map f) (xs.map g) := by
  induction xs with
  | nil => exact nil
  | cons x xs ih => exact (h x).append ih

/-- A single thing that fails for one reason only. -/
theorem of_failsOnly {R : Reasons} {x : Except Console.MarkupError Text}
    (h : ∀ e, x = .error e → FailsOnly R e) : Shows [R] [x] :=
  fun e he => ⟨R, List.mem_singleton_self R, h e (List.mem_singleton.1 he).symm⟩

theorem message (tone : Console.Tone) (s : Text) : Shows [screen.said s] [screen.message tone s] :=
  of_failsOnly fun _ => Console.failsOnly_of_message

theorem saying (x : Saying) : Shows [screen.said x.text] [shownSaying screen x] := by
  cases x with
  | asked question => exact of_failsOnly fun _ => Console.failsOnly_of_prompt
  | refused why => exact message .error why.message
  | announced text => exact message .info text

theorem interview (a : Arguments) (c : Config) (input : Text) :
    Shows ((saidInInterview a c input).map screen.said)
      ((Program.interview a c input).log.map (shownSaying screen)) := by
  rw [saidInInterview, List.map_map]
  exact map saying _

theorem request (r : Request) :
    Shows ((saidOfRequest r).map screen.said) (shownCommand screen r) := by
  unfold saidOfRequest shownCommand
  split
  · exact nil
  · cases CommandLine.equivalentCommand? r with
    | some line => exact message .info _
    | none => exact message .warning _

theorem report (made : Engine.Report) :
    Shows ((saidOfReport made).map screen.said) (shownReport screen made) := by
  rw [saidOfReport, List.map_append, List.map_map, List.map_map]
  exact (map (fun _ => message .success _) _).append (map (fun _ => message .error _) _)

end Shows

/-- What stops a console is among what was to be shown. -/
theorem mem_of_printed {shown : Shown} {e : Console.MarkupError}
    (h : (printed shown).2 = some e) : .error e ∈ shown := by
  induction shown with
  | nil => simp [printed] at h
  | cons x shown ih =>
      cases x with
      | error e' =>
          obtain rfl := Option.some.inj h
          exact List.mem_cons_self ..
      | ok s => exact List.mem_cons_of_mem _ (ih h)

theorem exists_of_error_mem {shown : Shown} {e : Console.MarkupError} (h : .error e ∈ shown) :
    ∃ e', (printed shown).2 = some e' := by
  induction shown with
  | nil => simp at h
  | cons x shown ih =>
      cases x with
      | error e' => exact ⟨e', rfl⟩
      | ok s => exact ih (by simpa using h)

theorem tree_finish (ending : Ending) (shown : Shown) (complaint : Text) (tree : FileTree) :
    (finish ending shown complaint tree).tree = tree := by
  unfold finish
  split <;> rfl

theorem endsIn_finish {about : List Reasons} {shown : Shown} (h : Shows about shown)
    (ending : Ending) (complaint : Text) (tree : FileTree) :
    EndsIn (finish ending shown complaint tree) about ending := by
  unfold finish
  split
  · exact .inl rfl
  · rename_i e hprinted
    exact .inr ⟨e, rfl, h e (mem_of_printed (by rw [hprinted]))⟩

/-! ## Checking -/

/-- Which layout stands in for an absent one makes no difference to the check. -/
theorem failure?_layoutOr (a : Arguments) (l l' : Layout) :
    failure? ((a.layoutOr l).mapError .rejected) =
      failure? ((a.layoutOr l').mapError .rejected) := by
  unfold Arguments.layoutOr
  split <;> rfl

theorem layoutOf_eq_error {why : Rejection} (h : Config.ofEnvironment env = .error why) :
    Config.layoutOf (Config.Variable.layout.value env) = .error why := by
  unfold Config.ofEnvironment at h
  cases hlayout : Config.layoutOf (Config.Variable.layout.value env) with
  | error why' =>
      rw [hlayout] at h
      rw [Except.error.inj h]
  | ok layout => simp [hlayout] at h

theorem exists_layoutOf_eq_ok {c : Config} (h : Config.ofEnvironment env = .ok c) :
    ∃ layout, Config.layoutOf (Config.Variable.layout.value env) = .ok layout := by
  cases hlayout : Config.layoutOf (Config.Variable.layout.value env) with
  | error why => simp [Config.ofEnvironment, hlayout] at h
  | ok layout => exact ⟨layout, rfl⟩

/-- A refused environment comes first. -/
theorem firstFailure?_of_config {a : Arguments} {why : Rejection}
    (h : Config.ofEnvironment env = .error why) : firstFailure? env a = some (.rejected why) := by
  rw [firstFailure?, layoutOf_eq_error h]
  rfl

/-- Behind the environment come the checks of the arguments. -/
theorem firstFailure?_eq {a : Arguments} {c : Config} (h : Config.ofEnvironment env = .ok c) :
    firstFailure? env a = failure? (a.request c) := by
  obtain ⟨layout, hlayout⟩ := exists_layoutOf_eq_ok h
  -- The layout of the environment only stands in for an absent one, and no check looks at that.
  rw [firstFailure?, hlayout, failure?_layoutOr a .byType c.layout, Arguments.request]
  cases hmodel : Answer.modelName a.model.text? with
  | error why => rfl
  | ok model =>
      obtain ⟨rfl, -⟩ := Answer.modelName_eq_ok_iff.1 hmodel
      cases a.fieldList with
      | error failure => rfl
      | ok fields =>
          cases (a.layoutOr c.layout).mapError ArgumentFailure.rejected with
          | error failure => rfl
          | ok layout =>
              show [failure? ((Checked.name _ _).mapError _)].findSome? id =
                failure? ((Request.make _ _ _ _ _).mapError _)
              rw [Request.make]
              cases Checked.name "model_name" (Answer.stripped a.model.text?) <;> rfl

theorem request_of_failure? {a : Arguments} {c : Config} {failure : ArgumentFailure}
    (h : failure? (a.request c) = some failure) : a.request c = .error failure := by
  cases hrequest : a.request c with
  | error failure' =>
      rw [hrequest] at h
      exact congrArg Except.error (Option.some.inj h)
  | ok r => simp [hrequest, failure?] at h

/-- How a run ends whose arguments fail a check. -/
def stopped (screen : Console.Screen) : ArgumentFailure → Prepared
  | .rejected why => refused screen why []
  | .faulty faults => .ended (.breakdown (.faulty faults)) [] []
  | .fieldsEmpty => .ended (.breakdown .fieldsEmpty) [] []

/-- Arguments that describe a request stop at the first check that fails. -/
theorem prepare_of_firstFailure? {a : Arguments} {failure : ArgumentFailure}
    (hparse : CommandLine.parse words = .ok (.run a)) (hdescribes : describesRequest a = true)
    (h : firstFailure? env a = some failure) :
    prepare screen words env input = stopped screen failure := by
  rw [prepare, hparse]
  cases hconfig : Config.ofEnvironment env with
  | error why =>
      obtain rfl := Option.some.inj ((firstFailure?_of_config hconfig).symm.trans h)
      rfl
  | ok c =>
      rw [firstFailure?_eq hconfig] at h
      simp only [prepareWith, hdescribes, if_true, request_of_failure? h]
      cases failure <;> rfl

/-- A run that stops is prepared to end so, and to say that. -/
theorem prepare_of_stops (screen : Console.Screen) {ending : Ending} {texts : List Text}
    (h : Stops words env input ending texts) :
    ∃ shown complaint, prepare screen words env input = .ended ending shown complaint ∧
      Shows (texts.map screen.said) shown := by
  cases h with
  | misread hparse => exact ⟨[], _, by rw [prepare, hparse], .nil⟩
  | help hparse => exact ⟨[.ok CommandLine.helpText], [], by rw [prepare, hparse], by simp [Shows]⟩
  | version hparse =>
      exact ⟨[.ok CommandLine.versionText], [], by rw [prepare, hparse], by simp [Shows]⟩
  | refused hparse hdescribes hfailure =>
      exact ⟨_, [], prepare_of_firstFailure? hparse hdescribes hfailure, .message .error _⟩
  | endMark hparse hdescribes hfailure =>
      exact ⟨[], [], prepare_of_firstFailure? hparse hdescribes hfailure, .nil⟩
  | faulty hparse hdescribes hfailure =>
      exact ⟨[], [], prepare_of_firstFailure? hparse hdescribes hfailure, .nil⟩
  | environment hparse hdescribes hconfig =>
      refine ⟨_, [], ?_, .message .error _⟩
      rw [prepare, hparse, hconfig]
      rfl
  | unanswered hparse hdescribes hconfig hresult =>
      refine ⟨_, [], ?_, (Shows.interview _ _ _).map_append (.message .error _)⟩
      rw [prepare, hparse, hconfig]
      simp only [prepareWith, hdescribes, hresult]
      rfl
  | faultyAnswer hparse hdescribes hconfig hresult =>
      refine ⟨_, [], ?_, Shows.interview _ _ _⟩
      rw [prepare, hparse, hconfig]
      simp only [prepareWith, hdescribes, hresult]
      rfl

theorem follows_plan (a : Arguments) (c : Config) (r : Request) : (plan a c r).Follows a c r where
  request := rfl
  given s hs hne := by
    obtain ⟨d, t, rfl⟩ := List.exists_cons_of_ne_nil hne
    rw [plan, hs]
    rfl
  notGiven h := by
    cases houtput : a.output with
    | absent => rw [plan, houtput]; rfl
    | empty => rw [plan, houtput]; rfl
    | value s =>
        obtain rfl := h s houtput
        rw [plan, houtput]
        rfl
  bundled h := by rw [plan, h]
  directory path h := by rw [plan, h]

/-- Only one plan follows arguments and defaults. -/
theorem Plan.Follows.eq_plan {p : Plan} {a : Arguments} {c : Config} {r : Request}
    (h : p.Follows a c r) : p = plan a c r := by
  have hplan := follows_plan a c r
  have houtput : p.output = (plan a c r).output := by
    by_cases hgiven : ∃ s, a.output = .value s ∧ s ≠ []
    · obtain ⟨s, hs, hne⟩ := hgiven
      rw [h.given s hs hne, hplan.given s hs hne]
    · have hnot : ∀ s, a.output = .value s → s = [] := fun s hs =>
        by_contra fun hne => hgiven ⟨s, hs, hne⟩
      rw [h.notGiven hnot, hplan.notGiven hnot]
  have htemplates : p.templates = (plan a c r).templates := by
    cases hsource : c.templates with
    | none => rw [h.bundled hsource, hplan.bundled hsource]
    | some path => rw [h.directory path hsource, hplan.directory path hsource]
  calc
    p = ⟨p.request, p.output, p.templates⟩ := rfl
    _ = ⟨r, (plan a c r).output, (plan a c r).templates⟩ := by rw [h.request, houtput, htemplates]
    _ = plan a c r := rfl

/-- A run that passes is prepared to carry out its plan, after saying that. -/
theorem prepare_of_passes (screen : Console.Screen) {p : Plan} {texts : List Text}
    (h : Passes words env input p texts) :
    ∃ shown, prepare screen words env input = .planned p shown ∧
      Shows (texts.map screen.said) shown := by
  cases h with
  | described hparse hdescribes hconfig hrequest hplan =>
      refine ⟨[], ?_, .nil⟩
      rw [prepare, hparse, hconfig, hplan.eq_plan]
      simp only [prepareWith, hdescribes, if_true, hrequest]
  | answered hparse hdescribes hconfig hresult hplan =>
      refine ⟨_, ?_, (Shows.interview _ _ _).map_append (.request _)⟩
      rw [prepare, hparse, hconfig, hplan.eq_plan]
      simp only [prepareWith, hdescribes, hresult]
      rfl

/-- **The rules leave no run out.** -/
theorem stops_or_passes (words : List Text) (env : Environment) (input : Text) :
    (∃ ending texts, Stops words env input ending texts) ∨
      ∃ p texts, Passes words env input p texts := by
  cases hparse : CommandLine.parse words with
  | error e => exact .inl ⟨_, _, .misread hparse⟩
  | ok command =>
      cases command with
      | help => exact .inl ⟨_, _, .help hparse⟩
      | version => exact .inl ⟨_, _, .version hparse⟩
      | run a =>
          cases hdescribes : describesRequest a with
          | true =>
              cases hfailure : firstFailure? env a with
              | some failure =>
                  cases failure with
                  | rejected why => exact .inl ⟨_, _, .refused hparse hdescribes hfailure⟩
                  | faulty faults => exact .inl ⟨_, _, .faulty hparse hdescribes hfailure⟩
                  | fieldsEmpty => exact .inl ⟨_, _, .endMark hparse hdescribes hfailure⟩
              | none =>
                  cases hconfig : Config.ofEnvironment env with
                  | error why => simp [firstFailure?_of_config hconfig] at hfailure
                  | ok c =>
                      cases hrequest : a.request c with
                      | error failure =>
                          simp [firstFailure?_eq hconfig, hrequest, failure?] at hfailure
                      | ok r =>
                          exact .inr ⟨_, _, .described hparse hdescribes hconfig hrequest
                            (follows_plan a c r)⟩
          | false =>
              cases hconfig : Config.ofEnvironment env with
              | error why => exact .inl ⟨_, _, .environment hparse hdescribes hconfig⟩
              | ok c =>
                  cases hresult : (interview a c input).result with
                  | none => exact .inl ⟨_, _, .unanswered hparse hdescribes hconfig hresult⟩
                  | some made =>
                      cases made with
                      | error faults =>
                          exact .inl ⟨_, _, .faultyAnswer hparse hdescribes hconfig hresult⟩
                      | ok r =>
                          exact .inr ⟨_, _, .answered hparse hdescribes hconfig hresult
                            (follows_plan a c r)⟩

/-! ## Running -/

/-- A run that stops leaves the tree as it was. -/
theorem run_of_stops (screen : Console.Screen) {ending : Ending} {texts : List Text}
    (h : Stops words env input ending texts) (tree : FileTree) :
    (run screen words env input tree).tree = tree ∧
      EndsIn (run screen words env input tree) (texts.map screen.said) ending := by
  obtain ⟨shown, complaint, hended, hshows⟩ := prepare_of_stops screen h
  rw [run, hended]
  exact ⟨tree_finish .., endsIn_finish hshows ..⟩

/-- A table that cannot be shown ends a run before it has touched anything. -/
theorem run_of_faulty_table {p : Plan} {texts : List Text} {e : Console.MarkupError}
    (h : Passes words env input p texts)
    (htable : screen.fieldsTable p.request.model p.request.fields = .error e) (tree : FileTree) :
    (run screen words env input tree).tree = tree ∧
      ∃ e', (run screen words env input tree).ending = .breakdown (.markup e') := by
  obtain ⟨shown, hprepare, -⟩ := prepare_of_passes screen h
  have hmem : .error e ∈ shown ++ [.error e] := by simp
  obtain ⟨e', he'⟩ := exists_of_error_mem hmem
  rw [run, hprepare]
  simp only [Plan.run, htable]
  split
  · exact ⟨rfl, _, rfl⟩
  · rename_i hprinted
    rw [hprinted] at he'
    simp at he'

/-- A run goes on to generate files: it leaves what that leaves, and ends as its outcome tells. -/
structure GoesOn (screen : Console.Screen) (out : Outcome)
    (ran : Engine.Ran (Except Failure Engine.Report)) : Prop where
  tree : out.tree = ran.tree
  failed : ∀ failure, ran.outcome = .error failure →
    out.ending = .breakdown (.generation failure)
  reported : ∀ made, ran.outcome = .ok made → EndsIn out ((saidOfReport made).map screen.said)
    (.status (if made.success then 0 else 1))

/-- A run that passes goes on, unless something of what it says before or of its table cannot be
shown. -/
theorem run_of_shows_table {p : Plan} {texts : List Text} {about : List Reasons}
    (h : Passes words env input p texts)
    (htable : Shows about [screen.fieldsTable p.request.model p.request.fields])
    (tree : FileTree) :
    let out := run screen words env input tree
    out.tree = tree ∧ BreaksOff out (texts.map screen.said ++ about) ∨
      GoesOn screen out (Engine.generate { source := p.templates } tree p.output p.request) := by
  obtain ⟨shown, hprepare, hshows⟩ := prepare_of_passes screen h
  dsimp only
  rw [run, hprepare]
  simp only [Plan.run]
  split
  -- Something could not be shown before anything was generated.
  · rename_i e hprinted
    have hmem := mem_of_printed (congrArg Prod.snd hprinted)
    exact .inl ⟨rfl, e, rfl, hshows.append htable e hmem⟩
  -- All of that is shown, so only the report can still break the run off.
  · rename_i hprinted
    refine .inr ?_
    have hall : ∀ e,
        .error e ∉ shown ++ [screen.fieldsTable p.request.model p.request.fields] := by
      intro e he
      obtain ⟨e', he'⟩ := exists_of_error_mem he
      rw [hprinted] at he'
      simp at he'
    cases hran : (Engine.generate { source := p.templates } tree p.output p.request).outcome with
    | error failure =>
        refine ⟨tree_finish .., fun failure' hfailure => ?_, fun made hmade => ?_⟩
        · obtain rfl := Except.error.inj (hran.symm.trans hfailure)
          unfold finish
          rw [hprinted]
        · exact absurd (hran.symm.trans hmade) (by simp)
    | ok made =>
        refine ⟨tree_finish .., fun failure hfailure => ?_, fun made' hmade => ?_⟩
        · exact absurd (hran.symm.trans hfailure) (by simp)
        · obtain rfl := Except.ok.inj (hran.symm.trans hmade)
          refine endsIn_finish ?_ _ _ _
          have hsaid : Shows []
              (shown ++ [screen.fieldsTable p.request.model p.request.fields]) :=
            fun e he => absurd he (hall e)
          exact hsaid.append (.report made)

/-- What a run leaves that passes and can show its table. -/
theorem run_of_passes {p : Plan} {texts : List Text} {table : Text}
    (h : Passes words env input p texts)
    (htable : screen.fieldsTable p.request.model p.request.fields = .ok table) (tree : FileTree) :
    let out := run screen words env input tree
    out.tree = tree ∧ BreaksOff out (texts.map screen.said) ∨
      GoesOn screen out (Engine.generate { source := p.templates } tree p.output p.request) := by
  have hshows : Shows [] [screen.fieldsTable p.request.model p.request.fields] := by
    rw [htable]
    intro e he
    simp at he
  have hrun := run_of_shows_table h hshows tree
  rwa [List.append_nil] at hrun

/-- **Everything is checked before anything is touched.** Every run either stops or passes. A run
that stops ends with its status and leaves the tree as it was. A run that passes leaves what
generating its request leaves, and ends with status 0 if every kind of file was written and with 1
if not; only where the table of the fields or a text that it says cannot be shown it breaks off
before that. And where the arguments describe a request, the input does not matter, and what is
reported is the first check that fails. -/
theorem validation_precedes_generation (screen : Console.Screen) (words : List Text)
    (env : Environment) (input : Text) (tree : FileTree) :
    let out := run screen words env input tree
    ((∃ ending texts, Stops words env input ending texts) ↔
      ¬∃ p texts, Passes words env input p texts) ∧
    (∀ ending texts, Stops words env input ending texts →
      out.tree = tree ∧ EndsIn out (texts.map screen.said) ending) ∧
    (∀ p texts, Passes words env input p texts →
      let ran := Engine.generate { source := p.templates } tree p.output p.request
      (∀ e, screen.fieldsTable p.request.model p.request.fields = .error e →
        out.tree = tree ∧ ∃ e', out.ending = .breakdown (.markup e')) ∧
      ∀ table, screen.fieldsTable p.request.model p.request.fields = .ok table →
        out.tree = tree ∧ BreaksOff out (texts.map screen.said) ∨
        out.tree = ran.tree ∧
          (∀ failure, ran.outcome = .error failure →
            out.ending = .breakdown (.generation failure)) ∧
          ∀ made, ran.outcome = .ok made → EndsIn out ((saidOfReport made).map screen.said)
            (.status (if ∀ k ∈ p.request.artifacts, k ∈ made.written.map Prod.fst then 0 else 1))) ∧
    ∀ a, CommandLine.parse words = .ok (.run a) → describesRequest a = true →
      (∀ input', run screen words env input' tree = out) ∧
      ∀ why, firstFailure? env a = some (.rejected why) →
        ∀ said, screen.message .error why.message = .ok said →
          out = ⟨.status 1, said, [], tree⟩ := by
  refine ⟨⟨?_, fun h => ?_⟩, fun ending texts h => run_of_stops screen h tree,
    fun p texts h => ⟨fun e he => run_of_faulty_table h he tree, fun table htable => ?_⟩,
    fun a hparse hdescribes => ⟨fun input' => ?_, fun why hfailure said hsaid => ?_⟩⟩
  · rintro ⟨ending, texts, hstops⟩ ⟨p, texts', hpasses⟩
    obtain ⟨shown, complaint, hended, -⟩ := prepare_of_stops screen hstops
    obtain ⟨shown', hplanned, -⟩ := prepare_of_passes screen hpasses
    exact absurd (hended.symm.trans hplanned) (by simp)
  · exact (stops_or_passes words env input).resolve_right h
  · refine (run_of_passes h htable tree).imp_right fun hran =>
      ⟨hran.tree, hran.failed, fun made hmade => ?_⟩
    have hends := hran.reported made hmade
    simpa only [Engine.success_iff hmade] using hends
  · simp only [run, prepare, hparse, prepareWith, hdescribes, if_true]
  · rw [run, prepare_of_firstFailure? hparse hdescribes hfailure, stopped, refused, hsaid]
    simp [finish, printed]

/-- A value in the same word as its switch is taken as it stands, but for the end mark. -/
theorem interpretFrom_attached {s : CommandLine.Switch} (hs : s.takesValue) (a : Arguments)
    (word spelling value : Text) (rest : List (Text × CommandLine.Reading)) :
    CommandLine.interpretFrom 0 a [] ((word, .switch s spelling (some value)) :: rest) =
      CommandLine.interpretFrom 0 (a.add s (.ofAttached value)) [] rest := by
  rw [CommandLine.interpretFrom, CommandLine.cluster.eq_def]
  cases s <;> first | exact absurd hs (by decide) | rfl

/-- The command line that gives a model and, in one word with its switch, the end mark as its field
list. -/
def endMarkWords : List Text := ["-m".text, "P".text, "--fields=--".text]

/-- **A field list that is the end mark is not refused**: the command line is read, the environment
is fine and a model is named, but the run ends without any status. -/
theorem end_mark_has_no_status :
    CommandLine.parse endMarkWords =
      .ok (.run { model := .value "P".text, fields := .empty }) ∧
    (∃ c, Config.ofEnvironment [] = .ok c) ∧
    ∀ screen code, (run screen endMarkWords [] [] {}).ending ≠ .status code := by
  have hparse : CommandLine.parse endMarkWords =
      .ok (.run { model := .value "P".text, fields := .empty }) := by
    have hwords : CommandLine.readWords endMarkWords =
        .ok [("-m".text, .switch .model "-m".text none), ("P".text, .operand),
          ("--fields=--".text, .switch .fields "--fields".text (some "--".text))] := by
      decide +kernel
    rw [CommandLine.parse, hwords]
    simp only [CommandLine.interpretFrom_value (s := .model) rfl,
      interpretFrom_attached (s := .fields) rfl]
    rfl
  have hfailure : firstFailure? [] { model := .value "P".text, fields := .empty } =
      some .fieldsEmpty := by decide +kernel
  have hstops : Stops endMarkWords [] [] (.breakdown .fieldsEmpty) [] :=
    .endMark hparse rfl hfailure
  refine ⟨hparse, ⟨_, rfl⟩, fun screen code h => ?_⟩
  rcases (run_of_stops screen hstops {}).2 with hending | ⟨e, hending, -⟩
  · exact absurd (hending.symm.trans h) (by simp)
  · exact absurd (hending.symm.trans h) (by simp)

end Program

end Scaffold
