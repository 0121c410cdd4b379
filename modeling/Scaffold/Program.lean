/-
# Scaffold.Program -- a whole run

A run has two halves. `prepare` reads the command line, the environment and, when neither a model
nor a field list is given, the answers of an interview, and comes either to an end or to a plan.
It has no file tree to look at, so nothing can be changed before everything is checked. `Plan.run`
then shows the fields, generates the files and reports on them.

A run ends with a status: 0 when every file was written or nothing was asked for, 1 when an input
was refused or a file was not written, 2 for a wrong command line. Four things make it stop without
one: a text that cannot be shown, a failure that is not reported beside the files, a field list
given without a value, and a name that cannot be one.

Everything is shown on one screen. What it is like decides how texts are set and which of them
cannot be shown, and nothing else.
-/

import Scaffold.CommandLine.Request
import Scaffold.Console.Table
import Scaffold.Engine
import Scaffold.Interview

namespace Scaffold.Program

/-! ## Ends -/

/-- What makes a run stop without a status. -/
inductive Breakdown where
  /-- A text that was to be shown and could not be. -/
  | markup (error : Console.MarkupError)
  /-- A failure that is not reported beside the files. -/
  | generation (failure : Failure)
  /-- A field list given with the end mark in place of a value. -/
  | fieldsEmpty
  /-- A name that cannot be one. -/
  | faulty (faults : List Fault)
  deriving DecidableEq, Repr

/-- How a run ends. -/
inductive Ending where
  | status (code : Nat)
  | breakdown (why : Breakdown)
  deriving DecidableEq, Repr

/-- Texts that are to be shown, one after another. -/
abbrev Shown := List (Except Console.MarkupError Text)

/-- The texts that can be shown, up to the first that cannot. -/
def printed : Shown → Text × Option Console.MarkupError
  | [] => ([], none)
  | .error e :: _ => ([], some e)
  | .ok s :: rest => (s ++ (printed rest).1, (printed rest).2)

/-! ## Preparation -/

/-- What a run is going to do. -/
structure Plan where
  request : Request
  output : Path
  templates : TemplateSource
  deriving DecidableEq, Repr

/-- Where the preparation leads. -/
inductive Prepared where
  /-- To the end of the run, with what it says on the error channel. -/
  | ended (ending : Ending) (shown : Shown) (complaint : Text)
  /-- To a plan. -/
  | planned (plan : Plan) (shown : Shown)

section

variable (screen : Console.Screen)

/-- What a saying of an interview shows. -/
def shownSaying : Saying → Except Console.MarkupError Text
  | .asked question => screen.prompt question
  | .refused why => screen.message .error why.message
  | .announced text => screen.message .info text

/-- What is said of a request that no command line makes. -/
def noEquivalentCommand : Text :=
  "No equivalent command: field names and references containing '".text ++
    Field.Spec.groupSeparator :: "' or '".text ++ Field.Spec.tokenSeparator ::
    "' cannot be passed with --fields".text

/-- What is shown of the command line that makes a request; nothing where it has no fields. -/
def shownCommand (r : Request) : Shown :=
  if r.fields = [] then []
  else
    match CommandLine.equivalentCommand? r with
    | some line => [screen.message .info ("Equivalent command: ".text ++ line)]
    | none => [screen.message .warning noEquivalentCommand]

/-- The answers in an input, one on each line. The last line need not be ended. -/
def answers (input : Text) : List Answer :=
  let lines := input.split '\n'
  (if lines.getLast? = some [] then lines.dropLast else lines).map some

/-- The end of a run whose input was refused. -/
def refused (why : Rejection) (shown : Shown) : Prepared :=
  .ended (.status 1) (shown ++ [screen.message .error why.message]) []

/-- The plan for a request, with the output directory of the arguments where they name one. -/
def plan (a : CommandLine.Arguments) (c : Config) (r : Request) : Plan where
  request := r
  output :=
    match a.output.text? with
    | some (s :: text) => .ofText (s :: text)
    | _ => c.output
  templates :=
    match c.templates with
    | some path => .directory path
    | none => .bundled

/-- Whether arguments describe a request themselves, so that nobody is asked. -/
def describesRequest (a : CommandLine.Arguments) : Bool := a.model.isGiven || a.fields.isGiven

/-- The interview that an input leads. -/
def interview (a : CommandLine.Arguments) (c : Config) (input : Text) :
    Transcript (Checked Request) :=
  Interview.collectRequest (a.languageOr c.language) true (answers input)

/-- Prepares a run from arguments and defaults. -/
def prepareWith (a : CommandLine.Arguments) (c : Config) (input : Text) : Prepared :=
  if describesRequest a then
    match a.request c with
    | .ok r => .planned (plan a c r) []
    | .error (.rejected why) => refused screen why []
    | .error (.faulty faults) => .ended (.breakdown (.faulty faults)) [] []
    | .error .fieldsEmpty => .ended (.breakdown .fieldsEmpty) [] []
  else
    let transcript := interview a c input
    let shown := transcript.log.map (shownSaying screen)
    match transcript.result with
    | none => .ended (.status 1) (shown ++ [screen.message .error "Aborted.".text]) []
    | some (.ok r) => .planned (plan a c r) (shown ++ shownCommand screen r)
    | some (.error faults) => .ended (.breakdown (.faulty faults)) shown []

/-- Prepares a run from its command line, its environment and its input. -/
def prepare (words : List Text) (env : Environment) (input : Text) : Prepared :=
  match CommandLine.parse words with
  | .error e => .ended (.status 2) [] e.text
  | .ok .help => .ended (.status 0) [.ok CommandLine.helpText] []
  | .ok .version => .ended (.status 0) [.ok CommandLine.versionText] []
  | .ok (.run a) =>
    match Config.ofEnvironment env with
    | .error why => refused screen why []
    | .ok c => prepareWith screen a c input

/-- What an interview has shown when it lacks another answer; nothing where no interview is held,
where it has come to its end, and where it has shown something that cannot be shown. -/
def awaiting? (words : List Text) (env : Environment) (input : Text) : Option Text :=
  match CommandLine.parse words, Config.ofEnvironment env with
  | .ok (.run a), .ok c =>
    let transcript := interview a c input
    match printed (transcript.log.map (shownSaying screen)) with
    | (text, none) =>
      if describesRequest a || transcript.result.isSome then none else some text
    | (_, some _) => none
  | _, _ => none

/-! ## Generation -/

/-- What is shown of generated files: those that were written, then those that were not. -/
def shownReport (report : Engine.Report) : Shown :=
  (report.written.map fun x =>
    screen.message .success ("Created ".text ++ x.1.name ++ ": ".text ++ x.2.text)) ++
  report.failed.map fun x =>
    screen.message .error
      ("Failed to generate ".text ++ x.1.name ++ ": ".text ++ x.2.message)

/-- What a run leaves behind. -/
structure Outcome where
  ending : Ending
  /-- What was shown on the console. -/
  output : Text
  /-- What was said on the error channel. -/
  complaint : Text
  tree : FileTree

/-- The end of a run that has shown all it had to show, unless something could not be shown. -/
def finish (ending : Ending) (shown : Shown) (complaint : Text) (tree : FileTree) : Outcome :=
  match printed shown with
  | (output, none) => ⟨ending, output, complaint, tree⟩
  | (output, some e) => ⟨.breakdown (.markup e), output, complaint, tree⟩

/-- Carries out a plan, after some things have been shown. -/
def Plan.run (p : Plan) (shown : Shown) (tree : FileTree) : Outcome :=
  let shown := shown ++ [screen.fieldsTable p.request.model p.request.fields]
  match printed shown with
  | (output, some e) => ⟨.breakdown (.markup e), output, [], tree⟩
  | (_, none) =>
    let ran := Engine.generate { source := p.templates } tree p.output p.request
    match ran.outcome with
    | .error failure => finish (.breakdown (.generation failure)) shown [] ran.tree
    | .ok report =>
      finish (.status (if report.success then 0 else 1)) (shown ++ shownReport screen report) []
        ran.tree

/-- The paths that carrying out a plan can look at: those of the files to be written and, where
the templates are in a directory, those of the templates. -/
def Plan.paths (p : Plan) : List Path :=
  p.request.artifacts.flatMap fun a =>
    let written := p.output.join (a.path p.request)
    match p.templates with
    | .bundled => [written]
    | .directory d => [written, d.join ⟨.here, [TemplateSource.fileName a p.request.language]⟩]

/-- A whole run. -/
def run (words : List Text) (env : Environment) (input : Text) (tree : FileTree) : Outcome :=
  match prepare screen words env input with
  | .ended ending shown complaint => finish ending shown complaint tree
  | .planned plan shown => plan.run screen shown tree

end

end Scaffold.Program
