/-
# Scaffold.Engine -- templates found, files generated

An engine takes its templates from the library or from a directory. It looks for a template the
first time it needs it and keeps the text from then on, so later changes to the file go unnoticed;
a template that could not be read is looked for again the next time.

Generating a request tries every kind of file that it asks for, one after another, and whatever
was written stays. What the file system refuses, a missing template included, is collected beside
the files that were written; any other failure is the outcome of the whole, once every kind has
been tried.
-/

import Scaffold.Artifact.Render
import Scaffold.FileTree
import Scaffold.Template.Bundled

namespace Scaffold

/-! ## Templates -/

/-- Where templates come from. -/
inductive TemplateSource where
  /-- The templates of the library. -/
  | bundled
  /-- The files of a directory. -/
  | directory (path : Path)
  deriving DecidableEq, Repr

/-- Why no file could be generated. -/
inductive Failure where
  /-- An operation on files failed. -/
  | file (failure : FileFailure)
  /-- There is no template of this name. -/
  | templateNotFound (name : Text) (searched : Path)
  /-- The template is no UTF-8. -/
  | notUtf8 (error : Text.Utf8Error)
  deriving DecidableEq, Repr

namespace Failure

/-- What is said of a failure. -/
def message : Failure → Text
  | file failure => failure.message
  | templateNotFound name searched =>
    "Template not found: ".text ++ name ++ " (searched ".text ++ searched.text ++ [chr ')']
  | notUtf8 error => error.message

/-- Whether a failure comes from the state of the file system, so that generating other files may
still make sense and the failure is reported beside them. -/
def isReported : Failure → Bool
  | file failure => failure.isRefusal
  | templateNotFound _ _ => true
  | notUtf8 _ => false

end Failure

namespace TemplateSource

/-- The path of a directory of templates as it is shown; the bundled ones have a name only. -/
def shownPath : TemplateSource → Path
  | bundled => .ofText "templates".text
  | directory path => path

/-- The parts of a template's name, which may lead into folders but never out of them. -/
def nameParts? (name : Text) : Option (List Text) :=
  let pieces := name.split '/'
  if pieces.contains Path.up then none else some (pieces.filter Path.isPart)

/-- The file name of the template of a kind of file. -/
def fileName (a : Artifact) (language : Language) : Text := a.name ++ chr '.' :: language.extension

/-- The bundled template with the given file name. -/
def bundledNamed? (fileName' : Text) : Option Text :=
  (Artifact.all.flatMap fun a => Language.all.map fun l => (fileName a l, Template.bundled a l))
    |>.lookup fileName'

/-- Reads a template by its name, as a text whose line ends are line feeds. -/
def read (source : TemplateSource) (tree : FileTree) (name : Text) : Except Failure Text :=
  let absent : Except Failure Text := .error (.templateNotFound name source.shownPath)
  match nameParts? name with
  | none => absent
  | some parts =>
    match source with
    | bundled =>
      match bundledNamed? (Text.join '/' parts) with
      | some text => .ok text
      | none => absent
    | directory path =>
      match tree.entry? (path.join ⟨.here, parts⟩) with
      | some (.file content) =>
        match Text.ofUtf8 content with
        | .ok text => .ok text.unifyLineEnds
        | .error e => .error (.notUtf8 e)
      | _ => absent

end TemplateSource

/-! ## Engines -/

/-- A source of templates with the templates read so far. -/
structure Engine where
  source : TemplateSource := .bundled
  loaded : List ((Artifact × Language) × Text) := []
  deriving Repr

namespace Engine

/-- The template of a kind of file, from the engine's memory or else from its source, and the
engine that remembers it. -/
def load (e : Engine) (tree : FileTree) (a : Artifact) (language : Language) :
    Except Failure Text × Engine :=
  match e.loaded.lookup (a, language) with
  | some text => (.ok text, e)
  | none =>
    match e.source.read tree (TemplateSource.fileName a language) with
    | .ok text => (.ok text, { e with loaded := ((a, language), text) :: e.loaded })
    | .error failure => (.error failure, e)

/-- Renders one kind of file of a request. -/
def render (e : Engine) (tree : FileTree) (a : Artifact) (r : Request) :
    Except Failure Artifact.Rendered × Engine :=
  match e.load tree a r.language with
  | (.ok template, e) => (.ok (a.render r template), e)
  | (.error failure, e) => (.error failure, e)

/-- Writes a rendered file below the output directory. The outcome is the path written to. -/
def write (tree : FileTree) (output : Path) (f : Artifact.Rendered) :
    Except Failure Path × FileTree :=
  let target := output.join f.path
  match tree.writeFile target f.text with
  | ⟨.ok _, tree⟩ => (.ok target, tree)
  | ⟨.error failure, tree⟩ => (.error (.file failure), tree)

/-- An engine and the tree that it works on, after some outcome. -/
structure Ran (α : Type) where
  outcome : α
  engine : Engine
  tree : FileTree

/-- Renders and writes one kind of file of a request. -/
def generateOne (e : Engine) (tree : FileTree) (output : Path) (r : Request) (a : Artifact) :
    Ran (Except Failure Path) :=
  match e.render tree a r with
  | (.error failure, e) => ⟨.error failure, e, tree⟩
  | (.ok rendered, e) =>
    let (outcome, tree) := write tree output rendered
    ⟨outcome, e, tree⟩

/-- What became of each kind of file. -/
abbrev Outcomes := List (Artifact × Except Failure Path)

/-- Renders and writes the given kinds of file of a request, one after another. -/
def generateEach (e : Engine) (tree : FileTree) (output : Path) (r : Request) :
    List Artifact → Ran Outcomes
  | [] => ⟨[], e, tree⟩
  | a :: others =>
    let first := e.generateOne tree output r a
    let rest := generateEach first.engine first.tree output r others
    ⟨(a, first.outcome) :: rest.outcome, rest.engine, rest.tree⟩

/-- The files that were generated, and the kinds that could not be, with the reasons. -/
structure Report where
  written : List (Artifact × Path)
  failed : List (Artifact × Failure)
  deriving Repr

/-- Whether every kind of file was written. -/
def Report.success (report : Report) : Bool := report.failed.isEmpty

/-- The first failure that is not reported beside the files, if there is one. -/
def severe? (outcomes : Outcomes) : Option Failure :=
  outcomes.findSome? fun
    | (_, .error failure) => if failure.isReported then none else some failure
    | (_, .ok _) => none

/-- The outcomes as a report. -/
def report (outcomes : Outcomes) : Report where
  written := outcomes.filterMap fun
    | (a, .ok path) => some (a, path)
    | (_, .error _) => none
  failed := outcomes.filterMap fun
    | (_, .ok _) => none
    | (a, .error failure) => some (a, failure)

/-- Generates every kind of file that a request asks for. -/
def generate (e : Engine) (tree : FileTree) (output : Path) (r : Request) :
    Ran (Except Failure Report) :=
  let ran := e.generateEach tree output r r.artifacts
  match severe? ran.outcome with
  | some failure => ⟨.error failure, ran.engine, ran.tree⟩
  | none => ⟨.ok (report ran.outcome), ran.engine, ran.tree⟩

end Engine

end Scaffold
