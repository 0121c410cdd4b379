/-
# Scaffold.Request.Basic -- what is to be generated

A request names a model, lists its fields and settles three choices: how the generated files are
laid out, in which language they are written, and whether the router and the controller come with
the model. Everything behind the request reader works on a `Request` alone.
-/

import Scaffold.Field.Basic

namespace Scaffold

/-! ## Choices -/

/-- How the generated files are grouped into folders. -/
inductive Layout where
  /-- One folder for the models, one for the routers, one for the controllers. -/
  | byType
  /-- One folder for each model. -/
  | byModule
  deriving DecidableEq, Repr

namespace Layout

/-- Both layouts. -/
def all : List Layout := [byType, byModule]

/-- The letter that selects a layout. -/
def letter : Layout → Text
  | byType => "t".text
  | byModule => "m".text

/-- The layout with the given letter. -/
def ofLetter? (s : Text) : Option Layout := all.find? fun l => l.letter = s

end Layout

/-- The language of the generated files. -/
inductive Language where
  /-- JavaScript. -/
  | plain
  /-- TypeScript. -/
  | typed
  deriving DecidableEq, Repr

namespace Language

/-- Both languages. -/
def all : List Language := [plain, typed]

/-- The file-name extension of a language, without the dot. -/
def extension : Language → Text
  | plain => "js".text
  | typed => "ts".text

/-- The language with the given extension. -/
def ofExtension? (s : Text) : Option Language := all.find? fun l => l.extension = s

end Language

/-! ## Artifacts -/

/-- The three kinds of generated file. -/
inductive Artifact where
  | model
  | router
  | controller
  deriving DecidableEq, Repr

namespace Artifact

/-- All kinds, in the order in which they are generated. -/
def all : List Artifact := [model, router, controller]

/-- The name of a kind, which is also the name of its template without the extension. -/
def name : Artifact → Text
  | model => "model".text
  | router => "router".text
  | controller => "controller".text

/-- The kind with the given name. -/
def ofName? (s : Text) : Option Artifact := all.find? fun a => a.name = s

/-- The folder of a kind where files are grouped by type. -/
def folder : Artifact → Text
  | model => "models".text
  | router => "routes".text
  | controller => "controllers".text

/-- What follows the model's name in the name of a generated file. -/
def suffix : Artifact → Text
  | model => "Model".text
  | router => "Routes".text
  | controller => "Controller".text

end Artifact

/-! ## Requests -/

/-- Everything that the generation of one model needs to know. -/
structure Request where
  /-- The name of the model, used verbatim. -/
  model : Text
  /-- The fields, in the order of their declaration. -/
  fields : List Field := []
  layout : Layout := .byType
  language : Language := .plain
  /-- Whether the router and the controller are generated with the model. -/
  withRest : Bool := false
  deriving DecidableEq, Repr

/-- Makes a request of a model's name, fields and choices, if the name can be one. -/
def Request.make (model : Text) (fields : List Field) (layout : Layout) (language : Language)
    (withRest : Bool) : Checked Request :=
  (Checked.name "model_name" model).map fun model => ⟨model, fields, layout, language, withRest⟩

theorem Request.make_of_isUnicode {model : Text} (h : model.isUnicode = true) (hne : model ≠ [])
    (fields : List Field) (layout : Layout) (language : Language) (withRest : Bool) :
    make model fields layout language withRest =
      .ok ⟨model, fields, layout, language, withRest⟩ := by
  rw [make, Checked.name_of_isUnicode h hne]
  rfl

theorem Request.make_of_not_isUnicode {model : Text} (h : model.isUnicode = false)
    (fields : List Field) (layout : Layout) (language : Language) (withRest : Bool) :
    make model fields layout language withRest = .error [.ofName "model_name"] := by
  rw [make, Checked.name_of_not_isUnicode h]
  rfl

/-- The kinds of file that a request asks for: always the model, and the router and the
controller where they are wanted. -/
def Request.artifacts (r : Request) : List Artifact :=
  if r.withRest then Artifact.all else [.model]

end Scaffold
