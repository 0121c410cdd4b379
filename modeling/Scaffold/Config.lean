/-
# Scaffold.Config -- defaults from the environment

Where generated files go, where templates come from, and what a request is like unless it says
otherwise. Five variables of the environment can change the defaults. An empty variable counts as
absent, and only the layout can be wrong.
-/

import Scaffold.Answer
import Scaffold.Path
import Scaffold.Text.Case

namespace Scaffold

/-- The variables of the environment with their values. -/
abbrev Environment := List (Text × Text)

/-- The defaults of a run. -/
structure Config where
  /-- The directory below which files are generated. -/
  output : Path := {}
  /-- The directory of the templates, where it is not the bundled ones that are used. -/
  templates : Option Path := none
  layout : Layout := .byType
  language : Language := .plain
  withRest : Bool := false
  deriving DecidableEq, Repr

namespace Config

/-- The variables that are looked at. -/
inductive Variable where
  | output
  | templates
  | layout
  | typed
  | rest
  deriving DecidableEq, Repr

/-- All variables. -/
def Variable.all : List Variable := [output, templates, layout, typed, rest]

/-- The name of a variable. -/
def Variable.name : Variable → Text
  | output => "MONGEN_OUTPUT_DIR".text
  | templates => "MONGEN_TEMPLATE_DIR".text
  | layout => "MONGEN_TREE".text
  | typed => "MONGEN_TS".text
  | rest => "MONGEN_REST".text

/-- The value of a variable, empty where it is absent. -/
def Variable.value (v : Variable) (env : Environment) : Text := (env.lookup v.name).getD []

/-- The words that switch something on, in lower case. -/
def onWords : List Text := ["1", "true", "yes", "on"].map String.text

/-- Whether a value switches something on. -/
def isOn (value : Text) : Bool := onWords.contains (Text.lower value.strip)

/-- The layout that a value selects; an empty one leaves the default. -/
def layoutOf (value : Text) : Except Rejection Layout :=
  if value = [] then .ok .byType else Answer.layout (some value)

/-- The defaults that an environment sets. -/
def ofEnvironment (env : Environment) : Except Rejection Config :=
  let templates := Variable.templates.value env
  match layoutOf (Variable.layout.value env) with
  | .error why => .error why
  | .ok layout =>
    .ok
      { output := .ofText (Variable.output.value env)
        templates := if templates = [] then none else some (.ofText templates)
        layout := layout
        language := if isOn (Variable.typed.value env) then .typed else .plain
        withRest := isOn (Variable.rest.value env) }

end Config

end Scaffold
