/-
# Scaffold.Artifact.Render -- generated files

What the placeholders stand for in the template of each kind of file, and the file that comes of
filling a template with it. The blocks made from the field list are computed only where a template
asks for them. Rendering is a function of the template and the request; no file is touched.
-/

import Scaffold.Artifact.Block
import Scaffold.Artifact.Location
import Scaffold.Template.Basic
import Scaffold.Text.Naming

namespace Scaffold.Artifact

open Template (Value Values)

/-- The name of the controller of a request. -/
def controllerName (r : Request) : Text := r.model ++ controller.suffix

/-- The values of the placeholders of a model's template. -/
def modelValues (r : Request) : Values
  | .modelName => some (.ready r.model)
  | .schemaName => some (.ready (r.model ++ "Schema".text))
  | .fields => some (.onDemand fun _ => schemaBlock r.fields)
  | _ => none

/-- The values of the placeholders of a router's template. -/
def routerValues (r : Request) : Values
  | .controllerName => some (.ready (controllerName r))
  | .controllerPath => some (.ready (controller.importPath r))
  | _ => none

/-- The values of the placeholders of a controller's template. -/
def controllerValues (r : Request) : Values
  | .modelName => some (.ready (Text.capitalized r.model ++ model.suffix))
  | .name => some (.ready r.model)
  | .pluralName => some (.ready (Text.plural r.model))
  | .controllerName => some (.ready (controllerName r))
  | .modelPath => some (.ready (model.importPath r))
  | .createFields => some (.onDemand fun _ => createBlock controllerDepth r.fields)
  | .updateFields => some (.onDemand fun _ => updateBlock controllerDepth r.model r.fields)
  | _ => none

/-- The values of the placeholders in the template of a kind of file. -/
def values : Artifact → Request → Values
  | model => modelValues
  | router => routerValues
  | controller => controllerValues

/-- A generated file: what it is, where it goes below the output directory, and what it holds. -/
structure Rendered where
  artifact : Artifact
  path : Path
  text : Text
  deriving DecidableEq, Repr

/-- Fills a template for a request. -/
def render (a : Artifact) (r : Request) (template : Text) : Rendered :=
  ⟨a, a.path r, (Template.fill (a.values r) template).text⟩

end Scaffold.Artifact
