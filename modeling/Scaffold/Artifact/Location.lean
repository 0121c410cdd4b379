/-
# Scaffold.Artifact.Location -- where generated files go and how they import each other

A generated file is named after its model and its kind. Grouped by type it stands in the folder
of its kind, grouped by module in a folder named after the model. The model's name enters a path
as it is written, slashes included, so a name can lead into folders of its own, and one that
begins with a slash has a root of its own.

Files import each other by a path that is written into the program: one folder up and down again
where they are grouped by type, the same folder where they are grouped by module.
-/

import Scaffold.Path
import Scaffold.Request.Basic

namespace Scaffold.Artifact

/-- The name of a generated file. -/
def fileName (a : Artifact) (r : Request) : Text :=
  r.model ++ a.suffix ++ chr '.' :: r.language.extension

/-- The folder of a generated file, below the output directory. -/
def directory (a : Artifact) (r : Request) : Path :=
  match r.layout with
  | .byType => .ofText a.folder
  | .byModule => .ofText r.model

/-- The path of a generated file, below the output directory. -/
def path (a : Artifact) (r : Request) : Path := (a.directory r).join (.ofText (a.fileName r))

/-- The path by which the other files of a request import a file, without quotes. -/
def importTarget (a : Artifact) (r : Request) : Text :=
  match r.layout with
  | .byType => "../".text ++ a.folder ++ chr '/' :: a.fileName r
  | .byModule => "./".text ++ a.fileName r

/-- The path by which the other files of a request import a file, as a literal of the program. -/
def importPath (a : Artifact) (r : Request) : Text := chr '\'' :: a.importTarget r ++ [chr '\'']

end Scaffold.Artifact
