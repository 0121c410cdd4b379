/-
# Scaffold.CommandLine.Request -- requests from arguments and back

Arguments together with the defaults make a request. The model name is checked first, then the
field list, then the layout, and last whether the model name can be one; the first check that fails
decides. Without a layout of their own
the arguments follow the default, and they can add the typed language and the router and
controller to the defaults but not take them away.

In the other direction a request has a command line that writes its model, its fields and its
choices, unless a field name or a reference holds one of the separators of a field list.
-/

import Scaffold.CommandLine.Help
import Scaffold.Config
import Scaffold.Field.Spec
import Scaffold.Text.Shell

namespace Scaffold.CommandLine

/-- Why arguments make no request. -/
inductive ArgumentFailure where
  /-- A check refused a value. -/
  | rejected (why : Rejection)
  /-- The checks let everything pass, but a name in it cannot be one. -/
  | faulty (faults : List Fault)
  /-- The field list was given with the end mark in place of a value. -/
  | fieldsEmpty
  deriving DecidableEq, Repr

/-- What is said of a field list that has the end mark in place of a value. -/
def ArgumentFailure.fieldsEmptyMessage : Text := "'list' object has no attribute 'strip'".text

/-- A field list that makes no fields makes no request. -/
def ArgumentFailure.ofInput : InputFailure → ArgumentFailure
  | .rejected why => .rejected why
  | .faulty faults => .faulty faults

/-- The field list that arguments give. -/
def Arguments.fieldList (a : Arguments) : Except ArgumentFailure (List Field) :=
  match a.fields with
  | .empty => .error .fieldsEmpty
  | s => (Field.Spec.parse s.text?).mapError .ofInput

/-- The layout that arguments give, the default where they give none. -/
def Arguments.layoutOr (a : Arguments) (layout : Layout) : Except Rejection Layout :=
  match a.tree with
  | .absent => .ok layout
  | s => Answer.layout s.text?

/-- The language that arguments give, the default where they give none. -/
def Arguments.languageOr (a : Arguments) (language : Language) : Language :=
  if a.typed then .typed else language

/-- The request that arguments and defaults make. -/
def Arguments.request (a : Arguments) (c : Config) : Except ArgumentFailure Request := do
  let model ← (Answer.modelName a.model.text?).mapError .rejected
  let fields ← a.fieldList
  let layout ← (a.layoutOr c.layout).mapError .rejected
  (Request.make model fields layout (a.languageOr c.language) (a.rest || c.withRest)).mapError
    .faulty

/-- The words of a command line for a request, whatever its fields hold. -/
def commandWords (r : Request) : List Text :=
  [programName, "-m".text, r.model, "-f".text, Field.Spec.format r.fields] ++
    (if r.withRest then ["-r".text] else []) ++
    (if r.layout = .byModule then ["-t".text, Layout.byModule.letter] else []) ++
    (if r.language = .typed then ["--ts".text] else [])

/-- A command line that makes a request, quoted for a shell, where its fields can be written. -/
def equivalentCommand? (r : Request) : Option Text :=
  if Field.Spec.expressible r.fields then some (Text.Shell.write (commandWords r)) else none

end Scaffold.CommandLine
