/-
# Scaffold.Interview -- asking a user for a request

The interview asks for the model, then for one field after another until a field name is left
blank, then whether the router and the controller are wanted, and last for the layout. Once the
model has a name, the type words are announced. A field is asked for its name, its type, and,
when the type is `objectId`, the model that it refers to.

Model name, type, and the two last questions are put again until the answer can be read. A field
name and a reference are taken as they are: a blank name ends the list, and a blank reference
becomes the placeholder. Nobody is asked again for a name that cannot be one, since it is only
looked into when the field, or the request, is made; then it ends the interview with its fault.
-/

import Scaffold.Dialogue

namespace Scaffold.Interview

/-! ## Questions -/

/-- The questions of an interview. -/
inductive Question where
  | modelName
  | fieldName
  | fieldType
  | reference
  | rest
  | layout
  deriving DecidableEq, Repr

/-- How a question is put. -/
def Question.text : Question → Text
  | modelName => "Model Name : ".text
  | fieldName => "Field Name (press <return> to stop adding fields) : ".text
  | fieldType => "Field Type [string] : ".text
  | reference => "Reference (model name referred by the objectId field) : ".text
  | rest => "Generate Rest (yes/no) ? [yes] : ".text
  | layout => "Files tree generation grouped by Type or by Module (t/m) ? [t] : ".text

/-- The announcement of the type words. -/
def availableTypes : Text :=
  "Available types : ".text ++ Text.joinWith ", ".text (TypeWord.all.map TypeWord.text)

/-! ## The fields -/

/-- Where the questions about the fields stand: which fields are settled, and what is known of
the one in hand. -/
inductive FieldPoint where
  /-- About to ask for a field's name. -/
  | name (settled : List Field)
  /-- About to ask for the type of the named field. -/
  | type (settled : List Field) (name : Text)
  /-- About to ask which model the named field refers to. -/
  | reference (settled : List Field) (name : Text)
  deriving DecidableEq, Repr

/-- The question at a point. -/
def FieldPoint.question : FieldPoint → Question
  | name _ => .fieldName
  | type _ _ => .fieldType
  | reference _ _ => .reference

/-- The field in hand joins the settled ones, or its faults end the interview. -/
def settle (settled : List Field) (fieldName : Text) (word : TypeWord) (reference : Text) :
    Move FieldPoint (Checked (List Field)) :=
  match Field.make fieldName word false reference with
  | .ok field => .next (.name (settled ++ [field])) []
  | .error faults => .done (.error faults)

/-- Where an answer about the fields leads. -/
def FieldPoint.answer : FieldPoint → Answer → Move FieldPoint (Checked (List Field))
  | name settled, a =>
    if a.stripped = [] then .done (.ok settled) else .next (type settled a.stripped) []
  | type settled fieldName, a =>
    match a.typeWord with
    | .error why => .again why
    | .ok .objectId => .next (reference settled fieldName) []
    | .ok word => settle settled fieldName word []
  | reference settled fieldName, a => settle settled fieldName .objectId a.stripped

/-- The questions about the fields. -/
def fields : Dialogue FieldPoint (Checked (List Field)) where
  question p := p.question.text
  answer := FieldPoint.answer

/-! ## The request -/

/-- Where an interview stands. -/
inductive Point where
  /-- About to ask for the model's name. -/
  | model
  /-- Among the questions about the fields. -/
  | fields (model : Text) (point : FieldPoint)
  /-- About to ask whether the router and the controller are wanted. -/
  | rest (model : Text) (fields : List Field)
  /-- About to ask for the layout. -/
  | layout (model : Text) (fields : List Field) (withRest : Bool)
  deriving DecidableEq, Repr

/-- The question at a point. -/
def Point.question : Point → Question
  | model => .modelName
  | fields _ point => point.question
  | rest _ _ => .rest
  | layout _ _ _ => .layout

/-- Where an answer leads, in an interview about a request in the given language. -/
def Point.answer (language : Language) : Point → Answer → Move Point (Checked Request)
  | model, a =>
    match a.modelName with
    | .error why => .again why
    | .ok modelName => .next (fields modelName (.name [])) [availableTypes]
  | fields modelName point, a =>
    match point.answer a with
    | .again why => .again why
    | .next point' announcements => .next (fields modelName point') announcements
    | .done (.ok settled) => .next (rest modelName settled) []
    | .done (.error faults) => .done (.error faults)
  | rest modelName settled, a =>
    match a.wantsRest with
    | .error why => .again why
    | .ok withRest => .next (layout modelName settled withRest) []
  | layout modelName settled withRest, a =>
    match a.layout with
    | .error why => .again why
    | .ok chosen => .done (Request.make modelName settled chosen language withRest)

/-- The whole interview about a request in the given language. -/
def request (language : Language) : Dialogue Point (Checked Request) where
  question p := p.question.text
  answer := Point.answer language

/-- Asks for the fields of a model. -/
def collectFields (reporting : Bool) (answers : List Answer) : Transcript (Checked (List Field)) :=
  fields.run reporting (.name []) answers

/-- Asks for a request. -/
def collectRequest (language : Language) (reporting : Bool) (answers : List Answer) :
    Transcript (Checked Request) :=
  (request language).run reporting .model answers

end Scaffold.Interview
