/-
# Scaffold.Artifact.Block -- field lists as program text

The three blocks that depend on the fields of a model: the object that declares them in the
schema, the entries that copy them from a request when a document is created, and the assignments
that copy them when it is updated. Every line ends in a line feed alone and is indented by four
spaces for each level. The create block and the update block begin with a line feed of their own,
so that they can stand right behind the text before them, and both are empty without fields.
-/

import Scaffold.Field.Basic

namespace Scaffold.Artifact

/-- The indentation of a level; a level below the first is not indented. -/
def indent (depth : Int) : Text := Text.spaces (4 * depth.toNat)

/-! ## The schema -/

/-- The declaration of a base type. An `objectId` is an object of its own, with its members one
level deeper and its closing brace at the given level. -/
def declaration (depth : Int) : FieldType → Text
  | .string => "String".text
  | .number => "Number".text
  | .date => "Date".text
  | .boolean => "Boolean".text
  | .objectId reference =>
    "\x7b\n".text ++ indent (depth + 1) ++ "type: Schema.Types.ObjectId,\n".text ++
      indent (depth + 1) ++ "ref: '".text ++ reference ++ "'\n".text ++
      indent depth ++ "\x7d".text

/-- The declaration of a field's type, in brackets where the field is a collection. -/
def typeDeclaration (depth : Int) (f : Field) : Text :=
  if f.isArray then chr '[' :: declaration depth f.type ++ [chr ']'] else declaration depth f.type

/-- The entry of a field in the schema object. -/
def schemaEntry (f : Field) : Text :=
  indent 1 ++ chr '\'' :: f.name ++ "' : ".text ++ typeDeclaration 1 f

/-- The object that declares the fields in the schema. -/
def schemaBlock (fields : List Field) : Text :=
  if fields = [] then "\x7b\x7d".text
  else
    "\x7b\n".text ++ Text.joinWith ",\n".text (fields.map schemaEntry) ++ "\n\x7d".text

/-! ## The controller -/

/-- The entry that copies a field from the body of a request. -/
def createEntry (depth : Int) (f : Field) : Text :=
  indent depth ++ f.name ++ " : req.body.".text ++ f.name

/-- The entries that fill a new document. -/
def createBlock (depth : Int) (fields : List Field) : Text :=
  if fields = [] then []
  else chr '\n' :: Text.joinWith ",\n".text (fields.map (createEntry depth))

/-- The assignment that takes a field over from the body of a request where it is there. -/
def updateEntry (depth : Int) (document : Text) (f : Field) : Text :=
  indent depth ++ document ++ chr '.' :: f.name ++ " = req.body.".text ++ f.name ++
    " ? req.body.".text ++ f.name ++ " : ".text ++ document ++ chr '.' :: f.name ++ [chr ';']

/-- The assignments that bring a document up to date. -/
def updateBlock (depth : Int) (document : Text) (fields : List Field) : Text :=
  if fields = [] then []
  else chr '\n' :: Text.join '\n' (fields.map (updateEntry depth document)) ++ [chr '\n']

/-- The level at which the blocks of a controller stand. -/
def controllerDepth : Int := 3

end Scaffold.Artifact
