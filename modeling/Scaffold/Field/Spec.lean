/-
# Scaffold.Field.Spec -- the field list on one line

A field list is written `name:type[:reference][:array],name:type,...`. Groups stand between
commas and tokens between colons, and every token is stripped. After an `objectId` the third token
is the referenced model and the fourth may be the mark `array`; after any other type the third
token may be the mark. A missing or blank type means `string`, tokens past those are ignored.

Reading stops at the first group that breaks a rule, or whose name cannot be one, and yields nothing
of the others (`parseGroups` is a `mapM` over the groups). `format` is the writer; it puts no quotes
around anything, so a name or reference that holds a comma or a colon has no written form
(`expressible`).
-/

import Scaffold.Field.Basic
import Scaffold.Rejection

namespace Scaffold.Field.Spec

/-- Stands between two groups. -/
def groupSeparator : CodePoint := ','

/-- Stands between two tokens of a group. -/
def tokenSeparator : CodePoint := ':'

/-- The mark of a collection. -/
def arrayMark : Text := TypeWord.array.text

/-! ## Checking a field -/

/-- The type word of a field, after its name and its type word have been checked in this order:
the name is there, the type word is there, the type word is one of the six. -/
def checkField (name type : Option Text) : Except Rejection TypeWord :=
  let name := (name.getD []).strip
  let word := (type.getD []).strip
  if name = [] then .error .fieldNameRequired
  else if word = [] then .error (.fieldTypeRequired name)
  else
    match TypeWord.ofText? word with
    | some w => .ok w
    | none => .error (.fieldTypeInvalid word)

/-! ## Reading -/

/-- The stripped token at a position, empty past the end. -/
def token (tokens : List Text) (i : Nat) : Text := (tokens.getD i []).strip

/-- The field that one group of tokens writes. -/
def ofTokens (tokens : List Text) : Except InputFailure Field := do
  let name := token tokens 0
  let word := if token tokens 1 = [] then TypeWord.string.text else token tokens 1
  let type ← (checkField (some name) (some word)).mapError .rejected
  let made :=
    match type with
    | .objectId => Field.make name type (token tokens 3 = arrayMark) (token tokens 2)
    | _ => Field.make name type (token tokens 2 = arrayMark) []
  made.mapError .faulty

/-- Reads one group. A comma has no meaning here. -/
def parseGroup (group : Text) : Except InputFailure Field := ofTokens (group.split tokenSeparator)

/-- Reads the groups of a field list in order, up to the first that makes no field. -/
def parseGroups (groups : List Text) : Except InputFailure (List Field) := groups.mapM parseGroup

/-- Reads a whole field list. A list that is absent or blank is refused before its groups are
looked at. -/
def parse (raw : Option Text) : Except InputFailure (List Field) :=
  match raw with
  | none => .error (.rejected .fieldsRequired)
  | some s =>
    if s.isBlank then .error (.rejected .fieldsRequired)
    else parseGroups (s.split groupSeparator)

/-! ## Writing -/

/-- The tokens that write a field: its name, its type word, its reference where it has one, and
the collection mark where it is a collection. -/
def tokens (f : Field) : List Text :=
  [f.name, f.type.word.text] ++ (if f.type.isReference then [f.reference] else []) ++
    (if f.isArray then [arrayMark] else [])

/-- One field as a group. -/
def formatField (f : Field) : Text := Text.join tokenSeparator (tokens f)

/-- A field list on one line. -/
def format (fields : List Field) : Text := Text.join groupSeparator (fields.map formatField)

/-- Whether a token can stand in a written field list: it holds neither separator. -/
def plainToken (s : Text) : Bool := !s.contains groupSeparator && !s.contains tokenSeparator

/-- Whether a field list has a written form: no name and no reference holds a separator. -/
def expressible (fields : List Field) : Bool :=
  fields.all fun f => plainToken f.name && plainToken f.reference

end Scaffold.Field.Spec
