/-
# Scaffold.Request.Reader -- requests as structured values

A field is an object with a `name` and, each optional, a `type`, a mark `is_array` and a
`reference`; a request is an object with a `model_name` and optional `fields`, `layout_mode`,
`language_variant` and `include_rest`. Members with other keys are ignored.

Reading a field takes two steps. First the object is brought into its normal form, before any
member is looked at: the type `array` turns into a collection of strings, a reference is dropped
unless the type is `objectId`, and there a missing or blank one becomes the placeholder. Then the
members are checked in the order name, type, mark, and every fault is kept. The normal form can be
impossible to reach in one way only: the reference of an `objectId` is there but is no text
(`Refusal.referenceNotText`). That stops the reading at once.
-/

import Scaffold.Request.Basic

namespace Scaffold

/-! ## Refusals -/

/-- Why a structured value is no field or no request. -/
inductive Refusal where
  /-- The faults, in the order of the members. -/
  | faults (faults : List Fault)
  /-- The reference of an `objectId` is present but no text. -/
  | referenceNotText (reference : Json)

/-- The word for the kind of a value. -/
def Json.kindWord : Json → Text
  | .null => "NoneType".text
  | .bool _ => "bool".text
  | .integer _ => "int".text
  | .real _ => "float".text
  | .text _ => "str".text
  | .array _ => "list".text
  | .object _ => "dict".text

/-- What is said of a reference that is no text. -/
def Refusal.referenceMessage (reference : Json) : Text :=
  chr '\'' :: reference.kindWord ++ "' object has no attribute 'strip'".text

/-! ## Fields -/

/-- The spelling of every type word. -/
def typeWords : List Text := TypeWord.all.map TypeWord.text

/-- The type that a field object has once it is in normal form, where it is one of the type
words; a missing type is `string`. -/
def Field.typeOfMembers (members : List (Text × Json)) : Checked TypeWord :=
  Json.checkMember members "type" (.ok .string) (Json.asWord typeWords TypeWord.ofText?)

/-- Whether a field object writes the given type word as its type. -/
def Field.writesType (members : List (Text × Json)) (word : TypeWord) : Bool :=
  match Json.member? "type".text members with
  | some (.text s) => s = word.text
  | _ => false

/-- The collection mark of a field object; `array` as its type is mark enough. -/
def Field.arrayOfMembers (members : List (Text × Json)) : Checked Bool :=
  if Field.writesType members .array then .ok true
  else Json.checkMember members "is_array" (.ok false) Json.asBool

/-- The reference that a field object has in normal form. -/
def Field.referenceOfMembers (members : List (Text × Json)) : Except Refusal Text :=
  if Field.writesType members .objectId then
    match Json.member? "reference".text members with
    | none => .ok []
    | some (.text s) => .ok s
    | some v => if v.isFalsy then .ok [] else .error (.referenceNotText v)
  else .ok []

/-- Reads a field, keeping the faults of its members apart from a reference that is no text. -/
def Field.check (v : Json) : Except Refusal (Checked Field) :=
  match v with
  | .object members =>
    match Field.referenceOfMembers members with
    | .error why => .error why
    | .ok reference =>
      .ok <|
        match
          Checked.both
            (Json.checkMember members "name" (.fault .missing) Json.asNonemptyText)
            (Checked.both (Field.typeOfMembers members) (Field.arrayOfMembers members))
        with
        | .ok (name, word, isArray) => .ok (.ofWord name word isArray reference)
        | .error fs => .error fs
  | _ => .ok (.fault (.notObject "FieldSpec".text))

/-- Reads a field. -/
def Field.ofJson (v : Json) : Except Refusal Field :=
  match Field.check v with
  | .error why => .error why
  | .ok (.ok f) => .ok f
  | .ok (.error fs) => .error (.faults fs)

/-- A field as a structured value, which reads back as the field. -/
def Field.toJson (f : Field) : Json :=
  .object
    [("name".text, .text f.name), ("type".text, .text f.type.word.text),
     ("is_array".text, .bool f.isArray), ("reference".text, .text f.reference)]

/-- The four members of a field object, each written as it is. -/
def Field.members (name : Text) (word : TypeWord) (isArray : Bool) (reference : Text) :
    List (Text × Json) :=
  [("name".text, .text name), ("type".text, .text word.text),
   ("is_array".text, .bool isArray), ("reference".text, .text reference)]

/-- Reading the four members makes the field that a user means by them, or has the faults of the
name: nothing else in members of these kinds can be at fault. -/
theorem Field.ofJson_members (name : Text) (word : TypeWord) (isArray : Bool) (reference : Text) :
    Field.ofJson (.object (Field.members name word isArray reference)) =
      (Field.make name word isArray reference).mapError .faults := by
  generalize hm : Field.members name word isArray reference = members
  have hname : Json.member? "name".text members = some (.text name) := by
    rw [← hm]; rfl
  have htype : Json.member? "type".text members = some (.text word.text) := by
    rw [← hm]; rfl
  have harray : Json.member? "is_array".text members = some (.bool isArray) := by
    rw [← hm]; rfl
  have hreference : Json.member? "reference".text members = some (.text reference) := by
    rw [← hm]; rfl
  have hwrites (v : TypeWord) : Field.writesType members v = decide (word = v) := by
    simp only [Field.writesType, htype]
    exact decide_eq_decide.2 ⟨TypeWord.text_injective, fun h => h ▸ rfl⟩
  have hchecked : Json.checkMember members "name" (.fault .missing) Json.asNonemptyText =
      Checked.name "name" name := by
    simp only [Json.checkMember, hname, Checked.name]
  have hword : Field.typeOfMembers members = .ok word := by
    simp only [Field.typeOfMembers, Json.checkMember, htype, Json.asWord, TypeWord.isUnicode_text,
      Bool.true_eq_false, if_false, TypeWord.ofText?_text, Checked.below]
  have hmark : Field.arrayOfMembers members = .ok (decide (word = .array) || isArray) := by
    simp only [Field.arrayOfMembers, hwrites, Json.checkMember, harray, Json.asBool, Checked.below]
    by_cases hw : word = .array <;> simp [hw]
  have hkept : Field.referenceOfMembers members =
      .ok (if word = .objectId then reference else []) := by
    simp only [Field.referenceOfMembers, hwrites, hreference]
    by_cases hw : word = .objectId <;> simp [hw]
  simp only [Field.ofJson, Field.check, hchecked, hword, hmark, hkept, Field.make]
  cases Checked.name "name" name with
  | error faults =>
      simp only [Checked.both, Checked.faults, List.append_nil]
      rfl
  | ok name => cases word <;> rfl

/-! ## Requests -/

/-- Reads the items of a field list from the given position on. Faults of all items are kept; a
reference that is no text stops the reading. -/
def Request.checkItems (position : Nat) : List Json → Except Refusal (Checked (List Field))
  | [] => .ok (.ok [])
  | v :: vs =>
    match Field.check v with
    | .error why => .error why
    | .ok first =>
      match Request.checkItems (position + 1) vs with
      | .error why => .error why
      | .ok others =>
        .ok <|
          match Checked.both (first.below (.index position)) others with
          | .ok (f, fs) => .ok (f :: fs)
          | .error faults => .error faults

/-- Reads the field list of a request; a request without one has no fields. -/
def Request.checkFields (members : List (Text × Json)) : Except Refusal (Checked (List Field)) :=
  let key := "fields".text
  match Json.member? key members with
  | none => .ok (.ok [])
  | some (.array items) =>
    match Request.checkItems 0 items with
    | .error why => .error why
    | .ok checked => .ok (checked.below (.member key))
  | some _ => .ok (Checked.below (.member key) (.fault .notList))

/-- Reads a request. -/
def Request.ofJson (v : Json) : Except Refusal Request :=
  match v with
  | .object members =>
    match Request.checkFields members with
    | .error why => .error why
    | .ok fields =>
      match
        Checked.both
          (Json.checkMember members "model_name" (.fault .missing) Json.asNonemptyText)
          (Checked.both fields
            (Checked.both
              (Json.checkMember members "layout_mode" (.ok .byType)
                (Json.asWord (Layout.all.map Layout.letter) Layout.ofLetter?))
              (Checked.both
                (Json.checkMember members "language_variant" (.ok .plain)
                  (Json.asWord (Language.all.map Language.extension) Language.ofExtension?))
                (Json.checkMember members "include_rest" (.ok false) Json.asBool))))
      with
      | .ok (model, fields, layout, language, withRest) =>
        .ok ⟨model, fields, layout, language, withRest⟩
      | .error faults => .error (.faults faults)
  | _ => .error (.faults [⟨[], .notObject "GenerationRequest".text⟩])

end Scaffold
