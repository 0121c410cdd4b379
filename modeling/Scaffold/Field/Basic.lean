/-
# Scaffold.Field.Basic -- the fields of a model

A user writes one of six type words. `array` is shorthand for a collection of strings, so only
five base types remain in a `Field`, and the collection flag is kept beside them. The referenced
model belongs to the `objectId` type alone and is stored inside it: no other type can carry one.

`Field.ofWord` is the one way from what a user writes to a field. It puts the placeholder where
an `objectId` names no model, so the reference of the fields it builds is never blank
(`reference_ofWord_not_blank`). `Field.make` takes that way after a check of the name, which has to
be there and to consist of characters; a reference is not looked into.
-/

import Scaffold.Checked
import Scaffold.Text.Blank

namespace Scaffold

/-! ## Type words -/

/-- The words that a user may write for the type of a field. -/
inductive TypeWord where
  | string
  | number
  | date
  | boolean
  | array
  | objectId
  deriving DecidableEq, Repr

namespace TypeWord

/-- All type words, in the order in which they are announced. -/
def all : List TypeWord := [string, number, date, boolean, array, objectId]

/-- The spelling of a type word. -/
def text : TypeWord → Text
  | string => "string".text
  | number => "number".text
  | date => "date".text
  | boolean => "boolean".text
  | array => "array".text
  | objectId => "objectId".text

/-- The type word with the given spelling, letter case included. -/
def ofText? (s : Text) : Option TypeWord := all.find? fun w => w.text = s

theorem ofText?_text (w : TypeWord) : ofText? w.text = some w := by
  cases w <;> decide

theorem text_of_ofText? {s : Text} {w : TypeWord} (h : ofText? s = some w) : w.text = s := by
  have := List.find?_some h
  simpa using this

/-- A text is read as a type word exactly when it is that word's spelling. -/
theorem ofText?_eq_some_iff {s : Text} {w : TypeWord} : ofText? s = some w ↔ s = w.text :=
  ⟨fun h => (text_of_ofText? h).symm, fun h => h ▸ ofText?_text w⟩

/-- Different type words are spelled differently. -/
theorem text_injective {w v : TypeWord} (h : w.text = v.text) : w = v := by
  have hw := ofText?_text w
  rw [h, ofText?_text v] at hw
  exact (Option.some.inj hw).symm

theorem text_ne_nil (w : TypeWord) : w.text ≠ [] := by
  cases w <;> decide

theorem isUnicode_text (w : TypeWord) : w.text.isUnicode = true := by
  cases w <;> rfl

end TypeWord

/-! ## Field types and fields -/

/-- Written in place of the referenced model where the user gave none. It is no identifier that
a generated program could resolve, so the program stays invalid until it is edited. -/
def referencePlaceholder : Text := "INSERT_YOUR_REFERENCE_NAME_HERE".text

/-- The base type of a field. A reference to another model exists for `objectId` only. -/
inductive FieldType where
  | string
  | number
  | date
  | boolean
  | objectId (reference : Text)
  deriving DecidableEq, Repr

namespace FieldType

/-- The type word that writes a base type. It is never `array`. -/
def word : FieldType → TypeWord
  | string => .string
  | number => .number
  | date => .date
  | boolean => .boolean
  | objectId _ => .objectId

/-- The referenced model, empty for every type but `objectId`. -/
def reference : FieldType → Text
  | objectId r => r
  | _ => []

/-- Whether the type refers to another model. -/
def isReference : FieldType → Bool
  | objectId _ => true
  | _ => false

theorem word_ne_array (t : FieldType) : t.word ≠ .array := by
  cases t <;> simp [word]

theorem isReference_eq (t : FieldType) : t.isReference = decide (t.word = .objectId) := by
  cases t <;> rfl

/-- A type is determined by its word and its reference. -/
theorem eq_of_word_eq {t u : FieldType} (hw : t.word = u.word) (hr : t.reference = u.reference) :
    t = u := by
  cases t <;> cases u <;> simp_all [word, reference]

theorem reference_eq_nil {t : FieldType} (h : t.isReference = false) : t.reference = [] := by
  cases t <;> simp_all [isReference, reference]

end FieldType

/-- One declared field of a model. -/
structure Field where
  /-- The name, used verbatim in the generated programs. -/
  name : Text
  /-- The base type, with the referenced model where there is one. -/
  type : FieldType := .string
  /-- Whether the field holds a collection of values of its base type. -/
  isArray : Bool := false
  deriving DecidableEq, Repr

namespace Field

/-- The referenced model of a field, empty unless its type is `objectId`. -/
def reference (f : Field) : Text := f.type.reference

/-- The reference that is kept for a written one: the placeholder stands in for a blank one. -/
def keptReference (reference : Text) : Text :=
  if reference.isBlank then referencePlaceholder else reference

/-- The field that a user means by a name, a type word, a collection mark and a reference.
`array` means a collection of strings whatever the mark says, and a reference is kept only
where the type is `objectId`. -/
def ofWord (name : Text) (word : TypeWord) (isArray : Bool) (reference : Text) : Field :=
  match word with
  | .string => ⟨name, .string, isArray⟩
  | .number => ⟨name, .number, isArray⟩
  | .date => ⟨name, .date, isArray⟩
  | .boolean => ⟨name, .boolean, isArray⟩
  | .array => ⟨name, .string, true⟩
  | .objectId => ⟨name, .objectId (keptReference reference), isArray⟩

theorem name_ofWord (name : Text) (w : TypeWord) (a : Bool) (r : Text) :
    (ofWord name w a r).name = name := by
  cases w <;> rfl

/-- No field has the type word `array`; written, it means `string`. -/
theorem word_ofWord (name : Text) (w : TypeWord) (a : Bool) (r : Text) :
    (ofWord name w a r).type.word = if w = .array then .string else w := by
  cases w <;> rfl

theorem isReference_ofWord (name : Text) (w : TypeWord) (a : Bool) (r : Text) :
    (ofWord name w a r).type.isReference = decide (w = .objectId) := by
  cases w <;> rfl

/-- The type word `array` is mark enough. -/
theorem isArray_ofWord (name : Text) (w : TypeWord) (a : Bool) (r : Text) :
    (ofWord name w a r).isArray = (decide (w = .array) || a) := by
  cases w <;> simp [ofWord]

theorem reference_ofWord (name : Text) (w : TypeWord) (a : Bool) (r : Text) :
    (ofWord name w a r).reference = if w = .objectId then keptReference r else [] := by
  cases w <;> rfl

theorem keptReference_not_blank (r : Text) : (keptReference r).isBlank = false := by
  unfold keptReference
  split
  · decide
  · simp_all

/-- A field built from a type word never refers to a blank model. -/
theorem reference_ofWord_not_blank (name : Text) (w : TypeWord) (a : Bool) (r : Text)
    (h : (ofWord name w a r).type.isReference) : (ofWord name w a r).reference.isBlank = false := by
  cases w <;> simp [ofWord, FieldType.isReference] at h
  exact keptReference_not_blank r

/-- Writing a field back as its own parts and reading these again gives the field, provided its
reference is not blank where it has one. -/
theorem ofWord_self (f : Field) (h : f.type.isReference → f.reference.isBlank = false) :
    ofWord f.name f.type.word f.isArray f.reference = f := by
  obtain ⟨name, type, isArray⟩ := f
  cases type <;> simp_all [ofWord, FieldType.word, reference, FieldType.reference,
    FieldType.isReference, keptReference]

/-- Makes a field of a name, a type word, a collection mark and a reference, if the name can be
one. -/
def make (name : Text) (word : TypeWord) (isArray : Bool) (reference : Text) : Checked Field :=
  (Checked.name "name" name).map fun name => ofWord name word isArray reference

theorem make_of_isUnicode {name : Text} (h : name.isUnicode = true) (hne : name ≠ [])
    (w : TypeWord) (a : Bool) (r : Text) : make name w a r = .ok (ofWord name w a r) := by
  rw [make, Checked.name_of_isUnicode h hne]
  rfl

theorem make_of_not_isUnicode {name : Text} (h : name.isUnicode = false) (w : TypeWord) (a : Bool)
    (r : Text) : make name w a r = .error [.ofName "name"] := by
  rw [make, Checked.name_of_not_isUnicode h]
  rfl

theorem place_of_make_eq_error {name : Text} {w : TypeWord} {a : Bool} {r : Text}
    {faults : List Fault} (h : make name w a r = .error faults) :
    faults.map Fault.place = [[.member "name".text]] := by
  unfold make at h
  cases hname : Checked.name "name" name with
  | ok name => simp [hname, Except.map] at h
  | error faults' =>
      rw [hname] at h
      obtain rfl := Except.error.inj h
      exact Checked.place_of_name_eq_error hname

end Field

end Scaffold
