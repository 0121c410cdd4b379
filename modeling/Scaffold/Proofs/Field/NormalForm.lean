/-
# Scaffold.Proofs.Field.NormalForm -- what a structured value makes of a field

`Field.ofJson` reads any structured value, and there are four ways for that to end: the value is no
object; its reference is neither text nor nothing, although its type asks for one; some of its
members are at fault; or it is a field. `validation_exact` says of each of them when it happens and
what comes of it. The faults of members keep the order name, type, mark and name each member once at
most, the reference is never among them, and neither is the mark where the type already decides it.

A field that comes of it is in normal form (`Normal`), and so are the fields that are read from a
line and those that an interview collects, because each of them is `Field.ofWord` of a checked name
(`normal_ofWord`). Being in normal form means that nothing is left to normalize: the field written
as a structured value reads back as itself, and no other field does (`ofJson_toJson_eq_ok_iff`).

How a mark is read as a truth value is left to `Json.asBool`; nothing here looks into it.
-/

import Mathlib.Data.List.Sublists
import Scaffold.Interview
import Scaffold.Proofs.Field.Grammar

namespace Scaffold.Field

/-! ## Normal form -/

/-- The fields that reading makes: they have a name, which consists of characters, they are never
written with the word `array`, and a reference is there exactly where the type asks for one. -/
structure Normal (f : Field) : Prop where
  name_ne_nil : f.name ≠ []
  name_isUnicode : f.name.isUnicode = true
  word_ne_array : f.type.word ≠ .array
  reference_eq_nil : f.type.word ≠ .objectId → f.reference = []
  reference_not_blank : f.type.word = .objectId → f.reference.isBlank = false

/-- Every way from words to a field goes through `Field.ofWord`, and a name is all it takes. -/
theorem normal_ofWord {name : Text} (h : name ≠ []) (hunicode : name.isUnicode = true)
    (w : TypeWord) (isArray : Bool) (reference : Text) :
    (ofWord name w isArray reference).Normal where
  name_ne_nil := by rwa [name_ofWord]
  name_isUnicode := by rwa [name_ofWord]
  word_ne_array := FieldType.word_ne_array _
  reference_eq_nil hword := by
    apply FieldType.reference_eq_nil
    rw [FieldType.isReference_eq]
    exact decide_eq_false hword
  reference_not_blank hword := by
    apply reference_ofWord_not_blank
    rw [FieldType.isReference_eq]
    exact decide_eq_true hword

/-- A field that is made is in normal form. -/
theorem normal_of_make {name : Text} {w : TypeWord} {isArray : Bool} {reference : Text} {f : Field}
    (h : make name w isArray reference = .ok f) : f.Normal := by
  unfold make at h
  cases hname : Checked.name "name" name with
  | error faults => simp [hname, Except.map] at h
  | ok name' =>
      obtain ⟨rfl, hunicode, hne⟩ := Checked.name_eq_ok_iff.1 hname
      rw [hname] at h
      cases h
      exact normal_ofWord hne hunicode w isArray reference

/-- A field in normal form reads back from its own members. -/
theorem Normal.ofJson_toJson {f : Field} (h : f.Normal) : ofJson f.toJson = .ok f := by
  have hself : ofWord f.name f.type.word f.isArray f.reference = f := by
    refine ofWord_self f fun href => h.reference_not_blank ?_
    rw [FieldType.isReference_eq] at href
    exact of_decide_eq_true href
  calc ofJson f.toJson
      = (make f.name f.type.word f.isArray f.reference).mapError .faults :=
        ofJson_members f.name f.type.word f.isArray f.reference
    _ = .ok (ofWord f.name f.type.word f.isArray f.reference) := by
        rw [make_of_isUnicode h.name_isUnicode h.name_ne_nil]
        rfl
    _ = .ok f := by rw [hself]

/-! ## Members at fault -/

/-- The fault of a value that is no object. -/
def noObject : Fault := ⟨[], .notObject "FieldSpec".text⟩

/-- The places of the members that can be at fault, in the order in which they are checked. -/
def memberPlaces : List (List Step) :=
  [[.member "name".text], [.member "type".text], [.member "is_array".text]]

/-- A check that passes or finds a single fault at the given place. -/
def FaultsOnceAt {α : Type} (place : List Step) (c : Checked α) : Prop :=
  (∃ a, c = .ok a) ∨ ∃ kind, c = .error [⟨place, kind⟩]

/-- A member is at fault once at most, if neither its absence nor its value is more often. -/
theorem faultsOnceAt_checkMember {α : Type} {absent : Checked α} {check : Json → Checked α}
    (habsent : FaultsOnceAt [] absent) (hcheck : ∀ v, FaultsOnceAt [] (check v))
    (members : List (Text × Json)) (key : String) :
    FaultsOnceAt [.member key.text] (Json.checkMember members key absent check) := by
  have hbelow : ∀ c : Checked α, FaultsOnceAt [] c →
      FaultsOnceAt [.member key.text] (Checked.below (.member key.text) c) := by
    rintro c (⟨a, rfl⟩ | ⟨kind, rfl⟩)
    · exact .inl ⟨a, rfl⟩
    · exact .inr ⟨kind, rfl⟩
  unfold Json.checkMember
  cases Json.member? key.text members with
  | none => exact hbelow absent habsent
  | some v => exact hbelow (check v) (hcheck v)

theorem faultsOnceAt_ok {α : Type} {place : List Step} (a : α) :
    FaultsOnceAt place (.ok a : Checked α) := .inl ⟨a, rfl⟩

theorem faultsOnceAt_fault {α : Type} (kind : FaultKind) :
    FaultsOnceAt [] (Checked.fault kind : Checked α) := .inr ⟨kind, rfl⟩

theorem faultsOnceAt_ite {α : Type} {place : List Step} {p : Prop} [Decidable p] {c d : Checked α}
    (hc : FaultsOnceAt place c) (hd : FaultsOnceAt place d) :
    FaultsOnceAt place (if p then c else d) := by
  split
  · exact hc
  · exact hd

theorem faultsOnceAt_asNonemptyText (v : Json) : FaultsOnceAt [] v.asNonemptyText := by
  cases v with
  | text s =>
      exact faultsOnceAt_ite (faultsOnceAt_fault _)
        (faultsOnceAt_ite (faultsOnceAt_fault _) (faultsOnceAt_ok s))
  | _ => exact faultsOnceAt_fault _

theorem faultsOnceAt_asWord {α : Type} (words : List Text) (meaning : Text → Option α) (v : Json) :
    FaultsOnceAt [] (Json.asWord words meaning v) := by
  cases v with
  | text s =>
      refine faultsOnceAt_ite (faultsOnceAt_fault _) ?_
      cases meaning s with
      | none => exact faultsOnceAt_fault _
      | some a => exact faultsOnceAt_ok a
  | _ => exact faultsOnceAt_fault _

theorem faultsOnceAt_asBool (v : Json) : FaultsOnceAt [] v.asBool := by
  have hok : ∀ b : Bool, FaultsOnceAt [] (.ok b : Checked Bool) := faultsOnceAt_ok
  have hfault : ∀ kind, FaultsOnceAt [] (Checked.fault kind : Checked Bool) := faultsOnceAt_fault
  cases v with
  | bool b => exact hok b
  | integer n =>
      exact faultsOnceAt_ite (hok _) (faultsOnceAt_ite (hok _)
        (faultsOnceAt_ite (hfault _) (hfault _)))
  | real x =>
      exact faultsOnceAt_ite (hok _) (faultsOnceAt_ite (hok _)
        (faultsOnceAt_ite (hfault _) (hfault _)))
  | text s =>
      exact faultsOnceAt_ite (hfault _) (faultsOnceAt_ite (hok _)
        (faultsOnceAt_ite (hok _) (hfault _)))
  | _ => exact hfault _

/-- A check of a single fault has none exactly when it passes. -/
theorem FaultsOnceAt.faults_eq_nil_iff {α : Type} {place : List Step} {c : Checked α}
    (h : FaultsOnceAt place c) : c.faults = [] ↔ ∃ a, c = .ok a := by
  rcases h with ⟨a, rfl⟩ | ⟨kind, rfl⟩
  · exact ⟨fun _ => ⟨a, rfl⟩, fun _ => rfl⟩
  · exact ⟨fun hnil => absurd hnil (List.cons_ne_nil _ _), fun ⟨a, ha⟩ => by cases ha⟩

theorem FaultsOnceAt.places_sublist {α : Type} {place : List Step} {c : Checked α}
    (h : FaultsOnceAt place c) : (c.faults.map Fault.place).Sublist [place] := by
  rcases h with ⟨a, rfl⟩ | ⟨kind, rfl⟩
  · exact List.nil_sublist [place]
  · exact List.Sublist.refl [place]

theorem both_eq_ok_iff {α β : Type} {a : Checked α} {b : Checked β} {x : α} {y : β} :
    Checked.both a b = .ok (x, y) ↔ a = .ok x ∧ b = .ok y := by
  cases a <;> cases b <;> simp [Checked.both]

theorem eq_of_both_eq_error {α β : Type} {a : Checked α} {b : Checked β} {faults : List Fault}
    (h : Checked.both a b = .error faults) : faults = a.faults ++ b.faults := by
  cases a <;> cases b <;> simp_all [Checked.both, Checked.faults]

/-! ## The members of a field -/

variable {members : List (Text × Json)}

/-- The name of a field object, checked. -/
def nameOfMembers (members : List (Text × Json)) : Checked Text :=
  Json.checkMember members "name" (.fault .missing) Json.asNonemptyText

/-- The checks of the three members that can be at fault. -/
def checkMembers (members : List (Text × Json)) : Checked (Text × TypeWord × Bool) :=
  (nameOfMembers members).both ((typeOfMembers members).both (arrayOfMembers members))

theorem faultsOnceAt_name (members : List (Text × Json)) :
    FaultsOnceAt [.member "name".text] (nameOfMembers members) :=
  faultsOnceAt_checkMember (faultsOnceAt_fault _) faultsOnceAt_asNonemptyText members "name"

theorem faultsOnceAt_type (members : List (Text × Json)) :
    FaultsOnceAt [.member "type".text] (typeOfMembers members) :=
  faultsOnceAt_checkMember (faultsOnceAt_ok _) (faultsOnceAt_asWord _ _) members "type"

theorem faultsOnceAt_mark (members : List (Text × Json)) :
    FaultsOnceAt [.member "is_array".text] (arrayOfMembers members) :=
  faultsOnceAt_ite (faultsOnceAt_ok true)
    (faultsOnceAt_checkMember (faultsOnceAt_ok _) faultsOnceAt_asBool members "is_array")

theorem writesType_iff {word : TypeWord} :
    writesType members word ↔ Json.member? "type".text members = some (.text word.text) := by
  unfold writesType
  cases h : Json.member? "type".text members with
  | none => simp
  | some v => cases v <;> simp

/-- Reading an object is normalizing the reference, checking the other members, and then making the
field that they mean. -/
theorem ofJson_object (members : List (Text × Json)) :
    ofJson (.object members) =
      match referenceOfMembers members with
      | .error why => .error why
      | .ok reference =>
        match checkMembers members with
        | .ok (name, word, isArray) => .ok (.ofWord name word isArray reference)
        | .error faults => .error (.faults faults) := by
  cases hreference : referenceOfMembers members with
  | error why => simp only [ofJson, check, hreference]
  | ok reference =>
      cases hchecked : checkMembers members with
      | error faults =>
          unfold checkMembers nameOfMembers at hchecked
          simp only [ofJson, check, hreference, hchecked]
      | ok read =>
          unfold checkMembers nameOfMembers at hchecked
          simp only [ofJson, check, hreference, hchecked]

/-- The type asks for a reference, and what is there is neither text nor nothing. -/
structure ReferenceNotText (members : List (Text × Json)) (reference : Json) : Prop where
  type : Json.member? "type".text members = some (.text "objectId".text)
  member : Json.member? "reference".text members = some reference
  not_falsy : reference.isFalsy = false
  not_text : ∀ s, reference ≠ .text s

theorem referenceOfMembers_eq_error_iff {why : Refusal} :
    referenceOfMembers members = .error why ↔
      ∃ reference, why = .referenceNotText reference ∧ ReferenceNotText members reference := by
  have htype : writesType members .objectId ↔
      Json.member? "type".text members = some (.text "objectId".text) := writesType_iff
  constructor
  · intro h
    unfold referenceOfMembers at h
    split at h
    next hword =>
      split at h
      next => cases h
      next => cases h
      next v hnottext hmember =>
        split at h
        next => cases h
        next hfalsy =>
          cases h
          exact ⟨v, rfl, htype.1 hword, hmember, by simpa using hfalsy,
            fun s hs => hnottext s hs⟩
    next => cases h
  · rintro ⟨reference, rfl, h⟩
    have hmember := h.member
    unfold referenceOfMembers
    rw [if_pos (htype.2 h.type), hmember]
    cases reference with
    | text s => exact absurd rfl (h.not_text s)
    | _ => exact if_neg (by simpa using h.not_falsy)

/-! ## Fields that can be read -/

/-- Members that make a field: a name of at least one character and of characters only, a type that
is one of the words or is left out, a mark that stands for a truth value or is left out, unless the
type is `array` and decides it, and, where the type asks for a reference, one that is text or
nothing. -/
structure Readable (members : List (Text × Json)) : Prop where
  name : ∃ s : Text, s ≠ [] ∧ s.isUnicode = true ∧ Json.member? "name".text members = some (.text s)
  type : ∀ v, Json.member? "type".text members = some v → ∃ w : TypeWord, v = .text w.text
  mark : ∀ v, Json.member? "is_array".text members = some v →
    Json.member? "type".text members ≠ some (.text "array".text) → ∃ b, v.asBool = .ok b
  reference : ∀ v, ¬ ReferenceNotText members v

theorem checkMember_eq_ok_iff {α : Type} {absent : Checked α} {check : Json → Checked α}
    {key : String} {a : α} :
    Json.checkMember members key absent check = .ok a ↔
      (Json.member? key.text members = none ∧ absent = .ok a) ∨
      ∃ v, Json.member? key.text members = some v ∧ check v = .ok a := by
  have hbelow : ∀ c : Checked α, Checked.below (.member key.text) c = .ok a ↔ c = .ok a := by
    intro c
    cases c <;> simp [Checked.below]
  unfold Json.checkMember
  rw [hbelow]
  cases Json.member? key.text members <;> simp

theorem nameOfMembers_eq_ok_iff {s : Text} :
    nameOfMembers members = .ok s ↔
      s ≠ [] ∧ s.isUnicode = true ∧ Json.member? "name".text members = some (.text s) := by
  rw [nameOfMembers, checkMember_eq_ok_iff]
  constructor
  · rintro (⟨-, h⟩ | ⟨v, hv, h⟩)
    · cases h
    · cases v with
      | text t =>
          obtain ⟨rfl, hunicode, hne⟩ := Checked.asNonemptyText_eq_ok_iff.1 h
          exact ⟨hne, hunicode, hv⟩
      | _ => cases h
  · rintro ⟨hne, hunicode, hmember⟩
    exact .inr ⟨.text s, hmember, Checked.asNonemptyText_eq_ok_iff.2 ⟨rfl, hunicode, hne⟩⟩

theorem exists_typeOfMembers_eq_ok_iff :
    (∃ w, typeOfMembers members = .ok w) ↔
      ∀ v, Json.member? "type".text members = some v → ∃ w : TypeWord, v = .text w.text := by
  simp only [typeOfMembers, checkMember_eq_ok_iff]
  constructor
  · rintro ⟨w, ⟨hnone, -⟩ | ⟨v, hv, hword⟩⟩ u hu
    · rw [hnone] at hu
      cases hu
    · rw [hv] at hu
      cases hu
      cases v with
      | text s =>
          cases hs : TypeWord.ofText? s with
          | none =>
              cases hunicode : s.isUnicode <;>
                simp [Json.asWord, hs, hunicode, Checked.fault] at hword
          | some w' => exact ⟨w', congrArg Json.text (TypeWord.ofText?_eq_some_iff.1 hs)⟩
      | _ => cases hword
  · intro h
    cases hmember : Json.member? "type".text members with
    | none => exact ⟨.string, .inl ⟨rfl, rfl⟩⟩
    | some v =>
        obtain ⟨w, rfl⟩ := h v hmember
        refine ⟨w, .inr ⟨_, rfl, ?_⟩⟩
        simp only [Json.asWord, w.isUnicode_text, Bool.true_eq_false, if_false,
          TypeWord.ofText?_text]

theorem exists_arrayOfMembers_eq_ok_iff :
    (∃ b, arrayOfMembers members = .ok b) ↔
      ∀ v, Json.member? "is_array".text members = some v →
        Json.member? "type".text members ≠ some (.text "array".text) →
          ∃ b, v.asBool = .ok b := by
  have htype : writesType members .array ↔
      Json.member? "type".text members = some (.text "array".text) := writesType_iff
  unfold arrayOfMembers
  by_cases harray : writesType members .array
  · rw [if_pos harray]
    exact iff_of_true ⟨true, rfl⟩ fun v _ hne => absurd (htype.1 harray) hne
  · rw [if_neg harray]
    simp only [checkMember_eq_ok_iff]
    constructor
    · rintro ⟨b, ⟨hnone, -⟩ | ⟨v, hv, hb⟩⟩ u hu -
      · rw [hnone] at hu
        cases hu
      · rw [hv] at hu
        cases hu
        exact ⟨b, hb⟩
    · intro h
      cases hmember : Json.member? "is_array".text members with
      | none => exact ⟨false, .inl ⟨rfl, rfl⟩⟩
      | some v =>
          obtain ⟨b, hb⟩ := h v hmember fun hc => harray (htype.2 hc)
          exact ⟨b, .inr ⟨v, rfl, hb⟩⟩

/-- The fields that objects make. -/
theorem exists_ofJson_object_eq_ok_iff :
    (∃ f, ofJson (.object members) = .ok f) ↔ Readable members := by
  rw [ofJson_object]
  constructor
  · rintro ⟨f, h⟩
    split at h
    next => cases h
    next reference hreference =>
      split at h
      next name word isArray hchecked =>
        obtain ⟨hname, hrest⟩ := both_eq_ok_iff.1 hchecked
        obtain ⟨hword, hmark⟩ := both_eq_ok_iff.1 hrest
        refine ⟨⟨name, nameOfMembers_eq_ok_iff.1 hname⟩,
          exists_typeOfMembers_eq_ok_iff.1 ⟨word, hword⟩,
          exists_arrayOfMembers_eq_ok_iff.1 ⟨isArray, hmark⟩, fun v hv => ?_⟩
        rw [referenceOfMembers_eq_error_iff.2 ⟨v, rfl, hv⟩] at hreference
        cases hreference
      next => cases h
  · intro h
    obtain ⟨name, hname⟩ := h.name
    obtain ⟨word, hword⟩ := exists_typeOfMembers_eq_ok_iff.2 h.type
    obtain ⟨isArray, hmark⟩ := exists_arrayOfMembers_eq_ok_iff.2 h.mark
    have hchecked : checkMembers members = .ok (name, word, isArray) :=
      both_eq_ok_iff.2 ⟨nameOfMembers_eq_ok_iff.2 hname, both_eq_ok_iff.2 ⟨hword, hmark⟩⟩
    cases hreference : referenceOfMembers members with
    | error why =>
        obtain ⟨v, -, hv⟩ := referenceOfMembers_eq_error_iff.1 hreference
        exact absurd hv (h.reference v)
    | ok reference =>
        rw [hchecked]
        exact ⟨_, rfl⟩

/-! ## The outcomes of reading -/

/-- A field that is read is in normal form. -/
theorem normal_of_ofJson {v : Json} {f : Field} (h : ofJson v = .ok f) : f.Normal := by
  cases v with
  | object members =>
      rw [ofJson_object] at h
      split at h
      next => cases h
      next reference _ =>
        split at h
        next name word isArray hchecked =>
          cases h
          have hname := nameOfMembers_eq_ok_iff.1 (both_eq_ok_iff.1 hchecked).1
          exact normal_ofWord hname.1 hname.2.1 word isArray reference
        next => cases h
  | _ => cases h

/-- The fields in normal form are those that read back from their own structured value. -/
theorem ofJson_toJson_eq_ok_iff {f : Field} : ofJson f.toJson = .ok f ↔ f.Normal :=
  ⟨normal_of_ofJson, Normal.ofJson_toJson⟩

/-- Faults of an object are faults of its members, in the order of the checks. -/
theorem faults_of_ofJson_object {faults : List Fault}
    (h : ofJson (.object members) = .error (.faults faults)) :
    faults ≠ [] ∧ (faults.map Fault.place).Sublist memberPlaces ∧
      (Json.member? "type".text members = some (.text "array".text) →
        [.member "is_array".text] ∉ faults.map Fault.place) := by
  have hname := faultsOnceAt_name members
  have htype := faultsOnceAt_type members
  have hmark := faultsOnceAt_mark members
  have hchecked : checkMembers members = .error faults := by
    rw [ofJson_object] at h
    split at h
    next why hwhy =>
      obtain ⟨v, rfl, -⟩ := referenceOfMembers_eq_error_iff.1 hwhy
      cases h
    next =>
      split at h
      next => cases h
      next hchecked =>
        cases h
        exact hchecked
  have hfaults : faults = (nameOfMembers members).faults ++
      ((typeOfMembers members).faults ++ (arrayOfMembers members).faults) := by
    have houter := eq_of_both_eq_error hchecked
    -- The inner pair has the faults of its parts whether or not it passes.
    cases hinner : (typeOfMembers members).both (arrayOfMembers members) with
    | error others =>
        rw [hinner] at houter
        rw [houter, ← eq_of_both_eq_error hinner]
        rfl
    | ok read =>
        obtain ⟨hword, hbool⟩ := both_eq_ok_iff.1 hinner
        rw [hinner] at houter
        rw [houter, hword, hbool]
        rfl
  refine ⟨?_, ?_, ?_⟩
  · intro hnil
    rw [hfaults, List.append_eq_nil_iff, List.append_eq_nil_iff] at hnil
    obtain ⟨name, hn⟩ := hname.faults_eq_nil_iff.1 hnil.1
    obtain ⟨word, hw⟩ := htype.faults_eq_nil_iff.1 hnil.2.1
    obtain ⟨isArray, hb⟩ := hmark.faults_eq_nil_iff.1 hnil.2.2
    have hok : checkMembers members = .ok (name, word, isArray) :=
      both_eq_ok_iff.2 ⟨hn, both_eq_ok_iff.2 ⟨hw, hb⟩⟩
    rw [hok] at hchecked
    cases hchecked
  · rw [hfaults, List.map_append, List.map_append]
    exact hname.places_sublist.append (htype.places_sublist.append hmark.places_sublist)
  · intro harray hmem
    have hnofault : (arrayOfMembers members).faults = [] :=
      hmark.faults_eq_nil_iff.2 ⟨true, if_pos (writesType_iff.2 harray)⟩
    rw [hfaults, hnofault, List.append_nil, List.map_append] at hmem
    have hplaces := hname.places_sublist.append htype.places_sublist
    exact absurd (hplaces.subset hmem) (by decide)

/-- The fault of a value that is no object is there exactly where the value is none. -/
theorem ofJson_eq_noObject_iff {v : Json} :
    ofJson v = .error (.faults [noObject]) ↔ ∀ members, v ≠ .object members := by
  constructor
  · rintro h members rfl
    -- The places of members are not the place of the value itself.
    have hplaces := (faults_of_ofJson_object h).2.1
    exact absurd (hplaces.subset (List.mem_singleton.2 rfl)) (by decide)
  · intro h
    cases v with
    | object members => exact absurd rfl (h members)
    | _ => rfl

theorem ofJson_eq_referenceNotText_iff {v reference : Json} :
    ofJson v = .error (.referenceNotText reference) ↔
      ∃ members, v = .object members ∧ ReferenceNotText members reference := by
  constructor
  · intro h
    cases v with
    | object members =>
        refine ⟨members, rfl, ?_⟩
        rw [ofJson_object] at h
        split at h
        next why hwhy =>
          cases h
          obtain ⟨v, hv, hnottext⟩ := referenceOfMembers_eq_error_iff.1 hwhy
          cases hv
          exact hnottext
        next => split at h <;> cases h
    | _ => cases h
  · rintro ⟨members, rfl, h⟩
    rw [ofJson_object, referenceOfMembers_eq_error_iff.2 ⟨reference, rfl, h⟩]

theorem exists_ofJson_eq_ok_iff {v : Json} :
    (∃ f, ofJson v = .ok f) ↔ ∃ members, v = .object members ∧ Readable members := by
  constructor
  · rintro ⟨f, h⟩
    cases v with
    | object members => exact ⟨members, rfl, exists_ofJson_object_eq_ok_iff.1 ⟨f, h⟩⟩
    | _ => cases h
  · rintro ⟨members, rfl, h⟩
    exact exists_ofJson_object_eq_ok_iff.2 h

/-! ## Fields from a line and from an interview -/

/-- What a move of a dialogue leads to: a point or a result of the given kind, or the same question
again. -/
def LeadsTo {σ ρ : Type} (I : σ → Prop) (Q : ρ → Prop) : Move σ ρ → Prop
  | .next point _ => I point
  | .again _ => True
  | .done result => Q result

/-- What every answer keeps while a dialogue goes on, and what it then gives to the result, holds of
the result of every run. -/
theorem result_of_run {σ ρ : Type} {d : Dialogue σ ρ} {I : σ → Prop} {Q : ρ → Prop}
    (hanswer : ∀ point a, I point → LeadsTo I Q (d.answer point a)) {reporting : Bool}
    {answers : List Answer} {p : σ} (hp : I p) {result : ρ}
    (h : (d.run reporting p answers).result = some result) : Q result := by
  -- The run follows the answers; a refused one leaves the point, and with it the invariant.
  induction answers generalizing p with
  | nil => cases h
  | cons a answers ih =>
      have hmove := hanswer p a hp
      rw [Dialogue.run] at h
      split at h
      next hdone =>
        rw [hdone] at hmove
        cases h
        exact hmove
      next => exact ih hp h
      next hnext =>
        rw [hnext] at hmove
        exact ih hmove h

/-- What is known while the fields are asked for: the settled ones are in normal form. -/
def Sound : Interview.FieldPoint → Prop
  | .name settled | .type settled _ | .reference settled _ => ∀ f ∈ settled, f.Normal

/-- What an interview collects, if it is not at fault, is in normal form. -/
def SoundResult (result : Checked (List Field)) : Prop :=
  ∀ fields, result = .ok fields → ∀ f ∈ fields, f.Normal

/-- The field in hand joins the settled ones in normal form, if it does. -/
theorem sound_settle {settled : List Field} (h : ∀ f ∈ settled, f.Normal) (name : Text)
    (w : TypeWord) (reference : Text) :
    LeadsTo Sound SoundResult (Interview.settle settled name w reference) := by
  rw [Interview.settle]
  split
  next made hmake =>
    intro f hf
    rcases List.mem_append.1 hf with hf | hf
    · exact h f hf
    · rw [List.mem_singleton.1 hf]
      exact normal_of_make hmake
  next =>
    rintro fields ⟨⟩

theorem sound_answer (point : Interview.FieldPoint) (a : Answer) (h : Sound point) :
    LeadsTo Sound SoundResult (point.answer a) := by
  cases point with
  | name settled =>
      rw [Interview.FieldPoint.answer]
      split
      next =>
        rintro fields ⟨⟩
        exact h
      next => exact h
  | type settled name =>
      rw [Interview.FieldPoint.answer]
      split
      next => trivial
      next => exact h
      next word _ _ => exact sound_settle h name word []
  | reference settled name => exact sound_settle h name .objectId a.stripped

/-- The fields that an interview collects are in normal form. -/
theorem normal_of_collectFields {reporting : Bool} {answers : List Answer} {fields : List Field}
    (h : (Interview.collectFields reporting answers).result = some (.ok fields)) :
    ∀ f ∈ fields, f.Normal := by
  have hnone : Sound (.name []) := fun f hf => absurd hf List.not_mem_nil
  have hresult : SoundResult (.ok fields) := result_of_run sound_answer hnone h
  exact hresult fields rfl

/-- A field that is read from a group of a line is in normal form. -/
theorem normal_of_parseGroup {group : Text} {f : Field} (h : Spec.parseGroup group = .ok f) :
    f.Normal := by
  obtain ⟨w, -, hread⟩ := Spec.accepts_of_parseGroup h
  exact normal_of_ofJson hread

/-! ## Validation -/

/-- **Reading a field from any structured value** ends in one of four ways. The value is refused as
no object exactly when it is none. It is refused for its reference exactly when its type asks for
one and what is there is neither text nor nothing. Otherwise faults, where there are any, are those
of name, type and mark, in this order and each once at most, and not of the mark where the type is
`array`. And it makes a field exactly when it is an object that can be read; the field is in normal
form. The fields that a line and an interview make are in normal form too, and to be so means to
read back from one's own structured value unchanged. -/
theorem validation_exact :
    (∀ v : Json,
      (ofJson v = .error (.faults [noObject]) ↔ ∀ members, v ≠ .object members) ∧
      (∀ reference, ofJson v = .error (.referenceNotText reference) ↔
        ∃ members, v = .object members ∧ ReferenceNotText members reference) ∧
      (∀ members faults, v = .object members → ofJson v = .error (.faults faults) →
        faults ≠ [] ∧ (faults.map Fault.place).Sublist memberPlaces ∧
          (Json.member? "type".text members = some (.text "array".text) →
            [.member "is_array".text] ∉ faults.map Fault.place)) ∧
      ((∃ f, ofJson v = .ok f) ↔ ∃ members, v = .object members ∧ Readable members) ∧
      ∀ f, ofJson v = .ok f → f.Normal) ∧
    (∀ f : Field, ofJson f.toJson = .ok f ↔ f.Normal) ∧
    (∀ group f, Spec.parseGroup group = .ok f → f.Normal) ∧
    ∀ reporting answers fields,
      (Interview.collectFields reporting answers).result = some (.ok fields) →
        ∀ f ∈ fields, f.Normal := by
  refine ⟨fun v => ⟨ofJson_eq_noObject_iff, fun reference => ofJson_eq_referenceNotText_iff, ?_,
      exists_ofJson_eq_ok_iff, fun f => normal_of_ofJson⟩,
    fun f => ofJson_toJson_eq_ok_iff, fun group f => normal_of_parseGroup,
    fun reporting answers fields => normal_of_collectFields⟩
  rintro members faults rfl h
  exact faults_of_ofJson_object h

end Scaffold.Field
