/-
# Scaffold.Proofs.Artifact.Declarations -- the schema of a file tells its fields

The object that declares the fields of a model is program text, and fields are no longer data in it.
A name or a reference may hold what stands between two entries, or the whole text of another entry.
Only the apostrophes around it say where it ends, and they are enough: `schema_tells_fields` says
that field lists without apostrophes have the same schema exactly when they are the same.

Nothing is decoded for that. Every part of the object, from the declaration of a base type to the
whole, ends itself (`EndsItself`): with whatever text behind it, it is the same text only for the
same value, and then the rest is the same as well. Entries are set apart by a comma where there is
another one and closed without it behind the last (`EndsItself.flatMap`).
-/

import Scaffold.Artifact.Block

namespace Scaffold

/-! ## Texts that end themselves -/

namespace Text

/-- What is written for a value with a text behind it tells the value and the text, among values of
the given kind. -/
def EndsItself {α : Type} (P : α → Prop) (write : α → Text) : Prop :=
  ∀ a b s t, P a → P b → write a ++ s = write b ++ t → a = b ∧ s = t

/-- A text without the separator ends at the first one. -/
theorem append_separator_inj {sep : CodePoint} {s t u v : Text} (hs : sep ∉ s) (ht : sep ∉ t)
    (h : s ++ sep :: u = t ++ sep :: v) : s = t ∧ u = v := by
  have hsplit := congrArg (split sep) h
  rw [split_append_sep hs, split_append_sep ht] at hsplit
  obtain ⟨rfl, -⟩ := List.cons.inj hsplit
  have hrest := List.append_cancel_left h
  exact ⟨rfl, (List.cons.inj hrest).2⟩

/-- The first piece stands alone, and each other one behind the glue. -/
theorem joinWith_cons (glue piece : Text) (pieces : List Text) :
    joinWith glue (piece :: pieces) = piece ++ pieces.flatMap (glue ++ ·) := by
  induction pieces generalizing piece with
  | nil => exact (List.append_nil piece).symm
  | cons q qs ih =>
      rw [joinWith, ih, List.flatMap_cons, List.append_assoc, List.append_assoc]
      exact List.cons_ne_nil q qs

/-- **A list ends itself** where its members do, if the glue before a further member cannot be taken
for the ending behind the last. -/
theorem EndsItself.flatMap {α : Type} {P : α → Prop} {write : α → Text} (h : EndsItself P write)
    {glue ending : Text} (hglue : ∀ s t, glue ++ s ≠ ending ++ t) :
    EndsItself (fun as : List α => ∀ a ∈ as, P a)
      (fun as => as.flatMap (fun a => glue ++ write a) ++ ending) := by
  intro as
  induction as with
  | nil =>
      intro bs s t _ _ heq
      cases bs with
      | nil => exact ⟨rfl, List.append_cancel_left heq⟩
      | cons b bs =>
          simp only [List.flatMap_nil, List.flatMap_cons, List.nil_append, List.append_assoc] at heq
          exact absurd heq.symm (hglue _ _)
  | cons a as ih =>
      intro bs s t hfirst hsecond heq
      cases bs with
      | nil =>
          simp only [List.flatMap_nil, List.flatMap_cons, List.nil_append, List.append_assoc] at heq
          exact absurd heq (hglue _ _)
      | cons b bs =>
          obtain ⟨ha, has⟩ := List.forall_mem_cons.1 hfirst
          obtain ⟨hb, hbs⟩ := List.forall_mem_cons.1 hsecond
          simp only [List.flatMap_cons, List.append_assoc] at heq
          obtain ⟨rfl, hrest⟩ := h a b _ _ ha hb (List.append_cancel_left heq)
          simp only [← List.append_assoc] at hrest
          obtain ⟨rfl, rfl⟩ := ih bs s t has hbs hrest
          exact ⟨rfl, rfl⟩

end Text

namespace Artifact

open Text (EndsItself append_separator_inj)

/-! ## Entries -/

/-- What stands in the declaration of an `objectId` before the reference. -/
def referenceOpening (depth : Int) : Text :=
  "\x7b\n".text ++ indent (depth + 1) ++ "type: Schema.Types.ObjectId,\n".text ++
    indent (depth + 1) ++ "ref: '".text

/-- What stands in the declaration of an `objectId` behind the apostrophe that ends its
reference. -/
def referenceClosing (depth : Int) : Text := chr '\n' :: indent depth ++ "\x7d".text

theorem declaration_objectId (depth : Int) (reference : Text) :
    declaration depth (.objectId reference) =
      referenceOpening depth ++ reference ++ chr '\'' :: referenceClosing depth := by
  unfold declaration
  simp [referenceOpening, referenceClosing]

/-- The first character of a declaration, by the type word. -/
def firstChar : TypeWord → CodePoint
  | .string => 'S'
  | .number => 'N'
  | .date => 'D'
  | .boolean => 'B'
  | .objectId => '\x7b'
  | .array => '['

/-- Declarations of different types differ from their first character on. -/
theorem head?_declaration_append (depth : Int) (t : FieldType) (rest : Text) :
    (declaration depth t ++ rest).head? = some (firstChar t.word) := by
  cases t <;> rfl

theorem firstChar_injective {w v : TypeWord} (h : firstChar w = firstChar v) : w = v := by
  revert h
  cases w <;> cases v <;> decide

theorem endsItself_declaration (depth : Int) :
    EndsItself (fun t : FieldType => chr '\'' ∉ t.reference) (declaration depth) := by
  intro t u s v ht hu heq
  have hhead := congrArg List.head? heq
  rw [head?_declaration_append, head?_declaration_append, Option.some.injEq] at hhead
  have hword := firstChar_injective hhead
  cases t with
  | objectId reference =>
      cases u with
      | objectId other =>
          rw [declaration_objectId, declaration_objectId] at heq
          simp only [List.append_assoc, List.cons_append] at heq
          have hbehind := List.append_cancel_left heq
          -- Both references end at the first apostrophe.
          obtain ⟨rfl, hrest⟩ := append_separator_inj ht hu hbehind
          exact ⟨rfl, List.append_cancel_left hrest⟩
      | _ => cases hword
  | _ =>
      cases u
      all_goals cases hword
      exact ⟨rfl, List.append_cancel_left heq⟩

/-- A declaration in brackets is none without. -/
theorem bracket_ne_declaration (depth : Int) (t : FieldType) (s rest : Text) :
    chr '[' :: s ≠ declaration depth t ++ rest := by
  intro heq
  have hhead := congrArg List.head? heq
  rw [head?_declaration_append, List.head?_cons, Option.some.injEq] at hhead
  have hword : TypeWord.array = t.word := firstChar_injective hhead
  exact t.word_ne_array hword.symm

/-- The type of a field and its mark are told by how they are declared. -/
theorem typeDeclaration_append_inj {depth : Int} {f g : Field} {s t : Text}
    (hf : chr '\'' ∉ f.reference) (hg : chr '\'' ∉ g.reference)
    (heq : typeDeclaration depth f ++ s = typeDeclaration depth g ++ t) :
    f.type = g.type ∧ f.isArray = g.isArray ∧ s = t := by
  have hends := endsItself_declaration depth
  rw [typeDeclaration, typeDeclaration] at heq
  -- A bracket in front of one declaration only is seen in the first character.
  cases hmark : f.isArray <;> cases hmark' : g.isArray
  · simp only [hmark, hmark', Bool.false_eq_true, if_false] at heq
    obtain ⟨htype, hrest⟩ := hends _ _ _ _ hf hg heq
    exact ⟨htype, rfl, hrest⟩
  · simp only [hmark, hmark', Bool.false_eq_true, if_false, if_true, List.cons_append] at heq
    exact absurd heq.symm (bracket_ne_declaration depth f.type _ s)
  · simp only [hmark, hmark', Bool.false_eq_true, if_false, if_true, List.cons_append] at heq
    exact absurd heq (bracket_ne_declaration depth g.type _ t)
  · simp only [hmark, hmark', if_true, List.cons_append, List.append_assoc,
      List.cons.injEq, true_and] at heq
    obtain ⟨htype, hrest⟩ := hends _ _ _ _ hf hg heq
    exact ⟨htype, rfl, (List.cons.inj hrest).2⟩

/-- No apostrophe is in what the user names in a field. -/
def Quotable (f : Field) : Prop := chr '\'' ∉ f.name ∧ chr '\'' ∉ f.reference

/-- **An entry tells its field.** -/
theorem endsItself_schemaEntry : EndsItself Quotable schemaEntry := by
  intro f g s t hf hg heq
  have hquoted (h : Field) (rest : Text) : schemaEntry h ++ rest =
      indent 1 ++
        chr '\'' :: (h.name ++ chr '\'' :: (" : ".text ++ (typeDeclaration 1 h ++ rest))) := by
    simp [schemaEntry]
  rw [hquoted, hquoted] at heq
  have hname := (List.cons.inj (List.append_cancel_left heq)).2
  obtain ⟨hname, hbehind⟩ := append_separator_inj hf.1 hg.1 hname
  have htype := List.append_cancel_left hbehind
  obtain ⟨htype, hmark, hrest⟩ := typeDeclaration_append_inj hf.2 hg.2 htype
  obtain ⟨name, type, isArray⟩ := f
  cases hname
  cases htype
  cases hmark
  exact ⟨rfl, hrest⟩

/-! ## The schema -/

theorem schemaBlock_cons (f : Field) (fs : List Field) :
    schemaBlock (f :: fs) = "\x7b\n".text ++
      (schemaEntry f ++ (fs.flatMap (fun g => ",\n".text ++ schemaEntry g) ++ "\n\x7d".text)) := by
  rw [schemaBlock, if_neg (List.cons_ne_nil f fs), List.map_cons, Text.joinWith_cons,
    List.flatMap_map, List.append_assoc, List.append_assoc]

/-- The schema ends itself wherever it stands. -/
theorem endsItself_schemaBlock : EndsItself (fun fs => ∀ f ∈ fs, Quotable f) schemaBlock := by
  have hglue : ∀ s t : Text, ",\n".text ++ s ≠ "\n\x7d".text ++ t := by
    intro s t heq
    cases heq
  have hentries := endsItself_schemaEntry.flatMap hglue
  intro fs gs s t hfirst hsecond heq
  cases fs with
  | nil =>
      cases gs with
      | nil => exact ⟨rfl, List.append_cancel_left heq⟩
      | cons g gs =>
          rw [schemaBlock_cons] at heq
          cases heq
  | cons f fs =>
      cases gs with
      | nil =>
          rw [schemaBlock_cons] at heq
          cases heq
      | cons g gs =>
          obtain ⟨hf, hfs⟩ := List.forall_mem_cons.1 hfirst
          obtain ⟨hg, hgs⟩ := List.forall_mem_cons.1 hsecond
          rw [schemaBlock_cons, schemaBlock_cons] at heq
          simp only [List.append_assoc] at heq
          have hentry := List.append_cancel_left heq
          obtain ⟨rfl, hrest⟩ := endsItself_schemaEntry f g _ _ hf hg hentry
          simp only [← List.append_assoc] at hrest
          obtain ⟨rfl, rfl⟩ := hentries fs gs s t hfs hgs hrest
          exact ⟨rfl, rfl⟩

/-- **The schema tells its fields.** Two lists of fields without an apostrophe in a name or a
reference have the same schema only if they are the same, field by field, with the name, the type,
the reference and the mark of each. Whatever else is in a name or a reference makes no
difference. -/
theorem schema_tells_fields {fs gs : List Field}
    (hfs : ∀ f ∈ fs, chr '\'' ∉ f.name ∧ chr '\'' ∉ f.reference)
    (hgs : ∀ g ∈ gs, chr '\'' ∉ g.name ∧ chr '\'' ∉ g.reference) :
    schemaBlock fs = schemaBlock gs ↔ fs = gs := by
  constructor
  · intro heq
    have hbehind : schemaBlock fs ++ [] = schemaBlock gs ++ [] := by rw [heq]
    exact (endsItself_schemaBlock fs gs [] [] hfs hgs hbehind).1
  · rintro rfl
    rfl

/-- A name that holds the end of an entry and the beginning of the next, and a reference that holds
the end of the whole object, are told from the fields that they look like. -/
theorem schema_tells_fields_of_lookalike :
    let one : List Field :=
      [⟨"a : String,\n    b".text, .objectId "User\n    \x7d\n\x7d".text, true⟩]
    let two : List Field := [⟨"a".text, .string, false⟩, ⟨"b".text, .objectId "User".text, true⟩]
    (∀ f ∈ one, chr '\'' ∉ f.name ∧ chr '\'' ∉ f.reference) ∧
      (∀ g ∈ two, chr '\'' ∉ g.name ∧ chr '\'' ∉ g.reference) ∧
        schemaBlock one ≠ schemaBlock two := by
  intro one two
  have hone : ∀ f ∈ one, chr '\'' ∉ f.name ∧ chr '\'' ∉ f.reference := by decide
  have htwo : ∀ g ∈ two, chr '\'' ∉ g.name ∧ chr '\'' ∉ g.reference := by decide
  refine ⟨hone, htwo, ?_⟩
  intro heq
  exact absurd ((schema_tells_fields hone htwo).1 heq) (by decide)

/-- With apostrophes one field can look like two. -/
example :
    schemaBlock [⟨"a' : String,\n    'b".text, .string, false⟩] =
      schemaBlock [⟨"a".text, .string, false⟩, ⟨"b".text, .string, false⟩] := by
  decide

end Artifact

end Scaffold
