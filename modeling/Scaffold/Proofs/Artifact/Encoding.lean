/-
# Scaffold.Proofs.Artifact.Encoding -- which generated files can be encoded

A text has UTF-8 exactly when it consists of characters, so a file is written unless its text holds
a surrogate. No template brings one in: those of the library are written in characters, and those of
a directory are decoded from bytes. What is computed from a request brings none in either, letter
case and plural included. So a file whose request consists of characters can be encoded
(`isUnicode_render`), and a surrogate in a file comes from the model's name, the name of a field or
a reference.
-/

import Scaffold.Artifact.Render
import Scaffold.Engine
import Scaffold.Proofs.Template.Filling

namespace Scaffold

/-! ## Texts -/

namespace Text

variable {s : Text}

theorem isUnicode_join {sep : CodePoint} (hsep : sep.isSurrogate = false) {pieces : List Text}
    (h : ∀ piece ∈ pieces, piece.isUnicode = true) : (join sep pieces).isUnicode = true := by
  induction pieces with
  | nil => rfl
  | cons p ps ih =>
      obtain ⟨hp, hps⟩ := List.forall_mem_cons.1 h
      cases ps with
      | nil => exact hp
      | cons q qs => simp [join, hp, hsep, ih hps]

theorem isUnicode_joinWith {glue : Text} (hglue : glue.isUnicode = true) {pieces : List Text}
    (h : ∀ piece ∈ pieces, piece.isUnicode = true) : (joinWith glue pieces).isUnicode = true := by
  induction pieces with
  | nil => rfl
  | cons p ps ih =>
      obtain ⟨hp, hps⟩ := List.forall_mem_cons.1 h
      cases ps with
      | nil => exact hp
      | cons q qs => simp [joinWith, hp, hglue, ih hps]

@[simp] theorem isUnicode_spaces (n : Nat) : (spaces n).isUnicode = true := by
  rw [isUnicode, spaces, List.all_eq_true]
  intro c hc
  rw [List.eq_of_mem_replicate hc]
  rfl

/-- A mapping of letter case leads to characters. -/
theorem isUnicode_mapCase {several : List (Nat × List Nat)} {runs : List CaseRun} {c : CodePoint}
    (h : c.isSurrogate = false) : isUnicode (mapCase several runs c) = true := by
  unfold mapCase
  split
  · simp [isUnicode, List.all_map]
  · split
    · rfl
    · simp [h]

theorem isUnicode_capitalized (h : s.isUnicode = true) : (capitalized s).isUnicode = true := by
  cases s with
  | nil => rfl
  | cons c s =>
      obtain ⟨hc, hs⟩ : c.isSurrogate = false ∧ isUnicode s = true := by simpa using h
      rw [capitalized, isUnicode_append, upperChar, isUnicode_mapCase hc, hs]
      rfl

theorem isUnicode_plural (h : s.isUnicode = true) : (plural s).isUnicode = true := by
  by_cases hs : s = []
  · subst hs
    rfl
  · have hendings : ∀ ending ∈ pluralEndings, ending.isUnicode = true := by decide
    obtain ⟨stem, ending, hending, hplural, hstem, -⟩ := exists_plural_eq hs
    rw [hplural, isUnicode_append, isUnicode_of_subset h hstem.subset, hendings ending hending]
    rfl

/-- What is decoded from bytes consists of characters. -/
theorem isUnicode_of_ofUtf8 {bytes : Bytes} (h : ofUtf8 bytes = .ok s) : s.isUnicode = true := by
  unfold ofUtf8 at h
  cases hchars : ofUtf8From 0 bytes with
  | error e => rw [hchars] at h; cases h
  | ok chars =>
      rw [hchars] at h
      obtain rfl := Except.ok.inj h
      exact isUnicode_map_chr chars

theorem isUnicode_unifyLineEnds (h : s.isUnicode = true) : s.unifyLineEnds.isUnicode = true := by
  fun_induction unifyLineEnds s <;> simp_all

end Text

/-! ## Requests -/

/-- Whether the texts of a field consist of characters. -/
def Field.isUnicode (f : Field) : Bool := f.name.isUnicode && f.reference.isUnicode

/-- Whether the texts of a request consist of characters. -/
def Request.isUnicode (r : Request) : Bool :=
  r.model.isUnicode && r.fields.all Field.isUnicode

namespace Artifact

open Template

variable {f : Field} {fields : List Field} {document template : Text} {r : Request}

/-! ## Blocks -/

@[simp] theorem isUnicode_indent (depth : Int) : (indent depth).isUnicode = true :=
  Text.isUnicode_spaces _

theorem isUnicode_declaration (depth : Int) {t : FieldType} (h : t.reference.isUnicode = true) :
    (declaration depth t).isUnicode = true := by
  cases t with
  | string => exact (show Text.isUnicode "String".text = true by decide)
  | number => exact (show Text.isUnicode "Number".text = true by decide)
  | date => exact (show Text.isUnicode "Date".text = true by decide)
  | boolean => exact (show Text.isUnicode "Boolean".text = true by decide)
  | objectId reference =>
      have hreference : reference.isUnicode = true := h
      unfold declaration
      simp only [Text.isUnicode_append, Text.isUnicode_map_chr, isUnicode_indent, hreference,
        Bool.and_self]

theorem isUnicode_schemaEntry (h : f.isUnicode = true) : (schemaEntry f).isUnicode = true := by
  obtain ⟨hname, hreference⟩ : f.name.isUnicode = true ∧ f.reference.isUnicode = true := by
    simpa [Field.isUnicode] using h
  have htype : (typeDeclaration 1 f).isUnicode = true := by
    have hdeclaration := isUnicode_declaration 1 hreference
    rw [typeDeclaration]
    split
    · rw [Text.isUnicode_append, Text.isUnicode_cons, hdeclaration]
      rfl
    · exact hdeclaration
  rw [schemaEntry, Text.isUnicode_append, Text.isUnicode_append, Text.isUnicode_append,
    Text.isUnicode_cons, isUnicode_indent, hname, htype]
  decide

theorem isUnicode_schemaBlock (h : ∀ f ∈ fields, f.isUnicode = true) :
    (schemaBlock fields).isUnicode = true := by
  rw [schemaBlock]
  split
  · decide
  · have hglue : Text.isUnicode ",\n".text = true := by decide
    have hentries := Text.isUnicode_joinWith hglue
      (List.forall_mem_map.2 fun f hf => isUnicode_schemaEntry (h f hf))
    rw [Text.isUnicode_append, Text.isUnicode_append, hentries]
    decide

theorem isUnicode_createBlock (depth : Int) (h : ∀ f ∈ fields, f.isUnicode = true) :
    (createBlock depth fields).isUnicode = true := by
  have hentry : ∀ f ∈ fields, (createEntry depth f).isUnicode = true := by
    intro f hf
    have hname := h f hf
    simp_all [Field.isUnicode, createEntry]
  rw [createBlock]
  split
  · rfl
  · exact Text.isUnicode_joinWith (by decide) (List.forall_mem_map.2 hentry)

theorem isUnicode_updateBlock (depth : Int) (hdocument : document.isUnicode = true)
    (h : ∀ f ∈ fields, f.isUnicode = true) :
    (updateBlock depth document fields).isUnicode = true := by
  have hentry : ∀ f ∈ fields, (updateEntry depth document f).isUnicode = true := by
    intro f hf
    have hname := h f hf
    simp_all [Field.isUnicode, updateEntry]
  rw [updateBlock]
  split
  · rfl
  · have hsep : (chr '\n').isSurrogate = false := rfl
    have hentries := Text.isUnicode_join hsep (List.forall_mem_map.2 hentry)
    rw [Text.isUnicode_append, Text.isUnicode_cons, hentries]
    decide

/-! ## Files -/

theorem isUnicode_importPath (h : r.model.isUnicode = true) (a : Artifact) :
    (a.importPath r).isUnicode = true := by
  have hfolder : a.folder.isUnicode = true ∧ a.suffix.isUnicode = true := by
    cases a <;> decide
  have hextension : r.language.extension.isUnicode = true := by
    cases r.language <;> decide
  cases hlayout : r.layout <;>
    simp [importPath, importTarget, fileName, hlayout, h, hfolder, hextension]

/-- The values of the placeholders consist of characters. -/
theorem isUnicode_values (h : r.isUnicode = true) {a : Artifact} {p : Placeholder} {value : Value}
    (hvalue : a.values r p = some value) : value.text.isUnicode = true := by
  obtain ⟨hmodel, hfields⟩ : r.model.isUnicode = true ∧ ∀ f ∈ r.fields, f.isUnicode = true := by
    simpa [Request.isUnicode] using h
  have hcontroller : (controllerName r).isUnicode = true := by
    rw [controllerName, Text.isUnicode_append, hmodel]
    decide
  cases a with
  | model =>
      cases p with
      | modelName => cases hvalue; exact hmodel
      | schemaName =>
          cases hvalue
          rw [Value.text, Text.isUnicode_append, hmodel]
          decide
      | fields => cases hvalue; exact isUnicode_schemaBlock hfields
      | _ => cases hvalue
  | router =>
      cases p with
      | controllerName => cases hvalue; exact hcontroller
      | controllerPath => cases hvalue; exact isUnicode_importPath hmodel controller
      | _ => cases hvalue
  | controller =>
      cases p with
      | modelName =>
          cases hvalue
          rw [Value.text, Text.isUnicode_append, Text.isUnicode_capitalized hmodel]
          decide
      | name => cases hvalue; exact hmodel
      | pluralName => cases hvalue; exact Text.isUnicode_plural hmodel
      | controllerName => cases hvalue; exact hcontroller
      | modelPath => cases hvalue; exact isUnicode_importPath hmodel model
      | createFields => cases hvalue; exact isUnicode_createBlock _ hfields
      | updateFields => cases hvalue; exact isUnicode_updateBlock _ hmodel hfields
      | _ => cases hvalue

/-- **A file whose request consists of characters can be encoded**, if its template can. -/
theorem isUnicode_render (h : r.isUnicode = true) (htemplate : template.isUnicode = true)
    (a : Artifact) : (a.render r template).text.isUnicode = true := by
  show (fill (a.values r) template).text.isUnicode = true
  rw [text_fill, Text.isUnicode, List.all_flatMap, List.all_eq_true]
  intro piece hpiece
  have htoken : piece.text.isUnicode = true := by
    refine Text.isUnicode_of_subset htemplate ?_
    rw [← written_pieces template]
    exact fun c hc => List.mem_flatMap.2 ⟨piece, hpiece, hc⟩
  cases piece with
  | char c => exact htoken
  | hole p =>
      cases hvalue : a.values r p with
      | none => rw [filledPiece_of_eq_none hvalue]; exact htoken
      | some value => rw [filledPiece_of_eq_some hvalue]; exact isUnicode_values h hvalue

end Artifact

/-! ## Templates -/

theorem Template.isUnicode_bundled (a : Artifact) (l : Language) :
    (bundled a l).isUnicode = true := by
  have hlines (ls : List String) : (lines ls).isUnicode = true := by
    rw [lines, Text.isUnicode, List.all_flatMap, List.all_eq_true]
    intro l _
    simp
  cases a <;> cases l <;> exact hlines _

namespace TemplateSource

theorem exists_bundled_of_bundledNamed? {name text : Text} (h : bundledNamed? name = some text) :
    ∃ a l, text = Template.bundled a l := by
  obtain ⟨before, after, hsplit, -⟩ := List.lookup_eq_some_iff.1 h
  have hmem : (name, text) ∈ Artifact.all.flatMap fun a =>
      Language.all.map fun l => (fileName a l, Template.bundled a l) := by
    rw [hsplit]
    simp
  obtain ⟨a, -, hmem⟩ := List.mem_flatMap.1 hmem
  obtain ⟨l, -, heq⟩ := List.mem_map.1 hmem
  exact ⟨a, l, (Prod.mk.inj heq).2.symm⟩

/-- A template that can be read consists of characters. -/
theorem isUnicode_of_read {source : TemplateSource} {tree : FileTree}
    {name text : Text} (h : source.read tree name = .ok text) : text.isUnicode = true := by
  unfold read at h
  split at h
  · cases h
  · split at h
    · split at h
      · rename_i hnamed
        cases h
        obtain ⟨a, l, rfl⟩ := exists_bundled_of_bundledNamed? hnamed
        exact Template.isUnicode_bundled a l
      · cases h
    · split at h
      · split at h
        · cases h
          rename_i hdecoded
          exact Text.isUnicode_unifyLineEnds (Text.isUnicode_of_ofUtf8 hdecoded)
        · cases h
      · cases h

end TemplateSource

end Scaffold
