/-
# Scaffold.Proofs.Artifact.Spacing -- generated files without stray white space

The files that the library generates are well spaced (`rendering_is_well_spaced`): no line ends in a
blank character, there is at most one empty line between two others, and one line feed ends the
file. The blocks made from the fields have line feeds at their edges, or have nothing at all where
there is no field. The templates are written for both. The entries of a new document stand
directly behind the brace that opens it, and the assignments stand on a line of their own, which
without fields is the one empty line between its neighbours.

So a template can be read like the text that it becomes, hole by hole, without knowing what is
filled in (`scan_fill`). Everything but these two blocks leads from anywhere to behind a visible
character.
-/

import Scaffold.Proofs.Artifact.Rewriting
import Scaffold.Proofs.Text.Spacing

namespace Scaffold

/-! ## Reading a template -/

namespace Template

open Text (LinePoint scan scan_append_of_eq_some)

/-- Where the holes of a template lead, unless one stands where it may not. -/
abbrev Leads := Placeholder → LinePoint → Option LinePoint

/-- Where a piece of a template leads. -/
def pieceAfter (leads : Leads) (q : LinePoint) : Piece → Option LinePoint
  | .char c => q.after c
  | .hole p => leads p q

/-- Where the pieces of a template lead. -/
def scanPieces (leads : Leads) (q : LinePoint) (ps : List Piece) : Option LinePoint :=
  ps.foldlM (pieceAfter leads) q

/-- Every value leads where the holes that it fills are said to lead. -/
def Leads.Bears (leads : Leads) (values : Values) : Prop :=
  ∀ p value, values p = some value → ∀ q q', leads p q = some q' → scan q value.text = some q'

section Filling

variable {leads : Leads} {values : Values} (hbears : leads.Bears values)
include hbears

/-- **A filled template leads where its pieces do**, if there is a value for every hole. -/
theorem scan_flatMap_filledPiece {ps : List Piece}
    (hvalue : ∀ p, .hole p ∈ ps → ∃ value, values p = some value) {q q' : LinePoint}
    (h : scanPieces leads q ps = some q') : scan q (ps.flatMap (filledPiece values)) = some q' := by
  -- The induction is on the pieces, from wherever those before them have led.
  induction ps generalizing q with
  | nil => exact h
  | cons piece ps ih =>
      rw [scanPieces, List.foldlM_cons, Option.bind_eq_bind, Option.bind_eq_some_iff] at h
      obtain ⟨next, hpiece, hrest⟩ := h
      have hfilled : scan q (filledPiece values piece) = some next := by
        cases piece with
        | char c => simpa [filledPiece, scan, pieceAfter] using hpiece
        | hole p =>
            obtain ⟨value, hp⟩ := hvalue p List.mem_cons_self
            rw [filledPiece_of_eq_some hp]
            exact hbears p value hp q next hpiece
      rw [List.flatMap_cons, scan_append_of_eq_some hfilled]
      exact ih (fun p hp => hvalue p (List.mem_cons_of_mem piece hp)) hrest

theorem scan_fill {s : Text} (hmissing : missing values s = []) {q q' : LinePoint}
    (h : scanPieces leads q (pieces s) = some q') : scan q (fill values s).text = some q' := by
  rw [text_fill]
  exact scan_flatMap_filledPiece hbears (fun p => exists_value_of_missing_eq_nil hmissing) h

end Filling

end Template

namespace Text

theorem newline_not_mem_upperChar {c : CodePoint} (h : c ≠ '\n') : chr '\n' ∉ upperChar c :=
  not_mem_mapCase (by decide) (by decide +kernel) (by decide +kernel) h

/-- The plural of a name ends in an `s`. -/
theorem firm_plural {s : Text} (hne : s ≠ []) (hline : chr '\n' ∉ s) : Firm (plural s) := by
  have hendings : ∀ e ∈ pluralEndings, Firm e := by decide
  obtain ⟨stem, ending, hending, hplural, hstem, -⟩ := exists_plural_eq hne
  rw [hplural]
  exact (hendings ending hending).behind fun hmem => hline (hstem.subset hmem)

end Text

namespace Artifact

open Template
open Text (Firm LinePoint scan scan_append_of_eq_some firm_of_isStripped newline_not_mem_upperChar
  firm_plural not_mem_capitalized wellSpaced_of_scan)

/-! ## Blocks -/

/-- What the user names in a field is on one line, and the name ends visibly. -/
structure OneLine (f : Field) : Prop where
  newline_not_mem_name : chr '\n' ∉ f.name
  newline_not_mem_reference : chr '\n' ∉ f.type.reference
  firm_name : Firm f.name

theorem newline_not_mem_indent (depth : Int) : chr '\n' ∉ indent depth :=
  not_mem_indent (by decide) depth

theorem declaration_objectId_eq_join (depth : Int) (reference : Text) :
    declaration depth (.objectId reference) = Text.join '\n'
      [[chr '\x7b'], indent (depth + 1) ++ "type: Schema.Types.ObjectId,".text,
        indent (depth + 1) ++ "ref: '".text ++ (reference ++ [chr '\'']),
        indent depth ++ [chr '\x7d']] := by
  unfold declaration
  simp [Text.join]

theorem firm_declaration (depth : Int) {t : FieldType} (h : chr '\n' ∉ t.reference) :
    Firm (declaration depth t) := by
  cases t with
  | string => exact (by decide : Firm "String".text)
  | number => exact (by decide : Firm "Number".text)
  | date => exact (by decide : Firm "Date".text)
  | boolean => exact (by decide : Firm "Boolean".text)
  | objectId reference =>
      have hopening : Firm [chr '\x7b'] := by decide
      have htype : Firm "type: Schema.Types.ObjectId,".text := by decide
      have hquote : Firm [chr '\''] := by decide
      have hclosing : Firm [chr '\x7d'] := by decide
      rw [declaration_objectId_eq_join]
      apply Firm.join (List.cons_ne_nil _ _)
      simp only [List.forall_mem_cons]
      refine ⟨hopening, htype.behind (newline_not_mem_indent _), ?_,
        hclosing.behind (newline_not_mem_indent _), ?_⟩
      · exact (hquote.behind h).behind (List.not_mem_append (newline_not_mem_indent _) (by decide))
      · simp

theorem firm_schemaEntry {f : Field} (h : OneLine f) : Firm (schemaEntry f) := by
  have hlabel : chr '\n' ∉ indent 1 ++ chr '\'' :: f.name ++ "' : ".text := by
    simp only [List.mem_append, List.mem_cons, not_or]
    exact ⟨⟨newline_not_mem_indent 1, by decide, h.newline_not_mem_name⟩, by decide⟩
  have htype : Firm (typeDeclaration 1 f) := by
    have hdeclaration := firm_declaration 1 h.newline_not_mem_reference
    have hopening : Firm [chr '['] := by decide
    have hclosing : Firm [chr ']'] := by decide
    rw [typeDeclaration]
    split
    · exact hopening.append (hdeclaration.append hclosing)
    · exact hdeclaration
  exact htype.behind hlabel

section Fields

variable {fields : List Field} (h : ∀ f ∈ fields, OneLine f)
include h

/-- **The object that declares the fields** is firm, and so are its lines. -/
theorem firm_schemaBlock : Firm (schemaBlock fields) := by
  have hopening : Firm [chr '\x7b'] := by decide
  have hclosing : Firm [chr '\x7d'] := by decide
  rw [schemaBlock]
  split
  next => exact hopening.append hclosing
  next hne =>
    have hentries : Firm (Text.joinWith ",\n".text (fields.map schemaEntry)) := by
      apply Firm.listed
      · simpa using hne
      · intro x hx
        obtain ⟨f, hf, rfl⟩ := List.mem_map.1 hx
        exact firm_schemaEntry (h f hf)
    exact (hopening.newline hentries).newline hclosing

/-- **The entries of a new document** lead from behind the brace that opens it to behind the last
of them. -/
theorem scan_createBlock (depth : Int) :
    scan .visible (createBlock depth fields) = some .visible := by
  rw [createBlock]
  split
  next => rfl
  next hne =>
    have hentries : Firm (Text.joinWith ",\n".text (fields.map (createEntry depth))) := by
      apply Firm.listed
      · simpa using hne
      · intro x hx
        obtain ⟨f, hf, rfl⟩ := List.mem_map.1 hx
        have hentry : chr '\n' ∉ createEntry depth f :=
          not_mem_createEntry (by decide) (h f hf).newline_not_mem_name
        exact (h f hf).firm_name.behind fun hmem => hentry (List.mem_append_left _ hmem)
    exact hentries .fresh

/-- **The assignments** have an empty line in front of them and none behind them. Without fields
there is none at all. -/
theorem scan_updateBlock (depth : Int) {document : Text} (hdocument : chr '\n' ∉ document) :
    scan .fresh (updateBlock depth document fields) = some .fresh := by
  rw [updateBlock]
  split
  next => rfl
  next hne =>
    have hsemicolon : Firm [chr ';'] := by decide
    have hassignments : Firm (Text.join '\n' (fields.map (updateEntry depth document))) := by
      apply Firm.join
      · simpa using hne
      · intro x hx
        obtain ⟨f, hf, rfl⟩ := List.mem_map.1 hx
        have hentry : chr '\n' ∉ updateEntry depth document f :=
          not_mem_updateEntry (by decide) hdocument (h f hf).newline_not_mem_name
        exact hsemicolon.behind fun hmem => hentry (List.mem_append_left _ hmem)
    -- The line feed in front has led behind an empty line.
    show scan .gap (_ ++ [chr '\n']) = some .fresh
    rw [scan_append_of_eq_some (hassignments .gap)]
    rfl

end Fields

/-! ## Values -/

/-- What can stand for a placeholder: the entries of a new document behind a brace, the assignments
on a line of their own, and everything else anywhere. -/
def Suits (s : Text) : Placeholder → Prop
  | .createFields => scan .visible s = some .visible
  | .updateFields => scan .fresh s = some .fresh
  | _ => Firm s

/-- Where the holes of the templates lead. -/
def leads : Leads
  | .createFields, q => if q = .visible then some .visible else none
  | .updateFields, q => if q = .fresh then some .fresh else none
  | _, _ => some .visible

theorem Suits.scan_eq_some {s : Text} {p : Placeholder} (h : Suits s p) {q q' : LinePoint}
    (hlead : leads p q = some q') : scan q s = some q' := by
  cases p with
  | createFields =>
      obtain ⟨rfl, rfl⟩ : q = .visible ∧ LinePoint.visible = q' := by simpa [leads] using hlead
      exact h
  | updateFields =>
      obtain ⟨rfl, rfl⟩ : q = .fresh ∧ LinePoint.fresh = q' := by simpa [leads] using hlead
      exact h
  | _ =>
      rw [← hlead]
      exact h q

section Values

variable {r : Request} {p : Placeholder} {value : Value} (hline : chr '\n' ∉ r.model)
include hline

theorem firm_importPath (a : Artifact) : Firm (a.importPath r) := by
  have hpath : chr '\n' ∉ a.importPath r := not_mem_importPath (by decide) (by decide) hline a
  have hquote : Firm [chr '\''] := by decide
  exact hquote.behind fun hmem => hpath (List.mem_append_left _ hmem)

theorem firm_controllerName : Firm (controllerName r) := by
  have hsuffix : Firm controller.suffix := by decide
  exact hsuffix.behind hline

variable (hmodel : Firm r.model) (hfields : ∀ f ∈ r.fields, OneLine f)
include hmodel hfields

theorem suits_modelValues (h : modelValues r p = some value) : Suits value.text p := by
  cases p with
  | modelName =>
      obtain rfl := Option.some.inj h
      exact hmodel
  | schemaName =>
      obtain rfl := Option.some.inj h
      have hsuffix : Firm "Schema".text := by decide
      exact hsuffix.behind hline
  | fields =>
      obtain rfl := Option.some.inj h
      exact firm_schemaBlock hfields
  | _ => cases h

omit hmodel hfields in
theorem suits_routerValues (h : routerValues r p = some value) : Suits value.text p := by
  cases p with
  | controllerName =>
      obtain rfl := Option.some.inj h
      exact firm_controllerName hline
  | controllerPath =>
      obtain rfl := Option.some.inj h
      exact firm_importPath hline controller
  | _ => cases h

theorem suits_controllerValues (h : controllerValues r p = some value) : Suits value.text p := by
  cases p with
  | modelName =>
      obtain rfl := Option.some.inj h
      have hsuffix : Firm model.suffix := by decide
      exact hsuffix.behind (not_mem_capitalized (fun _ => newline_not_mem_upperChar) hline)
  | name =>
      obtain rfl := Option.some.inj h
      exact hmodel
  | pluralName =>
      obtain rfl := Option.some.inj h
      exact firm_plural hmodel.ne_nil hline
  | controllerName =>
      obtain rfl := Option.some.inj h
      exact firm_controllerName hline
  | modelPath =>
      obtain rfl := Option.some.inj h
      exact firm_importPath hline model
  | createFields =>
      obtain rfl := Option.some.inj h
      exact scan_createBlock hfields controllerDepth
  | updateFields =>
      obtain rfl := Option.some.inj h
      exact scan_updateBlock hfields controllerDepth hline
  | _ => cases h

/-- The values of every kind of file lead where the holes of the templates do. -/
theorem bears_values (a : Artifact) : leads.Bears (a.values r) := by
  intro p value hvalue q q' hlead
  have hsuits : Suits value.text p := by
    cases a with
    | model => exact suits_modelValues hline hmodel hfields hvalue
    | router => exact suits_routerValues hline hvalue
    | controller => exact suits_controllerValues hline hmodel hfields hvalue
  exact hsuits.scan_eq_some hlead

end Values

/-! ## Files -/

/-- The templates of the library have no stray white space, whatever fills them. -/
theorem scan_bundled (a : Artifact) (l : Language) :
    scanPieces leads .gap (pieces (bundled a l)) = some .fresh := by
  cases a <;> cases l
  all_goals
    simp only [bundled, modelPlain, modelTyped, routerPlain, routerTyped, controllerPlain,
      controllerTyped, lines, List.flatMap_cons, List.flatMap_nil, String.text]
    -- A literal is the text of its characters. To evaluate `toList` would be to decode it.
    repeat rw [String.toList_ofList]
    decide +kernel

/-- **A generated file has no stray white space.** Where the names of the model and the fields are
stripped, not blank and on one line, and references are on one line as well, no line of a file ends
in a blank character, no empty line follows another, and one line feed ends the file. This is so for
any number of fields, of an engine with the templates of the library, whichever of them it has
read. -/
theorem rendering_is_well_spaced {e : Engine} (hsource : e.source = .bundled)
    (htemplate : ∀ a l, e.template a l = bundled a l) (tree : FileTree) (a : Artifact) {r : Request}
    (hmodel : r.model.isBlank = false ∧ r.model.IsStripped ∧ chr '\n' ∉ r.model)
    (hfields : ∀ f ∈ r.fields,
      (f.name.isBlank = false ∧ f.name.IsStripped ∧ chr '\n' ∉ f.name) ∧
        chr '\n' ∉ f.type.reference) :
    ∃ rendered, (e.render tree a r).1 = .ok rendered ∧ rendered.text.WellSpaced := by
  obtain ⟨hblank, hstripped, hline⟩ := hmodel
  have hfirm := firm_of_isStripped hstripped hblank hline
  have honeline : ∀ f ∈ r.fields, OneLine f := by
    intro f hf
    obtain ⟨⟨hblank, hstripped, hname⟩, hreference⟩ := hfields f hf
    exact ⟨hname, hreference, firm_of_isStripped hstripped hblank hname⟩
  obtain ⟨rendered, hrender, htext⟩ := exists_rendered hsource htemplate tree a r
  refine ⟨rendered, hrender, ?_⟩
  rw [htext]
  have hbears := bears_values hline hfirm honeline a
  have hmissing := missing_bundled a r.language r
  exact wellSpaced_of_scan (scan_fill hbears hmissing (scan_bundled a r.language))

/-- A controller of a model with a no-break space in its name. A field has a line separator in its
name, which ends no line here, and a reference that ends in a carriage return. -/
theorem rendering_is_well_spaced_of_separators :
    let stable : Field := ⟨"stable\u2028box".text, .objectId "stable\r".text, true⟩
    let r : Request := { model := "pony\u00a0tale".text, fields := [stable], withRest := true }
    let e : Engine := {}
    (e.source = .bundled ∧ (∀ a l, e.template a l = bundled a l) ∧
      (r.model.isBlank = false ∧ r.model.IsStripped ∧ chr '\n' ∉ r.model) ∧
      ∀ f ∈ r.fields,
        (f.name.isBlank = false ∧ f.name.IsStripped ∧ chr '\n' ∉ f.name) ∧
          chr '\n' ∉ f.type.reference) ∧
    ∃ rendered, (e.render {} controller r).1 = .ok rendered ∧ rendered.text.WellSpaced := by
  intro stable r e
  have hmodel : r.model.isBlank = false ∧ r.model.IsStripped ∧ chr '\n' ∉ r.model := by decide
  have hfields : ∀ f ∈ r.fields,
      (f.name.isBlank = false ∧ f.name.IsStripped ∧ chr '\n' ∉ f.name) ∧
        chr '\n' ∉ f.type.reference := by
    decide
  refine ⟨⟨rfl, fun _ _ => rfl, hmodel, hfields⟩, ?_⟩
  exact rendering_is_well_spaced (e := e) rfl (fun _ _ => rfl) {} controller hmodel hfields

end Artifact

end Scaffold
