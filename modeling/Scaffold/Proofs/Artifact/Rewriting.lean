/-
# Scaffold.Proofs.Artifact.Rewriting -- generated files by search and replace

The files that the library generates could be made by any program that replaces the placeholders of
a template one after another, in whatever order it likes, as long as nothing that the user names
holds an opening brace (`rendering_is_rewriting`). The blocks made from the fields do hold such
braces, but each has its line end or its closing brace right behind it. The templates hold braces
too, and in one place a placeholder stands directly behind one, as the program opens an object there
and the entries follow. These begin with a line feed, or there are none and the line ends.

Names made from names hold no opening brace either: no character but the brace itself has it as its
upper case (`brace_not_mem_upperChar`).
-/

import Scaffold.Proofs.Artifact.FieldLines
import Scaffold.Proofs.Engine.Independence
import Scaffold.Proofs.Template.Rewriting

namespace Scaffold

/-! ## Upper case -/

namespace Text

theorem eq_toNat_of_ofNat_eq {n : Nat} {c : CodePoint} (h : chr (Char.ofNat n) = c)
    (hc : c.toNat ≠ 0) : n = c.toNat := by
  subst h
  by_cases hn : n.isValidChar
  · rw [CodePoint.toNat, Char.ofNat, dif_pos hn]
    rfl
  · rw [CodePoint.toNat, Char.ofNat, dif_neg hn] at hc
    exact absurd rfl hc

/-- A mapping of letter case brings in no character that its tables exclude: no exception lists it,
and no run is moved over it. -/
theorem not_mem_mapCase {several : List (Nat × List Nat)} {runs : List CaseRun} {c d : CodePoint}
    (hd : d.toNat ≠ 0) (hseveral : ∀ e ∈ several, d.toNat ∉ e.2)
    (hruns : ∀ r ∈ runs,
      (r.last : Int) + r.distance < d.toNat ∨ (d.toNat : Int) < r.first + r.distance)
    (h : c ≠ d) : d ∉ mapCase several runs c := by
  intro hmem
  unfold mapCase at hmem
  split at hmem
  · rename_i n ns hlookup
    obtain ⟨m, hm, hchar⟩ := List.mem_map.1 hmem
    obtain ⟨before, after, rfl, -⟩ := List.lookup_eq_some_iff.1 hlookup
    rw [eq_toNat_of_ofNat_eq hchar hd] at hm
    exact hseveral (c.toNat, n :: ns) (by simp) hm
  · split at hmem
    · rename_i r hfind
      have hcovers := List.find?_some hfind
      simp only [CaseRun.covers, Bool.and_eq_true, decide_eq_true_eq] at hcovers
      have hmoved := eq_toNat_of_ofNat_eq (List.mem_singleton.1 hmem).symm hd
      have hrun := hruns r (List.mem_of_find?_eq_some hfind)
      omega
    · exact h (List.mem_singleton.1 hmem).symm

theorem brace_not_mem_upperChar {c : CodePoint} (h : c ≠ '\x7b') : chr '\x7b' ∉ upperChar c :=
  not_mem_mapCase (by decide) (by decide +kernel) (by decide +kernel) h

/-- Capitalizing brings in no character that no other character has in its upper case. -/
theorem not_mem_capitalized {d : CodePoint} (hd : ∀ c, c ≠ d → d ∉ upperChar c) {s : Text}
    (h : d ∉ s) :
    d ∉ capitalized s := by
  cases s with
  | nil => exact h
  | cons c s =>
      obtain ⟨hne, hs⟩ := not_or.1 (mt List.mem_cons.2 h)
      exact List.not_mem_append (hd c (Ne.symm hne)) hs

/-- A plural holds the characters of the name and those of its endings. -/
theorem not_mem_plural {d : CodePoint} (hd : d ∉ "ies".text) {s : Text} (h : d ∉ s) :
    d ∉ plural s := by
  by_cases hs : s = []
  · subst hs
    exact List.not_mem_nil
  · have hendings : ∀ e ∈ pluralEndings, e ⊆ "ies".text := by decide
    obtain ⟨stem, ending, hending, hplural, hstem, -⟩ := exists_plural_eq hs
    rw [hplural]
    exact List.not_mem_append (fun hmem => h (hstem.subset hmem))
      fun hmem => hd (hendings ending hending hmem)

end Text

namespace Artifact

open Template

/-! ## Blocks -/

/-- Nothing that the user names in a field holds an opening brace. -/
def Braceless (f : Field) : Prop := chr '\x7b' ∉ f.name ∧ chr '\x7b' ∉ f.type.reference

/-- A brace that opens an object is inert with the line end behind it. -/
theorem inert_opening : Inert "\x7b\n".text :=
  Inert.brace_cons (inert_of_not_mem (by decide)) (by decide)

theorem inert_declaration (depth : Int) {t : FieldType} (h : chr '\x7b' ∉ t.reference) :
    Inert (declaration depth t) := by
  cases t with
  | string => exact inert_of_not_mem (show chr '\x7b' ∉ "String".text by decide)
  | number => exact inert_of_not_mem (show chr '\x7b' ∉ "Number".text by decide)
  | date => exact inert_of_not_mem (show chr '\x7b' ∉ "Date".text by decide)
  | boolean => exact inert_of_not_mem (show chr '\x7b' ∉ "Boolean".text by decide)
  | objectId reference =>
      unfold declaration
      simp only [List.append_assoc]
      refine inert_opening.append (inert_of_not_mem ?_)
      simp only [List.mem_append, not_or]
      have hindent (level : Int) : chr '\x7b' ∉ indent level := not_mem_indent (by decide) level
      exact ⟨hindent _, by decide, hindent _, by decide, h, by decide, hindent _, by decide⟩

theorem inert_schemaEntry {f : Field} (h : Braceless f) : Inert (schemaEntry f) := by
  have hlabel : chr '\x7b' ∉ indent 1 ++ chr '\'' :: f.name ++ "' : ".text := by
    simp only [List.mem_append, List.mem_cons, not_or]
    exact ⟨⟨not_mem_indent (by decide) 1, by decide, h.1⟩, by decide⟩
  have htype : Inert (typeDeclaration 1 f) := by
    have hdeclaration := inert_declaration 1 h.2
    rw [typeDeclaration]
    split
    · have hclosing : Inert [chr ']'] := inert_of_not_mem (by decide)
      exact (hdeclaration.append hclosing).cons_of_ne (by decide)
    · exact hdeclaration
  exact (inert_of_not_mem hlabel).append htype

theorem inert_schemaBlock {fields : List Field} (h : ∀ f ∈ fields, Braceless f) :
    Inert (schemaBlock fields) := by
  rw [schemaBlock]
  split
  · exact Inert.brace_cons (inert_of_not_mem (by decide)) (by decide)
  · have hentries : ∀ x ∈ fields.map schemaEntry, Inert x := by
      intro x hx
      obtain ⟨f, hf, rfl⟩ := List.mem_map.1 hx
      exact inert_schemaEntry (h f hf)
    have hglue : Inert ",\n".text := inert_of_not_mem (by decide)
    have hclosing : Inert "\n\x7d".text := inert_of_not_mem (by decide)
    exact (inert_opening.append (hglue.joinWith hentries)).append hclosing

theorem inert_createBlock (depth : Int) {fields : List Field} (h : ∀ f ∈ fields, Braceless f) :
    Inert (createBlock depth fields) := by
  rw [createBlock]
  split
  · exact inert_nil
  · have hentries : ∀ x ∈ fields.map (createEntry depth), Inert x := by
      intro x hx
      obtain ⟨f, hf, rfl⟩ := List.mem_map.1 hx
      exact inert_of_not_mem (not_mem_createEntry (by decide) (h f hf).1)
    have hglue : Inert ",\n".text := inert_of_not_mem (by decide)
    exact (hglue.joinWith hentries).cons_of_ne (by decide)

/-- The entries of a new document begin with a line feed, if there are any. -/
theorem blunt_createBlock (depth : Int) (fields : List Field) :
    Blunt (createBlock depth fields) := by
  rw [createBlock]
  split
  · exact blunt_nil
  · exact blunt_cons (by decide) _

theorem inert_updateBlock (depth : Int) {document : Text} (hdocument : chr '\x7b' ∉ document)
    {fields : List Field} (h : ∀ f ∈ fields, Braceless f) :
    Inert (updateBlock depth document fields) := by
  rw [updateBlock]
  split
  · exact inert_nil
  · have hentries : ∀ x ∈ fields.map (updateEntry depth document), chr '\x7b' ∉ x := by
      intro x hx
      obtain ⟨f, hf, rfl⟩ := List.mem_map.1 hx
      exact not_mem_updateEntry (by decide) hdocument (h f hf).1
    have hlines : chr '\x7b' ∉ Text.join '\n' (fields.map (updateEntry depth document)) :=
      Text.not_mem_join (by decide) hentries
    have hclosing : Inert [chr '\n'] := inert_of_not_mem (by decide)
    exact ((inert_of_not_mem hlines).append hclosing).cons_of_ne (by decide)

/-! ## Values -/

section Values

variable {r : Request} {p : Placeholder} {value : Value}

/-- An import path holds the name of the model, letters, and what stands around these. -/
theorem not_mem_importPath {c : CodePoint} (hletter : c.isAlpha = false) (hc : c ∉ "./'".text)
    (h : c ∉ r.model) (a : Artifact) : c ∉ a.importPath r := by
  have hpart {s : Text} (hs : s.filter (fun d => !d.isAlpha) ⊆ "./'".text) : c ∉ s := by
    intro hmem
    exact hc (hs (List.mem_filter.2 ⟨hmem, by rw [hletter]; rfl⟩))
  have hquote : c ∉ [chr '\''] := hpart (by decide)
  have hfile : c ∉ a.fileName r := by
    rw [fileName_eq]
    refine List.not_mem_append h (hpart ?_)
    cases a <;> cases r.language <;> decide
  have htarget : c ∉ a.importTarget r := by
    rw [importTarget]
    split
    · have hfolder : c ∉ "../".text ++ a.folder ++ [chr '/'] := hpart (by cases a <;> decide)
      have hpath := List.not_mem_append hfolder hfile
      rwa [List.append_assoc] at hpath
    · exact List.not_mem_append (hpart (by decide)) hfile
  exact List.not_mem_append (List.not_mem_append hquote htarget) hquote

theorem inert_modelValues (hmodel : chr '\x7b' ∉ r.model) (hfields : ∀ f ∈ r.fields, Braceless f)
    (h : modelValues r p = some value) : Inert value.text := by
  cases p with
  | modelName =>
      obtain rfl := Option.some.inj h
      exact inert_of_not_mem hmodel
  | schemaName =>
      obtain rfl := Option.some.inj h
      exact inert_of_not_mem (List.not_mem_append hmodel (by decide))
  | fields =>
      obtain rfl := Option.some.inj h
      exact inert_schemaBlock hfields
  | _ => cases h

theorem inert_routerValues (hmodel : chr '\x7b' ∉ r.model) (h : routerValues r p = some value) :
    Inert value.text := by
  cases p with
  | controllerName =>
      obtain rfl := Option.some.inj h
      exact inert_of_not_mem (List.not_mem_append hmodel (by decide))
  | controllerPath =>
      obtain rfl := Option.some.inj h
      exact inert_of_not_mem (not_mem_importPath (by decide) (by decide) hmodel controller)
  | _ => cases h

theorem inert_controllerValues (hmodel : chr '\x7b' ∉ r.model)
    (hfields : ∀ f ∈ r.fields, Braceless f) (h : controllerValues r p = some value) :
    Inert value.text := by
  cases p with
  | modelName =>
      obtain rfl := Option.some.inj h
      have hcapitalized := Text.not_mem_capitalized (fun _ => Text.brace_not_mem_upperChar) hmodel
      exact inert_of_not_mem (List.not_mem_append hcapitalized (by decide))
  | name =>
      obtain rfl := Option.some.inj h
      exact inert_of_not_mem hmodel
  | pluralName =>
      obtain rfl := Option.some.inj h
      exact inert_of_not_mem (Text.not_mem_plural (by decide) hmodel)
  | controllerName =>
      obtain rfl := Option.some.inj h
      exact inert_of_not_mem (List.not_mem_append hmodel (by decide))
  | modelPath =>
      obtain rfl := Option.some.inj h
      exact inert_of_not_mem (not_mem_importPath (by decide) (by decide) hmodel model)
  | createFields =>
      obtain rfl := Option.some.inj h
      exact inert_createBlock controllerDepth hfields
  | updateFields =>
      obtain rfl := Option.some.inj h
      exact inert_updateBlock controllerDepth hmodel hfields
  | _ => cases h

/-- The values of every kind of file are harmless, and the entries of a new document may stand
behind a brace. -/
theorem harmless_values (hmodel : chr '\x7b' ∉ r.model) (hfields : ∀ f ∈ r.fields, Braceless f)
    (a : Artifact) : Harmless (fun p => p = .createFields) (a.values r) := by
  refine ⟨fun p value hvalue => ?_, fun p value hvalue hblunt => ?_⟩
  · cases a with
    | model => exact inert_modelValues hmodel hfields hvalue
    | router => exact inert_routerValues hmodel hvalue
    | controller => exact inert_controllerValues hmodel hfields hvalue
  · obtain rfl := of_decide_eq_true hblunt
    cases a with
    | model => cases hvalue
    | router => cases hvalue
    | controller =>
        obtain rfl := Option.some.inj hvalue
        exact blunt_createBlock controllerDepth r.fields

end Values

/-! ## Templates -/

/-- The placeholders in the templates of a kind of file. -/
def asked : Artifact → List Placeholder
  | model => [.fields, .modelName, .schemaName]
  | router => [.controllerName, .controllerPath]
  | controller =>
    [.controllerName, .createFields, .modelName, .modelPath, .name, .pluralName, .updateFields]

/-- The templates of a kind of file ask for the values that its requests have, all of them. -/
theorem keys_values (a : Artifact) (r : Request) : (a.values r).keys = a.asked := by
  cases a <;> rfl

/-- In the templates of the library only the entries of a new document stand behind a brace. -/
theorem bundled_checked (a : Artifact) (l : Language) :
    guarded (fun p => p = .createFields) (pieces (bundled a l)) = true ∧
      placeholders (bundled a l) = a.asked := by
  cases a <;> cases l
  all_goals
    simp only [bundled, modelPlain, modelTyped, routerPlain, routerTyped, controllerPlain,
      controllerTyped, lines, List.flatMap_cons, List.flatMap_nil, String.text]
    -- A literal is the text of its characters. To evaluate `toList` would be to decode it.
    repeat rw [String.toList_ofList]
    decide +kernel

theorem missing_bundled (a : Artifact) (l : Language) (r : Request) :
    missing (a.values r) (bundled a l) = [] := by
  rw [missing, (bundled_checked a l).2, ← keys_values a r, List.filter_eq_nil_iff]
  intro p hp
  have hsome := Values.mem_keys_iff.1 hp
  rw [Option.isNone_iff_eq_none]
  exact Option.isSome_iff_ne_none.1 hsome

/-- An engine with the templates of the library makes the file of a kind by filling its template,
whichever templates it has read. -/
theorem exists_rendered {e : Engine} (hsource : e.source = .bundled)
    (htemplate : ∀ a l, e.template a l = bundled a l) (tree : FileTree) (a : Artifact)
    (r : Request) :
    ∃ rendered, (e.render tree a r).1 = .ok rendered ∧
      rendered.text = (fill (a.values r) (bundled a r.language)).text := by
  obtain ⟨e', hrender, -⟩ := Engine.render_of_bundled hsource tree a r
  refine ⟨e.file r a, by rw [hrender], ?_⟩
  rw [Engine.file, htemplate]
  rfl

/-- **A generated file is its template, rewritten.** Where nothing that the user names holds an
opening brace, the files of a request are what is left of the templates when their placeholders are
replaced one after another, in whatever order, and no placeholder stands in them. This is so of an
engine with the templates of the library, whichever of them it has read. -/
theorem rendering_is_rewriting {e : Engine} (hsource : e.source = .bundled)
    (htemplate : ∀ a l, e.template a l = bundled a l) (tree : FileTree) (a : Artifact) {r : Request}
    (hmodel : chr '\x7b' ∉ r.model)
    (hfields : ∀ f ∈ r.fields, chr '\x7b' ∉ f.name ∧ chr '\x7b' ∉ f.type.reference) :
    ∃ rendered, (e.render tree a r).1 = .ok rendered ∧
      (∀ ks : List Placeholder, ks.Perm (a.values r).keys →
        rendered.text = replaceEach (a.values r) ks (bundled a r.language)) ∧
      ∀ i p, ¬ OccursAt rendered.text i p := by
  have hharmless := harmless_values hmodel hfields a
  have hguarded := (bundled_checked a r.language).1
  obtain ⟨rendered, hrender, htext⟩ := exists_rendered hsource htemplate tree a r
  refine ⟨rendered, hrender, fun ks hperm => ?_, fun i p => ?_⟩
  · rw [htext, replaceEach_eq_fill hharmless hguarded hperm]
  · rw [htext]
    exact not_occursAt_fill hharmless hguarded (missing_bundled a r.language r) i p

/-- A model with a closing brace in its name and a list of references to such a model, with the
placeholders replaced from the last to the first. -/
theorem rendering_is_rewriting_of_closing_brace :
    let owners : Field := ⟨"owners".text, .objectId "user\x7d".text, true⟩
    let r : Request := { model := "pony\x7d".text, fields := [owners], withRest := true }
    let e : Engine := {}
    (e.source = .bundled ∧ (∀ a l, e.template a l = bundled a l) ∧ chr '\x7b' ∉ r.model ∧
      ∀ f ∈ r.fields, chr '\x7b' ∉ f.name ∧ chr '\x7b' ∉ f.type.reference) ∧
    ∃ rendered, (e.render {} controller r).1 = .ok rendered ∧
      rendered.text = replaceEach (controller.values r) (controller.values r).keys.reverse
        (bundled controller r.language) ∧
      ∀ i p, ¬ OccursAt rendered.text i p := by
  intro owners r e
  have hmodel : chr '\x7b' ∉ r.model := by decide
  have hfields : ∀ f ∈ r.fields, chr '\x7b' ∉ f.name ∧ chr '\x7b' ∉ f.type.reference := by decide
  refine ⟨⟨rfl, fun _ _ => rfl, hmodel, hfields⟩, ?_⟩
  obtain ⟨rendered, hrender, htext, hleft⟩ :=
    rendering_is_rewriting (e := e) rfl (fun _ _ => rfl) {} controller hmodel hfields
  exact ⟨rendered, hrender, htext _ (List.reverse_perm _), hleft⟩

end Artifact

end Scaffold
