/-
# Scaffold.Proofs.Artifact.Imports -- imports lead to the files that are generated

Where a file goes and what the others import it by are computed apart from each other: one joins
paths, the other writes a text with `..` in it. Whoever reads such a text starts in the folder of
the file that holds it and takes names back for `..`; `Path.collapsed` is the path that comes of it.
For a model's name without a slash, and from every kind of file to every other, that is exactly the
path of the file (`collapsed_import`), the names `.` and `..` included: grouped by module the one is
no folder and the other is kept in front of both paths.

`imports_lead_to_files` adds what the generated programs hold. With the templates of the library
the router begins with a statement that imports the controller, and the controller with one that
imports the model.

A name with a slash is another matter. It leads through folders of its own, from which the imports
do not come back.
-/

import Scaffold.Proofs.Artifact.Containment
import Scaffold.Proofs.Template.Filling
import Scaffold.Template.Bundled

namespace Scaffold

/-! ## Collapsed paths -/

namespace Path

/-- The path with every name taken back that has a `..` behind it. What leads above the start
stays in front. -/
def collapsed (p : Path) : Path :=
  { p with parts := List.replicate p.resolve.1 up ++ p.resolve.2 }

/-- A name and the `..` behind it mean nothing. -/
theorem collapsed_name_up (root : Root) (before after : List Text) {name : Text} (h : name ≠ up) :
    collapsed ⟨root, before ++ name :: up :: after⟩ = collapsed ⟨root, before ++ after⟩ := by
  have hback : (before ++ name :: up :: after).foldl resolveStep (0, []) =
      (before ++ after).foldl resolveStep (0, []) := by
    rw [List.foldl_append, List.foldl_append, List.foldl_cons, List.foldl_cons]
    generalize before.foldl resolveStep (0, []) = reached
    obtain ⟨above, names⟩ := reached
    rw [resolveStep_of_ne h, resolveStep_up_append]
  unfold collapsed resolve
  rw [hback]

theorem foldl_resolveStep_names {names : List Text} (h : up ∉ names) (above : Nat)
    (before : List Text) :
    names.foldl resolveStep (above, before) = (above, before ++ names) := by
  induction names generalizing before with
  | nil => rw [List.append_nil]; rfl
  | cons name names ih =>
      rw [List.mem_cons, not_or] at h
      rw [List.foldl_cons, resolveStep_of_ne (Ne.symm h.1), ih h.2, List.append_assoc]
      rfl

theorem foldl_resolveStep_ups (n above : Nat) :
    (List.replicate n up).foldl resolveStep (above, []) = (above + n, []) := by
  induction n generalizing above with
  | zero => rfl
  | succ n ih =>
      rw [List.replicate_succ, List.foldl_cons, resolveStep_up_nil, ih, Nat.add_right_comm]
      rfl

/-- Nothing collapses where no name stands in front of a `..`. -/
theorem collapsed_ups_names (n : Nat) {names : List Text} (h : up ∉ names) :
    collapsed ⟨.here, List.replicate n up ++ names⟩ =
      ⟨.here, List.replicate n up ++ names⟩ := by
  have hresolve : resolve ⟨.here, List.replicate n up ++ names⟩ = (n, names) := by
    show (List.replicate n up ++ names).foldl resolveStep (0, []) = (n, names)
    rw [List.foldl_append, foldl_resolveStep_ups, foldl_resolveStep_names h, Nat.zero_add]
    rfl
  rw [collapsed, hresolve]

end Path

namespace Artifact

/-! ## Paths and imports of a name without a slash -/

variable {r : Request}

/-- A file name without a slash is a path of one part. -/
theorem ofText_fileName (h : chr '/' ∉ r.model) (a : Artifact) :
    Path.ofText (a.fileName r) = ⟨.here, [a.fileName r]⟩ ∧ a.fileName r ≠ Path.up := by
  have hslash : chr '/' ∉ a.fileName r := by
    rw [fileName_eq, List.mem_append, not_or]
    exact ⟨h, slash_not_mem_ending a r.language⟩
  have hname := append_ending_is_name a r.language r.model
  rw [← fileName_eq] at hname
  have hroot : Root.ofText (a.fileName r) = .here :=
    Root.ofText_eq_here_iff.2 fun hc => hslash (List.mem_of_mem_head? hc)
  refine ⟨?_, hname.2⟩
  rw [Path.ofText, hroot, Text.split_eq_singleton hslash, List.filter_singleton, hname.1]
  rfl

theorem path_eq (h : chr '/' ∉ r.model) (a : Artifact) :
    a.path r = ⟨.here, a.directoryParts r ++ [a.fileName r]⟩ := by
  have hhead : r.model.head? ≠ some (chr '/') := fun hc => h (List.mem_of_mem_head? hc)
  rw [path, (ofText_fileName h a).1, directory_eq a r hhead]
  rfl

/-- Grouped by type an import goes up from one folder and down into another. -/
theorem ofText_importTarget_byType (h : chr '/' ∉ r.model) (hlayout : r.layout = .byType)
    (a : Artifact) :
    Path.ofText (a.importTarget r) = ⟨.here, [Path.up, a.folder, a.fileName r]⟩ := by
  have hfile := congrArg Path.parts (ofText_fileName h a).1
  have htext : a.importTarget r = Path.up ++ chr '/' :: (a.folder ++ chr '/' :: a.fileName r) := by
    simp only [importTarget, hlayout]
    rfl
  have hfolder : chr '/' ∉ a.folder ∧ Path.isPart a.folder = true := by
    cases a <;> decide
  have hroot : Root.ofText (a.importTarget r) = .here := by
    rw [htext]
    rfl
  have hparts : (Path.ofText (a.importTarget r)).parts =
      [Path.up, a.folder] ++ (Path.ofText (a.fileName r)).parts := by
    show ((a.importTarget r).split '/').filter Path.isPart = _
    rw [htext, Text.split_append_sep (by decide), Text.split_append_sep hfolder.1,
      List.filter_cons_of_pos (by decide), List.filter_cons_of_pos hfolder.2]
    rfl
  rw [hfile] at hparts
  rw [← hroot]
  exact congrArg (Path.mk _) hparts

/-- Grouped by module an import stays in the folder. -/
theorem ofText_importTarget_byModule (h : chr '/' ∉ r.model) (hlayout : r.layout = .byModule)
    (a : Artifact) : Path.ofText (a.importTarget r) = ⟨.here, [a.fileName r]⟩ := by
  have hfile := congrArg Path.parts (ofText_fileName h a).1
  have htext : a.importTarget r = [chr '.'] ++ chr '/' :: a.fileName r := by
    simp only [importTarget, hlayout]
    rfl
  have hroot : Root.ofText (a.importTarget r) = .here := by
    rw [htext]
    rfl
  have hparts : (Path.ofText (a.importTarget r)).parts = (Path.ofText (a.fileName r)).parts := by
    show ((a.importTarget r).split '/').filter Path.isPart = _
    rw [htext, Text.split_append_sep (by decide), List.filter_cons_of_neg (by decide)]
    rfl
  rw [hfile] at hparts
  rw [← hroot]
  exact congrArg (Path.mk _) hparts

/-- A name without a slash is a folder of its own, or `..` and so the folder above, or no folder. -/
theorem parts_ofText_cases {name : Text} (h : chr '/' ∉ name) :
    (Path.ofText name).parts = [] ∨ (Path.ofText name).parts = [Path.up] ∨
      ((Path.ofText name).parts = [name] ∧ name ≠ Path.up) := by
  have hparts : (Path.ofText name).parts = [name].filter Path.isPart := by
    show (name.split '/').filter Path.isPart = _
    rw [Text.split_eq_singleton h]
  rw [hparts]
  by_cases hpart : Path.isPart name = true
  · rw [List.filter_cons_of_pos hpart, List.filter_nil]
    by_cases hup : name = Path.up
    · exact .inr (.inl (by rw [hup]))
    · exact .inr (.inr ⟨rfl, hup⟩)
  · exact .inl (List.filter_cons_of_neg hpart)

/-- **An import leads to the file**, from the folder of any kind of file to any kind of file. -/
theorem collapsed_import (h : chr '/' ∉ r.model) (source target : Artifact) :
    ((source.path r).parent.join (.ofText (target.importTarget r))).collapsed = target.path r := by
  have hparent : (source.path r).parent = ⟨.here, source.directoryParts r⟩ := by
    rw [path_eq h, Path.parent, List.dropLast_concat]
  have hname : target.fileName r ≠ Path.up := (ofText_fileName h target).2
  rw [hparent, path_eq h]
  cases hlayout : r.layout with
  | byType =>
      have hfolders : ∀ a : Artifact, a.directoryParts r = [a.folder] := by
        intro a
        simp only [directoryParts, hlayout]
      have hnames : Path.up ∉ [target.folder, target.fileName r] := by
        intro hmem
        rcases List.mem_cons.1 hmem with hup | hmem
        · exact folder_ne_up target hup.symm
        · exact hname (List.mem_singleton.1 hmem).symm
      rw [ofText_importTarget_byType h hlayout, hfolders, hfolders, Path.join_here]
      -- The folder of the source and the `..` behind it go away together.
      exact (Path.collapsed_name_up .here [] _ (folder_ne_up source)).trans
        (Path.collapsed_ups_names 0 hnames)
  | byModule =>
      have hfolders : ∀ a : Artifact, a.directoryParts r = (Path.ofText r.model).parts := by
        intro a
        simp only [directoryParts, hlayout]
      have hlast : Path.up ∉ [target.fileName r] := by
        intro hmem
        exact hname (List.mem_singleton.1 hmem).symm
      rw [ofText_importTarget_byModule h hlayout, hfolders, hfolders, Path.join_here]
      rcases parts_ofText_cases h with hparts | hparts | ⟨hparts, hmodel⟩
      · rw [hparts]
        exact Path.collapsed_ups_names 0 hlast
      · rw [hparts]
        exact Path.collapsed_ups_names 1 hlast
      · rw [hparts]
        have hnames : Path.up ∉ [r.model, target.fileName r] := by
          intro hmem
          rcases List.mem_cons.1 hmem with hup | hmem
          · exact hmodel hup.symm
          · exact hlast hmem
        exact Path.collapsed_ups_names 0 hnames

/-! ## Import statements -/

/-- What stands in front of the name, between name and path, and behind the path in a statement that
imports something. -/
def importWords : Language → Text × Text × Text
  | .plain => ("var ".text, " = require(".text, ");\n".text)
  | .typed => ("import ".text, " from ".text, ";\n".text)

/-- The statement by which a program gets what a path leads to, under a name. -/
def importStatement (l : Language) (imported path : Text) : Text :=
  let (opening, middle, closing) := importWords l
  opening ++ imported ++ middle ++ path ++ closing

open Template (pieces bundled filledPiece flatMap_filledPiece_chars)

/-- The pieces of a template that make an import statement. -/
def importPieces (l : Language) (imported path : Placeholder) : List Piece :=
  let (opening, middle, closing) := importWords l
  opening.map .char ++ .hole imported :: (middle.map .char ++ .hole path :: closing.map .char)

theorem filled_importPieces (values : Template.Values) (l : Language)
    (imported path : Placeholder) :
    (importPieces l imported path).flatMap (filledPiece values) =
      importStatement l (filledPiece values (.hole imported))
        (filledPiece values (.hole path)) := by
  unfold importPieces importStatement
  obtain ⟨opening, middle, closing⟩ := importWords l
  simp only [List.flatMap_append, List.flatMap_cons, flatMap_filledPiece_chars, List.append_assoc]

theorem importPieces_infix_router (l : Language) :
    importPieces l .controllerName .controllerPath <:+: pieces (bundled router l) := by
  cases l <;> decide +kernel

theorem importPieces_infix_controller (l : Language) :
    importPieces l .modelName .modelPath <:+: pieces (bundled controller l) := by
  cases l <;> decide +kernel

/-- A quoted path in the file of one kind that leads to the file of another. -/
def LeadsTo (r : Request) (source : Artifact) (literal : Text) (target : Artifact) : Prop :=
  ∃ text, literal = chr '\'' :: text ++ [chr '\''] ∧
    ((source.path r).parent.join (.ofText text)).collapsed = target.path r

/-- **Imports lead to the files that are generated**: for a model's name without a slash, in both
layouts and both languages, the import path of a kind of file leads to that file from the folder of
every kind. So the controller that the router imports is the file of the controller, and the model
that the controller imports is the file of the model. -/
theorem imports_lead_to_files (r : Request) (h : chr '/' ∉ r.model) :
    (∀ source target : Artifact, LeadsTo r source (target.importPath r) target) ∧
    (∃ literal, LeadsTo r router literal controller ∧
      importStatement r.language (controllerName r) literal <:+:
        (router.render r (bundled router r.language)).text) ∧
    ∃ literal, LeadsTo r controller literal model ∧
      importStatement r.language (Text.capitalized r.model ++ model.suffix) literal <:+:
        (controller.render r (bundled controller r.language)).text := by
  have hleads : ∀ source target : Artifact, LeadsTo r source (target.importPath r) target := by
    intro source target
    exact ⟨target.importTarget r, rfl, collapsed_import h source target⟩
  refine ⟨hleads, ⟨_, hleads router controller, ?_⟩, ⟨_, hleads controller model, ?_⟩⟩
  · have hfilled := Template.infix_fill (router.values r)
      (importPieces_infix_router r.language)
    rw [filled_importPieces] at hfilled
    exact hfilled
  · have hfilled := Template.infix_fill (controller.values r)
      (importPieces_infix_controller r.language)
    rw [filled_importPieces] at hfilled
    exact hfilled

/-- A model that is named like the folder above, with each kind in the folder of its module. -/
theorem imports_of_upward_name :
    let r : Request := { model := "..".text, layout := .byModule, withRest := true }
    chr '/' ∉ r.model ∧ LeadsTo r router (controller.importPath r) controller ∧
      controller.path r = .ofText "../..Controller.js".text := by
  intro r
  have hslash : chr '/' ∉ r.model := by decide
  exact ⟨hslash, (imports_lead_to_files r hslash).1 router controller, by decide +kernel⟩

end Artifact

end Scaffold
