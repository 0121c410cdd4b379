/-
# Scaffold.Proofs.Artifact.Containment -- which model names keep their files in the output directory

A model's name enters the path of a generated file as it is written, once as the beginning of the
file name and, grouped by module, once more as a folder. A name is refused only where it is blank,
so it may hold slashes, begin with one, or hold `..` between them. `NameStays` is the exact
condition on the name under which the file lies below the output directory, whichever directory
that is: no slash in front, and never more `..` than folders on the way to the file.
`path_contained_iff` is that statement for every kind of file and every request.

The condition is on paper, like `Path.Within`: it speaks of the path that is written to, not of
what is found there. `generated_outside_output` lists three names that are accepted as answers and
lead out of the output directory, one by its slash in front and two by climbing.
-/
import Scaffold.Answer
import Scaffold.Engine
import Scaffold.Proofs.Path.Resolution

namespace Scaffold.Artifact

/-! ## The parts of a generated path -/

/-- The folders that a name leads through, as far as they are written in the name: what stands
before its last slash. -/
def folders (name : Text) : List Text := (name.split '/').dropLast.filter Path.isPart

/-- What follows the model's name in the name of a generated file. -/
def ending (a : Artifact) (l : Language) : Text := a.suffix ++ chr '.' :: l.extension

theorem fileName_eq (a : Artifact) (r : Request) : a.fileName r = r.model ++ a.ending r.language :=
  List.append_assoc r.model a.suffix _

theorem slash_not_mem_ending (a : Artifact) (l : Language) : chr '/' ∉ a.ending l := by
  cases a <;> cases l <;> decide

theorem two_lt_length_ending (a : Artifact) (l : Language) : 2 < (a.ending l).length := by
  cases a <;> cases l <;> decide

/-- The last part of a generated path is a name: it is too long to be empty, `.` or `..`. -/
theorem append_ending_is_name (a : Artifact) (l : Language) (s : Text) :
    Path.isPart (s ++ a.ending l) = true ∧ s ++ a.ending l ≠ Path.up := by
  have hlen : 2 < (s ++ a.ending l).length := by
    rw [List.length_append]
    exact Nat.lt_add_left _ (two_lt_length_ending a l)
  have hne : ∀ t : Text, t.length ≤ 2 → s ++ a.ending l ≠ t := by
    intro t ht heq
    rw [heq] at hlen
    omega
  refine ⟨?_, hne Path.up (Nat.le_refl 2)⟩
  simp only [Path.isPart, Bool.and_eq_true, decide_eq_true_eq]
  exact ⟨hne [] (Nat.zero_le 2), hne [chr '.'] (by decide)⟩

/-- A file name leads through the folders of the model's name to a name of its own. -/
theorem parts_fileName (a : Artifact) (r : Request) :
    ∃ last, last ≠ Path.up ∧ (Path.ofText (a.fileName r)).parts = folders r.model ++ [last] := by
  obtain ⟨last, hsplit⟩ :=
    Text.split_append_of_not_mem (slash_not_mem_ending a r.language) r.model
  obtain ⟨hpart, hup⟩ := append_ending_is_name a r.language last
  refine ⟨last ++ a.ending r.language, hup, ?_⟩
  show ((a.fileName r).split '/').filter Path.isPart = _
  rw [fileName_eq, hsplit, List.filter_append, List.filter_cons_of_pos hpart]
  rfl

theorem head?_fileName (a : Artifact) (r : Request) :
    (a.fileName r).head? = some (chr '/') ↔ r.model.head? = some (chr '/') := by
  rw [fileName_eq]
  cases r.model with
  | nil =>
      have hending : (a.ending r.language).head? ≠ some (chr '/') := fun hc =>
        slash_not_mem_ending a r.language (List.mem_of_mem_head? hc)
      exact iff_of_false hending (by decide)
  | cons c name =>
      rw [List.cons_append, List.head?_cons, List.head?_cons]

/-- The parts of the folder of a generated file. -/
def directoryParts (a : Artifact) (r : Request) : List Text :=
  match r.layout with
  | .byType => [a.folder]
  | .byModule => (Path.ofText r.model).parts

theorem directory_eq (a : Artifact) (r : Request) (h : r.model.head? ≠ some (chr '/')) :
    a.directory r = ⟨.here, a.directoryParts r⟩ := by
  unfold directory directoryParts
  cases r.layout with
  | byType => cases a <;> rfl
  | byModule =>
      show Path.ofText r.model = _
      rw [← Root.ofText_eq_here_iff.2 h]
      rfl

/-- The folder of a file, then the folders of the model's name, then a name: this is the path of a
file whose model's name has no slash in front. -/
theorem path_of_head_ne_slash (a : Artifact) (r : Request) (h : r.model.head? ≠ some (chr '/')) :
    ∃ last, last ≠ Path.up ∧
      a.path r = ⟨.here, a.directoryParts r ++ (folders r.model ++ [last])⟩ := by
  obtain ⟨last, hlast, hparts⟩ := parts_fileName a r
  have hfile : Path.ofText (a.fileName r) = ⟨.here, folders r.model ++ [last]⟩ := by
    rw [← hparts, ← Root.ofText_eq_here_iff.2 fun hc => h ((head?_fileName a r).1 hc)]
    rfl
  refine ⟨last, hlast, ?_⟩
  rw [path, hfile, directory_eq a r h]
  rfl

/-- A slash in front of the model's name is a slash in front of the path, in both layouts. -/
theorem root_path_of_head_eq_slash (a : Artifact) (r : Request)
    (h : r.model.head? = some (chr '/')) :
    (a.path r).root ≠ .here := by
  have hfile : (Path.ofText (a.fileName r)).root ≠ .here := fun hroot =>
    Root.ofText_eq_here_iff.1 hroot ((head?_fileName a r).2 h)
  rw [path, Path.join_of_root hfile]
  exact hfile

/-- A generated file starts where the output directory does, unless its model's name has a slash in
front. -/
theorem root_path_eq_here_iff (a : Artifact) (r : Request) :
    (a.path r).root = .here ↔ r.model.head? ≠ some (chr '/') := by
  constructor
  · exact fun hroot hhead => root_path_of_head_eq_slash a r hhead hroot
  · intro hhead
    obtain ⟨last, -, hpath⟩ := path_of_head_ne_slash a r hhead
    rw [hpath]

/-! ## Names that stay -/

/-- A name whose files stay in the output directory. Grouped by type the folder of the kind is one
directory to come back from; grouped by module the name leads through its folders twice. -/
def NameStays (l : Layout) (name : Text) : Prop :=
  name.head? ≠ some (chr '/') ∧
    match l with
    | .byType => Path.StaysBelow 1 (folders name)
    | .byModule => Path.StaysBelow 0 ((Path.ofText name).parts ++ folders name)

instance (l : Layout) (name : Text) : Decidable (NameStays l name) :=
  match l with
  | .byType => inferInstanceAs (Decidable (_ ∧ _))
  | .byModule => inferInstanceAs (Decidable (_ ∧ _))

theorem folder_ne_up (a : Artifact) : a.folder ≠ Path.up := by cases a <;> decide

theorem staysBelow_directoryParts_iff (a : Artifact) (r : Request) :
    Path.StaysBelow 0 (a.directoryParts r ++ folders r.model) ↔
      match r.layout with
      | .byType => Path.StaysBelow 1 (folders r.model)
      | .byModule => Path.StaysBelow 0 ((Path.ofText r.model).parts ++ folders r.model) := by
  unfold directoryParts
  cases r.layout with
  | byType => exact Path.staysBelow_cons_of_ne (folder_ne_up a)
  | byModule => exact Iff.rfl

/-- A name without a slash is one part: grouped by type it always stays, grouped by module it stays
unless it is `..` itself. -/
theorem nameStays_iff_of_slash_not_mem {name : Text} (h : chr '/' ∉ name) (l : Layout) :
    NameStays l name ↔ l = .byType ∨ name ≠ Path.up := by
  have hsplit : name.split '/' = [name] := Text.split_eq_singleton h
  have hfolders : folders name = [] := by rw [folders, hsplit]; rfl
  have hparts : (Path.ofText name).parts = [name].filter Path.isPart := by
    rw [← hsplit]
    rfl
  have hhead : name.head? ≠ some (chr '/') := fun hc => h (List.mem_of_mem_head? hc)
  unfold NameStays
  rw [hfolders, hparts, List.append_nil]
  cases l with
  | byType => exact ⟨fun _ => .inl rfl, fun _ => ⟨hhead, Path.staysBelow_nil⟩⟩
  | byModule =>
      constructor
      · rintro ⟨-, hs⟩
        refine .inr fun hup => Path.not_staysBelow_zero_up_cons (?_ : Path.StaysBelow 0 [Path.up])
        rw [hup] at hs
        exact hs
      · rintro (hl | hup)
        · exact absurd hl (by decide)
        · refine ⟨hhead, Path.staysBelow_of_not_mem fun hmem => hup ?_⟩
          exact (List.mem_singleton.1 (List.mem_of_mem_filter hmem)).symm

/-! ## Containment -/

/-- What is written is the path of the file, joined to the output directory. -/
theorem eq_of_write_eq_ok {tree : FileTree} {output target : Path} {f : Rendered}
    (h : (Engine.write tree output f).1 = .ok target) : target = output.join f.path := by
  unfold Engine.write at h
  dsimp only at h
  split at h
  · exact (Except.ok.inj h).symm
  · exact absurd h (by simp)

/-- **Containment is decided by the name**: a kind of file of a request lies strictly below every
output directory exactly when it lies strictly below the working directory, and exactly when the
model's name stays. The path that is written to is this one, whatever the template and the tree. -/
theorem path_contained_iff (a : Artifact) (r : Request) :
    ((∀ output : Path, Path.Within output (output.join (a.path r))) ↔ NameStays r.layout r.model) ∧
    (Path.Within {} (Path.join {} (a.path r)) ↔ NameStays r.layout r.model) ∧
    ∀ (tree : FileTree) (output : Path) (template : Text) (target : Path),
      (Engine.write tree output (a.render r template)).1 = .ok target →
        target = output.join (a.path r) := by
  have hexact : ((a.path r).root = .here ∧ Path.StaysBelow 0 (a.path r).parts ∧
      (a.path r).resolve.2 ≠ []) ↔ NameStays r.layout r.model := by
    -- A slash in front decides by itself; without one the path is a list of parts to count.
    by_cases hslash : r.model.head? = some (chr '/')
    · have hroot := root_path_of_head_eq_slash a r hslash
      exact ⟨fun h => absurd h.1 hroot, fun h => absurd hslash h.1⟩
    · obtain ⟨last, hlast, hpath⟩ := path_of_head_ne_slash a r hslash
      rw [hpath, ← List.append_assoc, Path.staysBelow_append_name hlast,
        staysBelow_directoryParts_iff]
      exact ⟨fun h => ⟨hslash, h.2.1⟩,
        fun h => ⟨rfl, h.2, Path.resolve_append_name_ne_nil hlast⟩⟩
  refine ⟨?_, ?_, fun tree output template target h => eq_of_write_eq_ok h⟩
  · rw [Path.forall_within_join_iff, hexact]
  · rw [Path.within_join_here_iff, hexact]

/-- A name that leads out of a folder again, and no further, stays. -/
theorem router_of_nested_name_contained :
    NameStays .byModule "blog/../shop/Order".text ∧
    ∀ output : Path, Path.Within output
      (output.join (router.path { model := "blog/../shop/Order".text, layout := .byModule })) := by
  have hstays : NameStays .byModule "blog/../shop/Order".text := by decide +kernel
  exact ⟨hstays, (path_contained_iff router
    { model := "blog/../shop/Order".text, layout := .byModule }).1.2 hstays⟩

/-- Three model names that are accepted as answers, and files of theirs outside the output
directory `out`: an absolute one, one that climbs from the folder of its kind, and one that climbs
from the folder of its module. -/
theorem generated_outside_output :
    (∀ name ∈ ["/evil".text, "../../evil".text, "..".text],
      Answer.modelName (some name) = .ok name) ∧
    ¬ Path.Within (.ofText "out".text)
      (Path.join (.ofText "out".text) (model.path { model := "/evil".text })) ∧
    ¬ Path.Within (.ofText "out".text)
      (Path.join (.ofText "out".text) (model.path { model := "../../evil".text })) ∧
    ¬ Path.Within (.ofText "out".text)
      (Path.join (.ofText "out".text)
        (controller.path { model := "..".text, layout := .byModule, withRest := true })) := by
  refine ⟨by decide +kernel, fun h => ?_, fun h => ?_, fun h => ?_⟩
  · exact absurd h.1 (by decide +kernel)
  · exact absurd (Path.resolve_of_within h) (by decide +kernel)
  · exact absurd (Path.resolve_of_within h) (by decide +kernel)

end Scaffold.Artifact
