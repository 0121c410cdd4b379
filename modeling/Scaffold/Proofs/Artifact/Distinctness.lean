/-
# Scaffold.Proofs.Artifact.Distinctness -- no generated file is in the way of another

The name of a generated file is the model's name with the kind and the language behind it, and
nothing marks where the one ends and the other begins: a model may be called `PostModel` or
`Post.js`. It can be taken apart all the same, from its end. The extensions have one length, and no
kind's ending is the end of another's (`eq_of_ending_suffix`), so the name gives back the language,
then the kind, and what is left is the model (`eq_of_fileName_eq`).

Last parts therefore tell the files of one request apart, whatever the model is called, and the
files of all requests with names free of slashes. `no_file_overwrites_another` says so of paths and
of the places that these lead to. A slash does make a difference between requests: grouped by type,
the models `Post` and `./Post` have the same files.
-/

import Scaffold.Proofs.Artifact.Imports
import Scaffold.Proofs.Engine.Effect

namespace Scaffold.Artifact

/-! ## Names of files -/

theorem extension_injective {l l' : Language} (h : l.extension = l'.extension) : l = l' := by
  revert h
  cases l <;> cases l' <;> decide

/-- **A file name can be taken apart** into the model, the kind and the language. -/
theorem eq_of_fileName_eq {a b : Artifact} {r r' : Request} (h : a.fileName r = b.fileName r') :
    a = b ∧ r.model = r'.model ∧ r.language = r'.language := by
  have hlength : (chr '.' :: r.language.extension).length =
      (chr '.' :: r'.language.extension).length := by
    cases r.language <;> cases r'.language <;> rfl
  have hlanguage : r.language = r'.language := by
    have hextension := (List.append_inj' h hlength).2
    exact extension_injective (List.cons_inj_right (chr '.') |>.1 hextension)
  have hname : r.model ++ a.ending r.language = r'.model ++ b.ending r.language := by
    rw [← fileName_eq, h, fileName_eq, hlanguage]
  have hkind : a = b := by
    have hends : b.ending r.language <:+ r.model ++ a.ending r.language := by
      rw [hname]
      exact List.suffix_append _ _
    exact eq_of_ending_suffix (List.suffix_append _ _) hends
  subst hkind
  exact ⟨rfl, List.append_cancel_right hname, hlanguage⟩

/-- The last part of the path of a file. -/
def lastPart (a : Artifact) (r : Request) : Option Text := (a.path r).parts.getLast?

/-- The last part of a path shows the kind, whatever the model is called. -/
theorem eq_of_lastPart_eq {a b : Artifact} {r : Request} (h : a.lastPart r = b.lastPart r) :
    a = b := by
  obtain ⟨before, name, hparts, -, hname⟩ := exists_parts_path a r
  obtain ⟨before', name', hparts', -, hname'⟩ := exists_parts_path b r
  rw [lastPart, lastPart, hparts, hparts', List.getLast?_concat, List.getLast?_concat] at h
  rw [← Option.some.inj h] at hname'
  exact eq_of_ending_suffix hname hname'

/-- Where the model's name has no slash, the last part is the name of the file. -/
theorem lastPart_eq {r : Request} (h : chr '/' ∉ r.model) (a : Artifact) :
    a.lastPart r = some (a.fileName r) := by
  rw [lastPart, path_eq h, List.getLast?_concat]

/-- A file lies under its name, wherever the output directory is. -/
theorem exists_eq_append_fileName {r : Request} (h : chr '/' ∉ r.model) {a : Artifact}
    {tree : FileTree} {output : Path} {l : Location}
    (hl : tree.locate (output.join (a.path r)) = .ok l) : ∃ above, l = above ++ [a.fileName r] := by
  have hparts : (output.join (a.path r)).parts =
      (output.parts ++ a.directoryParts r) ++ [a.fileName r] := by
    rw [path_eq h, Path.join_here, List.append_assoc]
  exact FileTree.exists_eq_append_of_locate hparts (ofText_fileName h a).2 hl

/-- **No file overwrites another.** The files of one request have different paths with different
last parts, and lie at different places, whatever the model is called. Of two requests with models
free of slashes, two files have the same last part, and lie at the same place of any tree below any
output directories, only if kind, model and language are the same; in one layout this is also when
they have the same path. -/
theorem no_file_overwrites_another :
    (∀ (r : Request) (a b : Artifact), a ≠ b →
      a.path r ≠ b.path r ∧ a.lastPart r ≠ b.lastPart r ∧
      ∀ (tree : FileTree) (output : Path) (l : Location),
        tree.locate (output.join (a.path r)) = .ok l →
          tree.locate (output.join (b.path r)) ≠ .ok l) ∧
    ∀ r r' : Request, chr '/' ∉ r.model → chr '/' ∉ r'.model → ∀ a b : Artifact,
      let same := a = b ∧ r.model = r'.model ∧ r.language = r'.language
      (r.layout = r'.layout → (a.path r = b.path r' ↔ same)) ∧
      (a.path r = b.path r' → same) ∧
      (a.lastPart r = b.lastPart r' → same) ∧
      ∀ (tree : FileTree) (output output' : Path) (l : Location),
        tree.locate (output.join (a.path r)) = .ok l →
          tree.locate (output'.join (b.path r')) = .ok l → same := by
  refine ⟨?_, ?_⟩
  · intro r a b hne
    refine ⟨?_, ?_, ?_⟩
    · intro hpath
      exact hne (eq_of_lastPart_eq (congrArg (fun p : Path => p.parts.getLast?) hpath))
    · intro hlast
      exact hne (eq_of_lastPart_eq hlast)
    · intro tree output l ha hb
      exact hne (Engine.eq_of_locate_eq ha hb)
  · intro r r' h h' a b same
    have hlast : a.lastPart r = b.lastPart r' → same := by
      intro heq
      rw [lastPart_eq h, lastPart_eq h'] at heq
      exact eq_of_fileName_eq (Option.some.inj heq)
    have hpath : a.path r = b.path r' → same := by
      intro heq
      exact hlast (congrArg (fun p : Path => p.parts.getLast?) heq)
    refine ⟨?_, hpath, hlast, ?_⟩
    · intro hlayout
      refine ⟨hpath, ?_⟩
      rintro ⟨rfl, hmodel, hlanguage⟩
      rw [path, path, directory, directory, fileName, fileName, hlayout, hmodel, hlanguage]
    · intro tree output output' l ha hb
      obtain ⟨above, rfl⟩ := exists_eq_append_fileName h ha
      obtain ⟨above', heq⟩ := exists_eq_append_fileName h' hb
      have hname := List.head_eq_of_cons_eq (List.append_inj' heq rfl).2
      exact eq_of_fileName_eq hname

/-- Two names of which one has a slash, and one file. -/
example : model.path { model := "./Post".text } = model.path { model := "Post".text } := by
  decide +kernel

end Scaffold.Artifact
