/-
# Scaffold.Proofs.Engine.Effect -- what generating a request does to a tree

Whatever is in the tree, in whatever order the kinds of file are worked on and wherever one of them
fails: a file that is reported as written is there in the end with the text that the engine renders,
and nothing else has happened to the tree than that directories have become new where nothing was.
`generation_effect` says that `Engine.generate` is a run, and this of every run.

Two facts carry it. The files of a request have different names, whatever their directories are, so
no kind writes to the file of another; and none of these names is the name of a template, so what
an engine reads does not depend on when it reads it.
-/

import Scaffold.Proofs.Artifact.Containment
import Scaffold.Proofs.Artifact.Encoding
import Scaffold.Proofs.Engine.Interleaving

namespace Scaffold

/-! ## Names of generated files -/

/-- Joining keeps the last part. -/
theorem Path.exists_parts_join (p : Path) {q : Path} {before : List Text} {name : Text}
    (h : q.parts = before ++ [name]) : ∃ before', (p.join q).parts = before' ++ [name] := by
  by_cases hroot : q.root = .here
  · refine ⟨p.parts ++ before, ?_⟩
    rw [Path.join, hroot, h, List.append_assoc]
  · exact ⟨before, by rw [Path.join_of_root hroot, h]⟩

namespace Artifact

/-- Kinds of file can be told by the end of the name. -/
theorem eq_of_ending_suffix {a b : Artifact} {l : Language} {name : Text}
    (ha : a.ending l <:+ name) (hb : b.ending l <:+ name) : a = b := by
  have hends : ∀ a b : Artifact, ∀ l : Language, a.ending l <:+ b.ending l → a = b := by
    intro a b l
    cases a <;> cases b <;> cases l <;> decide
  rcases List.suffix_or_suffix_of_suffix ha hb with h | h
  · exact hends a b l h
  · exact (hends b a l h).symm

/-- Templates are not named like generated files. -/
theorem not_ending_suffix_fileName (a b : Artifact) (l l' : Language) :
    ¬ a.ending l <:+ TemplateSource.fileName b l' := by
  cases a <;> cases b <;> cases l <;> cases l' <;> decide

/-- The path of a generated file ends in a name that shows the kind. -/
theorem exists_parts_path (a : Artifact) (r : Request) :
    ∃ before name, (a.path r).parts = before ++ [name] ∧ name ≠ Path.up ∧
      a.ending r.language <:+ name := by
  obtain ⟨last, hsplit⟩ := Text.split_append_of_not_mem (slash_not_mem_ending a r.language) r.model
  obtain ⟨hpart, hup⟩ := append_ending_is_name a r.language last
  have hfile : (Path.ofText (a.fileName r)).parts =
      folders r.model ++ [last ++ a.ending r.language] := by
    show ((a.fileName r).split '/').filter Path.isPart = _
    rw [fileName_eq, hsplit, List.filter_append, List.filter_cons_of_pos hpart]
    rfl
  obtain ⟨before, hparts⟩ := (a.directory r).exists_parts_join hfile
  exact ⟨before, _, hparts, hup, List.suffix_append _ _⟩

theorem exists_parts_join_path (output : Path) (a : Artifact) (r : Request) :
    ∃ before name, (output.join (a.path r)).parts = before ++ [name] ∧ name ≠ Path.up ∧
      a.ending r.language <:+ name := by
  obtain ⟨before, name, hparts, hup, hname⟩ := exists_parts_path a r
  obtain ⟨before', hparts'⟩ := output.exists_parts_join hparts
  exact ⟨before', name, hparts', hup, hname⟩

end Artifact

namespace Engine

variable {e e' : Engine} {tree tree' : FileTree} {output p : Path} {r : Request} {a b : Artifact}

/-- A location that is named like a generated file of some kind. -/
def IsGenerated (r : Request) (l : Location) : Prop :=
  ∃ a : Artifact, ∃ above name, l = above ++ [name] ∧ a.ending r.language <:+ name

/-- A generated file lies where its kind shows. -/
theorem ending_suffix_of_locate {l : Location}
    (h : tree.locate (output.join (a.path r)) = .ok l) :
    ∃ above name, l = above ++ [name] ∧ a.ending r.language <:+ name := by
  obtain ⟨before, name, hparts, hup, hname⟩ := a.exists_parts_join_path output r
  obtain ⟨above, rfl⟩ := FileTree.exists_eq_append_of_locate hparts hup h
  exact ⟨above, name, rfl, hname⟩

/-- The files of two kinds never lie at the same place. -/
theorem eq_of_locate_eq {l : Location} (ha : tree.locate (output.join (a.path r)) = .ok l)
    (hb : tree'.locate (output.join (b.path r)) = .ok l) : a = b := by
  obtain ⟨above, name, rfl, hname⟩ := ending_suffix_of_locate ha
  obtain ⟨above', name', heq, hname'⟩ := ending_suffix_of_locate hb
  obtain ⟨-, hlast⟩ := List.append_inj' heq rfl
  rw [← List.head_eq_of_cons_eq hlast] at hname'
  exact Artifact.eq_of_ending_suffix hname hname'

/-! ## What an engine remembers -/

/-- A template that was loaded is remembered, with everything that was remembered before. -/
theorem load_eq_ok {l : Language} {text : Text} (h : e.load tree a l = (.ok text, e')) :
    e'.loaded.lookup (a, l) = some text ∧ e'.source = e.source ∧
      (∀ k text', e.loaded.lookup k = some text' → e'.loaded.lookup k = some text') ∧
      ∀ b text', e'.loaded.lookup (b, l) = some text' → e.loaded.lookup (b, l) = some text' ∨
        (b = a ∧ e.loaded.lookup (a, l) = none ∧
          e.source.read tree (TemplateSource.fileName a l) = .ok text') := by
  unfold load at h
  split at h
  · rename_i hlookup
    cases h
    exact ⟨hlookup, rfl, fun _ _ => id, fun _ _ => .inl⟩
  · rename_i hlookup
    split at h
    · rename_i hread
      cases h
      refine ⟨by simp, rfl, fun k text' hk => ?_, fun b text' hb => ?_⟩
      · have hne : k ≠ (a, l) := by
          rintro rfl
          exact absurd (hlookup.symm.trans hk) (by simp)
        simpa [List.lookup_cons, beq_eq_false_iff_ne.2 hne] using hk
      · by_cases hba : b = a
        · subst hba
          have htext : text = text' := by simpa using hb
          exact .inr ⟨rfl, hlookup, htext ▸ hread⟩
        · have hne : ((b, l) : Artifact × Language) ≠ (a, l) := fun h => hba (Prod.mk.inj h).1
          exact .inl (by simpa [List.lookup_cons, beq_eq_false_iff_ne.2 hne] using hb)
    · exact absurd h (by simp)

theorem load_eq_error {l : Language} {failure : Failure}
    (h : e.load tree a l = (.error failure, e')) : e' = e := by
  unfold load at h
  split at h
  · exact absurd h (by simp)
  · split at h
    · exact absurd h (by simp)
    · exact (Prod.mk.inj h).2.symm

/-- A remembered template is loaded from any tree. -/
theorem load_of_lookup {l : Language} {text : Text} (h : e.loaded.lookup (a, l) = some text)
    (tree : FileTree) : e.load tree a l = (.ok text, e) := by
  simp only [load, h]

theorem render_eq_ok {f : Artifact.Rendered} (h : e.render tree a r = (.ok f, e')) :
    ∃ template, e.load tree a r.language = (.ok template, e') ∧ f = a.render r template := by
  unfold render at h
  split at h
  · rename_i template e'' hload
    cases h
    exact ⟨template, hload, rfl⟩
  · exact absurd (Prod.mk.inj h).1 (by simp)

theorem load_of_render_error {failure : Failure} (h : e.render tree a r = (.error failure, e')) :
    e.load tree a r.language = (.error failure, e') := by
  unfold render at h
  split at h
  · exact absurd (Prod.mk.inj h).1 (by simp)
  · rename_i failure' e'' hload
    cases h
    exact hload

theorem render_eq_error {failure : Failure} (h : e.render tree a r = (.error failure, e')) :
    e' = e :=
  load_eq_error (load_of_render_error h)

/-! ## What a run leaves as it was -/

/-- The tree has grown by directories and by files named like generated ones. -/
abbrev GrownByFiles (r : Request) (tree tree' : FileTree) : Prop :=
  FileTree.Grown (fun _ => True) (IsGenerated r) tree tree'

/-- The name of a template is a single part. -/
theorem nameParts?_fileName (a : Artifact) (l : Language) :
    TemplateSource.nameParts? (TemplateSource.fileName a l) =
      some [TemplateSource.fileName a l] := by
  cases a <;> cases l <;> decide

/-- A template that can be read stays as it is: no generated file has its name. -/
theorem read_of_grown {source : TemplateSource} {l : Language} {text : Text}
    (h : GrownByFiles r tree tree')
    (hread : source.read tree (TemplateSource.fileName a l) = .ok text) :
    source.read tree' (TemplateSource.fileName a l) = .ok text := by
  have hup : TemplateSource.fileName a l ≠ Path.up := by cases a <;> cases l <;> decide
  cases source with
  | bundled => exact hread
  | directory path =>
      simp only [TemplateSource.read, nameParts?_fileName] at hread ⊢
      set q := path.join ⟨.here, [TemplateSource.fileName a l]⟩ with hq
      rcases hentry : tree.entry? q with _ | content | _
      · simp [hentry] at hread
      · have hsame : tree'.entry? q = some (.file content) := by
          unfold FileTree.entry? at hentry ⊢
          split at hentry
          · rename_i m hlocate
            rw [h.locate hlocate]
            refine h.file hentry ?_
            rintro ⟨b, above, name, rfl, hname⟩
            have hparts : q.parts = path.parts ++ [TemplateSource.fileName a l] := rfl
            obtain ⟨above', heq⟩ := FileTree.exists_eq_append_of_locate hparts hup hlocate
            obtain ⟨-, hlast⟩ := List.append_inj' heq rfl
            rw [List.head_eq_of_cons_eq hlast] at hname
            exact Artifact.not_ending_suffix_fileName b a r.language l hname
          · simp at hentry
        rwa [hsame, ← hentry]
      · simp [hentry] at hread

/-- What holds of the engine and the tree at every point of a run, in view of how they were at the
beginning: templates once loaded are the same that could be loaded then. -/
structure Since (e₀ : Engine) (tree₀ : FileTree) (r : Request) (e : Engine) (tree : FileTree) :
    Prop where
  source : e.source = e₀.source
  kept : ∀ k text, e₀.loaded.lookup k = some text → e.loaded.lookup k = some text
  same : ∀ a text text', (e₀.load tree₀ a r.language).1 = .ok text →
    e.loaded.lookup (a, r.language) = some text' → text' = text
  grown : GrownByFiles r tree₀ tree

theorem Since.refl (e : Engine) (tree : FileTree) (r : Request) : Since e tree r e tree where
  source := rfl
  kept _ _ := id
  same a text text' hload hlookup := by
    rw [load_of_lookup hlookup] at hload
    exact Except.ok.inj hload
  grown := .refl tree

/-- Loading a template leaves what holds. -/
theorem Since.load {e₀ : Engine} {tree₀ : FileTree} {text : Text}
    (h : Since e₀ tree₀ r e tree) (hload : e.load tree a r.language = (.ok text, e')) :
    Since e₀ tree₀ r e' tree := by
  obtain ⟨-, hsource, hkept, hnew⟩ := load_eq_ok hload
  refine ⟨hsource.trans h.source, fun k t hk => hkept k t (h.kept k t hk), ?_, h.grown⟩
  intro b text₀ text' hload₀ hlookup
  rcases hnew b text' hlookup with hold | ⟨rfl, hnone, hread⟩
  · exact h.same b text₀ text' hload₀ hold
  -- The template was read just now; at the beginning it would have been read with the same text.
  · have hnone₀ : e₀.loaded.lookup (b, r.language) = none := by
      by_contra hsome
      obtain ⟨t, ht⟩ := Option.ne_none_iff_exists'.1 hsome
      exact absurd (hnone.symm.trans (h.kept _ _ ht)) (by simp)
    have hread₀ : e₀.source.read tree₀ (TemplateSource.fileName b r.language) = .ok text₀ := by
      unfold Engine.load at hload₀
      rw [hnone₀] at hload₀
      dsimp only at hload₀
      split at hload₀
      · rename_i hr
        rw [hr]
        exact hload₀
      · simp at hload₀
    have hread' := read_of_grown h.grown hread₀
    rw [← h.source, hread] at hread'
    exact Except.ok.inj hread'

/-- A file was rendered from the template that the engine remembers. -/
def Remembers (e : Engine) (r : Request) (a : Artifact) (f : Artifact.Rendered) : Prop :=
  ∃ template, e.loaded.lookup (a, r.language) = some template ∧ f = a.render r template

theorem Remembers.unique {f g : Artifact.Rendered} (hf : Remembers e r a f)
    (hg : Remembers e r a g) : f = g := by
  obtain ⟨template, hlookup, rfl⟩ := hf
  obtain ⟨template', hlookup', rfl⟩ := hg
  rw [Option.some.inj (hlookup.symm.trans hlookup')]

theorem Remembers.kept {f : Artifact.Rendered} (h : Remembers e r a f)
    (hkept : ∀ k text, e.loaded.lookup k = some text → e'.loaded.lookup k = some text) :
    Remembers e' r a f := by
  obtain ⟨template, hlookup, hf⟩ := h
  exact ⟨template, hkept _ _ hlookup, hf⟩

/-- What is rendered from a remembered template is rendered from it again. -/
theorem Remembers.render_eq {f : Artifact.Rendered} (h : Remembers e r a f) (tree : FileTree) :
    (e.render tree a r).1 = .ok f := by
  obtain ⟨template, hlookup, rfl⟩ := h
  simp only [render, load_of_lookup hlookup tree]

theorem Remembers.path_eq {f : Artifact.Rendered} (h : Remembers e r a f) : f.path = a.path r := by
  obtain ⟨template, -, rfl⟩ := h
  rfl

/-- What is known of a kind at each point of a run. -/
def Known (output : Path) (r : Request) (a : Artifact) (x : Ran Stage) : Prop :=
  match x.outcome with
  | .waiting => True
  | .making f _ => Remembers x.engine r a f
  | .writing f => Remembers x.engine r a f
  | .finished (.ok p) => p = output.join (a.path r) ∧
      ∃ f, Remembers x.engine r a f ∧ x.tree.content p = .ok (Text.utf8 f.text)
  | .finished (.error _) => True

/-- What is known of a kind stays known while the engine remembers more and the tree grows off the
file of the kind, or by writing the same again. -/
theorem Known.mono {stage : Stage} {D W : Location → Prop} (h : Known output r a ⟨stage, e, tree⟩)
    (hkept : ∀ k text, e.loaded.lookup k = some text → e'.loaded.lookup k = some text)
    (hgrown : FileTree.Grown D W tree tree')
    (hown : ∀ f l, Remembers e r a f → tree.locate (output.join (a.path r)) = .ok l → W l →
      tree'.content (output.join (a.path r)) = .ok (Text.utf8 f.text)) :
    Known output r a ⟨stage, e', tree'⟩ := by
  cases stage with
  | waiting => trivial
  | making f m => exact Remembers.kept h hkept
  | writing f => exact Remembers.kept h hkept
  | finished outcome =>
      cases outcome with
      | error failure => trivial
      | ok p =>
          obtain ⟨rfl, f, hf, hcontent⟩ := h
          refine ⟨rfl, f, hf.kept hkept, ?_⟩
          by_cases hW : ∃ l, tree.locate (output.join (a.path r)) = .ok l ∧ W l
          · obtain ⟨l, hlocate, hl⟩ := hW
            exact hown f l hf hlocate hl
          · exact hgrown.content hcontent fun l hlocate hl => hW ⟨l, hlocate, hl⟩

/-- **One call**: what it makes of the tree, by the kind that does it. -/
theorem Stage.Step.grown {x y : Ran Stage} (h : Stage.Step output r a x y) :
    FileTree.Grown (fun _ => True)
      (fun l => ∃ f, x.outcome = .writing f ∧ y.outcome = .finished (stored output f) ∧
        y.tree.locate (output.join f.path) = .ok l ∧
        y.tree.content (output.join f.path) = .ok (Text.utf8 f.text)) x.tree y.tree := by
  cases h with
  | asked hadvance =>
      exact (FileTree.Making.grown_of_advance hadvance).mono (fun _ _ => trivial) fun _ => id
  | opened hover =>
      obtain ⟨hgrown, hcontent⟩ := FileTree.grown_of_overwrite hover
      exact hgrown.mono (fun _ => id) fun l hl => ⟨_, rfl, rfl, hl, hcontent⟩
  | rendered | unrendered | made | obstructed | unwritten => exact .refl _

/-- No call makes an engine forget. -/
theorem Stage.Step.kept {x y : Ran Stage} (h : Stage.Step output r a x y) :
    ∀ k text, x.engine.loaded.lookup k = some text → y.engine.loaded.lookup k = some text := by
  cases h with
  | rendered hrender =>
      obtain ⟨template, hload, -⟩ := render_eq_ok hrender
      exact (load_eq_ok hload).2.2.1
  | unrendered hrender =>
      rw [render_eq_error hrender]
      exact fun _ _ => id
  | asked | made | obstructed | opened | unwritten => exact fun _ _ => id

/-- What is known of a kind whose file has been opened. -/
theorem known_stored {f : Artifact.Rendered} (hf : Remembers e r a f)
    (hcontent : tree.content (output.join (a.path r)) = .ok (Text.utf8 f.text)) :
    Known output r a ⟨.finished (Stage.stored output f), e, tree⟩ := by
  unfold Stage.stored
  cases FileTree.encoded f.text with
  | ok _ => exact ⟨by rw [hf.path_eq], f, hf, by rwa [hf.path_eq]⟩
  | error failure => trivial

/-- Every call leaves what holds and what is known. -/
theorem since_of_step {e₀ : Engine} {tree₀ : FileTree} {x y : Ran Stage}
    (h : Stage.Step output r a x y) (hsince : Since e₀ tree₀ r x.engine x.tree)
    (hknown : Known output r a x) :
    Since e₀ tree₀ r y.engine y.tree ∧ Known output r a y ∧
      ∀ b stage, Known output r b ⟨stage, x.engine, x.tree⟩ →
        Known output r b ⟨stage, y.engine, y.tree⟩ := by
  cases h with
  | rendered hrender =>
      obtain ⟨template, hload, hf⟩ := render_eq_ok hrender
      obtain ⟨hlookup, -, hkept, -⟩ := load_eq_ok hload
      refine ⟨hsince.load hload, ⟨template, hlookup, hf⟩, fun b stage hb => ?_⟩
      exact hb.mono hkept (.refl (D := fun _ => False) (W := fun _ => False) _)
        fun _ _ _ _ hl => absurd hl id
  | unrendered hrender =>
      rw [render_eq_error hrender]
      exact ⟨hsince, trivial, fun _ _ => id⟩
  | asked hadvance =>
      have hgrown := FileTree.Making.grown_of_advance (W := fun _ => False) hadvance
      refine ⟨{ hsince with grown := hsince.grown.trans (hgrown.mono (fun _ _ => trivial)
        fun _ => False.elim) }, hknown, fun b stage hb => ?_⟩
      exact hb.mono (fun _ _ => id) hgrown fun _ _ _ _ hl => absurd hl id
  | made => exact ⟨hsince, hknown, fun _ _ => id⟩
  | obstructed => exact ⟨hsince, trivial, fun _ _ => id⟩
  | @opened e tree tree' f hover =>
      have hf : Remembers e r a f := hknown
      rw [hf.path_eq] at hover
      obtain ⟨hgrown, hcontent⟩ := FileTree.grown_of_overwrite (D := fun _ => True) hover
      refine ⟨{ hsince with grown := hsince.grown.trans (hgrown.mono (fun _ => id) fun l hl =>
        ⟨a, ending_suffix_of_locate hl⟩) }, known_stored hf hcontent, fun b stage hb => ?_⟩
      refine hb.mono (fun _ _ => id) hgrown fun g l hg hlocate hl => ?_
      -- Only the kind itself writes to its file, and it would write the same.
      obtain rfl := eq_of_locate_eq hlocate hl
      rwa [hg.unique hf]
  | unwritten => exact ⟨hsince, trivial, fun _ _ => id⟩

/-- What holds and what is known at every point of every run. -/
theorem since_of_steps {e₀ : Engine} {tree₀ : FileTree} {x y : Ran Stages}
    (h : Steps output r x y)
    (hx : Since e₀ tree₀ r x.engine x.tree ∧
      ∀ k ∈ x.outcome, Known output r k.1 ⟨k.2, x.engine, x.tree⟩) :
    Since e₀ tree₀ r y.engine y.tree ∧
      ∀ k ∈ y.outcome, Known output r k.1 ⟨k.2, y.engine, y.tree⟩ :=
  invariant_of_steps (Since e₀ tree₀ r) since_of_step h hx

/-- A kind has opened its file and left it with the text that the engine renders, as far as that can
be encoded. -/
structure Opened (output : Path) (r : Request) (a : Artifact) (f : Artifact.Rendered)
    (x : Ran Stages) : Prop where
  mem : (a, .finished (Stage.stored output f)) ∈ x.outcome
  remembers : Remembers x.engine r a f
  content : x.tree.content (output.join f.path) = .ok (Text.utf8 f.text)

/-- A file that has been opened stays as it was left. -/
theorem Opened.of_step {x y : Ran Stages} {f : Artifact.Rendered} (h : Opened output r a f x)
    (hstep : Step output r x y)
    (hknown : ∀ k ∈ x.outcome, Known output r k.1 ⟨k.2, x.engine, x.tree⟩) :
    Opened output r a f y := by
  have hfinished := mem_of_steps (.single hstep) h.mem
  cases hstep with
  | @mk before after b u v hcall =>
      obtain ⟨-, -, hothers⟩ := since_of_step hcall (.refl u.engine u.tree r)
        (hknown (b, u.outcome) (by simp))
      have hremembers := h.remembers.kept hcall.kept
      -- What is known of a file that was written is true of every file that was opened.
      obtain ⟨-, g, hg, hcontent⟩ := hothers a (.finished (.ok (output.join (a.path r))))
        ⟨rfl, f, h.remembers, by rw [← h.remembers.path_eq]; exact h.content⟩
      obtain rfl := hg.unique hremembers
      exact ⟨hfinished, hremembers, by rw [hremembers.path_eq]; exact hcontent⟩

/-- **Nothing else happens to the tree**: in any run directories become new where nothing was, and
files only where they were opened. -/
theorem grown_of_steps {x y : Ran Stages} (h : Steps output r x y)
    (hknown : ∀ k ∈ x.outcome, Known output r k.1 ⟨k.2, x.engine, x.tree⟩) :
    FileTree.Grown (fun _ => True)
      (fun l => ∃ a f, Opened output r a f y ∧ y.tree.locate (output.join f.path) = .ok l)
      x.tree y.tree := by
  induction h with
  | refl => exact .refl _
  | @tail y z hsteps hstep ih =>
      have hthere := (since_of_steps hsteps ⟨.refl x.engine x.tree r, hknown⟩).2
      cases hstep with
      | @mk before after b u v hcall =>
          have hgrown := hcall.grown
          refine (ih.mono (fun _ => id) ?_).trans (hgrown.mono (fun _ => id) ?_)
          · rintro l ⟨a, f, hopened, hl⟩
            exact ⟨a, f, hopened.of_step (.mk hcall) hthere, hgrown.locate hl⟩
          · rintro l ⟨f, hwriting, hstored, hl, hcontent⟩
            have hf : Known output r b u := hthere (b, u.outcome) (by simp)
            rw [Known, hwriting] at hf
            exact ⟨b, f, ⟨by simp [hstored], Remembers.kept hf hcall.kept, hcontent⟩, hl⟩

/-- The place of a file that was written in the end. -/
def IsTarget (ran : Ran Outcomes) (l : Location) : Prop :=
  ∃ a p, (a, .ok p) ∈ ran.outcome ∧ ran.tree.locate p = .ok l

/-- The place of a file that was opened in vain: the engine renders a text for it that cannot be
encoded, and the file is left empty. -/
def IsEmptied (output : Path) (r : Request) (ran : Ran Outcomes) (l : Location) : Prop :=
  ∃ a f error, (∀ later, (ran.engine.render later a r).1 = .ok f) ∧
    Text.encodeError? f.text = some error ∧
    (a, .error (.file (.unencodable error))) ∈ ran.outcome ∧
    ran.tree.locate (output.join f.path) = .ok l ∧
    ran.tree.content (output.join f.path) = .ok []

/-- A file that was opened is written or left empty. -/
theorem Opened.isTarget_or_isEmptied {ran : Ran Outcomes} {f : Artifact.Rendered} {l : Location}
    (h : Opened output r a f ⟨finished ran.outcome, ran.engine, ran.tree⟩)
    (hl : ran.tree.locate (output.join f.path) = .ok l) :
    IsTarget ran l ∨ IsEmptied output r ran l := by
  have hmem := mem_finished_iff.1 h.mem
  have hcontent := h.content
  unfold Stage.stored FileTree.encoded at hmem
  cases herror : Text.encodeError? f.text with
  | none =>
      rw [herror] at hmem
      exact .inl ⟨a, _, hmem, hl⟩
  | some error =>
      rw [herror] at hmem
      rw [Text.utf8, herror] at hcontent
      exact .inr ⟨a, f, error, h.remembers.render_eq, herror, hmem, hl, hcontent⟩

theorem Ends.grown {as : List Artifact} {ran : Ran Outcomes} (h : Ends e tree output r as ran) :
    FileTree.Grown (fun _ => True) (fun l => IsTarget ran l ∨ IsEmptied output r ran l) tree
      ran.tree := by
  have hgrown := grown_of_steps h fun k hk => by
    obtain ⟨a, -, rfl⟩ := List.mem_map.1 hk
    trivial
  refine hgrown.mono (fun _ => id) ?_
  rintro l ⟨a, f, hopened, hl⟩
  exact hopened.isTarget_or_isEmptied hl

/-- The templates that an engine remembers consist of characters. -/
def IsUnicode (e : Engine) : Prop :=
  ∀ k text, e.loaded.lookup k = some text → text.isUnicode = true

theorem IsUnicode.load {l : Language} {text : Text} (h : e.IsUnicode)
    (hload : e.load tree a l = (.ok text, e')) : e'.IsUnicode := by
  unfold Engine.load at hload
  split at hload
  · cases hload
    exact h
  · split at hload
    · rename_i hread
      cases hload
      intro k text' hk
      by_cases hkey : k = (a, l)
      · subst hkey
        obtain rfl : text = text' := by simpa using hk
        exact TemplateSource.isUnicode_of_read hread
      · exact h k text' (by simpa [List.lookup_cons, beq_eq_false_iff_ne.2 hkey] using hk)
    · cases hload

theorem Stage.Step.isUnicode {x y : Ran Stage} (h : Stage.Step output r a x y)
    (hx : x.engine.IsUnicode) : y.engine.IsUnicode := by
  cases h with
  | rendered hrender =>
      obtain ⟨template, hload, -⟩ := render_eq_ok hrender
      exact hx.load hload
  | unrendered hrender => rwa [render_eq_error hrender]
  | asked | made | obstructed | opened | unwritten => exact hx

/-- What is rendered for a request of characters can be encoded. -/
theorem isUnicode_of_render {f : Artifact.Rendered} (he : e.IsUnicode) (hr : r.isUnicode = true)
    (h : e.render tree a r = (.ok f, e')) : f.text.isUnicode = true := by
  obtain ⟨template, hload, rfl⟩ := render_eq_ok h
  exact Artifact.isUnicode_render hr (he.load hload _ _ (load_eq_ok hload).1) a

/-- Where the request consists of characters no file is opened in vain. -/
theorem Ends.not_isEmptied {as : List Artifact} {ran : Ran Outcomes} {l : Location}
    (h : Ends e tree output r as ran) (he : e.IsUnicode) (hr : r.isUnicode = true) :
    ¬ IsEmptied output r ran l := by
  rintro ⟨a, f, error, hrender, herror, -⟩
  have hran : ran.engine.IsUnicode := (h.invariant (fun e _ => e.IsUnicode) (fun _ _ => True)
    (fun hstep hx _ => ⟨hstep.isUnicode hx, trivial, fun _ _ => id⟩) he fun _ _ => trivial).1
  rcases heq : ran.engine.render tree a r with ⟨result, e'⟩
  have hresult : result = .ok f := by rw [← hrender tree, heq]
  subst hresult
  have hunicode := isUnicode_of_render hran hr heq
  rw [← Text.encodeError?_eq_none_iff, herror] at hunicode
  cases hunicode

/-! ## Reports -/

/-- What `generate` makes of the outcomes of a run. -/
def conclude (ran : Ran Outcomes) : Ran (Except Failure Report) :=
  match severe? ran.outcome with
  | some failure => ⟨.error failure, ran.engine, ran.tree⟩
  | none => ⟨.ok (report ran.outcome), ran.engine, ran.tree⟩

theorem conclude_engine (ran : Ran Outcomes) : (conclude ran).engine = ran.engine := by
  unfold conclude
  split <;> rfl

theorem conclude_tree (ran : Ran Outcomes) : (conclude ran).tree = ran.tree := by
  unfold conclude
  split <;> rfl

theorem report_of_conclude {ran : Ran Outcomes} {made : Report}
    (h : (conclude ran).outcome = .ok made) : made = report ran.outcome := by
  unfold conclude at h
  split at h
  · exact absurd h (by simp)
  · exact (Except.ok.inj h).symm

theorem mem_written_iff {outcomes : Outcomes} :
    (a, p) ∈ (report outcomes).written ↔ (a, .ok p) ∈ outcomes := by
  induction outcomes with
  | nil => simp [report]
  | cons k outcomes ih =>
      simp only [report] at ih
      obtain ⟨b, failure | q⟩ := k <;> simp [report, ih]

/-- Every kind that has an outcome is in the report, once for each. -/
theorem perm_report (outcomes : Outcomes) :
    ((report outcomes).written.map Prod.fst ++ (report outcomes).failed.map Prod.fst).Perm
      (outcomes.map Prod.fst) := by
  induction outcomes with
  | nil => exact .refl _
  | cons k outcomes ih =>
      obtain ⟨a, failure | p⟩ := k
      · exact (List.perm_middle.trans (ih.cons a))
      · exact ih.cons a

theorem nodup_artifacts (r : Request) : r.artifacts.Nodup := by
  unfold Request.artifacts
  split <;> decide

/-- A report is one of success exactly when every kind that was asked for was written. -/
theorem success_iff {made : Report} (h : (e.generate tree output r).outcome = .ok made) :
    made.success = true ↔ ∀ a ∈ r.artifacts, a ∈ made.written.map Prod.fst := by
  have hends := ends_generateEach e tree output r r.artifacts
  obtain rfl := report_of_conclude h
  have hperm := perm_report (e.generateEach tree output r r.artifacts).outcome
  rw [hends.map_fst] at hperm
  have hdisjoint := List.nodup_append.1 (hperm.nodup_iff.2 (nodup_artifacts r))
  rw [Report.success, List.isEmpty_iff]
  constructor
  · intro hfailed a ha
    rw [hfailed, List.map_nil, List.append_nil] at hperm
    exact hperm.mem_iff.2 ha
  · intro hwritten
    rw [List.eq_nil_iff_forall_not_mem]
    intro x hx
    have hfailed := List.mem_map_of_mem hx (f := Prod.fst)
    have ha := hperm.mem_iff.1 (List.mem_append_right _ hfailed)
    exact hdisjoint.2.2 _ (hwritten _ ha) _ hfailed rfl

/-- What is known of a kind that was written: where, and that the file holds what the engine renders
now from any tree, which is what it would have rendered at the beginning if it could. -/
theorem content_of_ends {as : List Artifact} {ran : Ran Outcomes}
    (h : Ends e tree output r as ran) (hok : (a, .ok p) ∈ ran.outcome) :
    p = output.join (a.path r) ∧
      ∃ f, (∀ later, (ran.engine.render later a r).1 = .ok f) ∧
        (∀ f', (e.render tree a r).1 = .ok f' → f' = f) ∧
        ran.tree.content p = .ok (Text.utf8 f.text) := by
  obtain ⟨hsince, hknown⟩ := h.invariant (Since e tree r) (Known output r) since_of_step
    (.refl e tree r) fun _ _ => trivial
  obtain ⟨rfl, f, ⟨template, hlookup, rfl⟩, hcontent⟩ := hknown a (.ok p) hok
  refine ⟨rfl, a.render r template, Remembers.render_eq ⟨template, hlookup, rfl⟩, fun f' hf' => ?_,
    hcontent⟩
  -- At the beginning the template may have been out of reach; if not, it was the same.
  · rcases hrender : e.render tree a r with ⟨result, e'⟩
    rw [hrender] at hf'
    obtain rfl : result = .ok f' := hf'
    obtain ⟨template₀, hload, rfl⟩ := render_eq_ok hrender
    rw [hsince.same a template₀ template (by rw [hload]) hlookup]

/-- **What generating does**, as one of the runs and in all of them. Every kind that is asked for
has an outcome, also where another failure than one of the file system is the outcome of the whole;
the report, if there is one, tells the kinds that were written from those that failed. A file that
was written stands where its kind goes and holds what the engine renders, after everything that the
other kinds have done. Apart from these files the tree has only grown by directories, and by files
that were opened for a text that cannot be encoded: these are left empty, whatever was in them.
There are none of them where the request consists of characters. -/
theorem generation_effect (e : Engine) (tree : FileTree) (output : Path) (r : Request) :
    (∃ ran, Ends e tree output r r.artifacts ran ∧ e.generate tree output r = conclude ran) ∧
    ∀ ran, Ends e tree output r r.artifacts ran →
      ran.outcome.map Prod.fst = r.artifacts ∧
      (∀ made, (conclude ran).outcome = .ok made →
        (made.written.map Prod.fst ++ made.failed.map Prod.fst).Perm r.artifacts ∧
        (made.written.map Prod.fst ++ made.failed.map Prod.fst).Nodup ∧
        (made.success = true ↔ made.failed = []) ∧
        ∀ a p, (a, p) ∈ made.written ↔ (a, .ok p) ∈ ran.outcome) ∧
      (∀ a p, (a, .ok p) ∈ ran.outcome →
        p = output.join (a.path r) ∧
        ∃ f, (∀ later, ((conclude ran).engine.render later a r).1 = .ok f) ∧
          (∀ f', (e.render tree a r).1 = .ok f' → f' = f) ∧
          (conclude ran).tree.content p = .ok (Text.utf8 f.text)) ∧
      FileTree.Grown (fun _ => True) (fun l => IsTarget ran l ∨ IsEmptied output r ran l) tree
        (conclude ran).tree ∧
      (e.IsUnicode → r.isUnicode = true →
        FileTree.Grown (fun _ => True) (IsTarget ran) tree (conclude ran).tree) := by
  refine ⟨⟨_, ends_generateEach e tree output r r.artifacts, rfl⟩, fun ran hends => ?_⟩
  refine ⟨hends.map_fst, fun made hmade => ?_, fun a p hok => ?_, ?_, fun he hr => ?_⟩
  · obtain rfl := report_of_conclude hmade
    have hperm := perm_report ran.outcome
    rw [hends.map_fst] at hperm
    exact ⟨hperm, hperm.nodup_iff.2 (nodup_artifacts r), List.isEmpty_iff,
      fun a p => mem_written_iff⟩
  · rw [conclude_engine, conclude_tree]
    exact content_of_ends hends hok
  · rw [conclude_tree]
    exact hends.grown
  · rw [conclude_tree]
    exact hends.grown.mono (fun _ => id) fun l hl => hl.resolve_right (hends.not_isEmptied he hr)

/-- **A file that is not written is not kept either.** A reference may hold half of an escaped pair.
The file of the schema is opened, and so emptied, before its text turns out to have no UTF-8. -/
theorem generation_empties_unwritten_file :
    let r : Request :=
      { model := "Post".text, fields := [⟨"author".text, .objectId [.surrogate 0x4FF], false⟩] }
    let file : Location := ["models".text, "PostModel.js".text]
    let tree : FileTree :=
      { entries := [(file, .file [111, 108, 100]), (["models".text], .directory)] }
    let ran := generate {} tree (.ofText ".".text) r
    ran.outcome.toOption = none ∧ tree.entryAt? file = some (.file [111, 108, 100]) ∧
      ran.tree.entryAt? file = some (.file []) := by
  decide +kernel

end Engine

end Scaffold
