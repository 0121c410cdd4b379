/-
# Scaffold.Proofs.Engine.Independence -- kinds of file that do not get in each other's way

With the templates of the library and a model whose name holds no slash, it does not matter in which
order the kinds of file are worked on, nor how their calls are interleaved: the same kinds succeed,
with the same files, and the tree in the end is the same. `independence` compares every run with
each kind by itself and with trying the kinds in their order.

There is no commuting of calls in the proof. What becomes of a kind is told by the tree at the
beginning (`FileTree.Writable`), and what becomes of the tree is told by the kinds (`Settled`), in
the same words for every run and every list of kinds; runs that are settled in the same way agree.

What the kinds owe each other is `mem_trail_of_mem_trail`: the place of a file that can be written
is on no kind's way to its directory. The folders of the kinds are not named like files, and apart
from its own folder every kind makes the same directories as the others.
-/

import Scaffold.Proofs.Engine.Effect

namespace Scaffold.Engine

open FileTree (Making Grown Writable)
open FileTree.Making (Valid Undisturbed)

variable {e : Engine} {tree tree' : FileTree} {output : Path} {r : Request} {a b : Artifact}

/-! ## Where the kinds go -/

/-- Where the file of a kind goes. -/
def target (output : Path) (r : Request) (a : Artifact) : Path := output.join (a.path r)

/-- A model's name without a slash is one part, so a file stands in its kind's folder or its
model's, and nowhere further down. -/
theorem target_of_slash_not_mem (h : chr '/' ∉ r.model) (output : Path) (a : Artifact) :
    ∃ name, name ≠ Path.up ∧ a.ending r.language <:+ name ∧
      target output r a = ⟨output.root, output.parts ++ a.directoryParts r ++ [name]⟩ := by
  have hhead : r.model.head? ≠ some (chr '/') := fun hc => h (List.mem_of_mem_head? hc)
  have hfolders : Artifact.folders r.model = [] := by
    rw [Artifact.folders, Text.split_eq_singleton h]
    rfl
  obtain ⟨last, hup, hpath⟩ := a.path_of_head_ne_slash r hhead
  obtain ⟨before, name, hparts, -, hname⟩ := a.exists_parts_path r
  rw [hfolders, List.nil_append] at hpath
  have hlast : last = name := by
    rw [hpath] at hparts
    exact List.head_eq_of_cons_eq (List.append_inj' hparts rfl).2
  refine ⟨last, hup, hlast ▸ hname, ?_⟩
  rw [target, hpath, Path.join_here, List.append_assoc]

theorem parent_target (h : chr '/' ∉ r.model) (output : Path) (a : Artifact) :
    (target output r a).parent = ⟨output.root, output.parts ++ a.directoryParts r⟩ := by
  obtain ⟨name, -, -, htarget⟩ := target_of_slash_not_mem h output a
  rw [htarget, Path.parent, List.dropLast_concat]

/-- The directories of all kinds start from the same location. -/
theorem start_target (tree : FileTree) (output : Path) (r : Request) (a : Artifact) :
    tree.start (target output r a).parent =
      if r.model.head? = some (chr '/') then [] else tree.start output := by
  have hroot : (target output r a).parent.root =
      if r.model.head? = some (chr '/') then (a.path r).root else output.root := by
    show (target output r a).root = _
    unfold target
    split
    · rename_i hhead
      rw [Path.join_of_root (a.root_path_of_head_eq_slash r hhead)]
    · rename_i hhead
      rw [Path.join, (a.root_path_eq_here_iff r).2 hhead]
  rw [FileTree.start, hroot]
  split
  · rename_i hhead
    exact if_neg (a.root_path_of_head_eq_slash r hhead)
  · rfl

theorem start_target_eq (tree : FileTree) (output : Path) (r : Request) (a b : Artifact) :
    tree.start (target output r a).parent = tree.start (target output r b).parent := by
  rw [start_target, start_target]

/-- Whatever the model's name, the place of a file shows its kind. -/
theorem landing_target (tree : FileTree) (output : Path) (r : Request) (a : Artifact) :
    ∃ above name, tree.landing (target output r a) = above ++ [name] ∧
      a.ending r.language <:+ name := by
  obtain ⟨before, name, hparts, hup, hname⟩ := a.exists_parts_join_path output r
  exact ⟨_, name, FileTree.landing_of_parts hparts hup, hname⟩

theorem eq_of_landing_eq
    (heq : tree.landing (target output r a) = tree.landing (target output r b)) : a = b := by
  obtain ⟨above, name, ha, hname⟩ := landing_target tree output r a
  obtain ⟨above', name', hb, hname'⟩ := landing_target tree output r b
  rw [ha, hb] at heq
  rw [← List.head_eq_of_cons_eq (List.append_inj' heq rfl).2] at hname'
  exact Artifact.eq_of_ending_suffix hname hname'

/-- The folder of a kind is not named like a file. -/
theorem not_ending_suffix_folder (a b : Artifact) (l : Language) : ¬ a.ending l <:+ b.folder := by
  cases a <;> cases b <;> cases l <;> decide

/-- **What the kinds owe each other**: a file whose place is on the way of another kind to its
directory is on its own way too. -/
theorem mem_trail_of_mem_trail (h : chr '/' ∉ r.model)
    (hfault : FileTree.pathFault? (target output r a) = none)
    (hmem : tree.landing (target output r a) ∈ tree.trail (target output r b).parent) :
    tree.landing (target output r a) ∈ tree.trail (target output r a).parent := by
  cases hlayout : r.layout with
  | byModule =>
      have hsame : a.directoryParts r = b.directoryParts r := by
        simp only [Artifact.directoryParts, hlayout]
      rwa [parent_target h, hsame, ← parent_target h output b]
  | byType =>
      have hparts : ∀ c : Artifact,
          (target output r c).parent.parts = output.parts ++ [c.folder] := by
        intro c
        rw [parent_target h]
        simp only [Artifact.directoryParts, hlayout]
      have hfaulta := FileTree.Making.pathFault?_parent hfault
      have hfaultb : FileTree.pathFault? (target output r b).parent = none := by
        by_contra hne
        simp [FileTree.trail, hne] at hmem
      rw [FileTree.trail_of_pathFault?_eq_none hfaultb, hparts, start_target_eq tree output r b a]
        at hmem
      rw [FileTree.trail_of_pathFault?_eq_none hfaulta, hparts]
      rcases FileTree.mem_trailFrom_concat hmem with hbefore | hfolder
      · exact FileTree.trailFrom_subset_append _ _ hbefore
      -- The other kind's folder is the only place that is not on the way of this kind.
      · obtain ⟨above, name, hlanding, hname⟩ := landing_target tree output r a
        have hup : b.folder ≠ Path.up := Artifact.folder_ne_up b
        rw [hlanding, FileTree.onward_of_ne hup] at hfolder
        rw [List.head_eq_of_cons_eq (List.append_inj' hfolder rfl).2] at hname
        exact absurd hname (not_ending_suffix_folder a b r.language)

/-! ## Templates of the library -/

/-- The text that an engine with the templates of the library uses for a kind of file. -/
def template (e : Engine) (a : Artifact) (l : Language) : Text :=
  (e.loaded.lookup (a, l)).getD (Template.bundled a l)

/-- The file of a kind, as an engine with the templates of the library renders it. -/
def file (e : Engine) (r : Request) (a : Artifact) : Artifact.Rendered :=
  a.render r (e.template a r.language)

theorem read_bundled (tree : FileTree) (a : Artifact) (l : Language) :
    TemplateSource.bundled.read tree (TemplateSource.fileName a l) =
      .ok (Template.bundled a l) := by
  cases a <;> cases l <;> rfl

/-- Every template of the library can be read, and reading one changes none. -/
theorem load_of_bundled (h : e.source = .bundled) (tree : FileTree) (a : Artifact) (l : Language) :
    ∃ e', e.load tree a l = (.ok (e.template a l), e') ∧ e'.source = .bundled ∧
      ∀ b l', e'.template b l' = e.template b l' := by
  cases hlookup : e.loaded.lookup (a, l) with
  | some text =>
      refine ⟨e, ?_, h, fun _ _ => rfl⟩
      simp only [load, hlookup, template, Option.getD_some]
  | none =>
      refine ⟨{ e with loaded := ((a, l), Template.bundled a l) :: e.loaded }, ?_, h,
        fun b l' => ?_⟩
      · simp only [load, hlookup, h, read_bundled, template, Option.getD_none]
      · by_cases hkey : ((b, l') : Artifact × Language) = (a, l)
        · cases hkey
          simp [template, hlookup]
        · simp [template, List.lookup_cons, beq_eq_false_iff_ne.2 hkey]

theorem render_of_bundled (h : e.source = .bundled) (tree : FileTree) (a : Artifact) (r : Request) :
    ∃ e', e.render tree a r = (.ok (e.file r a), e') ∧ e'.source = .bundled ∧
      ∀ b l, e'.template b l = e.template b l := by
  obtain ⟨e', hload, hsource, hsame⟩ := load_of_bundled h tree a r.language
  exact ⟨e', by simp only [render, hload, file], hsource, hsame⟩

/-! ## What is known on the way -/

/-- What holds of the engine and the tree at every point of a run of some kinds: the templates are
those of the beginning, directories are new only on the trails of the kinds, and files only where
the tree at the beginning lets a kind write its own. -/
structure Meanwhile (e₀ : Engine) (tree₀ : FileTree) (output : Path) (r : Request)
    (as : List Artifact) (e : Engine) (tree : FileTree) : Prop where
  source : e.source = .bundled
  same : ∀ a l, e.template a l = e₀.template a l
  grown : Grown (fun l => ∃ a ∈ as, l ∈ tree₀.trail (target output r a).parent)
    (fun l => ∃ a ∈ as, tree₀.Writable (target output r a) ∧ l = tree₀.landing (target output r a))
    tree₀ tree

/-- Whether a kind succeeds, as the tree at the beginning tells: its file can be written, and its
text can be encoded. -/
def Succeeds (e₀ : Engine) (tree₀ : FileTree) (output : Path) (r : Request) (a : Artifact) : Prop :=
  tree₀.Writable (target output r a) ∧ (e₀.file r a).text.isUnicode = true

/-- What is known of a kind at each point of a run. -/
def Told (e₀ : Engine) (tree₀ : FileTree) (output : Path) (r : Request) (as : List Artifact)
    (a : Artifact) (x : Ran Stage) : Prop :=
  a ∈ as ∧
    match x.outcome with
    | .waiting => True
    | .making f m => f = e₀.file r a ∧ Valid tree₀ x.tree (target output r a).parent m
    | .writing f => f = e₀.file r a ∧ Valid tree₀ x.tree (target output r a).parent .made
    | .finished outcome =>
        (∀ p, outcome = .ok p ↔ p = target output r a ∧ Succeeds e₀ tree₀ output r a) ∧
        (∀ l ∈ tree₀.trail (target output r a).parent, x.tree.entryAt? l = some .directory) ∧
        (tree₀.Writable (target output r a) →
          x.tree.entryAt? (tree₀.landing (target output r a)) =
            some (.file (Text.utf8 (e₀.file r a).text)))

variable {e₀ : Engine} {tree₀ : FileTree} {as : List Artifact}

/-- No kind is disturbed by the others. -/
theorem Meanwhile.undisturbed (h : Meanwhile e₀ tree₀ output r as e tree)
    (hslash : chr '/' ∉ r.model)
    (b : Artifact) : Undisturbed tree₀ tree (target output r b).parent := by
  refine Grown.mono h.grown ?_ ?_
  · rintro l ⟨a, -, hl⟩
    rw [start_target_eq tree₀ output r b a]
    exact FileTree.not_isBarred_of_mem_trail hl
  · rintro l ⟨a, -, hwritable, rfl⟩ hl
    exact hwritable.2.2.2.2 (mem_trail_of_mem_trail hslash hwritable.1 hl)

/-- What is known of a kind stays known while the tree grows, off its file or with its file. -/
theorem Told.mono {stage : Stage} {D W : Location → Prop}
    (h : Told e₀ tree₀ output r as a ⟨stage, e, tree⟩) (hgrown : Grown D W tree tree') {e' : Engine}
    (hown : W (tree₀.landing (target output r a)) →
      tree'.entryAt? (tree₀.landing (target output r a)) =
        some (.file (Text.utf8 (e₀.file r a).text))) :
    Told e₀ tree₀ output r as a ⟨stage, e', tree'⟩ := by
  obtain ⟨hmem, hstage⟩ := h
  refine ⟨hmem, ?_⟩
  cases stage with
  | waiting => trivial
  | making f m => exact ⟨hstage.1, hstage.2.mono hgrown⟩
  | writing f => exact ⟨hstage.1, hstage.2.mono hgrown⟩
  | finished outcome =>
      obtain ⟨hverdict, htrail, hfile⟩ := hstage
      refine ⟨hverdict, fun l hl => hgrown.directory (htrail l hl), fun hwritable => ?_⟩
      by_cases hW : W (tree₀.landing (target output r a))
      · exact hown hW
      · exact hgrown.file (hfile hwritable) hW

/-- What is known of a kind that has failed because its file cannot be written. -/
theorem told_of_not_writable {failure : Failure} (hmem : a ∈ as)
    (hnot : ¬ tree₀.Writable (target output r a))
    (htrail : ∀ l ∈ tree₀.trail (target output r a).parent, tree.entryAt? l = some .directory) :
    Told e₀ tree₀ output r as a ⟨.finished (.error failure), e, tree⟩ :=
  ⟨hmem, fun _ => iff_of_false (by simp) fun h => hnot h.2.1, htrail, fun h => absurd h hnot⟩

/-- Where a kind puts its file, no directory has come to be but what the tree at the beginning
tells. -/
theorem Meanwhile.directory_at_landing (h : Meanwhile e₀ tree₀ output r as e tree)
    (hslash : chr '/' ∉ r.model) (hfault : FileTree.pathFault? (target output r a) = none)
    (hdir : tree.entryAt? (tree₀.landing (target output r a)) = some .directory) :
    tree₀.entryAt? (tree₀.landing (target output r a)) = some .directory ∨
      tree₀.landing (target output r a) ∈ tree₀.trail (target output r a).parent := by
  rcases h.grown.entry (tree₀.landing (target output r a)) with hsame | ⟨⟨b, -, hb⟩, -, -⟩ |
    ⟨-, -, content, hfile⟩
  · exact .inl (hsame ▸ hdir)
  · exact .inr (mem_trail_of_mem_trail hslash hfault hb)
  · exact absurd (hdir.symm.trans hfile) (by simp)

/-- **One call** leaves what holds and what is known of every kind. -/
theorem meanwhile_of_step {x y : Ran Stage} (hslash : chr '/' ∉ r.model)
    (h : Stage.Step output r a x y) (hmeanwhile : Meanwhile e₀ tree₀ output r as x.engine x.tree)
    (htold : Told e₀ tree₀ output r as a x) :
    Meanwhile e₀ tree₀ output r as y.engine y.tree ∧ Told e₀ tree₀ output r as a y ∧
      ∀ b stage, Told e₀ tree₀ output r as b ⟨stage, x.engine, x.tree⟩ →
        Told e₀ tree₀ output r as b ⟨stage, y.engine, y.tree⟩ := by
  obtain ⟨hmem, hstage⟩ := htold
  have hundisturbed := hmeanwhile.undisturbed hslash a
  obtain ⟨name, hup, -, htarget⟩ := target_of_slash_not_mem hslash output a
  have hparts : (target output r a).parts = output.parts ++ a.directoryParts r ++ [name] := by
    rw [htarget]
  cases h with
  | @rendered e e' tree f hrender =>
      obtain ⟨e'', hrender', hsource, hsame⟩ := render_of_bundled hmeanwhile.source tree a r
      obtain ⟨hf, rfl⟩ := Prod.mk.inj (hrender.symm.trans hrender')
      obtain rfl := Except.ok.inj hf
      have hfile : e.file r a = e₀.file r a := by rw [file, file, hmeanwhile.same]
      refine ⟨⟨hsource, fun b l => (hsame b l).trans (hmeanwhile.same b l), hmeanwhile.grown⟩,
        ⟨hmem, hfile, ?_⟩, fun b stage hb => hb⟩
      exact FileTree.Making.valid_start tree₀ tree (target output r a).parent
  | @unrendered e e' tree failure hrender =>
      obtain ⟨e'', hrender', -⟩ := render_of_bundled hmeanwhile.source tree a r
      exact absurd (Prod.mk.inj (hrender.symm.trans hrender')).1 (by simp)
  | @asked e tree tree' f m m' hadvance =>
      obtain ⟨hf, hvalid⟩ := hstage
      obtain rfl := hf
      obtain ⟨hvalid', hgrown⟩ := FileTree.Making.keeps_of_advance hundisturbed hvalid hadvance
      refine ⟨⟨hmeanwhile.source, hmeanwhile.same, hmeanwhile.grown.trans (hgrown.mono
        (fun l hl => ⟨a, hmem, hl⟩) fun _ => False.elim)⟩, ⟨hmem, rfl, hvalid'⟩,
        fun b stage hb => ?_⟩
      exact hb.mono hgrown fun hW => absurd hW id
  | made => exact ⟨hmeanwhile, ⟨hmem, hstage⟩, fun _ _ => id⟩
  | obstructed =>
      obtain ⟨hopen, htrail⟩ := hstage.2.of_failed
      refine ⟨hmeanwhile, told_of_not_writable hmem (fun hwritable => ?_) htrail, fun _ _ => id⟩
      exact absurd (hopen.symm.trans hwritable.2.1) (by decide)
  | @opened e tree tree' f hover =>
      obtain ⟨hf, hvalid⟩ := hstage
      obtain rfl := hf
      have hover :
          tree.overwrite (target output r a) (Text.utf8 (e₀.file r a).text) = .ok tree' := hover
      obtain ⟨hwritable, hgrown, hfile⟩ :=
        hvalid.writable_of_overwrite hundisturbed hparts hup hover
      obtain ⟨-, htrail, -⟩ := hvalid.of_made hundisturbed
      refine ⟨⟨hmeanwhile.source, hmeanwhile.same, hmeanwhile.grown.trans (hgrown.mono
        (fun _ => False.elim) fun l hl => ⟨a, hmem, hwritable, hl⟩)⟩,
        ⟨hmem, fun p => ?_, fun l hl => hgrown.directory (htrail l hl), fun _ => hfile⟩,
        fun b stage hb => hb.mono hgrown fun hW => ?_⟩
      · exact Stage.stored_eq_ok_iff.trans
          (and_congr_right fun _ => ⟨fun h => ⟨hwritable, h⟩, fun h => h.2⟩)
      -- What is written is the file of no other kind.
      · obtain rfl := eq_of_landing_eq hW
        exact hfile
  | @unwritten e tree f failure hover =>
      obtain ⟨hf, hvalid⟩ := hstage
      obtain rfl := hf
      obtain ⟨-, htrail, -⟩ := hvalid.of_made hundisturbed
      refine ⟨hmeanwhile, told_of_not_writable hmem (fun hwritable => ?_) htrail, fun _ _ => id⟩
      exact hvalid.not_writable_of_overwrite hundisturbed hparts hup hover
        (hmeanwhile.directory_at_landing hslash hwritable.1) hwritable

/-! ## What comes of all kinds -/

/-- The tree that comes of some kinds, as the tree at the beginning tells. -/
structure Settled (e₀ : Engine) (tree₀ : FileTree) (output : Path) (r : Request)
    (as : List Artifact) (tree : FileTree) : Prop where
  workingDirectory : tree.workingDirectory = tree₀.workingDirectory
  file : ∀ a ∈ as, tree₀.Writable (target output r a) →
    tree.entryAt? (tree₀.landing (target output r a)) =
      some (.file (Text.utf8 (e₀.file r a).text))
  directory : ∀ a ∈ as, ∀ l ∈ tree₀.trail (target output r a).parent,
    tree.entryAt? l = some .directory
  other : ∀ l, (∀ a ∈ as, tree₀.Writable (target output r a) →
      l ≠ tree₀.landing (target output r a)) →
    (∀ a ∈ as, l ∉ tree₀.trail (target output r a).parent) → tree.entryAt? l = tree₀.entryAt? l

/-- Trees that are settled by the same kinds are the same. -/
theorem Settled.entryAt?_eq {bs : List Artifact} (h : Settled e₀ tree₀ output r as tree)
    (h' : Settled e₀ tree₀ output r bs tree') (hsame : ∀ a, a ∈ as ↔ a ∈ bs) (l : Location) :
    tree.entryAt? l = tree'.entryAt? l := by
  by_cases hfile : ∃ a ∈ as, tree₀.Writable (target output r a) ∧
      l = tree₀.landing (target output r a)
  · obtain ⟨a, ha, hwritable, rfl⟩ := hfile
    rw [h.file a ha hwritable, h'.file a ((hsame a).1 ha) hwritable]
  · by_cases hdir : ∃ a ∈ as, l ∈ tree₀.trail (target output r a).parent
    · obtain ⟨a, ha, hl⟩ := hdir
      rw [h.directory a ha l hl, h'.directory a ((hsame a).1 ha) l hl]
    · rw [h.other l (fun a ha hw hl => hfile ⟨a, ha, hw, hl⟩) fun a ha hl => hdir ⟨a, ha, hl⟩,
        h'.other l (fun a ha hw hl => hfile ⟨a, (hsame a).2 ha, hw, hl⟩)
          fun a ha hl => hdir ⟨a, (hsame a).2 ha, hl⟩]

/-- **Every run is settled as told**: a kind succeeds exactly if the tree at the beginning lets it
write its file and its text can be encoded, and the tree in the end is the one that the kinds
settle. -/
theorem settled_of_ends {ran : Ran Outcomes} (hsource : e.source = .bundled)
    (hslash : chr '/' ∉ r.model) (h : Ends e tree output r as ran) :
    Settled e tree output r as ran.tree ∧
      ∀ a outcome, (a, outcome) ∈ ran.outcome → ∀ p,
        outcome = .ok p ↔ p = target output r a ∧ Succeeds e tree output r a := by
  obtain ⟨hmeanwhile, htold⟩ := h.invariant (Meanwhile e tree output r as)
    (Told e tree output r as) (meanwhile_of_step hslash)
    ⟨hsource, fun _ _ => rfl, .refl tree⟩ fun a ha => ⟨ha, trivial⟩
  have houtcome : ∀ a ∈ as, ∃ outcome, (a, outcome) ∈ ran.outcome := by
    intro a ha
    rw [← h.map_fst] at ha
    obtain ⟨⟨b, outcome⟩, hmem, rfl⟩ := List.mem_map.1 ha
    exact ⟨outcome, hmem⟩
  refine ⟨⟨hmeanwhile.grown.workingDirectory, fun a ha hwritable => ?_, fun a ha l hl => ?_,
    fun l hfile hdir => ?_⟩, fun a outcome hmem => (htold a outcome hmem).2.1⟩
  · obtain ⟨outcome, hmem⟩ := houtcome a ha
    exact (htold a outcome hmem).2.2.2 hwritable
  · obtain ⟨outcome, hmem⟩ := houtcome a ha
    exact (htold a outcome hmem).2.2.1 l hl
  · rcases hmeanwhile.grown.entry l with
      hsame | ⟨⟨a, ha, hl⟩, -, -⟩ | ⟨⟨a, ha, hwritable, hl⟩, -, -⟩
    · exact hsame
    · exact absurd hl (hdir a ha)
    · exact absurd hl (hfile a ha hwritable)

/-- The content of a file that was written is the file as it is rendered at the beginning. -/
theorem content_of_bundled {ran : Ran Outcomes} {p : Path} (hsource : e.source = .bundled)
    (h : Ends e tree output r as ran) (hok : (a, .ok p) ∈ ran.outcome) :
    ran.tree.content p = .ok (Text.utf8 (e.file r a).text) := by
  obtain ⟨-, f, -, hfirst, hcontent⟩ := content_of_ends h hok
  obtain ⟨e', hrender, -⟩ := render_of_bundled hsource tree a r
  rw [hcontent, hfirst (e.file r a) (by rw [hrender])]

/-- **The kinds are independent of each other and of their order.** In every order of the kinds that
a request asks for, and however their calls are interleaved, the kinds that succeed are those that
succeed when they are tried alone on the tree as it was, with the same paths and contents, and the
tree in the end is the one that `generate` leaves. -/
theorem independence (e : Engine) (tree : FileTree) (output : Path) (r : Request)
    {ran : Ran Outcomes} (hsource : e.source = .bundled) (hslash : chr '/' ∉ r.model)
    (has : as.Perm r.artifacts) (h : Ends e tree output r as ran) :
    ran.outcome.map Prod.fst = as ∧
    (∀ a outcome, (a, outcome) ∈ ran.outcome → ∀ p,
      outcome = .ok p ↔ (e.generateOne tree output r a).outcome = .ok p) ∧
    (∀ a p, (a, .ok p) ∈ ran.outcome → ∃ content, ran.tree.content p = .ok content ∧
      (e.generateOne tree output r a).tree.content p = .ok content) ∧
    ran.tree.workingDirectory = (e.generate tree output r).tree.workingDirectory ∧
    ∀ l, ran.tree.entryAt? l = (e.generate tree output r).tree.entryAt? l := by
  obtain ⟨hsettled, hverdict⟩ := settled_of_ends hsource hslash h
  -- A kind alone and the kinds in their order are runs like any other.
  have halone : ∀ a, Ends e tree output r [a] ⟨[(a, (e.generateOne tree output r a).outcome)],
      (e.generateOne tree output r a).engine, (e.generateOne tree output r a).tree⟩ :=
    fun a => ends_generateEach e tree output r [a]
  have hsame : ∀ a outcome, (a, outcome) ∈ ran.outcome → ∀ p,
      outcome = .ok p ↔ (e.generateOne tree output r a).outcome = .ok p := by
    intro a outcome hmem p
    rw [hverdict a outcome hmem p]
    exact ((settled_of_ends hsource hslash (halone a)).2 a _ (List.mem_singleton_self _) p).symm
  obtain ⟨hordered, -⟩ := settled_of_ends hsource hslash
    (ends_generateEach e tree output r r.artifacts)
  have htree : (e.generate tree output r).tree = (e.generateEach tree output r r.artifacts).tree :=
    conclude_tree _
  refine ⟨h.map_fst, hsame, fun a p hok => ?_, ?_, fun l => ?_⟩
  · refine ⟨_, content_of_bundled hsource h hok, ?_⟩
    refine content_of_bundled hsource (halone a) ?_
    rw [(hsame a _ hok p).1 rfl]
    exact List.mem_singleton_self _
  · rw [htree, hsettled.workingDirectory, hordered.workingDirectory]
  · rw [htree]
    exact hsettled.entryAt?_eq hordered (fun a => has.mem_iff) l

/-- A tree in which a file stands where the routers go: the kinds backwards come to the same. -/
theorem independence_of_reversed_kinds :
    let r : Request := { model := "User".text, withRest := true }
    let tree : FileTree := { entries := [(["out".text, "routes".text], .file []),
      (["out".text], .directory)] }
    let output : Path := .ofText "out".text
    let ran := generateEach {} tree output r r.artifacts.reverse
    (chr '/' ∉ r.model ∧ r.artifacts.reverse.Perm r.artifacts ∧
      Ends {} tree output r r.artifacts.reverse ran) ∧
    (∀ a outcome, (a, outcome) ∈ ran.outcome → ∀ p,
      outcome = .ok p ↔ (generateOne {} tree output r a).outcome = .ok p) ∧
    ∀ l, ran.tree.entryAt? l = (generate {} tree output r).tree.entryAt? l := by
  intro r tree output ran
  have hslash : chr '/' ∉ r.model := by decide
  have hreversed : r.artifacts.reverse.Perm r.artifacts := List.reverse_perm r.artifacts
  have hends : Ends {} tree output r r.artifacts.reverse ran :=
    ends_generateEach {} tree output r r.artifacts.reverse
  obtain ⟨-, hsame, -, -, htree⟩ := independence {} tree output r rfl hslash hreversed hends
  exact ⟨⟨hslash, hreversed, hends⟩, hsame, htree⟩

end Scaffold.Engine
