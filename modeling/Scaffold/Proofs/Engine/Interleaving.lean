/-
# Scaffold.Proofs.Engine.Interleaving -- files generated side by side

`Engine.generate` tries one kind of file after another. Nothing forces a program to wait: the kinds
can be rendered, their directories made and their files written in any order, a call of the file
system at a time. `Stage` is how far one kind has come, a `Step` lets one kind do its next call, and
`Ends` says what can have become of all kinds and of the tree when nothing is left to do.

Trying one kind after another is one of these runs (`ends_generateEach`), so what is proved of all
runs is true of `Engine.generate`. No run goes on for ever, and none gets stuck before every kind
has an outcome (`exists_ends`).

A call is atomic, the writing of a file included; reading a template is one call.
-/

import Scaffold.Engine
import Scaffold.Proofs.FileTree.Chain

namespace Scaffold.Engine

open FileTree (Making)

/-! ## One call at a time -/

/-- How far the generating of one kind of file has come. -/
inductive Stage where
  /-- Nothing has been done. -/
  | waiting
  /-- The file is rendered, and its directories are being made. -/
  | making (f : Artifact.Rendered) (m : Making)
  /-- The directories are there, and the file will be written. -/
  | writing (f : Artifact.Rendered)
  /-- There is nothing left to do. -/
  | finished (outcome : Except Failure Path)

/-- The kinds of file with how far each has come. -/
abbrev Stages := List (Artifact × Stage)

namespace Stage

/-- The directory of a rendered file. -/
def directory (output : Path) (f : Artifact.Rendered) : Path := (output.join f.path).parent

/-- What comes of a rendered file that could be opened. -/
def stored (output : Path) (f : Artifact.Rendered) : Except Failure Path :=
  match FileTree.encoded f.text with
  | .ok _ => .ok (output.join f.path)
  | .error failure => .error (.file failure)

theorem stored_eq_ok_iff {output p : Path} {f : Artifact.Rendered} :
    stored output f = .ok p ↔ p = output.join f.path ∧ f.text.isUnicode = true := by
  rw [← FileTree.encoded_eq_ok_iff, stored]
  cases FileTree.encoded f.text with
  | ok _ => simp [eq_comm]
  | error failure => simp

/-- The next call of a kind, with what it makes of the engine and the tree. -/
inductive Step (output : Path) (r : Request) (a : Artifact) : Ran Stage → Ran Stage → Prop
  | rendered {e e' : Engine} {tree : FileTree} {f : Artifact.Rendered}
      (h : e.render tree a r = (.ok f, e')) :
      Step output r a ⟨waiting, e, tree⟩
        ⟨making f (.descending (directory output f).parts.length), e', tree⟩
  | unrendered {e e' : Engine} {tree : FileTree} {failure : Failure}
      (h : e.render tree a r = (.error failure, e')) :
      Step output r a ⟨waiting, e, tree⟩ ⟨finished (.error failure), e', tree⟩
  | asked {e : Engine} {tree tree' : FileTree} {f : Artifact.Rendered} {m m' : Making}
      (h : m.advance tree (directory output f) = some (m', tree')) :
      Step output r a ⟨making f m, e, tree⟩ ⟨making f m', e, tree'⟩
  | made {e : Engine} {tree : FileTree} {f : Artifact.Rendered} :
      Step output r a ⟨making f .made, e, tree⟩ ⟨writing f, e, tree⟩
  | obstructed {e : Engine} {tree : FileTree} {f : Artifact.Rendered} {failure : FileFailure} :
      Step output r a ⟨making f (.failed failure), e, tree⟩
        ⟨finished (.error (.file failure)), e, tree⟩
  | opened {e : Engine} {tree tree' : FileTree} {f : Artifact.Rendered}
      (h : tree.overwrite (output.join f.path) (Text.utf8 f.text) = .ok tree') :
      Step output r a ⟨writing f, e, tree⟩ ⟨finished (stored output f), e, tree'⟩
  | unwritten {e : Engine} {tree : FileTree} {f : Artifact.Rendered} {failure : FileFailure}
      (h : tree.overwrite (output.join f.path) (Text.utf8 f.text) = .error failure) :
      Step output r a ⟨writing f, e, tree⟩ ⟨finished (.error (.file failure)), e, tree⟩

end Stage

/-- One of the kinds does its next call. -/
inductive Step (output : Path) (r : Request) : Ran Stages → Ran Stages → Prop
  | mk {before after : Stages} {a : Artifact} {x y : Ran Stage} (h : Stage.Step output r a x y) :
      Step output r ⟨before ++ (a, x.outcome) :: after, x.engine, x.tree⟩
        ⟨before ++ (a, y.outcome) :: after, y.engine, y.tree⟩

/-- Calls of any kinds in any order. -/
abbrev Steps (output : Path) (r : Request) : Ran Stages → Ran Stages → Prop :=
  Relation.ReflTransGen (Step output r)

/-- The kinds with nothing done. -/
def waiting (as : List Artifact) : Stages := as.map fun a => (a, .waiting)

/-- The kinds with nothing left to do. -/
def finished (outcomes : Outcomes) : Stages := outcomes.map fun x => (x.1, .finished x.2)

theorem mem_finished_iff {outcomes : Outcomes} {a : Artifact} {outcome : Except Failure Path} :
    (a, .finished outcome) ∈ finished outcomes ↔ (a, outcome) ∈ outcomes := by
  simp [finished]

/-- What can have become of the given kinds of file of a request once all of them are finished, the
engine and the tree included. -/
def Ends (e : Engine) (tree : FileTree) (output : Path) (r : Request) (as : List Artifact)
    (ran : Ran Outcomes) : Prop :=
  Steps output r ⟨waiting as, e, tree⟩ ⟨finished ran.outcome, ran.engine, ran.tree⟩

variable {output : Path} {r : Request} {a : Artifact} {e : Engine} {tree : FileTree}

/-! ## One kind after another -/

/-- The calls of one kind, among others that do nothing. -/
theorem steps_of_stage (before after : Stages) {x y : Ran Stage}
    (h : Relation.ReflTransGen (Stage.Step output r a) x y) :
    Steps output r ⟨before ++ (a, x.outcome) :: after, x.engine, x.tree⟩
      ⟨before ++ (a, y.outcome) :: after, y.engine, y.tree⟩ :=
  Relation.ReflTransGen.lift
    (fun x : Ran Stage => (⟨before ++ (a, x.outcome) :: after, x.engine, x.tree⟩ : Ran Stages))
    (fun _ _ => Step.mk) _ _ h

/-- The calls that make a chain of directories are calls of the kind. -/
theorem stage_steps_making (f : Artifact.Rendered) (e : Engine) {x y : Making × FileTree}
    (h : Relation.ReflTransGen (Making.Step (Stage.directory output f)) x y) :
    Relation.ReflTransGen (Stage.Step output r a) ⟨.making f x.1, e, x.2⟩
      ⟨.making f y.1, e, y.2⟩ := by
  refine Relation.ReflTransGen.lift
    (fun x : Making × FileTree => (⟨.making f x.1, e, x.2⟩ : Ran Stage)) ?_ _ _ h
  rintro ⟨m, tree⟩ ⟨m', tree'⟩ hstep
  exact .asked hstep

/-- A single kind without the others goes the way of `generateOne`. -/
theorem stage_steps_generateOne (e : Engine) (tree : FileTree) (output : Path) (r : Request)
    (a : Artifact) :
    Relation.ReflTransGen (Stage.Step output r a) ⟨.waiting, e, tree⟩
      ⟨.finished (e.generateOne tree output r a).outcome,
        (e.generateOne tree output r a).engine, (e.generateOne tree output r a).tree⟩ := by
  rcases hrender : e.render tree a r with ⟨failure | f, e'⟩
  · have hone : e.generateOne tree output r a = ⟨.error failure, e', tree⟩ := by
      simp only [generateOne, hrender]
    rw [hone]
    exact .single (.unrendered hrender)
  · have hone : e.generateOne tree output r a =
        ⟨(write tree output f).1, e', (write tree output f).2⟩ := by
      simp only [generateOne, hrender]
    have hmaking := stage_steps_making (r := r) (a := a) f e'
      (FileTree.Making.steps_ensureDirectory tree (Stage.directory output f))
    have hwrites := FileTree.writes_putFile tree (output.join f.path) (Text.utf8 f.text)
    rw [hone]
    refine .head (.rendered hrender) (.trans hmaking ?_)
    rcases hopened : tree.putFile (output.join f.path) (Text.utf8 f.text) with ⟨outcome, tree'⟩
    rw [hopened] at hwrites
    simp only [write, FileTree.writeFile, hopened]
    -- The call of `writeFile` is the making of the directories followed by the write.
    cases hwrites with
    | obstructed hmake =>
        rw [Stage.directory, hmake]
        exact .single .obstructed
    | unwritten hmake hover =>
        rw [Stage.directory, hmake]
        exact .head .made (.single (.unwritten hover))
    | written hmake hover =>
        rw [Stage.directory, hmake]
        have hstored := Relation.ReflTransGen.single
          (Stage.Step.opened (r := r) (a := a) (e := e') hover)
        rw [Stage.stored] at hstored
        cases hencoded : FileTree.encoded f.text <;> rw [hencoded] at hstored <;>
          exact .head .made hstored

/-- **One kind after another is one of the runs**: trying the kinds in turn is letting the first do
all its calls, then the second, and so on. -/
theorem ends_generateEach (e : Engine) (tree : FileTree) (output : Path) (r : Request)
    (as : List Artifact) : Ends e tree output r as (e.generateEach tree output r as) := by
  -- The kinds that are finished already are carried along in front.
  have hrun : ∀ (done : Outcomes) (e : Engine) (tree : FileTree),
      Steps output r ⟨finished done ++ waiting as, e, tree⟩
        ⟨finished (done ++ (e.generateEach tree output r as).outcome),
          (e.generateEach tree output r as).engine, (e.generateEach tree output r as).tree⟩ := by
    induction as with
    | nil =>
        intro done e tree
        simp only [generateEach, waiting, List.map_nil, List.append_nil]
        exact .refl
    | cons a as ih =>
        intro done e tree
        have hone := steps_of_stage (finished done) (waiting as)
          (stage_steps_generateOne e tree output r a)
        refine .trans hone ?_
        have hrest := ih (done ++ [(a, (e.generateOne tree output r a).outcome)])
          (e.generateOne tree output r a).engine (e.generateOne tree output r a).tree
        simpa only [finished, List.map_append, List.map_cons, List.map_nil, List.append_assoc,
          List.cons_append, List.nil_append, generateEach] using hrest
  exact hrun [] e tree

/-! ## Every run -/

/-- A property of every point of every run, from what is known of the engine and the tree together
(`World`) and what is known of one kind beside them (`Known`): a call has to establish both again
for the kind that does it, and to leave what is known of every kind. -/
theorem invariant_of_steps (World : Engine → FileTree → Prop) {Known : Artifact → Ran Stage → Prop}
    (hstep : ∀ {a x y}, Stage.Step output r a x y → World x.engine x.tree → Known a x →
      World y.engine y.tree ∧ Known a y ∧
        ∀ b stage, Known b ⟨stage, x.engine, x.tree⟩ → Known b ⟨stage, y.engine, y.tree⟩)
    {x y : Ran Stages} (h : Steps output r x y)
    (hx : World x.engine x.tree ∧ ∀ k ∈ x.outcome, Known k.1 ⟨k.2, x.engine, x.tree⟩) :
    World y.engine y.tree ∧ ∀ k ∈ y.outcome, Known k.1 ⟨k.2, y.engine, y.tree⟩ := by
  induction h with
  | refl => exact hx
  | tail _ hlast ih =>
      cases hlast with
      | @mk before after b u v hcall =>
          obtain ⟨hworld, hknown⟩ := ih
          obtain ⟨hworld', hself, hothers⟩ := hstep hcall hworld (hknown (b, u.outcome) (by simp))
          refine ⟨hworld', fun k hk => ?_⟩
          -- The kinds in front of `b` and behind it have not moved, but the tree under them has.
          rcases List.mem_append.1 hk with hk | hk
          · exact hothers k.1 k.2 (hknown k (by simp [hk]))
          · rcases List.mem_cons.1 hk with rfl | hk
            · exact hself
            · exact hothers k.1 k.2 (hknown k (by simp [hk]))

/-- A kind that is finished does nothing more. -/
theorem Stage.Step.ne_finished {x y : Ran Stage} (h : Stage.Step output r a x y)
    (outcome : Except Failure Path) : x.outcome ≠ .finished outcome := by
  cases h <;> exact Stage.noConfusion

/-- What is finished stays as it is. -/
theorem mem_of_steps {x y : Ran Stages} (h : Steps output r x y) {outcome : Except Failure Path}
    (hx : (a, .finished outcome) ∈ x.outcome) : (a, .finished outcome) ∈ y.outcome := by
  induction h with
  | refl => exact hx
  | tail _ hlast ih =>
      cases hlast with
      | @mk before after b u v hcall =>
          rcases List.mem_append.1 ih with hk | hk
          · exact List.mem_append_left _ hk
          · rcases List.mem_cons.1 hk with hk | hk
            · exact absurd (Prod.mk.inj hk).2.symm (hcall.ne_finished outcome)
            · exact List.mem_append_right _ (List.mem_cons_of_mem _ hk)

/-- The kinds stay the same. -/
theorem map_fst_of_steps {x y : Ran Stages} (h : Steps output r x y) :
    y.outcome.map Prod.fst = x.outcome.map Prod.fst := by
  induction h with
  | refl => rfl
  | tail _ hlast ih =>
      obtain ⟨-⟩ := hlast
      rw [← ih]
      simp

/-- Every kind has an outcome in the end. -/
theorem Ends.map_fst {as : List Artifact} {ran : Ran Outcomes}
    (h : Ends e tree output r as ran) : ran.outcome.map Prod.fst = as := by
  have hkinds := map_fst_of_steps h
  simpa [finished, waiting, Function.comp_def] using hkinds

/-- What is known of every finished kind in the end. -/
theorem Ends.invariant {as : List Artifact} {ran : Ran Outcomes}
    (h : Ends e tree output r as ran) (World : Engine → FileTree → Prop)
    (Known : Artifact → Ran Stage → Prop)
    (hstep : ∀ {a x y}, Stage.Step output r a x y → World x.engine x.tree → Known a x →
      World y.engine y.tree ∧ Known a y ∧
        ∀ b stage, Known b ⟨stage, x.engine, x.tree⟩ → Known b ⟨stage, y.engine, y.tree⟩)
    (hworld : World e tree) (hknown : ∀ a ∈ as, Known a ⟨.waiting, e, tree⟩) :
    World ran.engine ran.tree ∧
      ∀ a outcome, (a, outcome) ∈ ran.outcome →
        Known a ⟨.finished outcome, ran.engine, ran.tree⟩ := by
  obtain ⟨hworld', hknown'⟩ := invariant_of_steps World hstep h ⟨hworld, fun k hk => by
    obtain ⟨a, ha, rfl⟩ := List.mem_map.1 hk
    exact hknown a ha⟩
  refine ⟨hworld', fun a outcome hmem => ?_⟩
  exact hknown' (a, .finished outcome) (mem_finished_iff.2 hmem)

/-! ## Runs end -/

/-- A bound on the number of calls that a kind has left. -/
def Stage.rank (output : Path) (r : Request) (a : Artifact) : Stage → Nat
  | .waiting => 3 * (output.join (a.path r)).parent.parts.length + 6
  | .making f m => m.rank (directory output f).parts.length + 2
  | .writing _ => 1
  | .finished _ => 0

/-- What is rendered goes where its kind goes. -/
theorem path_of_render {tree : FileTree} {e e' : Engine} {f : Artifact.Rendered}
    (h : e.render tree a r = (.ok f, e')) : f.path = a.path r := by
  unfold render at h
  split at h
  · obtain ⟨hf, -⟩ := Prod.mk.inj h
    rw [← Except.ok.inj hf, Artifact.render]
  · exact absurd (Prod.mk.inj h).1 (by simp)

theorem Stage.Step.rank_lt {x y : Ran Stage} (h : Stage.Step output r a x y) :
    y.outcome.rank output r a < x.outcome.rank output r a := by
  cases h with
  | rendered hrender =>
      simp only [rank, Making.rank, directory, path_of_render hrender]
      omega
  | unrendered => exact Nat.succ_pos _
  | asked hadvance => exact Nat.add_lt_add_right (Making.rank_lt_of_advance hadvance) 2
  | made => exact Nat.lt_add_of_pos_left (Nat.succ_pos _)
  | obstructed => exact Nat.succ_pos _
  | opened => exact Nat.succ_pos _
  | unwritten => exact Nat.succ_pos _

/-- A bound on the number of calls that are left to all kinds. -/
def rank (output : Path) (r : Request) (stages : Stages) : Nat :=
  Text.total (stages.map fun k => k.2.rank output r k.1)

/-- As long as a kind is not finished it has a call to do. -/
theorem Stage.exists_step (output : Path) (r : Request) (a : Artifact) (x : Ran Stage) :
    (∃ outcome, x.outcome = .finished outcome) ∨ ∃ y, Stage.Step output r a x y := by
  obtain ⟨stage, e, tree⟩ := x
  cases stage with
  | waiting =>
      rcases hrender : e.render tree a r with ⟨failure | f, e'⟩
      · exact .inr ⟨_, .unrendered hrender⟩
      · exact .inr ⟨_, .rendered hrender⟩
  | making f m =>
      by_cases hmade : m = .made
      · subst hmade
        exact .inr ⟨_, .made⟩
      · by_cases hfailed : ∃ failure, m = .failed failure
        · obtain ⟨failure, rfl⟩ := hfailed
          exact .inr ⟨_, .obstructed⟩
        · obtain ⟨⟨m', tree'⟩, hadvance⟩ := Making.exists_advance hmade (not_exists.1 hfailed) tree
            (directory output f)
          exact .inr ⟨_, .asked hadvance⟩
  | writing f =>
      cases hover : tree.overwrite (output.join f.path) (Text.utf8 f.text) with
      | error failure => exact .inr ⟨_, .unwritten hover⟩
      | ok tree' => exact .inr ⟨_, .opened hover⟩
  | finished outcome => exact .inl ⟨outcome, rfl⟩

/-- Every call is one call less. -/
theorem Step.rank_lt {x y : Ran Stages} (h : Step output r x y) :
    rank output r y.outcome < rank output r x.outcome := by
  cases h with
  | @mk before after a x y hcall =>
      simp only [rank, List.map_append, List.map_cons, Text.total_append, Text.total]
      have := hcall.rank_lt
      omega

/-- **No run goes on for ever.** -/
theorem wellFounded_step (output : Path) (r : Request) :
    WellFounded fun y x => Step output r x y :=
  Subrelation.wf (fun h => Step.rank_lt h)
    (InvImage.wf (fun x : Ran Stages => rank output r x.outcome) Nat.lt_wfRel.wf)

/-- Where a kind is not finished there is a call to do. -/
theorem finished_or_step (output : Path) (r : Request) (x : Ran Stages) :
    (∃ outcomes, x.outcome = finished outcomes) ∨ ∃ y, Step output r x y := by
  obtain ⟨stages, e, tree⟩ := x
  by_cases hall : ∀ k ∈ stages, ∃ outcome, k.2 = Stage.finished outcome
  · refine .inl ?_
    induction stages with
    | nil => exact ⟨[], rfl⟩
    | cons k stages ih =>
        obtain ⟨outcome, hk⟩ := hall k (List.mem_cons_self ..)
        obtain ⟨outcomes, hrest⟩ := ih fun k' hk' => hall k' (List.mem_cons_of_mem _ hk')
        have hrest : stages = finished outcomes := hrest
        refine ⟨(k.1, outcome) :: outcomes, ?_⟩
        rw [hrest, finished, finished, List.map_cons, ← hk]
  · obtain ⟨k, hmem, hk⟩ : ∃ k ∈ stages, ¬ ∃ outcome, k.2 = Stage.finished outcome := by
      simpa using hall
    obtain ⟨before, after, rfl⟩ := List.append_of_mem hmem
    obtain hfinished | ⟨y, hcall⟩ := Stage.exists_step output r k.1 ⟨k.2, e, tree⟩
    · exact absurd hfinished hk
    · exact .inr ⟨_, Step.mk hcall⟩

/-- **Every run can be brought to its end**, whatever has been done so far. -/
theorem exists_ends (output : Path) (r : Request) (x : Ran Stages) :
    ∃ ran : Ran Outcomes, Steps output r x ⟨finished ran.outcome, ran.engine, ran.tree⟩ := by
  induction x using (wellFounded_step output r).induction with
  | _ x ih =>
      obtain ⟨outcomes, hfinished⟩ | ⟨y, hstep⟩ := finished_or_step output r x
      · refine ⟨⟨outcomes, x.engine, x.tree⟩, ?_⟩
        rw [← hfinished]
      · obtain ⟨ran, hrest⟩ := ih y hstep
        exact ⟨ran, .head hstep hrest⟩

end Scaffold.Engine
