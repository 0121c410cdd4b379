/-
# Scaffold.Proofs.Engine.Repetition -- generating a second time

A request that is generated again right away, with the templates of the library and whatever its
model is called, comes to the same once more: the same files at the same places, the same kinds that
fail, or a failure of the whole where there was one; and the tree is left as the first run left it.

A name with slashes can make the kinds get in each other's way, so that the first run depends on the
order of their calls: one kind may put a file where another wants a directory. What a kind meets
then stays there for good (`Scaffold.Proofs.FileTree.Standing`), and it is all that decides about
the kind the second time. `Stands` says this of every kind at each point of a run, by the tree as it
is and not as it was at the beginning. In the end every kind has its directories as far as they can
be made, and its file if it can be written (`Done`); in such a tree no call of a run changes
anything.

The failure of a kind need not be the same both times. The first run makes a chain of directories up
to a file and fails there; the second finds the file in the middle of the path.
-/

import Mathlib.Data.List.Forall2
import Scaffold.Proofs.Engine.Independence
import Scaffold.Proofs.FileTree.Standing

namespace Scaffold.Engine

open FileTree (Making Grown Writable Respects Complete FailsUnasked)
open FileTree.Making (Valid Speaks)

variable {e e' e₀ : Engine} {tree tree' : FileTree} {output : Path} {r : Request}
variable {a b : Artifact}

/-! ## What stands at each point of a run -/

/-- An engine with the templates of the library that uses the same texts as another. -/
structure Alike (e₀ e : Engine) : Prop where
  source : e.source = .bundled
  template : ∀ a l, e.template a l = e₀.template a l

theorem Alike.file_eq (h : Alike e₀ e) (r : Request) (a : Artifact) : e.file r a = e₀.file r a := by
  rw [file, file, h.template]

/-- The entry of a kind's file once it is written. -/
def entry (e₀ : Engine) (r : Request) (a : Artifact) : Entry :=
  .file (Text.utf8 (e₀.file r a).text)

/-- Whether an outcome is the failure of the whole. -/
def IsSevere (outcome : Except Failure Path) : Prop :=
  ∃ failure, outcome = .error failure ∧ failure.isReported = false

/-- What stands of a kind that is finished: its directories are there as far as they can be made,
its file is there if it can be opened, and the tree tells the outcome, with the text. -/
structure Finished (e₀ : Engine) (output : Path) (r : Request) (a : Artifact)
    (outcome : Except Failure Path) (tree : FileTree) : Prop where
  complete : tree.Complete (target output r a).parent
  stored : tree.Writable (target output r a) →
    tree.entryAt? (tree.landing (target output r a)) = some (e₀.entry r a)
  written : ∀ p, outcome = .ok p ↔ p = target output r a ∧ tree.Writable (target output r a) ∧
    (e₀.file r a).text.isUnicode = true
  severe : IsSevere outcome ↔ tree.FailsUnasked (target output r a) ∨
    (tree.Writable (target output r a) ∧ (e₀.file r a).text.isUnicode = false)

/-- What stands of a kind at each point of a run, by the tree as it is at that point. -/
def Stands (e₀ : Engine) (output : Path) (r : Request) (a : Artifact) (x : Ran Stage) : Prop :=
  match x.outcome with
  | .waiting => True
  | .making f m => f = e₀.file r a ∧ Valid x.tree x.tree (target output r a).parent m ∧
      Speaks (target output r a).parent m
  | .writing f => f = e₀.file r a ∧ Valid x.tree x.tree (target output r a).parent .made
  | .finished outcome => Finished e₀ output r a outcome x.tree

/-- What a call of a kind makes of the tree: directories of its trail, or its file where it can be
written. -/
def GrownBy (e₀ : Engine) (output : Path) (r : Request) (a : Artifact) (tree tree' : FileTree) :
    Prop :=
  Grown (fun l => l ∈ tree.trail (target output r a).parent)
    (fun l => l = tree.landing (target output r a) ∧ tree.Writable (target output r a) ∧
      tree'.entryAt? l = some (e₀.entry r a)) tree tree'

theorem GrownBy.respects (h : GrownBy e₀ output r a tree tree') (b : Artifact) :
    Respects (tree.start (target output r b).parent) tree tree' := by
  rw [start_target_eq tree output r b a]
  exact Grown.respects h

/-- A file that is there is the same after a call of any kind: only its own kind writes to it, and
that writes the same. -/
theorem GrownBy.entry (h : GrownBy e₀ output r a tree tree')
    (hfile : tree.entryAt? (tree.landing (target output r b)) = some (e₀.entry r b)) :
    tree'.entryAt? (tree.landing (target output r b)) = some (e₀.entry r b) := by
  rcases FileTree.Grown.entry h (tree.landing (target output r b)) with
    hsame | ⟨-, hnone, -⟩ | ⟨⟨hlanding, -, hwritten⟩, -, -⟩
  · rw [hsame, hfile]
  · exact absurd (hfile.symm.trans hnone) (by simp)
  · obtain rfl := eq_of_landing_eq hlanding
    exact hwritten

/-- **What stands of a kind stands after a call of any other.** -/
theorem Stands.of_grownBy {stage : Stage} (h : Stands e₀ output r b ⟨stage, e, tree⟩)
    (hgrown : GrownBy e₀ output r a tree tree') (e' : Engine) :
    Stands e₀ output r b ⟨stage, e', tree'⟩ := by
  have hrespects := hgrown.respects b
  have hlanding := Grown.landing hgrown (target output r b)
  cases stage with
  | waiting => trivial
  | making f m => exact ⟨h.1, h.2.1.of_respects hrespects, h.2.2⟩
  | writing f => exact ⟨h.1, h.2.of_respects hrespects⟩
  | finished outcome =>
      obtain ⟨hcomplete, hstored, hwritten, hsevere⟩ := h
      have hwritable : tree'.Writable (target output r b) ↔ tree.Writable (target output r b) :=
        ⟨fun hlater => hlater.of_later hcomplete hrespects, fun hnow =>
          hnow.of_file hcomplete hrespects (hgrown.entry (hstored hnow))⟩
      refine ⟨(hcomplete.of_respects hrespects).1, fun hlater => ?_, ?_, ?_⟩
      · rw [hlanding]
        exact hgrown.entry (hstored (hwritable.1 hlater))
      · exact fun p => (hwritten p).trans (by rw [hwritable])
      · rw [hsevere, hwritable, hcomplete.failsUnasked_iff hrespects]

/-- A kind that fails before its file is open: all is said by whether the file system was asked. -/
theorem finished_of_not_writable {failure : FileFailure}
    (hcomplete : tree.Complete (target output r a).parent)
    (hnot : ¬ tree.Writable (target output r a))
    (hunasked : failure.isRefusal = false ↔ tree.FailsUnasked (target output r a)) :
    Finished e₀ output r a (.error (.file failure)) tree where
  complete := hcomplete
  stored hwritable := absurd hwritable hnot
  written p := by simp [hnot]
  severe := by simp [IsSevere, Failure.isReported, hunasked, hnot]

/-- A kind whose file is open: all is said by whether its text can be encoded. -/
theorem finished_of_writable (hcomplete : tree.Complete (target output r a).parent)
    (hwritable : tree.Writable (target output r a))
    (hstored : tree.entryAt? (tree.landing (target output r a)) = some (e₀.entry r a)) :
    Finished e₀ output r a (Stage.stored output (e₀.file r a)) tree where
  complete := hcomplete
  stored _ := hstored
  written p := by rw [Stage.stored_eq_ok_iff, and_iff_right hwritable]; rfl
  severe := by
    simp only [hwritable.not_failsUnasked, hwritable, false_or, true_and, IsSevere, Stage.stored,
      FileTree.encoded]
    rw [← Bool.not_eq_true, ← Text.encodeError?_eq_none_iff]
    cases Text.encodeError? (e₀.file r a).text <;>
      simp [Failure.isReported, FileFailure.isRefusal]

/-- **One call** of a kind leaves what stands of it. -/
theorem stands_of_step {x y : Ran Stage} (h : Stage.Step output r a x y)
    (halike : Alike e₀ x.engine) (hstands : Stands e₀ output r a x) :
    Alike e₀ y.engine ∧ Stands e₀ output r a y ∧ GrownBy e₀ output r a x.tree y.tree := by
  obtain ⟨before, name, hparts, hup, -⟩ := a.exists_parts_join_path output r
  have hparts : (target output r a).parts = before ++ [name] := hparts
  cases h with
  | @rendered e e' tree f hrender =>
      obtain ⟨e'', hrender', hsource, hsame⟩ := render_of_bundled halike.source tree a r
      obtain ⟨hf, rfl⟩ := Prod.mk.inj (hrender.symm.trans hrender')
      obtain rfl := Except.ok.inj hf
      refine ⟨⟨hsource, fun b l => (hsame b l).trans (halike.template b l)⟩,
        ⟨halike.file_eq r a, ?_, trivial⟩, .refl tree⟩
      exact FileTree.Making.valid_start tree tree (target output r a).parent
  | @unrendered e e' tree failure hrender =>
      obtain ⟨e'', hrender', -⟩ := render_of_bundled halike.source tree a r
      exact absurd (Prod.mk.inj (hrender.symm.trans hrender')).1 (by simp)
  | @asked e tree tree' f m m' hadvance =>
      obtain ⟨rfl, hvalid, hspeaks⟩ := hstands
      obtain ⟨hvalid', hgrown⟩ := hvalid.of_advance hadvance
      exact ⟨halike, ⟨rfl, hvalid', FileTree.Making.speaks_of_advance hvalid hspeaks hadvance⟩,
        hgrown.mono (fun _ => id) fun _ => False.elim⟩
  | made => exact ⟨halike, ⟨hstands.1, hstands.2.1⟩, .refl _⟩
  | @obstructed e tree f failure =>
      obtain ⟨-, ⟨hopen, htrail⟩, hspeaks⟩ := hstands
      refine ⟨halike, finished_of_not_writable htrail (fun hwritable => ?_) ?_, .refl tree⟩
      · exact absurd (hopen.symm.trans hwritable.2.1) (by decide)
      · rw [FileTree.failsUnasked_iff_of_not_isOpen hopen]
        exact hspeaks
  | @opened e tree tree' f hover =>
      obtain ⟨rfl, hvalid⟩ := hstands
      have hover : tree.overwrite (target output r a) (Text.utf8 (e₀.file r a).text) =
          .ok tree' := hover
      obtain ⟨hwritable, hgrown, hfile⟩ :=
        hvalid.writable_of_overwrite (.refl tree) hparts hup hover
      have hgrown : GrownBy e₀ output r a tree tree' :=
        hgrown.mono (fun _ => False.elim) fun l hl => ⟨hl, hwritable, hl ▸ hfile⟩
      have hrespects := hgrown.respects a
      have hcomplete := (Complete.of_made hvalid).2
      refine ⟨halike, finished_of_writable (hcomplete.of_respects hrespects).1
        (hwritable.of_file hcomplete hrespects hfile) ?_, hgrown⟩
      rw [Grown.landing hgrown]
      exact hfile
  | @unwritten e tree f failure hover =>
      obtain ⟨rfl, hvalid⟩ := hstands
      have hover : tree.overwrite (target output r a) (Text.utf8 (e₀.file r a).text) =
          .error failure := hover
      obtain ⟨hopen, hcomplete⟩ := Complete.of_made hvalid
      refine ⟨halike, finished_of_not_writable hcomplete
        (hvalid.not_writable_of_overwrite (.refl tree) hparts hup hover .inl) ?_, .refl tree⟩
      rw [FileTree.failsUnasked_iff_of_isOpen hopen]
      exact FileTree.withheld_iff_of_overwrite hover

/-! ## The first run -/

/-- A tree in which a kind has nothing left to do: its directories are there as far as they can be
made, and its file is there if it can be written. -/
def Done (e₀ : Engine) (output : Path) (r : Request) (tree : FileTree) (a : Artifact) : Prop :=
  tree.Complete (target output r a).parent ∧
    (tree.Writable (target output r a) →
      tree.entryAt? (tree.landing (target output r a)) = some (e₀.entry r a))

theorem Finished.done {outcome : Except Failure Path}
    (h : Finished e₀ output r a outcome tree) : Done e₀ output r tree a :=
  ⟨h.complete, h.stored⟩

/-- A run ends with what stands of every kind. -/
theorem stands_of_ends {as : List Artifact} {ran : Ran Outcomes} (halike : Alike e₀ e)
    (h : Ends e tree output r as ran) :
    Alike e₀ ran.engine ∧ ∀ a outcome, (a, outcome) ∈ ran.outcome →
      Finished e₀ output r a outcome ran.tree := by
  refine h.invariant (fun e _ => Alike e₀ e) (Stands e₀ output r) ?_ halike fun _ _ => trivial
  intro a x y hstep hworld hknown
  obtain ⟨hworld', hknown', hgrown⟩ := stands_of_step hstep hworld hknown
  exact ⟨hworld', hknown', fun b stage hb => hb.of_grownBy hgrown y.engine⟩

/-! ## The second run -/

/-- The same tree, as far as one can see. -/
abbrev Same (tree tree' : FileTree) : Prop :=
  Grown (fun _ => False) (fun _ => False) tree tree'

theorem Same.entryAt? (h : Same tree tree') (l : Location) : tree'.entryAt? l = tree.entryAt? l :=
  (FileTree.Grown.entry h l).elim id fun hnew => hnew.elim (·.1.elim) (·.1.elim)

theorem Same.respects (h : Same tree tree') (s : Location) : Respects s tree tree' :=
  h.mono (fun _ => False.elim) fun _ => False.elim

theorem Same.writable_iff (h : Same tree tree') {p : Path} (hcomplete : tree.Complete p.parent) :
    tree'.Writable p ↔ tree.Writable p := by
  have hback : Same tree' tree := ⟨h.workingDirectory.symm, fun l => .inl (h.entryAt? l).symm⟩
  refine ⟨fun hwritable => hwritable.of_later hcomplete (h.respects _), fun hwritable => ?_⟩
  exact hwritable.of_later (hcomplete.of_respects (h.respects _)).1 (hback.respects _)

theorem Done.of_same (hdone : Done e₀ output r tree a) (h : Same tree tree') :
    Done e₀ output r tree' a := by
  obtain ⟨hcomplete, hfile⟩ := hdone
  refine ⟨(hcomplete.of_respects (h.respects _)).1, fun hwritable => ?_⟩
  rw [Grown.landing h, h.entryAt?, hfile ((h.writable_iff hcomplete).1 hwritable)]

/-- Where a kind has nothing left to do its calls change nothing. -/
theorem GrownBy.same (h : GrownBy e₀ output r a tree tree') (hdone : Done e₀ output r tree a) :
    Same tree tree' where
  workingDirectory := FileTree.Grown.workingDirectory h
  entry l := by
    rcases FileTree.Grown.entry h l with
      hsame | ⟨htrail, hnone, -⟩ | ⟨⟨rfl, hwritable, hfile⟩, -, -⟩
    · exact .inl hsame
    · exact absurd ((hdone.1 l htrail).symm.trans hnone) (by simp)
    · exact .inl (hfile.trans (hdone.2 hwritable).symm)

/-- **Where nothing is left to do a run changes nothing.** -/
theorem same_of_ends {as : List Artifact} {ran : Ran Outcomes} (halike : Alike e₀ e)
    (hdone : ∀ a ∈ as, Done e₀ output r tree a) (h : Ends e tree output r as ran) :
    Same tree ran.tree := by
  have hinvariant := h.invariant (fun e tree' => Alike e₀ e ∧ Same tree tree')
    (fun a x => a ∈ as ∧ Stands e₀ output r a x) ?_ ⟨halike, .refl tree⟩
    fun a ha => ⟨ha, trivial⟩
  · exact hinvariant.1.2
  · intro a x y hstep hworld hknown
    obtain ⟨halike', hstands, hgrown⟩ := stands_of_step hstep hworld.1 hknown.2
    have hsame := hgrown.same ((hdone a hknown.1).of_same hworld.2)
    exact ⟨⟨halike', hworld.2.trans hsame⟩, ⟨hknown.1, hstands⟩,
      fun b stage hb => ⟨hb.1, hb.2.of_grownBy hgrown y.engine⟩⟩

/-! ## Reports -/

/-- The same kind with the same success, or with failures that are reported alike. -/
structure Agrees (k k' : Artifact × Except Failure Path) : Prop where
  kind : k.1 = k'.1
  written : ∀ p, k.2 = .ok p ↔ k'.2 = .ok p
  severe : IsSevere k.2 ↔ IsSevere k'.2

/-- Kinds that agree were both written to the same place, or both failed. -/
theorem Agrees.cases {k k' : Artifact × Except Failure Path} (h : Agrees k k') :
    (∃ a p, k = (a, .ok p) ∧ k' = (a, .ok p)) ∨
      ∃ a failure failure', k = (a, .error failure) ∧ k' = (a, .error failure') := by
  obtain ⟨a, outcome⟩ := k
  obtain ⟨a', outcome'⟩ := k'
  obtain ⟨hkind, hwritten, -⟩ := h
  obtain rfl : a = a' := hkind
  cases outcome with
  | ok p =>
      obtain rfl : outcome' = .ok p := (hwritten p).1 rfl
      exact .inl ⟨a, p, rfl, rfl⟩
  | error failure =>
      cases outcome' with
      | ok p => exact absurd ((hwritten p).2 rfl) (by simp)
      | error failure' => exact .inr ⟨a, failure, failure', rfl, rfl⟩

theorem severe?_eq_none_iff {outcomes : Outcomes} :
    severe? outcomes = none ↔ ∀ k ∈ outcomes, ¬ IsSevere k.2 := by
  unfold severe? IsSevere
  rw [List.findSome?_eq_none_iff]
  refine forall₂_congr fun k _ => ?_
  obtain ⟨a, failure | p⟩ := k
  · cases failure.isReported <;> simp
  · simp

/-- Outcomes that agree are reported alike. -/
theorem report_of_agrees {outcomes outcomes' : Outcomes}
    (h : List.Forall₂ Agrees outcomes outcomes') :
    (report outcomes').written = (report outcomes).written ∧
      (report outcomes').failed.map Prod.fst = (report outcomes).failed.map Prod.fst ∧
      (severe? outcomes' = none ↔ severe? outcomes = none) := by
  rw [severe?_eq_none_iff, severe?_eq_none_iff]
  induction h with
  | nil => exact ⟨rfl, rfl, Iff.rfl⟩
  | @cons k k' _ _ hagrees _ ih =>
      obtain ⟨hwritten, hfailed, hsevere⟩ := ih
      simp only [report] at hwritten hfailed
      rw [List.forall_mem_cons, List.forall_mem_cons, hsevere, hagrees.severe]
      refine ⟨?_, ?_, Iff.rfl⟩ <;>
        obtain ⟨a, p, rfl, rfl⟩ | ⟨a, failure, failure', rfl, rfl⟩ := hagrees.cases <;>
        simp [report, hwritten, hfailed]

/-! ## Both runs -/

/-- What stands of a kind in the same tree tells the same of both outcomes. -/
theorem agrees_of_finished {outcome outcome' : Except Failure Path}
    (h : Finished e₀ output r a outcome tree) (h' : Finished e₀ output r a outcome' tree')
    (hsame : Same tree tree') : Agrees (a, outcome) (a, outcome') := by
  have hwritable := hsame.writable_iff h.complete
  have hunasked := h.complete.failsUnasked_iff (hsame.respects _)
  refine ⟨rfl, fun p => ?_, ?_⟩
  · rw [h.written, h'.written, hwritable]
  · rw [h.severe, h'.severe, hwritable, hunasked]

/-- A run that comes to the same as the one before it. -/
structure Repeats (first second : Ran (Except Failure Report)) : Prop where
  workingDirectory : second.tree.workingDirectory = first.tree.workingDirectory
  entryAt? : ∀ l, second.tree.entryAt? l = first.tree.entryAt? l
  raised : ∀ failure, first.outcome = .error failure →
    ∃ failure', second.outcome = .error failure'
  reported : ∀ made, first.outcome = .ok made →
    ∃ made', second.outcome = .ok made' ∧ made'.written = made.written ∧
      made'.failed.map Prod.fst = made.failed.map Prod.fst

theorem conclude_eq_ok_iff {ran : Ran Outcomes} {made : Report} :
    (conclude ran).outcome = .ok made ↔ severe? ran.outcome = none ∧ report ran.outcome = made := by
  unfold conclude
  cases severe? ran.outcome <;> simp

theorem exists_conclude_eq_error_iff {ran : Ran Outcomes} :
    (∃ failure, (conclude ran).outcome = .error failure) ↔ severe? ran.outcome ≠ none := by
  unfold conclude
  cases severe? ran.outcome <;> simp

theorem repeats_of_agrees {ran again : Ran Outcomes}
    (h : List.Forall₂ Agrees ran.outcome again.outcome) (hsame : Same ran.tree again.tree) :
    Repeats (conclude ran) (conclude again) := by
  obtain ⟨hwritten, hfailed, hsevere⟩ := report_of_agrees h
  refine ⟨?_, fun l => ?_, fun failure hfailure => ?_, fun made hmade => ?_⟩
  · rw [conclude_tree, conclude_tree, hsame.workingDirectory]
  · rw [conclude_tree, conclude_tree, hsame.entryAt?]
  · rw [exists_conclude_eq_error_iff, Ne, hsevere]
    exact exists_conclude_eq_error_iff.1 ⟨failure, hfailure⟩
  · obtain ⟨hnone, rfl⟩ := conclude_eq_ok_iff.1 hmade
    exact ⟨_, conclude_eq_ok_iff.2 ⟨hsevere.2 hnone, rfl⟩, hwritten, hfailed⟩

/-- A run right after another one comes to the same, in whatever order the calls of each are. -/
theorem repeats_of_ends {ran again : Ran Outcomes} {as : List Artifact}
    (hsource : e.source = .bundled) (h : Ends e tree output r as ran)
    (h' : Ends ran.engine ran.tree output r as again) :
    Repeats (conclude ran) (conclude again) := by
  obtain ⟨halike, hstands⟩ := stands_of_ends ⟨hsource, fun _ _ => rfl⟩ h
  obtain ⟨-, hstands'⟩ := stands_of_ends halike h'
  have hdone : ∀ a ∈ as, Done e output r ran.tree a := by
    intro a ha
    rw [← h.map_fst] at ha
    obtain ⟨⟨b, outcome⟩, hmem, rfl⟩ := List.mem_map.1 ha
    exact (hstands b outcome hmem).done
  have hsame : Same ran.tree again.tree := same_of_ends halike hdone h'
  have hkinds : List.Forall₂ (fun k k' => k.1 = k'.1) ran.outcome again.outcome := by
    have hequal : List.Forall₂ Eq (ran.outcome.map Prod.fst) (again.outcome.map Prod.fst) := by
      rw [h.map_fst, h'.map_fst, List.forall₂_eq_eq_eq]
    rwa [List.forall₂_map_left_iff, List.forall₂_map_right_iff] at hequal
  refine repeats_of_agrees (List.forall₂_iff_zip.2 ⟨hkinds.length_eq, ?_⟩) hsame
  rintro ⟨a, outcome⟩ ⟨a', outcome'⟩ hmem
  obtain rfl : a = a' := (List.forall₂_iff_zip.1 hkinds).2 hmem
  obtain ⟨hmem, hmem'⟩ := List.of_mem_zip hmem
  exact agrees_of_finished (hstands a outcome hmem) (hstands' a outcome' hmem') hsame

/-- **Generating twice is generating once**, for every tree and every model's name: the second run
writes the same files, fails for the same kinds or as a whole where the first did, and leaves the
tree as it found it. That is so of `generate`, and of any two runs one after the other, however the
calls of the kinds follow each other in each of them. -/
theorem generation_repeats (e : Engine) (tree : FileTree) (output : Path) (r : Request)
    (hsource : e.source = .bundled) :
    Repeats (e.generate tree output r)
        ((e.generate tree output r).engine.generate (e.generate tree output r).tree output r) ∧
      ∀ ran again, Ends e tree output r r.artifacts ran →
        Ends ran.engine ran.tree output r r.artifacts again →
          Repeats (conclude ran) (conclude again) := by
  refine ⟨?_, fun ran again h h' => repeats_of_ends hsource h h'⟩
  set ran := e.generateEach tree output r r.artifacts with hran
  have hfirst : e.generate tree output r = conclude ran := rfl
  rw [hfirst, conclude_engine, conclude_tree]
  exact repeats_of_ends hsource (ends_generateEach e tree output r r.artifacts)
    (ends_generateEach ran.engine ran.tree output r r.artifacts)

/-- A name that leads the model's file to where the router wants a directory: the router fails, and
it fails again. -/
theorem generation_repeats_of_crossing_name :
    let r : Request := { model := "xModel.js/../../routes/x".text, withRest := true }
    let output : Path := .ofText "out".text
    let first := generate {} {} output r
    let second := first.engine.generate first.tree output r
    ({} : Engine).source = .bundled ∧
      (∃ made, first.outcome = .ok made ∧ made.written.map Prod.fst = [.model, .controller]) ∧
      ∃ made, second.outcome = .ok made ∧ made.written.map Prod.fst = [.model, .controller] ∧
        made.failed.map Prod.fst = [.router] := by
  have hkinds : (generate {} {} (.ofText "out".text)
      { model := "xModel.js/../../routes/x".text, withRest := true }).outcome.toOption.map
        (fun made => (made.written.map Prod.fst, made.failed.map Prod.fst)) =
      some ([.model, .controller], [.router]) := by decide +kernel
  intro r output first second
  have hvalue : generate {} {} (.ofText "out".text)
      { model := "xModel.js/../../routes/x".text, withRest := true } = first := rfl
  rw [hvalue] at hkinds
  have hrepeats : Repeats first second := (generation_repeats {} {} output r rfl).1
  -- From here on the runs are any two of which this is known: nothing computes them again.
  clear_value second first
  cases hfirst : first.outcome with
  | error failure =>
      rw [hfirst] at hkinds
      cases hkinds
  | ok made =>
      rw [hfirst] at hkinds
      obtain ⟨hwritten, hfailed⟩ := Prod.mk.inj (Option.some.inj hkinds)
      obtain ⟨made', hsecond, hwritten', hfailed'⟩ := hrepeats.reported made hfirst
      exact ⟨rfl, ⟨made, rfl, hwritten⟩, made', hsecond, hwritten' ▸ hwritten,
        hfailed'.trans hfailed⟩

end Scaffold.Engine
