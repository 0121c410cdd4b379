/-
# Scaffold.Proofs.FileTree.Writing -- what writing files does to a tree

A file is written in three stages, and each can fail: the directories of its path are made, as far
as that goes, then the file is opened in the last of them, and then the text is encoded into it. Up
to the opening nothing is lost: a call that fails before it changes nothing but that directories
have become new on the way to the file (`Writes.grown`), and whether it comes that far can be told
from the tree before (`Opens`). The opening makes the file or empties it, so a call that fails after
it, for a text that cannot be encoded, leaves an empty file (`failed_write_empties_file`).

Of a sequence of such calls each may fail by itself. What is on the way of one call can be the file
of another, and two paths can lead to the same file, so the paths of a sequence are compared by
where they lead in the end. Where a path leads does not change any more once it leads anywhere, and
so every path holds what the last call on it that opened the file left there (`writing_effect`).
-/

import Scaffold.Proofs.FileTree.Chain

namespace Scaffold.Path

/-- A path that ends in a name: it has parts, and the last of them does not lead up. -/
def EndsInName (p : Path) : Prop := ∃ before name, p.parts = before ++ [name] ∧ name ≠ up

end Scaffold.Path

namespace Scaffold.FileTree

open Making (Keeps Step Undisturbed Valid first keeps_of_advance steps_ensureDirectory valid_start)

variable {t t' : FileTree} {l : Location} {p : Path} {content : Bytes} {text : Text}

/-! ## Making directories -/

namespace Making

/-- What is new after some calls is where parts of the path lead. -/
theorem grown_of_steps {W : Location → Prop} {x y : Making × FileTree}
    (h : Relation.ReflTransGen (Step p) x y) :
    Grown (fun l => ∃ n, y.2.locate (first p n) = .ok l) W x.2 y.2 := by
  induction h with
  | refl => exact .refl _
  | tail _ hstep ih =>
      have hgrown := grown_of_advance (W := W) hstep
      refine (ih.mono ?_ fun _ => id).trans hgrown
      rintro l ⟨n, hlocate⟩
      exact ⟨n, hgrown.locate hlocate⟩

/-- Directories of the trail disturb nobody. -/
theorem undisturbed_of_grown (h : Grown (fun l => l ∈ t.trail p) (fun _ => False) t t') :
    Undisturbed t t' p :=
  h.mono (fun _ hl => not_isBarred_of_mem_trail hl) fun _ => False.elim

/-- What is known after calls without interference. -/
theorem keeps_of_steps {m : Making} {y : Making × FileTree}
    (h : Relation.ReflTransGen (Step p) (m, t) y) (hvalid : Valid t t p m) : Keeps t t p y := by
  induction h with
  | refl => exact ⟨hvalid, .refl t⟩
  | tail _ hstep ih =>
      obtain ⟨hvalid, hgrown⟩ := ih
      obtain ⟨hvalid', hgrown'⟩ := keeps_of_advance (undisturbed_of_grown hgrown) hvalid hstep
      exact ⟨hvalid', hgrown.trans hgrown'⟩

end Making

/-- **Making the directories of a path**, as the tree before tells: they are all made if the path is
open and else as far as its trail goes. -/
theorem keeps_ensureDirectory (t : FileTree) (p : Path) :
    Keeps t t p (match (t.ensureDirectory p).outcome with
      | .ok _ => .made
      | .error failure => .failed failure,
      (t.ensureDirectory p).tree) :=
  Making.keeps_of_steps (steps_ensureDirectory t p) (valid_start t t p)

/-! ## Opening a file -/

/-- Whether the file at a path can be opened, as the tree before tells. -/
def Opens (t : FileTree) (p : Path) : Prop := p.EndsInName ∧ t.Writable p

/-- A location on the way to a file: some of the parts of its directory's path lead there. -/
def OnWay (t : FileTree) (p : Path) (l : Location) : Prop :=
  ∃ n, t.locate (first p.parent n) = .ok l

theorem OnWay.grown {D W : Location → Prop} (h : Grown D W t t') (hl : t.OnWay p l) :
    t'.OnWay p l := by
  obtain ⟨n, hlocate⟩ := hl
  exact ⟨n, h.locate hlocate⟩

namespace Writes

variable {changed : Changed Unit}

/-- **One call**: directories are new on the way to the file alone, and the content is put where its
path leads if the call succeeds, and nowhere else. -/
theorem grown (h : Writes t p content changed) :
    Grown (changed.tree.OnWay p)
      (fun l => changed.outcome = .ok () ∧ changed.tree.locate p = .ok l) t changed.tree := by
  have hmade {W : Location → Prop} : Grown ((t.ensureDirectory p.parent).tree.OnWay p) W t
      (t.ensureDirectory p.parent).tree :=
    Making.grown_of_steps (steps_ensureDirectory t p.parent)
  cases h with
  | obstructed hmake => exact hmade
  | unwritten hmake hover => exact hmade
  | written hmake hover =>
      obtain ⟨hover', -⟩ := grown_of_overwrite (D := fun _ => False) hover
      refine (hmade.mono (fun l hl => hl.grown hover') fun _ => id).trans ?_
      exact hover'.mono (fun _ => False.elim) fun l hl => ⟨rfl, hl⟩

/-- A content that has been put into a file can be read. -/
theorem content_eq_ok (h : Writes t p content changed) (hok : changed.outcome = .ok ()) :
    changed.tree.content p = .ok content := by
  cases h with
  | obstructed hmake => simp at hok
  | unwritten hmake hover => simp at hok
  | written hmake hover => exact (grown_of_overwrite (D := fun _ => False) hover).2

/-- **Which calls succeed** can be told from the tree before. -/
theorem outcome_eq_ok_iff (h : Writes t p content changed) :
    changed.outcome = .ok () ↔ t.Opens p := by
  have hkeeps := keeps_ensureDirectory t p.parent
  cases h with
  | obstructed hmake =>
      rw [hmake] at hkeeps
      obtain ⟨hopen, -⟩ := hkeeps.1.of_failed
      refine iff_of_false (by simp) ?_
      rintro ⟨-, -, hopen', -⟩
      exact absurd (hopen.symm.trans hopen') (by decide)
  | unwritten hmake hover =>
      rw [hmake] at hkeeps
      obtain ⟨hvalid, hgrown⟩ := hkeeps
      refine iff_of_false (by simp) ?_
      rintro ⟨⟨before, name, hparts, hup⟩, hwritable⟩
      refine hvalid.not_writable_of_overwrite ?_ hparts hup hover (fun hdir => ?_) hwritable
      · exact Making.undisturbed_of_grown hgrown
      · rcases hgrown.entry (t.landing p) with hsame | ⟨htrail, -, -⟩ | ⟨hfalse, -, -⟩
        · exact .inl (hsame ▸ hdir)
        · exact .inr htrail
        · exact hfalse.elim
  | written hmake hover =>
      rw [hmake] at hkeeps
      obtain ⟨hvalid, hgrown⟩ := hkeeps
      obtain ⟨l, name, htarget, -, -⟩ := overwrite_eq_ok_iff.1 hover
      obtain ⟨-, before, hparts, -, hup, -⟩ := target_eq_ok_iff.1 htarget
      refine iff_of_true rfl ⟨⟨before, name, hparts, hup⟩, ?_⟩
      exact (hvalid.writable_of_overwrite (Making.undisturbed_of_grown hgrown) hparts hup hover).1

end Writes

/-! ## Writing a text -/

theorem tree_writeFile (t : FileTree) (p : Path) (text : Text) :
    (t.writeFile p text).tree = (t.putFile p (Text.utf8 text)).tree := by
  simp only [writeFile]
  split <;> rfl

/-- Where the file is opened, the encoding decides. -/
theorem outcome_writeFile_of_opens (h : t.Opens p) :
    (t.writeFile p text).outcome = encoded text := by
  have hput := (writes_putFile t p (Text.utf8 text)).outcome_eq_ok_iff.2 h
  simp only [writeFile, hput]

theorem outcome_writeFile_eq_ok_iff :
    (t.writeFile p text).outcome = .ok () ↔ t.Opens p ∧ text.isUnicode = true := by
  by_cases h : t.Opens p
  · rw [outcome_writeFile_of_opens h, encoded_eq_ok_iff, and_iff_right h]
  · refine iff_of_false (fun hok => h ?_) fun hok => h hok.1
    refine (writes_putFile t p (Text.utf8 text)).outcome_eq_ok_iff.1 ?_
    simp only [writeFile] at hok
    split at hok
    · simp at hok
    · assumption

/-- **One call** changes nothing but that directories become new on the way to the file, and the
file where it is opened. -/
theorem grown_writeFile (t : FileTree) (p : Path) (text : Text) :
    Grown ((t.writeFile p text).tree.OnWay p)
      (fun l => t.Opens p ∧ (t.writeFile p text).tree.locate p = .ok l) t
      (t.writeFile p text).tree := by
  have hwrites := writes_putFile t p (Text.utf8 text)
  rw [tree_writeFile]
  exact hwrites.grown.mono (fun _ => id) fun l hl => ⟨hwrites.outcome_eq_ok_iff.1 hl.1, hl.2⟩

/-- An opened file holds the text, or nothing where the text cannot be encoded. -/
theorem content_writeFile (h : t.Opens p) :
    (t.writeFile p text).tree.content p = .ok (Text.utf8 text) := by
  have hwrites := writes_putFile t p (Text.utf8 text)
  rw [tree_writeFile]
  exact hwrites.content_eq_ok (hwrites.outcome_eq_ok_iff.2 h)

/-! ## Writing files one after another -/

/-- A file to be written. -/
structure Writing where
  path : Path
  content : Text

/-- What has come of writing files: the calls that opened their file and those that succeeded, each
in their order, and the tree. -/
structure Written where
  opened : List Writing
  done : List Writing
  tree : FileTree

/-- Writes files one after another, whatever comes of each. -/
def writeAll (t : FileTree) : List Writing → Written
  | [] => ⟨[], [], t⟩
  | w :: ws =>
    let opened := t.putFile w.path (Text.utf8 w.content)
    let changed := t.writeFile w.path w.content
    let rest := writeAll changed.tree ws
    { opened := if opened.outcome = .ok () then w :: rest.opened else rest.opened
      done := if changed.outcome = .ok () then w :: rest.done else rest.done
      tree := rest.tree }

/-- The last of some calls that lead where a path leads. -/
def lastOn? (t : FileTree) (p : Path) (ws : List Writing) : Option Writing :=
  ws.reverse.find? fun w => t.locate w.path = t.locate p

variable {w : Writing} {ws : List Writing}

theorem tree_writeAll_cons :
    (t.writeAll (w :: ws)).tree = ((t.writeFile w.path w.content).tree.writeAll ws).tree := rfl

theorem opened_writeAll_cons_of_opens (h : t.Opens w.path) :
    (t.writeAll (w :: ws)).opened =
      w :: ((t.writeFile w.path w.content).tree.writeAll ws).opened :=
  if_pos ((writes_putFile t w.path _).outcome_eq_ok_iff.2 h)

theorem opened_writeAll_cons_of_not_opens (h : ¬ t.Opens w.path) :
    (t.writeAll (w :: ws)).opened =
      ((t.writeFile w.path w.content).tree.writeAll ws).opened :=
  if_neg (mt (writes_putFile t w.path _).outcome_eq_ok_iff.1 h)

theorem opened_writeAll_subset_cons :
    ((t.writeFile w.path w.content).tree.writeAll ws).opened ⊆ (t.writeAll (w :: ws)).opened := by
  by_cases h : t.Opens w.path
  · rw [opened_writeAll_cons_of_opens h]
    exact List.subset_cons_self _ _
  · rw [opened_writeAll_cons_of_not_opens h]
    exact List.Subset.refl _

/-- The calls that succeed are those of the opened files whose text can be encoded. -/
theorem done_writeAll (t : FileTree) (ws : List Writing) :
    (t.writeAll ws).done = (t.writeAll ws).opened.filter fun w => w.content.isUnicode := by
  induction ws generalizing t with
  | nil => rfl
  | cons w ws ih =>
      have hdone : (t.writeAll (w :: ws)).done = if (t.writeFile w.path w.content).outcome = .ok ()
          then w :: ((t.writeFile w.path w.content).tree.writeAll ws).done
          else ((t.writeFile w.path w.content).tree.writeAll ws).done := rfl
      rw [hdone, ih]
      by_cases h : t.Opens w.path
      · rw [opened_writeAll_cons_of_opens h, List.filter_cons]
        simp only [outcome_writeFile_eq_ok_iff, h, true_and]
      · rw [opened_writeAll_cons_of_not_opens h,
          if_neg (mt (fun hok => (outcome_writeFile_eq_ok_iff.1 hok).1) h)]

/-- **All calls**: directories are new on the way to files alone, and files have changed only where
they were opened. -/
theorem grown_writeAll (t : FileTree) (ws : List Writing) :
    Grown (fun l => ∃ w ∈ ws, (t.writeAll ws).tree.OnWay w.path l)
      (fun l => ∃ w ∈ (t.writeAll ws).opened, (t.writeAll ws).tree.locate w.path = .ok l)
      t (t.writeAll ws).tree := by
  induction ws generalizing t with
  | nil => exact .refl t
  | cons w ws ih =>
      have hrest := ih (t.writeFile w.path w.content).tree
      rw [tree_writeAll_cons]
      refine ((grown_writeFile t w.path w.content).mono ?_ ?_).trans (hrest.mono ?_ ?_)
      · exact fun l hl => ⟨w, List.mem_cons_self, hl.grown hrest⟩
      · rintro l ⟨hopens, hl⟩
        rw [opened_writeAll_cons_of_opens hopens]
        exact ⟨w, List.mem_cons_self, hrest.locate hl⟩
      · rintro l ⟨v, hv, hl⟩
        exact ⟨v, List.mem_cons_of_mem w hv, hl⟩
      · rintro l ⟨v, hv, hl⟩
        exact ⟨v, opened_writeAll_subset_cons hv, hl⟩

theorem lastOn?_cons (t : FileTree) (p : Path) (w : Writing) (ws : List Writing) :
    t.lastOn? p (w :: ws) =
      (t.lastOn? p ws).or (if t.locate w.path = t.locate p then some w else none) := by
  rw [lastOn?, lastOn?, List.reverse_cons, List.find?_append]
  congr 1
  by_cases h : t.locate w.path = t.locate p <;> simp [h]

theorem locate_ne_of_lastOn?_eq_none (h : t.lastOn? p ws = none) (hw : w ∈ ws) :
    t.locate w.path ≠ t.locate p := by
  have hfind := List.find?_eq_none.1 h w (List.mem_reverse.2 hw)
  simpa using hfind

/-- What a path holds is what is held where it leads. -/
theorem content_of_locate_eq {q : Path} (h : t.locate q = t.locate p)
    (hcontent : t.content q = .ok content) : t.content p = .ok content := by
  obtain ⟨l, hlocate, hfile⟩ := content_eq_ok_iff.1 hcontent
  exact content_eq_ok_iff.2 ⟨l, h ▸ hlocate, hfile⟩

/-- Calls that lead elsewhere leave what a path holds. -/
theorem content_writeAll_of_lastOn?_eq_none (hcontent : t.content p = .ok content)
    (h : (t.writeAll ws).tree.lastOn? p (t.writeAll ws).opened = none) :
    (t.writeAll ws).tree.content p = .ok content := by
  refine (grown_writeAll t ws).content hcontent ?_
  rintro l hl ⟨w, hw, hlocate⟩
  have hp := (grown_writeAll t ws).locate hl
  exact locate_ne_of_lastOn?_eq_none h hw (hlocate.trans hp.symm)

/-- **The last call wins.** -/
theorem content_writeAll_of_lastOn?
    (h : (t.writeAll ws).tree.lastOn? p (t.writeAll ws).opened = some w) :
    (t.writeAll ws).tree.content p = .ok (Text.utf8 w.content) := by
  induction ws generalizing t with
  | nil => simp [writeAll, lastOn?] at h
  | cons v ws ih =>
      rw [tree_writeAll_cons] at h ⊢
      by_cases hopens : t.Opens v.path
      · rw [opened_writeAll_cons_of_opens hopens, lastOn?_cons] at h
        cases hlater : ((t.writeFile v.path v.content).tree.writeAll ws).tree.lastOn? p
            ((t.writeFile v.path v.content).tree.writeAll ws).opened with
        | some later =>
            rw [hlater, Option.some_or] at h
            exact ih (hlater.trans h)
        -- The first call is the last one on the path, and the others lead elsewhere.
        | none =>
            rw [hlater, Option.none_or] at h
            split at h
            · rename_i hsame
              obtain rfl := Option.some.inj h
              refine content_of_locate_eq hsame ?_
              refine content_writeAll_of_lastOn?_eq_none (content_writeFile hopens) ?_
              rwa [lastOn?, hsame]
            · simp at h
      · rw [opened_writeAll_cons_of_not_opens hopens] at h
        exact ih h

/-- **What writing files does.** Whether a file is opened can be told from the tree before, and a
call succeeds exactly where it is opened and the text can be encoded. An opened file can be read at
its path, where it holds the text; apart from it nothing has changed but that directories have
become new on the way to it. If the text cannot be encoded, that is the failure and the file is
empty. If the file is not opened, whatever is in the way, directories on the way are all that can be
new. After any calls, some of which may have failed, a path holds what the last call on it that
opened it left there, or else what it held before, and nothing has changed but the opened files and
directories on the way. Those of the opened files whose text can be encoded are written. -/
theorem writing_effect (t : FileTree) :
    (∀ p content,
      let changed := t.writeFile p content
      (changed.outcome = .ok () ↔ t.Opens p ∧ content.isUnicode = true) ∧
      (t.Opens p → changed.tree.content p = .ok (Text.utf8 content) ∧
        Grown (changed.tree.OnWay p) (fun l => changed.tree.locate p = .ok l) t changed.tree) ∧
      (t.Opens p → ∀ error, Text.encodeError? content = some error →
        changed.outcome = .error (.unencodable error) ∧ changed.tree.content p = .ok []) ∧
      (¬ t.Opens p → Grown (changed.tree.OnWay p) (fun _ => False) t changed.tree)) ∧
    ∀ ws,
      let ran := t.writeAll ws
      ran.done = ran.opened.filter (fun w => w.content.isUnicode) ∧
      (∀ p, match ran.tree.lastOn? p ran.opened with
        | some w => ran.tree.content p = .ok (Text.utf8 w.content)
        | none => ∀ content, t.content p = .ok content → ran.tree.content p = .ok content) ∧
      Grown (fun l => ∃ w ∈ ws, ran.tree.OnWay w.path l)
        (fun l => ∃ w ∈ ran.opened, ran.tree.locate w.path = .ok l) t ran.tree := by
  refine ⟨fun p content => ?_, fun ws => ⟨done_writeAll t ws, fun p => ?_, grown_writeAll t ws⟩⟩
  · have hgrown := grown_writeFile t p content
    refine ⟨outcome_writeFile_eq_ok_iff, fun hopens => ⟨content_writeFile hopens, ?_⟩,
      fun hopens error herror => ⟨?_, ?_⟩, fun hclosed => ?_⟩
    · exact hgrown.mono (fun _ => id) fun l hl => hl.2
    · rw [outcome_writeFile_of_opens hopens, encoded, herror]
    · rw [content_writeFile hopens, Text.utf8, herror]
    · exact hgrown.mono (fun _ => id) fun l hl => hclosed hl.1
  · split
    · exact content_writeAll_of_lastOn? ‹_›
    · exact fun content hcontent => content_writeAll_of_lastOn?_eq_none hcontent ‹_›

/-- **A failed call can change a file**: the opening has emptied it before the text turns out to
have no UTF-8. -/
theorem failed_write_empties_file :
    let tree : FileTree := { entries := [(["f".text], .file [111, 108, 100])] }
    let changed := tree.writeFile (.ofText "f".text) [.surrogate 0x4FF]
    changed.outcome.toOption = none ∧ tree.content (.ofText "f".text) = .ok [111, 108, 100] ∧
      changed.tree.content (.ofText "f".text) = .ok [] := by
  decide +kernel

/-- The second path leads to the same file as the first, once its directory has been made. -/
example :
    let ran := writeAll {} [⟨.ofText "f".text, "one".text⟩, ⟨.ofText "a/../f".text, "two".text⟩]
    ran.tree.content (.ofText "f".text) = .ok (Text.utf8 "two".text) := by
  decide +kernel

end Scaffold.FileTree
