/-
# Scaffold.Proofs.FileTree.Standing -- an obstacle that is met stays one

`Chain` tells what comes of making the directories of a path by the tree at the beginning, and for
that it asks everybody else to keep files off the path. What is said here asks for less and looks at
the tree as it is at each moment. Files may be written anywhere; directories may be made wherever
nothing is barred, which is all that anybody can do who starts from the same place (`Respects`).

Then everything that is known on the way stays known with the tree of the moment in place of the one
at the beginning (`Valid.of_respects`, `Valid.of_advance`), and once all directories of a trail are
there, neither the trail nor the end of it changes any more (`Complete.of_respects`). So whoever
makes the directories of a path a second time meets the same obstacle, or none as before.

Paths that are never handed to the file system are kept apart from all that, those with the
character NUL and those that cannot be encoded: what stops them is no obstacle in the tree, and the
failures that they cause are told from the others (`Withheld`, `Speaks`, `FailsUnasked`).
-/

import Scaffold.Proofs.FileTree.Chain

namespace Scaffold.FileTree

open Making (Valid Blocked Reached Asked Undisturbed first ask after keeps_of_advance)

variable {t t' : FileTree} {s l : Location} {parts : List Text} {p : Path} {n : Nat}

/-! ## What everybody may do -/

/-- Directories have become new only where the way from a starting point is not barred. -/
def Respects (s : Location) (t t' : FileTree) : Prop :=
  Grown (fun l => t.isBarred s l = false) (fun _ => True) t t'

/-- Making directories of a trail respects the point that it starts from. -/
theorem Grown.respects {W : Location → Prop} (h : Grown (fun l => l ∈ t.trail p) W t t') :
    Respects (t.start p) t t' :=
  h.mono (fun _ hl => not_isBarred_of_mem_trail hl) fun _ _ => trivial

theorem isBarred_of_directory (h : t.entryAt? l = some .directory) : t.isBarred s l = false := by
  rw [isBarred, h]

namespace Respects

theorem start (h : Respects s t t') (p : Path) : t'.start p = t.start p := Grown.start h p

/-- What is barred stays barred. -/
theorem isBarred (h : Respects s t t') (hbarred : t.isBarred s l = true) :
    t'.isBarred s l = true := by
  rcases h.entry l with hsame | ⟨hclear, -, -⟩ | ⟨-, -, content, hfile⟩
  · rwa [FileTree.isBarred, hsame]
  · exact absurd (hbarred.symm.trans hclear) (by decide)
  · rw [FileTree.isBarred, hfile]

/-- A trail whose directories are there is the same trail, with the same end. -/
theorem trailFrom_eq (h : Respects s t t')
    (hdir : ∀ q ∈ t.trailFrom s l parts, t'.entryAt? q = some .directory) :
    t'.trailFrom s l parts = t.trailFrom s l parts ∧
      t'.isOpenFrom s l parts = t.isOpenFrom s l parts := by
  induction parts generalizing l with
  | nil =>
      cases hbarred : t.isBarred s l with
      | true => simp [trailFrom, isOpenFrom, hbarred, h.isBarred hbarred]
      | false =>
          have hclear := isBarred_of_directory (s := s) (hdir l (mem_trailFrom_self hbarred []))
          simp [trailFrom, isOpenFrom, hbarred, hclear]
  | cons part parts ih =>
      cases hbarred : t.isBarred s l with
      | true => simp [trailFrom, isOpenFrom, hbarred, h.isBarred hbarred]
      | false =>
          have hclear := isBarred_of_directory (s := s)
            (hdir l (mem_trailFrom_self hbarred (part :: parts)))
          cases hpass : isPassable part with
          | false => simp [trailFrom, isOpenFrom, hbarred, hclear, hpass]
          | true =>
              obtain ⟨htrail, hopen⟩ := ih (l := onward l part) fun q hq =>
                hdir q (by simp [trailFrom, hbarred, hpass, hq])
              simp [trailFrom, isOpenFrom, hbarred, hclear, hpass, htrail, hopen]

theorem trail_eq (h : Respects (t.start p) t t')
    (hdir : ∀ q ∈ t.trail p, t'.entryAt? q = some .directory) :
    t'.trail p = t.trail p ∧ t'.isOpen p = t.isOpen p := by
  by_cases hfault : pathFault? p = none
  · rw [trail_of_pathFault?_eq_none hfault] at hdir
    rw [trail_of_pathFault?_eq_none hfault, trail_of_pathFault?_eq_none hfault,
      isOpen_of_pathFault?_eq_none hfault, isOpen_of_pathFault?_eq_none hfault, h.start]
    exact h.trailFrom_eq hdir
  · simp [trail, isOpen, hfault]

end Respects

/-! ## On the way -/

namespace Making

/-- A path that is blocked as the tree at the beginning tells is blocked as the later one tells. -/
theorem Blocked.anew (hblocked : Blocked t t' p) (h : Respects (t.start p) t t') :
    Blocked t' t' p := by
  obtain ⟨htrail, hopen⟩ := h.trail_eq hblocked.2
  rw [Blocked, htrail, hopen]
  exact hblocked

/-- What is known by the tree at the beginning is known by the later one. -/
theorem Valid.anew {m : Making} (hvalid : Valid t t' p m) (h : Respects (t.start p) t t') :
    Valid t' t' p m := by
  cases m with
  | descending n => exact hvalid
  | climbing n => exact hvalid
  | checking n failure => exact ⟨hvalid.1, hvalid.2.imp_left fun hblocked => hblocked.anew h⟩
  | made => exact hvalid
  | failed failure => exact Blocked.anew hvalid h

/-- **What others do leaves what is known.** -/
theorem Valid.of_respects {m : Making} (hvalid : Valid t t p m) (h : Respects (t.start p) t t') :
    Valid t' t' p m :=
  (hvalid.mono h).anew h

/-- **One call leaves what is known**, and what it makes is on the trail. -/
theorem Valid.of_advance {m m' : Making} (hvalid : Valid t t p m)
    (hadvance : m.advance t p = some (m', t')) :
    Valid t' t' p m' ∧ Grown (fun l => l ∈ t.trail p) (fun _ => False) t t' := by
  have hundisturbed : Undisturbed t t p := .refl t
  obtain ⟨hvalid', hgrown⟩ := keeps_of_advance hundisturbed hvalid hadvance
  exact ⟨hvalid'.anew hgrown.respects, hgrown⟩

end Making

/-! ## A trail that is there -/

/-- All directories of the trail of a path are there. -/
def Complete (t : FileTree) (p : Path) : Prop := ∀ l ∈ t.trail p, t.entryAt? l = some .directory

theorem Complete.of_made (h : Valid t t p .made) : t.isOpen p = true ∧ t.Complete p := by
  obtain ⟨hopen, htrail, -⟩ := Making.Valid.of_made (.refl t : Undisturbed t t p) h
  exact ⟨hopen, htrail⟩

/-- **A trail that is there stays as it is**, and so does what is at the end of it. -/
theorem Complete.of_respects (hcomplete : t.Complete p) (h : Respects (t.start p) t t') :
    t'.Complete p ∧ t'.isOpen p = t.isOpen p := by
  have hdir : ∀ l ∈ t.trail p, t'.entryAt? l = some .directory := fun l hl =>
    h.directory (hcomplete l hl)
  obtain ⟨htrail, hopen⟩ := h.trail_eq hdir
  rw [Complete, htrail]
  exact ⟨hdir, hopen⟩

/-- Where a path leads on paper does not depend on what is in the tree. -/
theorem Grown.landing {D W : Location → Prop} (h : Grown D W t t') (p : Path) :
    t'.landing p = t.landing p := by
  rw [FileTree.landing, FileTree.landing, h.start]

/-- A file that could not be written once its directories were there cannot be written later. -/
theorem Writable.of_later (hcomplete : t.Complete p.parent) (h : Respects (t.start p.parent) t t')
    (hwritable : t'.Writable p) : t.Writable p := by
  obtain ⟨hfault, hopen, hshort, hnodir, hoff⟩ := hwritable
  obtain ⟨htrail, hopen'⟩ := h.trail_eq fun l hl => h.directory (hcomplete l hl)
  rw [Grown.landing h] at hnodir hoff
  exact ⟨hfault, hopen' ▸ hopen, hshort, fun hdir => hnodir (h.directory hdir), htrail ▸ hoff⟩

/-- A file that has been written can be written again later. -/
theorem Writable.of_file {content : Bytes} (hcomplete : t.Complete p.parent)
    (h : Respects (t.start p.parent) t t') (hwritable : t.Writable p)
    (hfile : t'.entryAt? (t.landing p) = some (.file content)) : t'.Writable p := by
  obtain ⟨hfault, hopen, hshort, -, hoff⟩ := hwritable
  obtain ⟨htrail, hopen'⟩ := h.trail_eq fun l hl => h.directory (hcomplete l hl)
  rw [Writable, Grown.landing h, htrail, hopen', hfile]
  exact ⟨hfault, hopen, hshort, by simp, hoff⟩

/-! ## Paths that are not handed over -/

/-- A path that is never handed to the file system. -/
def Withheld (p : Path) : Prop :=
  ∃ failure, pathFault? p = some failure ∧ failure.isRefusal = false

theorem not_withheld_of_pathFault?_eq_none (h : pathFault? p = none) : ¬ Withheld p := by
  rintro ⟨failure, hfault, -⟩
  exact absurd (h.symm.trans hfault) (by simp)

/-- Looking for the place of a new entry fails without the file system exactly where the path is
withheld. -/
theorem withheld_iff_of_target {failure : FileFailure} (h : t.target p = .error failure) :
    failure.isRefusal = false ↔ Withheld p := by
  cases hfault : pathFault? p with
  | some fault =>
      rw [target_of_fault hfault] at h
      obtain rfl := Except.error.inj h
      exact ⟨fun hwithheld => ⟨fault, hfault, hwithheld⟩,
        fun ⟨_, hfault', hwithheld⟩ => Option.some.inj (hfault.symm.trans hfault') ▸ hwithheld⟩
  | none =>
      refine iff_of_false ?_ (not_withheld_of_pathFault?_eq_none hfault)
      rcases List.eq_nil_or_concat p.parts with hnil | ⟨before, name, hparts⟩
      · simp [target_of_parts_eq_nil hfault hnil] at h
      · rw [List.concat_eq_append] at hparts
        rw [target_of_parts hfault hparts] at h
        cases hreach : t.reach (t.start p) before with
        | error e =>
            rw [hreach] at h
            obtain rfl := Except.error.inj h
            simp [FileFailure.isRefusal]
        | ok l =>
            rw [hreach] at h
            dsimp only at h
            split at h
            · simp at h
            · split at h
              · obtain rfl := Except.error.inj h
                simp [FileFailure.isRefusal]
              · simp at h

theorem not_withheld_of_target {place : Location × Option Text} (h : t.target p = .ok place) :
    ¬ Withheld p := by
  rintro ⟨failure, hfault, -⟩
  rw [target_of_fault hfault] at h
  exact absurd h (by simp)

theorem withheld_iff_of_makeDirectory {failure : FileFailure}
    (h : t.makeDirectory p = .error failure) : failure.isRefusal = false ↔ Withheld p := by
  unfold makeDirectory at h
  rcases htarget : t.target p with failure' | ⟨l, _ | name⟩
  · rw [htarget] at h
    obtain rfl := Except.error.inj h
    exact withheld_iff_of_target htarget
  · rw [htarget] at h
    obtain rfl := Except.error.inj h
    exact iff_of_false (by simp [FileFailure.isRefusal]) (not_withheld_of_target htarget)
  · rw [htarget] at h
    refine iff_of_false ?_ (not_withheld_of_target htarget)
    cases hthere : t.entryAt? (l ++ [name]) with
    | none => simp [hthere] at h
    | some there =>
        simp only [hthere, Except.error.injEq] at h
        simp [← h, FileFailure.isRefusal]

theorem withheld_iff_of_overwrite {failure : FileFailure} {content : Bytes}
    (h : t.overwrite p content = .error failure) : failure.isRefusal = false ↔ Withheld p := by
  unfold overwrite at h
  rcases htarget : t.target p with failure' | ⟨l, _ | name⟩
  · rw [htarget] at h
    obtain rfl := Except.error.inj h
    exact withheld_iff_of_target htarget
  · rw [htarget] at h
    obtain rfl := Except.error.inj h
    exact iff_of_false (by simp [FileFailure.isRefusal]) (not_withheld_of_target htarget)
  · rw [htarget] at h
    refine iff_of_false ?_ (not_withheld_of_target htarget)
    rcases hthere : t.entryAt? (l ++ [name]) with _ | _ | _
    · simp [hthere] at h
    · simp [hthere] at h
    · simp only [hthere, Except.error.injEq] at h
      simp [← h, FileFailure.isRefusal]

namespace Making

/-- The making of directories has failed without the file system if their path is withheld, and only
then. -/
def Speaks (p : Path) : Making → Prop
  | checking _ failure => failure.isRefusal = true ∧ ¬ Withheld p
  | failed failure => failure.isRefusal = false ↔ Withheld p
  | descending _ | climbing _ | made => True

theorem speaks_after (p : Path) (n : Nat) : Speaks p (after p n) := by
  unfold after
  split <;> trivial

/-- A path whose beginnings are asked for is withheld if the beginning is. -/
theorem Asked.withheld_iff (h : Asked p n) : Withheld (first p n) ↔ Withheld p := by
  rcases h with rfl | ⟨-, hfault⟩
  · rw [first, List.take_length]
  · exact iff_of_false (not_withheld_of_pathFault?_eq_none (pathFault?_first hfault n))
      (not_withheld_of_pathFault?_eq_none hfault)

theorem speaks_of_ask {missing : FileFailure → Making} (h : Asked p n)
    (hmissing : ∀ q, ¬ Withheld p → Speaks p (missing (.refused .notFound q))) :
    Speaks p (ask t p n missing).1 := by
  have hwithheld {failure : FileFailure} (hmake : t.makeDirectory (first p n) = .error failure) :
      failure.isRefusal = false ↔ Withheld p :=
    (withheld_iff_of_makeDirectory hmake).trans h.withheld_iff
  unfold ask
  split
  · exact speaks_after p n
  · rename_i q hmake
    exact hmissing q fun hp => absurd ((hwithheld hmake).2 hp) (by simp [FileFailure.isRefusal])
  · rename_i e q _ hmake
    exact ⟨rfl, fun hp => absurd ((hwithheld hmake).2 hp) (by simp [FileFailure.isRefusal])⟩
  · rename_i hmake
    exact hwithheld hmake

theorem speaks_of_advance {m m' : Making} (hvalid : Valid t t p m) (h : Speaks p m)
    (hadvance : m.advance t p = some (m', t')) : Speaks p m' := by
  have hfailed : ∀ q, ¬ Withheld p → Speaks p (failed (.refused .notFound q)) :=
    fun q hp => iff_of_false (by simp [FileFailure.isRefusal]) hp
  cases m with
  | descending n =>
      cases n with
      | zero =>
          have hask := speaks_of_ask (t := t) hvalid hfailed
          rw [Option.some.inj hadvance] at hask
          exact hask
      | succ n =>
          have hask : Speaks p (ask t p (n + 1) fun _ => descending n).1 :=
            speaks_of_ask hvalid fun _ _ => trivial
          rw [Option.some.inj hadvance] at hask
          exact hask
  | climbing n =>
      obtain ⟨k, rfl, hk, hfault, -⟩ := hvalid
      have hask := speaks_of_ask (t := t) (asked_of_le hfault hk) hfailed
      rw [Option.some.inj hadvance] at hask
      exact hask
  | checking n failure =>
      obtain ⟨rfl, rfl⟩ := Prod.mk.inj (Option.some.inj hadvance)
      split
      · exact speaks_after p n
      · exact iff_of_false (by simp [h.1]) h.2
  | made => exact absurd hadvance (by simp [advance])
  | failed failure => exact absurd hadvance (by simp [advance])

end Making

/-- Whether writing a file fails without the file system before the file is open: the path of its
directory is withheld, or, where that can be made, its own. -/
def FailsUnasked (t : FileTree) (p : Path) : Prop :=
  Withheld p.parent ∨ (t.isOpen p.parent = true ∧ Withheld p)

theorem failsUnasked_iff_of_isOpen (hopen : t.isOpen p.parent = true) :
    t.FailsUnasked p ↔ Withheld p := by
  have hfault : pathFault? p.parent = none := by
    simp only [isOpen, Bool.and_eq_true, decide_eq_true_eq] at hopen
    exact hopen.1
  simp [FailsUnasked, hopen, not_withheld_of_pathFault?_eq_none hfault]

theorem failsUnasked_iff_of_not_isOpen (hopen : t.isOpen p.parent = false) :
    t.FailsUnasked p ↔ Withheld p.parent := by
  simp [FailsUnasked, hopen]

theorem Writable.not_failsUnasked (h : t.Writable p) : ¬ t.FailsUnasked p := by
  rw [failsUnasked_iff_of_isOpen h.2.1]
  exact not_withheld_of_pathFault?_eq_none h.1

/-- Once the directories are there it does not change whether a file fails without the file system.
-/
theorem Complete.failsUnasked_iff (hcomplete : t.Complete p.parent)
    (h : Respects (t.start p.parent) t t') : t'.FailsUnasked p ↔ t.FailsUnasked p := by
  rw [FailsUnasked, FailsUnasked, (hcomplete.of_respects h).2]

end Scaffold.FileTree
