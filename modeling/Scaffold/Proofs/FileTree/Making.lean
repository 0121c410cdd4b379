/-
# Scaffold.Proofs.FileTree.Making -- a chain of directories, one call at a time

`FileTree.ensureDirectory` makes a directory and everything missing above it in one go. A file
system is asked for one directory at a time, and between two calls others can change the tree.
`Making` is how far the asking has come, and `Making.advance` is one call.

On the way down a directory that cannot be made because something above it is missing sends the
asking one level up; once a directory is there, the asking climbs back, one level at a time. Any
other refusal is followed by a look, at whatever the tree is by then, whether the directory is there
after all.

Asking without interference comes to what `ensureFirst` says (`steps_ensureFirst`), so the machine
is the same algorithm and not another one.
-/

import Scaffold.Proofs.FileTree.Growth
import Mathlib.Logic.Relation

namespace Scaffold.FileTree

/-! ## One call at a time -/

/-- How far the making of a chain of directories has come. Directories are counted by the parts of
the path that lead to them. -/
inductive Making where
  /-- The directory will be asked for; the one above it may be missing. -/
  | descending (n : Nat)
  /-- The directory will be asked for; the one above it was there. -/
  | climbing (n : Nat)
  /-- The directory was refused. Whether it is there will be looked at. -/
  | checking (n : Nat) (failure : FileFailure)
  /-- All directories are there. -/
  | made
  /-- There was an obstacle. -/
  | failed (failure : FileFailure)

namespace Making

/-- The path of the first directories of a path. -/
def first (p : Path) (n : Nat) : Path := { p with parts := p.parts.take n }

/-- What follows once the first `n` parts lead to a directory. -/
def after (p : Path) (n : Nat) : Making :=
  if p.parts.length ≤ n then made else climbing (n + 1)

/-- Asks for one directory. `missing` says what follows where something above it is missing. -/
def ask (t : FileTree) (p : Path) (n : Nat) (missing : FileFailure → Making) : Making × FileTree :=
  match t.makeDirectory (first p n) with
  | .ok t' => (after p n, t')
  | .error (.refused .notFound q) => (missing (.refused .notFound q), t)
  | .error (.refused e q) => (checking n (.refused e q), t)
  | .error failure => (failed failure, t)

/-- One call, unless there is nothing left to do. -/
def advance (t : FileTree) (p : Path) : Making → Option (Making × FileTree)
  | descending 0 => some (ask t p 0 failed)
  | descending (n + 1) => some (ask t p (n + 1) fun _ => descending n)
  | climbing n => some (ask t p n failed)
  | checking n failure =>
    some (if t.isDirectory (first p n) then after p n else failed failure, t)
  | made => none
  | failed _ => none

/-- One call, as a relation. -/
def Step (p : Path) (x y : Making × FileTree) : Prop := x.1.advance x.2 p = some y

/-- What remains to be done after an operation that was to make the first `n` directories. -/
def next (p : Path) (n : Nat) (changed : Changed Unit) : Making × FileTree :=
  (match changed.outcome with
    | .ok _ => after p n
    | .error failure => failed failure,
    changed.tree)

variable {t t' : FileTree} {p : Path} {n : Nat}

/-! ## Asking without interference -/

/-- A refusal that is looked into. -/
theorem ask_of_refused {missing : FileFailure → Making} {e : FileError} {q : Path}
    (h : t.makeDirectory (first p n) = .error (.refused e q)) (he : e ≠ .notFound) :
    ask t p n missing = (checking n (.refused e q), t) := by
  cases e <;> first | exact absurd rfl he | simp only [ask, h]

/-- A directory that the file system is not even asked for. -/
theorem ask_of_withheld {missing : FileFailure → Making} {failure : FileFailure}
    (h : t.makeDirectory (first p n) = .error failure) (hwithheld : failure.isRefusal = false) :
    ask t p n missing = (failed failure, t) := by
  cases failure with
  | refused e q => simp [FileFailure.isRefusal] at hwithheld
  | nulInPath | unencodable => simp only [ask, h]

/-- Asking for a directory whose parent is there, and looking if it is refused, is `makeOrAccept`.
-/
theorem steps_ask_failed (t : FileTree) (p : Path) (n : Nat) :
    Relation.ReflTransGen (Step p) (ask t p n failed) (next p n (t.makeOrAccept (first p n))) := by
  rcases hmake : t.makeDirectory (first p n) with failure | t'
  · have hlook : next p n (t.makeOrAccept (first p n)) =
        (if t.isDirectory (first p n) then after p n else failed failure, t) := by
      simp only [next, makeOrAccept, hmake]
      cases t.isDirectory (first p n) <;> rfl
    by_cases hlooked : ∃ e q, failure = .refused e q ∧ e ≠ .notFound
    · obtain ⟨e, q, rfl, he⟩ := hlooked
      rw [ask_of_refused hmake he, hlook]
      exact .single rfl
    -- Every other failure is final, and rightly so: the directory is not there.
    · have hnodir : t.isDirectory (first p n) = false := by
        by_contra hdir
        obtain ⟨e, hfailure, he⟩ := refused_of_isDirectory (by simpa using hdir) hmake
        exact hlooked ⟨e, first p n, hfailure, he⟩
      have hask : ask t p n failed = (failed failure, t) := by
        cases failure with
        | refused e q =>
            obtain rfl : e = .notFound := by
              by_contra he
              exact hlooked ⟨e, q, rfl, he⟩
            simp only [ask, hmake]
        | nulInPath | unencodable => exact ask_of_withheld hmake rfl
      rw [hask, hlook, hnodir]
      exact .refl
  · simp only [ask, next, makeOrAccept, hmake]
    exact .refl

/-- What follows a missing directory matters only where one is missing. -/
theorem ask_congr (missing missing' : FileFailure → Making)
    (h : ∀ q, t.makeDirectory (first p n) ≠ .error (.refused .notFound q)) :
    ask t p n missing = ask t p n missing' := by
  unfold ask
  split
  · rfl
  · exact absurd ‹_› (h _)
  · rfl
  · rfl

theorem ensureFirst_succ_of_ne
    (h : ∀ q, t.makeDirectory (first p (n + 1)) ≠ .error (.refused .notFound q)) :
    t.ensureFirst p (n + 1) = t.makeOrAccept (first p (n + 1)) := by
  unfold ensureFirst
  dsimp only
  split
  · exact absurd ‹_› (h _)
  · rfl

/-- **The machine is the algorithm**: asking for the first `n` directories without interference does
what `ensureFirst` says, and then goes on with the others. -/
theorem steps_ensureFirst (t : FileTree) (p : Path) (n : Nat) (hn : n ≤ p.parts.length) :
    Relation.ReflTransGen (Step p) (descending n, t) (next p n (t.ensureFirst p n)) := by
  induction n with
  | zero => exact .head rfl (steps_ask_failed t p 0)
  | succ n ih =>
      have hstart : Step p (descending (n + 1), t) (ask t p (n + 1) fun _ => descending n) := rfl
      by_cases hmissing : ∃ q, t.makeDirectory (first p (n + 1)) = .error (.refused .notFound q)
      · obtain ⟨q, hmissing⟩ := hmissing
        have hdown : ask t p (n + 1) (fun _ => descending n) = (descending n, t) := by
          simp only [ask, hmissing]
        have hasked : t.makeDirectory { p with parts := p.parts.take (n + 1) } =
            .error (.refused .notFound q) := hmissing
        have habove := ih (Nat.le_of_succ_le hn)
        rw [hdown] at hstart
        refine .trans (.head hstart habove) ?_
        cases houtcome : (t.ensureFirst p n).outcome with
        | error failure =>
            have hensure :
                t.ensureFirst p (n + 1) = ⟨.error failure, (t.ensureFirst p n).tree⟩ := by
              simp only [ensureFirst, hasked, houtcome]
            rw [hensure, next, next, houtcome]
        -- The directory above is there now, so the asking climbs back to this one.
        | ok _ =>
            have hensure : t.ensureFirst p (n + 1) =
                (t.ensureFirst p n).tree.makeOrAccept (first p (n + 1)) := by
              simp only [ensureFirst, hasked, houtcome, first]
            have hafter : after p n = climbing (n + 1) := if_neg (Nat.not_le.2 hn)
            rw [hensure, next, houtcome]
            dsimp only
            rw [hafter]
            exact .head rfl (steps_ask_failed _ p (n + 1))
      · rw [not_exists] at hmissing
        rw [ask_congr (fun _ => descending n) failed hmissing] at hstart
        rw [ensureFirst_succ_of_ne hmissing]
        exact .head hstart (steps_ask_failed t p (n + 1))

/-- Making all the directories of a path, without interference. -/
theorem steps_ensureDirectory (t : FileTree) (p : Path) :
    Relation.ReflTransGen (Step p) (descending p.parts.length, t)
      (match (t.ensureDirectory p).outcome with
        | .ok _ => made
        | .error failure => failed failure,
        (t.ensureDirectory p).tree) := by
  have h := steps_ensureFirst t p p.parts.length (Nat.le_refl _)
  rwa [next, show after p p.parts.length = made from if_pos (Nat.le_refl _)] at h

/-! ## What a call changes -/

/-- A call makes one of the directories on the way or changes nothing. -/
theorem grown_of_advance {W : Location → Prop} {m m' : Making}
    (h : m.advance t p = some (m', t')) :
    Grown (fun l => ∃ n, t'.locate (first p n) = .ok l) W t t' := by
  have hask : ∀ n missing, ask t p n missing = (m', t') →
      Grown (fun l => ∃ n, t'.locate (first p n) = .ok l) W t t' := by
    intro n missing h
    unfold ask at h
    split at h
    · cases h
      exact (grown_of_makeDirectory ‹_›).1.mono (fun l hl => ⟨n, hl⟩) fun _ => id
    all_goals
      cases h
      exact .refl t
  unfold advance at h
  split at h
  · exact hask _ _ (Option.some.inj h)
  · exact hask _ _ (Option.some.inj h)
  · exact hask _ _ (Option.some.inj h)
  · cases h
    exact .refl t
  · exact absurd h (by simp)
  · exact absurd h (by simp)

/-! ## The asking ends -/

/-- A bound on the number of calls that are left. Down is one call for each part, up are two. -/
def rank (length : Nat) : Making → Nat
  | descending n => 2 * length + 3 + n
  | climbing n => 2 * (length - n) + 2
  | checking n _ => 2 * (length - n) + 1
  | made => 0
  | failed _ => 0

theorem rank_after_lt (p : Path) (n : Nat) (failure : FileFailure) :
    (after p n).rank p.parts.length < (checking n failure).rank p.parts.length := by
  unfold after
  split
  · exact Nat.succ_pos _
  · simp only [rank]
    omega

/-- Every call is one call less. -/
theorem rank_lt_of_advance {m m' : Making} (h : m.advance t p = some (m', t')) :
    m'.rank p.parts.length < m.rank p.parts.length := by
  -- Of what a request leads to, only a missing directory above and a look at it need a bound.
  have hask : ∀ {n missing k}, (∀ failure, (missing failure).rank p.parts.length < k) →
      2 * (p.parts.length - n) + 1 < k → ask t p n missing = (m', t') →
        m'.rank p.parts.length < k := by
    intro n missing k hmissing hk h
    unfold ask at h
    split at h
    · cases h
      exact Nat.lt_trans (rank_after_lt p n .nulInPath) hk
    · cases h
      exact hmissing _
    · cases h
      exact hk
    · cases h
      exact Nat.lt_of_le_of_lt (Nat.zero_le _) hk
  cases m with
  | descending n =>
      cases n with
      | zero =>
          exact hask (fun _ => by simp [rank]) (by simp only [rank]; omega) (Option.some.inj h)
      | succ n =>
          exact hask (fun _ => by simp [rank]) (by simp only [rank]; omega) (Option.some.inj h)
  | climbing n => exact hask (fun _ => by simp [rank]) (by simp [rank]) (Option.some.inj h)
  | checking n failure =>
      obtain ⟨rfl, rfl⟩ := Prod.mk.inj (Option.some.inj h)
      split
      · exact rank_after_lt p n failure
      · exact Nat.succ_pos _
  | made => exact absurd h (by simp [advance])
  | failed failure => exact absurd h (by simp [advance])

/-- As long as there is no result there is a call to make. -/
theorem exists_advance {m : Making} (hmade : m ≠ made) (hfailed : ∀ failure, m ≠ failed failure)
    (t : FileTree) (p : Path) : ∃ next, m.advance t p = some next := by
  cases m with
  | descending n => cases n <;> exact ⟨_, rfl⟩
  | climbing n => exact ⟨_, rfl⟩
  | checking n failure => exact ⟨_, rfl⟩
  | made => exact absurd rfl hmade
  | failed failure => exact absurd rfl (hfailed failure)

end Making

end Scaffold.FileTree
