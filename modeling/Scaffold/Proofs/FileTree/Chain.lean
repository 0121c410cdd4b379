/-
# Scaffold.Proofs.FileTree.Chain -- a chain of directories made among others

What comes of making the directories of a path, one call at a time, while the tree is changed
between the calls. Nothing is asked of the others but that they make directories where nothing is
barred and put files off the trail (`Undisturbed`). Then the asking ends as the tree at the
beginning tells: with all directories of the trail there, and successfully exactly if the path is
open (`Valid.of_made`, `Valid.of_failed`), and every directory made on the way is one of the trail
(`keeps_of_advance`).

`Valid` is the invariant of the machine: what is known of the tree at each point of the asking. What
others do never falsifies it (`Valid.mono`).
-/

import Scaffold.Proofs.FileTree.Making
import Scaffold.Proofs.FileTree.Trail

namespace Scaffold.Text

/-! ## Beginnings of written paths -/

theorem total_append (ns ms : List Nat) : total (ns ++ ms) = total ns + total ms := by
  induction ns with
  | nil => simp [total]
  | cons n ns ih => rw [List.cons_append, total, total, ih, Nat.add_assoc]

theorem byteLength_le_of_prefix {s t : Text} (h : s <+: t) : byteLength s ≤ byteLength t := by
  obtain ⟨rest, rfl⟩ := h
  rw [byteLength, byteLength, List.map_append, total_append]
  exact Nat.le_add_right _ _

/-- Fewer pieces are written as a beginning. -/
theorem join_take_prefix (sep : CodePoint) (pieces : List Text) (n : Nat) :
    join sep (pieces.take n) <+: join sep pieces := by
  induction pieces generalizing n with
  | nil => simp
  | cons piece pieces ih =>
      cases n with
      | zero => exact List.nil_prefix
      | succ n =>
          rw [List.take_succ_cons]
          cases pieces with
          | nil => simp
          | cons next pieces =>
              cases n with
              | zero => exact List.prefix_append piece (sep :: join sep (next :: pieces))
              | succ n =>
                  have hrest := ih (n + 1)
                  rw [List.take_succ_cons] at hrest ⊢
                  exact (List.prefix_append_right_inj piece).2
                    (List.cons_prefix_cons.2 ⟨rfl, hrest⟩)

end Scaffold.Text

namespace Scaffold.Path

theorem text_eq (p : Path) :
    p.text =
      if p.root = .here ∧ p.parts = [] then [chr '.']
      else p.root.text ++ Text.join '/' p.parts := by
  obtain ⟨root, parts⟩ := p
  cases root <;> cases parts <;> rfl

end Scaffold.Path

namespace Scaffold.FileTree

theorem pathFault?_eq_none_iff {p : Path} :
    pathFault? p = none ↔ Text.nameError? p.text = none ∧ chr '\x00' ∉ p.text ∧
      Text.byteLength p.text ≤ maxPath := by
  unfold pathFault?
  cases Text.nameError? p.text with
  | some error => simp
  | none =>
      by_cases hnul : chr '\x00' ∈ p.text
      · simp [hnul]
      · by_cases hlong : Text.byteLength p.text > maxPath
        · simp [hnul, hlong, Nat.not_le.2 hlong]
        · simp [hnul, hlong, Nat.not_lt.1 hlong]

theorem pathFault?_cases {p : Path} {failure : FileFailure} (h : pathFault? p = some failure) :
    failure.isRefusal = false ∨ failure = .refused .nameTooLong p := by
  unfold pathFault? at h
  split at h
  · exact .inl (Option.some.inj h ▸ rfl)
  · split at h
    · exact .inl (Option.some.inj h ▸ rfl)
    · split at h
      · exact .inr (Option.some.inj h).symm
      · exact absurd h (by simp)

namespace Making

variable {t₀ t t' : FileTree} {p : Path} {n : Nat}

/-- Where a path can be handed to the file system, its beginnings can. -/
theorem pathFault?_first (h : pathFault? p = none) (n : Nat) : pathFault? (first p n) = none := by
  rw [pathFault?_eq_none_iff] at h ⊢
  rw [Path.text_eq (first p n)]
  split
  · decide
  · rename_i hne
    have hbefore : (first p n).root.text ++ Text.join '/' (first p n).parts <+: p.text := by
      rw [Path.text_eq p, if_neg fun hp => hne ⟨hp.1, by simp [first, hp.2]⟩]
      exact (List.prefix_append_right_inj _).2 (Text.join_take_prefix '/' p.parts n)
    exact ⟨Text.nameError?_of_prefix h.1 hbefore, fun hmem => h.2.1 (hbefore.subset hmem),
      (Text.byteLength_le_of_prefix hbefore).trans h.2.2⟩

theorem pathFault?_parent (h : pathFault? p = none) : pathFault? p.parent = none := by
  have hfirst : p.parent = first p (p.parts.length - 1) := by
    rw [Path.parent, List.dropLast_eq_take, first]
  rw [hfirst]
  exact pathFault?_first h _

/-! ## What is known on the way -/

/-- Since the tree `t₀` directories have become new only where nothing is barred, and files only off
the trail of the path. -/
def Undisturbed (t₀ t : FileTree) (p : Path) : Prop :=
  Grown (fun l => t₀.isBarred (t₀.start p) l = false) (fun l => l ∉ t₀.trail p) t₀ t

/-- The path is not open, and its whole trail is there. -/
def Blocked (t₀ t : FileTree) (p : Path) : Prop :=
  t₀.isOpen p = false ∧ ∀ l ∈ t₀.trail p, t.entryAt? l = some .directory

/-- The first `n` parts of the path lead to a directory. -/
def Reached (t : FileTree) (p : Path) (n : Nat) : Prop :=
  pathFault? p = none ∧ n ≤ p.parts.length ∧
    ∃ l, t.reach (t.start p) (p.parts.take n) = .ok l

/-- The first `n` directories can be asked for: all of them, or fewer where the path is no reason to
be refused. -/
def Asked (p : Path) (n : Nat) : Prop :=
  n = p.parts.length ∨ n < p.parts.length ∧ pathFault? p = none

/-- What is known of the tree at each point of the asking. -/
def Valid (t₀ t : FileTree) (p : Path) : Making → Prop
  | descending n => Asked p n
  | climbing n => ∃ k, n = k + 1 ∧ k < p.parts.length ∧ Reached t p k
  | checking n _ => Asked p n ∧ (Blocked t₀ t p ∨ Reached t p n)
  | made => Reached t p p.parts.length
  | failed _ => Blocked t₀ t p

theorem Asked.le (h : Asked p n) : n ≤ p.parts.length :=
  h.elim Nat.le_of_eq fun hlt => Nat.le_of_lt hlt.1

theorem asked_of_le (hfault : pathFault? p = none) (hn : n ≤ p.parts.length) : Asked p n :=
  (Nat.lt_or_eq_of_le hn).elim (fun hlt => .inr ⟨hlt, hfault⟩) .inl

theorem blocked_of_pathFault? (h : pathFault? p ≠ none) : Blocked t₀ t p := by
  simp [Blocked, isOpen, trail, h]

/-- A path is blocked where a beginning of it is. -/
theorem blocked_of_beginning {before rest : List Text} (hfault : pathFault? p = none)
    (hparts : p.parts = before ++ rest)
    (h : t₀.isOpenFrom (t₀.start p) (t₀.start p) before = false ∧
      ∀ l ∈ t₀.trailFrom (t₀.start p) (t₀.start p) before, t.entryAt? l = some .directory) :
    Blocked t₀ t p := by
  rw [Blocked, isOpen_of_pathFault?_eq_none hfault, trail_of_pathFault?_eq_none hfault, hparts,
    trailFrom_append_of_not_isOpenFrom h.1, isOpenFrom_append_of_not_isOpenFrom h.1]
  exact ⟨rfl, h.2⟩

namespace Undisturbed

theorem later (h : Undisturbed t₀ t p) :
    Later t₀ t (t₀.start p) fun l => l ∈ t₀.trail p :=
  later_of_grown h

theorem start (h : Undisturbed t₀ t p) : t.start p = t₀.start p := Grown.start h p

/-- What has been found by following a beginning of the path. -/
theorem reached {before : List Text} {l : Location} (h : Undisturbed t₀ t p)
    (hreach : t.reach (t₀.start p) before = .ok l) :
    t₀.isOpenFrom (t₀.start p) (t₀.start p) before = true ∧
      (∀ q ∈ t₀.trailFrom (t₀.start p) (t₀.start p) before, t.entryAt? q = some .directory) ∧
      Around t (t₀.start p) l ∧ l = before.foldl onward (t₀.start p) :=
  trail_of_reach_eq_ok h.later around_self hreach

/-- What stops the search on a beginning of the path blocks the path. -/
theorem blocked_of_reach {before rest : List Text} {e : FileError} (h : Undisturbed t₀ t p)
    (hfault : pathFault? p = none) (hparts : p.parts = before ++ rest)
    (hreach : t.reach (t₀.start p) before = .error e) (he : e ≠ .notFound) :
    Blocked t₀ t p := by
  refine blocked_of_beginning hfault hparts (trail_of_reach_eq_error h.later ?_ hreach he)
  intro q hq
  rw [trail_of_pathFault?_eq_none hfault, hparts]
  exact trailFrom_subset_append before rest hq

/-- A part that leads nowhere blocks the path behind what has been found. -/
theorem blocked_of_stop {before rest : List Text} {part : Text} {l : Location}
    (h : Undisturbed t₀ t p) (hfault : pathFault? p = none)
    (hparts : p.parts = before ++ part :: rest) (hreach : t.reach (t₀.start p) before = .ok l)
    (hstop : isPassable part = false ∨ t₀.isBarred (t₀.start p) (onward l part) = true) :
    Blocked t₀ t p := by
  obtain ⟨hopen, htrail, -, rfl⟩ := h.reached hreach
  obtain ⟨hopen', htrail'⟩ := trail_of_stop hopen hstop rest
  rw [← hparts] at hopen' htrail'
  rw [Blocked, isOpen_of_pathFault?_eq_none hfault, trail_of_pathFault?_eq_none hfault,
    hopen', htrail']
  exact ⟨rfl, htrail⟩

/-- What a passable part names behind what has been found is next on the trail, unless barred. -/
theorem mem_trail {before rest : List Text} {part : Text} {l : Location}
    (h : Undisturbed t₀ t p) (hfault : pathFault? p = none)
    (hparts : p.parts = before ++ part :: rest) (hreach : t.reach (t₀.start p) before = .ok l)
    (hpass : isPassable part = true)
    (hclear : t₀.isBarred (t₀.start p) (onward l part) = false) : onward l part ∈ t₀.trail p := by
  obtain ⟨hopen, -, -, rfl⟩ := h.reached hreach
  rw [trail_of_pathFault?_eq_none hfault, hparts, trailFrom_append_of_isOpenFrom hopen,
    if_pos hpass]
  exact List.mem_append_right _ (mem_trailFrom_self hclear rest)

/-- Something missing that is named behind what has been found is next on the trail. -/
theorem mem_trail_of_missing {before rest : List Text} {part : Text} {l : Location}
    (h : Undisturbed t₀ t p) (hfault : pathFault? p = none)
    (hparts : p.parts = before ++ part :: rest) (hreach : t.reach (t₀.start p) before = .ok l)
    (hup : part ≠ Path.up) (hshort : Text.byteLength part ≤ maxName)
    (hmissing : t.entryAt? (l ++ [part]) = none) : l ++ [part] ∈ t₀.trail p := by
  have hmem := h.mem_trail hfault hparts hreach (by simp [isPassable, hshort])
  rw [onward_of_ne hup, h.later.missing _ hmissing] at hmem
  refine hmem (Bool.eq_false_iff.2 fun hbefore => ?_)
  exact (h.reached hreach).2.2.1.not_concat_before hmissing (List.isPrefixOf_iff_prefix.1 hbefore)

/-- Anything else that is named behind what has been found is a directory or blocks the path. -/
theorem blocked_or_reach {before rest : List Text} {part : Text} {l : Location}
    (h : Undisturbed t₀ t p) (hfault : pathFault? p = none)
    (hparts : p.parts = before ++ part :: rest) (hreach : t.reach (t₀.start p) before = .ok l)
    (hother : part = Path.up ∨ Text.byteLength part > maxName ∨ t.entryAt? (l ++ [part]) ≠ none) :
    Blocked t₀ t p ∨ t.reach (t₀.start p) (before ++ [part]) = .ok (onward l part) := by
  have haround := (h.reached hreach).2.2.1
  cases hpass : isPassable part with
  | false => exact .inl (h.blocked_of_stop hfault hparts hreach (.inl hpass))
  | true =>
      rcases hentry : t.entryAt? (onward l part) with _ | content | _
      -- What is missing above the way stays missing.
      · have hup : part = Path.up := by
          by_contra hup
          have hshort : Text.byteLength part ≤ maxName := by simpa [isPassable, hup] using hpass
          rw [onward_of_ne hup] at hentry
          rcases hother with hup' | hlong | hthere
          · exact hup hup'
          · exact Nat.not_lt.2 hshort hlong
          · exact hthere hentry
        refine .inl (h.blocked_of_stop hfault hparts hreach (.inr ?_))
        rw [h.later.missing _ hentry, List.isPrefixOf_iff_prefix]
        rw [hup, onward_up] at hentry ⊢
        exact haround.dropLast_before hentry
      · exact .inl (h.blocked_of_stop hfault hparts hreach (.inr
          (h.later.file _ content hentry (h.mem_trail hfault hparts hreach hpass))))
      · exact .inr (reach_concat_eq_ok_iff.2 ⟨l, hreach,
          step_eq_ok_onward haround.directory hpass (hentry ▸ Option.some_ne_none _), hentry⟩)

/-- The starting point is a directory or blocks the path. -/
theorem blocked_or_start (h : Undisturbed t₀ t p) (hfault : pathFault? p = none) :
    Blocked t₀ t p ∨ t.entryAt? (t₀.start p) = some .directory := by
  have hblocked : t₀.isBarred (t₀.start p) (t₀.start p) = true → Blocked t₀ t p := by
    intro hbarred
    rw [Blocked, isOpen_of_pathFault?_eq_none hfault, trail_of_pathFault?_eq_none hfault,
      isOpenFrom_of_isBarred hbarred, trailFrom_of_isBarred hbarred]
    simp
  rcases hentry : t.entryAt? (t₀.start p) with _ | content | _
  · refine .inl (hblocked ?_)
    rw [h.later.missing _ hentry, List.isPrefixOf_iff_prefix]
  · refine .inl (hblocked (h.later.file _ content hentry fun hclear => ?_))
    rw [trail_of_pathFault?_eq_none hfault]
    exact mem_trailFrom_self hclear p.parts
  · exact .inr rfl

end Undisturbed

/-! ## One call -/

theorem take_succ_append {k : Nat} (h : k < p.parts.length) :
    ∃ part rest, p.parts = p.parts.take k ++ part :: rest ∧
      p.parts.take (k + 1) = p.parts.take k ++ [part] :=
  ⟨p.parts[k], p.parts.drop (k + 1), by simp, by simp⟩

theorem valid_after (h : Reached t p n) : Valid t₀ t p (after p n) := by
  unfold after
  split
  · rename_i hall
    rwa [Valid, Nat.le_antisymm hall h.2.1]
  · rename_i hn
    exact ⟨n, rfl, Nat.not_le.1 hn, h⟩

theorem reached_of_makeDirectory (hfault : pathFault? p = none) (hn : n ≤ p.parts.length)
    (hmake : t.makeDirectory (first p n) = .ok t') : Reached t' p n :=
  ⟨hfault, hn, (isDirectory_iff.1 (grown_of_makeDirectory (W := fun _ => False) hmake).2).2⟩

/-- What a call leaves: what is known is known of the tree that it leaves, and that tree has grown
by directories of the trail alone. -/
def Keeps (t₀ t : FileTree) (p : Path) (x : Making × FileTree) : Prop :=
  Valid t₀ x.2 p x.1 ∧ Grown (fun l => l ∈ t₀.trail p) (fun _ => False) t x.2

/-- A refusal other than for something missing leaves the tree, and the directory to be looked at.
-/
theorem keeps_of_refused {missing : FileFailure → Making} {e : FileError}
    (h : Undisturbed t₀ t p) (hfault : pathFault? p = none) (hn : n ≤ p.parts.length)
    (hmake : t.makeDirectory (first p n) = .error (.refused e (first p n))) (he : e ≠ .notFound)
    (hknown : Blocked t₀ t p ∨ ∃ l, t.reach (t₀.start p) (p.parts.take n) = .ok l) :
    Keeps t₀ t p (ask t p n missing) := by
  rw [ask_of_refused hmake he]
  refine ⟨⟨asked_of_le hfault hn, ?_⟩, .refl t⟩
  exact hknown.imp_right fun hreach => ⟨hfault, hn, h.start ▸ hreach⟩

/-- Behind a directory that is there the next one is refused or made. -/
theorem keeps_of_reach {k : Nat} {l : Location} (missing : FileFailure → Making)
    (h : Undisturbed t₀ t p) (hfault : pathFault? p = none) (hk : k < p.parts.length)
    (hreach : t.reach (t₀.start p) (p.parts.take k) = .ok l) :
    Keeps t₀ t p (ask t p (k + 1) missing) := by
  obtain ⟨part, rest, hparts, htake⟩ := take_succ_append hk
  have hmake : t.makeDirectory (first p (k + 1)) = _ :=
    makeDirectory_of_parts (pathFault?_first hfault (k + 1)) htake
  rw [show t.start (first p (k + 1)) = t₀.start p from h.start, hreach] at hmake
  dsimp only at hmake
  have hknown : part = Path.up ∨ Text.byteLength part > maxName ∨
      t.entryAt? (l ++ [part]) ≠ none → Blocked t₀ t p ∨
        ∃ l, t.reach (t₀.start p) (p.parts.take (k + 1)) = .ok l := by
    intro hother
    rw [htake]
    exact (h.blocked_or_reach hfault hparts hreach hother).imp_right fun hok => ⟨_, hok⟩
  by_cases hup : part = Path.up
  · rw [if_pos hup] at hmake
    exact keeps_of_refused h hfault hk hmake (by decide) (hknown (.inl hup))
  · rw [if_neg hup] at hmake
    by_cases hlong : Text.byteLength part > maxName
    · rw [if_pos hlong] at hmake
      exact keeps_of_refused h hfault hk hmake (by decide) (hknown (.inr (.inl hlong)))
    · rw [if_neg hlong] at hmake
      cases hentry : t.entryAt? (l ++ [part]) with
      | some entry =>
          have hthere : t.entryAt? (l ++ [part]) ≠ none := hentry ▸ Option.some_ne_none entry
          rw [hentry] at hmake
          exact keeps_of_refused h hfault hk hmake (by decide) (hknown (.inr (.inr hthere)))
      -- This is the only call that changes the tree, and what it makes is on the trail.
      | none =>
          rw [hentry] at hmake
          have hask : ask t p (k + 1) missing =
              (after p (k + 1), t.put (l ++ [part]) .directory) := by
            simp only [ask, hmake]
          have hmem : l ++ [part] ∈ t₀.trail p :=
            h.mem_trail_of_missing hfault hparts hreach hup (Nat.not_lt.1 hlong) hentry
          rw [hask]
          exact ⟨valid_after (reached_of_makeDirectory hfault hk hmake),
            grown_put_directory (concat_ne_nil l part) hmem hentry⟩

/-- **What a single request does**: where nothing is missing above, it leaves what is known, and
what it makes is on the trail. -/
theorem keeps_of_ask (missing : FileFailure → Making) (h : Undisturbed t₀ t p)
    (hfault : pathFault? p = none) (hn : n ≤ p.parts.length)
    (hmissing : ∀ k failure, n = k + 1 → t.reach (t₀.start p) (p.parts.take k) = .error .notFound →
      Valid t₀ t p (missing failure)) :
    Keeps t₀ t p (ask t p n missing) := by
  cases n with
  | zero =>
      have hmake : t.makeDirectory (first p 0) = .error (.refused .alreadyThere (first p 0)) := by
        rw [makeDirectory, target_of_parts_eq_nil (pathFault?_first hfault 0) rfl]
      refine keeps_of_refused h hfault hn hmake (by decide)
        ((h.blocked_or_start hfault).imp_right fun hdir => ?_)
      exact ⟨t₀.start p, reach_eq_ok_iff.2 ⟨rfl, hdir⟩⟩
  | succ k =>
      cases hreach : t.reach (t₀.start p) (p.parts.take k) with
      | ok l => exact keeps_of_reach missing h hfault hn hreach
      | error e =>
          obtain ⟨part, rest, hparts, htake⟩ := take_succ_append hn
          have hmake : t.makeDirectory (first p (k + 1)) = _ :=
            makeDirectory_of_parts (pathFault?_first hfault (k + 1)) htake
          rw [show t.start (first p (k + 1)) = t₀.start p from h.start, hreach] at hmake
          by_cases he : e = .notFound
          · subst he
            have hask : ask t p (k + 1) missing =
                (missing (.refused .notFound (first p (k + 1))), t) := by
              simp only [ask, hmake]
            rw [hask]
            exact ⟨hmissing k _ rfl hreach, .refl t⟩
          · exact keeps_of_refused h hfault hn hmake he
              (.inl (h.blocked_of_reach hfault hparts hreach he))

theorem exists_ask_of_descending (t : FileTree) (p : Path) (n : Nat) :
    ∃ missing, (descending n).advance t p = some (ask t p n missing) := by
  cases n with
  | zero => exact ⟨failed, rfl⟩
  | succ n => exact ⟨fun _ => descending n, rfl⟩

/-- A path that is refused as it stands is refused for good. -/
theorem valid_of_advance_of_pathFault? {m m' : Making} {failure : FileFailure}
    (hfault : pathFault? p = some failure) (hvalid : Valid t₀ t p m)
    (hadvance : m.advance t p = some (m', t')) : Valid t₀ t' p m' ∧ t' = t := by
  have hne : pathFault? p ≠ none := hfault ▸ Option.some_ne_none failure
  have hblocked : Blocked t₀ t p := blocked_of_pathFault? hne
  have hfirst : ∀ {n}, Asked p n → first p n = p := by
    rintro n (rfl | ⟨-, hnone⟩)
    · rw [first, List.take_length]
    · exact absurd hnone hne
  have hmake : t.makeDirectory (first p p.parts.length) = .error failure := by
    rw [hfirst (.inl rfl), makeDirectory, target_of_fault hfault]
  have hask : ∀ missing, Valid t₀ (ask t p p.parts.length missing).2 p
      (ask t p p.parts.length missing).1 ∧ (ask t p p.parts.length missing).2 = t := by
    intro missing
    rcases pathFault?_cases hfault with hwithheld | rfl
    · rw [ask_of_withheld hmake hwithheld]
      exact ⟨hblocked, rfl⟩
    · rw [ask_of_refused hmake (by decide)]
      exact ⟨⟨.inl rfl, .inl hblocked⟩, rfl⟩
  cases m with
  | descending n =>
      obtain rfl : n = p.parts.length := hvalid.resolve_right fun hlt => hne hlt.2
      obtain ⟨missing, hdescending⟩ := exists_ask_of_descending t p p.parts.length
      have hresult := hask missing
      rw [Option.some.inj (hdescending.symm.trans hadvance)] at hresult
      exact hresult
  | climbing n =>
      obtain ⟨k, -, -, hnone, -⟩ := hvalid
      exact absurd hnone hne
  | checking n failure' =>
      obtain ⟨rfl, rfl⟩ := Prod.mk.inj (Option.some.inj hadvance)
      have hnodir : t.isDirectory (first p n) = false := by
        rw [hfirst hvalid.1, Bool.eq_false_iff]
        exact fun hdir => hne (isDirectory_iff.1 hdir).1
      rw [hnodir]
      exact ⟨hblocked, rfl⟩
  | made => exact absurd hadvance (by simp [advance])
  | failed failure => exact absurd hadvance (by simp [advance])

/-- **One call leaves what is known**, and what it makes is on the trail. -/
theorem keeps_of_advance {m m' : Making} (h : Undisturbed t₀ t p) (hvalid : Valid t₀ t p m)
    (hadvance : m.advance t p = some (m', t')) : Keeps t₀ t p (m', t') := by
  cases hfault : pathFault? p with
  | some failure =>
      obtain ⟨hvalid', rfl⟩ := valid_of_advance_of_pathFault? hfault hvalid hadvance
      exact ⟨hvalid', .refl t'⟩
  | none =>
      cases m with
      | descending n =>
          cases n with
          | zero =>
              have hask := keeps_of_ask failed h hfault (Nat.zero_le _) (by simp)
              rw [Option.some.inj hadvance] at hask
              exact hask
          | succ n =>
              have hn : n + 1 ≤ p.parts.length := hvalid.le
              have hask := keeps_of_ask (fun _ => descending n) h hfault hn
                fun k _ hk _ => .inr ⟨hn, hfault⟩
              rw [Option.some.inj hadvance] at hask
              exact hask
      | climbing n =>
          obtain ⟨k, rfl, hk, -, -, l, hreach⟩ := hvalid
          have hask := keeps_of_ask failed h hfault hk fun k' _ hk' hmissing => by
            obtain rfl : k' = k := (Nat.succ.inj hk').symm
            rw [h.start, hmissing] at hreach
            exact absurd hreach (by simp)
          rw [Option.some.inj hadvance] at hask
          exact hask
      | checking n failure =>
          obtain ⟨rfl, rfl⟩ := Prod.mk.inj (Option.some.inj hadvance)
          refine ⟨?_, .refl t⟩
          split
          · rename_i hdir
            exact valid_after ⟨hfault, hvalid.1.le, (isDirectory_iff.1 hdir).2⟩
          · rename_i hnodir
            refine hvalid.2.resolve_right fun hreached => hnodir ?_
            exact isDirectory_iff.2 ⟨pathFault?_first hfault n, hreached.2.2⟩
      | made => exact absurd hadvance (by simp [advance])
      | failed failure => exact absurd hadvance (by simp [advance])

/-! ## Among others -/

/-- What others do leaves what is known. -/
theorem Valid.mono {m : Making} {D W : Location → Prop} (h : Grown D W t t')
    (hvalid : Valid t₀ t p m) : Valid t₀ t' p m := by
  have hblocked : Blocked t₀ t p → Blocked t₀ t' p := fun hb =>
    ⟨hb.1, fun l hl => h.directory (hb.2 l hl)⟩
  have hreached : ∀ {n}, Reached t p n → Reached t' p n := by
    rintro n ⟨hfault, hn, l, hreach⟩
    exact ⟨hfault, hn, l, h.start p ▸ h.reach hreach⟩
  cases m with
  | descending n => exact hvalid
  | climbing n =>
      obtain ⟨k, hk, hlt, hr⟩ := hvalid
      exact ⟨k, hk, hlt, hreached hr⟩
  | checking n failure => exact ⟨hvalid.1, hvalid.2.imp hblocked hreached⟩
  | made => exact hreached hvalid
  | failed failure => exact hblocked hvalid

/-- The asking begins with nothing known but that all directories can be asked for. -/
theorem valid_start (t₀ t : FileTree) (p : Path) : Valid t₀ t p (descending p.parts.length) :=
  .inl rfl

/-- **Success is the open path**: all directories of the trail are there, and the path leads where
it leads on paper. -/
theorem Valid.of_made (h : Undisturbed t₀ t p) (hvalid : Valid t₀ t p made) :
    t₀.isOpen p = true ∧ (∀ l ∈ t₀.trail p, t.entryAt? l = some .directory) ∧
      t.reach (t.start p) p.parts = .ok (t₀.landing p) := by
  obtain ⟨hfault, -, l, hreach⟩ := hvalid
  rw [List.take_length] at hreach
  have hfound := hreach
  rw [h.start] at hfound
  obtain ⟨hopen, htrail, -, rfl⟩ := h.reached hfound
  rw [isOpen_of_pathFault?_eq_none hfault, trail_of_pathFault?_eq_none hfault]
  exact ⟨hopen, htrail, hreach⟩

/-- **Failure is the blocked path**, with the whole trail made nevertheless. -/
theorem Valid.of_failed {failure : FileFailure} (hvalid : Valid t₀ t p (failed failure)) :
    t₀.isOpen p = false ∧ ∀ l ∈ t₀.trail p, t.entryAt? l = some .directory :=
  hvalid

/-! ## A file at the end -/

variable {before : List Text} {name : Text} {content : Bytes}

theorem Valid.target (h : Undisturbed t₀ t p.parent) (hvalid : Valid t₀ t p.parent made)
    (hfault : pathFault? p = none) (hparts : p.parts = before ++ [name]) (hup : name ≠ Path.up) :
    t.target p = if Text.byteLength name > maxName then .error (.refused .nameTooLong p)
      else .ok (t₀.landing p.parent, some name) := by
  obtain ⟨-, -, hreach⟩ := hvalid.of_made h
  have hparent : p.parent.parts = before := by
    rw [Path.parent, hparts, List.dropLast_concat]
  have hstart : t.start p = t.start p.parent := rfl
  rw [hparent, ← hstart] at hreach
  rw [target_of_parts hfault hparts, hreach]
  simp [hup]

/-- A file that is written at the end of the chain could be told to be, and its place too. -/
theorem Valid.writable_of_overwrite (h : Undisturbed t₀ t p.parent)
    (hvalid : Valid t₀ t p.parent made) (hparts : p.parts = before ++ [name])
    (hup : name ≠ Path.up) (hover : t.overwrite p content = .ok t') :
    Writable t₀ p ∧ Grown (fun _ => False) (· = t₀.landing p) t t' ∧
      t'.entryAt? (t₀.landing p) = some (.file content) := by
  obtain ⟨l, name', htarget, hnodir, rfl⟩ := overwrite_eq_ok_iff.1 hover
  obtain ⟨hfault, -⟩ := target_eq_ok_iff.1 htarget
  rw [hvalid.target h hfault hparts hup] at htarget
  split at htarget
  · exact absurd htarget (by simp)
  · rename_i hshort
    obtain ⟨rfl, rfl⟩ : t₀.landing p.parent = l ∧ name = name' := by simpa using htarget
    obtain ⟨hopen, htrail, -⟩ := hvalid.of_made h
    rw [landing_of_parts hparts hup]
    refine ⟨⟨hfault, hopen, ?_, ?_, ?_⟩,
      grown_put_file (W := (· = t₀.landing p.parent ++ [name])) (concat_ne_nil _ name) rfl hnodir
        content, entryAt?_put_self t _ name _⟩
    · intro name' hname'
      rw [hparts, List.getLast?_concat] at hname'
      exact Option.some.inj hname' ▸ Nat.not_lt.1 hshort
    · rw [landing_of_parts hparts hup]
      exact fun hdir => hnodir (h.directory hdir)
    · rw [landing_of_parts hparts hup]
      exact fun hmem => hnodir (htrail _ hmem)

/-- A file that cannot be written at the end of the chain could be told not to be, unless others
have made a directory in its place. -/
theorem Valid.not_writable_of_overwrite {failure : FileFailure} (h : Undisturbed t₀ t p.parent)
    (hvalid : Valid t₀ t p.parent made) (hparts : p.parts = before ++ [name])
    (hup : name ≠ Path.up) (hover : t.overwrite p content = .error failure)
    (hplace : t.entryAt? (t₀.landing p) = some .directory →
      t₀.entryAt? (t₀.landing p) = some .directory ∨ t₀.landing p ∈ t₀.trail p.parent) :
    ¬ Writable t₀ p := by
  rintro ⟨hfault, -, hshort, hnodir, hoff⟩
  have htarget := hvalid.target h hfault hparts hup
  rw [if_neg (Nat.not_lt.2 (hshort name (by rw [hparts, List.getLast?_concat])))] at htarget
  have hok : t.overwrite p content = .ok (t.put (t₀.landing p) (.file content)) := by
    rw [overwrite_eq_ok_iff]
    refine ⟨_, _, htarget, ?_, ?_⟩
    · rw [← landing_of_parts hparts hup]
      exact fun hdir => (hplace hdir).elim hnodir hoff
    · rw [landing_of_parts hparts hup]
  exact absurd (hover.symm.trans hok) (by simp)

end Making

end Scaffold.FileTree
