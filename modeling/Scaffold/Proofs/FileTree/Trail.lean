/-
# Scaffold.Proofs.FileTree.Trail -- how far a chain of directories can be made

Which directories come of making a chain of them can be told from the tree at the beginning, whoever
else makes directories in the meantime. A location is barred where a file stands, and also where
nothing stands although the way down to the starting point leads through it: the path can only get
there by `..`, and `..` makes nothing. The trail of a path are the locations that it passes on
paper, up to the first that is barred or whose name is too long, and the path is open if there is
none.

Two lemmas compare a later tree with that: what is found by following the path is a beginning of the
trail (`trail_of_reach_eq_ok`), and where something else than a missing directory stops the search,
the path is not open and its whole trail is there (`trail_of_reach_eq_error`). So an obstacle that
is met is the obstacle that was told, and nothing beyond it has been made.

The trees are arbitrary here too. `Around` is what holds of them on the way: between the place where
the path turned from leading up to leading down and both its ends, everything is a directory.
-/

import Scaffold.Proofs.FileTree.Growth
import Mathlib.Data.List.Infix

namespace Scaffold.FileTree

/-! ## Trails -/

/-- One part further, as if every location on the way were a directory. -/
def onward (l : Location) (part : Text) : Location :=
  if part = Path.up then l.dropLast else l ++ [part]

/-- Whether a part can lead further at all. -/
def isPassable (part : Text) : Bool := part = Path.up || Text.byteLength part ≤ maxName

/-- Whether there is no way on at a location, now or later: a file is there, or nothing is there and
the way down to the starting point leads through it. -/
def isBarred (t : FileTree) (s l : Location) : Bool :=
  match t.entryAt? l with
  | some .directory => false
  | some (.file _) => true
  | none => l.isPrefixOf s

/-- The locations that parts pass from a location on, the location itself included, as far as there
is a way. -/
def trailFrom (t : FileTree) (s l : Location) : List Text → List Location
  | [] => if t.isBarred s l then [] else [l]
  | part :: parts =>
    if t.isBarred s l then []
    else l :: if isPassable part then trailFrom t s (onward l part) parts else []

/-- Whether there is a way all along. -/
def isOpenFrom (t : FileTree) (s l : Location) : List Text → Bool
  | [] => !t.isBarred s l
  | part :: parts =>
    !t.isBarred s l && isPassable part && isOpenFrom t s (onward l part) parts

/-- The trail of a path to a directory. A path that is refused as it stands has none. -/
def trail (t : FileTree) (p : Path) : List Location :=
  if pathFault? p = none then t.trailFrom (t.start p) (t.start p) p.parts else []

/-- Whether all the directories of a path can be made. -/
def isOpen (t : FileTree) (p : Path) : Bool :=
  decide (pathFault? p = none) && t.isOpenFrom (t.start p) (t.start p) p.parts

/-- Where a path leads on paper. -/
def landing (t : FileTree) (p : Path) : Location := p.parts.foldl onward (t.start p)

variable {t t' t₀ : FileTree} {s l l' : Location} {part : Text} {parts rest : List Text} {p : Path}

theorem onward_up (l : Location) : onward l Path.up = l.dropLast := if_pos rfl

theorem onward_of_ne (h : part ≠ Path.up) : onward l part = l ++ [part] := if_neg h

/-- A part that is passable and names something that is there leads on. -/
theorem step_eq_ok_onward (hl : t.entryAt? l = some .directory) (hpass : isPassable part = true)
    (hthere : t.entryAt? (onward l part) ≠ none) : t.step l part = .ok (onward l part) := by
  rw [step_eq_ok_iff]
  by_cases hup : part = Path.up
  · exact ⟨hl, .inl ⟨hup, hup ▸ onward_up l⟩⟩
  · have hshort : Text.byteLength part ≤ maxName := by simpa [isPassable, hup] using hpass
    rw [onward_of_ne hup] at hthere ⊢
    exact ⟨hl, .inr ⟨hup, hshort, hthere, rfl⟩⟩

theorem not_isBarred_of_mem_trailFrom (h : l' ∈ t.trailFrom s l parts) :
    t.isBarred s l' = false := by
  induction parts generalizing l with
  | nil =>
      rw [trailFrom] at h
      split at h
      · simp at h
      · rename_i hclear
        rw [List.mem_singleton.1 h]
        exact Bool.eq_false_iff.2 hclear
  | cons part parts ih =>
      rw [trailFrom] at h
      split at h
      · simp at h
      · rename_i hclear
        rcases List.mem_cons.1 h with rfl | h
        · exact Bool.eq_false_iff.2 hclear
        · split at h
          · exact ih h
          · simp at h

theorem not_isBarred_of_mem_trail (h : l ∈ t.trail p) : t.isBarred (t.start p) l = false := by
  unfold trail at h
  split at h
  · exact not_isBarred_of_mem_trailFrom h
  · simp at h

/-- A way all along is a way to each part of it. -/
theorem isOpenFrom_append (part : Text) (parts rest : List Text) :
    t.isOpenFrom s l (parts ++ part :: rest) =
      (t.isOpenFrom s l parts && (isPassable part &&
        t.isOpenFrom s (onward (parts.foldl onward l) part) rest)) := by
  induction parts generalizing l with
  | nil => simp [isOpenFrom, Bool.and_assoc]
  | cons first parts ih => simp [isOpenFrom, ih, Bool.and_assoc]

/-- Where there is a way all along, the trail goes on behind it. -/
theorem trailFrom_append_of_isOpenFrom (h : t.isOpenFrom s l parts = true) (part : Text)
    (rest : List Text) :
    t.trailFrom s l (parts ++ part :: rest) =
      t.trailFrom s l parts ++
        if isPassable part then t.trailFrom s (onward (parts.foldl onward l) part) rest
        else [] := by
  induction parts generalizing l with
  | nil =>
      have hclear : t.isBarred s l = false := by simpa [isOpenFrom] using h
      simp [trailFrom, hclear]
  | cons first parts ih =>
      simp only [isOpenFrom, Bool.and_eq_true, Bool.not_eq_true'] at h
      obtain ⟨⟨hclear, hpass⟩, hrest⟩ := h
      simp [trailFrom, hclear, hpass, ih hrest]

/-- Where there is no way all along, the trail ends before. -/
theorem trailFrom_append_of_not_isOpenFrom (h : t.isOpenFrom s l parts = false)
    (rest : List Text) : t.trailFrom s l (parts ++ rest) = t.trailFrom s l parts := by
  induction parts generalizing l with
  | nil =>
      have hbarred : t.isBarred s l = true := by simpa [isOpenFrom] using h
      cases rest <;> simp [trailFrom, hbarred]
  | cons first parts ih =>
      rw [List.cons_append, trailFrom, trailFrom]
      by_cases hbarred : t.isBarred s l = true
      · simp [hbarred]
      · by_cases hpass : isPassable first = true
        · have hrest : t.isOpenFrom s (onward l first) parts = false := by
            simpa [isOpenFrom, hbarred, hpass] using h
          simp [hbarred, hpass, ih hrest]
        · simp [hpass]

/-! ## On the way -/

/-- From the place where the way turned from leading up to leading down, everything is a directory
on both sides: down to the starting point and down to where the way has led. -/
def Around (t : FileTree) (s l : Location) : Prop :=
  ∃ turn, turn <+: s ∧ turn <+: l ∧
    ∀ q, turn <+: q → q <+: s ∨ q <+: l → t.entryAt? q = some .directory

theorem around_self (h : t.entryAt? s = some .directory) : Around t s s := by
  refine ⟨s, List.prefix_rfl, List.prefix_rfl, fun q hq hqs => ?_⟩
  have hqs : q <+: s := hqs.elim id id
  rwa [← hq.eq_of_length_le hqs.length_le]

theorem prefix_dropLast {α : Type} {x y : List α} (h : x <+: y) : x = y ∨ x <+: y.dropLast := by
  rcases List.eq_nil_or_concat y with rfl | ⟨y, a, rfl⟩
  · exact .inl (List.prefix_nil.1 h)
  · rw [List.concat_eq_append] at h ⊢
    rw [List.dropLast_concat]
    exact List.prefix_concat_iff.1 h

namespace Around

theorem directory (h : Around t s l) : t.entryAt? l = some .directory := by
  obtain ⟨turn, -, hl, hall⟩ := h
  exact hall l hl (.inr List.prefix_rfl)

/-- The way goes on wherever there is a directory. -/
theorem onward (h : Around t s l) (hdir : t.entryAt? (onward l part) = some .directory) :
    Around t s (FileTree.onward l part) := by
  obtain ⟨turn, hs, hl, hall⟩ := h
  by_cases hup : part = Path.up
  · subst hup
    rw [onward_up] at hdir ⊢
    rcases prefix_dropLast hl with rfl | hl'
    -- The way leads further up than before, so it turns one directory higher.
    · refine ⟨turn.dropLast, (turn.dropLast_prefix).trans hs, List.prefix_rfl, fun q hq hq' => ?_⟩
      have hcases : q <+: turn.dropLast ∨ (turn <+: q ∧ q <+: s) := by
        rcases hq' with hqs | hqd
        · rcases List.prefix_or_prefix_of_prefix hqs hs with hqt | htq
          · rcases prefix_dropLast hqt with rfl | hqd
            · exact .inr ⟨List.prefix_rfl, hs⟩
            · exact .inl hqd
          · exact .inr ⟨htq, hqs⟩
        · exact .inl hqd
      rcases hcases with hqd | ⟨htq, hqs⟩
      · rwa [← hq.eq_of_length_le hqd.length_le]
      · exact hall q htq (.inl hqs)
    · exact ⟨turn, hs, hl', fun q hq hq' =>
        hall q hq (hq'.imp_right fun hqd => hqd.trans (l.dropLast_prefix))⟩
  · rw [onward_of_ne hup] at hdir ⊢
    refine ⟨turn, hs, hl.trans (List.prefix_append l [part]), fun q hq hq' => ?_⟩
    rcases hq' with hqs | hql
    · exact hall q hq (.inl hqs)
    · rcases List.prefix_concat_iff.1 hql with rfl | hql
      · exact hdir
      · exact hall q hq (.inr hql)

/-- What is missing above lies on the way down to the starting point. -/
theorem dropLast_before (h : Around t s l) (hnone : t.entryAt? l.dropLast = none) :
    l.dropLast <+: s := by
  obtain ⟨turn, hs, hl, hall⟩ := h
  rcases prefix_dropLast hl with rfl | hl'
  · exact (turn.dropLast_prefix).trans hs
  · have := hall l.dropLast hl' (.inr l.dropLast_prefix)
    exact absurd (hnone.symm.trans this) (by simp)

/-- What is missing below does not. -/
theorem not_concat_before (h : Around t s l) (hnone : t.entryAt? (l ++ [part]) = none) :
    ¬ l ++ [part] <+: s := by
  obtain ⟨turn, hs, hl, hall⟩ := h
  intro hbefore
  have := hall (l ++ [part]) (hl.trans (List.prefix_append l [part])) (.inl hbefore)
  exact absurd (hnone.symm.trans this) (by simp)

end Around

/-! ## A later tree -/

/-- What a later tree looks like on a trail: directories are not barred, files are, and what is
missing was missing before. -/
structure Later (t₀ t : FileTree) (s : Location) (onTrail : Location → Prop) : Prop where
  directory : ∀ l, t.entryAt? l = some .directory → t₀.isBarred s l = false
  file : ∀ l content, t.entryAt? l = some (.file content) → (t₀.isBarred s l = false → onTrail l) →
    t₀.isBarred s l = true
  missing : ∀ l, t.entryAt? l = none → t₀.isBarred s l = l.isPrefixOf s

/-- Directories that are new where nothing is barred, and files that are new off the trail. -/
theorem later_of_grown {onTrail : Location → Prop}
    (h : Grown (fun l => t₀.isBarred s l = false) (fun l => ¬ onTrail l) t₀ t) :
    Later t₀ t s onTrail where
  directory l hl := by
    rcases h.entry l with hsame | ⟨hclear, -, -⟩ | ⟨-, -, content, hfile⟩
    · simp [isBarred, ← hsame, hl]
    · exact hclear
    · exact absurd (hl.symm.trans hfile) (by simp)
  file l content hl hclear := by
    rcases h.entry l with hsame | ⟨-, -, hdir⟩ | ⟨hoff, hnodir, -⟩
    · simp [isBarred, ← hsame, hl]
    · exact absurd (hl.symm.trans hdir) (by simp)
    · by_contra hbarred
      exact hoff (hclear (Bool.eq_false_iff.2 hbarred))
  missing l hl := by
    have hnone : t₀.entryAt? l = none := by
      by_contra hthere
      exact h.there hthere hl
    simp [isBarred, hnone]

theorem reach_nil : t.reach l [] =
    match t.entryAt? l with
    | some .directory => .ok l
    | some (.file _) => .error .notDirectory
    | none => .error .notFound := rfl

/-- Parts are followed from a directory on, one after another. -/
theorem reach_cons : t.reach l (part :: parts) =
    match t.entryAt? l with
    | some .directory =>
      if isPassable part then t.reach (onward l part) parts else .error .nameTooLong
    | some (.file _) => .error .notDirectory
    | none => .error .notFound := by
  rw [reach, follow, step]
  rcases t.entryAt? l with _ | _ | _
  · rfl
  · rfl
  · by_cases hup : part = Path.up
    · simp [hup, isPassable, onward_up, reach]
    · by_cases hlong : Text.byteLength part > maxName
      · simp [hup, hlong, isPassable, Nat.not_le.2 hlong]
      · have hpass : isPassable part = true := by simp [isPassable, Nat.not_lt.1 hlong]
        cases hentry : t.entryAt? (l ++ [part]) with
        | some entry => simp [hup, hlong, hpass, onward_of_ne hup, reach]
        | none =>
            have hmissing : t.reach (l ++ [part]) parts = .error .notFound := by
              cases parts with
              | nil => simp [reach_nil, hentry]
              | cons next parts => simp [reach, follow, step, hentry]
            simp [hup, hlong, hpass, onward_of_ne hup, hmissing]

theorem trailFrom_of_isBarred (h : t.isBarred s l = true) (parts : List Text) :
    t.trailFrom s l parts = [] := by
  cases parts <;> simp [trailFrom, h]

theorem isOpenFrom_of_isBarred (h : t.isBarred s l = true) (parts : List Text) :
    t.isOpenFrom s l parts = false := by
  cases parts <;> simp [isOpenFrom, h]

theorem mem_trailFrom_self (h : t.isBarred s l = false) (parts : List Text) :
    l ∈ t.trailFrom s l parts := by
  cases parts <;> simp [trailFrom, h]

variable {onTrail : Location → Prop}

/-- **What is found is a beginning of the trail**: following parts to a directory passes directories
only, and all of them were told. -/
theorem trail_of_reach_eq_ok (h : Later t₀ t s onTrail)
    (haround : t.entryAt? l = some .directory → Around t s l)
    (hreach : t.reach l parts = .ok l') :
    t₀.isOpenFrom s l parts = true ∧
      (∀ q ∈ t₀.trailFrom s l parts, t.entryAt? q = some .directory) ∧
      Around t s l' ∧ l' = parts.foldl onward l := by
  induction parts generalizing l with
  | nil =>
      rw [reach_nil] at hreach
      rcases hl : t.entryAt? l with _ | _ | _ <;> simp [hl] at hreach
      subst hreach
      have hclear := h.directory l hl
      simp [isOpenFrom, trailFrom, hclear, hl, haround hl]
  | cons part parts ih =>
      rw [reach_cons] at hreach
      rcases hl : t.entryAt? l with _ | _ | _ <;> simp only [hl] at hreach
      · simp at hreach
      · simp at hreach
      · have hclear := h.directory l hl
        split at hreach
        · rename_i hpass
          obtain ⟨hopen, htrail, hl', hlanding⟩ := ih (haround hl).onward hreach
          refine ⟨?_, ?_, hl', hlanding⟩
          · simp [isOpenFrom, hclear, hpass, hopen]
          · simpa [trailFrom, hclear, hpass, hl] using htrail
        · simp at hreach

/-- A file in the way was told. -/
theorem trail_of_file {content : Bytes} (h : Later t₀ t s onTrail)
    (hon : ∀ q ∈ t₀.trailFrom s l parts, onTrail q) (hl : t.entryAt? l = some (.file content)) :
    t₀.isOpenFrom s l parts = false ∧ t₀.trailFrom s l parts = [] := by
  have hbarred := h.file l content hl fun hclear => hon l (mem_trailFrom_self hclear parts)
  exact ⟨isOpenFrom_of_isBarred hbarred parts, trailFrom_of_isBarred hbarred parts⟩

/-- **What stops the search was told**: where anything but a missing directory is in the way, there
is no way, and the whole trail is there. -/
theorem trail_of_reach_eq_error {e : FileError} (h : Later t₀ t s onTrail)
    (hon : ∀ q ∈ t₀.trailFrom s l parts, onTrail q) (hreach : t.reach l parts = .error e)
    (he : e ≠ .notFound) :
    t₀.isOpenFrom s l parts = false ∧
      ∀ q ∈ t₀.trailFrom s l parts, t.entryAt? q = some .directory := by
  induction parts generalizing l with
  | nil =>
      rw [reach_nil] at hreach
      rcases hl : t.entryAt? l with _ | content | _ <;> simp only [hl] at hreach
      · exact absurd (Except.error.inj hreach).symm he
      · obtain ⟨hopen, htrail⟩ := trail_of_file h hon hl
        simp [hopen, htrail]
      · simp at hreach
  | cons part parts ih =>
      rw [reach_cons] at hreach
      rcases hl : t.entryAt? l with _ | content | _ <;> simp only [hl] at hreach
      · exact absurd (Except.error.inj hreach).symm he
      · obtain ⟨hopen, htrail⟩ := trail_of_file h hon hl
        simp [hopen, htrail]
      · have hclear := h.directory l hl
        split at hreach
        · rename_i hpass
          have hon' : ∀ q ∈ t₀.trailFrom s (onward l part) parts, onTrail q := fun q hq =>
            hon q (by simp [trailFrom, hclear, hpass, hq])
          obtain ⟨hopen, htrail⟩ := ih hon' hreach
          refine ⟨?_, ?_⟩
          · simp [isOpenFrom, hopen]
          · simpa [trailFrom, hclear, hpass, hl] using htrail
        · rename_i hpass
          simp [isOpenFrom, trailFrom, hclear, hpass, hl]

/-- A way ends before a part that leads nowhere. -/
theorem trail_of_stop (h : t.isOpenFrom s l parts = true)
    (hstop : isPassable part = false ∨ t.isBarred s (onward (parts.foldl onward l) part) = true)
    (rest : List Text) :
    t.isOpenFrom s l (parts ++ part :: rest) = false ∧
      t.trailFrom s l (parts ++ part :: rest) = t.trailFrom s l parts := by
  rw [isOpenFrom_append, trailFrom_append_of_isOpenFrom h]
  rcases hstop with hpass | hbarred
  · simp [hpass]
  · simp [isOpenFrom_of_isBarred hbarred, trailFrom_of_isBarred hbarred]

/-- The trail to a beginning is a beginning of the trail. -/
theorem trailFrom_subset_append (parts rest : List Text) :
    t.trailFrom s l parts ⊆ t.trailFrom s l (parts ++ rest) := by
  cases hopen : t.isOpenFrom s l parts with
  | false =>
      rw [trailFrom_append_of_not_isOpenFrom hopen]
      exact List.Subset.refl _
  | true =>
      cases rest with
      | nil =>
          rw [List.append_nil]
          exact List.Subset.refl _
      | cons part rest =>
          rw [trailFrom_append_of_isOpenFrom hopen]
          exact List.subset_append_left _ _

/-- One part more adds at most one location to the trail. -/
theorem mem_trailFrom_concat (h : l' ∈ t.trailFrom s l (parts ++ [part])) :
    l' ∈ t.trailFrom s l parts ∨ l' = onward (parts.foldl onward l) part := by
  cases hopen : t.isOpenFrom s l parts with
  | false =>
      rw [trailFrom_append_of_not_isOpenFrom hopen] at h
      exact .inl h
  | true =>
      rw [trailFrom_append_of_isOpenFrom hopen] at h
      refine (List.mem_append.1 h).imp_right fun hlast => ?_
      split at hlast
      · rw [trailFrom] at hlast
        split at hlast
        · simp at hlast
        · exact List.mem_singleton.1 hlast
      · simp at hlast

theorem isOpenFrom_append_of_not_isOpenFrom (h : t.isOpenFrom s l parts = false)
    (rest : List Text) : t.isOpenFrom s l (parts ++ rest) = false := by
  cases rest with
  | nil => rwa [List.append_nil]
  | cons part rest => rw [isOpenFrom_append, h, Bool.false_and]

theorem trail_of_pathFault?_eq_none (h : pathFault? p = none) :
    t.trail p = t.trailFrom (t.start p) (t.start p) p.parts := if_pos h

theorem isOpen_of_pathFault?_eq_none (h : pathFault? p = none) :
    t.isOpen p = t.isOpenFrom (t.start p) (t.start p) p.parts := by
  simp [isOpen, h]

/-! ## A file at the end -/

theorem landing_of_parts {before : List Text} {name : Text} (hparts : p.parts = before ++ [name])
    (hup : name ≠ Path.up) : t.landing p = t.landing p.parent ++ [name] := by
  have hparent : p.parent.parts = before := by
    rw [Path.parent, hparts, List.dropLast_concat]
  rw [landing, landing, hparts, List.foldl_append, hparent]
  exact onward_of_ne hup

/-- Whether a file can be written with its directories, as far as the tree tells: its path is not
refused as it stands, the path of its directory is open, its name is not too long, and no directory
is in its place, nor will be when its own directories are made. -/
def Writable (t : FileTree) (p : Path) : Prop :=
  pathFault? p = none ∧ t.isOpen p.parent = true ∧
    (∀ name, p.parts.getLast? = some name → Text.byteLength name ≤ maxName) ∧
    t.entryAt? (t.landing p) ≠ some .directory ∧ t.landing p ∉ t.trail p.parent

end Scaffold.FileTree
