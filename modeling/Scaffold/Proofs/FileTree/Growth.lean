/-
# Scaffold.Proofs.FileTree.Growth -- what operations on files leave as it was

Making directories and writing files only ever add to a tree. `Grown` says what that means: nothing
goes away and no directory turns into a file; a directory can be new where nothing was, at the
locations of one kind, and a file can be new or have new content at the locations of another kind.
Every operation that succeeds is a growth by one location (`grown_of_makeDirectory`,
`grown_of_overwrite`), and growths compose (`Grown.trans`).

A path that leads somewhere leads there in every later tree (`Grown.follow`, `Grown.locate`), so
what has been written can be read back for as long as nobody writes to the same location
(`Grown.content`). A location ends as the path to it does (`exists_eq_append_of_locate`), so two
paths whose last parts differ never lead to the same one, wherever their directories are.

The trees are arbitrary: nothing asks for the directory above an entry to be there.
-/

import Scaffold.FileTree
import Mathlib.Data.List.Basic

namespace Scaffold.FileTree

/-! ## Growing -/

/-- One tree grown from another: directories are new only at locations in `D`, where nothing was,
and files are new or have new content only at locations in `W`, where no directory was. -/
structure Grown (D W : Location → Prop) (t t' : FileTree) : Prop where
  workingDirectory : t'.workingDirectory = t.workingDirectory
  entry : ∀ l, t'.entryAt? l = t.entryAt? l ∨
    (D l ∧ t.entryAt? l = none ∧ t'.entryAt? l = some .directory) ∨
    (W l ∧ t.entryAt? l ≠ some .directory ∧ ∃ content, t'.entryAt? l = some (.file content))

namespace Grown

variable {D W : Location → Prop} {t t' t'' : FileTree}

theorem refl (t : FileTree) : Grown D W t t := ⟨rfl, fun _ => .inl rfl⟩

theorem mono {D' W' : Location → Prop} (h : Grown D W t t') (hD : ∀ l, D l → D' l)
    (hW : ∀ l, W l → W' l) : Grown D' W' t t' where
  workingDirectory := h.workingDirectory
  entry l := by
    rcases h.entry l with hsame | ⟨hl, hnone, hdir⟩ | ⟨hl, hnodir, hfile⟩
    · exact .inl hsame
    · exact .inr (.inl ⟨hD l hl, hnone, hdir⟩)
    · exact .inr (.inr ⟨hW l hl, hnodir, hfile⟩)

theorem trans (h : Grown D W t t') (h' : Grown D W t' t'') : Grown D W t t'' where
  workingDirectory := h'.workingDirectory.trans h.workingDirectory
  entry l := by
    rcases h'.entry l with hsame' | ⟨hl', hnone', hdir'⟩ | ⟨hl', hnodir', hfile'⟩
    · rw [hsame']
      exact h.entry l
    · rcases h.entry l with hsame | ⟨-, -, hdir⟩ | ⟨-, -, content, hfile⟩
      · exact .inr (.inl ⟨hl', hsame ▸ hnone', hdir'⟩)
      · exact absurd (hnone'.symm.trans hdir) (by simp)
      · exact absurd (hnone'.symm.trans hfile) (by simp)
    · rcases h.entry l with hsame | ⟨-, -, hdir⟩ | ⟨-, hnodir, -⟩
      · exact .inr (.inr ⟨hl', hsame ▸ hnodir', hfile'⟩)
      · exact absurd hdir hnodir'
      · exact .inr (.inr ⟨hl', hnodir, hfile'⟩)

/-- A directory stays a directory. -/
theorem directory (h : Grown D W t t') {l : Location} (hl : t.entryAt? l = some .directory) :
    t'.entryAt? l = some .directory := by
  rcases h.entry l with hsame | ⟨-, hnone, -⟩ | ⟨-, hnodir, -⟩
  · rw [hsame, hl]
  · exact absurd (hl.symm.trans hnone) (by simp)
  · exact absurd hl hnodir

/-- A file outside the locations that are written to stays as it is. -/
theorem file (h : Grown D W t t') {l : Location} {content : Bytes}
    (hl : t.entryAt? l = some (.file content)) (hW : ¬ W l) :
    t'.entryAt? l = some (.file content) := by
  rcases h.entry l with hsame | ⟨-, hnone, -⟩ | ⟨hl', -, -⟩
  · rw [hsame, hl]
  · exact absurd (hl.symm.trans hnone) (by simp)
  · exact absurd hl' hW

/-- Nothing goes away. -/
theorem there (h : Grown D W t t') {l : Location} (hl : t.entryAt? l ≠ none) :
    t'.entryAt? l ≠ none := by
  rcases h.entry l with hsame | ⟨-, -, hdir⟩ | ⟨-, -, content, hfile⟩
  · rwa [hsame]
  · simp [hdir]
  · simp [hfile]

/-- What is new is a directory or a file at one of the locations that are written to. -/
theorem new (h : Grown D W t t') {l : Location} (hl : t.entryAt? l = none)
    (hl' : t'.entryAt? l ≠ none) :
    (D l ∧ t'.entryAt? l = some .directory) ∨
      (W l ∧ ∃ content, t'.entryAt? l = some (.file content)) := by
  rcases h.entry l with hsame | ⟨hD, -, hdir⟩ | ⟨hW, -, hfile⟩
  · exact absurd (hsame.trans hl) hl'
  · exact .inl ⟨hD, hdir⟩
  · exact .inr ⟨hW, hfile⟩

end Grown

/-- A new directory where nothing was. -/
theorem grown_put_directory {D W : Location → Prop} {t : FileTree} {l : Location} (hl : l ≠ [])
    (hD : D l) (hnone : t.entryAt? l = none) : Grown D W t (t.put l .directory) where
  workingDirectory := rfl
  entry m := by
    rw [entryAt?_put t hl]
    by_cases hm : m = l
    · subst hm
      exact .inr (.inl ⟨hD, hnone, if_pos rfl⟩)
    · exact .inl (if_neg hm)

/-- A file where no directory was. -/
theorem grown_put_file {D W : Location → Prop} {t : FileTree} {l : Location} (hl : l ≠ [])
    (hW : W l) (hnodir : t.entryAt? l ≠ some .directory) (content : Bytes) :
    Grown D W t (t.put l (.file content)) where
  workingDirectory := rfl
  entry m := by
    rw [entryAt?_put t hl]
    by_cases hm : m = l
    · subst hm
      exact .inr (.inr ⟨hW, hnodir, content, if_pos rfl⟩)
    · exact .inl (if_neg hm)

/-! ## Following a path -/

variable {t t' : FileTree} {l l' : Location} {part : Text} {parts : List Text} {p : Path}

/-- One part leads further from a directory only, and only to something that is there; `..` leads
up in any case. -/
theorem step_eq_ok_iff :
    t.step l part = .ok l' ↔
      t.entryAt? l = some .directory ∧
        ((part = Path.up ∧ l' = l.dropLast) ∨
          (part ≠ Path.up ∧ Text.byteLength part ≤ maxName ∧ t.entryAt? (l ++ [part]) ≠ none ∧
            l' = l ++ [part])) := by
  unfold step
  cases hl : t.entryAt? l with
  | none => simp
  | some entry =>
      cases entry with
      | file content => simp
      | directory =>
          by_cases hup : part = Path.up
          · simp [hup, eq_comm]
          · by_cases hlong : maxName < Text.byteLength part
            · simp [hup, hlong, Nat.not_le.2 hlong]
            · have hshort : Text.byteLength part ≤ maxName := Nat.not_lt.1 hlong
              cases hentry : t.entryAt? (l ++ [part]) <;> simp [hup, hlong, hshort, eq_comm]

theorem follow_append (before after : List Text) :
    t.follow l (before ++ after) =
      match t.follow l before with
      | .error e => .error e
      | .ok m => t.follow m after := by
  induction before generalizing l with
  | nil => rfl
  | cons part before ih =>
      rw [List.cons_append, follow, follow]
      cases t.step l part with
      | error e => rfl
      | ok m => exact ih

theorem follow_concat_eq_ok_iff :
    t.follow l (parts ++ [part]) = .ok l' ↔
      ∃ m, t.follow l parts = .ok m ∧ t.step m part = .ok l' := by
  rw [follow_append]
  cases t.follow l parts with
  | error e => simp
  | ok m =>
      have hone : t.follow m [part] = t.step m part := by
        rw [follow]
        cases t.step m part <;> rfl
      simp [hone]

namespace Grown

variable {D W : Location → Prop}

theorem step (h : Grown D W t t') (hstep : t.step l part = .ok l') :
    t'.step l part = .ok l' := by
  rw [step_eq_ok_iff] at hstep ⊢
  obtain ⟨hdir, hup | ⟨hname, hshort, hthere, hl'⟩⟩ := hstep
  · exact ⟨h.directory hdir, .inl hup⟩
  · exact ⟨h.directory hdir, .inr ⟨hname, hshort, h.there hthere, hl'⟩⟩

/-- What leads somewhere leads there later on. -/
theorem follow (h : Grown D W t t') (hfollow : t.follow l parts = .ok l') :
    t'.follow l parts = .ok l' := by
  induction parts generalizing l with
  | nil => exact hfollow
  | cons part parts ih =>
      rw [FileTree.follow] at hfollow ⊢
      cases hstep : t.step l part with
      | error e => simp [hstep] at hfollow
      | ok m =>
          rw [hstep] at hfollow
          rw [h.step hstep]
          exact ih hfollow

theorem start (h : Grown D W t t') (p : Path) : t'.start p = t.start p := by
  rw [FileTree.start, FileTree.start, h.workingDirectory]

end Grown

theorem locate_eq_ok_iff :
    t.locate p = .ok l ↔ pathFault? p = none ∧ t.follow (t.start p) p.parts = .ok l := by
  unfold locate
  cases pathFault? p with
  | some failure => simp
  | none => cases t.follow (t.start p) p.parts <;> simp

theorem Grown.locate {D W : Location → Prop} (h : Grown D W t t') (hlocate : t.locate p = .ok l) :
    t'.locate p = .ok l := by
  rw [locate_eq_ok_iff] at hlocate ⊢
  rw [h.start]
  exact ⟨hlocate.1, h.follow hlocate.2⟩

/-- A path that ends in a name leads to a location of that name. -/
theorem exists_eq_append_of_locate {before : List Text} {name : Text}
    (hp : p.parts = before ++ [name]) (hname : name ≠ Path.up) (h : t.locate p = .ok l) :
    ∃ m, l = m ++ [name] := by
  rw [locate_eq_ok_iff, hp, follow_concat_eq_ok_iff] at h
  obtain ⟨-, m, -, hstep⟩ := h
  obtain ⟨-, ⟨hup, -⟩ | ⟨-, -, -, hl⟩⟩ := step_eq_ok_iff.1 hstep
  · exact absurd hup hname
  · exact ⟨m, hl⟩

/-! ## Reading and changing -/

theorem content_eq_ok_iff {content : Bytes} :
    t.content p = .ok content ↔ ∃ l, t.locate p = .ok l ∧ t.entryAt? l = some (.file content) := by
  unfold FileTree.content
  cases t.locate p with
  | error failure => simp
  | ok l => rcases h : t.entryAt? l with _ | _ | _ <;> simp [h]

/-- A file can be read for as long as nobody writes to where it is. -/
theorem Grown.content {D W : Location → Prop} {content : Bytes} (h : Grown D W t t')
    (hcontent : t.content p = .ok content) (hW : ∀ l, t.locate p = .ok l → ¬ W l) :
    t'.content p = .ok content := by
  obtain ⟨l, hlocate, hfile⟩ := content_eq_ok_iff.1 hcontent
  exact content_eq_ok_iff.2 ⟨l, h.locate hlocate, h.file hfile (hW l hlocate)⟩

/-- The directory that parts lead to, or else the first reason why there is none. -/
def reach (t : FileTree) (l : Location) (parts : List Text) : Except FileError Location :=
  match t.follow l parts with
  | .error e => .error e
  | .ok m =>
    match t.entryAt? m with
    | some .directory => .ok m
    | some (.file _) => .error .notDirectory
    | none => .error .notFound

theorem reach_eq_ok_iff :
    t.reach l parts = .ok l' ↔ t.follow l parts = .ok l' ∧ t.entryAt? l' = some .directory := by
  unfold reach
  cases t.follow l parts with
  | error e => simp
  | ok m =>
      constructor
      · intro h
        rcases hm : t.entryAt? m with _ | _ | _ <;> simp [hm] at h
        exact ⟨by rw [h], h ▸ hm⟩
      · rintro ⟨hm, hdir⟩
        cases hm
        simp [hdir]

theorem reach_concat_eq_ok_iff :
    t.reach l (parts ++ [part]) = .ok l' ↔
      ∃ m, t.reach l parts = .ok m ∧ t.step m part = .ok l' ∧
        t.entryAt? l' = some .directory := by
  rw [reach_eq_ok_iff, follow_concat_eq_ok_iff]
  constructor
  · rintro ⟨⟨m, hfollow, hstep⟩, hdir⟩
    exact ⟨m, reach_eq_ok_iff.2 ⟨hfollow, (step_eq_ok_iff.1 hstep).1⟩, hstep, hdir⟩
  · rintro ⟨m, hreach, hstep, hdir⟩
    exact ⟨⟨m, (reach_eq_ok_iff.1 hreach).1, hstep⟩, hdir⟩

theorem isDirectory_iff :
    t.isDirectory p = true ↔ pathFault? p = none ∧ ∃ l, t.reach (t.start p) p.parts = .ok l := by
  simp only [isDirectory, entry?, beq_iff_eq, reach_eq_ok_iff]
  constructor
  · intro h
    cases hlocate : t.locate p with
    | error failure => simp [hlocate] at h
    | ok l =>
        rw [hlocate] at h
        obtain ⟨hfault, hfollow⟩ := locate_eq_ok_iff.1 hlocate
        exact ⟨hfault, l, hfollow, h⟩
  · rintro ⟨hfault, l, hfollow, hdir⟩
    rw [locate_eq_ok_iff.2 ⟨hfault, hfollow⟩]
    exact hdir

theorem Grown.reach {D W : Location → Prop} (h : Grown D W t t')
    (hreach : t.reach l parts = .ok l') : t'.reach l parts = .ok l' := by
  rw [reach_eq_ok_iff] at hreach ⊢
  exact ⟨h.follow hreach.1, h.directory hreach.2⟩

theorem target_of_fault {failure : FileFailure} (h : pathFault? p = some failure) :
    t.target p = .error failure := by
  simp [target, h]

theorem target_of_parts_eq_nil (h : pathFault? p = none) (hp : p.parts = []) :
    t.target p = .ok (t.start p, none) := by
  simp [target, h, hp]

/-- What the last part of a path names is looked up in the directory that the others lead to. -/
theorem target_of_parts {before : List Text} {name : Text} (h : pathFault? p = none)
    (hp : p.parts = before ++ [name]) :
    t.target p =
      match t.reach (t.start p) before with
      | .error e => .error (.refused e p)
      | .ok l =>
        if name = Path.up then .ok (l, none)
        else if Text.byteLength name > maxName then .error (.refused .nameTooLong p)
        else .ok (l, some name) := by
  simp only [target, h, hp, List.getLast?_concat, List.dropLast_concat, reach]
  cases t.follow (t.start p) before with
  | error e => rfl
  | ok l => rcases hl : t.entryAt? l with _ | _ | _ <;> simp [hl]

/-- The place where a new entry can go is a name in a directory that is there. -/
theorem target_eq_ok_iff {name : Text} :
    t.target p = .ok (l, some name) ↔
      pathFault? p = none ∧
        ∃ before, p.parts = before ++ [name] ∧ t.reach (t.start p) before = .ok l ∧
          name ≠ Path.up ∧ Text.byteLength name ≤ maxName := by
  constructor
  · intro h
    cases hfault : pathFault? p with
    | some failure => simp [target_of_fault hfault] at h
    | none =>
        rcases List.eq_nil_or_concat p.parts with hnil | ⟨before, last, hparts⟩
        · simp [target_of_parts_eq_nil hfault hnil] at h
        · rw [List.concat_eq_append] at hparts
          rw [target_of_parts hfault hparts] at h
          cases hreach : t.reach (t.start p) before with
          | error e => simp [hreach] at h
          | ok m =>
              rw [hreach] at h
              dsimp only at h
              split at h
              · simp at h
              · rename_i hup
                split at h
                · simp at h
                · rename_i hshort
                  obtain ⟨rfl, rfl⟩ : m = l ∧ last = name := by simpa using h
                  exact ⟨rfl, before, hparts, hreach, hup, Nat.not_lt.1 hshort⟩
  · rintro ⟨hfault, before, hparts, hreach, hup, hshort⟩
    rw [target_of_parts hfault hparts, hreach]
    simp [hup, Nat.not_lt.2 hshort]

theorem makeDirectory_eq_ok_iff :
    t.makeDirectory p = .ok t' ↔
      ∃ l name, t.target p = .ok (l, some name) ∧ t.entryAt? (l ++ [name]) = none ∧
        t' = t.put (l ++ [name]) .directory := by
  unfold makeDirectory
  rcases t.target p with failure | ⟨l, _ | name⟩
  · simp
  · simp
  · cases hthere : t.entryAt? (l ++ [name]) <;> simp [hthere, eq_comm]

/-- What comes of making a directory, from the directory above. -/
theorem makeDirectory_of_parts {before : List Text} {name : Text} (h : pathFault? p = none)
    (hp : p.parts = before ++ [name]) :
    t.makeDirectory p =
      match t.reach (t.start p) before with
      | .error e => .error (.refused e p)
      | .ok l =>
        if name = Path.up then .error (.refused .alreadyThere p)
        else if Text.byteLength name > maxName then .error (.refused .nameTooLong p)
        else
          match t.entryAt? (l ++ [name]) with
          | some _ => .error (.refused .alreadyThere p)
          | none => .ok (t.put (l ++ [name]) .directory) := by
  rw [makeDirectory, target_of_parts h hp]
  cases t.reach (t.start p) before with
  | error e => rfl
  | ok l =>
      by_cases hup : name = Path.up
      · simp [hup]
      · by_cases hlong : Text.byteLength name > maxName
        · simp [hup, hlong]
        · cases hthere : t.entryAt? (l ++ [name]) <;> simp only [hup, hlong, if_false, hthere]

/-- Where a directory is there, asking for it is refused, but not because something is missing. -/
theorem refused_of_isDirectory {failure : FileFailure} (hdir : t.isDirectory p = true)
    (h : t.makeDirectory p = .error failure) : ∃ e, failure = .refused e p ∧ e ≠ .notFound := by
  obtain ⟨hfault, l, hreach⟩ := isDirectory_iff.1 hdir
  rcases List.eq_nil_or_concat p.parts with hnil | ⟨before, name, hparts⟩
  · rw [makeDirectory, target_of_parts_eq_nil hfault hnil] at h
    exact ⟨.alreadyThere, (Except.error.inj h).symm, by decide⟩
  · rw [List.concat_eq_append] at hparts
    rw [hparts] at hreach
    -- The directory above was found on the way to this one, so nothing is missing there.
    obtain ⟨m, habove, -, -⟩ := reach_concat_eq_ok_iff.1 hreach
    rw [makeDirectory_of_parts hfault hparts, habove] at h
    dsimp only at h
    split at h
    · exact ⟨.alreadyThere, (Except.error.inj h).symm, by decide⟩
    · split at h
      · exact ⟨.nameTooLong, (Except.error.inj h).symm, by decide⟩
      · split at h
        · exact ⟨.alreadyThere, (Except.error.inj h).symm, by decide⟩
        · exact absurd h (by simp)

theorem overwrite_eq_ok_iff {content : Bytes} :
    t.overwrite p content = .ok t' ↔
      ∃ l name, t.target p = .ok (l, some name) ∧ t.entryAt? (l ++ [name]) ≠ some .directory ∧
        t' = t.put (l ++ [name]) (.file content) := by
  unfold overwrite
  rcases t.target p with failure | ⟨l, _ | name⟩
  · simp
  · simp
  · rcases hthere : t.entryAt? (l ++ [name]) with _ | _ | _ <;> simp [hthere, eq_comm]

/-- What putting content into a file can come to. -/
inductive Writes (t : FileTree) (p : Path) (content : Bytes) : Changed Unit → Prop where
  /-- There is an obstacle on the way to the file. -/
  | obstructed {failure : FileFailure}
      (hmake : (t.ensureDirectory p.parent).outcome = .error failure) :
      Writes t p content ⟨.error failure, (t.ensureDirectory p.parent).tree⟩
  /-- The directories are there, but the file cannot be put into the last of them. -/
  | unwritten {failure : FileFailure} (hmake : (t.ensureDirectory p.parent).outcome = .ok ())
      (hover : (t.ensureDirectory p.parent).tree.overwrite p content = .error failure) :
      Writes t p content ⟨.error failure, (t.ensureDirectory p.parent).tree⟩
  /-- The file is there. -/
  | written {t' : FileTree} (hmake : (t.ensureDirectory p.parent).outcome = .ok ())
      (hover : (t.ensureDirectory p.parent).tree.overwrite p content = .ok t') :
      Writes t p content ⟨.ok (), t'⟩

theorem writes_putFile (t : FileTree) (p : Path) (content : Bytes) :
    Writes t p content (t.putFile p content) := by
  unfold putFile
  dsimp only
  split
  · rename_i failure hmake
    exact .obstructed hmake
  · rename_i hmake
    split
    · rename_i failure hover
      exact .unwritten hmake hover
    · rename_i t' hover
      exact .written hmake hover

/-- Where a new entry can go, the path leads as soon as there is one. -/
theorem locate_of_target {D W : Location → Prop} {name : Text}
    (htarget : t.target p = .ok (l, some name)) (h : Grown D W t t')
    (hthere : t'.entryAt? (l ++ [name]) ≠ none) : t'.locate p = .ok (l ++ [name]) := by
  obtain ⟨hfault, before, hparts, hreach, hup, hshort⟩ := target_eq_ok_iff.1 htarget
  obtain ⟨hfollow, hdir⟩ := reach_eq_ok_iff.1 (h.reach hreach)
  rw [locate_eq_ok_iff, hparts, follow_concat_eq_ok_iff, h.start]
  exact ⟨hfault, l, hfollow, step_eq_ok_iff.2 ⟨hdir, .inr ⟨hup, hshort, hthere, rfl⟩⟩⟩

theorem concat_ne_nil (l : Location) (name : Text) : l ++ [name] ≠ [] :=
  List.append_ne_nil_of_right_ne_nil l (List.cons_ne_nil name [])

theorem entryAt?_put_self (t : FileTree) (l : Location) (name : Text) (entry : Entry) :
    (t.put (l ++ [name]) entry).entryAt? (l ++ [name]) = some entry := by
  rw [entryAt?_put t (concat_ne_nil l name), if_pos rfl]

/-- A directory is made where nothing was, at the place that its path leads to from then on. -/
theorem grown_of_makeDirectory {W : Location → Prop} (h : t.makeDirectory p = .ok t') :
    Grown (fun l => t'.locate p = .ok l) W t t' ∧ t'.isDirectory p = true := by
  obtain ⟨l, name, htarget, hnone, rfl⟩ := makeDirectory_eq_ok_iff.1 h
  have hgrown : Grown (· = l ++ [name]) W t (t.put (l ++ [name]) .directory) :=
    grown_put_directory (concat_ne_nil l name) rfl hnone
  have hentry := entryAt?_put_self t l name .directory
  have hlocate := locate_of_target htarget hgrown (hentry ▸ Option.some_ne_none _)
  refine ⟨hgrown.mono (fun m hm => hm ▸ hlocate) fun _ => id, ?_⟩
  simp [isDirectory, entry?, hlocate, hentry]

/-- A file is written where no directory was, at the place that its path leads to from then on, and
it can be read there. -/
theorem grown_of_overwrite {D : Location → Prop} {content : Bytes}
    (h : t.overwrite p content = .ok t') :
    Grown D (fun l => t'.locate p = .ok l) t t' ∧ t'.content p = .ok content := by
  obtain ⟨l, name, htarget, hnodir, rfl⟩ := overwrite_eq_ok_iff.1 h
  have hgrown : Grown D (· = l ++ [name]) t (t.put (l ++ [name]) (.file content)) :=
    grown_put_file (W := (· = l ++ [name])) (concat_ne_nil l name) rfl hnodir content
  have hentry := entryAt?_put_self t l name (.file content)
  have hlocate := locate_of_target htarget hgrown (hentry ▸ Option.some_ne_none _)
  exact ⟨hgrown.mono (fun _ => id) fun m hm => hm ▸ hlocate,
    content_eq_ok_iff.2 ⟨l ++ [name], hlocate, hentry⟩⟩

end Scaffold.FileTree
