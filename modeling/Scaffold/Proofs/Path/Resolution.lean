/-
# Scaffold.Proofs.Path.Resolution -- which paths stay below whatever they are joined to

`Path.resolve` follows a path part by part with a list of names that `..` takes from. Here the
outcome is predicted without following anything: the parts lead above the place where they start
exactly when some beginning of them holds more `..` than names. `StaysBelow` is that condition,
with room for names that were there before; it says nothing about what is on any disk.

The count is one invariant away from the machine. `foldl_resolveStep_fst_eq_iff` says that the
number of directories above the start does not grow exactly when the parts stay below the names
already passed, and `foldl_resolveStep_append` that parts which stay below never touch what lies
under those names. Together they give `forall_within_join_iff`: the paths that lead below every
path they are joined to.
-/
import Scaffold.Path
import Mathlib.Data.List.Infix

namespace Scaffold.Path

/-! ## Counting `..` against names -/

/-- Parts that never lead above the place `depth` directories above their start: in no beginning
of them do the `..` outnumber the names and the depth together. -/
def StaysBelow (depth : Nat) (parts : List Text) : Prop :=
  ∀ beginning, beginning <+: parts → beginning.count up ≤ depth + beginning.countP (· ≠ up)

instance (depth : Nat) (parts : List Text) : Decidable (StaysBelow depth parts) :=
  decidable_of_iff
    (∀ beginning ∈ parts.inits, beginning.count up ≤ depth + beginning.countP (· ≠ up))
    (forall_congr' fun beginning => imp_congr_left (List.mem_inits beginning parts))

variable {depth : Nat} {part : Text} {parts : List Text}

theorem staysBelow_nil : StaysBelow depth [] := by
  intro beginning hb
  rw [List.prefix_nil.1 hb]
  exact Nat.zero_le _

theorem staysBelow_cons_iff :
    StaysBelow depth (part :: parts) ↔
      ∀ beginning, beginning <+: parts →
        (part :: beginning).count up ≤ depth + (part :: beginning).countP (· ≠ up) := by
  constructor
  · intro h beginning hb
    exact h (part :: beginning) (List.cons_prefix_cons.2 ⟨rfl, hb⟩)
  · intro h beginning hb
    rcases List.prefix_cons_iff.1 hb with rfl | ⟨rest, rfl, hrest⟩
    · exact Nat.zero_le _
    · exact h rest hrest

/-- A name is one more directory to come back from. -/
theorem staysBelow_cons_of_ne (h : part ≠ up) :
    StaysBelow depth (part :: parts) ↔ StaysBelow (depth + 1) parts := by
  rw [staysBelow_cons_iff]
  refine forall₂_congr fun beginning _ => ?_
  rw [List.count_cons_of_ne h, List.countP_cons_of_pos (by simpa using h)]
  omega

/-- A `..` uses up one directory. -/
theorem staysBelow_up_cons :
    StaysBelow (depth + 1) (up :: parts) ↔ StaysBelow depth parts := by
  rw [staysBelow_cons_iff]
  refine forall₂_congr fun beginning _ => ?_
  rw [List.count_cons_self, List.countP_cons_of_neg (by simp)]
  omega

/-- Where there is no directory left, the first `..` leads out. -/
theorem not_staysBelow_zero_up_cons : ¬ StaysBelow 0 (up :: parts) := by
  intro h
  have := h [up] ⟨parts, rfl⟩
  simp at this

/-- Parts without a `..` stay below. -/
theorem staysBelow_of_not_mem (h : up ∉ parts) : StaysBelow depth parts := by
  intro beginning hb
  have hup : up ∉ beginning := fun hmem => h (hb.subset hmem)
  rw [List.count_eq_zero_of_not_mem hup]
  exact Nat.zero_le _

/-- A name at the end changes nothing: what matters is how it is reached. -/
theorem staysBelow_append_name (h : part ≠ up) :
    StaysBelow depth (parts ++ [part]) ↔ StaysBelow depth parts := by
  constructor
  · intro hs beginning hb
    exact hs beginning (hb.trans (List.prefix_append parts [part]))
  · intro hs beginning hb
    rcases List.prefix_concat_iff.1 (by simpa using hb) with rfl | hb
    · have hall := hs parts List.prefix_rfl
      rw [List.count_append, List.countP_append]
      have hone : [part].count up = 0 := List.count_eq_zero_of_not_mem (by simpa using Ne.symm h)
      omega
    · exact hs beginning hb

/-! ## The machine against the count -/

theorem resolveStep_up_nil (k : Nat) : resolveStep (k, []) up = (k + 1, []) := rfl

theorem resolveStep_up_append (k : Nat) (names : List Text) (name : Text) :
    resolveStep (k, names ++ [name]) up = (k, names) := by
  obtain ⟨n, ns, hns⟩ := List.exists_cons_of_ne_nil (List.append_ne_nil_of_right_ne_nil names
    (List.cons_ne_nil name []))
  have hstep : resolveStep (k, n :: ns) up = (k, (n :: ns).dropLast) := rfl
  rw [hns, hstep, ← hns, List.dropLast_concat]

theorem resolveStep_of_ne (h : part ≠ up) (k : Nat) (names : List Text) :
    resolveStep (k, names) part = (k, names ++ [part]) := by
  simp [resolveStep, h]

/-- A path never comes back from above its start. -/
theorem le_foldl_resolveStep_fst (parts : List Text) (k : Nat) (names : List Text) :
    k ≤ (parts.foldl resolveStep (k, names)).1 := by
  induction parts generalizing k names with
  | nil => exact Nat.le_refl k
  | cons part parts ih =>
      rw [List.foldl_cons]
      by_cases h : part = up
      · subst h
        rcases List.eq_nil_or_concat names with rfl | ⟨names, name, rfl⟩
        · rw [resolveStep_up_nil]
          exact Nat.le_of_succ_le (ih (k + 1) [])
        · rw [List.concat_eq_append, resolveStep_up_append]
          exact ih k names
      · rw [resolveStep_of_ne h]
        exact ih k (names ++ [part])

/-- **The count is exact**: following the parts leads no further above the start exactly when they
stay below the names passed before. -/
theorem foldl_resolveStep_fst_eq_iff (parts : List Text) (k : Nat) (names : List Text) :
    (parts.foldl resolveStep (k, names)).1 = k ↔ StaysBelow names.length parts := by
  induction parts generalizing k names with
  | nil => exact ⟨fun _ => staysBelow_nil, fun _ => rfl⟩
  | cons part parts ih =>
      rw [List.foldl_cons]
      by_cases h : part = up
      · subst h
        rcases List.eq_nil_or_concat names with rfl | ⟨names, name, rfl⟩
        -- What lies above the start is only ever added to, so `k` does not come back.
        · have habove := le_foldl_resolveStep_fst parts (k + 1) []
          rw [resolveStep_up_nil]
          exact ⟨fun heq => absurd heq (by omega), fun hs => absurd hs not_staysBelow_zero_up_cons⟩
        · rw [List.concat_eq_append, resolveStep_up_append, ih, List.length_append]
          exact staysBelow_up_cons.symm
      · rw [resolveStep_of_ne h, ih, List.length_append]
        exact (staysBelow_cons_of_ne h).symm

/-- **Parts that stay below leave alone what lies under them**: names that were passed before
those the parts may use are still there, in front of what the parts lead to by themselves. -/
theorem foldl_resolveStep_append (parts : List Text) (k : Nat) (base names : List Text)
    (h : StaysBelow names.length parts) :
    parts.foldl resolveStep (k, base ++ names) =
      (k, base ++ (parts.foldl resolveStep (0, names)).2) := by
  -- The names that the parts may use grow and shrink on the way; `base` is fixed under them.
  induction parts generalizing names with
  | nil => rfl
  | cons part parts ih =>
      rw [List.foldl_cons, List.foldl_cons]
      by_cases hup : part = up
      · subst hup
        rcases List.eq_nil_or_concat names with rfl | ⟨names, name, rfl⟩
        · exact absurd h not_staysBelow_zero_up_cons
        · rw [List.concat_eq_append, List.length_append] at h
          rw [List.concat_eq_append, ← List.append_assoc, resolveStep_up_append,
            resolveStep_up_append]
          exact ih names (staysBelow_up_cons.1 h)
      · have hlen : (names ++ [part]).length = names.length + 1 := List.length_append
        rw [resolveStep_of_ne hup, resolveStep_of_ne hup, List.append_assoc]
        exact ih (names ++ [part]) (hlen ▸ (staysBelow_cons_of_ne hup).1 h)

/-! ## Paths below whatever they are joined to -/

/-- What lies within a directory lies under all its names. -/
theorem resolve_of_within {outer inner : Path} (h : Within outer inner) :
    outer.resolve.2 <+: inner.resolve.2 := by
  obtain ⟨-, -, name, names, hnames⟩ := h
  exact ⟨name :: names, hnames.symm⟩

/-- A path whose last part is a name leads to a name. -/
theorem resolve_append_name_ne_nil (h : part ≠ up) :
    (resolve ⟨.here, parts ++ [part]⟩).2 ≠ [] := by
  show ((parts ++ [part]).foldl resolveStep (0, [])).2 ≠ []
  rw [List.foldl_append, List.foldl_cons, List.foldl_nil, resolveStep_of_ne h]
  exact List.append_ne_nil_of_right_ne_nil _ (List.cons_ne_nil part [])

/-- Parts that stay below and lead to a name lead below every path that they are joined to. -/
theorem within_join (h : StaysBelow 0 parts) (hne : (resolve ⟨.here, parts⟩).2 ≠ [])
    (outer : Path) : Within outer (outer.join ⟨.here, parts⟩) := by
  obtain ⟨name, names, hnames⟩ := List.exists_cons_of_ne_nil hne
  obtain ⟨⟨k, base⟩, hr⟩ : ∃ reached, outer.parts.foldl resolveStep (0, []) = reached := ⟨_, rfl⟩
  have hfold : (outer.parts ++ parts).foldl resolveStep (0, []) = (k, base ++ name :: names) := by
    have hbase := foldl_resolveStep_append parts k base [] h
    rw [List.append_nil] at hbase
    rw [List.foldl_append, hr, hbase]
    exact congrArg (fun ns => (k, base ++ ns)) hnames
  rw [join_here]
  refine ⟨rfl, ?_, name, names, ?_⟩
  · simp only [resolve, hr, hfold]
    split <;> rfl
  · simp only [resolve, hr, hfold]
    split <;> rfl

/-- Below the working directory means: no root of its own, never above, and somewhere. -/
theorem within_join_here_iff (p : Path) :
    Within {} (Path.join {} p) ↔ p.root = .here ∧ StaysBelow 0 p.parts ∧ p.resolve.2 ≠ [] := by
  obtain ⟨root, parts⟩ := p
  constructor
  · rintro ⟨hroot, habove, name, names, hnames⟩
    cases root with
    | here =>
        refine ⟨rfl, (foldl_resolveStep_fst_eq_iff parts 0 []).1 habove, ?_⟩
        have hne : (resolve ⟨.here, parts⟩).2 = [] ++ name :: names := hnames
        rw [hne]
        exact List.cons_ne_nil name names
    | slash => exact absurd (show Root.slash = .here from hroot) (by decide)
    | doubleSlash => exact absurd (show Root.doubleSlash = .here from hroot) (by decide)
  · rintro ⟨rfl, hs, hne⟩
    exact within_join hs hne {}

/-- **The paths below whatever they are joined to** are those below the working directory. -/
theorem forall_within_join_iff (p : Path) :
    (∀ outer : Path, Within outer (outer.join p)) ↔
      p.root = .here ∧ StaysBelow 0 p.parts ∧ p.resolve.2 ≠ [] := by
  constructor
  -- The working directory has no names to give away, so below it is the hardest to stay.
  · intro h
    exact (within_join_here_iff p).1 (h {})
  · obtain ⟨root, parts⟩ := p
    rintro ⟨rfl, hs, hne⟩ outer
    exact within_join hs hne outer

end Scaffold.Path
