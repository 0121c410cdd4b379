/-
# Scaffold.Path -- paths as written

A path is the list of its parts below a root: the working directory, `/`, or `//` (exactly two
slashes are a root of their own, three or more are one slash). Empty parts and `.` parts mean
nothing and are dropped when a path is read, `..` parts are kept: whether `a/..` is the same as
`.` cannot be seen from the path. Joining puts the second path below the first, unless the second
has a root of its own, which then replaces the first altogether.

`Path.resolve` collapses the `..` parts as if every directory on the way were there and none were
a link. It is not how files are found; it says where a path leads on paper, and `Path.Within` is
containment on paper.
-/

import Scaffold.Text.Basic

namespace Scaffold

/-- Where a path starts. -/
inductive Root where
  /-- At the working directory. -/
  | here
  /-- At `/`. -/
  | slash
  /-- At `//`. -/
  | doubleSlash
  deriving DecidableEq, Repr

/-- A path: its root and the parts below it. -/
structure Path where
  root : Root := .here
  parts : List Text := []
  deriving DecidableEq, Repr

namespace Root

/-- How a root is written. -/
def text : Root → Text
  | here => []
  | slash => [chr '/']
  | doubleSlash => [chr '/', chr '/']

/-- The root of a written path. -/
def ofText : Text → Root
  | [chr '/', chr '/'] => doubleSlash
  | chr '/' :: chr '/' :: c :: _ => if c = '/' then slash else doubleSlash
  | chr '/' :: _ => slash
  | _ => here

/-- A path starts at the working directory unless it is written with a slash in front. -/
theorem ofText_eq_here_iff {s : Text} : ofText s = here ↔ s.head? ≠ some (chr '/') := by
  unfold ofText
  split
  · simp
  · split <;> simp
  · simp
  · rename_i hslash
    cases s with
    | nil => simp
    | cons c s =>
      have hc : c ≠ '/' := fun h => hslash s (h ▸ rfl)
      simpa using hc

end Root

namespace Path

/-! ## Reading and writing -/

/-- The part that means the directory above. -/
def up : Text := [chr '.', chr '.']

/-- Whether a piece between slashes is a part of the path: empty pieces and `.` are not. -/
def isPart (piece : Text) : Bool := piece ≠ [] && piece ≠ [chr '.']

/-- Reads a path. -/
def ofText (s : Text) : Path := ⟨Root.ofText s, (s.split '/').filter isPart⟩

/-- Writes a path, the empty one as `.`. -/
def text (p : Path) : Text :=
  match p.root, p.parts with
  | .here, [] => [chr '.']
  | root, parts => root.text ++ Text.join '/' parts

/-- The parts as a list of texts in which a root of its own is the first. -/
def pieces (p : Path) : List Text :=
  if p.root = .here then p.parts else p.root.text :: p.parts

/-! ## Joining -/

/-- The second path seen from the first. A root of its own wins over the first path. -/
def join (p q : Path) : Path :=
  match q.root with
  | .here => ⟨p.root, p.parts ++ q.parts⟩
  | _ => q

/-- The path without its last part; the root is above itself. -/
def parent (p : Path) : Path := { p with parts := p.parts.dropLast }

theorem join_here (p : Path) (parts : List Text) :
    p.join ⟨.here, parts⟩ = ⟨p.root, p.parts ++ parts⟩ := rfl

theorem join_of_root {q : Path} (h : q.root ≠ .here) (p : Path) : p.join q = q := by
  obtain ⟨root, parts⟩ := q
  cases root <;> simp_all [join]

/-! ## Where a path leads on paper -/

/-- One part further: `..` takes a name back where there is one. What lies above the start is
counted in the first component. -/
def resolveStep (at' : Nat × List Text) (part : Text) : Nat × List Text :=
  if part = up then
    match at'.2 with
    | [] => (at'.1 + 1, [])
    | names => (at'.1, names.dropLast)
  else (at'.1, at'.2 ++ [part])

/-- How many directories above its root a path leads, and the names below that. Above `/` there
is only `/`. -/
def resolve (p : Path) : Nat × List Text :=
  let r := p.parts.foldl resolveStep (0, [])
  if p.root = .here then r else (0, r.2)

/-- Whether the second path leads on paper to somewhere strictly below the first. -/
def Within (outer inner : Path) : Prop :=
  inner.root = outer.root ∧ inner.resolve.1 = outer.resolve.1 ∧
    ∃ name names, inner.resolve.2 = outer.resolve.2 ++ name :: names

end Path

end Scaffold
