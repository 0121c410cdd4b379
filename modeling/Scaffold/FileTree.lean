/-
# Scaffold.FileTree -- a tree of files and directories

A file tree says for each location, that is for each list of names from the root down, whether a
file or a directory is there, and which location is the working directory. There are no links and
no permissions. `entryAt?` is the view that every law is stated by.

Paths are followed the way a file system does it: one part after another, each but the last in a
directory that is really there, `..` leading to the directory above. So `absent/../x` leads
nowhere, whatever it means on paper. A name has at most 255 bytes and a path at most 4095. Names
are compared as texts, so an escaped byte is taken for another name than the character that it may
be a part of.

Operations that change the tree return the changed tree beside their outcome, because failing does
not leave the tree as it was: a chain of directories may be made in part before an obstacle is met
(`ensureDirectory`), and a file is opened, and thereby made or emptied, before its content is
encoded (`writeFile`).
-/

import Scaffold.Path
import Scaffold.Text.Utf8

namespace Scaffold

/-! ## Failures -/

/-- Why a file system refuses. -/
inductive FileError where
  | notFound
  | alreadyThere
  | notDirectory
  | isDirectory
  | nameTooLong
  deriving DecidableEq, Repr

namespace FileError

/-- The number of an error. -/
def number : FileError → Nat
  | notFound => 2
  | alreadyThere => 17
  | notDirectory => 20
  | isDirectory => 21
  | nameTooLong => 36

/-- What is said of an error. -/
def text : FileError → Text
  | notFound => "No such file or directory".text
  | alreadyThere => "File exists".text
  | notDirectory => "Not a directory".text
  | isDirectory => "Is a directory".text
  | nameTooLong => "File name too long".text

end FileError

/-- Why an operation on files fails. -/
inductive FileFailure where
  /-- The file system refused, for the given path. -/
  | refused (error : FileError) (path : Path)
  /-- The path holds the character NUL and was never handed to the file system. -/
  | nulInPath
  /-- A path or a content cannot be encoded, and nothing of it was handed to the file system. -/
  | unencodable (error : Text.EncodeError)
  deriving DecidableEq, Repr

/-- What is said of a failure. -/
def FileFailure.message : FileFailure → Text
  | refused error path =>
    "[Errno ".text ++ Text.ofNat error.number ++ "] ".text ++ error.text ++ ": ".text ++
      Text.quoted path.text
  | nulInPath => "embedded null byte".text
  | unencodable error => error.message

/-- Whether it is the file system that fails, and not the handing over to it. -/
def FileFailure.isRefusal : FileFailure → Bool
  | refused _ _ => true
  | nulInPath | unencodable _ => false

/-! ## Trees -/

/-- A place in a tree: the names from the root down. -/
abbrev Location := List Text

/-- What can be at a place. -/
inductive Entry where
  | file (content : Bytes)
  | directory
  deriving DecidableEq, Repr

/-- A tree of files. The root itself is always a directory and is not listed. -/
structure FileTree where
  /-- What is at the locations below the root. -/
  entries : List (Location × Entry) := []
  /-- The working directory. -/
  workingDirectory : Location := []
  deriving Repr

namespace FileTree

/-- What is at a location, if anything. -/
def entryAt? (t : FileTree) (l : Location) : Option Entry :=
  if l = [] then some .directory else t.entries.lookup l

/-- The tree with an entry put at a location, in place of what was there. -/
def put (t : FileTree) (l : Location) (e : Entry) : FileTree :=
  { t with entries := (l, e) :: t.entries.filter fun x => x.1 ≠ l }

/-- The tree without a location and everything below it. -/
def remove (t : FileTree) (l : Location) : FileTree :=
  { t with entries := t.entries.filter fun x => !l.isPrefixOf x.1 }

theorem entryAt?_put (t : FileTree) {l : Location} (hl : l ≠ []) (e : Entry) (m : Location) :
    (t.put l e).entryAt? m = if m = l then some e else t.entryAt? m := by
  by_cases hm : m = []
  · subst hm
    simp [entryAt?, Ne.symm hl]
  · simp only [entryAt?, hm, if_false, put, List.lookup_cons]
    by_cases h : m = l
    · simp [h]
    · have hb : (m == l) = false := by simp [h]
      simp only [hb, h, if_false]
      generalize t.entries = es
      induction es with
      | nil => rfl
      | cons x xs ih =>
        obtain ⟨k, v⟩ := x
        by_cases hk : k = l
        · subst hk
          simpa [List.lookup_cons, hb] using ih
        · simp only [List.filter_cons, ne_eq, hk, not_false_eq_true, decide_true, if_true,
            List.lookup_cons, ih]

/-! ## Following a path -/

/-- The longest name, in bytes. -/
def maxName : Nat := 255

/-- The longest path, in bytes. -/
def maxPath : Nat := 4095

/-- One part further from a location that is already reached. The location must be a directory,
and what the part names must be there. -/
def step (t : FileTree) (l : Location) (part : Text) : Except FileError Location :=
  match t.entryAt? l with
  | none => .error .notFound
  | some (.file _) => .error .notDirectory
  | some .directory =>
    if part = Path.up then .ok l.dropLast
    else if Text.byteLength part > maxName then .error .nameTooLong
    else
      match t.entryAt? (l ++ [part]) with
      | some _ => .ok (l ++ [part])
      | none => .error .notFound

/-- Follows parts from a location that is already reached. -/
def follow (t : FileTree) (l : Location) : List Text → Except FileError Location
  | [] => .ok l
  | part :: parts =>
    match t.step l part with
    | .error e => .error e
    | .ok l' => follow t l' parts

/-- The location at which a path starts. -/
def start (t : FileTree) (p : Path) : Location :=
  if p.root = .here then t.workingDirectory else []

/-- What is wrong with a path before anything is looked up. -/
def pathFault? (p : Path) : Option FileFailure :=
  match Text.nameError? p.text with
  | some error => some (.unencodable error)
  | none =>
    if p.text.contains '\x00' then some .nulInPath
    else if Text.byteLength p.text > maxPath then some (.refused .nameTooLong p)
    else none

/-- The location that a path leads to, where something is there. -/
def locate (t : FileTree) (p : Path) : Except FileFailure Location :=
  match pathFault? p with
  | some failure => .error failure
  | none =>
    match t.follow (t.start p) p.parts with
    | .error e => .error (.refused e p)
    | .ok l => .ok l

/-- What a path leads to, if anything. -/
def entry? (t : FileTree) (p : Path) : Option Entry :=
  match t.locate p with
  | .ok l => t.entryAt? l
  | .error _ => none

/-- Whether a path leads to a directory. -/
def isDirectory (t : FileTree) (p : Path) : Bool := t.entry? p == some .directory

/-- The last part of a path and the directory that it stands in, or `none` in place of the part
where the path leads to a directory by its very form: it is empty or ends in `..`. -/
def target (t : FileTree) (p : Path) : Except FileFailure (Location × Option Text) :=
  match pathFault? p with
  | some failure => .error failure
  | none =>
    match p.parts.getLast? with
    | none => .ok (t.start p, none)
    | some name =>
      match t.follow (t.start p) p.parts.dropLast with
      | .error e => .error (.refused e p)
      | .ok l =>
        match t.entryAt? l with
        | some .directory =>
          if name = Path.up then .ok (l, none)
          else if Text.byteLength name > maxName then .error (.refused .nameTooLong p)
          else .ok (l, some name)
        | some (.file _) => .error (.refused .notDirectory p)
        | none => .error (.refused .notFound p)

/-! ## Reading -/

/-- The content of the file that a path leads to. -/
def content (t : FileTree) (p : Path) : Except FileFailure Bytes :=
  match t.locate p with
  | .error failure => .error failure
  | .ok l =>
    match t.entryAt? l with
    | some (.file content) => .ok content
    | some .directory => .error (.refused .isDirectory p)
    | none => .error (.refused .notFound p)

/-! ## Changing -/

/-- The tree with a new directory at a path whose parent directory is there. -/
def makeDirectory (t : FileTree) (p : Path) : Except FileFailure FileTree :=
  match t.target p with
  | .error failure => .error failure
  | .ok (_, none) => .error (.refused .alreadyThere p)
  | .ok (l, some name) =>
    match t.entryAt? (l ++ [name]) with
    | some _ => .error (.refused .alreadyThere p)
    | none => .ok (t.put (l ++ [name]) .directory)

/-- What came of an operation, and the tree after it. -/
structure Changed (α : Type) where
  outcome : Except FileFailure α
  tree : FileTree

/-- Makes the directory at a path whose parent is there, and is content with a directory that is
already there. -/
def makeOrAccept (t : FileTree) (p : Path) : Changed Unit :=
  match t.makeDirectory p with
  | .ok t' => ⟨.ok (), t'⟩
  | .error failure => ⟨if t.isDirectory p then .ok () else .error failure, t⟩

/-- Makes the directory that the first `n` parts of a path lead to, and every directory missing on
the way. Only a missing directory on the way is a reason to make it; every other obstacle is
final. -/
def ensureFirst (t : FileTree) (p : Path) : Nat → Changed Unit
  | 0 => t.makeOrAccept { p with parts := [] }
  | n + 1 =>
    let q : Path := { p with parts := p.parts.take (n + 1) }
    match t.makeDirectory q with
    | .error (.refused .notFound _) =>
      let above := t.ensureFirst p n
      match above.outcome with
      | .error failure => ⟨.error failure, above.tree⟩
      | .ok _ => above.tree.makeOrAccept q
    | _ => t.makeOrAccept q

/-- Makes the directory that a path leads to, and every directory missing on the way. What was
made before an obstacle is met stays. -/
def ensureDirectory (t : FileTree) (p : Path) : Changed Unit := t.ensureFirst p p.parts.length

/-- Puts content into the file at a path, which is made if it is not there. The directory that it
stands in must be there. -/
def overwrite (t : FileTree) (p : Path) (content : Bytes) : Except FileFailure FileTree :=
  match t.target p with
  | .error failure => .error failure
  | .ok (_, none) => .error (.refused .isDirectory p)
  | .ok (l, some name) =>
    match t.entryAt? (l ++ [name]) with
    | some .directory => .error (.refused .isDirectory p)
    | _ => .ok (t.put (l ++ [name]) (.file content))

/-- Puts content into the file at a path, making the directories that it stands in. -/
def putFile (t : FileTree) (p : Path) (content : Bytes) : Changed Unit :=
  let above := t.ensureDirectory p.parent
  match above.outcome with
  | .error failure => ⟨.error failure, above.tree⟩
  | .ok _ =>
    match above.tree.overwrite p content with
    | .error failure => ⟨.error failure, above.tree⟩
    | .ok t' => ⟨.ok (), t'⟩

/-- What comes of writing a text into an open file. -/
def encoded (content : Text) : Except FileFailure Unit :=
  match Text.encodeError? content with
  | none => .ok ()
  | some error => .error (.unencodable error)

theorem encoded_eq_ok_iff {content : Text} :
    encoded content = .ok () ↔ content.isUnicode = true := by
  rw [← Text.encodeError?_eq_none_iff, encoded]
  cases Text.encodeError? content <;> simp

/-- Writes a text into the file at a path, making the directories that it stands in. Opening the
file makes it, or empties it, and only then is the text encoded; where that fails the file stays
empty. -/
def writeFile (t : FileTree) (p : Path) (content : Text) : Changed Unit :=
  let opened := t.putFile p (Text.utf8 content)
  match opened.outcome with
  | .error failure => ⟨.error failure, opened.tree⟩
  | .ok _ => ⟨encoded content, opened.tree⟩

/-- Removes what a path leads to, with everything below it. -/
def delete (t : FileTree) (p : Path) : Except FileFailure FileTree :=
  match t.locate p with
  | .error failure => .error failure
  | .ok l => .ok (t.remove l)

/-! ## Listing -/

/-- What is below the working directory, with its location as seen from there. -/
def below (t : FileTree) : List (Location × Entry) :=
  t.entries.filterMap fun x =>
    if t.workingDirectory.isPrefixOf x.1 && x.1 ≠ t.workingDirectory then
      some (x.1.drop t.workingDirectory.length, x.2)
    else none

/-- Orders locations by the bytes of their written paths. -/
def writtenBefore (l m : Location) : Bool :=
  !decide ((Text.join '/' m).flatMap Text.octets < (Text.join '/' l).flatMap Text.octets)

/-- What is below the working directory, ordered by the bytes of the written paths. -/
def listing (t : FileTree) : List (Location × Entry) :=
  t.below.mergeSort fun a b => writtenBefore a.1 b.1

/-! ## Parts of a tree -/

/-- The locations that a path passes when it starts at one, the last included, as if all of them
were directories. -/
def passedFrom (l : Location) : List Text → List Location
  | [] => [l]
  | part :: parts =>
    l :: passedFrom (if part = Path.up then l.dropLast else l ++ [part]) parts

/-- The locations that a path can pass, given the working directory. -/
def passed (workingDirectory : Location) (p : Path) : List Location :=
  passedFrom (if p.root = .here then workingDirectory else []) p.parts

/-- What has been put into a tree since it was another one, directories before what is in them. -/
def changesSince (before after : FileTree) : List (Location × Entry) :=
  (after.entries.filter fun x => before.entryAt? x.1 ≠ some x.2).mergeSort
    fun x y => x.1.length ≤ y.1.length

end FileTree

end Scaffold
