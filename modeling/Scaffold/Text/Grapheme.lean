/-
# Scaffold.Text.Grapheme -- what is cut as a whole

A text is cut on a terminal only between graphemes. A character that takes up a cell begins a
grapheme; the marks behind it, an emoji selector, and a joiner with the character that it joins
belong to that. What stands in front of the first such character is a grapheme without cells.

Cutting a text into graphemes loses nothing (`flatMap_graphemes`). `cut` is the beginning of a
text that fits into a number of cells, with a space where only half of a wide grapheme would fit;
`resized` fills a text up or cuts it, and `chop` breaks it into pieces that fit. A text that begins
with joiners can be wider than its graphemes; where these end before the cut, it cannot be cut.
-/

import Scaffold.Text.Width

namespace Scaffold.Text

/-! ## Graphemes -/

/-- Characters that are not cut apart, and the number of cells that they take up together. -/
structure Grapheme where
  text : Text
  cells : Nat
  deriving DecidableEq, Repr

/-- The graphemes of a text. `part` is the grapheme that is being read, its last character first,
and `cells` its width so far; `seen` and `joined` are as in `widthFrom`. -/
def graphemesFrom (part : Text) (cells : Nat) (seen : Option CodePoint) (joined : Bool) :
    Text → List Grapheme
  | [] => if part = [] then [] else [⟨part.reverse, cells⟩]
  | c :: s =>
    if part = [] then
      graphemesFrom [c] (charWidth c) (if charWidth c = 0 then none else some c) false s
    else if joined then graphemesFrom (c :: part) cells seen false s
    else if c = joiner then graphemesFrom (c :: part) cells seen true s
    else if c = emojiSelector then
      graphemesFrom (c :: part) (cells + (seen.map widening).getD 0) none false s
    else if charWidth c = 0 then graphemesFrom (c :: part) cells seen false s
    else ⟨part.reverse, cells⟩ :: graphemesFrom [c] (charWidth c) (some c) false s

/-- The graphemes of a text. -/
def graphemes (s : Text) : List Grapheme := graphemesFrom [] 0 none false s

theorem flatMap_graphemesFrom (part : Text) (cells : Nat) (seen : Option CodePoint) (joined : Bool)
    (s : Text) :
    (graphemesFrom part cells seen joined s).flatMap Grapheme.text = part.reverse ++ s := by
  induction s generalizing part cells seen joined with
  | nil => by_cases h : part = [] <;> simp [graphemesFrom, h]
  | cons c s ih =>
    simp only [graphemesFrom]
    repeat' split
    all_goals simp_all

/-- Nothing is lost between graphemes. -/
theorem flatMap_graphemes (s : Text) : (graphemes s).flatMap Grapheme.text = s := by
  simp [graphemes, flatMap_graphemesFrom]

/-! ## Cutting -/

/-- The graphemes that fit into a number of cells, one after another. Where the next one fits only
in part, spaces take its cells. -/
def cutGraphemes (width : Nat) : List Grapheme → Text
  | [] => []
  | g :: gs =>
    if g.cells ≤ width then g.text ++ cutGraphemes (width - g.cells) gs else spaces width

/-- Why a text cannot be cut. -/
inductive CutFault where
  /-- Its graphemes have no cells at all. -/
  | noCells
  /-- Its graphemes have too few cells. -/
  | tooFewCells
  deriving DecidableEq, Repr

/-- What is said of a text that cannot be cut. -/
def CutFault.message : CutFault → Text
  | noCells => "division by zero".text
  | tooFewCells => "list index out of range".text

/-- The beginning of a text that takes up the given number of cells. -/
def cut (width : Nat) (s : Text) : Except CutFault Text :=
  if width = 0 then .ok []
  else
    let cells := total ((graphemes s).map Grapheme.cells)
    if cells = 0 then .error .noCells
    else if cells < width then .error .tooFewCells
    else .ok (cutGraphemes width (graphemes s))

/-- The text filled up with spaces to the given width. -/
def filled (width : Nat) (s : Text) : Text := s ++ spaces (width - Text.width s)

/-- The text made as wide as the given width: filled up where it is narrower, cut where it is
wider. -/
def resized (width : Nat) (s : Text) : Except CutFault Text :=
  if width < Text.width s then cut width s else .ok (filled width s)

/-- Pieces of graphemes that each fit into the given number of cells, of which `used` are taken by
the piece that is being filled. That piece is kept with its last character first. -/
def chopFrom (width used : Nat) (piece : Text) : List Grapheme → List Text
  | [] => if used = 0 then [] else [piece.reverse]
  | g :: gs =>
    if used + g.cells ≤ width then
      chopFrom width (used + g.cells) (g.text.reverse ++ piece) gs
    else piece.reverse :: chopFrom width g.cells g.text.reverse gs

/-- Breaks a text wherever a line of the given width is full. -/
def chop (width : Nat) (s : Text) : List Text := chopFrom width 0 [] (graphemes s)

end Scaffold.Text
