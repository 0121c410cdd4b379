/-
# Scaffold.Console.StyledText -- texts with styled spans, and lines of pieces

A styled text remembers which stretches of it stand in a style. A console without colours does not
show the styles, but it still puts a text out in pieces that end where a span begins or ends, and
measures each piece by itself: an emoji selector at the beginning of a piece no longer acts on the
character in front of it. So the spans have to be kept through every operation on the text.

Cutting a text into pieces loses nothing of it (`flatten_pieces`).
-/

import Scaffold.Console.Style
import Scaffold.Text.Grapheme

namespace Scaffold.Console

/-! ## Spans -/

/-- A stretch of a text, from the position of its first character up to the position behind its
last one, and the name of its style. -/
structure Span where
  start : Nat
  stop : Nat
  style : Text
  deriving DecidableEq, Repr

/-- The span of the same characters behind `n` other ones. -/
def Span.behind (n : Nat) (s : Span) : Span :=
  { s with start := n + s.start, stop := n + s.stop }

/-- The part of a span between two positions, counted from the first of them; nothing where there
is no character in it. -/
def Span.between? (start stop : Nat) (s : Span) : Option Span :=
  let first := max s.start start
  let last := min s.stop stop
  if first < last then some { s with start := first - start, stop := last - start } else none

/-! ## Styled texts -/

/-- A text with the spans in it. -/
structure StyledText where
  text : Text
  spans : List Span := []
  deriving DecidableEq, Repr

namespace StyledText

/-- The text behind another one, with its spans. -/
def behind (first : Text) (s : StyledText) : StyledText :=
  ⟨first ++ s.text, s.spans.map (Span.behind first.length)⟩

/-- Two texts one behind the other. -/
def append (s t : StyledText) : StyledText :=
  let behind := t.behind s.text
  ⟨behind.text, s.spans ++ behind.spans⟩

/-- Puts another text in the place of the text. Spans that would stick out of a shorter text are
cut off, and those that would begin behind it are dropped. -/
def replaceText (t : Text) (s : StyledText) : StyledText :=
  if t.length < s.text.length then
    ⟨t, (s.spans.filter fun x => x.start < t.length).map fun x =>
      { x with stop := min t.length x.stop }⟩
  else ⟨t, s.spans⟩

/-- The text with spaces behind it, which are in no span. -/
def padRight (n : Nat) (s : StyledText) : StyledText := { s with text := s.text ++ Text.spaces n }

/-- The text with spaces in front of it, which are in no span. -/
def padLeft (n : Nat) (s : StyledText) : StyledText := s.behind (Text.spaces n)

/-- The consecutive stretches of a styled text, given what each of them says, of which the first
stands at a position; between each two of them `gap` characters are left out. Of the spans some have
begun in front of the place, the others follow in ascending order. -/
def stretches (gap : Nat) (begun others : List Span) (position : Nat) :
    List Text → List StyledText
  | [] => []
  | t :: ts =>
    let stop := position + t.length
    let (entered, others) := others.span (·.start < stop)
    let begun := entered ++ begun
    ⟨t, begun.filterMap (Span.between? position stop)⟩ ::
      stretches gap (begun.filter (stop + gap < ·.stop)) others (stop + gap) ts

/-- Divides a styled text into stretches with `gap` characters between each two. A text that is
all in one stretch stays as it is. -/
def divide (gap : Nat) (parts : List Text) (s : StyledText) : List StyledText :=
  match parts with
  | [_] => [s]
  | _ => stretches gap [] (s.spans.mergeSort fun x y => x.start ≤ y.start) 0 parts

end StyledText

/-! ## Lines of pieces -/

/-- A line of a console, in pieces of which each is measured by itself. -/
abbrev Line := List Text

/-- The pieces of a text that stands at a position, cut at positions in ascending order. -/
def pieces (position : Nat) : List Nat → Text → Line
  | [], s => [s]
  | cut :: cuts, s => s.take (cut - position) :: pieces cut cuts (s.drop (cut - position))

/-- Nothing is lost between pieces. -/
theorem flatten_pieces (position : Nat) (cuts : List Nat) (s : Text) :
    (pieces position cuts s).flatten = s := by
  induction cuts generalizing position s with
  | nil => simp [pieces]
  | cons cut cuts ih => simp [pieces, ih]

/-- A styled text in pieces, which end where a span begins or ends. -/
def StyledText.line (s : StyledText) : Line :=
  pieces 0 (s.spans.flatMap fun x => [x.start, x.stop]).mergeSort s.text

theorem StyledText.flatten_line (s : StyledText) : s.line.flatten = s.text :=
  flatten_pieces _ _ _

namespace Line

/-- The number of cells that a line takes up. -/
def width (l : Line) : Nat := Text.total (l.map Text.width)

/-- The pieces that fit into a number of cells. The first piece that is too long is cut, and what
stands behind it is dropped. -/
def cropPieces (width : Nat) : Line → Except Text.CutFault Line
  | [] => .ok []
  | piece :: l =>
    if Text.width piece < width then
      (piece :: ·) <$> cropPieces (width - Text.width piece) l
    else ([·]) <$> Text.resized width piece

/-- The line cut to the given width where it is wider. -/
def crop (width : Nat) (l : Line) : Except Text.CutFault Line :=
  if width < l.width then l.cropPieces width else .ok l

/-- The line made as wide as the given width: with spaces behind it where it is narrower, cut
where it is wider. -/
def adjust (width : Nat) (l : Line) : Except Text.CutFault Line :=
  if l.width < width then .ok (l ++ [Text.spaces (width - l.width)]) else l.crop width

end Line

end Scaffold.Console
