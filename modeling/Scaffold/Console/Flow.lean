/-
# Scaffold.Console.Flow -- texts in lines of a width

Breaks a text into lines that are no wider than a number of cells. Lines break between words; the
blank characters behind a word stay with it and are cut off where they stick out. A word wider
than a whole line is either folded, that is broken wherever the line is full, or left for the
caller to cut. What is still too wide is cut in the end, with or without an ellipsis.

Widths are counted in cells. Only the blank characters at the end of a line are counted one by
one, whatever their width.
-/

import Scaffold.Console.StyledText
import Scaffold.Text.Blank

namespace Scaffold.Console

/-! ## Words -/

/-- The words of a text, each with the blank characters behind it and the first also with those
in front of it. A blank text has no words. `part` is the word that is being read, its last
character first; `seen` says whether it has a character that is not blank, `ended` whether it has
blank ones behind that. -/
def flowWordsFrom (part : Text) (seen ended : Bool) : Text → List Text
  | [] => if seen then [part.reverse] else []
  | c :: s =>
    if Text.isBlankChar c then flowWordsFrom (c :: part) seen seen s
    else if ended then part.reverse :: flowWordsFrom [c] true false s
    else flowWordsFrom (c :: part) true false s

/-- The words of a text with the blank characters around them. -/
def flowWords (s : Text) : List Text := flowWordsFrom [] false false s

/-! ## Breaking -/

/-- Puts words on lines. `line` is the line that is being filled and `used` its width so far;
the line is `fresh` while nothing at all stands before the next word. -/
def placeWords (width : Nat) (fold : Bool) (line : Text) (used : Nat) (fresh : Bool) :
    List Text → List Text
  | [] => [line]
  | word :: words =>
    let bare := Text.width word.stripRight
    if used + bare ≤ width then
      placeWords width fold (line ++ word) (used + Text.width word) false words
    else if width < bare then
      if fold then
        match (Text.chop width word).reverse with
        | [] => placeWords width fold (line ++ word) used false words
        | last :: others =>
          (if fresh then [] else [line]) ++ others.reverse ++
            placeWords width fold last (Text.width last) false words
      else
        (if fresh then [] else [line]) ++
          placeWords width fold word (Text.width word) false words
    else if 0 < used && !fresh then
      line :: placeWords width fold word (Text.width word) false words
    else placeWords width fold (line ++ word) used false words

/-- What the lines say that one line of text is broken into. -/
def brokenText (width : Nat) (fold : Bool) (s : Text) : List Text :=
  match flowWords s with
  | [] => [s]
  | words => placeWords width fold [] 0 true words

namespace StyledText

/-- The line without as many of its last blank characters as it has characters too many. -/
def trimEnd (width : Nat) (s : StyledText) : StyledText :=
  let blank := s.text.length - s.text.stripRight.length
  s.replaceText (s.text.take (s.text.length - min blank (s.text.length - width)))

/-- Breaks one line of text, without line feeds in it, into lines. -/
def breakLine (width : Nat) (fold : Bool) (s : StyledText) : List StyledText :=
  (s.divide 0 (brokenText width fold s.text)).map (trimEnd width)

/-! ## Cutting and filling up -/

/-- The text cut to the given width where it is wider, if wanted with an ellipsis in the last
cell. -/
def cut (ellipsis : Bool) (width : Nat) (s : StyledText) : Except Text.CutFault StyledText :=
  if width < Text.width s.text then
    if ellipsis then
      (fun t => s.replaceText (t ++ [chr '…'])) <$> Text.cut (width - 1) s.text
    else (fun t => s.replaceText t) <$> Text.cut width s.text
  else .ok s

/-- The text cut to the given width, with an ellipsis, or filled up to it. -/
def leftAligned (width : Nat) (s : StyledText) : Except Text.CutFault StyledText :=
  (·.padRight (width - Text.width s.text)) <$> s.cut true width

/-- The text moved to the left, out of its first place. -/
def moveLeft (n : Nat) (s : StyledText) : StyledText :=
  { s with spans := s.spans.map fun x => { x with start := x.start - n, stop := x.stop - n } }

/-- The text in the middle of the given width; an odd space is put behind it. Where it cannot be cut
to that width its spans move as if it began in front of the line. -/
def centred (width : Nat) (s : StyledText) : Except Text.CutFault StyledText := do
  let s ← (s.replaceText s.text.stripRight).cut false width
  let s :=
    if Text.width s.text ≤ width then s.padLeft ((width - Text.width s.text) / 2)
    else s.moveLeft ((Text.width s.text - width + 1) / 2)
  return s.padRight (width - Text.width s.text)

/-- Lines that are aligned in a width and then cut to it where they are still wider. -/
def align (aligned : Nat → StyledText → Except Text.CutFault StyledText) (ellipsis : Bool)
    (width : Nat) (lines : List StyledText) : Except Text.CutFault (List StyledText) := do
  (← lines.mapM (aligned width)).mapM (cut ellipsis width)

/-! ## Tabs -/

/-- The distance between two tab stops. -/
def tabStop : Nat := 8

/-- The number of spaces from a column to the next tab stop, if it is not at one. -/
def tabRest (column : Nat) : Nat := (tabStop - column % tabStop) % tabStop

/-- A stretch in front of a tab with spaces in the place of the tab, which belong to the spans
that reach up to it. -/
def fillTab (count : Nat) (s : StyledText) : StyledText :=
  ⟨s.text ++ Text.spaces count, s.spans.map fun x =>
    if s.text.length < x.stop then { x with stop := s.text.length + count } else x⟩

/-- The stretches of a line, which are separated by tabs, with spaces up to the next tab stop in
the place of the tabs. The first stretch begins at a column of the line and at a position of the
text. With `marked`, each stretch is a span of its own. -/
def expandTabsFrom (marked : Bool) (spans : List Span) (column position : Nat) :
    List Text → StyledText
  | [] => ⟨[], []⟩
  | part :: parts =>
    let tabs := if parts = [] then 0 else 1
    let stop := position + part.length + tabs
    let column := column + Text.width (part ++ Text.spaces tabs)
    let count := if parts = [] then 0 else 1 + tabRest column
    let stretch := fillTab count ⟨part, spans.filterMap (Span.between? position stop)⟩
    let mark := if marked then [⟨0, stretch.text.length, []⟩] else []
    append ⟨stretch.text, mark ++ stretch.spans⟩
      (expandTabsFrom marked spans (column + (count - tabs)) stop parts)

/-- A line with its tabs replaced by spaces up to the next tab stop. -/
def expandTabs (marked : Bool) (s : StyledText) : StyledText :=
  match s.text.split '\t' with
  | [_] => s
  | parts => expandTabsFrom marked s.spans 0 0 parts

/-- The lines of a text, with their tabs expanded. -/
def lines (marked : Bool) (s : StyledText) : List StyledText :=
  (s.divide 1 (s.text.split '\n')).map (expandTabs marked)

end StyledText

end Scaffold.Console
