/-
# Scaffold.Console.Table -- the summary of a model's fields

Draws the fields of a model as a table: a title over it, a header row with heavy lines, then one
row for each field. Title, names and references are marked-up text, so a faulty tag in any of them
leaves no table; of several the first of the names counts, then of the references, then of the
title.

A column is as wide as its widest cell with a space on both sides. If the table is then wider than
the console, the widest of the columns that may wrap give way first, and where that is not enough
all columns do. The names never wrap and are cut. The title is centred over the table and wrapped
to its width.
-/

import Scaffold.Console.Message
import Scaffold.Field.Basic

namespace Scaffold.Console

/-! ## Cells -/

/-- Characters at which the lines of a cell end when its width is measured. -/
def isLineEnd (c : CodePoint) : Bool :=
  Text.inRanges [(0x0A, 0x0D), (0x1C, 0x1E), (0x85, 0x85), (0x2028, 0x2029)] c.toNat

/-- The width that the widest line of a cell wants. -/
def wantedWidth (s : Text) : Nat :=
  ((Text.split '\n' (s.map fun c => if isLineEnd c then '\n' else c)).map Text.width).foldl max 0

/-- The lines of a cell in a column of the given width, with a space on both sides. Where nothing
fits between these the cell has no lines. -/
def cellLines (wraps : Bool) (width : Nat) (s : StyledText) : Except MarkupError (List Line) := do
  let inner := width - 2
  if inner = 0 then return []
  let lines ← ((s.lines false).mapM fun line =>
    StyledText.align StyledText.leftAligned true inner
      (if wraps then line.breakLine inner false else [line])).mapError .uncut
  let lines ← lines.flatten.mapM StyledText.line?
  let lines ← (lines.mapM (Line.adjust inner)).mapError .uncut
  (lines.mapM fun line => Line.adjust width ([chr ' '] :: line ++ [[chr ' ']])).mapError .uncut

/-- A column: whether its cells may wrap, and their texts from the header down. -/
structure Column where
  wraps : Bool
  cells : List StyledText

/-- The width that a column wants, with a space on both sides. -/
def Column.wantedWidth (c : Column) : Nat :=
  (c.cells.map fun s => Console.wantedWidth s.text).foldl max 0 + 2

/-! ## Widths -/

/-- The quotient rounded to the nearest number, a half to the even one. -/
def roundedQuotient (n d : Nat) : Nat :=
  let q := n / d
  let r := n % d
  if 2 * r < d then q else if 2 * r > d then q + 1 else if q % 2 = 0 then q else q + 1

/-- Takes a total away from values in equal shares, from a value only where it takes part and
never more than its limit. `sharers` counts the values that still take part. -/
def takeShares (limit : Nat → Nat) (total sharers : Nat) : List (Nat × Bool) → List Nat
  | [] => []
  | (value, sharing) :: rest =>
    if sharing && 0 < sharers then
      let share := min (limit value) (roundedQuotient total sharers)
      (value - share) :: takeShares limit (total - share) (sharers - 1) rest
    else value :: takeShares limit total sharers rest

/-- Takes a total away from the values that take part. -/
def reduce (limit : Nat → Nat) (total : Nat) (values : List (Nat × Bool)) : List Nat :=
  takeShares limit total (values.countP fun x => x.2) values

/-- Narrows the widest of the columns that may wrap, step by step down to the next narrower ones,
until nothing is in excess or nothing more can be gained that way. -/
def narrowWidest (available : Nat) (wraps : List Bool) : (steps : Nat) → List Nat → List Nat
  | 0, widths => widths
  | steps + 1, widths =>
    let excess := Text.total widths - available
    let wrapping := ((widths.zip wraps).filter fun x => x.2).map Prod.fst
    let widest := wrapping.foldl max 0
    let second := (wrapping.filter (· ≠ widest)).foldl max 0
    if excess = 0 || wrapping.isEmpty || widest = second then widths
    else
      narrowWidest available wraps steps
        (reduce (fun _ => min excess (widest - second)) excess
          ((widths.zip wraps).map fun x => (x.1, x.2 && x.1 = widest)))

/-- The widths of columns on a console that has the given number of cells for them. -/
def columnWidths (available : Nat) (columns : List Column) : List Nat :=
  let widths := columns.map fun c => min c.wantedWidth available
  if Text.total widths ≤ available then widths
  else
    let narrowed :=
      narrowWidest available (columns.map Column.wraps) (Text.total widths - available) widths
    if Text.total narrowed ≤ available then narrowed
    else reduce id (Text.total narrowed - available) (narrowed.map fun w => (w, 0 < w))

/-! ## Lines -/

/-- A horizontal line of a table. -/
def rule (left dash crossing right : CodePoint) (widths : List Nat) : Line :=
  [left :: Text.join crossing (widths.map fun w => List.replicate w dash) ++ [right]]

/-- A line of cells. -/
def cellsLine (bar : CodePoint) (cells : List Line) : Line :=
  [bar] :: [[bar]].intercalate cells ++ [[bar]]

/-- The lines of a row, as many as its highest cell has, and at least one. -/
def rowLines (bar : CodePoint) (widths : List Nat) (wraps : List Bool) (cells : List StyledText) :
    Except MarkupError (List Line) := do
  let set ← ((cells.zip wraps).zip widths).mapM fun x => cellLines x.1.2 x.2 x.1.1
  let height := (set.map List.length).foldl max 1
  let set ← ((set.zip widths).mapM fun x =>
    (List.range height).mapM fun i => Line.adjust x.2 (x.1.getD i [])).mapError .uncut
  return (List.range height).map fun i => cellsLine bar (set.map fun lines => lines.getD i [])

/-! ## The table -/

/-- The cells of a field, from the name to the reference, with tags already read. -/
structure Row where
  name : StyledText
  type : StyledText
  array : StyledText
  reference : StyledText

/-- The marked-up text in the reference column. -/
def referenceCell (f : Field) : Text := if f.reference = [] then [chr '-'] else f.reference

/-- The rows of fields. -/
def rows (emoji : EmojiTable) (fields : List Field) : Except MarkupError (List Row) := do
  let names ← fields.mapM fun f => render emoji f.name
  let references ← fields.mapM fun f => render emoji (referenceCell f)
  return (fields.zip (names.zip references)).map fun (f, name, reference) =>
    { name, type := ⟨f.type.word.text, []⟩, reference
      array := ⟨if f.isArray then "yes".text else "no".text, []⟩ }

/-- The header of a table. -/
def header : Row where
  name := ⟨"Name".text, []⟩
  type := ⟨"Type".text, []⟩
  array := ⟨"Array".text, []⟩
  reference := ⟨"Reference".text, []⟩

/-- The cells of a row in the order of the columns. -/
def Row.cells (r : Row) : List StyledText := [r.name, r.type, r.array, r.reference]

/-- The lines of a title over a table of the given width. -/
def titleLines (width : Nat) (title : StyledText) : Except MarkupError (List Line) := do
  let lines ← ((title.lines true).mapM fun line =>
    StyledText.align StyledText.centred false width (line.breakLine width true)).mapError .uncut
  lines.flatten.mapM StyledText.line?

/-- The lines of a table under a title, on a console of the given width. -/
def tableLines (width : Nat) (title : StyledText) (rows : List Row) :
    Except MarkupError (List Line) := do
  let wraps := [false, true, true, true]
  let cellRows := (header :: rows).map Row.cells
  let columns := (List.range 4).map fun i =>
    (⟨wraps.getD i true, cellRows.map fun r => r.getD i ⟨[], []⟩⟩ : Column)
  let widths := columnWidths (width - 5) columns
  let titled ← titleLines (Text.total widths + 5) title
  let headed ← rowLines '┃' widths wraps header.cells
  let body ← rows.mapM fun r => rowLines '│' widths wraps r.cells
  return titled ++ [rule '┏' '━' '┳' '┓' widths] ++ headed ++ [rule '┡' '━' '╇' '┩' widths] ++
    body.flatten ++ [rule '└' '─' '┴' '┘' widths]

/-- The table of some rows as it appears on the console. -/
def Screen.showTable (screen : Screen) (title : StyledText) (rows : List Row) :
    Except MarkupError Text := do
  let lines ← tableLines screen.width title rows
  let lines ← (lines.mapM (Line.crop screen.width)).mapError .uncut
  screen.put (lines.flatMap fun line => line.flatten ++ [chr '\n'])

/-- The table of a model's fields as it appears on the console. -/
def Screen.fieldsTable (screen : Screen) (model : Text) (fields : List Field) :
    Except MarkupError Text := do
  let rows ← rows screen.emoji fields
  let title ← render screen.emoji (model ++ " fields".text)
  screen.showTable title rows

end Scaffold.Console
