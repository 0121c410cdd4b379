/-
# Scaffold.Console.Message -- what the program says

Messages are escaped and wrapped in a style, prompts are escaped alone. Both are then set like any
other marked-up text: in lines no wider than the console. A prompt ends where its text ends, a
message with a line feed.

What comes of a text depends on the console, a `Screen`: how wide it is, which emoji it knows, and
whether it is strict, that is, can put out characters only.
-/

import Scaffold.Console.Flow
import Scaffold.Console.Highlight
import Scaffold.Console.Markup

namespace Scaffold.Console

/-- A console. -/
structure Screen where
  /-- The width in cells. -/
  width : Nat
  /-- The emoji that there are names for. -/
  emoji : EmojiTable
  /-- Whether it refuses texts with surrogates in them. -/
  isStrict : Bool

/-- The kinds of message. -/
inductive Tone where
  | success
  | error
  | warning
  | info
  deriving DecidableEq, Repr

/-- The style of a kind of message. -/
def Tone.style : Tone → Text
  | success => "bold green".text
  | error => "bold red".text
  | warning => "bold yellow".text
  | info => "green".text

/-- A text between the tags of a style. -/
def styled (style markup : Text) : Text :=
  chr '[' :: style ++ chr ']' :: markup ++ "[/".text ++ style ++ [chr ']']

/-- A styled text in lines of a width. -/
def setText (width : Nat) (s : StyledText) : Except MarkupError Text := do
  let lines := (s.lines false).flatMap (StyledText.breakLine width true)
  let lines ← (lines.mapM (StyledText.cut false width)).mapError .uncut
  let lines ← lines.mapM StyledText.line?
  let lines ← (lines.mapM (Line.crop width)).mapError .uncut
  return Text.join '\n' (lines.map List.flatten)

namespace Screen

variable (screen : Screen)

/-- Puts out a text that is set, all of it or nothing. -/
def put (s : Text) : Except MarkupError Text :=
  match if screen.isStrict then Text.encodeError? s else none with
  | some e => .error (.unencodable e)
  | none => .ok s

/-- A message as it appears on the console. -/
def message (tone : Tone) (text : Text) : Except MarkupError Text := do
  let read ← render screen.emoji (styled tone.style (escape text))
  screen.put ((← setText screen.width read.highlighted) ++ [chr '\n'])

/-- A prompt as it appears on the console. -/
def prompt (text : Text) : Except MarkupError Text := do
  let read ← render screen.emoji (escape text)
  screen.put (← setText screen.width read.highlighted)

end Screen

end Scaffold.Console
