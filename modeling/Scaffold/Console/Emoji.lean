/-
# Scaffold.Console.Emoji -- emoji codes

A code is a name between two colons, without blank characters in it; behind the name it can select
how the emoji is drawn. A name is looked up whatever its letter case. Which names there are and what
they stand for is not settled here: that is a table, and everything takes the table it works with.

A text is read from left to right. A code whose name is not in the table stays as it is written,
with both its colons, and reading goes on behind it.
-/

import Scaffold.Text.Blank
import Scaffold.Text.Case
import Scaffold.Text.Width

namespace Scaffold.Console

/-- The emoji that names in lower case stand for. -/
abbrev EmojiTable := Text → Option String

/-- An item of a text with emoji codes in it. -/
inductive CodeItem where
  | char (c : CodePoint)
  | code (content : Text)
  deriving DecidableEq, Repr

/-- The content of the code whose first colon stands just before the text: everything up to the next
colon, with no blank character before that. -/
def codeContent? (s : Text) : Option Text :=
  match s.span fun c => c ≠ chr ':' && !Text.isBlankChar c with
  | (content, chr ':' :: _) => some content
  | _ => none

/-- The items of a text of which the first `done` characters are already accounted for. -/
def codeItems (done : Nat) : Text → List CodeItem
  | [] => []
  | c :: s =>
    match done with
    | done + 1 => codeItems done s
    | 0 =>
      if c = ':' then
        match codeContent? s with
        | some content => .code content :: codeItems (content.length + 1) s
        | none => .char c :: codeItems 0 s
      else .char c :: codeItems 0 s

/-- The name in a code, and the character that selects how the emoji is drawn where there is one. -/
def codeParts (content : Text) : Text × Text :=
  if Text.endsWith "-emoji".text content then (content.take (content.length - 6), ['\uFE0F'])
  else if Text.endsWith "-text".text content then (content.take (content.length - 5), ['\uFE0E'])
  else (content, [])

/-- What the code with the given content stands for. -/
def EmojiTable.meaning? (emoji : EmojiTable) (content : Text) : Option Text :=
  let (name, selector) := codeParts content
  (emoji (Text.lower name)).map fun s => s.text ++ selector

/-- An item as it is written. -/
def CodeItem.written : CodeItem → Text
  | char c => [c]
  | code content => chr ':' :: content ++ [chr ':']

/-- An item with its code replaced. -/
def CodeItem.shown (emoji : EmojiTable) : CodeItem → Text
  | char c => [c]
  | code content => (emoji.meaning? content).getD (code content).written

/-- A text with its emoji codes replaced. -/
def EmojiTable.replace (emoji : EmojiTable) (s : Text) : Text :=
  (codeItems 0 s).flatMap (CodeItem.shown emoji)

end Scaffold.Console
