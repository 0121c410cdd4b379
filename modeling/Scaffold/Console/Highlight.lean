/-
# Scaffold.Console.Highlight -- what is highlighted in texts

The console sets off what is conspicuous in a text: tags, assignments, brackets, addresses and
numbers, calls, constants, paths, texts in quotes and links. Without colours nothing of that shows,
but each highlight is a span of its own, and a line is put out in the pieces between them.
-/

import Scaffold.Console.Pattern
import Scaffold.Console.StyledText

namespace Scaffold.Console

namespace Pattern

/-! ## Parts -/

/-- A character of a text. -/
def oneOf (s : String) : Pattern := char s.text.contains

/-- As many characters of a class as possible, at least so many. -/
def atLeast (least : Nat) (isMember : CodePoint → Bool) : Pattern := run isMember least none false

/-- Characters of a class, so many if possible and at least so many. -/
def between (least most : Nat) (isMember : CodePoint → Bool) : Pattern :=
  run isMember least (some most) false

/-- A pattern exactly so often. -/
def times (n : Nat) (p : Pattern) : Pattern := repetition p n (some n)

/-- Whether a character may be in a part of a path. -/
def isPathChar (c : CodePoint) : Bool := Text.isWordChar c || "-.+".text.contains c

/-- Whether a character may be in a link. -/
def isLinkChar (c : CodePoint) : Bool :=
  c.isAlphanum || c = '\x60' || "-$_+!(),.?/;:&=%#~@".text.contains c

/-- Whether a character belongs to a word or is a point. -/
def isDottedChar (c : CodePoint) : Bool := Text.isWordChar c || c = '.'

/-! ## What is conspicuous -/

/-- From a bracket that may open a tag to the last one that may close one. -/
def tag : Pattern :=
  all [marked (text "<"),
    marked (atLeast 0 fun c => Text.isWordChar c || "-.:|".text.contains c),
    marked (atLeast 0 fun _ => true), marked (text ">")]

/-- A name with an equals sign and a value. -/
def assignment : Pattern :=
  all [marked (between 1 50 Text.isWordChar), text "=",
    optional (marked (all [optional (text "\""), atLeast 1 Text.isWordChar, optional (text "\"")]))]

/-- A bracket. -/
def bracket : Pattern :=
  marked (char [chr '[', chr ']', chr '{', chr '}', chr '(', chr ')'].contains)

/-- A network address of four numbers. -/
def numericAddress : Pattern :=
  let part := between 1 3 CodePoint.isDigit
  marked (all [part, text ".", part, text ".", part, text ".", part])

/-- A network address in base sixteen. -/
def longAddress : Pattern :=
  let group := between 1 4 Text.isHexDigit
  marked (all [repetition (all [group, text ":", optional (text ":")]) 1 (some 7), group])

/-- A hardware address with so many pairs of digits, or half as many groups of four. -/
def hardwareAddress (pairs : Nat) : Pattern :=
  let pair := between 1 2 Text.isHexDigit
  let group := between 4 4 Text.isHexDigit
  marked (any [all [times (pairs - 1) (all [pair, text "-"]), pair],
    all [times (pairs - 1) (all [pair, text ":"]), pair],
    all [times (pairs / 2 - 1) (all [group, text "."]), group]])

/-- An identifier of thirty-two digits in five groups. -/
def groupedIdentifier : Pattern :=
  let group (n : Nat) := between n n Text.isHexDigit
  marked (all [group 8, times 3 (all [text "-", group 4]), text "-", group 12])

/-- A name in front of a parenthesis. -/
def call : Pattern := all [marked (run isDottedChar 0 none true), text "("]

/-- A constant. -/
def constant : Pattern :=
  any (["True", "False", "None"].map fun s =>
    all [wordBorder true, marked (text s), wordBorder true])

/-- An exponent of a number, as short as possible where it is reluctant. -/
def exponent (reluctant : Bool) : Pattern :=
  optional (all [text "e", optional (oneOf "-+"), run Text.isDigitChar 1 none reluctant])

/-- The digits of a number, with a fraction. -/
def digits : Pattern :=
  all [atLeast 1 CodePoint.isDigit, optional (text "."), atLeast 0 CodePoint.isDigit]

/-- A complex number. -/
def complexNumber : Pattern :=
  marked (all [notBehind Text.isWordChar, optional (text "-"), digits, exponent true,
    optional (all [oneOf "-+", digits, exponent false]), text "j"])

/-- A number. -/
def number : Pattern :=
  marked (any [all [notBehind Text.isWordChar, optional (text "-"), digits, exponent true,
      wordBorder true],
    all [text "0x", atLeast 0 Text.isHexDigit]])

/-- A path with the name of a file. -/
def path : Pattern :=
  all [marked (all [wordBorder false,
      repetition (all [text "/", atLeast 1 isPathChar]) 0 none, text "/"]),
    optional (marked (atLeast 0 isPathChar))]

/-- A text between quotes. -/
def quoted (quotes : String) : Pattern :=
  all [optional (text "b"), text quotes, run (· ≠ '\n') 0 none true, notBehind (· = '\\'),
    text quotes]

/-- A text in quotes. -/
def literal : Pattern :=
  all [notBehind fun c => c = '\\' || Text.isWordChar c,
    marked (any (["'''", "'", "\"\"\"", "\""].map quoted))]

/-- A link. -/
def link : Pattern :=
  marked (all [any (["file", "https", "http", "ws", "wss"].map text), text "://",
    atLeast 0 isLinkChar])

/-- What is looked for in texts, one after the other. -/
def conspicuous : List Pattern :=
  [tag, assignment, bracket,
   any [numericAddress, longAddress, hardwareAddress 8, hardwareAddress 6, groupedIdentifier, call,
     constant, marked (text "..."), complexNumber, number, path, literal, link]]

end Pattern

/-! ## Highlights -/

/-- The highlights of a text: what is marked in it, where that is not empty. -/
def highlights (s : Text) : List Span :=
  let marks := Pattern.conspicuous.flatMap fun p => p.marks s
  (marks.filter fun (start, stop) => start < stop).map fun (start, stop) => ⟨start, stop, []⟩

/-- Whether what stands beside each other in a text matters for its width: whether there is a joiner
or an emoji selector in it. -/
def isContextual (s : Text) : Bool := s.any fun c => c = Text.joiner || c = Text.emojiSelector

/-- The text with its highlights, where they can matter. -/
def StyledText.highlighted (s : StyledText) : StyledText :=
  if isContextual s.text then { s with spans := highlights s.text ++ s.spans } else s

end Scaffold.Console
