/-
# Scaffold.Text.Quoted -- texts in quotes

The quoted form of a text, as messages show it. Single quotes are used unless the text holds a
single quote and no double quote. Inside, the quote in use and the backslash are escaped, tab and
line ends have letters of their own, and a character without a visible form is written by its
code in two, four or eight hexadecimal digits, whichever first suffices.
-/

import Scaffold.Text.Printable

namespace Scaffold.Text

/-- The lowest `count` hexadecimal digits of a number. -/
def hexDigits (count n : Nat) : Text :=
  (List.range count).reverse.map fun i => Nat.digitChar (n >>> (4 * i) % 16)

/-- A character inside quotes. -/
def quotedChar (quote c : CodePoint) : Text :=
  if c = quote || c = '\\' then [chr '\\', c]
  else if c = '\t' then [chr '\\', chr 't']
  else if c = '\n' then [chr '\\', chr 'n']
  else if c = '\r' then [chr '\\', chr 'r']
  else if isPrintable c then [c]
  else if c.toNat < 0x100 then chr '\\' :: chr 'x' :: hexDigits 2 c.toNat
  else if c.toNat < 0x10000 then chr '\\' :: chr 'u' :: hexDigits 4 c.toNat
  else chr '\\' :: chr 'U' :: hexDigits 8 c.toNat

/-- The quote that a text is written in. -/
def quoteFor (s : Text) : CodePoint := if s.contains '\'' && !s.contains '"' then '"' else '\''

/-- A text in quotes. -/
def quoted (s : Text) : Text :=
  let quote := quoteFor s
  quote :: s.flatMap (quotedChar quote) ++ [quote]

end Scaffold.Text
