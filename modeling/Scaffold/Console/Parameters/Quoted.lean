/-
# Scaffold.Console.Parameters.Quoted -- texts in quotes

A text stands between single or triple quotes. Letters in front of the quotes say that it consists
of octets (`b`), that backslashes in it mean nothing (`r`), or that it has fields to be filled in
(`f`). `Quoted.behindLetters?` finds the text behind its letters and `Quoted.close` its closing
quotes; whether its escapes can be read is decided by `escapeFault?` and `octetFaultFrom`.
-/

import Scaffold.Console.Parameters.Numeral
import Scaffold.Text.CharacterName

namespace Scaffold.Console.Parameters

/-! ## Quotes -/

/-- A text as it stands in its quotes. -/
structure Quoted where
  /-- The letters in front of it, in lower case. -/
  letters : Text
  content : Text
  /-- Whether it stands between three quotes each. -/
  isTriple : Bool
  /-- The line of its opening quote. -/
  line : Nat
  deriving DecidableEq, Repr

/-- Letters that may stand in front of a quote. -/
def quoteLetters : List Text :=
  ["", "b", "r", "u", "f", "br", "rb", "fr", "rf"].map String.text

/-- Whether a text is no more than octets. -/
def Quoted.isOctets (q : Quoted) : Bool := q.letters.contains 'b'

/-- Whether backslashes mean nothing in a text. -/
def Quoted.isRaw (q : Quoted) : Bool := q.letters.contains 'r'

/-- Whether a text has fields to be filled in. -/
def Quoted.isFormatted (q : Quoted) : Bool := q.letters.contains 'f'

/-- Whether a character is a quote. -/
def isQuote (c : CodePoint) : Bool := c = '\'' || c = '"'

/-- The letters at the beginning of a text and what stands behind them, if that is a quote. -/
def Quoted.behindLetters? (s : Text) : Option (Text × Text) :=
  match s.span fun c => !isQuote c && c.isAlpha with
  | (letters, c :: rest) =>
    if isQuote c && quoteLetters.contains (letters.map CodePoint.toLower) then
      some (letters.map CodePoint.toLower, c :: rest)
    else none
  | (_, []) => none

/-- What stands in front of the closing quote of a text, and what behind it; nothing where the line
ends before. -/
def closeSingle (quote : CodePoint) : Text → Option (Text × Text)
  | [] => none
  | chr '\\' :: c :: s =>
    (fun (content, rest) => (chr '\\' :: c :: content, rest)) <$> closeSingle quote s
  | c :: s =>
    if c = quote then some ([], s)
    else if c = '\n' then none
    else (fun (content, rest) => (c :: content, rest)) <$> closeSingle quote s

/-- What stands in front of the three closing quotes of a text, and what behind them. -/
def closeTriple (quote : CodePoint) : Text → Option (Text × Text)
  | [] => none
  | chr '\\' :: c :: s =>
    (fun (content, rest) => (chr '\\' :: c :: content, rest)) <$> closeTriple quote s
  | c :: s =>
    if c = quote && s.take 2 = [quote, quote] then some ([], s.drop 2)
    else (fun (content, rest) => (c :: content, rest)) <$> closeTriple quote s

/-- The line on which a single quote is missed in a text that begins on a line: where the line ends,
or on the last line that has a character. -/
def lineOfMiss (line : Nat) : Text → Nat
  | [] | [chr '\n'] | [chr '\\', chr '\n'] => line
  | chr '\\' :: chr '\n' :: s => lineOfMiss (line + 1) s
  | chr '\\' :: _ :: s => lineOfMiss line s
  | c :: s => if c = '\n' then line else lineOfMiss line s

/-- The last line that has a character of a text that begins on a line. -/
def lastLine (line : Nat) (s : Text) : Nat :=
  line + (if s.getLast? = some (chr '\n') then s.dropLast else s).count (chr '\n')

/-- The text in the quotes at the beginning of a text that stands on a line, and what stands behind
it. -/
def Quoted.close (letters : Text) (line : Nat) (s : Text) : Except Fault (Quoted × Text) :=
  let quote := s.headD ' '
  if s.take 3 = [quote, quote, quote] then
    match closeTriple quote (s.drop 3) with
    | some (content, rest) => .ok (⟨letters, content, true, line⟩, rest)
    | none => .error (.unterminatedTriple (lastLine line s))
  else
    match closeSingle quote (s.drop 1) with
    | some (content, rest) => .ok (⟨letters, content, false, line⟩, rest)
    | none => .error (.unterminated (lineOfMiss line (s.drop 1)))

/-! ## Escapes -/

/-- A text in which every character beyond ASCII is an escape of eight digits, and a backslash that
would escape nothing is one of four. The positions of faults are those in this form. -/
def expanded : Text → Text
  | [] => []
  | [chr '\\'] => "\\u005c".text
  | chr '\\' :: c :: s =>
    if c.toNat < 0x80 then chr '\\' :: c :: expanded s
    else "\\u005c".text ++ "\\U".text ++ Text.hexDigits 8 c.toNat ++ expanded s
  | c :: s =>
    if c.toNat < 0x80 then c :: expanded s
    else "\\U".text ++ Text.hexDigits 8 c.toNat ++ expanded s

/-- The fault of an escape with a number of digits, which stands at a position and goes on with a
text. -/
def digitsFault? (position count : Nat) (fault : EscapeFault) (s : Text) : Option Fault :=
  let digits := (s.take count).takeWhile Text.isHexDigit
  let last := position + 1 + digits.length
  if digits.length < count then some (.badEscape position last fault)
  else if 0x10FFFF < Text.numberInBase 16 digits then some (.badEscape position last .noCodePoint)
  else none

/-- The fault of an escape with a name, which stands at a position and goes on with a text. -/
def nameFault? (position : Nat) (s : Text) : Option Fault :=
  match s with
  | chr '{' :: s =>
    let name := s.takeWhile (· ≠ chr '}')
    if name.length = s.length || name = [] then
      some (.badEscape position (position + 2 + name.length) .malformedName)
    else if Text.namesCharacter name then none
    else some (.badEscape position (position + 3 + name.length) .unknownName)
  | _ => some (.badEscape position (position + 1) .malformedName)

/-- The first faulty escape in an expanded text that stands at a position. `done` is the number of
characters that are already accounted for. -/
def escapeFaultFrom (position done : Nat) : Text → Option Fault
  | [] => none
  | c :: s =>
    match done with
    | done + 1 => escapeFaultFrom (position + 1) done s
    | 0 =>
      if c = '\\' then
        let fault? :=
          match s.headD ' ' with
          | 'x' => digitsFault? position 2 .truncatedOctet (s.drop 1)
          | 'u' => digitsFault? position 4 .truncatedUnit (s.drop 1)
          | 'U' => digitsFault? position 8 .truncatedCodePoint (s.drop 1)
          | 'N' => nameFault? position (s.drop 1)
          | _ => none
        match fault? with
        | some e => some e
        | none => escapeFaultFrom (position + 1) 1 s
      else escapeFaultFrom (position + 1) 0 s

/-- The first faulty escape in a text. -/
def escapeFault? (s : Text) : Option Fault := escapeFaultFrom 0 0 (expanded s)

/-- The first faulty escape among octets that stand at a position. -/
def octetFaultFrom (position : Nat) : Text → Option Fault
  | chr '\\' :: chr 'x' :: s =>
    if ((s.take 2).takeWhile Text.isHexDigit).length < 2 then some (.badOctetEscape position)
    else octetFaultFrom (position + 2) s
  | chr '\\' :: _ :: s => octetFaultFrom (position + 2) s
  | _ :: s => octetFaultFrom (position + 1) s
  | [] => none

/-- The fault of a text without fields. -/
def Quoted.fault? (q : Quoted) : Option Fault :=
  if q.isOctets then
    if q.content.any fun c => 0x80 ≤ c.toNat then some .strangeOctet
    else if q.isRaw then none
    else octetFaultFrom 0 q.content
  else if q.isRaw then none
  else escapeFault? q.content

end Scaffold.Console.Parameters
