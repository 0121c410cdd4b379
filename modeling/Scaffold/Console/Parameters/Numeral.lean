/-
# Scaffold.Console.Parameters.Numeral -- how numbers are written

A number is written in decimals, with a fraction, an exponent and a letter for the imaginary unit
where they are wanted, or behind a zero and a letter in another base. Underscores may stand
between digits. A number may run into one of the words that can follow it, but into nothing else
that looks like a name.

`Numeral.cut` finds where a number ends, and `Number.read` what it is worth.
-/

import Scaffold.Console.Parameters.Fault
import Scaffold.Text.Digit

namespace Scaffold.Console.Parameters

/-! ## Where a number ends -/

/-- Whether a character looks like a part of a name: every one beyond ASCII does. -/
def resemblesName (c : CodePoint) : Bool := c.isAlphanum || c = '_' || 0x80 ≤ c.toNat

/-- Whether a text begins with a word. -/
def beginsWithWord (s word : Text) : Bool :=
  word.isPrefixOf s && !resemblesName ((s.drop word.length).headD ' ')

/-- Whether a text may follow a number without a space between: with a word that stands between
values, or with a character beyond ASCII, which is another fault. -/
def mayFollowNumber (s : Text) : Bool :=
  !resemblesName (s.headD ' ') || 0x80 ≤ (s.headD ' ').toNat ||
    ["if", "in", "is"].any (·.text.isPrefixOf s) ||
    ["and", "else", "for", "or", "not"].any (beginsWithWord s ·.text)

/-- A number and what stands behind it. -/
structure Numeral where
  text : Text
  rest : Text
  deriving DecidableEq, Repr

/-- The beginning of a text that ends where `rest` begins, as a number; the rest has to be
something that may follow a number. -/
def Numeral.ending (numbering : Numbering) (s rest : Text) : Except Fault Numeral :=
  if mayFollowNumber rest then .ok ⟨s.take (s.length - rest.length), rest⟩
  else .error (.badNumber numbering)

/-- What stands behind digits at the beginning of a text, which may be grouped by underscores. An
underscore has to be in front of another digit. -/
def behindDigits (numbering : Numbering) (isDigit : CodePoint → Bool) (grouped : Bool) :
    Text → Except Fault Text
  | [] => if grouped then .error (.badNumber numbering) else .ok []
  | c :: s =>
    if isDigit c then behindDigits numbering isDigit false s
    else if grouped then
      .error (if c.isDigit && numbering ≠ .decimal then .badDigit c numbering
        else .badNumber numbering)
    else if c = '_' then behindDigits numbering isDigit true s
    else .ok (c :: s)

/-- What stands behind decimal digits at the beginning of a text. -/
def behindDecimals (s : Text) : Except Fault Text :=
  if (s.headD ' ').isDigit then behindDigits .decimal CodePoint.isDigit false s else .ok s

/-- A number in another base, given what stands behind its letter. -/
def Numeral.inBase (numbering : Numbering) (isDigit : CodePoint → Bool) (s digits : Text) :
    Except Fault Numeral := do
  let digits := if digits.headD ' ' = '_' then digits.drop 1 else digits
  let rest ← behindDigits numbering isDigit true digits
  if (rest.headD ' ').isDigit then .error (.badDigit (rest.headD ' ') numbering)
  else Numeral.ending numbering s rest

/-- The end of a decimal number, given what stands behind its digits. -/
def Numeral.imaginaryEnding (s rest : Text) : Except Fault Numeral :=
  if [chr 'j', chr 'J'].contains (rest.headD ' ') then Numeral.ending .imaginary s (rest.drop 1)
  else Numeral.ending .decimal s rest

/-- A decimal number, given what stands behind its whole part and its fraction. -/
def Numeral.raised (s rest : Text) : Except Fault Numeral :=
  match rest with
  | c :: power =>
    if c = 'e' || c = 'E' then
      let sign := [chr '+', chr '-'].contains (power.headD ' ')
      let digits := if sign then power.drop 1 else power
      if (digits.headD ' ').isDigit then do
        Numeral.imaginaryEnding s (← behindDecimals digits)
      else if sign then .error (.badNumber .decimal)
      else Numeral.ending .decimal s rest
    else Numeral.imaginaryEnding s rest
  | [] => Numeral.imaginaryEnding s rest

/-- A decimal number, given what stands behind its whole part. -/
def Numeral.pointed (s rest : Text) : Except Fault Numeral :=
  match rest with
  | chr '.' :: fraction => do Numeral.raised s (← behindDecimals fraction)
  | _ => Numeral.raised s rest

/-- What stands behind zeros at the beginning of a text, which may be grouped by underscores with
each other and with the digit behind them. -/
def behindZeros : Text → Except Fault Text
  | [] => .ok []
  | [chr '_'] => .error (.badNumber .decimal)
  | chr '_' :: c :: s =>
    if c = '0' then behindZeros s
    else if c.isDigit then .ok (c :: s)
    else .error (.badNumber .decimal)
  | c :: s => if c = '0' then behindZeros s else .ok (c :: s)

/-- A decimal number that begins with a zero. A whole number may do so only if it is zero. -/
def Numeral.fromZero (s : Text) : Except Fault Numeral := do
  let nonzero ← behindZeros s
  let rest ← behindDecimals nonzero
  if (nonzero.headD ' ').isDigit &&
      !([chr '.', chr 'e', chr 'E', chr 'j', chr 'J'].contains (rest.headD ' ')) then
    .error .leadingZeros
  else Numeral.pointed s rest

/-- The number at the beginning of a text, which begins with a digit, or with a point and a
digit. -/
def Numeral.cut (s : Text) : Except Fault Numeral :=
  match s with
  | chr '0' :: base :: digits =>
    if base = 'x' || base = 'X' then
      Numeral.inBase .hexadecimal Text.isHexDigit s digits
    else if base = 'o' || base = 'O' then
      Numeral.inBase .octal (fun c => '0' ≤ c && c ≤ '7') s digits
    else if base = 'b' || base = 'B' then
      Numeral.inBase .binary (fun c => c = '0' || c = '1') s digits
    else Numeral.fromZero s
  | chr '0' :: _ => Numeral.fromZero s
  | chr '.' :: _ => Numeral.pointed s s
  | _ => do Numeral.pointed s (← behindDecimals s)

/-! ## What a number is worth -/

/-- The worth of a number, as far as it matters. -/
inductive Number where
  | whole (n : Nat)
  | inexact
  | imaginary
  deriving DecidableEq, Repr

/-- The number of digits that a whole number may have. -/
def digitLimit : Nat := 4300

/-- The worth of a whole number that is written in decimal digits. -/
def Number.ofDecimals (digits : Text) : Except Fault Number :=
  if digitLimit < digits.length && digits.any (· ≠ '0') then .error (.tooManyDigits digits.length)
  else .ok (.whole (Text.numberInBase 10 digits))

/-- The worth of a number as it is written. -/
def Number.read (s : Text) : Except Fault Number :=
  let s := s.filter (· ≠ chr '_')
  match s with
  | chr '0' :: chr 'x' :: digits | chr '0' :: chr 'X' :: digits =>
    .ok (.whole (Text.numberInBase 16 digits))
  | chr '0' :: chr 'o' :: digits | chr '0' :: chr 'O' :: digits =>
    .ok (.whole (Text.numberInBase 8 digits))
  | chr '0' :: chr 'b' :: digits | chr '0' :: chr 'B' :: digits =>
    .ok (.whole (Text.numberInBase 2 digits))
  | _ =>
    if s.any fun c => c = 'j' || c = 'J' then .ok .imaginary
    else if s.all CodePoint.isDigit then Number.ofDecimals s
    else .ok .inexact

/-- The least whole number that is too large to be taken as an inexact one. -/
def inexactLimit : Nat := (1 <<< 1024) - (1 <<< 970)

end Scaffold.Console.Parameters
