/-
# Scaffold.Console.Parameters.Fault -- what can be wrong with parameters

The faults of the parameters of a handler, from the single character to the value as a whole, and
what is said of each. A fault of the writing is told together with the arguments in which it is
found, a fault of the value (`ValueFault`) only with the parameters.
-/

import Scaffold.Text.Printable
import Scaffold.Text.Quoted

namespace Scaffold.Console.Parameters

/-! ## Faults of the writing -/

/-- The notations for a number. -/
inductive Numbering where
  | hexadecimal
  | octal
  | binary
  | decimal
  | imaginary
  deriving DecidableEq, Repr

/-- The name of a notation. -/
def Numbering.text : Numbering → Text
  | hexadecimal => "hexadecimal".text
  | octal => "octal".text
  | binary => "binary".text
  | decimal => "decimal".text
  | imaginary => "imaginary".text

/-- What can be wrong with an escape in a text. -/
inductive EscapeFault where
  | truncatedOctet
  | truncatedUnit
  | truncatedCodePoint
  | noCodePoint
  | malformedName
  | unknownName
  deriving DecidableEq, Repr

/-- What is said of a faulty escape. -/
def EscapeFault.text : EscapeFault → Text
  | truncatedOctet => "truncated \\xXX escape".text
  | truncatedUnit => "truncated \\uXXXX escape".text
  | truncatedCodePoint => "truncated \\UXXXXXXXX escape".text
  | noCodePoint => "illegal Unicode character".text
  | malformedName => "malformed \\N character escape".text
  | unknownName => "unknown Unicode character name".text

/-- What can be wrong with the way in which parameters are written. -/
inductive Fault where
  /-- A bracket without its counterpart behind it. -/
  | neverClosed (opening : CodePoint)
  /-- A bracket without its counterpart in front of it. -/
  | unmatched (closing : CodePoint)
  /-- A bracket that meets one of another kind, which may stand on an earlier line. -/
  | mismatched (closing opening : CodePoint) (line : Option Nat)
  /-- Brackets that are nested too deeply. -/
  | tooDeep
  /-- A text without its closing quote, missed on a line. -/
  | unterminated (line : Nat)
  /-- A text without its three closing quotes, missed on a line. -/
  | unterminatedTriple (line : Nat)
  /-- A backslash outside of quotes. -/
  | strayBackslash
  /-- An end behind a backslash and a line feed. -/
  | unexpectedEnd
  /-- A line that is indented. -/
  | indented
  /-- A line whose indentation does not fit to those above it. -/
  | badIndentation
  /-- A number that is not written as its notation asks. -/
  | badNumber (numbering : Numbering)
  /-- A digit that the notation of a number does not have. -/
  | badDigit (digit : CodePoint) (numbering : Numbering)
  /-- A whole number that begins with a superfluous zero. -/
  | leadingZeros
  /-- A whole number with too many digits. -/
  | tooManyDigits (digits : Nat)
  /-- A character that has no place outside of quotes. -/
  | strangeCharacter (c : CodePoint)
  /-- An escape in a text, from its first to its last position. -/
  | badEscape (first last : Nat) (fault : EscapeFault)
  /-- An escape among octets. -/
  | badOctetEscape (position : Nat)
  /-- A character among octets that is no ASCII character. -/
  | strangeOctet
  /-- A text beside octets. -/
  | mixedTexts
  /-- Two values side by side. -/
  | missingComma
  /-- A condition without the other value. -/
  | missingElse
  /-- A statement of old that is now a call. -/
  | missingParentheses (name : Text)
  /-- A single equals sign behind a name. -/
  | nameAssigned
  /-- A single equals sign behind something else. -/
  | assigned (description : Text)
  /-- Something without a name where a name is given. -/
  | unnamed (description : Text)
  /-- Something that cannot be a target. -/
  | noTarget (description : Text)
  /-- A key without a value behind its colon. -/
  | missingValue
  /-- A key without a colon, among others that have one. -/
  | missingColon
  /-- A star in front of a value in a table. -/
  | starredValue
  /-- A star in front of something in parentheses. -/
  | starredGroup
  /-- Two stars in front of something in parentheses. -/
  | doubleStarredGroup
  /-- A star in front of nothing. -/
  | bareStar
  /-- A star in front of what a comprehension collects. -/
  | starredComprehension
  /-- Two stars in front of what a comprehension collects. -/
  | doubleStarredComprehension
  /-- Several values that a comprehension collects, without parentheses. -/
  | bareTarget
  /-- A comprehension among other arguments, without parentheses. -/
  | bareGenerator
  /-- A star behind two stars among arguments. -/
  | starAfterStars
  /-- An argument without a name behind one with a name. -/
  | positionalAfterKeyword
  /-- An argument without a name behind two stars. -/
  | positionalAfterStars
  /-- An argument whose name is no name. -/
  | argumentAssigned
  /-- A default that is missing. -/
  | missingDefault
  /-- A parameter without a default behind one with a default. -/
  | missingLaterDefault
  /-- Parentheses around the parameters of a lambda. -/
  | parenthesizedParameters
  /-- A slash in front of all parameters. -/
  | slashFirst
  /-- A second slash. -/
  | secondSlash
  /-- A slash behind a star. -/
  | slashAfterStar
  /-- A star directly behind a slash. -/
  | slashBeforeStar
  /-- A star without parameters behind it. -/
  | bareParameterStar
  /-- A default of a parameter with a star. -/
  | starredDefault
  /-- A second star. -/
  | secondStar
  /-- A default of a parameter with two stars. -/
  | doubleStarredDefault
  /-- A parameter behind the one with two stars. -/
  | behindDoubleStarred
  /-- A field of a formatted text without an expression, and the character behind it. -/
  | missingExpression (c : CodePoint)
  /-- A field of a formatted text with nothing in it. -/
  | emptyExpression
  /-- A closing brace in a formatted text that closes no field. -/
  | singleBrace
  /-- A field in a field in a field. -/
  | nestedFields
  /-- Brackets that are nested too deeply in a field. -/
  | tooDeepInField
  /-- A backslash in a field. -/
  | backslashInField
  /-- A hash in a field. -/
  | hashInField
  /-- A text in a field without its closing quote. -/
  | unterminatedInField
  /-- A field without its closing brace. -/
  | openField
  /-- A letter for a conversion that there is not. -/
  | badConversion
  /-- Something that is wrong in a field or with its brackets. -/
  | inField (fault : Fault)
  /-- Something that stands where it cannot stand. -/
  | ungrammatical
  deriving DecidableEq, Repr

/-- What is said of a fault. -/
def Fault.message : Fault → Text
  | neverClosed opening => chr '\'' :: opening :: "' was never closed".text
  | unmatched closing => "unmatched '".text ++ [closing, chr '\'']
  | mismatched closing opening line =>
    "closing parenthesis '".text ++ closing :: "' does not match opening parenthesis '".text ++
      [opening, chr '\''] ++
      match line with
      | some line => " on line ".text ++ Text.ofNat line
      | none => []
  | tooDeep => "too many nested parentheses".text
  | unterminated line =>
    "unterminated string literal (detected at line ".text ++ Text.ofNat line ++ [chr ')']
  | unterminatedTriple line =>
    "unterminated triple-quoted string literal (detected at line ".text ++ Text.ofNat line ++
      [chr ')']
  | strayBackslash => "unexpected character after line continuation character".text
  | unexpectedEnd => "unexpected EOF while parsing".text
  | indented => "unexpected indent".text
  | badIndentation => "unindent does not match any outer indentation level".text
  | badNumber numbering => "invalid ".text ++ numbering.text ++ " literal".text
  | badDigit digit numbering =>
    "invalid digit '".text ++ digit :: "' in ".text ++ numbering.text ++ " literal".text
  | leadingZeros =>
    "leading zeros in decimal integer literals are not permitted; ".text ++
      "use an 0o prefix for octal integers".text
  | tooManyDigits digits =>
    "Exceeds the limit (4300 digits) for integer string conversion: value has ".text ++
      Text.ofNat digits ++
      " digits; use sys.set_int_max_str_digits() to increase the limit".text ++
      " - Consider hexadecimal for huge integer literals to avoid decimal conversion limits.".text
  | strangeCharacter c =>
    let width := if c.toNat < 0x10000 then 4 else if c.toNat < 0x100000 then 5 else 6
    let code := "U+".text ++ (Text.hexDigits width c.toNat).map CodePoint.toUpper
    if Text.isPrintable c then "invalid character '".text ++ c :: "' (".text ++ code ++ [chr ')']
    else "invalid non-printable character ".text ++ code
  | badEscape first last fault =>
    "(unicode error) 'unicodeescape' codec can't decode bytes in position ".text ++
      Text.ofNat first ++ chr '-' :: Text.ofNat last ++ ": ".text ++ fault.text
  | badOctetEscape position =>
    "(value error) invalid \\x escape at position ".text ++ Text.ofNat position
  | strangeOctet => "bytes can only contain ASCII literal characters".text
  | mixedTexts => "cannot mix bytes and nonbytes literals".text
  | missingComma => "invalid syntax. Perhaps you forgot a comma?".text
  | missingElse => "expected 'else' after 'if' expression".text
  | missingParentheses name =>
    "Missing parentheses in call to '".text ++ name ++ "'. Did you mean ".text ++ name ++
      "(...)?".text
  | nameAssigned => "invalid syntax. Maybe you meant '==' or ':=' instead of '='?".text
  | assigned description =>
    "cannot assign to ".text ++ description ++
      " here. Maybe you meant '==' instead of '='?".text
  | unnamed description => "cannot use assignment expressions with ".text ++ description
  | noTarget description => "cannot assign to ".text ++ description
  | missingValue => "expression expected after dictionary key and ':'".text
  | missingColon => "':' expected after dictionary key".text
  | starredValue => "cannot use a starred expression in a dictionary value".text
  | starredGroup => "cannot use starred expression here".text
  | doubleStarredGroup => "cannot use double starred expression here".text
  | bareStar => "Invalid star expression".text
  | starredComprehension => "iterable unpacking cannot be used in comprehension".text
  | doubleStarredComprehension => "dict unpacking cannot be used in dict comprehension".text
  | bareTarget => "did you forget parentheses around the comprehension target?".text
  | bareGenerator => "Generator expression must be parenthesized".text
  | starAfterStars =>
    "iterable argument unpacking follows keyword argument unpacking".text
  | positionalAfterKeyword => "positional argument follows keyword argument".text
  | positionalAfterStars => "positional argument follows keyword argument unpacking".text
  | argumentAssigned =>
    "expression cannot contain assignment, perhaps you meant \"==\"?".text
  | missingDefault => "expected default value expression".text
  | missingLaterDefault => "non-default argument follows default argument".text
  | parenthesizedParameters => "Lambda expression parameters cannot be parenthesized".text
  | slashFirst => "at least one argument must precede /".text
  | secondSlash => "/ may appear only once".text
  | slashAfterStar => "/ must be ahead of *".text
  | slashBeforeStar => "expected comma between / and *".text
  | bareParameterStar => "named arguments must follow bare *".text
  | starredDefault => "var-positional argument cannot have default value".text
  | secondStar => "* argument may appear only once".text
  | doubleStarredDefault => "var-keyword argument cannot have default value".text
  | behindDoubleStarred => "arguments cannot follow var-keyword argument".text
  | missingExpression c => "f-string: expression required before '".text ++ [c, chr '\'']
  | emptyExpression => "f-string: empty expression not allowed".text
  | singleBrace => "f-string: single '\x7d' is not allowed".text
  | nestedFields => "f-string: expressions nested too deeply".text
  | tooDeepInField => "f-string: too many nested parenthesis".text
  | backslashInField => "f-string expression part cannot include a backslash".text
  | hashInField => "f-string expression part cannot include '#'".text
  | unterminatedInField => "f-string: unterminated string".text
  | openField => "f-string: expecting '\x7d'".text
  | badConversion =>
    "f-string: invalid conversion character: expected 's', 'r', or 'a'".text
  | inField fault => "f-string: ".text ++ fault.message
  | ungrammatical => "invalid syntax".text

/-! ## Faults of the value -/

/-- Values that can be neither members of a set nor keys of a table. -/
inductive Unhashable where
  | set
  | table
  deriving DecidableEq, Repr

/-- What can be wrong with the value of parameters. -/
inductive ValueFault where
  /-- Something that would first have to be computed. -/
  | notLiteral
  /-- A table whose entries are taken from elsewhere. -/
  | noKey
  /-- A member of a set or a key that cannot be one. -/
  | unhashable (kind : Unhashable)
  /-- A whole number too large for the real part of a complex one. -/
  | tooLarge
  /-- A NUL character among the parameters. -/
  | nul
  deriving DecidableEq, Repr

/-- What is said of a faulty value. -/
def ValueFault.message : ValueFault → Text
  | notLiteral => "malformed node or string on line 1".text
  | noKey => "malformed node or string: None".text
  | unhashable .set => "unhashable type: 'set'".text
  | unhashable .table => "unhashable type: 'dict'".text
  | tooLarge => "int too large to convert to float".text
  | nul => "source code string cannot contain null bytes".text

end Scaffold.Console.Parameters
