/-
# Scaffold.Console.Parameters.Formatted -- texts with fields

A formatted text has fields in braces, each with an expression, an optional conversion behind `!`
and an optional format behind `:`, which may have fields itself. Doubled braces are braces. The
expression of a field is a term of its own, which is read as if it stood in parentheses; what is
wrong with it is told as a fault in a field.

`readTerm` reads a text as a term, together with all the fields in it.
-/

import Scaffold.Console.Parameters.Parsing

namespace Scaffold.Console.Parameters

/-! ## Plain stretches -/

/-- A plain stretch of a formatted text. -/
structure PlainStretch where
  text : Text
  rest : Text
  /-- Whether it ends with a doubled brace. -/
  doubled : Bool := false

/-- The stretch with a text in front of it. -/
def PlainStretch.behind (s : Text) (p : PlainStretch) : PlainStretch :=
  { p with text := s ++ p.text }

/-- The plain stretch that ends with a brace. -/
def PlainStretch.atBrace (inFormat : Bool) (brace : CodePoint) (s : Text) :
    Except Fault PlainStretch :=
  if inFormat then .ok ⟨[], brace :: s, false⟩
  else if s.head? = some brace then .ok ⟨[brace], s.drop 1, true⟩
  else if brace = '}' then .error .singleBrace
  else .ok ⟨[], brace :: s, false⟩

/-- Where in a plain stretch a character stands. -/
inductive Within where
  | text
  /-- Behind a backslash. -/
  | escape
  /-- Behind a backslash and an `N`. -/
  | named
  /-- In the name of a character, whose braces are no fields. -/
  | name
  deriving DecidableEq, Repr

/-- The plain stretch at the beginning of a formatted text, or of a format in it. -/
def plainStretch (raw inFormat : Bool) (place : Within) : Text → Except Fault PlainStretch
  | [] => .ok ⟨[], [], false⟩
  | c :: s =>
    let goOn (place : Within) := (·.behind [c]) <$> plainStretch raw inFormat place s
    match place with
    | .named => goOn (if c = '{' then .name else .text)
    | .name => goOn (if c = '}' then .text else .name)
    | _ =>
      if c = '{' || c = '}' then PlainStretch.atBrace inFormat c s
      else if place = .escape then goOn (if c = 'N' then .named else .text)
      else goOn (if c = '\\' && !raw then .escape else .text)

/-! ## Expressions of fields -/

/-- The characters behind which the expression of a field ends, outside of brackets. -/
def fieldEnds : List CodePoint := [chr '!', chr ':', chr '}', chr '=', chr '>', chr '<']

/-- What is known inside of the expression of a field. -/
structure FieldPlace where
  /-- The open brackets, the latest first. -/
  opened : List CodePoint := []
  /-- The quote of the text around the place, if there is one. -/
  quote : Option CodePoint := none
  /-- Whether that stands between three quotes each. -/
  isTriple : Bool := false
  /-- The number of characters that are already accounted for. -/
  done : Nat := 0

/-- The expression of a field and what stands behind it. -/
def fieldExpression (p : FieldPlace) : Text → Except Fault (Text × Text)
  | [] =>
    match p.quote, p.opened with
    | some _, _ => .error .unterminatedInField
    | none, c :: _ => .error (.inField (.unmatched c))
    | none, [] => .error .openField
  | c :: s =>
    let goOn (p : FieldPlace) := (fun (e, rest) => (c :: e, rest)) <$> fieldExpression p s
    match p.done with
    | done + 1 => goOn { p with done }
    | 0 =>
      if c = '\\' then .error .backslashInField
      else
        match p.quote with
        | some quote =>
          if c ≠ quote then goOn p
          else if !p.isTriple then goOn { p with quote := none }
          else if s.take 2 = [c, c] then goOn { p with quote := none, done := 2 }
          else goOn p
        | none =>
          if isQuote c then
            if s.take 2 = [c, c] then goOn { p with quote := some c, isTriple := true, done := 2 }
            else goOn { p with quote := some c, isTriple := false }
          else if [chr '(', chr '{', chr '['].contains c then
            if depthLimit ≤ p.opened.length then .error .tooDeepInField
            else goOn { p with opened := c :: p.opened }
          else if c = '#' then .error .hashInField
          else if p.opened = [] && fieldEnds.contains c then
            if [chr '!', chr '=', chr '<', chr '>'].contains c && s.head? = some (chr '=') then
              goOn { p with done := 1 }
            else if c = '<' || c = '>' then goOn p
            else .ok ([], c :: s)
          else if [chr ')', chr '}', chr ']'].contains c then
            match p.opened with
            | [] => .error (.inField (.unmatched c))
            | o :: opened =>
              if counterpart o = c then goOn { p with opened }
              else .error (.inField (.mismatched c o none))
          else goOn p

/-- Reads an expression that begins on a line, and is followed by a character, as a term in
parentheses. -/
def readExpression (readField : Nat → Text → Except Fault Term) (tell : Fault → Fault) (line : Nat)
    (expression : Text) (following : CodePoint) : Except Fault Unit :=
  if expression.all [chr ' ', chr '\t', chr '\n', chr '\x0c'].contains then
    .error (tell (
      if [chr '!', chr ':', chr '='].contains following then .missingExpression following
      else .emptyExpression))
  else (fun _ => ()) <$> readField line (chr '(' :: expression ++ [chr ')', chr '\n'])

/-! ## Fields -/

/-- What stands behind the conversion at the beginning of a text, if there is one. -/
def behindConversion : Text → Except Fault Text
  | chr '!' :: c :: s =>
    if [chr 's', chr 'r', chr 'a'].contains c then .ok s else .error .badConversion
  | [chr '!'] => .error .openField
  | s => .ok s

mutual

/-- Reads a formatted text that begins on a line, or a format in so many fields, and gives back what
stands behind it. `steps` is more than twice the number of its characters. -/
def readFields (readField : Nat → Text → Except Fault Term) (tell : Fault → Fault) (raw : Bool)
    (level line : Nat) : (steps : Nat) → Text → Except Fault Text
  | 0, s => .ok s
  | steps + 1, s => do
    let stretch ← (plainStretch raw (0 < level) .text s).mapError tell
    if let some e := if raw then none else escapeFault? stretch.text then throw (tell e)
    let line := line + stretch.text.count (chr '\n')
    if stretch.doubled then readFields readField tell raw level line steps stretch.rest
    else
      match stretch.rest with
      | chr '{' :: rest => do
        let rest' ← readOneField readField tell raw level line steps rest
        let passed := rest.take (rest.length - rest'.length)
        readFields readField tell raw level (line + passed.count (chr '\n')) steps rest'
      | rest => if 0 < level && rest = [] then throw (tell .openField) else return rest

/-- Reads a field behind its opening brace and gives back what stands behind the closing one. -/
def readOneField (readField : Nat → Text → Except Fault Term) (tell : Fault → Fault) (raw : Bool)
    (level line : Nat) : (steps : Nat) → Text → Except Fault Text
  | 0, s => .ok s
  | steps + 1, s => do
    if 2 ≤ level then throw (tell .nestedFields)
    let (expression, rest) ← (fieldExpression {} s).mapError tell
    readExpression readField tell line expression (rest.headD ' ')
    let rest := if rest.head? = some (chr '=') then rest.drop 1 else rest
    let rest ← (behindConversion rest).mapError tell
    let rest ←
      match rest with
      | [chr ':'] => throw (tell .openField)
      | chr ':' :: format =>
        readFields readField tell raw (level + 1) (line + expression.count (chr '\n')) steps format
      | _ => pure rest
    match rest with
    | chr '}' :: rest => return rest
    | _ => throw (tell .openField)

end

/-! ## Texts side by side -/

/-- Reads a text in quotes. -/
def Quoted.read (readField : Nat → Text → Except Fault Term) (tell : Fault → Fault) (q : Quoted) :
    Except Fault Unit :=
  if q.isFormatted then
    (fun _ => ()) <$>
      readFields readField tell q.isRaw 0 q.line (2 * q.content.length + 2) q.content
  else
    match q.fault? with
    | some e => .error (tell e)
    | none => .ok ()

/-- The term of texts in quotes that stand side by side. Octets stand beside octets only. -/
def joinTexts (readField : Nat → Text → Except Fault Term) (tell : Fault → Fault)
    (first : Quoted) : List Quoted → Except Fault Term
  | [] => .ok .text
  | q :: qs => do
    if q.isFormatted && first.isOctets then throw (tell .mixedTexts)
    q.read readField tell
    if q.isOctets ≠ first.isOctets then throw (tell .mixedTexts)
    let t ← joinTexts readField tell first qs
    return if q.isFormatted then .formatted else t

/-! ## Terms -/

/-- The term in a text that begins on a line. Fields in it can be nested in each other up to a
depth. -/
def readTerm (r : Rule) (tell : Fault → Fault) : (depth : Nat) → (line : Nat) → Text →
    Except Fault Term
  | 0, _, _ => .error (tell .ungrammatical)
  | depth + 1, line, s =>
    let readField := readTerm .field .inField depth
    Source.parse
      { list := TokenList.read line s
        tell
        join := fun qs => joinTexts readField tell (qs.headD ⟨[], [], false, line⟩) qs }
      r

end Scaffold.Console.Parameters
