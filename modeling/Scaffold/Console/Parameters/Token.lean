/-
# Scaffold.Console.Parameters.Token -- the tokens that parameters consist of

The parameters of a handler are written as numbers, texts in quotes, names and words, with signs
and brackets between them. `Token.read` cuts a text into these. Where that cannot go on the tokens
end, with the fault that is found there. Most of these faults are found whether or not somebody
reads so far; the others, such as an open bracket at the end, count only for who gets there.
-/

import Scaffold.Console.Parameters.Quoted
import Scaffold.Text.Letter

namespace Scaffold.Console.Parameters

/-! ## Tokens -/

/-- What a token is. -/
inductive Token where
  | name (s : Text)
  /-- A word with a meaning of its own, a sign or a bracket. -/
  | fixed (s : String)
  | number (s : Text)
  | quoted (q : Quoted)
  /-- A line feed outside of brackets. -/
  | lineEnd
  | indent
  | dedent
  /-- The end of the text. -/
  | stop
  /-- A sign without a meaning. -/
  | meaningless
  deriving DecidableEq, Repr

/-- A token with its place. -/
structure PlacedToken where
  token : Token
  /-- The number of brackets that are open behind it. -/
  depth : Nat
  line : Nat
  deriving DecidableEq, Repr

/-- A bracket that is open, and the line on which it stands. -/
structure OpenBracket where
  bracket : CodePoint
  line : Nat
  deriving DecidableEq, Repr

/-- How the tokens of a text end. -/
inductive Ending where
  /-- With the end of the text. -/
  | complete
  /-- With a fault that is found in any case. -/
  | certain (fault : Fault)
  /-- With a fault that is found by who reads so far. There are open brackets, the latest first.
  The text may break off directly behind the last token. -/
  | possible (fault : Fault) (opened : List OpenBracket) (abrupt : Bool)
  deriving DecidableEq, Repr

/-- The tokens of a text. -/
structure TokenList where
  tokens : Array PlacedToken
  ending : Ending

/-! ## Words and signs -/

/-- Words with a meaning of their own. -/
def keywords : List String :=
  ["False", "None", "True", "and", "as", "assert", "async", "await", "break", "class", "continue",
   "def", "del", "elif", "else", "except", "finally", "for", "from", "global", "if", "import", "in",
   "is", "lambda", "nonlocal", "not", "or", "pass", "raise", "return", "try", "while", "with",
   "yield"]

/-- The brace that opens. -/
def leftBrace : String := "\x7b"

/-- The brace that closes. -/
def rightBrace : String := "\x7d"

/-- Signs, the longer ones first. -/
def signs : List String :=
  ["...", "**=", "//=", "<<=", ">>=", "->", ":=", "+=", "-=", "*=", "/=", "%=", "&=", "|=", "^=",
   "@=", "<<", ">>", "<=", ">=", "==", "!=", "<>", "**", "//", "(", ")", "[", "]", leftBrace,
   rightBrace, ",", ":", ";", ".", "=", "+", "-", "*", "/", "%", "@", "&", "|", "^", "~", "<", ">"]

/-- The word at the beginning of a text as a token. -/
def Token.ofWord (word : Text) : Except Fault Token :=
  let strange? :=
    if Text.isIdentifierStart (word.headD ' ') then
      word.find? fun c => !Text.isIdentifierChar c
    else word.head?
  match strange? with
  | some c => .error (.strangeCharacter c)
  | none =>
    match keywords.find? fun keyword => keyword.text = word with
    | some keyword => .ok (.fixed keyword)
    | none => .ok (.name word)

/-- The sign at the beginning of a text, and what stands behind it. -/
def Token.ofSign (s : Text) : Token × Text :=
  match signs.find? fun sign => sign.text.isPrefixOf s with
  | some sign => (.fixed sign, s.drop sign.length)
  | none => (.meaningless, s.drop 1)

/-! ## Reading tokens -/

/-- An indentation, measured with wide tabs and with narrow ones. -/
structure Indent where
  wide : Nat := 0
  narrow : Nat := 0
  deriving DecidableEq, Repr

/-- How far the reading has come. -/
structure Reading where
  /-- The open brackets, the latest first. -/
  opened : List OpenBracket := []
  line : Nat
  /-- The indentations of the lines around the place, the latest first. -/
  indents : List Indent := []
  /-- Whether a line begins here. -/
  atLineStart : Bool := true
  /-- Whether there is nothing on the line but blanks and a comment. -/
  onBlankLine : Bool := false
  /-- Whether there is a token directly in front of the place whose end shows only behind it. -/
  isAbrupt : Bool := false

/-- What is found at a place. -/
inductive Found where
  | tokens (ts : List Token) (reading : Reading) (rest : Text)
  | ending (ending : Ending)

/-- A fault that is found by who reads so far. -/
def Reading.possible (r : Reading) (fault : Fault) : Found :=
  .ending (.possible fault r.opened false)

/-- The distance between two wide tab stops. -/
def wideTab : Nat := 8

/-- The number of brackets that may be open at once. -/
def depthLimit : Nat := 200

/-- The indentation behind a tab. -/
def Indent.tab (i : Indent) : Indent := ⟨(i.wide / wideTab + 1) * wideTab, i.narrow + 1⟩

/-- The indentation at the beginning of a line, which may go on behind a backslash and a line feed:
how far it goes, the number of further lines, and what stands behind it. The first column in front
of a backslash counts in place of the last one. -/
def readIndent (first : Nat) (i : Indent) (lines : Nat) : Text → Except Fault (Indent × Nat × Text)
  | chr ' ' :: s => readIndent first ⟨i.wide + 1, i.narrow + 1⟩ lines s
  | chr '\t' :: s => readIndent first i.tab lines s
  | chr '\x0c' :: s => readIndent first {} lines s
  | [chr '\\', chr '\n'] => .error .unexpectedEnd
  | chr '\\' :: chr '\n' :: s => readIndent (if first = 0 then i.wide else first) i (lines + 1) s
  | chr '\\' :: _ => .error .strayBackslash
  | s => .ok (if first = 0 then i else ⟨first, first⟩, lines, s)

/-- The fault of a backslash at which a text breaks off. -/
def Reading.breakOff (r : Reading) (fault : Fault) : Found :=
  match fault, r.opened with
  | .unexpectedEnd, o :: _ => r.possible (.neverClosed o.bracket)
  | _, _ => r.possible fault

/-- The tokens of the indentation at the beginning of a line. Wide and narrow tabs have to agree in
how it compares to those of the lines around. -/
def Reading.indentation (r : Reading) (s : Text) : Found :=
  match readIndent 0 {} 0 s with
  | .error e => r.breakOff e
  | .ok (i, lines, rest) =>
    let blank := [chr '#', chr '\n'].contains (rest.headD ' ')
    let r := { r with atLineStart := false, onBlankLine := blank, line := r.line + lines }
    let current := r.indents.headD {}
    if blank || r.opened ≠ [] || i = current then .tokens [] r rest
    else if current.wide < i.wide then
      if current.narrow < i.narrow then .tokens [.indent] { r with indents := i :: r.indents } rest
      else r.possible .badIndentation
    else
      let kept := r.indents.dropWhile (i.wide < ·.wide)
      if kept.headD {} = i then
        .tokens (List.replicate (r.indents.length - kept.length) .dedent)
          { r with indents := kept } rest
      else r.possible .badIndentation

/-- The bracket that closes another one. -/
def counterpart (opening : CodePoint) : CodePoint :=
  if opening = '(' then ')' else if opening = '{' then '}' else ']'

/-- What is found at a closing bracket. -/
def Reading.close (r : Reading) (closing : CodePoint) (rest : Text) : Found :=
  match r.opened with
  | [] => .ending (.certain (.unmatched closing))
  | o :: opened =>
    if counterpart o.bracket = closing then
      .tokens [(Token.ofSign [closing]).1] { r with opened } rest
    else
      .ending (.certain
        (.mismatched closing o.bracket (if o.line = r.line then none else some o.line)))

/-- What is found at a sign or bracket. -/
def Reading.sign (r : Reading) (c : CodePoint) (s : Text) : Found :=
  if [chr '(', chr '{', chr '['].contains c then
    if depthLimit ≤ r.opened.length then .ending (.certain .tooDeep)
    else
      .tokens [(Token.ofSign [c]).1] { r with opened := ⟨c, r.line⟩ :: r.opened } s
  else if [chr ')', chr '}', chr ']'].contains c then r.close c s
  else if 0x20 < c.toNat && c.toNat < 0x7F then
    let (token, rest) := Token.ofSign (c :: s)
    .tokens [token] r rest
  else .ending (.certain (.strangeCharacter c))

/-- A token that may be faulty, with what stands behind it. -/
def Reading.take (r : Reading) (found : Except Fault (Token × Text)) : Found :=
  match found with
  | .ok (token, rest) => .tokens [token] r rest
  | .error e => .ending (.certain e)

/-- What is found at a place inside of a line. -/
def Reading.next (r : Reading) : Text → Found
  | [] =>
    match r.opened with
    | [] => .ending .complete
    | o :: _ => .ending (.possible (.neverClosed o.bracket) r.opened r.isAbrupt)
  | c :: s =>
    if [chr ' ', chr '\t', chr '\x0c'].contains c then .tokens [] r s
    else if c = '#' then .tokens [] r (s.dropWhile (· ≠ '\n'))
    else if c = '\n' then
      .tokens (if r.onBlankLine || r.opened ≠ [] then [] else [.lineEnd])
        { r with line := r.line + 1, atLineStart := true } s
    else if c = '\\' then
      match s with
      | [chr '\n'] => r.breakOff .unexpectedEnd
      | chr '\n' :: s => .tokens [] { r with line := r.line + 1 } s
      | _ => r.breakOff .strayBackslash
    else if c.isDigit || (c = '.' && (s.headD ' ').isDigit) then
      r.take ((fun n => (.number n.text, n.rest)) <$> Numeral.cut (c :: s))
    else
      match Quoted.behindLetters? (c :: s) with
      | some (letters, rest) =>
        match Quoted.close letters r.line rest with
        | .error e => .ending (.certain e)
        | .ok (q, rest) =>
          let lines := q.content.count (chr '\n')
          .tokens [.quoted q] { r with line := r.line + lines } rest
      | none =>
        if resemblesName c then
          let (word, rest) := (c :: s).span resemblesName
          r.take ((·, rest) <$> Token.ofWord word)
        else r.sign c s

/-- Whether the end of a token shows only in what stands behind it. -/
def Token.isOpenEnded : Token → Bool
  | name _ | fixed _ | number _ | meaningless => true
  | quoted q => q.content = [] && !q.isTriple
  | _ => false

/-- The line of a token that is followed by a place on a line. -/
def Token.line (line : Nat) : Token → Nat
  | quoted q => q.line
  | _ => line

/-- The tokens of a text, behind those in front of it. `steps` is more than twice the number of its
characters. -/
def readTokens (tokens : Array PlacedToken) (r : Reading) : (steps : Nat) → Text → TokenList
  | 0, _ => ⟨tokens, .complete⟩
  | steps + 1, s =>
    match if r.atLineStart then r.indentation s else r.next s with
    | .ending .complete => ⟨tokens.push ⟨.stop, 0, r.line⟩, .complete⟩
    | .ending e => ⟨tokens, e⟩
    | .tokens ts r' rest =>
      let placed := ts.map fun t => ⟨t, r'.opened.length, t.line r.line⟩
      readTokens (placed.foldl Array.push tokens) { r' with isAbrupt := ts.any Token.isOpenEnded }
        steps rest

/-- The tokens of a text that begins on a line. -/
def TokenList.read (line : Nat) (s : Text) : TokenList :=
  readTokens #[] { line } (2 * s.length + 3) s

end Scaffold.Console.Parameters
