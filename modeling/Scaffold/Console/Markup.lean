/-
# Scaffold.Console.Markup -- texts with style tags

In marked-up text a tag stands in square brackets and begins with a lower-case letter, `#`, `/` or
`@`; anything else in brackets is plain. A tag opens a style, `[/name]` closes the latest open
style of that name and `[/]` the latest of all, and a closing tag without an open style is an
error. Styles still open at the end are closed there. A tag that begins with `@` names a handler;
its parameters have to be readable where a tag closes it. A backslash in front of a tag makes it
plain text; of several backslashes each two make one.

In plain text emoji codes are replaced. A code is all within one stretch of it: it neither reaches
over a tag nor into one that is made plain, and is looked for in such a one by itself.

`render` reads marked-up text as a styled text. `escape` puts the backslashes that make the tags of
a text plain.
-/

import Scaffold.Console.Emoji
import Scaffold.Console.Parameters
import Scaffold.Console.StyledText
import Scaffold.Text.Utf8

namespace Scaffold.Console

/-! ## Tags -/

/-- Whether a tag may begin with a character. -/
def beginsTag (c : CodePoint) : Bool := ('a' ≤ c && c ≤ 'z') || c = '#' || c = '/' || c = '@'

/-- The content of the tag whose opening bracket stands just before the text: everything up to
the first closing bracket, with no opening one before that. -/
def tagContent? : Text → Option Text
  | [] => none
  | c :: s =>
    if beginsTag c then
      match s.span fun d => d ≠ chr ']' && d ≠ chr '[' with
      | (content, chr ']' :: _) => some (c :: content)
      | _ => none
    else none

/-- A tag: the name, and the parameters behind the first `=`. -/
structure Tag where
  name : Text
  parameters : Option Text := none
  deriving DecidableEq, Repr

/-- The tag with the given content. -/
def Tag.ofContent (content : Text) : Tag :=
  match content.span (· ≠ chr '=') with
  | (name, []) => ⟨name, none⟩
  | (name, _ :: parameters) => ⟨name, some parameters⟩

/-! ## Reading -/

/-- An item of marked-up text. -/
inductive MarkupItem where
  | text (s : Text)
  /-- A tag that is plain text. -/
  | escaped (content : Text)
  /-- A tag with the position of its opening bracket. -/
  | tag (position : Nat) (content : Text)
  deriving DecidableEq, Repr

/-- `n` backslashes. -/
def backslashes (n : Nat) : Text := List.replicate n '\\'

/-- The items of a text that stands at the given position, behind a number of backslashes whose
meaning is still open, and of which the first `done` characters are already accounted for. -/
def markupItems (position slashes done : Nat) : Text → List MarkupItem
  | [] => [.text (backslashes slashes)]
  | c :: s =>
    match done with
    | done + 1 => markupItems (position + 1) slashes done s
    | 0 =>
      if c = '\\' then markupItems (position + 1) (slashes + 1) 0 s
      else if c = '[' then
        match tagContent? s with
        | some content =>
          .text (backslashes (slashes / 2)) ::
            (if slashes % 2 = 0 then .tag position content else .escaped content) ::
            markupItems (position + 1) 0 (content.length + 1) s
        | none => .text (backslashes (slashes - 1) ++ [chr '[']) :: markupItems (position + 1) 0 0 s
      else .text (backslashes slashes ++ [c]) :: markupItems (position + 1) 0 0 s

/-- A stretch of marked-up text. -/
inductive Segment where
  | text (s : Text)
  /-- A tag with the position of its opening bracket. -/
  | tag (position : Nat) (content : Text)
  deriving DecidableEq, Repr

/-- The stretches of items that stand behind some plain text. -/
def segments (before : Text) : List MarkupItem → List Segment
  | [] => [.text before]
  | .text s :: items => segments (before ++ s) items
  | .escaped content :: items =>
    .text before :: .text (chr '[' :: content ++ [chr ']']) :: segments [] items
  | .tag position content :: items => .text before :: .tag position content :: segments [] items

/-! ## Rendering -/

/-- What is wrong with marked-up text, or with the text that it stands for. -/
inductive MarkupError where
  /-- A closing tag, and no style of its name is open. -/
  | notOpen (content : Text) (position : Nat)
  /-- A closing tag, and no style at all is open. -/
  | nothingOpen (position : Nat)
  /-- Parameters of a handler that cannot be read. -/
  | badParameters (parameters : Text) (flaw : Parameters.Flaw)
  /-- A style whose name cannot be read. -/
  | unreadableStyle
  /-- A text that is too wide and cannot be cut. -/
  | uncut (fault : Text.CutFault)
  /-- A text with something in it that is no character. -/
  | unencodable (error : Text.EncodeError)
  deriving DecidableEq, Repr

/-- What is said of faulty markup. -/
def MarkupError.message : MarkupError → Text
  | notOpen content position =>
    "closing tag '[".text ++ content ++ "]' at position ".text ++ Text.ofNat position ++
      " doesn't match any open tag".text
  | nothingOpen position =>
    "closing tag '[/]' at position ".text ++ Text.ofNat position ++
      " has nothing to close".text
  | badParameters parameters flaw => flaw.message parameters
  | uncut fault => fault.message
  | unreadableStyle => "invalid literal for int() with base 10: ''".text
  | unencodable error =>
    error.message ++
      "\n*** You may need to add PYTHONIOENCODING=utf-8 to your environment ***".text

/-- A style that is open: its normal name, the parameters of its tag, and the position in the
plain text at which it begins. -/
structure OpenStyle where
  name : Text
  parameters : Option Text
  start : Nat
  deriving DecidableEq, Repr

/-- Whether a style is a handler, which is closed only if its parameters can be read. -/
def OpenStyle.isHandler (s : OpenStyle) : Bool := s.name.head? = some (chr '@')

/-- The words that name the style of a span. -/
def OpenStyle.words (s : OpenStyle) : Text :=
  match s.parameters with
  | some parameters => s.name ++ chr ' ' :: parameters
  | none => s.name

/-- The span of a style that lasts to a position. -/
def OpenStyle.upTo (stop : Nat) (s : OpenStyle) : Span := ⟨s.start, stop, s.words⟩

/-- The span of a style that is closed at a position by its tag. -/
def OpenStyle.close (stop : Nat) (s : OpenStyle) : Except MarkupError Span :=
  if s.isHandler then
    let parameters := s.parameters.getD []
    match if parameters = [] then none else Parameters.flaw? parameters with
    | some flaw => .error (.badParameters parameters flaw)
    | none => .ok ⟨s.start, stop, []⟩
  else .ok (s.upTo stop)

/-- The normal name of a style, where it can be read. -/
def readName (name : Text) : Except MarkupError Text :=
  match normalName? name with
  | some name => .ok name
  | none => .error .unreadableStyle

/-- Finds the open style that a closing tag closes, given what the tag says behind its slash. -/
def findClosed (openStyles : List OpenStyle) (position : Nat) (content closed : Text) :
    Except MarkupError OpenStyle :=
  if Text.strip closed = [] then
    match openStyles with
    | [] => .error (.nothingOpen position)
    | latest :: _ => .ok latest
  else
    match readName (Text.strip closed) with
    | .error e => .error e
    | .ok name =>
      match openStyles.find? (·.name = name) with
      | some style => .ok style
      | none => .error (.notOpen content position)

/-- The styled text of stretches that stand at a position of the plain text. -/
def renderSegments (openStyles : List OpenStyle) (stop : Nat) :
    List Segment → Except MarkupError StyledText
  | [] => .ok ⟨[], openStyles.map (OpenStyle.upTo stop)⟩
  | .text s :: rest =>
    (fun t => ⟨s ++ t.text, t.spans⟩) <$> renderSegments openStyles (stop + s.length) rest
  | .tag position content :: rest =>
    let tag := Tag.ofContent content
    match tag.name with
    | chr '/' :: closed =>
      match findClosed openStyles position content closed with
      | .error e => .error e
      | .ok style =>
        match style.close stop with
        | .error e => .error e
        | .ok span =>
          (fun t => ⟨t.text, span :: t.spans⟩) <$>
            renderSegments (openStyles.erase style) stop rest
    | name =>
      match readName name with
      | .error e => .error e
      | .ok name => renderSegments (⟨name, tag.parameters, stop⟩ :: openStyles) stop rest

/-- Characters that a terminal would act on in place of showing them: bell, backspace, vertical
tab, form feed, carriage return. -/
def isControl (c : CodePoint) : Bool := [7, 8, 11, 12, 13].contains c.toNat

/-- A stretch with its emoji codes replaced, without characters that a terminal would act on. -/
def Segment.shown (emoji : EmojiTable) : Segment → Segment
  | text s => text ((emoji.replace s).filter fun c => !isControl c)
  | tag position content => tag position content

/-- The styled text that marked-up text stands for. -/
def render (emoji : EmojiTable) (markup : Text) : Except MarkupError StyledText :=
  renderSegments [] 0 ((segments [] (markupItems 0 0 0 markup)).map (Segment.shown emoji))

/-- The line of a styled text, unless the style of one of its spans cannot be read. -/
def StyledText.line? (s : StyledText) : Except MarkupError Line :=
  if s.spans.any fun x => isUnreadable x.style then .error .unreadableStyle else .ok s.line

/-! ## Escaping -/

/-- Escapes the tags of a text behind a number of backslashes that are not yet written, and of
which the first `done` characters are already accounted for. -/
def escapeTags (slashes done : Nat) : Text → Text
  | [] => backslashes slashes
  | c :: s =>
    match done with
    | done + 1 => escapeTags slashes done s
    | 0 =>
      if c = '\\' then escapeTags (slashes + 1) 0 s
      else if c = '[' then
        match tagContent? s with
        | some content =>
          backslashes (2 * slashes + 1) ++ chr '[' :: content ++ chr ']' ::
            escapeTags 0 (content.length + 1) s
        | none => backslashes slashes ++ chr '[' :: escapeTags 0 0 s
      else backslashes slashes ++ c :: escapeTags 0 0 s

/-- Whether a text ends in a single backslash. -/
def endsInOneBackslash (s : Text) : Bool :=
  match s.reverse with
  | [chr '\\'] => true
  | chr '\\' :: c :: _ => c ≠ '\\'
  | _ => false

/-- A text as markup whose tags are plain. A single backslash at the end is doubled, so that it
cannot make a tag behind the text plain. -/
def escape (s : Text) : Text :=
  let escaped := escapeTags 0 0 s
  if endsInOneBackslash escaped then escaped ++ [chr '\\'] else escaped

end Scaffold.Console
