/-
# Scaffold.Console.Style -- names of styles

A style is named by words: attributes, each possibly behind `not`, a colour, a background colour
behind `on`, a link behind `link`. Different names can mean one style (`b` and `bold`, `red bold`
and `bold red`), so a style has one normal name: its attributes in a fixed order, then the colour,
the background, the link. Words that name no style are their own normal name, in lower case. Only
a colour with a component left empty, as in `rgb(1,,2)`, makes a name that cannot be read.

Nothing here draws anything. Normal names decide which closing tag closes which opening one.
-/

import Scaffold.Text.Blank
import Scaffold.Text.Case
import Scaffold.Text.Digit

namespace Scaffold.Console

/-! ## Attributes -/

/-- The attributes of a style, in the order of a normal name. -/
def attributeNames : List String :=
  ["bold", "dim", "italic", "underline", "blink", "blink2", "reverse", "conceal", "strike",
   "underline2", "frame", "encircle", "overline"]

/-- Short names of attributes. -/
def attributeAliases : List (String × String) :=
  [("d", "dim"), ("b", "bold"), ("i", "italic"), ("u", "underline"), ("r", "reverse"),
   ("c", "conceal"), ("s", "strike"), ("uu", "underline2"), ("o", "overline")]

/-- The attribute that a word names. -/
def attribute? (word : Text) : Option Text :=
  let full := attributeNames.map String.text
  if full.contains word then some word
  else (attributeAliases.map fun x => (x.1.text, x.2.text)).lookup word

/-! ## Colours -/

/-- Colours with a name. -/
def colourNames : List String :=
  ["aquamarine1", "aquamarine3", "black", "blue", "blue1", "blue3", "blue_violet", "bright_black",
   "bright_blue", "bright_cyan", "bright_green", "bright_magenta", "bright_red", "bright_white",
   "bright_yellow", "cadet_blue", "chartreuse1", "chartreuse2", "chartreuse3", "chartreuse4",
   "cornflower_blue", "cornsilk1", "cyan", "cyan1", "cyan2", "cyan3", "dark_blue", "dark_cyan",
   "dark_goldenrod", "dark_green", "dark_khaki", "dark_magenta", "dark_olive_green1",
   "dark_olive_green2", "dark_olive_green3", "dark_orange", "dark_orange3", "dark_red",
   "dark_sea_green", "dark_sea_green1", "dark_sea_green2", "dark_sea_green3", "dark_sea_green4",
   "dark_slate_gray1", "dark_slate_gray2", "dark_slate_gray3", "dark_turquoise", "dark_violet",
   "deep_pink1", "deep_pink2", "deep_pink3", "deep_pink4", "deep_sky_blue1", "deep_sky_blue2",
   "deep_sky_blue3", "deep_sky_blue4", "dodger_blue1", "dodger_blue2", "dodger_blue3", "gold1",
   "gold3", "gray0", "gray100", "gray11", "gray15", "gray19", "gray23", "gray27", "gray3",
   "gray30", "gray35", "gray37", "gray39", "gray42", "gray46", "gray50", "gray53", "gray54",
   "gray58", "gray62", "gray63", "gray66", "gray69", "gray7", "gray70", "gray74", "gray78",
   "gray82", "gray84", "gray85", "gray89", "gray93", "green", "green1", "green3", "green4",
   "green_yellow", "grey0", "grey100", "grey11", "grey15", "grey19", "grey23", "grey27", "grey3",
   "grey30", "grey35", "grey37", "grey39", "grey42", "grey46", "grey50", "grey53", "grey54",
   "grey58", "grey62", "grey63", "grey66", "grey69", "grey7", "grey70", "grey74", "grey78",
   "grey82", "grey84", "grey85", "grey89", "grey93", "honeydew2", "hot_pink", "hot_pink2",
   "hot_pink3", "indian_red", "indian_red1", "khaki1", "khaki3", "light_coral", "light_cyan1",
   "light_cyan3", "light_goldenrod1", "light_goldenrod2", "light_goldenrod3", "light_green",
   "light_pink1", "light_pink3", "light_pink4", "light_salmon1", "light_salmon3",
   "light_sea_green", "light_sky_blue1", "light_sky_blue3", "light_slate_blue", "light_slate_gray",
   "light_slate_grey", "light_steel_blue", "light_steel_blue1", "light_steel_blue3",
   "light_yellow3", "magenta", "magenta1", "magenta2", "magenta3", "medium_orchid",
   "medium_orchid1", "medium_orchid3", "medium_purple", "medium_purple1", "medium_purple2",
   "medium_purple3", "medium_purple4", "medium_spring_green", "medium_turquoise",
   "medium_violet_red", "misty_rose1", "misty_rose3", "navajo_white1", "navajo_white3",
   "navy_blue", "orange1", "orange3", "orange4", "orange_red1", "orchid", "orchid1", "orchid2",
   "pale_green1", "pale_green3", "pale_turquoise1", "pale_turquoise4", "pale_violet_red1", "pink1",
   "pink3", "plum1", "plum2", "plum3", "plum4", "purple", "purple3", "purple4", "red", "red1",
   "red3", "rosy_brown", "royal_blue1", "salmon1", "sandy_brown", "sea_green1", "sea_green2",
   "sea_green3", "sky_blue1", "sky_blue2", "sky_blue3", "slate_blue1", "slate_blue3",
   "spring_green1", "spring_green2", "spring_green3", "spring_green4", "steel_blue", "steel_blue1",
   "steel_blue3", "tan", "thistle1", "thistle3", "turquoise2", "turquoise4", "violet", "wheat1",
   "wheat4", "white", "yellow", "yellow1", "yellow2", "yellow3", "yellow4"]

/-- What stands between a beginning and a closing parenthesis at the end. -/
def insideCall? (beginning : String) (word : Text) : Option Text :=
  match Text.dropBeginning? beginning.text word with
  | none => none
  | some rest => if rest.getLast? = some (chr ')') then some rest.dropLast else none

/-- Why words name no style. -/
inductive NoStyle where
  /-- One of them has no meaning where it stands. -/
  | meaningless
  /-- A component of a colour has no digits. -/
  | emptyComponent
  deriving DecidableEq, Repr

/-- Whether a word in lower case is the number of a colour. -/
def isColourNumber (word : Text) : Bool :=
  match insideCall? "color(" word with
  | some digits =>
    digits ≠ [] && digits.length ≤ 3 && digits.all CodePoint.isDigit &&
      Text.numberOfDigits digits < 256
  | none => false

/-- Checks the components of a colour, which are three numbers of 256 in the digits of any
script. -/
def checkComponents (inside : Text) : Except NoStyle Unit :=
  let components := inside.split ','
  if components.length ≠ 3 || components.any fun digits => !digits.all Text.isDigitChar then
    .error .meaningless
  else if components.contains [] then .error .emptyComponent
  else if components.all fun digits => Text.numberOfDigits digits < 256 then .ok ()
  else .error .meaningless

/-- Checks that a word in lower case names a colour: by its name, by six hexadecimal digits, by
its number, or by its three components. -/
def checkColour (word : Text) : Except NoStyle Unit :=
  let isHexadecimal :=
    match word with
    | chr '#' :: digits =>
      digits.length = 6 && digits.all fun c => c.isDigit || ('a' ≤ c && c ≤ 'f')
    | _ => false
  if word = "default".text || (colourNames.map String.text).contains word || isHexadecimal ||
      isColourNumber word then .ok ()
  else
    match insideCall? "rgb(" word with
    | some inside => checkComponents inside
    | none => .error .meaningless

/-! ## Styles -/

/-- What the words of a style say. -/
structure StyleWords where
  /-- The attributes that are switched on or off, the latest word first. -/
  attributes : List (Text × Bool) := []
  colour : Option Text := none
  background : Option Text := none
  link : Option Text := none

/-- Reads the words of a style. -/
def styleWords (s : StyleWords) : List Text → Except NoStyle StyleWords
  | [] => .ok s
  | word :: words =>
    let lowered := Text.lower word
    if lowered = "on".text then
      match words with
      | [] => .error .meaningless
      | next :: words =>
        let colour := Text.lower next
        match checkColour colour with
        | .ok () => styleWords { s with background := some colour } words
        | .error e => .error e
    else if lowered = "not".text then
      match words with
      | [] => .error .meaningless
      | next :: words =>
        match attribute? next with
        | some a => styleWords { s with attributes := (a, false) :: s.attributes } words
        | none => .error .meaningless
    else if lowered = "link".text then
      match words with
      | [] => .error .meaningless
      | next :: words => styleWords { s with link := some next } words
    else
      match attribute? lowered with
      | some a => styleWords { s with attributes := (a, true) :: s.attributes } words
      | none =>
        match checkColour lowered with
        | .ok () => styleWords { s with colour := some lowered } words
        | .error e => .error e

/-- The words of the normal name of a style. -/
def StyleWords.normalWords (s : StyleWords) : List Text :=
  (attributeNames.map String.text).flatMap (fun a =>
    match s.attributes.lookup a with
    | some true => [a]
    | some false => ["not".text, a]
    | none => []) ++
  s.colour.toList ++
  (match s.background with
    | some b => ["on".text, b]
    | none => []) ++
  (match s.link with
    | some l => ["link".text, l]
    | none => [])

/-- The words of a text, between blank characters. -/
def blankWords (s : Text) : List Text :=
  (Text.split ' ' (s.map fun c => if Text.isBlankChar c then ' ' else c)).filter (· ≠ [])

/-- Reads the words of a name. -/
def readStyle (name : Text) : Except NoStyle StyleWords := styleWords {} (blankWords name)

/-- Whether a name has a component of a colour without digits. Such a name cannot be read at all,
while a name that merely means nothing is a name like any other. -/
def isUnreadable (name : Text) : Bool := readStyle name matches .error .emptyComponent

/-- The normal name of a style; nothing for a name that cannot be read. -/
def normalName? (name : Text) : Option Text :=
  if name.strip = "none".text then some "none".text
  else
    match readStyle name with
    | .ok s => some (Text.join ' ' s.normalWords)
    | .error .meaningless => some (Text.lower name.strip)
    | .error .emptyComponent => none

end Scaffold.Console
