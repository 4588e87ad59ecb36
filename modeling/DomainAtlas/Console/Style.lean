import DomainAtlas.Text.Basic
import DomainAtlas.Text.Casing
import DomainAtlas.Text.Numeral

/-!
# Styles

A style is written as words: attributes such as `bold`, a colour, `on` with the colour of the ground,
`link` with an address. The order of the words does not matter, so a style has a canonical name, by
which the end of a styled passage finds its start.
-/
namespace DomainAtlas.Console

def attributeWords : List (String × String) :=
  [("bold", "bold"), ("b", "bold"), ("dim", "dim"), ("d", "dim"), ("italic", "italic"),
    ("i", "italic"), ("underline", "underline"), ("u", "underline"), ("blink", "blink"),
    ("blink2", "blink2"), ("reverse", "reverse"), ("r", "reverse"), ("conceal", "conceal"),
    ("c", "conceal"), ("strike", "strike"), ("s", "strike"), ("underline2", "underline2"),
    ("uu", "underline2"), ("frame", "frame"), ("encircle", "encircle"),
    ("overline", "overline"), ("o", "overline")]

/-- The attributes in the order in which a canonical name lists them. -/
def attributeOrder : List String :=
  ["bold", "dim", "italic", "underline", "blink", "blink2", "reverse", "conceal", "strike",
    "underline2", "frame", "encircle", "overline"]

def colourNames : List String := ([
  "black red green yellow blue magenta cyan white bright_black bright_red bright_green",
  "bright_yellow bright_blue bright_magenta bright_cyan bright_white grey0 gray0 navy_blue",
  "dark_blue blue3 blue1 dark_green deep_sky_blue4 dodger_blue3 dodger_blue2 green4",
  "spring_green4 turquoise4 deep_sky_blue3 dodger_blue1 green3 spring_green3 dark_cyan",
  "light_sea_green deep_sky_blue2 deep_sky_blue1 spring_green2 cyan3 dark_turquoise turquoise2",
  "green1 spring_green1 medium_spring_green cyan2 cyan1 dark_red deep_pink4 purple4 purple3",
  "blue_violet orange4 grey37 gray37 medium_purple4 slate_blue3 royal_blue1 chartreuse4",
  "dark_sea_green4 pale_turquoise4 steel_blue steel_blue3 cornflower_blue chartreuse3",
  "cadet_blue sky_blue3 steel_blue1 pale_green3 sea_green3 aquamarine3 medium_turquoise",
  "chartreuse2 sea_green2 sea_green1 aquamarine1 dark_slate_gray2 dark_magenta dark_violet",
  "purple light_pink4 plum4 medium_purple3 slate_blue1 yellow4 wheat4 grey53 gray53",
  "light_slate_grey light_slate_gray medium_purple light_slate_blue dark_olive_green3",
  "dark_sea_green light_sky_blue3 sky_blue2 dark_sea_green3 dark_slate_gray3 sky_blue1",
  "chartreuse1 light_green pale_green1 dark_slate_gray1 red3 medium_violet_red magenta3",
  "dark_orange3 indian_red hot_pink3 medium_orchid3 medium_orchid medium_purple2 dark_goldenrod",
  "light_salmon3 rosy_brown grey63 gray63 medium_purple1 gold3 dark_khaki navajo_white3 grey69",
  "gray69 light_steel_blue3 light_steel_blue yellow3 dark_sea_green2 light_cyan3",
  "light_sky_blue1 green_yellow dark_olive_green2 dark_sea_green1 pale_turquoise1 deep_pink3",
  "magenta2 hot_pink2 orchid medium_orchid1 orange3 light_pink3 pink3 plum3 violet",
  "light_goldenrod3 tan misty_rose3 thistle3 plum2 khaki3 light_goldenrod2 light_yellow3 grey84",
  "gray84 light_steel_blue1 yellow2 dark_olive_green1 honeydew2 light_cyan1 red1 deep_pink2",
  "deep_pink1 magenta1 orange_red1 indian_red1 hot_pink dark_orange salmon1 light_coral",
  "pale_violet_red1 orchid2 orchid1 orange1 sandy_brown light_salmon1 light_pink1 pink1 plum1",
  "gold1 navajo_white1 misty_rose1 thistle1 yellow1 light_goldenrod1 khaki1 wheat1 cornsilk1",
  "grey100 gray100 grey3 gray3 grey7 gray7 grey11 gray11 grey15 gray15 grey19 gray19 grey23",
  "gray23 grey27 gray27 grey30 gray30 grey35 gray35 grey39 gray39 grey42 gray42 grey46 gray46",
  "grey50 gray50 grey54 gray54 grey58 gray58 grey62 gray62 grey66 gray66 grey70 gray70 grey74",
  "gray74 grey78 gray78 grey82 gray82 grey85 gray85 grey89 gray89 grey93 gray93"] : List String).flatMap (Text.split ' ')

/-- The words of a text, separated by white space. -/
def styleWords (s : String) : List String :=
  ((s.toList.splitBy fun a b => Text.isBlank a == Text.isBlank b).filter fun w =>
    !w.any Text.isBlank).map String.ofList

/-- What stands between an opening and a final parenthesis. -/
def inParentheses? (start s : String) : Option (List Char) :=
  match Text.dropStart? start.toList s.toList with
  | some body => if body.getLast? = some ')' then some body.dropLast else none
  | none => none

/-- Why a part of a mixed colour cannot be read: nothing is there, or too many digits. -/
inductive ShadeFault where
  | empty
  | digits (count : Nat)
  deriving DecidableEq, Repr

def ShadeFault.message : ShadeFault → String
  | .empty => "invalid literal for int() with base 10: ''"
  | .digits count => Text.tooManyDigits count

/-- The number of a part of a mixed colour, which has only digits. -/
def shade (cs : List Char) : Except ShadeFault Nat :=
  if cs.isEmpty then .error .empty
  else if Text.maxDigits < cs.length then .error (.digits cs.length)
  else .ok (Text.digitsNumber cs)

/-- Whether a text is the inside of a mixed colour: three numbers below 256. Three parts are read one by
one, also where one of them is no number. -/
def isMixture (body : List Char) : Except ShadeFault Bool :=
  match Text.splitChars ',' body with
  | [red, green, blue] =>
    if body.all fun c => c == ',' || Text.isDecimalDigit c then do
      let red ← shade red
      let green ← shade green
      let blue ← shade blue
      return red ≤ 255 && green ≤ 255 && blue ≤ 255
    else .ok false
  | _ => .ok false

/-- Whether a text has a colour's six hexadecimal digits. -/
def isHexColour (word : List Char) : Bool :=
  match word with
  | '#' :: ds => ds.length == 6 && ds.all fun c => c.isDigit || ('a' ≤ c && c ≤ 'f')
  | _ => false

def isColourNumber (ds : List Char) : Bool :=
  !ds.isEmpty && ds.length ≤ 3 && ds.all Char.isDigit && Text.digitsNumber ds ≤ 255

/-- Whether a word is a colour: a mixture, a name, six hexadecimal digits or a number. -/
def isColour (word : String) : Except ShadeFault Bool :=
  match inParentheses? "rgb(" word with
  | some body => isMixture body
  | none => .ok (word == "default" || colourNames.contains word || isHexColour word.toList ||
      (inParentheses? "color(" word).any isColourNumber)

structure Style where
  /-- The attributes that are switched on or off. -/
  attributes : List (String × Bool)
  colour : Option String
  ground : Option String
  link : Option String
  deriving Repr

namespace Style

def plain : Style := ⟨[], none, none, none⟩

def switch (s : Style) (name : String) (on : Bool) : Style :=
  { s with attributes := (name, on) :: s.attributes.filter fun a => a.1 != name }

def ofWords : Style → List String → Except ShadeFault (Option Style)
  | s, [] => .ok (some s)
  | s, w :: ws =>
    let word := Text.lower w
    if word = "on" then
      match ws with
      | g :: ws => do
        if ← isColour (Text.lower g) then ofWords { s with ground := some (Text.lower g) } ws
        else return none
      | [] => .ok none
    else if word = "not" then
      match ws with
      | a :: ws =>
        match attributeWords.lookup a with
        | some name => ofWords (s.switch name false) ws
        | none => .ok none
      | [] => .ok none
    else if word = "link" then
      match ws with
      | l :: ws => ofWords { s with link := some l } ws
      | [] => .ok none
    else
      match attributeWords.lookup word with
      | some name => ofWords (s.switch name true) ws
      | none => do
        if ← isColour word then ofWords { s with colour := some word } ws else return none

/-- Reads a style. What is no style gives none; one with a broken mixture cannot be read. -/
def read (s : String) : Except ShadeFault (Option Style) :=
  if Text.strip s = "none" then .ok (some plain) else ofWords plain (styleWords s)

def name (s : Style) : String :=
  let attributes := attributeOrder.filterMap fun a =>
    (s.attributes.lookup a).map fun on => if on then a else "not " ++ a
  let words := attributes ++ s.colour.toList ++ (s.ground.map ("on " ++ ·)).toList ++
    (s.link.map ("link " ++ ·)).toList
  if words.isEmpty then "none" else Text.join " " words

end Style

/-- The name of what is written as a style: canonical for a style, otherwise what is written, in lower
case. -/
def styleName (s : String) : Except ShadeFault String :=
  (Style.read s).map fun
    | some style => style.name
    | none => Text.lower (Text.strip s)

end DomainAtlas.Console
