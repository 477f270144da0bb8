import TwinNode.Text.Blank
import TwinNode.Text.Digit
import TwinNode.Text.LowerCase
import TwinNode.Text.Split

/-! A style is described by words: attributes, a color, a background color and a link. Two
descriptions of one style have the same normal form; what describes no style counts as a
name, whose case does not matter. -/

namespace TwinNode.Console

def colorNames : List (List Char) := Text.words
  "black red green yellow blue magenta cyan white bright_black bright_red bright_green bright_yellow
bright_blue bright_magenta bright_cyan bright_white grey0 gray0 navy_blue dark_blue blue3 blue1
dark_green deep_sky_blue4 dodger_blue3 dodger_blue2 green4 spring_green4 turquoise4 deep_sky_blue3
dodger_blue1 green3 spring_green3 dark_cyan light_sea_green deep_sky_blue2 deep_sky_blue1
spring_green2 cyan3 dark_turquoise turquoise2 green1 spring_green1 medium_spring_green cyan2 cyan1
dark_red deep_pink4 purple4 purple3 blue_violet orange4 grey37 gray37 medium_purple4 slate_blue3
royal_blue1 chartreuse4 dark_sea_green4 pale_turquoise4 steel_blue steel_blue3 cornflower_blue
chartreuse3 cadet_blue sky_blue3 steel_blue1 pale_green3 sea_green3 aquamarine3 medium_turquoise
chartreuse2 sea_green2 sea_green1 aquamarine1 dark_slate_gray2 dark_magenta dark_violet purple
light_pink4 plum4 medium_purple3 slate_blue1 yellow4 wheat4 grey53 gray53 light_slate_grey
light_slate_gray medium_purple light_slate_blue dark_olive_green3 dark_sea_green light_sky_blue3
sky_blue2 dark_sea_green3 dark_slate_gray3 sky_blue1 chartreuse1 light_green pale_green1
dark_slate_gray1 red3 medium_violet_red magenta3 dark_orange3 indian_red hot_pink3 medium_orchid3
medium_orchid medium_purple2 dark_goldenrod light_salmon3 rosy_brown grey63 gray63 medium_purple1
gold3 dark_khaki navajo_white3 grey69 gray69 light_steel_blue3 light_steel_blue yellow3
dark_sea_green2 light_cyan3 light_sky_blue1 green_yellow dark_olive_green2 dark_sea_green1
pale_turquoise1 deep_pink3 magenta2 hot_pink2 orchid medium_orchid1 orange3 light_pink3 pink3 plum3
violet light_goldenrod3 tan misty_rose3 thistle3 plum2 khaki3 light_goldenrod2 light_yellow3 grey84
gray84 light_steel_blue1 yellow2 dark_olive_green1 honeydew2 light_cyan1 red1 deep_pink2 deep_pink1
magenta1 orange_red1 indian_red1 hot_pink dark_orange salmon1 light_coral pale_violet_red1 orchid2
orchid1 orange1 sandy_brown light_salmon1 light_pink1 pink1 plum1 gold1 navajo_white1 misty_rose1
thistle1 yellow1 light_goldenrod1 khaki1 wheat1 cornsilk1 grey100 gray100 grey3 gray3 grey7 gray7
grey11 gray11 grey15 gray15 grey19 gray19 grey23 gray23 grey27 gray27 grey30 gray30 grey35 gray35
grey39 gray39 grey42 gray42 grey46 gray46 grey50 gray50 grey54 gray54 grey58 gray58 grey62 gray62
grey66 gray66 grey70 gray70 grey74 gray74 grey78 gray78 grey82 gray82 grey85 gray85 grey89 gray89
grey93 gray93".toList

/-- The attributes with their short names, in the order of the normal form. -/
def attributeNames : List (String × Option String) :=
  [("bold", some "b"), ("dim", some "d"), ("italic", some "i"),
    ("underline", some "u"), ("blink", none),
   ("blink2", none), ("reverse", some "r"), ("conceal", some "c"), ("strike", some "s"),
   ("underline2", some "uu"), ("frame", none), ("encircle", none), ("overline", some "o")]

def attribute? (name : String) : Option String :=
  (attributeNames.find? fun a => a.1 == name || a.2 == some name).map (·.1)

/-- What stands between a name with an opening parenthesis and a closing parenthesis at the end. -/
def argument? (name : String) (cs : List Char) : Option (List Char) :=
  if name.toList.isPrefixOf cs ∧ cs.getLast? = some ')' then some ((cs.drop name.length).dropLast)
  else none

/-- Why words are no style. -/
inductive StyleFault where
  | unknown
  /-- A part of a color is no number, or has too many digits to be read. -/
  | unreadableNumber
  deriving DecidableEq, Repr

/-- Whether the parts of a color are numbers of at most 255. -/
def readParts (parts : List (List Char)) : Except StyleFault Bool :=
  if parts.length ≠ 3 ∨ ¬ parts.all (·.all Text.isDigit) then .ok false
  else if parts.any fun cs => cs.isEmpty || cs.length > 4300 then .error .unreadableNumber
  else .ok (parts.all fun cs => Text.readDigits cs ≤ 255)

/-- Checks that a word in small letters is a color: one with a name, six hexadecimal digits, a
number, or three numbers for red, green and blue. -/
def checkColor (word : List Char) : Except StyleFault Unit := do
  let isHexadecimal := match word with
    | '#' :: digits => digits.length == 6 && digits.all fun c => c.isDigit || 'a' ≤ c && c ≤ 'f'
    | _ => false
  let isNumber := (argument? "color(" word).any fun cs =>
    !cs.isEmpty && cs.length ≤ 3 && cs.all Char.isDigit && Text.readDigits cs ≤ 255
  let isTriple ← match argument? "rgb(" word with
    | some cs => readParts (Text.splitWhere (· == ',') cs)
    | none => .ok false
  if word == "default".toList || colorNames.contains word || isHexadecimal ||
    isNumber || isTriple then .ok ()
  else .error .unknown

structure Style where
  attributes : List (String × Bool) := []
  color : Option (List Char) := none
  background : Option (List Char) := none
  link : Option (List Char) := none

namespace Style

def setAttribute (s : Style) (name : String) (present : Bool) : Style :=
  { s with attributes := (name, present) :: s.attributes }

def ofWords (s : Style) : List (List Char) → Except StyleFault Style
  | [] => .ok s
  | word :: rest =>
    let small := Text.lower word
    match String.ofList small, rest with
    | "on", color :: rest =>
      (checkColor (Text.lower color)).bind fun _ =>
        ofWords { s with background := some (Text.lower color) } rest
    | "not", name :: rest =>
      match attribute? (String.ofList name) with
      | some found => ofWords (s.setAttribute found false) rest
      | none => .error .unknown
    | "link", target :: rest => ofWords { s with link := some target } rest
    | name, rest =>
      match attribute? name with
      | some found => ofWords (s.setAttribute found true) rest
      | none => (checkColor small).bind fun _ => ofWords { s with color := some small } rest

def toWords (s : Style) : List (List Char) :=
  let attributes := attributeNames.filterMap fun a =>
    (s.attributes.lookup a.1).map fun present => ((if present then "" else "not ") ++ a.1).toList
  attributes ++ s.color.toList ++ (s.background.toList.flatMap (["on".toList, ·])) ++
    (s.link.toList.flatMap (["link".toList, ·]))

end Style

/-- The normal form of a description of a style, if the numbers in it can be read. -/
def normalStyle? (description : List Char) : Option (List Char) :=
  match Style.ofWords {} (Text.words description) with
  | .ok style =>
    let words := style.toWords
    some (if words.isEmpty then "none".toList else List.intercalate [' '] words)
  | .error .unknown => some (Text.lower (Text.trim description))
  | .error .unreadableNumber => none

end TwinNode.Console
