import Parlance.Unicode.Blank
import Parlance.Unicode.Lower

/-!
Names of styles, as the tags of a markup give them: attributes, a colour, a colour behind "on" and
a target behind "link". Names that ask for the same style have one normal form, by which a closing
tag finds the tag that it closes.
-/

namespace Parlance.Console

structure Style where
  /-- Attributes that are set or cleared, the latest first. -/
  attributes : List (String × Bool)
  colour : Option String
  ground : Option String
  target : Option String
  deriving DecidableEq, Repr, Inhabited

namespace Style

def plain : Style := ⟨[], none, none, none⟩

/-- The attributes in the order of the normal form, each with the words that set it. -/
def attributeWords : List (String × List String) := [
  ("bold", ["bold", "b"]), ("dim", ["dim", "d"]), ("italic", ["italic", "i"]),
  ("underline", ["underline", "u"]), ("blink", ["blink"]), ("blink2", ["blink2"]),
  ("reverse", ["reverse", "r"]), ("conceal", ["conceal", "c"]), ("strike", ["strike", "s"]),
  ("underline2", ["underline2", "uu"]), ("frame", ["frame"]), ("encircle", ["encircle"]),
  ("overline", ["overline", "o"])]

def attribute? (word : String) : Option String :=
  (attributeWords.find? fun entry => entry.2.contains word).map Prod.fst

def colourLines : List String := [
  "black red green yellow blue magenta cyan white bright_black bright_red bright_green",
  "bright_yellow bright_blue bright_magenta bright_cyan bright_white grey0 gray0 navy_blue",
  "dark_blue blue3 blue1 dark_green deep_sky_blue4 dodger_blue3 dodger_blue2 green4",
  "spring_green4 turquoise4 deep_sky_blue3 dodger_blue1 green3 spring_green3 dark_cyan",
  "light_sea_green deep_sky_blue2 deep_sky_blue1 spring_green2 cyan3 dark_turquoise turquoise2",
  "green1 spring_green1 medium_spring_green cyan2 cyan1 dark_red deep_pink4 purple4 purple3",
  "blue_violet orange4 grey37 gray37 medium_purple4 slate_blue3 royal_blue1 chartreuse4",
  "dark_sea_green4 pale_turquoise4 steel_blue steel_blue3 cornflower_blue chartreuse3",
  "cadet_blue sky_blue3 steel_blue1 pale_green3 sea_green3 aquamarine3 medium_turquoise",
  "chartreuse2 sea_green2 sea_green1 aquamarine1 dark_slate_gray2 dark_magenta dark_violet",
  "purple light_pink4 plum4 medium_purple3 slate_blue1 yellow4 wheat4 grey53 gray53",
  "light_slate_grey light_slate_gray medium_purple light_slate_blue dark_olive_green3",
  "dark_sea_green light_sky_blue3 sky_blue2 dark_sea_green3 dark_slate_gray3 sky_blue1",
  "chartreuse1 light_green pale_green1 dark_slate_gray1 red3 medium_violet_red magenta3",
  "dark_orange3 indian_red hot_pink3 medium_orchid3 medium_orchid medium_purple2 dark_goldenrod",
  "light_salmon3 rosy_brown grey63 gray63 medium_purple1 gold3 dark_khaki navajo_white3 grey69",
  "gray69 light_steel_blue3 light_steel_blue yellow3 dark_sea_green2 light_cyan3",
  "light_sky_blue1 green_yellow dark_olive_green2 dark_sea_green1 pale_turquoise1 deep_pink3",
  "magenta2 hot_pink2 orchid medium_orchid1 orange3 light_pink3 pink3 plum3 violet",
  "light_goldenrod3 tan misty_rose3 thistle3 plum2 khaki3 light_goldenrod2 light_yellow3 grey84",
  "gray84 light_steel_blue1 yellow2 dark_olive_green1 honeydew2 light_cyan1 red1 deep_pink2",
  "deep_pink1 magenta1 orange_red1 indian_red1 hot_pink dark_orange salmon1 light_coral",
  "pale_violet_red1 orchid2 orchid1 orange1 sandy_brown light_salmon1 light_pink1 pink1 plum1",
  "gold1 navajo_white1 misty_rose1 thistle1 yellow1 light_goldenrod1 khaki1 wheat1 cornsilk1",
  "grey100 gray100 grey3 gray3 grey7 gray7 grey11 gray11 grey15 gray15 grey19 gray19 grey23",
  "gray23 grey27 gray27 grey30 gray30 grey35 gray35 grey39 gray39 grey42 gray42 grey46 gray46",
  "grey50 gray50 grey54 gray54 grey58 gray58 grey62 gray62 grey66 gray66 grey70 gray70 grey74",
  "gray74 grey78 gray78 grey82 gray82 grey85 gray85 grey89 gray89 grey93 gray93"]

def isHexDigit (c : Char) : Bool := c.isDigit || ('a' ≤ c && c ≤ 'f')

def isByte (digits : List Char) : Bool :=
  !digits.isEmpty && digits.all Char.isDigit &&
    digits.foldl (fun n c => 10 * n + (c.toNat - '0'.toNat)) 0 ≤ 255

/-- What stands between the parentheses of a call of a function. -/
def callOf? (name : String) (word : List Char) : Option (List Char) :=
  let start := name.toList ++ ['(']
  if start.isPrefixOf word && word.getLast? = some ')' then
    some (word.drop start.length).dropLast
  else none

def isColour (word : String) : Bool :=
  word = "default" || (colourLines.any fun line => (line.toList.splitOn ' ').contains word.toList) ||
    (match word.toList with
    | '#' :: digits => digits.length = 6 && digits.all isHexDigit
    | _ => false) ||
    (callOf? "color" word.toList).any (fun number => number.length ≤ 3 && isByte number) ||
    (callOf? "rgb" word.toList).any fun parts =>
      (parts.splitOn ',').length = 3 && (parts.splitOn ',').all isByte

def set (name : String) (value : Bool) (style : Style) : Style :=
  { style with attributes := (name, value) :: style.attributes }

def addWords (style : Style) : List String → Option Style
  | [] => some style
  | word :: rest =>
      match Unicode.lower word, rest with
      | "on", ground :: rest =>
          let ground := Unicode.lower ground
          if isColour ground then addWords { style with ground := some ground } rest else none
      | "not", word :: rest => do
          let name ← attribute? word
          addWords (style.set name false) rest
      | "link", target :: rest => addWords { style with target := some target } rest
      | "on", [] | "not", [] | "link", [] => none
      | word, rest =>
          match attribute? word with
          | some name => addWords (style.set name true) rest
          | none => if isColour word then addWords { style with colour := some word } rest else none

def text (style : Style) : String :=
  let attributes := attributeWords.filterMap fun (name, _) =>
    (style.attributes.lookup name).map fun isSet => if isSet then name else "not " ++ name
  let parts := attributes ++ style.colour.toList ++ (style.ground.map ("on " ++ ·)).toList ++
    (style.target.map ("link " ++ ·)).toList
  if parts.isEmpty then "none" else " ".intercalate parts

def wordsOf (name : List Char) : List String :=
  ((name.splitOnP Unicode.isBlank).filter (· ≠ [])).map String.ofList

/-- The one name that stands for all names of a style. A name that means no style keeps its letters
but for their case. -/
def normalName (name : List Char) : String :=
  let name := Unicode.trim name
  if name = "none".toList then "none"
  else
    match addWords plain (wordsOf name) with
    | some style => style.text
    | none => Unicode.lower (String.ofList name)

end Style

end Parlance.Console
