import Amalgam.Number.Integer
import Amalgam.Text.LetterCase
/-!
# Styles

Markup names styles by words: attributes such as `bold`, colours, a background after `on`, an attribute switched off after
`not`, and a link. Two lists of words can name one style, so that a closing tag finds its opening tag styles are compared
in a normal form: the attributes in a fixed order, then the colour, the background and the link. Words that name no style
are their own normal form, in lower case.
-/

namespace Amalgam.Console

open Amalgam.Text Amalgam.Number

def colourNames : List String :=
  (
  "black red green yellow blue magenta cyan white bright_black bright_red bright_green bright_yellow " ++
  "bright_blue bright_magenta bright_cyan bright_white grey0 gray0 navy_blue dark_blue blue3 blue1 dark_green " ++
  "deep_sky_blue4 dodger_blue3 dodger_blue2 green4 spring_green4 turquoise4 deep_sky_blue3 dodger_blue1 green3 " ++
  "spring_green3 dark_cyan light_sea_green deep_sky_blue2 deep_sky_blue1 spring_green2 cyan3 dark_turquoise " ++
  "turquoise2 green1 spring_green1 medium_spring_green cyan2 cyan1 dark_red deep_pink4 purple4 purple3 " ++
  "blue_violet orange4 grey37 gray37 medium_purple4 slate_blue3 royal_blue1 chartreuse4 dark_sea_green4 " ++
  "pale_turquoise4 steel_blue steel_blue3 cornflower_blue chartreuse3 cadet_blue sky_blue3 steel_blue1 " ++
  "pale_green3 sea_green3 aquamarine3 medium_turquoise chartreuse2 sea_green2 sea_green1 aquamarine1 " ++
  "dark_slate_gray2 dark_magenta dark_violet purple light_pink4 plum4 medium_purple3 slate_blue1 yellow4 wheat4 " ++
  "grey53 gray53 light_slate_grey light_slate_gray medium_purple light_slate_blue dark_olive_green3 " ++
  "dark_sea_green light_sky_blue3 sky_blue2 dark_sea_green3 dark_slate_gray3 sky_blue1 chartreuse1 light_green " ++
  "pale_green1 dark_slate_gray1 red3 medium_violet_red magenta3 dark_orange3 indian_red hot_pink3 " ++
  "medium_orchid3 medium_orchid medium_purple2 dark_goldenrod light_salmon3 rosy_brown grey63 gray63 " ++
  "medium_purple1 gold3 dark_khaki navajo_white3 grey69 gray69 light_steel_blue3 light_steel_blue yellow3 " ++
  "dark_sea_green2 light_cyan3 light_sky_blue1 green_yellow dark_olive_green2 dark_sea_green1 pale_turquoise1 " ++
  "deep_pink3 magenta2 hot_pink2 orchid medium_orchid1 orange3 light_pink3 pink3 plum3 violet light_goldenrod3 " ++
  "tan misty_rose3 thistle3 plum2 khaki3 light_goldenrod2 light_yellow3 grey84 gray84 light_steel_blue1 yellow2 " ++
  "dark_olive_green1 honeydew2 light_cyan1 red1 deep_pink2 deep_pink1 magenta1 orange_red1 indian_red1 hot_pink " ++
  "dark_orange salmon1 light_coral pale_violet_red1 orchid2 orchid1 orange1 sandy_brown light_salmon1 " ++
  "light_pink1 pink1 plum1 gold1 navajo_white1 misty_rose1 thistle1 yellow1 light_goldenrod1 khaki1 wheat1 " ++
  "cornsilk1 grey100 gray100 grey3 gray3 grey7 gray7 grey11 gray11 grey15 gray15 grey19 gray19 grey23 gray23 " ++
  "grey27 gray27 grey30 gray30 grey35 gray35 grey39 gray39 grey42 gray42 grey46 gray46 grey50 gray50 grey54 " ++
  "gray54 grey58 gray58 grey62 gray62 grey66 gray66 grey70 gray70 grey74 gray74 grey78 gray78 grey82 gray82 " ++
  "grey85 gray85 grey89 gray89 grey93 gray93").splitOn " "

/-- The attributes in the order in which a normal form lists them, each with its abbreviations. -/
def attributeNames : List (String × List String) :=
  [("bold", ["b"]), ("dim", ["d"]), ("italic", ["i"]), ("underline", ["u"]), ("blink", []), ("blink2", []),
    ("reverse", ["r"]), ("conceal", ["c"]), ("strike", ["s"]), ("underline2", ["uu"]), ("frame", []), ("encircle", []),
    ("overline", ["o"])]

/-- The attribute that a word names. -/
def attribute? (word : String) : Option String :=
  (attributeNames.find? fun a => a.1 = word || a.2.contains word).map Prod.fst

/-- What stands between a word with an opening bracket and a closing bracket at the end. -/
def argument? (word : String) (cs : List Char) : Option (List Char) :=
  if (word ++ "(").toList.isPrefixOf cs && cs.getLast? = some ')' then some ((cs.drop (word.length + 1)).dropLast)
  else none

def isComponent (n : Int) : Bool :=
  0 ≤ n && n ≤ 255

/-- A number from 0 to 255 in one to three plain digits. -/
def isColourNumber (cs : List Char) : Bool :=
  cs.all Char.isDigit && cs.length ≤ 3 && ((readInteger 10 cs).toOption.map isComponent).getD false

/-- Three numbers from 0 to 255 between commas, in digits of any script. What has the shape of three numbers and is not is
a fault. -/
def isTriplet (cs : List Char) : Except IntegerFault Bool :=
  let parts := pieces ',' cs
  if cs.all (fun c => c = ',' || (plainDigit c).isDigit) && parts.length = 3 then do
    return (← parts.mapM (readInteger 10)).all isComponent
  else .ok false

/-- A colour by name, by number, or by its components. -/
def isColour (word : String) : Except IntegerFault Bool :=
  let cs := word.toList
  if word = "default" || colourNames.contains word ||
      (cs.length = 7 && cs.head? = some '#' && (cs.drop 1).all fun c => c.isDigit || ('a' ≤ c && c ≤ 'f')) ||
      ((argument? "color" cs).map isColourNumber).getD false then .ok true
  else
    match argument? "rgb" cs with
    | some arg => isTriplet arg
    | none => .ok false

/-- What a list of words says about the look of a text. -/
structure Style where
  attributes : List (String × Bool) := []
  colour : Option String := none
  background : Option String := none
  link : Option String := none
deriving DecidableEq, Repr

namespace Style

def switch (s : Style) (name : String) (on : Bool) : Style :=
  { s with attributes := (name, on) :: s.attributes }

/-- Reads the words of a style one after the other; a later word wins over an earlier one. -/
def extend? (s : Style) : List String → Except IntegerFault (Option Style)
  | [] => .ok (some s)
  | word :: rest =>
    let lower := lowercased word
    if lower = "on" then
      match rest with
      | [] => .ok none
      | colour :: rest => do
        if ← isColour (lowercased colour) then extend? { s with background := some (lowercased colour) } rest
        else return none
    else if lower = "not" then
      match rest with
      | [] => .ok none
      | name :: rest =>
        match attribute? name with
        | some a => extend? (s.switch a false) rest
        | none => .ok none
    else if lower = "link" then
      match rest with
      | [] => .ok none
      | target :: rest => extend? { s with link := some target } rest
    else
      match attribute? lower with
      | some a => extend? (s.switch a true) rest
      | none => do
        if ← isColour lower then extend? { s with colour := some lower } rest else return none

/-- The style that some words name. -/
def parse? (name : String) : Except IntegerFault (Option Style) :=
  if trimmed name = "none" then .ok (some {}) else extend? {} ((words name.toList).map String.ofList)

/-- The words of a style in normal order. -/
def definition (s : Style) : String :=
  let attributes := attributeNames.filterMap fun (name, _) =>
    (s.attributes.lookup name).map fun on => if on then name else "not " ++ name
  let parts := attributes ++ s.colour.toList ++ (s.background.map fun c => "on " ++ c).toList ++
    (s.link.map fun l => "link " ++ l).toList
  if parts.isEmpty then "none" else joined " " parts

def normalize (name : String) : Except IntegerFault String := do
  match ← parse? name with
  | some s => return s.definition
  | none => return lowercased (trimmed name)

end Style

end Amalgam.Console
