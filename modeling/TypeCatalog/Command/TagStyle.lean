import TypeCatalog.Crash
import TypeCatalog.Text.CharacterClass
import TypeCatalog.Text.LetterCase
import TypeCatalog.Text.Numeral
import TypeCatalog.Text.Split

namespace TypeCatalog.Command

/-!
# Colors and styles in tags

What the words of a tag mean.
-/

/-!
## Colors in tags

A tag can name a color by a word, by its six hexadecimal digits, by its number, or by the shares of
red, green and blue in it.
-/

/-- The words for colors. -/
def colorWords : List String :=
  [
    "default", "black", "red", "green", "yellow", "blue", "magenta", "cyan", "white",
    "bright_black", "bright_red", "bright_green", "bright_yellow", "bright_blue", "bright_magenta",
    "bright_cyan", "bright_white", "grey0", "gray0", "navy_blue", "dark_blue", "blue3", "blue1",
    "dark_green", "deep_sky_blue4", "dodger_blue3", "dodger_blue2", "green4", "spring_green4",
    "turquoise4", "deep_sky_blue3", "dodger_blue1", "green3", "spring_green3", "dark_cyan",
    "light_sea_green", "deep_sky_blue2", "deep_sky_blue1", "spring_green2", "cyan3",
    "dark_turquoise", "turquoise2", "green1", "spring_green1", "medium_spring_green", "cyan2",
    "cyan1", "dark_red", "deep_pink4", "purple4", "purple3", "blue_violet", "orange4", "grey37",
    "gray37", "medium_purple4", "slate_blue3", "royal_blue1", "chartreuse4", "dark_sea_green4",
    "pale_turquoise4", "steel_blue", "steel_blue3", "cornflower_blue", "chartreuse3", "cadet_blue",
    "sky_blue3", "steel_blue1", "pale_green3", "sea_green3", "aquamarine3", "medium_turquoise",
    "chartreuse2", "sea_green2", "sea_green1", "aquamarine1", "dark_slate_gray2", "dark_magenta",
    "dark_violet", "purple", "light_pink4", "plum4", "medium_purple3", "slate_blue1", "yellow4",
    "wheat4", "grey53", "gray53", "light_slate_grey", "light_slate_gray", "medium_purple",
    "light_slate_blue", "dark_olive_green3", "dark_sea_green", "light_sky_blue3", "sky_blue2",
    "dark_sea_green3", "dark_slate_gray3", "sky_blue1", "chartreuse1", "light_green",
    "pale_green1", "dark_slate_gray1", "red3", "medium_violet_red", "magenta3", "dark_orange3",
    "indian_red", "hot_pink3", "medium_orchid3", "medium_orchid", "medium_purple2",
    "dark_goldenrod", "light_salmon3", "rosy_brown", "grey63", "gray63", "medium_purple1", "gold3",
    "dark_khaki", "navajo_white3", "grey69", "gray69", "light_steel_blue3", "light_steel_blue",
    "yellow3", "dark_sea_green2", "light_cyan3", "light_sky_blue1", "green_yellow",
    "dark_olive_green2", "dark_sea_green1", "pale_turquoise1", "deep_pink3", "magenta2",
    "hot_pink2", "orchid", "medium_orchid1", "orange3", "light_pink3", "pink3", "plum3", "violet",
    "light_goldenrod3", "tan", "misty_rose3", "thistle3", "plum2", "khaki3", "light_goldenrod2",
    "light_yellow3", "grey84", "gray84", "light_steel_blue1", "yellow2", "dark_olive_green1",
    "honeydew2", "light_cyan1", "red1", "deep_pink2", "deep_pink1", "magenta1", "orange_red1",
    "indian_red1", "hot_pink", "dark_orange", "salmon1", "light_coral", "pale_violet_red1",
    "orchid2", "orchid1", "orange1", "sandy_brown", "light_salmon1", "light_pink1", "pink1",
    "plum1", "gold1", "navajo_white1", "misty_rose1", "thistle1", "yellow1", "light_goldenrod1",
    "khaki1", "wheat1", "cornsilk1", "grey100", "gray100", "grey3", "gray3", "grey7", "gray7",
    "grey11", "gray11", "grey15", "gray15", "grey19", "gray19", "grey23", "gray23", "grey27",
    "gray27", "grey30", "gray30", "grey35", "gray35", "grey39", "gray39", "grey42", "gray42",
    "grey46", "gray46", "grey50", "gray50", "grey54", "gray54", "grey58", "gray58", "grey62",
    "gray62", "grey66", "gray66", "grey70", "gray70", "grey74", "gray74", "grey78", "gray78",
    "grey82", "gray82", "grey85", "gray85", "grey89", "gray89", "grey93", "gray93"
  ]

/-- The text between a start and a closing bracket at the end. -/
def bracketed?
    (start : String)
    (word : String) : Option (List Char) :=
  if Text.startsWith word (start ++ "(") && Text.endsWith word ")" then
    some (word.toList.drop (start.length + 1)).dropLast
  else
    none

/-- Whether a text is the number of a color: one to three plain digits, at most 255. -/
def isColorNumber (digits : List Char) : Bool :=
  !digits.isEmpty && digits.length ≤ 3 && digits.all Text.isDecimalDigit &&
    Text.numberOfDigits digits ≤ 255

/-- The share of a color that digits of any script write.  Between the commas there must be a
number. -/
def colorShare (digits : List Char) : Except Crash Nat :=
  if digits.isEmpty then
    .error ⟨.invalidValue, "invalid literal for int() with base 10: ''"⟩
  else if digits.length > Text.digitLimit then
    .error ⟨.invalidValue, Text.tooManyDigitsMessage digits.length⟩
  else
    .ok (Text.numberOfDigits (Text.plainNumeral digits))

/-- Whether a text between brackets gives three shares of at most 255.  Only digits and commas give
shares at all. -/
def areColorShares (characters : List Char) : Except Crash Bool :=
  let shares := Text.pieces ',' characters
  if characters.isEmpty || shares.length != 3 then
    .ok false
  else if characters.any fun c => c != ',' && (Text.scriptDigit? c).isNone then
    .ok false
  else
    return (← shares.mapM colorShare).all (· ≤ 255)

/-- The color that a word names, in lower case. -/
def colorOf? (word : String) : Except Crash (Option String) := do
  let name := Text.lowerCase word
  let isNamed :=
    colorWords.contains name ||
      (name.length = 7 && Text.startsWith name "#" &&
        (name.toList.drop 1).all fun c => (Text.hexadecimalDigit? c).isSome) ||
      (bracketed? "color" name).any isColorNumber
  if isNamed then
    return some name
  match bracketed? "rgb" name with
  | none => return none
  | some shares => return if ← areColorShares shares then some name else none

/-!
## Styles in tags

The words of a tag describe a style: attributes that are set or, after `not`, cleared, a color, a
color behind the text after `on`, and an address after `link`.  Tags that describe the same style
have the same name, in whatever order their words come.
-/

/-- The attributes of a style, in the order in which a style lists them, each with its words. -/
def styleAttributes : List (String × List String) :=
  [("bold", ["bold", "b"]), ("dim", ["dim", "d"]), ("italic", ["italic", "i"]),
    ("underline", ["underline", "u"]), ("blink", ["blink"]), ("blink2", ["blink2"]),
    ("reverse", ["reverse", "r"]), ("conceal", ["conceal", "c"]), ("strike", ["strike", "s"]),
    ("underline2", ["underline2", "uu"]), ("frame", ["frame"]), ("encircle", ["encircle"]),
    ("overline", ["overline", "o"])]

/-- The attribute that a word stands for. -/
def styleAttribute? (word : String) : Option String :=
  (styleAttributes.find? fun entry => entry.2.contains word).map Prod.fst

/-- A style: its attributes, the one that was set or cleared last first, and the rest of it. -/
structure TagStyle where
  attributes : List (String × Bool)
  color? : Option String
  background? : Option String
  link? : Option String
deriving Repr, DecidableEq

namespace TagStyle

/-- The style that nothing is said about. -/
def plain : TagStyle :=
  ⟨[], none, none, none⟩

/-- Adds what words say to a style; nothing if they say nothing sensible. -/
def extend
    (style : TagStyle) : List String → Except Crash (Option TagStyle)
  | [] => return some style
  | spoken :: rest => do
    let word := Text.lowerCase spoken
    if word == "on" then
      match rest with
      | [] => return none
      | background :: rest =>
        match ← colorOf? background with
        | none => return none
        | some color => extend { style with background? := some color } rest
    else if word == "not" then
      match rest with
      | [] => return none
      | cleared :: rest =>
        match styleAttribute? cleared with
        | none => return none
        | some changed =>
          extend { style with attributes := (changed, false) :: style.attributes } rest
    else if word == "link" then
      match rest with
      | [] => return none
      | address :: rest => extend { style with link? := some address } rest
    else
      match styleAttribute? word with
      | some changed =>
        extend { style with attributes := (changed, true) :: style.attributes } rest
      | none =>
        match ← colorOf? word with
        | none => return none
        | some color => extend { style with color? := some color } rest

/-- The words of a style in their order. -/
def words (style : TagStyle) : List String :=
  (styleAttributes.filterMap fun entry =>
    (style.attributes.lookup entry.1).map fun isSet =>
      if isSet then entry.1 else "not " ++ entry.1) ++
    style.color?.toList ++
    (style.background?.map fun color => "on " ++ color).toList ++
    (style.link?.map fun address => "link " ++ address).toList

/-- The name of a style. -/
def name (style : TagStyle) : String :=
  if style.words.isEmpty then "none" else Text.join " " style.words

end TagStyle

/-- The name of what a tag describes: that of its style, or its text in lower case if it describes
no style. -/
def styleName (content : List Char) : Except Crash String := do
  match ← TagStyle.plain.extend ((Text.words content).map String.ofList) with
  | some style => return style.name
  | none => return Text.lowerCase (String.ofList (Text.trimList content))

end TypeCatalog.Command
