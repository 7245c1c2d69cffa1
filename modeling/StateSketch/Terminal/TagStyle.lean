import StateSketch.Fault
import StateSketch.Terminal.Lowercase
import StateSketch.Text.Numeral

/-!
# Styles named in tags

A tag names a style by attributes, colours and a link.  Two names mean the same tag if they have one
normal form: attributes in a fixed order under their long names, then the colour, the background and
the link.  A name that is no style stands for itself.
-/

namespace StateSketch.Terminal

/-- The words between blanks. -/
def splitWords (text : List Char) : List String :=
  let (words, last) := text.foldr (fun c (words, word) ↦
    if Text.isBlank c then (word :: words, []) else (words, c :: word)) ([], [])
  ((last :: words).filter (!·.isEmpty)).map String.ofList

/-- The attributes of text, each with its short name if it has one. -/
def textAttributes : List (String × List String) :=
  [("bold", ["b"]), ("dim", ["d"]), ("italic", ["i"]), ("underline", ["u"]), ("blink", []),
    ("blink2", []), ("reverse", ["r"]), ("conceal", ["c"]), ("strike", ["s"]),
    ("underline2", ["uu"]), ("frame", []), ("encircle", []), ("overline", ["o"])]

def attribute? (word : String) : Option String :=
  (textAttributes.find? fun entry ↦ word == entry.1 || word ∈ entry.2).map (·.1)

/-- The colours that have a name. -/
def colorLines : List String :=
  [
    "aquamarine1 aquamarine3 black blue blue1 blue3 blue_violet bright_black bright_blue",
    "bright_cyan bright_green bright_magenta bright_red bright_white bright_yellow cadet_blue",
    "chartreuse1 chartreuse2 chartreuse3 chartreuse4 cornflower_blue cornsilk1 cyan cyan1 cyan2",
    "cyan3 dark_blue dark_cyan dark_goldenrod dark_green dark_khaki dark_magenta",
    "dark_olive_green1 dark_olive_green2 dark_olive_green3 dark_orange dark_orange3 dark_red",
    "dark_sea_green dark_sea_green1 dark_sea_green2 dark_sea_green3 dark_sea_green4",
    "dark_slate_gray1 dark_slate_gray2 dark_slate_gray3 dark_turquoise dark_violet deep_pink1",
    "deep_pink2 deep_pink3 deep_pink4 deep_sky_blue1 deep_sky_blue2 deep_sky_blue3 deep_sky_blue4",
    "dodger_blue1 dodger_blue2 dodger_blue3 gold1 gold3 gray0 gray100 gray11 gray15 gray19 gray23",
    "gray27 gray3 gray30 gray35 gray37 gray39 gray42 gray46 gray50 gray53 gray54 gray58 gray62",
    "gray63 gray66 gray69 gray7 gray70 gray74 gray78 gray82 gray84 gray85 gray89 gray93 green",
    "green1 green3 green4 green_yellow grey0 grey100 grey11 grey15 grey19 grey23 grey27 grey3",
    "grey30 grey35 grey37 grey39 grey42 grey46 grey50 grey53 grey54 grey58 grey62 grey63 grey66",
    "grey69 grey7 grey70 grey74 grey78 grey82 grey84 grey85 grey89 grey93 honeydew2 hot_pink",
    "hot_pink2 hot_pink3 indian_red indian_red1 khaki1 khaki3 light_coral light_cyan1 light_cyan3",
    "light_goldenrod1 light_goldenrod2 light_goldenrod3 light_green light_pink1 light_pink3",
    "light_pink4 light_salmon1 light_salmon3 light_sea_green light_sky_blue1 light_sky_blue3",
    "light_slate_blue light_slate_gray light_slate_grey light_steel_blue light_steel_blue1",
    "light_steel_blue3 light_yellow3 magenta magenta1 magenta2 magenta3 medium_orchid",
    "medium_orchid1 medium_orchid3 medium_purple medium_purple1 medium_purple2 medium_purple3",
    "medium_purple4 medium_spring_green medium_turquoise medium_violet_red misty_rose1",
    "misty_rose3 navajo_white1 navajo_white3 navy_blue orange1 orange3 orange4 orange_red1 orchid",
    "orchid1 orchid2 pale_green1 pale_green3 pale_turquoise1 pale_turquoise4 pale_violet_red1",
    "pink1 pink3 plum1 plum2 plum3 plum4 purple purple3 purple4 red red1 red3 rosy_brown",
    "royal_blue1 salmon1 sandy_brown sea_green1 sea_green2 sea_green3 sky_blue1 sky_blue2",
    "sky_blue3 slate_blue1 slate_blue3 spring_green1 spring_green2 spring_green3 spring_green4",
    "steel_blue steel_blue1 steel_blue3 tan thistle1 thistle3 turquoise2 turquoise4 violet wheat1",
    "wheat4 white yellow yellow1 yellow2 yellow3 yellow4"
  ]

/-- Whether the text is `name(inner)`, and if so its inside. -/
def inside? (name : String) (text : List Char) : Option (List Char) :=
  let opening := (name ++ "(").toList
  if opening.isPrefixOf text && text.getLast? == some ')' then
    some (text.drop opening.length).dropLast
  else none

/-- A number of a colour table, written with at most three digits. -/
def isColorNumber (digits : List Char) : Bool :=
  1 ≤ digits.length && digits.length ≤ 3 && digits.all Char.isDigit &&
    (Text.readNatural? digits).any (· ≤ 255)

/-- Why words do not name a style. -/
inductive StyleFault where
  | unknown
  /-- A number in a colour cannot be read, which is a fault of the whole call. -/
  | unreadable (fault : Fault)

/-- An amount of light, written in digits. -/
def readAmount (digits : List Char) : Except StyleFault Nat :=
  match Text.readDigits? digits with
  | none => .error (.unreadable (.notNumeral (Text.quote (String.ofList digits))))
  | some values =>
    if values.length > Text.numeralDigitLimit then
      .error (.unreadable (.numeralTooLong values.length))
    else .ok (values.foldl (fun value digit ↦ 10 * value + digit) 0)

/-- Makes sure that a text in brackets mixes a colour from three amounts of light, divided by
commas. -/
def checkMix (text : List Char) : Except StyleFault Unit := do
  let isDigit (c : Char) : Bool := (Text.digitValue? c).isSome
  match (String.ofList text).splitOn "," with
  | [red, green, blue] =>
    if text.any fun c ↦ c != ',' && !isDigit c then .error .unknown
    else
      let amounts ← [red, green, blue].mapM (readAmount ·.toList)
      if amounts.all (· ≤ 255) then .ok () else .error .unknown
  | _ => .error .unknown

/-- The six digits of a colour behind a hash. -/
def isColorCode : List Char → Bool
  | '#' :: digits =>
    digits.length == 6 && digits.all fun c ↦ c.isDigit || ('a' ≤ c && c ≤ 'f')
  | _ => false

/-- The normal form of a colour. -/
def readColor (word : String) : Except StyleFault String :=
  let name := Text.trim (lower word)
  let letters := name.toList
  if name = "default" ∨ colorLines.any (name ∈ splitWords ·.toList) ∨ isColorCode letters ∨
      (inside? "color" letters).any isColorNumber then
    .ok name
  else
    match inside? "rgb" letters with
    | some amounts => (checkMix amounts).map fun _ ↦ name
    | none => .error .unknown

structure TagStyle where
  /-- The attributes that are turned on or off. -/
  attributes : List (String × Bool) := []
  color : Option String := none
  background : Option String := none
  link : Option String := none

namespace TagStyle

/-- The last word about an attribute counts. -/
def setAttribute (style : TagStyle) (name : String) (on : Bool) : TagStyle :=
  { style with attributes := (name, on) :: style.attributes }

def readAttribute (word : String) : Except StyleFault String :=
  match attribute? word with
  | some name => .ok name
  | none => .error .unknown

/-- The words that need another one behind them. -/
inductive Leader where
  | background
  | negation
  | link

def Leader.ofWord? (word : String) : Option Leader :=
  if word = "on" then some .background
  else if word = "not" then some .negation
  else if word = "link" then some .link
  else none

/-- Reads a word together with the one in front of it. -/
def readLed (style : TagStyle) (word : String) : Leader → Except StyleFault TagStyle
  | .background => do return { style with background := some (← readColor word) }
  | .negation => do return style.setAttribute (← readAttribute word) false
  | .link => .ok { style with link := some word }

/-- Reads a word that stands for itself. -/
def readPlain (style : TagStyle) (word : String) : Except StyleFault TagStyle :=
  match attribute? word with
  | some name => .ok (style.setAttribute name true)
  | none => do return { style with color := some (← readColor word) }

/-- Reads the words of a style; the words behind `on`, `not` and `link` belong to them. -/
def read (style : TagStyle) : List String → Except StyleFault TagStyle
  | [] => .ok style
  | [word] =>
    match Leader.ofWord? (lower word) with
    | some _ => .error .unknown
    | none => style.readPlain (lower word)
  | word :: next :: rest =>
    match Leader.ofWord? (lower word) with
    | some leader => do read (← style.readLed next leader) rest
    | none => do read (← style.readPlain (lower word)) (next :: rest)

def attributeWords (style : TagStyle) : List String :=
  textAttributes.flatMap fun entry ↦
    match style.attributes.lookup entry.1 with
    | some true => [entry.1]
    | some false => ["not", entry.1]
    | none => []

def words (style : TagStyle) : List String :=
  style.attributeWords ++ style.color.toList ++ (style.background.toList.flatMap (["on", ·])) ++
    (style.link.toList.flatMap (["link", ·]))

end TagStyle

/-- The style that a text names, nothing if it names none. -/
def style? (text : String) : Except Fault (Option TagStyle) :=
  if Text.trim text = "none" then .ok (some {})
  else
    match TagStyle.read {} (splitWords text.toList) with
    | .ok style => .ok (some style)
    | .error .unknown => .ok none
    | .error (.unreadable fault) => .error fault

/-- The normal form of a tag's name. -/
def normalTag (name : String) : Except Fault String := do
  match ← style? name with
  | some style => return if style.words.isEmpty then "none" else " ".intercalate style.words
  | none => return lower (Text.trim name)

end StateSketch.Terminal
