import StateSketch.Fault
import StateSketch.Text.Hexadecimal

/-!
# Numbers in tag parameters

A number is written in decimal, with a point, an exponent or a mark for an imaginary number, or in
base sixteen, eight or two.  Single underscores may stand between digits.
-/

namespace StateSketch.Terminal.Parameter

/-- Whether a character can stand in a word; beyond ASCII that is checked later. -/
def inWord (c : Char) : Bool :=
  c.isAlphanum || c == '_' || c.toNat ≥ 0x80

/-- What follows a run of digits in which an underscore may stand between two digits; nothing if an
underscore stands elsewhere. -/
def afterDigits? (digit : Char → Bool) : List Char → Option (List Char)
  | '_' :: c :: rest => if digit c then afterDigits? digit rest else none
  | ['_'] => none
  | c :: rest => if digit c then afterDigits? digit rest else some (c :: rest)
  | [] => some []

/-- The words that may follow a number without a blank. -/
def joiningWords : List String := ["and", "else", "for", "not", "or"]

/-- Whether a number can end before the given text. -/
def endsNumber (rest : List Char) : Bool :=
  !rest.head?.any inWord ||
    joiningWords.any (fun word ↦
      word.toList.isPrefixOf rest && !(rest.drop word.length).head?.any inWord) ||
    ["if", "in", "is"].any (·.toList.isPrefixOf rest)

def numberFault (kind : String) : String :=
  "invalid " ++ kind ++ " literal"

def endNumber (kind : String) (rest : List Char) : Except String (List Char) :=
  if endsNumber rest then .ok rest else .error (numberFault kind)

/-- What the text of a number holds. -/
structure Numeral where
  imaginary : Bool := false
  /-- The base of an integer. -/
  base : Option Nat := none
  /-- The integer, if it is one. -/
  value : Nat := 0
  /-- How many digits it is written with. -/
  digits : Nat := 0
deriving DecidableEq

/-- The end of a decimal number, which may be marked as imaginary. -/
def endDecimal : List Char → Except String (Numeral × List Char)
  | c :: rest =>
    if c = 'j' ∨ c = 'J' then (endNumber "imaginary" rest).map ({ imaginary := true }, ·)
    else (endNumber "decimal" (c :: rest)).map ({}, ·)
  | [] => .ok ({}, [])

def decimalDigits (text : List Char) : Except String (List Char) :=
  match afterDigits? Char.isDigit text with
  | some rest => .ok rest
  | none => .error (numberFault "decimal")

def isSign (c : Char) : Bool :=
  c == '+' || c == '-'

/-- An exponent, if there is one, and the end of the number. -/
def afterMantissa (text : List Char) : Except String (Numeral × List Char) :=
  match text with
  | [] => .ok ({}, [])
  | c :: rest =>
    if c = 'e' ∨ c = 'E' then
      let digits := if rest.head?.any isSign then rest.drop 1 else rest
      if digits.head?.any Char.isDigit then do endDecimal (← decimalDigits digits)
      else if rest.head?.any isSign then .error (numberFault "decimal")
      else (endNumber "decimal" text).map ({}, ·)
    else endDecimal text

/-- The digits behind the point. -/
def afterPoint (text : List Char) : Except String (Numeral × List Char) := do
  afterMantissa (← if text.head?.any Char.isDigit then decimalDigits text else .ok text)

/-- A number in another base, of which the sign for the base has been read. -/
def readBased (kind : String) (base : Nat) (text : List Char) :
    Except String (Numeral × List Char) := do
  let digit (c : Char) : Bool := (Text.hexValue? c).any (· < base)
  let misfit (rest : List Char) : Except String (List Char) :=
    match rest with
    | c :: _ =>
      if c.isDigit then .error s!"invalid digit '{c}' in {kind} literal"
      else .error (numberFault kind)
    | [] => .error (numberFault kind)
  let start := if text.head? == some '_' then text.drop 1 else text
  let rest ←
    if start.head?.any digit then
      match afterDigits? digit start with
      | some rest => if rest.head?.any Char.isDigit then misfit rest else endNumber kind rest
      | none => misfit (start.dropWhile fun c ↦ digit c || c == '_')
    else misfit start
  return ({ base := some base }, rest)

/-- A number that starts with zero. -/
def readZero (text : List Char) : Except String (Numeral × List Char) :=
  match text with
  | [] => .ok ({}, [])
  | c :: rest =>
    if c = 'x' ∨ c = 'X' then readBased "hexadecimal" 16 rest
    else if c = 'o' ∨ c = 'O' then readBased "octal" 8 rest
    else if c = 'b' ∨ c = 'B' then readBased "binary" 2 rest
    else do
      let after ← decimalDigits text
      let zeros := (text.takeWhile fun c ↦ c.isDigit || c == '_').all fun c ↦ c == '0' || c == '_'
      match after with
      | '.' :: more => afterPoint more
      | c :: _ =>
        if c ∈ ['e', 'E', 'j', 'J'] then afterMantissa after
        else if zeros then return ({}, ← endNumber "decimal" after)
        else .error leadingZeros
      | [] => if zeros then return ({}, []) else .error leadingZeros
where
  leadingZeros : String :=
    "leading zeros in decimal integer literals are not permitted; " ++
      "use an 0o prefix for octal integers"

/-- A number, of which the digits have not been valued. -/
def readUnvalued (text : List Char) : Except String (Numeral × List Char) :=
  match text with
  | '0' :: rest => readZero rest
  | '.' :: rest => afterPoint rest
  | _ => do
    match ← decimalDigits text with
    | '.' :: rest => afterPoint rest
    | after =>
      let (numeral, rest) ← afterMantissa after
      let whole := !numeral.imaginary && rest.length == after.length
      return ({ numeral with base := if whole then some 10 else none }, rest)

/-- The number at the start of a text and what follows it. -/
def readNumeral (text : List Char) : Except String (Numeral × List Char) := do
  let (numeral, rest) ← readUnvalued text
  let written := (text.take (text.length - rest.length)).drop <|
    if numeral.base.any (· ≠ 10) then 2 else 0
  let digits := written.filterMap Text.hexValue?
  match numeral.base with
  | some base =>
    let value := digits.foldl (fun value digit ↦ base * value + digit) 0
    return ({ numeral with value := value, digits := digits.length }, rest)
  | none => return (numeral, rest)

/-- What is wrong with the value of a number: a decimal integer has a longest form. -/
def Numeral.fault? (numeral : Numeral) : Option String :=
  if numeral.base == some 10 && numeral.digits > Text.numeralDigitLimit then
    some ((Fault.numeralTooLong numeral.digits).message ++
      " - Consider hexadecimal for huge integer literals to avoid decimal conversion limits.")
  else none

/-- Integers that round to this or more are beyond the real numbers of the machine. -/
def realLimit : Nat := (1 <<< 1024) - (1 <<< 970)

/-- Whether an integer is too large for the machine's real numbers. -/
def Numeral.isHuge (numeral : Numeral) : Bool :=
  numeral.value ≥ realLimit

end StateSketch.Terminal.Parameter
