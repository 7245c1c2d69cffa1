import StateSketch.Text.Blank

/-!
# Written integers

Reading a decimal integer as a person may type it: blanks around it, an optional sign, digits of
any script, and single underscores between digits.  Integers with too many digits are neither read
nor written.
-/

namespace StateSketch.Text

/-- The zeros of the decimal digit scripts (Unicode 14.0); the nine digits that follow each zero
have the values one to nine. -/
def decimalZeros : List Nat :=
  [
    0x30, 0x660, 0x6F0, 0x7C0, 0x966, 0x9E6, 0xA66, 0xAE6, 0xB66, 0xBE6, 0xC66, 0xCE6, 0xD66,
    0xDE6, 0xE50, 0xED0, 0xF20, 0x1040, 0x1090, 0x17E0, 0x1810, 0x1946, 0x19D0, 0x1A80, 0x1A90,
    0x1B50, 0x1BB0, 0x1C40, 0x1C50, 0xA620, 0xA8D0, 0xA900, 0xA9D0, 0xA9F0, 0xAA50, 0xABF0,
    0xFF10, 0x104A0, 0x10D30, 0x11066, 0x110F0, 0x11136, 0x111D0, 0x112F0, 0x11450, 0x114D0,
    0x11650, 0x116C0, 0x11730, 0x118E0, 0x11950, 0x11C50, 0x11D50, 0x11DA0, 0x16A60, 0x16AC0,
    0x16B50, 0x1D7CE, 0x1D7D8, 0x1D7E2, 0x1D7EC, 0x1D7F6, 0x1E140, 0x1E2F0, 0x1E950, 0x1FBF0
  ]

def digitValue? (c : Char) : Option Nat :=
  (decimalZeros.find? fun base ↦ base ≤ c.toNat && c.toNat < base + 10).map (c.toNat - ·)

/-- The blanks allowed around a number: the information separators are not among them. -/
def isNumeralBlank (c : Char) : Bool :=
  isBlank c && !(0x1C ≤ c.toNat && c.toNat ≤ 0x1F)

/-- The value of a run of digits in which an underscore may stand between two digits. -/
def readDigits? : List Char → Option (List Nat)
  | [] => none
  | [c] => (digitValue? c).map ([·])
  | c :: '_' :: rest => do return (← digitValue? c) :: (← readDigits? rest)
  | c :: rest => do return (← digitValue? c) :: (← readDigits? rest)

/-- Longer numerals are refused. -/
def numeralDigitLimit : Nat := 4300

/-- The least number with more digits than can be written. -/
def leastWide : Nat := Nat.pow 10 numeralDigitLimit

/-- Whether an integer has too many digits to be written. -/
def isTooWide (n : Int) : Bool :=
  leastWide ≤ n.natAbs

def readNatural? (text : List Char) : Option Nat := do
  let digits ← readDigits? text
  guard (digits.length ≤ numeralDigitLimit)
  return digits.foldl (fun value digit ↦ 10 * value + digit) 0

def readInteger? (text : String) : Option Int :=
  match trimBy isNumeralBlank text.toList with
  | '-' :: rest => (readNatural? rest).map fun value ↦ -(value : Int)
  | '+' :: rest => (readNatural? rest).map Int.ofNat
  | rest => (readNatural? rest).map Int.ofNat

end StateSketch.Text
