import StateSketch.Text.Numeral

/-!
# Floating-point numbers

No setting of a program is a floating-point number, but one can be handed in by mistake and is then
shown in the message.  It is written with the fewest digits that determine it, positionally for
moderate exponents and otherwise with an exponent of at least two digits.
-/

namespace StateSketch

/-- A number in the binary64 format, given by its bits. -/
structure Binary64 where
  bits : UInt64
deriving DecidableEq

namespace Binary64

def isNegative (x : Binary64) : Bool :=
  x.bits >>> 63 == 1

def exponentField (x : Binary64) : Nat :=
  ((x.bits >>> 52) &&& 0x7FF).toNat

def fractionField (x : Binary64) : Nat :=
  (x.bits &&& 0xFFFFFFFFFFFFF).toNat

def isZero (x : Binary64) : Bool :=
  x.exponentField == 0 && x.fractionField == 0

def isFinite (x : Binary64) : Bool :=
  x.exponentField != 0x7FF

/-- The numerator of the magnitude over the power of two `2 ^ scale`. -/
def significand (x : Binary64) : Nat :=
  if x.exponentField == 0 then x.fractionField else x.fractionField + 0x10000000000000

def scale (x : Binary64) : Int :=
  (max x.exponentField 1 : Nat) - 1075

/-- Whether the number is the given integer. -/
def isInteger (x : Binary64) (n : Int) : Bool :=
  let magnitude := x.significand
  x.isFinite && (x.isZero || x.isNegative == decide (n < 0)) &&
    magnitude <<< x.scale.toNat == n.natAbs <<< (-x.scale).toNat

/-- Equality of values: both zeros are equal, and what is not a number equals nothing. -/
def equals (x y : Binary64) : Bool :=
  (x.isZero && y.isZero) || (x == y && (x.isFinite || x.fractionField == 0))

/-- The number as a fraction: an infinite one over zero, and none at all if it is not a number. -/
def fraction? (x : Binary64) : Option (Int × Nat) :=
  let signed (n : Nat) : Int := if x.isNegative then -(n : Int) else n
  if x.isFinite then
    some (signed (x.significand <<< x.scale.toNat), 1 <<< (-x.scale).toNat)
  else if x.fractionField == 0 then some (signed 1, 0)
  else none

/-- Whether one fraction is above another. -/
def fractionAbove (a b : Int × Nat) : Bool :=
  if a.2 == 0 && b.2 == 0 then decide (b.1 < a.1) else decide (b.1 * a.2 < a.1 * b.2)

/-- The numbers that round to `significand * 2 ^ scale`, as a range of fourths of the unit in the
last place.  Its ends belong to it if the significand is even. -/
def roundingRange (x : Binary64) : Nat × Nat :=
  let below := if x.fractionField == 0 && x.exponentField > 1 then 1 else 2
  (4 * x.significand - below, 4 * x.significand + 2)

/-- Whether `digits * 10 ^ power` rounds to the number. -/
def roundsFrom (x : Binary64) (digits : Nat) (power : Int) : Bool :=
  let decimal := (4 * digits * Nat.pow 10 power.toNat) <<< (-x.scale).toNat
  let unit := Nat.pow 10 (-power).toNat <<< x.scale.toNat
  let (low, high) := x.roundingRange
  if x.significand % 2 == 0 then
    low * unit ≤ decimal && decimal ≤ high * unit
  else
    low * unit < decimal && decimal < high * unit

/-- The number's position on the grid of multiples of `10 ^ power`: the multiple below it, and
whether the one above is nearer (in the middle, whether it is the even one). -/
def gridPosition (x : Binary64) (power : Int) : Nat × Bool :=
  let numerator := (x.significand <<< x.scale.toNat) * Nat.pow 10 (-power).toNat
  let denominator := Nat.pow 10 power.toNat <<< (-x.scale).toNat
  let below := numerator / denominator
  let twice := 2 * (numerator % denominator)
  (below, denominator < twice || (twice == denominator && below % 2 == 1))

/-- The multiple of `10 ^ power` that rounds to the number, the nearer one if there are two. -/
def onGrid? (x : Binary64) (power : Int) : Option Nat :=
  let (below, upIsNearer) := x.gridPosition power
  match x.roundsFrom below power, x.roundsFrom (below + 1) power with
  | true, true => some (if upIsNearer then below + 1 else below)
  | true, false => some below
  | false, true => some (below + 1)
  | false, false => none

/-- The number of digits in front of the decimal point, less the zeros right behind it. -/
def magnitude (x : Binary64) : Int :=
  let whole := (x.significand <<< x.scale.toNat) >>> (-x.scale).toNat
  if whole == 0 then
    let shift := (List.range 400).find? fun n ↦
      1 <<< (-x.scale).toNat ≤ (x.significand <<< x.scale.toNat) * Nat.pow 10 n
    1 - (shift.getD 0 : Int)
  else (toString whole).length

/-- The fewest decimal digits that determine a finite nonzero number, and the position of the
decimal point behind the first of them. -/
def shortest (x : Binary64) : List Char × Int :=
  let found := (List.range' 1 17).findSome? fun (count : Nat) ↦
    let power := x.magnitude - (count : Int)
    (x.onGrid? power).map (·, power)
  let (value, power) := found.getD (0, 0)
  let digits := (toString value).toList
  ((digits.reverse.dropWhile (· == '0')).reverse, digits.length + power)

/-- Positional notation is used for points from the fourth place before to the sixteenth after the
first digit. -/
def layout (digits : List Char) (point : Int) : List Char :=
  if -4 < point ∧ point ≤ 16 then
    if point ≤ 0 then
      '0' :: '.' :: List.replicate (-point).toNat '0' ++ digits
    else if digits.length ≤ point.toNat then
      digits ++ List.replicate (point.toNat - digits.length) '0' ++ ['.', '0']
    else
      digits.take point.toNat ++ '.' :: digits.drop point.toNat
  else
    let exponent := point - 1
    let size := (toString exponent.natAbs).toList
    let padded := if size.length < 2 then '0' :: size else size
    let fraction := if digits.length ≤ 1 then [] else '.' :: digits.drop 1
    digits.take 1 ++ fraction ++ ['e', if exponent < 0 then '-' else '+'] ++ padded

def render (x : Binary64) : String :=
  if x.isFinite then
    let sign := if x.isNegative then "-" else ""
    if x.isZero then sign ++ "0.0"
    else
      let (digits, point) := x.shortest
      sign ++ String.ofList (layout digits point)
  else if x.fractionField == 0 then
    if x.isNegative then "-inf" else "inf"
  else "nan"

def infinity (negative : Bool) : Binary64 where
  bits := if negative then 0xFFF0000000000000 else 0x7FF0000000000000

def notANumber : Binary64 where
  bits := 0x7FF8000000000000

/-- What is not a number has room for a mark, by which one is told from another. -/
def marked (x : Binary64) (mark : Nat) : Binary64 :=
  if x.isFinite || x.fractionField == 0 then x
  else { bits := notANumber.bits + UInt64.ofNat (mark % 0x4000000000000) }

/-- The number nearest to `digits * 10 ^ power`.  Beyond the powers of ten that are looked at, all
numbers are infinite or zero. -/
def ofDecimal (negative : Bool) (digits : Nat) (power : Int) : Binary64 :=
  let point := (toString digits).length + power
  if digits = 0 ∨ point < -400 then { bits := if negative then 0x8000000000000000 else 0 }
  else if point > 400 then infinity negative
  else
    let magnitude := Float.ofScientific digits (power < 0) power.natAbs
    { bits := (if negative then -magnitude else magnitude).toBits }

/-- The number nearest to one more than the number. -/
def next (x : Binary64) : Binary64 :=
  match x.fraction? with
  | some (numerator, denominator + 1) =>
    let sum := numerator + (denominator + 1 : Nat)
    let places := Nat.log2 (denominator + 1)
    ofDecimal (sum < 0) (sum.natAbs * Nat.pow 5 places) (-(places : Int))
  | _ => x

/-! ## Reading -/

/-- Writes a digit of any script as a plain one. -/
def plainDigit (c : Char) : Char :=
  match Text.digitValue? c with
  | some value => Char.ofNat ('0'.toNat + value)
  | none => c

/-- Removes underscores, each of which has to stand between two digits. -/
def joinDigits? (afterDigit : Bool) : List Char → Option (List Char)
  | [] => some []
  | ['_'] => none
  | '_' :: c :: rest =>
    if afterDigit && c.isDigit then (joinDigits? true rest).map (c :: ·) else none
  | c :: rest => (joinDigits? c.isDigit rest).map (c :: ·)

/-- Takes a sign off the front; `true` stands for the minus sign. -/
def takeSign : List Char → Bool × List Char
  | '-' :: rest => (true, rest)
  | '+' :: rest => (false, rest)
  | rest => (false, rest)

def digitsValue (digits : List Char) : Nat :=
  digits.foldl (fun value c ↦ 10 * value + (c.toNat - '0'.toNat)) 0

/-- The power of ten behind the mark of an exponent, zero if there is no mark. -/
def readExponent? : List Char → Option Int
  | [] => some 0
  | mark :: rest =>
    let (negative, digits) := takeSign rest
    if (mark == 'e' || mark == 'E') && !digits.isEmpty && digits.all Char.isDigit then
      some (if negative then -(digitsValue digits : Int) else digitsValue digits)
    else none

/-- Reads a decimal without sign: digits, perhaps a point among them, and perhaps an exponent. -/
def readMagnitude? (negative : Bool) (text : List Char) : Option Binary64 := do
  let whole := text.takeWhile Char.isDigit
  let (fraction, rest) :=
    match text.dropWhile Char.isDigit with
    | '.' :: rest => (rest.takeWhile Char.isDigit, rest.dropWhile Char.isDigit)
    | rest => ([], rest)
  guard !(whole ++ fraction).isEmpty
  let exponent ← readExponent? rest
  return ofDecimal negative (digitsValue (whole ++ fraction)) (exponent - fraction.length)

/-- Reads a number as a person may type it: blanks around it, an optional sign, digits of any
script, and single underscores between digits; or the word for an infinite number or for none. -/
def ofText? (text : String) : Option Binary64 := do
  let joined ← joinDigits? false ((Text.trimBy Text.isNumeralBlank text.toList).map plainDigit)
  let (negative, rest) := takeSign joined
  let word := String.ofList (rest.map Char.toLower)
  if word = "inf" ∨ word = "infinity" then return infinity negative
  else if word = "nan" then return notANumber
  else readMagnitude? negative rest

end Binary64

end StateSketch
