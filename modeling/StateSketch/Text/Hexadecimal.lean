/-!
# Hexadecimal digits
-/

namespace StateSketch.Text

def hexDigit (n : Nat) : Char :=
  if n < 10 then Char.ofNat ('0'.toNat + n) else Char.ofNat ('a'.toNat + (n - 10))

/-- The last `width` hexadecimal digits of a number. -/
def hexDigits : Nat → Nat → List Char
  | 0, _ => []
  | width + 1, n => hexDigits width (n / 16) ++ [hexDigit (n % 16)]

/-- The value of a digit in either letter case. -/
def hexValue? (c : Char) : Option Nat :=
  if '0' ≤ c ∧ c ≤ '9' then some (c.toNat - '0'.toNat)
  else if 'a' ≤ c ∧ c ≤ 'f' then some (c.toNat - 'a'.toNat + 10)
  else if 'A' ≤ c ∧ c ≤ 'F' then some (c.toNat - 'A'.toNat + 10)
  else none

/-- The bytes written as pairs of digits, with blanks allowed between pairs, or the place of the
first character that does not fit; `place` is the place of the text's first character. -/
def readHexPairs (place : Nat) : List Char → Except Nat (List Nat)
  | [] => .ok []
  | c :: rest =>
    if c == ' ' || ('\t' ≤ c && c ≤ '\r') then readHexPairs (place + 1) rest
    else
      match hexValue? c, rest with
      | none, _ => .error place
      | some _, [] => .error (place + 1)
      | some high, d :: rest =>
        match hexValue? d with
        | none => .error (place + 1)
        | some low => (readHexPairs (place + 2) rest).map ((16 * high + low) :: ·)

/-- The bytes of a text of digits.  A character beyond ASCII is found before any other misfit. -/
def readHexBytes (text : String) : Except Nat (List Nat) :=
  match text.toList.findIdx? (·.toNat ≥ 0x80) with
  | some place => .error place
  | none => readHexPairs 0 text.toList

end StateSketch.Text
