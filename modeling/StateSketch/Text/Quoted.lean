import StateSketch.Text.Hexadecimal
import StateSketch.Text.Printable

/-!
# Quoted text

How a text is shown inside a message: between single quotes, or between double quotes if it holds
a single quote and no double quote.  The quote in use, the backslash and every unprintable
character are escaped.
-/

namespace StateSketch.Text

/-- The shortest of the escapes with two, four and eight digits that fits. -/
def escapeCode (code : Nat) : List Char :=
  if code < 0x100 then '\\' :: 'x' :: hexDigits 2 code
  else if code < 0x10000 then '\\' :: 'u' :: hexDigits 4 code
  else '\\' :: 'U' :: hexDigits 8 code

def escapeChar (mark c : Char) : List Char :=
  if c = mark ∨ c = '\\' then ['\\', c]
  else if c = '\n' then ['\\', 'n']
  else if c = '\r' then ['\\', 'r']
  else if c = '\t' then ['\\', 't']
  else if isPrintable c then [c]
  else escapeCode c.toNat

/-- The quotation mark that needs the fewest escapes, preferring the single one. -/
def quoteMark (text : List Char) : Char :=
  if '\'' ∈ text ∧ '"' ∉ text then '"' else '\''

def quote (text : String) : String :=
  let mark := quoteMark text.toList
  String.ofList (mark :: (text.toList.flatMap (escapeChar mark) ++ [mark]))

/-- Byte strings are quoted like text, with every byte outside printable ASCII escaped. -/
def escapeByte (mark : Char) (byte : Nat) : List Char :=
  if byte < 0x7F then escapeChar mark (Char.ofNat byte) else escapeCode byte

def quoteBytes (bytes : List Nat) : String :=
  let mark := quoteMark (bytes.map Char.ofNat)
  String.ofList ('b' :: mark :: (bytes.flatMap (escapeByte mark) ++ [mark]))

end StateSketch.Text
