import StateSketch.Terminal.CharacterName
import StateSketch.Text.Hexadecimal

/-!
# Quoted text in tag parameters

Text stands between single or triple quotation marks, with letters in front that say how to read it:
as bytes, as it stands, or as a template with parts to be filled in.
-/

namespace StateSketch.Terminal.Parameter

/-- What stands between quotation marks. -/
structure Quotation where
  bytes : Bool
  /-- Whether backslashes stand for themselves. -/
  raw : Bool
  /-- Whether there are parts to be filled in. -/
  template : Bool
  inside : List Char
deriving DecidableEq

/-- The text up to the quotation mark, which is given once or three times, and what follows it.  A
backslash takes the next character with it, and a line ends a text between single marks. -/
def quotedUpTo? (mark : Char) (long : Bool) : List Char → Option (List Char × List Char)
  | [] => none
  | ['\\'] => none
  | '\\' :: c :: rest =>
    (quotedUpTo? mark long rest).map fun (inside, after) ↦ ('\\' :: c :: inside, after)
  | c :: rest =>
    if c = mark ∧ (!long ∨ [mark, mark].isPrefixOf rest) then
      some ([], if long then rest.drop 2 else rest)
    else if c = '\n' ∧ !long then none
    else (quotedUpTo? mark long rest).map fun (inside, after) ↦ (c :: inside, after)

/-- How many ends of lines an unfinished text between single marks passes behind backslashes. -/
def passedLines : List Char → Nat
  | '\\' :: '\n' :: rest => passedLines rest + 1
  | '\\' :: _ :: rest => passedLines rest
  | '\n' :: _ => 0
  | _ :: rest => passedLines rest
  | [] => 0

/-- The letters that can stand before a quotation mark. -/
def quoteLetters : List String := ["", "b", "br", "f", "fr", "r", "rb", "rf", "u"]

/-- The letters before the quotation mark with which the text goes on. -/
def quoteStart? (text : List Char) : Option (List Char) :=
  let letters := text.takeWhile fun c ↦ c.isAlpha
  let folded := String.ofList (letters.map Char.toLower)
  match text.drop letters.length with
  | c :: _ => if (c = '\'' ∨ c = '"') ∧ folded ∈ quoteLetters then some folded.toList else none
  | [] => none

/-! ## Escapes -/

/-- How many of the first characters are hexadecimal digits. -/
def hexRun (limit : Nat) (text : List Char) : Nat :=
  ((text.take limit).takeWhile fun c ↦ (Text.hexValue? c).isSome).length

/-- The letters of escapes with hexadecimal digits, and the number of digits. -/
def hexEscapes : List (Char × Nat) := [('x', 2), ('u', 4), ('U', 8)]

/-- A character beyond ASCII as an escape. -/
def asEscape (c : Char) : List Char :=
  '\\' :: 'U' :: Text.hexDigits 8 c.toNat

/-- The text with every character beyond ASCII as an escape, and a backslash before one of them, or
at the end, as an escape too. -/
def allAscii : List Char → List Char
  | [] => []
  | ['\\'] => "\\u005c".toList
  | '\\' :: c :: rest =>
    if c.toNat < 0x80 then '\\' :: c :: allAscii rest
    else "\\u005c".toList ++ asEscape c ++ allAscii rest
  | c :: rest => (if c.toNat < 0x80 then [c] else asEscape c) ++ allAscii rest

/-- What is wrong with the first bad escape of a text in ASCII; `place` is the place of its first
character.  Characters that have been read already as part of an escape are skipped. -/
def escapeFaultFrom? (place skip : Nat) : List Char → Option String
  | [] => none
  | c :: rest =>
    if skip > 0 then escapeFaultFrom? (place + 1) (skip - 1) rest
    else if c ≠ '\\' then escapeFaultFrom? (place + 1) 0 rest
    else
      match rest with
      | [] => none
      | 'N' :: '\x7b' :: named =>
        let name := named.takeWhile (· != '\x7d')
        if name.length = named.length then undecodable (2 + name.length) malformedName
        else if name.isEmpty then undecodable 2 malformedName
        else if isCharacterName name then
          escapeFaultFrom? (place + 1) (name.length + 3) rest
        else undecodable (3 + name.length) "unknown Unicode character name"
      | 'N' :: _ => undecodable 1 malformedName
      | letter :: digits =>
        match hexEscapes.lookup letter with
        | none => escapeFaultFrom? (place + 1) 1 rest
        | some width =>
          let count := hexRun width digits
          let values := (digits.take count).filterMap Text.hexValue?
          let value := values.foldl (fun value digit ↦ 16 * value + digit) 0
          if count < width then
            let form := String.ofList (letter :: List.replicate width 'X')
            undecodable (1 + count) ("truncated \\" ++ form ++ " escape")
          else if value > 0x10FFFF then undecodable (1 + count) "illegal Unicode character"
          else escapeFaultFrom? (place + 1) (1 + width) rest
where
  malformedName : String := "malformed \\N character escape"
  undecodable (length : Nat) (reason : String) : Option String :=
    some (s!"(unicode error) 'unicodeescape' codec can't decode bytes in position {place}-" ++
      s!"{place + length}: {reason}")

def escapeFault? (text : List Char) : Option String :=
  escapeFaultFrom? 0 0 (allAscii text)

/-- What is wrong with the first bad escape of a byte string. -/
def byteEscapeFault? (place : Nat) : List Char → Option String
  | [] => none
  | ['\\'] => none
  | '\\' :: c :: rest =>
    if c = 'x' ∧ hexRun 2 rest < 2 then
      some s!"(value error) invalid \\x escape at position {place}"
    else byteEscapeFault? (place + 2) rest
  | _ :: rest => byteEscapeFault? (place + 1) rest

/-- What is wrong with what a quoted text says, if it is no template. -/
def Quotation.fault? (quotation : Quotation) : Option String :=
  if quotation.bytes && quotation.inside.any (·.toNat ≥ 0x80) then
    some "bytes can only contain ASCII literal characters"
  else if quotation.raw then none
  else if quotation.bytes then byteEscapeFault? 0 quotation.inside
  else escapeFault? quotation.inside

end StateSketch.Terminal.Parameter
