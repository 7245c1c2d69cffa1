import StateSketch.Terminal.Parameter.Number
import StateSketch.Terminal.Parameter.Quotation
import StateSketch.Terminal.Word

/-!
# Words of tag parameters

A tag may carry parameters: numbers, texts and collections of them.  Here their text is cut into
tokens.  The last token tells how the text ends: properly, with an open bracket, or with something
that is no token.
-/

namespace StateSketch.Terminal.Parameter

/-- An open bracket and the line it stands on. -/
structure Bracket where
  sign : Char
  line : Nat
deriving DecidableEq

inductive Token where
  | number (numeral : Numeral)
  | quoted (quotation : Quotation)
  | word (letters : String)
  | mark (sign : String)
  | lineEnd
  /-- A line outside of brackets that starts with a blank. -/
  | indent
  | finish
  | unclosed (bracket : Bracket)
  /-- A backslash that is not the last character of its line. -/
  | strayBackslash (inside : Option Bracket)
  | misread (message : String)
deriving DecidableEq

/-- A token in its place. -/
structure Lexeme where
  token : Token
  /-- How many brackets are open behind it. -/
  depth : Nat := 0
  line : Nat := 1
  /-- Whether the end of the text was met while the token was read. -/
  atEnd : Bool := false
deriving DecidableEq

/-! ## Single tokens -/

def numberToken (text : List Char) : Token × Nat :=
  match readNumeral text with
  | .error message => (.misread message, 0)
  | .ok (numeral, rest) => (.number numeral, text.length - rest.length)

/-- A quoted text with the given letters in front, on the given line. -/
def quotedToken (line : Nat) (letters text : List Char) : Token × Nat :=
  match text.drop letters.length with
  | [] => (.finish, 0)
  | mark :: rest =>
    let long := [mark, mark].isPrefixOf rest
    match quotedUpTo? mark long (if long then rest.drop 2 else rest) with
    | some (inside, after) =>
      let quotation : Quotation :=
        { bytes := 'b' ∈ letters
          raw := 'r' ∈ letters
          template := 'f' ∈ letters
          inside := inside }
      (.quoted quotation, text.length - after.length)
    | none =>
      if long then
        let last := line + rest.count '\n'
        (.misread s!"unterminated triple-quoted string literal (detected at line {last})", 0)
      else
        let last := line + passedLines rest
        (.misread s!"unterminated string literal (detected at line {last})", 0)

def codeText (c : Char) : String :=
  let width := if c.toNat < 0x10000 then 4 else if c.toNat < 0x100000 then 5 else 6
  let digits := Text.hexDigits width c.toNat
  "U+" ++ String.ofList (digits.map Char.toUpper)

def strangeCharacter (c : Char) : String :=
  if Text.isPrintable c then s!"invalid character '{c}' ({codeText c})"
  else "invalid non-printable character " ++ codeText c

/-- The first character that has no place in a word. -/
def misplaced? : List Char → Option Char
  | [] => none
  | first :: rest =>
    if beginsWord first then rest.find? (!continuesWord ·) else some first

def wordToken (text : List Char) : Token × Nat :=
  let letters := text.takeWhile inWord
  match misplaced? letters with
  | some c => (.misread (strangeCharacter c), 0)
  | none => (.word (String.ofList letters), letters.length)

/-- The signs of more than one character, longer ones first. -/
def longMarks : List String :=
  ["...", "**=", "//=", "<<=", ">>=", "!=", "%=", "&=", "**", "*=", "+=", "-=", "->", "//", "/=",
    ":=", "<<", "<=", "<>", "==", ">=", ">>", "@=", "^=", "|="]

/-- The token at the start of a text that is not blank there, and its length.  Brackets and
backslashes are looked at elsewhere. -/
def readToken (line : Nat) (text : List Char) : Token × Nat :=
  match text with
  | [] => (.finish, 0)
  | c :: rest =>
    match quoteStart? text with
    | some letters => quotedToken line letters text
    | none =>
      if c.isDigit ∨ (c = '.' ∧ rest.head?.any Char.isDigit) then numberToken text
      else if inWord c then wordToken text
      else
        match longMarks.find? (·.toList.isPrefixOf text) with
        | some sign => (.mark sign, sign.length)
        | none =>
          if Text.isPrintable c then (.mark (String.ofList [c]), 1)
          else (.misread (strangeCharacter c), 0)

/-- Whether the character behind a token has to be looked at to find the token's end. -/
def Token.looksBehind : Token → Bool
  | .quoted quotation => quotation.inside.isEmpty
  | .mark sign => sign.length < 3
  | _ => true

/-! ## Brackets -/

/-- The deepest nesting of brackets. -/
def bracketLimit : Nat := 200

/-- Closes the last open bracket. -/
def closeBracket (line : Nat) (c : Char) (opened : List Bracket) :
    Except String (List Bracket) :=
  match opened with
  | [] => .error s!"unmatched '{c}'"
  | bracket :: outer =>
    if (bracket.sign = '(' ∧ c = ')') ∨ (bracket.sign = '\x7b' ∧ c = '\x7d') then .ok outer
    else
      let sign := bracket.sign
      let place := if bracket.line = line then "" else s!" on line {bracket.line}"
      .error (s!"closing parenthesis '{c}' does not match opening parenthesis '{sign}'" ++ place)

/-! ## Lines -/

/-- The blanks read so far at the start of a line, up to its first backslash and in all. -/
structure Margin where
  kept : Nat := 0
  width : Nat := 0

namespace Margin

/-- The margin after one more blank, if the character is one. -/
def push? (margin : Margin) (c : Char) : Option Margin :=
  if c = ' ' then some { margin with width := margin.width + 1 }
  else if c = '\t' then some { margin with width := (margin.width / 8 + 1) * 8 }
  else if c = '\x0c' then some { margin with width := 0 }
  else none

/-- The margin after a line that goes on behind a backslash. -/
def goOn (margin : Margin) : Margin :=
  { margin with kept := if margin.kept = 0 then margin.width else margin.kept }

def isIndent (margin : Margin) : Bool :=
  margin.kept > 0 || margin.width > 0

end Margin

/-! ## Rows of tokens -/

/-- The tokens of a text of which the next `skip` characters have been read already.  `opened` holds
the open brackets, the last one first, and `margin` the blanks at the start of a line outside of
brackets, as long as there are only blanks. -/
def lexemesFrom (line : Nat) (opened : List Bracket) (margin : Option Margin) (skip : Nat) :
    List Char → List Lexeme
  | [] =>
    match opened with
    | [] => [lexeme .finish]
    | bracket :: _ => [lexeme (.unclosed bracket)]
  | c :: rest =>
    let next := if c = '\n' then line + 1 else line
    if skip > 0 then lexemesFrom next opened margin (skip - 1) rest
    else if c = '\n' then
      if margin.isSome then lexemesFrom next opened (some {}) 0 rest
      else if opened.isEmpty then lexeme .lineEnd :: lexemesFrom next opened (some {}) 0 rest
      else lexemesFrom next opened none 0 rest
    else if c = '#' then lexemesFrom line opened margin (rest.takeWhile (· != '\n')).length rest
    else if c = '\\' then
      if rest.head? = some '\n' then lexemesFrom line opened (margin.map Margin.goOn) 1 rest
      else [lexeme (.strayBackslash opened.head?)]
    else if c = ' ' ∨ c = '\t' ∨ c = '\x0c' then
      lexemesFrom line opened (margin.bind (·.push? c)) 0 rest
    else
      let before := if margin.any Margin.isIndent then [lexeme .indent] else []
      before ++
        if c = '(' ∨ c = '\x7b' then
          if opened.length ≥ bracketLimit then [lexeme (.misread "too many nested parentheses")]
          else
            bracket (opened.length + 1) c rest ::
              lexemesFrom line ({ sign := c, line := line } :: opened) none 0 rest
        else if c = ')' ∨ c = '\x7d' then
          match closeBracket line c opened with
          | .ok outer =>
            bracket outer.length c rest :: lexemesFrom line outer none 0 rest
          | .error message => [lexeme (.misread message)]
        else
          match readToken line (c :: rest) with
          | (.misread message, _) => [lexeme (.misread message)]
          | (token, length) =>
            let atEnd := token.looksBehind && length > rest.length
            { lexeme token with atEnd := atEnd } :: lexemesFrom line opened none (length - 1) rest
where
  lexeme (token : Token) : Lexeme :=
    { token := token, depth := opened.length, line := line }
  bracket (depth : Nat) (c : Char) (rest : List Char) : Lexeme :=
    { token := .mark (String.ofList [c]), depth := depth, line := line, atEnd := rest.isEmpty }

/-- The tokens of a text that starts on the given line. -/
def lexemes (line : Nat) (text : List Char) : List Lexeme :=
  lexemesFrom line [] (some {}) 0 text

end StateSketch.Terminal.Parameter
