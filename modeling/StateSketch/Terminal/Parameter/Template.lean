import StateSketch.Terminal.Parameter.Quotation

/-!
# Templates

A template is a quoted text with parts to be filled in.  A part stands in curly brackets: an
expression, and behind it an equals sign, an exclamation mark with a letter, or a colon with a
format, which may hold parts itself.  Two brackets of one kind in a row stand for themselves.
-/

namespace StateSketch.Terminal.Parameter

namespace Template

/-! ## Literal text -/

/-- How literal text ends. -/
inductive Ending where
  | finished
  /-- At two brackets of a kind, of which the first belongs to the text. -/
  | doubled (rest : List Char)
  /-- At a bracket, with which the rest begins. -/
  | bracket (rest : List Char)
  | loneClosing

/-- Literal text and what comes after it. -/
structure Literal where
  text : List Char
  ending : Ending

def isBracket (c : Char) : Bool :=
  c == '\x7b' || c == '\x7d'

/-- The end of literal text at a bracket.  Only in the template itself can brackets be doubled; in a
format, a closing bracket ends the format. -/
def endAt (level : Nat) (c : Char) (before rest : List Char) : Literal :=
  if level > 0 then { text := before.reverse, ending := .bracket (c :: rest) }
  else if rest.head? = some c then
    { text := (c :: before).reverse, ending := .doubled (rest.drop 1) }
  else if c = '\x7d' then { text := before.reverse, ending := .loneClosing }
  else { text := before.reverse, ending := .bracket (c :: rest) }

/-- The literal text with which a text begins; `before` is what has been read of it, in reverse, and
`naming` says whether a character is being named there. -/
def literalFrom (raw : Bool) (level : Nat) (naming : Bool) (before : List Char) :
    List Char → Literal
  | [] => { text := before.reverse, ending := .finished }
  | c :: rest =>
    if naming then literalFrom raw level (c != '\x7d') (c :: before) rest
    else if c = '\\' ∧ !raw then
      match rest with
      | [] => { text := (c :: before).reverse, ending := .finished }
      | ['N'] => { text := ('N' :: c :: before).reverse, ending := .finished }
      | 'N' :: d :: more => literalFrom raw level (d == '\x7b') (d :: 'N' :: c :: before) more
      | d :: more =>
        if isBracket d then endAt level d (c :: before) more
        else literalFrom raw level false (d :: c :: before) more
    else if isBracket c then endAt level c before rest
    else literalFrom raw level false (c :: before) rest

/-! ## Expressions -/

def missingEnd : String := "f-string: expecting '\x7d'"

/-- The deepest nesting of brackets in an expression. -/
def bracketLimit : Nat := 200

def bracketPairs : List (Char × Char) := [('(', ')'), ('\x7b', '\x7d')]

/-- An open quotation in an expression. -/
structure Mark where
  sign : Char
  /-- Whether it is given three times. -/
  long : Bool

/-- The expression with which a text begins, and the text from its end on.  `opened` holds the open
brackets, the last one first, `before` what has been read, in reverse; the next `skip` characters
belong to the expression whatever they are. -/
def expressionFrom (opened : List Char) (mark : Option Mark) (before : List Char) (skip : Nat) :
    List Char → Except String (List Char × List Char)
  | [] =>
    match mark, opened with
    | some _, _ => .error "f-string: unterminated string"
    | none, bracket :: _ => .error s!"f-string: unmatched '{bracket}'"
    | none, [] => .error missingEnd
  | c :: rest =>
    let goOn (opened : List Char) (mark : Option Mark) (skip : Nat) :=
      expressionFrom opened mark (c :: before) skip rest
    if skip > 0 then goOn opened mark (skip - 1)
    else if c = '\\' then .error "f-string expression part cannot include a backslash"
    else
      match mark with
      | some quote =>
        if c ≠ quote.sign then goOn opened mark 0
        else if !quote.long then goOn opened none 0
        else if [c, c].isPrefixOf rest then goOn opened none 2
        else goOn opened mark 0
      | none =>
        if c = '\'' ∨ c = '"' then
          let long := [c, c].isPrefixOf rest
          goOn opened (some { sign := c, long := long }) (if long then 2 else 0)
        else if bracketPairs.any (·.1 == c) then
          if opened.length ≥ bracketLimit then .error "f-string: too many nested parenthesis"
          else goOn (c :: opened) none 0
        else if c = '#' then .error "f-string expression part cannot include '#'"
        else
          match opened with
          | [] =>
            if c ∈ ['!', '=', '<', '>'] ∧ rest.head? = some '=' then goOn [] none 1
            else if c ∈ ['!', ':', '\x7d', '='] then .ok (before.reverse, c :: rest)
            else if c = ')' then .error s!"f-string: unmatched '{c}'"
            else goOn [] none 0
          | bracket :: outer =>
            if c ≠ ')' ∧ c ≠ '\x7d' then goOn opened none 0
            else if (bracket, c) ∈ bracketPairs then goOn outer none 0
            else
              .error (s!"f-string: closing parenthesis '{c}' " ++
                s!"does not match opening parenthesis '{bracket}'")

def isExpressionBlank (c : Char) : Bool :=
  c == ' ' || c == '\t' || c == '\n' || c == '\x0c'

/-- What is wrong with an expression before the given sign, on the given line. -/
def expressionFault? (readPart? : Nat → List Char → Option String) (line : Nat)
    (inside : List Char) (sign : Option Char) : Option String :=
  if inside.all isExpressionBlank then
    match sign with
    | some '\x7d' | none => some "f-string: empty expression not allowed"
    | some c => some s!"f-string: expression required before '{c}'"
  else readPart? line ('(' :: inside ++ [')', '\n'])

/-! ## Parts -/

def isFormatBlank (c : Char) : Bool :=
  c == ' ' || ('\t' ≤ c && c ≤ '\r')

/-- What follows an equals sign and the blanks behind it, if there is one. -/
def afterEquals (text : List Char) : Except String (List Char) :=
  match text with
  | '=' :: rest =>
    match rest.dropWhile isFormatBlank with
    | [] => .error missingEnd
    | after => .ok after
  | _ => .ok text

/-- What follows an exclamation mark and the letter behind it, if there is one. -/
def afterConversion (text : List Char) : Except String (List Char) :=
  match text with
  | '!' :: [] => .error missingEnd
  | '!' :: c :: rest =>
    if c ∈ ['s', 'r', 'a'] then .ok rest
    else .error "f-string: invalid conversion character: expected 's', 'r', or 'a'"
  | _ => .ok text

/-- The line behind a text. -/
def lineAfter (line : Nat) (before after : List Char) : Nat :=
  line + before.count '\n' - after.count '\n'

/-- Reads a template, or a format in it, with at most so many steps.  The result is what follows: of
a template nothing, of a format its closing bracket.  `readPart?` tells what is wrong with an
expression in brackets. -/
def readTemplate (readPart? : Nat → List Char → Option String) (raw : Bool) :
    Nat → Nat → Nat → List Char → Except String (List Char)
  | 0, _, _, _ => .error missingEnd
  | limit + 1, level, line, text => do
    let literal := literalFrom raw level false [] text
    let checkText : Except String Unit :=
      match if raw then none else escapeFault? literal.text with
      | some message => .error message
      | none => .ok ()
    match literal.ending with
    | .loneClosing => .error "f-string: single '\x7d' is not allowed"
    | .finished =>
      checkText
      if level > 0 then .error missingEnd else return []
    | .doubled rest =>
      checkText
      readTemplate readPart? raw limit level (lineAfter line text rest) rest
    | .bracket rest =>
      checkText
      match rest with
      | '\x7b' :: inside =>
        if level ≥ 2 then .error "f-string: expressions nested too deeply"
        else
          let here := lineAfter line text rest
          let (expression, after) ← expressionFrom [] none [] 0 inside
          if let some message := expressionFault? readPart? here expression after.head? then
            .error message
          else
            let after ← afterEquals after
            let after ← afterConversion after
            let after ←
              match after with
              | [':'] => .error missingEnd
              | ':' :: format =>
                readTemplate readPart? raw limit (level + 1) (lineAfter line text format) format
              | _ => .ok after
            match after with
            | '\x7d' :: after =>
              readTemplate readPart? raw limit level (lineAfter line text after) after
            | _ => .error missingEnd
      | _ => return rest

end Template

/-- What is wrong with a template that starts on the given line. -/
def Quotation.templateFault? (quotation : Quotation) (line : Nat)
    (readPart? : Nat → List Char → Option String) : Option String :=
  let limit := quotation.inside.length + 1
  match Template.readTemplate readPart? quotation.raw limit 0 line quotation.inside with
  | .ok _ => none
  | .error message => some message

end StateSketch.Terminal.Parameter
