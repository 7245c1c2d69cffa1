import StateSketch.Terminal.Parameter.Expression
import StateSketch.Terminal.Parameter.Token
import Std.Data.HashMap

/-!
# Reading tokens

A parser looks at a row of tokens from some place on.  It finds what it looks for, or it does not
and another one may be tried, or it stops all reading with a reason.  What has been found out about
a phrase at a place is kept, so that no phrase is read twice at one place.
-/

namespace StateSketch.Terminal.Parameter

/-- The phrases of which the findings are kept. -/
inductive Phrase where
  | expression
  | listed
  | disjunction
  | conjunction
  | inversion
  /-- Operands with signs between them; signs of a higher rank bind more tightly. -/
  | operation (rank : Nat)
  | factor
  | awaited
  | primary
  | quotations
  | arguments
  | target
  | bareTarget
  | targetBase
  | misassigned
deriving DecidableEq, Hashable

/-- Why reading stops. -/
inductive Stop where
  /-- The text is no row of tokens at a place that was looked at. -/
  | misread (message : String)
  /-- The tokens make no sense; so many had been looked at. -/
  | senseless (message : String) (seen : Nat)

/-- How far reading has come. -/
structure Progress where
  place : Nat := 0
  /-- How many tokens have been looked at. -/
  seen : Nat := 0
  /-- Whether to find out what was meant by tokens that do not fit. -/
  guessing : Bool := false
  findings : Std.HashMap (Phrase × Nat) (Option (Expression × Nat)) := ∅

/-- What is read. -/
structure Source where
  lexemes : Array Lexeme
  /-- What is wrong with a template that starts on the given line. -/
  templateFault? : Nat → Quotation → Option String

def Parser (α : Type) : Type :=
  Source → Progress → Except Stop (Option α × Progress)

namespace Parser

variable {α β : Type}

instance : Monad Parser where
  pure a := fun _ progress ↦ .ok (some a, progress)
  bind parser next := fun source progress ↦
    match parser source progress with
    | .ok (some a, after) => next a source after
    | .ok (none, after) => .ok (none, after)
    | .error stop => .error stop

def fail : Parser α :=
  fun _ progress ↦ .ok (none, progress)

/-- Tries another parser at the same place. -/
def orElse (first : Parser α) (second : Unit → Parser α) : Parser α :=
  fun source progress ↦
    match first source progress with
    | .ok (none, after) => second () source { after with place := progress.place }
    | result => result

instance : OrElse (Parser α) := ⟨orElse⟩

def stop (reason : Stop) : Parser α :=
  fun _ _ ↦ .error reason

def progress : Parser Progress :=
  fun _ progress ↦ .ok (some progress, progress)

def setProgress (progress : Progress) : Parser Unit :=
  fun _ _ ↦ .ok (some (), progress)

def source : Parser Source :=
  fun source progress ↦ .ok (some source, progress)

/-- Stops reading: the tokens make no sense. -/
def refuse (message : String) : Parser α := do
  stop (.senseless message (← progress).seen)

/-! ## Trying -/

def optional (parser : Parser α) : Parser (Option α) :=
  (some <$> parser) <|> pure none

/-- Whether a parser finds something, after which reading goes on at the same place. -/
def finds (parser : Parser α) : Parser Bool := do
  let place := (← progress).place
  let found ← optional parser
  setProgress { ← progress with place := place }
  return found.isSome

def followedBy (parser : Parser α) : Parser Unit := do
  if ← finds parser then return else fail

def notFollowedBy (parser : Parser α) : Parser Unit := do
  if ← finds parser then fail else return

/-- A parser that finds out what was meant, and so is left out at first. -/
def guess (parser : Parser α) : Parser α := do
  if (← progress).guessing then parser else fail

/-- Runs a parser without guesses. -/
def withoutGuesses (parser : Parser α) : Parser α := do
  let guessing := (← progress).guessing
  setProgress { ← progress with guessing := false }
  let found ← optional parser
  setProgress { ← progress with guessing := guessing }
  match found with
  | some a => return a
  | none => fail

/-! ## Repeating -/

/-- Takes a step as often as it can be taken, but at most so many times. -/
def extend (step : α → Parser α) : Nat → α → Parser α
  | 0, a => pure a
  | limit + 1, a => do
    match ← optional (step a) with
    | some next => extend step limit next
    | none => return a

/-- A bound for the number of steps that take a token each. -/
def limit : Parser Nat := do
  return (← source).lexemes.size

/-- Takes a step as often as it can be taken. -/
def grow (step : α → Parser α) (first : α) : Parser α := do
  extend step (← limit) first

def many (parser : Parser α) : Parser (List α) := do
  let items ← grow (fun items ↦ do return (← parser) :: items) []
  return items.reverse

def several (parser : Parser α) : Parser (List α) := do
  return (← parser) :: (← many parser)

/-! ## Tokens -/

/-- The next lexeme; reading stops at one that is no token. -/
def next : Parser Lexeme := do
  let now ← progress
  setProgress { now with seen := max now.seen (now.place + 1) }
  let lexeme := (← source).lexemes.getD now.place { token := .finish }
  match lexeme.token with
  | .misread message => stop (.misread message)
  | .unclosed bracket => stop (.misread s!"'{bracket.sign}' was never closed")
  | .strayBackslash _ => stop (.misread "unexpected character after line continuation character")
  | _ => return lexeme

def skip : Parser Unit := do
  let now ← progress
  setProgress { now with place := now.place + 1 }

/-- Takes the next token if it is the given one. -/
def token (wanted : Token) : Parser Unit := do
  if (← next).token = wanted then skip else fail

def sign (sign : String) : Parser Unit :=
  token (.mark sign)

/-- One of several signs. -/
def signIn (signs : List String) : Parser String := do
  match (← next).token with
  | .mark sign =>
    if sign ∈ signs then
      skip
      return sign
    else fail
  | _ => fail

def reservedWords : List String :=
  ["False", "None", "True", "and", "as", "assert", "async", "await", "break", "class", "continue",
    "def", "del", "elif", "else", "except", "finally", "for", "from", "global", "if", "import",
    "in", "is", "lambda", "nonlocal", "not", "or", "pass", "raise", "return", "try", "while",
    "with", "yield"]

/-- A reserved word. -/
def word (letters : String) : Parser Unit :=
  token (.word letters)

/-- A word that is not reserved. -/
def name : Parser String := do
  match (← next).token with
  | .word letters =>
    if letters ∈ reservedWords then fail
    else
      skip
      return letters
  | _ => fail

/-- Items divided by commas. -/
def commaSeparated (item : Parser α) : Parser (List α) := do
  let first ← item
  let others ← many (do sign ","; item)
  return first :: others

/-- How many brackets are open behind the last token that was taken. -/
def depth : Parser Nat := do
  let lexeme? := (← source).lexemes[(← progress).place - 1]?
  return (lexeme?.map Lexeme.depth).getD 0

/-! ## Findings -/

/-- Reads a phrase, unless it has been read at this place before. -/
def once (phrase : Phrase) (parser : Parser Expression) : Parser Expression := do
  let start ← progress
  match start.findings[(phrase, start.place)]? with
  | some (some (found, place)) =>
    setProgress { start with place := place }
    return found
  | some none => fail
  | none =>
    let found ← optional parser
    let after ← progress
    let finding := found.map ((·, after.place))
    setProgress { after with findings := after.findings.insert (phrase, start.place) finding }
    match found with
    | some found => return found
    | none => fail

end Parser

end StateSketch.Terminal.Parameter
