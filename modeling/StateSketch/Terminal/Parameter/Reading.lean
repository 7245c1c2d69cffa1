import StateSketch.Terminal.Parameter.Grammar
import StateSketch.Terminal.Parameter.Template

/-!
# Reading tag parameters

A text is read twice if need be: the second time to find out what was meant.  A place where it is no
row of tokens is the reason for the failure wherever it stands.
-/

namespace StateSketch.Terminal.Parameter

open StateSketch.Terminal.Parameter.Parser

/-- What a text is to be. -/
inductive Goal where
  /-- Expressions up to the end of the text. -/
  | parameters
  /-- The expression of a part of a template. -/
  | part

namespace Goal

def parser (goal : Goal) (read : Phrase → Parser Expression) : Parser Expression :=
  match goal with
  | parameters => do
    let found ← Grammar.expressions read
    discard <| many (token .lineEnd)
    token .finish
    return found
  | part => Grammar.starExpressions read

/-- A message about tokens that make no sense. -/
def wording (goal : Goal) (message : String) : String :=
  match goal with
  | parameters => message
  | part => "f-string: " ++ message

end Goal

/-- What is wrong with the text behind the tokens that have been looked at, if anything is.  An open
bracket is wrong if the last of these tokens stands on a later line. -/
def unseenFault? (lexemes : Array Lexeme) (seen : Nat) : Option String :=
  let line := (lexemes[seen - 1]?.map Lexeme.line).getD 0
  let unclosed? (bracket : Bracket) : Option String :=
    if line > bracket.line then some s!"'{bracket.sign}' was never closed" else none
  match lexemes.back?.map Lexeme.token with
  | some (.misread message) => some message
  | some (.unclosed bracket) => unclosed? bracket
  | some (.strayBackslash bracket) => bracket.bind unclosed?
  | _ => none

/-- Why reading stopped.  Once the end of the text has been met, nothing more is looked for. -/
def stopReason (goal : Goal) (lexemes : Array Lexeme) : Stop → String
  | .misread message => message
  | .senseless message seen =>
    if (lexemes[seen - 1]?).any Lexeme.atEnd then goal.wording message
    else (unseenFault? lexemes seen).getD (goal.wording message)

/-- Each token is met by less than so many phrases inside one another. -/
def phrasesPerToken : Nat := 40

/-- The expression that a source holds, or the reason why it holds none. -/
def readSource (goal : Goal) (source : Source) : Except String Expression :=
  let lexemes := source.lexemes
  let parser := goal.parser (readPhrase (phrasesPerToken * (lexemes.size + 1)))
  match parser source {} with
  | .error stop => .error (stopReason goal lexemes stop)
  | .ok (some found, _) => .ok found
  | .ok (none, first) =>
    match parser source { seen := first.seen, guessing := true } with
    | .error stop => .error (stopReason goal lexemes stop)
    | .ok (_, second) =>
      if lexemes[first.seen - 1]?.map Lexeme.token = some .indent then .error "unexpected indent"
      else .error ((unseenFault? lexemes second.seen).getD (goal.wording "invalid syntax"))

/-- Reads a text that starts on the given line, with templates in it at most so deep. -/
def readText : Nat → Goal → Nat → List Char → Except String Expression
  | 0, _, _, _ => .error "f-string: expressions nested too deeply"
  | depth + 1, goal, line, text =>
    readSource goal
      { lexemes := (lexemes line text).toArray
        templateFault? := fun line quotation ↦
          quotation.templateFault? line fun line inside ↦
            match readText depth .part line inside with
            | .ok _ => none
            | .error message => some message }

/-- Every end of a line as one character. -/
def plainLineEnds : List Char → List Char
  | '\r' :: '\n' :: rest => '\n' :: plainLineEnds rest
  | '\r' :: rest => '\n' :: plainLineEnds rest
  | c :: rest => c :: plainLineEnds rest
  | [] => []

/-- Why parameters cannot be used. -/
inductive Misfit where
  /-- The text makes no sense. -/
  | unread (reason : String)
  /-- What it says is no plain value. -/
  | unfit (reason : String)

/-- Makes sure that a text is a plain value. -/
def checkText (text : List Char) : Except Misfit Unit :=
  if text.contains '\x00' then .error (.unfit "source code string cannot contain null bytes")
  else
    match readText (text.length + 1) .parameters 1 (plainLineEnds text) with
    | .error reason => .error (.unread reason)
    | .ok value =>
      match value.check with
      | .error reason => .error (.unfit reason)
      | .ok () => .ok ()

end StateSketch.Terminal.Parameter
