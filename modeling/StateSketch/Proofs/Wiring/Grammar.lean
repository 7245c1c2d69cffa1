import StateSketch.Proofs.Wiring.Token

/-!
# The grammar of sketches

The part of the language that sketches are written in: constants, variables that start with a
number, and functions of calls, assignments, declarations, chains of conditions and counting loops.
Each reader takes what it reads off the front of the tokens.
-/

namespace StateSketch.Wiring

inductive Atom where
  | number (value : Nat)
  | name (text : String)
deriving DecidableEq

inductive Expression where
  | atom (value : Atom)
  | call (function : String) (arguments : List Atom)
  | binary (sign : Operator) (left right : Expression)
deriving DecidableEq

/-- A row of statements; each one but the end holds what follows it. -/
inductive Block where
  | done
  | call (function : String) (arguments : List Atom) (next : Block)
  | assign (name : String) (value : Expression) (next : Block)
  | declare (type : BaseType) (name : String) (value : Expression) (next : Block)
  | branch (test : Expression) (yes no next : Block)
  /-- Counts up from a start as long as the test is true. -/
  | loop (counter : String) (start test : Expression) (body next : Block)
deriving DecidableEq

inductive Item where
  | define (name : String) (value : Nat)
  | variable (type : BaseType) (name : String) (value : Nat)
  | function (name : String) (parameters : List String) (body : Block)
deriving DecidableEq

/-- How tightly an operator binds. -/
def Operator.level : Operator → Nat
  | .or => 1
  | .and => 2
  | .equal => 3
  | .less => 4
  | .greater => 4
  | .minus => 5

/-! ## Readers -/

/-- Takes the given tokens off the front. -/
def expect : List Token → List Token → Option (List Token)
  | [], rest => some rest
  | token :: expected, first :: rest => if first = token then expect expected rest else none
  | _ :: _, [] => none

def Token.atom? : Token → Option Atom
  | .name text => some (.name text)
  | .number value => some (.number value)
  | _ => none

/-- At least one argument, with the parenthesis that ends the last one. -/
def someArguments : List Token → Option (List Atom × List Token)
  | token :: .mark .closeParen :: rest => do return ([← token.atom?], rest)
  | token :: .mark .comma :: rest => do
    let atom ← token.atom?
    let (atoms, rest) ← someArguments rest
    return (atom :: atoms, rest)
  | _ => none

def arguments : List Token → Option (List Atom × List Token)
  | .mark .closeParen :: rest => some ([], rest)
  | tokens => someArguments tokens

/-- Goes on with the tokens that are left, of which there have to be fewer than before. -/
def goOn {α : Type} (tokens rest : List Token) (next : rest.length < tokens.length → Option α) :
    Option α :=
  if hless : rest.length < tokens.length then next hless else none

theorem goOn_of_lt {α : Type} {tokens rest : List Token} (hless : rest.length < tokens.length)
    (next : rest.length < tokens.length → Option α) : goOn tokens rest next = next hless :=
  dif_pos hless

theorem goOn_append_cons {α : Type} (first rest : List Token) (token : Token)
    (next : rest.length < (first ++ token :: rest).length → Option α) :
    goOn (first ++ token :: rest) rest next = next (by simp; omega) :=
  goOn_of_lt _ next

mutual

/-- An expression whose operators outside of parentheses bind at least as tightly as `level`. -/
def expression (level : Nat) (tokens : List Token) : Option (Expression × List Token) := do
  let (left, rest) ← primary tokens
  goOn tokens rest fun _ ↦ operations level left rest
termination_by (tokens.length, 1)

/-- The operators after a left operand; operators of one level are applied from left to right. -/
def operations (level : Nat) (left : Expression) (tokens : List Token) :
    Option (Expression × List Token) :=
  match tokens with
  | .operator sign :: rest =>
    if level ≤ sign.level then do
      let (right, after) ← expression (sign.level + 1) rest
      goOn rest after fun _ ↦ operations level (.binary sign left right) after
    else some (left, .operator sign :: rest)
  | tokens => some (left, tokens)
termination_by (tokens.length, 0)

def primary (tokens : List Token) : Option (Expression × List Token) :=
  match tokens with
  | .mark .openParen :: rest => do
    let (inner, rest) ← expression 0 rest
    let rest ← expect [.mark .closeParen] rest
    some (inner, rest)
  | .number value :: rest => some (.atom (.number value), rest)
  | .name function :: .mark .openParen :: rest => do
    let (atoms, rest) ← arguments rest
    some (.call function atoms, rest)
  | .name text :: rest => some (.atom (.name text), rest)
  | _ => none
termination_by (tokens.length, 0)

end

mutual

/-- Statements up to the brace that ends them. -/
def block (tokens : List Token) : Option (Block × List Token) :=
  match tokens with
  | .mark .closeBrace :: rest => some (.done, rest)
  | .name function :: .mark .openParen :: tail => do
    let (atoms, rest) ← arguments tail
    let rest ← expect [.mark .semicolon] rest
    let (next, rest) ← goOn tail rest fun _ ↦ block rest
    some (.call function atoms next, rest)
  | .name name :: .mark .assign :: tail => do
    let (value, rest) ← expression 0 tail
    let rest ← expect [.mark .semicolon] rest
    let (next, rest) ← goOn tail rest fun _ ↦ block rest
    some (.assign name value next, rest)
  | .keyword (.type type) :: .name name :: .mark .assign :: tail => do
    let (value, rest) ← expression 0 tail
    let rest ← expect [.mark .semicolon] rest
    let (next, rest) ← goOn tail rest fun _ ↦ block rest
    some (.declare type name value next, rest)
  | .keyword .ifWord :: .mark .openParen :: tail => do
    let (test, yes, no, rest) ← conditional tail
    let (next, rest) ← goOn tail rest fun _ ↦ block rest
    some (.branch test yes no next, rest)
  | .keyword .forWord :: .mark .openParen :: .keyword (.type .int) :: .name counter ::
      .mark .assign :: tail => do
    let (start, rest) ← expression 0 tail
    let rest ← expect [.mark .semicolon] rest
    let (test, rest) ← expression 0 rest
    let rest ← expect [.mark .semicolon, .name counter, .mark .increment, .mark .closeParen,
      .mark .openBrace] rest
    let (body, rest) ← goOn tail rest fun _ ↦ block rest
    let (next, rest) ← goOn tail rest fun _ ↦ block rest
    some (.loop counter start test body next, rest)
  | _ => none
termination_by tokens.length

/-- A condition and what it chooses from. -/
def conditional (tokens : List Token) : Option (Expression × Block × Block × List Token) := do
  let (test, rest) ← expression 0 tokens
  let rest ← expect [.mark .closeParen, .mark .openBrace] rest
  let (yes, rest) ← goOn tokens rest fun _ ↦ block rest
  let (no, rest) ← goOn tokens rest fun _ ↦ alternative rest
  some (test, yes, no, rest)
termination_by tokens.length

def alternative (tokens : List Token) : Option (Block × List Token) :=
  match tokens with
  | .keyword .elseWord :: .keyword .ifWord :: .mark .openParen :: rest => do
    let (test, yes, no, rest) ← conditional rest
    some (.branch test yes no .done, rest)
  | .keyword .elseWord :: .mark .openBrace :: rest => block rest
  | tokens => some (.done, tokens)
termination_by tokens.length

end

/-- The parameters of a function, of which there is one at most. -/
def parameters : List Token → Option (List String × List Token)
  | .mark .closeParen :: rest => some ([], rest)
  | .keyword (.type .int) :: .name name :: .mark .closeParen :: rest => some ([name], rest)
  | _ => none

def items (tokens : List Token) : Option (List Item) :=
  match tokens with
  | [] => some []
  | .define name value :: rest => do
    let others ← items rest
    some (.define name value :: others)
  | .keyword (.type type) :: .name name :: .mark .assign :: .number value :: .mark .semicolon ::
      rest => do
    let others ← items rest
    some (.variable type name value :: others)
  | .keyword .void :: .name name :: .mark .openParen :: tail => do
    let (names, rest) ← parameters tail
    let rest ← expect [.mark .openBrace] rest
    let (body, rest) ← block rest
    let others ← goOn tail rest fun _ ↦ items rest
    some (.function name names body :: others)
  | _ => none
termination_by tokens.length

/-- The tokens of some lines. -/
def lineTokens (lines : List (List Char)) : List Token :=
  lines.flatMap fun line ↦ directive (tokens (String.ofList line))

/-- Reads a sketch, whose first line is a comment. -/
def read (text : String) : Option (List Item) :=
  items (lineTokens (text.toList.splitOn '\n').tail)

end StateSketch.Wiring
