import StateSketch.Terminal.Parameter.Parser

/-!
# The grammar of tag parameters

Each rule tries its forms in order.  The forms marked as guesses never find anything: they stop the
reading with a message that says what was probably meant, and are tried only once it is known that
the text makes no sense.  The rules call one another through `read`, which reads a phrase.
-/

namespace StateSketch.Terminal.Parameter

open StateSketch.Terminal.Parameter.Parser

namespace Grammar

/-! ## Messages -/

def commaGuess : String := "invalid syntax. Perhaps you forgot a comma?"

def equalsGuess : String := "invalid syntax. Maybe you meant '==' or ':=' instead of '='?"

def unparenthesized : String := "Generator expression must be parenthesized"

def noValue : String := "expression expected after dictionary key and ':'"

def starredValue : String := "cannot use a starred expression in a dictionary value"

def forgottenBrackets : String := "did you forget parentheses around the comprehension target?"

def afterNamedTable : String := "arguments cannot follow var-keyword argument"

variable (read : Phrase → Parser Expression)

/-! ## Rows of expressions -/

def expression : Parser Expression := read .expression

/-- Operands with signs for numbers between them. -/
def operation : Parser Expression := read (.operation 0)

/-- Items of a row without brackets; a single item without a comma is no row. -/
def row (item : Parser Expression) : Parser Expression := do
  let first ← item
  match ← optional (several (do sign ","; item)) with
  | some others =>
    discard <| optional (sign ",")
    return .tuple (first :: others)
  | none =>
    match ← optional (sign ",") with
    | some () => return .tuple [first]
    | none => return first

def expressions : Parser Expression := row (expression read)

def starExpressions : Parser Expression := row (read .listed)

def starred (operand : Parser Expression) : Parser Expression := do
  sign "*"
  return .starred (← operand)

/-- An item of `starExpressions`. -/
def listedForm : Parser Expression :=
  starred (operation read) <|> expression read

/-- A name that gets a value within an expression. -/
def assignment : Parser Expression := do
  discard name
  sign ":="
  discard <| expression read
  return .other "named expression"

/-- An expression that is not given a value. -/
def unassigned : Parser Expression := do
  let found ← expression read
  notFollowedBy (sign ":=")
  return found

def namedExpression : Parser Expression :=
  assignment read <|> guess (read .misassigned) <|> unassigned read

def starNamedExpression : Parser Expression :=
  starred (operation read) <|> namedExpression read

def starNamedExpressions : Parser (List Expression) := do
  let items ← commaSeparated (starNamedExpression read)
  discard <| optional (sign ",")
  return items

def yielding : Parser Expression :=
  (do
    word "yield"
    word "from"
    discard <| expression read
    return .other "yield expression") <|>
  (do
    word "yield"
    discard <| optional (starExpressions read)
    return .other "yield expression")

/-! ## Parameters of unnamed functions -/

/-- The end of a parameter. -/
def parameterEnd : Parser Unit :=
  sign "," <|> followedBy (sign ":")

def defaultValue : Parser Unit :=
  (do
    sign "="
    discard <| expression read) <|>
  guess do
    sign "="
    followedBy (sign ")" <|> sign ",")
    refuse "expected default value expression"

def plainParameter : Parser Unit := do
  discard name
  parameterEnd

def defaultParameter : Parser Unit := do
  discard name
  defaultValue read
  parameterEnd

def anyParameter : Parser Unit := do
  discard name
  discard <| optional (defaultValue read)
  parameterEnd

/-- Parameters up to a slash. -/
def plainSlash : Parser Unit := do
  discard <| several plainParameter
  sign "/"
  parameterEnd

def defaultSlash : Parser Unit := do
  discard <| many plainParameter
  discard <| several (defaultParameter read)
  sign "/"
  parameterEnd

def anySlash : Parser Unit :=
  plainSlash <|> defaultSlash read

/-- A parameter that takes all further named arguments. -/
def namedTable : Parser Unit :=
  guess (do
    sign "**"
    discard name
    sign "="
    refuse "var-keyword argument cannot have default value") <|>
  guess (do
    sign "**"
    discard name
    sign ","
    discard name <|> discard (signIn ["*", "**", "/"])
    refuse afterNamedTable) <|>
  do
    sign "**"
    plainParameter

/-- What was meant by a star among parameters. -/
def misusedStar : Parser Unit :=
  (do
    sign "*"
    sign ":" <|> (do sign ","; sign ":" <|> sign "**")
    refuse "named arguments must follow bare *") <|>
  (do
    sign "*"
    discard name
    sign "="
    refuse "var-positional argument cannot have default value") <|>
  do
    sign "*"
    plainParameter <|> sign ","
    discard <| many (anyParameter read)
    sign "*"
    plainParameter <|> sign ","
    refuse "* argument may appear only once"

/-- The parameters from a star on. -/
def starParameters : Parser Unit :=
  guess (misusedStar read) <|>
  (do
    sign "*"
    plainParameter
    discard <| many (anyParameter read)
    discard <| optional namedTable) <|>
  (do
    sign "*"
    sign ","
    discard <| several (anyParameter read)
    discard <| optional namedTable) <|>
  namedTable

def orderedParameters : Parser Unit :=
  (do
    plainSlash
    discard <| many plainParameter
    discard <| many (defaultParameter read)
    discard <| optional (starParameters read)) <|>
  (do
    defaultSlash read
    discard <| many (defaultParameter read)
    discard <| optional (starParameters read)) <|>
  (do
    discard <| several plainParameter
    discard <| many (defaultParameter read)
    discard <| optional (starParameters read)) <|>
  (do
    discard <| several (defaultParameter read)
    discard <| optional (starParameters read)) <|>
  starParameters read

/-- What was meant by parameters in an impossible order. -/
def misorderedParameters : Parser Unit :=
  (do
    discard <| many plainParameter
    defaultSlash read <|> discard (several (defaultParameter read))
    plainParameter
    refuse "non-default argument follows default argument") <|>
  (do
    discard <| many plainParameter
    sign "("
    discard <| commaSeparated name
    discard <| optional (sign ",")
    sign ")"
    refuse "Lambda expression parameters cannot be parenthesized") <|>
  (do
    sign "/"
    sign ","
    refuse "at least one argument must precede /") <|>
  (do
    anySlash read
    discard <| many (anyParameter read)
    sign "/"
    refuse "/ may appear only once") <|>
  (do
    discard <| optional (anySlash read)
    discard <| many (anyParameter read)
    sign "*"
    sign "," <|> plainParameter
    discard <| many (anyParameter read)
    sign "/"
    refuse "/ must be ahead of *") <|>
  do
    discard <| several (anyParameter read)
    sign "/"
    sign "*"
    refuse "expected comma between / and *"

/-- An unnamed function. -/
def function : Parser Expression := do
  word "lambda"
  discard <| optional (guess (misorderedParameters read) <|> orderedParameters read)
  sign ":"
  discard <| expression read
  return .other "lambda"

/-! ## Expressions -/

/-- A name before a quoted text, or a word that is only sometimes reserved, or a beginning of one:
no missing comma is guessed behind it. -/
def guardedStart : Parser Unit := do
  let letters ← name
  if ["_", "case", "match"].any (letters.toList.isPrefixOf ·.toList) then return
  match (← next).token with
  | .quoted _ => return
  | _ => fail

def conditional : Parser Expression := do
  discard <| read .disjunction
  word "if"
  discard <| read .disjunction
  word "else"
  discard <| expression read
  return .other "conditional expression"

/-- An expression without guesses at its own level. -/
def plainExpression : Parser Expression :=
  conditional read <|> read .disjunction <|> function read

/-- Two expressions in a row inside of brackets. -/
def missingComma : Parser (Option Expression) := do
  notFollowedBy guardedStart
  let first ← read .disjunction
  discard <| withoutGuesses (plainExpression read)
  if first.isLegacy || (← depth) = 0 then return none
  refuse commaGuess

def missingElse : Parser Expression := do
  discard <| read .disjunction
  word "if"
  discard <| read .disjunction
  notFollowedBy (word "else" <|> sign ":")
  refuse "expected 'else' after 'if' expression"

/-- What was meant by an expression that does not go on as it should. -/
def misexpressed : Parser Expression := do
  match ← optional (missingComma read) with
  | some _ => fail
  | none => missingElse read

/-- A statement of former times. -/
def legacyStatement : Parser Expression := do
  let letters ← name
  notFollowedBy (sign "(")
  discard <| starExpressions read
  if !(Expression.name letters).isLegacy then fail
  refuse s!"Missing parentheses in call to '{letters}'. Did you mean {letters}(...)?"

def expressionForm : Parser Expression :=
  guess (misexpressed read) <|> guess (legacyStatement read) <|> plainExpression read

def notAssigned : Parser Unit :=
  notFollowedBy (sign "=" <|> sign ":=")

/-! ## Brackets -/

def tuple : Parser Expression := do
  sign "("
  let items ← optional do
    let first ← starNamedExpression read
    sign ","
    let others ← optional (starNamedExpressions read)
    return first :: others.getD []
  sign ")"
  return .tuple (items.getD [])

/-- What a loop runs over, the variables in front of it included. -/
def clause : Parser Unit := do
  let start ← optional do
    discard <| optional (word "async")
    word "for"
    discard <| targets
    word "in"
  match start with
  | some () =>
    discard <| read .disjunction
    discard <| many (do word "if"; read .disjunction)
  | none => guess do
    discard <| optional (word "async")
    word "for"
    match (← starExpressions read).unassignable? with
    | some part => refuse ("cannot assign to " ++ part.title)
    | none => fail
where
  targets : Parser Unit := do
    discard <| commaSeparated (read .target)
    discard <| optional (sign ",")

def clauses : Parser Unit :=
  discard <| several (clause read)

/-- What was meant by a comprehension that makes no sense. -/
def miscomprehended : Parser Expression :=
  (do
    discard <| signIn ["(", "\x7b"]
    discard <| starred (expression read)
    clauses read
    refuse "iterable unpacking cannot be used in comprehension") <|>
  (do
    sign "\x7b"
    discard <| starNamedExpression read
    sign ","
    discard <| starNamedExpressions read
    clauses read
    refuse forgottenBrackets) <|>
  do
    sign "\x7b"
    discard <| starNamedExpression read
    sign ","
    clauses read
    refuse forgottenBrackets

def generator : Parser Expression :=
  (do
    sign "("
    discard <| assignment read <|> unassigned read
    clauses read
    sign ")"
    return .other "generator expression") <|>
  guess (miscomprehended read)

def group : Parser Expression :=
  (do
    sign "("
    let inside ← yielding read <|> namedExpression read
    sign ")"
    return inside) <|>
  guess (do
    sign "("
    discard <| starred (expression read)
    sign ")"
    refuse "cannot use starred expression here") <|>
  guess do
    sign "("
    sign "**"
    discard <| expression read
    sign ")"
    refuse "cannot use double starred expression here"

/-! ## Tables and sets -/

def entry : Parser (Option Expression × Expression) := do
  let key ← expression read
  sign ":"
  return (some key, ← expression read)

def anyEntry : Parser (Option Expression × Expression) :=
  (do
    sign "**"
    return (none, ← operation read)) <|>
  entry read

/-- What was meant by an entry whose value does not fit. -/
def misvalued : Parser Unit :=
  (do
    discard <| expression read
    sign ":"
    sign "*"
    discard <| operation read
    refuse starredValue) <|>
  do
    discard <| expression read
    sign ":"
    followedBy (sign "\x7d" <|> sign ",")
    refuse noValue

/-- What was meant by entries of which one does not fit. -/
def misentered : Parser Unit :=
  (do
    discard <| commaSeparated (anyEntry read)
    sign ","
    (do
      discard <| expression read
      notFollowedBy (sign ":")
      refuse "':' expected after dictionary key") <|>
    misvalued read) <|>
  misvalued read

def record : Parser Expression :=
  (do
    sign "\x7b"
    let entries ← optional do
      let entries ← commaSeparated (anyEntry read)
      discard <| optional (sign ",")
      return entries
    sign "\x7d"
    return .record (entries.getD [])) <|>
  do
    sign "\x7b"
    misentered read
    sign "\x7d"
    fail

def set : Parser Expression := do
  sign "\x7b"
  let items ← starNamedExpressions read
  sign "\x7d"
  return .set items

def recordComprehension : Parser Expression :=
  (do
    sign "\x7b"
    discard <| entry read
    clauses read
    sign "\x7d"
    return .other "dict comprehension") <|>
  guess do
    sign "\x7b"
    sign "**"
    discard <| operation read
    clauses read
    sign "\x7d"
    refuse "dict unpacking cannot be used in dict comprehension"

def setComprehension : Parser Expression :=
  (do
    sign "\x7b"
    discard <| namedExpression read
    clauses read
    sign "\x7d"
    return .other "set comprehension") <|>
  guess (miscomprehended read)

/-! ## Calls -/

/-- What was meant by a value for something that is no name. -/
def misnamedArgument : Parser (Bool × Bool) :=
  (do
    let letters ← constantWord
    sign "="
    refuse ("cannot assign to " ++ letters)) <|>
  (do
    discard name
    sign "="
    discard <| expression read
    clauses read
    refuse equalsGuess) <|>
  do
    notFollowedBy (do discard name; sign "=")
    discard <| expression read
    sign "="
    refuse "expression cannot contain assignment, perhaps you meant \"==\"?"
where
  constantWord : Parser String :=
    (do word "True"; return "True") <|> (do word "False"; return "False") <|>
      (do word "None"; return "None")

def namedArgument : Parser (Bool × Bool) := do
  discard name
  sign "="
  discard <| expression read
  return (false, false)

/-- A named argument or a starred one, which has no name; the second part says whether the argument
is a table of more arguments. -/
def namedOrStarred : Parser (Bool × Bool) :=
  guess (misnamedArgument read) <|> namedArgument read <|>
    (do
      discard <| starred (expression read)
      return (true, false))

def namedOrTable : Parser (Bool × Bool) :=
  guess (misnamedArgument read) <|> namedArgument read <|>
    (do
      sign "**"
      discard <| expression read
      return (false, true))

def namedArguments : Parser (List (Bool × Bool)) :=
  (do
    let first ← commaSeparated (namedOrStarred read)
    sign ","
    return first ++ (← commaSeparated (namedOrTable read))) <|>
  commaSeparated (namedOrStarred read) <|>
  commaSeparated (namedOrTable read)

def unnamedArgument : Parser Unit :=
  (discard <| starred (expression read)) <|>
  do
    discard <| assignment read <|> unassigned read
    notFollowedBy (sign "=")

def argumentRow : Parser Expression :=
  (do
    let unnamed ← commaSeparated (unnamedArgument read)
    let named ← optional do
      sign ","
      namedArguments read
    return collect unnamed.length (named.getD [])) <|>
  do return collect 0 (← namedArguments read)
where
  collect (unnamed : Nat) (named : List (Bool × Bool)) : Expression :=
    .arguments (unnamed + named.countP (·.1)) (named.any (·.2))

/-- A generator without brackets among other arguments; nothing is wrong with a single one. -/
def loneGenerator : Parser Unit := do
  let given ← argumentRow read
  clauses read
  match given with
  | .arguments unnamed _ => if unnamed ≤ 1 then return
  | _ => return
  refuse unparenthesized

/-- What was meant by arguments that do not fit. -/
def misargued : Parser Expression := do
  match ← optional earlier with
  | some found => return found
  | none =>
    match ← optional (loneGenerator read) with
    | some () => fail
    | none => later
where
  earlier : Parser Expression :=
    (do
      discard <| argumentRow read
      sign ","
      sign "*"
      refuse "iterable argument unpacking follows keyword argument unpacking") <|>
    (do
      discard <| expression read
      clauses read
      sign ","
      discard <| optional (discard (argumentRow read) <|> (do
        discard <| expression read
        clauses read))
      refuse unparenthesized) <|>
    do
      discard name
      sign "="
      discard <| expression read
      clauses read
      refuse equalsGuess
  later : Parser Expression :=
    (do
      discard <| argumentRow read
      sign ","
      discard <| expression read
      clauses read
      refuse unparenthesized) <|>
    do
      let given ← argumentRow read
      sign ","
      discard <| argumentRow read
      match given with
      | .arguments _ true => refuse "positional argument follows keyword argument unpacking"
      | _ => refuse "positional argument follows keyword argument"

def argumentsForm : Parser Expression :=
  (do
    let given ← argumentRow read
    discard <| optional (sign ",")
    followedBy (sign ")")
    return given) <|>
  guess (misargued read)

/-! ## Operands -/

/-- Quoted texts that follow one another are one text. -/
def quotationsForm : Parser Expression := do
  let lexemes ← several quotedLexeme
  let source ← source
  match lexemes with
  | [] => fail
  | first :: _ =>
    let mode := bytesOf first
    for lexeme in lexemes do
      if let .quoted quotation := lexeme.token then
        if !quotation.template then
          if let some message := quotation.fault? then refuse message
        if quotation.bytes ≠ mode then refuse "cannot mix bytes and nonbytes literals"
        if quotation.template then
          if let some message := source.templateFault? lexeme.line quotation then refuse message
    if lexemes.any isTemplate then return .other "f-string expression"
    return .constant "literal"
where
  quotedLexeme : Parser Lexeme := do
    let lexeme ← next
    match lexeme.token with
    | .quoted _ =>
      skip
      return lexeme
    | _ => fail
  bytesOf (lexeme : Lexeme) : Bool :=
    match lexeme.token with
    | .quoted quotation => quotation.bytes
    | _ => false
  isTemplate (lexeme : Lexeme) : Bool :=
    match lexeme.token with
    | .quoted quotation => quotation.template
    | _ => false

/-- A number, a text, a name or something in brackets. -/
def atom : Parser Expression := do
  match (← next).token with
  | .word letters =>
    if letters ∈ ["True", "False", "None"] then
      skip
      return .constant letters
    else return .name (← name)
  | .quoted _ => read .quotations
  | .number numeral =>
    if let some message := numeral.fault? then refuse message
    skip
    return .number numeral
  | .mark "(" => tuple read <|> group read <|> generator read
  | .mark "\x7b" => record read <|> set read <|> recordComprehension read <|> setComprehension read
  | .mark "..." =>
    skip
    return .constant "ellipsis"
  | _ => fail

/-- A call of what has been read. -/
def callOf (callee : Expression) : Parser Expression :=
  (do
    discard <| generator read
    return .other "function call") <|>
  do
    sign "("
    let given ← optional (read .arguments)
    sign ")"
    return callee.call given

def memberOf : Parser Expression := do
  sign "."
  discard name
  return .member

def primaryForm : Parser Expression := do
  grow (fun left ↦ memberOf <|> callOf read left) (← atom read)

def awaitedForm : Parser Expression :=
  (do
    word "await"
    discard <| read .primary
    return .other "await expression") <|>
  read .primary

def power : Parser Expression := do
  let base ← read .awaited
  match ← optional (do sign "**"; read .factor) with
  | some _ => return .other "expression"
  | none => return base

def factorForm : Parser Expression :=
  (do
    discard <| signIn ["+", "-"]
    return .signed (← read .factor)) <|>
  (do
    sign "~"
    discard <| read .factor
    return .other "expression") <|>
  power read

/-- The signs between operands; those of a later row bind more tightly. -/
def operators : List (List String) :=
  [["|"], ["^"], ["&"], ["<<", ">>"], ["+", "-"], ["*", "/", "//", "%", "@"]]

def operationForm (rank : Nat) : Parser Expression :=
  match operators[rank]? with
  | none => read .factor
  | some signs => do
    let operand := read (.operation (rank + 1))
    grow (fun left ↦ do
      let sign ← signIn signs
      return .joined sign left (← operand)) (← operand)

/-- A sign or word of comparison and what it compares with. -/
def compared : Parser Bool :=
  (do
    discard <| signIn ["==", "!=", "<=", "<", ">=", ">"]
    discard <| operation read
    return false) <|>
  (do
    word "not"
    word "in"
    discard <| operation read
    return false) <|>
  (do
    word "in"
    discard <| operation read
    return true) <|>
  (do
    word "is"
    word "not"
    discard <| operation read
    return false) <|>
  do
    word "is"
    discard <| operation read
    return false

def comparison : Parser Expression := do
  let left ← operation read
  match ← many (compared read) with
  | [] => return left
  | within :: _ => return .comparison within left

def inversionForm : Parser Expression :=
  (do
    word "not"
    discard <| read .inversion
    return .other "expression") <|>
  comparison read

/-- Operands with one word between them. -/
def worded (letters : String) (operand : Parser Expression) : Parser Expression := do
  let first ← operand
  match ← many (do word letters; operand) with
  | [] => return first
  | _ => return .other "expression"

/-! ## What a loop assigns to -/

def lookahead : Parser Unit :=
  followedBy (signIn ["(", "."])

def targetBaseForm : Parser Expression := do
  let first ← atom read
  lookahead
  grow (fun left ↦
    (do
      let found ← memberOf
      lookahead
      return found) <|>
    (do
      discard <| generator read
      lookahead
      return .other "function call") <|>
    (do
      sign "("
      let given ← optional (read .arguments)
      sign ")"
      lookahead
      return left.call given)) first

def bareTargetForm : Parser Expression :=
  (do
    discard <| read .targetBase
    sign "."
    discard name
    notFollowedBy lookahead
    return .member) <|>
  (do return .name (← name)) <|>
  (do
    sign "("
    let inside ← read .bareTarget
    sign ")"
    return inside) <|>
  do
    sign "("
    let items ← optional do
      let first ← read .target
      match ← optional (several (do sign ","; read .target)) with
      | some others =>
        discard <| optional (sign ",")
        return first :: others
      | none =>
        sign ","
        return [first]
    sign ")"
    return .tuple (items.getD [])

def targetForm : Parser Expression :=
  (do
    sign "*"
    notFollowedBy (sign "*")
    return .starred (← read .target)) <|>
  read .bareTarget

/-- What was meant by a value for something that cannot have one. -/
def misassignedForm : Parser Expression :=
  (do
    let given ← expression read
    sign ":="
    discard <| expression read
    refuse ("cannot use assignment expressions with " ++ given.title)) <|>
  (do
    discard name
    sign "="
    discard <| operation read
    notAssigned
    refuse equalsGuess) <|>
  do
    notFollowedBy (discard (tuple read) <|> discard (generator read) <|> word "True" <|>
      word "None" <|> word "False")
    let given ← operation read
    sign "="
    discard <| operation read
    notAssigned
    refuse ("cannot assign to " ++ given.title ++ " here. Maybe you meant '==' instead of '='?")

/-! ## Phrases -/

/-- The forms of a phrase. -/
def form : Phrase → Parser Expression
  | .expression => expressionForm read
  | .listed => listedForm read
  | .disjunction => worded "or" (read .conjunction)
  | .conjunction => worded "and" (read .inversion)
  | .inversion => inversionForm read
  | .operation rank => operationForm read rank
  | .factor => factorForm read
  | .awaited => awaitedForm read
  | .primary => primaryForm read
  | .quotations => quotationsForm
  | .arguments => argumentsForm read
  | .target => targetForm read
  | .bareTarget => bareTargetForm read
  | .targetBase => targetBaseForm read
  | .misassigned => misassignedForm read

end Grammar

/-- Reads a phrase with at most so many phrases inside one another. -/
def readPhrase : Nat → Phrase → Parser Expression
  | 0, _ => fail
  | limit + 1, phrase => once phrase (Grammar.form (readPhrase limit) phrase)

end StateSketch.Terminal.Parameter
