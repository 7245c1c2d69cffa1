import StateSketch.Proofs.Wiring.Grammar
import StateSketch.Sketch.Text

/-!
# Syntax trees of sketches

Every part of a sketch has its tokens and its syntax tree.  The tokens are read as the tree,
whatever follows them.
-/

namespace StateSketch

open Wiring

/-! ## Guards and tests -/

namespace Guard

def tokens : Guard → List Token
  | .reads sensor level =>
    [.name "digitalRead", .mark .openParen, .name sensor, .mark .closeParen, .operator .equal,
      .name level.word]
  | .both left right =>
    [.mark .openParen] ++ left.tokens ++ [.operator .and] ++ right.tokens ++ [.mark .closeParen]
  | .either left right =>
    [.mark .openParen] ++ left.tokens ++ [.operator .or] ++ right.tokens ++ [.mark .closeParen]

def expression : Guard → Expression
  | .reads sensor level =>
    .binary .equal (.call "digitalRead" [.name sensor]) (.atom (.name level.word))
  | .both left right => .binary .and left.expression right.expression
  | .either left right => .binary .or left.expression right.expression

theorem length_tokens_pos (condition : Guard) : 0 < condition.tokens.length := by
  cases condition <;> simp [tokens]

end Guard

namespace Test

/-- The time since the last transition. -/
def sinceTime : Expression :=
  .binary .minus (.call "millis" []) (.atom (.name "time"))

def sinceTimeTokens : List Token :=
  [.name "millis", .mark .openParen, .mark .closeParen, .operator .minus, .name "time"]

def tokens : Test → List Token
  | .settled condition => condition.tokens ++ [.operator .and, .name "guard"]
  | .elapsed milliseconds => sinceTimeTokens ++ [.operator .greater, .number milliseconds]

def expression : Test → Expression
  | .settled condition => .binary .and condition.expression (.atom (.name "guard"))
  | .elapsed milliseconds => .binary .greater sinceTime (.atom (.number milliseconds))

end Test

namespace Wiring

@[simp]
theorem operations_mark (level : Nat) (left : Expression) (sign : Mark) (rest : List Token) :
    operations level left (.mark sign :: rest) = some (left, .mark sign :: rest) := by
  rw [operations]
  simp

theorem operations_loose {level : Nat} {sign : Operator} (hlevel : sign.level < level)
    (left : Expression) (rest : List Token) :
    operations level left (.operator sign :: rest) = some (left, .operator sign :: rest) := by
  rw [operations]
  simp [Nat.not_le.2 hlevel]

theorem operations_tight {level : Nat} {sign : Operator} (hlevel : level ≤ sign.level)
    {left right : Expression} {rest after : List Token}
    (hright : expression (sign.level + 1) rest = some (right, after))
    (hless : after.length < rest.length) :
    operations level left (.operator sign :: rest) =
      operations level (.binary sign left right) after := by
  rw [operations, if_pos hlevel, hright]
  exact goOn_of_lt hless _

theorem expression_of_primary {level : Nat} {tokens rest : List Token} {left : Expression}
    (hprimary : primary tokens = some (left, rest)) (hless : rest.length < tokens.length) :
    expression level tokens = operations level left rest := by
  rw [expression, hprimary]
  exact goOn_of_lt hless _

theorem primary_paren {inner : Expression} {tokens rest : List Token}
    (hinner : expression 0 tokens = some (inner, .mark .closeParen :: rest)) :
    primary (.mark .openParen :: tokens) = some (inner, rest) := by
  rw [primary]
  simp [hinner, expect]

theorem primary_number (value : Nat) (rest : List Token) :
    primary (.number value :: rest) = some (.atom (.number value), rest) := by
  rw [primary]

theorem primary_call (function : String) (rest : List Token) :
    primary (.name function :: .mark .openParen :: .mark .closeParen :: rest) =
      some (.call function [], rest) := by
  rw [primary]
  rfl

theorem primary_call_name (function name : String) (rest : List Token) :
    primary (.name function :: .mark .openParen :: .name name :: .mark .closeParen :: rest) =
      some (.call function [.name name], rest) := by
  rw [primary]
  rfl

theorem primary_name (text : String) {rest : List Token}
    (hrest : rest.head? ≠ some (.mark .openParen)) :
    primary (.name text :: rest) = some (.atom (.name text), rest) := by
  rw [primary]
  rintro more rfl
  exact hrest rfl

/-- Two operands in parentheses, the second of which binds more tightly than the operator. -/
theorem primary_pair {sign : Operator} {before after rest : List Token} {left right : Expression}
    (hafter : 0 < after.length)
    (hleft : expression 0 (before ++ .operator sign :: (after ++ .mark .closeParen :: rest)) =
      operations 0 left (.operator sign :: (after ++ .mark .closeParen :: rest)))
    (hright : expression (sign.level + 1) (after ++ .mark .closeParen :: rest) =
      operations (sign.level + 1) right (.mark .closeParen :: rest)) :
    primary ([.mark .openParen] ++ before ++ [.operator sign] ++ after ++ [.mark .closeParen] ++
      rest) = some (.binary sign left right, rest) := by
  have hsecond : expression (sign.level + 1) (after ++ .mark .closeParen :: rest) =
      some (right, .mark .closeParen :: rest) := by
    rw [hright, operations_mark]
  have hinner : expression 0 (before ++ .operator sign :: (after ++ .mark .closeParen :: rest)) =
      some (.binary sign left right, .mark .closeParen :: rest) := by
    rw [hleft, operations_tight (Nat.zero_le _) hsecond (by simpa using hafter), operations_mark]
  simpa using primary_paren hinner

theorem expression_guard (condition : Guard) {level : Nat} {rest : List Token} (hlevel : level ≤ 3)
    (hparen : rest.head? ≠ some (.mark .openParen))
    (hrest : ∀ left, operations 4 left rest = some (left, rest)) :
    expression level (condition.tokens ++ rest) = operations level condition.expression rest := by
  induction condition generalizing level rest with
  | reads sensor word =>
    have hword : expression (Operator.equal.level + 1) (.name word.word :: rest) =
        some (.atom (.name word.word), rest) := by
      rw [expression_of_primary (primary_name _ hparen) (by simp)]
      exact hrest _
    calc
      _ = operations level (.call "digitalRead" [.name sensor])
          (.operator .equal :: .name word.word :: rest) :=
        expression_of_primary (primary_call_name _ _ _) (by simp)
      _ = operations level (Guard.reads sensor word).expression rest :=
        operations_tight hlevel hword (by simp)
  | both left right ihleft ihright =>
    exact expression_of_primary (primary_pair right.length_tokens_pos
      (ihleft (by decide) (by simp) fun _ ↦ operations_loose (by decide) _ _)
      (ihright (by decide) (by simp) fun _ ↦ operations_mark _ _ _ _))
      (by simp [Guard.length_tokens_pos])
  | either left right ihleft ihright =>
    exact expression_of_primary (primary_pair right.length_tokens_pos
      (ihleft (by decide) (by simp) fun _ ↦ operations_loose (by decide) _ _)
      (ihright (by decide) (by simp) fun _ ↦ operations_mark _ _ _ _))
      (by simp [Guard.length_tokens_pos])

theorem expression_name {level : Nat} (text : String) {sign : Mark} (hsign : sign ≠ .openParen)
    (rest : List Token) :
    expression level (.name text :: .mark sign :: rest) =
      some (.atom (.name text), .mark sign :: rest) := by
  rw [expression_of_primary (primary_name _ (by simpa using hsign)) (by simp), operations_mark]

theorem expression_number {level : Nat} (value : Nat) (sign : Mark) (rest : List Token) :
    expression level (.number value :: .mark sign :: rest) =
      some (.atom (.number value), .mark sign :: rest) := by
  rw [expression_of_primary (primary_number _ _) (by simp), operations_mark]

/-- Whether more time has passed than a bound. -/
theorem expression_later {bound : Token} {value : Expression} {sign : Mark} {rest : List Token}
    (hbound : expression 5 (bound :: .mark sign :: rest) = some (value, .mark sign :: rest)) :
    expression 0 (Test.sinceTimeTokens ++ .operator .greater :: bound :: .mark sign :: rest) =
      some (.binary .greater Test.sinceTime value, .mark sign :: rest) := by
  have htime : expression (Operator.minus.level + 1)
      (.name "time" :: .operator .greater :: bound :: .mark sign :: rest) =
        some (.atom (.name "time"), .operator .greater :: bound :: .mark sign :: rest) := by
    rw [expression_of_primary (primary_name _ (by simp)) (by simp), operations_loose (by decide)]
  calc
    _ = operations 0 (.call "millis" [])
        (.operator .minus :: .name "time" :: .operator .greater :: bound :: .mark sign :: rest) :=
      expression_of_primary (primary_call _ _) (by simp)
    _ = operations 0 Test.sinceTime (.operator .greater :: bound :: .mark sign :: rest) :=
      operations_tight (Nat.zero_le _) htime (by simp)
    _ = operations 0 (.binary .greater Test.sinceTime value) (.mark sign :: rest) :=
      operations_tight (Nat.zero_le _) hbound (by simp)
    _ = _ := operations_mark _ _ _ _

theorem expression_test (test : Test) (rest : List Token) :
    expression 0 (test.tokens ++ .mark .closeParen :: rest) =
      some (test.expression, .mark .closeParen :: rest) := by
  cases test with
  | settled condition =>
    calc
      _ = expression 0 (condition.tokens ++
          .operator .and :: .name "guard" :: .mark .closeParen :: rest) := by
        simp [Test.tokens]
      _ = operations 0 condition.expression
          (.operator .and :: .name "guard" :: .mark .closeParen :: rest) :=
        expression_guard condition (by decide) (by simp) fun _ ↦ operations_loose (by decide) _ _
      _ = operations 0 (Test.settled condition).expression (.mark .closeParen :: rest) :=
        operations_tight (Nat.zero_le _) (expression_name _ (by decide) _) (by simp)
      _ = _ := operations_mark _ _ _ _
  | elapsed milliseconds =>
    exact expression_later (expression_number milliseconds .closeParen rest)

end Wiring

/-! ## Statements -/

namespace Step

/-- A call of a function; the arguments come with the parenthesis that ends them. -/
def callTokens (function : String) (arguments : List Token) : List Token :=
  [Token.name function, .mark .openParen] ++ arguments ++ [Token.mark .semicolon]

def tokens : Step → List Token
  | .configure pin mode =>
    callTokens "pinMode" [.name pin, .mark .comma, .name mode.word, .mark .closeParen]
  | .write pin level =>
    callTokens "digitalWrite" [.name pin, .mark .comma, .name level.word, .mark .closeParen]
  | .sampleGuard =>
    [.keyword (.type .boolean), .name "guard", .mark .assign] ++
      (Test.sinceTimeTokens ++ [.operator .greater, .name "debounce"]) ++ [.mark .semicolon]
  | .restartClock =>
    [.name "time", .mark .assign] ++ [.name "millis", .mark .openParen, .mark .closeParen] ++
      [.mark .semicolon]
  | .call function => callTokens function [.mark .closeParen]
  | .blink count => callTokens blinkHelper [.number count, .mark .closeParen]

/-- The step in front of other statements. -/
def block (next : Block) : Step → Block
  | .configure pin mode => .call "pinMode" [.name pin, .name mode.word] next
  | .write pin level => .call "digitalWrite" [.name pin, .name level.word] next
  | .sampleGuard =>
    .declare .boolean "guard" (.binary .greater Test.sinceTime (.atom (.name "debounce"))) next
  | .restartClock => .assign "time" (.call "millis" []) next
  | .call function => .call function [] next
  | .blink count => .call blinkHelper [.number count] next

end Step

def stepTokens (steps : List Step) : List Token :=
  steps.flatMap (·.tokens)

def stepsBlock (steps : List Step) (next : Block) : Block :=
  steps.foldr (fun step next ↦ step.block next) next

namespace Wiring

/-- Reads tokens as what puts statements in front of those that follow. -/
def ReadsAs (tokens : List Token) (before : Block → Block) : Prop :=
  ∀ rest, block (tokens ++ rest) = (block rest).map fun (next, rest) ↦ (before next, rest)

theorem readsAs_nil : ReadsAs [] id := by
  intro rest
  simp

theorem ReadsAs.append {first second : List Token} {outer inner : Block → Block}
    (hfirst : ReadsAs first outer) (hsecond : ReadsAs second inner) :
    ReadsAs (first ++ second) (outer ∘ inner) := by
  intro rest
  rw [List.append_assoc, hfirst, hsecond, Option.map_map]
  rfl

/-- Statements up to the brace that ends them. -/
theorem ReadsAs.close {tokens : List Token} {before : Block → Block}
    (hreads : ReadsAs tokens before) (rest : List Token) :
    block (tokens ++ .mark .closeBrace :: rest) = some (before .done, rest) := by
  rw [hreads, block]
  rfl

theorem readsAs_call (function : String) {tokens : List Token} {atoms : List Atom}
    (harguments : ∀ rest, arguments (tokens ++ rest) = some (atoms, rest)) :
    ReadsAs (Step.callTokens function tokens) (.call function atoms) := by
  intro rest
  have harguments := harguments (.mark .semicolon :: rest)
  calc
    _ = block (.name function :: .mark .openParen :: (tokens ++ .mark .semicolon :: rest)) := by
      simp [Step.callTokens]
    _ = _ := by
      rw [block, harguments]
      simp only [expect, Option.bind_eq_bind, Option.bind_some, if_true, goOn_append_cons]
      cases block rest <;> rfl

theorem readsAs_assign (name : String) {tokens : List Token} {value : Expression}
    (hvalue : ∀ rest, expression 0 (tokens ++ .mark .semicolon :: rest) =
      some (value, .mark .semicolon :: rest)) :
    ReadsAs ([.name name, .mark .assign] ++ tokens ++ [.mark .semicolon]) (.assign name value) := by
  intro rest
  calc
    _ = block (.name name :: .mark .assign :: (tokens ++ .mark .semicolon :: rest)) := by simp
    _ = _ := by
      rw [block, hvalue]
      simp only [expect, Option.bind_eq_bind, Option.bind_some, if_true, goOn_append_cons]
      cases block rest <;> rfl

theorem readsAs_declare (type : BaseType) (name : String) {tokens : List Token}
    {value : Expression}
    (hvalue : ∀ rest, expression 0 (tokens ++ .mark .semicolon :: rest) =
      some (value, .mark .semicolon :: rest)) :
    ReadsAs ([.keyword (.type type), .name name, .mark .assign] ++ tokens ++ [.mark .semicolon])
      (.declare type name value) := by
  intro rest
  calc
    _ = block (.keyword (.type type) :: .name name :: .mark .assign ::
        (tokens ++ .mark .semicolon :: rest)) := by simp
    _ = _ := by
      rw [block, hvalue]
      simp only [expect, Option.bind_eq_bind, Option.bind_some, if_true, goOn_append_cons]
      cases block rest <;> rfl

theorem readsAs_step (step : Step) : ReadsAs step.tokens fun next ↦ step.block next := by
  cases step with
  | configure pin mode => exact readsAs_call "pinMode" fun _ ↦ rfl
  | write pin level => exact readsAs_call "digitalWrite" fun _ ↦ rfl
  | sampleGuard =>
    refine readsAs_declare .boolean "guard" fun rest ↦ ?_
    exact expression_later (expression_name "debounce" (by decide) rest)
  | restartClock =>
    refine readsAs_assign "time" fun rest ↦ ?_
    exact (expression_of_primary (primary_call _ _) (by simp)).trans (operations_mark _ _ _ _)
  | call function => exact readsAs_call function fun _ ↦ rfl
  | blink count => exact readsAs_call blinkHelper fun _ ↦ rfl

theorem readsAs_steps (steps : List Step) : ReadsAs (stepTokens steps) (stepsBlock steps) := by
  induction steps with
  | nil => exact readsAs_nil
  | cons step rest ih => exact (readsAs_step step).append ih

end Wiring

/-! ## Chains of branches -/

/-- A branch without the brace that ends it, which stands at the front of what follows. -/
def Branch.tokens (branch : Branch) : List Token :=
  [Token.keyword .ifWord, .mark .openParen] ++ branch.test.tokens ++
    [Token.mark .closeParen, .mark .openBrace] ++ stepTokens branch.body

/-- The branches after the first one, and the last steps. -/
def elseTokens (branches : List Branch) (otherwise : List Step) : List Token :=
  branches.flatMap (fun branch ↦ [Token.mark .closeBrace, .keyword .elseWord] ++ branch.tokens) ++
    [Token.mark .closeBrace, .keyword .elseWord, .mark .openBrace] ++ stepTokens otherwise ++
    [Token.mark .closeBrace]

def elseBlock (otherwise : List Step) : List Branch → Block
  | [] => stepsBlock otherwise .done
  | branch :: rest =>
    .branch branch.test.expression (stepsBlock branch.body .done) (elseBlock otherwise rest) .done

namespace Statement

def tokens : Statement → List Token
  | .step single => single.tokens
  | .choose first rest otherwise => first.tokens ++ elseTokens rest otherwise

def block (next : Block) : Statement → Block
  | .step single => single.block next
  | .choose first rest otherwise =>
    .branch first.test.expression (stepsBlock first.body .done) (elseBlock otherwise rest) next

end Statement

namespace Wiring

/-- A branch, once what follows its brace has been read. -/
theorem conditional_branch {branch : Branch} {tokens rest : List Token} {no : Block}
    (hno : alternative tokens = some (no, rest)) :
    conditional (branch.test.tokens ++ [.mark .closeParen, .mark .openBrace] ++
      stepTokens branch.body ++ .mark .closeBrace :: tokens) =
        some (branch.test.expression, stepsBlock branch.body .done, no, rest) := by
  have htest := expression_test branch.test
    (.mark .openBrace :: (stepTokens branch.body ++ .mark .closeBrace :: tokens))
  have hbody := (readsAs_steps branch.body).close tokens
  calc
    _ = conditional (branch.test.tokens ++ .mark .closeParen :: .mark .openBrace ::
        (stepTokens branch.body ++ .mark .closeBrace :: tokens)) := by simp
    _ = _ := by
      rw [conditional, htest]
      simp only [expect, Option.bind_eq_bind, Option.bind_some, if_true]
      rw [goOn_of_lt (by simp; omega), hbody]
      simp only [Option.bind_some]
      rw [goOn_of_lt (by simp; omega), hno]
      rfl

theorem alternative_elseTokens (branches : List Branch) (otherwise : List Step)
    (rest : List Token) :
    ∃ tokens, elseTokens branches otherwise ++ rest = .mark .closeBrace :: tokens ∧
      alternative tokens = some (elseBlock otherwise branches, rest) := by
  induction branches with
  | nil =>
    refine ⟨.keyword .elseWord :: .mark .openBrace ::
      (stepTokens otherwise ++ .mark .closeBrace :: rest), by simp [elseTokens], ?_⟩
    rw [alternative, (readsAs_steps otherwise).close rest, elseBlock]
  | cons branch branches ih =>
    obtain ⟨tokens, htokens, halternative⟩ := ih
    refine ⟨.keyword .elseWord :: .keyword .ifWord :: .mark .openParen ::
      (branch.test.tokens ++ [.mark .closeParen, .mark .openBrace] ++ stepTokens branch.body ++
        .mark .closeBrace :: tokens), ?_, ?_⟩
    · rw [← htokens]
      simp [elseTokens, Branch.tokens]
    · rw [alternative, conditional_branch halternative]
      rfl

theorem readsAs_statement (statement : Statement) :
    ReadsAs statement.tokens fun next ↦ statement.block next := by
  cases statement with
  | step single => exact readsAs_step single
  | choose first branches otherwise =>
    intro rest
    obtain ⟨tokens, htokens, halternative⟩ := alternative_elseTokens branches otherwise rest
    calc
      _ = block (.keyword .ifWord :: .mark .openParen :: (first.test.tokens ++
          [.mark .closeParen, .mark .openBrace] ++ stepTokens first.body ++
            .mark .closeBrace :: tokens)) := by
        rw [← htokens]
        simp [Statement.tokens, Branch.tokens]
      _ = _ := by
        have hlength := congrArg List.length htokens
        rw [block, conditional_branch halternative]
        simp only [Option.bind_eq_bind, Option.bind_some]
        rw [goOn_of_lt (by simp [elseTokens] at hlength ⊢; omega)]
        cases block rest <;> rfl

end Wiring

/-! ## Items -/

def bodyTokens (body : List Statement) : List Token :=
  body.flatMap (·.tokens)

def bodyBlock (body : List Statement) (next : Block) : Block :=
  body.foldr (fun statement next ↦ statement.block next) next

namespace Wiring

theorem readsAs_body (body : List Statement) : ReadsAs (bodyTokens body) (bodyBlock body) := by
  induction body with
  | nil => exact readsAs_nil
  | cons statement rest ih => exact (readsAs_statement statement).append ih

/-- A function, given the tokens of its parameters and its statements. -/
def functionTokens (name : String) (parameters body : List Token) : List Token :=
  [Token.keyword .void, .name name, .mark .openParen] ++ parameters ++ [Token.mark .openBrace] ++
    body ++ [Token.mark .closeBrace]

/-- A loop that counts up to a bound. -/
def loopTokens (counter bound : String) (start : Nat) (body : List Token) : List Token :=
  [Token.keyword .forWord, .mark .openParen, .keyword (.type .int), .name counter, .mark .assign,
    .number start, .mark .semicolon, .name counter, .operator .less, .name bound, .mark .semicolon,
    .name counter, .mark .increment, .mark .closeParen, .mark .openBrace] ++ body ++
    [Token.mark .closeBrace]

theorem readsAs_loop (counter bound : String) (start : Nat) {body : List Token}
    {inside : Block → Block} (hbody : ReadsAs body inside) :
    ReadsAs (loopTokens counter bound start body)
      (.loop counter (.atom (.number start))
        (.binary .less (.atom (.name counter)) (.atom (.name bound))) (inside .done)) := by
  intro rest
  have hbody := hbody.close rest
  generalize hafter : (.mark .semicolon :: .name counter :: .mark .increment :: .mark .closeParen ::
    .mark .openBrace :: (body ++ .mark .closeBrace :: rest) : List Token) = after
  have htest : expression 0 (.name counter :: .operator .less :: .name bound :: after) =
      some (.binary .less (.atom (.name counter)) (.atom (.name bound)), after) := by
    subst hafter
    rw [expression_of_primary (primary_name _ (by simp)) (by simp),
      operations_tight (Nat.zero_le _) (expression_name _ (by decide) _) (by simp)]
    exact operations_mark _ _ _ _
  calc
    _ = block (.keyword .forWord :: .mark .openParen :: .keyword (.type .int) :: .name counter ::
        .mark .assign :: .number start :: .mark .semicolon :: .name counter :: .operator .less ::
          .name bound :: after) := by
      simp [loopTokens, ← hafter]
    _ = _ := by
      rw [block, expression_number]
      simp only [expect, Option.bind_eq_bind, Option.bind_some, if_true, htest]
      simp only [← hafter, expect, Option.bind_some, if_true]
      rw [goOn_of_lt (by simp [← hafter]; omega), hbody]
      simp only [Option.bind_some]
      rw [goOn_of_lt (by simp [← hafter]; omega)]
      cases block rest <;> rfl

def delayTokens (milliseconds : Nat) : List Token :=
  Step.callTokens "delay" [.number milliseconds, .mark .closeParen]

def pulseTokens (level : Level) : List Token :=
  (Step.write faultPinName level).tokens ++ delayTokens blinkPulse

def pulseBlock (level : Level) (next : Block) : Block :=
  (Step.write faultPinName level).block (.call "delay" [.number blinkPulse] next)

def blinkTokens : List Token :=
  loopTokens "i" "errorCode" 0 (pulseTokens .high ++ pulseTokens .low) ++ delayTokens blinkPause

/-- What the function that blinks the fault indicator does. -/
def blinkBlock (next : Block) : Block :=
  .loop "i" (.atom (.number 0)) (.binary .less (.atom (.name "i")) (.atom (.name "errorCode")))
    (pulseBlock .high (pulseBlock .low .done)) (.call "delay" [.number blinkPause] next)

theorem readsAs_pulse (level : Level) : ReadsAs (pulseTokens level) (pulseBlock level) :=
  (readsAs_step _).append (readsAs_call "delay" fun _ ↦ rfl)

theorem readsAs_blink : ReadsAs blinkTokens blinkBlock :=
  (readsAs_loop "i" "errorCode" 0 ((readsAs_pulse .high).append (readsAs_pulse .low))).append
    (readsAs_call "delay" fun _ ↦ rfl)

/-- Reads tokens as items in front of others. -/
def ReadsItems (tokens : List Token) (before : List Item) : Prop :=
  ∀ rest, items (tokens ++ rest) = (items rest).map (before ++ ·)

theorem readsItems_nil : ReadsItems [] [] := by
  intro rest
  simp

theorem ReadsItems.append {first second : List Token} {before after : List Item}
    (hfirst : ReadsItems first before) (hsecond : ReadsItems second after) :
    ReadsItems (first ++ second) (before ++ after) := by
  intro rest
  rw [List.append_assoc, hfirst, hsecond, Option.map_map]
  congr 1
  funext others
  simp

theorem ReadsItems.flatMap {α : Type} {tokens : α → List Token} {item : α → Item} {parts : List α}
    (hparts : ∀ part, ReadsItems (tokens part) [item part]) :
    ReadsItems (parts.flatMap tokens) (parts.map item) := by
  induction parts with
  | nil => exact readsItems_nil
  | cons part rest ih => exact (hparts part).append ih

theorem readsItems_define (name : String) (value : Nat) :
    ReadsItems [.define name value] [.define name value] := by
  intro rest
  rw [List.singleton_append, items]
  cases items rest <;> rfl

def variableTokens (type : BaseType) (name : String) (value : Nat) : List Token :=
  [.keyword (.type type), .name name, .mark .assign, .number value, .mark .semicolon]

theorem readsItems_variable (type : BaseType) (name : String) (value : Nat) :
    ReadsItems (variableTokens type name value) [.variable type name value] := by
  intro rest
  simp only [variableTokens, List.cons_append, List.nil_append]
  rw [items]
  cases items rest <;> rfl

theorem readsItems_function (name : String) {names : List String} {list body : List Token}
    {before : Block → Block} (hlist : ∀ rest, parameters (list ++ rest) = some (names, rest))
    (hbody : ReadsAs body before) :
    ReadsItems (functionTokens name list body) [.function name names (before .done)] := by
  intro rest
  have hlist := hlist (.mark .openBrace :: (body ++ .mark .closeBrace :: rest))
  calc
    _ = items (.keyword .void :: .name name :: .mark .openParen ::
        (list ++ .mark .openBrace :: (body ++ .mark .closeBrace :: rest))) := by
      simp [functionTokens]
    _ = _ := by
      rw [items, hlist]
      simp only [expect, Option.bind_eq_bind, Option.bind_some, if_true, hbody.close]
      rw [goOn_of_lt (by simp; omega)]
      cases items rest <;> rfl

end Wiring

/-! ## Sketches -/

namespace PinDeclaration

def tokens (declaration : PinDeclaration) : List Token :=
  variableTokens .int declaration.pin declaration.port

def item (declaration : PinDeclaration) : Item :=
  .variable .int declaration.pin declaration.port

end PinDeclaration

namespace Function

def tokens (function : Function) : List Token :=
  functionTokens function.name [.mark .closeParen] (bodyTokens function.body)

def item (function : Function) : Item :=
  .function function.name [] (bodyBlock function.body .done)

end Function

def helperTokens (blinks : Bool) : List Token :=
  if blinks then
    functionTokens blinkHelper [.keyword (.type .int), .name "errorCode", .mark .closeParen]
      blinkTokens
  else []

def helperItems (blinks : Bool) : List Item :=
  if blinks then [.function blinkHelper ["errorCode"] (blinkBlock .done)] else []

theorem readsItems_helper (blinks : Bool) :
    ReadsItems (helperTokens blinks) (helperItems blinks) := by
  cases blinks with
  | false => exact readsItems_nil
  | true => exact readsItems_function blinkHelper (fun _ ↦ rfl) readsAs_blink

namespace Sketch

def tokens (sketch : Sketch) : List Token :=
  variableTokens .long "time" 0 ++ variableTokens .long "debounce" sketch.debounce ++
    sketch.faultPin.toList.flatMap (fun pin ↦ [.define faultPinName pin]) ++
    sketch.pins.flatMap (·.tokens) ++
    functionTokens "setup" [.mark .closeParen] (stepTokens sketch.setup) ++
    sketch.functions.flatMap (·.tokens) ++ helperTokens sketch.blinks ++
    functionTokens "loop" [.mark .closeParen] (stepTokens [.call sketch.entry])

def items (sketch : Sketch) : List Item :=
  [Item.variable .long "time" 0] ++ [Item.variable .long "debounce" sketch.debounce] ++
    sketch.faultPin.toList.map (Item.define faultPinName) ++ sketch.pins.map (·.item) ++
    [Item.function "setup" [] (stepsBlock sketch.setup .done)] ++ sketch.functions.map (·.item) ++
    helperItems sketch.blinks ++ [Item.function "loop" [] (stepsBlock [.call sketch.entry] .done)]

/-- Parts of the items, kind by kind. -/
theorem filterMap_items {β : Type} (part : Item → Option β) (sketch : Sketch) :
    sketch.items.filterMap part =
      [Item.variable .long "time" 0].filterMap part ++
        [Item.variable .long "debounce" sketch.debounce].filterMap part ++
        sketch.faultPin.toList.filterMap (fun pin ↦ part (.define faultPinName pin)) ++
        sketch.pins.filterMap (fun declaration ↦ part declaration.item) ++
        [Item.function "setup" [] (stepsBlock sketch.setup .done)].filterMap part ++
        sketch.functions.filterMap (fun function ↦ part function.item) ++
        (helperItems sketch.blinks).filterMap part ++
        [Item.function "loop" [] (stepsBlock [.call sketch.entry] .done)].filterMap part := by
  simp only [items, List.filterMap_append, List.filterMap_map]
  rfl

theorem items_tokens (sketch : Sketch) : Wiring.items sketch.tokens = some sketch.items := by
  have hnone : ∀ rest, parameters ([.mark .closeParen] ++ rest) = some ([], rest) := fun _ ↦ rfl
  have htime := readsItems_variable .long "time" 0
  have hdebounce := readsItems_variable .long "debounce" sketch.debounce
  have hdefine : ReadsItems (sketch.faultPin.toList.flatMap fun pin ↦ [.define faultPinName pin])
      (sketch.faultPin.toList.map (.define faultPinName)) :=
    .flatMap fun pin ↦ readsItems_define faultPinName pin
  have hpins : ReadsItems (sketch.pins.flatMap (·.tokens)) (sketch.pins.map (·.item)) :=
    .flatMap fun declaration ↦ readsItems_variable .int declaration.pin declaration.port
  have hsetup := readsItems_function "setup" hnone (readsAs_steps sketch.setup)
  have hfunctions : ReadsItems (sketch.functions.flatMap (·.tokens))
      (sketch.functions.map (·.item)) :=
    .flatMap fun function ↦ readsItems_function function.name hnone (readsAs_body function.body)
  have hloop := readsItems_function "loop" hnone (readsAs_steps [.call sketch.entry])
  have hall := ((((((htime.append hdebounce).append hdefine).append hpins).append hsetup).append
    hfunctions).append (readsItems_helper sketch.blinks)).append hloop
  have hend := hall []
  rw [Wiring.items] at hend
  simpa [tokens, items] using hend

end Sketch

end StateSketch
