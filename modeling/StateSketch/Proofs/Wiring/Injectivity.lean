import StateSketch.Proofs.Closure
import StateSketch.Proofs.Wiring.Condition

/-!
# Sketches told apart by their texts

Two sketches with the same text are the same, provided that both can be read.  Reading gives their
items, so it is enough that every part of a sketch can be told from its syntax tree and every
section from the row of items.
-/

namespace StateSketch

open Wiring

/-! ## Statements -/

/-- Statements put in front of one another are told from the whole if each one is told from what it
makes of the statements behind it. -/
theorem Wiring.Block.foldr_inj {α : Type} {put : α → Block → Block}
    (hput : ∀ {part other : α} {next after : Block},
      put part next = put other after → part = other ∧ next = after)
    (hdone : ∀ part next, put part next ≠ .done) {first second : List α}
    (heq : first.foldr put .done = second.foldr put .done) : first = second := by
  induction first generalizing second with
  | nil =>
    cases second with
    | nil => rfl
    | cons part rest => exact absurd heq.symm (hdone part _)
  | cons part rest ih =>
    cases second with
    | nil => exact absurd heq (hdone part _)
    | cons other others =>
      obtain ⟨hpart, hrest⟩ := hput heq
      rw [hpart, ih hrest]

theorem PinMode.word_injective : Function.Injective word := by
  intro first second heq
  cases first <;> cases second <;> first | rfl | simp [word] at heq

theorem Test.expression_injective : Function.Injective expression := by
  intro first second heq
  cases first with
  | settled condition =>
    cases second with
    | settled other =>
      simp only [expression, Expression.binary.injEq, true_and, and_true] at heq
      rw [Guard.expression_injective heq]
    | elapsed => simp [expression] at heq
  | elapsed milliseconds =>
    cases second with
    | settled => simp [expression] at heq
    | elapsed other =>
      simp only [expression, Expression.binary.injEq, Expression.atom.injEq, Atom.number.injEq,
        true_and] at heq
      rw [heq]

namespace Step

/-- The calls of a step differ in their functions or in the number of their arguments. -/
theorem block_inj {first second : Step} {next after : Block}
    (heq : first.block next = second.block after) : first = second ∧ next = after := by
  cases first <;> cases second <;>
    simp_all [block, blinkHelper, Level.word_injective.eq_iff, PinMode.word_injective.eq_iff]

theorem block_ne_done (step : Step) (next : Block) : step.block next ≠ .done := by
  cases step <;> simp [block]

theorem block_ne_branch (step : Step) (next : Block) (test : Expression) (yes no rest : Block) :
    step.block next ≠ .branch test yes no rest := by
  cases step <;> simp [block]

end Step

theorem stepsBlock_inj {first second : List Step}
    (heq : stepsBlock first .done = stepsBlock second .done) : first = second :=
  Block.foldr_inj Step.block_inj Step.block_ne_done heq

theorem stepsBlock_ne_branch (steps : List Step) (test : Expression) (yes no rest : Block) :
    stepsBlock steps .done ≠ .branch test yes no rest := by
  cases steps with
  | nil => exact Block.noConfusion
  | cons step steps => exact step.block_ne_branch _ _ _ _ _

/-- A chain ends with the last steps, which are no branch. -/
theorem elseBlock_inj {first second : List Branch} {otherwise last : List Step}
    (heq : elseBlock otherwise first = elseBlock last second) :
    otherwise = last ∧ first = second := by
  induction first generalizing second with
  | nil =>
    cases second with
    | nil => exact ⟨stepsBlock_inj heq, rfl⟩
    | cons branch rest => exact absurd heq (stepsBlock_ne_branch _ _ _ _ _)
  | cons branch rest ih =>
    cases second with
    | nil => exact absurd heq.symm (stepsBlock_ne_branch _ _ _ _ _)
    | cons other others =>
      obtain ⟨htest, hbody, hrest, -⟩ := Block.branch.inj heq
      obtain ⟨hlast, hothers⟩ := ih hrest
      have hbranch : branch = other := by
        cases branch
        cases other
        rw [Branch.mk.injEq]
        exact ⟨Test.expression_injective htest, stepsBlock_inj hbody⟩
      rw [hbranch, hothers]
      exact ⟨hlast, rfl⟩

theorem Statement.block_inj {first second : Statement} {next after : Block}
    (heq : first.block next = second.block after) : first = second ∧ next = after := by
  cases first with
  | step single =>
    cases second with
    | step other =>
      obtain ⟨hstep, hnext⟩ := Step.block_inj heq
      rw [hstep]
      exact ⟨rfl, hnext⟩
    | choose => exact absurd heq (single.block_ne_branch _ _ _ _ _)
  | choose branch rest otherwise =>
    cases second with
    | step other => exact absurd heq.symm (other.block_ne_branch _ _ _ _ _)
    | choose other others last =>
      obtain ⟨htest, hbody, hrest, hnext⟩ := Block.branch.inj heq
      -- The first branch stands in front of the others as in a chain.
      have hchain : elseBlock otherwise (branch :: rest) = elseBlock last (other :: others) := by
        rw [elseBlock, elseBlock, htest, hbody, hrest]
      obtain ⟨hlast, hbranches⟩ := elseBlock_inj hchain
      obtain ⟨hbranch, hothers⟩ := List.cons.inj hbranches
      rw [hbranch, hothers, hlast]
      exact ⟨rfl, hnext⟩

theorem Statement.block_ne_done (statement : Statement) (next : Block) :
    statement.block next ≠ .done := by
  cases statement with
  | step single => exact single.block_ne_done next
  | choose => exact Block.noConfusion

theorem bodyBlock_inj {first second : List Statement}
    (heq : bodyBlock first .done = bodyBlock second .done) : first = second :=
  Block.foldr_inj Statement.block_inj Statement.block_ne_done heq

/-! ## Sections -/

namespace Wiring.Item

/-- A function without parameters. -/
def procedure? : Item → Option (String × Block)
  | .function name [] body => some (name, body)
  | _ => none

/-- The name of a function with parameters. -/
def helper? : Item → Option String
  | .function name (_ :: _) _ => some name
  | _ => none

end Wiring.Item

namespace Function

/-- The name of a function and its syntax tree. -/
def procedure (function : Function) : String × Block :=
  (function.name, bodyBlock function.body .done)

theorem procedure_injective : Function.Injective procedure := by
  rintro ⟨name, body⟩ ⟨other, statements⟩ heq
  obtain ⟨hname, hbody⟩ := Prod.mk.inj heq
  rw [mk.injEq]
  exact ⟨hname, bodyBlock_inj hbody⟩

end Function

namespace Sketch

theorem procedure_items (sketch : Sketch) :
    sketch.items.filterMap (·.procedure?) =
      ("setup", stepsBlock sketch.setup .done) :: sketch.functions.map (·.procedure) ++
        [("loop", stepsBlock [.call sketch.entry] .done)] := by
  have hhelper : (helperItems sketch.blinks).filterMap (·.procedure?) = [] := by
    cases sketch.blinks <;> rfl
  rw [filterMap_items, hhelper]
  simp [Item.procedure?, PinDeclaration.item, Function.item, Function.procedure]

theorem helper_items (sketch : Sketch) :
    sketch.items.filterMap (·.helper?) = if sketch.blinks then [blinkHelper] else [] := by
  have hhelper : (helperItems sketch.blinks).filterMap (·.helper?) =
      if sketch.blinks then [blinkHelper] else [] := by
    cases sketch.blinks <;> rfl
  rw [filterMap_items, hhelper]
  simp [Item.helper?, PinDeclaration.item, Function.item]

variable {first second : Sketch}

theorem debounce_eq_of_items_eq (heq : first.items = second.items) :
    first.debounce = second.debounce := by
  have hglobals := congrArg (List.filterMap (·.global?)) heq
  rw [global_items, global_items] at hglobals
  simp only [List.cons.injEq, Prod.mk.injEq, true_and, Int.natCast_inj] at hglobals
  exact hglobals.1

theorem faultPin_eq_of_items_eq (heq : first.items = second.items) :
    first.faultPin = second.faultPin := by
  have hconstants := congrArg (List.filterMap (·.constant?)) heq
  rw [constant_items, constant_items] at hconstants
  have hinjective : Function.Injective fun pin : Nat ↦ (faultPinName, (pin : Int)) := by
    intro pin other hpair
    exact Int.ofNat.inj (Prod.mk.inj hpair).2
  have hpins := hinjective.list_map hconstants
  cases hfirst : first.faultPin <;> cases hsecond : second.faultPin <;>
    simp_all [Option.toList]

theorem pins_eq_of_items_eq (heq : first.items = second.items) : first.pins = second.pins := by
  have hpins := congrArg (List.filterMap (·.pin?)) heq
  rw [pin_items, pin_items] at hpins
  have hinjective : Function.Injective
      fun declaration : PinDeclaration ↦ (declaration.pin, (declaration.port : Int)) := by
    rintro ⟨pin, port⟩ ⟨other, number⟩ hpair
    obtain ⟨hpin, hport⟩ := Prod.mk.inj hpair
    rw [PinDeclaration.mk.injEq]
    exact ⟨hpin, Int.ofNat.inj hport⟩
  exact hinjective.list_map hpins

theorem functions_eq_of_items_eq (heq : first.items = second.items) :
    first.setup = second.setup ∧ first.functions = second.functions ∧
      first.entry = second.entry := by
  have hprocedures := congrArg (List.filterMap (·.procedure?)) heq
  rw [procedure_items, procedure_items, List.cons_append, List.cons_append] at hprocedures
  obtain ⟨hsetup, hrest⟩ := List.cons.inj hprocedures
  obtain ⟨hfunctions, hloop⟩ := List.append_inj' hrest rfl
  have hentry : [Step.call first.entry] = [.call second.entry] :=
    stepsBlock_inj (Prod.mk.inj (List.cons.inj hloop).1).2
  refine ⟨stepsBlock_inj (Prod.mk.inj hsetup).2,
    Function.procedure_injective.list_map hfunctions, ?_⟩
  simpa using hentry

theorem blinks_eq_of_items_eq (heq : first.items = second.items) :
    first.blinks = second.blinks := by
  have hhelpers := congrArg (List.filterMap (·.helper?)) heq
  rw [helper_items, helper_items] at hhelpers
  cases hfirst : first.blinks <;> cases hsecond : second.blinks <;> simp_all

/-- Nothing but the title is missing in the items of a sketch. -/
theorem eq_of_items_eq (htitle : first.title = second.title)
    (heq : first.items = second.items) : first = second := by
  obtain ⟨hsetup, hfunctions, hentry⟩ := functions_eq_of_items_eq heq
  have hdebounce := debounce_eq_of_items_eq heq
  have hfaultPin := faultPin_eq_of_items_eq heq
  have hpins := pins_eq_of_items_eq heq
  have hblinks := blinks_eq_of_items_eq heq
  cases first
  cases second
  rw [mk.injEq]
  exact ⟨htitle, hdebounce, hfaultPin, hpins, hsetup, hfunctions, hblinks, hentry⟩

/-! ## Texts -/

theorem Legible.lines_eq_of_text_eq (hfirst : first.Legible) (hsecond : second.Legible)
    (htext : first.text = second.text) : first.lines = second.lines := by
  have hlines : (first.lines ++ [""]).map String.toList =
      (second.lines ++ [""]).map String.toList := by
    rw [← hfirst.splitOn_text, ← hsecond.splitOn_text, htext]
  have hinjective : Function.Injective String.toList := fun _ _ ↦ String.toList_injective
  exact List.append_cancel_right (hinjective.list_map hlines)

theorem Legible.title_eq_of_text_eq (hfirst : first.Legible) (hsecond : second.Legible)
    (htext : first.text = second.text) : first.title = second.title := by
  have hlines := hfirst.lines_eq_of_text_eq hsecond htext
  rw [lines_eq, lines_eq] at hlines
  exact (String.append_right_inj _).1 (List.cons.inj hlines).1

/-- A sketch that can be read is told apart by its text. -/
theorem Legible.eq_of_text_eq (hfirst : first.Legible) (hsecond : second.Legible)
    (htext : first.text = second.text) : first = second := by
  have hitems : some first.items = some second.items := by
    rw [← hfirst.read_text, ← hsecond.read_text, htext]
  exact eq_of_items_eq (hfirst.title_eq_of_text_eq hsecond htext) (Option.some.inj hitems)

end Sketch

end StateSketch
