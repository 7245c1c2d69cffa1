import StateSketch.Proofs.Contexts
import StateSketch.Session.Blocks

/-!
# Refused calls

A call that is refused leaves all blocks and all programs as they were; only the last line of the
program that it was about may be a later one.  There is one exception, for calls that declare a
resource.  If the name and the port of the resource are both taken, the conflict over the name is
recorded before the conflict over the port is told; if the port has too many digits for that, the
resource is refused halfway.
-/

namespace StateSketch

/-! ## Programs -/

/-- Only the last line of a program may have changed, to a later one. -/
structure Program.Intact (before after : Program) : Prop where
  same : after = { before with endLine := after.endLine }
  line_le : ∀ line, before.endLine = some line →
    ∃ later, after.endLine = some later ∧ line ≤ later

/-- Apart from its last line, a program has changed by the conflict over the name of a resource
whose port is taken as well but cannot be told. -/
structure Program.HalfDeclared (before : Program) (resource : Resource) (after : Program) :
    Prop where
  name_taken : before.registry.contains resource.name = true
  port_taken : (before.registry.ownerOfPort? resource.port).isSome = true
  port_wide : Text.isTooWide resource.port = true
  intact :
    let conflict := (Problem.resourceNameUsed resource.name).report resource.origin
    let registry :=
      { before.registry with conflicts := before.registry.conflicts ++ [conflict] }
    Intact { before with registry := registry } after

/-- What a call that is refused leaves of a program, given the resource that the call declares, if
it declares one. -/
def Program.Spared (fault : Fault) (declared : Option Resource) (before after : Program) : Prop :=
  before.Intact after ∨
    fault = .numeralTooWide ∧
      ∃ resource, declared = some resource ∧ before.HalfDeclared resource after

namespace Program

variable {program after : Program} {line : Option Int} {fault : Fault} {declared : Option Resource}

theorem Intact.refl (program : Program) : program.Intact program :=
  ⟨rfl, fun line hline ↦ ⟨line, hline, Int.le_refl line⟩⟩

theorem Intact.reachLine (program : Program) (line : Option Int) :
    program.Intact (program.reachLine line) := by
  unfold Program.reachLine
  cases line with
  | none => exact refl program
  | some line =>
    cases hend : program.endLine with
    | none =>
      refine ⟨rfl, fun last hlast ↦ ?_⟩
      rw [hend] at hlast
      cases hlast
    | some last =>
      refine ⟨rfl, fun before hbefore ↦ ⟨max last line, rfl, ?_⟩⟩
      obtain rfl : last = before := Option.some.inj (hend.symm.trans hbefore)
      exact Int.le_max_left last line

theorem Intact.trans {first second third : Program} (hfirst : first.Intact second)
    (hsecond : second.Intact third) : first.Intact third := by
  constructor
  · rw [hsecond.same, hfirst.same]
  · intro line hline
    obtain ⟨middle, hmiddle, hle⟩ := hfirst.line_le line hline
    obtain ⟨last, hlast, hle'⟩ := hsecond.line_le middle hmiddle
    exact ⟨last, hlast, Int.le_trans hle hle'⟩

theorem withRegistry_reachLine (program : Program) (line : Option Int) (registry : Registry) :
    { program.reachLine line with registry := registry } =
      { program with registry := registry }.reachLine line := by
  unfold reachLine
  dsimp only
  cases line with
  | none => rfl
  | some line => cases hend : program.endLine <;> rfl

/-- The line is reached before anything is refused. -/
theorem Spared.of_reachLine (hspared : (program.reachLine line).Spared fault declared after) :
    program.Spared fault declared after := by
  obtain hintact | ⟨hfault, resource, hdeclared, hhalf⟩ := hspared
  · exact .inl ((Intact.reachLine program line).trans hintact)
  · obtain ⟨hname, hport, hwide, hintact⟩ := hhalf
    rw [registry_reachLine] at hname hport hintact
    dsimp only at hintact
    rw [withRegistry_reachLine] at hintact
    exact .inr ⟨hfault, resource, hdeclared, hname, hport, hwide,
      (Intact.reachLine _ line).trans hintact⟩

theorem spared_addResource {resource : Resource}
    (hrefused : (Builder.addResource program resource).1 = .error fault) :
    program.Spared fault (some resource) (Builder.addResource program resource).2 := by
  unfold Builder.addResource at hrefused ⊢
  unfold Registry.register at hrefused ⊢
  dsimp only at hrefused ⊢
  split at hrefused
  · cases hrefused
  · rename_i htellable
    rw [if_neg htellable]
    unfold Registry.isTellable at htellable
    rw [Bool.not_eq_true, Bool.or_eq_false_iff, Option.isNone_eq_false_iff,
      Bool.not_eq_false'] at htellable
    unfold Registry.nameConflicts
    cases hname : program.registry.contains resource.name with
    | false =>
      rw [if_neg Bool.false_ne_true, List.append_nil]
      exact .inl (.refl program)
    | true =>
      obtain rfl : .numeralTooWide = fault := Except.error.inj hrefused
      exact .inr ⟨rfl, resource, rfl, hname, htellable.1, htellable.2, .refl _⟩

end Program

/-! ## Builders -/

/-- The resource that is handed over, if it is one. -/
def Argument.resource? : Argument → Option Resource
  | .resource declared => some declared
  | _ => none

namespace Builder

variable {builder : Builder} {fault : Fault}

/-- A part that is refused moves the end of the program at most, if adding it does no more. -/
theorem spared_construct {α : Type} {origin : Origin} {make : Origin → Except Fault α}
    {add : Program → α → Except Fault Unit × Program} {declared : Option Resource}
    (hadd : ∀ program part, make (builder.locate origin) = .ok part →
      (add program part).1 = .error fault →
        program.Spared fault declared (add program part).2)
    (hrefused : (builder.construct origin make add).1 = .error fault) :
    builder.program.Spared fault declared (builder.construct origin make add).2.program := by
  cases hmake : make (builder.locate origin) with
  | error other =>
    rw [construct_of_error hmake]
    exact .inl (.reachLine _ _)
  | ok part =>
    rw [construct_of_ok hmake] at hrefused ⊢
    exact (hadd _ part hmake (eq_error_of_map hrefused)).of_reachLine

theorem spared_construct_addNothing {α : Type} {origin : Origin} {make : Origin → Except Fault α}
    (hrefused : (builder.construct origin make addNothing).1 = .error fault) :
    builder.program.Spared fault none (builder.construct origin make addNothing).2.program := by
  apply spared_construct _ hrefused
  intro program part _ hadded
  cases hadded

theorem spared_construct_addResource {origin : Origin} {make : Origin → Except Fault Resource}
    (hrefused : (builder.construct origin make addResource).1 = .error fault) :
    builder.program.Spared fault (make (builder.locate origin)).toOption
      (builder.construct origin make addResource).2.program := by
  apply spared_construct _ hrefused
  intro program resource hmake hadded
  rw [hmake]
  exact Program.spared_addResource hadded

theorem spared_construct_addState {initial : Bool} {origin : Origin}
    {make : Origin → Except Fault State}
    (hrefused : (builder.construct origin make (addState initial)).1 = .error fault) :
    builder.program.Spared fault none
      (builder.construct origin make (addState initial)).2.program := by
  apply spared_construct _ hrefused
  intro program part _ hadded
  cases hadded

/-- Where the call is refused, the builder keeps its line and its program is spared. -/
def Spares {α : Type} (fault : Fault) (declared : Builder → Option Resource)
    (call : Builder → Except Fault α × Builder) : Prop :=
  ∀ builder : Builder, (call builder).1 = .error fault →
    (call builder).2.line = builder.line ∧
      builder.program.Spared fault (declared builder) (call builder).2.program

/-- Registers a resource that is already made, and refuses anything else. -/
def register (builder : Builder) : Argument → Except Fault Unit × Builder
  | .resource declared =>
    let (result, program) := addResource builder.program declared
    (result, { builder with program := program })
  | other => (.error (.notResource other.typeName), builder)

theorem spares_register (argument : Argument) :
    Spares fault (fun _ ↦ argument.resource?) (·.register argument) := by
  intro builder hrefused
  cases argument with
  | resource declared => exact ⟨rfl, Program.spared_addResource hrefused⟩
  | _ => exact ⟨rfl, .inl (.refl _)⟩

end Builder

namespace BuilderCall

variable {builder : Builder} {call : BuilderCall} {fault : Fault}

/-- The resource that a call declares, if it declares one and has made it. -/
def declared? (builder : Builder) : BuilderCall → Option Resource
  | .registerResource port (.ok kind) name origin =>
    (Resource.ofArguments name (.ok kind) port (builder.locate origin)).toOption
  | _ => none

theorem spared_run (hrefused : (call.run builder).1 = .error fault) :
    builder.program.Spared fault (call.declared? builder) (call.run builder).2.program := by
  cases call with
  | setLine line => cases hrefused
  | registerResource port kind name origin =>
    cases kind with
    | error other => exact .inl (.refl _)
    | ok kind => exact Builder.spared_construct_addResource (eq_error_of_map hrefused)
  | makeGuard kind operands => exact .inl (.refl _)
  | makeAction target level origin =>
    exact Builder.spared_construct_addNothing (eq_error_of_map hrefused)
  | makeTransition trigger target origin =>
    exact Builder.spared_construct_addNothing (eq_error_of_map hrefused)
  | makeState name actions transitions initial origin =>
    cases actions with
    | error other => exact .inl (.refl _)
    | ok actions =>
      cases transitions with
      | error other => exact .inl (.refl _)
      | ok transitions => exact Builder.spared_construct_addState (eq_error_of_map hrefused)
  | makeFaultState name blinks origin =>
    exact Builder.spared_construct_addState (eq_error_of_map hrefused)

theorem line_run_of_error (hrefused : (call.run builder).1 = .error fault) :
    (call.run builder).2.line = builder.line := by
  have hline := call.line_perform builder
  cases call with
  | setLine line => cases hrefused
  | _ => exact hline

theorem spares_run (call : BuilderCall) : Builder.Spares fault call.declared? call.run :=
  fun _ hrefused ↦ ⟨line_run_of_error hrefused, spared_run hrefused⟩

/-- A builder spares its program also where the part it makes is handed out. -/
theorem spares_of_run {α : Type} {make : Builder → Except Fault α × Builder} (call : BuilderCall)
    (hmake : ∀ builder, call.run builder = (make builder).map discard id) :
    Builder.Spares fault call.declared? make := by
  intro builder hrefused
  have hcall : (call.run builder).1 = .error fault := by
    rw [hmake, Prod.map_fst, hrefused]
    rfl
  have hline := line_run_of_error hcall
  have hspared := spared_run hcall
  rw [hmake] at hline hspared
  exact ⟨hline, hspared⟩

end BuilderCall

/-! ## The studio -/

/-- A call that constructs something, in the studio, with the builder of an application or in the
registry of one.  A builder or a registry that belongs to no application may be taken for that of an
application which is never opened. -/
inductive ConstructionCall where
  | inStudio (call : StudioCall)
  | onBuilder (app : Nat) (call : BuilderCall)
  | inRegistry (app : Nat) (resource : Argument)

namespace ConstructionCall

def run (studio : Studio) : ConstructionCall → Except Fault Unit × Studio
  | .inStudio call => call.run studio
  | .onBuilder app call => studio.onApp app call.run
  | .inRegistry app resource => studio.onApp app (·.register resource)

/-- The application that a call is about. -/
def addressee? (studio : Studio) : ConstructionCall → Option Nat
  | .inStudio call => call.addressee? studio.makers studio
  | .onBuilder app _ => some app
  | .inRegistry app _ => some app

end ConstructionCall

/-- The resource that a call in the studio declares with the builder of the open application: only
sensors and actuators are declared. -/
def StudioCall.declared? (builder : Builder) : StudioCall → Option Resource
  | .declare kind name port site =>
    BuilderCall.declared? builder (.registerResource port (.ok kind) name site.origin)
  | _ => none

/-- The resource that a call declares with the builder that it is about. -/
def ConstructionCall.declared? (builder : Builder) : ConstructionCall → Option Resource
  | .inStudio call => call.declared? builder
  | .onBuilder _ call => call.declared? builder
  | .inRegistry _ resource => resource.resource?

/-- What a call that is refused leaves of all blocks and applications, if it is about at most one of
them, given the resource that it declares there. -/
structure Studio.Spared (fault : Fault) (addressee : Option Nat)
    (declared : Builder → Option Resource) (before after : Studio) : Prop where
  scopes : after.scopes = before.scopes
  apps_length : after.apps.length = before.apps.length
  others : ∀ app, addressee ≠ some app → after.apps[app]? = before.apps[app]?
  apps : ∀ (app : Nat) (builder : Builder), before.apps[app]? = some builder →
    ∃ changed : Builder, after.apps[app]? = some changed ∧ changed.line = builder.line ∧
      builder.program.Spared fault (declared builder) changed.program

namespace Studio.Spared

variable {α : Type} {studio : Studio} {fault : Fault} {index : Nat}
  {call : Builder → Except Fault α × Builder} {add : Scope → α → Scope}
  {declared : Builder → Option Resource}

theorem refl (fault : Fault) (addressee : Option Nat) (declared : Builder → Option Resource)
    (studio : Studio) : studio.Spared fault addressee declared studio :=
  ⟨rfl, rfl, fun _ _ ↦ rfl, fun _ builder hbuilder ↦ ⟨builder, hbuilder, rfl, .inl (.refl _)⟩⟩

theorem onApp (app : Nat) (hcall : Builder.Spares fault declared call)
    (hrefused : (studio.onApp app call).1 = .error fault) :
    studio.Spared fault (some app) declared (studio.onApp app call).2 := by
  unfold Studio.onApp at hrefused ⊢
  cases hbuilder : studio.apps[app]? with
  | none => exact refl _ _ _ _
  | some builder =>
    rw [hbuilder] at hrefused
    dsimp only at hrefused ⊢
    refine ⟨rfl, List.length_set, fun other hother ↦ ?_, fun other found hfound ↦ ?_⟩
    · exact List.getElem?_set_ne fun hsame ↦ hother (congrArg some hsame)
    · dsimp only
      by_cases hsame : app = other
      · subst hsame
        obtain rfl : builder = found := Option.some.inj (hbuilder.symm.trans hfound)
        rw [List.getElem?_set_self (List.getElem?_eq_some_iff.1 hbuilder).1]
        exact ⟨_, rfl, hcall builder hrefused⟩
      · rw [List.getElem?_set_ne hsame]
        exact ⟨found, hfound, rfl, .inl (.refl _)⟩

/-- A part that is refused is not in its block. -/
theorem inScope (hcall : Builder.Spares fault declared call)
    (hrefused : (studio.inScope index call add).1 = .error fault) :
    studio.Spared fault studio.makers[index]? declared (studio.inScope index call add).2 := by
  cases hscope : studio.scopes[index]? with
  | none =>
    rw [inScope_of_none hscope]
    exact refl _ _ _ _
  | some scope =>
    have hscopes : (studio.inScope index call add).2.scopes = studio.scopes := by
      rw [scopes_inScope, hrefused]
    rw [fst_inScope hscope] at hrefused
    obtain ⟨-, hlength, hothers, happs⟩ := onApp scope.app hcall hrefused
    rw [← apps_inScope hscope] at hlength hothers happs
    rw [makers_of_scope hscope]
    exact ⟨hscopes, hlength, hothers, happs⟩

theorem finishScope (hrefused : (studio.finishScope index).1 = .error fault) :
    studio.Spared fault studio.makers[index]? (fun _ ↦ none) (studio.finishScope index).2 := by
  cases hscope : studio.scopes[index]? with
  | none =>
    rw [finishScope_of_none hscope]
    exact refl _ _ _ _
  | some scope =>
    rw [finishScope_of_some hscope] at hrefused ⊢
    apply inScope _ (eq_error_of_map hrefused)
    exact BuilderCall.spares_of_run
      (.makeState scope.name (.ok (scope.actions.map .action))
        (.ok (scope.transitions.map .transition)) scope.initial scope.site.origin)
      fun _ ↦ rfl

end Studio.Spared

/-- What a call in the studio leaves if it is refused, by the studio or by a builder. -/
theorem StudioCall.spared_run {studio : Studio} {call : StudioCall} {fault : Fault}
    (hrefused : (call.run studio).1 = .error fault) :
    studio.Spared fault (call.addressee? studio.makers studio) call.declared?
      (call.run studio).2 := by
  have heffect := effect_run studio call
  generalize call.run studio = outcome at hrefused heffect ⊢
  cases heffect with
  | refused call other => exact .refl _ _ _ _
  | finish opened =>
    obtain ⟨hscopes, hlength, hothers, happs⟩ := Studio.Spared.finishScope hrefused
    exact ⟨hscopes, hlength, hothers, happs⟩
  | @declare kind name port site app rest opened =>
    dsimp only [addressee?]
    rw [opened]
    apply Studio.Spared.onApp _ _ (eq_error_of_map hrefused)
    exact BuilderCall.spares_of_run (.registerResource port (.ok kind) name site.origin)
      fun _ ↦ rfl
  | faultState opened =>
    dsimp only [addressee?]
    rw [opened]
    apply Studio.Spared.onApp _ _ (eq_error_of_map hrefused)
    exact BuilderCall.spares_of_run (.makeFaultState _ _ _) fun _ ↦ rfl
  | write name opened result =>
    dsimp only [addressee?]
    rw [result] at hrefused ⊢
    rw [opened]
    apply Studio.Spared.inScope _ (eq_error_of_map hrefused)
    exact BuilderCall.spares_of_run (.makeAction _ _ _) fun _ ↦ rfl
  | when opened result =>
    dsimp only [addressee?]
    rw [result] at hrefused ⊢
    rw [opened]
    apply Studio.Spared.inScope _ (eq_error_of_map hrefused)
    exact BuilderCall.spares_of_run (.makeTransition _ _ _) fun _ ↦ rfl
  | after opened result =>
    dsimp only [addressee?]
    rw [result] at hrefused ⊢
    rw [opened]
    apply Studio.Spared.inScope _ (eq_error_of_map hrefused)
    exact BuilderCall.spares_of_run (.makeTransition _ _ _) fun _ ↦ rfl
  | _ => cases hrefused

/-- A call that is refused leaves everything as it was, but for the last line of the program that
it is about.  A call that declares a resource may also leave the conflict over the name of this
resource, if its port is taken as well but cannot be told. -/
theorem ConstructionCall.spared_of_refused {studio : Studio} {call : ConstructionCall}
    {fault : Fault} (hrefused : (call.run studio).1 = .error fault) :
    studio.Spared fault (call.addressee? studio) call.declared? (call.run studio).2 := by
  cases call with
  | inStudio call => exact StudioCall.spared_run hrefused
  | onBuilder app call => exact Studio.Spared.onApp app call.spares_run hrefused
  | inRegistry app resource =>
    exact Studio.Spared.onApp app (Builder.spares_register resource) hrefused

/-- An action with a level that is no level, written to a block of an application that is not
open. -/
theorem ConstructionCall.tangled_write_spared :
    let studio := Studio.tangledCalls.foldl StudioCall.perform {}
    let call := inStudio (.write (.text "lamp") (.integer 2) ⟨"main", 60⟩)
    (call.run studio).1 = .error (.levelNotBit 2) ∧
      studio.Spared (.levelNotBit 2) (some 0) (fun _ ↦ none) (call.run studio).2 ∧
      (call.run studio).2.apps.map (·.program.endLine) = [some 60, none] := by
  intro studio call
  have hrefused : (call.run studio).1 = .error (.levelNotBit 2) := by
    decide +kernel
  have haddressee : call.addressee? studio = some 0 := by
    decide +kernel
  have hspared := spared_of_refused hrefused
  rw [haddressee] at hspared
  exact ⟨hrefused, hspared, by decide +kernel⟩

/-- A lamp on a port that cannot be told. -/
def wideLamp : Resource where
  name := "lamp"
  kind := .actuator
  port := Text.leastWide

namespace Session

/-- Closes a block after it can no longer be said whether its state is the initial one. -/
def closeUnanswered : Session StatesAround := do
  let registry ← newRegistry
  let app ← newApp (.text "Lamp") .nothing ⟨"main", 1⟩
  enter app
  let scope ← newScope (.text "idle") registry ⟨"main", 2⟩
  hollow registry
  enter scope
  statesAround (·.app? app) (leave scope (.flag false))

/-- Two ways to be refused halfway: a block becomes a state although it cannot be said whether the
state is the initial one, and a conflict is recorded for a resource that is not declared. -/
theorem refused_halfway :
    (outcome closeUnanswered {}).1 =
      .ok ⟨some [], some (.notMeasurable "NoneType"), some ["idle"]⟩ ∧
    let declared := (({} : Registry).register wideLamp).2
    (declared.register wideLamp).1 = .error .numeralTooWide ∧ declared.conflicts = [] ∧
      (declared.register wideLamp).2.conflicts.map (·.code) = [.duplicateResourceName] := by
  constructor <;> decide +kernel

end Session

end StateSketch
