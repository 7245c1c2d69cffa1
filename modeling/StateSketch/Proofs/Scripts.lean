import StateSketch.Studio

/-!
# Scripts in the studio

A script is what is declared while one application is open.  In the studio each call has to find the
application and the block that it belongs to among what is open.  The same calls can be made on a
builder, which is handed everything and keeps nothing but the program.  If all calls of a script
succeed in the studio, then both ways lead to the same program.
-/

namespace StateSketch

/-! ## Calls that succeed -/

/-- The result of a call and what the call leaves behind, unless it fails. -/
def completed {α σ : Type} (run : Except Fault α × σ) : Except Fault (α × σ) :=
  run.1.map (·, run.2)

/-- What a call leaves behind, unless it fails. -/
def leaves {α σ : Type} (run : Except Fault α × σ) : Except Fault σ :=
  run.1.map fun _ ↦ run.2

section Runs

variable {α β σ τ : Type}

theorem completed_eq_ok_iff {run : Except Fault α × σ} {value : α} {state : σ} :
    completed run = .ok (value, state) ↔ run = (.ok value, state) := by
  obtain ⟨result, left⟩ := run
  cases result <;> simp [completed, Except.map]

theorem leaves_eq_ok_iff {run : Except Fault α × σ} {state : σ} :
    leaves run = .ok state ↔ ∃ value, run = (.ok value, state) := by
  obtain ⟨result, left⟩ := run
  cases result <;> simp [leaves, Except.map]

theorem Fault.bind_eq_ok_iff {call : Except Fault α} {next : α → Except Fault β} {result : β} :
    (call >>= next) = .ok result ↔ ∃ value, call = .ok value ∧ next value = .ok result := by
  cases call <;> simp [bind, Except.bind]

/-- Where every call keeps two states related, a row of calls does. -/
theorem Fault.foldlM_related {related : σ → τ → Prop} {step : σ → α → Except Fault σ}
    {twin : τ → α → Except Fault τ}
    (hstep : ∀ {state other call next}, related state other → step state call = .ok next →
      ∃ after, twin other call = .ok after ∧ related next after)
    {calls : List α} {state last : σ} {other : τ} (hrelated : related state other)
    (hrun : calls.foldlM step state = .ok last) :
    ∃ final, calls.foldlM twin other = .ok final ∧ related last final := by
  induction calls generalizing state other with
  | nil =>
    obtain rfl := Except.ok.inj hrun
    exact ⟨other, rfl, hrelated⟩
  | cons call rest ih =>
    rw [List.foldlM_cons] at hrun
    obtain ⟨next, hcall, hrest⟩ := bind_eq_ok_iff.1 hrun
    obtain ⟨after, hafter, hnext⟩ := hstep hrelated hcall
    obtain ⟨final, hfinal, hlast⟩ := ih hnext hrest
    refine ⟨final, ?_, hlast⟩
    rw [List.foldlM_cons]
    exact bind_eq_ok_iff.2 ⟨after, hafter, hfinal⟩

end Runs

/-! ## Scripts -/

/-- A call inside the block of a state. -/
inductive BlockCall where
  | declare (kind : ResourceKind) (name port : Argument) (site : CallSite)
  | write (target level : Argument) (site : CallSite)
  | when (guard target : Argument) (site : CallSite)
  | after (milliseconds target : Argument) (site : CallSite)

/-- The block of a state with the calls in it. -/
structure StateBlock where
  name : Argument
  initial : Bool := false
  site : CallSite
  calls : List BlockCall
  /-- Whether the block is left by an exception. -/
  raised : Bool := false

/-- A call in an application. -/
inductive AppCall where
  | declare (kind : ResourceKind) (name port : Argument) (site : CallSite)
  | faultState (name blinks : Argument) (site : CallSite)
  | state (block : StateBlock)

/-- An application with the calls in it. -/
structure AppScript where
  name : Argument
  faultPin : Argument := .nothing
  site : CallSite
  calls : List AppCall

/-! ## Scripts in the studio -/

def BlockCall.inStudio (studio : Studio) : BlockCall → Except Fault Studio
  | .declare kind name port site => leaves (studio.declare kind name port site)
  | .write target level site => leaves (studio.write target level site)
  | .when guard target site => leaves (studio.when guard target site)
  | .after milliseconds target site => leaves (studio.after milliseconds target site)

def StateBlock.inStudio (studio : Studio) (block : StateBlock) : Except Fault Studio := do
  let (scope, made) ← completed (studio.newScope block.name block.initial block.site)
  let entered ← leaves (made.enterScope scope)
  let called ← block.calls.foldlM BlockCall.inStudio entered
  leaves (called.exitScope scope block.raised)

def AppCall.inStudio (studio : Studio) : AppCall → Except Fault Studio
  | .declare kind name port site => leaves (studio.declare kind name port site)
  | .faultState name blinks site => leaves (studio.faultState name blinks site)
  | .state block => block.inStudio studio

/-- Makes an application, opens it, makes the calls in it and closes it. -/
def AppScript.inStudio (studio : Studio) (script : AppScript) : Except Fault (Nat × Studio) := do
  let (app, made) ← completed (studio.newApp script.name script.faultPin script.site)
  let entered ← leaves (made.enterApp app)
  let called ← script.calls.foldlM AppCall.inStudio entered
  let left ← leaves called.exitApp
  return (app, left)

/-! ## Scripts on a builder -/

/-- A builder and the parts of the state that is being made. -/
structure Draft where
  builder : Builder
  actions : List Action := []
  transitions : List Transition := []

def Draft.addTransition (draft : Draft) (trigger target : Argument) (site : CallSite) :
    Except Fault Draft := do
  let (transition, builder) ← completed (draft.builder.makeTransition trigger target site.origin)
  return { draft with builder := builder, transitions := draft.transitions ++ [transition] }

def BlockCall.onDraft (draft : Draft) : BlockCall → Except Fault Draft
  | .declare kind name port site => do
    let builder ← leaves (draft.builder.registerResource port (.ok kind) name site.origin)
    return { draft with builder := builder }
  | .write target level site => do
    let name ← Studio.resourceName target
    let (action, builder) ← completed (draft.builder.makeAction name level site.origin)
    return { draft with builder := builder, actions := draft.actions ++ [action] }
  | .when guard target site => draft.addTransition guard target site
  | .after milliseconds target site => draft.addTransition milliseconds target site

/-- What comes of a block: a state at the place of the block, or nothing after an exception. -/
def StateBlock.close (block : StateBlock) (draft : Draft) : Except Fault Builder :=
  if block.raised then .ok draft.builder
  else leaves (draft.builder.makeState block.name (.ok (draft.actions.map .action))
    (.ok (draft.transitions.map .transition)) block.initial block.site.origin)

def StateBlock.onBuilder (builder : Builder) (block : StateBlock) : Except Fault Builder := do
  block.close (← block.calls.foldlM BlockCall.onDraft { builder := builder })

def AppCall.onBuilder (builder : Builder) : AppCall → Except Fault Builder
  | .declare kind name port site =>
    leaves (builder.registerResource port (.ok kind) name site.origin)
  | .faultState name blinks site => leaves (builder.makeFaultState name blinks site.origin)
  | .state block => block.onBuilder builder

def AppScript.onBuilder (script : AppScript) : Except Fault Builder := do
  let builder ← Builder.start script.name script.faultPin (some script.site.file)
  script.calls.foldlM AppCall.onBuilder builder

/-! ## The line of a builder -/

namespace Builder

/-- The builder with another line for parts that name none. -/
def atLine (builder : Builder) (line : Option Int) : Builder :=
  { builder with line := line }

/-- The line of the builder neither matters to a call nor is changed by it. -/
def IgnoresLine {α : Type} (call : Builder → Except Fault α × Builder) : Prop :=
  ∀ builder line, call (builder.atLine line) = ((call builder).1, (call builder).2.atLine line)

/-- A part with a place of its own does not ask for the line of the builder. -/
theorem ignoresLine_construct {α : Type} (site : CallSite) (make : Origin → Except Fault α)
    (add : Program → α → Except Fault Unit × Program) :
    IgnoresLine fun builder ↦ builder.construct site.origin make add := by
  intro builder line
  have hplace : (builder.atLine line).locate site.origin = builder.locate site.origin := rfl
  have hprogram : (builder.atLine line).program = builder.program := rfl
  unfold construct
  dsimp only
  rw [hplace, hprogram]
  cases make (builder.locate site.origin) <;> rfl

variable (name target level trigger port blinks : Argument) (site : CallSite)

theorem ignoresLine_registerResource (kind : ResourceKind) :
    IgnoresLine (·.registerResource port (.ok kind) name site.origin) :=
  ignoresLine_construct site (Resource.ofArguments name (.ok kind) port) addResource

theorem ignoresLine_makeAction : IgnoresLine (·.makeAction target level site.origin) :=
  ignoresLine_construct site _ _

theorem ignoresLine_makeTransition : IgnoresLine (·.makeTransition trigger target site.origin) :=
  ignoresLine_construct site _ _

theorem ignoresLine_makeState (actions transitions : List Argument) (initial : Bool) :
    IgnoresLine (·.makeState name (.ok actions) (.ok transitions) initial site.origin) :=
  ignoresLine_construct site (State.ofArguments name (.ok actions) (.ok transitions) .nothing)
    (addState initial)

theorem ignoresLine_makeFaultState : IgnoresLine (·.makeFaultState name blinks site.origin) :=
  ignoresLine_construct site _ _

end Builder

/-! ## Calls in an application -/

namespace Studio

variable {α : Type} {earlier : List Builder} {line : Option Int} {studio next : Studio}
  {builder : Builder} {call : Builder → Except Fault α × Builder} {value : α}

/-- The last application is the open one, and its program is that of the builder. -/
structure Hosts (earlier : List Builder) (line : Option Int) (studio : Studio)
    (builder : Builder) : Prop where
  apps : studio.apps = earlier ++ [builder.atLine line]
  openApps : studio.openApps = [earlier.length]

/-- A call on the open application is the call on the builder. -/
theorem Hosts.onApp (hhosts : Hosts earlier line studio builder)
    (hcall : Builder.IgnoresLine call)
    (hrun : studio.onApp earlier.length call = (.ok value, next)) :
    ∃ built, call builder = (.ok value, built) ∧
      next = { studio with apps := earlier ++ [built.atLine line] } := by
  have happ : studio.apps[earlier.length]? = some (builder.atLine line) := by
    rw [hhosts.apps]
    simp
  have hset (built : Builder) : studio.apps.set earlier.length built = earlier ++ [built] := by
    rw [hhosts.apps]
    simp
  rw [Studio.onApp, happ] at hrun
  dsimp only at hrun
  rw [hcall, hset] at hrun
  obtain ⟨hvalue, hnext⟩ := Prod.mk.inj hrun
  exact ⟨(call builder).2, Prod.ext hvalue rfl, hnext.symm⟩

theorem Hosts.declare {kind : ResourceKind} {name port : Argument} {site : CallSite}
    {resource : Resource} (hhosts : Hosts earlier line studio builder)
    (hrun : studio.declare kind name port site = (.ok resource, next)) :
    ∃ built, builder.registerResource port (.ok kind) name site.origin = (.ok resource, built) ∧
      next = { studio with apps := earlier ++ [built.atLine line] } := by
  unfold Studio.declare at hrun
  rw [hhosts.openApps] at hrun
  exact hhosts.onApp (Builder.ignoresLine_registerResource name port site kind) hrun

theorem Hosts.faultState {name blinks : Argument} {site : CallSite} {state : State}
    (hhosts : Hosts earlier line studio builder)
    (hrun : studio.faultState name blinks site = (.ok state, next)) :
    ∃ built, builder.makeFaultState name blinks site.origin = (.ok state, built) ∧
      next = { studio with apps := earlier ++ [built.atLine line] } := by
  unfold Studio.faultState at hrun
  rw [hhosts.openApps] at hrun
  dsimp only at hrun
  split at hrun
  · cases (Prod.mk.inj hrun).1
  · exact hhosts.onApp (Builder.ignoresLine_makeFaultState name blinks site) hrun

/-! ## Calls in a block -/

variable {block : StateBlock} {index : Nat} {draft : Draft}

/-- The block of an application with the parts of a draft. -/
def draftScope (app : Nat) (block : StateBlock) (draft : Draft) : Scope where
  app := app
  name := block.name
  initial := block.initial
  site := block.site
  actions := draft.actions
  transitions := draft.transitions

/-- The open block was made in the open application and has the parts of the draft. -/
structure Drafts (earlier : List Builder) (line : Option Int) (block : StateBlock) (index : Nat)
    (studio : Studio) (draft : Draft) : Prop extends Hosts earlier line studio draft.builder where
  openScopes : studio.openScopes = [index]
  scope : studio.scopes[index]? = some (draftScope earlier.length block draft)

theorem Drafts.inScope {add : Scope → α → Scope}
    (hdrafts : Drafts earlier line block index studio draft) (hcall : Builder.IgnoresLine call)
    (hrun : studio.inScope index call add = (.ok value, next)) :
    ∃ built, call draft.builder = (.ok value, built) ∧
      next = { studio with
        apps := earlier ++ [built.atLine line]
        scopes := studio.scopes.modify index (add · value) } := by
  rw [Studio.inScope, hdrafts.scope] at hrun
  dsimp only [draftScope] at hrun
  rcases happ : studio.onApp earlier.length call with ⟨fault | part, after⟩
  · rw [happ] at hrun
    cases (Prod.mk.inj hrun).1
  · rw [happ] at hrun
    obtain ⟨hvalue, hnext⟩ := Prod.mk.inj hrun
    obtain rfl := Except.ok.inj hvalue
    obtain ⟨built, hbuilt, rfl⟩ := hdrafts.onApp hcall happ
    exact ⟨built, hbuilt, hnext.symm⟩

theorem Drafts.makeTransition {trigger target : Argument} {site : CallSite}
    {transition : Transition} (hdrafts : Drafts earlier line block index studio draft)
    (hrun : studio.inScope index (·.makeTransition trigger target site.origin) addTransition =
      (.ok transition, next)) :
    ∃ other, draft.addTransition trigger target site = .ok other ∧
      Drafts earlier line block index next other := by
  obtain ⟨built, hbuilt, rfl⟩ :=
    hdrafts.inScope (Builder.ignoresLine_makeTransition target trigger site) hrun
  refine ⟨_, Fault.bind_eq_ok_iff.2 ⟨_, completed_eq_ok_iff.2 hbuilt, rfl⟩,
    ⟨rfl, hdrafts.openApps⟩, hdrafts.openScopes, ?_⟩
  simp [hdrafts.scope, draftScope, addTransition]

theorem Drafts.step {call : BlockCall} (hdrafts : Drafts earlier line block index studio draft)
    (hrun : call.inStudio studio = .ok next) :
    ∃ other, call.onDraft draft = .ok other ∧ Drafts earlier line block index next other := by
  cases call with
  | declare kind name port site =>
    obtain ⟨resource, hdeclare⟩ := leaves_eq_ok_iff.1 hrun
    obtain ⟨built, hbuilt, rfl⟩ := hdrafts.declare hdeclare
    exact ⟨_, Fault.bind_eq_ok_iff.2 ⟨_, leaves_eq_ok_iff.2 ⟨_, hbuilt⟩, rfl⟩,
      ⟨rfl, hdrafts.openApps⟩, hdrafts.openScopes, hdrafts.scope⟩
  | write target level site =>
    obtain ⟨action, hwrite⟩ := leaves_eq_ok_iff.1 hrun
    unfold Studio.write at hwrite
    rw [hdrafts.openScopes] at hwrite
    dsimp only at hwrite
    split at hwrite
    · cases (Prod.mk.inj hwrite).1
    · rename_i name hname
      obtain ⟨built, hbuilt, rfl⟩ :=
        hdrafts.inScope (Builder.ignoresLine_makeAction name level site) hwrite
      refine ⟨_, Fault.bind_eq_ok_iff.2 ⟨name, hname,
        Fault.bind_eq_ok_iff.2 ⟨_, completed_eq_ok_iff.2 hbuilt, rfl⟩⟩,
        ⟨rfl, hdrafts.openApps⟩, hdrafts.openScopes, ?_⟩
      simp [hdrafts.scope, draftScope, addAction]
  | when guard target site =>
    obtain ⟨transition, hwhen⟩ := leaves_eq_ok_iff.1 hrun
    unfold Studio.when at hwhen
    rw [hdrafts.openScopes] at hwhen
    cases guard with
    | guard condition => exact hdrafts.makeTransition hwhen
    | _ => cases (Prod.mk.inj hwhen).1
  | after milliseconds target site =>
    obtain ⟨transition, hafter⟩ := leaves_eq_ok_iff.1 hrun
    unfold Studio.after at hafter
    rw [hdrafts.openScopes] at hafter
    cases milliseconds with
    | integer number => exact hdrafts.makeTransition hafter
    | _ => cases (Prod.mk.inj hafter).1

/-! ## Blocks -/

/-- A block that is opened starts with an empty draft. -/
theorem Hosts.enterBlock {made : Studio} (hhosts : Hosts earlier line studio builder)
    (hmade : studio.newScope block.name block.initial block.site = (.ok index, made))
    (hentered : made.enterScope index = (.ok (), next)) :
    Drafts earlier line block index next { builder := builder } := by
  unfold newScope at hmade
  rw [hhosts.openApps] at hmade
  obtain ⟨hindex, rfl⟩ := Prod.mk.inj hmade
  obtain rfl := Except.ok.inj hindex
  unfold enterScope at hentered
  split at hentered
  · obtain ⟨-, rfl⟩ := Prod.mk.inj hentered
    exact ⟨⟨hhosts.apps, rfl⟩, rfl, by simp [draftScope]⟩
  · cases (Prod.mk.inj hentered).1

/-- A block becomes a state of the application in which it was made. -/
theorem Hosts.finishScope (hhosts : Hosts earlier line studio draft.builder)
    (hscope : studio.scopes[index]? = some (draftScope earlier.length block draft))
    (hrun : studio.finishScope index = (.ok (), next)) :
    ∃ built, leaves (draft.builder.makeState block.name (.ok (draft.actions.map .action))
        (.ok (draft.transitions.map .transition)) block.initial block.site.origin) = .ok built ∧
      Hosts earlier line next built := by
  rw [Studio.finishScope, hscope] at hrun
  dsimp only [draftScope] at hrun
  rcases happ : studio.onApp earlier.length (fun builder ↦ builder.makeState block.name
      (.ok (draft.actions.map .action)) (.ok (draft.transitions.map .transition)) block.initial
      block.site.origin) with ⟨fault | state, after⟩
  · rw [happ] at hrun
    cases (Prod.mk.inj hrun).1
  · rw [happ] at hrun
    obtain ⟨built, hbuilt, rfl⟩ :=
      hhosts.onApp (Builder.ignoresLine_makeState _ block.site _ _ _) happ
    obtain ⟨-, rfl⟩ := Prod.mk.inj hrun
    exact ⟨built, leaves_eq_ok_iff.2 ⟨state, hbuilt⟩, rfl, hhosts.openApps⟩

theorem Drafts.exitBlock (hdrafts : Drafts earlier line block index studio draft)
    (hleft : studio.exitScope index block.raised = (.ok (), next)) :
    ∃ built, block.close draft = .ok built ∧ Hosts earlier line next built := by
  rw [exitScope, hdrafts.openScopes] at hleft
  dsimp only at hleft
  unfold StateBlock.close
  split at hleft
  · rename_i hraised
    obtain ⟨-, rfl⟩ := Prod.mk.inj hleft
    rw [if_pos hraised]
    exact ⟨draft.builder, rfl, hdrafts.apps, hdrafts.openApps⟩
  · rename_i hraised
    rw [if_neg hraised]
    have hclosed : Hosts earlier line { studio with openScopes := [] } draft.builder :=
      ⟨hdrafts.apps, hdrafts.openApps⟩
    exact hclosed.finishScope hdrafts.scope hleft

theorem Hosts.state (hhosts : Hosts earlier line studio builder)
    (hrun : block.inStudio studio = .ok next) :
    ∃ built, block.onBuilder builder = .ok built ∧ Hosts earlier line next built := by
  obtain ⟨⟨index, made⟩, hmade, hrun⟩ := Fault.bind_eq_ok_iff.1 hrun
  obtain ⟨entered, hentered, hrun⟩ := Fault.bind_eq_ok_iff.1 hrun
  obtain ⟨called, hcalled, hleft⟩ := Fault.bind_eq_ok_iff.1 hrun
  obtain ⟨⟨⟩, hentered⟩ := leaves_eq_ok_iff.1 hentered
  obtain ⟨⟨⟩, hleft⟩ := leaves_eq_ok_iff.1 hleft
  have hdrafts := hhosts.enterBlock (completed_eq_ok_iff.1 hmade) hentered
  obtain ⟨draft, hdraft, hdrafts⟩ := Fault.foldlM_related Drafts.step hdrafts hcalled
  obtain ⟨built, hbuilt, hnext⟩ := hdrafts.exitBlock hleft
  exact ⟨built, Fault.bind_eq_ok_iff.2 ⟨draft, hdraft, hbuilt⟩, hnext⟩

theorem Hosts.step {call : AppCall} (hhosts : Hosts earlier line studio builder)
    (hrun : call.inStudio studio = .ok next) :
    ∃ built, call.onBuilder builder = .ok built ∧ Hosts earlier line next built := by
  cases call with
  | declare kind name port site =>
    obtain ⟨resource, hdeclare⟩ := leaves_eq_ok_iff.1 hrun
    obtain ⟨built, hbuilt, rfl⟩ := hhosts.declare hdeclare
    exact ⟨built, leaves_eq_ok_iff.2 ⟨resource, hbuilt⟩, rfl, hhosts.openApps⟩
  | faultState name blinks site =>
    obtain ⟨state, hstate⟩ := leaves_eq_ok_iff.1 hrun
    obtain ⟨built, hbuilt, rfl⟩ := hhosts.faultState hstate
    exact ⟨built, leaves_eq_ok_iff.2 ⟨state, hbuilt⟩, rfl, hhosts.openApps⟩
  | state block => exact hhosts.state hrun

/-! ## Applications -/

/-- An application that is opened is the last one, with the program of a new builder. -/
theorem enterApp_eq {name faultPin : Argument} {site : CallSite} {app : Nat} {made : Studio}
    (hmade : studio.newApp name faultPin site = (.ok app, made))
    (hentered : made.enterApp app = (.ok (), next)) :
    app = studio.apps.length ∧
      ∃ builder, Builder.start name faultPin (some site.file) = .ok builder ∧
        Hosts studio.apps (some site.line) next builder := by
  unfold newApp Builder.ofApp at hmade
  cases hstart : Builder.start name faultPin (some site.file) with
  | error fault =>
    rw [hstart] at hmade
    cases (Prod.mk.inj hmade).1
  | ok builder =>
    rw [hstart] at hmade
    obtain ⟨happ, rfl⟩ := Prod.mk.inj hmade
    obtain rfl := Except.ok.inj happ
    unfold enterApp at hentered
    split at hentered
    · obtain ⟨-, rfl⟩ := Prod.mk.inj hentered
      exact ⟨rfl, builder, rfl, rfl, rfl⟩
    · cases (Prod.mk.inj hentered).1

theorem Hosts.apps_exitApp (hhosts : Hosts earlier line studio builder)
    (hleft : studio.exitApp = (.ok (), next)) : next.apps = earlier ++ [builder.atLine line] := by
  rw [exitApp, hhosts.openApps] at hleft
  obtain ⟨-, rfl⟩ := Prod.mk.inj hleft
  exact hhosts.apps

end Studio

namespace AppScript

/-- A script that succeeds in the studio makes the program that its calls make on a builder, and
leaves the other applications as they are. -/
theorem inStudio_refines_onBuilder {script : AppScript} {studio after : Studio} {app : Nat}
    (hrun : script.inStudio studio = .ok (app, after)) :
    ∃ builder, script.onBuilder = .ok builder ∧
      after.apps[app]?.map (·.program) = some builder.program ∧
      after.apps.take app = studio.apps := by
  obtain ⟨⟨_, made⟩, hmade, hrun⟩ := Fault.bind_eq_ok_iff.1 hrun
  obtain ⟨entered, hentered, hrun⟩ := Fault.bind_eq_ok_iff.1 hrun
  obtain ⟨called, hcalled, hrun⟩ := Fault.bind_eq_ok_iff.1 hrun
  obtain ⟨left, hleft, hrun⟩ := Fault.bind_eq_ok_iff.1 hrun
  obtain ⟨rfl, rfl⟩ := Prod.mk.inj (Except.ok.inj hrun)
  obtain ⟨⟨⟩, hentered⟩ := leaves_eq_ok_iff.1 hentered
  obtain ⟨⟨⟩, hleft⟩ := leaves_eq_ok_iff.1 hleft
  obtain ⟨rfl, start, hstart, hhosts⟩ :=
    Studio.enterApp_eq (completed_eq_ok_iff.1 hmade) hentered
  obtain ⟨builder, hbuilder, hhosts⟩ := Fault.foldlM_related Studio.Hosts.step hhosts hcalled
  have happs := hhosts.apps_exitApp hleft
  refine ⟨builder, Fault.bind_eq_ok_iff.2 ⟨start, hstart, hbuilder⟩, ?_, ?_⟩
  · rw [happs]
    simp [Builder.atLine]
  · rw [happs]
    simp

end AppScript

/-- A pump with a float, written in two files.  The first block is given up, and the lamp that is
declared inside the last one takes the pin of the motor. -/
def pump : AppScript where
  name := .text "pump"
  faultPin := .integer 13
  site := ⟨"pump", 3⟩
  calls := [
    .declare .sensor (.text "float") (.integer 2) ⟨"pump", 4⟩,
    .declare .actuator (.text "motor") (.integer 8) ⟨"board", 90⟩,
    .state {
      name := .text "draft"
      initial := true
      site := ⟨"pump", 6⟩
      calls := [
        .write (.text "motor") (.flag true) ⟨"pump", 7⟩,
        .declare .sensor (.text "spare") (.integer 5) ⟨"pump", 8⟩]
      raised := true },
    .state {
      name := .text "idle"
      initial := true
      site := ⟨"pump", 10⟩
      calls := [
        .write (.text "motor") (.text "LOW") ⟨"pump", 11⟩,
        .when (.guard (.reads "float" .high)) (.text "running") ⟨"pump", 12⟩] },
    .state {
      name := .text "running"
      site := ⟨"pump", 14⟩
      calls := [
        .after (.integer 60000) (.text "dry") ⟨"pump", 15⟩,
        .declare .actuator (.text "lamp") (.integer 8) ⟨"pump", 16⟩,
        .write (.text "lamp") (.integer 1) ⟨"pump", 17⟩,
        .when (.guard (.reads "float" .low)) (.text "idle") ⟨"pump", 18⟩] },
    .faultState (.text "dry") (.integer 2) ⟨"pump", 20⟩]

theorem AppScript.pump_refines :
    ∃ app after builder, pump.inStudio {} = .ok (app, after) ∧ pump.onBuilder = .ok builder ∧
      after.apps[app]?.map (·.program) = some builder.program ∧
      builder.program.states.map (fun state ↦ (state.name, state.origin.line)) =
        [("idle", some 10), ("running", some 14), ("dry", some 20)] ∧
      builder.program.registry.conflicts.length = 1 ∧ builder.program.endLine = some 90 ∧
      builder.program.initialMarkings = 1 := by
  have hcompleted : (pump.inStudio {}).isOk = true := by decide +kernel
  have hbuilt : pump.onBuilder.toOption.map (fun builder ↦
      (builder.program.states.map (fun state ↦ (state.name, state.origin.line)),
        builder.program.registry.conflicts.length, builder.program.endLine,
        builder.program.initialMarkings)) =
      some ([("idle", some 10), ("running", some 14), ("dry", some 20)], 1, some 90, 1) := by
    decide +kernel
  cases hrun : pump.inStudio {} with
  | error fault =>
    rw [hrun] at hcompleted
    cases hcompleted
  | ok made =>
    obtain ⟨builder, hbuilder, hprogram, -⟩ := inStudio_refines_onBuilder hrun
    rw [hbuilder] at hbuilt
    obtain ⟨hstates, hconflicts, hend, hmarkings⟩ := by
      simpa only [Except.toOption, Option.map_some, Option.some.injEq, Prod.mk.injEq] using hbuilt
    exact ⟨_, _, builder, rfl, hbuilder, hprogram, hstates, hconflicts, hend, hmarkings⟩

end StateSketch
