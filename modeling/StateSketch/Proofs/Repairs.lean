import StateSketch.Proofs.Defects

/-!
# Repairs

Declaring what was missing takes the errors about it out of the report and leaves the others as they
are, in their order.  Both kinds of repair, a new resource and a new state, are seen as one: the
names that the checks look up become more, and each new name solves the problem that it was missing.
-/

namespace StateSketch

/-- Whether the finding is about one of the problems, at whatever place. -/
def Diagnostic.tellsOf (finding : Diagnostic) (problems : List Problem) : Bool :=
  problems.any fun problem ↦ finding.code == problem.code && finding.message == problem.message

/-- The codes of the problems that a declaration can solve. -/
def solvableCodes : List DiagnosticCode :=
  [.undeclaredResource, .undeclaredState, .missingInitialState]

namespace Problem

theorem message_undeclaredResource (name : String) :
    (undeclaredResource name).message = "undeclared '" ++ name ++ "'" :=
  rfl

theorem message_undeclaredState (name : String) :
    (undeclaredState name).message = "undeclared state '" ++ name ++ "'" :=
  rfl

theorem eq_of_quoted_eq {opening closing name other : String}
    (heq : opening ++ name ++ closing = opening ++ other ++ closing) : name = other := by
  have hlists := congrArg String.toList heq
  simp only [String.toList_append, List.append_assoc, List.append_cancel_left_eq,
    List.append_cancel_right_eq] at hlists
  exact String.toList_inj.1 hlists

/-- What can be solved is told apart by code and message. -/
theorem eq_of_message_eq {problem other : Problem} (hsolvable : problem.code ∈ solvableCodes)
    (hcode : problem.code = other.code) (hmessage : problem.message = other.message) :
    problem = other := by
  cases problem <;> cases other <;> simp [code, solvableCodes] at hcode hsolvable
  · rw [message_undeclaredResource, message_undeclaredResource] at hmessage
    rw [eq_of_quoted_eq hmessage]
  · rw [message_undeclaredState, message_undeclaredState] at hmessage
    rw [eq_of_quoted_eq hmessage]
  · rfl

theorem tellsOf_report {problem : Problem} (hsolvable : problem.code ∈ solvableCodes)
    (origin : Origin) (solved : List Problem) :
    (problem.report origin).tellsOf solved = decide (problem ∈ solved) := by
  rw [Bool.eq_iff_iff, decide_eq_true_iff, Diagnostic.tellsOf, List.any_eq_true]
  constructor
  · rintro ⟨other, hother, htold⟩
    obtain ⟨hcode, hmessage⟩ := Bool.and_eq_true_iff.1 htold
    rw [eq_of_message_eq hsolvable (beq_iff_eq.1 hcode) (beq_iff_eq.1 hmessage)]
    exact hother
  · intro hmem
    exact ⟨problem, hmem, by simp [report]⟩

end Problem

/-- Findings of other kinds are not about problems that were solved. -/
theorem filter_tellsOf_eq_self {findings : List Diagnostic} {solved : List Problem}
    (hsolved : ∀ problem ∈ solved, problem.code ∈ solvableCodes)
    (hfindings : ∀ finding ∈ findings, finding.code ∉ solvableCodes) :
    findings.filter (!·.tellsOf solved) = findings := by
  apply List.filter_eq_self.2
  intro finding hfinding
  rw [Bool.not_eq_true', ← Bool.not_eq_true, Diagnostic.tellsOf, List.any_eq_true]
  rintro ⟨problem, hproblem, htold⟩
  apply hfindings finding hfinding
  rw [beq_iff_eq.1 (Bool.and_eq_true_iff.1 htold).1]
  exact hsolved problem hproblem

namespace Program

/-- The second program declares what the first one does, and also the names whose lack is among the
problems that were solved.  What else the checks look at is the same in both, and states that were
added give no reason for findings. -/
structure Repairs (solved : List Problem) (program repaired : Program) : Prop where
  solvable : ∀ problem ∈ solved, problem.code ∈ solvableCodes
  resources : ∀ name, repaired.registry.contains name =
    (program.registry.contains name || decide (Problem.undeclaredResource name ∈ solved))
  states : ∀ name, repaired.containsState name =
    (program.containsState name || decide (Problem.undeclaredState name ∈ solved))
  missing : decide (Problem.missingInitialState ∈ solved) =
    program.initial.any fun name ↦ decide (Problem.undeclaredState name ∈ solved)
  sound : repaired.stateFindings repaired.states = repaired.stateFindings program.states
  conflicts : repaired.registry.conflicts = program.registry.conflicts
  owner : repaired.faultPinOwner? = program.faultPinOwner?
  faultStates : repaired.faultStates = program.faultStates
  name : repaired.name = program.name
  initial : repaired.initial = program.initial
  initialMarkings : repaired.initialMarkings = program.initialMarkings
  faultPin : repaired.faultPin = program.faultPin
  endLine : repaired.endLine = program.endLine
  file : repaired.file = program.file

namespace Repairs

variable {solved : List Problem} {program repaired : Program}

theorem place_eq (hrepairs : Repairs solved program repaired) (origin : Origin) :
    repaired.place origin = program.place origin := by
  rw [place, place, hrepairs.file]

theorem resourceFindings_eq (hrepairs : Repairs solved program repaired) (names : List String)
    (origin : Origin) :
    repaired.resourceFindings names origin =
      (program.resourceFindings names origin).filter (!·.tellsOf solved) := by
  unfold resourceFindings
  rw [List.filter_map, List.filter_filter, hrepairs.place_eq]
  congr 1
  apply List.filter_congr
  intro name _
  have hsolvable : (Problem.undeclaredResource name).code ∈ solvableCodes := List.mem_cons_self
  rw [hrepairs.resources, Bool.not_or, Bool.and_comm, Function.comp_apply,
    Problem.tellsOf_report hsolvable]

theorem targetFindings_eq (hrepairs : Repairs solved program repaired) (transition : Transition) :
    repaired.targetFindings transition =
      (program.targetFindings transition).filter (!·.tellsOf solved) := by
  have hsolvable : (Problem.undeclaredState transition.target).code ∈ solvableCodes :=
    List.mem_cons_of_mem _ List.mem_cons_self
  unfold targetFindings
  rw [hrepairs.states, hrepairs.place_eq]
  cases program.containsState transition.target with
  | true => rfl
  | false =>
    rw [if_neg Bool.false_ne_true, List.filter_singleton, Problem.tellsOf_report hsolvable]
    cases decide (Problem.undeclaredState transition.target ∈ solved) <;> rfl

theorem transitionFindings_eq (hrepairs : Repairs solved program repaired)
    (transition : Transition) :
    repaired.transitionFindings transition =
      (program.transitionFindings transition).filter (!·.tellsOf solved) := by
  change _ ++ repaired.targetFindings transition = (_ ++ program.targetFindings transition).filter _
  rw [List.filter_append, ← hrepairs.resourceFindings_eq, ← hrepairs.targetFindings_eq]

theorem repetitionFindings_eq (hrepairs : Repairs solved program repaired) (state : State)
    (later : List State) :
    repaired.repetitionFindings state later =
      (program.repetitionFindings state later).filter (!·.tellsOf solved) := by
  rw [filter_tellsOf_eq_self hrepairs.solvable]
  · rw [repetitionFindings, repetitionFindings, hrepairs.place_eq]
  · intro finding hfinding
    rw [code_of_mem_repetitionFindings hfinding]
    decide

theorem stateFindings_eq (hrepairs : Repairs solved program repaired) (states : List State) :
    repaired.stateFindings states =
      (program.stateFindings states).filter (!·.tellsOf solved) := by
  induction states with
  | nil => rfl
  | cons state later ih =>
    have hactions : state.actions.flatMap repaired.actionFindings =
        (state.actions.flatMap program.actionFindings).filter (!·.tellsOf solved) := by
      rw [List.filter_flatMap]
      exact List.flatMap_congr fun action _ ↦ hrepairs.resourceFindings_eq _ _
    have htransitions : state.transitions.flatMap repaired.transitionFindings =
        (state.transitions.flatMap program.transitionFindings).filter (!·.tellsOf solved) := by
      rw [List.filter_flatMap]
      exact List.flatMap_congr fun transition _ ↦ hrepairs.transitionFindings_eq transition
    simp only [stateFindings, List.filter_append, hactions, htransitions,
      hrepairs.repetitionFindings_eq, ih]

theorem initialFindings_eq (hrepairs : Repairs solved program repaired) :
    repaired.initialFindings = program.initialFindings.filter (!·.tellsOf solved) := by
  have hsolvable : Problem.missingInitialState.code ∈ solvableCodes := by decide
  have hfound : repaired.hasInitialState =
      (program.hasInitialState || decide (Problem.missingInitialState ∈ solved)) := by
    rw [hasInitialState, hasInitialState, hrepairs.missing, hrepairs.initial]
    cases program.initial with
    | none => rfl
    | some name => exact hrepairs.states name
  unfold initialFindings
  rw [hfound, hrepairs.endLine, hrepairs.file]
  cases program.hasInitialState with
  | true => rfl
  | false =>
    rw [if_neg Bool.false_ne_true, List.filter_singleton, Problem.tellsOf_report hsolvable]
    cases decide (Problem.missingInitialState ∈ solved) <;> rfl

theorem faultPinFindings_eq (hrepairs : Repairs solved program repaired) :
    repaired.faultPinFindings = program.faultPinFindings.filter (!·.tellsOf solved) := by
  rw [filter_tellsOf_eq_self hrepairs.solvable]
  · unfold faultPinFindings
    simp only [hrepairs.faultPin, hrepairs.faultStates, hrepairs.owner, hrepairs.place_eq]
  · intro finding hfinding
    have hcodes : ∀ code ∈ [DiagnosticCode.missingFaultPin, .duplicatePort],
        code ∉ solvableCodes := by decide
    exact hcodes _ (code_of_mem_faultPinFindings hfinding)

theorem conflictFindings_eq (hrepairs : Repairs solved program repaired) :
    repaired.conflictFindings = program.conflictFindings := by
  unfold conflictFindings
  simp only [hrepairs.conflicts, hrepairs.place_eq]

/-- What the checks find apart from conflicts. -/
theorem errors_eq (hrepairs : Repairs solved program repaired) :
    ∃ found, (Report.ofDiagnostics program.findings).errors =
        program.conflictFindings.filter (·.isError) ++ found ∧
      (Report.ofDiagnostics repaired.findings).errors =
        program.conflictFindings.filter (·.isError) ++ found.filter (!·.tellsOf solved) := by
  refine ⟨program.stateFindings program.states ++ program.initialFindings ++
    program.faultPinFindings, ?_, ?_⟩
  · rw [errors_ofDiagnostics_findings, List.append_assoc, List.append_assoc, List.append_assoc]
  · rw [errors_ofDiagnostics_findings, hrepairs.conflictFindings_eq, hrepairs.sound,
      hrepairs.stateFindings_eq, hrepairs.initialFindings_eq, hrepairs.faultPinFindings_eq,
      List.filter_append, List.filter_append, List.append_assoc, List.append_assoc,
      List.append_assoc]

theorem warnings_eq (hrepairs : Repairs solved program repaired)
    (hline : repaired.markingLine = program.markingLine) :
    (Report.ofDiagnostics repaired.findings).warnings =
      (Report.ofDiagnostics program.findings).warnings := by
  have hname : repaired.nameFindings = program.nameFindings := by
    rw [nameFindings, nameFindings, hrepairs.name, hrepairs.file]
  have hmarking : repaired.markingFindings = program.markingFindings := by
    rw [markingFindings, markingFindings, hasSeveralMarkings, hasSeveralMarkings,
      hrepairs.initialMarkings, hrepairs.initial, hrepairs.file, hline]
  rw [warnings_ofDiagnostics_findings, warnings_ofDiagnostics_findings,
    hrepairs.conflictFindings_eq, hname, hmarking]

theorem isTellable_eq (hrepairs : Repairs solved program repaired) :
    repaired.isTellable = program.isTellable := by
  rw [isTellable, isTellable, hasSeveralMarkings, hasSeveralMarkings, hrepairs.owner,
    hrepairs.faultPin, hrepairs.initialMarkings]

end Repairs

/-- The errors about problems that were solved are gone, and all others are there in their order.
Conflicts stay, whatever a registry that was not filled by calls may hold as such. -/
structure Relieved (program : Program) (solved : List Problem) (before after : List Diagnostic) :
    Prop where
  found : ∃ found, before = program.conflictFindings.filter (·.isError) ++ found ∧
    after = program.conflictFindings.filter (·.isError) ++ found.filter (!·.tellsOf solved)
  reachable : program.registry.Reachable → after = before.filter (!·.tellsOf solved)

/-- How the reports on two programs compare; where one is refused, so is the other. -/
def Compared (relation : Report → Report → Prop) :
    Except Fault Report → Except Fault Report → Prop
  | .ok before, .ok after => relation before after
  | .error fault, .error other => fault = other
  | _, _ => False

theorem Compared.exists_report {relation : Report → Report → Prop} {before : Report}
    {outcome : Except Fault Report} (hcompared : Compared relation (.ok before) outcome) :
    ∃ after, outcome = .ok after ∧ relation before after := by
  cases outcome with
  | ok after => exact ⟨after, rfl, hcompared⟩
  | error fault => exact hcompared.elim

namespace Repairs

variable {solved : List Problem} {program repaired : Program}

theorem relieved (hrepairs : Repairs solved program repaired) :
    program.Relieved solved (Report.ofDiagnostics program.findings).errors
      (Report.ofDiagnostics repaired.findings).errors := by
  obtain ⟨found, hbefore, hafter⟩ := hrepairs.errors_eq
  refine ⟨⟨found, hbefore, hafter⟩, fun hreachable ↦ ?_⟩
  have hkept : (program.conflictFindings.filter (·.isError)).filter (!·.tellsOf solved) =
      program.conflictFindings.filter (·.isError) := by
    apply filter_tellsOf_eq_self hrepairs.solvable
    intro finding hfinding
    have hcodes : ∀ code ∈ [DiagnosticCode.duplicateResourceName, .duplicatePort],
        code ∉ solvableCodes := by decide
    exact hcodes _ (code_of_mem_conflictFindings hreachable (List.mem_filter.1 hfinding).1)
  rw [hbefore, hafter, List.filter_append, hkept]

theorem compared (hrepairs : Repairs solved program repaired) {relation : Report → Report → Prop}
    (hrelation : relation (Report.ofDiagnostics program.findings)
      (Report.ofDiagnostics repaired.findings)) :
    Compared relation program.validate repaired.validate := by
  rw [validate, validate, hrepairs.isTellable_eq]
  cases program.isTellable with
  | true => exact hrelation
  | false => rfl

end Repairs

/-! ## A new resource -/

variable {program : Program}

theorem repairs_insert {resource : Resource} (hname : resource.name ∉ program.registry.names)
    (hport : resource.port ∉ program.registry.ports)
    (hpin : program.faultPin ≠ some resource.port) :
    Repairs [.undeclaredResource resource.name] program
      { program with registry := program.registry.insert resource } where
  solvable := by simp [Problem.code, solvableCodes]
  resources name := by
    rw [Registry.contains_insert]
    simp [Bool.beq_eq_decide_eq, eq_comm]
  states name := by simp [containsState]
  missing := by simp
  sound := rfl
  conflicts := by
    have hnone := (Registry.conflictsOf_eq_nil_iff _ _).2 ⟨hname, hport⟩
    rw [Registry.conflicts_insert, hnone, List.append_nil]
  owner := by
    cases hgiven : program.faultPin with
    | none => simp [faultPinOwner?, hgiven]
    | some pin =>
      have hother : (resource.port == pin) = false :=
        beq_false_of_ne fun hsame ↦ hpin (by rw [hgiven, hsame])
      simp [faultPinOwner?, hgiven, Registry.ownerOfPort?, List.find?_append, hother]
  faultStates := rfl
  name := rfl
  initial := rfl
  initialMarkings := rfl
  faultPin := rfl
  endLine := rfl
  file := rfl

/-! ## A new state -/

/-- A state that uses declared names only and has a name of its own makes no difference. -/
theorem stateFindings_concat {states : List State} {state : State}
    (hnew : state.name ∉ states.map (·.name)) (hresolved : program.StateResolved state) :
    program.stateFindings (states ++ [state]) = program.stateFindings states := by
  induction states with
  | nil =>
    have hsingle : ∀ other ∈ [state], program.StateResolved other := by simpa using hresolved
    exact (stateFindings_eq_nil_iff program [state]).2 ⟨List.nodup_singleton _, hsingle⟩
  | cons first later ih =>
    rw [List.map_cons, List.mem_cons, not_or] at hnew
    have hrepeated : program.repetitionFindings first (later ++ [state]) =
        program.repetitionFindings first later := by
      simp [repetitionFindings, beq_false_of_ne hnew.1]
    rw [List.cons_append, stateFindings, stateFindings, hrepeated, ih hnew.2]

/-- What a new state of a name solves. -/
def solvedByState (program : Program) (name : String) : List Problem :=
  .undeclaredState name :: if program.initial = some name then [.missingInitialState] else []

theorem repairs_addState {state : State} (hnormal : state.isFault = false)
    (hnew : state.name ∉ program.stateNames)
    (hresolved : (program.addState state false).StateResolved state) :
    Repairs (program.solvedByState state.name) program (program.addState state false) where
  solvable := by
    unfold solvedByState
    split <;> simp [Problem.code, solvableCodes]
  resources name := by
    unfold solvedByState
    split <;> simp
  states name := by
    rw [containsState_addState]
    unfold solvedByState
    split <;> simp [Bool.beq_eq_decide_eq, eq_comm]
  missing := by
    unfold solvedByState
    cases hinitial : program.initial with
    | none => rfl
    | some name => by_cases hsame : name = state.name <;> simp [hsame]
  sound := stateFindings_concat hnew hresolved
  conflicts := rfl
  owner := rfl
  faultStates := by simp [faultStates, hnormal]
  name := rfl
  initial := rfl
  initialMarkings := rfl
  faultPin := rfl
  endLine := rfl
  file := rfl

theorem markingLine_addState {state : State} (hother : program.initial ≠ some state.name) :
    (program.addState state false).markingLine = program.markingLine := by
  have hchosen : (program.addState state false).initialState? = program.initialState? := by
    unfold initialState?
    change program.initial.bind (program.addState state false).state? = _
    cases hinitial : program.initial with
    | none => rfl
    | some name =>
      have hname : (state.name == name) = false :=
        beq_false_of_ne fun hsame ↦ hother (by rw [hinitial, hsame])
      simp [state?, hname]
  unfold markingLine
  rw [hchosen]
  rfl

/-- A new resource with a name and a port of its own solves that its name was not declared, and
nothing else in the report changes.  A new state that is no fault state, has a name of its own and
uses declared names only solves that its name was not declared, and that there was no initial state
if that is its name; the warnings stay as well unless it becomes the initial state. -/
theorem validate_repaired (program : Program) :
    (∀ resource : Resource, resource.name ∉ program.registry.names →
      resource.port ∉ program.registry.ports → program.faultPin ≠ some resource.port →
      ∃ registry, program.registry.register resource = (.ok (), registry) ∧
        Compared (fun before after ↦
            program.Relieved [.undeclaredResource resource.name] before.errors after.errors ∧
              after.warnings = before.warnings)
          program.validate { program with registry := registry }.validate) ∧
    ∀ state : State, state.isFault = false → state.name ∉ program.stateNames →
      (program.addState state false).StateResolved state →
      Compared (fun before after ↦
          program.Relieved (program.solvedByState state.name) before.errors after.errors ∧
            (program.initial ≠ some state.name → after.warnings = before.warnings))
        program.validate (program.addState state false).validate := by
  constructor
  · intro resource hname hport hpin
    have hrepairs := repairs_insert hname hport hpin
    exact ⟨_, Registry.register_of_unused hport,
      hrepairs.compared ⟨hrepairs.relieved, hrepairs.warnings_eq rfl⟩⟩
  · intro state hnormal hnew hresolved
    have hrepairs := repairs_addState hnormal hnew hresolved
    apply hrepairs.compared
    exact ⟨hrepairs.relieved, fun hother ↦ hrepairs.warnings_eq (markingLine_addState hother)⟩

end Program

/-- The derelict program, to be started in a state that was never declared. -/
def misdirected : Program :=
  { derelict with initial := some "alert" }

/-- A sensor that the program reads twice. -/
def doorContact : Resource where
  name := "door"
  kind := .sensor
  port := 7

/-- The state that the program goes to and starts in. -/
def alertState : State where
  name := "alert"
  body := .normal
    [{ target := "lamp", level := .high }] [{ trigger := .delay 500, target := "idle" }]

namespace Program

theorem misdirected_repaired :
    ∃ before mended extended : Report,
      misdirected.validate = .ok before ∧
      { misdirected with registry := (misdirected.registry.register doorContact).2 }.validate =
        .ok mended ∧
      (misdirected.addState alertState false).validate = .ok extended ∧
      before.errors.map (·.code) =
        [.duplicateResourceName, .duplicatePort, .undeclaredResource, .undeclaredResource,
          .undeclaredResource, .undeclaredState, .duplicateStateName, .missingInitialState,
          .missingFaultPin] ∧
      mended.errors.map (·.code) =
        [.duplicateResourceName, .duplicatePort, .undeclaredResource, .undeclaredState,
          .duplicateStateName, .missingInitialState, .missingFaultPin] ∧
      mended.errors = before.errors.filter (!·.tellsOf [.undeclaredResource "door"]) ∧
      extended.errors.map (·.code) =
        [.duplicateResourceName, .duplicatePort, .undeclaredResource, .undeclaredResource,
          .undeclaredResource, .duplicateStateName, .missingFaultPin] ∧
      extended.errors =
        before.errors.filter (!·.tellsOf [.undeclaredState "alert", .missingInitialState]) := by
  obtain ⟨hresource, hstate⟩ := validate_repaired misdirected
  obtain ⟨registry, hregister, hmended⟩ :=
    hresource doorContact (by decide +kernel) (by decide +kernel) (by decide +kernel)
  have hextended := hstate alertState rfl (by decide +kernel)
    ⟨by decide +kernel, by decide +kernel, by decide +kernel⟩
  have hreachable : misdirected.registry.Reachable := by
    dsimp only [misdirected, derelict]
    exact (Registry.Reachable.empty.register _).register _
  obtain rfl : (misdirected.registry.register doorContact).2 = registry := by rw [hregister]
  have hbefore : misdirected.validate = .ok (Report.ofDiagnostics misdirected.findings) := by
    decide +kernel
  have hsolved : misdirected.solvedByState alertState.name =
      [.undeclaredState "alert", .missingInitialState] := by
    decide +kernel
  rw [hbefore] at hmended hextended
  rw [hsolved] at hextended
  obtain ⟨mended, hvalidated, hrelieved, -⟩ := hmended.exists_report
  obtain ⟨extended, hrevalidated, hlightened, -⟩ := hextended.exists_report
  have hgone := hrelieved.reachable hreachable
  have hfewer := hlightened.reachable hreachable
  refine ⟨_, mended, extended, hbefore, hvalidated, hrevalidated, by decide +kernel, ?_, hgone, ?_,
    hfewer⟩
  · rw [hgone]
    decide +kernel
  · rw [hfewer]
    decide +kernel

/-- A program without defects, into whose registry it was written that a resource is missing. -/
def slandered : Program where
  name := "Slandered"
  registry := { conflicts := [{ code := .undeclaredResource, message := "undeclared 'door'" }] }
  states := [{ name := "idle" }]
  initial := some "idle"
  initialMarkings := 1

/-- What was written into the registry stays there although the resource is declared. -/
theorem slandered_not_relieved :
    doorContact.name ∉ slandered.registry.names ∧ doorContact.port ∉ slandered.registry.ports ∧
      slandered.faultPin ≠ some doorContact.port ∧
      ∃ before after : Report, slandered.validate = .ok before ∧
        { slandered with registry := (slandered.registry.register doorContact).2 }.validate =
          .ok after ∧
        after.errors = [{ code := .undeclaredResource, message := "undeclared 'door'" }] ∧
        before.errors.filter (!·.tellsOf [.undeclaredResource "door"]) = [] := by
  refine ⟨by decide +kernel, by decide +kernel, by decide +kernel,
    Report.ofDiagnostics slandered.findings, Report.ofDiagnostics slandered.findings,
    by decide +kernel, by decide +kernel, by decide +kernel, by decide +kernel⟩

end Program

end StateSketch
