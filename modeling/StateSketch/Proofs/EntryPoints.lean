import StateSketch.Proofs.Bench
import StateSketch.Proofs.Compilation

/-!
# Ways to compile

A program can be compiled to a text or to a list of errors, to both together with its warnings, or
again from its parts.  All ways come to the same text and to the same errors and warnings, except
that a program put together from parts knows neither its last line nor how often a state was marked
as the initial one.  They differ in what they have to show, and so in the numbers that can be too
wide for them.
-/

namespace StateSketch

/-- Takes the line away that a missing initial state is reported at. -/
def Diagnostic.withoutLastLine (diagnostic : Diagnostic) : Diagnostic :=
  if diagnostic.code = .missingInitialState then
    { diagnostic with origin := { diagnostic.origin with line := none } }
  else diagnostic

theorem Diagnostic.withoutLastLine_eq_self {diagnostic : Diagnostic}
    (hcode : diagnostic.code ≠ .missingInitialState) :
    diagnostic.withoutLastLine = diagnostic := by
  rw [withoutLastLine, if_neg hcode]

namespace Emission

/-- The text, or else the fault that lists the errors in its way. -/
def sourceOrErrors (emission : Emission) : Except Fault String :=
  match emission.source with
  | some source => .ok source
  | none =>
    .error (.rejected (s!"{emission.report.errors.length} error(s)." ::
      emission.report.errors.map fun error ↦ error.code.word ++ " @ " ++ error.render))

/-- What is left if the last line and the markings are not known. -/
def fromParts (emission : Emission) : Emission where
  source := emission.source
  report := {
    errors := emission.report.errors.map (·.withoutLastLine)
    warnings := emission.report.warnings.filter (·.code != .multipleInitialStates) }

end Emission

namespace Program

variable {program : Program} {debounce : Nat}

/-! ## The text or the errors -/

/-- Whether a number that has to be shown with the text, or else with the errors, has too many
digits. -/
def hasWideGeneration (program : Program) (debounce : Nat) : Bool :=
  program.hasWideFaultPin || program.hasWideMarkings ||
    if (Report.ofDiagnostics program.findings).errors.isEmpty then program.hasWideNumeral debounce
    else (Report.ofDiagnostics program.findings).errors.any (·.hasWideLine)

theorem rejectionLines_eq (errors : List Diagnostic) :
    rejectionLines errors = Fault.unlessWide (errors.any (·.hasWideLine))
      (s!"{errors.length} error(s)." ::
        errors.map fun error ↦ error.code.word ++ " @ " ++ error.render) := by
  have hentries : (errors.mapM fun error ↦ do return error.code.word ++ " @ " ++ (← error.format)) =
      Fault.unlessWide (errors.any (·.hasWideLine))
        (errors.map fun error ↦ error.code.word ++ " @ " ++ error.render) := by
    apply Fault.mapM_unlessWide
    intro error _
    rw [Diagnostic.format_eq]
    cases error.hasWideLine <;> rfl
  rw [rejectionLines, hentries]
  cases errors.any (·.hasWideLine) <;> rfl

theorem generate_eq (program : Program) (debounce : Nat) :
    (program.generate debounce).1 =
      if program.hasWideGeneration debounce then .error .numeralTooWide
      else (program.emissionOf debounce).sourceOrErrors := by
  have htellable : program.isTellable = (!program.hasWideFaultPin && !program.hasWideMarkings) :=
    rfl
  unfold generate validate hasWideGeneration
  rw [htellable]
  cases program.hasWideFaultPin with
  | true => rfl
  | false =>
    cases program.hasWideMarkings with
    | true => rfl
    | false =>
      simp only [Bool.not_false, Bool.and_self, if_true, Bool.false_or]
      unfold emissionOf Emission.sourceOrErrors
      cases herrors : (Report.ofDiagnostics program.findings).errors with
      | nil =>
        have hresolved := ((errors_ofDiagnostics_findings_eq_nil_iff program).1 herrors).2
        rw [emit_eq hresolved]
        cases program.hasWideNumeral debounce <;> rfl
      | cons error rest =>
        dsimp only [List.isEmpty_cons]
        rw [rejectionLines_eq]
        cases (error :: rest).any (·.hasWideLine) with
        | true => rfl
        | false => simp

/-! ## Programs put together again -/

/-- The program put together from its parts. -/
def reassembled (program : Program) : Program :=
  { program with endLine := none, initialMarkings := startMarkings program.initial 0 }

theorem hasSeveralMarkings_reassembled (program : Program) :
    program.reassembled.hasSeveralMarkings = false := by
  unfold reassembled hasSeveralMarkings startMarkings
  cases program.initial <;> rfl

theorem initialFindings_reassembled (program : Program) :
    program.reassembled.initialFindings = program.initialFindings.map (·.withoutLastLine) := by
  have hsame : program.reassembled.hasInitialState = program.hasInitialState := rfl
  unfold initialFindings
  rw [hsame]
  split <;> rfl

theorem stateFindings_reassembled (program : Program) (states : List State) :
    program.reassembled.stateFindings states = program.stateFindings states := by
  induction states with
  | nil => rfl
  | cons state later ih =>
    rw [stateFindings, stateFindings, ih]
    rfl

theorem map_withoutLastLine_eq_self {findings : List Diagnostic} {codes : List DiagnosticCode}
    (hcodes : ∀ finding ∈ findings, finding.code ∈ codes)
    (hcode : DiagnosticCode.missingInitialState ∉ codes) :
    findings.map (·.withoutLastLine) = findings := by
  rw [← List.map_id findings, List.map_map]
  apply List.map_congr_left
  intro finding hfinding
  apply Diagnostic.withoutLastLine_eq_self
  intro hsame
  rw [← hsame] at hcode
  exact hcode (hcodes finding hfinding)

theorem errors_reassembled (hreachable : program.registry.Reachable) :
    (Report.ofDiagnostics program.reassembled.findings).errors =
      (Report.ofDiagnostics program.findings).errors.map (·.withoutLastLine) := by
  have hconflicts : (program.conflictFindings.filter (·.isError)).map (·.withoutLastLine) =
      program.conflictFindings.filter (·.isError) :=
    map_withoutLastLine_eq_self
      (fun _ h ↦ code_of_mem_conflictFindings hreachable (List.mem_filter.1 h).1) (by decide)
  have hstates : (program.stateFindings program.states).map (·.withoutLastLine) =
      program.stateFindings program.states :=
    map_withoutLastLine_eq_self (fun _ ↦ code_of_mem_stateFindings) (by decide)
  have hfault : program.faultPinFindings.map (·.withoutLastLine) = program.faultPinFindings :=
    map_withoutLastLine_eq_self (fun _ ↦ code_of_mem_faultPinFindings) (by decide)
  rw [errors_ofDiagnostics_findings, errors_ofDiagnostics_findings, initialFindings_reassembled,
    stateFindings_reassembled, List.map_append, List.map_append, List.map_append, hconflicts,
    hstates, hfault]
  rfl

theorem warnings_ofDiagnostics_findings_of_reachable (hreachable : program.registry.Reachable) :
    (Report.ofDiagnostics program.findings).warnings =
      program.nameFindings ++ program.markingFindings := by
  have hconflicts : program.conflictFindings.filter (!·.isError) = [] := by
    rw [List.filter_eq_nil_iff]
    intro finding hfinding
    have hcode := code_of_mem_conflictFindings hreachable hfinding
    rw [Diagnostic.isError_of_code hcode (by decide)]
    decide
  rw [warnings_ofDiagnostics_findings, hconflicts, List.nil_append]

theorem warnings_reassembled (hreachable : program.registry.Reachable) :
    (Report.ofDiagnostics program.reassembled.findings).warnings = program.nameFindings := by
  have hreassembled : program.reassembled.registry.Reachable := hreachable
  have hmarkings : program.reassembled.markingFindings = [] := by
    rw [markingFindings, hasSeveralMarkings_reassembled]
    rfl
  rw [warnings_ofDiagnostics_findings_of_reachable hreassembled, hmarkings, List.append_nil]
  rfl

theorem filter_warnings (hreachable : program.registry.Reachable) :
    (Report.ofDiagnostics program.findings).warnings.filter (·.code != .multipleInitialStates) =
      program.nameFindings := by
  have hmarkings : program.markingFindings.filter (·.code != .multipleInitialStates) = [] := by
    rw [List.filter_eq_nil_iff]
    intro finding hfinding
    rw [code_of_mem_markingFindings hfinding]
    decide
  have hname : program.nameFindings.filter (·.code != .multipleInitialStates) =
      program.nameFindings := by
    rw [List.filter_eq_self]
    intro finding hfinding
    rw [code_of_mem_nameFindings hfinding]
    decide
  rw [warnings_ofDiagnostics_findings_of_reachable hreachable, List.filter_append, hname,
    hmarkings, List.append_nil]

theorem isEmpty_errors_reassembled (hreachable : program.registry.Reachable) :
    (Report.ofDiagnostics program.reassembled.findings).errors.isEmpty =
      (Report.ofDiagnostics program.findings).errors.isEmpty := by
  rw [errors_reassembled hreachable, List.isEmpty_map]

theorem emissionOf_reassembled (hreachable : program.registry.Reachable) (debounce : Nat) :
    program.reassembled.emissionOf debounce = (program.emissionOf debounce).fromParts := by
  unfold emissionOf Emission.fromParts
  rw [isEmpty_errors_reassembled hreachable, ← errors_reassembled hreachable,
    filter_warnings hreachable, ← warnings_reassembled hreachable]
  rfl

/-- Whether a number that has to be shown for the program from its parts has too many digits. -/
def hasWideAssembly (program : Program) (debounce : Nat) : Bool :=
  program.hasWideFaultPin ||
    ((Report.ofDiagnostics program.findings).errors.isEmpty && program.hasWideNumeral debounce)

theorem hasWideCompilation_reassembled (hreachable : program.registry.Reachable) (debounce : Nat) :
    program.reassembled.hasWideCompilation debounce = program.hasWideAssembly debounce := by
  have hmarkings : program.reassembled.hasWideMarkings = false := by
    rw [hasWideMarkings, hasSeveralMarkings_reassembled, Bool.false_and]
  unfold hasWideCompilation hasWideReport hasWideAssembly
  rw [hmarkings, warnings_reassembled hreachable, any_hasWideLine_nameFindings,
    isEmpty_errors_reassembled hreachable, Bool.or_false, Bool.or_false]
  rfl

/-- Where a compilation can show all its numbers, the other ways can show theirs, except for the
lines of errors. -/
theorem narrow_of_hasWideCompilation_eq_false
    (hwide : program.hasWideCompilation debounce = false) :
    ((program.emissionOf debounce).source ≠ none → program.hasWideGeneration debounce = false) ∧
      program.hasWideAssembly debounce = false := by
  unfold hasWideCompilation hasWideReport at hwide
  simp only [Bool.or_eq_false_iff] at hwide
  obtain ⟨⟨⟨hpin, hmarkings⟩, -⟩, hnumeral⟩ := hwide
  refine ⟨fun hsource ↦ ?_, ?_⟩
  · have herrors : (Report.ofDiagnostics program.findings).errors = [] := by
      by_contra hne
      exact hsource ((emissionOf_source_eq_none_iff program debounce).2 hne)
    rw [herrors] at hnumeral
    rw [hasWideGeneration, hpin, hmarkings, herrors]
    exact hnumeral
  · rw [hasWideAssembly, hpin, hnumeral]
    rfl

theorem compile_reassembled_eq (hreachable : program.registry.Reachable) (debounce : Nat) :
    (program.reassembled.compile debounce).1 =
      Fault.unlessWide (program.hasWideAssembly debounce)
        (program.emissionOf debounce).fromParts := by
  rw [compile_eq, hasWideCompilation_reassembled hreachable, emissionOf_reassembled hreachable]

end Program

/-! ## Programs beside others -/

namespace Workbench

variable {bench : Workbench}

/-- A program that was put together with a copy of its states. -/
theorem program?_reassembled {program : Program} {registry initial faultPin file : Datum}
    {items : List Datum} (hregistry : bench.registryIn? registry = some program.registry)
    (hstates : items.mapM Datum.state? = some program.states)
    (hinitial : initial.textOrNothing? = some program.initial)
    (hpin : pin? faultPin = some program.faultPin)
    (hfile : file.textOrNothing? = some program.file) :
    let copied := bench.put ⟨.list, .items items, []⟩
    (copied.put ⟨.program, .empty, (ObjectSort.fieldNames .program).zip
      [.text program.name, registry, .object ⟨.list, bench.things.size⟩, initial, faultPin,
        .nothing, file, .integer program.reassembled.initialMarkings]⟩).program?
        (.object ⟨.program, copied.things.size⟩) = some program.reassembled := by
  intro copied
  generalize hthing : (⟨.program, .empty, _⟩ : Thing) = thing
  have hcopied : bench.Extends copied := bench.extends_put _
  have hadded : copied.Extends (copied.put thing) := copied.extends_put thing
  have hlength : bench.things.size < copied.things.size := by
    simp [copied, put]
  have hcontent : (copied.put thing).content ⟨.list, bench.things.size⟩ = .items items := by
    rw [hadded.content_eq hlength]
    exact bench.content_put_self _ .list
  have hmembers : (copied.put thing).members ⟨.program, copied.things.size⟩ = thing.members :=
    copied.members_put_self thing .program
  rw [← hthing] at hmembers
  have hholds : HoldsProgram (copied.put thing) ⟨.program, copied.things.size⟩ program.reassembled
      ⟨registry, ⟨.list, bench.things.size⟩, items, initial, faultPin, .nothing, file⟩ :=
    ⟨rfl, hthing ▸ hmembers, (hcopied.trans hadded).registryIn?_eq hregistry, rfl, hcontent,
      hstates, hinitial, hpin, rfl, hfile⟩
  exact hholds.program?_eq_some

end Workbench

/-! ## Calls -/

namespace Session

open Workbench (HoldsProgram ProgramParts)

variable {α : Type} {bench : Workbench} {datum : Datum} {program : Program}

@[simp]
theorem outcome_look (view : Workbench → Except Fault α) :
    outcome (look view) bench = (view bench, bench) :=
  rfl

@[simp]
theorem outcome_create (sort : ObjectSort) (content : Content) (members : List (String × Datum)) :
    outcome (create sort content members) bench =
      (.ok (.object ⟨sort, bench.things.size⟩), bench.put ⟨sort, content, members⟩) :=
  rfl

theorem outcome_compileProgram_nothing (debounce : Nat)
    (hprogram : bench.program? datum = some program) :
    (outcome (compileProgram datum .nothing (.integer debounce)) bench).1 =
      (program.compile debounce).1.map (·.datum) := by
  have hinterval : (Datum.integer debounce).argument.debounce = .ok debounce := rfl
  have hobject := Workbench.isObject_of_program? hprogram
  simp only [compileProgram, checkProgram, hobject, if_true, outcome_bind, outcome_pure,
    outcome_check, outcome_get, hinterval, hprogram]
  rcases program.compile debounce with ⟨fault | emission, entries⟩
  · rfl
  · rcases emission with ⟨_ | source, report⟩ <;> rfl

theorem outcome_generate (debounce : Nat) (hprogram : bench.program? datum = some program) :
    (outcome (generate datum (.integer debounce)) bench).1 = (program.generate debounce).1 := by
  have hinterval : (Datum.integer debounce).argument.debounce = .ok debounce := rfl
  have hobject := Workbench.isObject_of_program? hprogram
  simp only [generate, checkProgram, hobject, if_true, outcome_bind, outcome_pure,
    outcome_check, outcome_get, hinterval, hprogram]
  rcases program.generate debounce with ⟨result, entries⟩
  rfl

/-- Compiles a program again from its parts. -/
def compileAgain (program debounce : Datum) : Session Datum := do
  let name ← member program "name"
  let faultPin ← member program "fault_pin"
  let registry ← member program "registry"
  let states ← member program "states"
  let initial ← member program "initial"
  let file ← member program "source_file"
  compileParts name faultPin registry states initial file .nothing debounce

theorem faultPin_argument {pin : Option Nat} (hpin : Workbench.pin? datum = some pin) :
    datum.argument.faultPin = .ok pin := by
  cases datum with
  | nothing => exact congrArg Except.ok (Option.some.inj hpin)
  | integer value =>
    rw [Workbench.pin?] at hpin
    split at hpin
    · cases hpin
    · rename_i hnonnegative
      obtain rfl := Option.some.inj hpin
      exact if_neg hnonnegative
  | _ => cases hpin

theorem outcome_newProgram {registry states initial faultPin file : Datum}
    (hname : Program.checkName (.text program.name) = .ok program.name)
    (hinitial : initial.textOrNothing? = some program.initial)
    (hpin : Workbench.pin? faultPin = some program.faultPin) :
    outcome (newProgram (.text program.name) (some registry) (some states) initial faultPin
        .nothing file (.integer 0)) bench =
      (.ok (.object ⟨.program, bench.things.size⟩), bench.put ⟨.program, .empty,
        (ObjectSort.fieldNames .program).zip
          [.text program.name, registry, states, initial, faultPin, .nothing, file,
            .integer program.reassembled.initialMarkings]⟩) := by
  have hargument : (Datum.text program.name).argument = .text program.name := rfl
  have hmarkings : program.reassembled.initialMarkings =
      if program.initial.isSome then 1 else 0 := by
    unfold Program.reassembled Program.startMarkings
    cases program.initial <;> rfl
  have hchecked {β : Type} (value : β) :
      outcome (discard (check (.ok value))) bench = (.ok (), bench) :=
    rfl
  have hzero : outcome (agree (.integer 0) (.integer 0)) bench = (.ok true, bench) := rfl
  cases initial with
  | nothing =>
    obtain hinitial : none = program.initial := Option.some.inj hinitial
    simp [newProgram, outcome_bind, hargument, hname, faultPin_argument hpin, hchecked, hzero,
      hmarkings, ← hinitial, Datum.isNothing]
  | text value =>
    obtain hinitial : some value = program.initial := Option.some.inj hinitial
    simp [newProgram, outcome_bind, hargument, hname, faultPin_argument hpin, hchecked, hzero,
      hmarkings, ← hinitial, Datum.isNothing]
  | _ => cases hinitial

/-- The new program is the old one without its last line and its markings. -/
theorem outcome_compileParts {registry initial faultPin file : Datum} {states : Handle}
    {listed : List Datum} (debounce : Nat)
    (hname : Program.checkName (.text program.name) = .ok program.name)
    (hregistry : bench.registryIn? registry = some program.registry)
    (hsort : states.sort = .list) (hcontent : bench.content states = .items listed)
    (hstates : listed.mapM Datum.state? = some program.states)
    (hinitial : initial.textOrNothing? = some program.initial)
    (hpin : Workbench.pin? faultPin = some program.faultPin)
    (hfile : file.textOrNothing? = some program.file) :
    (outcome (compileParts (.text program.name) faultPin registry (.object states) initial file
        .nothing (.integer debounce)) bench).1 =
      (program.reassembled.compile debounce).1.map (·.datum) := by
  have hobject : registry.isObject .registry = true := Workbench.isObject_of_registryIn? hregistry
  have hitems : bench.items (.object states) = .ok listed := Workbench.items_list hsort hcontent
  have hprogram := Workbench.program?_reassembled hregistry hstates hinitial hpin hfile
  simp only [compileParts, hobject, if_true, items, newList, outcome_bind, outcome_look, hitems,
    outcome_create, outcome_newProgram hname hinitial hpin]
  exact outcome_compileProgram_nothing debounce hprogram

/-- Reading a program off its members and compiling it from them. -/
theorem outcome_compileAgain (debounce : Nat)
    (hprogram : bench.program? datum = some program)
    (hname : Program.checkName (.text program.name) = .ok program.name) :
    (outcome (compileAgain datum (.integer debounce)) bench).1 =
      (program.reassembled.compile debounce).1.map (·.datum) := by
  obtain ⟨handle, parts, rfl, hholds⟩ := Workbench.exists_holdsProgram hprogram
  have hmember (name : String) (value : Datum)
      (hlookup : (bench.members handle).lookup name = some value) :
      bench.member (.object handle) name = .ok value := by
    have hown : Workbench.ownName handle.sort name = name := by
      rw [hholds.sort]
      rfl
    rw [Workbench.member, Workbench.member?, hown, Workbench.stored?, hlookup]
  rw [hholds.members] at hmember
  simp only [compileAgain, member, outcome_bind, outcome_look,
    hmember "name" (.text program.name) rfl, hmember "fault_pin" parts.faultPin rfl,
    hmember "registry" parts.registry rfl, hmember "states" (.object parts.states) rfl,
    hmember "initial" parts.initial rfl, hmember "source_file" parts.file rfl]
  exact outcome_compileParts debounce hname hholds.registry hholds.states_sort
    hholds.states_content hholds.states hholds.initial hholds.faultPin hholds.file

/-- All ways to compile a program come to one emission: a text exactly if there are no errors.  Each
of them fails only on a number that it has to show and that has too many digits.  For a program put
together from its parts, the registry has to hold the conflicts that were recorded in it and no
others. -/
theorem entry_points_agree (debounce : Nat) (hprogram : bench.program? datum = some program)
    (hname : Program.checkName (.text program.name) = .ok program.name) :
    ∃ emission : Emission,
      (emission.source = none ↔ emission.report.errors ≠ []) ∧
      (outcome (compileProgram datum .nothing (.integer debounce)) bench).1 =
        (if program.hasWideCompilation debounce then .error .numeralTooWide
        else .ok emission.datum) ∧
      (outcome (generate datum (.integer debounce)) bench).1 =
        (if program.hasWideGeneration debounce then .error .numeralTooWide
        else emission.sourceOrErrors) ∧
      (program.registry.Reachable →
        (outcome (compileAgain datum (.integer debounce)) bench).1 =
          (if program.hasWideAssembly debounce then .error .numeralTooWide
          else .ok emission.fromParts.datum)) ∧
      (program.hasWideCompilation debounce = false →
        (emission.source ≠ none → program.hasWideGeneration debounce = false) ∧
          program.hasWideAssembly debounce = false) := by
  refine ⟨program.emissionOf debounce, program.emissionOf_source_eq_none_iff debounce, ?_, ?_, ?_,
    Program.narrow_of_hasWideCompilation_eq_false⟩
  · rw [outcome_compileProgram_nothing debounce hprogram, Program.compile_eq]
    cases program.hasWideCompilation debounce <;> rfl
  · rw [outcome_generate debounce hprogram, Program.generate_eq]
  · intro hreachable
    rw [outcome_compileAgain debounce hprogram hname, Program.compile_reassembled_eq hreachable]
    cases program.hasWideAssembly debounce <;> rfl

theorem barrier_agreed :
    ∃ emission : Emission,
      (outcome (compileProgram (.object ⟨.program, 4⟩) .nothing (.integer 50))
        Workbench.withBarrier).1 = .ok emission.datum ∧
      (outcome (generate (.object ⟨.program, 4⟩) (.integer 50)) Workbench.withBarrier).1 =
        emission.sourceOrErrors ∧
      (outcome (compileAgain (.object ⟨.program, 4⟩) (.integer 50)) Workbench.withBarrier).1 =
        .ok emission.fromParts.datum := by
  have hregistry : Registry.fill barrier.registry.resources {} = .ok barrier.registry := by
    decide +kernel
  have hreachable := Registry.Reachable.empty.fill hregistry
  obtain ⟨emission, -, hcompiled, hgenerated, hagain, -⟩ :=
    entry_points_agree 50 Workbench.program?_withBarrier (by decide +kernel)
  have hcompilation : barrier.hasWideCompilation 50 = false := by decide +kernel
  have hgeneration : barrier.hasWideGeneration 50 = false := by decide +kernel
  have hassembly : barrier.hasWideAssembly 50 = false := by decide +kernel
  rw [hcompilation] at hcompiled
  rw [hgeneration] at hgenerated
  have hassembled := hagain hreachable
  rw [hassembly] at hassembled
  exact ⟨emission, hcompiled, hgenerated, hassembled⟩

end Session

/-- A program without a state, whose last line has too many digits. -/
def endless : Program where
  name := "Endless"
  endLine := some Text.leastWide

/-- The endless program with its list of states and its registry. -/
def Workbench.withEndless : Workbench where
  things := #[
    { sort := .list, content := .items [] },
    { sort := .list, content := .items [] },
    { sort := .registry
      members := [("_resources", .object ⟨.list, 0⟩), ("conflicts", .object ⟨.list, 1⟩)] },
    { sort := .list, content := .items [] },
    { sort := .program
      members := [("name", .text "Endless"), ("registry", .object ⟨.registry, 2⟩),
        ("states", .object ⟨.list, 3⟩), ("initial", .nothing), ("fault_pin", .nothing),
        ("end_line", .integer Text.leastWide), ("source_file", .nothing),
        ("initial_markings", .integer 0)] }]

/-- A conflict that no registry has recorded. -/
def Workbench.forgedConflict : Diagnostic where
  code := .missingInitialState
  message := "no initial state declared"
  origin := { line := some 5 }

/-- A program with an initial state, whose registry holds the forged conflict. -/
def forged : Program where
  name := "Forged"
  registry := { conflicts := [Workbench.forgedConflict] }
  states := [{ name := "idle", body := .normal [] [] }]
  initial := some "idle"
  initialMarkings := 1

/-- What the forged conflict makes of a compilation. -/
def forgedEmission : Emission where
  source := none
  report := { errors := [Workbench.forgedConflict] }

/-- The forged program with its list of states and its registry. -/
def Workbench.withForged : Workbench where
  things := #[
    { sort := .list, content := .items [] },
    { sort := .list, content := .items [forgedConflict.datum] },
    { sort := .registry
      members := [("_resources", .object ⟨.list, 0⟩), ("conflicts", .object ⟨.list, 1⟩)] },
    { sort := .list, content := .items [State.datum { name := "idle", body := .normal [] [] }] },
    { sort := .program
      members := [("name", .text "Forged"), ("registry", .object ⟨.registry, 2⟩),
        ("states", .object ⟨.list, 3⟩), ("initial", .text "idle"), ("fault_pin", .nothing),
        ("end_line", .nothing), ("source_file", .nothing), ("initial_markings", .integer 1)] }]

/-- The errors that a compilation reports cannot always be listed.  And a conflict that was put into
the registry from outside keeps its line also if the program is put together from its parts. -/
theorem Session.endless_unlisted :
    (∃ program, Workbench.withEndless.program? (.object ⟨.program, 4⟩) = some program ∧
      Program.checkName (.text program.name) = .ok program.name ∧
      program.registry.Reachable ∧
      (outcome (compileProgram (.object ⟨.program, 4⟩) .nothing (.integer 200))
        Workbench.withEndless).1 =
        .ok (Emission.datum { source := none, report := { errors :=
          [Problem.missingInitialState.report { line := some Text.leastWide }] } }) ∧
      (outcome (generate (.object ⟨.program, 4⟩) (.integer 200)) Workbench.withEndless).1 =
        .error .numeralTooWide) ∧
    ∃ program emission, Workbench.withForged.program? (.object ⟨.program, 4⟩) = some program ∧
      Program.checkName (.text program.name) = .ok program.name ∧
      emission.report.errors = [Workbench.forgedConflict] ∧
      emission.fromParts.report.errors = [{ Workbench.forgedConflict with origin := {} }] ∧
      (outcome (compileProgram (.object ⟨.program, 4⟩) .nothing (.integer 200))
        Workbench.withForged).1 = .ok (Emission.datum emission) ∧
      (outcome (compileAgain (.object ⟨.program, 4⟩) (.integer 200)) Workbench.withForged).1 =
        .ok emission.datum := by
  constructor
  · have hprogram : Workbench.withEndless.program? (.object ⟨.program, 4⟩) = some endless := by
      decide +kernel
    have hcompiled : (endless.compile 200).1 =
        .ok { source := none, report := { errors :=
          [Problem.missingInitialState.report { line := some Text.leastWide }] } } := by
      decide +kernel
    have hgenerated : (endless.generate 200).1 = .error .numeralTooWide := by
      decide +kernel
    refine ⟨endless, hprogram, by decide +kernel, .empty, ?_, ?_⟩
    · exact (outcome_compileProgram_nothing 200 hprogram).trans (congrArg _ hcompiled)
    · exact (outcome_generate 200 hprogram).trans hgenerated
  · have hprogram : Workbench.withForged.program? (.object ⟨.program, 4⟩) = some forged := by
      decide +kernel
    have hcompiled : (forged.compile 200).1 = .ok forgedEmission := by decide +kernel
    have hassembled : (forged.reassembled.compile 200).1 = .ok forgedEmission := by decide +kernel
    have hname : Program.checkName (.text forged.name) = .ok forged.name := by decide +kernel
    refine ⟨forged, forgedEmission, hprogram, hname, rfl, by decide +kernel, ?_, ?_⟩
    · exact (outcome_compileProgram_nothing 200 hprogram).trans (congrArg _ hcompiled)
    · exact (outcome_compileAgain 200 hprogram hname).trans (congrArg _ hassembled)

end StateSketch
