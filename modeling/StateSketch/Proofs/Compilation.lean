import StateSketch.Proofs.Bench
import StateSketch.Proofs.Emission
import StateSketch.Session.Compilation

/-!
# When a compilation emits

A compilation fails only on a number that has to be shown and has too many digits.  Otherwise it
reports what validation reports, and it emits the text of the sketch exactly if there are no
errors; a buffer that is given takes up that text and nothing else.
-/

namespace StateSketch

/-- Whether the line of the diagnostic has too many digits. -/
def Diagnostic.hasWideLine (diagnostic : Diagnostic) : Bool :=
  diagnostic.origin.line.any (Text.isTooWide ·)

theorem Diagnostic.format_eq (diagnostic : Diagnostic) :
    diagnostic.format = Fault.unlessWide diagnostic.hasWideLine diagnostic.render := by
  unfold Diagnostic.format Diagnostic.hasWideLine
  cases diagnostic.origin.line with
  | none => rfl
  | some line =>
    simp only [Option.forM, Option.any_some, Fault.checkWidth_eq]
    cases Text.isTooWide line <;> rfl

namespace Program

variable {program : Program} {debounce : Nat}

theorem adviseOn_eq (warnings : List Diagnostic) :
    (adviseOn warnings).1 = Fault.unlessWide (warnings.any (·.hasWideLine)) () := by
  induction warnings with
  | nil => rfl
  | cons warning rest ih =>
    rw [adviseOn, Diagnostic.format_eq, List.any_cons]
    cases warning.hasWideLine with
    | true => rfl
    | false => exact ih

theorem any_hasWideLine_nameFindings (program : Program) :
    program.nameFindings.any (·.hasWideLine) = false := by
  unfold nameFindings
  split <;> rfl

/-- Whether a number that a report on the program has to tell has too many digits. -/
def hasWideReport (program : Program) : Bool :=
  program.hasWideFaultPin || program.hasWideMarkings ||
    (Report.ofDiagnostics program.findings).warnings.any (·.hasWideLine)

/-- Whether a number that a compilation has to show has too many digits. -/
def hasWideCompilation (program : Program) (debounce : Nat) : Bool :=
  program.hasWideReport ||
    ((Report.ofDiagnostics program.findings).errors.isEmpty && program.hasWideNumeral debounce)

/-- What comes of compiling a program. -/
def emissionOf (program : Program) (debounce : Nat) : Emission where
  source :=
    if (Report.ofDiagnostics program.findings).errors.isEmpty then
      some (program.sketchOf debounce).text
    else none
  report := Report.ofDiagnostics program.findings

theorem emit_eq (hresolved : program.Resolved) (debounce : Nat) :
    program.emit debounce =
      Fault.unlessWide (program.hasWideNumeral debounce) (program.sketchOf debounce).text := by
  rw [emit, sketch_eq hresolved]
  cases program.hasWideNumeral debounce <;> rfl

theorem emitUnless_eq (program : Program) (debounce : Nat) :
    (program.emitUnless (Report.ofDiagnostics program.findings) debounce).1 =
      Fault.unlessWide
        ((Report.ofDiagnostics program.findings).errors.isEmpty && program.hasWideNumeral debounce)
        (program.emissionOf debounce) := by
  unfold emitUnless emissionOf
  cases herrors : (Report.ofDiagnostics program.findings).errors with
  | cons error rest => rfl
  | nil =>
    have hresolved := ((errors_ofDiagnostics_findings_eq_nil_iff program).1 herrors).2
    have hreport : ({ warnings := (Report.ofDiagnostics program.findings).warnings } : Report) =
        Report.ofDiagnostics program.findings := by
      rw [← herrors]
    rw [emit_eq hresolved, hreport]
    cases program.hasWideNumeral debounce <;> rfl

theorem compile_eq (program : Program) (debounce : Nat) :
    (program.compile debounce).1 =
      Fault.unlessWide (program.hasWideCompilation debounce) (program.emissionOf debounce) := by
  have htellable : program.isTellable = (!program.hasWideFaultPin && !program.hasWideMarkings) :=
    rfl
  unfold compile validate hasWideCompilation hasWideReport
  rw [htellable]
  cases program.hasWideFaultPin with
  | true => rfl
  | false =>
    cases program.hasWideMarkings with
    | true => rfl
    | false =>
      have hadvice := adviseOn_eq (Report.ofDiagnostics program.findings).warnings
      have hemission := emitUnless_eq program debounce
      simp only [Bool.not_false, Bool.and_self, if_true, Bool.false_or]
      revert hadvice
      cases adviseOn (Report.ofDiagnostics program.findings).warnings with
      | mk result entries =>
        intro hadvice
        dsimp only at hadvice
        subst hadvice
        cases (Report.ofDiagnostics program.findings).warnings.any (·.hasWideLine) with
        | true => rfl
        | false => exact hemission

theorem validate_eq_ok_of_hasWideCompilation_eq_false
    (hwide : program.hasWideCompilation debounce = false) :
    program.validate = .ok (program.emissionOf debounce).report := by
  simp only [hasWideCompilation, hasWideReport, Bool.or_eq_false_iff] at hwide
  exact (validate_eq_ok_iff program _).2 ⟨hwide.1.1.1, hwide.1.1.2, rfl⟩

theorem resolved_of_validate {report : Report} (hreport : program.validate = .ok report)
    (herrors : report.errors = []) : program.Resolved := by
  obtain ⟨-, -, rfl⟩ := (validate_eq_ok_iff program report).1 hreport
  exact ((errors_ofDiagnostics_findings_eq_nil_iff program).1 herrors).2

theorem unambiguous_of_validate {report : Report} (hreachable : program.registry.Reachable)
    (hreport : program.validate = .ok report) (herrors : report.errors = []) :
    program.registry.Unambiguous := by
  obtain ⟨-, -, rfl⟩ := (validate_eq_ok_iff program report).1 hreport
  have hconflicts := ((errors_ofDiagnostics_findings_eq_nil_iff program).1 herrors).1
  rw [hreachable.filter_isError] at hconflicts
  exact hreachable.unambiguous hconflicts

/-- What comes of compiling a program without errors. -/
theorem compile_eq_of_validate {report : Report} (hreport : program.validate = .ok report)
    (herrors : report.errors = []) (debounce : Nat) :
    (program.compile debounce).1 =
      Fault.unlessWide (program.hasWideCompilation debounce)
        { source := some (program.sketchOf debounce).text, report := report } := by
  obtain ⟨-, -, rfl⟩ := (validate_eq_ok_iff program report).1 hreport
  rw [compile_eq, emissionOf, herrors]
  rfl

theorem emissionOf_source_eq_none_iff (program : Program) (debounce : Nat) :
    (program.emissionOf debounce).source = none ↔
      (program.emissionOf debounce).report.errors ≠ [] := by
  simp [emissionOf]

end Program

/-! ## Buffers -/

namespace Workbench

variable {bench : Workbench} {handle : Handle} {written : Option String}

/-- A buffer, with the text in it unless it is closed. -/
structure HoldsBuffer (bench : Workbench) (handle : Handle) (written : Option String) : Prop where
  sort : handle.sort = .buffer
  content : bench.content handle = .written written
  -- Nothing was put in the place of what buffers can do.
  unreplaced : bench.stored? handle "write" = none

theorem HoldsBuffer.textAt? (hbuffer : bench.HoldsBuffer handle written) :
    bench.textAt? handle = written := by
  rw [Workbench.textAt?, hbuffer.content]

/-- The workbench with another text in a buffer. -/
def withText (bench : Workbench) (handle : Handle) (text : String) : Workbench :=
  { bench with
    things := bench.things.modify handle.index ({ · with content := .written (some text) }) }

theorem HoldsBuffer.textAt?_withText (hbuffer : bench.HoldsBuffer handle written) (text : String) :
    (bench.withText handle text).textAt? handle = some text := by
  have hcontent := hbuffer.content
  unfold Workbench.content at hcontent
  cases hthing : bench.things[handle.index]? with
  | none => simp [hthing] at hcontent
  | some thing =>
    simp [Workbench.textAt?, Workbench.content, withText, Array.getElem?_modify, hthing]

end Workbench

/-! ## Calls -/

namespace Session

open Workbench (HoldsBuffer)

variable {α β : Type} {bench : Workbench} {handle : Handle} {written : Option String}

/-- What a call comes to, and the workbench after it. -/
def outcome (call : Session α) (bench : Workbench) : Except Fault α × Workbench :=
  (ExceptT.run call).run bench

@[simp]
theorem outcome_pure (value : α) : outcome (pure value) bench = (.ok value, bench) :=
  rfl

@[simp]
theorem outcome_throw (fault : Fault) :
    outcome (throw fault : Session α) bench = (.error fault, bench) :=
  rfl

@[simp]
theorem outcome_get : outcome get bench = (.ok bench, bench) :=
  rfl

@[simp]
theorem outcome_check (result : Except Fault α) :
    outcome (check result) bench = (result, bench) :=
  rfl

@[simp]
theorem outcome_log (entries : List LogEntry) :
    outcome (log entries) bench = (.ok (), { bench with journal := bench.journal ++ entries }) :=
  rfl

@[simp]
theorem outcome_setText (text : String) :
    outcome (setContent handle (.written (some text))) bench =
      (.ok (), bench.withText handle text) :=
  rfl

theorem outcome_bind (call : Session α) (next : α → Session β) :
    outcome (call >>= next) bench =
      match outcome call bench with
      | (.ok value, after) => outcome (next value) after
      | (.error fault, after) => (.error fault, after) := by
  simp only [outcome, ExceptT.run_bind, StateT.run_bind]
  rcases StateT.run (ExceptT.run call) bench with ⟨fault | value, after⟩ <;> rfl

/-- An object can do what others of its sort can, unless something was put in the place of it. -/
theorem outcome_able {sort : ObjectSort} {ability : String} (hsort : handle.sort = sort)
    (hown : Workbench.ownName sort ability = ability)
    (hunreplaced : bench.stored? handle ability = none) :
    outcome (able (.object handle) sort ability) bench = (.ok handle, bench) := by
  have hmember : bench.member? (.object handle) ability = none := by
    rw [Workbench.member?, hsort, hown, hunreplaced]
  simp [able, checkAbility, outcome_bind, hmember, hsort]

theorem outcome_write (hbuffer : bench.HoldsBuffer handle written) (text : String) :
    outcome (write (.object handle) text) bench =
      match written with
      | some before => (.ok (), bench.withText handle (before ++ text))
      | none => (.error .bufferClosed, bench) := by
  have hable : outcome (able (.object handle) .buffer "write") bench = (.ok handle, bench) :=
    outcome_able hbuffer.sort rfl hbuffer.unreplaced
  have htext : outcome (bufferText handle) bench =
      (match written with
        | some before => .ok before
        | none => .error .bufferClosed, bench) := by
    cases written <;> simp [bufferText, outcome_bind, hbuffer.textAt?]
  cases written <;> simp [write, Datum.isNothing, outcome_bind, hable, htext]

theorem outcome_compileProgram {datum : Datum} {program : Program} (debounce : Nat)
    (hprogram : bench.program? datum = some program) (hbuffer : bench.HoldsBuffer handle written) :
    ∃ entries, outcome (compileProgram datum (.object handle) (.integer debounce)) bench =
      let logged := { bench with journal := bench.journal ++ entries }
      match (program.compile debounce).1 with
      | .error fault => (.error fault, logged)
      | .ok emission =>
        match emission.source, written with
        | none, _ => (.ok emission.datum, logged)
        | some _, none => (.error .bufferClosed, logged)
        | some source, some before =>
          (.ok emission.datum, logged.withText handle (before ++ source)) := by
  have hinterval : (Datum.integer debounce).argument.debounce = .ok debounce := rfl
  have hobject := Workbench.isObject_of_program? hprogram
  have hlogged (entries : List LogEntry) :
      HoldsBuffer { bench with journal := bench.journal ++ entries } handle written :=
    ⟨hbuffer.sort, hbuffer.content, hbuffer.unreplaced⟩
  refine ⟨(program.compile debounce).2, ?_⟩
  simp only [compileProgram, checkProgram, hobject, if_true, outcome_bind, outcome_pure,
    outcome_check, outcome_get, hinterval, hprogram]
  rcases program.compile debounce with ⟨fault | emission, entries⟩
  · simp
  · rcases emission with ⟨_ | source, report⟩
    · simp
    · cases written <;>
        simp only [outcome_log, outcome_bind, outcome_pure, outcome_write (hlogged entries)]

theorem outcome_validateProgram {datum : Datum} {program : Program}
    (hprogram : bench.program? datum = some program) :
    outcome (validateProgram datum) bench = (program.validate.map (·.datum), bench) := by
  have hobject := Workbench.isObject_of_program? hprogram
  simp only [validateProgram, checkProgram, hobject, if_true, outcome_bind, outcome_pure,
    outcome_check, outcome_get, hprogram]
  cases program.validate <;> rfl

/-- Compiling a program fails only on a number that has to be shown and has too many digits, or on
a closed buffer.  Otherwise it reports what validation reports, emits a text exactly if there are no
errors, and adds that text and nothing else to the buffer. -/
theorem compileProgram_gated {datum : Datum} {program : Program} (debounce : Nat)
    (hprogram : bench.program? datum = some program) (hbuffer : bench.HoldsBuffer handle written) :
    let run := outcome (compileProgram datum (.object handle) (.integer debounce)) bench
    (program.hasWideCompilation debounce = true →
      run.1 = .error .numeralTooWide ∧ run.2.textAt? handle = written) ∧
    (program.hasWideCompilation debounce = false →
      ∃ (source : Option String) (report : Report),
        outcome (validateProgram datum) bench = (.ok report.datum, bench) ∧
        (source = none ↔ report.errors ≠ []) ∧
        if source ≠ none ∧ written = none then
          run.1 = .error .bufferClosed ∧ run.2.textAt? handle = none
        else
          run.1 = .ok (Emission.datum { source := source, report := report }) ∧
            run.2.textAt? handle = written.map (· ++ source.getD "")) := by
  obtain ⟨entries, houtcome⟩ := outcome_compileProgram debounce hprogram hbuffer
  have hlogged : HoldsBuffer { bench with journal := bench.journal ++ entries } handle written :=
    ⟨hbuffer.sort, hbuffer.content, hbuffer.unreplaced⟩
  rw [houtcome, Program.compile_eq]
  refine ⟨fun hwide ↦ ?_, fun hwide ↦ ?_⟩
  · rw [hwide]
    exact ⟨rfl, hlogged.textAt?⟩
  · have hreport := Program.validate_eq_ok_of_hasWideCompilation_eq_false hwide
    have hgate := program.emissionOf_source_eq_none_iff debounce
    rw [hwide]
    generalize program.emissionOf debounce = emission at hreport hgate ⊢
    refine ⟨emission.source, emission.report, ?_, hgate, ?_⟩
    · rw [outcome_validateProgram hprogram, hreport]
      rfl
    · rcases emission with ⟨_ | source, report⟩
      · simpa using hlogged.textAt?
      · cases written with
        | none => simpa using hlogged.textAt?
        | some before => simpa using hlogged.textAt?_withText (before ++ source)

end Session

namespace Workbench

/-- The program of the barrier next to a buffer with a text in it. -/
def withBarrier : Workbench where
  things := #[
    { sort := .list, content := .items (barrier.registry.resources.map (·.datum)) },
    { sort := .list, content := .items [] },
    { sort := .registry
      members := [("_resources", .object ⟨.list, 0⟩), ("conflicts", .object ⟨.list, 1⟩)] },
    { sort := .list, content := .items (barrier.states.map (·.datum)) },
    { sort := .program
      members := [("name", .text "barrier"), ("registry", .object ⟨.registry, 2⟩),
        ("states", .object ⟨.list, 3⟩), ("initial", .text "closed"), ("fault_pin", .integer 13),
        ("end_line", .nothing), ("source_file", .nothing), ("initial_markings", .integer 1)] },
    { sort := .buffer, content := .written (some "// Gate 4\n") }]

theorem program?_withBarrier : withBarrier.program? (.object ⟨.program, 4⟩) = some barrier := by
  decide +kernel

theorem holdsBuffer_withBarrier : withBarrier.HoldsBuffer ⟨.buffer, 5⟩ (some "// Gate 4\n") :=
  ⟨rfl, rfl, rfl⟩

end Workbench

namespace Session

open Workbench

theorem barrier_compiled :
    withBarrier.program? (.object ⟨.program, 4⟩) = some barrier ∧
      withBarrier.HoldsBuffer ⟨.buffer, 5⟩ (some "// Gate 4\n") ∧
      let run := outcome
        (compileProgram (.object ⟨.program, 4⟩) (.object ⟨.buffer, 5⟩) (.integer 50)) withBarrier
      ∃ (source : Option String) (report : Report),
        outcome (validateProgram (.object ⟨.program, 4⟩)) withBarrier =
          (.ok report.datum, withBarrier) ∧
        (source = none ↔ report.errors ≠ []) ∧
        run.1 = .ok (Emission.datum { source := source, report := report }) ∧
        run.2.textAt? ⟨.buffer, 5⟩ = some ("// Gate 4\n" ++ source.getD "") := by
  obtain ⟨-, hemitted⟩ := compileProgram_gated 50 program?_withBarrier holdsBuffer_withBarrier
  obtain ⟨source, report, hreport, hgate, hwritten⟩ := hemitted (by decide +kernel)
  refine ⟨program?_withBarrier, holdsBuffer_withBarrier, source, report, hreport, hgate, ?_⟩
  simpa using hwritten

/-- A debounce interval that is too long to be written down is found only when the sketch is put
into words. -/
theorem barrier_refused_with_wide_debounce :
    withBarrier.program? (.object ⟨.program, 4⟩) = some barrier ∧
      withBarrier.HoldsBuffer ⟨.buffer, 5⟩ (some "// Gate 4\n") ∧
      (outcome (compileProgram (.object ⟨.program, 4⟩) (.object ⟨.buffer, 5⟩)
        (.integer Text.leastWide)) withBarrier).1 = .error .numeralTooWide := by
  obtain ⟨entries, houtcome⟩ :=
    outcome_compileProgram Text.leastWide program?_withBarrier holdsBuffer_withBarrier
  have hwide : (barrier.compile Text.leastWide).1 = .error .numeralTooWide := by decide +kernel
  refine ⟨program?_withBarrier, holdsBuffer_withBarrier, ?_⟩
  rw [houtcome, hwide]

end Session

end StateSketch
