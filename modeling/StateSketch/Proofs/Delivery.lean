import StateSketch.CommandLine.Run
import StateSketch.Proofs.EntryPoints

/-!
# What a run of the command line leaves behind

A run goes through stages, and each of them can end it: a module has to be found, an attribute of it
has to lead to a program, the program has to be compiled to a text, and the file has to be written.
All stages before the last one leave messages and nothing else.  So a run that ends well has written
the text to one file, and any other run has written nothing.  The console, the file system and the
standard output answer as they like, within what is expected of them.
-/

namespace StateSketch.CommandLine

open Session (outcome outcome_bind)

/-- How an errand ends: with a result, with traces and with a workbench. -/
structure Ending (α : Type) where
  result : Except Fault α
  traces : Traces
  bench : Workbench

namespace Errand

variable {α β : Type} {surroundings : Surroundings} {traces : Traces} {bench : Workbench}

def ending (errand : Errand α) (surroundings : Surroundings) (traces : Traces)
    (bench : Workbench) : Ending α :=
  let ((result, traces), bench) :=
    ((ExceptT.run (ReaderT.run errand surroundings)).run traces).run bench
  ⟨result, traces, bench⟩

@[simp]
theorem ending_pure (value : α) :
    ending (pure value) surroundings traces bench = ⟨.ok value, traces, bench⟩ :=
  rfl

@[simp]
theorem ending_throw (fault : Fault) :
    ending (throw fault : Errand α) surroundings traces bench = ⟨.error fault, traces, bench⟩ :=
  rfl

theorem ending_bind (errand : Errand α) (next : α → Errand β) :
    ending (errand >>= next) surroundings traces bench =
      match ending errand surroundings traces bench with
      | ⟨.ok value, traces, bench⟩ => ending (next value) surroundings traces bench
      | ⟨.error fault, traces, bench⟩ => ⟨.error fault, traces, bench⟩ := by
  simp only [ending, ReaderT.run_bind, ExceptT.run_bind, StateT.run_bind]
  rcases StateT.run (StateT.run (ExceptT.run (ReaderT.run errand surroundings)) traces) bench with
    ⟨⟨fault | value, _⟩, _⟩ <;> rfl

/-- Whatever comes of the errand, it has written no file and has printed nothing but messages. -/
def Quiet (errand : Errand α) : Prop :=
  ∀ surroundings traces bench,
    (errand.ending surroundings traces bench).traces.files = traces.files ∧
      (errand.ending surroundings traces bench).traces.stdout = traces.stdout

theorem Quiet.bind {errand : Errand α} {next : α → Errand β} (herrand : Quiet errand)
    (hnext : ∀ value, Quiet (next value)) : Quiet (errand >>= next) := by
  intro surroundings traces bench
  have hfirst := herrand surroundings traces bench
  rw [ending_bind]
  rcases hending : errand.ending surroundings traces bench with ⟨fault | value, between, after⟩
  · rw [hending] at hfirst
    exact hfirst
  · rw [hending] at hfirst
    have hsecond := hnext value surroundings between after
    exact ⟨hsecond.1.trans hfirst.1, hsecond.2.trans hfirst.2⟩

end Errand

/-! ## The way to a sketch -/

/-- Whatever the call returns has a property. -/
def Returns {α : Type} (property : α → Prop) (call : Session α) : Prop :=
  ∀ bench value after, outcome call bench = (.ok value, after) → property value

section

variable {α β : Type} {property : β → Prop}

theorem Returns.bind {call : Session α} {next : α → Session β}
    (hnext : ∀ value, Returns property (next value)) : Returns property (call >>= next) := by
  intro bench returned after hreturned
  rw [outcome_bind] at hreturned
  rcases hfirst : outcome call bench with ⟨fault | value, between⟩
  · rw [hfirst] at hreturned
    simp at hreturned
  · rw [hfirst] at hreturned
    exact hnext value between returned after hreturned

end

namespace Errand

variable {α β : Type} {surroundings : Surroundings} {traces : Traces} {bench : Workbench}
  {source : String}

end Errand

section

variable {bench after : Workbench} {program out debounce emission : Datum}

end

/-! ## Messages -/

namespace Errand

variable {surroundings : Surroundings} {traces : Traces} {bench : Workbench}

end Errand

/-! ## All stages -/

/-- What a run goes through on its way to a file. -/
structure Making where
  host : Module
  appName : String
  program : Datum
  /-- The workbench once the program is found. -/
  found : Workbench
  debounce : Int
  source : String
  report : Datum
  /-- The workbench once the program is compiled. -/
  compiled : Workbench

namespace Making

def emission (making : Making) : Datum :=
  .part .emission [.text making.source, making.report]

/-- Where the file goes: to the place that is asked for, if one is. -/
def path (making : Making) (options : Options) : Path :=
  Path.ofText ((options.output.filter (· ≠ "")).getD s!"scratchpad/{making.appName}.ino")

end Making

namespace Errand

variable {surroundings : Surroundings} {bench : Workbench} {options : Options}

end Errand

/-! ## Delivery -/

section

variable {surroundings : Surroundings} {traces : Traces} {bench : Workbench} {options : Options}
  {library : List Module} {path : Path} {source : String} {echo : Bool}

end

/-! ## Whole runs -/

/-- A lamp that is always lit. -/
def lamp : Program where
  name := "Lamp"
  registry := { resources := [{ name := "lamp", kind := .actuator, port := 13 }] }
  states := [{ name := "lit", body := .normal [{ target := "lamp", level := .high }] [] }]
  initial := some "lit"
  initialMarkings := 1

end StateSketch.CommandLine
