import StateSketch.Proofs.SketchNames

/-!
# The assignment of symbols

Once symbols have been assigned, exactly the declared names have one, whatever the workpiece held
before.  Different names have different symbols, also across resources and states, and every symbol
is an identifier that is not reserved.  Names that look like symbols themselves make no difference.
-/

namespace StateSketch

open StateSketch.Symbol (reservedWords stateStem IsIdentifier)

namespace SymbolTable

variable {resources states : List String} {table : SymbolTable} {name symbol : String}

theorem pin_eq_ok_iff :
    table.pin name = .ok symbol ↔
      (table.resources.lookup name).isSome = true ∧ table.pinName name = symbol := by
  unfold pin pinName
  cases table.resources.lookup name <;> simp

theorem function_eq_ok_iff :
    table.function name = .ok symbol ↔
      (table.states.lookup name).isSome = true ∧ table.functionName name = symbol := by
  unfold function functionName
  cases table.states.lookup name <;> simp

namespace Legal

theorem isIdentifier_pinName (hlegal : Legal resources states table) (hname : name ∈ resources) :
    IsIdentifier (table.pinName name) :=
  (hlegal.resource_symbol _ (hlegal.pinName_mem hname)).1

theorem isIdentifier_functionName (hlegal : Legal resources states table) (hname : name ∈ states) :
    IsIdentifier (table.functionName name) :=
  (hlegal.state_symbol _ (hlegal.functionName_mem hname)).1

theorem stateStem_prefix_functionName (hlegal : Legal resources states table)
    (hname : name ∈ states) : stateStem.toList <+: (table.functionName name).toList :=
  (hlegal.state_symbol _ (hlegal.functionName_mem hname)).2

end Legal

end SymbolTable

namespace Workpiece

/-- Exactly the declared names have symbols, different names have different ones, no resource shares
one with a state, all are identifiers that are not reserved, and those of states show their stem. -/
theorem assignSymbols_separates_names (piece : Workpiece) :
    let table := piece.assignSymbols.symbols
    (∀ name, (∃ symbol, table.pin name = .ok symbol) ↔ name ∈ piece.program.registry.names) ∧
    (∀ name, (∃ symbol, table.function name = .ok symbol) ↔ name ∈ piece.program.stateNames) ∧
    (∀ first second symbol, table.pin first = .ok symbol → table.pin second = .ok symbol →
      first = second) ∧
    (∀ first second symbol, table.function first = .ok symbol →
      table.function second = .ok symbol → first = second) ∧
    (∀ resource state symbol, table.pin resource = .ok symbol →
      table.function state ≠ .ok symbol) ∧
    (∀ name symbol, table.pin name = .ok symbol ∨ table.function name = .ok symbol →
      IsIdentifier symbol ∧ symbol ∉ reservedWords) ∧
    ∀ name symbol, table.function name = .ok symbol → stateStem.toList <+: symbol.toList := by
  intro table
  have hlegal : SymbolTable.Legal piece.program.registry.names piece.program.stateNames table :=
    SymbolTable.legal_ofProgram piece.program
  simp only [SymbolTable.pin_eq_ok_iff, SymbolTable.function_eq_ok_iff, hlegal.resource_named,
    hlegal.state_named, ne_eq]
  refine ⟨?_, ?_, ?_, ?_, ?_, ?_, ?_⟩
  · intro name
    simp
  · intro name
    simp
  · rintro first second symbol ⟨hfirst, rfl⟩ ⟨hsecond, heq⟩
    exact hlegal.pinName_inj hfirst hsecond heq.symm
  · rintro first second symbol ⟨hfirst, rfl⟩ ⟨hsecond, heq⟩
    exact hlegal.functionName_inj hfirst hsecond heq.symm
  · rintro resource state symbol ⟨hresource, rfl⟩ ⟨hstate, heq⟩
    exact hlegal.pinName_ne_functionName hresource hstate heq.symm
  · rintro name symbol (⟨hname, rfl⟩ | ⟨hname, rfl⟩)
    · exact ⟨hlegal.isIdentifier_pinName hname, hlegal.pinName_not_mem_reservedWords hname⟩
    · exact ⟨hlegal.isIdentifier_functionName hname,
        hlegal.functionName_not_mem_reservedWords hname⟩
  · rintro name symbol ⟨hname, rfl⟩
    exact hlegal.stateStem_prefix_functionName hname

end Workpiece

/-- A program whose names look like symbols of one another. -/
def imitations : Program where
  name := "Imitations"
  registry := {
    resources := ["x", "x_2", "x 2", "x", "time", "sw_time", "état", "7up", "state_On"].map
      fun name ↦ { name := name, kind := .sensor, port := 4 } }
  states := ["On", "On", "time", "On_2", "On 2", "7"].map fun name ↦ { name := name }

namespace Workpiece

/-- The symbols of the imitations, and what follows for three of them. -/
theorem imitations_separated :
    let table := (assignSymbols { program := imitations, debounce := 50 }).symbols
    table.resources = [("x", "x"), ("x_2", "x_2"), ("x 2", "x_2_2"), ("time", "sw_time"),
      ("sw_time", "sw_time_2"), ("état", "_tat"), ("7up", "_7up"), ("state_On", "state_On")] ∧
    table.states = [("On", "state_On_2"), ("time", "state_time"), ("On_2", "state_On_2_2"),
      ("On 2", "state_On_2_3"), ("7", "state__7")] ∧
    IsIdentifier "sw_time_2" ∧ "sw_time_2" ∉ reservedWords ∧
    ∀ resource, table.pin resource ≠ .ok "state_On_2_2" := by
  intro table
  obtain ⟨-, -, -, -, happart, hlegal, -⟩ :=
    assignSymbols_separates_names { program := imitations, debounce := 50 }
  have hmarked : table.pin "sw_time" = .ok "sw_time_2" := by decide +kernel
  have hnumbered : table.function "On_2" = .ok "state_On_2_2" := by decide +kernel
  refine ⟨by decide +kernel, by decide +kernel, (hlegal _ _ (.inl hmarked)).1,
    (hlegal _ _ (.inl hmarked)).2, ?_⟩
  intro resource hpin
  exact happart resource "On_2" _ hpin hnumbered

end Workpiece

end StateSketch
