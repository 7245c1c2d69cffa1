import Mathlib.Data.List.Nodup
import StateSketch.Construction
import StateSketch.Proofs.Compilation
import StateSketch.Proofs.Wiring.RoundTrip

/-!
# The names in the sketch of a program

The symbols of different resources and states differ, none of them is a word of the language or of
the board, and so the sketch of a program can be read back.
-/

namespace StateSketch

open StateSketch.Symbol (reservedWords IsIdentifier)
open Wiring

theorem symbols_reserved_or_not_word : ∀ entry ∈ Token.symbols,
    entry.1 ∈ reservedWords ∨ entry.1.toList.all Symbol.isWordChar = false := by
  decide +kernel

theorem isName_of_not_mem_reservedWords {text : String} (htext : IsIdentifier text)
    (hfree : text ∉ reservedWords) : IsName text := by
  refine ⟨htext, List.lookup_eq_none_iff.2 fun entry hentry ↦ bne_iff_ne.2 fun heq ↦ ?_⟩
  obtain hreserved | hword := symbols_reserved_or_not_word entry hentry
  · exact hfree (heq ▸ hreserved)
  · rw [← heq, List.all_eq_true.2 htext.word] at hword
    cases hword

theorem isName_faultPinName : IsName faultPinName :=
  ⟨⟨List.all_eq_true.1 (by decide), 'E', _, rfl, by decide⟩, by decide +kernel⟩

/-! ## Symbols -/

theorem mem_of_lookup_isSome {entries : List (String × String)} {name : String}
    (hsome : (entries.lookup name).isSome = true) :
    (name, (entries.lookup name).getD "") ∈ entries := by
  obtain ⟨symbol, hsymbol⟩ := Option.isSome_iff_exists.1 hsome
  obtain ⟨before, after, hsplit, -⟩ := List.lookup_eq_some_iff.1 hsymbol
  rw [hsymbol, hsplit]
  simp

namespace SymbolTable.Legal

variable {resources states : List String} {table : SymbolTable} {name other : String}

theorem pinName_mem (hlegal : Legal resources states table) (hname : name ∈ resources) :
    (name, table.pinName name) ∈ table.resources :=
  mem_of_lookup_isSome ((hlegal.resource_named name).2 hname)

theorem functionName_mem (hlegal : Legal resources states table) (hname : name ∈ states) :
    (name, table.functionName name) ∈ table.states :=
  mem_of_lookup_isSome ((hlegal.state_named name).2 hname)

theorem pinName_inj (hlegal : Legal resources states table) (hname : name ∈ resources)
    (hother : other ∈ resources) (heq : table.pinName name = table.pinName other) :
    name = other := by
  have hnodup := hlegal.nodup.of_append_left
  exact congrArg Prod.fst
    (List.inj_on_of_nodup_map hnodup (hlegal.pinName_mem hname) (hlegal.pinName_mem hother) heq)

theorem functionName_inj (hlegal : Legal resources states table) (hname : name ∈ states)
    (hother : other ∈ states) (heq : table.functionName name = table.functionName other) :
    name = other := by
  have hnodup := hlegal.nodup.of_append_right
  exact congrArg Prod.fst (List.inj_on_of_nodup_map hnodup (hlegal.functionName_mem hname)
    (hlegal.functionName_mem hother) heq)

theorem pinName_ne_functionName (hlegal : Legal resources states table) (hname : name ∈ resources)
    (hother : other ∈ states) : table.pinName name ≠ table.functionName other := by
  intro heq
  have hpin := List.mem_map_of_mem (f := (·.2)) (hlegal.pinName_mem hname)
  have hfunction := List.mem_map_of_mem (f := (·.2)) (hlegal.functionName_mem hother)
  dsimp only at hpin hfunction
  rw [← heq] at hfunction
  exact List.disjoint_of_nodup_append hlegal.nodup hpin hfunction

theorem pinName_not_mem_reservedWords (hlegal : Legal resources states table)
    (hname : name ∈ resources) : table.pinName name ∉ reservedWords :=
  (hlegal.resource_symbol _ (hlegal.pinName_mem hname)).2

theorem functionName_not_mem_reservedWords (hlegal : Legal resources states table)
    (hname : name ∈ states) : table.functionName name ∉ reservedWords :=
  Symbol.not_mem_reservedWords_of_stateStem
    (hlegal.state_symbol _ (hlegal.functionName_mem hname)).2

theorem isName_pinName (hlegal : Legal resources states table) (hname : name ∈ resources) :
    IsName (table.pinName name) :=
  isName_of_not_mem_reservedWords (hlegal.resource_symbol _ (hlegal.pinName_mem hname)).1
    (hlegal.pinName_not_mem_reservedWords hname)

theorem isName_functionName (hlegal : Legal resources states table) (hname : name ∈ states) :
    IsName (table.functionName name) :=
  isName_of_not_mem_reservedWords (hlegal.state_symbol _ (hlegal.functionName_mem hname)).1
    (hlegal.functionName_not_mem_reservedWords hname)

end SymbolTable.Legal

/-! ## Sketches -/

theorem Guard.sensors_rename (symbol : String → String) (condition : Guard) :
    (condition.rename symbol).sensors = condition.sensors.map symbol := by
  induction condition with
  | reads sensor level => rfl
  | both left right ihleft ihright => simp [rename, sensors, ihleft, ihright]
  | either left right ihleft ihright => simp [rename, sensors, ihleft, ihright]

/-- The statements in the function of a state. -/
theorem SymbolTable.mem_body_functionOf {table : SymbolTable} {state : State}
    {statement : Statement} (hstatement : statement ∈ (table.functionOf state).body) :
    (∃ blinks, state.body = .fault blinks ∧ statement = .step (.blink blinks)) ∨
      statement = .step (.call (table.functionName state.name)) ∨
      (∃ action ∈ state.actions, statement = .step (table.writeOf action)) ∨
      statement = .step .sampleGuard ∨
      ∃ first rest, state.transitions = first :: rest ∧
        statement = .choose (table.branchOf first) (rest.map table.branchOf)
          [.call (table.functionName state.name)] := by
  unfold functionOf at hstatement
  cases hbody : state.body with
  | fault blinks =>
    rw [hbody] at hstatement
    simp only [List.mem_cons, List.not_mem_nil, or_false] at hstatement
    obtain rfl | rfl := hstatement
    · exact .inl ⟨blinks, rfl, rfl⟩
    · exact .inr (.inl rfl)
  | normal actions transitions =>
    have hactions : state.actions = actions := by simp [State.actions, hbody]
    rw [hbody] at hstatement
    obtain hwrite | hdispatch := List.mem_append.1 hstatement
    · simp only [List.map_map, List.mem_map] at hwrite
      obtain ⟨action, haction, rfl⟩ := hwrite
      exact .inr (.inr (.inl ⟨action, hactions ▸ haction, rfl⟩))
    · unfold dispatchOf at hdispatch
      cases hedges : state.transitions with
      | nil =>
        rw [hedges] at hdispatch
        exact .inr (.inl (List.mem_singleton.1 hdispatch))
      | cons first rest =>
        rw [hedges] at hdispatch
        obtain hsample | hchoose := List.mem_append.1 hdispatch
        · unfold sampleOf at hsample
          split at hsample
          · exact .inr (.inr (.inr (.inl (List.mem_singleton.1 hsample))))
          · cases hsample
        · exact .inr (.inr (.inr (.inr ⟨first, rest, rfl, List.mem_singleton.1 hchoose⟩)))

namespace Program

variable {program : Program} {name : String}

theorem isName_pinName (hname : name ∈ program.registry.names) :
    IsName (program.table.pinName name) :=
  (SymbolTable.legal_ofProgram program).isName_pinName hname

theorem isName_functionName (hname : name ∈ program.stateNames) :
    IsName (program.table.functionName name) :=
  (SymbolTable.legal_ofProgram program).isName_functionName hname

theorem pinName_ne_reserved {word : String} (hname : name ∈ program.registry.names)
    (hword : word ∈ reservedWords) : program.table.pinName name ≠ word := by
  rintro rfl
  exact (SymbolTable.legal_ofProgram program).pinName_not_mem_reservedWords hname hword

theorem functionName_ne_reserved {word : String} (hname : name ∈ program.stateNames)
    (hword : word ∈ reservedWords) : program.table.functionName name ≠ word := by
  rintro rfl
  exact (SymbolTable.legal_ofProgram program).functionName_not_mem_reservedWords hname hword

theorem isName_of_mem_branchOf {transition : Transition}
    (hsensors : ∀ sensor ∈ transition.trigger.sensors, sensor ∈ program.registry.names)
    (htarget : transition.target ∈ program.stateNames) :
    ∀ symbol ∈ (program.table.branchOf transition).symbols, IsName symbol := by
  intro symbol hsymbol
  obtain htest | hbody := List.mem_append.1 hsymbol
  · cases htrigger : transition.trigger with
    | delay milliseconds =>
      simp [SymbolTable.branchOf, SymbolTable.testOf, htrigger, Test.symbols] at htest
    | guard condition =>
      simp only [SymbolTable.branchOf, SymbolTable.testOf, htrigger, Test.symbols,
        Guard.sensors_rename, List.mem_map] at htest
      obtain ⟨sensor, hsensor, rfl⟩ := htest
      exact isName_pinName (hsensors sensor (by rwa [htrigger]))
  · have hcall : symbol = program.table.functionName transition.target := by
      simpa [SymbolTable.branchOf, Step.symbols] using hbody
    exact hcall ▸ isName_functionName htarget

theorem isName_of_mem_functionOf (hresolved : program.Resolved) {state : State}
    (hstate : state ∈ program.states) :
    ∀ symbol ∈ (program.table.functionOf state).symbols, IsName symbol := by
  have hself : IsName (program.table.functionName state.name) :=
    isName_functionName (List.mem_map_of_mem hstate)
  obtain ⟨hactions, hsensors, htargets⟩ := hresolved.states state hstate
  intro symbol hsymbol
  obtain rfl | hbody := List.mem_cons.1 hsymbol
  · exact hself
  · obtain ⟨statement, hstatement, hsymbol⟩ := List.mem_flatMap.1 hbody
    obtain ⟨blinks, -, rfl⟩ | rfl | ⟨action, haction, rfl⟩ | rfl | ⟨first, rest, hedges, rfl⟩ :=
      SymbolTable.mem_body_functionOf hstatement
    · cases hsymbol
    · obtain rfl := List.mem_singleton.1 hsymbol
      exact hself
    · obtain rfl := List.mem_singleton.1 hsymbol
      exact isName_pinName (hactions action haction)
    · cases hsymbol
    · rw [hedges] at hsensors htargets
      obtain (hfirst | hrest) | hcall := by
        simpa only [Statement.symbols, List.mem_append] using hsymbol
      · exact isName_of_mem_branchOf (hsensors first List.mem_cons_self)
          (htargets first List.mem_cons_self) symbol hfirst
      · obtain ⟨branch, hbranch, hsymbol⟩ := List.mem_flatMap.1 hrest
        obtain ⟨edge, hedge, rfl⟩ := List.mem_map.1 hbranch
        exact isName_of_mem_branchOf (hsensors edge (List.mem_cons_of_mem _ hedge))
          (htargets edge (List.mem_cons_of_mem _ hedge)) symbol hsymbol
      · obtain rfl : symbol = program.table.functionName state.name := by
          simpa [Step.symbols] using hcall
        exact hself

/-- A program that the constructor accepts. -/
def IsConstructed (program : Program) : Prop :=
  ∃ name faultPin markings, Program.ofArguments name faultPin program.registry program.states
    program.initial program.endLine program.file markings = .ok program

theorem single_line_of_checkName {argument : Argument}
    (hchecked : checkName argument = .ok name) : '\n' ∉ name.toList := by
  unfold checkName at hchecked
  cases htext : argument.name .program with
  | error fault =>
    rw [htext] at hchecked
    cases hchecked
  | ok text =>
    simp only [htext, bind, Except.bind] at hchecked
    split at hchecked
    · cases hchecked
    · rename_i hbreaks
      obtain rfl := Except.ok.inj hchecked
      exact fun hmem ↦ hbreaks (List.any_eq_true.2 ⟨'\n', hmem, rfl⟩)

theorem IsConstructed.name_single_line (hconstructed : program.IsConstructed) :
    '\n' ∉ program.name.toList := by
  obtain ⟨name, faultPin, markings, hprogram⟩ := hconstructed
  unfold ofArguments at hprogram
  cases hname : checkName name with
  | error fault =>
    rw [hname] at hprogram
    cases hprogram
  | ok text =>
    cases hpin : faultPin.faultPin with
    | error fault =>
      rw [hname, hpin] at hprogram
      cases hprogram
    | ok pin =>
      rw [hname, hpin] at hprogram
      have htext : text = program.name := congrArg Program.name (Except.ok.inj hprogram)
      exact htext ▸ single_line_of_checkName hname

theorem legible_sketchOf (hconstructed : program.IsConstructed) (hresolved : program.Resolved)
    (debounce : Nat) : (program.sketchOf debounce).Legible := by
  have hresource (resource : Resource) (hmem : resource ∈ program.registry.resources) :
      IsName (program.table.pinName resource.name) :=
    isName_pinName (List.mem_map_of_mem hmem)
  refine ⟨hconstructed.name_single_line, fun symbol hsymbol ↦ ?_⟩
  simp only [Sketch.symbols, sketchOf, List.mem_append, List.mem_singleton] at hsymbol
  obtain ((hpin | hsetup) | hfunction) | rfl := hsymbol
  · simp only [List.map_map, List.mem_map] at hpin
    obtain ⟨resource, hmem, rfl⟩ := hpin
    exact hresource resource hmem
  · obtain ⟨step, hstep, hsymbol⟩ := List.mem_flatMap.1 hsetup
    obtain hfault | hconfigure := List.mem_append.1 hstep
    · split at hfault
      · simp only [List.mem_cons, List.not_mem_nil, or_false] at hfault
        obtain rfl | rfl := hfault
        all_goals
          obtain rfl := List.mem_singleton.1 hsymbol
          exact isName_faultPinName
      · cases hfault
    · obtain ⟨resource, hmem, rfl⟩ := List.mem_map.1 hconfigure
      obtain rfl := List.mem_singleton.1 hsymbol
      exact hresource resource hmem
  · obtain ⟨function, hmem, hsymbol⟩ := List.mem_flatMap.1 hfunction
    obtain ⟨state, hstate, rfl⟩ := List.mem_map.1 hmem
    exact isName_of_mem_functionOf hresolved hstate symbol hsymbol
  · obtain ⟨initial, hinitial, hdeclared⟩ := hresolved.initial
    rw [hinitial]
    exact isName_functionName hdeclared

/-- What is compiled from a valid program is read as the items of its sketch. -/
theorem compile_reads {report : Report} (debounce : Nat) (hconstructed : program.IsConstructed)
    (hreport : program.validate = .ok report) (herrors : report.errors = []) :
    (program.hasWideCompilation debounce = true →
      (program.compile debounce).1 = .error .numeralTooWide) ∧
    (program.hasWideCompilation debounce = false →
      ∃ text, (program.compile debounce).1 = .ok { source := some text, report := report } ∧
        read text = some (program.sketchOf debounce).items) := by
  have hresolved := resolved_of_validate hreport herrors
  rw [compile_eq_of_validate hreport herrors debounce]
  refine ⟨fun hwide ↦ ?_, fun hwide ↦ ?_⟩
  · rw [hwide]
    rfl
  · rw [hwide]
    exact ⟨_, rfl, (legible_sketchOf hconstructed hresolved debounce).read_text⟩

end Program

end StateSketch
