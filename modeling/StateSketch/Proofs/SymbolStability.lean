import StateSketch.Proofs.Keywords

/-!
# Symbols under later declarations

A search for a free name stops at the same name if more names are in use, as long as the one that it
found is not among them.  So a later declaration changes no symbol that was given before it, and
a new resource disturbs the states, which come after it, only if it takes the symbol of one of them.
A name that is an identifier, is not reserved and is not taken stays as it is.
-/

namespace StateSketch

open StateSketch.Symbol

namespace Symbol

variable {base name stem extra : String} {used wider reserved : List String}

/-- The names that are tried in turn: a name itself, then its numbered forms from two on. -/
def attempt (base : String) : Nat → String
  | 0 => base
  | n + 1 => numbered base (n + 2)

/-- The search takes the first attempt that is free. -/
theorem exists_fresh_eq_attempt (base : String) (used : List String) :
    ∃ n, fresh base used = attempt base n ∧ ∀ earlier < n, attempt base earlier ∈ used := by
  unfold fresh
  split
  · rename_i hbase
    obtain ⟨hlow, -, hbefore⟩ := freeNumber_spec base used 2
    obtain ⟨n, hn⟩ := Nat.exists_eq_add_of_le' hlow
    rw [hn] at hbefore ⊢
    refine ⟨n + 1, rfl, fun earlier hearlier ↦ ?_⟩
    cases earlier with
    | zero => exact hbase
    | succ m => exact hbefore (m + 2) (by omega) (by omega)
  · exact ⟨0, rfl, by simp⟩

/-- More names in use change nothing as long as the name that was found stays free. -/
theorem fresh_eq_of_subset (hsubset : used ⊆ wider) (hfree : fresh base used ∉ wider) :
    fresh base wider = fresh base used := by
  obtain ⟨n, hn, hbefore⟩ := exists_fresh_eq_attempt base used
  obtain ⟨m, hm, hwider⟩ := exists_fresh_eq_attempt base wider
  have hle : n ≤ m := by
    by_contra hlt
    apply fresh_not_mem base wider
    rw [hm]
    exact hsubset (hbefore m (by omega))
  have hge : m ≤ n := by
    by_contra hlt
    apply hfree
    rw [hn]
    exact hwider n (by omega)
  rw [hn, hm, Nat.le_antisymm hle hge]

theorem mangle_eq_of_subset (hsubset : used ⊆ wider)
    (hfree : mangle name stem used reserved ∉ wider) :
    mangle name stem wider reserved = mangle name stem used reserved :=
  fresh_eq_of_subset hsubset hfree

/-! ## Identifiers -/

theorem identifier_eq_self (hname : IsIdentifier name) : identifier name = name := by
  obtain ⟨first, rest, hsplit, hdigit⟩ := hname.head
  have hword : (first :: rest).map wordChar = first :: rest := by
    rw [← hsplit]
    calc name.toList.map wordChar
        = name.toList.map id := by
          apply List.map_congr_left
          intro c hc
          rw [wordChar, if_pos (hname.word c hc), id]
      _ = name.toList := List.map_id _
  calc identifier name
      = String.ofList (identifierChars (first :: rest)) := by rw [identifier, hsplit]
    _ = String.ofList (first :: rest) := by simp only [identifierChars, hdigit, hword]; rfl
    _ = name := by rw [← hsplit, String.ofList_toList]

theorem mangle_eq_self (hname : IsIdentifier name) (hreserved : name ∉ reserved)
    (hfree : name ∉ used) : mangle name "" used reserved = name := by
  rw [mangle, String.empty_append, identifier_eq_self hname, unreserved,
    if_neg (by simpa using hreserved), fresh, if_neg hfree]

namespace Assignment

variable {assignment later : Assignment}

theorem symbols_prefix_add (stem : String) (reserved : List String) (assignment : Assignment)
    (name : String) : assignment.symbols <+: (assignment.add stem reserved name).symbols := by
  unfold add
  split
  · exact List.prefix_rfl
  · exact List.prefix_append _ _

theorem symbols_prefix_addAll (stem : String) (reserved names : List String)
    (assignment : Assignment) :
    assignment.symbols <+: (assignment.addAll stem reserved names).symbols := by
  induction names generalizing assignment with
  | nil => exact List.prefix_rfl
  | cons name rest ih => exact (symbols_prefix_add stem reserved assignment name).trans (ih _)

theorem addAll_append (stem : String) (reserved names more : List String)
    (assignment : Assignment) :
    assignment.addAll stem reserved (names ++ more) =
      (assignment.addAll stem reserved names).addAll stem reserved more :=
  List.foldl_append

/-- A symbol that was given stays. -/
theorem lookup_addAll (names : List String)
    (hgiven : (assignment.symbols.lookup name).isSome = true) :
    (assignment.addAll stem reserved names).symbols.lookup name =
      assignment.symbols.lookup name := by
  obtain ⟨more, hmore⟩ := symbols_prefix_addAll stem reserved names assignment
  rw [← hmore, List.lookup_append, Option.or_of_isSome hgiven]

/-- Two assignments with the same symbols, where one more name is in use in the later one. -/
structure Crowded (extra : String) (assignment later : Assignment) : Prop where
  symbols : later.symbols = assignment.symbols
  used : ∀ name, name ∈ later.used ↔ name = extra ∨ name ∈ assignment.used

theorem Crowded.add (h : Crowded extra assignment later)
    (hextra : extra ∉ (assignment.add stem reserved name).symbols.map (·.2)) :
    Crowded extra (assignment.add stem reserved name) (later.add stem reserved name) := by
  unfold Assignment.add at hextra ⊢
  rw [h.symbols]
  split
  · exact h
  · rename_i hnew
    rw [if_neg hnew, List.map_append, List.mem_append, not_or] at hextra
    have hother : mangle name stem assignment.used reserved ≠ extra := by
      rintro rfl
      exact hextra.2 (List.mem_singleton_self _)
    have hsame : mangle name stem later.used reserved =
        mangle name stem assignment.used reserved := by
      apply mangle_eq_of_subset
      · exact fun other hused ↦ (h.used other).2 (.inr hused)
      · rw [h.used, not_or]
        exact ⟨hother, fresh_not_mem _ _⟩
    refine ⟨by rw [hsame], fun other ↦ ?_⟩
    rw [hsame, List.mem_append, List.mem_append, h.used other, or_assoc]

/-- The name that is in use besides is never met, because no symbol of the run is this name. -/
theorem Crowded.addAll (h : Crowded extra assignment later) (names : List String)
    (hextra : extra ∉ (assignment.addAll stem reserved names).symbols.map (·.2)) :
    Crowded extra (assignment.addAll stem reserved names)
      (later.addAll stem reserved names) := by
  induction names generalizing assignment later with
  | nil => exact h
  | cons name rest ih =>
    refine ih (h.add fun hmem ↦ hextra ?_) hextra
    exact ((symbols_prefix_addAll stem reserved rest _).map (·.2)).mem hmem

end Assignment

end Symbol

namespace SymbolTable

open Symbol.Assignment (addAll addAll_append lookup_addAll Crowded nodup_keys_addAll)

variable {resources states : List String} {name symbol : String}

theorem pin_eq_of_lookup {first second : SymbolTable}
    (hlookup : first.resources.lookup name = second.resources.lookup name) :
    first.pin name = second.pin name := by
  rw [pin, pin, hlookup]

theorem function_eq_of_lookup {first second : SymbolTable}
    (hlookup : first.states.lookup name = second.states.lookup name) :
    first.function name = second.function name := by
  rw [function, function, hlookup]

theorem pin_eq_ok_iff_lookup {table : SymbolTable} :
    table.pin name = .ok symbol ↔ table.resources.lookup name = some symbol := by
  unfold pin
  cases table.resources.lookup name <;> simp

theorem function_eq_ok_iff_lookup {table : SymbolTable} :
    table.function name = .ok symbol ↔ table.states.lookup name = some symbol := by
  unfold function
  cases table.states.lookup name <;> simp

/-- No resource has the symbol of a state. -/
theorem Legal.function_ne_ok {table : SymbolTable} (hlegal : Legal resources states table)
    (hpin : table.pin name = .ok symbol) (state : String) : table.function state ≠ .ok symbol := by
  intro hfunction
  obtain ⟨hname, rfl⟩ := pin_eq_ok_iff.1 hpin
  obtain ⟨hstate, hsame⟩ := function_eq_ok_iff.1 hfunction
  exact hlegal.pinName_ne_functionName ((hlegal.resource_named name).1 hname)
    ((hlegal.state_named state).1 hstate) hsame.symm

/-! ## More states -/

theorem function_ofNames_append (more : List String) (hname : name ∈ states) :
    (ofNames resources (states ++ more)).function name =
      (ofNames resources states).function name := by
  apply function_eq_of_lookup
  dsimp only [ofNames]
  rw [addAll_append]
  exact lookup_addAll more (((legal_ofNames resources states).state_named name).2 hname)

/-! ## More resources -/

theorem pin_ofNames_append (more : List String) (hname : name ∈ resources) :
    (ofNames (resources ++ more) states).pin name = (ofNames resources states).pin name := by
  apply pin_eq_of_lookup
  dsimp only [ofNames]
  rw [addAll_append]
  exact lookup_addAll more (((legal_ofNames resources states).resource_named name).2 hname)

/-- The symbol of one more resource is in use when the states get theirs, which matters only if it
is the symbol of one of them. -/
theorem states_ofNames_concat
    (hfree : ∀ symbol state, (ofNames (resources ++ [name]) states).pin name = .ok symbol →
      (ofNames resources states).function state ≠ .ok symbol) :
    (ofNames (resources ++ [name]) states).states = (ofNames resources states).states := by
  have hkeys : ((ofNames resources states).states.map (·.1)).Nodup :=
    nodup_keys_addAll stateStem [] states List.nodup_nil
  simp only [pin_eq_ok_iff_lookup, ne_eq, function_eq_ok_iff_lookup] at hfree
  dsimp only [ofNames] at hfree hkeys ⊢
  rw [addAll_append] at hfree ⊢
  generalize addAll "" reservedWords resources {} = first at hfree hkeys ⊢
  change ∀ symbol state, (first.add "" reservedWords name).symbols.lookup name = some symbol → _
    at hfree
  change (addAll stateStem [] states { used := (first.add "" reservedWords name).used }).symbols = _
  unfold Symbol.Assignment.add at hfree ⊢
  split
  · rfl
  · rename_i hnew
    rw [if_neg hnew] at hfree
    have hcrowded : Crowded (mangle name "" first.used reservedWords) { used := first.used }
        { used := first.used ++ [mangle name "" first.used reservedWords] } := by
      refine ⟨rfl, fun other ↦ ?_⟩
      rw [List.mem_append, List.mem_singleton, or_comm]
    refine (hcrowded.addAll states fun hmem ↦ ?_).symbols
    obtain ⟨entry, hentry, hsymbol⟩ := List.mem_map.1 hmem
    refine hfree entry.2 entry.1 ?_ (lookup_of_mem hkeys hentry)
    rw [Bool.not_eq_true, Option.isSome_eq_false_iff, Option.isNone_iff_eq_none] at hnew
    rw [List.lookup_append, hnew, hsymbol]
    simp

/-- One more resource changes the symbol of some state exactly if it takes one. -/
theorem function_ofNames_concat_iff :
    (∀ state, (ofNames (resources ++ [name]) states).function state =
        (ofNames resources states).function state) ↔
      ∀ symbol state, (ofNames (resources ++ [name]) states).pin name = .ok symbol →
        (ofNames resources states).function state ≠ .ok symbol := by
  constructor
  · intro hsame symbol state hpin
    rw [← hsame state]
    exact (legal_ofNames _ states).function_ne_ok hpin state
  · intro hfree state
    apply function_eq_of_lookup
    rw [states_ofNames_concat hfree]

/-! ## Names that stay as they are -/

/-- The first name that has itself as its identifier takes it, unless another name had it before. -/
theorem pin_eq_self_of_new {before : List String} (after : List String)
    (hname : IsIdentifier name) (hreserved : name ∉ reservedWords) (hnew : name ∉ before)
    (hearlier : ∀ earlier ∈ before,
      (ofNames (before ++ name :: after) states).pin earlier ≠ .ok name) :
    (ofNames (before ++ name :: after) states).pin name = .ok name := by
  have hassigned := (Symbol.Assignment.assigned_start "" reservedWords List.nodup_nil).addAll before
  have hkeys : ((addAll "" reservedWords before {}).symbols.map (·.1)).Nodup :=
    nodup_keys_addAll "" reservedWords before List.nodup_nil
  have hfree : name ∉ (addAll "" reservedWords before {}).used := by
    rw [hassigned.used_eq, List.nil_append]
    intro hmem
    obtain ⟨entry, hentry, hsymbol⟩ := List.mem_map.1 hmem
    have hlookup := lookup_of_mem hkeys hentry
    have hbefore : entry.1 ∈ before := by
      apply (hassigned.named entry.1).1
      rw [hlookup]
      rfl
    apply hearlier entry.1 hbefore
    rw [pin_ofNames_append (name :: after) hbefore, pin_eq_ok_iff_lookup, ← hsymbol]
    exact hlookup
  have hnone : (addAll "" reservedWords before {}).symbols.lookup name = none := by
    rw [← Option.isNone_iff_eq_none, ← Option.isSome_eq_false_iff, ← Bool.not_eq_true,
      hassigned.named name]
    exact hnew
  have hgiven : (ofNames (before ++ [name]) states).pin name = .ok name := by
    rw [pin_eq_ok_iff_lookup]
    dsimp only [ofNames]
    rw [addAll_append]
    change ((addAll "" reservedWords before {}).add "" reservedWords name).symbols.lookup name = _
    rw [Symbol.Assignment.add, hnone, mangle_eq_self hname hreserved hfree]
    simp [List.lookup_append, hnone]
  rw [← hgiven, List.append_cons]
  exact pin_ofNames_append after (by simp)

/-- A name may be repeated; the first of its kind decides. -/
theorem pin_eq_self {before : List String} (after : List String) (hname : IsIdentifier name)
    (hreserved : name ∉ reservedWords)
    (hearlier : ∀ earlier ∈ before,
      (ofNames (before ++ name :: after) states).pin earlier ≠ .ok name) :
    (ofNames (before ++ name :: after) states).pin name = .ok name := by
  by_cases hnew : name ∈ before
  · obtain ⟨start, rest, rfl, hfirst⟩ := List.eq_append_cons_of_mem hnew
    rw [List.append_assoc, List.cons_append] at hearlier ⊢
    refine pin_eq_self_of_new _ hname hreserved hfirst fun earlier hstart ↦ ?_
    exact hearlier earlier (List.mem_append_left _ hstart)
  · exact pin_eq_self_of_new after hname hreserved hnew hearlier

end SymbolTable

namespace Workpiece

/-- The symbols that are assigned once another program is in the place of the workpiece's own. -/
def symbolsFor (piece : Workpiece) (program : Program) : SymbolTable :=
  (assignSymbols { piece with program := program }).symbols

theorem symbolsFor_addState (piece : Workpiece) (state : State) (initial : Bool) :
    piece.symbolsFor (piece.program.addState state initial) =
      SymbolTable.ofNames piece.program.registry.names
        (piece.program.stateNames ++ [state.name]) := by
  simp [symbolsFor, assignSymbols, SymbolTable.ofProgram, Registry.names, Program.stateNames]

theorem symbolsFor_register (piece : Workpiece) (resource : Resource) :
    piece.symbolsFor
        { piece.program with registry := (piece.program.registry.register resource).2 } =
      SymbolTable.ofNames (piece.program.registry.register resource).2.names
        piece.program.stateNames :=
  rfl

/-- A further state changes no symbol.  A further resource changes no symbol of a resource, and it
changes the symbol of some state exactly if it takes one.  A resource whose name is an identifier
that is neither reserved nor the symbol of an earlier resource keeps its name. -/
theorem assignSymbols_stable (piece : Workpiece) :
    let table := piece.assignSymbols.symbols
    (∀ state initial,
      let later := piece.symbolsFor (piece.program.addState state initial)
      (∀ name ∈ piece.program.registry.names, later.pin name = table.pin name) ∧
      ∀ name ∈ piece.program.stateNames, later.function name = table.function name) ∧
    (∀ resource,
      let later := piece.symbolsFor
        { piece.program with registry := (piece.program.registry.register resource).2 }
      (∀ name ∈ piece.program.registry.names, later.pin name = table.pin name) ∧
      ((∀ name, later.function name = table.function name) ↔
        ∀ symbol state, later.pin resource.name = .ok symbol →
          table.function state ≠ .ok symbol)) ∧
    ∀ before resource after, piece.program.registry.resources = before ++ resource :: after →
      IsIdentifier resource.name → resource.name ∉ reservedWords →
      (∀ earlier ∈ before, table.pin earlier.name ≠ .ok resource.name) →
      table.pin resource.name = .ok resource.name := by
  intro table
  have htable : table = SymbolTable.ofNames piece.program.registry.names piece.program.stateNames :=
    rfl
  refine ⟨fun state initial ↦ ?_, fun resource ↦ ?_, ?_⟩
  · rw [symbolsFor_addState, htable]
    exact ⟨fun name _ ↦ rfl, fun name ↦ SymbolTable.function_ofNames_append _⟩
  · rw [symbolsFor_register, htable]
    rcases piece.program.registry.names_register resource with hnames | hnames
    · rw [hnames]
      exact ⟨fun name ↦ SymbolTable.pin_ofNames_append _, SymbolTable.function_ofNames_concat_iff⟩
    · rw [hnames]
      -- The call was refused, and the name of the resource, if it has a symbol, is an older one.
      have hlegal := SymbolTable.legal_ofNames piece.program.registry.names piece.program.stateNames
      exact ⟨fun name _ ↦ rfl, iff_of_true (fun name ↦ rfl)
        fun symbol state hpin ↦ hlegal.function_ne_ok hpin state⟩
  · intro before resource after hresources hidentifier hreserved hearlier
    have hnames : piece.program.registry.names =
        before.map (·.name) ++ resource.name :: after.map (·.name) := by
      rw [Registry.names, hresources, List.map_append, List.map_cons]
    rw [htable, hnames] at hearlier ⊢
    refine SymbolTable.pin_eq_self _ hidentifier hreserved fun earlier hbefore ↦ ?_
    obtain ⟨other, hother, rfl⟩ := List.mem_map.1 hbefore
    exact hearlier other hother

end Workpiece

/-- A beacon whose states have symbols that the names of resources can lead to. -/
def beacon : Program where
  name := "Beacon"
  registry := {
    resources := [
      { name := "lamp-1", kind := .actuator, port := 3 },
      { name := "lamp", kind := .actuator, port := 4 }] }
  states := [{ name := "On" }, { name := "On 2" }]

namespace Workpiece

theorem symbols_beacon : SymbolTable.ofProgram beacon =
    { resources := [("lamp-1", "lamp_1"), ("lamp", "lamp")]
      states := [("On", "state_On"), ("On 2", "state_On_2")] } := by
  decide +kernel

/-- A horn leaves the states of the beacon alone.  A resource with the symbol of the first state
takes it away, which changes the second one as well. -/
theorem beacon_stable :
    let piece : Workpiece := { program := beacon, debounce := 200 }
    let table := piece.assignSymbols.symbols
    let horn : Resource := { name := "horn", kind := .actuator, port := 5 }
    let imitator : Resource := { name := "state On", kind := .actuator, port := 6 }
    let withHorn := piece.symbolsFor
      { beacon with registry := (beacon.registry.register horn).2 }
    let withImitator := piece.symbolsFor
      { beacon with registry := (beacon.registry.register imitator).2 }
    (piece.symbolsFor (beacon.addState { name := "On_2" } true)).function "On 2" =
      table.function "On 2" ∧
    (∀ name, withHorn.function name = table.function name) ∧
    (¬∀ name, withImitator.function name = table.function name) ∧
    withImitator.states = [("On", "state_On_2"), ("On 2", "state_On_2_2")] ∧
    table.pin "lamp" = .ok "lamp" := by
  intro piece table horn imitator withHorn withImitator
  obtain ⟨hstate, hresource, hself⟩ := assignSymbols_stable piece
  have htable : piece.assignSymbols.symbols = SymbolTable.ofProgram beacon := rfl
  have hhorn : withHorn.pin "horn" = .ok "horn" := by decide +kernel
  have himitator : withImitator =
      { resources := [("lamp-1", "lamp_1"), ("lamp", "lamp"), ("state On", "state_On")]
        states := [("On", "state_On_2"), ("On 2", "state_On_2_2")] } := by
    decide +kernel
  refine ⟨(hstate _ true).2 "On 2" (by decide), ?_, ?_, by rw [himitator], ?_⟩
  · refine (hresource horn).2.2 fun symbol state hpin hfunction ↦ ?_
    obtain rfl : symbol = "horn" := Except.ok.inj (hpin.symm.trans hhorn)
    rw [htable, symbols_beacon, SymbolTable.function_eq_ok_iff_lookup] at hfunction
    simp only [List.lookup_cons, List.lookup_nil] at hfunction
    split at hfunction
    · simp at hfunction
    · split at hfunction <;> simp at hfunction
  · intro hsame
    have htaken : withImitator.pin "state On" = .ok "state_On" := by
      rw [himitator]
      rfl
    refine (hresource imitator).2.1 hsame "state_On" "On" htaken ?_
    rw [htable, symbols_beacon]
    rfl
  · have hidentifier : IsIdentifier "lamp" :=
      ⟨List.all_eq_true.1 (by decide), 'l', ['a', 'm', 'p'], by decide, by decide⟩
    refine hself [_] _ [] rfl hidentifier (by decide +kernel) ?_
    rw [htable, symbols_beacon]
    decide

end Workpiece

end StateSketch
