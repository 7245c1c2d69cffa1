import StateSketch.Proofs.SymbolAssignment

/-!
# Words of the language as symbols

The reserved words leave out some words of the language that sketches are written in.  The function
of a state never has a word of the language as its name.  The variable of a resource has one exactly
if the word is left out and is the identifier of some resource.
-/

namespace StateSketch

open StateSketch.Symbol

namespace Symbol

/-- The keywords and the alternative tokens of C++11. -/
def languageWords : List String :=
  ["alignas", "alignof", "asm", "auto", "bool", "break", "case", "catch", "char", "char16_t",
    "char32_t", "class", "const", "constexpr", "const_cast", "continue", "decltype", "default",
    "delete", "do", "double", "dynamic_cast", "else", "enum", "explicit", "export", "extern",
    "false", "float", "for", "friend", "goto", "if", "inline", "int", "long", "mutable",
    "namespace", "new", "noexcept", "nullptr", "operator", "private", "protected", "public",
    "register", "reinterpret_cast", "return", "short", "signed", "sizeof", "static",
    "static_assert", "static_cast", "struct", "switch", "template", "this", "thread_local",
    "throw", "true", "try", "typedef", "typeid", "typename", "union", "unsigned", "using",
    "virtual", "void", "volatile", "wchar_t", "while"] ++
  ["and", "and_eq", "bitand", "bitor", "compl", "not", "not_eq", "or", "or_eq", "xor", "xor_eq"]

/-- The words of the language that are not reserved. -/
def unlistedWords : List String :=
  languageWords.filter (· ∉ reservedWords)

example : unlistedWords =
    ["alignas", "alignof", "char16_t", "char32_t", "const_cast", "decltype", "dynamic_cast",
      "export", "noexcept", "reinterpret_cast", "static_assert", "static_cast", "thread_local",
      "typeid"] := by
  decide +kernel

/-- A text that the language takes for a name. -/
structure IsLegalName (text : String) : Prop where
  identifier : IsIdentifier text
  foreign : text ∉ languageWords

theorem mem_unlistedWords {word : String} :
    word ∈ unlistedWords ↔ word ∈ languageWords ∧ word ∉ reservedWords := by
  simp [unlistedWords]

/-! ## Symbols that are words of the language -/

variable {word : String}

/-- No word of the language starts with the mark or with the stem of states, and none ends in an
underscore and a number. -/
theorem languageWords_plain :
    ∀ word ∈ languageWords, ¬"sw_".toList <+: word.toList ∧ ¬stateStem.toList <+: word.toList ∧
      ('_' ∈ word.toList → word.toList.getLast?.any (·.isDigit) = false) := by
  decide +kernel

theorem numbered_not_mem_languageWords (base : String) (n : Nat) :
    numbered base n ∉ languageWords :=
  numbered_not_mem (fun word hword ↦ (languageWords_plain word hword).2.2) base n

theorem not_mem_languageWords_of_stateStem {symbol : String}
    (hstem : stateStem.toList <+: symbol.toList) : symbol ∉ languageWords :=
  fun hmem ↦ (languageWords_plain symbol hmem).2.1 hstem

/-- A resource gets a word of the language as its symbol only if its identifier is this word;
numbers and the mark for reserved words lead to none. -/
theorem resourceSymbol_eq_iff (name : String) (used : List String) (hword : word ∈ languageWords) :
    mangle name "" used reservedWords = word ↔
      word ∉ reservedWords ∧ identifier name = word ∧ word ∉ used := by
  have hbase : mangle name "" used reservedWords =
      fresh (unreserved (identifier name ∈ reservedWords) (identifier name)) used := by
    simp only [mangle, String.empty_append]
  have hmark : ∀ base, "sw_" ++ base ≠ word := by
    rintro base rfl
    exact (languageWords_plain _ hword).1 (by simp)
  rw [hbase]
  constructor
  · intro hsymbol
    obtain ⟨hfree, hself | ⟨n, hn⟩⟩ :=
      fresh_cases (unreserved (identifier name ∈ reservedWords) (identifier name)) used
    · rw [hsymbol] at hself
      by_cases hreserved : identifier name ∈ reservedWords
      · rw [unreserved, if_pos (by simpa using hreserved)] at hself
        exact absurd hself.symm (hmark _)
      · rw [unreserved, if_neg (by simpa using hreserved)] at hself
        exact ⟨hself ▸ hreserved, hself.symm, hsymbol ▸ hfree⟩
    · rw [← hsymbol, hn] at hword
      exact absurd hword (numbered_not_mem_languageWords _ n)
  · rintro ⟨hreserved, rfl, hfree⟩
    rw [unreserved, if_neg (by simpa using hreserved), fresh, if_neg hfree]

namespace Assignment

variable {names : List String} {assignment : Assignment}

theorem nodup_keys_add (stem : String) (reserved : List String)
    (hkeys : (assignment.symbols.map (·.1)).Nodup) (name : String) :
    ((assignment.add stem reserved name).symbols.map (·.1)).Nodup := by
  unfold add
  split
  · exact hkeys
  · rename_i hnew
    rw [Bool.not_eq_true, Option.isSome_eq_false_iff, Option.isNone_iff_eq_none] at hnew
    have hfree : name ∉ assignment.symbols.map (·.1) := by
      intro hmem
      obtain ⟨entry, hentry, rfl⟩ := List.mem_map.1 hmem
      simpa using List.lookup_eq_none_iff.1 hnew entry hentry
    rw [List.map_append]
    exact hkeys.append (List.nodup_singleton _) (by simpa using hfree)

theorem nodup_keys_addAll (stem : String) (reserved names : List String)
    (hkeys : (assignment.symbols.map (·.1)).Nodup) :
    ((assignment.addAll stem reserved names).symbols.map (·.1)).Nodup := by
  induction names generalizing assignment with
  | nil => exact hkeys
  | cons name rest ih => exact ih (nodup_keys_add stem reserved hkeys name)

/-- The word has been given as a symbol exactly if it is unlisted and the identifier of a name. -/
def KeepsWord (word : String) (names : List String) (assignment : Assignment) : Prop :=
  word ∈ assignment.symbols.map (·.2) ↔
    word ∈ unlistedWords ∧ ∃ name ∈ names, identifier name = word

theorem keepsWord_add (hword : word ∈ languageWords)
    (hassigned : Assigned "" reservedWords [] names assignment)
    (hkept : KeepsWord word names assignment) (name : String) :
    KeepsWord word (names ++ [name]) (assignment.add "" reservedWords name) := by
  unfold KeepsWord at hkept ⊢
  unfold add
  split
  · rename_i hknown
    have hname : name ∈ names := (hassigned.named name).1 hknown
    rw [hkept]
    simp only [List.mem_append, List.mem_singleton]
    constructor
    · rintro ⟨hunlisted, other, hother, hidentifier⟩
      exact ⟨hunlisted, other, .inl hother, hidentifier⟩
    · rintro ⟨hunlisted, other, hother | rfl, hidentifier⟩
      · exact ⟨hunlisted, other, hother, hidentifier⟩
      · exact ⟨hunlisted, other, hname, hidentifier⟩
  · have hused : assignment.used = assignment.symbols.map (·.2) := hassigned.used_eq
    rw [List.map_append, List.mem_append, List.map_singleton, List.mem_singleton, eq_comm,
      resourceSymbol_eq_iff name assignment.used hword, hused]
    simp only [List.mem_append, List.mem_singleton]
    constructor
    · rintro (hold | ⟨hreserved, hidentifier, -⟩)
      · obtain ⟨hunlisted, other, hother, hidentifier⟩ := hkept.1 hold
        exact ⟨hunlisted, other, .inl hother, hidentifier⟩
      · exact ⟨mem_unlistedWords.2 ⟨hword, hreserved⟩, name, .inr rfl, hidentifier⟩
    · rintro ⟨hunlisted, other, hother | rfl, hidentifier⟩
      · exact .inl (hkept.2 ⟨hunlisted, other, hother, hidentifier⟩)
      · by_cases hold : word ∈ assignment.symbols.map (·.2)
        · exact .inl hold
        · exact .inr ⟨(mem_unlistedWords.1 hunlisted).2, hidentifier, hold⟩

theorem keepsWord_addAll (hword : word ∈ languageWords) (more : List String)
    (hassigned : Assigned "" reservedWords [] names assignment)
    (hkept : KeepsWord word names assignment) :
    KeepsWord word (names ++ more) (assignment.addAll "" reservedWords more) := by
  induction more generalizing names assignment with
  | nil => simpa [addAll] using hkept
  | cons name rest ih =>
    simpa [addAll, List.append_assoc] using
      ih (hassigned.add name) (keepsWord_add hword hassigned hkept name)

end Assignment

end Symbol

namespace SymbolTable

variable {resources states : List String} {name word : String}

theorem lookup_of_mem {entries : List (String × String)} (hkeys : (entries.map (·.1)).Nodup)
    {entry : String × String} (hentry : entry ∈ entries) :
    entries.lookup entry.1 = some entry.2 := by
  obtain ⟨before, after, rfl⟩ := List.append_of_mem hentry
  refine List.lookup_eq_some_iff.2 ⟨before, after, rfl, fun other hother ↦ bne_iff_ne.2 ?_⟩
  rw [List.map_append, List.map_cons] at hkeys
  exact fun heq ↦ List.disjoint_of_nodup_append hkeys (List.mem_map_of_mem hother)
    (heq ▸ List.mem_cons_self)

/-- Which words of the language are symbols of resources. -/
theorem pin_eq_word_iff (resources states : List String) (hword : word ∈ languageWords) :
    (∃ name, (ofNames resources states).pin name = .ok word) ↔
      word ∈ unlistedWords ∧ ∃ name ∈ resources, identifier name = word := by
  have hkept : word ∈ (ofNames resources states).resources.map (·.2) ↔
      word ∈ unlistedWords ∧ ∃ name ∈ resources, identifier name = word :=
    Assignment.keepsWord_addAll hword resources
      (Assignment.assigned_start "" reservedWords List.nodup_nil) (by simp [Assignment.KeepsWord])
  have hkeys : ((ofNames resources states).resources.map (·.1)).Nodup :=
    Assignment.nodup_keys_addAll "" reservedWords resources List.nodup_nil
  rw [← hkept]
  constructor
  · rintro ⟨name, hpin⟩
    obtain ⟨hsome, rfl⟩ := pin_eq_ok_iff.1 hpin
    exact List.mem_map.2 ⟨_, mem_of_lookup_isSome hsome, rfl⟩
  · intro hmem
    obtain ⟨entry, hentry, rfl⟩ := List.mem_map.1 hmem
    refine ⟨entry.1, ?_⟩
    rw [pin, lookup_of_mem hkeys hentry]

end SymbolTable

namespace Workpiece

/-- No state has a word of the language as its symbol.  Those that resources have are the unlisted
words that are identifiers of their names, so that all pins are declared with legal names exactly if
there are none. -/
theorem assignSymbols_word_iff (piece : Workpiece) :
    let table := piece.assignSymbols.symbols
    (∀ name symbol, table.function name = .ok symbol → IsLegalName symbol) ∧
    (∀ word ∈ languageWords, (∃ name, table.pin name = .ok word) ↔
      word ∈ unlistedWords ∧ ∃ name ∈ piece.program.registry.names, identifier name = word) ∧
    ∃ declarations,
      piece.assignSymbols.pins =
        Fault.unlessWide (piece.program.registry.resources.any (Text.isTooWide ·.port))
          declarations ∧
      declarations.map (·.port) = piece.program.registry.ports ∧
      ((∀ declaration ∈ declarations, IsLegalName declaration.pin) ↔
        ∀ name ∈ piece.program.registry.names, identifier name ∉ unlistedWords) := by
  intro table
  have hlegal : SymbolTable.Legal piece.program.registry.names piece.program.stateNames table :=
    SymbolTable.legal_ofProgram piece.program
  have hwords : ∀ word ∈ languageWords, (∃ name, table.pin name = .ok word) ↔
      word ∈ unlistedWords ∧ ∃ name ∈ piece.program.registry.names, identifier name = word :=
    fun _ hword ↦ SymbolTable.pin_eq_word_iff _ piece.program.stateNames hword
  have hnamed : ∀ resource ∈ piece.program.registry.resources,
      (table.resources.lookup resource.name).isSome = true :=
    fun resource hresource ↦ (hlegal.resource_named _).2 (List.mem_map_of_mem hresource)
  refine ⟨?_, hwords, _, pins_eq hnamed, ?_, ?_, ?_⟩
  · intro name symbol hfunction
    obtain ⟨hsome, rfl⟩ := SymbolTable.function_eq_ok_iff.1 hfunction
    have hname := (hlegal.state_named name).1 hsome
    exact ⟨hlegal.isIdentifier_functionName hname,
      not_mem_languageWords_of_stateStem (hlegal.stateStem_prefix_functionName hname)⟩
  · rw [List.map_map]
    rfl
  · intro hpins name hname hunlisted
    have hword := (mem_unlistedWords.1 hunlisted).1
    obtain ⟨other, hpin⟩ := (hwords _ hword).2 ⟨hunlisted, name, hname, rfl⟩
    obtain ⟨hsome, hsymbol⟩ := SymbolTable.pin_eq_ok_iff.1 hpin
    obtain ⟨resource, hresource, rfl⟩ := List.mem_map.1 ((hlegal.resource_named other).1 hsome)
    have hforeign := (hpins _ (List.mem_map_of_mem hresource)).foreign
    rw [SymbolTable.declarationOf] at hforeign
    exact hforeign (hsymbol ▸ hword)
  · intro hnone declaration hdeclaration
    obtain ⟨resource, hresource, rfl⟩ := List.mem_map.1 hdeclaration
    refine ⟨hlegal.isIdentifier_pinName (List.mem_map_of_mem hresource), fun hword ↦ ?_⟩
    obtain ⟨hunlisted, name, hname, hidentifier⟩ := (hwords _ hword).1
      ⟨resource.name, SymbolTable.pin_eq_ok (hnamed resource hresource)⟩
    exact hnone name hname (hidentifier ▸ hunlisted)

end Workpiece

/-- Resources that are named after words of the language. -/
def wordy : Program where
  name := "Wordy"
  registry := {
    resources := [
      { name := "typeid", kind := .sensor, port := 2 },
      { name := "static cast", kind := .sensor, port := 3 },
      { name := "static-cast", kind := .sensor, port := 4 },
      { name := "throw", kind := .actuator, port := 5 }] }
  states := [{ name := "new" }]

namespace Workpiece

theorem symbols_wordy : SymbolTable.ofProgram wordy =
    { resources := [("typeid", "typeid"), ("static cast", "static_cast"),
        ("static-cast", "static_cast_2"), ("throw", "sw_throw")]
      states := [("new", "state_new")] } := by
  decide +kernel

/-- One of two resources with the same identifier keeps an unlisted word, and a reserved word is
kept by none. -/
theorem wordy_keeps_unlisted :
    let table := (assignSymbols { program := wordy, debounce := 200 }).symbols
    "static_cast" ∈ languageWords ∧ (∃ name, table.pin name = .ok "static_cast") ∧
    "throw" ∈ languageWords ∧ (¬∃ name, table.pin name = .ok "throw") ∧
    table.function "new" = .ok "state_new" ∧ IsLegalName "state_new" := by
  intro table
  obtain ⟨hstates, hwords, -⟩ := assignSymbols_word_iff { program := wordy, debounce := 200 }
  have hfunction : table.function "new" = .ok "state_new" := by
    rw [show table = SymbolTable.ofProgram wordy from rfl, symbols_wordy]
    rfl
  have hcast : "static_cast" ∈ languageWords := by decide +kernel
  have hunlisted : "static_cast" ∈ unlistedWords :=
    mem_unlistedWords.2 ⟨hcast, by decide +kernel⟩
  have hthrow : "throw" ∈ languageWords := by decide +kernel
  have hreserved : "throw" ∈ reservedWords := by decide +kernel
  refine ⟨hcast, (hwords _ hcast).2 ⟨hunlisted, "static cast", by decide, by decide⟩,
    hthrow, fun hpin ↦ ?_, hfunction, hstates _ _ hfunction⟩
  exact (mem_unlistedWords.1 ((hwords _ hthrow).1 hpin).1).2 hreserved

/-- Words of the language are declared as variables. -/
theorem wordy_declares_words :
    let piece := assignSymbols { program := wordy, debounce := 200 }
    piece.symbols.pin "typeid" = .ok "typeid" ∧ "typeid" ∈ languageWords ∧
    piece.symbols.pin "static cast" = .ok "static_cast" ∧ "static_cast" ∈ languageWords ∧
    (piece.pins.map fun declarations ↦ declarations.map (·.text)) =
      .ok ["int typeid = 2;", "int static_cast = 3;", "int static_cast_2 = 4;",
        "int sw_throw = 5;"] := by
  dsimp only [assignSymbols]
  rw [symbols_wordy]
  decide +kernel

end Workpiece

end StateSketch
