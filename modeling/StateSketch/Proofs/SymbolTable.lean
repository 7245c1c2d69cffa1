import Mathlib.Data.List.Nodup
import StateSketch.Symbol.Table

/-!
# The symbols of a program

A symbol is an identifier of the sketch language.  The search for a free number passes over the
numbers that are taken and stops at one that is free.  Giving symbols to one name after the other
keeps them apart from one another and from everything used before; resources stay clear of the
reserved words as well, and the stem of state functions does the same for states.
-/

namespace StateSketch.Symbol

/-! ## Identifiers -/

/-- A text of letters, digits and underscores that does not start with a digit. -/
structure IsIdentifier (text : String) : Prop where
  word : ∀ c ∈ text.toList, isWordChar c = true
  head : ∃ first rest, text.toList = first :: rest ∧ first.isDigit = false

theorem isWordChar_wordChar (c : Char) : isWordChar (wordChar c) = true := by
  unfold wordChar
  split
  · assumption
  · decide

theorem isWordChar_of_isDigit {c : Char} (hdigit : c.isDigit = true) : isWordChar c = true := by
  simp [isWordChar, Char.isAlphanum, hdigit]

theorem isDigit_wordChar {c : Char} (hdigit : c.isDigit = false) :
    (wordChar c).isDigit = false := by
  unfold wordChar
  split
  · exact hdigit
  · decide

theorem isIdentifier_identifier (name : String) : IsIdentifier (identifier name) := by
  unfold identifier
  cases hname : name.toList with
  | nil => exact ⟨by simp [identifierChars, isWordChar], '_', [], by simp [identifierChars]⟩
  | cons c rest =>
    have hword : ∀ d ∈ (c :: rest).map wordChar, isWordChar d = true := by
      simp [isWordChar_wordChar]
    by_cases hdigit : c.isDigit = true
    · refine ⟨?_, '_', (c :: rest).map wordChar, ?_, by decide⟩
      · intro d hd
        simp only [identifierChars, hdigit, if_true, String.toList_ofList, List.mem_cons] at hd
        rcases hd with rfl | hd
        · decide
        · exact hword d (by simpa using hd)
      · simp [identifierChars, hdigit]
    · have hplain : c.isDigit = false := by simpa using hdigit
      refine ⟨?_, wordChar c, rest.map wordChar, ?_, isDigit_wordChar hplain⟩
      · simpa [identifierChars, hplain] using hword
      · simp [identifierChars, hplain]

/-- An identifier stays one with more letters, digits and underscores behind it. -/
theorem IsIdentifier.append {text more : String} (htext : IsIdentifier text)
    (hmore : ∀ c ∈ more.toList, isWordChar c = true) : IsIdentifier (text ++ more) := by
  obtain ⟨first, rest, hhead, hdigit⟩ := htext.head
  refine ⟨?_, first, rest ++ more.toList, by simp [hhead], hdigit⟩
  intro c hc
  rw [String.toList_append, List.mem_append] at hc
  exact hc.elim (htext.word c) (hmore c)

theorem isDigit_of_mem_toString {n : Nat} {c : Char} (hc : c ∈ (toString n).toList) :
    c.isDigit = true := by
  rw [Nat.toString_eq_repr, Nat.toList_repr] at hc
  exact Nat.isDigit_of_mem_toDigits (by decide) (by decide) hc

theorem isWordChar_of_mem_toString {n : Nat} {c : Char} (hc : c ∈ (toString n).toList) :
    isWordChar c = true :=
  isWordChar_of_isDigit (isDigit_of_mem_toString hc)

theorem IsIdentifier.numbered {base : String} (hbase : IsIdentifier base) (n : Nat) :
    IsIdentifier (numbered base n) :=
  (hbase.append (List.all_eq_true.1 (by decide))).append fun _ hc ↦ isWordChar_of_mem_toString hc

/-! ## Free names -/

/-- The search stops at a number that is free, and it has passed over numbers that are taken. -/
theorem freeNumber_spec (base : String) (used : List String) (n : Nat) :
    n ≤ freeNumber base used n ∧ numbered base (freeNumber base used n) ∉ used ∧
      ∀ m, n ≤ m → m < freeNumber base used n → numbered base m ∈ used := by
  fun_induction freeNumber base used n with
  | case1 n htaken ih =>
    obtain ⟨hle, hfree, hbefore⟩ := ih
    refine ⟨by omega, hfree, fun m hm hless ↦ ?_⟩
    rcases Nat.eq_or_lt_of_le hm with rfl | hlater
    · exact htaken
    · exact hbefore m hlater hless
  | case2 n hfree => exact ⟨Nat.le_refl n, hfree, fun m hm hless ↦ by omega⟩

/-- The outcome of the search is free, and it is the name itself or a numbered form of it. -/
theorem fresh_cases (base : String) (used : List String) :
    fresh base used ∉ used ∧ (fresh base used = base ∨ ∃ n, fresh base used = numbered base n) := by
  unfold fresh
  split
  · exact ⟨(freeNumber_spec base used 2).2.1, .inr ⟨_, rfl⟩⟩
  · rename_i hfree
    exact ⟨hfree, .inl rfl⟩

theorem fresh_not_mem (base : String) (used : List String) : fresh base used ∉ used :=
  (fresh_cases base used).1

theorem IsIdentifier.fresh {base : String} (hbase : IsIdentifier base) (used : List String) :
    IsIdentifier (fresh base used) := by
  obtain ⟨-, hself | ⟨n, hn⟩⟩ := fresh_cases base used
  · rwa [hself]
  · rw [hn]
    exact hbase.numbered n

/-! ## Symbols of names -/

theorem isIdentifier_mangle {name stem : String} (used reserved : List String)
    (hbase : IsIdentifier (stem ++ identifier name)) :
    IsIdentifier (mangle name stem used reserved) := by
  dsimp only [mangle, unreserved]
  split
  · have hmark : IsIdentifier "sw_" :=
      ⟨List.all_eq_true.1 (by decide), 's', ['w', '_'], by decide, by decide⟩
    exact (hmark.append hbase.word).fresh used
  · exact hbase.fresh used

theorem isIdentifier_resourceSymbol (name : String) (used reserved : List String) :
    IsIdentifier (mangle name "" used reserved) :=
  isIdentifier_mangle used reserved (by simpa using isIdentifier_identifier name)

theorem isIdentifier_stateSymbol (name : String) (used : List String) :
    IsIdentifier (mangle name stateStem used []) := by
  have hstem : IsIdentifier stateStem :=
    ⟨List.all_eq_true.1 (by decide), 's', ['t', 'a', 't', 'e', '_'], by decide, by decide⟩
  exact isIdentifier_mangle used [] (hstem.append (isIdentifier_identifier name).word)

/-- A numbered form is none of the words, given that no word has both an underscore and a digit at
its end. -/
theorem numbered_not_mem {words : List String}
    (hwords : ∀ word ∈ words, '_' ∈ word.toList → word.toList.getLast?.any (·.isDigit) = false)
    (base : String) (n : Nat) : numbered base n ∉ words := by
  intro hmem
  have hlast : (numbered base n).toList.getLast?.any (·.isDigit) = true := by
    have hdigits : (toString n).toList ≠ [] := by
      rw [Nat.toString_eq_repr, Nat.toList_repr]
      exact Nat.toDigits_ne_nil
    obtain ⟨c, hc⟩ := List.getLast?_isSome.2 hdigits |> Option.isSome_iff_exists.1
    have hdigit : c.isDigit = true := isDigit_of_mem_toString (List.mem_of_getLast? hc)
    rw [numbered, String.toList_append, List.getLast?_append, hc]
    simpa using hdigit
  have hnone := hwords _ hmem (by simp [numbered])
  simp [hlast] at hnone

theorem numbered_not_mem_reservedWords (base : String) (n : Nat) :
    numbered base n ∉ reservedWords :=
  numbered_not_mem (by decide +kernel) base n

/-- What the mark for reserved words makes of a name is no reserved word. -/
theorem unreserved_not_mem_reservedWords (base : String) :
    unreserved (base ∈ reservedWords) base ∉ reservedWords := by
  unfold unreserved
  split
  · have hmark : ∀ word ∈ reservedWords, ¬"sw_".toList <+: word.toList := by decide +kernel
    exact fun hmem ↦ hmark _ hmem (by simp)
  · simp_all

theorem resourceSymbol_not_mem_reservedWords (name : String) (used : List String) :
    mangle name "" used reservedWords ∉ reservedWords := by
  unfold mangle
  obtain ⟨-, hself | ⟨n, hn⟩⟩ :=
    fresh_cases (unreserved ("" ++ identifier name ∈ reservedWords) ("" ++ identifier name)) used
  · rw [hself]
    exact unreserved_not_mem_reservedWords _
  · rw [hn]
    exact numbered_not_mem_reservedWords _ n

theorem stateStem_prefix_stateSymbol (name : String) (used : List String) :
    stateStem.toList <+: (mangle name stateStem used []).toList := by
  have hbase : mangle name stateStem used [] = fresh (stateStem ++ identifier name) used := by
    simp [mangle, unreserved]
  rw [hbase]
  obtain ⟨-, hself | ⟨n, hn⟩⟩ := fresh_cases (stateStem ++ identifier name) used
  · rw [hself]
    simp
  · rw [hn]
    simp [numbered, List.append_assoc]

theorem not_mem_reservedWords_of_stateStem {symbol : String}
    (hstem : stateStem.toList <+: symbol.toList) : symbol ∉ reservedWords := by
  have hnone : ∀ word ∈ reservedWords, ¬stateStem.toList <+: word.toList := by decide +kernel
  exact fun hmem ↦ hnone _ hmem hstem

end StateSketch.Symbol

/-! ## Assignments -/

namespace StateSketch.Symbol.Assignment

/-- What holds of an assignment after symbols were given to `names` beside those in `used`. -/
structure Assigned (stem : String) (reserved used names : List String) (assignment : Assignment) :
    Prop where
  used_eq : assignment.used = used ++ assignment.symbols.map (·.2)
  nodup : assignment.used.Nodup
  named : ∀ name, (assignment.symbols.lookup name).isSome = true ↔ name ∈ names
  made : ∀ entry ∈ assignment.symbols, ∃ taken, entry.2 = mangle entry.1 stem taken reserved

variable {stem : String} {reserved used names : List String} {assignment : Assignment}

theorem assigned_start (stem : String) (reserved : List String) (hused : used.Nodup) :
    Assigned stem reserved used [] { used := used } where
  used_eq := by simp
  nodup := hused
  named := by simp
  made := by simp

theorem Assigned.add (h : Assigned stem reserved used names assignment) (name : String) :
    Assigned stem reserved used (names ++ [name]) (assignment.add stem reserved name) := by
  unfold Assignment.add
  split
  · rename_i hknown
    have hname : name ∈ names := (h.named name).1 hknown
    refine ⟨h.used_eq, h.nodup, fun other ↦ ?_, h.made⟩
    rw [h.named other]
    constructor
    · exact fun hother ↦ List.mem_append_left _ hother
    · intro hother
      rcases List.mem_append.1 hother with hother | hother
      · exact hother
      · rwa [List.mem_singleton.1 hother]
  · have hfresh : mangle name stem assignment.used reserved ∉ assignment.used := fresh_not_mem _ _
    refine ⟨?_, ?_, fun other ↦ ?_, ?_⟩
    · simp [h.used_eq]
    · exact List.nodup_append.2 ⟨h.nodup, List.nodup_singleton _, by
        rintro symbol hsymbol _ hnew rfl
        rw [List.mem_singleton.1 hnew] at hsymbol
        exact hfresh hsymbol⟩
    · have hsingle : ([(name, mangle name stem assignment.used reserved)].lookup other).isSome =
          true ↔ other ∈ [name] := by
        by_cases hother : other = name
        · simp [hother]
        · simp [List.lookup_cons, beq_false_of_ne hother, hother]
      rw [List.lookup_append, Option.isSome_or, Bool.or_eq_true, h.named other, hsingle,
        List.mem_append]
    · intro entry hentry
      rcases List.mem_append.1 hentry with hentry | hentry
      · exact h.made entry hentry
      · rw [List.mem_singleton.1 hentry]
        exact ⟨assignment.used, rfl⟩

theorem Assigned.addAll (h : Assigned stem reserved used names assignment) (more : List String) :
    Assigned stem reserved used (names ++ more) (assignment.addAll stem reserved more) := by
  induction more generalizing names assignment with
  | nil => simpa [Assignment.addAll] using h
  | cons name more ih => simpa [Assignment.addAll, List.append_assoc] using ih (h.add name)

end StateSketch.Symbol.Assignment

/-! ## Tables -/

namespace StateSketch.SymbolTable

open StateSketch.Symbol

/-- A table in which every name has a symbol and the symbols are fit to stand beside one another
in a sketch. -/
structure Legal (resources states : List String) (table : SymbolTable) : Prop where
  resource_named : ∀ name, (table.resources.lookup name).isSome = true ↔ name ∈ resources
  state_named : ∀ name, (table.states.lookup name).isSome = true ↔ name ∈ states
  nodup : (table.resources.map (·.2) ++ table.states.map (·.2)).Nodup
  resource_symbol : ∀ entry ∈ table.resources,
    IsIdentifier entry.2 ∧ entry.2 ∉ reservedWords
  state_symbol : ∀ entry ∈ table.states,
    IsIdentifier entry.2 ∧ stateStem.toList <+: entry.2.toList

theorem legal_ofNames (resources states : List String) :
    Legal resources states (ofNames resources states) := by
  have hfirst := (Assignment.assigned_start "" reservedWords List.nodup_nil).addAll resources
  have hsecond := (Assignment.assigned_start stateStem [] hfirst.nodup).addAll states
  refine ⟨hfirst.named, hsecond.named, ?_, ?_, ?_⟩
  · have hused := hfirst.used_eq
    have hnodup := hsecond.nodup
    rw [List.nil_append] at hused
    rw [hsecond.used_eq] at hnodup
    change (List.map (·.2) (Assignment.addAll "" reservedWords resources {}).symbols ++ _).Nodup
    rw [← hused]
    exact hnodup
  · intro entry hentry
    obtain ⟨taken, hmade⟩ := hfirst.made entry hentry
    rw [hmade]
    exact ⟨isIdentifier_resourceSymbol _ _ _, resourceSymbol_not_mem_reservedWords _ _⟩
  · intro entry hentry
    obtain ⟨taken, hmade⟩ := hsecond.made entry hentry
    rw [hmade]
    exact ⟨isIdentifier_stateSymbol _ _, stateStem_prefix_stateSymbol _ _⟩

theorem legal_ofProgram (program : Program) :
    Legal (program.registry.resources.map (·.name)) (program.states.map (·.name))
      (ofProgram program) :=
  legal_ofNames _ _

end StateSketch.SymbolTable
