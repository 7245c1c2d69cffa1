import StateSketch.Program
import StateSketch.Symbol.Identifier
import StateSketch.Symbol.Reserved

/-!
# Symbols

Every resource and every state gets an identifier of its own.  Names are taken in the order of
declaration, resources first; where the identifier of a name is taken, the first free one of
`x_2`, `x_3`, … is used.  The search for it ends because these forms are pairwise different, so
that a finite list of names in use cannot hold them all.
-/

namespace StateSketch

namespace Symbol

def numbered (base : String) (n : Nat) : String :=
  base ++ "_" ++ toString n

theorem numbered_injective (base : String) : Function.Injective (numbered base) := by
  intro m n h
  have hlists := congrArg String.toList h
  simp only [numbered, String.toList_append, List.append_assoc, List.append_cancel_left_eq,
    Nat.toString_eq_repr, Nat.toList_repr] at hlists
  simpa using congrArg (Nat.ofDigitChars 10 · 0) hlists

/-- The names in use that a search from a number on can still meet. -/
def ahead (base : String) (used : List String) (n : Nat) : List String :=
  used.filter fun name ↦ (List.range n).all fun m ↦ name != numbered base m

theorem ahead_succ (base : String) (used : List String) (n : Nat) :
    ahead base used (n + 1) = (ahead base used n).filter (· != numbered base n) := by
  simp [ahead, List.filter_filter, List.range_succ, Bool.and_comm]

/-- A number that is taken uses up a name, because different numbers give different names. -/
theorem length_ahead_succ_lt {base : String} {used : List String} {n : Nat}
    (hused : numbered base n ∈ used) :
    (ahead base used (n + 1)).length < (ahead base used n).length := by
  have hahead : numbered base n ∈ ahead base used n := by
    simp only [ahead, List.mem_filter, hused, List.all_eq_true, List.mem_range, bne_iff_ne, ne_eq,
      true_and]
    intro m hm heq
    exact Nat.ne_of_gt hm (numbered_injective base heq)
  rw [ahead_succ, List.length_filter_lt_length_iff_exists]
  exact ⟨numbered base n, hahead, by simp⟩

/-- The first free number, found by trying one after the other. -/
def freeNumber (base : String) (used : List String) (n : Nat) : Nat :=
  if numbered base n ∈ used then freeNumber base used (n + 1) else n
termination_by (ahead base used n).length
decreasing_by exact length_ahead_succ_lt ‹_›

/-- The name itself if it is free, and else the one with the first free number from two on. -/
def fresh (base : String) (used : List String) : String :=
  if base ∈ used then numbered base (freeNumber base used 2) else base

/-- A symbol that is no reserved word, given whether `base` is one. -/
def unreserved (reserved : Bool) (base : String) : String :=
  if reserved then "sw_" ++ base else base

/-- The symbol of a name beside those in use. -/
def mangle (name stem : String) (used reserved : List String) : String :=
  let base := stem ++ identifier name
  fresh (unreserved (base ∈ reserved) base) used

/-- Symbols given so far, and all identifiers in use. -/
structure Assignment where
  symbols : List (String × String) := []
  used : List String := []

namespace Assignment

/-- Gives a symbol to a name that has none yet. -/
def add (stem : String) (reserved : List String) (assignment : Assignment) (name : String) :
    Assignment :=
  if (assignment.symbols.lookup name).isSome then assignment
  else
    let symbol := mangle name stem assignment.used reserved
    { symbols := assignment.symbols ++ [(name, symbol)], used := assignment.used ++ [symbol] }

def addAll (stem : String) (reserved names : List String) (assignment : Assignment) :
    Assignment :=
  names.foldl (add stem reserved) assignment

end Assignment

/-- State functions start with this, which keeps them apart from reserved words. -/
def stateStem : String := "state_"

end Symbol

/-- The symbols of resources and of states, in the order in which they were given. -/
structure SymbolTable where
  resources : List (String × String) := []
  states : List (String × String) := []
deriving DecidableEq

namespace SymbolTable

def ofNames (resources states : List String) : SymbolTable :=
  let first := Symbol.Assignment.addAll "" Symbol.reservedWords resources {}
  let second := Symbol.Assignment.addAll Symbol.stateStem [] states { used := first.used }
  { resources := first.symbols, states := second.symbols }

def ofProgram (program : Program) : SymbolTable :=
  ofNames (program.registry.resources.map (·.name)) (program.states.map (·.name))

end SymbolTable

end StateSketch
