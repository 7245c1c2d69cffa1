import StateSketch.Proofs.SymbolAssignment

/-!
# Conditions read back

The condition of a branch is read as the conjunction of the guard, node by node, with `guard`.  The
parentheses of inner nodes decide what belongs together, and leaves need none because `==` binds
more tightly.  A guard can therefore be told from its text.
-/

namespace StateSketch

open Wiring

theorem Level.word_injective : Function.Injective word := by
  intro first second heq
  cases first <;> cases second <;> first | rfl | simp [word] at heq

namespace Guard

theorem expression_injective : Function.Injective expression := by
  intro first
  induction first with
  | reads sensor level =>
    intro second heq
    cases second with
    | reads other word =>
      simp only [expression, Expression.binary.injEq, Expression.call.injEq, List.cons.injEq,
        Expression.atom.injEq, Atom.name.injEq] at heq
      obtain ⟨-, ⟨-, rfl, -⟩, hword⟩ := heq
      rw [Level.word_injective hword]
    | _ => simp [expression] at heq
  | both left right ihleft ihright =>
    intro second heq
    cases second with
    | both =>
      simp only [expression, Expression.binary.injEq, true_and] at heq
      rw [ihleft heq.1, ihright heq.2]
    | _ => simp [expression] at heq
  | either left right ihleft ihright =>
    intro second heq
    cases second with
    | either =>
      simp only [expression, Expression.binary.injEq, true_and] at heq
      rw [ihleft heq.1, ihright heq.2]
    | _ => simp [expression] at heq

/-- A guard can be told from its symbols if no two of the sensors in question share one. -/
theorem rename_inj_on {symbol : String → String} {first second : Guard}
    (hapart : ∀ sensor ∈ first.sensors, ∀ other ∈ second.sensors,
      symbol sensor = symbol other → sensor = other)
    (heq : first.rename symbol = second.rename symbol) : first = second := by
  induction first generalizing second with
  | reads sensor level =>
    cases second with
    | reads other word =>
      simp only [rename, reads.injEq] at heq
      rw [hapart sensor (by simp [sensors]) other (by simp [sensors]) heq.1, heq.2]
    | _ => simp [rename] at heq
  | both left right ihleft ihright =>
    cases second with
    | both leftOther rightOther =>
      simp only [rename, both.injEq] at heq
      simp only [sensors, List.mem_append] at hapart
      rw [ihleft (fun a ha b hb ↦ hapart a (.inl ha) b (.inl hb)) heq.1,
        ihright (fun a ha b hb ↦ hapart a (.inr ha) b (.inr hb)) heq.2]
    | _ => simp [rename] at heq
  | either left right ihleft ihright =>
    cases second with
    | either leftOther rightOther =>
      simp only [rename, either.injEq] at heq
      simp only [sensors, List.mem_append] at hapart
      rw [ihleft (fun a ha b hb ↦ hapart a (.inl ha) b (.inl hb)) heq.1,
        ihright (fun a ha b hb ↦ hapart a (.inr ha) b (.inr hb)) heq.2]
    | _ => simp [rename] at heq

end Guard

theorem Test.text_settled (condition : Guard) :
    (Test.settled condition).text = condition.text ++ " && guard" :=
  rfl

/-! ## Reading to the end -/

namespace Wiring

/-- The pins in the calls of `digitalRead`, from left to right. -/
def pinsRead : List Token → List String
  | .name "digitalRead" :: .mark .openParen :: .name pin :: rest => pin :: pinsRead rest
  | _ :: rest => pinsRead rest
  | [] => []

theorem pinsRead_guard (condition : Guard) (rest : List Token) :
    pinsRead (condition.tokens ++ rest) = condition.sensors ++ pinsRead rest := by
  induction condition generalizing rest with
  | reads sensor level => cases level <;> simp [Guard.tokens, Guard.sensors, pinsRead, Level.word]
  | both left right ihleft ihright =>
    simp [Guard.tokens, Guard.sensors, pinsRead, ihleft, ihright]
  | either left right ihleft ihright =>
    simp [Guard.tokens, Guard.sensors, pinsRead, ihleft, ihright]

theorem operations_nil (level : Nat) (left : Expression) :
    operations level left [] = some (left, []) := by
  rw [operations]
  simp

/-- The condition of a guarded branch, with nothing behind it. -/
theorem expression_settled (condition : Guard) :
    expression 0 (Test.settled condition).tokens =
      some ((Test.settled condition).expression, []) := by
  have hguard : expression (Operator.and.level + 1) [.name "guard"] =
      some (.atom (.name "guard"), []) := by
    rw [expression_of_primary (primary_name _ (by simp)) (by simp), operations_nil]
  calc
    expression 0 (condition.tokens ++ [.operator .and, .name "guard"]) =
        operations 0 condition.expression [.operator .and, .name "guard"] :=
      expression_guard condition (by decide) (by simp) fun _ ↦ operations_loose (by decide) _ _
    _ = operations 0 (Test.settled condition).expression [] :=
      operations_tight (Nat.zero_le _) hguard (by simp)
    _ = some ((Test.settled condition).expression, []) := operations_nil _ _

end Wiring

/-! ## Conditions -/

namespace SymbolTable

variable {table : SymbolTable} {condition other : Guard}

/-- Every sensor of the guard has a symbol, which is a name. -/
def Names (table : SymbolTable) (condition : Guard) : Prop :=
  ∀ sensor ∈ condition.sensors, ∃ symbol, table.pin sensor = .ok symbol ∧ IsName symbol

theorem Names.pin_eq (hnames : table.Names condition) {sensor : String}
    (hsensor : sensor ∈ condition.sensors) : table.pin sensor = .ok (table.pinName sensor) := by
  obtain ⟨symbol, hpin, -⟩ := hnames sensor hsensor
  exact pin_eq_ok (pin_eq_ok_iff.1 hpin).1

theorem Names.guard_eq (hnames : table.Names condition) :
    table.guard condition = .ok (condition.rename table.pinName) := by
  apply guard_eq_ok
  intro sensor hsensor
  exact (pin_eq_ok_iff.1 (hnames.pin_eq hsensor)).1

theorem Names.spells_test (hnames : table.Names condition) :
    Spells (Test.settled (condition.rename table.pinName)).text
      (Test.settled (condition.rename table.pinName)).tokens := by
  apply Test.spells_text
  intro symbol hsymbol
  rw [Test.symbols, Guard.sensors_rename] at hsymbol
  obtain ⟨sensor, hsensor, rfl⟩ := List.mem_map.1 hsymbol
  obtain ⟨symbol, hpin, hname⟩ := hnames sensor hsensor
  rwa [(pin_eq_ok_iff.1 hpin).2]

/-- Guards with the same text have the same symbols at the same places. -/
theorem Names.rename_eq_of_text_eq (hnames : table.Names condition) (hother : table.Names other)
    (htext : (condition.rename table.pinName).text = (other.rename table.pinName).text) :
    condition.rename table.pinName = other.rename table.pinName := by
  have htests : (Test.settled (condition.rename table.pinName)).text =
      (Test.settled (other.rename table.pinName)).text := by
    rw [Test.text_settled, Test.text_settled, htext]
  have htokens := calc
    (Test.settled (condition.rename table.pinName)).tokens =
        tokens (Test.settled (condition.rename table.pinName)).text :=
      hnames.spells_test.tokens_eq.symm
    _ = tokens (Test.settled (other.rename table.pinName)).text := congrArg tokens htests
    _ = (Test.settled (other.rename table.pinName)).tokens := hother.spells_test.tokens_eq
  have hread := expression_settled (condition.rename table.pinName)
  rw [htokens, expression_settled] at hread
  apply Guard.expression_injective
  simp only [Test.expression, Option.some.injEq, Prod.mk.injEq, Expression.binary.injEq] at hread
  exact hread.1.2.1.symm

/-- The condition of a branch is read to its end, as the conjunction of the guard with `guard`; the
sensors are read in their order, and no other guard has the same text. -/
theorem condition_reads_back (hnames : table.Names condition) :
    ∃ text, (table.guard condition).map (·.text) = .ok text ∧
      (table.test (.guard condition)).map (·.text) = .ok (text ++ " && guard") ∧
      expression 0 (tokens (text ++ " && guard")) =
        some (.binary .and (condition.rename table.pinName).expression (.atom (.name "guard")),
          []) ∧
      pinsRead (tokens (text ++ " && guard")) = condition.sensors.map table.pinName ∧
      ∀ other, table.Names other →
        (∀ sensor ∈ condition.sensors, ∀ sensor' ∈ other.sensors,
          table.pin sensor = table.pin sensor' → sensor = sensor') →
        (table.guard other).map (·.text) = .ok text → other = condition := by
  have htokens := hnames.spells_test.tokens_eq
  rw [Test.text_settled] at htokens
  refine ⟨(condition.rename table.pinName).text, ?_, ?_, ?_, ?_, ?_⟩
  · rw [hnames.guard_eq]
    rfl
  · rw [test, hnames.guard_eq]
    rfl
  · rw [htokens]
    exact expression_settled _
  · rw [htokens, Test.tokens, pinsRead_guard, Guard.sensors_rename]
    simp [pinsRead]
  · intro other hother hapart htext
    rw [hother.guard_eq] at htext
    have hsymbols := hnames.rename_eq_of_text_eq hother (Except.ok.inj htext).symm
    refine (Guard.rename_inj_on (fun sensor hsensor sensor' hsensor' heq ↦ ?_) hsymbols).symm
    apply hapart sensor hsensor sensor' hsensor'
    rw [hnames.pin_eq hsensor, hother.pin_eq hsensor', heq]

end SymbolTable

/-- The symbols of a program are names. -/
theorem Program.names_table {program : Program} {condition : Guard}
    (hsensors : ∀ sensor ∈ condition.sensors, sensor ∈ program.registry.names) :
    program.table.Names condition := by
  intro sensor hsensor
  refine ⟨program.table.pinName sensor, ?_, isName_pinName (hsensors sensor hsensor)⟩
  exact SymbolTable.pin_eq_ok ((lookup_resources_isSome program sensor).2 (hsensors sensor hsensor))

/-- A car waits or the key is held, and the motor is not running backwards. -/
def clearance : Guard :=
  .both (.either (.reads "loop" .high) (.reads "key" .high)) (.reads "motor-" .low)

theorem SymbolTable.clearance_reads_back :
    barrier.table.Names clearance ∧
      ∃ text, (barrier.table.test (.guard clearance)).map (·.text) = .ok text ∧
        text = "((digitalRead(sw_loop) == HIGH || digitalRead(key) == HIGH)" ++
          " && digitalRead(motor__2) == LOW)" ++ " && guard" ∧
        expression 0 (tokens text) =
          some (.binary .and (clearance.rename barrier.table.pinName).expression
            (.atom (.name "guard")), []) ∧
        pinsRead (tokens text) = ["sw_loop", "key", "motor__2"] := by
  have hnames : barrier.table.Names clearance := Program.names_table (by decide +kernel)
  have hsymbols : clearance.sensors.map barrier.table.pinName = ["sw_loop", "key", "motor__2"] := by
    decide +kernel
  have hshown : (barrier.table.guard clearance).map (·.text) =
      .ok ("((digitalRead(sw_loop) == HIGH || digitalRead(key) == HIGH)" ++
        " && digitalRead(motor__2) == LOW)") := by
    decide +kernel
  obtain ⟨text, hguard, htest, hread, hpins, -⟩ := condition_reads_back hnames
  rw [hshown] at hguard
  obtain rfl := Except.ok.inj hguard
  exact ⟨hnames, _, htest, rfl, hread, hsymbols ▸ hpins⟩

end StateSketch
