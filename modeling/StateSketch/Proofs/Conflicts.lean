import Mathlib.Algebra.BigOperators.Fin
import StateSketch.Proofs.Defects

/-!
# The conflicts in a registry

A registry that is filled call by call records all conflicts between its resources and no others,
in the order of the later resource of each.  Counted, the conflicts over names and over ports do not
depend on the order in which the resources come.
-/

namespace StateSketch

/-- What is recorded about a resource whose name was used before. -/
def nameConflict (resource : Resource) : Diagnostic where
  code := .duplicateResourceName
  message := s!"name '{resource.name}' was already used"
  origin := resource.origin

/-- What is recorded about a resource on the port of another one. -/
def portConflict (resource other : Resource) : Diagnostic where
  code := .duplicatePort
  message := s!"port {resource.port} was already used by '{other.name}'"
  origin := resource.origin

/-- The conflicts of a resource with earlier ones: one if its name was used before, and then one for
each earlier resource on its port. -/
def conflictsWith (earlier : List Resource) (resource : Resource) : List Diagnostic :=
  (if resource.name ∈ earlier.map (·.name) then [nameConflict resource] else []) ++
    (earlier.filter (·.port = resource.port)).map (portConflict resource)

/-- The conflicts of each resource with those before it. -/
def conflictsAmong (resources : List Resource) : List Diagnostic :=
  atEach resources fun index resource ↦ conflictsWith (resources.take index) resource

/-- The places of two resources on one port, the earlier one first. -/
def portPairs (resources : List Resource) :
    Finset (Fin resources.length × Fin resources.length) :=
  Finset.univ.filter fun pair ↦
    pair.1 < pair.2 ∧ (resources.get pair.1).port = (resources.get pair.2).port

/-- No two resources are on a port with too many digits to be told. -/
def PortsTellable (resources : List Resource) : Prop :=
  resources.Pairwise fun first second ↦
    first.port = second.port → Text.isTooWide second.port = false

instance (resources : List Resource) : Decidable (PortsTellable resources) :=
  inferInstanceAs (Decidable (List.Pairwise _ resources))

/-! ## One more resource -/

theorem conflictsAmong_concat (earlier : List Resource) (resource : Resource) :
    conflictsAmong (earlier ++ [resource]) =
      conflictsAmong earlier ++ conflictsWith earlier resource := by
  unfold conflictsAmong atEach
  rw [List.zipIdx_append, List.flatMap_append]
  congr 1
  · apply List.flatMap_congr
    rintro ⟨other, index⟩ hmem
    obtain ⟨-, hindex, -⟩ := List.mem_zipIdx hmem
    dsimp only
    rw [List.take_append_of_le_length (by omega)]
  · simp

theorem portsTellable_concat (earlier : List Resource) (resource : Resource) :
    PortsTellable (earlier ++ [resource]) ↔
      PortsTellable earlier ∧
        ∀ other ∈ earlier, other.port = resource.port → Text.isTooWide resource.port = false := by
  unfold PortsTellable
  rw [List.pairwise_append]
  simp

namespace Registry

theorem conflictsOf_eq (registry : Registry) (resource : Resource) :
    registry.conflictsOf resource = conflictsWith registry.resources resource := by
  unfold conflictsOf nameConflicts portConflicts conflictsWith
  congr 1
  · simp only [contains_eq_true_iff, names]
    rfl
  · apply List.map_congr_left
    intro other hother
    rw [of_decide_eq_true (List.mem_filter.1 hother).2]
    rfl

theorem isTellable_iff (registry : Registry) (resource : Resource) :
    registry.isTellable resource = true ↔ ∀ other ∈ registry.resources,
      other.port = resource.port → Text.isTooWide resource.port = false := by
  unfold isTellable
  cases Text.isTooWide resource.port <;> simp [ownerOfPort?]

/-- One call keeps the record exact, so calls one after the other do, up to one that is refused. -/
theorem fill_eq {before : Registry} (hrecord : before.conflicts = conflictsAmong before.resources)
    (htellable : PortsTellable before.resources) (rest : List Resource) :
    fill rest before =
      if PortsTellable (before.resources ++ rest) then
        .ok { resources := before.resources ++ rest
              conflicts := conflictsAmong (before.resources ++ rest) }
      else .error .numeralTooWide := by
  induction rest generalizing before with
  | nil =>
    rw [fill, List.append_nil, if_pos htellable, ← hrecord]
  | cons resource rest ih =>
    have hsplit : before.resources ++ resource :: rest =
        (before.insert resource).resources ++ rest := by simp
    rw [fill, register, hsplit]
    by_cases htold : before.isTellable resource = true
    · have hnext : (before.insert resource).conflicts =
          conflictsAmong (before.insert resource).resources := by
        rw [conflicts_insert, resources_insert, conflictsAmong_concat, hrecord, conflictsOf_eq]
      have hkept : PortsTellable (before.insert resource).resources := by
        rw [resources_insert, portsTellable_concat]
        exact ⟨htellable, (isTellable_iff before resource).1 htold⟩
      rw [if_pos htold]
      exact ih hnext hkept
    · have hrefused : ¬PortsTellable ((before.insert resource).resources ++ rest) := by
        intro hall
        have hkept : PortsTellable (before.resources ++ [resource]) :=
          (List.pairwise_append.1 hall).1
        exact htold ((isTellable_iff before resource).2 ((portsTellable_concat _ _).1 hkept).2)
      rw [if_neg htold, if_neg hrefused]

end Registry

/-! ## How many conflicts there are -/

theorem countP_name_conflictsWith (earlier : List Resource) (resource : Resource) :
    (conflictsWith earlier resource).countP (·.code == .duplicateResourceName) =
      if resource.name ∈ earlier.map (·.name) then 1 else 0 := by
  have hports : (earlier.filter (·.port = resource.port)).countP
      ((·.code == .duplicateResourceName) ∘ portConflict resource) = 0 :=
    List.countP_eq_zero.2 fun _ _ ↦ Bool.false_ne_true
  rw [conflictsWith, List.countP_append, List.countP_map, hports, Nat.add_zero]
  split <;> rfl

theorem countP_port_conflictsWith (earlier : List Resource) (resource : Resource) :
    (conflictsWith earlier resource).countP (·.code == .duplicatePort) =
      (earlier.map (·.port)).count resource.port := by
  have hname : (if resource.name ∈ earlier.map (·.name) then [nameConflict resource]
      else []).countP (·.code == .duplicatePort) = 0 := by
    split <;> rfl
  have hports : (earlier.filter (·.port = resource.port)).countP
      ((·.code == .duplicatePort) ∘ portConflict resource) =
        (earlier.filter (·.port = resource.port)).length :=
    List.countP_eq_length.2 fun _ _ ↦ rfl
  rw [conflictsWith, List.countP_append, List.countP_map, hname, hports, Nat.zero_add, List.count,
    List.countP_map, List.countP_eq_length_filter]
  rfl

/-- All but the first resource of each name are in conflict over it. -/
theorem countP_name_conflictsAmong (resources : List Resource) :
    (conflictsAmong resources).countP (·.code == .duplicateResourceName) +
      (resources.map (·.name)).toFinset.card = resources.length := by
  induction resources using List.reverseRecOn with
  | nil => rfl
  | append_singleton earlier resource ih =>
    have hnames : ((earlier ++ [resource]).map (·.name)).toFinset =
        insert resource.name (earlier.map (·.name)).toFinset := by
      ext name
      simp
    rw [conflictsAmong_concat, List.countP_append, countP_name_conflictsWith, hnames,
      List.length_append, List.length_singleton]
    by_cases hused : resource.name ∈ earlier.map (·.name)
    · rw [if_pos hused, Finset.insert_eq_of_mem (List.mem_toFinset.2 hused)]
      omega
    · rw [if_neg hused, Finset.card_insert_of_notMem fun hmem ↦ hused (List.mem_toFinset.1 hmem)]
      omega

/-- How many pairs of equal ports there are. -/
def equalPairs : List Nat → Nat
  | [] => 0
  | port :: later => later.count port + equalPairs later

theorem equalPairs_perm {ports others : List Nat} (hperm : ports.Perm others) :
    equalPairs ports = equalPairs others := by
  induction hperm with
  | nil => rfl
  | cons port hperm ih => rw [equalPairs, equalPairs, hperm.count_eq, ih]
  | swap first second rest =>
    simp only [equalPairs, List.count_cons, beq_iff_eq, @eq_comm _ first second]
    omega
  | trans _ _ ihfirst ihsecond => exact ihfirst.trans ihsecond

theorem countP_port_conflictsAmong (resources : List Resource) :
    (conflictsAmong resources).countP (·.code == .duplicatePort) =
      equalPairs (resources.map (·.port)) := by
  induction resources using List.reverseRecOn with
  | nil => rfl
  | append_singleton earlier resource ih =>
    have hlast : ((earlier ++ [resource]).map (·.port)).Perm
        (resource.port :: earlier.map (·.port)) := by
      rw [List.map_append]
      exact List.perm_append_singleton _ _
    rw [conflictsAmong_concat, List.countP_append, countP_port_conflictsWith, ih,
      equalPairs_perm hlast, equalPairs, Nat.add_comm]

theorem sum_onPort (port : Nat) (resources : List Resource) :
    (∑ place : Fin resources.length, if port = (resources.get place).port then 1 else 0) =
      (resources.map (·.port)).count port := by
  induction resources with
  | nil => rfl
  | cons resource later ih =>
    rw [List.map_cons, List.count_cons, ← ih]
    simp only [List.length_cons]
    rw [Fin.sum_univ_succ, Nat.add_comm]
    simp only [List.get_cons_succ', List.get_cons_zero, beq_iff_eq, @eq_comm _ port]

theorem card_portPairs (resources : List Resource) :
    (portPairs resources).card = equalPairs (resources.map (·.port)) := by
  unfold portPairs
  rw [Finset.card_filter, Fintype.sum_prod_type]
  induction resources with
  | nil => rfl
  | cons resource later ih =>
    -- The pairs with the first resource come apart from those of the later ones.
    rw [List.map_cons, equalPairs, ← ih, ← sum_onPort]
    simp only [List.length_cons]
    rw [Fin.sum_univ_succ, Fin.sum_univ_succ]
    simp only [Fin.sum_univ_succ, Fin.succ_lt_succ_iff, Fin.not_lt_zero, Fin.succ_pos, lt_irrefl,
      false_and, true_and, if_false, List.get_cons_succ', List.get_cons_zero, Nat.zero_add]

theorem conflictsAmong_eq_nil_iff (resources : List Resource) :
    conflictsAmong resources = [] ↔ Registry.Unambiguous { resources := resources } := by
  induction resources using List.reverseRecOn with
  | nil => exact ⟨fun _ ↦ ⟨List.nodup_nil, List.nodup_nil⟩, fun _ ↦ rfl⟩
  | append_singleton earlier resource ih =>
    have hinsert : Registry.Unambiguous { resources := earlier ++ [resource] } ↔
        (Registry.insert { resources := earlier } resource).Unambiguous :=
      ⟨fun h ↦ ⟨h.names_nodup, h.ports_nodup⟩, fun h ↦ ⟨h.names_nodup, h.ports_nodup⟩⟩
    rw [hinsert, Registry.unambiguous_insert_iff, Registry.conflictsOf_eq, ← ih,
      conflictsAmong_concat, List.append_eq_nil_iff]

/-! ## Other orders -/

theorem portsTellable_perm {resources others : List Resource} (hperm : others.Perm resources) :
    PortsTellable others ↔ PortsTellable resources := by
  apply List.Perm.pairwise_iff _ hperm
  intro first second htold hsame
  rw [← hsame]
  exact htold hsame.symm

theorem countP_conflictsAmong_perm {resources others : List Resource}
    (hperm : others.Perm resources) {code : DiagnosticCode}
    (hcode : code ∈ [.duplicateResourceName, .duplicatePort]) :
    (conflictsAmong others).countP (·.code == code) =
      (conflictsAmong resources).countP (·.code == code) := by
  simp only [List.mem_cons, List.not_mem_nil, or_false] at hcode
  obtain rfl | rfl := hcode
  · have hothers := countP_name_conflictsAmong others
    have hresources := countP_name_conflictsAmong resources
    rw [List.toFinset_eq_of_perm _ _ (hperm.map _), hperm.length_eq] at hothers
    omega
  · rw [countP_port_conflictsAmong, countP_port_conflictsAmong, equalPairs_perm (hperm.map _)]

namespace Registry

/-- Resources registered into an empty registry are all kept, and the record is the list of their
conflicts; only a shared port with too many digits to be told stops a call.  There are no conflicts
exactly if names and ports are pairwise different.  The conflicts over names are as many as there
are resources less the different names, those over ports as many as there are pairs on one port, and
both numbers stay the same in any other order. -/
theorem fill_records_conflicts (resources : List Resource) :
    fill resources {} =
      (if PortsTellable resources then
        .ok { resources := resources, conflicts := conflictsAmong resources }
      else .error .numeralTooWide) ∧
    (conflictsAmong resources = [] ↔
      (resources.map (·.name)).Nodup ∧ (resources.map (·.port)).Nodup) ∧
    (conflictsAmong resources).countP (·.code == .duplicateResourceName) +
      (resources.map (·.name)).toFinset.card = resources.length ∧
    (conflictsAmong resources).countP (·.code == .duplicatePort) = (portPairs resources).card ∧
    ∀ others : List Resource, others.Perm resources →
      (PortsTellable others ↔ PortsTellable resources) ∧
      ∀ code ∈ [DiagnosticCode.duplicateResourceName, .duplicatePort],
        (conflictsAmong others).countP (·.code == code) =
          (conflictsAmong resources).countP (·.code == code) := by
  have hempty : ({} : Registry).conflicts = conflictsAmong ({} : Registry).resources := rfl
  refine ⟨fill_eq hempty List.Pairwise.nil resources, ?_, countP_name_conflictsAmong resources, ?_,
    ?_⟩
  · rw [conflictsAmong_eq_nil_iff]
    exact ⟨fun h ↦ ⟨h.names_nodup, h.ports_nodup⟩, fun h ↦ ⟨h.1, h.2⟩⟩
  · rw [countP_port_conflictsAmong, card_portPairs]
  · intro others hperm
    exact ⟨portsTellable_perm hperm, fun code hcode ↦ countP_conflictsAmong_perm hperm hcode⟩

end Registry

/-- Three lamps on one pin, the first and the last of them with one name. -/
def crowdedPin : List Resource :=
  [{ name := "red", kind := .actuator, port := 5 },
    { name := "green", kind := .actuator, port := 5, origin := { line := some 2 } },
    { name := "red", kind := .actuator, port := 5
      origin := { line := some 3, file := some "lamps" } }]

namespace Registry

theorem crowdedPin_recorded :
    fill crowdedPin {} = .ok {
      resources := crowdedPin
      conflicts := [
        { code := .duplicatePort, message := "port 5 was already used by 'red'"
          origin := { line := some 2, file := none } },
        { code := .duplicateResourceName, message := "name 'red' was already used"
          origin := { line := some 3, file := some "lamps" } },
        { code := .duplicatePort, message := "port 5 was already used by 'red'"
          origin := { line := some 3, file := some "lamps" } },
        { code := .duplicatePort, message := "port 5 was already used by 'green'"
          origin := { line := some 3, file := some "lamps" } }] } ∧
    (portPairs crowdedPin).card = 3 ∧
    (conflictsAmong crowdedPin.reverse).countP (·.code == .duplicatePort) = 3 := by
  obtain ⟨hfill, -, -, hpairs, horder⟩ := fill_records_conflicts crowdedPin
  obtain ⟨-, hsame⟩ := horder crowdedPin.reverse (List.reverse_perm _)
  have hcount : (conflictsAmong crowdedPin).countP (·.code == .duplicatePort) = 3 := by
    decide +kernel
  rw [if_pos (by decide +kernel)] at hfill
  refine ⟨hfill.trans (by decide +kernel), hpairs.symm.trans hcount, ?_⟩
  exact (hsame .duplicatePort (by decide)).trans hcount

end Registry

/-- A lamp on a port that cannot be told. -/
def lampOnWidePort (name : String) : Resource where
  name := name
  kind := .actuator
  port := Text.leastWide

namespace Registry

/-- Of two lamps on such a port only the first is kept, and no conflict is recorded. -/
theorem widePort_not_kept :
    let lamps := [lampOnWidePort "left", lampOnWidePort "right"]
    fill lamps {} = .error .numeralTooWide ∧ conflictsAmong lamps ≠ [] ∧
      let registry := (({} : Registry).register (lampOnWidePort "left")).2
      registry.resources = [lampOnWidePort "left"] ∧
        registry.register (lampOnWidePort "right") = (.error .numeralTooWide, registry) := by
  intro lamps
  have hfill : fill lamps {} = .error .numeralTooWide := by decide +kernel
  refine ⟨hfill, ?_, rfl, by decide +kernel⟩
  intro hnone
  rw [conflictsAmong_eq_nil_iff] at hnone
  exact absurd hnone.ports_nodup (by simp [Registry.ports, lamps, lampOnWidePort])

end Registry

end StateSketch
