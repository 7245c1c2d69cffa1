import StateSketch.Diagnostic
import StateSketch.Resource

/-!
# The registry of resources

Every resource is kept in the order of declaration.  A name or a port that was taken before does
not stop a declaration; it is recorded as a conflict at the place of the later resource.  Only a
conflict that cannot be told, because the port has too many digits, stops it.
-/

namespace StateSketch

structure Registry where
  resources : List Resource := []
  conflicts : List Diagnostic := []
deriving DecidableEq

namespace Registry

def contains (registry : Registry) (name : String) : Bool :=
  registry.resources.any (·.name == name)

/-- The first resource of a name. -/
def get? (registry : Registry) (name : String) : Option Resource :=
  registry.resources.find? (·.name == name)

/-- The first resource on a port. -/
def ownerOfPort? (registry : Registry) (port : Nat) : Option Resource :=
  registry.resources.find? (·.port == port)

def sensors (registry : Registry) : List Resource :=
  registry.resources.filter (·.kind == .sensor)

def actuators (registry : Registry) : List Resource :=
  registry.resources.filter (·.kind == .actuator)

/-- At most one conflict of a new resource with those declared before, for its name. -/
def nameConflicts (registry : Registry) (resource : Resource) : List Diagnostic :=
  if registry.contains resource.name then
    [(Problem.resourceNameUsed resource.name).report resource.origin]
  else []

/-- A conflict for each resource on the port of a new one. -/
def portConflicts (registry : Registry) (resource : Resource) : List Diagnostic :=
  (registry.resources.filter (·.port == resource.port)).map fun earlier ↦
    (Problem.portUsed (toString earlier.port) earlier.name).report resource.origin

def conflictsOf (registry : Registry) (resource : Resource) : List Diagnostic :=
  registry.nameConflicts resource ++ registry.portConflicts resource

def insert (registry : Registry) (resource : Resource) : Registry where
  resources := registry.resources ++ [resource]
  conflicts := registry.conflicts ++ registry.conflictsOf resource

/-- Whether the conflicts for the port of a new resource can be told. -/
def isTellable (registry : Registry) (resource : Resource) : Bool :=
  (registry.ownerOfPort? resource.port).isNone || !Text.isTooWide resource.port

/-- Declares a resource. -/
def register (registry : Registry) (resource : Resource) : Except Fault Unit × Registry :=
  if registry.isTellable resource then (.ok (), registry.insert resource)
  else
    (.error .numeralTooWide,
      { registry with conflicts := registry.conflicts ++ registry.nameConflicts resource })

/-- The conflicts of a new resource are for its name, if that is in use, or for its port. -/
theorem mem_conflictsOf_iff {registry : Registry} {resource : Resource} {conflict : Diagnostic} :
    conflict ∈ registry.conflictsOf resource ↔
      (registry.contains resource.name = true ∧
        conflict = (Problem.resourceNameUsed resource.name).report resource.origin) ∨
      ∃ earlier ∈ registry.resources, earlier.port = resource.port ∧
        conflict = (Problem.portUsed (toString earlier.port) earlier.name).report
          resource.origin := by
  rw [conflictsOf, List.mem_append]
  apply or_congr
  · unfold nameConflicts
    split <;> simp [*]
  · simp only [portConflicts, List.mem_map, List.mem_filter, beq_iff_eq, and_assoc,
      @eq_comm _ conflict]

/-- A call of `register` adds conflicts of the new resource only, refused or not. -/
theorem mem_conflicts_register {registry : Registry} {resource : Resource}
    {conflict : Diagnostic} (hconflict : conflict ∈ (registry.register resource).2.conflicts) :
    conflict ∈ registry.conflicts ∨ conflict ∈ registry.conflictsOf resource := by
  unfold register at hconflict
  split at hconflict
  · exact List.mem_append.1 hconflict
  · exact (List.mem_append.1 hconflict).imp_right (List.mem_append_left _)

@[simp]
theorem resources_insert (registry : Registry) (resource : Resource) :
    (registry.insert resource).resources = registry.resources ++ [resource] :=
  rfl

@[simp]
theorem conflicts_insert (registry : Registry) (resource : Resource) :
    (registry.insert resource).conflicts =
      registry.conflicts ++ registry.conflictsOf resource :=
  rfl

@[simp]
theorem contains_insert (registry : Registry) (resource : Resource) (name : String) :
    (registry.insert resource).contains name =
      (registry.contains name || resource.name == name) := by
  simp [contains]

end Registry

end StateSketch
