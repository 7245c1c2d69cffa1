import StateSketch.Session.Reports

/-!
# Calls on registries
-/

namespace StateSketch.Session

def newRegistry : Session Datum := do
  let resources ← newList []
  let conflicts ← newList []
  create .registry .empty (Workbench.registryMembers.zip [resources, conflicts])

/-- What a registry has for its resources. -/
def resourcesOf (registry : Handle) : Session Datum :=
  member (.object registry) Workbench.resourcesName

/-- Whether a registry has a resource of a name. -/
def containsResource (registry name : Datum) : Session Bool := do
  let handle ← able registry .registry "contains"
  let resources ← items (← resourcesOf handle)
  look (·.anyNamed name resources)

/-- The first of the parts of which a member has a value. -/
def firstWith (name : String) (value : Datum) : List Datum → Session Datum
  | [] => return .nothing
  | part :: rest => do
    if ← agree (← member part name) value then return part else firstWith name value rest

/-- The first resource of a name. -/
def resourceNamed (registry name : Datum) : Session Datum := do
  let handle ← able registry .registry "get"
  firstWith "name" name (← items (← resourcesOf handle))

/-- The first resource on a port. -/
def ownerOfPort (registry port : Datum) : Session Datum := do
  let handle ← able registry .registry "owner_of_port"
  firstWith "port" port (← items (← resourcesOf handle))

/-- The resources of a kind. -/
def resourcesOfKind (registry : Datum) (kind : ResourceKind) (ability : String) :
    Session Datum := do
  let handle ← able registry .registry ability
  let resources ← (← items (← resourcesOf handle)).filterM fun resource ↦ do
    match ← member resource "kind" with
    | .kind constant => return constant == .resource kind
    | _ => return false
  return .tuple resources

/-! ## Registration -/

/-- Appends what was added to a regular list. -/
def appendNew {α : Type} (form : α → Datum) (target : Datum) (before after : List α) :
    Session Unit :=
  (after.drop before.length).forM fun item ↦ append target (form item)

/-- Puts back what a call has changed in a regular registry. -/
def commitRegistry (registry : Datum) (before after : Registry) : Session Unit := do
  appendNew Diagnostic.datum (← member registry "conflicts") before.conflicts after.conflicts
  appendNew Resource.datum (← member registry Workbench.resourcesName)
    before.resources after.resources

/-- Records a conflict with each resource that has the port of a new one.  The resources are looked
at one by one from an index on, for a conflict may be recorded among them. -/
def recordPorts (registry : Handle) (port line file : Datum) : Nat → Nat → Session Unit
  | 0, _ => throw .tooDeep
  | rest + 1, index => do
    match (← items (← resourcesOf registry))[index]? with
    | none => return
    | some earlier =>
      let earlierPort ← member earlier "port"
      if ← agree earlierPort port then
        let conflicts ← appendable (← member (.object registry) "conflicts")
        let problem := Problem.portUsed (← shown earlierPort) (← shown (← member earlier "name"))
        push conflicts (problemAt problem line file)
      recordPorts registry port line file rest (index + 1)

/-- Registers a resource in any registry. -/
def registerIn (registry : Handle) (resource name port line file : Datum) : Session Unit := do
  if ← containsResource (.object registry) name then
    let conflicts ← appendable (← member (.object registry) "conflicts")
    push conflicts (problemAt (.resourceNameUsed (← shown name)) line file)
  let count := (← items (← resourcesOf registry)).length
  recordPorts registry port line file (2 * count + 2) 0
  append (← resourcesOf registry) resource

/-- Registers a resource, and refuses anything else. -/
def register (registry resource : Datum) : Session Datum := do
  let handle ← able registry .registry "register"
  match resource with
  | .part .resource [name, _, port, line, file] =>
    match (← get).registryIn? registry, resource.resource? with
    | some before, some declared =>
      let (result, after) := before.register declared
      commitRegistry registry before after
      check result
    | _, _ => registerIn handle resource name port line file
    return resource
  | other => throw (.notResource other.typeName)

end StateSketch.Session
