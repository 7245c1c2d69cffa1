import StateSketch.Gallery

/-!
# Where applications are found

Applications are attributes of modules.  Besides the modules of the gallery there is one with
attributes of the user's choice.
-/

namespace StateSketch.CommandLine

/-- What an attribute of a module is. -/
inductive Attribute where
  /-- A function that builds an application of the gallery. -/
  | exhibit (exhibit : Exhibit)
  /-- The function that builds the switch. -/
  | switch
  /-- A function that cannot be called without arguments. -/
  | refusing (fault : Fault)
  | datum (datum : Datum)

/-- Whether a module can hold other modules. -/
inductive Packaging where
  | plain
  | package
  /-- The places of the modules in it cannot be gone through. -/
  | broken (fault : Fault)

structure Module where
  name : String
  packaging : Packaging := .plain
  attributes : List (String × Attribute) := []

def exhibitAttributes : List (String × Attribute) :=
  Exhibit.all.map fun exhibit ↦ (exhibit.title, .exhibit exhibit)

def switchAttributes : List (String × Attribute) :=
  [("build_switch", .switch)]

def Attribute.lacking (function : String) (parameters : List String) : Attribute :=
  .refusing (.missingArguments function parameters)

/-- The declarations with which the alarms are written. -/
def studioAttributes : List (String × Attribute) :=
  [("App", .lacking "App.__init__" ["name"]),
    ("state", .lacking "state" ["name"]),
    ("sensor", .lacking "sensor" ["name", "port"]),
    ("actuator", .lacking "actuator" ["name", "port"]),
    ("write", .lacking "write" ["target", "level"]),
    ("when", .lacking "when" ["expr"]),
    ("after", .lacking "after" ["milliseconds"]),
    ("fault_state", .lacking "fault_state" ["name"])]

/-- The types with which the switch is written. -/
def builderAttributes : List (String × Attribute) :=
  [("Program", .lacking "Program.__init__" ["name"]),
    ("ProgramBuilder", .lacking "ProgramBuilder.__init__" ["name"]),
    ("ResourceKind", .lacking "EnumType.__call__" ["value"])]

/-- The functions that every module has and that cannot be called without arguments. -/
def commonFunctions : List (String × Attribute) :=
  let needsName := "module() missing required argument 'name' (pos 1)"
  let needsOne := "expected 1 argument, got 0"
  let reasons : List (String × String) :=
    [("__init__", needsName), ("__delattr__", needsOne),
      ("__eq__", needsOne), ("__ge__", needsOne), ("__getattribute__", needsOne),
      ("__gt__", needsOne), ("__le__", needsOne), ("__lt__", needsOne), ("__ne__", needsOne),
      ("__format__", "__format__() takes exactly one argument (0 given)"),
      ("__new__", "module.__new__(): not enough arguments"),
      ("__reduce__", "cannot pickle 'module' object"),
      ("__reduce_ex__", "__reduce_ex__() takes exactly one argument (0 given)"),
      ("__setattr__", " expected 2 arguments, got 0")]
  reasons.map fun (name, reason) ↦ (name, .refusing (.badCall reason))

/-- What every module has besides, of which no program comes. -/
def commonNames : List String :=
  ["__name__", "__doc__", "__package__", "__loader__", "__spec__", "__annotations__", "__dir__",
    "__hash__", "__sizeof__", "__init_subclass__", "__subclasshook__", "__getstate__"]

/-- What the type of modules answers itself, whatever a module has under these names. -/
def reservedAttribute? : String → Option Attribute
  | "__class__" => some (.refusing (.badCall "module() missing required argument 'name' (pos 1)"))
  | "__dict__" => some (.datum .nothing)
  | _ => none

/-- The fault of a function that is asked for an attribute: it has no parameter for the name. -/
def askedInVain : Datum → Fault
  | .object { sort := .function, .. } =>
    .badCall "<lambda>() takes 0 positional arguments but 1 was given"
  | other => .notCallable other.fullTypeName

/-- A module that has something to ask for missing attributes asks it. -/
def missingAttribute (attributes : List (String × Attribute)) : Except Fault (Option Attribute) :=
  match attributes.lookup "__getattr__" with
  | some (.datum asked) => .error (askedInVain asked)
  | _ => .ok none

/-- Describing a module asks where it is from. -/
def description (attributes : List (String × Attribute)) : Except Fault (Option Attribute) :=
  match attributes.lookup "__file__" with
  | some _ => .ok none
  | none => missingAttribute attributes

/-- An attribute of a module, its own or one that all modules have. -/
def Module.attribute (host : Module) (name : String) : Except Fault (Option Attribute) :=
  match reservedAttribute? name <|> host.attributes.lookup name <|> commonFunctions.lookup name with
  | some found => .ok (some found)
  | none =>
    if name ∈ commonNames then .ok none
    else if name == "__repr__" || name == "__str__" then description host.attributes
    else missingAttribute host.attributes

/-- Whether places can be gone through to find the modules in them. -/
def placesPackaging (places : Except Fault (List Datum)) : Packaging :=
  match places with
  | .error fault => .broken fault
  | .ok places =>
    if places.any fun place ↦ place.text?.any (·.contains '\x00') then .broken .nullInPath
    else .package

/-- Whether the user's module is a package: it is if it tells where its modules are. -/
def packagingOf (bench : Workbench) (attributes : List (String × Datum)) : Packaging :=
  match attributes.lookup "__path__", attributes.lookup "__getattr__" with
  | some .nothing, _ => .package
  | some path, _ => placesPackaging (bench.items path)
  | none, some asked => .broken (askedInVain asked)
  | none, none => .plain

/-- All modules, given the attributes of the user's. -/
def modules (bench : Workbench) (attributes : List (String × Datum)) : List Module :=
  [{ name := "statewire", packaging := .package },
    { name := "statewire.examples", packaging := .package,
      attributes := exhibitAttributes ++ switchAttributes },
    { name := "statewire.examples.alarms", attributes := exhibitAttributes ++ studioAttributes },
    { name := "statewire.examples.switch", attributes := switchAttributes ++ builderAttributes },
    { name := "user_app", packaging := packagingOf bench attributes,
      attributes := attributes.map fun (name, datum) ↦ (name, .datum datum) }]

/-- Why a module cannot be had. -/
inductive ImportFault where
  | emptyName
  | relative (name : String)
  | missing (name : String)
  | notPackage (name parent : String)
  | unusable (fault : Fault)
  /-- No name was given. -/
  | noName

def ImportFault.message : ImportFault → String
  | .emptyName => "Empty module name"
  | .relative name =>
    "the 'package' argument is required to perform a relative import for " ++ Text.quote name
  | .missing name => "No module named " ++ Text.quote name
  | .notPackage name parent =>
    "No module named " ++ Text.quote name ++ "; " ++ Text.quote parent ++ " is not a package"
  | .unusable fault => fault.message
  | .noName => "'list' object has no attribute 'startswith'"

/-- Finds a module by its name, from the outermost package inwards; `outer` is the module found so
far, and `before` the part of the name that leads to it. -/
def findWithin (library : List Module) (before : List Char) (outer : Option Module) :
    List Char → List Char → Except ImportFault Module
  | word, [] => step (before ++ word)
  | word, c :: rest =>
    if c = '.' then do
      let found ← step (before ++ word)
      findWithin library (before ++ word ++ [c]) (some found) [] rest
    else findWithin library before outer (word ++ [c]) rest
where
  /-- The module of a name inside the outer one. -/
  step (name : List Char) : Except ImportFault Module :=
    match library.find? (·.name == String.ofList name) with
    | some found => .ok found
    | none =>
      match outer with
      | some parent =>
        match parent.packaging with
        | .plain => .error (.notPackage (String.ofList name) parent.name)
        | .package => .error (.missing (String.ofList name))
        | .broken fault => .error (.unusable fault)
      | none => .error (.missing (String.ofList name))

def find (library : List Module) : Option String → Except ImportFault Module
  | none => .error .noName
  | some name =>
    match name.toList with
    | [] => .error .emptyName
    | '.' :: _ => .error (.relative name)
    | letters => findWithin library [] none [] letters

end StateSketch.CommandLine
