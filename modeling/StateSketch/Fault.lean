import StateSketch.Text.Lines
import StateSketch.Text.Numeral
import StateSketch.Text.Quoted

/-!
# Faults

Everything for which a call can be refused.  A fault says what was wrong; `Fault.message` words it
and `Fault.category` sorts it.
-/

namespace StateSketch

/-- What kind of mistake a fault is. -/
inductive FaultCategory where
  | wrongType
  | wrongValue
  | wrongMoment
  | unsupported
  | outOfRange
  | immutable
  | missingPart
  | markup
  | isDirectory
  | system
  | overflow
  | memory
  | recursion
deriving DecidableEq

/-- The names that have to be texts of at least one character. -/
inductive NameRole where
  | sensor
  | resource
  | actionTarget
  | transitionTarget
  | state
  | program
deriving DecidableEq

def NameRole.title : NameRole → String
  | .sensor => "Condition sensor name"
  | .resource => "Resource name"
  | .actionTarget => "Action target"
  | .transitionTarget => "Transition target state"
  | .state => "State name"
  | .program => "Program name"

/-- The places that take a guard and nothing else. -/
inductive GuardRole where
  | leftOfBoth
  | rightOfBoth
  | leftOfEither
  | rightOfEither
  | trigger
deriving DecidableEq

def GuardRole.title : GuardRole → String
  | .leftOfBoth => "AndExpr.left"
  | .rightOfBoth => "AndExpr.right"
  | .leftOfEither => "OrExpr.left"
  | .rightOfEither => "OrExpr.right"
  | .trigger => "OnExpression guard"

/-- The two kinds of names that symbols stand for. -/
inductive SymbolRole where
  | resource
  | state
deriving DecidableEq

def SymbolRole.word : SymbolRole → String
  | .resource => "resource"
  | .state => "state"

/-- A refused call.  A field `given` is the type name of the value that was handed in, a field
`shown` the value itself as it is quoted in messages. -/
inductive Fault where
  | levelNotBit (value : Int)
  | levelNotWord (text : String)
  | levelType (given : String)
  | emptyName (role : NameRole)
  | notGuard (role : GuardRole) (given : String)
  | operands (operator left right : String)
  | unknownKind (family shown : String)
  | portType (given : String)
  | portNegative (port : Int)
  | notResource (given : String)
  | delayType (given : String)
  | delayNegative (milliseconds : Int)
  | notCollection (given : String)
  | notContainer (given : String)
  | notMeasurable (given : String)
  | notJoinable (family given : String)
  | notBytesToJoin (given : String)
  | notSubscriptable (given : String)
  | notAssignable (given : String)
  | indexType (family given : String)
  | textIndexType (given : String)
  /-- There is no item at an index. -/
  | noItem (family : String)
  | indexTooLarge
  | containedType (family given : String)
  | notBytes (given : String)
  | notByte
  | incomparable (left right : String)
  | statePart (part given : String)
  | blinksType (given : String)
  | blinksTooFew (count : Int)
  | faultStateParts (name : String)
  | nameNotLine (name : String)
  | faultPinType (given : String)
  | faultPinNegative
  | operandCount (kind : String) (count : Nat)
  | triggerType (given : String)
  | unknownOption (function option : String)
  | repeatedOption (function option : String)
  | missingArguments (function : String) (names : List String)
  /-- A function that was called without arguments. -/
  | badCall (reason : String)
  | attributeName (given : String)
  | nestedApps
  | nestedStates
  | outsideApp (call : String)
  | outsideState (call : String)
  | faultStateInState
  | nothingOpen
  | writeTarget (given : String)
  | whenGuard (given : String)
  | afterDelay (given : String)
  | notProgram (given : String)
  | notRegistry (given : String)
  | debounceType (given : String)
  | debounceNegative
  /-- A program with errors is not emitted; each line but the first tells of one of them. -/
  | rejected (lines : List String)
  | unassigned (role : SymbolRole) (shown : String)
  | unfitKey (given : String)
  | notText (given : String)
  | textOfBytes
  | notReal (shown : String)
  | notHexadecimal (position : Nat)
  | notNumeral (shown : String)
  | numeralTooLong (digits : Nat)
  /-- An integer that has too many digits to be shown. -/
  | numeralTooWide
  | notRepeatable (given : String)
  | countTooLarge
  | outOfMemory
  | tooDeep
  /-- A closed buffer is written to or shown. -/
  | bufferClosed
  /-- A closed buffer is opened as a block or read line by line. -/
  | bufferNotOpen
  /-- A part of a text that is put together from texts. -/
  | itemNotText (index : Nat) (given : String)
  | missingPart (given part : String)
  | derivedPart (given part : String)
  | constantPart (part : String)
  | notCallable (given : String)
  /-- A copy is asked for of an object that has no fields. -/
  | notCopyable
  | unsupportedGuard (given : String)
  | unsupportedTrigger (given : String)
  | loopWithoutInitial
  | immutableField (field : String)
  | unmatchedTag (tag : String) (position : Nat)
  | nothingToClose (position : Nat)
  /-- Parameters of a tag that cannot be read. -/
  | parameters (shown reason : String)
  | directoryAtPath (path : String)
  | pathTooLong (path : String)
  | nullInPath
  /-- What the system refuses for a reason of its own. -/
  | system (reason : String)
  | staleHandle
deriving DecidableEq

namespace Fault

/-- One or two names of arguments, quoted. -/
def listNames (names : List String) : String :=
  " and ".intercalate (names.map fun name ↦ s!"'{name}'")

def message : Fault → String
  | .levelNotBit value => s!"Signal level must be 0 or 1, got {value}"
  | .levelNotWord text => "Signal level must be 'HIGH' or 'LOW', got " ++ Text.quote text
  | .levelType given => s!"Signal level must be bool, int or str, got {given}"
  | .emptyName role => role.title ++ " must be a non-empty string"
  | .notGuard role given => role.title ++ s!" must be an expression, got {given}"
  | .operands operator left right =>
    s!"unsupported operand type(s) for {operator}: '{left}' and '{right}'"
  | .unknownKind family shown => s!"{shown} is not a valid {family}"
  | .portType given => s!"Resource port must be int, got {given}"
  | .portNegative port => s!"Resource port must be >= 0, got {port}"
  | .notResource given => s!"register() expects a Resource, got {given}"
  | .delayType given => s!"Delay must be an int number of milliseconds, got {given}"
  | .delayNegative milliseconds => s!"Delay must be >= 0 milliseconds, got {milliseconds}"
  | .notCollection given => s!"'{given}' object is not iterable"
  | .notContainer given => s!"argument of type '{given}' is not iterable"
  | .notMeasurable given => s!"object of type '{given}' has no len()"
  | .notJoinable family given => s!"can only concatenate {family} (not \"{given}\") to {family}"
  | .notBytesToJoin given => s!"can't concat {given} to bytes"
  | .notSubscriptable given => s!"'{given}' object is not subscriptable"
  | .notAssignable given => s!"'{given}' object does not support item assignment"
  | .indexType family given => s!"{family} indices must be integers or slices, not {given}"
  | .textIndexType given => s!"string indices must be integers, not '{given}'"
  | .noItem family => (if family.isEmpty then "" else family ++ " ") ++ "index out of range"
  | .indexTooLarge => "cannot fit 'int' into an index-sized integer"
  | .containedType family given =>
    s!"'in <{family}>' requires {family} as left operand, not {given}"
  | .notBytes given => s!"a bytes-like object is required, not '{given}'"
  | .notByte => "byte must be in range(0, 256)"
  | .incomparable left right =>
    s!"'>' not supported between instances of '{left}' and '{right}'"
  | .statePart part given => s!"State {part} cannot contain {given}"
  | .blinksType given => s!"Fault blink count must be int, got {given}"
  | .blinksTooFew count => s!"Fault blink count must be >= 1, got {count}"
  | .faultStateParts name => s!"Fault state '{name}' cannot have actions or transitions"
  | .nameNotLine name => "Program name must be a single line, got " ++ Text.quote name
  | .faultPinType given => s!"fault_pin must be int or None, got {given}"
  | .faultPinNegative => "fault_pin must be >= 0"
  | .operandCount kind count => s!"{kind} expression takes 2 operands, got {count}"
  | .triggerType given => s!"Transition guard must be an expression or int delay, got {given}"
  | .unknownOption function option =>
    s!"{function}() got an unexpected keyword argument '{option}'"
  | .repeatedOption function option => s!"{function}() got multiple values for argument '{option}'"
  | .missingArguments function names =>
    let ending := if names.length == 1 then "" else "s"
    s!"{function}() missing {names.length} required positional argument{ending}: " ++
      listNames names
  | .badCall reason => reason
  | .attributeName given => s!"attribute name must be string, not '{given}'"
  | .nestedApps => "App contexts cannot be nested"
  | .nestedStates => "state() contexts cannot be nested"
  | .outsideApp call => s!"{call}() must be called inside an App context"
  | .outsideState call => s!"{call}() must be called inside a state context"
  | .faultStateInState => "fault_state() cannot be called inside a state context"
  | .nothingOpen => "pop from empty list"
  | .writeTarget given => s!"Expected Resource or resource name, got {given}"
  | .whenGuard given => s!"when() expects an expression, got {given}"
  | .afterDelay given => s!"after() expects int milliseconds, got {given}"
  | .notProgram given => s!"program must be Program, got {given}"
  | .notRegistry given => s!"registry must be Registry, got {given}"
  | .debounceType given => s!"debounce_ms must be int, got {given}"
  | .debounceNegative => "debounce_ms must be >= 0"
  | .rejected lines => Text.joinLines lines
  | .unassigned role shown => "No symbol assigned for " ++ role.word ++ " " ++ shown
  | .unfitKey given => s!"unhashable type: '{given}'"
  | .notText given => s!"expected string or bytes-like object, got '{given}'"
  | .textOfBytes => "cannot use a string pattern on a bytes-like object"
  | .notReal shown => "could not convert string to float: " ++ shown
  | .notHexadecimal position =>
    s!"non-hexadecimal number found in fromhex() arg at position {position}"
  | .notNumeral shown => "invalid literal for int() with base 10: " ++ shown
  | .numeralTooLong digits =>
    s!"Exceeds the limit ({Text.numeralDigitLimit} digits) for integer string conversion: " ++
      s!"value has {digits} digits; use sys.set_int_max_str_digits() to increase the limit"
  | .numeralTooWide =>
    s!"Exceeds the limit ({Text.numeralDigitLimit} digits) for integer string conversion; " ++
      "use sys.set_int_max_str_digits() to increase the limit"
  | .notRepeatable given => s!"can't multiply sequence by non-int of type '{given}'"
  | .countTooLarge => "cannot fit 'int' into an index-sized integer"
  | .outOfMemory => ""
  | .tooDeep => "maximum recursion depth exceeded"
  | .bufferClosed => "I/O operation on closed file"
  | .bufferNotOpen => "I/O operation on closed file."
  | .itemNotText index given => s!"sequence item {index}: expected str instance, {given} found"
  | .missingPart given part => s!"'{given}' object has no attribute '{part}'"
  | .derivedPart given part => s!"property '{part}' of '{given}' object has no setter"
  | .constantPart part => s!"<enum 'Enum'> cannot set attribute '{part}'"
  | .notCallable given => s!"'{given}' object is not callable"
  | .notCopyable => "replace() should be called on dataclass instances"
  | .unsupportedGuard given => s!"Unsupported expression type: {given}"
  | .unsupportedTrigger given => s!"Unsupported transition type: {given}"
  | .loopWithoutInitial => "Cannot render loop() without an initial state"
  | .immutableField field => s!"cannot assign to field '{field}'"
  | .unmatchedTag tag position =>
    s!"closing tag '{tag}' at position {position} doesn't match any open tag"
  | .nothingToClose position => s!"closing tag '[/]' at position {position} has nothing to close"
  | .parameters shown reason => s!"error parsing {shown}; {reason}"
  | .directoryAtPath path => "[Errno 21] Is a directory: " ++ Text.quote path
  | .pathTooLong path => "[Errno 36] File name too long: " ++ Text.quote path
  | .nullInPath => "embedded null byte"
  | .system reason => reason
  | .staleHandle => "no such object"

def category : Fault → FaultCategory
  | .levelNotBit _ | .levelNotWord _ | .emptyName _ | .unknownKind _ _ | .portNegative _
  | .delayNegative _ | .blinksTooFew _ | .faultStateParts _ | .nameNotLine _ | .faultPinNegative
  | .debounceNegative | .rejected _ | .notReal _ | .notHexadecimal _ | .notByte
  | .notNumeral _ | .numeralTooLong _ | .numeralTooWide | .nullInPath | .bufferClosed
  | .bufferNotOpen => .wrongValue
  | .levelType _ | .notGuard _ _ | .operands _ _ _ | .portType _ | .notResource _ | .delayType _
  | .notCollection _ | .notContainer _ | .notMeasurable _ | .notJoinable _ _ | .notBytesToJoin _
  | .notSubscriptable _ | .notAssignable _ | .indexType _ _ | .textIndexType _
  | .notCallable _ | .notCopyable | .containedType _ _ | .notBytes _ | .incomparable _ _
  | .statePart _ _ | .blinksType _ | .faultPinType _ | .operandCount _ _ | .triggerType _
  | .unknownOption _ _ | .repeatedOption _ _ | .missingArguments _ _ | .badCall _
  | .attributeName _ | .writeTarget _ | .whenGuard _ | .afterDelay _ | .notProgram _
  | .notRegistry _ | .debounceType _ | .unfitKey _ | .notText _ | .textOfBytes
  | .notRepeatable _ | .itemNotText _ _ => .wrongType
  | .nestedApps | .nestedStates | .outsideApp _ | .outsideState _ | .faultStateInState
  | .unassigned _ _ | .loopWithoutInitial | .staleHandle => .wrongMoment
  | .unsupportedGuard _ | .unsupportedTrigger _ => .unsupported
  | .nothingOpen | .noItem _ | .indexTooLarge => .outOfRange
  | .immutableField _ => .immutable
  | .missingPart _ _ | .derivedPart _ _ | .constantPart _ => .missingPart
  | .unmatchedTag _ _ | .nothingToClose _ | .parameters _ _ => .markup
  | .directoryAtPath _ => .isDirectory
  | .pathTooLong _ | .system _ => .system
  | .countTooLarge => .overflow
  | .outOfMemory => .memory
  | .tooDeep => .recursion

/-- The fault that shows a number in its message, or that the number cannot be shown. -/
def showing (number : Int) (fault : Fault) : Fault :=
  if Text.isTooWide number then .numeralTooWide else fault

/-- A number that can be shown. -/
def checkWidth (number : Int) : Except Fault Unit :=
  if Text.isTooWide number then .error .numeralTooWide else .ok ()

/-- A number as it is written. -/
def decimal (number : Int) : Except Fault String :=
  if Text.isTooWide number then .error .numeralTooWide else .ok (toString number)

end Fault

end StateSketch
