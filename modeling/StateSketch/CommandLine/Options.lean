import StateSketch.Text.Numeral

/-!
# Options of the command line

An option is given by its name or by any beginning of it that fits no other option, and its value
follows as the next word or behind an equals sign.  The last value given counts.  A double dash
behind the equals sign stands for no value at all.
-/

namespace StateSketch.CommandLine

inductive Flag where
  | help
  | module
  | app
  | output
  | debounce
  | stdout
deriving DecidableEq

namespace Flag

def all : List Flag := [.help, .module, .app, .output, .debounce, .stdout]

def word : Flag → String
  | .help => "--help"
  | .module => "--module"
  | .app => "--app"
  | .output => "--output"
  | .debounce => "--debounce-ms"
  | .stdout => "--stdout"

end Flag

structure Options where
  moduleName : Option String := some "statewire.examples.alarms"
  appName : Option String := some "alarm_with_error"
  output : Option String := none
  debounce : Option Int := some 200
  stdout : Bool := false
deriving DecidableEq

/-- What is printed when help is asked for. -/
def helpLines : List String :=
  ["usage: generate_sketch.py [-h] [--module MODULE] [--app APP] [--output OUTPUT]",
    "                          [--debounce-ms DEBOUNCE_MS] [--stdout]",
    "",
    "Generate an Arduino sketch from an App or Program.",
    "",
    "options:",
    "  -h, --help            show this help message and exit",
    "  --module MODULE       Python module containing the application (default:",
    "                        statewire.examples.alarms).",
    "  --app APP             Attribute holding an App, a Program, or a zero-",
    "                        argument callable returning one (default:",
    "                        alarm_with_error).",
    "  --output OUTPUT       Output .ino path (default: scratchpad/<app>.ino).",
    "  --debounce-ms DEBOUNCE_MS",
    "                        Debounce interval in milliseconds (default: 200).",
    "  --stdout              Also print generated source to stdout."]

/-- Why no options are returned. -/
inductive Stop where
  /-- Help was asked for. -/
  | help
  /-- The arguments cannot be read. -/
  | usage
deriving DecidableEq

/-- A word of the command line. -/
inductive Word where
  | plain (text : String)
  /-- An option with the value behind its equals sign. -/
  | option (flag : Flag) (value : Option String)
  | unknown
deriving DecidableEq

/-- Splits at the first equals sign. -/
def splitValue (word : List Char) : List Char × Option (List Char) :=
  match word.dropWhile (· != '=') with
  | [] => (word, none)
  | _ :: value => (word.takeWhile (· != '='), some value)

/-- Whether a word is a negative number, so that it is no option. -/
def isNegativeNumber (word : List Char) : Bool :=
  let isDigit (c : Char) : Bool := (Text.digitValue? c).isSome
  let isNumber (digits : List Char) : Bool :=
    match digits.dropWhile isDigit with
    | [] => !digits.isEmpty
    | '.' :: fraction => !fraction.isEmpty && fraction.all isDigit
    | _ => false
  match word with
  | '-' :: rest => isNumber rest || (rest.getLast? == some '\n' && isNumber rest.dropLast)
  | _ => false

/-- A word that is no option after all: a number, a text with a space, or an unknown option. -/
def plainOrUnknown (word : List Char) : Word :=
  if isNegativeNumber word || ' ' ∈ word then .plain (String.ofList word) else .unknown

/-- The short option for help, which may be repeated in one word, also behind an equals sign.
Anything else behind it is a value, which the option does not take. -/
def shortHelp (more : List Char) : Word :=
  match more with
  | [] => .option .help none
  | c :: rest =>
    let repeated := if c = '=' then rest else more
    if !repeated.isEmpty && repeated.all (· == 'h') then .option .help none
    else .option .help (some (String.ofList repeated))

/-- Classifies a word.  The beginning of several options is refused. -/
def classify (text : String) : Except Stop Word :=
  match text.toList with
  | ['-'] => .ok (.plain text)
  | '-' :: '-' :: name =>
    let (start, value) := splitValue ('-' :: '-' :: name)
    match Flag.all.filter (fun flag ↦ start.isPrefixOf flag.word.toList) with
    | [flag] => .ok (.option flag (value.map String.ofList))
    | [] => .ok (plainOrUnknown ('-' :: '-' :: name))
    | _ => .error .usage
  | '-' :: 'h' :: more => .ok (shortHelp more)
  | '-' :: rest => .ok (plainOrUnknown ('-' :: rest))
  | _ => .ok (.plain text)

/-- Classifies all words; behind a double dash every word is plain. -/
def classifyAll : List String → Except Stop (List Word)
  | [] => .ok []
  | text :: rest =>
    if text = "--" then .ok (.unknown :: rest.map .plain)
    else do return (← classify text) :: (← classifyAll rest)

/-- Sets an option that takes a value, or leaves it without one. -/
def Options.set (options : Options) (flag : Flag) (value : Option String) : Except Stop Options :=
  match flag with
  | .module => .ok { options with moduleName := value }
  | .app => .ok { options with appName := value }
  | .output => .ok { options with output := value }
  | .debounce =>
    match value with
    | none => .ok { options with debounce := none }
    | some text =>
      match Text.readInteger? text with
      | some debounce => .ok { options with debounce := some debounce }
      | none => .error .usage
  | .help => .error .usage
  | .stdout => .error .usage

/-- The value that a text gives to an option. -/
def valueOf (text : String) : Option String :=
  if text = "--" then none else some text

/-- Reads words from left to right; `stray` says whether one was met that belongs to no option. -/
def readWords (options : Options) (stray : Bool) : List Word → Except Stop Options
  | [] => if stray then .error .usage else .ok options
  | .plain _ :: rest => readWords options true rest
  | .unknown :: rest => readWords options true rest
  | .option flag (some value) :: rest => do
    readWords (← options.set flag (valueOf value)) stray rest
  | .option .help none :: _ => .error .help
  | .option .stdout none :: rest => readWords { options with stdout := true } stray rest
  | .option flag none :: .plain value :: rest => do
    readWords (← options.set flag (some value)) stray rest
  | .option _ none :: _ => .error .usage

def Options.read (arguments : List String) : Except Stop Options := do
  readWords {} false (← classifyAll arguments)

end StateSketch.CommandLine
