import StateSketch.Sketch.Code
import StateSketch.Text.Lines

/-!
# The text of a sketch
-/

namespace StateSketch

/-- Puts blanks in front of every line that is not empty. -/
def indent (width : Nat) (lines : List String) : List String :=
  lines.map fun line ↦ if line.isEmpty then line else "".pushn ' ' width ++ line

/-- The constant that names the pin of the fault indicator. -/
def faultPinName : String := "ERROR_LED_PIN"

/-- The function that blinks the fault indicator. -/
def blinkHelper : String := "blinkError"

/-- How long each blink is on and off, in milliseconds. -/
def blinkPulse : Nat := 300

/-- The pause after the last blink, in milliseconds. -/
def blinkPause : Nat := 1500

def callText (function : String) : String :=
  function ++ "();"

/-- Inner nodes stand in parentheses, so the text can be read in one way only. -/
def Guard.text : Guard → String
  | .reads sensor level => "digitalRead(" ++ sensor ++ ") == " ++ level.word
  | .both left right => "(" ++ left.text ++ " && " ++ right.text ++ ")"
  | .either left right => "(" ++ left.text ++ " || " ++ right.text ++ ")"

def Test.text : Test → String
  | .settled condition => condition.text ++ " && guard"
  | .elapsed milliseconds => "millis() - time > " ++ toString milliseconds

def Step.text : Step → String
  | .configure pin mode => "pinMode(" ++ pin ++ ", " ++ mode.word ++ ");"
  | .write pin level => "digitalWrite(" ++ pin ++ ", " ++ level.word ++ ");"
  | .sampleGuard => "boolean guard = millis() - time > debounce;"
  | .restartClock => "time = millis();"
  | .call function => callText function
  | .blink count => blinkHelper ++ "(" ++ toString count ++ ");"

def stepLines (steps : List Step) : List String :=
  steps.map (·.text)

/-- A branch that follows `opening`, which is empty for the first one. -/
def Branch.lines (opening : String) (branch : Branch) : List String :=
  (opening ++ "if (" ++ branch.test.text ++ ") \x7b") :: indent 2 (stepLines branch.body)

def Statement.lines : Statement → List String
  | .step single => [single.text]
  | .choose first rest otherwise =>
    first.lines "" ++ rest.flatMap (·.lines "\x7d else ") ++
      ["\x7d else \x7b"] ++ indent 2 (stepLines otherwise) ++ ["\x7d"]

def bodyLines (body : List Statement) : List String :=
  body.flatMap (·.lines)

def Function.lines (function : Function) : List String :=
  ("void " ++ function.name ++ "() \x7b") :: indent 2 (bodyLines function.body) ++ ["\x7d"]

def PinDeclaration.text (declaration : PinDeclaration) : String :=
  "int " ++ declaration.pin ++ " = " ++ toString declaration.port ++ ";"

/-- The opening comment, the clock, the debounce interval and the pin of the fault indicator, given
by their texts. -/
def headerLines (title debounce : String) (faultPin : Option String) : List String :=
  ["// File generated by statewire for " ++ title, "long time = 0;",
    "long debounce = " ++ debounce ++ ";", ""] ++
    match faultPin with
    | none => []
    | some pin => ["#define " ++ faultPinName ++ " " ++ pin, ""]

def pinLines (pins : List PinDeclaration) : List String :=
  if pins.isEmpty then [] else pins.map (·.text) ++ [""]

def setupLines (steps : List Step) : List String :=
  "void setup() \x7b" :: indent 2 (stepLines steps) ++ ["\x7d", ""]

def functionLines (functions : List Function) : List String :=
  functions.flatMap fun function ↦ function.lines ++ [""]

def blinkHelperLines : List String :=
  ["void " ++ blinkHelper ++ "(int errorCode) \x7b",
    "  for (int i = 0; i < errorCode; i++) \x7b",
    "    digitalWrite(" ++ faultPinName ++ ", HIGH);",
    "    delay(" ++ toString blinkPulse ++ ");",
    "    digitalWrite(" ++ faultPinName ++ ", LOW);",
    "    delay(" ++ toString blinkPulse ++ ");",
    "  \x7d",
    "  delay(" ++ toString blinkPause ++ ");",
    "\x7d",
    ""]

def helperLines (blinks : Bool) : List String :=
  if blinks then blinkHelperLines else []

def loopLines (entry : String) : List String :=
  ["void loop() \x7b", "  " ++ callText entry, "\x7d"]

namespace Sketch

def lines (sketch : Sketch) : List String :=
  headerLines sketch.title (toString sketch.debounce) (sketch.faultPin.map toString) ++
    pinLines sketch.pins ++ setupLines sketch.setup ++ functionLines sketch.functions ++
    helperLines sketch.blinks ++ loopLines sketch.entry

def text (sketch : Sketch) : String :=
  Text.joinLines sketch.lines ++ "\n"

end Sketch

end StateSketch
