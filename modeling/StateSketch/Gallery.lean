import StateSketch.Session.Blocks

/-!
# The gallery

Ready-made applications.  The alarms are scripts of declarations in the studio; the switch is put
together call by call with a builder.
-/

namespace StateSketch

/-- A line in the block of a state. -/
inductive BlockLine where
  | write (target : String) (level : Level)
  | when (guard : Guard) (target : String)
  | after (milliseconds : Datum) (target : String)

/-- A declaration in an application. -/
inductive Declaration where
  | resource (kind : ResourceKind) (name : String) (port : Nat)
  | state (name : String) (initial : Bool) (lines : List BlockLine)
  | faultState (name : String) (blinks : Datum)

/-- An application, written down. -/
structure Script where
  name : String
  faultPin : Datum := .nothing
  body : List Declaration

namespace Gallery

/-- The place of the declarations in ready-made applications. -/
def site : CallSite where
  file := "gallery"
  line := 1

end Gallery

namespace Session

/-- Opens an application or a block, makes the calls in it and closes it, also after a fault. -/
def inside (target : Datum) (body : Session Unit) : Session Unit := do
  enter target
  try body
  catch fault =>
    leave target (.flag true)
    throw fault
  leave target (.flag false)

def performLine : BlockLine → Session Unit
  | .write target level =>
    discard <| writeLevel (.text target) (.flag level.toBool) Gallery.site
  | .when guard target => discard <| when (.guard guard) (.text target) Gallery.site
  | .after milliseconds target => discard <| after milliseconds (.text target) Gallery.site

def performDeclaration : Declaration → Session Unit
  | .resource kind name port =>
    discard <| declare kind (.text name) (.integer port) Gallery.site
  | .state name initial lines => do
    inside (← newScope (.text name) (.flag initial) Gallery.site) (lines.forM performLine)
  | .faultState name blinks => discard <| faultState (.text name) blinks Gallery.site

/-- The application that a script describes. -/
def perform (script : Script) : Session Datum := do
  let app ← newApp (.text script.name) script.faultPin Gallery.site
  inside app (script.body.forM performDeclaration)
  return app

end Session

namespace Gallery

/-- Pressing the button turns on the light and the buzzer. -/
def verySimpleAlarm : Script where
  name := "VerySimpleAlarm"
  body := [
    .resource .sensor "button" 9,
    .resource .actuator "led" 10,
    .resource .actuator "buzzer" 11,
    .state "idle" true [
      .write "led" .low,
      .write "buzzer" .low,
      .when (.reads "button" .high) "alarming"],
    .state "alarming" false [
      .write "led" .high,
      .write "buzzer" .high,
      .when (.reads "button" .low) "idle"]]

/-- The buzzer sounds only while both buttons are pressed. -/
def dualCheckAlarm : Script where
  name := "DualCheckAlarm"
  body := [
    .resource .sensor "b1" 8,
    .resource .sensor "b2" 9,
    .resource .actuator "buzzer" 11,
    .state "idle" true [
      .write "buzzer" .low,
      .when (.both (.reads "b1" .high) (.reads "b2" .high)) "on"],
    .state "on" false [
      .write "buzzer" .high,
      .when (.either (.reads "b1" .low) (.reads "b2" .low)) "idle"]]

/-- Each press goes on from ready to buzzing, to lighting and back. -/
def multiStateAlarm : Script where
  name := "MultiStateAlarm"
  body := [
    .resource .sensor "button" 9,
    .resource .actuator "led" 12,
    .resource .actuator "buzzer" 11,
    .state "ready" true [
      .write "led" .low,
      .write "buzzer" .low,
      .when (.reads "button" .high) "buzzing"],
    .state "buzzing" false [
      .write "led" .low,
      .write "buzzer" .high,
      .when (.reads "button" .high) "lighting"],
    .state "lighting" false [
      .write "led" .high,
      .write "buzzer" .low,
      .when (.reads "button" .high) "ready"]]

/-- The light stays on for a while after a press, unless the button is pressed again. -/
def timedAlarm (duration : Datum) : Script where
  name := "TimedAlarm"
  body := [
    .resource .sensor "button" 9,
    .resource .actuator "led" 12,
    .state "off" true [
      .write "led" .low,
      .when (.reads "button" .high) "on"],
    .state "on" false [
      .write "led" .high,
      .when (.reads "button" .high) "off",
      .after duration "off"]]

/-- The panic button leads to a fault that blinks for ever. -/
def alarmWithError (faultPin blinks : Datum) : Script where
  name := "AlarmWithError"
  faultPin := faultPin
  body := [
    .resource .sensor "button" 9,
    .resource .sensor "panic" 8,
    .resource .actuator "led" 12,
    .state "off" true [
      .write "led" .low,
      .when (.reads "panic" .high) "errButtons",
      .when (.reads "button" .high) "on"],
    .state "on" false [
      .write "led" .high,
      .when (.reads "panic" .high) "errButtons",
      .when (.reads "button" .low) "off"],
    .faultState "errButtons" blinks]

end Gallery

/-- The applications of the gallery that are scripts. -/
inductive Exhibit where
  | verySimpleAlarm
  | dualCheckAlarm
  | multiStateAlarm
  | timedAlarm
  | alarmWithError
deriving DecidableEq

namespace Exhibit

def all : List Exhibit :=
  [.verySimpleAlarm, .dualCheckAlarm, .multiStateAlarm, .timedAlarm, .alarmWithError]

def title : Exhibit → String
  | .verySimpleAlarm => "very_simple_alarm"
  | .dualCheckAlarm => "dual_check_alarm"
  | .multiStateAlarm => "multi_state_alarm"
  | .timedAlarm => "timed_alarm"
  | .alarmWithError => "alarm_with_error"

def ofTitle? (title : String) : Option Exhibit :=
  all.find? (·.title == title)

/-- What can be chosen about an application, and the choice if nothing is said. -/
def settings : Exhibit → List (String × Datum)
  | .timedAlarm => [("duration_ms", .integer 5000)]
  | .alarmWithError => [("fault_pin", .integer 11), ("blinks", .integer 4)]
  | _ => []

/-- The script with the settings that `setting` gives. -/
def script (exhibit : Exhibit) (setting : String → Datum) : Script :=
  match exhibit with
  | .verySimpleAlarm => Gallery.verySimpleAlarm
  | .dualCheckAlarm => Gallery.dualCheckAlarm
  | .multiStateAlarm => Gallery.multiStateAlarm
  | .timedAlarm => Gallery.timedAlarm (setting "duration_ms")
  | .alarmWithError => Gallery.alarmWithError (setting "fault_pin") (setting "blinks")

/-- Builds the application with the chosen settings. -/
def build (exhibit : Exhibit) (chosen : List (String × Datum)) : Session Datum :=
  match chosen.find? (fun choice ↦ (exhibit.settings.lookup choice.1).isNone) with
  | some choice => throw (.unknownOption exhibit.title choice.1)
  | none =>
    Session.perform <| exhibit.script fun name ↦
      (chosen.lookup name <|> exhibit.settings.lookup name).getD .nothing

end Exhibit

/-! ## The switch -/

namespace Session

/-- A resource of the switch, declared on a line. -/
def switchResource (builder : Datum) (line port : Int) (kind : ResourceKind) (name : String) :
    Session Unit := do
  assign builder "lineno" (.integer line)
  discard <| registerResource builder (.integer port) (.kind (.resource kind)) (.text name)
    .nothing .nothing

/-- A state of the switch, which drives the light and waits for a reading of the button. -/
def switchState (builder : Datum) (line : Int) (name : String) (light awaited : Level)
    (target : String) (initial : Bool) : Session Unit := do
  assign builder "lineno" (.integer line)
  let action ← makeAction builder (.text "led") (.flag light.toBool) .nothing .nothing
  let transition ←
    makeTransition builder (.guard (.reads "btn" awaited)) (.text target) .nothing .nothing
  discard <| makeState builder (.text name) (.tuple [action]) (.tuple [transition])
    (.flag initial) .nothing .nothing

/-- The program of a light that follows a button. -/
def buildSwitch (file : Datum) : Session Datum := do
  let builder ← newBuilder (.text "Switch") .nothing file .nothing
  switchResource builder 1 2 .sensor "btn"
  switchResource builder 2 13 .actuator "led"
  switchState builder 4 "Off" .low .high "On" true
  switchState builder 8 "On" .high .low "Off" false
  build builder

end Session

end StateSketch
