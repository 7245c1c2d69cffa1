/-!
# Kinds

The constants by which a front end names the kinds of resources and the forms of guards.
-/

namespace StateSketch

inductive ResourceKind where
  | sensor
  | actuator
deriving DecidableEq

namespace ResourceKind

def all : List ResourceKind := [.sensor, .actuator]

def word : ResourceKind → String
  | .sensor => "sensor"
  | .actuator => "actuator"

def ofWord? (text : String) : Option ResourceKind :=
  all.find? (·.word == text)

def constant : ResourceKind → String
  | .sensor => "SENSOR"
  | .actuator => "ACTUATOR"

end ResourceKind

/-- The three forms of a guard. -/
inductive GuardKind where
  | condition
  | conjunction
  | disjunction
deriving DecidableEq

namespace GuardKind

def all : List GuardKind := [.condition, .conjunction, .disjunction]

def word : GuardKind → String
  | .condition => "condition"
  | .conjunction => "and"
  | .disjunction => "or"

def ofWord? (text : String) : Option GuardKind :=
  all.find? (·.word == text)

def constant : GuardKind → String
  | .condition => "CONDITION"
  | .conjunction => "AND"
  | .disjunction => "OR"

end GuardKind

/-- A constant of either family. -/
inductive Kind where
  | resource (kind : ResourceKind)
  | guard (kind : GuardKind)
deriving DecidableEq

namespace Kind

def family : Kind → String
  | .resource _ => "ResourceKind"
  | .guard _ => "ExpressionKind"

def constant : Kind → String
  | .resource kind => kind.constant
  | .guard kind => kind.constant

def word : Kind → String
  | .resource kind => kind.word
  | .guard kind => kind.word

/-- The constant as a part of a text. -/
def shown (kind : Kind) : String :=
  kind.family ++ "." ++ kind.constant

/-- The constant as it is quoted in messages. -/
def render (kind : Kind) : String :=
  "<" ++ kind.shown ++ ": '" ++ kind.word ++ "'>"

end Kind

end StateSketch
