import StateSketch.Level

/-!
# Guards

A guard is a condition on sensor readings: leaves compare one sensor with a level, and inner nodes
ask for both or for one of two guards.
-/

namespace StateSketch

inductive Guard where
  | reads (sensor : String) (level : Level)
  | both (left right : Guard)
  | either (left right : Guard)
deriving DecidableEq

namespace Guard

/-- The name of the form of a guard in messages. -/
def typeName : Guard → String
  | .reads _ _ => "Condition"
  | .both _ _ => "AndExpr"
  | .either _ _ => "OrExpr"

/-- The sensors at the leaves from left to right, repeated as often as they occur. -/
def sensors : Guard → List String
  | .reads sensor _ => [sensor]
  | .both left right => left.sensors ++ right.sensors
  | .either left right => left.sensors ++ right.sensors

/-- Whether the guard is true of the given readings. -/
def holds (reading : String → Level) : Guard → Bool
  | .reads sensor level => reading sensor == level
  | .both left right => left.holds reading && right.holds reading
  | .either left right => left.holds reading || right.holds reading

end Guard

end StateSketch
