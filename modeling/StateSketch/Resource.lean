import StateSketch.Guard
import StateSketch.Kind
import StateSketch.Origin

/-!
# Resources

A resource gives a name to a pin of the board.
-/

namespace StateSketch

structure Resource where
  name : String
  kind : ResourceKind
  port : Nat
  origin : Origin := {}
deriving DecidableEq

namespace Resource

/-- True while the resource reads `level`. -/
def reads (resource : Resource) (level : Level) : Guard :=
  .reads resource.name level

/-- Equality up to the place of declaration. -/
def agrees (a b : Resource) : Bool :=
  a.name == b.name && a.kind == b.kind && a.port == b.port

end Resource

end StateSketch
