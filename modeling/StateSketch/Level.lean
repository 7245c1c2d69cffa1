import StateSketch.Text.Blank
import StateSketch.Text.Uppercase

/-!
# Signal levels
-/

namespace StateSketch

/-- What a digital pin reads or is driven to. -/
inductive Level where
  | low
  | high
deriving DecidableEq

namespace Level

def ofBool : Bool → Level
  | true => .high
  | false => .low

def toBool : Level → Bool
  | .high => true
  | .low => false

@[simp]
theorem ofBool_toBool (level : Level) : ofBool level.toBool = level := by
  cases level <;> rfl

@[simp]
theorem toBool_ofBool (bit : Bool) : (ofBool bit).toBool = bit := by
  cases bit <;> rfl

/-- The constant that stands for the level in a sketch. -/
def word : Level → String
  | .high => "HIGH"
  | .low => "LOW"

/-- Reads a level's word in any letter case, with blanks around it. -/
def ofWord? (text : String) : Option Level :=
  let bare := Text.upper (Text.trim text)
  if bare = Level.high.word then some .high
  else if bare = Level.low.word then some .low
  else none

end Level

end StateSketch
