import StateSketch.Workbench.Basic

/-!
# The text of a datum

How a datum is quoted in messages, and how it is shown as a part of a text.  An integer with too
many digits cannot be shown, and neither can anything that holds one.
-/

namespace StateSketch

def renderTuple : List String → String
  | [single] => "(" ++ single ++ ",)"
  | parts => "(" ++ ", ".intercalate parts ++ ")"

def renderSet : List String → String
  | [] => "set()"
  | parts => "\x7b" ++ ", ".intercalate parts ++ "\x7d"

def renderFlag (value : Bool) : String :=
  if value then "True" else "False"

/-- An object as the list of its fields. -/
def renderFields (typeName : String) (fields : List (String × String)) : String :=
  let entries := fields.map fun (name, text) ↦ name ++ "=" ++ text
  typeName ++ "(" ++ ", ".intercalate entries ++ ")"

def Guard.quoted (guard : Guard) : String :=
  renderFields guard.typeName <|
    match guard with
    | .reads sensor level =>
      [("sensor", Text.quote sensor), ("level", renderFlag level.toBool)]
    | .both left right => [("left", left.quoted), ("right", right.quoted)]
    | .either left right => [("left", left.quoted), ("right", right.quoted)]

namespace Workbench

/-- How deep data are looked into. -/
def depthLimit : Nat := 1000

/-- A datum as it is quoted in messages, looked into to a depth.  An object inside itself, which is
then among the `opened` ones, is left out.  Objects of which nothing is shown are quoted by their
type. -/
def quoteTo (bench : Workbench) : Nat → List Nat → Datum → Except Fault String
  | 0, _, _ => .error .tooDeep
  | depth + 1, opened, datum =>
    match datum with
    | .nothing => .ok "None"
    | .flag value => .ok (renderFlag value)
    | .integer value => Fault.decimal value
    | .real value => .ok value.render
    | .text value => .ok (Text.quote value)
    | .bytes values => .ok (Text.quoteBytes values)
    | .kind constant => .ok constant.render
    | .guard condition => .ok condition.quoted
    | .tuple items => do return renderTuple (← items.mapM (bench.quoteTo depth opened))
    | .part sort fields => do
      let texts ← fields.mapM (bench.quoteTo depth opened)
      return renderFields sort.typeName (sort.fieldNames.zip texts)
    | .object handle =>
      let again := handle.index ∈ opened
      let each := bench.quoteTo depth (handle.index :: opened)
      match handle.sort with
      | .list =>
        if again then .ok "[...]"
        else do
          return "[" ++ ", ".intercalate (← (bench.itemsAt handle).mapM each) ++ "]"
      | .set =>
        if again then .ok "set(...)"
        else do return renderSet (← (bench.itemsAt handle).mapM each)
      | .table =>
        if again then .ok "\x7b...\x7d"
        else do
          let entries ← (bench.entriesAt handle).mapM fun (key, value) ↦ do
            return Text.quote key ++ ": " ++ (← each value)
          return "\x7b" ++ ", ".intercalate entries ++ "\x7d"
      | sort =>
        let names := sort.fieldNames
        if names.isEmpty then .ok ("<" ++ sort.typeName ++ ">")
        else if again then .ok "..."
        else do
          let texts ← names.mapM fun name ↦ each ((bench.stored? handle name).getD .nothing)
          return renderFields sort.typeName (names.zip texts)

/-- A datum as it is quoted in messages. -/
def quoted (bench : Workbench) (datum : Datum) : Except Fault String :=
  bench.quoteTo depthLimit [] datum

/-- A datum as a part of a text. -/
def shown (bench : Workbench) : Datum → Except Fault String
  | .text value => .ok value
  | .kind constant => .ok constant.shown
  | other => bench.quoted other

end Workbench

end StateSketch
