import Mathlib.Data.Fin.VecNotation
import Mathlib.Data.List.FinRange

/-! JSON values as serde_json holds them.

Arrays and objects are finite families. The names of an object are a sorted list
without repetitions, the order of serde_json's map, so that an object with a
repeated or misplaced name cannot be built.
-/

set_option autoImplicit false

namespace Json

/-- A `u64`, a negative `i64`, or an `f64` given by its bits. -/
inductive Number where
  | posInt (value : UInt64)
  | negInt (value : Int64)
  | float (bits : UInt64)
  deriving DecidableEq, Repr

structure Names where
  list : List String
  sorted : list.Pairwise (· < ·)

inductive Value where
  | null
  | bool (value : Bool)
  | number (value : Number)
  | string (value : String)
  | array (size : Nat) (element : Fin size → Value)
  | object (names : Names) (member : Fin names.list.length → Value)

namespace Value

/-- `Value::get` with a string: the member of that name, if this is an object that has one. -/
def get (name : String) : Value → Option Value
  | .object names member => (names.list.finIdxOf? name).map member
  | _ => none

/-- `value[name]`: `Null` when there is no such member. -/
def index (value : Value) (name : String) : Value := (value.get name).getD .null

def asStr : Value → Option String
  | .string text => some text
  | _ => none

def asBool : Value → Option Bool
  | .bool value => some value
  | _ => none

def isString : Value → Bool
  | .string _ => true
  | _ => false

/-- The value and everything inside it, at any depth, in pre-order. -/
def nodes : Value → List Value
  | .array size element =>
    .array size element :: (List.finRange size).flatMap fun position => (element position).nodes
  | .object names member =>
    .object names member :: (List.finRange names.list.length).flatMap fun position => (member position).nodes
  | .null => [.null]
  | .bool value => [.bool value]
  | .number value => [.number value]
  | .string text => [.string text]

/-- The values stored under `name` in the objects inside `value`, one for each object. -/
def valuesUnder (name : String) (value : Value) : List Value := value.nodes.filterMap (get name)

/-- The strings stored under `name` at any depth, one for each occurrence. -/
def stringsUnder (name : String) (value : Value) : List String := (value.valuesUnder name).filterMap asStr

theorem valuesUnder_array (name : String) (size : Nat) (element : Fin size → Value) :
    valuesUnder name (.array size element) =
      (List.finRange size).flatMap fun position => (element position).valuesUnder name := by
  simp only [valuesUnder, nodes, List.filterMap_cons_none (f := get name) (a := .array size element) rfl,
    List.filterMap_flatMap]

theorem valuesUnder_object (name : String) (names : Names) (member : Fin names.list.length → Value) :
    valuesUnder name (.object names member) =
      (get name (.object names member)).toList ++
        (List.finRange names.list.length).flatMap fun position => (member position).valuesUnder name := by
  simp only [valuesUnder, nodes]
  cases found : get name (.object names member) with
  | none => rw [List.filterMap_cons_none found, Option.toList_none, List.nil_append, List.filterMap_flatMap]
  | some value =>
    rw [List.filterMap_cons_some found, Option.toList_some, List.filterMap_flatMap, List.singleton_append]

example : stringsUnder "link" (.array 1 ![.object ⟨["link"], by decide⟩ ![.string "%a"]]) = ["%a"] := by decide

end Value

end Json
