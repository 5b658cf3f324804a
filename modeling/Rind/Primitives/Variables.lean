import Rind.Core.Names
import Rind.Json.Value
import Mathlib.Data.List.AList

/-!
# Variables

The variable heap holds TOML values under variable names.  A variable is read
from the stored values, else from its environment variable, else from its
default.
-/

namespace Rind

/-- A TOML value. A floating-point number is given by its JSON decimal, which
infinities and NaN do not have. -/
inductive Toml where
  | string (value : String)
  | integer (value : Int)
  | float (decimal : Option String)
  | boolean (value : Bool)
  | datetime (value : String)
  | array (items : List Toml)
  | table (fields : List (String × Toml))
  deriving Repr

/-- `toml`: the text of a value. -/
class TomlText where
  /-- `Value::to_string` -/
  toText : Toml → String

namespace Toml

mutual
/-- `serde_json::to_value` of a TOML value. -/
def toValue : Toml → Json
  | .string value => .str value
  | .integer value => .num (.int value)
  | .float none => .null
  | .float (some decimal) => .num (.float decimal)
  | .boolean value => .bool value
  | .datetime value => .obj [("$__toml_private_datetime", .str value)]
  | .array items => .arr (toValueItems items)
  | .table fields => .obj (toValueFields fields)

def toValueItems : List Toml → List Json
  | [] => []
  | item :: rest => toValue item :: toValueItems rest

/-- A table becomes an object, with the last of several equal keys. -/
def toValueFields : List (String × Toml) → List (String × Json)
  | [] => []
  | (key, value) :: rest =>
      let others := toValueFields rest
      if (others.lookup key).isSome then others
      else OrderedFields.insert key (toValue value) others
end

/-- The items of an array. -/
def asArray : Toml → Option (List Toml)
  | .array items => some items
  | _ => none

/-- The text of a string. -/
def asStr : Toml → Option String
  | .string value => some value
  | _ => none

/-- The members of a table. -/
def asTable : Toml → Option (List (String × Toml))
  | .table fields => some fields
  | _ => none

/-- `value.get(i)` at a number: the item of an array. -/
def getIndex (value : Toml) (index : Nat) : Option Toml := do (← value.asArray)[index]?

end Toml

namespace Compact

mutual
/-- The inline text of a value. -/
def tomlText : Toml → String
  | .string value => "\"" ++ value ++ "\""
  | .integer value => toString value
  | .float decimal => decimal.getD "nan"
  | .boolean value => toString value
  | .datetime value => value
  | .array items => "[" ++ ", ".intercalate (tomlTextItems items) ++ "]"
  | .table fields => "\x7b " ++ ", ".intercalate (tomlTextFields fields) ++ " \x7d"

def tomlTextItems : List Toml → List String
  | [] => []
  | item :: rest => tomlText item :: tomlTextItems rest

def tomlTextFields : List (String × Toml) → List String
  | [] => []
  | (key, value) :: rest => (key ++ " = " ++ tomlText value) :: tomlTextFields rest
end

scoped instance : TomlText := ⟨tomlText⟩

end Compact

/-- The variable heap and the process environment it reads. -/
structure VariableHeap where
  values : AList fun _ : Ustr => Toml
  defaults : AList fun _ : Ustr => Toml
  envMappings : AList fun _ : Ustr => Ustr
  /-- `std::env::var` -/
  environment : Ustr → Option String

/-- The current value of a variable. -/
def VariableHeap.get (heap : VariableHeap) (id : Ustr) : Option Toml :=
  match heap.values.lookup id with
  | some value => some value
  | none =>
      match (heap.envMappings.lookup id).bind heap.environment with
      | some value => some (.string value)
      | none => heap.defaults.lookup id

end Rind
