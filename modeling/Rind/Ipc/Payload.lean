import Rind.Core.Names
import Rind.Data.Text
import Rind.Json.Serde

/-!
# Flow payloads

The payloads of facets and impulses.  A JSON payload is kept as its text and
parsed wherever its value is needed.
-/

namespace Rind

open SerdeJson

/-- The text of a JSON payload. -/
structure FlowJson where
  text : String
  deriving DecidableEq, Repr

/-- A payload of a facet or an impulse. -/
inductive FlowPayload where
  | json (value : FlowJson)
  | string (value : String)
  | bytes (value : List UInt8)
  | none (flag : Bool)
  deriving DecidableEq, Repr

/-- The payload type a facet or an impulse declares. -/
inductive FlowPayloadType where
  | json
  | string
  | bytes
  | none
  deriving DecidableEq, Repr

/-- How a filter or a condition selects payloads. -/
inductive FlowMatchOperation where
  | eq (value : Ustr)
  | options (binary : Option Bool) (contains : Option Ustr) (asValue : Option Json)
  deriving DecidableEq, Repr

variable [SerdeJson]

/-- The value of a JSON payload, `null` where its text is not JSON. -/
def FlowJson.intoJson (json : FlowJson) : Json := (fromStr json.text).getD .null

namespace FlowPayload

def toStringPayload : FlowPayload → String
  | .json value => value.text
  | .string value => value
  | .bytes value => Text.fromUtf8Lossy value
  | .none _ => ""

def fromJson : Option Json → FlowPayload
  | some (.str text) => .string text
  | some (.obj fields) => .json ⟨toText (.obj fields)⟩
  | some (.arr items) => .json ⟨toText (.arr items)⟩
  | some .null | Option.none => .none false
  | some value => .string (toText value)

def toJson : FlowPayload → Json
  | .json value => value.intoJson
  | .string value => .str value
  | .bytes value => .str (Text.fromUtf8Lossy value)
  | .none _ => .null

/-- A member of a JSON payload. -/
def getJsonField (payload : FlowPayload) (field : String) : Option Json :=
  match payload with
  | .json value => value.intoJson.asObject.bind (·.lookup field)
  | _ => Option.none

end FlowPayload

/-- A value parsed from a text is legal, also where the text was not JSON. -/
theorem FlowJson.intoJson_legal (json : FlowJson) : Legal json.intoJson := by
  rw [intoJson]
  cases read : fromStr json.text with
  | none => exact ⟨Nat.zero_le _, trivial⟩
  | some value => exact fromStr_legal read

/-- The value of a printed legal value. -/
theorem FlowJson.intoJson_toText {value : Json} (legal : Legal value) :
    FlowJson.intoJson ⟨toText value⟩ = value := by
  rw [intoJson, fromStr_toText legal, Option.getD_some]

end Rind
