import Rind.Json.RoundTrip

/-!
# The JSON library

The program reads and prints JSON through `serde_json`.  `SerdeJson` is what it
relies on: parsing a text, printing a value, and that a value that was parsed,
or built from parsed parts, is read back from its printed text.

Floating-point numbers are represented by the decimal printed for them, so the
law includes that the parser reads a printed decimal back exactly.
-/

namespace Rind

namespace Json

/-- A value the library can print and read back: its nesting is within the
limit, its objects are maps and its numbers are in printed form. -/
def Legal (nesting : Nat) (number : Number → Prop) (value : Json) : Prop :=
  value.depth ≤ nesting ∧ Regular number value

namespace Legal

variable {nesting : Nat} {number : Number → Prop} {fields : List (String × Json)}

theorem ordered (legal : Legal nesting number (.obj fields)) : OrderedFields.Ordered fields :=
  legal.2.1

/-- The members of a legal object are legal, one level below it. -/
theorem of_mem (legal : Legal (nesting + 1) number (.obj fields)) {key : String} {value : Json}
    (member : (key, value) ∈ fields) : Legal nesting number value := by
  obtain ⟨shallow, -, regular⟩ := legal
  rw [depth, Nat.add_le_add_iff_right] at shallow
  exact ⟨depthFields_le.mp shallow _ member, regularFields_iff.mp regular _ member⟩

/-- An ordered list of legal values makes a legal object. -/
theorem obj (ordered : OrderedFields.Ordered fields)
    (legal : ∀ member ∈ fields, Legal nesting number member.2) :
    Legal (nesting + 1) number (.obj fields) := by
  refine ⟨?_, ordered, ?_⟩
  · rw [depth, Nat.add_le_add_iff_right]
    exact depthFields_le.mpr fun member inside => (legal member inside).1
  · exact regularFields_iff.mpr fun member inside => (legal member inside).2

end Legal

end Json

/-- `serde_json`: parsing, printing and their round trip. Values nest at most
127 levels deep. -/
class SerdeJson where
  /-- `serde_json::from_str` -/
  fromStr : String → Option Json
  /-- `Value::to_string` -/
  toText : Json → String
  /-- The numbers the library produces. -/
  number : Json.Number → Prop
  fromStr_legal {text : String} {value : Json} :
    fromStr text = some value → value.Legal 127 number
  fromStr_toText {value : Json} :
    value.Legal 127 number → fromStr (toText value) = some value

namespace SerdeJson

variable [SerdeJson]

/-- A value this library prints and reads back. -/
abbrev Legal (value : Json) : Prop := value.Legal 127 number

/-- A member of a legal object, which is legal one level below it. -/
abbrev LegalMember (value : Json) : Prop := value.Legal 126 number

theorem LegalMember.legal {value : Json} (legal : LegalMember value) : Legal value :=
  ⟨legal.1.trans (by decide), legal.2⟩

/-- Legal values with one text are equal. -/
theorem toText_injective {left right : Json} (leftLegal : Legal left)
    (rightLegal : Legal right) (equal : toText left = toText right) : left = right := by
  have read := fromStr_toText leftLegal
  rw [equal, fromStr_toText rightLegal] at read
  exact (Option.some.inj read).symm

/-- The library produces the numbers of 64 bits without a sign. -/
def PrintsUnsigned : Prop := ∀ value : Nat, value < 2 ^ 64 → number (.int value)

end SerdeJson

namespace Compact

/-- The compact printer and the parser of the JSON text modules. -/
scoped instance : SerdeJson where
  fromStr text := Json.parse 127 text.toList
  toText value := String.ofList value.render
  number := Json.Number.Printed
  fromStr_legal := Json.parse_regular
  fromStr_toText legal := by
    rw [String.toList_ofList]
    exact Json.parse_render legal.1 legal.2

theorem printsUnsigned : SerdeJson.PrintsUnsigned := by
  intro value bound
  exact Json.Number.int_printed (by omega) (by omega)

end Compact

end Rind
