import Rind.Data.OrderedFields
import Mathlib.Data.String.Basic

/-!
# JSON values

The value type of a JSON library whose objects are ordered maps: an object is
the list of its members in increasing key order.  Numbers are either integers
or floating-point values, the latter by the decimal that is printed for them.
-/

namespace Rind

namespace Json

/-- A JSON number. A floating-point number is represented by its printed
decimal, which determines it. -/
inductive Number where
  | int (value : Int)
  | float (decimal : String)
  deriving DecidableEq, Repr

end Json

/-- A JSON value. -/
inductive Json where
  | null
  | bool (value : Bool)
  | num (value : Json.Number)
  | str (value : String)
  | arr (items : List Json)
  | obj (fields : List (String × Json))
  deriving Repr

namespace Json

mutual
/-- Structural equality is decidable. -/
def decEq : (left right : Json) → Decidable (left = right)
  | .null, .null => isTrue rfl
  | .bool a, .bool b => decidable_of_iff (a = b) (by simp)
  | .num a, .num b => decidable_of_iff (a = b) (by simp)
  | .str a, .str b => decidable_of_iff (a = b) (by simp)
  | .arr a, .arr b =>
      @decidable_of_iff _ (a = b) (by simp) (decEqItems a b)
  | .obj a, .obj b =>
      @decidable_of_iff _ (a = b) (by simp) (decEqFields a b)
  | .null, .bool _ | .null, .num _ | .null, .str _ | .null, .arr _ | .null, .obj _
  | .bool _, .null | .bool _, .num _ | .bool _, .str _ | .bool _, .arr _ | .bool _, .obj _
  | .num _, .null | .num _, .bool _ | .num _, .str _ | .num _, .arr _ | .num _, .obj _
  | .str _, .null | .str _, .bool _ | .str _, .num _ | .str _, .arr _ | .str _, .obj _
  | .arr _, .null | .arr _, .bool _ | .arr _, .num _ | .arr _, .str _ | .arr _, .obj _
  | .obj _, .null | .obj _, .bool _ | .obj _, .num _ | .obj _, .str _ | .obj _, .arr _ =>
      isFalse (by simp)

def decEqItems : (left right : List Json) → Decidable (left = right)
  | [], [] => isTrue rfl
  | [], _ :: _ | _ :: _, [] => isFalse (by simp)
  | a :: as, b :: bs =>
      @decidable_of_iff _ (a = b ∧ as = bs) (by simp)
        (@instDecidableAnd _ _ (decEq a b) (decEqItems as bs))

def decEqFields : (left right : List (String × Json)) → Decidable (left = right)
  | [], [] => isTrue rfl
  | [], _ :: _ | _ :: _, [] => isFalse (by simp)
  | (j, a) :: as, (k, b) :: bs =>
      @decidable_of_iff _ (j = k ∧ a = b ∧ as = bs) (by simp [and_assoc])
        (@instDecidableAnd _ _ _ (@instDecidableAnd _ _ (decEq a b) (decEqFields as bs)))
end

instance : DecidableEq Json := decEq

instance : Inhabited Json := ⟨.null⟩

/-- The members of an object. -/
def asObject : Json → Option (List (String × Json))
  | .obj fields => some fields
  | _ => none

/-- The items of an array. -/
def asArray : Json → Option (List Json)
  | .arr items => some items
  | _ => none

/-- The member of an object under a key. -/
def get (value : Json) (key : String) : Option Json :=
  match value with
  | .obj fields => fields.lookup key
  | _ => none

@[simp] theorem get_obj (fields : List (String × Json)) (key : String) :
    (Json.obj fields).get key = fields.lookup key := rfl

mutual
/-- How many arrays and objects are nested in one another. -/
def depth : Json → Nat
  | .arr items => depthItems items + 1
  | .obj fields => depthFields fields + 1
  | _ => 0

def depthItems : List Json → Nat
  | [] => 0
  | item :: rest => max (depth item) (depthItems rest)

def depthFields : List (String × Json) → Nat
  | [] => 0
  | (_, value) :: rest => max (depth value) (depthFields rest)
end

mutual
/-- Every number satisfies `number`, and every object is an ordered map. -/
def Regular (number : Number → Prop) : Json → Prop
  | .num value => number value
  | .arr items => RegularItems number items
  | .obj fields => OrderedFields.Ordered fields ∧ RegularFields number fields
  | _ => True

def RegularItems (number : Number → Prop) : List Json → Prop
  | [] => True
  | item :: rest => Regular number item ∧ RegularItems number rest

def RegularFields (number : Number → Prop) : List (String × Json) → Prop
  | [] => True
  | (_, value) :: rest => Regular number value ∧ RegularFields number rest
end

section Members

variable {number : Number → Prop} {fields : List (String × Json)} {items : List Json}

theorem depthItems_le {bound : Nat} :
    depthItems items ≤ bound ↔ ∀ item ∈ items, depth item ≤ bound := by
  induction items with
  | nil => simp [depthItems]
  | cons item rest ih => simp [depthItems, ih]

theorem depthFields_le {bound : Nat} :
    depthFields fields ≤ bound ↔ ∀ member ∈ fields, depth member.2 ≤ bound := by
  induction fields with
  | nil => simp [depthFields]
  | cons member rest ih => simp [depthFields, ih]

theorem regularItems_iff :
    RegularItems number items ↔ ∀ item ∈ items, Regular number item := by
  induction items with
  | nil => simp [RegularItems]
  | cons item rest ih => simp [RegularItems, ih]

theorem regularFields_iff :
    RegularFields number fields ↔ ∀ member ∈ fields, Regular number member.2 := by
  induction fields with
  | nil => simp [RegularFields]
  | cons member rest ih => simp [RegularFields, ih]

end Members

end Json

end Rind
