import Rind.Core.Error
import Rind.Core.Registry
import Rind.Prog.Runs

/-!
# The instance map

The instances of all models are kept in one map, in one list for each name.  An
instance is boxed with its type, and an operation for a type takes the instances
of that type out of the list of a name.
-/

namespace Rind

open Runs

/-! ## Boxes -/

section Boxes

variable {ι : Type} [DecidableEq ι] {V : ι → Type}

/-- A value with its type. -/
abbrev Boxed (V : ι → Type) : Type := Sigma V

/-- `downcast`: the value of a box, if it has the type. -/
def Boxed.downcast (type : ι) (box : Boxed V) : Option (V type) :=
  if same : box.1 = type then some (same ▸ box.2) else none

@[simp] theorem Boxed.downcast_self (type : ι) (value : V type) :
    Boxed.downcast type (⟨type, value⟩ : Boxed V) = some value := dif_pos rfl

theorem Boxed.downcast_of_ne {type : ι} {box : Boxed V} (other : box.1 ≠ type) :
    box.downcast type = none := dif_neg other

/-- The instances of a type in a list of one box. -/
theorem Boxed.filterMap_downcast_self (type : ι) (value : V type) :
    [(⟨type, value⟩ : Boxed V)].filterMap (downcast type) = [value] := by simp

theorem Boxed.filterMap_downcast_of_ne {type : ι} {box : Boxed V} (other : box.1 ≠ type) :
    [box].filterMap (downcast type) = [] := by simp [downcast_of_ne other]

theorem Boxed.downcast_eq_some {type : ι} {box : Boxed V} {value : V type} :
    box.downcast type = some value ↔ box = ⟨type, value⟩ := by
  constructor
  · intro found
    obtain ⟨kind, held⟩ := box
    by_cases same : kind = type
    · subst same
      rw [downcast_self, Option.some_inj] at found
      rw [found]
    · rw [downcast_of_ne same] at found
      cases found
  · rintro rfl
    exact downcast_self type value

theorem Boxed.downcast_isSome {type : ι} {box : Boxed V} :
    (box.downcast type).isSome ↔ box.1 = type := by
  rw [downcast]
  split <;> simp [*]

end Boxes

/-- The instances of all types, by name. -/
abbrev InstanceMap {ι : Type} (V : ι → Type) : Type := AList fun _ : Ustr => List (Boxed V)

/-- The error of an instance that has another type. -/
def unexpectedInstance : CoreError := .typeMismatch "instance" "unkown"

namespace InstanceMap

variable {ι : Type} [DecidableEq ι] {V : ι → Type}

/-- The list of a name, empty where there is none. -/
def entry (map : InstanceMap V) (name : Ustr) : List (Boxed V) := (map.lookup name).getD []

/-- The instances of a type under a name. -/
def view (type : ι) (map : InstanceMap V) (name : Ustr) : List (V type) :=
  (map.entry name).filterMap (Boxed.downcast type)

section Operations

variable {M : Type} [NamedItem M] (registry : MetadataRegistry M) (type : ι)
  (metadata name : Ustr)

def instantiate (make : M → Except CoreError (V type)) (map : InstanceMap V) :
    Except CoreError (V type) × InstanceMap V :=
  let fullName := registry.instanceKey metadata name
  match registry.instantiated metadata name with
  | none => (.error (.metadataNotFound (registry.resolveMetadataKey metadata name)), map)
  | some item =>
      match make item with
      -- `entry(full_name).or_default()` has been called
      | .error error => (.error error, map.insert fullName (map.entry fullName))
      | .ok instance_ =>
          (.ok instance_, map.insert fullName (map.entry fullName ++ [⟨type, instance_⟩]))

def instantiateOne (make : M → Except CoreError (V type)) (map : InstanceMap V) :
    Except CoreError (V type) × InstanceMap V :=
  match map.entry (registry.instanceKey metadata name) with
  | [] => instantiate registry type metadata name make map
  | first :: _ =>
      match first.downcast type with
      | some instance_ => (.ok instance_, map)
      | none => (.error unexpectedInstance, map)

def instances (map : InstanceMap V) : Except CoreError (List (V type)) :=
  let fullName := registry.instanceKey metadata name
  match map.lookup fullName with
  | none => .error (.missingInstances fullName)
  | some boxes => .ok (boxes.filterMap (Boxed.downcast type))

def uninstantiate (map : InstanceMap V) : Except CoreError (List (V type)) × InstanceMap V :=
  let fullName := registry.instanceKey metadata name
  match map.lookup fullName with
  | none => (.error (.missingInstances fullName), map)
  | some boxes => (.ok (boxes.filterMap (Boxed.downcast type)), map.erase fullName)

def asOne (map : InstanceMap V) : Except CoreError (V type) :=
  let fullName := registry.instanceKey metadata name
  match (map.entry fullName).getLast? with
  | none => .error (.missingInstances fullName)
  | some last =>
      match last.downcast type with
      | none => .error unexpectedInstance
      | some instance_ => .ok instance_

/-- `as_one_mut`, and the update that its caller makes. -/
def asOneMut (update : V type → V type) (map : InstanceMap V) :
    Except CoreError (V type) × InstanceMap V :=
  let fullName := registry.instanceKey metadata name
  match asOne registry type metadata name map with
  | .error error => (.error error, map)
  | .ok instance_ =>
      (.ok instance_,
        map.insert fullName ((map.entry fullName).dropLast ++ [⟨type, update instance_⟩]))

end Operations

section Entries

variable {M : Type} [NamedItem M] {registry : MetadataRegistry M} {type : ι} {metadata name : Ustr}
  {make : M → Except CoreError (V type)} {map : InstanceMap V}

omit [DecidableEq ι] in
/-- What is in the map after an instance was made was there, or is that instance. -/
theorem mem_entry_instantiate {other : Ustr} {box : Boxed V}
    (member : box ∈ (map.instantiate registry type metadata name make).2.entry other) :
    box ∈ map.entry other ∨
      other = registry.instanceKey metadata name ∧ ∃ item made,
        registry.instantiated metadata name = some item ∧ make item = .ok made ∧
          box = ⟨type, made⟩ := by
  rw [instantiate] at member
  split at member
  · exact .inl member
  · next item defined =>
      split at member
      · rw [entry] at member
        by_cases same : other = registry.instanceKey metadata name
        · rw [same, AList.lookup_insert, Option.getD_some] at member
          exact .inl (same ▸ member)
        · rw [AList.lookup_insert_ne same] at member
          exact .inl member
      · next made made_eq =>
          rw [entry] at member
          by_cases same : other = registry.instanceKey metadata name
          · rw [same, AList.lookup_insert, Option.getD_some, List.mem_append,
              List.mem_singleton] at member
            rcases member with old | new
            · exact .inl (same ▸ old)
            · exact .inr ⟨same, item, made, defined, made_eq, new⟩
          · rw [AList.lookup_insert_ne same] at member
            exact .inl member

omit [DecidableEq ι] in
/-- A new instance is made of the definition. -/
theorem instantiate_ok {made : V type}
    (ok : (map.instantiate registry type metadata name make).1 = .ok made) :
    ∃ item, registry.instantiated metadata name = some item ∧ make item = .ok made := by
  rw [instantiate] at ok
  split at ok
  · cases ok
  · next item defined =>
      split at ok
      · cases ok
      · next made_eq =>
          cases ok
          exact ⟨item, defined, made_eq⟩

variable (registry type metadata name make map) in
/-- An instance that is asked for once is one of its name, or is made. -/
theorem instantiateOne_cases :
    map.instantiateOne registry type metadata name make =
        map.instantiate registry type metadata name make ∨
      (map.instantiateOne registry type metadata name make).2 = map ∧
        ∀ found, (map.instantiateOne registry type metadata name make).1 = .ok found →
          ⟨type, found⟩ ∈ map.entry (registry.instanceKey metadata name) := by
  rw [instantiateOne]
  cases listed : map.entry (registry.instanceKey metadata name) with
  | nil => exact .inl rfl
  | cons first rest =>
      dsimp only
      cases held : first.downcast type with
      | none => exact .inr ⟨rfl, fun found same => by cases same⟩
      | some instance_ =>
          refine .inr ⟨rfl, fun found same => ?_⟩
          cases same
          rw [← Boxed.downcast_eq_some.mp held]
          exact List.mem_cons_self

omit [NamedItem M] in
/-- `as_one` finds an instance of the name. -/
theorem mem_entry_of_asOne {found : V type}
    (one : map.asOne registry type metadata name = .ok found) :
    ⟨type, found⟩ ∈ map.entry (registry.instanceKey metadata name) := by
  rw [asOne] at one
  split at one
  · cases one
  · next last last_eq =>
      split at one
      · cases one
      · next held =>
          cases one
          rw [← Boxed.downcast_eq_some.mp held]
          exact List.mem_of_getLast? last_eq

end Entries

end InstanceMap

end Rind
