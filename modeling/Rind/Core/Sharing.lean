import Rind.Core.Instances

/-!
# Names that several types share

A name may have instances of several types, and all are kept in its one list.  An
operation for a type is right if it does what it would do were there no other
types, and leaves their instances alone.
-/

namespace Rind

open Runs

namespace InstanceMap

variable {ι : Type} [DecidableEq ι] {V : ι → Type} {type : ι} {map : InstanceMap V}
  {name other : Ustr} {boxes : List (Boxed V)}

/-! ## Views -/

omit [DecidableEq ι] in
theorem entry_insert : entry (map.insert name boxes) name = boxes := by
  rw [entry, AList.lookup_insert, Option.getD_some]

theorem view_insert :
    view type (map.insert name boxes) name = boxes.filterMap (Boxed.downcast type) := by
  rw [view, entry_insert]

theorem view_insert_of_ne (apart : other ≠ name) :
    view type (map.insert name boxes) other = view type map other := by
  rw [view, entry, AList.lookup_insert_ne apart, view, entry]

theorem view_erase_of_ne (apart : other ≠ name) :
    view type (map.erase name) other = view type map other := by
  rw [view, entry, AList.lookup_erase_ne apart, view, entry]

theorem view_erase : view type (map.erase name) name = [] := by
  rw [view, entry, AList.lookup_erase]
  rfl

/-- Where a list is stored with the same instances of a type, their view stays. -/
theorem view_insert_eq (same : boxes.filterMap (Boxed.downcast type) = view type map name) :
    view type (map.insert name boxes) other = view type map other := by
  by_cases here : other = name
  · rw [here, view_insert, same]
  · exact view_insert_of_ne here

theorem view_eq_nil : view type map name = [] ↔ ∀ box ∈ map.entry name, box.1 ≠ type := by
  rw [view, List.filterMap_eq_nil_iff]
  exact forall₂_congr fun box _ =>
    Option.not_isSome_iff_eq_none.symm.trans (not_congr Boxed.downcast_isSome)

end InstanceMap

/-! ## Actions -/

section Actions

variable {ι : Type} (M V : ι → Type)

/-- An operation for a type on a name. -/
inductive InstanceAction where
  | instantiateOne (type : ι) (metadata name : Ustr) (make : M type → Except CoreError (V type))
  | uninstantiate (type : ι) (metadata name : Ustr)
  | instances (type : ι) (metadata name : Ustr)
  | asOne (type : ι) (metadata name : Ustr)
  | asOneMut (type : ι) (metadata name : Ustr) (update : V type → V type)

/-- An operation under the definitions that are loaded at its time. -/
structure InstanceStep where
  registry : (type : ι) → MetadataRegistry (M type)
  action : InstanceAction M V

variable {M V}

def InstanceAction.type : InstanceAction M V → ι
  | instantiateOne type _ _ _ | uninstantiate type _ _ | instances type _ _ | asOne type _ _
  | asOneMut type _ _ _ => type

variable [DecidableEq ι] [∀ type, NamedItem (M type)]

/-- The map after an operation. -/
def instanceStep (map : InstanceMap V) (step : InstanceStep M V) : InstanceMap V :=
  match step.action with
  | .instantiateOne type metadata name make =>
      (map.instantiateOne (step.registry type) type metadata name make).2
  | .uninstantiate type metadata name =>
      (map.uninstantiate (step.registry type) type metadata name).2
  | .instances .. | .asOne .. => map
  | .asOneMut type metadata name update =>
      (map.asOneMut (step.registry type) type metadata name update).2

/-! ## Right answers -/

/-- An operation returns an instance, or an error where there is none. -/
def Answers {α : Type} (result : Except CoreError α) : Option α → Prop
  | some instance_ => result = .ok instance_
  | none => ∃ error, result = .error error

/-- What an operation returns, and what it makes of the instances of its type, is what
it would be without the other types. -/
def InstanceStep.Answered (map : InstanceMap V) (step : InstanceStep M V) : Prop :=
  match step.action with
  | .instantiateOne type metadata name make =>
      let registry := step.registry type
      let key := registry.instanceKey metadata name
      let result := map.instantiateOne registry type metadata name make
      match map.view type key with
      | first :: rest => result.1 = .ok first ∧ result.2.view type key = first :: rest
      | [] => ∀ item made, registry.instantiated metadata name = some item →
          make item = .ok made → result.1 = .ok made ∧ result.2.view type key = [made]
  | .uninstantiate type metadata name =>
      let registry := step.registry type
      let key := registry.instanceKey metadata name
      match map.uninstantiate registry type metadata name with
      | (.ok values, after) => values = map.view type key ∧ after.view type key = []
      | (.error _, _) => map.view type key = []
  | .instances type metadata name =>
      let registry := step.registry type
      match map.instances registry type metadata name with
      | .ok values => values = map.view type (registry.instanceKey metadata name)
      | .error _ => map.view type (registry.instanceKey metadata name) = []
  | .asOne type metadata name =>
      let registry := step.registry type
      Answers (map.asOne registry type metadata name)
        (map.view type (registry.instanceKey metadata name)).getLast?
  | .asOneMut type metadata name update =>
      let registry := step.registry type
      let key := registry.instanceKey metadata name
      let result := map.asOneMut registry type metadata name update
      Answers result.1 (map.view type key).getLast? ∧
        result.2.view type key =
          (map.view type key).dropLast ++ ((map.view type key).getLast?.map update).toList

/-- Moreover the instances of the other types are the ones from before. -/
structure InstanceStep.Right (map : InstanceMap V) (step : InstanceStep M V) : Prop where
  answered : step.Answered map
  others : ∀ other ≠ step.action.type, ∀ name,
    (instanceStep map step).view other name = map.view other name

/-- Which instance is in the way of an operation: for `instantiate_one` the first of
the name, for `as_one` the last, and for `uninstantiate` every one of another type. -/
def InstanceStep.Unhindered (map : InstanceMap V) (step : InstanceStep M V) : Prop :=
  match step.action with
  | .instantiateOne type metadata name make =>
      let registry := step.registry type
      let key := registry.instanceKey metadata name
      (∀ first ∈ (map.entry key).head?, first.1 = type) ∨
        map.view type key = [] ∧ ∀ item made, registry.instantiated metadata name = some item →
          make item ≠ .ok made
  | .uninstantiate type metadata name =>
      ∀ box ∈ map.entry ((step.registry type).instanceKey metadata name), box.1 = type
  | .instances .. => True
  | .asOne type metadata name | .asOneMut type metadata name _ =>
      let key := (step.registry type).instanceKey metadata name
      (∀ last ∈ (map.entry key).getLast?, last.1 = type) ∨ map.view type key = []

/-! ## When the answers are right -/

namespace InstanceMap

variable {type : ι} {M : Type} [NamedItem M] {registry : MetadataRegistry M} {metadata name : Ustr}
  {make : M → Except CoreError (V type)} {map : InstanceMap V}

/-- A new instance leaves the other types alone. -/
theorem view_instantiate_of_ne {other : ι} (apart : other ≠ type) (key : Ustr) :
    (map.instantiate registry type metadata name make).2.view other key = map.view other key := by
  rw [instantiate]
  split
  · rfl
  · split
    · exact view_insert_eq rfl
    · apply view_insert_eq
      rw [List.filterMap_append, Boxed.filterMap_downcast_of_ne (Ne.symm apart), List.append_nil, view]

theorem view_of_head {first : V type} {rest : List (Boxed V)}
    (listed : map.entry name = ⟨type, first⟩ :: rest) :
    map.view type name = first :: rest.filterMap (Boxed.downcast type) := by
  rw [view, listed, List.filterMap_cons, Boxed.downcast_self]

theorem view_of_last {last : V type} {init : List (Boxed V)}
    (listed : map.entry name = init ++ [⟨type, last⟩]) :
    map.view type name = init.filterMap (Boxed.downcast type) ++ [last] := by
  rw [view, listed, List.filterMap_append, Boxed.filterMap_downcast_self]

end InstanceMap

section Right

open InstanceMap

variable {map : InstanceMap V} {registry : (type : ι) → MetadataRegistry (M type)} {type : ι}
  {metadata name : Ustr}

theorem right_instantiateOne_iff {make : M type → Except CoreError (V type)} :
    (InstanceStep.mk registry (.instantiateOne type metadata name make)).Right map ↔
      (InstanceStep.mk registry (.instantiateOne type metadata name make)).Unhindered map := by
  simp only [InstanceStep.Unhindered]
  generalize key_eq : (registry type).instanceKey metadata name = key
  cases listed : map.entry key with
  | nil =>
      have none_ : map.view type key = [] := by
        rw [view, listed]
        rfl
      have made_ : map.instantiateOne (registry type) type metadata name make =
          map.instantiate (registry type) type metadata name make := by
        simp only [instantiateOne, key_eq, listed]
      refine ⟨fun _ => .inl (by simp), fun _ => ⟨?_, ?_⟩⟩
      · simp only [InstanceStep.Answered, key_eq, none_, made_]
        intro item made defined made_eq
        simp only [instantiate, defined, made_eq, key_eq, true_and]
        rw [view_insert, listed]
        exact Boxed.filterMap_downcast_self type made
      · intro other apart name'
        simp only [instanceStep, made_]
        exact view_instantiate_of_ne apart name'
  | cons first rest =>
      obtain ⟨kind, value⟩ := first
      by_cases same : kind = type
      · subst same
        have kept : map.instantiateOne (registry kind) kind metadata name make =
            (.ok value, map) := by
          simp only [instantiateOne, key_eq, listed, Boxed.downcast_self]
        refine ⟨fun _ => .inl (by simp), fun _ => ⟨?_, ?_⟩⟩
        · simp only [InstanceStep.Answered, key_eq, view_of_head listed, kept, and_self]
        · intro other _ name'
          simp only [instanceStep, kept]
      · have failed : map.instantiateOne (registry type) type metadata name make =
            (.error unexpectedInstance, map) := by
          have box : Boxed.downcast type (⟨kind, value⟩ : Boxed V) = none :=
            Boxed.downcast_of_ne same
          simp only [instantiateOne, key_eq, listed, box]
        constructor
        · rintro ⟨answered, -⟩
          simp only [InstanceStep.Answered, key_eq, failed] at answered
          split at answered
          · cases answered.1
          · next none_ =>
              refine .inr ⟨none_, fun item made defined made_eq => ?_⟩
              cases (answered item made defined made_eq).1
        · rintro (first | ⟨none_, undefined⟩)
          · exact absurd (first _ rfl) same
          · refine ⟨?_, fun other _ name' => by simp only [instanceStep, failed]⟩
            simp only [InstanceStep.Answered, key_eq, none_]
            exact fun item made defined made_eq => absurd made_eq (undefined item made defined)

theorem right_uninstantiate_iff :
    (InstanceStep.mk registry (.uninstantiate type metadata name) : InstanceStep M V).Right map ↔
      (InstanceStep.mk registry (.uninstantiate type metadata name) :
        InstanceStep M V).Unhindered map := by
  simp only [InstanceStep.Unhindered]
  generalize key_eq : (registry type).instanceKey metadata name = key
  cases found : map.lookup key with
  | none =>
      have missing : map.uninstantiate (registry type) type metadata name =
          (.error (.missingInstances key), map) := by
        subst key_eq
        simp only [uninstantiate, found]
      have listed : map.entry key = [] := by rw [entry, found, Option.getD_none]
      refine ⟨fun _ => by simp [listed], fun _ => ⟨?_, ?_⟩⟩
      · simp only [InstanceStep.Answered, key_eq, missing]
        rw [view, listed]
        rfl
      · intro other _ name'
        simp only [instanceStep, missing]
  | some boxes =>
      have removed : map.uninstantiate (registry type) type metadata name =
          (.ok (boxes.filterMap (Boxed.downcast type)), map.erase key) := by
        subst key_eq
        simp only [uninstantiate, found]
      have listed : map.entry key = boxes := by rw [entry, found, Option.getD_some]
      constructor
      · rintro ⟨-, others⟩ box member
        by_contra foreign
        have kept := others box.1 foreign key
        simp only [instanceStep, removed, view_erase] at kept
        exact view_eq_nil.mp kept.symm box member rfl
      · intro own
        refine ⟨?_, ?_⟩
        · simp only [InstanceStep.Answered, key_eq, removed, view_erase, and_true]
          rw [view, listed]
        · intro other apart name'
          simp only [instanceStep, removed]
          by_cases here : name' = key
          · rw [here, view_erase, eq_comm, view_eq_nil]
            exact fun box member same => apart (same.symm.trans (own box member))
          · exact view_erase_of_ne here

theorem right_instances :
    (InstanceStep.mk registry (.instances type metadata name) : InstanceStep M V).Right map := by
  refine ⟨?_, fun other _ name' => rfl⟩
  simp only [InstanceStep.Answered, InstanceMap.instances]
  generalize (registry type).instanceKey metadata name = key
  cases found : map.lookup key with
  | none =>
      dsimp only
      rw [view, entry, found]
      rfl
  | some boxes =>
      dsimp only
      rw [view, entry, found, Option.getD_some]

omit [∀ type, NamedItem (M type)] in
/-- What `as_one` returns, by the last instance of the name. -/
theorem asOne_answers_iff {key : Ustr}
    (key_eq : (registry type).instanceKey metadata name = key) :
    Answers (map.asOne (registry type) type metadata name) (map.view type key).getLast? ↔
      (∀ last ∈ (map.entry key).getLast?, last.1 = type) ∨ map.view type key = [] := by
  cases last_eq : (map.entry key).getLast? with
  | none =>
      have listed : map.view type key = [] := by
        rw [view, List.getLast?_eq_none_iff.mp last_eq]
        rfl
      simp only [asOne, key_eq, last_eq, listed, List.getLast?_nil, Answers]
      exact ⟨fun _ => .inl (by simp), fun _ => ⟨_, rfl⟩⟩
  | some last =>
      obtain ⟨init, listed⟩ := List.getLast?_eq_some_iff.mp last_eq
      obtain ⟨kind, value⟩ := last
      by_cases same : kind = type
      · subst same
        simp only [asOne, key_eq, last_eq, Boxed.downcast_self, view_of_last listed,
          List.getLast?_append, List.getLast?_singleton, Option.some_or, Answers]
        exact ⟨fun _ => .inl (by simp), fun _ => trivial⟩
      · have box : Boxed.downcast type (⟨kind, value⟩ : Boxed V) = none :=
          Boxed.downcast_of_ne same
        simp only [asOne, key_eq, last_eq, box]
        constructor
        · intro answers
          cases shown : (map.view type key).getLast? with
          | none => exact .inr (List.getLast?_eq_none_iff.mp shown)
          | some instance_ =>
              rw [shown] at answers
              cases answers
        · rintro (own | none_)
          · exact absurd (own _ rfl) same
          · rw [none_]
            exact ⟨_, rfl⟩

theorem right_asOneMut_iff {update : V type → V type} :
    (InstanceStep.mk registry (.asOneMut type metadata name update) : InstanceStep M V).Right map ↔
      (InstanceStep.mk registry (.asOneMut type metadata name update) :
        InstanceStep M V).Unhindered map := by
  simp only [InstanceStep.Unhindered]
  generalize key_eq : (registry type).instanceKey metadata name = key
  have fst : (map.asOneMut (registry type) type metadata name update).1 =
      map.asOne (registry type) type metadata name := by
    rw [asOneMut]
    cases map.asOne (registry type) type metadata name <;> rfl
  rw [← asOne_answers_iff key_eq]
  constructor
  · rintro ⟨answered, -⟩
    simp only [InstanceStep.Answered, key_eq, fst] at answered
    exact answered.1
  · intro answers
    cases result : map.asOne (registry type) type metadata name with
    | error error =>
        have kept : map.asOneMut (registry type) type metadata name update = (.error error, map) := by
          simp only [asOneMut, result]
        rw [result] at answers
        have none_ : (map.view type key).getLast? = none := by
          cases shown : (map.view type key).getLast? with
          | none => rfl
          | some instance_ =>
              rw [shown] at answers
              cases answers
        refine ⟨?_, fun other _ name' => by simp only [instanceStep, kept]⟩
        simp only [InstanceStep.Answered, key_eq, kept, none_, Option.map_none, Option.toList_none,
          List.append_nil]
        rw [List.getLast?_eq_none_iff.mp none_]
        exact ⟨⟨_, rfl⟩, rfl⟩
    | ok instance_ =>
        obtain ⟨init, listed⟩ : ∃ init, map.entry key = init ++ [⟨type, instance_⟩] := by
          simp only [asOne, key_eq] at result
          split at result
          · cases result
          · next last last_eq =>
              split at result
              · cases result
              · next held =>
                  cases result
                  rw [Boxed.downcast_eq_some.mp held] at last_eq
                  exact List.getLast?_eq_some_iff.mp last_eq
        have updated : map.asOneMut (registry type) type metadata name update =
            (.ok instance_, map.insert key (init ++ [⟨type, update instance_⟩])) := by
          simp only [asOneMut, result, key_eq, listed, List.dropLast_concat]
        have shown := view_of_last listed
        refine ⟨?_, ?_⟩
        · simp only [InstanceStep.Answered, key_eq, updated, shown, List.getLast?_append,
            List.getLast?_singleton, Option.some_or, Option.map_some, Option.toList_some,
            List.dropLast_concat, Answers, true_and]
          rw [view_insert, List.filterMap_append, Boxed.filterMap_downcast_self]
        · intro other apart name'
          simp only [instanceStep, updated]
          apply view_insert_eq
          rw [view, listed, List.filterMap_append, List.filterMap_append,
            Boxed.filterMap_downcast_of_ne (Ne.symm apart),
            Boxed.filterMap_downcast_of_ne (Ne.symm apart)]

/-- An operation is right exactly when no instance of another type is in its way. -/
theorem right_iff (map : InstanceMap V) (step : InstanceStep M V) :
    step.Right map ↔ step.Unhindered map := by
  obtain ⟨registry, action⟩ := step
  cases action with
  | instantiateOne type metadata name make => exact right_instantiateOne_iff
  | uninstantiate type metadata name => exact right_uninstantiate_iff
  | instances type metadata name => exact ⟨fun _ => trivial, fun _ => right_instances⟩
  | asOne type metadata name =>
      constructor
      · exact fun right => (asOne_answers_iff rfl).mp right.answered
      · exact fun free => ⟨(asOne_answers_iff rfl).mpr free, fun other _ name' => rfl⟩
  | asOneMut type metadata name update => exact right_asOneMut_iff

/-- All operations of a run are right exactly when none of them finds an instance of
another type in its way. -/
theorem operations_right_iff (map : InstanceMap V) (steps : List (InstanceStep M V)) :
    Along instanceStep (fun map step => step.Right map) map steps ↔
      Along instanceStep (fun map step => step.Unhindered map) map steps :=
  Along.congr right_iff

end Right

end Actions

/-! ## A name of two types -/

inductive SampleType where
  | service
  | timer
  deriving DecidableEq

/-- The instantiation of `app:web` as one type. -/
def sampleStep (type : SampleType) :
    InstanceStep (fun _ : SampleType => SampleItem) (fun _ : SampleType => Ustr) where
  registry _ := .ofGroup "static" "app" [⟨"web"⟩]
  action := .instantiateOne type "*" "app:web" fun item => .ok item.name

/-- After the service of a name its timer cannot be instantiated. -/
theorem not_operations_right_timer :
    ¬ Along instanceStep (fun map step => step.Right map) ∅
      [sampleStep .service, sampleStep .timer] := by
  rintro ⟨-, right, -⟩
  rcases (right_iff _ _).mp right with own | ⟨-, undefined⟩
  · have first : ((instanceStep ∅ (sampleStep .service)).entry "app:web@static").head?.map
        Sigma.fst = some .service := by
      decide +kernel
    have key : ((sampleStep .timer).registry .timer).instanceKey "*" "app:web" =
        "app:web@static" := by
      decide +kernel
    obtain ⟨box, member, kind⟩ := Option.map_eq_some_iff.mp first
    rw [← key] at member
    cases kind.symm.trans (own box member)
  · have defined : ((sampleStep .timer).registry .timer).instantiated "*" "app:web" =
        some ⟨"web"⟩ := by
      decide +kernel
    exact undefined ⟨"web"⟩ "web" defined rfl

end Rind
