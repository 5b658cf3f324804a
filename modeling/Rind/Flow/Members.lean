import Rind.Flow.Standalone
import Rind.Flow.Transport

/-!
# Facets that are used as sets

Callers keep a set in a facet of string payloads: adding a member sets the facet
to it, and taking a member out removes it by its value.  A facet of strings has
one instance at most, so a member that is added replaces the one before it.
-/

namespace Rind

open Prog

/-! ## Actions of the flow runtime -/

/-- The filter of a `remove_facet` action. -/
def removalFilter : Option Json → Option FlowMatchOperation
  | some (.obj fields) => some (.options none none (some (.obj fields)))
  | some (.str text) => some (.eq text)
  | _ => none

/-- The call an action of the flow runtime makes. -/
def Dispatched.call [SerdeJson] : Dispatched → Option Call
  | .setFacet name payload =>
      some (.setFacet name (payload.map fun value => FlowPayload.fromJson (some value)))
  | .removeFacet name payload => some (.removeFacet name (removalFilter payload))
  | _ => none

/-! ## Sequences of changes -/

/-- A change of a set. -/
inductive MemberOp where
  | add (value : String)
  | remove (value : String)
  deriving DecidableEq, Repr

namespace MemberOp

/-- The value a change is about. -/
def value : MemberOp → String
  | add value => value
  | remove value => value

/-- What callers dispatch to change the set in a facet. -/
def dispatched (facet : Ustr) : MemberOp → Dispatched
  | add value => .setFacet facet (some (.str value))
  | remove value => .removeFacet facet (some (.str value))

/-- What a change leaves of the instances of a string facet. -/
def apply : MemberOp → List String → List String
  | add value, _ => [value]
  | remove value, held => held.filter (· ≠ value)

end MemberOp

/-- The values the instances of a string facet have after some changes. -/
def heldAfter (ops : List MemberOp) : List String := ops.foldl (fun held op => op.apply held) []

/-- The last change about a value added it. -/
def Current (ops : List MemberOp) (value : String) : Prop :=
  ops.reverse.find? (·.value = value) = some (.add value)

instance (ops : List MemberOp) (value : String) : Decidable (Current ops value) :=
  inferInstanceAs (Decidable (_ = _))

/-- The value that was added last. -/
def lastAdded (ops : List MemberOp) : Option String :=
  ops.reverse.findSome? fun
    | .add value => some value
    | .remove _ => none

section Sequences

variable {ops : List MemberOp} {op : MemberOp} {value other : String}

@[simp] theorem heldAfter_concat : heldAfter (ops ++ [op]) = op.apply (heldAfter ops) := by
  simp [heldAfter]

@[simp] theorem current_add :
    Current (ops ++ [.add other]) value ↔ other = value ∨ Current ops value := by
  by_cases same : other = value
  · simp [Current, MemberOp.value, same]
  · simp [Current, MemberOp.value, same]

@[simp] theorem current_remove :
    Current (ops ++ [.remove other]) value ↔ other ≠ value ∧ Current ops value := by
  by_cases same : other = value
  · simp [Current, MemberOp.value, same]
  · simp [Current, MemberOp.value, same]

@[simp] theorem lastAdded_add : lastAdded (ops ++ [.add value]) = some value := by
  simp [lastAdded]

@[simp] theorem lastAdded_remove : lastAdded (ops ++ [.remove value]) = lastAdded ops := by
  simp [lastAdded]

/-- A string facet holds the value that was added last, as long as it is not
removed. -/
theorem mem_heldAfter : value ∈ heldAfter ops ↔ Current ops value ∧ lastAdded ops = some value := by
  induction ops using List.reverseRecOn with
  | nil => simp [heldAfter, Current]
  | append_singleton ops op ih =>
      cases op with
      | add added =>
          rw [heldAfter_concat, current_add, lastAdded_add, MemberOp.apply, List.mem_singleton,
            Option.some.injEq]
          constructor
          · rintro rfl
            exact ⟨.inl rfl, rfl⟩
          · rintro ⟨-, rfl⟩
            rfl
      | remove removed =>
          rw [heldAfter_concat, current_remove, lastAdded_remove, MemberOp.apply, List.mem_filter,
            ih, decide_eq_true_eq]
          constructor
          · rintro ⟨⟨current, last⟩, apart⟩
            exact ⟨⟨Ne.symm apart, current⟩, last⟩
          · rintro ⟨⟨apart, current⟩, last⟩
            exact ⟨⟨current, last⟩, Ne.symm apart⟩

theorem nodup_heldAfter : (heldAfter ops).Nodup := by
  induction ops using List.reverseRecOn with
  | nil => exact List.nodup_nil
  | append_singleton ops op ih =>
      rw [heldAfter_concat]
      cases op with
      | add added => exact List.nodup_singleton added
      | remove removed => exact ih.filter _

/-- The facet holds exactly the current values where each of them is the one that
was added last. -/
theorem heldAfter_exact_iff :
    (∀ value, value ∈ heldAfter ops ↔ Current ops value) ↔
      ∀ value, Current ops value → lastAdded ops = some value := by
  simp only [mem_heldAfter, and_iff_left_iff_imp]

end Sequences

/-! ## A facet on its own -/

/-- A facet of strings that depends on no other facet. -/
def StringSet (env : FlowEnv) (facet : Ustr) : Prop :=
  ∃ definition, env.find facet = some definition ∧ definition.payload = .string ∧
    definition.after = none ∧ definition.stopOn = none

/-- The values of the instances of a facet. -/
def memberValues (state : FlowState) (facet : Ustr) : List String :=
  (state.facets.instances facet).map fun branch => branch.payload.toStringPayload

section Standalone

variable [SerdeJson] [TomlText] {env : FlowEnv} {facet : Ustr} {state final : FlowState}
  {result : Except CoreError Unit}

omit [SerdeJson] [TomlText] in
theorem StringSet.standalone (set : StringSet env facet) :
    ∃ definition, Standalone env facet definition ∧ definition.payload = .string := by
  obtain ⟨definition, found, typed, after, stopOn⟩ := set
  exact ⟨definition, ⟨found, after, stopOn⟩, typed⟩

theorem StringSet.exec_other (set : StringSet env facet) {c : Call} (other : c.name ≠ facet)
    (ran : exec env c state = some (result, final)) :
    final.facets.instances facet = state.facets.instances facet := by
  obtain ⟨definition, alone, -⟩ := set.standalone
  exact alone.exec_other other ran

/-- A member that is added replaces what was there. -/
theorem StringSet.exec_add (set : StringSet env facet) {value : String}
    (free : state.guard = ∅)
    (ran : exec env (.setFacet facet (some (.string value))) state = some (result, final)) :
    memberValues final facet = [value] := by
  obtain ⟨definition, alone, typed⟩ := set.standalone
  have stored : storeInstance definition (freshInstance facet (some (.string value)))
      (state.facets.instances facet) = some [freshInstance facet (some (.string value))] :=
    storeInstance_other (by simp [freshInstance])
  have typeOk : payloadTypeOk definition.payload
      (freshInstance facet (some (.string value))).payload := by
    simp [payloadTypeOk, freshInstance, typed]
  rw [memberValues, alone.exec_set free typeOk stored ran]
  rfl

/-- A member that is taken out leaves the others. -/
theorem StringSet.exec_remove (set : StringSet env facet) {value : String}
    (ran : exec env (.removeFacet facet (some (.eq value))) state = some (result, final)) :
    memberValues final facet = (memberValues state facet).filter (· ≠ value) := by
  obtain ⟨definition, alone, -⟩ := set.standalone
  rw [memberValues, alone.exec_remove ran, keptBranches, memberValues, List.filter_map]
  congr 1
  apply List.filter_congr
  intro branch _
  simp [removes, matchOperation, beq_eq_decide]

end Standalone

end Rind
