import Rind.Core.Error
import Rind.Core.Registry
import Rind.Ipc.Payload

/-!
# Facets

The definitions of facets, their instances in the facet graph and the events
that announce their changes.
-/

namespace Rind

/-- A condition on a facet or an impulse, by name or with payload filters. -/
inductive FlowItem where
  | simple (name : Ustr)
  | detailed (facet impulse : Option Ustr) (target branch : Option FlowMatchOperation)
  deriving DecidableEq, Repr

inductive FlowType where
  | impulse
  | facet
  deriving DecidableEq, Repr

/-- A stored branch of a facet, or an impulse on its way. -/
structure FlowInstance where
  name : Ustr
  payload : FlowPayload
  type : FlowType
  deriving DecidableEq, Repr

inductive AutoPayloadInsert where
  | one (key : String)
  | many (keys : List String)
  deriving DecidableEq, Repr

structure AutoPayloadConfig where
  variableName : Option Ustr
  insert : Option AutoPayloadInsert
  many : Bool
  deriving DecidableEq, Repr

/-- An entry of a stop-on list. -/
inductive InverseBranchingConfig where
  | simple (name : Ustr)
  | detailed (name : Ustr) (branch : Option Ustr)
  deriving DecidableEq, Repr

namespace InverseBranchingConfig

def name : InverseBranchingConfig → Ustr
  | .simple name => name
  | .detailed name _ => name

def branch : InverseBranchingConfig → Option Ustr
  | .simple _ => none
  | .detailed _ branch => branch

end InverseBranchingConfig

/-- How a subscriber is reached. -/
inductive TransportMethod where
  | type (id : Ustr)
  | options (id : Ustr) (options : List Ustr) (permissions : Option (List Ustr))
  | object (id : Ustr) (options : Json) (permissions : Option (List Ustr))
  deriving DecidableEq, Repr

def transportId : TransportMethod → Ustr
  | .type id => id
  | .options id _ _ => id
  | .object id _ _ => id

/-- The definition of a facet. -/
structure FlowFacetMetadata where
  name : Ustr
  payload : FlowPayloadType
  stopOn : Option (List InverseBranchingConfig)
  after : Option (List FlowItem)
  branch : Option (List Ustr)
  autoPayload : Option AutoPayloadConfig
  subscribers : Option (List TransportMethod)
  deriving DecidableEq, Repr

instance : NamedItem FlowFacetMetadata := ⟨FlowFacetMetadata.name⟩

/-- The instances of every facet name. -/
abbrev Facets : Type := AList fun _ : Ustr => List FlowInstance

namespace Facets

/-- The instances of a name, none where the name has no entry. -/
def instances (facets : Facets) (name : Ustr) : List FlowInstance :=
  (facets.lookup name).getD []

@[simp] theorem instances_insert_self (facets : Facets) (name : Ustr)
    (branches : List FlowInstance) :
    instances (facets.insert name branches) name = branches := by
  simp [instances]

theorem instances_insert_of_ne (facets : Facets) {name other : Ustr} (ne : other ≠ name)
    (branches : List FlowInstance) :
    instances (facets.insert name branches) other = facets.instances other := by
  simp [instances, AList.lookup_insert_ne ne]

@[simp] theorem instances_erase_self (facets : Facets) (name : Ustr) :
    instances (facets.erase name) name = [] := by
  simp [instances]

theorem instances_erase_of_ne (facets : Facets) {name other : Ustr} (ne : other ≠ name) :
    instances (facets.erase name) other = facets.instances other := by
  simp [instances, AList.lookup_erase_ne ne]

end Facets

inductive FlowAction where
  | apply
  | revert
  deriving DecidableEq, Repr

/-- An announced change of a facet or an impulse. -/
structure FlowEvent where
  name : Ustr
  payload : Json
  action : FlowAction
  flowType : FlowType
  deriving DecidableEq, Repr

/-- The arguments of a dispatched `send` of the transport runtime. -/
structure SubscriberMessage where
  endpoint : Ustr
  type : String
  name : Ustr
  action : String
  payload : Json
  deriving DecidableEq, Repr

end Rind
