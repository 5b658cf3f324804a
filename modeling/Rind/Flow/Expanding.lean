import Rind.Flow.Facet

/-!
# Payloads of triggers

The payload of a trigger can refer to facets, and the trigger is then carried out once for each
instance of a facet. A text refers to the facet before its last colon. A table refers to facets in
its values, `facet:name/path`: the values are filled in by the name before the slash, but the facet
whose instances count is the part before the last colon of the first value that has one.
-/

namespace Rind

structure Trigger where
  hook : Option Ustr
  script : Option Ustr
  exec : Option Ustr
  args : Option (List Ustr)
  facet : Option Ustr
  impulse : Option Ustr
  service : Option Ustr
  timer : Option Ustr
  socket : Option Ustr
  stop : Option Bool
  payload : Option Json
  action : Option Ustr
  deriving DecidableEq

/-- What a trigger does when it is carried out. -/
inductive TriggerEffect where
  | script (text : Ustr)
  | exec (program : Ustr) (args : List Ustr)
  | setFacet (name : Ustr) (payload : Option Json)
  | impulse (name : Ustr) (payload : Option Json)
  | service (stop : Bool) (name : Ustr)
  | hook (stop : Bool) (name : Ustr)
  | timer (stop : Bool) (name : Ustr)
  | socket (stop : Bool) (name : Ustr)
  | action (runtime action : String) (exec : Option Ustr) (args : Option (List Ustr))
      (stop : Option Bool)
  deriving DecidableEq

/-- What `trigger_events` has besides the triggers: whether there is a log, and the actions that
other runtimes have registered. -/
structure TriggerActions where
  logged : Bool
  actions : Option (AList fun _ : Ustr => Ustr)

/-- The branches at the end of `trigger_events`: the first target that a trigger has. -/
def Trigger.fire (context : TriggerActions) (trigger : Trigger) : Option TriggerEffect :=
  let stop := trigger.stop == some true
  if let some script := trigger.script then some (.script script)
  else if let some exec := trigger.exec then some (.exec exec (trigger.args.getD []))
  else if let some facet := trigger.facet then some (.setFacet facet trigger.payload)
  else if let some impulse := trigger.impulse then some (.impulse impulse trigger.payload)
  else if let some service := trigger.service then some (.service stop service)
  else if let (some hook, true) := (trigger.hook, context.logged) then some (.hook stop hook)
  else if let some timer := trigger.timer then some (.timer stop timer)
  else if let some socket := trigger.socket then some (.socket stop socket)
  else do
    let action ← trigger.action
    let actions ← context.actions
    let spec ← actions.lookup action
    let (runtime, action) ← Text.splitOnce ':' spec
    some (.action runtime action trigger.exec trigger.args trigger.stop)

section Resolving

variable [SerdeJson]

/-- The text at a path of an instance. A key that is missing is passed over. -/
def resolvePath (branch : FlowInstance) (path : String) : String :=
  match branch.payload with
  | .json json =>
      let cur := (Text.split '/' path).foldl
        (fun cur key => ((cur.asObject.bind (·.lookup key)).getD cur)) json.intoJson
      match cur with
      | .str text => text
      | cur => SerdeJson.toText cur
  | payload => payload.toStringPayload

/-- The text behind `facet:` in a value. -/
def facetSpec : Json → Option String
  | .str text => Text.stripPrefix "facet:" text
  | _ => none

/-- The facet whose instances a table is expanded for. -/
def primaryState (map : List (String × Json)) : Option String :=
  map.findSome? fun entry => ((facetSpec entry.2).bind (Text.rsplitOnce ':')).map Prod.fst

/-- A value of a table, filled in for an instance of the primary facet. -/
def fillValue (facets : Facets) (stateName : Ustr) (branch : FlowInstance) (value : Json) : Json :=
  match (facetSpec value).bind (Text.splitOnce '/') with
  | some (name, path) =>
      let branchToUse :=
        if name = stateName then some branch else (facets.lookup name).bind List.head?
      match branchToUse with
      | some used => .str (resolvePath used path)
      | none => value
  | none => value

def fillTable (facets : Facets) (stateName : Ustr) (branch : FlowInstance)
    (map : List (String × Json)) : List (String × Json) :=
  map.map fun entry => (entry.1, fillValue facets stateName branch entry.2)

/-- The triggers that `trigger_events` carries out in place of one. -/
def resolveTrigger (sm : Option Facets) (trigger : Trigger) : List Trigger :=
  match sm with
  | none => [trigger]
  | some facets =>
      match trigger.payload with
      | some (.str text) =>
          match Text.rsplitOnce ':' text with
          | some (stateName, path) =>
              match facets.lookup stateName with
              | some branches => branches.map fun branch =>
                  { trigger with payload := some (.str (resolvePath branch path)) }
              | none => []
          | none => [trigger]
      | some (.obj map) =>
          match primaryState map with
          | some stateName =>
              match facets.lookup stateName with
              | some branches => branches.map fun branch =>
                  { trigger with payload := some (.obj (fillTable facets stateName branch map)) }
              | none => []
          | none => [trigger]
      | _ => [trigger]

def triggerEvents (context : TriggerActions) (sm : Option Facets) (triggers : List Trigger) :
    List TriggerEffect :=
  triggers.flatMap fun trigger => (resolveTrigger sm trigger).filterMap (Trigger.fire context)

/-! ## References -/

/-- The facet and the path that a value of a table refers to. -/
def reference (value : Json) : Option (String × String) :=
  (facetSpec value).bind (Text.splitOnce '/')

/-- A name of the form `group:name`. -/
def Grouped (name : String) : Prop :=
  ∃ group item, name = group ++ ":" ++ item ∧ group ≠ "" ∧ item ≠ "" ∧ ':' ∉ group.toList ∧
    ':' ∉ item.toList

/-- The facets that a payload refers to: of a text the one before its last colon, if the graph has
it, and of a table those of its references. -/
def Refers (facets : Facets) (payload : Option Json) (name : String) : Prop :=
  match payload with
  | some (.str text) => name ∈ facets ∧ ∃ path, Text.rsplitOnce ':' text = some (name, path)
  | some (.obj map) => ∃ entry ∈ map, ∃ path, reference entry.2 = some (name, path)
  | _ => False

/-- Every reference of a table, replaced by the value at its path. -/
def expandTable (branch : FlowInstance) (map : List (String × Json)) : List (String × Json) :=
  map.map fun entry =>
    (entry.1, match reference entry.2 with
      | some (_, path) => .str (resolvePath branch path)
      | none => entry.2)

/-- A table that refers to one facet, and to no other. -/
structure RefersOnly (map : List (String × Json)) (name : String) : Prop where
  grouped : Grouped name
  some_ : ∃ entry ∈ map, ∃ path, reference entry.2 = some (name, path)
  only : ∀ entry ∈ map, ∀ other path, reference entry.2 = some (other, path) → other = name

/-- A trigger with a target is carried out at least once unless it refers to a facet without an
instance. A text that refers to no facet is passed on, and a table that refers to one facet is
filled in for each instance of it. -/
structure Expanded (context : TriggerActions) (facets : Facets) (trigger : Trigger) : Prop where
  fired : (trigger.fire context).isSome →
    (∀ name, Refers facets trigger.payload name → facets.instances name ≠ []) →
    triggerEvents context (some facets) [trigger] ≠ []
  literal : ∀ text, trigger.payload = some (.str text) →
    (∀ name, ¬ Refers facets trigger.payload name) → resolveTrigger (some facets) trigger = [trigger]
  table : ∀ map name, trigger.payload = some (.obj map) → RefersOnly map name →
    resolveTrigger (some facets) trigger = (facets.instances name).map fun branch =>
      { trigger with payload := some (.obj (expandTable branch map)) }

/-- The text before a colon is a facet of the graph; the primary facet of a table has an instance, or
one that the table refers to has none; and the primary facet of a table with one facet is this, or
has as many instances, all of which fill the table in alike. -/
structure Resolvable (context : TriggerActions) (facets : Facets) (trigger : Trigger) : Prop where
  text : ∀ text name path, trigger.payload = some (.str text) →
    Text.rsplitOnce ':' text = some (name, path) → name ∈ facets
  primary : ∀ map primary, trigger.payload = some (.obj map) → primaryState map = some primary →
    (trigger.fire context).isSome → facets.instances primary ≠ [] ∨
      ∃ name, Refers facets trigger.payload name ∧ facets.instances name = []
  table : ∀ map name primary, trigger.payload = some (.obj map) → RefersOnly map name →
    primaryState map = some primary → primary = name ∨
      (facets.instances primary).length = (facets.instances name).length ∧
      ∀ branch ∈ facets.instances name, ∀ first ∈ (facets.instances name).head?,
        expandTable branch map = expandTable first map

/-! ## Carrying out -/

section Cases

variable {context : TriggerActions} {facets : Facets} {trigger : Trigger}

omit [SerdeJson] in
/-- What a trigger does depends on its payload, whether it does something does not. -/
theorem fire_isSome_payload (context : TriggerActions) (trigger : Trigger)
    (payload : Option Json) :
    (({ trigger with payload } : Trigger).fire context).isSome = (trigger.fire context).isSome := by
  rw [Trigger.fire, Trigger.fire]
  dsimp only
  split
  · rfl
  split
  · rfl
  split
  · rfl
  split
  · rfl
  split
  · rfl
  split
  · rfl
  split
  · rfl
  split
  · rfl
  · rfl

/-! ## Texts and tables -/

theorem resolveTrigger_text {text : String} (payload : trigger.payload = some (.str text)) :
    resolveTrigger (some facets) trigger =
      match Text.rsplitOnce ':' text with
      | some (name, path) =>
          if name ∈ facets then (facets.instances name).map fun branch =>
            { trigger with payload := some (.str (resolvePath branch path)) }
          else []
      | none => [trigger] := by
  simp only [resolveTrigger, payload]
  cases Text.rsplitOnce ':' text with
  | none => rfl
  | some parts =>
      obtain ⟨name, path⟩ := parts
      dsimp only
      cases held : facets.lookup name with
      | none => rw [if_neg (AList.lookup_eq_none.mp held)]
      | some branches =>
          rw [if_pos (AList.lookup_isSome.mp (by rw [held]; rfl)), Facets.instances, held]
          rfl

theorem resolveTrigger_table {map : List (String × Json)} {primary : String}
    (payload : trigger.payload = some (.obj map)) (first : primaryState map = some primary) :
    resolveTrigger (some facets) trigger = (facets.instances primary).map fun branch =>
      { trigger with payload := some (.obj (fillTable facets primary branch map)) } := by
  simp only [resolveTrigger, payload, first, Facets.instances]
  cases facets.lookup primary with
  | none => rfl
  | some branches => rfl

theorem resolveTrigger_literal (text : ∀ text, trigger.payload = some (.str text) →
      Text.rsplitOnce ':' text = none)
    (table : ∀ map, trigger.payload = some (.obj map) → primaryState map = none) :
    resolveTrigger (some facets) trigger = [trigger] := by
  rw [resolveTrigger]
  split
  · rename_i content payload
    rw [text content payload]
  · rename_i map payload
    rw [table map payload]
  · rfl

theorem resolveTrigger_payload {resolved : Trigger}
    (inside : resolved ∈ resolveTrigger (some facets) trigger) :
    ∃ payload, resolved = { trigger with payload } := by
  have itself (inside : resolved ∈ [trigger]) : ∃ payload, resolved = { trigger with payload } := by
    rw [List.mem_singleton] at inside
    exact ⟨trigger.payload, inside⟩
  have mapped {branches : List FlowInstance} {payload : FlowInstance → Option Json}
      (inside : resolved ∈ branches.map fun branch => { trigger with payload := payload branch }) :
      ∃ payload, resolved = { trigger with payload } := by
    obtain ⟨branch, -, same⟩ := List.mem_map.mp inside
    exact ⟨payload branch, same.symm⟩
  rw [resolveTrigger] at inside
  split at inside
  · split at inside
    · split at inside
      · exact mapped inside
      · cases inside
    · exact itself inside
  · split at inside
    · split at inside
      · exact mapped inside
      · cases inside
    · exact itself inside
  · exact itself inside

/-- A trigger with a target has effects exactly where it is carried out. -/
theorem triggerEvents_ne_nil (target : (trigger.fire context).isSome) :
    triggerEvents context (some facets) [trigger] ≠ [] ↔
      resolveTrigger (some facets) trigger ≠ [] := by
  rw [triggerEvents, List.flatMap_singleton, Ne, Ne, not_iff_not, List.filterMap_eq_nil_iff]
  constructor
  · intro nothing
    rw [List.eq_nil_iff_forall_not_mem]
    intro resolved inside
    obtain ⟨payload, rfl⟩ := resolveTrigger_payload inside
    have fires := fire_isSome_payload context trigger payload
    rw [nothing _ inside, target] at fires
    cases fires
  · intro nothing resolved inside
    rw [nothing] at inside
    cases inside

end Cases

/-! ## One facet -/

section Table

variable {facets : Facets} {map : List (String × Json)} {name primary : String}

omit [SerdeJson] in
theorem rsplitOnce_isSome {separator : Char} {text : String} (inside : separator ∈ text.toList) :
    (Text.rsplitOnce separator text).isSome := by
  rw [Text.rsplitOnce]
  cases behind : text.toList.reverse.dropWhile (· != separator) with
  | nil =>
      have none_ := List.dropWhile_eq_nil_iff.mp behind separator (List.mem_reverse.mpr inside)
      simp at none_
  | cons c before => rfl

omit [SerdeJson] in
/-- A table that refers to a name with a colon has a primary facet. -/
theorem RefersOnly.hasPrimary (refers : RefersOnly map name) :
    ∃ primary, primaryState map = some primary := by
  obtain ⟨entry, listed, path, found⟩ := refers.some_
  rw [reference, Option.bind_eq_some_iff] at found
  obtain ⟨spec, isSpec, cut⟩ := found
  have colon : ':' ∈ spec.toList := by
    obtain ⟨group, item, rfl, -⟩ := refers.grouped
    rw [Text.splitOnce] at cut
    split at cut
    · cases cut
    · have before : String.ofList (spec.toList.takeWhile (· != '/')) = group ++ ":" ++ item :=
        congrArg Prod.fst (Option.some.inj cut)
      have taken := congrArg String.toList before
      rw [String.toList_ofList] at taken
      apply (List.takeWhile_sublist (· != '/')).subset
      rw [taken]
      simp
  apply Option.isSome_iff_exists.mp
  rw [primaryState, List.findSome?_isSome_iff]
  refine ⟨entry, listed, ?_⟩
  rw [isSpec, Option.bind_some, Option.isSome_map]
  exact rsplitOnce_isSome colon

/-- Where the primary facet is the one that is referred to, every reference is replaced. -/
theorem RefersOnly.fillTable_self (refers : RefersOnly map name) (branch : FlowInstance) :
    fillTable facets name branch map = expandTable branch map := by
  apply List.map_congr_left
  intro entry listed
  cases found : reference entry.2 with
  | none =>
      rw [reference] at found
      simp only [fillValue, found]
  | some target =>
      obtain ⟨other, path⟩ := target
      obtain rfl := refers.only entry listed other path found
      rw [reference] at found
      simp only [fillValue, found, if_true]

/-- Where it is another one, the first instance is taken for each of the primary facet. -/
theorem RefersOnly.fillTable_other (refers : RefersOnly map name) (other : primary ≠ name)
    (branch : FlowInstance) :
    fillTable facets primary branch map =
      match (facets.instances name).head? with
      | some first => expandTable first map
      | none => map := by
  have first : (facets.lookup name).bind List.head? = (facets.instances name).head? := by
    rw [Facets.instances]
    cases facets.lookup name with
    | none => rfl
    | some branches => rfl
  have apart : name ≠ primary := Ne.symm other
  cases taken : (facets.instances name).head? with
  | none =>
      have kept (entry : String × Json) (listed : entry ∈ map) :
          (entry.1, fillValue facets primary branch entry.2) = id entry := by
        cases found : reference entry.2 with
        | none =>
            rw [reference] at found
            simp only [fillValue, found, id_eq]
        | some target =>
            obtain ⟨other, path⟩ := target
            obtain rfl := refers.only entry listed other path found
            rw [reference] at found
            simp only [fillValue, found, if_neg apart, first, taken, id_eq]
      exact (List.map_congr_left kept).trans (List.map_id map)
  | some first_ =>
      apply List.map_congr_left
      intro entry listed
      cases found : reference entry.2 with
      | none =>
          rw [reference] at found
          simp only [fillValue, found]
      | some target =>
          obtain ⟨other, path⟩ := target
          obtain rfl := refers.only entry listed other path found
          rw [reference] at found
          simp only [fillValue, found, if_neg apart, first, taken]

omit [SerdeJson] in
/-- Equal triggers are filled in alike. -/
theorem obj_of_trigger {trigger : Trigger} {left right : List (String × Json)}
    (same : ({ trigger with payload := some (.obj left) } : Trigger) =
      { trigger with payload := some (.obj right) }) : left = right := by
  have payloads := congrArg Trigger.payload same
  cases payloads
  rfl

/-- A table with one facet is expanded exactly where this is the primary one, or where the instances
of the primary one are as many and those of the facet are all alike. -/
theorem RefersOnly.expanded_iff {trigger : Trigger} (refers : RefersOnly map name)
    (payload : trigger.payload = some (.obj map)) (first : primaryState map = some primary) :
    (resolveTrigger (some facets) trigger = (facets.instances name).map fun branch =>
      { trigger with payload := some (.obj (expandTable branch map)) }) ↔
    primary = name ∨
      (facets.instances primary).length = (facets.instances name).length ∧
      ∀ branch ∈ facets.instances name, ∀ first ∈ (facets.instances name).head?,
        expandTable branch map = expandTable first map := by
  rw [resolveTrigger_table payload first]
  by_cases same : primary = name
  · subst same
    simp only [true_or, iff_true]
    apply List.map_congr_left
    intro branch _
    rw [refers.fillTable_self]
  · rw [or_iff_right same]
    simp only [refers.fillTable_other same]
    cases listed : facets.instances name with
    | nil =>
        simp
    | cons branch rest =>
        rw [List.head?_cons]
        dsimp only
        constructor
        · intro equal
          refine ⟨by simpa using congrArg List.length equal, ?_⟩
          intro other inside first isFirst
          cases isFirst
          have member := List.mem_map_of_mem (f := fun branch : FlowInstance =>
            ({ trigger with payload := some (.obj (expandTable branch map)) } : Trigger)) inside
          rw [← equal] at member
          obtain ⟨_, -, found⟩ := List.mem_map.mp member
          exact (obj_of_trigger found).symm
        · rintro ⟨count, alike⟩
          have replaced : ((branch :: rest).map fun other =>
              ({ trigger with payload := some (.obj (expandTable other map)) } : Trigger)) =
              (branch :: rest).map fun _ =>
                { trigger with payload := some (.obj (expandTable branch map)) } := by
            apply List.map_congr_left
            intro other inside
            rw [alike other inside branch rfl]
          rw [replaced, List.map_const', List.map_const', count]

end Table

/-! ## All triggers -/

section Triggers

variable {context : TriggerActions} {facets : Facets} {trigger : Trigger}

omit [SerdeJson] in
theorem refers_text {text : String} (payload : trigger.payload = some (.str text)) {name : String} :
    Refers facets trigger.payload name ↔
      name ∈ facets ∧ ∃ path, Text.rsplitOnce ':' text = some (name, path) := by
  rw [payload]
  exact Iff.rfl

theorem Resolvable.expanded (resolvable : Resolvable context facets trigger) :
    Expanded context facets trigger := by
  refine ⟨?fired, ?literal, ?table⟩
  case fired =>
    intro target instances
    rw [triggerEvents_ne_nil target]
    by_cases cut : ∃ text name path, trigger.payload = some (.str text) ∧
        Text.rsplitOnce ':' text = some (name, path)
    · obtain ⟨text, name, path, payload, cut⟩ := cut
      have held := resolvable.text text name path payload cut
      have instances' := instances name ((refers_text payload).mpr ⟨held, path, cut⟩)
      simp only [resolveTrigger_text payload, cut, if_pos held]
      exact mt List.map_eq_nil_iff.mp instances'
    by_cases first : ∃ map primary, trigger.payload = some (.obj map) ∧
        primaryState map = some primary
    · obtain ⟨map, primary, payload, first⟩ := first
      rw [resolveTrigger_table payload first]
      rcases resolvable.primary map primary payload first target with some_ | ⟨name, refers, empty⟩
      · exact mt List.map_eq_nil_iff.mp some_
      · exact absurd empty (instances name refers)
    · rw [resolveTrigger_literal]
      · exact List.cons_ne_nil _ _
      · intro text payload
        by_contra some_
        obtain ⟨parts, found⟩ := Option.ne_none_iff_exists'.mp some_
        exact cut ⟨text, parts.1, parts.2, payload, found⟩
      · intro map payload
        by_contra some_
        obtain ⟨primary, found⟩ := Option.ne_none_iff_exists'.mp some_
        exact first ⟨map, primary, payload, found⟩
  case literal =>
    intro text payload unreferred
    rw [resolveTrigger_text payload]
    cases cut : Text.rsplitOnce ':' text with
    | none => rfl
    | some parts =>
        obtain ⟨name, path⟩ := parts
        refine absurd ?_ (unreferred name)
        exact (refers_text payload).mpr ⟨resolvable.text text name path payload cut, path, cut⟩
  case table =>
    intro map name payload refers
    obtain ⟨primary, first⟩ := refers.hasPrimary
    exact (refers.expanded_iff payload first).mpr
      (resolvable.table map name primary payload refers first)

theorem Expanded.resolvable (expanded : Expanded context facets trigger) :
    Resolvable context facets trigger := by
  refine ⟨?text, ?primary, ?table⟩
  case text =>
    intro text name path payload cut
    by_contra absent
    have unreferred (other : String) : ¬ Refers facets trigger.payload other := by
      rw [refers_text payload]
      rintro ⟨held, path', cut'⟩
      rw [cut] at cut'
      cases cut'
      exact absent held
    have kept := expanded.literal text payload unreferred
    rw [resolveTrigger_text payload, cut] at kept
    dsimp only at kept
    rw [if_neg absent] at kept
    cases kept
  case primary =>
    intro map primary payload first target
    by_contra nothing
    obtain ⟨empty, all⟩ := not_or.mp nothing
    have fired := expanded.fired target fun name refers none_ => all ⟨name, refers, none_⟩
    rw [triggerEvents_ne_nil target, resolveTrigger_table payload first,
      Decidable.of_not_not empty] at fired
    exact fired rfl
  case table =>
    intro map name primary payload refers first
    exact (refers.expanded_iff payload first).mp (expanded.table map name payload refers)

/-- All triggers are carried out as their payloads say exactly where each of them can be. -/
theorem triggers_expanded_iff (context : TriggerActions) (facets : Facets)
    (triggers : List Trigger) :
    (∀ trigger ∈ triggers, Expanded context facets trigger) ↔
      ∀ trigger ∈ triggers, Resolvable context facets trigger :=
  forall₂_congr fun _ _ => ⟨Expanded.resolvable, Resolvable.expanded⟩

end Triggers

end Resolving

section Clock

open scoped Compact

def clockTrigger (payload : Json) : Trigger :=
  ⟨none, none, none, none, some "clock:shown", none, none, none, none, none, some payload, none⟩

def noActions : TriggerActions := ⟨false, none⟩

/-- A session of `rind:user` on a terminal. -/
def oneUser : Facets :=
  AList.singleton "rind:user" [⟨"rind:user", .json ⟨"\x7b\"tty\":\"tty1\"\x7d"⟩, .facet⟩]

/-- A text with a colon is not passed on, and a reference to a facet with an instance drops the
trigger. -/
theorem not_expanded_clock :
    ¬ Expanded noActions ∅ (clockTrigger (.str "12:30")) ∧
      ¬ Expanded noActions oneUser (clockTrigger (.obj [("tty", .str "facet:rind:user/tty")])) := by
  constructor
  · intro expanded
    have resolvable := expanded.resolvable.text "12:30" "12" "30" rfl (by decide +kernel)
    exact absurd resolvable (by decide +kernel)
  · intro expanded
    rcases expanded.resolvable.primary _ "rind" rfl (by decide +kernel) rfl with some_ | refers
    · exact some_ (by decide +kernel)
    · obtain ⟨name, ⟨entry, listed, path, found⟩, empty⟩ := refers
      rw [List.mem_singleton.mp listed] at found
      have target : reference (.str "facet:rind:user/tty") = some ("rind:user", "tty") := by
        decide +kernel
      rw [target] at found
      cases found
      exact absurd empty (by decide +kernel)

end Clock

end Rind
