import Rind.Core.Error
import Rind.Prog.Loops
import Mathlib.Data.List.AList

/-!
# The runtime engine

Commands for the runtimes wait in one queue.  A flush hands the commands of one
context to their runtimes, one after the other.  For the time of a call the runtime,
its scope and what the contexts share are taken out of the engine, and put back
afterwards.
-/

namespace Rind

/-! ## The engine -/

/-- What the engine holds for others. -/
structure EngineParts where
  Runtime : Type
  Scope : Type
  EventBus : Type
  Instances : Type
  Payload : Type
  Resources : Type
  -- the values of `Default`, and the bus that is made for the first context
  noScope : Scope
  noEventBus : EventBus
  noInstances : Instances
  newEventBus : EventBus

inductive LifecycleAction where
  | reloadUnits
  | softReboot
  | reboot
  | shutdown
  deriving DecidableEq

/-- The scopes of a context, one for each runtime. -/
structure RuntimeScopes (S : Type) where
  scopes : AList fun _ : String => S
  globals : List (S → S)
  globalsApplied : List String

variable {T : EngineParts}

/-- A command for a runtime. -/
structure Dispatch (T : EngineParts) where
  runtimeId : String
  action : String
  payload : T.Payload
  contextId : Nat
  /-- The channel that waits for the result. -/
  reply : Option Nat

inductive RuntimeCommand (T : EngineParts) where
  | registerScopes (contextId : Nat) (scopes : RuntimeScopes T.Scope)
  | dispatch (command : Dispatch T)
  | stop

structure RuntimeContextState (T : EngineParts) where
  scopes : RuntimeScopes T.Scope
  eventBus : T.EventBus
  lifecycle : List LifecycleAction

structure RuntimeEngine (T : EngineParts) where
  runtimes : AList fun _ : String => T.Runtime
  contexts : AList fun _ : Nat => RuntimeContextState T
  queue : List (Dispatch T)
  instances : T.Instances
  stopped : Bool
  eventBus : Option T.EventBus
  cleared : stopped → queue = []

namespace RuntimeScopes

variable {S : Type}

/-- The scope of a runtime is taken out of the scopes.  The first time, what all
scopes have in common is put into it. -/
def takeOrBuildScope (scopes : RuntimeScopes S) (none_ : S) (runtimeId : String) :
    S × RuntimeScopes S :=
  let scope := (scopes.scopes.lookup runtimeId).getD none_
  let taken := scopes.scopes.erase runtimeId
  if runtimeId ∈ scopes.globalsApplied then
    (scope, { scopes with scopes := taken })
  else
    (scopes.globals.foldl (fun scope global => global scope) scope,
      { scopes with scopes := taken, globalsApplied := runtimeId :: scopes.globalsApplied })

def putScope (scopes : RuntimeScopes S) (runtimeId : String) (scope : S) : RuntimeScopes S :=
  { scopes with scopes := scopes.scopes.insert runtimeId scope }

end RuntimeScopes

namespace RuntimeEngine

/-- `start_runtime` -/
def start (T : EngineParts) (runtimes : List (String × T.Runtime)) : RuntimeEngine T where
  runtimes := runtimes.foldl (fun map runtime => map.insert runtime.1 runtime.2) ∅
  contexts := ∅
  queue := []
  instances := T.noInstances
  stopped := false
  eventBus := none
  cleared := nofun

def send (engine : RuntimeEngine T) (command : RuntimeCommand T) :
    Except CoreError Unit × RuntimeEngine T :=
  if running : engine.stopped then (.error .runtimeStopped, engine)
  else
    match command with
    | .registerScopes contextId scopes =>
        let eventBus := engine.eventBus.getD T.newEventBus
        (.ok (), { engine with
          eventBus := some eventBus
          contexts := engine.contexts.insert contextId ⟨scopes, eventBus, []⟩ })
    | .stop => (.ok (), { engine with stopped := true, queue := [], cleared := fun _ => rfl })
    | .dispatch command =>
        (.ok (), { engine with
          queue := engine.queue ++ [command]
          cleared := fun stopped => absurd stopped running })

/-- The commands that a handler dispatches, one after the other. -/
def sendAll (engine : RuntimeEngine T) (commands : List (Dispatch T)) : RuntimeEngine T :=
  commands.foldl (fun engine command => (engine.send (.dispatch command)).2) engine

/-- The first command of a context leaves the queue. -/
def take (engine : RuntimeEngine T) (contextId : Nat) : Option (Dispatch T × RuntimeEngine T) := do
  let position ← engine.queue.findIdx? (·.contextId = contextId)
  let command ← engine.queue[position]?
  return (command, { engine with
    queue := engine.queue.eraseIdx position
    cleared := fun stopped => by rw [engine.cleared stopped]; rfl })

end RuntimeEngine

/-! ## A flush -/

/-- What a runtime may change while it handles a command. -/
structure RuntimeContext (T : EngineParts) where
  runtimeId : String
  scope : T.Scope
  instances : T.Instances
  resources : T.Resources
  eventBus : T.EventBus
  lifecycle : List LifecycleAction

/-- What a runtime leaves when it has handled a command, and the commands that it has
dispatched meanwhile. -/
structure Handled (T : EngineParts) where
  runtime : T.Runtime
  context : RuntimeContext T
  dispatched : List (Dispatch T)
  result : Except CoreError (Option T.Payload)

/-- `Runtime::handle`, with the context id of the dispatcher. -/
abbrev Handler (T : EngineParts) : Type :=
  T.Runtime → String → T.Payload → RuntimeContext T → Nat → Handled T

/-- A command that a flush has taken, with what its runtime left, or nothing where the
runtime is not known. -/
structure Turn (T : EngineParts) where
  command : Dispatch T
  handled : Option (Handled T)

structure Flush (T : EngineParts) where
  engine : RuntimeEngine T
  resources : T.Resources
  replies : List (Nat × Except CoreError T.Payload)
  trace : List (Turn T)

/-- What is sent to a caller that waits for a result. -/
def replyTo : Except CoreError (Option T.Payload) → Except CoreError T.Payload
  | .ok (some payload) => .ok payload
  | .ok none => .error (.invalidState "No response")
  | .error error => .error error

/-- A runtime handles a command: it is called with what is taken out of the engine, and
this is put back when it returns. -/
def Flush.call (handle : Handler T) (flush : Flush T) (command : Dispatch T) (runtime : T.Runtime)
    (context : RuntimeContextState T) : Flush T :=
  let (scope, scopes) := context.scopes.takeOrBuildScope T.noScope command.runtimeId
  let engine := { flush.engine with
    contexts := flush.engine.contexts.insert command.contextId ⟨scopes, T.noEventBus, []⟩
    instances := T.noInstances }
  let handled := handle runtime command.action command.payload
    ⟨command.runtimeId, scope, flush.engine.instances, flush.resources, context.eventBus,
      context.lifecycle⟩ command.contextId
  let engine := engine.sendAll handled.dispatched
  let engine := { engine with
    runtimes := engine.runtimes.insert command.runtimeId handled.runtime
    instances := handled.context.instances
    contexts :=
      match engine.contexts.lookup command.contextId with
      | some context =>
          engine.contexts.insert command.contextId
            ⟨context.scopes.putScope command.runtimeId handled.context.scope,
              handled.context.eventBus, handled.context.lifecycle⟩
      | none => engine.contexts }
  { engine
    resources := handled.context.resources
    replies := flush.replies ++ (command.reply.map (·, replyTo handled.result)).toList
    trace := flush.trace ++ [⟨command, some handled⟩] }

/-- The error of a context that is not registered. -/
def unregistered (contextId : Nat) : CoreError :=
  .invalidState ("runtime context " ++ toString contextId ++ " not registered")

/-- A round of the loop of `flush_context`, which says whether to go on. -/
def flushRound (handle : Handler T) (contextId : Nat) : Prog (Flush T) CoreError Bool := fun flush =>
  match flush.engine.take contextId with
  | none => some (.ok false, flush)
  | some (command, engine) =>
      if engine.stopped then some (.error .runtimeStopped, { flush with engine })
      else
        match engine.runtimes.lookup command.runtimeId with
        | none =>
            some (.ok true, { flush with engine, trace := flush.trace ++ [⟨command, none⟩] })
        | some runtime =>
            -- the runtime is taken out before its context is looked for
            let engine := { engine with runtimes := engine.runtimes.erase command.runtimeId }
            match engine.contexts.lookup command.contextId with
            | none => some (.error (unregistered command.contextId), { flush with engine })
            | some context =>
                some (.ok true, { flush with engine }.call handle command runtime context)

def flushContext (handle : Handler T) (contextId : Nat) (rounds : Nat) :
    Prog (Flush T) CoreError Unit :=
  Prog.loop (flushRound handle contextId) rounds

/-- A flush that begins. -/
def Flush.start (engine : RuntimeEngine T) (resources : T.Resources) : Flush T :=
  ⟨engine, resources, [], []⟩

/-! ## What a round does -/

namespace RuntimeEngine

variable {engine after : RuntimeEngine T} {contextId : Nat} {command : Dispatch T}

/-- The queue without the first command of a context, and nothing else changed. -/
structure Takes (engine : RuntimeEngine T) (contextId : Nat) (command : Dispatch T)
    (after : RuntimeEngine T) : Prop where
  own : command.contextId = contextId
  split : ∃ front back, engine.queue = front ++ command :: back ∧ after.queue = front ++ back ∧
    ∀ other ∈ front, other.contextId ≠ contextId
  runtimes : after.runtimes = engine.runtimes
  contexts : after.contexts = engine.contexts
  instances : after.instances = engine.instances
  stopped : after.stopped = engine.stopped

theorem take_eq_none : engine.take contextId = none ↔
    ∀ command ∈ engine.queue, command.contextId ≠ contextId := by
  rw [take, Option.bind_eq_bind]
  constructor
  · intro none_ command member own
    have listed : (engine.queue.findIdx? (·.contextId = contextId)).isSome := by
      rw [List.findIdx?_isSome, List.any_eq_true]
      exact ⟨command, member, decide_eq_true own⟩
    obtain ⟨position, found⟩ := Option.isSome_iff_exists.mp listed
    obtain ⟨inside, -⟩ := List.findIdx?_eq_some_iff_getElem.mp found
    rw [found, Option.bind_some, List.getElem?_eq_getElem inside] at none_
    cases none_
  · intro others
    rw [List.findIdx?_eq_none_iff.mpr fun command member =>
      decide_eq_false (others command member)]
    rfl

theorem takes_of_take (taken : engine.take contextId = some (command, after)) :
    engine.Takes contextId command after := by
  rw [take, Option.bind_eq_bind, Option.bind_eq_some_iff] at taken
  obtain ⟨position, found, taken⟩ := taken
  obtain ⟨inside, own, before⟩ := List.findIdx?_eq_some_iff_getElem.mp found
  rw [List.getElem?_eq_getElem inside] at taken
  cases taken
  refine ⟨of_decide_eq_true own, ⟨engine.queue.take position, engine.queue.drop (position + 1),
    ?_, ?_, ?_⟩, rfl, rfl, rfl, rfl⟩
  · rw [List.getElem_cons_drop, List.take_append_drop]
  · exact List.eraseIdx_eq_take_drop_succ engine.queue position
  · intro other member own
    obtain ⟨index, below, rfl⟩ := List.mem_iff_getElem.mp member
    rw [List.length_take] at below
    have earlier := before index (by omega)
    rw [List.getElem_take] at own
    simp [own] at earlier

/-- An engine that has commands is not stopped. -/
theorem Takes.running (takes : engine.Takes contextId command after) : ¬ engine.stopped := by
  intro stopped
  obtain ⟨front, back, queue, -⟩ := takes.split
  rw [engine.cleared stopped] at queue
  exact absurd queue.symm (by simp)

/-- While the engine runs, dispatched commands come to the end of the queue. -/
theorem sendAll_eq (running : ¬ engine.stopped) (commands : List (Dispatch T)) :
    ∃ cleared, engine.sendAll commands =
      { engine with queue := engine.queue ++ commands, cleared } := by
  induction commands generalizing engine with
  | nil =>
      refine ⟨fun stopped => absurd stopped running, ?_⟩
      simp [sendAll]
  | cons command rest ih =>
      obtain ⟨cleared, sent⟩ := @ih (engine.send (.dispatch command)).2 (by simp [send, running])
      refine ⟨fun stopped => absurd stopped running, ?_⟩
      have first : engine.sendAll (command :: rest) =
          (engine.send (.dispatch command)).2.sendAll rest := rfl
      rw [first, sent]
      simp [send, running]

end RuntimeEngine

namespace Flush

variable {flush : Flush T}

/-- What a call leaves. -/
structure Calls (flush : Flush T) (command : Dispatch T) (context : RuntimeContextState T)
    (handled : Handled T) (after : Flush T) : Prop where
  queue : after.engine.queue = flush.engine.queue ++ handled.dispatched
  runtimes : after.engine.runtimes =
    flush.engine.runtimes.insert command.runtimeId handled.runtime
  instances : after.engine.instances = handled.context.instances
  contexts : ∃ scopes : RuntimeScopes T.Scope,
    scopes.scopes = context.scopes.scopes.erase command.runtimeId ∧
    ∀ other, after.engine.contexts.lookup other =
      if other = command.contextId then
        some ⟨scopes.putScope command.runtimeId handled.context.scope, handled.context.eventBus,
          handled.context.lifecycle⟩
      else flush.engine.contexts.lookup other
  trace : after.trace = flush.trace ++ [⟨command, some handled⟩]

theorem calls_call (handle : Handler T) (command : Dispatch T) (runtime : T.Runtime)
    (context : RuntimeContextState T) (running : ¬ flush.engine.stopped) :
    ∃ handled, flush.Calls command context handled (flush.call handle command runtime context) := by
  generalize built : context.scopes.takeOrBuildScope T.noScope command.runtimeId = scope
  have erased : scope.2.scopes = context.scopes.scopes.erase command.runtimeId := by
    rw [← built, RuntimeScopes.takeOrBuildScope]
    split <;> rfl
  obtain ⟨scope, scopes⟩ := scope
  let handled := handle runtime command.action command.payload
    ⟨command.runtimeId, scope, flush.engine.instances, flush.resources, context.eventBus,
      context.lifecycle⟩ command.contextId
  let engine : RuntimeEngine T := { flush.engine with
    contexts := flush.engine.contexts.insert command.contextId ⟨scopes, T.noEventBus, []⟩
    instances := T.noInstances }
  have stillRunning : ¬ engine.stopped := running
  obtain ⟨cleared, sent⟩ := RuntimeEngine.sendAll_eq stillRunning handled.dispatched
  refine ⟨handled, ?_⟩
  rw [call, built]
  dsimp only
  rw [sent]
  dsimp only
  rw [AList.lookup_insert]
  refine ⟨rfl, rfl, rfl, ⟨scopes, erased, ?_⟩, rfl⟩
  intro other
  by_cases same : other = command.contextId
  · rw [same, if_pos rfl, AList.lookup_insert]
  · rw [if_neg same, AList.lookup_insert_ne same, AList.lookup_insert_ne same]

end Flush

/-- The ways in which a round ends. -/
inductive RoundEnds (contextId : Nat) (flush : Flush T) : Except CoreError Bool → Flush T → Prop
  | idle (none_ : flush.engine.take contextId = none) :
      RoundEnds contextId flush (.ok false) flush
  | unknown {command engine} (taken : flush.engine.Takes contextId command engine)
      (absent : flush.engine.runtimes.lookup command.runtimeId = none) :
      RoundEnds contextId flush (.ok true)
        { flush with engine, trace := flush.trace ++ [⟨command, none⟩] }
  | unregistered {command engine runtime} (taken : flush.engine.Takes contextId command engine)
      (known : flush.engine.runtimes.lookup command.runtimeId = some runtime)
      (absent : flush.engine.contexts.lookup contextId = none) :
      RoundEnds contextId flush (.error (unregistered contextId))
        { flush with engine :=
            { engine with runtimes := engine.runtimes.erase command.runtimeId } }
  | called {command engine runtime context handled final}
      (taken : flush.engine.Takes contextId command engine)
      (known : flush.engine.runtimes.lookup command.runtimeId = some runtime)
      (registered : flush.engine.contexts.lookup contextId = some context)
      (calls : Flush.Calls { flush with engine :=
          { engine with runtimes := engine.runtimes.erase command.runtimeId } }
        command context handled final) :
      RoundEnds contextId flush (.ok true) final

/-- A round always ends, in one of these ways. -/
theorem flushRound_ends (handle : Handler T) (contextId : Nat) (flush : Flush T) :
    ∃ result final, flushRound handle contextId flush = some (result, final) ∧
      RoundEnds contextId flush result final := by
  rw [flushRound]
  cases taken : flush.engine.take contextId with
  | none => exact ⟨_, _, rfl, .idle taken⟩
  | some pair =>
      obtain ⟨command, engine⟩ := pair
      have takes := RuntimeEngine.takes_of_take taken
      have running : ¬ engine.stopped := takes.stopped ▸ takes.running
      dsimp only
      rw [if_neg running]
      cases known : engine.runtimes.lookup command.runtimeId with
      | none => exact ⟨_, _, rfl, .unknown takes (takes.runtimes ▸ known)⟩
      | some runtime =>
          dsimp only
          rw [takes.runtimes] at known
          rw [takes.own]
          cases registered : engine.contexts.lookup contextId with
          | none =>
              exact ⟨_, _, rfl, .unregistered takes known (takes.contexts ▸ registered)⟩
          | some context =>
              let taken : Flush T := { flush with engine :=
                { engine with runtimes := engine.runtimes.erase command.runtimeId } }
              have stillRunning : ¬ taken.engine.stopped := running
              obtain ⟨handled, calls⟩ :=
                Flush.calls_call handle command runtime context stillRunning
              exact ⟨_, _, rfl, .called takes known (takes.contexts ▸ registered) calls⟩

/-- What a round ends in. -/
theorem roundEnds_of_ran {handle : Handler T} {contextId : Nat} {flush final : Flush T}
    {result : Except CoreError Bool}
    (ran : flushRound handle contextId flush = some (result, final)) :
    RoundEnds contextId flush result final := by
  obtain ⟨result', final', ran', ends⟩ := flushRound_ends handle contextId flush
  rw [ran] at ran'
  cases ran'
  exact ends

end Rind
