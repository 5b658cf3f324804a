import Rind.Core.Engine
import Mathlib.Logic.Function.Basic

/-!
# What the engine holds

Seen from outside, a command is handled in place: the runtime, the instances and what a
context has are as the last handler has left them.  A flush is meant to look like that
when it returns, in whatever way it does.
-/

namespace Rind

variable {T : EngineParts}

/-! ## Handling in place -/

/-- What the engine holds, by name. -/
@[ext] structure Holdings (T : EngineParts) where
  runtime : String → Option T.Runtime
  instances : T.Instances
  eventBus : Nat → Option T.EventBus
  lifecycle : Nat → Option (List LifecycleAction)
  scope : Nat → String → Option T.Scope

def RuntimeEngine.holdings (engine : RuntimeEngine T) : Holdings T where
  runtime id := engine.runtimes.lookup id
  instances := engine.instances
  eventBus contextId := (engine.contexts.lookup contextId).map (·.eventBus)
  lifecycle contextId := (engine.contexts.lookup contextId).map (·.lifecycle)
  scope contextId id := (engine.contexts.lookup contextId).bind (·.scopes.scopes.lookup id)

/-- A handler leaves its runtime, its scope and what it has shared, and nothing else has
changed. -/
def Holdings.leave (holdings : Holdings T) (turn : Turn T) : Holdings T :=
  let id := turn.command.runtimeId
  let contextId := turn.command.contextId
  match turn.handled with
  | none => holdings
  | some handled =>
      { runtime := Function.update holdings.runtime id (some handled.runtime)
        instances := handled.context.instances
        eventBus := Function.update holdings.eventBus contextId (some handled.context.eventBus)
        lifecycle := Function.update holdings.lifecycle contextId (some handled.context.lifecycle)
        scope := Function.update holdings.scope contextId
          (Function.update (holdings.scope contextId) id (some handled.context.scope)) }

/-- When a flush returns, every runtime and every context is still registered, and all
is in place as the handlers have left it. -/
structure KeepsAll (engine : RuntimeEngine T) (final : Flush T) : Prop where
  runtimes : ∀ id ∈ engine.runtimes, id ∈ final.engine.runtimes
  contexts : ∀ contextId ∈ engine.contexts, contextId ∈ final.engine.contexts
  inPlace : final.engine.holdings = final.trace.foldl Holdings.leave engine.holdings

/-! ## Rounds -/

section Rounds

variable {flush final : Flush T} {contextId : Nat} {command : Dispatch T}
  {after : RuntimeEngine T} {context : RuntimeContextState T} {handled : Handled T}

/-- To take a command out of the queue changes nothing that the engine holds. -/
theorem RuntimeEngine.Takes.holdings (takes : flush.engine.Takes contextId command after) :
    after.holdings = flush.engine.holdings := by
  simp only [RuntimeEngine.holdings, takes.runtimes, takes.contexts, takes.instances]

/-- A call of a runtime that is taken out is one in place. -/
theorem Flush.Calls.holdings
    (calls : Flush.Calls { flush with engine :=
      { after with runtimes := after.runtimes.erase command.runtimeId } }
      command context handled final)
    (registered : after.contexts.lookup command.contextId = some context) :
    final.engine.holdings = after.holdings.leave ⟨command, some handled⟩ := by
  obtain ⟨scopes, erased, contexts⟩ := calls.contexts
  ext1
  · funext id
    simp only [RuntimeEngine.holdings, Holdings.leave, calls.runtimes]
    by_cases same : id = command.runtimeId
    · rw [same, AList.lookup_insert, Function.update_self]
    · rw [AList.lookup_insert_ne same, AList.lookup_erase_ne same, Function.update_of_ne same]
  · exact calls.instances
  · funext other
    simp only [RuntimeEngine.holdings, Holdings.leave, contexts]
    by_cases same : other = command.contextId
    · rw [same, if_pos rfl, Function.update_self, Option.map_some]
    · rw [if_neg same, Function.update_of_ne same]
  · funext other
    simp only [RuntimeEngine.holdings, Holdings.leave, contexts]
    by_cases same : other = command.contextId
    · rw [same, if_pos rfl, Function.update_self, Option.map_some]
    · rw [if_neg same, Function.update_of_ne same]
  · funext other id
    simp only [RuntimeEngine.holdings, Holdings.leave, contexts]
    by_cases same : other = command.contextId
    · rw [same, if_pos rfl, Function.update_self, Option.bind_some, RuntimeScopes.putScope]
      by_cases named : id = command.runtimeId
      · rw [named, AList.lookup_insert, Function.update_self]
      · rw [AList.lookup_insert_ne named, erased, AList.lookup_erase_ne named,
          Function.update_of_ne named, registered, Option.bind_some]
    · rw [if_neg same, Function.update_of_ne same]

/-- The known runtimes and contexts are those that the engine holds. -/
theorem RuntimeEngine.mem_runtimes {engine : RuntimeEngine T} {id : String} :
    id ∈ engine.runtimes ↔ (engine.holdings.runtime id).isSome := AList.lookup_isSome.symm

theorem RuntimeEngine.mem_contexts {engine : RuntimeEngine T} {contextId : Nat} :
    contextId ∈ engine.contexts ↔ (engine.holdings.eventBus contextId).isSome := by
  rw [holdings, Option.isSome_map]
  exact AList.lookup_isSome.symm

/-- Nothing that is held by a name is lost when a handler leaves. -/
theorem Holdings.isSome_leave {holdings : Holdings T} {turn : Turn T} :
    (∀ id, (holdings.runtime id).isSome → ((holdings.leave turn).runtime id).isSome) ∧
      ∀ contextId, (holdings.eventBus contextId).isSome →
        ((holdings.leave turn).eventBus contextId).isSome := by
  obtain ⟨command, handled⟩ := turn
  cases handled with
  | none => exact ⟨fun _ held => held, fun _ held => held⟩
  | some handled =>
      constructor
      · intro id held
        by_cases same : id = command.runtimeId
        · simp [leave, same]
        · simpa [leave, Function.update_of_ne same] using held
      · intro contextId held
        by_cases same : contextId = command.contextId
        · simp [leave, same]
        · simpa [leave, Function.update_of_ne same] using held

end Rounds

section Run

variable {handle : Handler T} {contextId : Nat} {engine : RuntimeEngine T}
  {flush final : Flush T} {result : Except CoreError Bool}

theorem KeepsAll.start (engine : RuntimeEngine T) (resources : T.Resources) :
    KeepsAll engine (.start engine resources) where
  runtimes := fun _ known => known
  contexts := fun _ known => known
  inPlace := rfl

/-- A round that takes a command and finds what it needs keeps all. -/
theorem KeepsAll.leaves {turn : Turn T} (keeps : KeepsAll engine flush)
    (left : final.engine.holdings = flush.engine.holdings.leave turn)
    (trace : final.trace = flush.trace ++ [turn]) : KeepsAll engine final where
  runtimes := by
    intro id known
    rw [RuntimeEngine.mem_runtimes, left]
    exact Holdings.isSome_leave.1 id (RuntimeEngine.mem_runtimes.mp (keeps.runtimes id known))
  contexts := by
    intro contextId known
    rw [RuntimeEngine.mem_contexts, left]
    exact Holdings.isSome_leave.2 contextId
      (RuntimeEngine.mem_contexts.mp (keeps.contexts contextId known))
  inPlace := by
    rw [trace, List.foldl_append, List.foldl_cons, List.foldl_nil, ← keeps.inPlace, left]

/-- A round keeps all, unless it has taken a runtime out when it finds that its context
is not registered. -/
theorem KeepsAll.round (keeps : KeepsAll engine flush)
    (ends : RoundEnds contextId flush result final)
    (found : contextId ∈ flush.engine.contexts ∨
      ∀ command ∈ flush.engine.queue, command.contextId = contextId →
        command.runtimeId ∉ flush.engine.runtimes) : KeepsAll engine final := by
  cases ends with
  | idle none_ => exact keeps
  | unknown taken absent =>
      refine keeps.leaves ?_ rfl
      exact taken.holdings
  | called taken known registered calls =>
      rw [← taken.own, ← taken.contexts] at registered
      exact keeps.leaves ((calls.holdings registered).trans (taken.holdings ▸ rfl)) calls.trace
  | @unregistered command _ runtime taken known absent =>
      obtain ⟨front, back, queue, -⟩ := taken.split
      rcases found with registered | unknown
      · exact absurd registered (AList.lookup_eq_none.mp absent)
      · exact absurd (AList.lookup_isSome.mp (by rw [known]; rfl))
          (unknown command (by simp [queue]) taken.own)

/-- The queue has a command of a context for a known runtime. -/
def RuntimeEngine.Awaits (engine : RuntimeEngine T) (contextId : Nat) : Prop :=
  ∃ command ∈ engine.queue, command.contextId = contextId ∧ command.runtimeId ∈ engine.runtimes

/-- No runtime is taken out for a context that is not registered. -/
theorem notAwaits_of_round (idle : ¬ flush.engine.Awaits contextId)
    (ends : RoundEnds contextId flush (.ok true) final) : ¬ final.engine.Awaits contextId := by
  rintro ⟨command, queued, own, known⟩
  cases ends with
  | unknown taken absent =>
      obtain ⟨front, back, queue, rest, -⟩ := taken.split
      dsimp only at queued known
      rw [rest] at queued
      rw [taken.runtimes] at known
      refine idle ⟨command, ?_, own, known⟩
      rw [queue]
      exact List.mem_append.mpr ((List.mem_append.mp queued).imp_right (List.mem_cons_of_mem _))
  | @called command _ _ _ _ _ taken known_ registered calls =>
      obtain ⟨front, back, queue, -⟩ := taken.split
      exact idle ⟨command, by simp [queue], taken.own,
        AList.lookup_isSome.mp (by rw [known_]; rfl)⟩

/-- Without the context, the rounds skip commands for unknown runtimes until a known one
is taken out. -/
structure Doomed (engine : RuntimeEngine T) (contextId : Nat) (flush : Flush T) : Prop where
  runtimes : flush.engine.runtimes = engine.runtimes
  absent : flush.engine.contexts.lookup contextId = none
  awaits : flush.engine.Awaits contextId

theorem Doomed.round (doomed : Doomed engine contextId flush)
    (ends : RoundEnds contextId flush (.ok true) final) :
    Doomed engine contextId final ∧
      final.engine.queue.length < flush.engine.queue.length := by
  cases ends with
  | @unknown taken_ _ taken absent =>
      obtain ⟨front, back, queue, rest, -⟩ := taken.split
      obtain ⟨command, queued, own, known⟩ := doomed.awaits
      refine ⟨⟨taken.runtimes.trans doomed.runtimes, ?_, command, ?_, own, ?_⟩, ?_⟩
      · exact taken.contexts ▸ doomed.absent
      · have other : command ≠ taken_ := by
          rintro rfl
          exact AList.lookup_eq_none.mp absent known
        rw [queue] at queued
        dsimp only
        rw [rest]
        simpa [other] using queued
      · exact taken.runtimes ▸ known
      · dsimp only
        rw [queue, rest]
        simp
  | called taken known registered calls =>
      rw [doomed.absent] at registered
      cases registered

theorem Doomed.not_keepsAll (doomed : Doomed engine contextId flush)
    (ends : RoundEnds contextId flush result final) (last : result ≠ .ok true) :
    ¬ KeepsAll engine final := by
  intro keeps
  cases ends with
  | idle none_ =>
      obtain ⟨command, queued, own, -⟩ := doomed.awaits
      exact RuntimeEngine.take_eq_none.mp none_ command queued own
  | unknown taken absent => exact last rfl
  | called taken known registered calls => exact last rfl
  | @unregistered command after _ taken known absent =>
      have kept := keeps.runtimes command.runtimeId
        (AList.lookup_isSome.mp (by rw [← doomed.runtimes, known]; rfl))
      exact (AList.mem_erase.mp kept).1 rfl

end Run

/-- A flush that returns has put everything back, if its context is registered or no
command of the context is for a known runtime, and only then. -/
theorem flush_keepsAll_iff (handle : Handler T) (contextId : Nat) (engine : RuntimeEngine T)
    (resources : T.Resources) :
    (∀ rounds result final,
        flushContext handle contextId rounds (.start engine resources) = some (result, final) →
          KeepsAll engine final) ↔
      contextId ∈ engine.contexts ∨ ∀ command ∈ engine.queue, command.contextId = contextId →
        command.runtimeId ∉ engine.runtimes := by
  constructor
  · intro keeps
    by_contra doomed
    push Not at doomed
    obtain ⟨unregistered, command, queued, own, known⟩ := doomed
    have start : Doomed engine contextId (.start engine resources) :=
      ⟨rfl, AList.lookup_eq_none.mpr unregistered, command, queued, own, known⟩
    have halts := Prog.loop_halts (fun flush : Flush T => flush.engine.queue.length)
      (fun flush _ => by
        obtain ⟨result, final, ran, -⟩ := flushRound_ends handle contextId flush
        rw [ran]
        rfl)
      (fun flush next doomed ran => Doomed.round doomed (roundEnds_of_ran ran)) start
      (Nat.lt_succ_self _)
    obtain ⟨⟨result, final⟩, ran⟩ := Option.isSome_iff_exists.mp halts
    obtain ⟨last, doomed, ends⟩ := Prog.loop_ends
      (fun flush next doomed ran => (Doomed.round doomed (roundEnds_of_ran ran)).1) start ran
    have kept := keeps _ _ _ ran
    rcases ends with ⟨err, lastRan, -⟩ | ⟨lastRan, -⟩
    · exact doomed.not_keepsAll (roundEnds_of_ran lastRan) nofun kept
    · exact doomed.not_keepsAll (roundEnds_of_ran lastRan) nofun kept
  · intro found rounds result final ran
    let inv (flush : Flush T) : Prop :=
      KeepsAll engine flush ∧ (contextId ∈ engine.contexts ∨ ¬ flush.engine.Awaits contextId)
    have round : ∀ flush final result, inv flush → RoundEnds contextId flush result final →
        KeepsAll engine final := by
      rintro flush final result ⟨keeps, found⟩ ends
      refine keeps.round ends (found.imp (keeps.contexts contextId) fun idle => ?_)
      exact fun command queued own known => idle ⟨command, queued, own, known⟩
    have keeps : ∀ flush next, inv flush →
        flushRound handle contextId flush = some (.ok true, next) → inv next := by
      intro flush next holds ran
      have ends := roundEnds_of_ran ran
      exact ⟨round _ _ _ holds ends,
        holds.2.imp_right fun idle => notAwaits_of_round idle ends⟩
    have start : inv (.start engine resources) := by
      refine ⟨.start engine resources, found.imp_right ?_⟩
      rintro unknown ⟨command, queued, own, known⟩
      exact unknown command queued own known
    obtain ⟨last, holds, ends⟩ := Prog.loop_ends keeps start ran
    rcases ends with ⟨err, lastRan, -⟩ | ⟨lastRan, -⟩
    · exact round _ _ _ holds (roundEnds_of_ran lastRan)
    · exact round _ _ _ holds (roundEnds_of_ran lastRan)

/-- Runtimes, scopes and what else there is without any content. -/
def plainParts : EngineParts :=
  ⟨Unit, Unit, Unit, Unit, Unit, Unit, (), (), (), ()⟩

/-- A runtime that does nothing. -/
def idleHandler : Handler plainParts := fun runtime _ _ context _ =>
  ⟨runtime, context, [], .ok none⟩

/-- An engine with a command for a known runtime in a context that is not registered. -/
def strandedEngine : RuntimeEngine plainParts :=
  ((RuntimeEngine.start plainParts [("services", ())]).send
    (.dispatch ⟨"services", "stop_all", (), 0, none⟩)).2

/-- The runtime is taken out and dropped with the early return. -/
theorem not_flush_keepsAll_stranded :
    ¬ ∀ rounds result final,
      flushContext idleHandler 0 rounds (.start strandedEngine ()) = some (result, final) →
        KeepsAll strandedEngine final := by
  intro keeps
  have lost : ∀ result final,
      flushContext idleHandler 0 1 (.start strandedEngine ()) = some (result, final) →
        "services" ∉ final.engine.runtimes := by
    intro result final ran
    cases ran
    decide
  cases ran : flushContext idleHandler 0 1 (.start strandedEngine ()) with
  | none => cases ran
  | some outcome =>
      exact lost _ _ ran ((keeps 1 _ _ ran).runtimes "services" (by decide))

end Rind
