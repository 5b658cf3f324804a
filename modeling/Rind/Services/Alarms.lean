import Rind.Services.Timers

/-!
# Descriptors of timers

A timer has a descriptor of the kernel, which the event loop watches.  When it fires, the loop
queues that the timer of the descriptor's name has finished, behind whatever is queued already.
Timers and descriptors keep in step, but what is queued ahead may take the timer away, and start
another of the same name.  A timer that is stopped before the loop has watched its descriptor leaves
it open.
-/

namespace Rind

open Runs

/-! ## The source's runtime -/

/-- `RuntimePayload`, as far as the event loop and the timers use it. -/
structure NamePayload (P : Type) where
  ofFd : RawFd → P
  insertName : Ustr → P → P
  getName : P → Option Ustr
  getName_insertName : ∀ name payload, getName (insertName name payload) = some name

section UninstantiateOne

variable {ι : Type} [DecidableEq ι] {V : ι → Type} {M : Type} [NamedItem M]

/-- `uninstantiate_one` -/
def InstanceMap.uninstantiateOne (registry : MetadataRegistry M) (type : ι) (metadata name : Ustr)
    (map : InstanceMap V) : Except CoreError (V type) × InstanceMap V :=
  match map.uninstantiate registry type metadata name with
  | (.error error, map) => (.error error, map)
  | (.ok values, map) =>
      match values.getLast? with
      | some last => (.ok last, map)
      | none => (.error .unknown, map)

omit [NamedItem M] in
theorem InstanceMap.mem_view {type : ι} {name : Ustr} {value : V type} {map : InstanceMap V} :
    value ∈ map.view type name ↔ ⟨type, value⟩ ∈ map.entry name := by
  rw [view, List.mem_filterMap]
  constructor
  · rintro ⟨box, member, unboxed⟩
    rw [← Boxed.downcast_eq_some.mp unboxed]
    exact member
  · intro member
    exact ⟨_, member, Boxed.downcast_self type value⟩

end UninstantiateOne

section Runtime

variable {P : Type} (payload : NamePayload P) (registry : MetadataRegistry TimerDefinition)

/-- The timer of a name is taken out of the instances. -/
def uninstantiateTimer (name : Ustr) (instances : InstanceMap TimerKind.Value) :
    Except CoreError Timer × InstanceMap TimerKind.Value :=
  instances.uninstantiateOne registry TimerKind.timer "*" name

/-- `TimerRuntime::stop` -/
def TimerRuntime.stop (name : Ustr) (system : TimerSystem P) :
    Except CoreError Unit × TimerSystem P :=
  match uninstantiateTimer registry name system.instances with
  | (.error error, instances) => (.error error, { system with instances })
  | (.ok timer, instances) => (.ok (), ⟨instances, system.resources.terminate timer.fd⟩)

/-- `TimerRuntime::finish_timer`, with the timer whose triggers are set off. Nothing happens where
the facets and variables are not at hand. -/
def TimerRuntime.finishTimer (name : Ustr) (atHand : Bool) (system : TimerSystem P) :
    Option Timer × TimerSystem P :=
  if atHand then
    match uninstantiateTimer registry name system.instances with
    | (.error _, instances) => (none, { system with instances })
    | (.ok timer, instances) => (some timer, ⟨instances, system.resources.terminate timer.fd⟩)
  else (none, system)

/-- The actions of the runtime that the engine has queued. -/
inductive TimerAction where
  | start (name : Ustr)
  | stop (name : Ustr)
  | finish (name : Ustr)
  deriving DecidableEq

/-- An action that takes the timer of a key away. -/
def TimerAction.Ends (key : Ustr) : TimerAction → Prop
  | .start _ => False
  | .stop name | .finish name => registry.instanceKey "*" name = key

/-- What the event loop dispatches for a descriptor that has fired. -/
def fired (fd : RawFd) (resources : Resources P) : Option TimerAction :=
  match resources.actions.lookup fd with
  | none => none
  | some act =>
      if act.runtime = "timer" ∧ act.action = "finish_timer" then
        (payload.getName ((act.payload.getD id) (payload.ofFd fd))).map .finish
      else none

/-- The runtime handles an action. A start that panics is the end of the daemon; the facets and
variables are at hand once it has booted. -/
def TimerSystem.handle (now : Nat) (fds : TimerFds) (system : TimerSystem P) :
    TimerAction → TimerSystem P
  | .start name =>
      let started := TimerRuntime.start payload.insertName now fds registry name system
      (started.map Prod.snd).getD system
  | .stop name => (TimerRuntime.stop registry name system).2
  | .finish name => (TimerRuntime.finishTimer registry name true system).2

/-- The timers, and what is queued for their runtime. -/
structure Alarms (P : Type) where
  timers : TimerSystem P
  queue : List TimerAction

/-- A dispatch from anywhere, a descriptor that fires, the handling of what is queued first, or a
pass of the event loop. -/
inductive AlarmStep (P : Type) where
  | dispatch (action : TimerAction)
  | fire (fd : RawFd)
  | handle (now : Nat) (fds : TimerFds)
  | pass (accepts : RawFd → EpollFlags → Bool)

def Alarms.step (alarms : Alarms P) : AlarmStep P → Alarms P
  | .dispatch action => { alarms with queue := alarms.queue ++ [action] }
  | .fire fd =>
      { alarms with queue := alarms.queue ++ (fired payload fd alarms.timers.resources).toList }
  | .handle now fds =>
      match alarms.queue with
      | [] => alarms
      | action :: rest => ⟨alarms.timers.handle payload registry now fds action, rest⟩
  | .pass accepts =>
      { alarms with timers.resources := alarms.timers.resources.pass accepts }

def AlarmStep.isHandle : AlarmStep P → Bool
  | .handle .. => true
  | _ => false

def AlarmStep.isPass : AlarmStep P → Bool
  | .pass _ => true
  | _ => false

/-- The kernel makes no descriptor with the number of one that is open. -/
def AlarmStep.Fresh (alarms : Alarms P) : AlarmStep P → Prop
  | .handle _ fds => ∀ fd, fds.create = .ok fd → fd ∉ alarms.timers.resources.fd
  | _ => True

end Runtime

/-! ## The state of a descriptor -/

section States

variable {P : Type}

namespace FdEntry

/-- A descriptor that is in no table. -/
def blank (P : Type) : FdEntry P := ⟨none, none, none, false, false, false, false⟩

/-- The descriptor of a timer, which the loop watches or is about to watch. -/
def armed (act : ResourceAction P) (fd : RawFd) (watched : Bool) : FdEntry P :=
  ⟨some act, some (.timer fd), none, !watched, watched, false, false⟩

/-- A descriptor without a timer, which the next pass of the loop closes, or which is left open. -/
def spent (fd : RawFd) (removed : Bool) : FdEntry P :=
  ⟨none, some (.timer fd), none, false, false, removed, false⟩

theorem terminate_armed (act : ResourceAction P) (fd : RawFd) (watched : Bool) :
    (armed act fd watched).terminate = spent fd watched := by
  cases watched <;> rfl

theorem pass_armed (act : ResourceAction P) (fd : RawFd) (watched : Bool)
    (accepts : EpollFlags → Bool) :
    (armed act fd watched).pass accepts = armed act fd (watched || accepts epollIn) := by
  cases watched with
  | true => rfl
  | false => cases accepted : accepts epollIn <;> simp [armed, pass, addUnwatched, watch, accepted]

theorem pass_spent (fd : RawFd) (removed : Bool) (accepts : EpollFlags → Bool) :
    (spent fd removed : FdEntry P).pass accepts = if removed then blank P else spent fd false := by
  cases removed <;> rfl

theorem pass_blank (accepts : EpollFlags → Bool) : (blank P).pass accepts = blank P := rfl

end FdEntry

end States

/-! ## Steps -/

namespace TimerSystem

variable {P : Type} {payload : NamePayload P} {registry : MetadataRegistry TimerDefinition}

/-- A timer is kept under a key. -/
def Holds (system : TimerSystem P) (key : Ustr) (timer : Timer) : Prop :=
  ⟨.timer, timer⟩ ∈ system.instances.entry key

/-- Timers and descriptors in step: a timer is alone under its key, with a descriptor of its own
that names it, and each other descriptor is closed or without any use. -/
structure Armed (payload : NamePayload P) (registry : MetadataRegistry TimerDefinition)
    (system : TimerSystem P) : Prop where
  alone : ∀ key timer, system.Holds key timer → system.instances.entry key = [⟨.timer, timer⟩]
  armed : ∀ key timer, system.Holds key timer → ∃ name watched,
    registry.instanceKey "*" name = key ∧ system.resources.entry timer.fd =
      .armed (finishAction payload.insertName name) timer.fd watched
  own : ∀ key other timer timer', system.Holds key timer → system.Holds other timer' →
    timer.fd = timer'.fd → key = other
  idle : ∀ fd, (∀ key timer, system.Holds key timer → timer.fd ≠ fd) →
    system.resources.entry fd = .blank P ∨ ∃ removed, system.resources.entry fd = .spent fd removed

variable {system after : TimerSystem P} {name key : Ustr}

/-! ### What the operations do -/

variable (registry) in
theorem entry_uninstantiateTimer (name : Ustr) (instances : InstanceMap TimerKind.Value)
    (other : Ustr) : (uninstantiateTimer registry name instances).2.entry other =
      if other = registry.instanceKey "*" name then [] else instances.entry other := by
  have taken : (uninstantiateTimer registry name instances).2 =
      (instances.uninstantiate registry TimerKind.timer "*" name).2 := by
    rw [uninstantiateTimer, InstanceMap.uninstantiateOne]
    split
    · rename_i ran
      rw [ran]
    · rename_i values map ran
      rw [ran]
      cases values.getLast? <;> rfl
  rw [taken, InstanceMap.uninstantiate]
  by_cases same : other = registry.instanceKey "*" name
  · rw [if_pos same, same]
    split
    · rename_i absent
      rw [InstanceMap.entry, absent]
      rfl
    · rw [InstanceMap.entry, AList.lookup_erase]
      rfl
  · rw [if_neg same]
    split
    · rfl
    · rw [InstanceMap.entry, AList.lookup_erase_ne same]
      rfl

variable (registry) in
/-- The timer of a name is what is taken out. -/
theorem uninstantiateTimer_spec (system : TimerSystem P) (name : Ustr) :
    match (uninstantiateTimer registry name system.instances).1 with
    | .ok timer => system.Holds (registry.instanceKey "*" name) timer
    | .error _ => ∀ timer, ¬ system.Holds (registry.instanceKey "*" name) timer := by
  have held (timer : Timer) : system.Holds (registry.instanceKey "*" name) timer ↔
      timer ∈ system.instances.view TimerKind.timer (registry.instanceKey "*" name) :=
    InstanceMap.mem_view.symm
  simp only [held, uninstantiateTimer, InstanceMap.uninstantiateOne, InstanceMap.uninstantiate,
    InstanceMap.view, InstanceMap.entry]
  cases listed : system.instances.lookup (registry.instanceKey "*" name) with
  | none => exact fun timer member => List.not_mem_nil member
  | some boxes =>
      dsimp only [Option.getD_some]
      cases last : (boxes.filterMap (Boxed.downcast TimerKind.timer)).getLast? with
      | none =>
          rw [List.getLast?_eq_none_iff] at last
          rw [last]
          exact fun timer member => List.not_mem_nil member
      | some timer => exact List.mem_of_getLast? last

/-- The timer under a key is taken away with its descriptor, or there is none. -/
inductive Takes (system : TimerSystem P) (key : Ustr) : Option Timer → TimerSystem P → Prop
  | absent {instances : InstanceMap TimerKind.Value} (free : ∀ timer, ¬ system.Holds key timer)
      (entries : ∀ other, instances.entry other =
        if other = key then [] else system.instances.entry other) :
      Takes system key none ⟨instances, system.resources⟩
  | taken {timer : Timer} {instances : InstanceMap TimerKind.Value} (held : system.Holds key timer)
      (entries : ∀ other, instances.entry other =
        if other = key then [] else system.instances.entry other) :
      Takes system key (some timer) ⟨instances, system.resources.terminate timer.fd⟩

variable (registry system) in
theorem stop_takes (name : Ustr) : ∃ timer, system.Takes (registry.instanceKey "*" name) timer
      (TimerRuntime.stop registry name system).2 := by
  have spec := uninstantiateTimer_spec registry system name
  have entries := entry_uninstantiateTimer registry name system.instances
  rw [TimerRuntime.stop]
  generalize uninstantiateTimer registry name system.instances = result at spec entries ⊢
  obtain ⟨outcome, instances⟩ := result
  cases outcome with
  | error error => exact ⟨none, .absent spec entries⟩
  | ok timer => exact ⟨some timer, .taken spec entries⟩

theorem finishTimer_takes (name : Ustr) :
    system.Takes (registry.instanceKey "*" name)
      (TimerRuntime.finishTimer registry name true system).1
      (TimerRuntime.finishTimer registry name true system).2 := by
  have spec := uninstantiateTimer_spec registry system name
  have entries := entry_uninstantiateTimer registry name system.instances
  rw [TimerRuntime.finishTimer, if_pos rfl]
  generalize uninstantiateTimer registry name system.instances = result at spec entries ⊢
  obtain ⟨outcome, instances⟩ := result
  cases outcome with
  | error error => exact .absent spec entries
  | ok timer => exact .taken spec entries

/-- A timer that is made owns a descriptor that the kernel has created. -/
theorem instantiateTimer_cases (now : Nat) (fds : TimerFds) (metadata : TimerDefinition)
    (resources : Resources P) :
    instantiateTimer now fds metadata resources = none ∨
      (∃ error, instantiateTimer now fds metadata resources = some (.error error, resources)) ∨
      ∃ timer, fds.create = .ok timer.fd ∧ instantiateTimer now fds metadata resources =
        some (.ok timer, resources.own timer.fd (.timer timer.fd)) := by
  rw [instantiateTimer]
  rcases parseDuration metadata.duration with _ | _ | duration
  · exact .inl rfl
  · exact .inr (.inl ⟨_, rfl⟩)
  · cases fds.create with
    | error error => exact .inr (.inl ⟨error, rfl⟩)
    | ok fd =>
        dsimp only
        cases fds.set (timeSpec duration) with
        | error error => exact .inr (.inl ⟨error, rfl⟩)
        | ok done =>
            dsimp only
            cases deadlineOf now duration with
            | none => exact .inl rfl
            | some deadline => exact .inr (.inr ⟨⟨metadata, deadline, fd⟩, rfl, rfl⟩)

/-- A start makes a timer with a new descriptor, or leaves all timers. -/
inductive Starts (payload : NamePayload P) (registry : MetadataRegistry TimerDefinition)
    (fds : TimerFds) (name : Ustr) (system : TimerSystem P) : TimerSystem P → Prop
  | same {instances : InstanceMap TimerKind.Value}
      (entries : ∀ other, instances.entry other = system.instances.entry other) :
      Starts payload registry fds name system ⟨instances, system.resources⟩
  | made {timer : Timer} {instances : InstanceMap TimerKind.Value}
      (created : fds.create = .ok timer.fd)
      (free : system.instances.entry (registry.instanceKey "*" name) = [])
      (entries : ∀ other, instances.entry other =
        if other = registry.instanceKey "*" name then [⟨.timer, timer⟩]
        else system.instances.entry other) :
      Starts payload registry fds name system ⟨instances,
        (system.resources.own timer.fd (.timer timer.fd)).action timer.fd
          (finishAction payload.insertName name)⟩

theorem start_starts (armed : system.Armed payload registry) (now : Nat) (fds : TimerFds)
    (name : Ustr) : Starts payload registry fds name system
      (system.handle payload registry now fds (.start name)) := by
  have unchanged : Starts payload registry fds name system system := .same fun _ => rfl
  rw [handle, TimerRuntime.start]
  cases one : system.instances.asOne registry TimerKind.timer "*" name with
  | ok timer => exact unchanged
  | error error =>
      dsimp only
      cases listed : system.instances.entry (registry.instanceKey "*" name) with
      | cons first rest =>
          dsimp only
          cases unboxed : (first.downcast TimerKind.timer : Option Timer) with
          | none => exact unchanged
          | some timer =>
              -- a timer that is listed is the only one, and would have been found
              rw [Boxed.downcast_eq_some.mp unboxed] at listed
              have held : (⟨.timer, timer⟩ : Boxed TimerKind.Value) ∈
                  system.instances.entry (registry.instanceKey "*" name) := by
                rw [listed]
                exact List.mem_cons_self
              rw [InstanceMap.asOne, armed.alone _ timer held] at one
              simp at one
      | nil =>
          dsimp only
          cases registry.instantiated "*" name with
          | none => exact unchanged
          | some metadata =>
              dsimp only
              have entries (boxes : List (Boxed TimerKind.Value)) (other : Ustr) :
                  InstanceMap.entry (system.instances.insert (registry.instanceKey "*" name) boxes)
                    other = if other = registry.instanceKey "*" name then boxes
                      else system.instances.entry other := by
                by_cases same : other = registry.instanceKey "*" name
                · rw [if_pos same, same, InstanceMap.entry, AList.lookup_insert, Option.getD_some]
                · rw [if_neg same, InstanceMap.entry, AList.lookup_insert_ne same]
                  rfl
              rcases instantiateTimer_cases now fds metadata system.resources with
                panics | ⟨error, failed⟩ | ⟨timer, created, made⟩
              · rw [panics]
                exact unchanged
              · rw [failed]
                refine .same fun other => ?_
                rw [entries]
                split
                · rename_i same
                  rw [same, listed]
                · rfl
              · rw [made]
                exact .made created listed (entries _)

/-! ### What they keep -/

theorem Takes.entry {timer : Option Timer} (takes : system.Takes key timer after) (other : Ustr) :
    after.instances.entry other = if other = key then [] else system.instances.entry other := by
  cases takes with
  | absent free entries => exact entries other
  | taken held entries => exact entries other

/-- All other timers stay. -/
theorem Takes.holds {timer : Option Timer} (takes : system.Takes key timer after) (other : Ustr)
    (timer' : Timer) : after.Holds other timer' ↔ other ≠ key ∧ system.Holds other timer' := by
  rw [Holds, takes.entry]
  by_cases same : other = key
  · simp [same]
  · simp [same, Holds]

theorem Takes.armed {timer : Option Timer} (armed : system.Armed payload registry)
    (takes : system.Takes key timer after) : after.Armed payload registry := by
  have holds := takes.holds
  refine ⟨?_, ?_, ?_, ?_⟩
  · intro other timer' held
    obtain ⟨apart, held⟩ := (holds other timer').mp held
    rw [takes.entry, if_neg apart]
    exact armed.alone other timer' held
  · intro other timer' held
    obtain ⟨apart, kept⟩ := (holds other timer').mp held
    obtain ⟨name, watched, named, state⟩ := armed.armed other timer' kept
    refine ⟨name, watched, named, ?_⟩
    cases takes with
    | absent free entries => exact state
    | @taken taken instances mine entries =>
        have elsewhere : timer'.fd ≠ taken.fd :=
          fun same => apart (armed.own _ _ _ _ kept mine same)
        rw [Resources.entry_terminate, if_neg elsewhere]
        exact state
  · intro first second timer₁ timer₂ held₁ held₂ same
    exact armed.own _ _ _ _ ((holds _ _).mp held₁).2 ((holds _ _).mp held₂).2 same
  · intro fd free
    cases takes with
    | absent none entries =>
        refine armed.idle fd fun other timer' held => free other timer' ((holds _ _).mpr ⟨?_, held⟩)
        rintro rfl
        exact none _ held
    | @taken taken instances mine entries =>
        rw [Resources.entry_terminate]
        by_cases same : fd = taken.fd
        · obtain ⟨name, watched, -, state⟩ := armed.armed _ _ mine
          rw [if_pos same, same, state, FdEntry.terminate_armed]
          exact .inr ⟨watched, rfl⟩
        · rw [if_neg same]
          refine armed.idle fd fun other timer' held => ?_
          by_cases here : other = key
          · have only := armed.alone _ _ mine
            rw [here, Holds, only, List.mem_singleton] at held
            cases held
            exact Ne.symm same
          · exact free other timer' ((holds _ _).mpr ⟨here, held⟩)

theorem Starts.armed {fds : TimerFds} (armed : system.Armed payload registry)
    (fresh : ∀ fd, fds.create = .ok fd → fd ∉ system.resources.fd)
    (starts : Starts payload registry fds name system after) : after.Armed payload registry := by
  cases starts with
  | @same instances entries =>
      have holds (other : Ustr) (timer : Timer) :
          (⟨instances, system.resources⟩ : TimerSystem P).Holds other timer ↔
            system.Holds other timer := by
        rw [Holds, Holds, entries]
      refine ⟨?_, ?_, ?_, ?_⟩
      · intro other timer held
        rw [entries]
        exact armed.alone other timer ((holds _ _).mp held)
      · exact fun other timer held => armed.armed other timer ((holds _ _).mp held)
      · intro first second timer₁ timer₂ held₁ held₂ same
        exact armed.own _ _ _ _ ((holds _ _).mp held₁) ((holds _ _).mp held₂) same
      · exact fun fd free => armed.idle fd fun other timer held =>
          free other timer ((holds _ _).mpr held)
  | @made timer instances created free entries =>
      -- the new descriptor was in no table
      have closed : (system.resources.entry timer.fd).handle = none :=
        AList.lookup_eq_none.mpr (fresh _ created)
      have unused (other : Ustr) (timer' : Timer) (held : system.Holds other timer') :
          timer'.fd ≠ timer.fd := by
        intro same
        obtain ⟨_, watched, -, state⟩ := armed.armed _ _ held
        rw [← same, state] at closed
        cases closed
      have blank : system.resources.entry timer.fd = .blank P := by
        rcases armed.idle timer.fd unused with blank | ⟨removed, spent⟩
        · exact blank
        · rw [spent] at closed
          cases closed
      have state (fd : RawFd) : ((system.resources.own timer.fd (.timer timer.fd)).action timer.fd
            (finishAction payload.insertName name)).entry fd =
          if fd = timer.fd then .armed (finishAction payload.insertName name) timer.fd false
          else system.resources.entry fd := by
        have owned :
            (resourceStep system.resources (.own timer.fd (.timer timer.fd))).entry fd = _ :=
          Resources.entry_step _
        rw [resourceStep, FdEntry.step] at owned
        rw [Resources.entry_action, owned]
        by_cases same : fd = timer.fd
        · simp only [if_pos same]
          rw [same, blank]
          rfl
        · simp only [if_neg same]
      have holds (other : Ustr) (timer' : Timer)
          (held : ⟨.timer, timer'⟩ ∈ instances.entry other) :
          other = registry.instanceKey "*" name ∧ timer' = timer ∨
            other ≠ registry.instanceKey "*" name ∧ system.Holds other timer' := by
        rw [entries] at held
        by_cases same : other = registry.instanceKey "*" name
        · rw [if_pos same, List.mem_singleton] at held
          cases held
          exact .inl ⟨same, rfl⟩
        · rw [if_neg same] at held
          exact .inr ⟨same, held⟩
      refine ⟨?_, ?_, ?_, ?_⟩
      · intro other timer' held
        dsimp only
        rw [entries]
        rcases holds other timer' held with ⟨same, rfl⟩ | ⟨apart, held⟩
        · rw [if_pos same]
        · rw [if_neg apart]
          exact armed.alone other timer' held
      · intro other timer' held
        dsimp only
        rw [state]
        rcases holds other timer' held with ⟨same, rfl⟩ | ⟨apart, held⟩
        · rw [if_pos rfl]
          exact ⟨name, false, same.symm, rfl⟩
        · rw [if_neg (unused other timer' held)]
          exact armed.armed other timer' held
      · intro first second timer₁ timer₂ held₁ held₂ same
        rcases holds first timer₁ held₁ with ⟨named₁, new₁⟩ | ⟨apart₁, kept₁⟩ <;>
          rcases holds second timer₂ held₂ with ⟨named₂, new₂⟩ | ⟨apart₂, kept₂⟩
        · rw [named₁, named₂]
        · exact absurd (new₁ ▸ same.symm) (unused _ _ kept₂)
        · exact absurd (new₂ ▸ same) (unused _ _ kept₁)
        · exact armed.own _ _ _ _ kept₁ kept₂ same
      · intro fd others
        dsimp only
        have apart : fd ≠ timer.fd := by
          refine Ne.symm (others (registry.instanceKey "*" name) timer ?_)
          rw [Holds, entries, if_pos rfl]
          exact List.mem_singleton_self _
        rw [state, if_neg apart]
        refine armed.idle fd fun other timer' held => others other timer' ?_
        rw [Holds, entries, if_neg]
        · exact held
        · rintro rfl
          rw [Holds, free] at held
          cases held

theorem pass_armed (armed : system.Armed payload registry)
    (accepts : RawFd → EpollFlags → Bool) :
    Armed payload registry { system with resources := system.resources.pass accepts } := by
  refine ⟨armed.alone, ?_, armed.own, ?_⟩
  · intro other timer held
    obtain ⟨name, watched, named, state⟩ := armed.armed other timer held
    refine ⟨name, watched || accepts timer.fd epollIn, named, ?_⟩
    dsimp only
    rw [Resources.entry_pass, state, FdEntry.pass_armed]
  · intro fd free
    dsimp only
    rw [Resources.entry_pass]
    rcases armed.idle fd free with blank | ⟨removed, spent⟩
    · rw [blank, FdEntry.pass_blank]
      exact .inl rfl
    · rw [spent, FdEntry.pass_spent]
      cases removed with
      | true => exact .inl rfl
      | false => exact .inr ⟨false, rfl⟩

theorem handle_armed (armed : system.Armed payload registry) {now : Nat} {fds : TimerFds}
    (fresh : ∀ fd, fds.create = .ok fd → fd ∉ system.resources.fd) (action : TimerAction) :
    (system.handle payload registry now fds action).Armed payload registry := by
  cases action with
  | start name => exact (start_starts armed now fds name).armed armed fresh
  | stop name =>
      obtain ⟨timer, takes⟩ := stop_takes registry system name
      exact takes.armed armed
  | finish name => exact (finishTimer_takes name).armed armed

theorem armed_empty : Armed payload registry ⟨∅, .empty P⟩ := by
  have none (key : Ustr) (timer : Timer) : ¬ (⟨∅, .empty P⟩ : TimerSystem P).Holds key timer := by
    rw [Holds, InstanceMap.entry, AList.lookup_empty]
    exact List.not_mem_nil
  exact ⟨fun key timer held => absurd held (none key timer),
    fun key timer held => absurd held (none key timer),
    fun key _ timer _ held => absurd held (none key timer), fun fd _ => .inl rfl⟩

/-- The descriptor of a timer is queued under the timer's name. -/
theorem Armed.fired (armed : system.Armed payload registry) {timer : Timer}
    (held : system.Holds key timer) : ∃ name, registry.instanceKey "*" name = key ∧
      fired payload timer.fd system.resources = some (.finish name) := by
  obtain ⟨name, watched, named, state⟩ := armed.armed key timer held
  have acts : system.resources.actions.lookup timer.fd =
      some (finishAction payload.insertName name) := congrArg FdEntry.action state
  refine ⟨name, named, ?_⟩
  rw [Rind.fired, acts]
  dsimp only [finishAction, Option.getD_some]
  rw [if_pos ⟨rfl, rfl⟩, payload.getName_insertName]
  rfl

theorem Armed.only (armed : system.Armed payload registry) {timer timer' : Timer}
    (held : system.Holds key timer) (held' : system.Holds key timer') : timer = timer' := by
  rw [Holds, armed.alone key timer held, List.mem_singleton] at held'
  cases held'
  rfl

/-- Timers and descriptors belong together: each timer has one that is open, that the next pass
watches and that fires under its name, and nothing else fires. -/
structure Paired (payload : NamePayload P) (registry : MetadataRegistry TimerDefinition)
    (system : TimerSystem P) : Prop where
  opened : ∀ key timer, system.Holds key timer →
    system.resources.fd.lookup timer.fd = some (.timer timer.fd)
  own : ∀ key other timer timer', system.Holds key timer → system.Holds other timer' →
    timer.fd = timer'.fd → key = other ∧ timer = timer'
  passes : ∀ key timer accepts, system.Holds key timer → accepts timer.fd epollIn = true →
    timer.fd ∈ (system.resources.pass accepts).watchedFds
  fires : ∀ key timer, system.Holds key timer → ∃ name, registry.instanceKey "*" name = key ∧
    fired payload timer.fd system.resources = some (.finish name)
  silent : ∀ fd, (∀ key timer, system.Holds key timer → timer.fd ≠ fd) →
    fired payload fd system.resources = none ∧ fd ∉ system.resources.watchedFds

theorem Armed.paired (armed : system.Armed payload registry) : system.Paired payload registry := by
  refine ⟨?_, ?_, ?_, fun key timer held => armed.fired held, ?_⟩
  · intro key timer held
    obtain ⟨name, watched, -, state⟩ := armed.armed key timer held
    exact congrArg FdEntry.handle state
  · intro key other timer timer' held held' same
    obtain rfl := armed.own key other timer timer' held held' same
    exact ⟨rfl, armed.only held held'⟩
  · intro key timer accepts held accepted
    obtain ⟨name, watched, -, state⟩ := armed.armed key timer held
    have passed : ((system.resources.pass accepts).entry timer.fd).watched = true := by
      rw [Resources.entry_pass, state, FdEntry.pass_armed, accepted, Bool.or_true]
      rfl
    exact of_decide_eq_true passed
  · intro fd free
    have quiet : (system.resources.entry fd).action = none ∧
        (system.resources.entry fd).watched = false := by
      rcases armed.idle fd free with blank | ⟨removed, spent⟩
      · rw [blank]
        exact ⟨rfl, rfl⟩
      · rw [spent]
        exact ⟨rfl, rfl⟩
    have acts : system.resources.actions.lookup fd = none := quiet.1
    refine ⟨?_, of_decide_eq_false quiet.2⟩
    rw [Rind.fired, acts]

/-! ### Descriptors without a timer -/

/-- A descriptor that no timer has and that is open, which the next pass closes or none does. -/
def Spends (system : TimerSystem P) (fd : RawFd) (removed : Bool) : Prop :=
  (∀ key timer, system.Holds key timer → timer.fd ≠ fd) ∧
    system.resources.entry fd = .spent fd removed

variable {fd : RawFd} {removed : Bool}

/-- What becomes of the descriptor of a timer that is taken. -/
theorem Takes.spends_own (armed : system.Armed payload registry) {taken : Option Timer}
    (takes : system.Takes key taken after) {timer : Timer} (held : system.Holds key timer) :
    after.Spends timer.fd (decide (timer.fd ∈ system.resources.watchedFds)) := by
  refine ⟨fun other timer' held' same => ?_, ?_⟩
  · obtain ⟨apart, kept⟩ := (takes.holds other timer').mp held'
    exact apart (armed.own _ _ _ _ kept held same)
  · obtain ⟨_, watched, -, state⟩ := armed.armed _ _ held
    have marked : decide (timer.fd ∈ system.resources.watchedFds) = watched :=
      congrArg FdEntry.watched state
    cases takes with
    | absent free entries => exact absurd held (free timer)
    | taken mine entries =>
        rw [armed.only mine held, Resources.entry_terminate, if_pos rfl, state,
          FdEntry.terminate_armed, marked]

theorem Takes.spends {timer : Option Timer} (takes : system.Takes key timer after)
    (spends : system.Spends fd removed) : after.Spends fd removed := by
  refine ⟨fun other timer' held => spends.1 other timer' ((takes.holds _ _).mp held).2, ?_⟩
  cases takes with
  | absent free entries => exact spends.2
  | taken held entries =>
      rw [Resources.entry_terminate, if_neg (spends.1 _ _ held).symm]
      exact spends.2

theorem Starts.spends {fds : TimerFds}
    (fresh : ∀ fd, fds.create = .ok fd → fd ∉ system.resources.fd)
    (starts : Starts payload registry fds name system after) (spends : system.Spends fd removed) :
    after.Spends fd removed := by
  obtain ⟨unused, spent⟩ := spends
  cases starts with
  | same entries =>
      refine ⟨fun other timer held => unused other timer ?_, spent⟩
      rw [Holds, ← entries]
      exact held
  | @made timer instances created free entries =>
      have opened : system.resources.fd.lookup fd = some (.timer fd) :=
        congrArg FdEntry.handle spent
      have apart : fd ≠ timer.fd := by
        rintro rfl
        refine fresh _ created (AList.lookup_isSome.mp ?_)
        rw [opened]
        rfl
      refine ⟨fun other timer' held => ?_, ?_⟩
      · rw [Holds, entries] at held
        split at held
        · rw [List.mem_singleton] at held
          cases held
          exact apart.symm
        · exact unused other timer' held
      · have owned :
            (resourceStep system.resources (.own timer.fd (.timer timer.fd))).entry fd = _ :=
          Resources.entry_step _
        rw [FdEntry.step, if_neg apart] at owned
        rw [Resources.entry_action, if_neg apart, ← spent]
        exact owned

theorem handle_spends (armed : system.Armed payload registry) {now : Nat} {fds : TimerFds}
    (fresh : ∀ fd, fds.create = .ok fd → fd ∉ system.resources.fd)
    (spends : system.Spends fd removed) (action : TimerAction) :
    (system.handle payload registry now fds action).Spends fd removed := by
  cases action with
  | start name => exact (start_starts armed now fds name).spends fresh spends
  | stop name =>
      obtain ⟨timer, takes⟩ := stop_takes registry system name
      exact takes.spends spends
  | finish name => exact (finishTimer_takes name).spends spends

/-- A timer that is there stays when another is started, and is not replaced. -/
theorem Starts.holds {fds : TimerFds} (starts : Starts payload registry fds name system after)
    {timer : Timer} (held : system.Holds key timer) : after.Holds key timer := by
  cases starts with
  | same entries =>
      rw [Holds, entries]
      exact held
  | made created free entries =>
      rw [Holds, entries, if_neg]
      · exact held
      · rintro rfl
        rw [Holds, free] at held
        cases held

theorem handle_ends {action : TimerAction} (ends : action.Ends registry key) (now : Nat)
    (fds : TimerFds) : ∃ timer, system.Takes key timer
      (system.handle payload registry now fds action) := by
  cases action with
  | start name => exact ends.elim
  | stop name =>
      rw [← (show registry.instanceKey "*" name = key from ends)]
      exact stop_takes registry system name
  | finish name =>
      rw [← (show registry.instanceKey "*" name = key from ends)]
      exact ⟨_, finishTimer_takes name⟩

theorem handle_holds (armed : system.Armed payload registry) {action : TimerAction}
    (spared : ¬ action.Ends registry key) {timer : Timer} (held : system.Holds key timer)
    (now : Nat) (fds : TimerFds) :
    (system.handle payload registry now fds action).Holds key timer := by
  cases action with
  | start name => exact (start_starts armed now fds name).holds held
  | stop name =>
      obtain ⟨_, takes⟩ := stop_takes registry system name
      exact (takes.holds key timer).mpr ⟨Ne.symm spared, held⟩
  | finish name => exact ((finishTimer_takes name).holds key timer).mpr ⟨Ne.symm spared, held⟩

/-- A finish is of the timer that is there. -/
theorem finish_iff (armed : system.Armed payload registry) {name : Ustr} {timer : Timer} :
    (TimerRuntime.finishTimer registry name true system).1 = some timer ↔
      system.Holds (registry.instanceKey "*" name) timer := by
  have takes : system.Takes (registry.instanceKey "*" name) _ _ := finishTimer_takes name
  generalize (TimerRuntime.finishTimer registry name true system).1 = finished at takes
  generalize (TimerRuntime.finishTimer registry name true system).2 = after at takes
  cases takes with
  | absent free entries => exact iff_of_false nofun (free timer)
  | taken mine entries =>
      rw [Option.some_inj]
      exact ⟨fun same => same ▸ mine, fun held => armed.only mine held⟩

end TimerSystem

/-! ## Whole runs -/

namespace Alarms

variable {P : Type} {payload : NamePayload P} {registry : MetadataRegistry TimerDefinition}

section Whole

variable (payload registry)

/-- The timers after a run of the daemon. -/
def ran (labels : List (AlarmStep P)) : Alarms P :=
  Runs.run (Alarms.step payload registry) ⟨⟨∅, .empty P⟩, []⟩ labels

/-- In every step of a run the kernel makes a descriptor with a number that is free. -/
abbrev FreshFrom (alarms : Alarms P) (labels : List (AlarmStep P)) : Prop :=
  Along (Alarms.step payload registry) (fun alarms label => label.Fresh alarms) alarms labels

def FreshAlong (labels : List (AlarmStep P)) : Prop :=
  FreshFrom payload registry ⟨⟨∅, .empty P⟩, []⟩ labels

end Whole

variable {alarms : Alarms P} {labels : List (AlarmStep P)} {key name : Ustr} {timer : Timer}

theorem step_armed (armed : alarms.timers.Armed payload registry) {label : AlarmStep P}
    (fresh : label.Fresh alarms) :
    (alarms.step payload registry label).timers.Armed payload registry := by
  cases label with
  | dispatch action => exact armed
  | fire fd => exact armed
  | handle now fds =>
      rw [step]
      split
      · exact armed
      · exact TimerSystem.handle_armed armed fresh _
  | pass accepts => exact TimerSystem.pass_armed armed accepts

theorem armed_run (armed : alarms.timers.Armed payload registry)
    (fresh : FreshFrom payload registry alarms labels) :
    (Runs.run (Alarms.step payload registry) alarms labels).timers.Armed payload registry := by
  have keeps : ∀ (alarms : Alarms P) (label : AlarmStep P),
      alarms.timers.Armed payload registry → label.Fresh alarms →
        (alarms.step payload registry label).timers.Armed payload registry :=
    fun alarms label armed fresh => step_armed armed fresh
  exact fresh.invariant keeps armed

theorem armed_ran (fresh : FreshAlong payload registry labels) :
    (ran payload registry labels).timers.Armed payload registry :=
  armed_run TimerSystem.armed_empty fresh

/-- However timers start, stop and finish, each keeps a descriptor of its own, which is watched and
fires under its name. -/
theorem timers_paired (fresh : FreshAlong payload registry labels) :
    (ran payload registry labels).timers.Paired payload registry :=
  (armed_ran fresh).paired

/-- What is open without a timer stays open, unless the loop passes and closes it. -/
theorem step_spends {fd : RawFd} {removed : Bool} (armed : alarms.timers.Armed payload registry)
    {label : AlarmStep P} (fresh : label.Fresh alarms)
    (spared : removed = false ∨ label.isPass = false) (spends : alarms.timers.Spends fd removed) :
    (alarms.step payload registry label).timers.Spends fd removed := by
  cases label with
  | dispatch action => exact spends
  | fire fd => exact spends
  | handle now fds =>
      rw [step]
      split
      · exact spends
      · exact TimerSystem.handle_spends armed fresh spends _
  | pass accepts =>
      obtain rfl := spared.resolve_right nofun
      refine ⟨spends.1, (Resources.entry_pass accepts).trans ?_⟩
      rw [spends.2, FdEntry.pass_spent]
      rfl

theorem spends_run {fd : RawFd} {removed : Bool} (armed : alarms.timers.Armed payload registry)
    (fresh : FreshFrom payload registry alarms labels)
    (spared : removed = false ∨ ∀ label ∈ labels, label.isPass = false)
    (spends : alarms.timers.Spends fd removed) :
    (Runs.run (Alarms.step payload registry) alarms labels).timers.Spends fd removed := by
  induction labels generalizing alarms with
  | nil => exact spends
  | cons label rest ih =>
      refine ih (step_armed armed fresh.1) fresh.2 (spared.imp_right fun all => ?_)
        (step_spends armed fresh.1 (spared.imp_right fun all => all _ List.mem_cons_self) spends)
      exact fun label member => all label (List.mem_cons_of_mem _ member)

/-! ### From the descriptor to the finish -/

/-- The timer that is finished when what is queued first is handled. -/
def finishing (registry : MetadataRegistry TimerDefinition) (alarms : Alarms P) : Option Timer :=
  match alarms.queue with
  | .finish name :: _ => (TimerRuntime.finishTimer registry name true alarms.timers).1
  | _ => none

/-- A finish never is of a descriptor that no timer has. -/
theorem finishing_spends {removed : Bool} (armed : alarms.timers.Armed payload registry)
    (spends : alarms.timers.Spends timer.fd removed) : alarms.finishing registry ≠ some timer := by
  rw [finishing]
  split
  · intro finished
    exact spends.1 _ timer ((TimerSystem.finish_iff armed).mp finished) rfl
  · nofun

theorem finishing_iff {ahead : List TimerAction}
    (armed : alarms.timers.Armed payload registry)
    (queued : ∃ behind, alarms.queue = ahead ++ .finish name :: behind)
    (held : alarms.timers.Holds (registry.instanceKey "*" name) timer)
    (fresh : FreshFrom payload registry alarms labels)
    (noPass : ∀ label ∈ labels, label.isPass = false)
    (handled : labels.countP AlarmStep.isHandle = ahead.length) :
    (Runs.run (Alarms.step payload registry) alarms labels).finishing registry = some timer ↔
      ∀ action ∈ ahead, ¬ action.Ends registry (registry.instanceKey "*" name) := by
  induction labels generalizing alarms ahead with
  | nil =>
      obtain rfl := List.length_eq_zero_iff.mp handled.symm
      obtain ⟨behind, queue⟩ := queued
      rw [run_nil, finishing, queue]
      exact iff_of_true ((TimerSystem.finish_iff armed).mpr held) fun _ member =>
        absurd member List.not_mem_nil
  | cons label rest ih =>
      have restPass : ∀ label ∈ rest, label.isPass = false :=
        fun label member => noPass label (List.mem_cons_of_mem _ member)
      obtain ⟨behind, queue⟩ := queued
      rw [List.countP_cons] at handled
      rw [run_cons]
      cases label with
      | dispatch action =>
          refine ih armed ⟨behind ++ [action], ?_⟩ held fresh.2 restPass handled
          rw [step, queue, List.append_assoc, List.cons_append]
      | fire fd =>
          refine ih armed ⟨behind ++ (fired payload fd alarms.timers.resources).toList, ?_⟩ held
            fresh.2 restPass handled
          rw [step, queue, List.append_assoc, List.cons_append]
      | pass accepts => cases noPass _ List.mem_cons_self
      | handle now fds =>
          cases ahead with
          | nil => cases handled
          | cons action ahead =>
              have next : alarms.step payload registry (.handle now fds) =
                  ⟨alarms.timers.handle payload registry now fds action,
                    ahead ++ .finish name :: behind⟩ := by
                rw [step, queue]
                rfl
              have along := fresh.2
              have armed' := step_armed armed fresh.1
              rw [next] at along armed' ⊢
              have count : rest.countP AlarmStep.isHandle = ahead.length := Nat.succ.inj handled
              by_cases ends : action.Ends registry (registry.instanceKey "*" name)
              · obtain ⟨taken, takes⟩ := TimerSystem.handle_ends ends now fds
                have spends := takes.spends_own armed held
                refine iff_of_false ?_ fun all => all action List.mem_cons_self ends
                exact finishing_spends (armed_run armed' along)
                  (spends_run armed' along (.inr restPass) spends)
              · rw [List.forall_mem_cons, and_iff_right ends]
                exact ih armed' ⟨behind, rfl⟩
                  (TimerSystem.handle_holds armed ends held now fds) along restPass count

/-- A timer whose descriptor has fired is the one that is finished when its turn comes, exactly
where nothing that was queued before it ends the timer of its name. -/
theorem fired_finishes_iff {later : List (AlarmStep P)}
    (fresh : FreshAlong payload registry (labels ++ .fire timer.fd :: later))
    (held : (ran payload registry labels).timers.Holds key timer)
    (noPass : ∀ label ∈ later, label.isPass = false)
    (handled : later.countP AlarmStep.isHandle = (ran payload registry labels).queue.length) :
    (ran payload registry (labels ++ .fire timer.fd :: later)).finishing registry = some timer ↔
      ∀ action ∈ (ran payload registry labels).queue, ¬ action.Ends registry key := by
  obtain ⟨before, along⟩ := Along.append.mp fresh
  have armed := armed_ran before
  obtain ⟨name, rfl, fires⟩ := armed.fired held
  rw [ran, run_append, run_cons]
  refine finishing_iff (step_armed armed trivial) ⟨[], ?_⟩ held along.2 noPass handled
  exact congrArg (fun act => (ran payload registry labels).queue ++ act.toList) fires

/-! ### Descriptors that are left open -/

/-- A timer whose descriptor is not yet watched is ended: the descriptor stays open for good. -/
theorem ended_strands (fresh : FreshAlong payload registry labels)
    (held : (ran payload registry labels).timers.Holds key timer) {action : TimerAction}
    {rest : List TimerAction} (queue : (ran payload registry labels).queue = action :: rest)
    (ends : action.Ends registry key)
    (unwatched : timer.fd ∉ (ran payload registry labels).timers.resources.watchedFds) (now : Nat)
    (fds : TimerFds) {later : List (AlarmStep P)}
    (freshLater : FreshAlong payload registry (labels ++ .handle now fds :: later)) :
    (ran payload registry (labels ++ .handle now fds :: later)).timers.resources.fd.lookup
      timer.fd = some (.timer timer.fd) := by
  obtain ⟨taken, takes⟩ := TimerSystem.handle_ends ends now fds
  have armed := armed_ran fresh
  have spends := takes.spends_own armed held
  rw [decide_eq_false unwatched] at spends
  have handled : (ran payload registry labels).step payload registry (.handle now fds) =
      ⟨(ran payload registry labels).timers.handle payload registry now fds action, rest⟩ := by
    rw [step, queue]
  have along := (Along.append.mp freshLater).2
  have armed' := step_armed armed along.1
  have later' := along.2
  rw [← ran] at later'
  rw [handled] at armed' later'
  rw [ran, run_append, run_cons, ← ran, handled]
  exact congrArg FdEntry.handle (spends_run armed' later' (.inl rfl) spends).2

end Alarms

/-! ## Examples -/

section Examples

/-- Payloads that hold a name and nothing else. -/
def namePayloads : NamePayload (Option Ustr) where
  ofFd _ := none
  insertName name _ := some name
  getName := id
  getName_insertName _ _ := rfl

def tickTimers : MetadataRegistry TimerDefinition := .ofGroup "static" "app" [⟨⟨"tick"⟩, "5s"⟩]

def tickKey : Ustr := tickTimers.instanceKey "*" "app:tick"

/-- A timer starts. -/
def tickStarts : List (AlarmStep (Option Ustr)) :=
  [.dispatch (.start "app:tick"), .handle 0 acceptingFds]

/-- It starts and is watched. -/
def tickWatched : List (AlarmStep (Option Ustr)) := tickStarts ++ [.pass fun _ _ => true]

/-- A kernel whose next descriptor is the fourth. -/
def nextFds : TimerFds := { acceptingFds with create := .ok 4 }

namespace Alarms

/-- The timer that a run has made. -/
theorem exists_holds (labels : List (AlarmStep (Option Ustr)))
    (listed : ((ran namePayloads tickTimers labels).timers.instances.view TimerKind.timer
      tickKey).map Timer.fd = [3]) :
    ∃ timer, (ran namePayloads tickTimers labels).timers.Holds tickKey timer ∧ timer.fd = 3 := by
  have member : 3 ∈ ((ran namePayloads tickTimers labels).timers.instances.view TimerKind.timer
      tickKey).map Timer.fd := by
    rw [listed]
    exact List.mem_singleton_self 3
  obtain ⟨timer, held, fd⟩ := List.mem_map.mp member
  exact ⟨timer, InstanceMap.mem_view.mp held, fd⟩

theorem timers_paired_tick :
    3 ∈ (ran namePayloads tickTimers tickWatched).timers.resources.watchedFds ∧
      (ran namePayloads tickTimers tickWatched).timers.Paired namePayloads tickTimers :=
  ⟨by decide +kernel,
    timers_paired ⟨trivial, fun _ _ => AList.notMem_empty _, trivial, trivial⟩⟩

/-- A timer is stopped and started anew behind the back of its descriptor, which finishes the new
timer. -/
def tickAnew : List (AlarmStep (Option Ustr)) :=
  tickWatched ++ [.dispatch (.stop "app:tick"), .dispatch (.start "app:tick")]

theorem fired_finishes_anew : ∃ timer,
    (ran namePayloads tickTimers tickAnew).timers.Holds tickKey timer ∧ timer.fd = 3 ∧
      (ran namePayloads tickTimers (tickAnew ++ .fire 3 ::
        [.handle 4 nextFds, .handle 4 nextFds])).finishing tickTimers ≠ some timer ∧
      ((ran namePayloads tickTimers (tickAnew ++ .fire 3 ::
        [.handle 4 nextFds, .handle 4 nextFds])).finishing tickTimers).map Timer.fd = some 4 := by
  obtain ⟨timer, held, fd⟩ := exists_holds tickAnew (by decide +kernel)
  refine ⟨timer, held, fd, ?_, by decide +kernel⟩
  have fresh : FreshAlong namePayloads tickTimers (tickAnew ++ .fire 3 ::
      [.handle 4 nextFds, .handle 4 nextFds]) := by
    refine ⟨trivial, fun _ _ => AList.notMem_empty _, trivial, trivial, trivial, trivial, ?_, ?_,
      trivial⟩
    · rintro _ ⟨⟩
      decide +kernel
    · rintro _ ⟨⟩
      decide +kernel
  rw [← fd] at fresh ⊢
  rw [Ne, fired_finishes_iff fresh held (by decide +kernel) (by decide +kernel)]
  intro spared
  exact spared (.stop "app:tick") (by decide +kernel) rfl

theorem ended_strands_tick : (ran namePayloads tickTimers
    ((tickStarts ++ [.dispatch (.stop "app:tick")]) ++
      .handle 4 nextFds :: [.pass fun _ _ => true])).timers.resources.fd.lookup 3 =
        some (.timer 3) := by
  obtain ⟨timer, held, fd⟩ := exists_holds (tickStarts ++ [.dispatch (.stop "app:tick")])
    (by decide +kernel)
  have unwatched : 3 ∉ (ran namePayloads tickTimers
      (tickStarts ++ [.dispatch (.stop "app:tick")])).timers.resources.watchedFds := by
    decide +kernel
  have fresh : FreshAlong namePayloads tickTimers ((tickStarts ++ [.dispatch (.stop "app:tick")]) ++
      .handle 4 nextFds :: [.pass fun _ _ => true]) := by
    refine ⟨trivial, fun _ _ => AList.notMem_empty _, trivial, ?_, trivial, trivial⟩
    rintro _ ⟨⟩
    decide +kernel
  have before : FreshAlong namePayloads tickTimers (tickStarts ++ [.dispatch (.stop "app:tick")]) :=
    ⟨trivial, fun _ _ => AList.notMem_empty _, trivial, trivial⟩
  rw [← fd] at unwatched ⊢
  exact ended_strands before held rfl rfl unwatched _ _ fresh

end Alarms

end Examples

end Rind
