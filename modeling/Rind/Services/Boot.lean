import Rind.Prog.Retain
import Rind.Services.Launches
import Rind.Services.Requests

/-!
# Starting all services

At boot the services that are named in `rind:active` are started, each after those that it
comes after.  A service with start-on conditions is not started here, but counts as started
where it is found running.  What cannot be started is logged.
-/

namespace Rind

open Prog

/-- What `start_all` asks of the services: whether one is found running under a key, and the
action that starts one, which may not end. -/
structure BootRuntime (σ : Type) where
  running : Ustr → σ → Bool
  runtimeStart : Ustr → Prog σ CoreError Unit

/-- A service that waits for others. -/
structure WaitingService where
  name : Ustr
  afters : List Ustr
  metadata : ServiceMetadata

/-- The names that count as started, the services that wait, and what was logged as unresolved.
`handled` is a history variable: the names that were started or, with `false`, found running,
in their order. -/
structure BootState (σ : Type) where
  runtime : σ
  started : List Ustr
  pending : List WaitingService
  unresolved : Option (AList fun _ : String => String)
  handled : List (Ustr × Bool)

namespace BootState

variable {σ : Type}

/-- Nothing is started yet. -/
def begin (runtime : σ) : BootState σ := ⟨runtime, [], [], none, []⟩

/-- A service has had its turn. -/
def turned (name : Ustr) (called : Bool) (runtime : σ) (state : BootState σ) : BootState σ :=
  { state with runtime, handled := state.handled ++ [(name, called)] }

/-- The names that have had their turn. -/
def order (state : BootState σ) : List Ustr := state.handled.map Prod.fst

end BootState

/-- What is logged of the services that are left. -/
def unresolvedFields : List Ustr → Option (AList fun _ : String => String)
  | [] => none
  | names => some (AList.insert "unresolved" (", ".intercalate names) ∅)

namespace BootRuntime

variable {σ : Type} (runtime : BootRuntime σ)

def alreadyRunning (name : Ustr) (state : BootState σ) : Bool :=
  runtime.running (ensureScopedName name) state.runtime

/-- Call the action that starts a service. -/
def callStart (name : Ustr) : Prog (BootState σ) CoreError Unit := fun state =>
  (runtime.runtimeStart name state.runtime).map fun outcome =>
    (outcome.1, state.turned name true outcome.2)

/-- Start a service by a call, unless it is found running. -/
def startUnlessRunning (call : Ustr → Prog (BootState σ) CoreError Unit) (name : Ustr) :
    Prog (BootState σ) CoreError Unit := do
  let running ← Prog.read (runtime.alreadyRunning name)
  if running then Prog.change fun state => state.turned name false state.runtime
  else call name

/-- Let a name count as started. -/
def markStarted (name : Ustr) : Prog (BootState σ) CoreError Unit :=
  Prog.change fun state => { state with started := state.started.insert name }

/-- The first look at a service: with start-on conditions it is only looked for, with an
`after` list it waits, and otherwise it is started, and an error ends it all. -/
def enterService (service : Ustr × ServiceMetadata) : Prog (BootState σ) CoreError Unit :=
  if service.2.startOn.isSome then do
    let running ← Prog.read (runtime.alreadyRunning service.1)
    if running then
      Prog.change fun state => state.turned service.1 false state.runtime
      markStarted service.1
    else pure ()
  else
    match service.2.after with
    | some afters => Prog.change fun state =>
        { state with pending := state.pending ++ [⟨service.1, afters, service.2⟩] }
    | none => do
        runtime.startUnlessRunning runtime.callStart service.1
        markStarted service.1

/-- Start a service that waited, whatever comes of it. -/
def release (waiting : WaitingService) : Prog (BootState σ) CoreError Unit := do
  runtime.startUnlessRunning (fun name => Prog.attempt (runtime.callStart name)) waiting.name
  markStarted waiting.name

/-- Keep a service that waits for one that is not started, or else start it. -/
def keepWaiting (waiting : WaitingService) : Prog (BootState σ) CoreError Bool := do
  let started ← Prog.read BootState.started
  if waiting.metadata.startOn.isSome || !waiting.afters.all started.contains then pure true
  else do
    runtime.release waiting
    pure false

/-- `ServiceRuntime::start_all` for the services that are named and defined. -/
def startAll (limit : Nat) (services : List (Ustr × ServiceMetadata)) :
    Prog (BootState σ) CoreError Unit := do
  Prog.each services runtime.enterService
  let pending ← Prog.read BootState.pending
  let left ← Prog.settle runtime.keepWaiting limit pending
  Prog.change fun state =>
    { state with unresolved := unresolvedFields (left.map WaitingService.name) }

/-! ## Turns -/

/-- Services have their turns one after the other: each is found running, or is started. -/
inductive Turns (runtime : BootRuntime σ) : σ → List (Ustr × Bool) → σ → Prop where
  | nil (state : σ) : Turns runtime state [] state
  | found {name : Ustr} {state final : σ} {rest : List (Ustr × Bool)}
      (running : runtime.running (ensureScopedName name) state = true)
      (others : Turns runtime state rest final) : Turns runtime state ((name, false) :: rest) final
  | started {name : Ustr} {state after final : σ} {rest : List (Ustr × Bool)}
      {result : Except CoreError Unit}
      (stopped : runtime.running (ensureScopedName name) state = false)
      (ran : runtime.runtimeStart name state = some (result, after))
      (others : Turns runtime after rest final) : Turns runtime state ((name, true) :: rest) final

/-- The start of a service that is not running does not end. -/
def Hanging (runtime : BootRuntime σ) (name : Ustr) (state : σ) : Prop :=
  runtime.running (ensureScopedName name) state = false ∧ runtime.runtimeStart name state = none

/-- Some services have their turns, the last of which does not end. -/
def Endless (runtime : BootRuntime σ) (state : σ) (order : List Ustr) : Prop :=
  ∃ turns middle name, runtime.Turns state turns middle ∧ runtime.Hanging name middle ∧
    order = turns.map Prod.fst ++ [name]

/-- Services of these names have their turns from one state to another. -/
def Advances (runtime : BootRuntime σ) (names : List Ustr) (before after : BootState σ) : Prop :=
  ∃ turns, runtime.Turns before.runtime turns after.runtime ∧
    after.handled = before.handled ++ turns ∧ turns.map Prod.fst = names

end BootRuntime

namespace BootRuntime

variable {σ : Type} {runtime : BootRuntime σ}

theorem Turns.append {first second : List (Ustr × Bool)} {state middle final : σ}
    (earlier : runtime.Turns state first middle) (later : runtime.Turns middle second final) :
    runtime.Turns state (first ++ second) final := by
  induction earlier with
  | nil => exact later
  | found running _ ih => exact .found running (ih later)
  | started stopped ran _ ih => exact .started stopped ran (ih later)

theorem Advances.of_eq {before after : BootState σ} (same : after.runtime = before.runtime)
    (handled : after.handled = before.handled) : runtime.Advances [] before after := by
  refine ⟨[], ?_, ?_, rfl⟩
  · rw [same]
    exact .nil _
  · rw [handled, List.append_nil]

theorem Advances.trans {first second : List Ustr} {before middle after : BootState σ}
    (earlier : runtime.Advances first before middle)
    (later : runtime.Advances second middle after) :
    runtime.Advances (first ++ second) before after := by
  obtain ⟨turns, path, handled, rfl⟩ := earlier
  obtain ⟨turns', path', handled', rfl⟩ := later
  refine ⟨turns ++ turns', path.append path', ?_, List.map_append⟩
  rw [handled', handled, List.append_assoc]

/-- What is started in these turns is one of their names. -/
theorem Advances.mem_handled {names : List Ustr} {before after : BootState σ}
    (advances : runtime.Advances names before after) {turn : Ustr × Bool}
    (handled : turn ∈ after.handled) : turn ∈ before.handled ∨ turn.1 ∈ names := by
  obtain ⟨turns, -, same, rfl⟩ := advances
  rw [same, List.mem_append] at handled
  exact handled.imp_right List.mem_map_of_mem

theorem Advances.endless {names : List Ustr} {state : σ} {after : BootState σ} {name : Ustr}
    (advances : runtime.Advances names (BootState.begin state) after)
    (hanging : runtime.Hanging name after.runtime) : runtime.Endless state (names ++ [name]) := by
  obtain ⟨turns, path, -, rfl⟩ := advances
  exact ⟨turns, after.runtime, name, path, hanging, rfl⟩

/-- A service has its turn, in which the outcome of its start is made into a result. -/
theorem startUnlessRunning_cases (runtime : BootRuntime σ)
    (call : Ustr → Prog (BootState σ) CoreError Unit)
    (outcome : Except CoreError Unit → Except CoreError Unit) {name : Ustr} {state : BootState σ}
    (calls : call name state = (runtime.runtimeStart name state.runtime).map fun out =>
      (outcome out.1, state.turned name true out.2)) :
    (runtime.startUnlessRunning call name state = none ∧ runtime.Hanging name state.runtime) ∨
      ∃ result called after,
        runtime.startUnlessRunning call name state = some (result, state.turned name called after) ∧
        runtime.Turns state.runtime [(name, called)] after ∧
        (result = .ok () ∨ ∃ out, result = outcome out ∧
          runtime.runtimeStart name state.runtime = some (out, after)) := by
  rw [startUnlessRunning, run_read_bind, alreadyRunning]
  cases found : runtime.running (ensureScopedName name) state.runtime with
  | true => exact .inr ⟨.ok (), false, state.runtime, rfl, .found found (.nil _), .inl rfl⟩
  | false =>
      rw [if_neg Bool.false_ne_true, calls]
      cases ran : runtime.runtimeStart name state.runtime with
      | none => exact .inl ⟨rfl, found, ran⟩
      | some out =>
          exact .inr ⟨outcome out.1, true, out.2, rfl, .started found ran (.nil _), .inr ⟨_, rfl, rfl⟩⟩

theorem advances_turned {name : Ustr} {called : Bool} {state : BootState σ} {after : σ}
    (turn : runtime.Turns state.runtime [(name, called)] after) (started : List Ustr) :
    runtime.Advances [name] state { state.turned name called after with started := started } :=
  ⟨[(name, called)], turn, rfl, rfl⟩

/-- A service that waited has its turn, and counts as started. -/
theorem release_cases (runtime : BootRuntime σ) (waiting : WaitingService) (state : BootState σ) :
    (runtime.release waiting state = none ∧ runtime.Hanging waiting.name state.runtime) ∨
      ∃ after, runtime.release waiting state = some (.ok (), after) ∧
        runtime.Advances [waiting.name] state after ∧
        after.started = state.started.insert waiting.name := by
  have calls : Prog.attempt (runtime.callStart waiting.name) state =
      (runtime.runtimeStart waiting.name state.runtime).map fun out =>
        (.ok (), state.turned waiting.name true out.2) := by
    rw [attempt, callStart, Option.map_map]
    rfl
  rcases runtime.startUnlessRunning_cases (fun name => Prog.attempt (runtime.callStart name))
    (fun _ => .ok ()) calls with ⟨ran, hanging⟩ | ⟨result, called, after, ran, turn, ok⟩
  · refine .inl ⟨?_, hanging⟩
    rw [release, run_bind, ran]
  · have ok' : result = .ok () := by
      rcases ok with ok | ⟨out, ok, -⟩
      · exact ok
      · exact ok
    subst ok'
    refine .inr ⟨_, ?_, advances_turned turn (state.started.insert waiting.name), rfl⟩
    rw [release, run_bind_of_ok ran]
    rfl

/-- What is kept waits for something that is not started. -/
theorem keepWaiting_releases (runtime : BootRuntime σ) {items : List WaitingService}
    (plain : ∀ waiting ∈ items, waiting.metadata.startOn = none) :
    Releases (fun state name => name ∈ state.started) WaitingService.afters WaitingService.name
      runtime.keepWaiting runtime.release items where
  waits := by
    rintro waiting - state ⟨needed, listed, out⟩
    have missing : waiting.afters.all state.started.contains = false := by
      rw [List.all_eq_false]
      exact ⟨needed, listed, fun known => out (List.contains_iff_mem.mp known)⟩
    rw [keepWaiting, run_read_bind, missing, Bool.not_false, Bool.or_true, if_pos rfl]
    rfl
  goes := by
    intro waiting listed state ready
    have all : waiting.afters.all state.started.contains = true :=
      List.all_eq_true.mpr fun needed inside => List.contains_iff_mem.mpr (ready needed inside)
    rw [keepWaiting, run_read_bind, plain waiting listed, all, Bool.not_true,
      Option.isSome_none, Bool.or_false, if_neg Bool.false_ne_true]
  effects := by
    intro waiting _ state result after ran
    rcases runtime.release_cases waiting state with ⟨none_, -⟩ | ⟨after', ran', -, started⟩
    · cases ran.symm.trans none_
    · cases ran.symm.trans ran'
      refine ⟨rfl, fun name => ?_⟩
      rw [started, List.mem_insert_iff, or_comm]

/-! ## The first look -/

/-- What a service waits for at the first look. -/
def waitingOf (service : Ustr × ServiceMetadata) : Option WaitingService :=
  if service.2.startOn.isSome then none
  else service.2.after.map fun afters => ⟨service.1, afters, service.2⟩

/-- The names of the services that do not wait. -/
def firstNames (services : List (Ustr × ServiceMetadata)) : List Ustr :=
  (services.filter fun service => (waitingOf service).isNone).map Prod.fst

theorem firstNames_append (first second : List (Ustr × ServiceMetadata)) :
    firstNames (first ++ second) = firstNames first ++ firstNames second := by
  rw [firstNames, List.filter_append, List.map_append]
  rfl

/-- How the first look at some services ends: those of `order` had their turn, and those with an
`after` list wait. -/
structure Entered (runtime : BootRuntime σ) (services : List (Ustr × ServiceMetadata))
    (before : BootState σ) (order : List Ustr) (after : BootState σ) : Prop where
  turns : runtime.Advances order before after
  pending : after.pending = before.pending ++ services.filterMap waitingOf
  started : ∀ name, name ∈ after.started ↔ name ∈ before.started ∨ name ∈ order
  sublist : order.Sublist (firstNames services)
  free : ∀ service ∈ services, service.2.startOn = none → service.2.after = none →
    service.1 ∈ order
  starts : ∀ name, (name, true) ∈ after.handled → (name, true) ∈ before.handled ∨
    ∃ metadata, (name, metadata) ∈ services ∧ metadata.startOn = none

theorem Entered.append {first second : List (Ustr × ServiceMetadata)}
    {before middle after : BootState σ} {order order' : List Ustr}
    (earlier : Entered runtime first before order middle)
    (later : Entered runtime second middle order' after) :
    Entered runtime (first ++ second) before (order ++ order') after where
  turns := earlier.turns.trans later.turns
  pending := by rw [later.pending, earlier.pending, List.filterMap_append, List.append_assoc]
  started := by
    intro name
    rw [later.started, earlier.started, List.mem_append, or_assoc]
  sublist := by
    rw [firstNames_append]
    exact earlier.sublist.append later.sublist
  free := by
    intro service listed plain free
    rw [List.mem_append]
    exact (List.mem_append.mp listed).imp (earlier.free service · plain free)
      (later.free service · plain free)
  starts := by
    intro name called
    rcases later.starts name called with called | ⟨metadata, listed, plain⟩
    · refine (earlier.starts name called).imp_right ?_
      rintro ⟨metadata, listed, plain⟩
      exact ⟨metadata, List.mem_append_left _ listed, plain⟩
    · exact .inr ⟨metadata, List.mem_append_right _ listed, plain⟩

/-- A service that has no turn at the first look. -/
theorem Entered.skip {service : Ustr × ServiceMetadata} {before after : BootState σ}
    (same : after.runtime = before.runtime) (handled : after.handled = before.handled)
    (started : after.started = before.started)
    (pending : after.pending = before.pending ++ (waitingOf service).toList)
    (gated : service.2.startOn.isSome ∨ service.2.after.isSome) :
    Entered runtime [service] before [] after where
  turns := .of_eq same handled
  pending := by
    rw [pending]
    cases waits : waitingOf service <;> simp [waits]
  started := by simp [started]
  sublist := List.nil_sublist _
  free := by
    intro other listed plain free
    obtain rfl := List.mem_singleton.mp listed
    simp [plain, free] at gated
  starts := fun name called => .inl (handled ▸ called)

/-- A service that has its turn at the first look. -/
theorem Entered.turn {service : Ustr × ServiceMetadata} {before : BootState σ} {called : Bool}
    {after : σ} (turn : runtime.Turns before.runtime [(service.1, called)] after)
    (waits : waitingOf service = none) (plain : called = true → service.2.startOn = none) :
    Entered runtime [service] before [service.1] { before.turned service.1 called after with
      started := before.started.insert service.1 } where
  turns := advances_turned turn _
  pending := by simp [BootState.turned, waits]
  started := by simp [or_comm]
  sublist := by simp [firstNames, waits]
  free := fun other listed _ _ => by simp [List.mem_singleton.mp listed]
  starts := by
    intro name member
    rcases List.mem_append.mp member with old | own
    · exact .inl old
    · cases List.mem_singleton.mp own
      exact .inr ⟨service.2, List.mem_cons_self, plain rfl⟩

/-- The start of a service that waits for nothing fails. -/
def Fault (runtime : BootRuntime σ) (services : List (Ustr × ServiceMetadata)) (error : CoreError)
    (final : σ) : Prop :=
  ∃ service ∈ services, service.2.startOn = none ∧ service.2.after = none ∧
    ∃ before, runtime.runtimeStart service.1 before = some (.error error, final)

/-- What comes of the first look at some services. -/
inductive EnterCases (runtime : BootRuntime σ) (services : List (Ustr × ServiceMetadata))
    (before : BootState σ) : Option (Except CoreError Unit × BootState σ) → Prop where
  | hangs {order : List Ustr} {middle : BootState σ} {name : Ustr}
      (turns : runtime.Advances order before middle) (hanging : runtime.Hanging name middle.runtime)
      (sublist : (order ++ [name]).Sublist (firstNames services)) :
      EnterCases runtime services before none
  | fails {error : CoreError} {after : BootState σ}
      (fault : runtime.Fault services error after.runtime) :
      EnterCases runtime services before (some (.error error, after))
  | ends {order : List Ustr} {after : BootState σ}
      (entered : Entered runtime services before order after) :
      EnterCases runtime services before (some (.ok (), after))

theorem enterService_cases (runtime : BootRuntime σ) (service : Ustr × ServiceMetadata)
    (state : BootState σ) :
    EnterCases runtime [service] state (runtime.enterService service state) := by
  by_cases gated : service.2.startOn.isSome
  · have waits : waitingOf service = none := if_pos gated
    rw [enterService, if_pos gated, run_read_bind, alreadyRunning]
    cases found : runtime.running (ensureScopedName service.1) state.runtime with
    | true => exact .ends (.turn (.found found (.nil _)) waits (fun called => by cases called))
    | false => exact .ends (.skip rfl rfl rfl (by simp [waits]) (.inl gated))
  · rw [enterService, if_neg gated]
    cases after : service.2.after with
    | some afters =>
        have waits : waitingOf service = some ⟨service.1, afters, service.2⟩ := by
          rw [waitingOf, if_neg gated, after, Option.map_some]
        exact .ends (.skip rfl rfl rfl (by simp [waits]) (.inr (after ▸ rfl)))
    | none =>
        have waits : waitingOf service = none := by
          rw [waitingOf, if_neg gated, after, Option.map_none]
        have plain : service.2.startOn = none := by simpa using gated
        dsimp only
        have calls : runtime.callStart service.1 state =
            (runtime.runtimeStart service.1 state.runtime).map fun out =>
              (id out.1, state.turned service.1 true out.2) := rfl
        rcases runtime.startUnlessRunning_cases runtime.callStart id calls with
          ⟨ran, hanging⟩ | ⟨result, called, final, ran, turn, result_eq⟩
        · rw [run_bind, ran]
          refine .hangs (.of_eq rfl rfl) hanging ?_
          simp [firstNames, waits]
        · cases result with
          | error error =>
              rw [run_bind_of_error ran]
              obtain ⟨out, rfl, failed⟩ := result_eq.resolve_left (by simp)
              exact .fails ⟨service, List.mem_cons_self, plain, after, _, failed⟩
          | ok _ =>
              rw [run_bind_of_ok ran]
              exact .ends (.turn turn waits fun _ => plain)

theorem each_enterService (runtime : BootRuntime σ) (services : List (Ustr × ServiceMetadata))
    (state : BootState σ) :
    EnterCases runtime services state (Prog.each services runtime.enterService state) := by
  induction services generalizing state with
  | nil => exact .ends ⟨.of_eq rfl rfl, by simp, by simp, .slnil, by simp, by simp⟩
  | cons service rest ih =>
      have one := runtime.enterService_cases service state
      rw [each_cons, run_bind]
      generalize runtime.enterService service state = outcome at one
      cases one with
      | hangs turns hanging sublist =>
          refine .hangs turns hanging (sublist.trans ?_)
          rw [← List.singleton_append (l := rest), firstNames_append]
          exact List.sublist_append_left ..
      | fails fault =>
          obtain ⟨other, listed, failed⟩ := fault
          exact .fails ⟨other, List.mem_append_left rest listed, failed⟩
      | @ends order after entered =>
          have others := ih after
          dsimp only
          generalize Prog.each rest runtime.enterService after = outcome at others
          cases others with
          | hangs turns hanging sublist =>
              refine .hangs (entered.turns.trans turns) hanging ?_
              rw [List.append_assoc, ← List.singleton_append (l := rest), firstNames_append]
              exact entered.sublist.append sublist
          | fails fault =>
              obtain ⟨other, listed, failed⟩ := fault
              exact .fails ⟨other, List.mem_cons_of_mem _ listed, failed⟩
          | ends entered' => exact .ends (entered.append entered')

/-! ## All services -/

/-- A named service without start-on conditions comes after another name. -/
def Needs (services : List (Ustr × ServiceMetadata)) (name other : Ustr) : Prop :=
  ∃ metadata, (name, metadata) ∈ services ∧ metadata.startOn = none ∧
    other ∈ metadata.after.getD []

/-- A cycle lies behind a service, or a name that is missing. -/
def Blocked (missing : Ustr → Prop) (services : List (Ustr × ServiceMetadata)) (name : Ustr) :
    Prop :=
  ∃ other, Relation.ReflTransGen (Needs services) name other ∧
    (Relation.TransGen (Needs services) other other ∨ missing other)

/-- A name is not the one of a named service. -/
def Unnamed (services : List (Ustr × ServiceMetadata)) (_ : List Ustr) (name : Ustr) : Prop :=
  name ∉ services.map Prod.fst

/-- A name is not the one of a named service, or of one with start-on conditions that was not
found running. -/
def Unavailable (services : List (Ustr × ServiceMetadata)) (order : List Ustr) (name : Ustr) :
    Prop :=
  name ∉ services.map Prod.fst ∨
    name ∉ order ∧ ∃ metadata, (name, metadata) ∈ services ∧ metadata.startOn.isSome

/-- How all named services are started: those in `handled` have their turn once, in this order,
which is one of their dependencies; of the services without start-on conditions, these are
the ones that are not blocked, and the others are logged. -/
structure StartsAll (runtime : BootRuntime σ) (missing : List Ustr → Ustr → Prop)
    (services : List (Ustr × ServiceMetadata)) (state : σ) (final : BootState σ) : Prop where
  turns : runtime.Turns state final.handled final.runtime
  starts : ∀ name, (name, true) ∈ final.handled →
    ∃ metadata, (name, metadata) ∈ services ∧ metadata.startOn = none
  once : final.order.Nodup
  named : final.order ⊆ services.map Prod.fst
  ordered : Dependencies.Ordered (Needs services) final.order
  reached : ∀ name metadata, (name, metadata) ∈ services → metadata.startOn = none →
    (name ∈ final.order ↔ ¬ Blocked (missing final.order) services name)
  unresolved : ∃ left : List Ustr, final.unresolved = unresolvedFields left ∧ left.Nodup ∧
    ∀ name, name ∈ left ↔ (∃ metadata, (name, metadata) ∈ services ∧ metadata.startOn = none) ∧
      Blocked (missing final.order) services name

/-- What comes of starting all named services, with at most so many rounds: the start of one of
them, whose turn it is, does not end, that of one that waits for nothing fails, or all of them
are started. -/
inductive Boots (runtime : BootRuntime σ) (missing : List Ustr → Ustr → Prop) (limit : Nat)
    (services : List (Ustr × ServiceMetadata)) (state : σ) : Prop where
  | hangs (order : List Ustr) (ran : runtime.startAll limit services (.begin state) = none)
      (once : order.Nodup) (named : order ⊆ services.map Prod.fst)
      (ordered : Dependencies.Ordered (Needs services) order)
      (endless : runtime.Endless state order)
  | fails (error : CoreError) (final : BootState σ)
      (ran : runtime.startAll limit services (.begin state) = some (.error error, final))
      (fault : runtime.Fault services error final.runtime)
  | ends (final : BootState σ)
      (ran : runtime.startAll limit services (.begin state) = some (.ok (), final))
      (all : runtime.StartsAll missing services state final)

section All

variable {services : List (Ustr × ServiceMetadata)}

theorem of_mem_filterMap_waitingOf {waiting : WaitingService}
    (member : waiting ∈ services.filterMap waitingOf) :
    (waiting.name, waiting.metadata) ∈ services ∧ waiting.metadata.startOn = none ∧
      waiting.metadata.after = some waiting.afters := by
  obtain ⟨⟨name, metadata⟩, listed, waits⟩ := List.mem_filterMap.mp member
  rw [waitingOf] at waits
  split at waits
  · cases waits
  · next plain =>
    obtain ⟨afters, after, rfl⟩ := Option.map_eq_some_iff.mp waits
    exact ⟨listed, by simpa using plain, after⟩

theorem mem_filterMap_waitingOf {name : Ustr} {metadata : ServiceMetadata} {afters : List Ustr}
    (listed : (name, metadata) ∈ services) (plain : metadata.startOn = none)
    (after : metadata.after = some afters) :
    ⟨name, afters, metadata⟩ ∈ services.filterMap waitingOf := by
  refine List.mem_filterMap.mpr ⟨_, listed, ?_⟩
  rw [waitingOf, plain, after]
  rfl

/-- The services that wait, and the others. -/
theorem waitingOf_perm (services : List (Ustr × ServiceMetadata)) :
    (firstNames services ++ (services.filterMap waitingOf).map WaitingService.name).Perm
      (services.map Prod.fst) := by
  induction services with
  | nil => exact .nil
  | cons service rest ih =>
      rw [firstNames]
      cases waits : waitingOf service with
      | none =>
          rw [List.filter_cons_of_pos (by simp [waits]), List.filterMap_cons_none waits]
          exact ih.cons _
      | some waiting =>
          have same : waiting.name = service.1 := by
            rw [waitingOf] at waits
            split at waits
            · cases waits
            · obtain ⟨afters, -, rfl⟩ := Option.map_eq_some_iff.mp waits
              rfl
          rw [List.filter_cons_of_neg (by simp [waits]), List.filterMap_cons_some waits,
            List.map_cons, List.map_cons, same]
          exact List.perm_middle.trans (ih.cons _)

theorem each_release (gone : List WaitingService) {before after : BootState σ}
    (ran : Prog.each gone runtime.release before = some (.ok (), after)) :
    runtime.Advances (gone.map WaitingService.name) before after := by
  induction gone generalizing before with
  | nil =>
      cases ran
      exact .of_eq rfl rfl
  | cons waiting rest ih =>
      rw [each_cons] at ran
      rcases runtime.release_cases waiting before with ⟨none_, -⟩ | ⟨middle, ran', advances, -⟩
      · rw [run_bind, none_] at ran
        cases ran
      · rw [run_bind_of_ok ran'] at ran
        exact advances.trans (ih ran)

/-- The services that had their turn in the first look, those that waited and then had it, and
others that wait. -/
structure Taken (services : List (Ustr × ServiceMetadata)) (first : List Ustr)
    (gone left : List WaitingService) : Prop where
  perm : (gone ++ left).Perm (services.filterMap waitingOf)
  sublist : first.Sublist (firstNames services)
  supplied : Supplied WaitingService.afters WaitingService.name (· ∈ first) gone

/-- The services after all rounds. -/
structure Rounds (services : List (Ustr × ServiceMetadata)) (first : List Ustr)
    (gone left : List WaitingService) : Prop extends Taken services first gone left where
  free : ∀ service ∈ services, service.2.startOn = none → service.2.after = none →
    service.1 ∈ first
  waiting : ∀ item ∈ left, ∃ needed ∈ item.afters,
    needed ∉ first ++ gone.map WaitingService.name

namespace Taken

variable {first : List Ustr} {gone left : List WaitingService}

/-- All names are different, and are those of named services. -/
theorem names (taken : Taken services first gone left)
    (distinct : (services.map Prod.fst).Nodup) :
    (first ++ gone.map WaitingService.name ++ left.map WaitingService.name).Nodup ∧
      first ++ gone.map WaitingService.name ++ left.map WaitingService.name ⊆
        services.map Prod.fst := by
  have waiting : (gone.map WaitingService.name ++ left.map WaitingService.name).Perm
      ((services.filterMap waitingOf).map WaitingService.name) := by
    rw [← List.map_append]
    exact taken.perm.map _
  have subperm : List.Subperm
      (first ++ (gone.map WaitingService.name ++ left.map WaitingService.name))
      (services.map Prod.fst) :=
    (taken.sublist.subperm.append waiting.subperm).trans (waitingOf_perm services).subperm
  obtain ⟨part, perm, sublist⟩ := subperm
  rw [List.append_assoc]
  exact ⟨perm.nodup_iff.mp (distinct.sublist sublist), fun name member =>
    sublist.subset (perm.mem_iff.mpr member)⟩

variable (taken : Taken services first gone left) (distinct : (services.map Prod.fst).Nodup)

include taken distinct

/-- A service that waits was not taken in the first look. -/
theorem not_mem_first {waiting : WaitingService} (listed : waiting ∈ gone ++ left) :
    waiting.name ∉ first := by
  have nodup := (taken.names distinct).1
  rw [List.append_assoc, ← List.map_append] at nodup
  exact fun member => (List.nodup_append.mp nodup).2.2 _ member _ (List.mem_map_of_mem listed) rfl

omit distinct in
/-- A service with an `after` list waits. -/
theorem mem_waiting {name : Ustr} {metadata : ServiceMetadata} {afters : List Ustr}
    (listed : (name, metadata) ∈ services) (plain : metadata.startOn = none)
    (after : metadata.after = some afters) : ⟨name, afters, metadata⟩ ∈ gone ++ left :=
  taken.perm.mem_iff.mpr (mem_filterMap_waitingOf listed plain after)

theorem eq_of_name {waiting other : WaitingService} (listed : waiting ∈ gone ++ left)
    (listed' : other ∈ gone ++ left) (same : waiting.name = other.name) : waiting = other := by
  have nodup := (taken.names distinct).1
  rw [List.append_assoc, ← List.map_append] at nodup
  exact List.inj_on_of_nodup_map (List.nodup_append.mp nodup).2.1 listed listed' same

theorem ordered :
    Dependencies.Ordered (Needs services) (first ++ gone.map WaitingService.name) := by
  -- what needs another name waits, and is taken when that one has been
  have waits {name other : Ustr} (needs : Needs services name other) :
      ∃ waiting ∈ gone ++ left, waiting.name = name ∧ other ∈ waiting.afters := by
    obtain ⟨metadata, listed, plain, after⟩ := needs
    cases afters : metadata.after with
    | none => simp [afters] at after
    | some afters_ =>
        rw [afters, Option.getD_some] at after
        exact ⟨_, taken.mem_waiting listed plain afters, rfl, after⟩
  apply Dependencies.Ordered.append_of_forall
  · apply Dependencies.Ordered.of_forall
    intro name member other needs
    obtain ⟨waiting, listed, rfl, -⟩ := waits needs
    exact taken.not_mem_first distinct listed member
  · intro before name after split other needs
    obtain ⟨earlier, rest, rfl, rfl, mapped⟩ := List.map_eq_append_iff.mp split
    obtain ⟨item, later, rfl, rfl, rfl⟩ := List.map_eq_cons_iff.mp mapped
    obtain ⟨waiting, listed, same, after⟩ := waits needs
    obtain rfl : waiting = item := taken.eq_of_name distinct listed (by simp) same
    rw [List.mem_append]
    refine (taken.supplied.earlier after).imp_right ?_
    rintro ⟨item, inside, rfl⟩
    exact List.mem_map_of_mem inside

omit distinct in
/-- A further service has its turn. -/
theorem concat {item : WaitingService} (listed : item ∈ left)
    (ready : ∀ needed ∈ item.afters, needed ∈ first ∨ needed ∈ gone.map WaitingService.name) :
    ∃ left', Taken services first (gone ++ [item]) left' := by
  obtain ⟨before, after, rfl⟩ := List.append_of_mem listed
  refine ⟨before ++ after, ?_, taken.sublist, Supplied.append.mpr ⟨taken.supplied, ready, trivial⟩⟩
  refine List.Perm.trans ?_ taken.perm
  rw [List.append_assoc, List.singleton_append]
  exact List.perm_middle.symm.append_left gone

end Taken

namespace Rounds

variable {first : List Ustr} {gone left : List WaitingService}
  (rounds : Rounds services first gone left)

include rounds

/-- A service that has not had its turn is left, and waits for a name that has not either. -/
theorem left_of_not_mem {name : Ustr} {metadata : ServiceMetadata}
    (listed : (name, metadata) ∈ services) (plain : metadata.startOn = none)
    (out : name ∉ first ++ gone.map WaitingService.name) :
    name ∈ left.map WaitingService.name ∧ ∃ other, Needs services name other ∧
      other ∉ first ++ gone.map WaitingService.name := by
  rw [List.mem_append, not_or] at out
  cases after : metadata.after with
  | none => exact absurd (rounds.free _ listed plain after) out.1
  | some afters =>
      rcases List.mem_append.mp (rounds.mem_waiting listed plain after) with taken | left_
      · exact absurd (List.mem_map_of_mem taken) out.2
      · obtain ⟨needed, inside, out'⟩ := rounds.waiting _ left_
        refine ⟨List.mem_map_of_mem left_, needed, ⟨metadata, listed, plain, ?_⟩, out'⟩
        rw [after]
        exact inside

/-- The services that have their turn are those that are not blocked. -/
theorem mem_iff_not_blocked (distinct : (services.map Prod.fst).Nodup) {name : Ustr}
    {metadata : ServiceMetadata} (listed : (name, metadata) ∈ services) (plain : metadata.startOn = none) :
    name ∈ first ++ gone.map WaitingService.name ↔
      ¬ Blocked (Unavailable services (first ++ gone.map WaitingService.name)) services name := by
  have ordered := rounds.ordered distinct
  have named := (rounds.names distinct).2
  have stays {name : Ustr} {metadata : ServiceMetadata} (listed : (name, metadata) ∈ services)
      (plain : metadata.startOn = none) (out : name ∉ first ++ gone.map WaitingService.name) :
      ∃ other, Needs services name other ∧ other ∉ first ++ gone.map WaitingService.name :=
    (rounds.left_of_not_mem listed plain out).2
  generalize first ++ gone.map WaitingService.name = order at ordered named stays ⊢
  constructor
  · rintro inside ⟨other, path, blocked⟩
    have inside' : other ∈ order := by
      clear blocked
      induction path with
      | refl => exact inside
      | tail _ needed ih =>
          obtain ⟨before, after, split⟩ := List.append_of_mem ih
          rw [split]
          exact List.mem_append_left _ (ordered before _ after split _ needed)
    rcases blocked with circle | unnamed | ⟨out, -⟩
    · exact Dependencies.Stuck.not_acc ⟨other, .refl, circle⟩ (ordered.acc inside')
    · exact unnamed (named (List.mem_append_left _ inside'))
    · exact out inside'
  · intro free
    by_contra out
    let stuck (name : Ustr) : Prop := (∃ metadata, (name, metadata) ∈ services ∧
      metadata.startOn = none) ∧ name ∉ order ∧ ¬ Blocked (Unavailable services order) services name
    have ends : Acc (flip (Needs services)) name := by
      rw [Dependencies.acc_iff_not_stuck (services.flatMap fun service => service.2.after.getD [])]
      · rintro ⟨other, path, circle⟩
        exact free ⟨other, path, .inl circle⟩
      · rintro name other ⟨metadata, listed, -, after⟩
        exact List.mem_flatMap.mpr ⟨_, listed, after⟩
    refine Dependencies.not_acc_of_forall stuck ?_ ⟨⟨metadata, listed, plain⟩, out, free⟩ ends
    rintro name ⟨⟨metadata, listed, plain⟩, out, free⟩
    obtain ⟨other, needed, out'⟩ := stays listed plain out
    refine ⟨other, needed, ?_, out', fun ⟨last, path, blocked⟩ =>
      free ⟨last, path.head needed, blocked⟩⟩
    have available : ¬ Unavailable services order other :=
      fun missing => free ⟨other, .single needed, .inr missing⟩
    rw [Unavailable, not_or, not_not] at available
    obtain ⟨⟨_, metadata'⟩, listed', rfl⟩ := List.mem_map.mp available.1
    refine ⟨metadata', listed', ?_⟩
    by_contra gated
    exact available.2 ⟨out', metadata', listed', Option.ne_none_iff_isSome.mp gated⟩

end Rounds

theorem startAll_startsAll {first : List Ustr} {gone left : List WaitingService}
    (rounds : Rounds services first gone left) (distinct : (services.map Prod.fst).Nodup)
    {state : σ} {entered after : BootState σ}
    (enters : Entered runtime services (.begin state) first entered)
    (ran : Prog.each gone runtime.release entered = some (.ok (), after)) :
    StartsAll runtime (Unavailable services) services state
      { after with unresolved := unresolvedFields (left.map WaitingService.name) } := by
  have advances := enters.turns.trans (each_release gone ran)
  obtain ⟨turns, path, handled, order⟩ := advances
  have order_eq : after.order = first ++ gone.map WaitingService.name := by
    rw [BootState.order, handled]
    exact order
  obtain ⟨nodup, named⟩ := rounds.names distinct
  rw [← order_eq] at nodup named
  have reached (name : Ustr) (metadata : ServiceMetadata) (listed : (name, metadata) ∈ services)
      (plain : metadata.startOn = none) :
      name ∈ after.order ↔ ¬ Blocked (Unavailable services after.order) services name := by
    rw [order_eq]
    exact rounds.mem_iff_not_blocked distinct listed plain
  refine ⟨?_, ?_, (List.nodup_append.mp nodup).1, ?_, ?_, reached, ?_⟩
  · rw [handled]
    exact path
  · intro name called
    rcases (each_release gone ran).mem_handled called with called | member
    · exact (enters.starts name called).resolve_left List.not_mem_nil
    · obtain ⟨item, inside, rfl⟩ := List.mem_map.mp member
      obtain ⟨defined, plain, -⟩ := of_mem_filterMap_waitingOf
        (rounds.perm.mem_iff.mp (List.mem_append_left _ inside))
      exact ⟨_, defined, plain⟩
  · exact fun name member => named (List.mem_append_left _ member)
  · have ordered := rounds.ordered distinct
    rwa [← order_eq] at ordered
  · refine ⟨left.map WaitingService.name, rfl, (List.nodup_append.mp nodup).2.1, fun name => ?_⟩
    constructor
    · intro member
      obtain ⟨item, listed, rfl⟩ := List.mem_map.mp member
      obtain ⟨defined, plain, -⟩ := of_mem_filterMap_waitingOf
        (rounds.perm.mem_iff.mp (List.mem_append_right _ listed))
      refine ⟨⟨_, defined, plain⟩, not_not.mp fun free => ?_⟩
      exact (List.nodup_append.mp nodup).2.2 _ ((reached _ _ defined plain).mpr free) _ member rfl
    · rintro ⟨⟨metadata, listed, plain⟩, blocked⟩
      refine (rounds.left_of_not_mem listed plain fun member => ?_).1
      rw [← order_eq] at member
      exact (reached _ _ listed plain).mp member blocked

/-- Starting all services ends, unless a start does not. Where no start of the first look fails,
each service without start-on conditions has its turn once after all that it comes after, unless
it is blocked, and those that are blocked are logged. -/
theorem startAll_boots (runtime : BootRuntime σ) (state : σ)
    (distinct : (services.map Prod.fst).Nodup) {limit : Nat} (enough : services.length < limit) :
    runtime.Boots (Unavailable services) limit services state := by
  have entering := runtime.each_enterService services (.begin state)
  cases looked : Prog.each services runtime.enterService (.begin state) with
  | none =>
      rw [looked] at entering
      cases entering with
      | @hangs order middle name turns hanging sublist =>
          have taken : Taken services (order ++ [name]) [] (services.filterMap waitingOf) :=
            ⟨.refl _, sublist, trivial⟩
          obtain ⟨nodup, named⟩ := taken.names distinct
          have ordered := taken.ordered distinct
          rw [List.map_nil, List.append_nil] at nodup named ordered
          refine .hangs _ ?_ (List.nodup_append.mp nodup).1
            (fun name member => named (List.mem_append_left _ member)) ordered
            (turns.endless hanging)
          rw [startAll, run_bind, looked]
  | some outcome =>
      obtain ⟨result, entered⟩ := outcome
      rw [looked] at entering
      cases entering with
      | @fails error _ fault =>
          refine .fails error entered ?_ fault
          rw [startAll, run_bind_of_error looked]
      | @ends first _ enters =>
          have pending : entered.pending = services.filterMap waitingOf := enters.pending
          have plain : ∀ waiting ∈ entered.pending, waiting.metadata.startOn = none := by
            rw [pending]
            exact fun waiting member => (of_mem_filterMap_waitingOf member).2.1
          have fewer : entered.pending.length < limit := by
            rw [pending]
            exact (List.length_filterMap_le ..).trans_lt enough
          have known (name : Ustr) : name ∈ entered.started ↔ name ∈ first := by
            rw [enters.started]
            exact or_iff_right List.not_mem_nil
          have takes {gone left : List WaitingService} {after : BootState σ}
              (parts : Parts (fun state name => name ∈ state.started) WaitingService.afters
                WaitingService.name runtime.release entered.pending entered gone left after) :
              Taken services first gone left :=
            ⟨pending ▸ parts.perm, enters.sublist, (Supplied.congr known).mp parts.supplied⟩
          rcases settle_cases (keepWaiting_releases runtime plain) (List.Subset.refl _) entered
            fewer with ⟨ran, gone, left, after, parts, item, listed, ready, stuck⟩ |
              ⟨gone, left, after, ran, parts, waiting⟩
          · have advances := enters.turns.trans (each_release gone parts.ran)
            have hanging : runtime.Hanging item.name after.runtime := by
              rcases runtime.release_cases item after with ⟨-, hanging⟩ | ⟨_, ended, -⟩
              · exact hanging
              · cases stuck.symm.trans ended
            obtain ⟨left', taken⟩ := (takes parts).concat listed fun needed inside =>
              ((parts.known needed).mp (ready needed inside)).imp_left (known needed).mp
            obtain ⟨nodup, named⟩ := taken.names distinct
            have ordered := taken.ordered distinct
            rw [List.map_append, ← List.append_assoc] at nodup named ordered
            refine .hangs _ ?_ (List.nodup_append.mp nodup).1
              (fun name member => named (List.mem_append_left _ member)) ordered
              (advances.endless hanging)
            rw [startAll, run_bind_of_ok looked, run_read_bind, run_bind, ran]
          · have rounds : Rounds services first gone left := by
              refine ⟨takes parts, enters.free, fun item listed => ?_⟩
              obtain ⟨needed, inside, out⟩ := waiting item listed
              refine ⟨needed, inside, fun member => out ?_⟩
              rw [parts.known, known]
              exact List.mem_append.mp member
            refine .ends _ ?_ (startAll_startsAll rounds distinct enters parts.ran)
            rw [startAll, run_bind_of_ok looked, run_read_bind, run_bind_of_ok ran]
            rfl

end All

end BootRuntime

/-! ## The services in `rind:active` -/

section Actual

variable [SerdeJson] [TomlText]

/-- The services themselves, where a start makes at most so many nested starts. -/
def servicesRuntime (env : StackEnv) (depth : Nat) : BootRuntime Stacks where
  running key stack := (stack.services.asOne env.base.metadata key).any Service.isRunning
  runtimeStart name := Prog.iterate (startStack env) depth (.plain name)

omit [SerdeJson] [TomlText] in
/-- The names that are considered are different where the set holds no name twice. -/
theorem map_fst_startAllServices_sublist (definitions : MetadataRegistry ServiceMetadata)
    (facets : Facets) :
    ((startAllServices definitions facets).map Prod.fst).Sublist
      ((facets.instances "rind:active").map fun branch => branch.payload.toStringPayload) := by
  rw [startAllServices]
  induction facets.instances "rind:active" with
  | nil => exact .slnil
  | cons branch rest ih =>
      cases found : definitions.find "*" branch.payload.toStringPayload with
      | none =>
          rw [List.filterMap_cons_none (by simp [found])]
          exact ih.cons _
      | some service =>
          rw [List.filterMap_cons_some (by simp [found]; rfl)]
          exact ih.cons_cons _

omit [SerdeJson] [TomlText] in
theorem rank_le (definitions : MetadataRegistry ServiceMetadata) (name : Ustr) :
    rank definitions name ≤ (allDependents definitions).length := by
  refine ((card_reachable_le ..).trans (List.toFinset_card_le _)).trans ?_
  rw [List.length_map]

/-- The services that are named in `rind:active` are started in an order of their dependencies,
and without a cycle in any definitions all starts end. -/
theorem startAll_active (env : StackEnv) (stack : Stacks)
    (distinct : ((env.base.facets.instances "rind:active").map fun branch =>
      branch.payload.toStringPayload).Nodup)
    {limit depth : Nat} (enough : (env.base.facets.instances "rind:active").length < limit)
    (deep : (allDependents env.base.metadata).length < depth) :
    (servicesRuntime env depth).Boots
        (BootRuntime.Unavailable (startAllServices env.base.metadata env.base.facets)) limit
        (startAllServices env.base.metadata env.base.facets) stack ∧
      (Acyclic env.base.metadata → ((servicesRuntime env depth).startAll limit
        (startAllServices env.base.metadata env.base.facets) (.begin stack)).isSome) := by
  have sublist := map_fst_startAllServices_sublist env.base.metadata env.base.facets
  have fewer : (startAllServices env.base.metadata env.base.facets).length < limit :=
    (List.length_filterMap_le ..).trans_lt enough
  have boots := BootRuntime.startAll_boots (servicesRuntime env depth) stack
    (distinct.sublist sublist) fewer
  refine ⟨boots, fun acyclic => ?_⟩
  cases boots with
  | hangs order ran once named ordered endless =>
      obtain ⟨turns, middle, name, -, ⟨-, stuck⟩, -⟩ := endless
      have halts : Halts (fun _ => True) (Prog.iterate (startStack env) depth (.plain name)) :=
        startStack_halts acyclic ((rank_le env.base.metadata _).trans_lt deep)
      obtain ⟨result, final, ended, -⟩ := halts middle trivial
      cases stuck.symm.trans ended
  | fails error final ran fault => rw [ran, Option.isSome_some]
  | ends final ran all => rw [ran, Option.isSome_some]

end Actual

/-! ## Two services -/

section Pair

open scoped Rind.Compact

/-- Services in the group `app`, all of which are named. -/
def bootEnv (services : List ServiceMetadata) : StackEnv :=
  let env := pairedEnv services
  let active := services.map fun metadata =>
    ⟨"rind:active", .string (rslvns "app" metadata.name), .facet⟩
  { env with base := { env.base with facets := AList.insert "rind:active" active ∅ } }

/-- A database that waits for a session. -/
def gatedDatabase : ServiceMetadata :=
  { layer "db" [] with startOn := some [.simple "rind:session"] }

def gatedPair : List ServiceMetadata := [gatedDatabase, layer "web" ["app:db"]]

/-- A database and a service after it, named in the other order. -/
def plainPair : List ServiceMetadata := [layer "web" ["app:db"], layer "db" []]

/-- Although all dependencies are named and there is no cycle, a service is not started. -/
theorem not_startAll_named :
    ¬ (servicesRuntime (bootEnv gatedPair) 3).Boots
        (BootRuntime.Unnamed (startAllServices (bootEnv gatedPair).base.metadata
          (bootEnv gatedPair).base.facets)) 3
        (startAllServices (bootEnv gatedPair).base.metadata (bootEnv gatedPair).base.facets)
        (runningStack []) := by
  have ran : ((servicesRuntime (bootEnv gatedPair) 3).startAll 3
      (startAllServices (bootEnv gatedPair).base.metadata (bootEnv gatedPair).base.facets)
      (.begin (runningStack []))).map (fun outcome => (outcome.1.isOk, outcome.2.handled)) =
        some (true, []) := by
    decide +kernel
  have services : startAllServices (bootEnv gatedPair).base.metadata
      (bootEnv gatedPair).base.facets =
        [("app:db", gatedDatabase), ("app:web", layer "web" ["app:db"])] := by
    decide +kernel
  rw [services] at ran ⊢
  have needs {name other : Ustr} (needed : BootRuntime.Needs
      [("app:db", gatedDatabase), ("app:web", layer "web" ["app:db"])] name other) :
      name = "app:web" ∧ other = "app:db" := by
    obtain ⟨metadata, listed, plain, after⟩ := needed
    rw [List.mem_pair] at listed
    rcases listed with same | same
    · cases same
      cases plain
    · cases same
      exact ⟨rfl, List.mem_singleton.mp after⟩
  intro boots
  cases boots with
  | hangs order none_ =>
      rw [none_] at ran
      cases ran
  | fails error final failed =>
      rw [failed] at ran
      cases ran
  | ends final ended all =>
      rw [ended, Option.map_some, Option.some_inj, Prod.mk.injEq] at ran
      have out : "app:web" ∉ final.order := by
        rw [BootState.order, ran.2]
        exact List.not_mem_nil
      refine out ((all.reached _ (layer "web" ["app:db"]) (by simp) rfl).mpr ?_)
      rintro ⟨other, path, circle | unnamed⟩
      · obtain ⟨_, first, -⟩ := Relation.TransGen.head'_iff.mp circle
        obtain ⟨_, -, last⟩ := Relation.TransGen.tail'_iff.mp circle
        exact absurd ((needs first).1.symm.trans (needs last).2) (by decide)
      · rcases path.cases_tail with rfl | ⟨_, -, last⟩
        · exact unnamed (by simp)
        · exact unnamed (by simp [(needs last).2])

/-- Both services are started. -/
theorem startAll_active_pair :
    (servicesRuntime (bootEnv plainPair) 3).Boots
        (BootRuntime.Unavailable (startAllServices (bootEnv plainPair).base.metadata
          (bootEnv plainPair).base.facets)) 3
        (startAllServices (bootEnv plainPair).base.metadata (bootEnv plainPair).base.facets)
        (runningStack []) ∧
      (Acyclic (bootEnv plainPair).base.metadata →
        ((servicesRuntime (bootEnv plainPair) 3).startAll 3
          (startAllServices (bootEnv plainPair).base.metadata (bootEnv plainPair).base.facets)
          (.begin (runningStack []))).isSome) :=
  startAll_active (bootEnv plainPair) (runningStack []) (by decide +kernel) (by decide +kernel)
    (by decide +kernel)

-- the start of the database starts the other service as well
example : ((servicesRuntime (bootEnv plainPair) 3).startAll 3
      (startAllServices (bootEnv plainPair).base.metadata (bootEnv plainPair).base.facets)
      (.begin (runningStack []))).map (fun outcome => (outcome.1.isOk, outcome.2.handled)) =
    some (true, [("app:db", true), ("app:web", false)]) := by
  decide +kernel

end Pair

end Rind
