import Rind.Services.Cycles

/-!
# Starting dependents

Which dependents a started service starts.  Reconciling asks whether one of the
services that a dependent comes after is up, and `evaluate_triggers` whether all
of them run; and a dependent of any page is started by its name in the default
scope.  So the dependents that are started are the ready ones of their own scopes
exactly if the two questions have the same answer in every turn, and the name
leads to the dependent.
-/

namespace Rind

open Prog

section Dependents

variable [SerdeJson]

/-- The start-on conditions of a dependent hold. -/
def Dependent.startOnActive (env : ServiceEnv) (dependent : Dependent) : Bool :=
  dependent.metadata.startOn.all (·.all (conditionIsActive env.facets · none))

/-- One of the services a dependent comes after is up. -/
def Dependent.someHealthy (env : ServiceEnv) (services : Services) (dependent : Dependent) : Bool :=
  (dependent.metadata.after.getD []).any fun name =>
    (services.asOne env.metadata name).any Service.isHealthy

/-- The rule of `evaluate_triggers`: the conditions hold, and all services that a
dependent comes after are running. -/
def Dependent.isReady (env : ServiceEnv) (services : Services) (dependent : Dependent) : Bool :=
  dependent.startOnActive env && aftersRunning env dependent.metadata services

/-- The name of a dependent leads to it, in the scope that declares it. -/
def Dependent.isDeclared (env : ServiceEnv) (services : Services) (dependent : Dependent) : Bool :=
  (env.metadata.instantiateOne Service.new "*" dependent.name services.instances).any fun found =>
    found.1 == dependent.name ++ "@" ++ dependent.scope &&
      found.2.metadata == dependent.metadata

/-- In a turn the one question has the answer of the other, and a dependent to be
started is the one its name leads to. -/
def StackTurn.agrees (env : ServiceEnv) (turn : StackTurn) : Bool :=
  !turn.dependent.startOnActive env ||
    (turn.dependent.someHealthy env turn.services ==
        aftersRunning env turn.dependent.metadata turn.services) &&
      (!turn.dependent.someHealthy env turn.services ||
        turn.dependent.isDeclared env turn.services)

/-- The turns since a state. -/
def Stacks.turnsSince (before after : Stacks) : List StackTurn :=
  after.turns.drop before.turns.length

/-- The dependents that are started are the ready ones, in their own scopes. -/
structure StartsReady (env : StackEnv) (service : Ustr) (before after : Stacks) : Prop where
  all : ∀ dependent ∈ dependentsOf env.base.metadata (instanceKeyName service),
    ∃ turn ∈ before.turnsSince after,
      turn.service = instanceKeyName service ∧ turn.dependent = dependent
  ready : ∀ turn ∈ before.turnsSince after,
    turn.started = turn.dependent.isReady env.base turn.services
  declared : ∀ turn ∈ before.turnsSince after, turn.started →
    turn.dependent.isDeclared env.base turn.services

theorem startsDependent_eq (env : ServiceEnv) (dependent : Dependent) (services : Services) :
    startsDependent env dependent.metadata services =
      (dependent.startOnActive env && dependent.someHealthy env services) := rfl

/-! ## Turns -/

variable {env : StackEnv} {call : StartRequest → Prog Stacks CoreError Unit}

/-- A turn is noted as it is decided. -/
def StackTurn.Decided (env : ServiceEnv) (turn : StackTurn) : Prop :=
  turn.started = startsDependent env turn.dependent.metadata turn.services

/-- A dependent that was started was found. -/
def StackTurn.Declared (env : ServiceEnv) (turn : StackTurn) : Prop :=
  turn.started → turn.dependent.isDeclared env turn.services

theorem StackTurn.agrees_iff {env : ServiceEnv} {turn : StackTurn} (decided : turn.Decided env) :
    turn.agrees env ↔
      turn.started = turn.dependent.isReady env turn.services ∧ turn.Declared env := by
  rw [Declared, show turn.started = _ from decided, startsDependent_eq, agrees, Dependent.isReady]
  cases turn.dependent.startOnActive env <;> cases turn.dependent.someHealthy env turn.services <;>
    cases aftersRunning env turn.dependent.metadata turn.services <;> simp

/-- An action notes turns as they are decided, and does not fail if `fine` held
and what is started in them is found. -/
def Notes (env : StackEnv) (fine : Stacks → Prop) (body : Prog Stacks CoreError Unit) : Prop :=
  ∀ stack result final, body stack = some (result, final) →
    ∃ turns, final.turns = stack.turns ++ turns ∧
      (∀ turn ∈ turns, turn.Decided env.base) ∧
      (fine stack → (∀ turn ∈ turns, turn.Declared env.base) → result = .ok ())

theorem Notes.change {update : Stacks → Stacks} (same : ∀ stack, (update stack).turns = stack.turns) :
    Notes env (fun _ => True) (Prog.change update) := by
  intro stack result final ran
  cases ran
  exact ⟨[], by rw [same, List.append_nil], by simp, fun _ _ => rfl⟩

/-- Noting turns is structural. -/
theorem Notes.rule : Rule (Notes env fun _ => True) where
  pure := by
    intro stack result final ran
    cases ran
    exact ⟨[], (List.append_nil _).symm, by simp, fun _ _ => rfl⟩
  bind := by
    intro first next firstNotes nextNotes stack result final ran
    rcases run_bind_cases ran with ⟨err, firstRan, rfl⟩ | ⟨_, middle, firstRan, nextRan⟩
    · obtain ⟨turns, turns_eq, decided, ok⟩ := firstNotes stack _ _ firstRan
      refine ⟨turns, turns_eq, decided, fun _ declared => ?_⟩
      cases ok trivial declared
    · obtain ⟨turns, turns_eq, decided, -⟩ := firstNotes stack _ _ firstRan
      obtain ⟨turns', turns_eq', decided', ok⟩ := nextNotes middle _ _ nextRan
      refine ⟨turns ++ turns', by rw [turns_eq', turns_eq, List.append_assoc], ?_, ?_⟩
      · intro turn member
        exact (List.mem_append.mp member).elim (decided turn) (decided' turn)
      · intro _ declared
        exact ok trivial fun turn member => declared turn (List.mem_append_right _ member)
  attempt := by
    intro body notes stack result final ran
    obtain ⟨rfl, inner, bodyRan⟩ := run_attempt_cases ran
    obtain ⟨turns, turns_eq, decided, -⟩ := notes stack _ _ bodyRan
    exact ⟨turns, turns_eq, decided, fun _ _ => rfl⟩
  pointwise := by
    intro body same stack result final ran
    obtain ⟨other, notes, equal⟩ := same stack
    exact notes stack result final (equal ▸ ran)

/-- A dependent is found where its name leads to it. -/
def found (env : StackEnv) (name : Ustr) (stack : Stacks) : Prop :=
  (env.base.metadata.instantiateOne Service.new "*" name stack.services.instances).isSome

/-- A turn is noted before the dependent is started. -/
theorem considerDependent_notes {service : Ustr} {dependent : Dependent}
    (calls : Notes env (found env dependent.name) (call (.plain dependent.name))) {stack final : Stacks}
    {result : Except CoreError Unit}
    (ran : considerDependent env call service dependent stack = some (result, final)) :
    ∃ turns, final.turns = stack.turns ++
        ⟨service, dependent, stack.services,
          startsDependent env.base dependent.metadata stack.services⟩ :: turns ∧
      (∀ turn ∈ turns, turn.Decided env.base) ∧
      ((∀ turn ∈ turns, turn.Declared env.base) →
        (startsDependent env.base dependent.metadata stack.services →
          dependent.isDeclared env.base stack.services) → result = .ok ()) := by
  rw [considerDependent, run_read_bind, run_change_bind] at ran
  split at ran
  · next starts =>
      obtain ⟨turns, turns_eq, decided, ok⟩ := calls _ _ _ ran
      refine ⟨turns, ?_, decided, fun declared here => ok ?_ declared⟩
      · rw [turns_eq, Stacks.note_turns, List.append_assoc]
        rfl
      · have declared := here starts
        rw [Dependent.isDeclared, Option.any_eq_true] at declared
        obtain ⟨entry, found, -⟩ := declared
        exact Option.isSome_iff_exists.mpr ⟨entry, found⟩
  · cases ran
    exact ⟨[], rfl, by simp, fun _ _ => rfl⟩

/-- A loop over dependents notes a turn for each of them, if it does not fail. -/
theorem considerEach_notes {service : Ustr} {dependents : List Dependent}
    (calls : ∀ dependent ∈ dependents,
      Notes env (found env dependent.name) (call (.plain dependent.name)))
    {stack final : Stacks} {result : Except CoreError Unit}
    (ran : Prog.each dependents (considerDependent env call service) stack =
      some (result, final)) :
    ∃ turns, final.turns = stack.turns ++ turns ∧
      (∀ turn ∈ turns, turn.Decided env.base) ∧
      ((∀ turn ∈ turns, turn.Declared env.base) → result = .ok ()) ∧
      (result = .ok () → ∀ dependent ∈ dependents, ∃ turn ∈ turns,
        turn.service = service ∧ turn.dependent = dependent) := by
  induction dependents generalizing stack with
  | nil =>
      cases ran
      exact ⟨[], (List.append_nil _).symm, by simp, fun _ => rfl, by simp⟩
  | cons dependent rest ih =>
      rw [each_cons] at ran
      let turn : StackTurn := ⟨service, dependent, stack.services,
        startsDependent env.base dependent.metadata stack.services⟩
      have noted {middle : Stacks} {outcome : Except CoreError Unit}
          (firstRan : considerDependent env call service dependent stack =
            some (outcome, middle)) :
          ∃ turns, middle.turns = stack.turns ++ turn :: turns ∧
            (∀ other ∈ turn :: turns, other.Decided env.base) ∧
            ((∀ other ∈ turn :: turns, other.Declared env.base) → outcome = .ok ()) := by
        obtain ⟨turns, turns_eq, decided, ok⟩ :=
          considerDependent_notes (calls dependent List.mem_cons_self) firstRan
        refine ⟨turns, turns_eq, List.forall_mem_cons.mpr ⟨rfl, decided⟩, fun declared => ?_⟩
        obtain ⟨here, others⟩ := List.forall_mem_cons.mp declared
        exact ok others here
      rcases run_bind_cases ran with ⟨err, firstRan, rfl⟩ | ⟨_, middle, firstRan, restRan⟩
      · obtain ⟨turns, turns_eq, decided, ok⟩ := noted firstRan
        refine ⟨turn :: turns, turns_eq, decided, fun declared => ?_, nofun⟩
        cases ok declared
      · obtain ⟨turns, turns_eq, decided, -⟩ := noted firstRan
        obtain ⟨turns', turns_eq', decided', ok, all⟩ :=
          ih (fun other member => calls other (List.mem_cons_of_mem _ member)) restRan
        refine ⟨turn :: turns ++ turns', ?_, ?_, ?_, ?_⟩
        · rw [turns_eq', turns_eq, List.append_assoc]
        · intro other member
          exact (List.mem_append.mp member).elim (decided other) (decided' other)
        · exact fun declared => ok fun other member =>
            declared other (List.mem_append_right _ member)
        · intro fine other member
          rcases List.mem_cons.mp member with rfl | member
          · exact ⟨turn, by simp, rfl, rfl⟩
          · obtain ⟨found, inside, same⟩ := all fine other member
            exact ⟨found, List.mem_append_right _ inside, same⟩

variable [TomlText]

/-- A start notes turns, and fails by itself only if its service is not found. -/
theorem startStack_notes (depth : Nat) (request : StartRequest) :
    Notes env (found env request.name) (iterate (startStack env) depth request) := by
  induction depth generalizing request with
  | zero => intro stack result final ran; cases ran
  | succ depth ih =>
      intro stack result final ran
      have outcome := start_found (env.at stack.starts) request stack.services
      rw [iterate] at ran
      split at outcome
      · obtain ⟨services, started⟩ := outcome
        rw [startStack_run started] at ran
        have follows : Notes env (fun _ => True) (followStart env (iterate (startStack env) depth)
            request (followUp (env.at stack.starts) request stack.services)) := by
          apply followStart_rule Notes.rule
          · exact fun _ => Notes.change fun _ => rfl
          · exact Notes.change fun _ => rfl
          · intro stack result final ran
            obtain ⟨turns, turns_eq, decided, ok, -⟩ :=
              considerEach_notes (fun dependent _ => ih (.plain dependent.name)) ran
            exact ⟨turns, turns_eq, decided, fun _ => ok⟩
        obtain ⟨turns, turns_eq, decided, ok⟩ := follows _ _ _ ran
        exact ⟨turns, turns_eq, decided, fun _ => ok trivial⟩
      · next missing =>
          obtain ⟨error, failed⟩ := outcome
          rw [startStack_failed failed] at ran
          cases ran
          exact ⟨[], (List.append_nil _).symm, by simp, fun here => absurd here missing⟩

/-- The dependents that reconciling starts are the ready ones, in their own scopes,
exactly if in every turn the two questions have the same answer. -/
theorem startsReady_iff {depth : Nat} {service : Ustr} {stack final : Stacks}
    {result : Except CoreError Unit}
    (ran : reconcileStacks env (iterate (startStack env) depth) service .started stack =
      some (result, final)) :
    StartsReady env service stack final ↔
      ∀ turn ∈ stack.turnsSince final, turn.agrees env.base := by
  obtain ⟨turns, turns_eq, decided, ok, all⟩ :=
    considerEach_notes (fun dependent _ => startStack_notes depth (.plain dependent.name)) ran
  have since : stack.turnsSince final = turns := by
    rw [Stacks.turnsSince, turns_eq, List.drop_left]
  have settled (turn : StackTurn) (member : turn ∈ turns) :=
    StackTurn.agrees_iff (decided turn member)
  constructor
  · intro starts turn member
    rw [since] at member
    rw [settled turn member]
    rw [← since] at member
    exact ⟨starts.ready turn member, starts.declared turn member⟩
  · intro agrees
    rw [since] at agrees
    have declared : ∀ turn ∈ turns, turn.Declared env.base :=
      fun turn member => ((settled turn member).mp (agrees turn member)).2
    refine ⟨?_, ?_, ?_⟩
    · rw [since]
      exact all (ok declared)
    · rw [since]
      exact fun turn member => ((settled turn member).mp (agrees turn member)).1
    · rw [since]
      exact declared

end Dependents

/-! ## A small stack -/

/-- The database runs. -/
def layerStack : Stacks :=
  runningStack [("app:db@static", layer "db" [], [.new "" none (some ⟨100⟩)])]

open scoped Rind.Compact

/-- The turns after the start of the database, where each service is started. -/
def layerRun (layers : List ServiceMetadata) : Option (Except CoreError Unit × Stacks) :=
  reconcileStacks (layerEnv layers) (iterate (startStack (layerEnv layers)) 1) "app:db@static"
    .started layerStack

/-- A service that comes after two others is started after the first of them. -/
theorem not_startsReady_any :
    ¬ ∀ (env : StackEnv) (depth : Nat) (service : Ustr) (stack final : Stacks)
      (result : Except CoreError Unit),
      reconcileStacks env (iterate (startStack env) depth) service .started stack =
          some (result, final) →
        StartsReady env service stack final := by
  intro ready
  have ran : (layerRun [layer "web" ["app:db", "app:cache"]]).map (fun outcome =>
      (outcome.1, (layerStack.turnsSince outcome.2).map fun turn =>
        (turn.started, turn.dependent.isReady
          (layerEnv [layer "web" ["app:db", "app:cache"]]).base turn.services))) =
      some (.ok (), [(true, false)]) := by decide +kernel
  obtain ⟨⟨result, final⟩, ran, checked⟩ := Option.map_eq_some_iff.mp ran
  obtain ⟨-, turns⟩ := Prod.mk.inj checked
  have starts := ready _ _ _ _ _ _ ran
  obtain ⟨turn, turns_eq, decided⟩ := List.map_eq_singleton_iff.mp turns
  have same := starts.ready turn (by rw [turns_eq]; exact List.mem_singleton_self _)
  obtain ⟨started, unready⟩ := Prod.mk.inj decided
  rw [started, unready] at same
  cases same

/-- A service that comes after the database alone is started rightly. -/
theorem startsReady_iff_single : ∃ final : Stacks,
    (layerStack.turnsSince final).map StackTurn.started = [true] ∧
      StartsReady (layerEnv [layer "web" ["app:db"]]) "app:db@static" layerStack final := by
  have ran : (layerRun [layer "web" ["app:db"]]).map (fun outcome =>
      (outcome.1, (layerStack.turnsSince outcome.2).map fun turn =>
        (turn.started, turn.agrees (layerEnv [layer "web" ["app:db"]]).base))) =
      some (.ok (), [(true, true)]) := by decide +kernel
  obtain ⟨⟨result, final⟩, ran, checked⟩ := Option.map_eq_some_iff.mp ran
  obtain ⟨-, turns⟩ := Prod.mk.inj checked
  obtain ⟨turn, turns_eq, decided⟩ := List.map_eq_singleton_iff.mp turns
  obtain ⟨started, agrees⟩ := Prod.mk.inj decided
  have settled : StartsReady (layerEnv [layer "web" ["app:db"]]) "app:db@static" layerStack
      final ↔ _ := startsReady_iff ran
  refine ⟨final, by rw [turns_eq, List.map_singleton, started], settled.mpr ?_⟩
  rw [turns_eq]
  intro other member
  rw [List.mem_singleton.mp member]
  exact agrees

end Rind
