import Rind.Prog.Mailbox
import Rind.Prog.Runs
import Mathlib.Data.List.AList
import Mathlib.Data.List.Range
import Mathlib.Data.List.Sort

/-!
# The event bus

Subscriptions to a type of events are channels, whose senders the bus keeps for each type.
An event goes to all senders of its type, and those whose receiver is gone are forgotten.
The bus then notifies the event loop, which sleeps until it has been notified.
-/

namespace Rind.Events

/-! ## The bus -/

section Bus

variable {ι ε : Type}

/-- A channel of `std::sync::mpsc`, for events of a type. -/
structure Channel (ι ε : Type) where
  type : ι
  queue : List ε
  /-- Whether the receiver has not been dropped. -/
  connected : Bool
  deriving DecidableEq, Repr

/-- A sender, whose type is only known when an event is sent. -/
structure ErasedChannel (ι : Type) where
  type : ι
  sender : Nat
  deriving DecidableEq, Repr

/-- The eventfd of the event loop. -/
structure Notifier where
  counter : Nat
  deriving DecidableEq, Repr

namespace Notifier

/-- The largest value of an eventfd, at which a write fails. -/
def maxCounter : Nat := 0xfffffffffffffffe

def notify (notifier : Notifier) : Notifier :=
  if notifier.counter < maxCounter then ⟨notifier.counter + 1⟩ else notifier

def reset (_ : Notifier) : Notifier := ⟨0⟩

end Notifier

/-- A bus with the channels that have been made for its subscriptions. -/
structure EventBus (ι ε : Type) [DecidableEq ι] where
  channels : AList fun _ : ι => List (ErasedChannel ι)
  notifier : Option Notifier
  pipes : List (Channel ι ε)

/-- `Sender::send`: whether there is a receiver. -/
def send (event : ε) (pipes : List (Channel ι ε)) (sender : Nat) : Bool × List (Channel ι ε) :=
  match pipes[sender]? with
  | some pipe =>
      if pipe.connected then
        (true, pipes.set sender { pipe with queue := pipe.queue ++ [event] })
      else (false, pipes)
  | none => (false, pipes)

namespace EventBus

variable [DecidableEq ι] (bus : EventBus ι ε)

def new (ι ε : Type) [DecidableEq ι] (notifier : Option Notifier) : EventBus ι ε := ⟨∅, notifier, []⟩

/-- The senders for a type. -/
def senders (type : ι) : List (ErasedChannel ι) := (bus.channels.lookup type).getD []

def subscribe (type : ι) : EventBus ι ε :=
  { bus with
    channels := bus.channels.insert type (bus.senders type ++ [⟨type, bus.pipes.length⟩])
    pipes := bus.pipes ++ [⟨type, [], true⟩] }

/-- The senders that are retained, each of which has sent the event. -/
def retain (type : ι) (event : ε) :
    List (ErasedChannel ι) → List (Channel ι ε) → List (ErasedChannel ι) × List (Channel ι ε)
  | [], pipes => ([], pipes)
  | erased :: rest, pipes =>
      let (kept, pipes) := if erased.type = type then send event pipes erased.sender else (false, pipes)
      let (others, pipes) := retain type event rest pipes
      (if kept then erased :: others else others, pipes)

def emit (typeOf : ε → ι) (event : ε) : EventBus ι ε :=
  match bus.channels.lookup (typeOf event) with
  | some senders =>
      let (kept, pipes) := retain (typeOf event) event senders bus.pipes
      ⟨bus.channels.insert (typeOf event) kept, bus.notifier.map Notifier.notify, pipes⟩
  | none => bus

/-- What a subscription has still to receive. -/
def queue (sub : Nat) : List ε := (bus.pipes[sub]?.map Channel.queue).getD []

def setQueue (sub : Nat) (queue : List ε) : EventBus ι ε :=
  { bus with pipes := bus.pipes.modify sub fun pipe => { pipe with queue } }

/-- `Subscription::try_recv` -/
def tryRecv (sub : Nat) : Option ε × EventBus ι ε :=
  ((bus.queue sub).head?, bus.setQueue sub (bus.queue sub).tail)

/-- `Subscription::drain` -/
def drain (sub : Nat) : List ε × EventBus ι ε := (bus.queue sub, bus.setQueue sub [])

/-- A subscription is dropped, and what it has not received is lost. -/
def drop (sub : Nat) : EventBus ι ε :=
  { bus with pipes := bus.pipes.modify sub fun pipe => { pipe with queue := [], connected := false } }

end EventBus

/-- What is done with a bus and its subscriptions. -/
inductive BusStep (ι ε : Type) where
  | subscribe (type : ι)
  | emit (event : ε)
  | tryRecv (sub : Nat)
  | drain (sub : Nat)
  | drop (sub : Nat)
  deriving DecidableEq

namespace EventBus

variable [DecidableEq ι] (typeOf : ε → ι)

def step (bus : EventBus ι ε) : BusStep ι ε → EventBus ι ε
  | .subscribe type => bus.subscribe type
  | .emit event => bus.emit typeOf event
  | .tryRecv sub => (bus.tryRecv sub).2
  | .drain sub => (bus.drain sub).2
  | .drop sub => bus.drop sub

/-- What a subscription receives in a step. -/
def receives (bus : EventBus ι ε) (sub : Nat) : BusStep ι ε → List ε
  | .tryRecv other => if other = sub then (bus.tryRecv sub).1.toList else []
  | .drain other => if other = sub then (bus.drain sub).1 else []
  | _ => []

/-- What a subscription receives in a run. -/
def received (sub : Nat) : EventBus ι ε → List (BusStep ι ε) → List ε
  | _, [] => []
  | bus, label :: rest => bus.receives sub label ++ received sub (bus.step typeOf label) rest

end EventBus

/-- The event of a type that a step emits. -/
def BusStep.emitted [DecidableEq ι] (typeOf : ε → ι) (type : ι) : BusStep ι ε → Option ε
  | .emit event => if typeOf event = type then some event else none
  | _ => none

/-! ## What an event does -/

/-- A channel takes an event while it has a receiver. -/
def Channel.push (event : ε) (pipe : Channel ι ε) : Channel ι ε :=
  if pipe.connected then { pipe with queue := pipe.queue ++ [event] } else pipe

@[simp] theorem Channel.push_type (event : ε) (pipe : Channel ι ε) :
    (pipe.push event).type = pipe.type := by
  rw [Channel.push]
  split <;> rfl

@[simp] theorem Channel.push_connected (event : ε) (pipe : Channel ι ε) :
    (pipe.push event).connected = pipe.connected := by
  rw [Channel.push]
  split <;> rfl

section Send

variable (event : ε) (pipes : List (Channel ι ε)) (sender : Nat)

theorem send_fst : (send event pipes sender).1 = pipes[sender]?.any Channel.connected := by
  rw [send]
  cases found : pipes[sender]? with
  | none => rfl
  | some pipe => cases connected : pipe.connected <;> simp [connected]

theorem send_snd (other : Nat) : (send event pipes sender).2[other]? =
    if other = sender then pipes[other]?.map (Channel.push event) else pipes[other]? := by
  rw [send]
  by_cases same : other = sender
  · subst same
    rw [if_pos rfl]
    cases found : pipes[other]? with
    | none => exact found
    | some pipe =>
        obtain ⟨inside, rfl⟩ := List.getElem?_eq_some_iff.mp found
        cases connected : pipes[other].connected <;> simp [Channel.push, connected, inside]
  · rw [if_neg same]
    cases pipes[sender]? with
    | none => rfl
    | some pipe =>
        cases connected : pipe.connected <;> simp [connected, Ne.symm same]

end Send

/-- The senders that are retained are those with a receiver, and the event goes to all. -/
theorem EventBus.retain_spec [DecidableEq ι] {type : ι} (event : ε) {erased : List (ErasedChannel ι)}
    (typed : ∀ sender ∈ erased, sender.type = type) (pipes : List (Channel ι ε))
    (apart : erased.Pairwise fun first second => first.sender < second.sender) :
    (retain type event erased pipes).1 =
        erased.filter (fun sender => pipes[sender.sender]?.any Channel.connected) ∧
      ∀ sub, (retain type event erased pipes).2[sub]? =
        if sub ∈ erased.map ErasedChannel.sender then pipes[sub]?.map (Channel.push event)
        else pipes[sub]? := by
  induction erased generalizing pipes with
  | nil => exact ⟨rfl, fun _ => by simp [retain]⟩
  | cons first rest ih =>
      obtain ⟨firstTyped, restTyped⟩ := List.forall_mem_cons.mp typed
      obtain ⟨before, restApart⟩ := List.pairwise_cons.mp apart
      obtain ⟨kept, pushed⟩ := ih restTyped (send event pipes first.sender).2 restApart
      -- the other senders do not see the first one's channel
      have unseen : ∀ sender ∈ rest, (send event pipes first.sender).2[sender.sender]? =
          pipes[sender.sender]? := by
        intro sender listed
        rw [send_snd, if_neg (Nat.ne_of_gt (before sender listed))]
      rw [retain, if_pos firstTyped]
      constructor
      · simp only
        rw [kept, List.filter_cons, send_fst]
        congr 1
        · congr 1
          apply List.filter_congr
          intro sender listed
          rw [unseen sender listed]
        · apply List.filter_congr
          intro sender listed
          rw [unseen sender listed]
      · intro sub
        simp only
        rw [pushed, send_snd]
        by_cases same : sub = first.sender
        · have outside : sub ∉ rest.map ErasedChannel.sender := by
            rintro listed
            obtain ⟨sender, listed, found⟩ := List.mem_map.mp listed
            have := before sender listed
            omega
          rw [if_neg outside, if_pos same, if_pos (by simp [same])]
        · simp [same]

/-! ## Every subscription has its sender -/

namespace EventBus

variable [DecidableEq ι] {typeOf : ε → ι} {bus : EventBus ι ε}

/-- The senders for a type are in the order of the subscriptions, each belongs to a channel
of the type, and each subscription that is there has one. -/
structure Registered (bus : EventBus ι ε) : Prop where
  ordered : ∀ type, (bus.senders type).Pairwise fun first second => first.sender < second.sender
  typed : ∀ type, ∀ erased ∈ bus.senders type, erased.type = type ∧
    ∃ pipe, bus.pipes[erased.sender]? = some pipe ∧ pipe.type = type
  listed : ∀ sub pipe, bus.pipes[sub]? = some pipe → pipe.connected = true →
    ⟨pipe.type, sub⟩ ∈ bus.senders pipe.type

theorem registered_new (notifier : Option Notifier) : (new ι ε notifier).Registered :=
  ⟨fun _ => .nil, fun _ _ listed => absurd listed List.not_mem_nil, nofun⟩

theorem getD_lookup_insert (channels : AList fun _ : ι => List (ErasedChannel ι)) (type other : ι)
    (erased : List (ErasedChannel ι)) : ((channels.insert type erased).lookup other).getD [] =
      if other = type then erased else (channels.lookup other).getD [] := by
  by_cases same : other = type
  · rw [if_pos same, same, AList.lookup_insert, Option.getD_some]
  · rw [if_neg same, AList.lookup_insert_ne same]

theorem senders_subscribe (type other : ι) : (bus.subscribe type).senders other =
    if other = type then bus.senders type ++ [⟨type, bus.pipes.length⟩] else bus.senders other :=
  getD_lookup_insert ..

/-- The channels that take an event of a type are those with a sender for the type. -/
theorem Registered.push_of_type (registered : bus.Registered) (event : ε) {sub : Nat}
    {pipe : Channel ι ε} (found : bus.pipes[sub]? = some pipe) (type : ι) :
    (if pipe.type = type then pipe.push event else pipe) =
      if sub ∈ (bus.senders type).map ErasedChannel.sender then pipe.push event else pipe := by
  by_cases listed : sub ∈ (bus.senders type).map ErasedChannel.sender
  · rw [if_pos listed]
    obtain ⟨erased, member, rfl⟩ := List.mem_map.mp listed
    obtain ⟨-, other, found', ofType⟩ := registered.typed type erased member
    cases found.symm.trans found'
    rw [if_pos ofType]
  · rw [if_neg listed]
    by_cases ofType : pipe.type = type
    · rw [if_pos ofType, Channel.push, if_neg]
      intro connected
      subst ofType
      exact listed (List.mem_map_of_mem (registered.listed sub pipe found connected))
    · rw [if_neg ofType]

/-- What an event does: it goes to each subscription of its type, and the senders that are
left for the type are those of the subscriptions that are there. -/
theorem Registered.emit_spec (registered : bus.Registered) (event : ε) :
    (bus.emit typeOf event).pipes = bus.pipes.map (fun pipe =>
        if pipe.type = typeOf event then pipe.push event else pipe) ∧
      ∀ type, (bus.emit typeOf event).senders type =
        if type = typeOf event then (bus.senders type).filter
          (fun erased => bus.pipes[erased.sender]?.any Channel.connected)
        else bus.senders type := by
  rw [emit]
  cases known : bus.channels.lookup (typeOf event) with
  | none =>
      have nobody : bus.senders (typeOf event) = [] := by rw [senders, known]; rfl
      constructor
      · apply List.ext_getElem?
        intro sub
        rw [List.getElem?_map]
        cases found : bus.pipes[sub]? with
        | none => rfl
        | some pipe =>
            rw [Option.map_some, registered.push_of_type event found, nobody, List.map_nil,
              if_neg List.not_mem_nil]
      · intro type
        by_cases same : type = typeOf event
        · rw [if_pos same, same, nobody]
          rfl
        · rw [if_neg same]
  | some erased =>
      have same : bus.senders (typeOf event) = erased := by rw [senders, known]; rfl
      obtain ⟨kept, pushed⟩ := retain_spec event
        (fun sender listed => (registered.typed _ sender (same ▸ listed)).1) bus.pipes
        (same ▸ registered.ordered _)
      constructor
      · apply List.ext_getElem?
        intro sub
        refine (pushed sub).trans ?_
        rw [List.getElem?_map]
        cases found : bus.pipes[sub]? with
        | none => simp
        | some pipe =>
            rw [Option.map_some, Option.map_some, registered.push_of_type event found, same]
            split <;> rfl
      · intro type
        refine (getD_lookup_insert ..).trans ?_
        rw [kept]
        split
        · rename_i ofType
          rw [ofType, same]
        · rfl

end EventBus

/-- What a step makes of the channel of a subscription. -/
def Channel.after [DecidableEq ι] (typeOf : ε → ι) (sub : Nat) (pipe : Channel ι ε) :
    BusStep ι ε → Channel ι ε
  | .subscribe _ => pipe
  | .emit event => if pipe.type = typeOf event then pipe.push event else pipe
  | .tryRecv other => if other = sub then { pipe with queue := pipe.queue.tail } else pipe
  | .drain other => if other = sub then { pipe with queue := [] } else pipe
  | .drop other => if other = sub then { pipe with queue := [], connected := false } else pipe

section After

variable [DecidableEq ι] {typeOf : ε → ι} {sub : Nat} {pipe : Channel ι ε} {label : BusStep ι ε}

@[simp] theorem Channel.after_type : (pipe.after typeOf sub label).type = pipe.type := by
  cases label <;> rw [Channel.after] <;> split <;> first | rfl | exact pipe.push_type _

/-- A subscription that was dropped does not come back. -/
theorem Channel.connected_of_after (still : (pipe.after typeOf sub label).connected = true) :
    pipe.connected = true := by
  cases label with
  | subscribe type => exact still
  | emit event =>
      rw [Channel.after] at still
      split at still
      · rwa [Channel.push_connected] at still
      · exact still
  | tryRecv other =>
      rw [Channel.after] at still
      split at still <;> exact still
  | drain other =>
      rw [Channel.after] at still
      split at still <;> exact still
  | drop other =>
      rw [Channel.after] at still
      split at still
      · cases still
      · exact still

end After

namespace EventBus

variable [DecidableEq ι] {typeOf : ε → ι} {bus : EventBus ι ε}

theorem getElem?_setQueue (sub other : Nat) (queue : List ε) : (bus.setQueue sub queue).pipes[other]? =
    bus.pipes[other]?.map fun pipe => if sub = other then { pipe with queue } else pipe := by
  rw [setQueue, List.getElem?_modify]
  rfl

theorem queue_of_getElem? {sub : Nat} {pipe : Channel ι ε} (found : bus.pipes[sub]? = some pipe) :
    bus.queue sub = pipe.queue := by
  rw [queue, found]
  rfl

/-- What a step makes of the channels there are. -/
theorem Registered.getElem?_step (registered : bus.Registered) (label : BusStep ι ε) {sub : Nat}
    {pipe : Channel ι ε} (found : bus.pipes[sub]? = some pipe) :
    (bus.step typeOf label).pipes[sub]? = some (pipe.after typeOf sub label) := by
  cases label with
  | subscribe type =>
      rw [step, subscribe, List.getElem?_append_left (List.getElem?_eq_some_iff.mp found).1]
      exact found
  | emit event => rw [step, (registered.emit_spec event).1, List.getElem?_map, found]; rfl
  | tryRecv other =>
      rw [step, tryRecv, Channel.after, getElem?_setQueue, found, Option.map_some]
      congr 1
      apply ite_congr rfl _ (fun _ => rfl)
      rintro rfl
      rw [queue_of_getElem? found]
  | drain other => rw [step, drain, Channel.after, getElem?_setQueue, found, Option.map_some]
  | drop other =>
      rw [step, drop, Channel.after, List.getElem?_modify, found]
      rfl

/-- A channel after a step was there before, or it is that of a new subscription. -/
theorem Registered.getElem?_step_cases (registered : bus.Registered) {label : BusStep ι ε} {sub : Nat}
    {after : Channel ι ε} (found : (bus.step typeOf label).pipes[sub]? = some after) :
    (∃ pipe, bus.pipes[sub]? = some pipe ∧ after = pipe.after typeOf sub label) ∨
      ∃ type, label = .subscribe type ∧ sub = bus.pipes.length ∧ after = ⟨type, [], true⟩ := by
  cases before : bus.pipes[sub]? with
  | some pipe =>
      rw [registered.getElem?_step label before] at found
      cases found
      exact .inl ⟨pipe, rfl, rfl⟩
  | none =>
      have outside : bus.pipes.length ≤ sub := List.getElem?_eq_none_iff.mp before
      have inside := (List.getElem?_eq_some_iff.mp found).1
      cases label with
      | subscribe type =>
          rw [step, subscribe, List.length_append, List.length_singleton] at inside
          obtain rfl : sub = bus.pipes.length := by omega
          rw [step, subscribe, List.getElem?_append_right (Nat.le_refl _), Nat.sub_self] at found
          cases found
          exact .inr ⟨type, rfl, rfl, rfl⟩
      | emit event =>
          rw [step, (registered.emit_spec event).1, List.length_map] at inside
          omega
      | tryRecv other =>
          rw [step, tryRecv, setQueue, List.length_modify] at inside
          omega
      | drain other =>
          rw [step, drain, setQueue, List.length_modify] at inside
          omega
      | drop other =>
          rw [step, drop, List.length_modify] at inside
          omega

/-- The senders for a type after a step. -/
theorem Registered.mem_senders_step (registered : bus.Registered) {label : BusStep ι ε} {type : ι}
    {erased : ErasedChannel ι} : erased ∈ (bus.step typeOf label).senders type ↔
      (erased ∈ bus.senders type ∧ ∀ event, label = .emit event → typeOf event = type →
        (bus.pipes[erased.sender]?.any Channel.connected) = true) ∨
      label = .subscribe type ∧ erased = ⟨type, bus.pipes.length⟩ := by
  cases label with
  | subscribe other =>
      rw [step, senders_subscribe]
      by_cases same : type = other
      · subst same
        simp
      · simp [same, Ne.symm same]
  | emit event =>
      rw [step, (registered.emit_spec event).2]
      by_cases same : type = typeOf event
      · subst same
        simp [List.mem_filter]
      · simp [same, Ne.symm same]
  | tryRecv other => simp [step, tryRecv, setQueue, senders]
  | drain other => simp [step, drain, setQueue, senders]
  | drop other => simp [step, drop, senders]

/-- The senders keep their order. -/
theorem Registered.ordered_step (registered : bus.Registered) (label : BusStep ι ε) (type : ι) :
    ((bus.step typeOf label).senders type).Pairwise fun first second =>
      first.sender < second.sender := by
  cases label with
  | subscribe other =>
      rw [step, senders_subscribe]
      split
      · refine List.pairwise_append.mpr ⟨registered.ordered other, List.pairwise_singleton .., ?_⟩
        intro first listed second new
        obtain ⟨-, pipe, found, -⟩ := registered.typed other first listed
        rw [List.mem_singleton.mp new]
        exact (List.getElem?_eq_some_iff.mp found).1
      · exact registered.ordered type
  | emit event =>
      rw [step, (registered.emit_spec event).2]
      split
      · exact (registered.ordered type).filter _
      · exact registered.ordered type
  | _ => exact registered.ordered type

/-- Every step keeps the senders registered. -/
theorem Registered.step (typeOf : ε → ι) (registered : bus.Registered) (label : BusStep ι ε) :
    (bus.step typeOf label).Registered where
  ordered := registered.ordered_step label
  typed := by
    intro type erased listed
    rcases registered.mem_senders_step.mp listed with ⟨before, -⟩ | ⟨rfl, rfl⟩
    · obtain ⟨typed, pipe, found, ofType⟩ := registered.typed type erased before
      exact ⟨typed, _, registered.getElem?_step label found, Channel.after_type.trans ofType⟩
    · refine ⟨rfl, ⟨type, [], true⟩, ?_, rfl⟩
      rw [EventBus.step, subscribe, List.getElem?_append_right (Nat.le_refl _), Nat.sub_self]
      rfl
  listed := by
    intro sub after found connected
    rw [registered.mem_senders_step]
    rcases registered.getElem?_step_cases found with ⟨pipe, before, rfl⟩ | ⟨type, rfl, rfl, rfl⟩
    · have still := Channel.connected_of_after connected
      rw [Channel.after_type]
      refine .inl ⟨registered.listed sub pipe before still, ?_⟩
      intro event emits ofType
      rw [before]
      exact still
    · exact .inr ⟨rfl, rfl⟩

/-! ## Deliveries -/

/-- What a subscription receives in a step comes from the front of its channel, and what the
step emits of its type goes to the end. -/
theorem receives_after (typeOf : ε → ι) {sub : Nat} {pipe : Channel ι ε} (found : bus.pipes[sub]? = some pipe)
    (connected : pipe.connected = true) {label : BusStep ι ε} (kept : label ≠ .drop sub) :
    bus.receives sub label ++ (pipe.after typeOf sub label).queue =
        pipe.queue ++ (label.emitted typeOf pipe.type).toList ∧
      (pipe.after typeOf sub label).connected = true := by
  cases label with
  | subscribe type => simp [receives, Channel.after, BusStep.emitted, connected]
  | emit event =>
      rw [Channel.after, BusStep.emitted]
      by_cases ofType : pipe.type = typeOf event
      · simp [receives, ofType, Channel.push, connected]
      · simp [receives, ofType, Ne.symm ofType, connected]
  | tryRecv other =>
      rw [Channel.after]
      by_cases same : other = sub
      · subst same
        rw [receives, if_pos rfl, if_pos rfl, tryRecv, queue_of_getElem? found]
        cases pipe.queue <;> simp [BusStep.emitted, connected]
      · simp [receives, same, BusStep.emitted, connected]
  | drain other =>
      rw [Channel.after]
      by_cases same : other = sub
      · subst same
        simp [receives, drain, queue_of_getElem? found, BusStep.emitted, connected]
      · simp [receives, same, BusStep.emitted, connected]
  | drop other =>
      have apart : other ≠ sub := fun same => kept (same ▸ rfl)
      simp [receives, Channel.after, apart, BusStep.emitted, connected]

/-- A subscription that is not dropped receives what is emitted of its type: what it has
received is what waited for it and what was emitted since, up to what still waits. -/
theorem Registered.received_spec (registered : bus.Registered) {sub : Nat} {pipe : Channel ι ε}
    (found : bus.pipes[sub]? = some pipe) (connected : pipe.connected = true)
    {labels : List (BusStep ι ε)} (kept : ∀ label ∈ labels, label ≠ .drop sub) :
    received typeOf sub bus labels ++ (Runs.run (EventBus.step typeOf) bus labels).queue sub =
      pipe.queue ++ labels.filterMap (BusStep.emitted typeOf pipe.type) := by
  induction labels generalizing bus pipe with
  | nil => simp [received, queue_of_getElem? found]
  | cons label rest ih =>
      obtain ⟨first, others⟩ := List.forall_mem_cons.mp kept
      obtain ⟨delivered, still⟩ := receives_after typeOf found connected first
      have later := ih (registered.step typeOf label) (registered.getElem?_step label found) still others
      rw [Channel.after_type] at later
      rw [received, Runs.run_cons, List.append_assoc, later, ← List.append_assoc, delivered,
        List.append_assoc]
      congr 1
      cases emits : label.emitted typeOf pipe.type with
      | none => rw [List.filterMap_cons_none emits]; rfl
      | some event => rw [List.filterMap_cons_some emits]; rfl

theorem Registered.run (typeOf : ε → ι) (registered : bus.Registered)
    (labels : List (BusStep ι ε)) : (Runs.run (EventBus.step typeOf) bus labels).Registered :=
  Runs.run_invariant (fun _ label holds => holds.step typeOf label) labels registered

/-- Whatever happens on a bus, a new subscription receives exactly the events of its type
that are emitted while it is there, once each and in the order they are emitted, and those
it has not received yet wait for it. -/
theorem subscription_receives (typeOf : ε → ι) (notifier : Option Notifier)
    (before labels : List (BusStep ι ε)) (type : ι) (bus : EventBus ι ε)
    (reached : bus = Runs.run (EventBus.step typeOf) (new ι ε notifier) before)
    (kept : ∀ label ∈ labels, label ≠ .drop bus.pipes.length) :
    received typeOf bus.pipes.length (bus.subscribe type) labels ++
        (Runs.run (EventBus.step typeOf) (bus.subscribe type) labels).queue bus.pipes.length =
      labels.filterMap (BusStep.emitted typeOf type) := by
  subst reached
  have registered := (registered_new (ε := ε) notifier).run typeOf before
  exact (registered.step typeOf (.subscribe type)).received_spec
    List.getElem?_concat_length rfl kept

/-- The subscriptions to a type that are there, in the order in which they were made. -/
def subscriptions (bus : EventBus ι ε) (type : ι) : List Nat :=
  (List.range bus.pipes.length).filter fun sub =>
    bus.pipes[sub]?.any fun pipe => pipe.connected && decide (pipe.type = type)

theorem mem_subscriptions {type : ι} {sub : Nat} : sub ∈ bus.subscriptions type ↔
    ∃ pipe, bus.pipes[sub]? = some pipe ∧ pipe.connected = true ∧ pipe.type = type := by
  rw [subscriptions, List.mem_filter, List.mem_range, Option.any_eq_true]
  constructor
  · rintro ⟨-, pipe, found, both⟩
    obtain ⟨connected, ofType⟩ := Bool.and_eq_true_iff.mp both
    exact ⟨pipe, found, connected, of_decide_eq_true ofType⟩
  · rintro ⟨pipe, found, connected, ofType⟩
    exact ⟨(List.getElem?_eq_some_iff.mp found).1, pipe, found, by simp [connected, ofType]⟩

theorem Registered.mem_filter_senders (registered : bus.Registered) {type : ι} {sub : Nat} :
    ⟨type, sub⟩ ∈ (bus.senders type).filter
        (fun erased => bus.pipes[erased.sender]?.any Channel.connected) ↔
      sub ∈ bus.subscriptions type := by
  rw [List.mem_filter, mem_subscriptions, Option.any_eq_true]
  constructor
  · rintro ⟨listed, pipe, found, connected⟩
    obtain ⟨-, other, found', ofType⟩ := registered.typed type _ listed
    cases found.symm.trans found'
    exact ⟨pipe, found, connected, ofType⟩
  · rintro ⟨pipe, found, connected, rfl⟩
    exact ⟨registered.listed sub pipe found connected, pipe, found, connected⟩

/-- After any run, an event leaves as senders of its type exactly those of the subscriptions
that are there, in the order in which they were made. -/
theorem emit_forgets (typeOf : ε → ι) (notifier : Option Notifier) (labels : List (BusStep ι ε))
    (event : ε) : ((Runs.run (EventBus.step typeOf) (new ι ε notifier) labels).emit typeOf event).senders
        (typeOf event) =
      ((Runs.run (EventBus.step typeOf) (new ι ε notifier) labels).subscriptions (typeOf event)).map
        fun sub => ⟨typeOf event, sub⟩ := by
  have registered := (registered_new (ε := ε) notifier).run typeOf labels
  generalize Runs.run (EventBus.step typeOf) (new ι ε notifier) labels = bus at registered ⊢
  rw [(registered.emit_spec event).2, if_pos rfl]
  refine List.Pairwise.eq_of_mem_iff (r := fun first second => first.sender < second.sender)
    ((registered.ordered _).filter _) ?_ ?_
  · rw [List.pairwise_map]
    exact List.pairwise_lt_range.filter _
  · rintro ⟨type, sub⟩
    constructor
    · intro kept
      obtain ⟨rfl, -⟩ := registered.typed _ _ (List.mem_of_mem_filter kept)
      exact List.mem_map_of_mem (registered.mem_filter_senders.mp kept)
    · intro listed
      obtain ⟨sub, member, same⟩ := List.mem_map.mp listed
      cases same
      exact registered.mem_filter_senders.mpr member

end EventBus

/-! ## The event loop -/

/-- The event loop, which drains a subscription each time that it is woken up. -/
structure EventLoop (ι ε : Type) [DecidableEq ι] where
  bus : EventBus ι ε
  watched : Nat
  keeper : Keeper

/-- A step of the loop, or of a handler with the bus. The loop may also be woken up by something
else than the notifier. -/
inductive LoopStep (ι ε : Type) where
  | bus (step : BusStep ι ε)
  | wake (other : Bool)
  | reset
  | drainEvents
  | tryRecv
  | wait

namespace EventLoop

variable [DecidableEq ι] (typeOf : ε → ι) (loop : EventLoop ι ε)

/-- Whether the eventfd can be read. -/
def Notified : Prop := ∃ notifier, loop.bus.notifier = some notifier ∧ 0 < notifier.counter

instance : Decidable loop.Notified :=
  match held : loop.bus.notifier with
  | none => .isFalse (by simp [Notified, held])
  | some notifier => decidable_of_iff (0 < notifier.counter) (by simp [Notified, held])

def step (loop : EventLoop ι ε) : LoopStep ι ε → EventLoop ι ε
  | .bus label => { loop with bus := loop.bus.step typeOf label }
  | .wake other =>
      if loop.keeper = .asleep ∧ (other = true ∨ loop.Notified) then { loop with keeper := .awake }
      else loop
  | .reset =>
      if loop.keeper = .awake then
        { loop with bus := { loop.bus with notifier := loop.bus.notifier.map Notifier.reset } }
      else loop
  | .drainEvents => if loop.keeper = .awake then { loop with keeper := .taking } else loop
  | .tryRecv =>
      if loop.keeper = .taking then
        match loop.bus.tryRecv loop.watched with
        | (some _, bus) => { loop with bus }
        | (none, bus) => { loop with bus, keeper := .leaving }
      else loop
  | .wait => if loop.keeper = .leaving then { loop with keeper := .asleep } else loop

/-- The events that the loop watches, with the eventfd as their bell. -/
def box : Mailbox ε :=
  ⟨loop.bus.queue loop.watched, (loop.bus.notifier.map Notifier.counter).getD 0, loop.keeper⟩

variable {typeOf} {loop}

theorem notified_iff : loop.Notified ↔ 0 < loop.box.bell := by
  rw [Notified, box]
  cases loop.bus.notifier <;> simp

/-- Only an event fills a subscription. -/
theorem queue_of_step (registered : loop.bus.Registered) {label : BusStep ι ε}
    (quiet : ∀ event, label ≠ .emit event)
    (filled : (loop.bus.step typeOf label).queue loop.watched ≠ []) :
    loop.bus.queue loop.watched ≠ [] := by
  cases found : (loop.bus.step typeOf label).pipes[loop.watched]? with
  | none => rw [EventBus.queue, found] at filled; exact absurd rfl filled
  | some after =>
      rw [EventBus.queue_of_getElem? found] at filled
      rcases registered.getElem?_step_cases found with ⟨pipe, before, rfl⟩ | ⟨type, -, -, rfl⟩
      · rw [EventBus.queue_of_getElem? before]
        rintro nothing
        apply filled
        cases label <;> rw [Channel.after] <;> try (split <;> simp [nothing])
        · exact nothing
        · exact absurd rfl (quiet _)
      · exact absurd rfl filled

/-- An event for the watched subscription is announced, and nothing else fills it. -/
theorem heard_bus (registered : loop.bus.Registered) (held : loop.bus.notifier.isSome)
    (heard : loop.box.Heard False) (label : BusStep ι ε) :
    (loop.step typeOf (.bus label)).box.Heard False := by
  obtain ⟨notifier, held⟩ := Option.isSome_iff_exists.mp held
  cases label with
  | emit event =>
      cases known : loop.bus.channels.lookup (typeOf event) with
      | none =>
          have same : loop.bus.emit typeOf event = loop.bus := by rw [EventBus.emit, known]
          rw [step, EventBus.step, same]
          exact heard
      | some senders =>
          -- the notifier has been called, whatever has become of the channels
          have rung : (loop.step typeOf (.bus (.emit event))).box =
              Mailbox.ring Notifier.maxCounter
                ⟨(loop.bus.emit typeOf event).queue loop.watched, notifier.counter, loop.keeper⟩ := by
            rw [step, EventBus.step, box, EventBus.emit, known, Mailbox.ring]
            simp only [held, Option.map_some, Option.getD_some, Notifier.notify]
            split <;> rfl
          rw [rung]
          exact Mailbox.heard_ring (by decide)
  | subscribe type => exact heard.fewer (queue_of_step registered (by simp))
  | tryRecv sub => exact heard.fewer (queue_of_step registered (by simp))
  | drain sub => exact heard.fewer (queue_of_step registered (by simp))
  | drop sub => exact heard.fewer (queue_of_step registered (by simp))

/-! The loop does with its subscription and its eventfd what the keeper of a box does. -/

section Box

variable (typeOf) (loop)

theorem box_wake (other : Bool) : (loop.step typeOf (.wake other)).box = loop.box.wake ∨
    (loop.step typeOf (.wake other)).box = loop.box := by
  rw [step]
  split
  · rename_i asleep
    have slept : loop.box.keeper = .asleep := asleep.1
    rw [Mailbox.wake, if_pos slept]
    exact .inl rfl
  · exact .inr rfl

theorem box_reset : (loop.step typeOf .reset).box = loop.box.silence := by
  have keeper : loop.box.keeper = loop.keeper := rfl
  rw [step, Mailbox.silence, keeper]
  split
  · rw [box, box]
    cases loop.bus.notifier <;> rfl
  · rfl

theorem box_drainEvents : (loop.step typeOf .drainEvents).box = loop.box.open_ := by
  have keeper : loop.box.keeper = loop.keeper := rfl
  rw [step, Mailbox.open_, keeper]
  split <;> rfl

theorem queue_setQueue {bus : EventBus ι ε} {sub : Nat} (filled : bus.queue sub ≠ [])
    (queue : List ε) : (bus.setQueue sub queue).queue sub = queue := by
  cases found : bus.pipes[sub]? with
  | none => rw [EventBus.queue, found] at filled; exact absurd rfl filled
  | some pipe => rw [EventBus.queue, EventBus.getElem?_setQueue, found]; simp

theorem setQueue_nil {bus : EventBus ι ε} {sub : Nat} : (bus.setQueue sub []).queue sub = [] := by
  rw [EventBus.queue, EventBus.getElem?_setQueue]
  cases bus.pipes[sub]? <;> simp

theorem box_tryRecv : (loop.step typeOf .tryRecv).box = loop.box.take.2 := by
  have keeper : loop.box.keeper = loop.keeper := rfl
  have letters : loop.box.letters = loop.bus.queue loop.watched := rfl
  rw [step, Mailbox.take, keeper, letters]
  split
  · rw [EventBus.tryRecv]
    cases queued : loop.bus.queue loop.watched with
    | nil =>
        simp only [List.head?_nil, List.tail_nil, box, setQueue_nil, queued]
        rfl
    | cons event rest =>
        have filled : loop.bus.queue loop.watched ≠ [] := by simp [queued]
        simp only [List.head?_cons, List.tail_cons, box, queue_setQueue filled]
        rfl
  · rfl

theorem box_wait : (loop.step typeOf .wait).box = loop.box.sleep := by
  have keeper : loop.box.keeper = loop.keeper := rfl
  rw [step, Mailbox.sleep, keeper]
  split <;> rfl

end Box

theorem heard_step (registered : loop.bus.Registered) (held : loop.bus.notifier.isSome)
    (heard : loop.box.Heard False) (label : LoopStep ι ε) :
    (loop.step typeOf label).box.Heard False := by
  cases label with
  | bus label => exact heard_bus registered held heard label
  | wake other =>
      rcases box_wake typeOf loop other with woken | same
      · exact woken ▸ heard.wake
      · exact same ▸ heard
  | reset => exact box_reset typeOf loop ▸ heard.silence
  | drainEvents => exact box_drainEvents typeOf loop ▸ heard.open_
  | tryRecv => exact box_tryRecv typeOf loop ▸ heard.take
  | wait => exact box_wait typeOf loop ▸ heard.sleep

/-- What the loop relies on. -/
structure Ready (loop : EventLoop ι ε) : Prop where
  registered : loop.bus.Registered
  held : loop.bus.notifier.isSome
  heard : loop.box.Heard False

theorem isSome_notifier_step {bus : EventBus ι ε} (held : bus.notifier.isSome)
    (label : BusStep ι ε) : (bus.step typeOf label).notifier.isSome := by
  cases label with
  | emit event =>
      rw [EventBus.step, EventBus.emit]
      split
      · rw [Option.isSome_map]
        exact held
      · exact held
  | _ => exact held

theorem isSome_notifier_run (typeOf : ε → ι) (labels : List (BusStep ι ε)) {bus : EventBus ι ε}
    (held : bus.notifier.isSome) : (Runs.run (EventBus.step typeOf) bus labels).notifier.isSome := by
  induction labels generalizing bus with
  | nil => exact held
  | cons label rest ih => exact ih (isSome_notifier_step held label)

/-- The bus after a step of the loop itself. -/
theorem bus_step_cases (typeOf : ε → ι) (loop : EventLoop ι ε) (label : LoopStep ι ε) :
    (∃ step, (loop.step typeOf label).bus = loop.bus.step typeOf step) ∨
      (loop.step typeOf label).bus = loop.bus ∨ (loop.step typeOf label).bus =
        { loop.bus with notifier := loop.bus.notifier.map Notifier.reset } := by
  cases label with
  | bus label => exact .inl ⟨label, rfl⟩
  | tryRecv =>
      rw [step]
      split
      · refine .inl ⟨.tryRecv loop.watched, ?_⟩
        rw [EventBus.step]
        split
        · rename_i received
          rw [received]
        · rename_i received
          rw [received]
      · exact .inr (.inl rfl)
  | wake other =>
      rw [step]
      split <;> exact .inr (.inl rfl)
  | reset =>
      rw [step]
      split
      · exact .inr (.inr rfl)
      · exact .inr (.inl rfl)
  | drainEvents =>
      rw [step]
      split <;> exact .inr (.inl rfl)
  | wait =>
      rw [step]
      split <;> exact .inr (.inl rfl)

theorem Ready.step (ready : loop.Ready) (label : LoopStep ι ε) : (loop.step typeOf label).Ready where
  registered := by
    rcases bus_step_cases typeOf loop label with ⟨step, same⟩ | same | same
    · exact same ▸ ready.registered.step typeOf step
    · exact same ▸ ready.registered
    · rw [same]
      exact ⟨ready.registered.ordered, ready.registered.typed, ready.registered.listed⟩
  held := by
    rcases bus_step_cases typeOf loop label with ⟨step, same⟩ | same | same
    · exact same ▸ isSome_notifier_step ready.held step
    · exact same ▸ ready.held
    · rw [same, Option.isSome_map]
      exact ready.held
  heard := heard_step ready.registered ready.held ready.heard label

/-- Whatever the handlers do with the bus and whenever the loop looks for events, a loop that
sleeps while an event waits for its subscription has been notified, so that it is woken up. -/
theorem loop_notified (typeOf : ε → ι) (notifier : Notifier) (before : List (BusStep ι ε))
    (watched : Nat) (labels : List (LoopStep ι ε)) (loop : EventLoop ι ε)
    (reached : loop = Runs.run (EventLoop.step typeOf)
      ⟨Runs.run (EventBus.step typeOf) (.new ι ε (some notifier)) before, watched, .awake⟩ labels)
    (asleep : loop.keeper = .asleep) (waits : loop.bus.queue loop.watched ≠ []) :
    loop.Notified ∧ (loop.step typeOf (.wake false)).keeper = .awake := by
  have initial : (EventLoop.mk (Runs.run (EventBus.step typeOf) (.new ι ε (some notifier)) before)
      watched .awake).Ready :=
    ⟨(EventBus.registered_new (some notifier)).run typeOf before,
      isSome_notifier_run typeOf before rfl, nofun⟩
  have ready : loop.Ready := by
    rw [reached]
    exact Runs.run_invariant (fun _ label holds => holds.step label) labels initial
  have notified : loop.Notified :=
    notified_iff.mpr ((ready.heard (.inl asleep) waits).resolve_right id)
  refine ⟨notified, ?_⟩
  rw [EventLoop.step, if_pos ⟨asleep, .inr notified⟩]

end EventLoop

end Bus

/-! ## An example -/

/-- A second subscription to the events of type 0 gets what comes after it. -/
theorem subscription_receives_second :
    let bus : EventBus Nat (Nat × Nat) :=
      Runs.run (EventBus.step Prod.fst) (.new _ _ none) [.subscribe 0, .emit (0, 1)]
    EventBus.received Prod.fst 1 (bus.subscribe 0)
        [.emit (0, 7), .emit (1, 8), .tryRecv 1, .drop 0, .emit (0, 9)] ++
      (Runs.run (EventBus.step Prod.fst) (bus.subscribe 0)
        [.emit (0, 7), .emit (1, 8), .tryRecv 1, .drop 0, .emit (0, 9)]).queue 1 =
      [(0, 7), (0, 9)] :=
  EventBus.subscription_receives Prod.fst none [.subscribe 0, .emit (0, 1)]
    [.emit (0, 7), .emit (1, 8), .tryRecv 1, .drop 0, .emit (0, 9)] 0 _ rfl (by decide)

/-- The loop finds nothing to do, and an event comes while it is about to sleep. -/
theorem loop_notified_late :
    let loop : EventLoop Nat (Nat × Nat) := Runs.run (EventLoop.step Prod.fst)
      ⟨Runs.run (EventBus.step Prod.fst) (.new _ _ (some ⟨0⟩)) [.subscribe 0], 0, .awake⟩
      [.reset, .drainEvents, .tryRecv, .bus (.emit (0, 5)), .wait]
    loop.Notified ∧ (loop.step Prod.fst (.wake false)).keeper = .awake :=
  EventLoop.loop_notified Prod.fst ⟨0⟩ [.subscribe 0] 0
    [.reset, .drainEvents, .tryRecv, .bus (.emit (0, 5)), .wait] _ rfl (by decide) (by decide)

end Rind.Events
