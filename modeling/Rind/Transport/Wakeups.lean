import Rind.Prog.Runs
import Rind.Transport.Fifo

/-!
# Wake-ups over shared memory

The server puts messages into a ring and signals an eventfd, on which the client waits
before it drains the ring.  A broadcast is written before it is signalled, but an answer
is signalled before it is written.
-/

namespace Rind

/-! ## The parties -/

/-- Where the server is: a broadcast has been written and is to be signalled, or an answer
has been signalled and is to be written. -/
inductive ServerPoint where
  | idle
  | signalling
  | writing (answer : List UInt8)
  | panicked
  deriving DecidableEq, Repr

/-- Where the client is. -/
inductive ClientPoint where
  | resting
  | waiting
  | draining
  | panicked
  deriving DecidableEq, Repr

/-- The ring to a client with its eventfd, and both parties. A client that listens waits
again after each drain, and one that enquires rests until its next enquiry. -/
structure ShmSystem where
  ring : ShmRingBuffer
  counter : Nat
  listens : Bool
  server : ServerPoint
  client : ClientPoint

/-- A step of one of the parties. -/
inductive ShmStep where
  | sendMessage (data : List UInt8)
  | respond (answer : List UInt8)
  | goOn
  | wait
  | wake
  | drain

namespace ShmSystem

/-- The largest value of an eventfd, at which a signal blocks. -/
def maxCounter : Nat := 2 ^ 64 - 2

/-- A signal of the eventfd, after which the server is at some point. -/
def signal (system : ShmSystem) (next : ServerPoint) : ShmSystem :=
  if system.counter < maxCounter then { system with counter := system.counter + 1, server := next }
  else system

/-- A write of the server, after which it is at one point or another. -/
def put (system : ShmSystem) (data : List UInt8) (written full : ServerPoint) : ShmSystem :=
  match system.ring.write data with
  | .ok (true, ring) => { system with ring, server := written }
  | .ok (false, ring) => { system with ring, server := full }
  | .error _ => { system with server := .panicked }

/-- `send_message` -/
def sendMessage (system : ShmSystem) (data : List UInt8) : ShmSystem :=
  system.put data .signalling .idle

/-- `TransportResponder::send` -/
def respond (system : ShmSystem) (answer : List UInt8) : ShmSystem := system.signal (.writing answer)

/-- What the server has left to do. -/
def goOn (system : ShmSystem) : ShmSystem :=
  match system.server with
  | .signalling => system.signal .idle
  | .writing answer => system.put answer .idle .idle
  | _ => system

/-- The client reads the eventfd, which blocks as long as the counter is zero. -/
def wake (system : ShmSystem) : ShmSystem :=
  if system.counter = 0 then system else { system with counter := 0, client := .draining }

/-- The client reads a record, or finds the ring empty. -/
def drain (system : ShmSystem) : ShmSystem :=
  match system.ring.read with
  | .ok (some _, ring) => { system with ring }
  | .ok (none, ring) =>
      { system with ring, client := if system.listens then .waiting else .resting }
  | .error _ => { system with client := .panicked }

def step (system : ShmSystem) : ShmStep → ShmSystem
  | .sendMessage data => if system.server = .idle then system.sendMessage data else system
  | .respond answer => if system.server = .idle then system.respond answer else system
  | .goOn => system.goOn
  | .wait => if system.client = .resting then { system with client := .waiting } else system
  | .wake => if system.client = .waiting then system.wake else system
  | .drain => if system.client = .draining then system.drain else system

/-- A connection that has just been set up. -/
def start (bytes : Nat → UInt8) (listens : Bool) : ShmSystem :=
  ⟨.setUp bytes, 0, listens, .idle, .resting⟩

/-! ## What must hold -/

/-- Whether the ring has records to be read. -/
def Filled (system : ShmSystem) : Prop := system.ring.tail ≠ system.ring.head

/-- A client that waits while there is something to be read can go on. -/
def CanWake (system : ShmSystem) : Prop :=
  system.client = .waiting → system.server = .idle → system.Filled → 0 < system.counter

/-- The answer whose signal has woken the client is still to be written. -/
def AnswerPending (system : ShmSystem) : Prop :=
  system.counter = 0 ∧ ∃ answer, system.server = .writing answer

/-- A drain does not come to its end before the answer. -/
def DrainsAnswer (system : ShmSystem) : ShmStep → Prop
  | .drain => system.client = .draining → ¬ system.Filled → ¬ system.AnswerPending
  | _ => True

/-- The client does not wake up between the signal of an answer and the answer. -/
def WakesOutside (system : ShmSystem) : ShmStep → Prop
  | .wake => ∀ answer, system.server ≠ .writing answer
  | _ => True

/-! ## Invariant -/

/-- What keeps wake-ups from being lost: an answer to be written has a signal that has not
been read, and so does what is in the ring while the client does not drain it, unless it
is about to be signalled. -/
structure Signalled (system : ShmSystem) : Prop where
  answer : ∀ answer, system.server = .writing answer → 0 < system.counter
  filled : system.client = .resting ∨ system.client = .waiting → system.server ≠ .signalling →
    system.server ≠ .panicked → system.Filled → 0 < system.counter

variable {system : ShmSystem}

theorem Signalled.canWake (signalled : system.Signalled) : system.CanWake := by
  intro waiting idle filled
  exact signalled.filled (.inr waiting) (by rw [idle]; nofun) (by rw [idle]; nofun) filled

theorem Signalled.drainsAnswer (signalled : system.Signalled) (step : ShmStep) :
    system.DrainsAnswer step := by
  cases step with
  | drain =>
      rintro - - ⟨read, answer, writing⟩
      exact absurd read (Nat.pos_iff_ne_zero.mp (signalled.answer answer writing))
  | _ => trivial

/-! ### Steps -/

/-- Nothing is only read from an empty ring. -/
theorem empty_of_read {ring : ShmRingBuffer} (ran : system.ring.read = .ok (none, ring)) :
    ring = system.ring ∧ ¬ system.Filled := by
  rw [ShmRingBuffer.read] at ran
  split at ran
  · rename_i empty
    cases ran
    exact ⟨rfl, not_not.mpr empty⟩
  · obtain ⟨size, -, ran⟩ := bind_eq_ok.mp ran
    obtain ⟨length, -, ran⟩ := bind_eq_ok.mp ran
    obtain ⟨data, -, ran⟩ := bind_eq_ok.mp ran
    cases ran

theorem Signalled.signal (signalled : system.Signalled) (next : ServerPoint) :
    (system.signal next).Signalled := by
  rw [ShmSystem.signal]
  split
  · exact ⟨fun _ _ => Nat.succ_pos _, fun _ _ _ _ => Nat.succ_pos _⟩
  · exact signalled

/-- A record that does not fit leaves the ring as it is. -/
theorem ring_of_write_full {ring final : ShmRingBuffer} {data : List UInt8}
    (ran : ring.write data = .ok (false, final)) : final = ring := by
  obtain ⟨total, -, ran⟩ := bind_eq_ok.mp ran
  obtain ⟨size, -, ran⟩ := bind_eq_ok.mp ran
  obtain ⟨used, -, ran⟩ := bind_eq_ok.mp ran
  obtain ⟨needed, -, ran⟩ := bind_eq_ok.mp ran
  split at ran
  · cases ran
    rfl
  · obtain ⟨first, -, ran⟩ := bind_eq_ok.mp ran
    obtain ⟨second, -, ran⟩ := bind_eq_ok.mp ran
    cases ran

/-- A write is good if it is to be signalled, or has been. -/
theorem Signalled.put (signalled : system.Signalled) (data : List UInt8) {written : ServerPoint}
    (later : written = .signalling ∨ written = .idle ∧ 0 < system.counter)
    (still : system.server ≠ .signalling ∧ system.server ≠ .panicked) :
    (system.put data written .idle).Signalled := by
  rw [ShmSystem.put]
  split
  · rename_i ring ran
    rcases later with rfl | ⟨rfl, counted⟩
    · exact ⟨nofun, fun _ other => absurd rfl other⟩
    · exact ⟨nofun, fun _ _ _ _ => counted⟩
  · rename_i ring ran
    rw [ring_of_write_full ran]
    exact ⟨nofun, fun ready _ _ => signalled.filled ready still.1 still.2⟩
  · exact ⟨nofun, fun _ _ running => absurd rfl running⟩

theorem Signalled.drain (signalled : system.Signalled) (draining : system.client = .draining) :
    system.drain.Signalled := by
  rw [ShmSystem.drain]
  split
  · refine ⟨signalled.answer, ?_⟩
    rintro (ready | ready)
    · cases draining.symm.trans ready
    · cases draining.symm.trans ready
  · rename_i ring ran
    obtain ⟨rfl, empty⟩ := empty_of_read ran
    exact ⟨signalled.answer, fun _ _ _ filled => absurd filled empty⟩
  · refine ⟨signalled.answer, ?_⟩
    rintro (ready | ready)
    · cases ready
    · cases ready

/-- Every step keeps the signals, if the client wakes up outside. -/
theorem Signalled.step (signalled : system.Signalled) (step : ShmStep)
    (outside : system.WakesOutside step) : (system.step step).Signalled := by
  cases step with
  | sendMessage data =>
      rw [ShmSystem.step]
      split
      · rename_i idle
        apply signalled.put data (.inl rfl)
        rw [idle]
        exact ⟨nofun, nofun⟩
      · exact signalled
  | respond answer =>
      rw [ShmSystem.step]
      split
      · exact signalled.signal _
      · exact signalled
  | goOn =>
      rw [ShmSystem.step, ShmSystem.goOn]
      split
      · exact signalled.signal _
      · rename_i answer writing
        apply signalled.put answer (.inr ⟨rfl, signalled.answer answer writing⟩)
        rw [writing]
        exact ⟨nofun, nofun⟩
      · exact signalled
  | wait =>
      rw [ShmSystem.step]
      split
      · rename_i resting
        exact ⟨signalled.answer, fun _ => signalled.filled (.inl resting)⟩
      · exact signalled
  | wake =>
      rw [ShmSystem.step]
      split
      · rw [ShmSystem.wake]
        split
        · exact signalled
        · refine ⟨fun answer writing => absurd writing (outside answer), ?_⟩
          rintro (ready | ready)
          · cases ready
          · cases ready
      · exact signalled
  | drain =>
      rw [ShmSystem.step]
      split
      · rename_i draining
        exact signalled.drain draining
      · exact signalled

theorem signalled_start (bytes : Nat → UInt8) (listens : Bool) :
    (start bytes listens).Signalled :=
  ⟨nofun, fun _ _ _ filled => absurd rfl filled⟩

/-! ## Runs -/

/-- No wake-up is lost: a client that waits can go on, in every state of a run, and no drain
comes to its end before the answer for which the client was woken. -/
def NoLostWakeup (system : ShmSystem) (steps : List ShmStep) : Prop :=
  (∀ before, before <+: steps → (Runs.run step system before).CanWake) ∧
    Runs.Along step DrainsAnswer system steps

/-- No wake-up is lost as long as the client does not wake up between the signal of an
answer and the answer. -/
theorem noLostWakeup_of_wakesOutside (bytes : Nat → UInt8) (listens : Bool) (steps : List ShmStep)
    (outside : Runs.Along step WakesOutside (start bytes listens) steps) :
    (start bytes listens).NoLostWakeup steps := by
  have keeps : ∀ (system : ShmSystem) (label : ShmStep),
      system.Signalled → system.WakesOutside label → (system.step label).Signalled :=
    fun _ label signalled => signalled.step label
  constructor
  · intro before beginning
    exact (outside.visits keeps (signalled_start bytes listens) beginning).canWake
  · exact outside.mono keeps (fun _ label signalled _ => signalled.drainsAnswer label)
      (signalled_start bytes listens)

/-! ### Without answers -/

/-- The server has no answer to write. -/
def Silent (system : ShmSystem) : Prop := ∀ answer, system.server ≠ .writing answer

/-- A server that has no answer to write gets none without a step that responds. -/
theorem Silent.step (silent : system.Silent) {step : ShmStep}
    (other : ∀ answer, step ≠ .respond answer) : (system.step step).Silent := by
  intro answer
  have put {data : List UInt8} {written : ServerPoint} (other : written ≠ .writing answer) :
      (system.put data written .idle).server ≠ .writing answer := by
    rw [ShmSystem.put]
    split
    · exact other
    · exact nofun
    · exact nofun
  have signal {next : ServerPoint} (other : next ≠ .writing answer) :
      (system.signal next).server ≠ .writing answer := by
    rw [ShmSystem.signal]
    split
    · exact other
    · exact silent answer
  cases step with
  | sendMessage data =>
      rw [ShmSystem.step]
      split
      · exact put nofun
      · exact silent answer
  | respond answer => exact absurd rfl (other answer)
  | goOn =>
      rw [ShmSystem.step, ShmSystem.goOn]
      split
      · exact signal nofun
      · exact put nofun
      · exact silent answer
  | wait =>
      rw [ShmSystem.step]
      split
      · exact silent answer
      · exact silent answer
  | wake =>
      rw [ShmSystem.step, ShmSystem.wake]
      repeat' split
      all_goals exact silent answer
  | drain =>
      rw [ShmSystem.step, ShmSystem.drain]
      repeat' split
      all_goals exact silent answer

/-- Where all messages are written before they are signalled, as broadcasts are, and all
messages to the server, the client wakes up outside. -/
theorem wakesOutside_of_silent (bytes : Nat → UInt8) (listens : Bool) {steps : List ShmStep}
    (silent : ∀ step ∈ steps, ∀ answer, step ≠ .respond answer) :
    Runs.Along step WakesOutside (start bytes listens) steps := by
  have every : Runs.Along step (fun _ step => ∀ answer, step ≠ .respond answer)
      (start bytes listens) steps := .of_forall silent
  have keeps : ∀ (system : ShmSystem) (label : ShmStep),
      system.Silent → (∀ answer, label ≠ .respond answer) → (system.step label).Silent :=
    fun _ _ silent other => silent.step other
  apply every.mono keeps
  · intro system label silent _
    cases label with
    | wake => exact silent
    | _ => trivial
  · exact nofun

/-- An answer that is written before the client wakes up. -/
theorem noLostWakeup_answer : (start (fun _ => 0) false).NoLostWakeup
    [.respond [7], .goOn, .wait, .wake, .drain, .drain] := by
  apply noLostWakeup_of_wakesOutside
  refine ⟨trivial, trivial, trivial, ?_, trivial, trivial, trivial⟩
  intro answer writing
  cases writing

/-- A client that listens wakes up before the answer is written, and then waits for ever. -/
theorem not_noLostWakeup_early :
    ¬ ∀ (bytes : Nat → UInt8) (listens : Bool) (steps : List ShmStep),
      (start bytes listens).NoLostWakeup steps := by
  intro noLost
  have canWake := (noLost (fun _ => 0) true [.respond [7], .wait, .wake, .drain, .goOn]).1 _
    List.prefix_rfl
  have filled : (Runs.run step (start (fun _ => 0) true)
      [.respond [7], .wait, .wake, .drain, .goOn]).Filled := by
    intro same
    exact absurd (congrArg UInt32.toNat same) (by decide +kernel)
  exact absurd (canWake rfl rfl filled) (by decide +kernel)

end ShmSystem

end Rind
