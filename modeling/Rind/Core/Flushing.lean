import Rind.Core.Holdings

/-!
# The order of a flush

A flush of a registered context hands over the commands of the context in the order in
which they were dispatched, those included that come while it runs.  The commands of
other contexts stay in the queue, in their order.
-/

namespace Rind

variable {T : EngineParts}

/-! ## What a flush has done -/

namespace Flush

/-- The commands that have been dispatched while the flush has run. -/
def sent (flush : Flush T) : List (Dispatch T) :=
  flush.trace.flatMap fun turn => (turn.handled.map (·.dispatched)).getD []

/-- The commands that it has taken out of the queue. -/
def taken (flush : Flush T) : List (Dispatch T) := flush.trace.map (·.command)

/-- The commands that a runtime has handled. -/
def served (flush : Flush T) : List (Dispatch T) :=
  (flush.trace.filter (·.handled.isSome)).map (·.command)

end Flush

/-- The commands of a context, and those of the others. -/
def ownCommands (contextId : Nat) (commands : List (Dispatch T)) : List (Dispatch T) :=
  commands.filter (·.contextId = contextId)

def otherCommands (contextId : Nat) (commands : List (Dispatch T)) : List (Dispatch T) :=
  commands.filter (·.contextId ≠ contextId)

/-- The commands for the runtimes of an engine. -/
def knownCommands (engine : RuntimeEngine T) (commands : List (Dispatch T)) : List (Dispatch T) :=
  commands.filter (·.runtimeId ∈ engine.runtimes)

/-- A flush has taken the commands of its context in their order, has handed those for
known runtimes over, and has left all others where they were. -/
structure InOrder (contextId : Nat) (engine : RuntimeEngine T) (flush : Flush T) : Prop where
  own : ownCommands contextId (engine.queue ++ flush.sent) =
    flush.taken ++ ownCommands contextId flush.engine.queue
  other : otherCommands contextId (engine.queue ++ flush.sent) =
    otherCommands contextId flush.engine.queue
  served : flush.served = knownCommands engine flush.taken

/-- A flush that has handled every command of its context, and nothing else. -/
structure Flushed (contextId : Nat) (engine : RuntimeEngine T) (final : Flush T) : Prop where
  served : final.served =
    knownCommands engine (ownCommands contextId (engine.queue ++ final.sent))
  queue : final.engine.queue = otherCommands contextId (engine.queue ++ final.sent)

/-! ## Rounds -/

section Rounds

variable {contextId : Nat} {engine after : RuntimeEngine T} {command : Dispatch T}
  {flush final : Flush T} {result : Except CoreError Bool}

@[simp] theorem ownCommands_append (first second : List (Dispatch T)) :
    ownCommands contextId (first ++ second) =
      ownCommands contextId first ++ ownCommands contextId second := List.filter_append ..

@[simp] theorem otherCommands_append (first second : List (Dispatch T)) :
    otherCommands contextId (first ++ second) =
      otherCommands contextId first ++ otherCommands contextId second := List.filter_append ..

@[simp] theorem knownCommands_append (first second : List (Dispatch T)) :
    knownCommands engine (first ++ second) =
      knownCommands engine first ++ knownCommands engine second := List.filter_append ..

/-- The taken command is the first of its context. -/
theorem RuntimeEngine.Takes.own_queue (takes : engine.Takes contextId command after) :
    ownCommands contextId engine.queue = command :: ownCommands contextId after.queue := by
  obtain ⟨front, back, queue, rest, others⟩ := takes.split
  have none_ : ownCommands contextId front = [] := by
    rw [ownCommands, List.filter_eq_nil_iff]
    intro other member own
    exact others other member (of_decide_eq_true own)
  rw [queue, rest, ownCommands_append, ownCommands_append, none_, List.nil_append,
    List.nil_append, ownCommands, List.filter_cons_of_pos (by simp [takes.own])]
  rfl

theorem RuntimeEngine.Takes.other_queue (takes : engine.Takes contextId command after) :
    otherCommands contextId engine.queue = otherCommands contextId after.queue := by
  obtain ⟨front, back, queue, rest, -⟩ := takes.split
  rw [queue, rest, otherCommands_append, otherCommands_append]
  congr 1
  exact List.filter_cons_of_neg (by simp [takes.own])

/-- A turn is added to what the flush has done, and its commands to the queue. -/
theorem InOrder.turn {turn : Turn T} (order : InOrder contextId engine flush)
    (runtimes : ∀ id, id ∈ flush.engine.runtimes ↔ id ∈ engine.runtimes)
    (taken : flush.engine.Takes contextId turn.command after)
    (known : turn.handled.isSome ↔ turn.command.runtimeId ∈ flush.engine.runtimes)
    (trace : final.trace = flush.trace ++ [turn])
    (queue : final.engine.queue =
      after.queue ++ (turn.handled.map (·.dispatched)).getD []) :
    InOrder contextId engine final := by
  have sent : final.sent = flush.sent ++ (turn.handled.map (·.dispatched)).getD [] := by
    rw [Flush.sent, trace, List.flatMap_append, List.flatMap_singleton]
    rfl
  have takenNow : final.taken = flush.taken ++ [turn.command] := by
    rw [Flush.taken, trace, List.map_append]
    rfl
  constructor
  · rw [sent, takenNow, queue, ← List.append_assoc, ownCommands_append, order.own,
      taken.own_queue, ownCommands_append]
    simp
  · rw [sent, queue, ← List.append_assoc, otherCommands_append, order.other,
      taken.other_queue, otherCommands_append]
  · have served : final.served =
        flush.served ++ if turn.handled.isSome then [turn.command] else [] := by
      rw [Flush.served, trace, List.filter_append, List.map_append]
      cases handled : turn.handled.isSome <;> simp [handled, Flush.served]
    rw [served, takenNow, knownCommands_append, order.served]
    congr 1
    by_cases handled : turn.handled.isSome
    · have member := (runtimes _).mp (known.mp handled)
      simp [handled, knownCommands, member]
    · have absent := mt (runtimes _).mpr (mt known.mpr handled)
      simp [handled, knownCommands, absent]

/-- What holds after each round of a flush of a registered context. -/
structure Working (contextId : Nat) (engine : RuntimeEngine T) (count : Nat) (flush : Flush T) :
    Prop where
  registered : contextId ∈ flush.engine.contexts
  runtimes : ∀ id, id ∈ flush.engine.runtimes ↔ id ∈ engine.runtimes
  order : InOrder contextId engine flush
  count : flush.trace.length = count

theorem Working.start (registered : contextId ∈ engine.contexts) (resources : T.Resources) :
    Working contextId engine 0 (.start engine resources) where
  registered := registered
  runtimes := fun _ => Iff.rfl
  order := by
    constructor <;> simp [Flush.start, Flush.sent, Flush.taken, Flush.served, knownCommands]
  count := rfl

theorem Working.round {count : Nat} (working : Working contextId engine count flush)
    (ends : RoundEnds contextId flush (.ok true) final) :
    Working contextId engine (count + 1) final := by
  cases ends with
  | @unknown command _ taken absent =>
      refine ⟨taken.contexts ▸ working.registered, fun id => taken.runtimes ▸ working.runtimes id,
        working.order.turn working.runtimes taken ?_ rfl (List.append_nil _).symm, ?_⟩
      · simpa using AList.lookup_eq_none.mp absent
      · rw [List.length_append, working.count]
        rfl
  | @called command engine' runtime context handled _ taken known registered calls =>
      have present : command.runtimeId ∈ flush.engine.runtimes :=
        AList.lookup_isSome.mp (by rw [known]; rfl)
      have runtimes : ∀ id, id ∈ final.engine.runtimes ↔ id ∈ flush.engine.runtimes := by
        intro id
        rw [calls.runtimes, AList.mem_insert, AList.mem_erase, taken.runtimes]
        by_cases same : id = command.runtimeId <;> simp [same, present]
      have queue : final.engine.queue = engine'.queue ++ handled.dispatched := calls.queue
      refine ⟨?_, fun id => (runtimes id).trans (working.runtimes id),
        working.order.turn working.runtimes taken ?_ calls.trace queue, ?_⟩
      · obtain ⟨scopes, -, contexts⟩ := calls.contexts
        rw [← AList.lookup_isSome, contexts, if_pos taken.own.symm]
        rfl
      · exact iff_of_true rfl present
      · rw [calls.trace, List.length_append, working.count]
        rfl

/-- A flush of a registered context stops only when it finds no command of the context. -/
theorem Working.last {count : Nat} (working : Working contextId engine count flush)
    (ends : RoundEnds contextId flush result final) (last : result ≠ .ok true) :
    result = .ok false ∧ Flushed contextId engine final := by
  cases ends with
  | idle none_ =>
      have others := RuntimeEngine.take_eq_none.mp none_
      have own : ownCommands contextId flush.engine.queue = [] := by
        rw [ownCommands, List.filter_eq_nil_iff]
        intro command member own
        exact others command member (of_decide_eq_true own)
      refine ⟨rfl, ?_, ?_⟩
      · rw [working.order.own, own, List.append_nil]
        exact working.order.served
      · rw [working.order.other]
        exact (List.filter_eq_self.mpr fun command member =>
          decide_eq_true (others command member)).symm
  | unknown taken absent => exact absurd rfl last
  | called taken known registered calls => exact absurd rfl last
  | unregistered taken known absent =>
      exact absurd working.registered (AList.lookup_eq_none.mp absent)

/-- A round lowers what is left to be done, where there is a bound on what is sent. -/
theorem measure_round {bound : Nat} (ends : RoundEnds contextId flush (.ok true) final)
    (bounded : final.sent.length ≤ bound) :
    (bound - final.sent.length) + final.engine.queue.length <
      (bound - flush.sent.length) + flush.engine.queue.length := by
  cases ends with
  | unknown taken absent =>
      obtain ⟨front, back, queue, rest, -⟩ := taken.split
      simp only [Flush.sent] at bounded ⊢
      simp [queue, rest]
  | @called command _ _ _ handled _ taken known registered calls =>
      obtain ⟨front, back, queue, rest, -⟩ := taken.split
      have sent : final.sent = flush.sent ++ handled.dispatched := by
        rw [Flush.sent, calls.trace, List.flatMap_append, List.flatMap_singleton]
        rfl
      rw [sent, List.length_append] at bounded ⊢
      rw [calls.queue, rest, queue]
      simp only [List.length_append, List.length_cons]
      omega

end Rounds

/-! ## Whole flushes -/

/-- However long its handlers go on to dispatch commands, a flush takes one command in
each round. -/
theorem working_rounds {handle : Handler T} {contextId : Nat} {engine : RuntimeEngine T}
    {resources : T.Resources} (registered : contextId ∈ engine.contexts) {count : Nat}
    {flush : Flush T} (rounds : Prog.Rounds (flushRound handle contextId)
      (.start engine resources) count flush) : Working contextId engine count flush :=
  rounds.invariant (fun _ _ _ working ran => Working.round working (roundEnds_of_ran ran))
    (.start registered resources)

/-- The commands that are dispatched by the handlers of a flush are not without end. -/
def SendsAtMost (handle : Handler T) (contextId : Nat) (engine : RuntimeEngine T)
    (resources : T.Resources) (bound : Nat) : Prop :=
  ∀ count flush, Prog.Rounds (flushRound handle contextId) (.start engine resources) count flush →
    flush.sent.length ≤ bound

/-- What the order of a flush comes to. -/
structure FlushesInOrder (handle : Handler T) (contextId : Nat) (engine : RuntimeEngine T)
    (resources : T.Resources) : Prop where
  /-- After each round the commands of the context have been taken in order, one in each
  round, and those of other contexts are in the queue. -/
  rounds : ∀ count flush, Prog.Rounds (flushRound handle contextId) (.start engine resources)
    count flush → InOrder contextId engine flush ∧ flush.taken.length = count
  /-- When it returns, all commands of the context have been handled. -/
  returns : ∀ rounds result final,
    flushContext handle contextId rounds (.start engine resources) = some (result, final) →
      result = .ok () ∧ Flushed contextId engine final
  /-- It returns, if what its handlers dispatch comes to an end. -/
  halts : ∀ bound, SendsAtMost handle contextId engine resources bound → ∃ rounds,
    (flushContext handle contextId rounds (.start engine resources)).isSome

/-- A flush of a registered context hands over all commands of the context, in the order in
which they are dispatched and once each, and leaves those of other contexts in the queue. -/
theorem flush_inOrder (handle : Handler T) {contextId : Nat} {engine : RuntimeEngine T}
    (resources : T.Resources) (registered : contextId ∈ engine.contexts) :
    FlushesInOrder handle contextId engine resources := by
  refine ⟨?_, ?_, ?_⟩
  · intro count flush rounds
    have working := working_rounds registered rounds
    exact ⟨working.order, by rw [Flush.taken, List.length_map, working.count]⟩
  · intro rounds result final ran
    have keeps : ∀ flush next, (∃ count, Working contextId engine count flush) →
        flushRound handle contextId flush = some (.ok true, next) →
          ∃ count, Working contextId engine count next := by
      rintro flush next ⟨count, working⟩ ran
      exact ⟨count + 1, working.round (roundEnds_of_ran ran)⟩
    obtain ⟨last, ⟨count, working⟩, ends⟩ :=
      Prog.loop_ends keeps ⟨0, .start registered resources⟩ ran
    rcases ends with ⟨err, lastRan, -⟩ | ⟨lastRan, rfl⟩
    · obtain ⟨impossible, -⟩ := working.last (roundEnds_of_ran lastRan) nofun
      cases impossible
    · exact ⟨rfl, (working.last (roundEnds_of_ran lastRan) nofun).2⟩
  · intro bound bounded
    let inv (flush : Flush T) : Prop := ∃ count,
      Prog.Rounds (flushRound handle contextId) (.start engine resources) count flush
    have total : ∀ flush, inv flush → (flushRound handle contextId flush).isSome := by
      intro flush _
      obtain ⟨result, final, ran, -⟩ := flushRound_ends handle contextId flush
      rw [ran]
      rfl
    have start : inv (.start engine resources) := ⟨0, .none⟩
    refine ⟨_, Prog.loop_halts
      (fun flush => (bound - flush.sent.length) + flush.engine.queue.length) total ?_ start
      (Nat.lt_succ_self _)⟩
    rintro flush next ⟨count, rounds⟩ ran
    have further := rounds.next ran
    exact ⟨⟨count + 1, further⟩, measure_round (roundEnds_of_ran ran) (bounded _ _ further)⟩

/-- A runtime that dispatches its command to another context. -/
def forwardingHandler : Handler plainParts := fun runtime action payload context contextId =>
  ⟨runtime, context, [⟨"services", action, payload, contextId + 1, none⟩], .ok none⟩

/-- An engine with one context and commands for two. -/
def sampleEngine : RuntimeEngine plainParts :=
  let engine := RuntimeEngine.start plainParts [("services", ())]
  let engine := (engine.send (.registerScopes 1 ⟨∅, [], []⟩)).2
  engine.sendAll [⟨"services", "start_all", (), 2, none⟩, ⟨"services", "stop_all", (), 1, none⟩,
    ⟨"sockets", "setup_all", (), 1, none⟩]

theorem flush_inOrder_sampleEngine : FlushesInOrder forwardingHandler 1 sampleEngine () :=
  flush_inOrder forwardingHandler () (by decide)

end Rind
