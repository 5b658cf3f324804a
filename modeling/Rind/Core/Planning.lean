import Rind.Core.Orchestrator

/-!
# The order of orchestrators

The orchestrators that can come next are those whose dependencies have all come.  This
holds from round to round, also when a dependency is listed more than once, since it is
then counted as often as it is taken off.
-/

namespace Rind.OrchestratorStore

variable {store : OrchestratorStore}

/-! ## Selection -/

theorem select_eq {cycle : BootCycle} {phase : BootPhase}
    (apart : ∀ item ∈ store.list, conflictingCycles item.when.cycle = false) :
    store.select cycle phase =
      .ok ((List.finRange store.list.length).filter (store.takesPart cycle phase)) := by
  have fold (places : List store.Idx) (selected : List store.Idx) :
      places.foldlM (fun selected idx =>
        if conflictingCycles (store.item idx).when.cycle then
          (.error (.invalidState ("orchestrator \x60" ++ (store.item idx).id ++
            "\x60 has conflicting cycles Runtime and PostRuntime")) :
              Except CoreError (List store.Idx))
        else .ok (if store.takesPart cycle phase idx then selected ++ [idx] else selected))
        selected = .ok (selected ++ places.filter (store.takesPart cycle phase)) := by
    induction places generalizing selected with
    | nil => simp [pure, Except.pure]
    | cons idx rest ih =>
        have agrees : conflictingCycles (store.item idx).when.cycle = false :=
          apart _ (List.get_mem _ idx)
        rw [List.foldlM_cons, agrees, if_neg Bool.false_ne_true, ok_bind, ih, List.filter_cons]
        split
        · rw [List.append_assoc, List.singleton_append]
        · rfl
  exact fold _ []

/-! ## The graph -/

namespace Graph

variable (graph : Graph store)

/-- The orchestrators that come after one. -/
def nexts (idx : store.Idx) : List store.Idx := (graph.deps.lookup idx).getD []

/-- How many dependencies of an orchestrator are counted. -/
def incoming (idx : store.Idx) : Nat := (graph.indegree.lookup idx).getD 0

/-- The orchestrators that some ids stand for. -/
def places (ids : List String) : List store.Idx := ids.filterMap graph.idToIdx.lookup

variable {graph}

theorem idToIdx_addDep {idx : store.Idx} {depId : String} :
    (graph.addDep idx depId).idToIdx = graph.idToIdx := by
  rw [addDep]
  split <;> rfl

theorem count_nexts_addDep {idx : store.Idx} {depId : String} (dep next : store.Idx) :
    ((graph.addDep idx depId).nexts dep).count next = (graph.nexts dep).count next +
      if next = idx then (graph.places [depId]).count dep else 0 := by
  rw [addDep, places, List.filterMap_cons]
  cases found : graph.idToIdx.lookup depId with
  | none => simp
  | some depIdx =>
      dsimp only [nexts]
      by_cases same : dep = depIdx
      · subst same
        rw [AList.lookup_insert, Option.getD_some, List.count_append, List.count_singleton']
        simp [@eq_comm _ idx next]
      · rw [AList.lookup_insert_ne same]
        simp [Ne.symm same]

theorem incoming_addDep {idx : store.Idx} {depId : String} (next : store.Idx) :
    (graph.addDep idx depId).incoming next = graph.incoming next +
      if next = idx then (graph.places [depId]).length else 0 := by
  rw [addDep, places, List.filterMap_cons]
  cases found : graph.idToIdx.lookup depId with
  | none => simp
  | some depIdx =>
      dsimp only [incoming]
      by_cases same : next = idx
      · subst same
        rw [AList.lookup_insert]
        simp
      · rw [AList.lookup_insert_ne same]
        simp [same]

/-- What entering all dependencies of an orchestrator counts. -/
theorem foldl_addDep (graph : Graph store) (idx : store.Idx) (ids : List String) :
    (ids.foldl (addDep idx) graph).idToIdx = graph.idToIdx ∧
      (∀ dep next, ((ids.foldl (addDep idx) graph).nexts dep).count next =
        (graph.nexts dep).count next + if next = idx then (graph.places ids).count dep else 0) ∧
      ∀ next, (ids.foldl (addDep idx) graph).incoming next =
        graph.incoming next + if next = idx then (graph.places ids).length else 0 := by
  induction ids generalizing graph with
  | nil => simp [places]
  | cons depId rest ih =>
      obtain ⟨kept, counted, summed⟩ := ih (graph.addDep idx depId)
      have others : (graph.addDep idx depId).places rest = graph.places rest := by
        rw [places, idToIdx_addDep, places]
      have split : graph.places (depId :: rest) = graph.places [depId] ++ graph.places rest :=
        List.filterMap_append (l := [depId])
      refine ⟨kept.trans idToIdx_addDep, fun dep next => ?_, fun next => ?_⟩
      · rw [List.foldl_cons, counted, count_nexts_addDep, others, split, List.count_append]
        split <;> omega
      · rw [List.foldl_cons, summed, incoming_addDep, others, split, List.length_append]
        split <;> omega

/-- The dependencies of an orchestrator, as often as they are listed. -/
def depsOf (graph : Graph store) (idx : store.Idx) : List store.Idx :=
  graph.places (store.item idx).dependsOn

/-- What entering the dependencies of several orchestrators counts. -/
theorem foldl_addDeps (graph : Graph store) {selected : List store.Idx} (nodup : selected.Nodup) :
    (selected.foldl addDeps graph).idToIdx = graph.idToIdx ∧
      (∀ dep next, ((selected.foldl addDeps graph).nexts dep).count next =
        (graph.nexts dep).count next + if next ∈ selected then (graph.depsOf next).count dep else 0) ∧
      ∀ next, (selected.foldl addDeps graph).incoming next =
        graph.incoming next + if next ∈ selected then (graph.depsOf next).length else 0 := by
  induction selected generalizing graph with
  | nil => simp
  | cons idx rest ih =>
      obtain ⟨fresh, nodup⟩ := List.nodup_cons.mp nodup
      obtain ⟨kept, counted, summed⟩ := ih (graph.addDeps idx) nodup
      obtain ⟨kept', counted', summed'⟩ := foldl_addDep graph idx (store.item idx).dependsOn
      have others (next : store.Idx) : (graph.addDeps idx).depsOf next = graph.depsOf next := by
        rw [depsOf, places, addDeps, kept', depsOf, places]
      refine ⟨kept.trans kept', fun dep next => ?_, fun next => ?_⟩
      · rw [List.foldl_cons, counted, others]
        dsimp only [addDeps]
        rw [counted', depsOf]
        by_cases same : next = idx
        · subst same
          simp [fresh]
        · simp [same]
      · rw [List.foldl_cons, summed, others]
        dsimp only [addDeps]
        rw [summed', depsOf]
        by_cases same : next = idx
        · subst same
          simp [fresh]
        · simp [same]

/-- The graph before its dependencies are entered. -/
def nodes (selected : List store.Idx) : Graph store := selected.foldl addNode ⟨∅, ∅, ∅⟩

/-- No dependency is entered yet, and the ids stand for the selected orchestrators. -/
theorem nodes_spec (selected : List store.Idx)
    (distinct : ∀ first second, (store.item first).id = (store.item second).id → first = second) :
    (∀ idx, (nodes selected).nexts idx = []) ∧ (∀ idx, (nodes selected).incoming idx = 0) ∧
      ∀ id idx, (nodes selected).idToIdx.lookup id = some idx ↔
        idx ∈ selected ∧ (store.item idx).id = id := by
  induction selected using List.reverseRecOn with
  | nil => simp [nodes, nexts, incoming]
  | append_singleton selected last ih =>
      obtain ⟨none_, zero, named⟩ := ih
      have split : nodes (selected ++ [last]) = (nodes selected).addNode last := by
        simp [nodes, List.foldl_append]
      rw [split]
      refine ⟨fun idx => ?_, fun idx => ?_, fun id idx => ?_⟩
      · by_cases same : idx = last
        · subst same
          simp [nexts, addNode]
        · rw [← none_ idx, nexts, addNode, AList.lookup_insert_ne same, nexts]
      · by_cases same : idx = last
        · subst same
          simp [incoming, addNode]
        · rw [← zero idx, incoming, addNode, AList.lookup_insert_ne same, incoming]
      · rw [addNode, List.mem_append, List.mem_singleton]
        by_cases same : id = (store.item last).id
        · subst same
          rw [AList.lookup_insert]
          constructor
          · intro found
            cases found
            exact ⟨.inr rfl, rfl⟩
          · rintro ⟨-, sameId⟩
            rw [distinct idx last sameId]
        · rw [AList.lookup_insert_ne same, named]
          constructor
          · rintro ⟨listed, sameId⟩
            exact ⟨.inl listed, sameId⟩
          · rintro ⟨listed | rfl, sameId⟩
            · exact ⟨listed, sameId⟩
            · exact absurd sameId.symm same

end Graph

/-! ## Dependencies -/

/-- An orchestrator of a phase lists another one of that phase. -/
def Needs (store : OrchestratorStore) (cycle : BootCycle) (phase : BootPhase)
    (idx dep : store.Idx) : Prop :=
  store.takesPart cycle phase idx ∧ store.takesPart cycle phase dep ∧
    (store.item dep).id ∈ (store.item idx).dependsOn

/-- What the loop reads of the graph: each dependency of an orchestrator, as often as it
is listed. -/
structure Describes (graph : Graph store) (selected : List store.Idx)
    (depsOf : store.Idx → List store.Idx) : Prop where
  nexts : ∀ dep next, (graph.nexts dep).count next =
    if next ∈ selected then (depsOf next).count dep else 0
  incoming : ∀ next, graph.incoming next = if next ∈ selected then (depsOf next).length else 0
  inside : ∀ idx, ∀ dep ∈ depsOf idx, dep ∈ selected

theorem Graph.build_describes {selected : List store.Idx} (nodup : selected.Nodup)
    (distinct : ∀ first second, (store.item first).id = (store.item second).id → first = second) :
    ∃ depsOf, Describes (Graph.build selected) selected depsOf ∧ ∀ idx dep,
      dep ∈ depsOf idx ↔ dep ∈ selected ∧ (store.item dep).id ∈ (store.item idx).dependsOn := by
  obtain ⟨none_, zero, named⟩ := nodes_spec selected distinct
  obtain ⟨-, counted, summed⟩ := foldl_addDeps (nodes selected) nodup
  have listed (idx dep : store.Idx) : dep ∈ (nodes selected).depsOf idx ↔
      dep ∈ selected ∧ (store.item dep).id ∈ (store.item idx).dependsOn := by
    rw [depsOf, places, List.mem_filterMap]
    constructor
    · rintro ⟨id, given, found⟩
      obtain ⟨listed, rfl⟩ := (named id dep).mp found
      exact ⟨listed, given⟩
    · rintro ⟨listed, given⟩
      exact ⟨_, given, (named _ dep).mpr ⟨listed, rfl⟩⟩
  refine ⟨(nodes selected).depsOf, ⟨fun dep next => ?_, fun next => ?_, fun idx dep needed => ?_⟩,
    listed⟩
  · rw [build, ← nodes, counted, none_, List.count_nil, Nat.zero_add]
  · rw [build, ← nodes, summed, zero, Nat.zero_add]
  · exact ((listed idx dep).mp needed).1

/-! ## Rounds -/

namespace Planning

/-- How many dependencies an orchestrator waits for. -/
def waits (planning : Planning store) (idx : store.Idx) : Nat :=
  (planning.indegree.lookup idx).getD 0

variable {planning : Planning store}

/-- Taking off one of the dependencies that an orchestrator waits for. -/
theorem relax_eq {next : store.Idx} (waiting : 0 < planning.waits next) :
    relax planning next = { planning with
      indegree := planning.indegree.insert next (planning.waits next - 1)
      queue := if planning.waits next = 1 then planning.queue ++ [next] else planning.queue } := by
  rw [relax]
  cases found : planning.indegree.lookup next with
  | none => simp [waits, found] at waiting
  | some incoming =>
      have same : planning.waits next = incoming := by rw [waits, found, Option.getD_some]
      have last : incoming - 1 = 0 ↔ incoming = 1 := by omega
      rw [same]
      simp only [last]

/-- Taking off the dependencies of several orchestrators queues those, once each, that wait
for nothing else. -/
theorem foldl_relax (nexts : List store.Idx)
    (enough : ∀ idx, nexts.count idx ≤ planning.waits idx) :
    (nexts.foldl relax planning).order = planning.order ∧
      (∀ idx, (nexts.foldl relax planning).waits idx = planning.waits idx - nexts.count idx) ∧
      ∃ freed, (nexts.foldl relax planning).queue = planning.queue ++ freed ∧ freed.Nodup ∧
        ∀ idx, idx ∈ freed ↔ idx ∈ nexts ∧ planning.waits idx = nexts.count idx := by
  induction nexts generalizing planning with
  | nil => exact ⟨rfl, by simp, [], by simp⟩
  | cons next rest ih =>
      have waiting : 0 < planning.waits next := by
        have := enough next
        rw [List.count_cons_self] at this
        omega
      have after (idx : store.Idx) : (relax planning next).waits idx =
          if idx = next then planning.waits next - 1 else planning.waits idx := by
        rw [relax_eq waiting]
        by_cases same : idx = next
        · subst same
          simp [waits]
        · simp [waits, AList.lookup_insert_ne same, same]
      have enough' (idx : store.Idx) : rest.count idx ≤ (relax planning next).waits idx := by
        have := enough idx
        rw [after]
        by_cases same : idx = next
        · subst same
          rw [List.count_cons_self] at this
          rw [if_pos rfl]
          omega
        · rw [List.count_cons_of_ne (Ne.symm same)] at this
          rwa [if_neg same]
      obtain ⟨order, waits_, freed, queue, nodup, listed⟩ := ih enough'
      rw [List.foldl_cons]
      refine ⟨order.trans (by rw [relax_eq waiting]), fun idx => ?_, ?_⟩
      · rw [waits_, after]
        by_cases same : idx = next
        · subst same
          rw [if_pos rfl, List.count_cons_self]
          omega
        · rw [if_neg same, List.count_cons_of_ne (Ne.symm same)]
      · refine ⟨(if planning.waits next = 1 then [next] else []) ++ freed, ?_, ?_, fun idx => ?_⟩
        · rw [queue, relax_eq waiting]
          split <;> simp
        · split
          · next last =>
              apply List.nodup_cons.mpr ⟨_, nodup⟩
              intro again
              obtain ⟨more, -⟩ := (listed next).mp again
              have := enough next
              rw [List.count_cons_self] at this
              have := List.count_pos_iff.mpr more
              omega
          · exact nodup
        · rw [List.mem_append, listed, after]
          by_cases same : idx = next
          · subst same
            have := enough idx
            rw [List.count_cons_self] at this ⊢
            rw [if_pos rfl]
            by_cases more : idx ∈ rest
            · have := List.count_pos_iff.mpr more
              rw [if_neg (by omega)]
              simp only [List.not_mem_nil, false_or, more, List.mem_cons, or_true, true_and]
              omega
            · rw [List.count_eq_zero_of_not_mem more]
              split
              · next last => simp [last]
              · next more_ => simp [more, more_]
          · rw [if_neg same, List.count_cons_of_ne (Ne.symm same), List.mem_cons,
              or_iff_right same]
            split <;> simp [same]

end Planning

/-- What holds between two rounds: an orchestrator has come, or can come next, exactly where
all its dependencies have come, and each one waits for those that have not. -/
structure Sound (selected : List store.Idx) (depsOf : store.Idx → List store.Idx)
    (planning : Planning store) : Prop where
  waits : ∀ idx ∈ selected,
    planning.waits idx = (depsOf idx).countP fun dep => decide (dep ∉ planning.order)
  ready : ∀ idx, idx ∈ planning.order ++ planning.queue ↔
    idx ∈ selected ∧ ∀ dep ∈ depsOf idx, dep ∈ planning.order
  nodup : (planning.order ++ planning.queue).Nodup
  ordered : Dependencies.Ordered (fun idx dep => dep ∈ depsOf idx) planning.order

section Sound

variable {graph : Graph store} {selected : List store.Idx}
  {depsOf : store.Idx → List store.Idx} {planning : Planning store}

/-- Of the dependencies that have not come, one comes as often as it is listed. -/
theorem countP_not_mem_append {order deps : List store.Idx} {node : store.Idx}
    (fresh : node ∉ order) :
    (deps.countP fun dep => decide (dep ∉ order)) =
      (deps.countP fun dep => decide (dep ∉ order ++ [node])) + deps.count node := by
  induction deps with
  | nil => rfl
  | cons dep rest ih =>
      rw [List.countP_cons, List.countP_cons, List.count_cons, ih]
      by_cases same : dep = node
      · subst same
        simp [fresh]
        omega
      · simp [same]
        omega

theorem startPlanning_sound (describes : Describes graph selected depsOf)
    (nodup : selected.Nodup) : Sound selected depsOf (startPlanning graph selected) where
  waits := by
    intro idx listed
    have counted := describes.incoming idx
    rw [if_pos listed] at counted
    exact counted.trans (by simp [startPlanning])
  ready := by
    intro idx
    dsimp only [startPlanning]
    rw [List.nil_append, List.mem_filter, decide_eq_true_eq]
    apply and_congr_right
    intro listed
    have counted := describes.incoming idx
    rw [if_pos listed, Graph.incoming] at counted
    rw [counted, List.length_eq_zero_iff]
    constructor
    · intro none_
      simp [none_]
    · exact fun all => List.eq_nil_iff_forall_not_mem.mpr fun dep needed =>
        absurd (all dep needed) List.not_mem_nil
  nodup := nodup.filter _
  ordered := .nil

/-- A round keeps it: the orchestrator that comes is taken off from the others as often as
they list it. -/
theorem Sound.popFront (describes : Describes graph selected depsOf)
    (sound : Sound selected depsOf planning) {node : store.Idx} {queue : List store.Idx}
    (front : planning.queue = node :: queue) :
    ∃ after, popFront graph planning = some (.ok true, after) ∧
      Sound selected depsOf after ∧ after.order = planning.order ++ [node] := by
  obtain ⟨waits, ready, nodup, ordered⟩ := sound
  have nodeReady := (ready node).mp (by simp [front])
  have fresh : node ∉ planning.order := by
    rw [front] at nodup
    exact fun old => (List.nodup_append.mp nodup).2.2 node old node (by simp) rfl
  let popped : Planning store := { planning with queue := queue, order := planning.order ++ [node] }
  have enough (idx : store.Idx) : (graph.nexts node).count idx ≤ popped.waits idx := by
    rw [describes.nexts]
    split
    · next listed =>
        have := waits idx listed
        rw [countP_not_mem_append fresh] at this
        exact this ▸ Nat.le_add_left _ _
    · exact Nat.zero_le _
  obtain ⟨order, waits', freed, queued, freedNodup, listed⟩ := Planning.foldl_relax _ enough
  have ordered' : popped.order = planning.order ++ [node] := rfl
  have freed_iff (idx : store.Idx) : idx ∈ freed ↔ idx ∈ selected ∧ node ∈ depsOf idx ∧
      ∀ dep ∈ depsOf idx, dep ∈ planning.order ++ [node] := by
    rw [listed, ← List.count_pos_iff, describes.nexts]
    by_cases member : idx ∈ selected
    · have counted := waits idx member
      rw [countP_not_mem_append fresh] at counted
      rw [if_pos member, List.count_pos_iff, and_iff_right member]
      apply and_congr_right
      intro needed
      have none_ : popped.waits idx = (depsOf idx).count node ↔
          (depsOf idx).countP (fun dep => decide (dep ∉ planning.order ++ [node])) = 0 := by
        have : popped.waits idx = planning.waits idx := rfl
        omega
      rw [none_, List.countP_eq_zero]
      simp only [decide_eq_true_eq, not_not]
    · rw [if_neg member]
      exact iff_of_false (fun both => Nat.lt_irrefl 0 both.1) fun both => member both.1
  have all : ((graph.nexts node).foldl relax popped).order ++
      ((graph.nexts node).foldl relax popped).queue =
        planning.order ++ planning.queue ++ freed := by
    rw [order, queued, front]
    simp [popped]
  refine ⟨(graph.nexts node).foldl relax popped, ?_, ⟨fun idx member => ?_, fun idx => ?_, ?_, ?_⟩,
    order⟩
  · rw [OrchestratorStore.popFront, front]
    rfl
  · have counted := waits idx member
    rw [countP_not_mem_append fresh] at counted
    have : popped.waits idx = planning.waits idx := rfl
    rw [waits', order, describes.nexts, if_pos member, this, counted, ordered']
    omega
  · rw [all, List.mem_append, ready, freed_iff, order, ordered']
    constructor
    · rintro (⟨member, come⟩ | ⟨member, -, come⟩)
      · exact ⟨member, fun dep needed => List.mem_append_left _ (come dep needed)⟩
      · exact ⟨member, come⟩
    · rintro ⟨member, come⟩
      by_cases needed : node ∈ depsOf idx
      · exact .inr ⟨member, needed, come⟩
      · left
        refine ⟨member, fun dep given => ?_⟩
        apply (List.mem_append.mp (come dep given)).resolve_right
        intro last
        cases List.mem_singleton.mp last
        exact needed given
  · rw [all]
    apply List.nodup_append.mpr ⟨nodup, freedNodup, _⟩
    rintro idx old other new rfl
    exact fresh (((ready idx).mp old).2 node ((freed_iff idx).mp new).2.1)
  · rw [order]
    exact ordered.append nodeReady.2

/-- What has come is selected, once each, so that the rounds are limited. -/
theorem Sound.order_length_le (sound : Sound selected depsOf planning) :
    planning.order.length + planning.queue.length ≤ selected.length := by
  rw [← List.length_append]
  apply (List.subperm_of_subset sound.nodup _).length_le
  intro idx listed
  exact ((sound.ready idx).mp listed).1

/-- The loop ends, when nothing is queued any more. -/
theorem loop_popFront (describes : Describes graph selected depsOf) (nodup : selected.Nodup)
    {limit : Nat} (enough : selected.length < limit) :
    ∃ done, Prog.loop (popFront graph) limit (startPlanning graph selected) =
        some (.ok (), done) ∧
      Sound selected depsOf done ∧ done.queue = [] := by
  have initial := startPlanning_sound describes nodup
  have round (planning next : Planning store) (sound : Sound selected depsOf planning)
      (ran : popFront graph planning = some (.ok true, next)) :
      Sound selected depsOf next ∧
        selected.length - next.order.length < selected.length - planning.order.length := by
    cases front : planning.queue with
    | nil =>
        rw [popFront, front] at ran
        cases ran
    | cons node queue =>
        obtain ⟨after, ran', sound', order⟩ := sound.popFront describes front
        cases ran.symm.trans ran'
        have := sound.order_length_le
        rw [front, List.length_cons] at this
        rw [order, List.length_append, List.length_singleton]
        exact ⟨sound', by omega⟩
  have total (planning : Planning store) (sound : Sound selected depsOf planning) :
      (popFront graph planning).isSome := by
    rw [popFront]
    split <;> rfl
  have halts : (Prog.loop (popFront graph) limit (startPlanning graph selected)).isSome :=
    Prog.loop_halts (fun planning => selected.length - planning.order.length) total round initial
      (by dsimp only [startPlanning]; simpa using enough)
  obtain ⟨⟨result, done⟩, ran⟩ := Option.isSome_iff_exists.mp halts
  obtain ⟨last, sound, failed | ⟨left, rfl⟩⟩ :=
    Prog.loop_ends (fun planning next sound ran => (round planning next sound ran).1) initial ran
  · obtain ⟨err, failed, -⟩ := failed
    rw [popFront] at failed
    split at failed <;> cases failed
  · cases queue : last.queue with
    | nil =>
        rw [popFront, queue] at left
        cases left
        exact ⟨_, ran, sound, queue⟩
    | cons node rest =>
        rw [popFront, queue] at left
        cases left

end Sound

/-! ## The plan -/

/-- In the order of a phase each orchestrator comes after all its dependencies, or before
them when the phase is the end. -/
def Planned (needs : store.Idx → store.Idx → Prop) (phase : BootPhase)
    (order : List store.Idx) : Prop :=
  ∀ before idx after, order = before ++ idx :: after → ∀ dep, needs idx dep →
    match phase with
    | .start => dep ∈ before
    | .end_ => dep ∈ after

theorem planned_reverse {needs : store.Idx → store.Idx → Prop} {order : List store.Idx}
    (ordered : Dependencies.Ordered needs order) : Planned needs .end_ order.reverse := by
  intro before idx after split dep needed
  have same : order = after.reverse ++ idx :: before.reverse := by
    rw [← List.reverse_reverse order, split]
    simp
  exact List.mem_reverse.mp (ordered _ _ _ same dep needed)

/-- Planning a phase ends. There is a plan exactly where the selected orchestrators have no
cycle of dependencies, and it is then an order of all of them. -/
def Plans (store : OrchestratorStore) (cycle : BootCycle) (phase : BootPhase) (limit : Nat) :
    Prop :=
  ∃ plan, store.plannedIndexes cycle phase limit = some plan ∧
    ((∃ order, plan = .ok order) ↔
      ∀ idx, ¬ Relation.TransGen (store.Needs cycle phase) idx idx) ∧
    ∀ order, plan = .ok order →
      order.Perm ((List.finRange store.list.length).filter (store.takesPart cycle phase)) ∧
        Planned (store.Needs cycle phase) phase order

theorem plannedIndexes_plans (store : OrchestratorStore)
    (distinct : (store.list.map Orchestrator.id).Nodup)
    (apart : ∀ item ∈ store.list, conflictingCycles item.when.cycle = false)
    (cycle : BootCycle) (phase : BootPhase) (limit : Nat) (enough : store.list.length < limit) :
    store.Plans cycle phase limit := by
  set selected := (List.finRange store.list.length).filter (store.takesPart cycle phase)
    with selected_def
  have nodup : selected.Nodup := (List.nodup_finRange _).filter _
  have distinct' (first second : store.Idx) (same : (store.item first).id = (store.item second).id) :
      first = second := Dependencies.eq_of_key_eq distinct same
  obtain ⟨depsOf, describes, listed⟩ := Graph.build_describes nodup distinct'
  have shorter : selected.length < limit := by
    have := List.length_filter_le (store.takesPart cycle phase)
      (List.finRange store.list.length)
    rw [List.length_finRange, ← selected_def] at this
    exact this.trans_lt enough
  obtain ⟨done, ran, sound, empty⟩ := loop_popFront describes nodup shorter
  have mem_selected (idx : store.Idx) : idx ∈ selected ↔ store.takesPart cycle phase idx := by
    rw [selected_def, List.mem_filter, and_iff_right (List.mem_finRange idx)]
  have needs_iff (idx dep : store.Idx) :
      store.Needs cycle phase idx dep ↔ idx ∈ selected ∧ dep ∈ depsOf idx := by
    rw [Needs, listed, mem_selected, mem_selected]
  have ordered : Dependencies.Ordered (store.Needs cycle phase) done.order := by
    intro before idx after split dep needed
    exact sound.ordered before idx after split dep ((needs_iff idx dep).mp needed).2
  have ready (idx : store.Idx) : idx ∈ done.order ↔
      idx ∈ selected ∧ ∀ dep ∈ depsOf idx, dep ∈ done.order := by
    rw [← sound.ready idx, empty, List.append_nil]
  have come {idx : store.Idx} (member : idx ∈ selected) :
      idx ∈ done.order ↔ ¬ Dependencies.Stuck (store.Needs cycle phase) idx := by
    apply ordered.mem_iff_not_stuck _ _ member
    · intro idx dep needed
      exact describes.inside idx dep ((needs_iff idx dep).mp needed).2
    · intro idx member out
      by_contra none_
      push Not at none_
      apply out
      apply (ready idx).mpr
      exact ⟨member, fun dep needed => none_ dep ((needs_iff idx dep).mpr ⟨member, needed⟩)⟩
  have nodup' : done.order.Nodup := (List.nodup_append.mp sound.nodup).1
  have subset : done.order ⊆ selected := fun idx member => ((ready idx).mp member).1
  have whole : done.order.length = selected.length ↔
      ∀ idx, ¬ Relation.TransGen (store.Needs cycle phase) idx idx := by
    have subperm := List.subperm_of_subset nodup' subset
    constructor
    · intro same idx circle
      obtain ⟨dep, needed, -⟩ := Relation.TransGen.head'_iff.mp circle
      have member := ((needs_iff idx dep).mp needed).1
      have perm := subperm.perm_of_length_le same.ge
      exact (come member).mp (perm.mem_iff.mpr member) ⟨idx, .refl, circle⟩
    · intro acyclic
      apply le_antisymm subperm.length_le
      apply (List.subperm_of_subset nodup _).length_le
      intro idx member
      apply (come member).mpr
      rintro ⟨other, -, circle⟩
      exact acyclic other circle
  have planned : store.plannedIndexes cycle phase limit =
      some (if done.order.length ≠ selected.length then
        .error (.dependencyCycle (selected.map fun idx => (store.item idx).id))
      else .ok (if phase = .end_ then done.order.reverse else done.order)) := by
    rw [plannedIndexes, select_eq apart]
    dsimp only
    rw [ran, Option.map_some]
  refine ⟨_, planned, ?_, ?_⟩
  · rw [← whole]
    split
    · next apart => exact iff_of_false (fun ⟨order, wrong⟩ => by cases wrong) apart
    · next same => exact iff_of_true ⟨_, rfl⟩ (not_not.mp same)
  · intro order found
    split at found
    · cases found
    · next same =>
        have perm := (List.subperm_of_subset nodup' subset).perm_of_length_le (not_not.mp same).ge
        cases phase with
        | start =>
            cases found
            exact ⟨perm, ordered⟩
        | end_ =>
            cases found
            exact ⟨(List.reverse_perm _).trans perm, planned_reverse ordered⟩

/-- Two orchestrators, of which one lists the other twice. -/
def mountsAndServices : OrchestratorStore :=
  ⟨[⟨"services", ["mounts", "mounts"], ⟨[.runtime], .start⟩⟩, ⟨"mounts", [], ⟨[.runtime], .start⟩⟩]⟩

theorem plans_mountsAndServices : mountsAndServices.Plans .runtime .start 3 :=
  plannedIndexes_plans mountsAndServices (by decide) (by decide) .runtime .start 3 (by decide)

end Rind.OrchestratorStore
