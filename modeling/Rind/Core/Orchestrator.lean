import Rind.Core.Error
import Rind.Data.Dependencies
import Rind.Prog.Loops
import Mathlib.Data.List.AList
import Mathlib.Data.List.FinRange
import Mathlib.Data.List.Count

/-!
# Orchestrators

In each phase of a cycle of the boot the orchestrators that take part in it are run, each
after those that it depends on, or before them when the phase is the end of the cycle.
-/

namespace Rind

inductive BootCycle where
  | preBoot
  | collect
  | runtime
  | postRuntime
  | pump
  deriving DecidableEq, Repr

inductive BootPhase where
  | start
  | end_
  deriving DecidableEq, Repr

structure OrchestratorWhen where
  cycle : List BootCycle
  phase : BootPhase

structure Orchestrator where
  id : String
  dependsOn : List String
  when : OrchestratorWhen

structure OrchestratorStore where
  list : List Orchestrator

def conflictingCycles (cycles : List BootCycle) : Bool :=
  cycles.contains .runtime && cycles.contains .postRuntime

namespace OrchestratorStore

variable (store : OrchestratorStore)

/-- The place of an orchestrator in the list. -/
abbrev Idx : Type := Fin store.list.length

def item (idx : store.Idx) : Orchestrator := store.list.get idx

/-- Whether an orchestrator takes part in a phase. -/
def takesPart (cycle : BootCycle) (phase : BootPhase) (idx : store.Idx) : Bool :=
  (store.item idx).when.cycle.contains cycle && decide ((store.item idx).when.phase = phase)

/-- The orchestrators of a phase. Every orchestrator is looked at for conflicts. -/
def select (cycle : BootCycle) (phase : BootPhase) : Except CoreError (List store.Idx) :=
  (List.finRange store.list.length).foldlM (fun selected idx =>
    if conflictingCycles (store.item idx).when.cycle then
      .error (.invalidState ("orchestrator \x60" ++ (store.item idx).id ++
        "\x60 has conflicting cycles Runtime and PostRuntime"))
    else .ok (if store.takesPart cycle phase idx then selected ++ [idx] else selected)) []

/-- The orchestrators that come after each one, how many come before it, and the place of
each id. -/
structure Graph where
  deps : AList fun _ : store.Idx => List store.Idx
  indegree : AList fun _ : store.Idx => Nat
  idToIdx : AList fun _ : String => store.Idx

namespace Graph

variable {store}

def addNode (graph : Graph store) (idx : store.Idx) : Graph store where
  deps := graph.deps.insert idx []
  indegree := graph.indegree.insert idx 0
  idToIdx := graph.idToIdx.insert (store.item idx).id idx

/-- Enter one dependency, unless it is of an orchestrator that is not selected. -/
def addDep (idx : store.Idx) (graph : Graph store) (depId : String) : Graph store :=
  match graph.idToIdx.lookup depId with
  | some depIdx =>
      { graph with
        deps := graph.deps.insert depIdx ((graph.deps.lookup depIdx).getD [] ++ [idx])
        indegree := graph.indegree.insert idx ((graph.indegree.lookup idx).getD 0 + 1) }
  | none => graph

def addDeps (graph : Graph store) (idx : store.Idx) : Graph store :=
  (store.item idx).dependsOn.foldl (addDep idx) graph

def build (selected : List store.Idx) : Graph store :=
  selected.foldl addDeps (selected.foldl addNode ⟨∅, ∅, ∅⟩)

end Graph

/-- What is left to do: the orchestrators that can come next, those that have, and how many
of those that come before it each one waits for. -/
structure Planning where
  queue : List store.Idx
  order : List store.Idx
  indegree : AList fun _ : store.Idx => Nat

variable {store}

/-- One orchestrator less that another one waits for. -/
def relax (planning : Planning store) (next : store.Idx) : Planning store :=
  match planning.indegree.lookup next with
  | some incoming =>
      { planning with
        indegree := planning.indegree.insert next (incoming - 1)
        queue := if incoming - 1 = 0 then planning.queue ++ [next] else planning.queue }
  | none => planning

def popFront (graph : Graph store) : Prog (Planning store) CoreError Bool := fun planning =>
  match planning.queue with
  | [] => some (.ok false, planning)
  | node :: queue =>
      some (.ok true, ((graph.deps.lookup node).getD []).foldl relax
        { planning with queue := queue, order := planning.order ++ [node] })

def startPlanning (graph : Graph store) (selected : List store.Idx) : Planning store where
  queue := selected.filter fun idx => (graph.indegree.lookup idx).getD 0 = 0
  order := []
  indegree := graph.indegree

variable (store)

/-- The orchestrators of a phase in the order in which they are run, where the loop ends
within a number of rounds. -/
def plannedIndexes (cycle : BootCycle) (phase : BootPhase) (limit : Nat) :
    Option (Except CoreError (List store.Idx)) :=
  match store.select cycle phase with
  | .error err => some (.error err)
  | .ok selected =>
      let graph := Graph.build selected
      (Prog.loop (popFront graph) limit (startPlanning graph selected)).map fun done =>
        if done.2.order.length ≠ selected.length then
          .error (.dependencyCycle (selected.map fun idx => (store.item idx).id))
        else .ok (if phase = .end_ then done.2.order.reverse else done.2.order)

end OrchestratorStore

end Rind
