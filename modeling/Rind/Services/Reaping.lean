import Rind.Prog.Runs
import Mathlib.Data.List.Basic
import Mathlib.Data.Nat.Basic

/-!
# Exit codes

The reaper collects the processes that have ended, and reports an exit code for each.  A
process in a namespace of its own has one or two supervisors, which wait for it and end with
its exit code themselves.
-/

namespace Rind.Reaping

/-! ## Status words -/

/-- How a process ends: with `_exit`, or by a signal. -/
inductive Termination where
  | exit (code : Nat)
  | signal (number : Nat) (known : 0 < number ∧ number ≤ 64) (dumped : Bool)

/-- The status word of a process that has ended. -/
def Termination.status : Termination → Nat
  | .exit code => code % 256 * 256
  | .signal number _ dumped => number + if dumped then 128 else 0

def wifexited (status : Nat) : Bool := status % 128 == 0

def wexitstatus (status : Nat) : Nat := status / 256 % 256

def wtermsig (status : Nat) : Nat := status % 128

def wifsignaled (status : Nat) : Bool := decide (0 < wtermsig status ∧ wtermsig status < 127)

/-! ## The reaper -/

inductive WaitStatus where
  | exited (code : Nat)
  | signaled (signal : Nat)
  | other
  deriving DecidableEq, Repr

/-- `WaitStatus::from_raw`, which fails for a signal that has no name. -/
def fromRaw (status : Nat) : Option WaitStatus :=
  if wifexited status then some (.exited (wexitstatus status))
  else if wifsignaled status then
    if wtermsig status ≤ 31 then some (.signaled (wtermsig status)) else none
  else some .other

/-- A process that has ended. -/
structure Zombie where
  pid : Nat
  termination : Termination

/-- The process and the exit code of a `child_exited`. -/
structure Report where
  pid : Nat
  code : Nat
  deriving DecidableEq, Repr

/-- The reports of one round of the reaper, and the processes that are left. -/
def reapOnce : List Zombie → List Report × List Zombie
  | [] => ([], [])
  | zombie :: rest =>
      match fromRaw zombie.termination.status with
      | some (.exited code) => (⟨zombie.pid, code⟩ :: (reapOnce rest).1, (reapOnce rest).2)
      | some (.signaled signal) =>
          (⟨zombie.pid, 128 + signal⟩ :: (reapOnce rest).1, (reapOnce rest).2)
      | some .other => reapOnce rest
      | none => ([], rest)

/-! ## Supervisors -/

/-- What `waitpid` returns to a supervisor. -/
inductive WaitResult where
  | interrupted
  | failed
  | ended (pid : Nat) (status : Nat)

/-- The code that a supervisor ends with. -/
def exitCode (status : Nat) : Nat :=
  if wifexited status then wexitstatus status
  else if wifsignaled status then 128 + wtermsig status
  else 127

/-- `wait_and_exit`, which goes on waiting when nothing has been returned yet. -/
def waitAndExit : List WaitResult → Option Nat
  | [] => none
  | .interrupted :: rest => waitAndExit rest
  | .failed :: _ => some 127
  | .ended _ status :: _ => some (exitCode status)

/-- `run_pid_init` waits for all processes of its namespace, up to the end of its own child.
What it collects afterwards does not count. -/
def runPidInit (child : Nat) : List WaitResult → Option Nat
  | [] => none
  | .interrupted :: rest => runPidInit child rest
  | .failed :: _ => some (exitCode (127 * 256))
  | .ended pid status :: rest =>
      if pid = child then some (exitCode status) else runPidInit child rest

/-! ## What is reported -/

/-- The exit code for a process, as shells give it. -/
def Termination.code : Termination → Nat
  | .exit code => code % 256
  | .signal number _ _ => 128 + number

/-- A signal that the reaper has no name for. -/
def Termination.Realtime : Termination → Prop
  | .exit _ => False
  | .signal number _ _ => 31 < number

instance (termination : Termination) : Decidable termination.Realtime :=
  match termination with
  | .exit _ => .isFalse id
  | .signal number _ _ => inferInstanceAs (Decidable (31 < number))

theorem wifexited_exit (code : Nat) : wifexited (code % 256 * 256) = true := by
  simp [wifexited]
  omega

theorem wexitstatus_exit (code : Nat) : wexitstatus (code % 256 * 256) = code % 256 := by
  rw [wexitstatus, Nat.mul_div_cancel _ (by decide), Nat.mod_mod]

section Signal

variable {number : Nat} (known : 0 < number ∧ number ≤ 64) (dumped : Bool)

theorem wtermsig_signal : wtermsig (Termination.signal number known dumped).status = number := by
  rw [Termination.status, wtermsig]
  split <;> omega

theorem wifexited_signal : wifexited (Termination.signal number known dumped).status = false := by
  have named := wtermsig_signal known dumped
  rw [wtermsig] at named
  rw [wifexited, named, beq_eq_false_iff_ne]
  omega

theorem wifsignaled_signal :
    wifsignaled (Termination.signal number known dumped).status = true := by
  rw [wifsignaled, wtermsig_signal]
  exact decide_eq_true ⟨known.1, by omega⟩

end Signal

/-- A supervisor ends with the exit code of what it has waited for. -/
theorem exitCode_status (termination : Termination) :
    exitCode termination.status = termination.code := by
  cases termination with
  | exit code =>
      rw [exitCode, Termination.status, if_pos (wifexited_exit code), wexitstatus_exit]
      rfl
  | signal number known dumped =>
      rw [exitCode, wifexited_signal, wifsignaled_signal, wtermsig_signal]
      rfl

/-- The report for a process that has ended. -/
def reportOf (zombie : Zombie) : Option Report :=
  if zombie.termination.Realtime then none else some ⟨zombie.pid, zombie.termination.code⟩

theorem reportOf_exit (pid code : Nat) : reportOf ⟨pid, .exit code⟩ = some ⟨pid, code % 256⟩ :=
  if_neg id

theorem reapOnce_cons (zombie : Zombie) (rest : List Zombie) : reapOnce (zombie :: rest) =
    match reportOf zombie with
    | some report => (report :: (reapOnce rest).1, (reapOnce rest).2)
    | none => ([], rest) := by
  obtain ⟨pid, termination⟩ := zombie
  cases termination with
  | exit code =>
      have named : fromRaw (Termination.exit code).status = some (.exited (code % 256)) := by
        rw [fromRaw, Termination.status, if_pos (wifexited_exit code), wexitstatus_exit]
      rw [reapOnce, named]
      rfl
  | signal number known dumped =>
      have named : fromRaw (Termination.signal number known dumped).status =
          if number ≤ 31 then some (.signaled number) else none := by
        rw [fromRaw, wifexited_signal, wifsignaled_signal, wtermsig_signal]
        rfl
      rw [reapOnce, named, reportOf]
      by_cases standard : number ≤ 31
      · have ordinary : ¬ (Termination.signal number known dumped).Realtime :=
          Nat.not_lt.mpr standard
        rw [if_pos standard, if_neg ordinary]
        rfl
      · have realtime : (Termination.signal number known dumped).Realtime := Nat.not_le.mp standard
        rw [if_neg standard, if_pos realtime]

/-! ## Runs -/

/-- The processes that have ended and not been collected, and what has been reported. -/
structure Reaper where
  zombies : List Zombie
  reports : List Report

/-- A process ends, or the reaper goes round. -/
inductive ReaperStep where
  | ends (zombie : Zombie)
  | reap

def Reaper.start : Reaper := ⟨[], []⟩

def Reaper.step (reaper : Reaper) : ReaperStep → Reaper
  | .ends zombie => { reaper with zombies := reaper.zombies ++ [zombie] }
  | .reap => ⟨(reapOnce reaper.zombies).2, reaper.reports ++ (reapOnce reaper.zombies).1⟩

/-- The process that ends in a step. -/
def ReaperStep.ended : ReaperStep → Option Zombie
  | .ends zombie => some zombie
  | .reap => none

/-- A round reports the processes in front of the first one that ended by a signal without a
name, and collects this one too. -/
theorem reapOnce_spec (zombies : List Zombie) : ∃ collected left, zombies = collected ++ left ∧
    reapOnce zombies = (collected.filterMap reportOf, left) ∧ (zombies ≠ [] → collected ≠ []) := by
  induction zombies with
  | nil => exact ⟨[], [], rfl, rfl, id⟩
  | cons first rest ih =>
      obtain ⟨collected, left, split, reaped, -⟩ := ih
      have round := reapOnce_cons first rest
      cases reported : reportOf first with
      | none =>
          rw [reported] at round
          refine ⟨[first], rest, rfl, ?_, fun _ => nofun⟩
          rw [round, List.filterMap_cons_none reported]
          rfl
      | some report =>
          rw [reported, reaped] at round
          refine ⟨first :: collected, left, by rw [split, List.cons_append], ?_, fun _ => nofun⟩
          rw [round, List.filterMap_cons_some reported]

/-- In every run, what has been reported is the exit codes of the processes that have been
collected, once each and in the order in which they ended. -/
theorem reports_append (labels : List ReaperStep) (reaper : Reaper) :
    (Runs.run Reaper.step reaper labels).reports ++
        (Runs.run Reaper.step reaper labels).zombies.filterMap reportOf =
      reaper.reports ++
        (reaper.zombies ++ labels.filterMap ReaperStep.ended).filterMap reportOf := by
  induction labels generalizing reaper with
  | nil => simp
  | cons label rest ih =>
      rw [Runs.run_cons, ih]
      cases label with
      | ends zombie =>
          rw [Reaper.step, List.append_assoc]
          rfl
      | reap =>
          obtain ⟨collected, left, split, reaped, -⟩ := reapOnce_spec reaper.zombies
          rw [Reaper.step, reaped, split]
          simp only [List.filterMap_cons, ReaperStep.ended, List.filterMap_append, List.append_assoc]

/-- As many rounds as there are processes collect them all. -/
theorem zombies_reaped (reaper : Reaper) {rounds : Nat} (enough : reaper.zombies.length ≤ rounds) :
    (Runs.run Reaper.step reaper (List.replicate rounds .reap)).zombies = [] := by
  induction rounds generalizing reaper with
  | zero => exact List.eq_nil_of_length_eq_zero (Nat.le_zero.mp enough)
  | succ rounds ih =>
      obtain ⟨collected, left, split, reaped, some_⟩ := reapOnce_spec reaper.zombies
      rw [List.replicate_succ, Runs.run_cons]
      apply ih
      rw [Reaper.step, reaped]
      dsimp only
      cases zombies : reaper.zombies with
      | nil =>
          rw [zombies] at split
          rw [(List.append_eq_nil_iff.mp split.symm).2]
          exact Nat.zero_le _
      | cons first rest =>
          have more := List.length_pos_iff.mpr (some_ (by rw [zombies]; nofun))
          have total := congrArg List.length split
          rw [List.length_append] at total
          omega

/-- Where a process runs: directly under the daemon, in a namespace with a supervisor outside, or
with another one as the first process of the namespace. -/
inductive Supervision where
  | direct
  | supervised
  | init
  deriving DecidableEq, Repr

/-- Nothing that ends a supervisor's wait for a process: interruptions, and the ends of others. -/
def Unrelated (pid : Nat) : WaitResult → Prop
  | .interrupted => True
  | .failed => False
  | .ended other _ => other ≠ pid

theorem runPidInit_append {pid : Nat} {before : List WaitResult} (termination : Termination)
    (unrelated : ∀ result ∈ before, Unrelated pid result) (rest : List WaitResult) :
    runPidInit pid (before ++ .ended pid termination.status :: rest) = some termination.code := by
  induction before with
  | nil => rw [List.nil_append, runPidInit, if_pos rfl, exitCode_status]
  | cons first before ih =>
      obtain ⟨apart, others⟩ := List.forall_mem_cons.mp unrelated
      cases first with
      | interrupted => exact ih others
      | failed => exact absurd apart id
      | ended other status =>
          rw [List.cons_append, runPidInit, if_neg apart]
          exact ih others

theorem waitAndExit_append (termination : Termination) (pid interruptions : Nat)
    (rest : List WaitResult) :
    waitAndExit (List.replicate interruptions .interrupted ++
      .ended pid termination.status :: rest) = some termination.code := by
  induction interruptions with
  | zero => rw [List.replicate_zero, List.nil_append, waitAndExit, exitCode_status]
  | succ interruptions ih => exact ih

theorem Termination.code_lt (termination : Termination) : termination.code < 256 := by
  cases termination with
  | exit code => exact Nat.mod_lt _ (by decide)
  | signal number known dumped =>
      rw [Termination.code]
      omega

/-- How the daemon's own child ends when the service ends. A supervisor may be interrupted, and
the first process of a namespace collects others before the service and after it. -/
inductive EndsAs (service : Nat) (termination : Termination) :
    Supervision → Termination → Prop where
  | direct : EndsAs service termination .direct termination
  | supervised {interruptions code : Nat} {rest : List WaitResult}
      (exits : waitAndExit (List.replicate interruptions .interrupted ++
        .ended service termination.status :: rest) = some code) :
      EndsAs service termination .supervised (.exit code)
  | init {before after rest : List WaitResult} {first interruptions inner code : Nat}
      (unrelated : ∀ result ∈ before, Unrelated service result)
      (initExits : runPidInit service (before ++ .ended service termination.status :: after) =
        some inner)
      (exits : waitAndExit (List.replicate interruptions .interrupted ++
        .ended first (Termination.exit inner).status :: rest) = some code) :
      EndsAs service termination .init (.exit code)

end Rind.Reaping
