import Rind.Services.Activation

/-!
# Passed descriptors

The process of a service gets its sockets on the descriptors from 3 on. Both executors copy them
there one after the other, within the one table of the process, so that a copy can overwrite what a
later one still has to be made from.
-/

namespace Rind

/-- What is open under a descriptor, and whether `exec` closes it. -/
structure Descriptor (File : Type) where
  file : File
  cloexec : Bool

/-- The descriptors of a process. -/
abbrev FdTable (File : Type) : Type := RawFd → Option (Descriptor File)

namespace FdTable

variable {File : Type}

def fileOf (table : FdTable File) (fd : RawFd) : Option File := (table fd).map Descriptor.file

/-- The copy of an open descriptor replaces what the target is, and outlives `exec`. -/
def dup2 (table : FdTable File) (fd targetFd : RawFd) : Option (FdTable File) :=
  (table fd).map fun source => Function.update table targetFd (some ⟨source.file, false⟩)

/-- `F_SETFD` without `FD_CLOEXEC`, where `F_GETFD` finds something. -/
def keepOpen (table : FdTable File) (targetFd : RawFd) : FdTable File :=
  Function.update table targetFd ((table targetFd).map fun held => { held with cloexec := false })

/-- The loop of `NativeExecutor::spawn`, which ends with the first error. -/
def spawnFds (idx : Nat) (table : FdTable File) : (preExecFds : List RawFd) → Option (FdTable File)
  | [] => some table
  | fd :: fds => do
      let targetFd : RawFd := 3 + idx
      let copied ← if fd ≠ targetFd then dup2 table fd targetFd else some table
      spawnFds (idx + 1) (copied.keepOpen targetFd) fds

/-- The loop of `exec_service`, which goes on after an error. -/
def execServiceFds (idx : Nat) (table : FdTable File) : (preExecFds : List RawFd) → FdTable File
  | [] => table
  | fd :: fds =>
      let targetFd : RawFd := 3 + idx
      let copied := if fd ≠ targetFd then (dup2 table fd targetFd).getD table else table
      execServiceFds (idx + 1) (copied.keepOpen targetFd) fds

/-- Each target is what its descriptor was before. -/
def Passes (fds : List RawFd) (before after : FdTable File) : Prop :=
  ∀ i (inside : i < fds.length), after.fileOf (3 + i) = before.fileOf fds[i]

/-- No descriptor is the target of an earlier one that is another file. -/
def Apart (fds : List RawFd) (table : FdTable File) : Prop :=
  ∀ i (inside : i < fds.length), ∀ j (earlier : j < i), fds[i] = 3 + j →
    table.fileOf fds[i] = table.fileOf fds[j]

/-! ## One descriptor -/

section Step

variable {table : FdTable File} {fd targetFd : RawFd}

/-- One round of a loop, where the descriptor is open. -/
def pass (table : FdTable File) (fd targetFd : RawFd) : FdTable File :=
  Function.update table targetFd ((table fd).map fun source => ⟨source.file, false⟩)

theorem keepOpen_copied {source : Descriptor File} (held : table fd = some source) :
    keepOpen (Function.update table targetFd (some ⟨source.file, false⟩)) targetFd =
      table.pass fd targetFd := by
  rw [keepOpen, Function.update_self, Function.update_idem, pass, held]
  rfl

theorem keepOpen_self : table.keepOpen targetFd = table.pass targetFd targetFd := rfl

theorem pass_isSome (held : (table fd).isSome) {other : RawFd} (opened : (table other).isSome) :
    ((table.pass fd targetFd) other).isSome := by
  rw [pass, Function.update_apply]
  split
  · simpa using held
  · exact opened

theorem fileOf_pass (other : RawFd) :
    (table.pass fd targetFd).fileOf other =
      if other = targetFd then table.fileOf fd else table.fileOf other := by
  rw [fileOf, pass, Function.update_apply]
  split
  · rw [Option.map_map]
    rfl
  · rfl

end Step

/-! ## All descriptors -/

section Loop

variable {table : FdTable File} {fds : List RawFd} {idx : Nat}

/-- With open descriptors neither loop has an error. -/
theorem spawnFds_cons {fd : RawFd} (held : (table fd).isSome) :
    spawnFds idx table (fd :: fds) = spawnFds (idx + 1) (table.pass fd (3 + idx)) fds := by
  obtain ⟨source, held⟩ := Option.isSome_iff_exists.mp held
  rw [spawnFds]
  by_cases there : fd = 3 + idx
  · simp only [there, ne_eq, not_true_eq_false, if_false, Option.bind_eq_bind, Option.bind_some,
      keepOpen_self]
  · simp only [there, ne_eq, not_false_eq_true, if_true, dup2, held, Option.map_some,
      Option.bind_eq_bind, Option.bind_some, keepOpen_copied held]

theorem execServiceFds_cons {fd : RawFd} (held : (table fd).isSome) :
    execServiceFds idx table (fd :: fds) =
      execServiceFds (idx + 1) (table.pass fd (3 + idx)) fds := by
  obtain ⟨source, held⟩ := Option.isSome_iff_exists.mp held
  rw [execServiceFds]
  by_cases there : fd = 3 + idx
  · simp only [there, ne_eq, not_true_eq_false, if_false, keepOpen_self]
  · simp only [there, ne_eq, not_false_eq_true, if_true, dup2, held, Option.map_some,
      Option.getD_some, keepOpen_copied held]

theorem forall_pass_isSome {fd targetFd : RawFd} (held : (table fd).isSome)
    (opened : ∀ fd ∈ fds, (table fd).isSome) :
    ∀ other ∈ fds, ((table.pass fd targetFd) other).isSome :=
  fun other listed => pass_isSome held (opened other listed)

/-- Both executors leave the same descriptors. -/
theorem spawnFds_eq (opened : ∀ fd ∈ fds, (table fd).isSome) :
    spawnFds idx table fds = some (execServiceFds idx table fds) := by
  induction fds generalizing idx table with
  | nil => rfl
  | cons fd fds ih =>
      obtain ⟨held, others⟩ := List.forall_mem_cons.mp opened
      rw [spawnFds_cons held, execServiceFds_cons held]
      exact ih (forall_pass_isSome held others)

/-- What is no target stays as it was. -/
theorem fileOf_execServiceFds_other (opened : ∀ fd ∈ fds, (table fd).isSome) {other : RawFd}
    (apart : ∀ i < fds.length, other ≠ 3 + ((idx + i : Nat) : RawFd)) :
    (execServiceFds idx table fds).fileOf other = table.fileOf other := by
  induction fds generalizing idx table with
  | nil => rfl
  | cons fd fds ih =>
      obtain ⟨held, others⟩ := List.forall_mem_cons.mp opened
      rw [execServiceFds_cons held, ih (forall_pass_isSome held others), fileOf_pass]
      · exact if_neg (apart 0 (Nat.succ_pos _))
      · intro i inside
        have next := apart (i + 1) (Nat.succ_lt_succ inside)
        rwa [← Nat.add_assoc, Nat.add_right_comm] at next

/-- A target is what its descriptor is when its turn comes. -/
theorem fileOf_execServiceFds (idx : Nat) (opened : ∀ fd ∈ fds, (table fd).isSome) {i : Nat}
    (inside : i < fds.length) :
    (execServiceFds idx table fds).fileOf (3 + ((idx + i : Nat) : RawFd)) =
      (execServiceFds idx table (fds.take i)).fileOf fds[i] := by
  induction fds generalizing idx table i with
  | nil => cases inside
  | cons fd fds ih =>
      obtain ⟨held, others⟩ := List.forall_mem_cons.mp opened
      rw [execServiceFds_cons held]
      cases i with
      | zero =>
          rw [fileOf_execServiceFds_other (forall_pass_isSome held others), fileOf_pass]
          · exact if_pos rfl
          · intro i _ same
            have same' : (3 + ((idx + 0 : Nat) : Int)) = 3 + ((idx + 1 + i : Nat) : Int) := same
            omega
      | succ i =>
          rw [List.take_succ_cons, execServiceFds_cons held, List.getElem_cons_succ,
            ← ih _ (forall_pass_isSome held others), ← Nat.add_assoc, Nat.add_right_comm]

theorem fileOf_execServiceFds_start (opened : ∀ fd ∈ fds, (table fd).isSome) {i : Nat}
    (inside : i < fds.length) :
    (execServiceFds 0 table fds).fileOf (3 + i) =
      (execServiceFds 0 table (fds.take i)).fileOf fds[i] := by
  have turn := fileOf_execServiceFds 0 opened inside
  rwa [Nat.zero_add] at turn

/-- A descriptor that is no earlier target is passed as it was. -/
theorem fileOf_execServiceFds_own (opened : ∀ fd ∈ fds, (table fd).isSome) {i : Nat}
    (inside : i < fds.length) (apart : ∀ j < i, fds[i] ≠ 3 + j) :
    (execServiceFds 0 table fds).fileOf (3 + i) = table.fileOf fds[i] := by
  rw [fileOf_execServiceFds_start opened inside]
  apply fileOf_execServiceFds_other
  · intro fd listed
    exact opened fd (List.mem_of_mem_take listed)
  · intro j earlier
    rw [Nat.zero_add]
    exact apart j (List.length_take_le _ _ |>.trans_lt' earlier)

/-- An earlier target is passed as it has become. -/
theorem fileOf_execServiceFds_earlier (opened : ∀ fd ∈ fds, (table fd).isSome) {i j : Nat}
    (inside : i < fds.length) (earlier : j < i) (target : fds[i] = 3 + j) :
    (execServiceFds 0 table fds).fileOf (3 + i) = (execServiceFds 0 table fds).fileOf (3 + j) := by
  have openedTake : ∀ fd ∈ fds.take i, (table fd).isSome := by
    intro fd listed
    exact opened fd (List.mem_of_mem_take listed)
  have insideTake : j < (fds.take i).length := by
    rw [List.length_take]
    omega
  rw [fileOf_execServiceFds_start opened inside, target,
    fileOf_execServiceFds_start openedTake insideTake,
    fileOf_execServiceFds_start opened (earlier.trans inside), List.take_take,
    Nat.min_eq_left earlier.le, List.getElem_take]

theorem passes_execServiceFds (opened : ∀ fd ∈ fds, (table fd).isSome) :
    Passes fds table (execServiceFds 0 table fds) ↔ Apart fds table := by
  constructor
  · intro passes i inside j earlier target
    rw [← passes i inside, ← passes j (earlier.trans inside)]
    exact fileOf_execServiceFds_earlier opened inside earlier target
  · intro apart i inside
    induction i using Nat.strongRecOn with
    | ind i ih =>
        by_cases earlier : ∃ j < i, fds[i] = 3 + j
        · obtain ⟨j, before, target⟩ := earlier
          rw [fileOf_execServiceFds_earlier opened inside before target,
            ih j before (before.trans inside), apart i inside j before target]
        · apply fileOf_execServiceFds_own opened inside
          intro j before target
          exact earlier ⟨j, before, target⟩

end Loop

/-! ## Both executors -/

section Executors

variable {table : FdTable File} {fds : List RawFd}

/-- Open descriptors are passed exactly when none is the target of an earlier other file. -/
theorem passes_iff (opened : ∀ fd ∈ fds, (table fd).isSome) :
    ((∃ after, spawnFds 0 table fds = some after ∧ Passes fds table after) ↔ Apart fds table) ∧
      (Passes fds table (execServiceFds 0 table fds) ↔ Apart fds table) := by
  refine ⟨?_, passes_execServiceFds opened⟩
  rw [spawnFds_eq opened]
  constructor
  · rintro ⟨after, same, passes⟩
    cases same
    exact (passes_execServiceFds opened).mp passes
  · intro apart
    exact ⟨_, rfl, (passes_execServiceFds opened).mpr apart⟩

end Executors

/-! ## Descriptors as copies -/

/-- Every descriptor is open, and another file. -/
def distinctFiles : FdTable RawFd := fun fd => some ⟨fd, true⟩

/-- What is copied, as a table. -/
def ofChild (child : ChildFds) : FdTable RawFd :=
  fun fd => some ⟨child.copyOf fd, decide (fd ∉ child.open_)⟩

theorem pass_ofChild (child : ChildFds) (fd targetFd : RawFd) :
    (ofChild child).pass fd targetFd = ofChild (passFd child fd targetFd) := by
  funext other
  rw [pass, Function.update_apply]
  split
  · rename_i same
    subst same
    by_cases there : fd = other
    · simp [ofChild, passFd, there]
    · simp [ofChild, passFd, there]
  · rename_i different
    by_cases there : fd = targetFd
    · simp [ofChild, passFd, there, different]
    · simp [ofChild, passFd, there, different]

theorem execServiceFds_ofChild (fds : List RawFd) (idx : Nat) (child : ChildFds) :
    execServiceFds idx (ofChild child) fds =
      ofChild ((fds.zipIdx idx).foldl (fun child entry => passFd child entry.1 (3 + entry.2))
        child) := by
  induction fds generalizing idx child with
  | nil => rfl
  | cons fd fds ih =>
      rw [execServiceFds_cons rfl, pass_ofChild, ih]
      rfl

/-- The descriptors that a started process has are those that the loop keeps open. -/
theorem passFds_eq (fds : List RawFd) (fd : RawFd) :
    passFds fds fd = (execServiceFds 0 distinctFiles fds fd).bind fun held =>
      if held.cloexec then none else some held.file := by
  have start : distinctFiles = ofChild ⟨id, []⟩ := rfl
  rw [start, execServiceFds_ofChild, passFds]
  simp only [ofChild, Option.bind_some, decide_eq_true_eq, ite_not]


theorem passes_iff_above : Passes [9, 7] distinctFiles (execServiceFds 0 distinctFiles [9, 7]) := by
  refine (passes_iff (by simp [distinctFiles])).2.mpr ?_
  intro i inside j earlier target
  match i, j with
  | 1, 0 => cases target

/-- The first copy is made over the second descriptor. -/
theorem not_passes_swapped : ¬ ∀ (fds : List RawFd) (table : FdTable RawFd), fds.Nodup →
    (∀ fd ∈ fds, (table fd).isSome) → Passes fds table (execServiceFds 0 table fds) := by
  intro passes
  have second := passes [4, 3] distinctFiles (by decide) (by simp [distinctFiles]) 1 (by decide)
  revert second
  decide

end FdTable

end Rind
