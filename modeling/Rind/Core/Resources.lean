import Rind.Core.Names
import Rind.Prog.Runs
import Mathlib.Data.List.AList

/-!
# Resources of the event loop

The event loop watches descriptors.  Seven tables say what is to be done for each, and
the loop brings them up to date with epoll before it waits for events.  Every operation
and every pass of the loop treats each descriptor for itself, so that the tables are as
many small machines as there are descriptors.
-/

namespace Rind

open Runs

/-- A raw descriptor. -/
abbrev RawFd : Type := Int

abbrev EpollFlags : Type := UInt32

/-- `EPOLLIN` -/
def epollIn : EpollFlags := 1

/-- A descriptor that is owned. -/
inductive FdLoc where
  | owned (fd : RawFd)
  | timer (fd : RawFd)
  deriving DecidableEq

/-- What the event loop dispatches for a descriptor. -/
structure ResourceAction (P : Type) where
  runtime : Ustr
  action : Ustr
  payload : Option (P → P)

structure Resources (P : Type) where
  actions : AList fun _ : RawFd => ResourceAction P
  fd : AList fun _ : RawFd => FdLoc
  flags : AList fun _ : RawFd => EpollFlags
  unwatchedFds : List RawFd
  watchedFds : List RawFd
  removedFds : List RawFd
  pausedFds : List RawFd

namespace Resources

variable {P : Type}

/-- `Resources::default` -/
def empty (P : Type) : Resources P := ⟨∅, ∅, ∅, [], [], [], []⟩

/-- `HashSet::remove` -/
def without (fds : List RawFd) (res : RawFd) : List RawFd := fds.filter (· ≠ res)

@[simp] theorem mem_without {fds : List RawFd} {res fd : RawFd} :
    fd ∈ without fds res ↔ fd ∈ fds ∧ fd ≠ res := by simp [without]

variable (resources : Resources P) (res : RawFd)

def registerResource : Resources P :=
  if res ∈ resources.watchedFds then resources
  else { resources with unwatchedFds := resources.unwatchedFds.insert res }

def watch : Resources P :=
  { resources with
    unwatchedFds := without resources.unwatchedFds res
    watchedFds := resources.watchedFds.insert res }

def action (act : ResourceAction P) : Resources P :=
  { resources with actions := resources.actions.insert res act }.registerResource res

def pause : Resources P :=
  if res ∈ resources.watchedFds then
    { resources with
      watchedFds := without resources.watchedFds res
      removedFds := resources.removedFds.insert res
      pausedFds := resources.pausedFds.insert res }
  else resources

def resume : Resources P :=
  if res ∈ resources.pausedFds then
    { resources with
      pausedFds := without resources.pausedFds res
      removedFds := without resources.removedFds res }.registerResource res
  else resources

def clearRemoved : Resources P :=
  { resources with removedFds := without resources.removedFds res }

def own (fd : FdLoc) : Resources P := { resources with fd := resources.fd.insert res fd }

def terminate : Resources P :=
  let unwatched := { resources with unwatchedFds := without resources.unwatchedFds res }
  let removed :=
    if res ∈ unwatched.watchedFds then
      { unwatched with
        watchedFds := without unwatched.watchedFds res
        removedFds := unwatched.removedFds.insert res
        flags := unwatched.flags.erase res }
    else unwatched
  { removed with actions := removed.actions.erase res }

def removeFull : Resources P :=
  { resources with removedFds := without resources.removedFds res, fd := resources.fd.erase res }

def getFlags : EpollFlags := (resources.flags.lookup res).getD epollIn

def flag (flags : EpollFlags) : Resources P :=
  { resources with flags := resources.flags.insert res flags }

/-- The event loop deletes a descriptor from epoll. -/
def dropRemoved : Resources P :=
  if res ∈ resources.pausedFds then resources.clearRemoved res else resources.removeFull res

/-- The event loop adds a descriptor to epoll, where epoll accepts it or has it already. -/
def addUnwatched (accepts : RawFd → EpollFlags → Bool) : Resources P :=
  if accepts res (resources.getFlags res) then resources.watch res else resources

/-- What `EventLoop::run` does with the tables in one pass. -/
def pass (accepts : RawFd → EpollFlags → Bool) : Resources P :=
  let dropped := resources.removedFds.foldl dropRemoved resources
  dropped.unwatchedFds.foldl (fun resources res => resources.addUnwatched res accepts) dropped

end Resources

/-- The operations, and the passes of the event loop between them. -/
inductive ResourceOp (P : Type) where
  | own (res : RawFd) (fd : FdLoc)
  | action (res : RawFd) (act : ResourceAction P)
  | registerResource (res : RawFd)
  | watch (res : RawFd)
  | pause (res : RawFd)
  | resume (res : RawFd)
  | flag (res : RawFd) (flags : EpollFlags)
  | terminate (res : RawFd)
  | pass (accepts : RawFd → EpollFlags → Bool)

def resourceStep {P : Type} (resources : Resources P) : ResourceOp P → Resources P
  | .own res fd => resources.own res fd
  | .action res act => resources.action res act
  | .registerResource res => resources.registerResource res
  | .watch res => resources.watch res
  | .pause res => resources.pause res
  | .resume res => resources.resume res
  | .flag res flags => resources.flag res flags
  | .terminate res => resources.terminate res
  | .pass accepts => resources.pass accepts

/-! ## One descriptor -/

section Descriptors

variable {P : Type}

/-- What the tables say about one descriptor. -/
@[ext] structure FdEntry (P : Type) where
  action : Option (ResourceAction P)
  handle : Option FdLoc
  flags : Option EpollFlags
  unwatched : Bool
  watched : Bool
  removed : Bool
  paused : Bool

def Resources.entry (resources : Resources P) (fd : RawFd) : FdEntry P where
  action := resources.actions.lookup fd
  handle := resources.fd.lookup fd
  flags := resources.flags.lookup fd
  unwatched := decide (fd ∈ resources.unwatchedFds)
  watched := decide (fd ∈ resources.watchedFds)
  removed := decide (fd ∈ resources.removedFds)
  paused := decide (fd ∈ resources.pausedFds)

namespace FdEntry

def register (entry : FdEntry P) : FdEntry P :=
  if entry.watched then entry else { entry with unwatched := true }

def watch (entry : FdEntry P) : FdEntry P := { entry with unwatched := false, watched := true }

def pause (entry : FdEntry P) : FdEntry P :=
  if entry.watched then { entry with watched := false, removed := true, paused := true }
  else entry

def resume (entry : FdEntry P) : FdEntry P :=
  if entry.paused then { entry with paused := false, removed := false }.register else entry

def terminate (entry : FdEntry P) : FdEntry P :=
  if entry.watched then
    { entry with unwatched := false, watched := false, removed := true, flags := none, action := none }
  else { entry with unwatched := false, action := none }

/-- The rounds of the two loops of a pass. -/
def dropRemoved (entry : FdEntry P) : FdEntry P :=
  if entry.paused then { entry with removed := false }
  else { entry with removed := false, handle := none }

def addUnwatched (entry : FdEntry P) (accepts : EpollFlags → Bool) : FdEntry P :=
  if accepts (entry.flags.getD epollIn) then entry.watch else entry

def pass (entry : FdEntry P) (accepts : EpollFlags → Bool) : FdEntry P :=
  let dropped := if entry.removed then entry.dropRemoved else entry
  if dropped.unwatched then dropped.addUnwatched accepts else dropped

/-- What an operation does with one descriptor. -/
def step (fd : RawFd) (entry : FdEntry P) : ResourceOp P → FdEntry P
  | .own res loc => if fd = res then { entry with handle := some loc } else entry
  | .action res act => if fd = res then { entry with action := some act }.register else entry
  | .registerResource res => if fd = res then entry.register else entry
  | .watch res => if fd = res then entry.watch else entry
  | .pause res => if fd = res then entry.pause else entry
  | .resume res => if fd = res then entry.resume else entry
  | .flag res flags => if fd = res then { entry with flags := some flags } else entry
  | .terminate res => if fd = res then entry.terminate else entry
  | .pass accepts => entry.pass (accepts fd)

end FdEntry

/-! ## The tables as descriptors -/

namespace Resources

variable {resources : Resources P} {res fd : RawFd}

theorem entry_registerResource : (resources.registerResource res).entry fd =
    if fd = res then (resources.entry fd).register else resources.entry fd := by
  by_cases same : fd = res
  · subst same
    by_cases watched : fd ∈ resources.watchedFds <;>
      simp [registerResource, entry, FdEntry.register, watched]
  · by_cases watched : res ∈ resources.watchedFds <;>
      simp [registerResource, entry, same, watched]

theorem entry_watch : (resources.watch res).entry fd =
    if fd = res then (resources.entry fd).watch else resources.entry fd := by
  by_cases same : fd = res
  · simp [watch, entry, FdEntry.watch, same]
  · ext1 <;> simp [watch, entry, same] <;> rfl

theorem entry_action (act : ResourceAction P) : (resources.action res act).entry fd =
    if fd = res then { resources.entry fd with action := some act }.register
    else resources.entry fd := by
  rw [action, entry_registerResource]
  by_cases same : fd = res
  · subst same
    simp [entry]
  · simp [entry, same, AList.lookup_insert_ne same]

theorem entry_pause : (resources.pause res).entry fd =
    if fd = res then (resources.entry fd).pause else resources.entry fd := by
  by_cases same : fd = res
  · subst same
    by_cases watched : fd ∈ resources.watchedFds <;>
      simp [pause, entry, FdEntry.pause, watched]
  · by_cases watched : res ∈ resources.watchedFds <;> simp [pause, entry, same, watched]

theorem entry_resume : (resources.resume res).entry fd =
    if fd = res then (resources.entry fd).resume else resources.entry fd := by
  by_cases paused : res ∈ resources.pausedFds
  · rw [resume, if_pos paused, entry_registerResource]
    by_cases same : fd = res
    · subst same
      simp [entry, FdEntry.resume, paused]
    · simp [entry, same]
  · rw [resume, if_neg paused]
    by_cases same : fd = res
    · subst same
      simp [entry, FdEntry.resume, paused]
    · rw [if_neg same]

theorem entry_terminate : (resources.terminate res).entry fd =
    if fd = res then (resources.entry fd).terminate else resources.entry fd := by
  by_cases same : fd = res
  · subst same
    by_cases watched : fd ∈ resources.watchedFds <;>
      simp [terminate, entry, FdEntry.terminate, watched]
  · by_cases watched : res ∈ resources.watchedFds <;>
      simp [terminate, entry, same, watched, AList.lookup_erase_ne same]

theorem entry_dropRemoved : (resources.dropRemoved res).entry fd =
    if fd = res then (resources.entry fd).dropRemoved else resources.entry fd := by
  by_cases same : fd = res
  · subst same
    by_cases paused : fd ∈ resources.pausedFds <;>
      simp [dropRemoved, clearRemoved, removeFull, entry, FdEntry.dropRemoved, paused]
  · by_cases paused : res ∈ resources.pausedFds <;>
      simp [dropRemoved, clearRemoved, removeFull, entry, same, paused,
        AList.lookup_erase_ne same]

theorem entry_addUnwatched (accepts : RawFd → EpollFlags → Bool) :
    (resources.addUnwatched res accepts).entry fd =
      if fd = res then (resources.entry fd).addUnwatched (accepts fd) else resources.entry fd := by
  have flags : resources.getFlags fd = (resources.entry fd).flags.getD epollIn := rfl
  by_cases same : fd = res
  · subst same
    rw [addUnwatched, FdEntry.addUnwatched, flags, if_pos rfl]
    split
    · rw [entry_watch, if_pos rfl]
    · rfl
  · rw [addUnwatched, if_neg same]
    split
    · rw [entry_watch, if_neg same]
    · rfl

/-- A loop whose rounds change one descriptor each changes those of its list, in
whatever order, if a change made twice is one. -/
theorem entry_foldl {round : Resources P → RawFd → Resources P}
    (change : RawFd → FdEntry P → FdEntry P)
    (at_ : ∀ resources res fd, (round resources res).entry fd =
      if fd = res then change fd (resources.entry fd) else resources.entry fd)
    (twice : ∀ fd entry, change fd (change fd entry) = change fd entry) (fds : List RawFd) :
    (fds.foldl round resources).entry fd =
      if fd ∈ fds then change fd (resources.entry fd) else resources.entry fd := by
  induction fds generalizing resources with
  | nil => rfl
  | cons res rest ih =>
      rw [List.foldl_cons, ih, at_]
      by_cases same : fd = res
      · subst same
        simp [twice]
      · simp [same]

theorem entry_pass (accepts : RawFd → EpollFlags → Bool) :
    (resources.pass accepts).entry fd = (resources.entry fd).pass (accepts fd) := by
  have droppedTwice : ∀ (_ : RawFd) (entry : FdEntry P),
      entry.dropRemoved.dropRemoved = entry.dropRemoved := by
    intro _ entry
    cases paused : entry.paused <;> simp [FdEntry.dropRemoved, paused]
  have addedTwice : ∀ (fd : RawFd) (entry : FdEntry P),
      (entry.addUnwatched (accepts fd)).addUnwatched (accepts fd) =
        entry.addUnwatched (accepts fd) := by
    intro fd entry
    cases accepted : accepts fd (entry.flags.getD epollIn) <;>
      simp [FdEntry.addUnwatched, FdEntry.watch, accepted]
  have dropped : (resources.removedFds.foldl dropRemoved resources).entry fd =
      if fd ∈ resources.removedFds then (resources.entry fd).dropRemoved
      else resources.entry fd :=
    entry_foldl (fun _ => FdEntry.dropRemoved) (fun _ _ _ => entry_dropRemoved) droppedTwice _
  rw [pass, FdEntry.pass]
  generalize resources.removedFds.foldl dropRemoved resources = after at dropped
  rw [entry_foldl (fun fd entry => entry.addUnwatched (accepts fd))
    (fun _ _ _ => entry_addUnwatched accepts) addedTwice, dropped]
  have removed : fd ∈ resources.removedFds ↔ (resources.entry fd).removed = true :=
    decide_eq_true_iff.symm
  have unwatched : fd ∈ after.unwatchedFds ↔ (after.entry fd).unwatched = true :=
    decide_eq_true_iff.symm
  simp only [unwatched, dropped, removed]

/-- Every operation is one of each descriptor. -/
theorem entry_step (op : ResourceOp P) :
    (resourceStep resources op).entry fd = FdEntry.step fd (resources.entry fd) op := by
  cases op with
  | own res loc =>
      rw [FdEntry.step]
      by_cases same : fd = res
      · subst same
        simp only [resourceStep, own, entry, AList.lookup_insert, if_true]
        rfl
      · simp only [resourceStep, own, entry, AList.lookup_insert_ne same, if_neg same]
        rfl
  | action res act => exact entry_action act
  | registerResource res => exact entry_registerResource
  | watch res => exact entry_watch
  | pause res => exact entry_pause
  | resume res => exact entry_resume
  | flag res flags =>
      rw [FdEntry.step]
      by_cases same : fd = res
      · subst same
        simp only [resourceStep, flag, entry, AList.lookup_insert, if_true]
        rfl
      · simp only [resourceStep, flag, entry, AList.lookup_insert_ne same, if_neg same]
        rfl
  | terminate res => exact entry_terminate
  | pass accepts => exact entry_pass accepts

/-- A run of the tables is a run of each descriptor. -/
theorem entry_run (ops : List (ResourceOp P)) :
    (Runs.run resourceStep resources ops).entry fd =
      Runs.run (FdEntry.step fd) (resources.entry fd) ops := by
  induction ops generalizing resources with
  | nil => rfl
  | cons op rest ih => rw [run_cons, run_cons, ih, entry_step]

end Resources

/-! ## Paused descriptors -/

namespace Resources

variable {resources : Resources P} {res fd : RawFd}

theorem paused_entry : fd ∈ resources.pausedFds ↔ (resources.entry fd).paused :=
  decide_eq_true_iff.symm

theorem mem_paused_own (loc : FdLoc) :
    fd ∈ (resources.own res loc).pausedFds ↔ fd ∈ resources.pausedFds := Iff.rfl

theorem mem_paused_registerResource :
    fd ∈ (resources.registerResource res).pausedFds ↔ fd ∈ resources.pausedFds := by
  rw [registerResource]
  split <;> rfl

theorem mem_paused_action (act : ResourceAction P) :
    fd ∈ (resources.action res act).pausedFds ↔ fd ∈ resources.pausedFds :=
  mem_paused_registerResource

theorem mem_paused_pause : fd ∈ (resources.pause res).pausedFds ↔
    fd ∈ resources.pausedFds ∨ fd = res ∧ res ∈ resources.watchedFds := by
  rw [pause]
  split
  · next watched => simp [watched, or_comm]
  · next unwatched => simp [unwatched]

theorem mem_paused_resume :
    fd ∈ (resources.resume res).pausedFds ↔ fd ∈ resources.pausedFds ∧ fd ≠ res := by
  rw [resume]
  split
  · rw [mem_paused_registerResource]
    simp
  · next running =>
      constructor
      · intro member
        refine ⟨member, ?_⟩
        rintro rfl
        exact running member
      · exact And.left

theorem mem_paused_terminate :
    fd ∈ (resources.terminate res).pausedFds ↔ fd ∈ resources.pausedFds := by
  rw [terminate]
  dsimp only
  split <;> rfl

theorem mem_paused_pass (accepts : RawFd → EpollFlags → Bool) :
    fd ∈ (resources.pass accepts).pausedFds ↔ fd ∈ resources.pausedFds := by
  rw [paused_entry, paused_entry, entry_pass, FdEntry.pass]
  cases removed : (resources.entry fd).removed <;> cases paused : (resources.entry fd).paused <;>
    simp [FdEntry.dropRemoved, FdEntry.addUnwatched, FdEntry.watch, paused, apply_ite FdEntry.paused]

/-- Of the descriptors that are resumed one after the other, those that were paused come
to be watched again. -/
theorem entry_resumeAll (fds : List RawFd) : (fds.foldl resume resources).entry fd =
    if fd ∈ fds then (resources.entry fd).resume else resources.entry fd := by
  apply entry_foldl (fun _ => FdEntry.resume)
  · exact fun _ _ _ => entry_resume
  · intro _ entry
    cases paused : entry.paused with
    | false => simp [FdEntry.resume, paused]
    | true =>
        have resumed : entry.resume.paused = false := by
          simp only [FdEntry.resume, paused, if_true, FdEntry.register]
          split <;> rfl
        rw [FdEntry.resume, resumed]
        rfl

theorem mem_paused_resumeAll (fds : List RawFd) :
    fd ∈ (fds.foldl resume resources).pausedFds ↔ fd ∈ resources.pausedFds ∧ fd ∉ fds := by
  induction fds generalizing resources with
  | nil => simp
  | cons res rest ih =>
      rw [List.foldl_cons, ih, mem_paused_resume, List.mem_cons, not_or, and_assoc]

/-- A socket accepts connections, or will after the next pass. -/
def Accepts (resources : Resources P) (fd : RawFd) : Prop :=
  fd ∉ resources.pausedFds ∧ (fd ∈ resources.watchedFds ∨ fd ∈ resources.unwatchedFds)

theorem accepts_of_resumed {after : Resources P} (paused : fd ∈ resources.pausedFds)
    (resumed : after.entry fd = (resources.entry fd).resume) : after.Accepts fd := by
  have accepts : (after.entry fd).paused = false ∧
      ((after.entry fd).watched ∨ (after.entry fd).unwatched) := by
    rw [resumed, FdEntry.resume, if_pos (paused_entry.mp paused), FdEntry.register]
    cases watched : (resources.entry fd).watched <;> simp
  simpa [entry, Accepts] using accepts

end Resources

/-! ## Termination of a descriptor -/

/-- No descriptor is in both of the sets of watched and unwatched ones. -/
def Resources.Apart (resources : Resources P) : Prop :=
  ∀ fd, ¬ (fd ∈ resources.watchedFds ∧ fd ∈ resources.unwatchedFds)

/-- The tables say nothing of a descriptor, and its handle has been dropped. -/
structure Resources.Clean (resources : Resources P) (fd : RawFd) : Prop where
  watched : fd ∉ resources.watchedFds
  unwatched : fd ∉ resources.unwatchedFds
  removed : fd ∉ resources.removedFds
  paused : fd ∉ resources.pausedFds
  action : fd ∉ resources.actions
  flags : fd ∉ resources.flags
  handle : fd ∉ resources.fd

/-- A descriptor that can be terminated. -/
def Resources.Releases (resources : Resources P) (fd : RawFd) : Prop :=
  fd ∉ resources.pausedFds ∧
    (fd ∈ resources.watchedFds ∨
      fd ∉ resources.flags ∧ (fd ∈ resources.removedFds ∨ fd ∉ resources.fd))

/-- An operation on another descriptor. -/
def ResourceOp.Spares (fd : RawFd) : ResourceOp P → Prop
  | .own res _ | .action res _ | .registerResource res | .watch res | .pause res | .resume res
  | .flag res _ | .terminate res => fd ≠ res
  | .pass _ => False

namespace FdEntry

variable {fd : RawFd} {entry : FdEntry P}

theorem step_of_spares {op : ResourceOp P} (spares : op.Spares fd) : entry.step fd op = entry := by
  cases op with
  | pass accepts => exact spares.elim
  | own | action | registerResource | watch | pause | resume | flag | terminate => exact if_neg spares

theorem run_of_spares {ops : List (ResourceOp P)} (spares : ∀ op ∈ ops, op.Spares fd) :
    Runs.run (FdEntry.step fd) entry ops = entry := by
  induction ops with
  | nil => rfl
  | cons op rest ih =>
      obtain ⟨first, others⟩ := List.forall_mem_cons.mp spares
      rw [run_cons, step_of_spares first, ih others]

/-- In at most one of the two sets. -/
def Apart (entry : FdEntry P) : Prop := entry.watched → entry.unwatched = false

theorem Apart.register (apart : entry.Apart) : entry.register.Apart := by
  rw [FdEntry.register]
  split
  · exact apart
  · rename_i unwatched
    exact fun watched => absurd watched unwatched

theorem apart_watch : entry.watch.Apart := fun _ => rfl

theorem Apart.dropRemoved (apart : entry.Apart) : entry.dropRemoved.Apart := by
  rw [FdEntry.dropRemoved]
  split <;> exact apart

theorem Apart.pass (apart : entry.Apart) (accepts : EpollFlags → Bool) :
    (entry.pass accepts).Apart := by
  have added : ∀ entry : FdEntry P, entry.Apart → (entry.addUnwatched accepts).Apart := by
    intro entry apart
    rw [addUnwatched]
    split
    · exact apart_watch
    · exact apart
  have dropped : (if entry.removed then entry.dropRemoved else entry).Apart := by
    split
    · exact apart.dropRemoved
    · exact apart
  rw [FdEntry.pass]
  generalize (if entry.removed then entry.dropRemoved else entry) = after at dropped
  split
  · exact added after dropped
  · exact dropped

/-- A descriptor does not come into both sets. -/
theorem Apart.step (apart : entry.Apart) (op : ResourceOp P) : (entry.step fd op).Apart := by
  cases op with
  | pass accepts => exact apart.pass (accepts fd)
  | own | flag =>
      rw [FdEntry.step]
      split <;> exact apart
  | action res act =>
      rw [FdEntry.step]
      split
      · exact Apart.register apart
      · exact apart
  | registerResource res =>
      rw [FdEntry.step]
      split
      · exact apart.register
      · exact apart
  | watch res =>
      rw [FdEntry.step]
      split
      · exact apart_watch
      · exact apart
  | pause res =>
      rw [FdEntry.step, pause]
      split
      · split
        · exact nofun
        · exact apart
      · exact apart
  | resume res =>
      rw [FdEntry.step, resume]
      split
      · split
        · exact Apart.register apart
        · exact apart
      · exact apart
  | terminate res =>
      rw [FdEntry.step, terminate]
      split
      · split
        · exact nofun
        · exact fun _ => rfl
      · exact apart

/-- A descriptor that is terminated is clean after a pass exactly if it was not paused,
and was watched or had neither flags nor a handle that is not given up already. -/
theorem clean_iff (accepts : EpollFlags → Bool) :
    entry.terminate.pass accepts = ⟨none, none, none, false, false, false, false⟩ ↔
      entry.paused = false ∧ (entry.watched ∨
        entry.flags = none ∧ (entry.removed ∨ entry.handle = none)) := by
  obtain ⟨action, handle, flags, unwatched, watched, removed, paused⟩ := entry
  cases watched <;> cases removed <;> cases paused <;>
    simp [terminate, pass, dropRemoved, and_comm]

end FdEntry

namespace Resources

variable {resources : Resources P} {fd : RawFd}

theorem apart_iff : resources.Apart ↔ ∀ fd, (resources.entry fd).Apart := by
  simp [Apart, FdEntry.Apart, entry]

theorem clean_iff_entry : resources.Clean fd ↔
    resources.entry fd = ⟨none, none, none, false, false, false, false⟩ := by
  rw [FdEntry.ext_iff]
  simp only [entry, AList.lookup_eq_none, decide_eq_false_iff_not]
  constructor
  · rintro ⟨watched, unwatched, removed, paused, action, flags, handle⟩
    exact ⟨action, handle, flags, unwatched, watched, removed, paused⟩
  · rintro ⟨action, handle, flags, unwatched, watched, removed, paused⟩
    exact ⟨watched, unwatched, removed, paused, action, flags, handle⟩

theorem releases_iff_entry : resources.Releases fd ↔ (resources.entry fd).paused = false ∧
    ((resources.entry fd).watched ∨ (resources.entry fd).flags = none ∧
      ((resources.entry fd).removed ∨ (resources.entry fd).handle = none)) := by
  simp only [Releases, entry, AList.lookup_eq_none, decide_eq_false_iff_not, decide_eq_true_iff]

end Resources

/-- In a run in which no descriptor is watched and unwatched at once, none ever is.  A
descriptor that is terminated in any of its states is clean after the next pass exactly
if that state releases it. -/
theorem terminated_clean_iff {resources : Resources P} (apart : resources.Apart)
    (before : List (ResourceOp P)) (fd : RawFd) {between : List (ResourceOp P)}
    (spares : ∀ op ∈ between, op.Spares fd) (accepts : RawFd → EpollFlags → Bool) :
    (Runs.run resourceStep resources before).Apart ∧
      ((Runs.run resourceStep (Runs.run resourceStep resources before)
          (.terminate fd :: between ++ [.pass accepts])).Clean fd ↔
        (Runs.run resourceStep resources before).Releases fd) := by
  constructor
  · rw [Resources.apart_iff] at apart ⊢
    intro fd
    rw [Resources.entry_run]
    have keeps : ∀ (entry : FdEntry P) op, entry.Apart → (entry.step fd op).Apart :=
      fun _ op apart => apart.step op
    exact run_invariant keeps before (apart fd)
  · generalize Runs.run resourceStep resources before = state
    have still : Runs.run (FdEntry.step fd) (state.entry fd).terminate between =
        (state.entry fd).terminate :=
      FdEntry.run_of_spares spares
    have terminated : (state.entry fd).step fd (.terminate fd) = (state.entry fd).terminate :=
      if_pos rfl
    rw [Resources.clean_iff_entry, Resources.entry_run, List.cons_append, run_cons, terminated,
      run_append, still]
    exact (FdEntry.clean_iff (accepts fd)).trans Resources.releases_iff_entry.symm

end Descriptors

/-- Epoll accepts every descriptor. -/
def acceptAll : RawFd → EpollFlags → Bool := fun _ _ => true

/-- A timer gets its descriptor. -/
def ownTimer : List (ResourceOp Unit) :=
  [.own 5 (.timer 5), .action 5 ⟨"timers", "tick", none⟩]

theorem apart_empty : (Resources.empty Unit).Apart := fun _ both => absurd both.1 List.not_mem_nil

theorem terminated_clean_iff_timer :
    (Runs.run resourceStep (.empty Unit) (ownTimer ++ [.pass acceptAll])).Apart ∧
      ((Runs.run resourceStep (Runs.run resourceStep (.empty Unit) (ownTimer ++ [.pass acceptAll]))
          (.terminate 5 :: [.own 6 (.timer 6)] ++ [.pass acceptAll])).Clean 5 ↔
        (Runs.run resourceStep (.empty Unit) (ownTimer ++ [.pass acceptAll])).Releases 5) :=
  terminated_clean_iff apart_empty _ 5 (by simp [ResourceOp.Spares]) acceptAll

/-- A timer that is terminated before the first pass keeps its descriptor open. -/
theorem not_terminated_clean_early :
    ¬ (Runs.run resourceStep (.empty Unit) (ownTimer ++ [.terminate 5, .pass acceptAll])).Clean 5 := by
  intro clean
  exact clean.handle (by decide)

end Rind
