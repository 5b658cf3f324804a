import Rind.Prog.Runs
import Rind.Services.Isolation

/-!
# Supervised processes

A process that is isolated is forked first.  It prepares its namespaces, and waits for its
parent to map its user and to put it into its control group, before it executes the service.
Parent and child tell each other how far they are through two pipes.
-/

namespace Rind

/-! ## The calls -/

inductive CloneFlag where
  | newNs
  | newUts
  | newIpc
  | newNet
  | newCgroup
  | newPid
  deriving DecidableEq, Repr

def namespaceUnshareFlags (ns : ServiceNamespaces) : List CloneFlag :=
  (if ns.mount || ns.mountPrivate || ns.rootfs.isSome then [.newNs] else []) ++
    (if ns.uts then [.newUts] else []) ++ (if ns.ipc then [.newIpc] else []) ++
    (if ns.net then [.newNet] else []) ++ (if ns.cgroup then [.newCgroup] else []) ++
    (if ns.pid then [.newPid] else [])

/-- Which of the calls succeed, on either side. -/
structure SpawnCalls where
  setns : Bool
  unshareUser : Bool
  unshare : Bool
  remountPrivate : Bool
  sethostname : Bool
  chroot : Bool
  chdir : Bool
  mountAll : Bool
  uidMap : Bool
  gidMap : Bool
  createCgroup : Bool
  cgroupProcs : Bool
  deriving DecidableEq, Repr

/-- A process to be spawned, as far as the handshake depends on it. -/
structure SupervisedSpawn where
  ns : ServiceNamespaces
  /-- Whether it joins the namespaces of another process. -/
  joins : Bool
  uidGid : Option (UInt32 × UInt32)
  hasMounts : Bool
  hasCgroup : Bool
  calls : SpawnCalls
  deriving DecidableEq, Repr

namespace SupervisedSpawn

variable (spawn : SupervisedSpawn)

/-- `apply_namespace_setup` -/
def applyNamespaceSetup : Bool :=
  (namespaceUnshareFlags spawn.ns == [] || spawn.calls.unshare) &&
    (!(spawn.ns.mount || spawn.ns.mountPrivate || spawn.ns.rootfs.isSome) ||
      spawn.calls.remountPrivate) &&
    (spawn.ns.hostname.isNone || spawn.calls.sethostname) &&
    match spawn.ns.rootfs with
    | none => true
    | some rootfs => !rootfs.toList.contains '\x00' && spawn.calls.chroot && spawn.calls.chdir

/-- Whether the mounts of the namespace are made, where there are any. -/
def mountsDone : Bool :=
  !(spawn.ns.net || spawn.ns.mount || spawn.ns.mountPrivate || spawn.ns.rootfs.isSome) ||
    !spawn.hasMounts || spawn.calls.mountAll

/-- `write_user_maps` -/
def writeUserMaps : Bool := spawn.calls.uidMap && spawn.calls.gidMap

/-- `apply_cgroup` -/
def applyCgroup : Bool := !spawn.hasCgroup || (spawn.calls.createCgroup && spawn.calls.cgroupProcs)

/-- Whether the child needs its parent to map its user. -/
def needsMaps : Bool := !spawn.joins && spawn.ns.user

/-- Whether the child has prepared all that it can by itself. -/
def prepared : Bool := (spawn.joins || spawn.applyNamespaceSetup) && spawn.mountsDone

/-- The user that the service is executed as. -/
def serviceUidGid : Option (UInt32 × UInt32) :=
  if spawn.ns.user then some (0, 0) else spawn.uidGid

end SupervisedSpawn

/-! ## Parent and child -/

/-- The bytes in the pipes: `U`, `M`, `R` and `G`. -/
inductive PipeByte where
  | unshared
  | mapped
  | ready
  | go
  deriving DecidableEq, Repr

inductive ChildPoint where
  | joining
  | awaitingMaps
  | settingUp
  | awaitingGo
  | executing (uidGid : Option (UInt32 × UInt32))
  | exited
  deriving DecidableEq, Repr

/-- Where the parent is. Only a parent that comes to its end closes its end of the pipe. -/
inductive ParentPoint where
  | awaitingFirst
  | mapping
  | awaitingReady
  | placing
  | releasing
  | spawned
  | failed
  deriving DecidableEq, Repr

/-- The child has its user, or needs none. -/
def ChildPoint.hasUser : ChildPoint → Bool
  | .settingUp | .awaitingGo | .executing _ => true
  | _ => false

/-- The child has prepared its namespaces. -/
def ChildPoint.hasNamespaces : ChildPoint → Bool
  | .awaitingGo | .executing _ => true
  | _ => false

/-- The parent has put the child into its control group. -/
def ParentPoint.hasPlaced : ParentPoint → Bool
  | .releasing | .spawned => true
  | _ => false

structure Handshake where
  child : ChildPoint
  parent : ParentPoint
  readyPipe : List PipeByte
  goPipe : List PipeByte
  /-- Whether the parent has written the user maps of the child. -/
  mapped : Bool
  /-- Whether the parent has put the child into its control group. -/
  placed : Bool
  deriving DecidableEq, Repr

/-- A step of one side. The child may be killed at any time. -/
inductive HandshakeStep where
  | child
  | parent
  | kill
  deriving DecidableEq, Repr

namespace Handshake

def start : Handshake := ⟨.joining, .awaitingFirst, [], [], false, false⟩

section Steps

variable (spawn : SupervisedSpawn) (state : Handshake)

/-- The child reads one byte, and waits while there is none and the parent could still write. -/
def awaitByte (wanted : PipeByte) (next : ChildPoint) : Handshake :=
  match state.goPipe with
  | byte :: rest => { state with goPipe := rest, child := if byte = wanted then next else .exited }
  | [] => if state.parent = .spawned then { state with child := .exited } else state

def childStep : Handshake :=
  match state.child with
  | .joining =>
      if spawn.joins then { state with child := if spawn.calls.setns then .settingUp else .exited }
      else if spawn.ns.user then
        if spawn.calls.unshareUser then
          { state with child := .awaitingMaps, readyPipe := state.readyPipe ++ [.unshared] }
        else { state with child := .exited }
      else { state with child := .settingUp }
  | .awaitingMaps => state.awaitByte .mapped .settingUp
  | .settingUp =>
      if spawn.prepared then
        { state with child := .awaitingGo, readyPipe := state.readyPipe ++ [.ready] }
      else { state with child := .exited }
  | .awaitingGo => state.awaitByte .go (.executing spawn.serviceUidGid)
  | .executing _ => state
  | .exited => state

/-- What the parent does with the byte of a phase. -/
def checkPhase (byte : PipeByte) : ParentPoint := if byte = .ready then .placing else .failed

/-- The parent writes a byte, which fails once the child is gone. -/
def tellChild (byte : PipeByte) (next : ParentPoint) : Handshake :=
  if state.child = .exited then { state with parent := .failed }
  else { state with goPipe := state.goPipe ++ [byte], parent := next }

def parentStep : Handshake :=
  match state.parent with
  | .awaitingFirst =>
      match state.readyPipe with
      | byte :: rest =>
          { state with
            readyPipe := rest
            parent := if byte = .unshared then .mapping else checkPhase byte }
      | [] => if state.child = .exited then { state with parent := .failed } else state
  | .mapping =>
      if spawn.uidGid.isSome && spawn.writeUserMaps then
        { state with mapped := true }.tellChild .mapped .awaitingReady
      else { state with parent := .failed }
  | .awaitingReady =>
      match state.readyPipe with
      | byte :: rest => { state with readyPipe := rest, parent := checkPhase byte }
      | [] => if state.child = .exited then { state with parent := .failed } else state
  | .placing =>
      if spawn.applyCgroup then { state with parent := .releasing, placed := true }
      else { state with parent := .failed }
  | .releasing => state.tellChild .go .spawned
  | .spawned => state
  | .failed => state

def kill : Handshake := { state with child := .exited }

end Steps

def step (spawn : SupervisedSpawn) (state : Handshake) : HandshakeStep → Handshake
  | .child => state.childStep spawn
  | .parent => state.parentStep spawn
  | .kill => state.kill

/-- Neither side can go on. -/
def Settled (spawn : SupervisedSpawn) (state : Handshake) : Prop :=
  state.childStep spawn = state ∧ state.parentStep spawn = state

/-! ## What is done before the service is executed -/

/-- What each side has done, by where it is, and what a byte in the pipe to the child means. -/
structure Ordered (spawn : SupervisedSpawn) (state : Handshake) : Prop where
  user : state.child.hasUser → spawn.needsMaps → state.mapped = true
  namespaces : state.child.hasNamespaces → spawn.prepared = true
  placed : state.parent.hasPlaced → state.placed = true
  mapped_of : state.mapped = true → spawn.uidGid.isSome ∧ spawn.writeUserMaps = true
  placed_of : state.placed = true → spawn.applyCgroup = true
  mappedByte : .mapped ∈ state.goPipe → state.mapped = true
  goByte : .go ∈ state.goPipe → state.parent = .spawned
  executing : ∀ uidGid, state.child = .executing uidGid →
    uidGid = spawn.serviceUidGid ∧ state.parent = .spawned

variable {spawn : SupervisedSpawn} {state : Handshake}

theorem ordered_start : start.Ordered spawn where
  user := nofun
  namespaces := nofun
  placed := nofun
  mapped_of := nofun
  placed_of := nofun
  mappedByte := nofun
  goByte := nofun
  executing := nofun

/-- A child that exits, whatever it has read. -/
theorem Ordered.exit (ordered : state.Ordered spawn) {pipe : List PipeByte}
    (fewer : ∀ byte ∈ pipe, byte ∈ state.goPipe) :
    { state with goPipe := pipe, child := .exited }.Ordered spawn where
  user := nofun
  namespaces := nofun
  placed := ordered.placed
  mapped_of := ordered.mapped_of
  placed_of := ordered.placed_of
  mappedByte := fun listed => ordered.mappedByte (fewer _ listed)
  goByte := fun listed => ordered.goByte (fewer _ listed)
  executing := nofun

/-- A child that reads what it has waited for. -/
theorem Ordered.awaitByte (ordered : state.Ordered spawn) {wanted : PipeByte} {next : ChildPoint}
    (goes : ∀ rest, state.goPipe = wanted :: rest →
      { state with goPipe := rest, child := next }.Ordered spawn) :
    (state.awaitByte wanted next).Ordered spawn := by
  rw [Handshake.awaitByte]
  split
  · rename_i byte rest pipe
    split
    · rename_i same
      exact goes rest (same ▸ pipe)
    · apply ordered.exit
      intro other listed
      rw [pipe]
      exact List.mem_cons_of_mem _ listed
  · split
    · exact ordered.exit fun _ listed => listed
    · exact ordered

/-- A child that goes on without a byte. -/
theorem Ordered.proceed (ordered : state.Ordered spawn) {next : ChildPoint} {pipe : List PipeByte}
    (user : next.hasUser → spawn.needsMaps → state.mapped = true)
    (namespaces : next.hasNamespaces → spawn.prepared = true)
    (waits : ∀ uidGid, next ≠ .executing uidGid) :
    { state with child := next, readyPipe := pipe }.Ordered spawn :=
  { ordered with
    user
    namespaces
    executing := fun uidGid executes => absurd executes (waits uidGid) }

theorem Ordered.childStep (ordered : state.Ordered spawn) : (state.childStep spawn).Ordered spawn := by
  have exits : { state with child := .exited }.Ordered spawn := ordered.exit fun _ listed => listed
  rw [Handshake.childStep]
  split
  · split
    · rename_i joins
      have unneeded : spawn.needsMaps = false := by simp [SupervisedSpawn.needsMaps, joins]
      split
      · exact ordered.proceed (fun _ needs => absurd needs (by simp [unneeded])) nofun nofun
      · exact exits
    · split
      · split
        · exact ordered.proceed nofun nofun nofun
        · exact exits
      · rename_i user
        have unneeded : spawn.needsMaps = false := by simp [SupervisedSpawn.needsMaps, user]
        exact ordered.proceed (fun _ needs => absurd needs (by simp [unneeded])) nofun nofun
  · apply ordered.awaitByte
    intro rest pipe
    have mapped := ordered.mappedByte (pipe ▸ List.mem_cons_self)
    exact { ordered with
      user := fun _ _ => mapped
      namespaces := nofun
      mappedByte := fun _ => mapped
      goByte := fun listed => ordered.goByte (pipe ▸ List.mem_cons_of_mem _ listed)
      executing := nofun }
  · rename_i settingUp
    split
    · rename_i prepared
      exact ordered.proceed (fun _ => ordered.user (by rw [settingUp]; rfl)) (fun _ => prepared) nofun
    · exact exits
  · rename_i awaiting
    apply ordered.awaitByte
    intro rest pipe
    have spawned := ordered.goByte (pipe ▸ List.mem_cons_self)
    exact { ordered with
      user := fun _ => ordered.user (by rw [awaiting]; rfl)
      namespaces := fun _ => ordered.namespaces (by rw [awaiting]; rfl)
      mappedByte := fun listed => ordered.mappedByte (pipe ▸ List.mem_cons_of_mem _ listed)
      goByte := fun _ => spawned
      executing := by
        intro uidGid executes
        cases executes
        exact ⟨rfl, spawned⟩ }
  · exact ordered
  · exact ordered

/-- A parent that goes on before it has returned. -/
theorem Ordered.advance (ordered : state.Ordered spawn) (waiting : state.parent ≠ .spawned)
    {next : ParentPoint} {ready go : List PipeByte} (placed : next.hasPlaced → state.placed = true)
    (mapped : .mapped ∈ go → state.mapped = true) (released : .go ∈ go → next = .spawned) :
    { state with parent := next, readyPipe := ready, goPipe := go }.Ordered spawn :=
  { ordered with
    placed
    mappedByte := mapped
    goByte := released
    executing := fun uidGid executes => absurd (ordered.executing uidGid executes).2 waiting }

theorem Ordered.tellChild (ordered : state.Ordered spawn) (waiting : state.parent ≠ .spawned)
    {byte : PipeByte} {next : ParentPoint} (mapped : byte = .mapped → state.mapped = true)
    (go : byte = .go → next = .spawned) (placed : next.hasPlaced → state.placed = true) :
    (state.tellChild byte next).Ordered spawn := by
  have nothing : .go ∉ state.goPipe := fun listed => waiting (ordered.goByte listed)
  rw [Handshake.tellChild]
  split
  · exact ordered.advance waiting nofun ordered.mappedByte fun listed => absurd listed nothing
  · apply ordered.advance waiting placed
    · intro listed
      rcases List.mem_append.mp listed with old | new
      · exact ordered.mappedByte old
      · exact mapped (List.mem_singleton.mp new).symm
    · intro listed
      rcases List.mem_append.mp listed with old | new
      · exact absurd old nothing
      · exact go (List.mem_singleton.mp new).symm

theorem hasPlaced_checkPhase (byte : PipeByte) : (checkPhase byte).hasPlaced = false := by
  cases byte <;> rfl

theorem Ordered.parentStep (ordered : state.Ordered spawn) : (state.parentStep spawn).Ordered spawn := by
  have unsent (waiting : state.parent ≠ .spawned) : .go ∉ state.goPipe :=
    fun listed => waiting (ordered.goByte listed)
  -- a parent that goes on without telling the child
  have goesOn (waiting : state.parent ≠ .spawned) (next : ParentPoint) (pipe : List PipeByte)
      (unplaced : next.hasPlaced = false) :
      { state with parent := next, readyPipe := pipe }.Ordered spawn :=
    ordered.advance waiting (fun placed => by rw [unplaced] at placed; cases placed)
      ordered.mappedByte fun listed => absurd listed (unsent waiting)
  rw [Handshake.parentStep]
  split
  · rename_i point
    have waiting : state.parent ≠ .spawned := by rw [point]; nofun
    split
    · rename_i byte rest pipe
      refine goesOn waiting _ _ ?_
      split
      · rfl
      · exact hasPlaced_checkPhase byte
    · split
      · exact goesOn waiting _ _ rfl
      · exact ordered
  · rename_i point
    have waiting : state.parent ≠ .spawned := by rw [point]; nofun
    split
    · rename_i maps
      have both := Bool.and_eq_true_iff.mp maps
      have written : { state with mapped := true }.Ordered spawn :=
        { ordered with
          user := fun _ _ => rfl
          mapped_of := fun _ => both
          mappedByte := fun _ => rfl }
      exact written.tellChild waiting (fun _ => rfl) nofun nofun
    · exact goesOn waiting _ _ rfl
  · rename_i point
    have waiting : state.parent ≠ .spawned := by rw [point]; nofun
    split
    · exact goesOn waiting _ _ (hasPlaced_checkPhase _)
    · split
      · exact goesOn waiting _ _ rfl
      · exact ordered
  · rename_i point
    have waiting : state.parent ≠ .spawned := by rw [point]; nofun
    split
    · rename_i applied
      exact { ordered with
        placed := fun _ => rfl
        placed_of := fun _ => applied
        goByte := fun listed => absurd listed (unsent waiting)
        executing := fun uidGid executes => absurd (ordered.executing uidGid executes).2 waiting }
    · exact goesOn waiting _ _ rfl
  · rename_i point
    have waiting : state.parent ≠ .spawned := by rw [point]; nofun
    exact ordered.tellChild waiting nofun (fun _ => rfl)
      fun _ => ordered.placed (by rw [point]; rfl)
  · exact ordered
  · exact ordered

theorem Ordered.step (ordered : state.Ordered spawn) (label : HandshakeStep) :
    (state.step spawn label).Ordered spawn := by
  cases label with
  | child => exact ordered.childStep
  | parent => exact ordered.parentStep
  | kill => exact ordered.exit fun _ listed => listed

/-- Whether the child gets into its namespaces, up to its user. -/
def entersNamespaces (spawn : SupervisedSpawn) : Bool :=
  if spawn.joins then spawn.calls.setns else !spawn.ns.user || spawn.calls.unshareUser

/-- Whether the parent can map the user of the child. -/
def mapsUser (spawn : SupervisedSpawn) : Bool := spawn.uidGid.isSome && spawn.writeUserMaps

/-- Where child and parent end if the child is not killed. A parent that fails keeps its end
of the pipe, so that a child that waits for it waits forever. -/
def verdict (spawn : SupervisedSpawn) : ChildPoint × ParentPoint :=
  if !entersNamespaces spawn then (.exited, .failed)
  else if spawn.needsMaps && !mapsUser spawn then (.awaitingMaps, .failed)
  else if !spawn.prepared then (.exited, .failed)
  else if !spawn.applyCgroup then (.awaitingGo, .failed)
  else (.executing spawn.serviceUidGid, .spawned)

/-- Where the parent waits for the child to be ready. -/
def awaitingReady (spawn : SupervisedSpawn) : ParentPoint :=
  if spawn.needsMaps then .awaitingReady else .awaitingFirst

/-- The child has got as far as its namespaces. -/
structure Admitted (spawn : SupervisedSpawn) : Prop where
  enters : entersNamespaces spawn = true
  maps : spawn.needsMaps = true → mapsUser spawn = true

/-- The states of a handshake in which the child is not killed, one after the other. -/
inductive Stage (spawn : SupervisedSpawn) : Handshake → Prop where
  | joining : Stage spawn start
  | refused (refused : entersNamespaces spawn = false) {parent : ParentPoint}
      (waits : parent = .awaitingFirst ∨ parent = .failed) :
      Stage spawn ⟨.exited, parent, [], [], false, false⟩
  | unshared (enters : entersNamespaces spawn = true) (needs : spawn.needsMaps = true) :
      Stage spawn ⟨.awaitingMaps, .awaitingFirst, [.unshared], [], false, false⟩
  | mapping (enters : entersNamespaces spawn = true) (needs : spawn.needsMaps = true) :
      Stage spawn ⟨.awaitingMaps, .mapping, [], [], false, false⟩
  | unmapped (enters : entersNamespaces spawn = true) (needs : spawn.needsMaps = true)
      (fails : mapsUser spawn = false) : Stage spawn ⟨.awaitingMaps, .failed, [], [], false, false⟩
  | mapped (admitted : Admitted spawn) (needs : spawn.needsMaps = true) :
      Stage spawn ⟨.awaitingMaps, .awaitingReady, [], [.mapped], true, false⟩
  | settingUp (admitted : Admitted spawn) :
      Stage spawn ⟨.settingUp, awaitingReady spawn, [], [], spawn.needsMaps, false⟩
  | unprepared (admitted : Admitted spawn) (fails : spawn.prepared = false) {parent : ParentPoint}
      (waits : parent = awaitingReady spawn ∨ parent = .failed) :
      Stage spawn ⟨.exited, parent, [], [], spawn.needsMaps, false⟩
  | ready (admitted : Admitted spawn) (prepared : spawn.prepared = true) :
      Stage spawn ⟨.awaitingGo, awaitingReady spawn, [.ready], [], spawn.needsMaps, false⟩
  | placing (admitted : Admitted spawn) (prepared : spawn.prepared = true) :
      Stage spawn ⟨.awaitingGo, .placing, [], [], spawn.needsMaps, false⟩
  | unplaced (admitted : Admitted spawn) (prepared : spawn.prepared = true)
      (fails : spawn.applyCgroup = false) :
      Stage spawn ⟨.awaitingGo, .failed, [], [], spawn.needsMaps, false⟩
  | releasing (admitted : Admitted spawn) (prepared : spawn.prepared = true)
      (applied : spawn.applyCgroup = true) :
      Stage spawn ⟨.awaitingGo, .releasing, [], [], spawn.needsMaps, true⟩
  | released (admitted : Admitted spawn) (prepared : spawn.prepared = true)
      (applied : spawn.applyCgroup = true) :
      Stage spawn ⟨.awaitingGo, .spawned, [], [.go], spawn.needsMaps, true⟩
  | executing (admitted : Admitted spawn) (prepared : spawn.prepared = true)
      (applied : spawn.applyCgroup = true) :
      Stage spawn ⟨.executing spawn.serviceUidGid, .spawned, [], [], spawn.needsMaps, true⟩

theorem awaitingReady_cases (spawn : SupervisedSpawn) :
    awaitingReady spawn = .awaitingReady ∨ awaitingReady spawn = .awaitingFirst := by
  rw [awaitingReady]
  split
  · exact .inl rfl
  · exact .inr rfl

/-- The child begins. -/
theorem stage_joined : Stage spawn (start.childStep spawn) := by
  have point : start.child = .joining := rfl
  rw [Handshake.childStep, point]
  dsimp only
  cases joins : spawn.joins with
  | true =>
      have unneeded : spawn.needsMaps = false := by simp [SupervisedSpawn.needsMaps, joins]
      have entered : entersNamespaces spawn = spawn.calls.setns := by simp [entersNamespaces, joins]
      rw [if_pos rfl]
      split
      · rename_i joined
        have admitted : Admitted spawn := ⟨entered.trans joined, by simp [unneeded]⟩
        have next := Stage.settingUp admitted
        rw [awaitingReady, unneeded] at next
        exact next
      · rename_i failed
        exact .refused (entered.trans (Bool.eq_false_iff.mpr failed)) (.inl rfl)
  | false =>
      rw [if_neg Bool.false_ne_true]
      cases user : spawn.ns.user with
      | true =>
          have needs : spawn.needsMaps = true := by simp [SupervisedSpawn.needsMaps, joins, user]
          have entered : entersNamespaces spawn = spawn.calls.unshareUser := by
            simp [entersNamespaces, joins, user]
          rw [if_pos rfl]
          split
          · rename_i unshared
            exact .unshared (entered.trans unshared) needs
          · rename_i failed
            exact .refused (entered.trans (Bool.eq_false_iff.mpr failed)) (.inl rfl)
      | false =>
          have unneeded : spawn.needsMaps = false := by simp [SupervisedSpawn.needsMaps, user]
          have admitted : Admitted spawn :=
            ⟨by simp [entersNamespaces, joins, user], by simp [unneeded]⟩
          have next := Stage.settingUp admitted
          rw [awaitingReady, unneeded] at next
          exact next

theorem Stage.childStep (stage : Stage spawn state) : Stage spawn (state.childStep spawn) := by
  cases stage with
  | joining => exact stage_joined
  | refused refused waits => exact .refused refused waits
  | unshared enters needs => exact .unshared enters needs
  | mapping enters needs => exact .mapping enters needs
  | unmapped enters needs fails => exact .unmapped enters needs fails
  | mapped admitted needs =>
      have next := Stage.settingUp admitted
      rw [awaitingReady, if_pos needs, needs] at next
      exact next
  | settingUp admitted =>
      rw [Handshake.childStep]
      dsimp only
      split
      · rename_i prepared
        exact .ready admitted prepared
      · rename_i unprepared
        exact .unprepared admitted (Bool.eq_false_iff.mpr unprepared) (.inl rfl)
  | unprepared admitted fails waits => exact .unprepared admitted fails waits
  | ready admitted prepared =>
      have same : Handshake.childStep spawn
          ⟨.awaitingGo, awaitingReady spawn, [.ready], [], spawn.needsMaps, false⟩ =
            ⟨.awaitingGo, awaitingReady spawn, [.ready], [], spawn.needsMaps, false⟩ := by
        rcases awaitingReady_cases spawn with first | first <;> rw [first] <;> rfl
      rw [same]
      exact .ready admitted prepared
  | placing admitted prepared => exact .placing admitted prepared
  | unplaced admitted prepared fails => exact .unplaced admitted prepared fails
  | releasing admitted prepared applied => exact .releasing admitted prepared applied
  | released admitted prepared applied => exact .executing admitted prepared applied
  | executing admitted prepared applied => exact .executing admitted prepared applied

theorem Stage.parentStep (stage : Stage spawn state) : Stage spawn (state.parentStep spawn) := by
  cases stage with
  | joining => exact .joining
  | refused refused waits =>
      rcases waits with rfl | rfl <;> exact .refused refused (.inr rfl)
  | unshared enters needs => exact .mapping enters needs
  | mapping enters needs =>
      rw [Handshake.parentStep]
      dsimp only
      split
      · rename_i maps
        exact .mapped ⟨enters, fun _ => maps⟩ needs
      · rename_i fails
        exact .unmapped enters needs (Bool.eq_false_iff.mpr fails)
  | unmapped enters needs fails => exact .unmapped enters needs fails
  | mapped admitted needs => exact .mapped admitted needs
  | settingUp admitted =>
      have same : Handshake.parentStep spawn
          ⟨.settingUp, awaitingReady spawn, [], [], spawn.needsMaps, false⟩ =
            ⟨.settingUp, awaitingReady spawn, [], [], spawn.needsMaps, false⟩ := by
        rcases awaitingReady_cases spawn with first | first <;> rw [first] <;> rfl
      rw [same]
      exact .settingUp admitted
  | @unprepared admitted fails parent waits =>
      have failed : Handshake.parentStep spawn ⟨.exited, parent, [], [], spawn.needsMaps, false⟩ =
          ⟨.exited, .failed, [], [], spawn.needsMaps, false⟩ := by
        rcases waits with rfl | rfl
        · rcases awaitingReady_cases spawn with first | first <;> rw [first] <;> rfl
        · rfl
      rw [failed]
      exact .unprepared admitted fails (.inr rfl)
  | ready admitted prepared =>
      have next : Handshake.parentStep spawn
          ⟨.awaitingGo, awaitingReady spawn, [.ready], [], spawn.needsMaps, false⟩ =
            ⟨.awaitingGo, .placing, [], [], spawn.needsMaps, false⟩ := by
        rcases awaitingReady_cases spawn with first | first <;> rw [first] <;> rfl
      rw [next]
      exact .placing admitted prepared
  | placing admitted prepared =>
      rw [Handshake.parentStep]
      dsimp only
      split
      · rename_i applied
        exact .releasing admitted prepared applied
      · rename_i fails
        exact .unplaced admitted prepared (Bool.eq_false_iff.mpr fails)
  | unplaced admitted prepared fails => exact .unplaced admitted prepared fails
  | releasing admitted prepared applied => exact .released admitted prepared applied
  | released admitted prepared applied => exact .released admitted prepared applied
  | executing admitted prepared applied => exact .executing admitted prepared applied

/-- The child always begins. -/
theorem childStep_start : (start.childStep spawn).child ≠ .joining := by
  have point : start.child = .joining := rfl
  rw [Handshake.childStep, point]
  dsimp only
  split
  · split <;> nofun
  · split
    · split <;> nofun
    · nofun

/-- A stage in which neither side goes on is the end. -/
theorem Stage.verdict (stage : Stage spawn state) (settled : state.Settled spawn) :
    (state.child, state.parent) = verdict spawn := by
  obtain ⟨childSettled, parentSettled⟩ := settled
  cases stage with
  | joining => exact absurd (congrArg Handshake.child childSettled) childStep_start
  | refused refused waits =>
      rcases waits with rfl | rfl
      · cases congrArg Handshake.parent parentSettled
      · simp [Handshake.verdict, refused]
  | unshared enters needs => cases congrArg Handshake.parent parentSettled
  | mapping enters needs =>
      have moved := congrArg Handshake.parent parentSettled
      rw [Handshake.parentStep] at moved
      dsimp only at moved
      split at moved <;> cases moved
  | unmapped enters needs fails => simp [Handshake.verdict, enters, needs, fails]
  | mapped admitted needs => cases congrArg Handshake.child childSettled
  | settingUp admitted =>
      have moved := congrArg Handshake.child childSettled
      rw [Handshake.childStep] at moved
      dsimp only at moved
      split at moved <;> cases moved
  | @unprepared admitted fails parent waits =>
      have failed : parent = .failed := by
        rcases waits with rfl | rfl
        · have moved := congrArg Handshake.parent parentSettled
          rcases awaitingReady_cases spawn with first | first <;> rw [first] at moved <;> cases moved
        · rfl
      rw [failed]
      by_cases needs : spawn.needsMaps = true
      · simp [Handshake.verdict, admitted.enters, admitted.maps needs, fails]
      · simp [Handshake.verdict, admitted.enters, needs, fails]
  | ready admitted prepared =>
      have moved := congrArg Handshake.parent parentSettled
      rcases awaitingReady_cases spawn with first | first <;> rw [first] at moved <;> cases moved
  | placing admitted prepared =>
      have moved := congrArg Handshake.parent parentSettled
      rw [Handshake.parentStep] at moved
      dsimp only at moved
      split at moved <;> cases moved
  | unplaced admitted prepared fails =>
      by_cases needs : spawn.needsMaps = true
      · simp [Handshake.verdict, admitted.enters, admitted.maps needs, prepared, fails]
      · simp [Handshake.verdict, admitted.enters, needs, prepared, fails]
  | releasing admitted prepared applied => cases congrArg Handshake.parent parentSettled
  | released admitted prepared applied => cases congrArg Handshake.child childSettled
  | executing admitted prepared applied =>
      by_cases needs : spawn.needsMaps = true
      · simp [Handshake.verdict, admitted.enters, admitted.maps needs, prepared, applied]
      · simp [Handshake.verdict, admitted.enters, needs, prepared, applied]

/-! ### Steps that are left -/

/-- How many points a child has still to pass at most. -/
def left : ChildPoint → Nat
  | .joining => 5
  | .awaitingMaps => 4
  | .settingUp => 3
  | .awaitingGo => 2
  | .executing _ => 1
  | .exited => 0

/-- And a parent. -/
def leftOf : ParentPoint → Nat
  | .awaitingFirst => 5
  | .mapping => 4
  | .awaitingReady => 3
  | .placing => 2
  | .releasing => 1
  | .spawned => 0
  | .failed => 0

theorem awaitByte_advances {wanted : PipeByte} {next : ChildPoint}
    (further : left next < left state.child) (more : 0 < left state.child) :
    state.awaitByte wanted next = state ∨
      left (state.awaitByte wanted next).child < left state.child ∧
        (state.awaitByte wanted next).parent = state.parent := by
  rw [awaitByte]
  split
  · right
    dsimp only
    split
    · exact ⟨further, rfl⟩
    · exact ⟨more, rfl⟩
  · split
    · exact .inr ⟨more, rfl⟩
    · exact .inl rfl

/-- A child waits, or goes on by itself. -/
theorem childStep_advances (spawn : SupervisedSpawn) (state : Handshake) :
    state.childStep spawn = state ∨
    left (state.childStep spawn).child < left state.child ∧
      (state.childStep spawn).parent = state.parent := by
  rw [Handshake.childStep]
  split
  · rename_i point
    right
    rw [point]
    split
    · refine ⟨?_, rfl⟩
      split <;> simp [left]
    · split
      · split
        · exact ⟨by simp [left], rfl⟩
        · exact ⟨by simp [left], rfl⟩
      · exact ⟨by simp [left], rfl⟩
  · rename_i point
    apply awaitByte_advances <;> rw [point] <;> decide
  · rename_i point
    right
    rw [point]
    split
    · exact ⟨by simp [left], rfl⟩
    · exact ⟨by simp [left], rfl⟩
  · rename_i point
    apply awaitByte_advances
    · rw [point]
      exact Nat.lt_succ_self 1
    · rw [point]
      decide
  · exact .inl rfl
  · exact .inl rfl

theorem tellChild_advances {byte : PipeByte} {next : ParentPoint}
    (further : leftOf next < leftOf state.parent) (more : 0 < leftOf state.parent) :
    leftOf (state.tellChild byte next).parent < leftOf state.parent ∧
      (state.tellChild byte next).child = state.child := by
  rw [tellChild]
  split
  · exact ⟨more, rfl⟩
  · exact ⟨further, rfl⟩

/-- A parent waits, or goes on by itself. -/
theorem parentStep_advances (spawn : SupervisedSpawn) (state : Handshake) :
    state.parentStep spawn = state ∨
    leftOf (state.parentStep spawn).parent < leftOf state.parent ∧
      (state.parentStep spawn).child = state.child := by
  rw [Handshake.parentStep]
  split
  · rename_i point
    rw [point]
    split
    · rename_i byte rest pipe
      refine .inr ⟨?_, rfl⟩
      cases byte <;> simp [leftOf, checkPhase]
    · split
      · exact .inr ⟨by simp [leftOf], rfl⟩
      · exact .inl rfl
  · rename_i point
    right
    split
    · have waits : state.parent = { state with mapped := true }.parent := rfl
      rw [waits]
      exact tellChild_advances (by rw [← waits, point]; decide) (by rw [← waits, point]; decide)
    · rw [point]
      exact ⟨by simp [leftOf], rfl⟩
  · rename_i point
    rw [point]
    split
    · rename_i byte rest pipe
      refine .inr ⟨?_, rfl⟩
      cases byte <;> simp [leftOf, checkPhase]
    · split
      · exact .inr ⟨by simp [leftOf], rfl⟩
      · exact .inl rfl
  · rename_i point
    rw [point]
    right
    split
    · exact ⟨by simp [leftOf], rfl⟩
    · exact ⟨by simp [leftOf], rfl⟩
  · rename_i point
    exact .inr (tellChild_advances (by rw [point]; decide) (by rw [point]; decide))
  · exact .inl rfl
  · exact .inl rfl

/-- A step that changes anything takes one side on. -/
theorem left_step (label : HandshakeStep) (spares : label ≠ .kill)
    (moves : state.step spawn label ≠ state) :
    left (state.step spawn label).child + leftOf (state.step spawn label).parent <
      left state.child + leftOf state.parent := by
  cases label with
  | child =>
      obtain ⟨lower, same⟩ := (childStep_advances spawn state).resolve_left moves
      rw [Handshake.step, same]
      exact Nat.add_lt_add_right lower _
  | parent =>
      obtain ⟨lower, same⟩ := (parentStep_advances spawn state).resolve_left moves
      rw [Handshake.step, same]
      exact Nat.add_lt_add_left lower _
  | kill => exact absurd rfl spares

/-- Whether a step changes anything. -/
def moves (spawn : SupervisedSpawn) (state : Handshake) (label : HandshakeStep) : Bool :=
  decide (state.step spawn label ≠ state)

theorem count_moves_le {labels : List HandshakeStep} (spared : ∀ label ∈ labels, label ≠ .kill) :
    Runs.count (step spawn) (moves spawn) state labels ≤ left state.child + leftOf state.parent := by
  induction labels generalizing state with
  | nil => exact Nat.zero_le _
  | cons label rest ih =>
      obtain ⟨first, others⟩ := List.forall_mem_cons.mp spared
      have later := @ih (state.step spawn label) others
      rw [Runs.count, moves]
      by_cases changes : state.step spawn label = state
      · rw [decide_eq_false (not_not.mpr changes), Bool.toNat_false, Nat.zero_add]
        rwa [changes] at later ⊢
      · have lower := left_step label first changes
        rw [decide_eq_true changes, Bool.toNat_true]
        omega

/-- Both sides come to an end, whoever goes first. -/
theorem settles (spawn : SupervisedSpawn) (state : Handshake) : ∃ rest : List HandshakeStep,
    (∀ label ∈ rest, label ≠ .kill) ∧ (Runs.run (step spawn) state rest).Settled spawn := by
  induction bound : left state.child + leftOf state.parent using Nat.strong_induction_on
    generalizing state with
  | _ bound ih =>
      by_cases child : state.childStep spawn = state
      · by_cases parent : state.parentStep spawn = state
        · exact ⟨[], by simp, child, parent⟩
        · have lower := left_step .parent nofun parent
          obtain ⟨rest, spared, settled⟩ := ih _ (bound ▸ lower) (state.step spawn .parent) rfl
          exact ⟨.parent :: rest, List.forall_mem_cons.mpr ⟨nofun, spared⟩, settled⟩
      · have lower := left_step .child nofun child
        obtain ⟨rest, spared, settled⟩ := ih _ (bound ▸ lower) (state.step spawn .child) rfl
        exact ⟨.child :: rest, List.forall_mem_cons.mpr ⟨nofun, spared⟩, settled⟩

theorem stage_run {labels : List HandshakeStep} (spared : ∀ label ∈ labels, label ≠ .kill) :
    Stage spawn (Runs.run (step spawn) start labels) := by
  have along : Runs.Along (step spawn) (fun _ label => label ≠ .kill) start labels :=
    .of_forall spared
  refine along.invariant ?_ .joining
  intro state label stage spares
  cases label with
  | child => exact stage.childStep
  | parent => exact stage.parentStep
  | kill => exact absurd rfl spares

/-- A service in namespaces for its mounts and its user, for which every call succeeds. -/
def sandboxed : SupervisedSpawn where
  ns := ⟨true, false, false, false, false, true, false, false, none, none, false, false⟩
  joins := false
  uidGid := some (1000, 1000)
  hasMounts := false
  hasCgroup := true
  calls := ⟨true, true, true, true, true, true, true, true, true, true, true, true⟩

/-- The same service without a user to map. -/
def nobodys : SupervisedSpawn := { sandboxed with uidGid := none }

def turns : List HandshakeStep :=
  [.child, .parent, .parent, .child, .child, .parent, .parent, .parent, .child]

end Handshake

end Rind
