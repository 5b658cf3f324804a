import Rind.Prog.Runs
import Rind.Services.Teardown
import Rind.Services.Triggers

/-!
# Tables of the sockets

The socket runtime and the socket registry keep tables of the active sockets: their
names and owners by descriptor, and the sockets of each owner.  A start notes its socket
also where it was active already, and a stop forgets all sockets of the owner.
-/

namespace Rind

open Prog
open Runs (Along)

/-! ## What a start and a stop do -/

section Steps

variable {definitions : MetadataRegistry SocketMetadata}
  {create : SocketMetadata → Except CoreError Nat} {name : Ustr} {units final : Units}
  {result : Except CoreError Unit}

/-- The ways in which a start ends that `instantiate_one` gives a socket or an error. -/
inductive StartEnds (create : SocketMetadata → Except CoreError Nat) (key name : Ustr)
    (units final : Units) : Except CoreError Socket → Except CoreError Unit → Prop
  /-- The socket is there already. -/
  | again (socket : Socket) (member : socket ∈ units.socketsAt key)
      (first : (units.entry key).head? = some (.socket socket))
      (kept : ∀ other, final.socketsAt other = units.socketsAt other)
      (recorded : final.sockets = units.sockets.record name socket) :
      StartEnds create key name units final (.ok socket) (.ok ())
  | opened (socket : Socket) (absent : units.socketsAt key = [])
      (created : create socket.metadata = .ok socket.fd) (active : socket.active)
      (others : ∀ other, final.socketsAt other =
        if other = key then [socket] else units.socketsAt other)
      (recorded : final.sockets = units.sockets.record name socket) :
      StartEnds create key name units final (.ok socket) (.ok ())
  | refused (error : CoreError) (kept : ∀ other, final.socketsAt other = units.socketsAt other)
      (tables : final.sockets = units.sockets) :
      StartEnds create key name units final (.error error) (.error error)

theorem startSocket_ends
    (ran : startSocket definitions create name units = some (result, final)) :
    StartEnds create (definitions.instanceKey "*" name) name units final
      (instantiateSocket definitions create name units.instances).1 result := by
  simp only [startSocket, instantiateSocket] at ran ⊢
  generalize definitions.instanceKey "*" name = key at ran ⊢
  have inserted : ∀ {entry : List UnitInstance} {sockets : SocketRuntime} (other : Ustr),
      Units.socketsAt ⟨units.instances.insert key entry, units.host, sockets⟩ other =
        if other = key then entry.filterMap UnitInstance.asSocket
        else units.socketsAt other := by
    intro entry sockets other
    by_cases same : other = key
    · subst same
      simp [Units.socketsAt, Units.entry]
    · simp [Units.socketsAt, Units.entry, same, AList.lookup_insert_ne same]
  cases entry : (units.instances.lookup key).getD [] with
  | cons unit rest =>
      have present : units.entry key = unit :: rest := entry
      cases unit with
      | socket socket =>
          simp only [entry] at ran ⊢
          cases ran
          refine .again socket ?_ (by rw [present, List.head?_cons]) (fun _ => rfl) rfl
          rw [Units.mem_socketsAt, present]
          exact List.mem_cons_self
      | service service =>
          simp only [entry] at ran ⊢
          cases ran
          exact .refused _ (fun _ => rfl) rfl
      | other =>
          simp only [entry] at ran ⊢
          cases ran
          exact .refused _ (fun _ => rfl) rfl
  | nil =>
      have absent : units.socketsAt key = [] := by
        rw [Units.socketsAt, Units.entry, entry]
        rfl
      simp only [entry] at ran ⊢
      cases defined : definitions.instantiated "*" name with
      | none =>
          simp only [defined] at ran ⊢
          cases ran
          exact .refused _ (fun _ => rfl) rfl
      | some metadata =>
          cases created : create metadata with
          | error error =>
              simp only [defined, created] at ran ⊢
              cases ran
              refine .refused _ (fun other => ?_) rfl
              rw [inserted]
              split
              · next same => rw [same, absent]; rfl
              · rfl
          | ok fd =>
              simp only [defined, created] at ran ⊢
              cases ran
              exact .opened _ absent created rfl inserted rfl

/-- The ways in which a stop ends. -/
inductive StopEnds (key : Ustr) (units final : Units) : Except CoreError Unit → Prop
  | closed (socket : Socket) (last : units.lastSocket key = some socket)
      (others : ∀ other, final.socketsAt other =
        if other = key then [] else units.socketsAt other)
      (released : final.sockets = units.sockets.release socket) :
      StopEnds key units final (.ok ())
  | refused (error : CoreError) (kept : ∀ other, final.socketsAt other = units.socketsAt other)
      (tables : final.sockets = units.sockets) : StopEnds key units final (.error error)

theorem stopSocket_ends (ran : stopSocket definitions name units = some (result, final)) :
    StopEnds (definitions.instanceKey "*" name) units final result := by
  have ends := stopSocket_cases ran
  simp only [stopSocket, uninstantiateSocket] at ran
  generalize definitions.instanceKey "*" name = key at ran ends ⊢
  rcases ends with ⟨-, failed, released⟩ | ⟨present, rfl, released⟩
  · have kept : ∀ other, final.socketsAt other = units.socketsAt other :=
      fun other => released.others other List.not_mem_nil
    cases result with
    | ok value => exact absurd rfl failed
    | error error =>
        refine .refused error kept ?_
        split at ran <;> cases ran
        rfl
  · obtain ⟨socket, last⟩ := Option.isSome_iff_exists.mp present
    refine .closed socket last (fun other => ?_) ?_
    · split
      · next same => exact released.gone other (by simp [same])
      · next apart => exact released.others other (by simpa using apart)
    · split at ran
      · cases ran
      · next found =>
          cases ran
          split at found
          · cases found
          · next entry held =>
              have same : (entry.filterMap UnitInstance.asSocket).getLast? = some socket := by
                rw [← last, Units.lastSocket, Units.socketsAt, Units.entry, held]
                rfl
              rw [same] at found
              cases found
              rfl

end Steps

/-! ## Tables that mirror the sockets -/

/-- A key has at most one socket, which is active, and no two have one descriptor. -/
structure Units.Regular (units : Units) : Prop where
  active : ∀ key, ∀ socket ∈ units.socketsAt key, socket.active
  single : ∀ key, ∀ socket ∈ units.socketsAt key, units.socketsAt key = [socket]
  apart : ∀ key other, ∀ socket ∈ units.socketsAt key, ∀ socket' ∈ units.socketsAt other,
    socket.fd = socket'.fd → key = other

/-- A socket that is active. -/
def Units.IsActive (units : Units) (socket : Socket) : Prop :=
  ∃ key, socket ∈ units.socketsAt key ∧ socket.active

/-- The sockets that an owner has in the registry. -/
def SocketRuntime.ownedBy (sockets : SocketRuntime) (owner : Ustr) : List (Ustr × Nat) :=
  (sockets.owners.lookup owner).getD []

/-- The tables hold the active sockets, each once, and nothing else: no entry is left of
a socket that was terminated. -/
structure Mirrored (units : Units) : Prop where
  instances : ∀ fd, fd ∈ units.sockets.instances ↔
    ∃ socket, units.IsActive socket ∧ socket.fd = fd
  owner : ∀ fd owner, units.sockets.owner.lookup fd = some owner ↔
    ∃ socket, units.IsActive socket ∧ socket.fd = fd ∧ socket.metadata.owner = some owner
  listed : ∀ owner, ∀ entry ∈ units.sockets.ownedBy owner, ∃ socket, units.IsActive socket ∧
    socket.metadata.owner = some owner ∧ entry = (socket.metadata.name, socket.fd)
  once : ∀ owner socket, units.IsActive socket → socket.metadata.owner = some owner →
    (units.sockets.ownedBy owner).count (socket.metadata.name, socket.fd) = 1

/-! ## Tables after a step -/

namespace SocketRuntime

variable {sockets : SocketRuntime} {socket : Socket} {name owner : Ustr} {fd : Nat}

theorem mem_instances_record :
    fd ∈ (sockets.record name socket).instances ↔ fd = socket.fd ∨ fd ∈ sockets.instances :=
  AList.mem_insert _

theorem owner_record : (sockets.record name socket).owner.lookup fd =
    if fd = socket.fd ∧ socket.metadata.owner.isSome then socket.metadata.owner
    else sockets.owner.lookup fd := by
  rw [record]
  cases socket.metadata.owner with
  | none => simp
  | some owner =>
      by_cases same : fd = socket.fd
      · subst same
        simp
      · simp [same, AList.lookup_insert_ne same]

theorem ownedBy_record : (sockets.record name socket).ownedBy owner =
    if socket.metadata.owner = some owner then
      sockets.ownedBy owner ++ [(socket.metadata.name, socket.fd)]
    else sockets.ownedBy owner := by
  rw [record, ownedBy, ownedBy]
  cases socket.metadata.owner with
  | none => simp
  | some other =>
      by_cases same : owner = other
      · subst same
        simp
      · simp [AList.lookup_insert_ne same, Ne.symm same]

theorem mem_instances_release :
    fd ∈ (sockets.release socket).instances ↔ fd ≠ socket.fd ∧ fd ∈ sockets.instances :=
  AList.mem_erase

theorem owner_release : (sockets.release socket).owner.lookup fd =
    if fd = socket.fd then none else sockets.owner.lookup fd := by
  rw [release]
  by_cases same : fd = socket.fd
  · subst same
    simp
  · simp [same, AList.lookup_erase_ne same]

theorem ownedBy_release : (sockets.release socket).ownedBy owner =
    if socket.metadata.owner = some owner then [] else sockets.ownedBy owner := by
  rw [release, ownedBy, ownedBy]
  cases socket.metadata.owner with
  | none => simp
  | some other =>
      by_cases same : owner = other
      · subst same
        simp
      · simp [AList.lookup_erase_ne same, Ne.symm same]

end SocketRuntime

/-! ## Keeping the mirror -/

section Keeping

variable {units final : Units} {key name : Ustr} {socket : Socket}
  {create : SocketMetadata → Except CoreError Nat} {result : Except CoreError Unit}

theorem isActive_congr (kept : ∀ other, final.socketsAt other = units.socketsAt other)
    (socket : Socket) : final.IsActive socket ↔ units.IsActive socket := by
  simp only [Units.IsActive, kept]

namespace Units.Regular

theorem congr (regular : units.Regular)
    (kept : ∀ other, final.socketsAt other = units.socketsAt other) : final.Regular where
  active key := by
    rw [kept]
    exact regular.active key
  single key := by
    rw [kept]
    exact regular.single key
  apart key other := by
    rw [kept, kept]
    exact regular.apart key other

theorem isActive (regular : units.Regular) (member : socket ∈ units.socketsAt key) :
    units.IsActive socket := ⟨key, member, regular.active key socket member⟩

/-- Active sockets with one descriptor are the same. -/
theorem eq_of_fd (regular : units.Regular) {other : Socket} (first : units.IsActive socket)
    (second : units.IsActive other) (same : socket.fd = other.fd) : socket = other := by
  obtain ⟨key, member, -⟩ := first
  obtain ⟨key', member', -⟩ := second
  obtain rfl := regular.apart key key' socket member other member' same
  rw [regular.single key socket member] at member'
  exact (List.mem_singleton.mp member').symm

theorem opened (regular : units.Regular) (active : socket.active)
    (fresh : ∀ other, units.IsActive other → other.fd ≠ socket.fd)
    (others : ∀ other, final.socketsAt other =
      if other = key then [socket] else units.socketsAt other) : final.Regular where
  active other socket' member := by
    rw [others] at member
    split at member
    · obtain rfl := List.mem_singleton.mp member
      exact active
    · exact regular.active other socket' member
  single other socket' member := by
    rw [others] at member ⊢
    split at member
    · next same => rw [List.mem_singleton.mp member, if_pos same]
    · next same => rw [if_neg same, regular.single other socket' member]
  apart first second socket₁ member₁ socket₂ member₂ same := by
    rw [others] at member₁ member₂
    split at member₁ <;> split at member₂
    · next first_ second_ => rw [first_, second_]
    · obtain rfl := List.mem_singleton.mp member₁
      exact absurd same.symm (fresh socket₂ (regular.isActive member₂))
    · obtain rfl := List.mem_singleton.mp member₂
      exact absurd same (fresh socket₁ (regular.isActive member₁))
    · exact regular.apart first second socket₁ member₁ socket₂ member₂ same

theorem closed (regular : units.Regular)
    (others : ∀ other, final.socketsAt other =
      if other = key then [] else units.socketsAt other) : final.Regular where
  active other socket' member := by
    rw [others] at member
    split at member
    · cases member
    · exact regular.active other socket' member
  single other socket' member := by
    rw [others] at member ⊢
    split at member
    · cases member
    · next same => rw [if_neg same, regular.single other socket' member]
  apart first second socket₁ member₁ socket₂ member₂ same := by
    rw [others] at member₁ member₂
    split at member₁ <;> split at member₂
    · cases member₁
    · cases member₁
    · cases member₂
    · exact regular.apart first second socket₁ member₁ socket₂ member₂ same

/-- After a socket was opened, it is active besides those that were. -/
theorem isActive_opened (absent : units.socketsAt key = []) (active : socket.active)
    (others : ∀ other, final.socketsAt other =
      if other = key then [socket] else units.socketsAt other) (socket' : Socket) :
    final.IsActive socket' ↔ socket' = socket ∨ units.IsActive socket' := by
  constructor
  · rintro ⟨other, member, active'⟩
    rw [others] at member
    split at member
    · exact .inl (List.mem_singleton.mp member)
    · exact .inr ⟨other, member, active'⟩
  · rintro (rfl | ⟨other, member, active'⟩)
    · exact ⟨key, by simp [others], active⟩
    · refine ⟨other, ?_, active'⟩
      rw [others]
      split
      · next same =>
          rw [same, absent] at member
          cases member
      · exact member

/-- After a socket was closed, those are active that have other descriptors. -/
theorem isActive_closed (regular : units.Regular) (last : units.lastSocket key = some socket)
    (others : ∀ other, final.socketsAt other =
      if other = key then [] else units.socketsAt other) (socket' : Socket) :
    final.IsActive socket' ↔ units.IsActive socket' ∧ socket'.fd ≠ socket.fd := by
  have member : socket ∈ units.socketsAt key := List.mem_of_getLast? last
  constructor
  · rintro ⟨other, member', active'⟩
    rw [others] at member'
    split at member'
    · cases member'
    · next apart =>
        exact ⟨⟨other, member', active'⟩,
          fun same => apart (regular.apart other key socket' member' socket member same)⟩
  · rintro ⟨⟨other, member', active'⟩, apart⟩
    refine ⟨other, ?_, active'⟩
    rw [others]
    split
    · next same =>
        rw [same, regular.single key socket member] at member'
        exact absurd (congrArg Socket.fd (List.mem_singleton.mp member')) apart
    · exact member'

end Units.Regular

/-- A change of the tables follows one of the active sockets. -/
theorem Mirrored.congr (mirrored : Mirrored units)
    (active : ∀ socket, final.IsActive socket ↔ units.IsActive socket)
    (tables : final.sockets = units.sockets) : Mirrored final where
  instances fd := by simp only [tables, active, mirrored.instances]
  owner fd owner := by simp only [tables, active, mirrored.owner]
  listed owner := by
    simp only [tables, active]
    exact mirrored.listed owner
  once owner socket := by
    simp only [tables, active]
    exact mirrored.once owner socket

/-- To start an active socket again changes nothing, if it has no owner. -/
theorem Mirrored.again (mirrored : Mirrored units) (member : units.IsActive socket)
    (active : ∀ socket, final.IsActive socket ↔ units.IsActive socket)
    (ownerless : socket.metadata.owner = none)
    (recorded : final.sockets = units.sockets.record name socket) : Mirrored final where
  instances fd := by
    simp only [recorded, active, SocketRuntime.mem_instances_record, mirrored.instances]
    constructor
    · rintro (rfl | found)
      · exact ⟨socket, member, rfl⟩
      · exact found
    · exact .inr
  owner fd owner := by
    simp only [recorded, active, SocketRuntime.owner_record, ownerless, mirrored.owner,
      Option.isSome_none, Bool.false_eq_true, and_false, if_false]
  listed owner := by
    simp only [recorded, active, SocketRuntime.ownedBy_record, ownerless, reduceCtorEq, if_false]
    exact mirrored.listed owner
  once owner socket := by
    simp only [recorded, active, SocketRuntime.ownedBy_record, ownerless, reduceCtorEq, if_false]
    exact mirrored.once owner socket

/-- A new socket is noted once. -/
theorem Mirrored.opened (mirrored : Mirrored units)
    (fresh : ∀ other, units.IsActive other → other.fd ≠ socket.fd)
    (active : ∀ socket', final.IsActive socket' ↔ socket' = socket ∨ units.IsActive socket')
    (recorded : final.sockets = units.sockets.record name socket) : Mirrored final where
  instances fd := by
    simp only [recorded, active, SocketRuntime.mem_instances_record, mirrored.instances]
    constructor
    · rintro (rfl | ⟨socket', found, same⟩)
      · exact ⟨socket, .inl rfl, rfl⟩
      · exact ⟨socket', .inr found, same⟩
    · rintro ⟨socket', rfl | found, same⟩
      · exact .inl same.symm
      · exact .inr ⟨socket', found, same⟩
  owner fd owner := by
    simp only [recorded, active, SocketRuntime.owner_record]
    have before := mirrored.owner fd owner
    by_cases same : fd = socket.fd
    · have absent : ¬ ∃ socket', units.IsActive socket' ∧ socket'.fd = fd ∧
          socket'.metadata.owner = some owner := by
        rintro ⟨socket', found, same', -⟩
        exact fresh socket' found (same'.trans same)
      split
      · constructor
        · intro owned
          exact ⟨socket, .inl rfl, same.symm, owned⟩
        · rintro ⟨socket', rfl | found, same', owned⟩
          · exact owned
          · exact absurd ⟨socket', found, same', owned⟩ absent
      · next ownerless =>
          refine iff_of_false (fun held => absent (before.mp held)) ?_
          rintro ⟨socket', rfl | found, same', owned⟩
          · exact ownerless ⟨same, by rw [owned]; rfl⟩
          · exact absent ⟨socket', found, same', owned⟩
    · rw [if_neg fun both => same both.1, before]
      constructor
      · rintro ⟨socket', found, same', owned⟩
        exact ⟨socket', .inr found, same', owned⟩
      · rintro ⟨socket', rfl | found, same', owned⟩
        · exact absurd same'.symm same
        · exact ⟨socket', found, same', owned⟩
  listed owner entry member := by
    simp only [recorded, SocketRuntime.ownedBy_record] at member
    have old : entry ∈ units.sockets.ownedBy owner → ∃ socket', final.IsActive socket' ∧
        socket'.metadata.owner = some owner ∧ entry = (socket'.metadata.name, socket'.fd) := by
      intro member
      obtain ⟨socket', found, owned, same⟩ := mirrored.listed owner entry member
      exact ⟨socket', (active socket').mpr (.inr found), owned, same⟩
    split at member
    · next owned =>
        rcases List.mem_append.mp member with member | member
        · exact old member
        · exact ⟨socket, (active socket).mpr (.inl rfl), owned, List.mem_singleton.mp member⟩
    · exact old member
  once owner socket' found owned := by
    simp only [recorded, SocketRuntime.ownedBy_record]
    rcases (active socket').mp found with rfl | found
    · have absent : (socket'.metadata.name, socket'.fd) ∉ units.sockets.ownedBy owner := by
        intro member
        obtain ⟨other, found, -, same⟩ := mirrored.listed owner _ member
        exact fresh other found (congrArg Prod.snd same).symm
      rw [if_pos owned, List.count_append, List.count_eq_zero_of_not_mem absent,
        List.count_singleton_self]
    · have before := mirrored.once owner socket' found owned
      split
      · have other : (socket.metadata.name, socket.fd) ≠ (socket'.metadata.name, socket'.fd) :=
          fun same => fresh socket' found (congrArg Prod.snd same).symm
        rw [List.count_append, before, List.count_singleton, beq_false_of_ne other]
        rfl
      · exact before

/-- A closed socket is forgotten, and no other if it was the only one of its owner. -/
theorem Mirrored.closed (mirrored : Mirrored units)
    (alone : ∀ owner, socket.metadata.owner = some owner → ∀ other, units.IsActive other →
      other.metadata.owner = some owner → other.fd = socket.fd)
    (active : ∀ socket', final.IsActive socket' ↔
      units.IsActive socket' ∧ socket'.fd ≠ socket.fd)
    (unique : ∀ other, units.IsActive other → other.fd = socket.fd → other = socket)
    (released : final.sockets = units.sockets.release socket) : Mirrored final where
  instances fd := by
    simp only [released, active, SocketRuntime.mem_instances_release, mirrored.instances]
    constructor
    · rintro ⟨apart, socket', found, rfl⟩
      exact ⟨socket', ⟨found, apart⟩, rfl⟩
    · rintro ⟨socket', ⟨found, apart⟩, rfl⟩
      exact ⟨apart, socket', found, rfl⟩
  owner fd owner := by
    simp only [released, active, SocketRuntime.owner_release]
    split
    · next same =>
        refine iff_of_false nofun ?_
        rintro ⟨socket', ⟨-, apart⟩, same', -⟩
        exact apart (same'.trans same)
    · next apart =>
        rw [mirrored.owner]
        constructor
        · rintro ⟨socket', found, rfl, owned⟩
          exact ⟨socket', ⟨found, apart⟩, rfl, owned⟩
        · rintro ⟨socket', ⟨found, -⟩, same, owned⟩
          exact ⟨socket', found, same, owned⟩
  listed owner entry member := by
    simp only [released, SocketRuntime.ownedBy_release] at member
    split at member
    · cases member
    · next other =>
        obtain ⟨socket', found, owned, same⟩ := mirrored.listed owner entry member
        refine ⟨socket', (active socket').mpr ⟨found, ?_⟩, owned, same⟩
        intro sameFd
        rw [unique socket' found sameFd] at owned
        exact other owned
  once owner socket' found owned := by
    obtain ⟨found, apart⟩ := (active socket').mp found
    simp only [released, SocketRuntime.ownedBy_release]
    rw [if_neg fun same => apart (alone owner same socket' found owned)]
    exact mirrored.once owner socket' found owned

end Keeping

/-! ## Runs of the socket runtime -/

/-- `reset_fds` forgets the paused descriptors of an owner. -/
def SocketRuntime.resetFds (owner : Ustr) (sockets : SocketRuntime) : SocketRuntime :=
  { sockets with paused := sockets.paused.erase owner }

/-- An action of the socket runtime.  What an evaluation of triggers is about comes in
any order. -/
inductive SocketAction where
  | start (create : SocketMetadata → Except CoreError Nat) (name : Ustr)
  | stop (name : Ustr)
  | evaluateTriggers (create : SocketMetadata → Except CoreError Nat) (facets : Facets)
      (trigger : EmitTrigger) (targets : List Ustr)
  | stopForScope (scope : Ustr)
  | resetFds (name : Ustr)

section Runs

variable [SerdeJson] (definitions : MetadataRegistry SocketMetadata)

def SocketAction.prog : SocketAction → UnitProg Unit
  | .start create name => startSocket definitions create name
  | .stop name => stopSocket definitions name
  | .evaluateTriggers create facets trigger targets =>
      evaluateSocketTriggers definitions create facets trigger targets
  | .stopForScope scope => stopSocketsForScope definitions scope
  | .resetFds name =>
      Prog.change fun units => { units with sockets := units.sockets.resetFds name }

def socketStep (units : Units) (action : SocketAction) : Units :=
  ((action.prog definitions) units).elim units (·.2)

omit [SerdeJson] in
/-- A start gets a descriptor that is not open, and does not find its socket active if
that has an owner. -/
def StartMeets (create : SocketMetadata → Except CoreError Nat) (name : Ustr) (units : Units) :
    Prop :=
  (∀ metadata fd, create metadata = .ok fd → ∀ other, units.IsActive other → other.fd ≠ fd) ∧
    ∀ socket, (units.entry (definitions.instanceKey "*" name)).head? = some (.socket socket) →
      socket.metadata.owner = none

omit [SerdeJson] in
/-- A stop closes the only socket of its owner. -/
def StopMeets (name : Ustr) (units : Units) : Prop :=
  ∀ socket, units.lastSocket (definitions.instanceKey "*" name) = some socket →
    ∀ owner, socket.metadata.owner = some owner → ∀ other, units.IsActive other →
      other.metadata.owner = some owner → other.fd = socket.fd

/-- A start or a stop that triggers lead to. -/
def ConsiderMeets (create : SocketMetadata → Except CoreError Nat) (facets : Facets)
    (event : Option FlowInstance) (name : Ustr) (units : Units) : Prop :=
  ∀ metadata, definitions.find "*" name = some metadata →
    let active := socketActive definitions name units
    if metadata.shouldStart facets event && !active then
      StartMeets definitions create name units
    else if metadata.shouldStop facets event && active then StopMeets definitions name units
    else True

/-- Every start and every stop of an action meets its condition in the state before it. -/
def SocketAction.Meets (units : Units) : SocketAction → Prop
  | .start create name => StartMeets definitions create name units
  | .stop name => StopMeets definitions name units
  | .evaluateTriggers create facets trigger targets =>
      EachMeets (considerSocket definitions create facets trigger.event)
        (ConsiderMeets definitions create facets trigger.event) targets units
  | .stopForScope scope =>
      EachMeets (fun item => stopSocket definitions (rslvns item.1 item.2.name))
        (fun item => StopMeets definitions (rslvns item.1 item.2.name))
        ((definitions.items scope).getD []) units
  | .resetFds _ => True

variable {definitions} {units final : Units} {name : Ustr} {result : Except CoreError Unit}
  {create : SocketMetadata → Except CoreError Nat}

/-- The tables mirror regular sockets. -/
def Units.Sound (units : Units) : Prop := units.Regular ∧ Mirrored units

omit [SerdeJson] in
theorem Units.Sound.start (sound : units.Sound) (meets : StartMeets definitions create name units)
    (ran : startSocket definitions create name units = some (result, final)) : final.Sound := by
  obtain ⟨regular, mirrored⟩ := sound
  have ends := startSocket_ends ran
  generalize (instantiateSocket definitions create name units.instances).1 = made at ends
  cases ends with
  | again socket member first kept recorded =>
      exact ⟨regular.congr kept, mirrored.again (regular.isActive member) (isActive_congr kept)
        (meets.2 socket first) recorded⟩
  | opened socket absent created active others recorded =>
      have fresh := meets.1 socket.metadata socket.fd created
      exact ⟨regular.opened active fresh others,
        mirrored.opened fresh (Units.Regular.isActive_opened absent active others) recorded⟩
  | refused error kept tables =>
      exact ⟨regular.congr kept, mirrored.congr (isActive_congr kept) tables⟩

omit [SerdeJson] in
theorem Units.Sound.stop (sound : units.Sound) (meets : StopMeets definitions name units)
    (ran : stopSocket definitions name units = some (result, final)) : final.Sound := by
  obtain ⟨regular, mirrored⟩ := sound
  cases stopSocket_ends ran with
  | closed socket last others released =>
      have active := regular.isActive (List.mem_of_getLast? last)
      refine ⟨regular.closed others, mirrored.closed (meets socket last)
        (regular.isActive_closed last others) ?_ released⟩
      exact fun other found same => regular.eq_of_fd found active same
  | refused error kept tables =>
      exact ⟨regular.congr kept, mirrored.congr (isActive_congr kept) tables⟩

theorem Units.Sound.consider {facets : Facets} {event : Option FlowInstance} (sound : units.Sound)
    (meets : ConsiderMeets definitions create facets event name units)
    (ran : considerSocket definitions create facets event name units = some (result, final)) :
    final.Sound := by
  cases found : definitions.find "*" name with
  | none =>
      rw [considerSocket, found] at ran
      cases ran
      exact sound
  | some metadata =>
      have meets := meets metadata found
      rw [considerSocket, found] at ran
      dsimp only at meets ran
      rw [run_read_bind] at ran
      split at meets
      · next starts =>
          rw [if_pos starts] at ran
          obtain ⟨-, inner, ran⟩ := run_attempt_cases ran
          exact sound.start meets ran
      · next idle =>
          rw [if_neg idle] at ran
          split at meets
          · next stops =>
              rw [if_pos stops] at ran
              obtain ⟨-, inner, ran⟩ := run_attempt_cases ran
              exact sound.stop meets ran
          · next idle =>
              rw [if_neg idle] at ran
              cases ran
              exact sound

/-- Every action keeps the mirror that meets its condition. -/
theorem Units.Sound.step {action : SocketAction} (sound : units.Sound)
    (meets : action.Meets definitions units) : (socketStep definitions units action).Sound := by
  rw [socketStep]
  cases ran : action.prog definitions units with
  | none => exact sound
  | some outcome =>
      obtain ⟨result, final⟩ := outcome
      dsimp only [Option.elim]
      cases action with
      | start create name => exact sound.start meets ran
      | stop name => exact sound.stop meets ran
      | evaluateTriggers create facets trigger targets =>
          exact EachMeets.keeps (fun _ _ _ _ => Units.Sound.consider) meets sound ran
      | stopForScope scope =>
          exact EachMeets.keeps (fun _ _ _ _ => Units.Sound.stop) meets sound ran
      | resetFds name =>
          cases ran
          obtain ⟨regular, mirrored⟩ := sound
          exact ⟨regular.congr fun _ => rfl,
            ⟨mirrored.instances, mirrored.owner, mirrored.listed, mirrored.once⟩⟩

/-- The tables mirror the sockets in every state of a run. -/
def AlwaysMirrored (definitions : MetadataRegistry SocketMetadata) (units : Units)
    (actions : List SocketAction) : Prop :=
  ∀ before, before <+: actions → Mirrored (Runs.run (socketStep definitions) units before)

/-- The tables mirror the active sockets in every state of a run whose starts do not find
a socket of an owner active, and whose stops close the only socket of an owner. -/
theorem sockets_mirrored {actions : List SocketAction} (regular : units.Regular)
    (mirrored : Mirrored units)
    (meets : Along (socketStep definitions) (SocketAction.Meets definitions) units actions) :
    AlwaysMirrored definitions units actions := by
  intro before beginning
  have keeps : ∀ (units : Units) action, units.Sound → action.Meets definitions units →
      (socketStep definitions units action).Sound := fun _ _ => Units.Sound.step
  exact (meets.visits keeps ⟨regular, mirrored⟩ beginning).2

end Runs

/-! ## Two sockets of one owner -/

open scoped Rind.Compact

/-- A socket of a database. -/
def databaseSocket (name : Ustr) : SocketMetadata :=
  { busSocket with name, owner := some "app:db" }

def databaseRegistry : MetadataRegistry SocketMetadata :=
  .ofGroup "static" "app" [databaseSocket "sql", databaseSocket "admin"]

def idleUnits : Units := { webUnits with instances := ∅ }

/-- The kernel answers with a given descriptor. -/
def opens (fd : Nat) : SocketMetadata → Except CoreError Nat := fun _ => .ok fd

theorem idleUnits_inactive (socket : Socket) : ¬ idleUnits.IsActive socket := by
  rintro ⟨key, member, -⟩
  cases member

theorem idleUnits_regular : idleUnits.Regular where
  active key socket member := by cases member
  single key socket member := by cases member
  apart key other socket member := by cases member

theorem sockets_mirrored_sql :
    AlwaysMirrored databaseRegistry idleUnits [.start (opens 7) "app:sql", .stop "app:sql"] := by
  apply sockets_mirrored idleUnits_regular
  · constructor
    · exact fun fd => iff_of_false nofun fun ⟨socket, active, _⟩ => idleUnits_inactive socket active
    · exact fun fd owner => iff_of_false nofun
        fun ⟨socket, active, _⟩ => idleUnits_inactive socket active
    · intro owner entry member
      cases member
    · exact fun owner socket active => absurd active (idleUnits_inactive socket)
  · refine ⟨⟨?_, nofun⟩, ?_, trivial⟩
    · exact fun _ _ _ other active => absurd active (idleUnits_inactive other)
    have started : (socketStep databaseRegistry idleUnits (.start (opens 7) "app:sql")).instances =
        AList.insert "app:sql@static" [.socket ⟨databaseSocket "sql", 7, true⟩] ∅ := rfl
    have seven : ∀ key, ∀ socket ∈ (socketStep databaseRegistry idleUnits
        (.start (opens 7) "app:sql")).socketsAt key, socket.fd = 7 := by
      intro key socket member
      rw [Units.socketsAt, Units.entry, started] at member
      by_cases same : key = "app:sql@static"
      · subst same
        rw [AList.lookup_insert] at member
        obtain rfl := List.mem_singleton.mp member
        rfl
      · rw [AList.lookup_insert_ne same] at member
        cases member
    rintro socket last owner - other ⟨key, member, -⟩ -
    rw [seven key other member, seven _ socket (List.mem_of_getLast? last)]

/-- When one of two sockets of an owner is stopped, the other is forgotten as well. -/
theorem not_sockets_mirrored_two :
    ¬ AlwaysMirrored databaseRegistry idleUnits
      [.start (opens 7) "app:sql", .start (opens 8) "app:admin", .stop "app:sql"] := by
  intro always
  have mirrored := always _ List.prefix_rfl
  have active : (Runs.run (socketStep databaseRegistry) idleUnits
      [.start (opens 7) "app:sql", .start (opens 8) "app:admin", .stop "app:sql"]).IsActive
        ⟨databaseSocket "admin", 8, true⟩ := by
    refine ⟨"app:admin@static", ?_, rfl⟩
    decide +kernel
  have once := mirrored.once "app:db" _ active rfl
  exact absurd once (by decide +kernel)

end Rind
