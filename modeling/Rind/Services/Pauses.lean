import Rind.Core.Resources
import Rind.Services.Ownership

/-!
# Paused sockets

A socket on which a client waits is paused until its owner has read from it.  The
resources know which descriptors are paused, and the socket runtime notes them under
their owners, who resume them.
-/

namespace Rind

open Prog
open Runs (Along)

/-! ## Sockets and their descriptors -/

/-- The units with the descriptors of the event loop. -/
structure SocketSystem (P : Type) where
  units : Units
  resources : Resources P

section System

variable {P : Type} (definitions : MetadataRegistry SocketMetadata)
  (create : SocketMetadata → Except CoreError Nat) (name : Ustr)

/-- What the event loop dispatches for a socket. -/
def drainAction : ResourceAction P := ⟨"sockets", "drain_incoming", none⟩

/-- What `start_socket` does with the descriptors: it owns that of a new socket, and
resumes that of any. -/
def startResources (units : Units) (resources : Resources P) : Resources P :=
  match instantiateSocket definitions create name units.instances with
  | (.error _, _) => resources
  | (.ok socket, _) =>
      let fd : RawFd := socket.fd
      let opened :=
        if units.entry (definitions.instanceKey "*" name) = [] then
          (resources.own fd (.owned fd)).action fd drainAction
        else resources
      opened.resume fd

/-- And `stop_socket`. -/
def stopResources (units : Units) (resources : Resources P) : Resources P :=
  match uninstantiateSocket (definitions.instanceKey "*" name) units.instances with
  | (.error _, _) => resources
  | (.ok socket, _) => resources.terminate socket.fd

/-- `as_one::<Socket>` -/
def asOneSocket (key : Ustr) (instances : UnitInstances) : Except CoreError Socket :=
  match instances.lookup key with
  | none => .error (.missingInstances key)
  | some entry =>
      match entry.getLast? with
      | none => .error (.missingInstances key)
      | some (.socket socket) => .ok socket
      | some _ => .error (.typeMismatch "instance" "unkown")

/-- The descriptors that are paused for an owner. -/
def SocketRuntime.pausedBy (sockets : SocketRuntime) (owner : Ustr) : List Nat :=
  (sockets.paused.lookup owner).getD []

/-- A client waits on a descriptor.  Whether the peer is admitted is what the permissions
of the socket come to: it is, where the socket names none or there is no store of them. -/
def drainIncoming (admits : SocketMetadata → Bool) (fd : Nat) :
    Prog (SocketSystem P) CoreError Unit := fun system =>
  match system.units.sockets.instances.lookup fd with
  | none => some (.error (.invalidState "Socket for fd was not found"), system)
  | some name =>
      match asOneSocket (definitions.instanceKey "*" name) system.units.instances with
      | .error error => some (.error error, system)
      | .ok socket =>
          let paused := { system with resources := system.resources.pause fd }
          if !admits socket.metadata then some (.ok (), paused)
          else
            match socket.metadata.owner with
            | none => some (.ok (), paused)
            | some owner =>
                let sockets := paused.units.sockets
                some (.ok (), { paused with units := { paused.units with sockets :=
                  { sockets with
                    paused := sockets.paused.insert owner (sockets.pausedBy owner ++ [fd]) } } })

/-- `reset_fds` and `resume_fds` -/
def resetFds (owner : Ustr) (system : SocketSystem P) : SocketSystem P :=
  match system.units.sockets.paused.lookup owner with
  | none => system
  | some fds =>
      { units := { system.units with sockets := system.units.sockets.resetFds owner }
        resources := (fds.map Int.ofNat).foldl Resources.resume system.resources }

/-- `clear_for` takes the clients of all sockets of an owner away, and changes no table. -/
def clearFor (owner : Ustr) : Prog (SocketSystem P) CoreError Unit := fun system =>
  if (system.units.sockets.ownedBy owner).all (·.2 ∈ system.units.sockets.instances) then
    some (.ok (), system)
  else some (.error (.invalidState "Socket for fd was not found"), system)

/-- What happens to sockets.  The exit of a service leads to `clear_for` and
`resume_fds`. -/
inductive PauseAction where
  | start (create : SocketMetadata → Except CoreError Nat) (name : Ustr)
  | stop (name : Ustr)
  | drainIncoming (admits : SocketMetadata → Bool) (fd : Nat)
  | resetFds (owner : Ustr)
  | clearFor (owner : Ustr)
  | pass (accepts : RawFd → EpollFlags → Bool)

def PauseAction.prog : PauseAction → Prog (SocketSystem P) CoreError Unit
  | .start create name => fun system =>
      (startSocket definitions create name system.units).map fun ran => (ran.1,
        ⟨ran.2, startResources definitions create name system.units system.resources⟩)
  | .stop name => fun system =>
      (stopSocket definitions name system.units).map fun ran => (ran.1,
        ⟨ran.2, stopResources definitions name system.units system.resources⟩)
  | .drainIncoming admits fd => Rind.drainIncoming definitions admits fd
  | .resetFds owner => Prog.change (Rind.resetFds owner)
  | .clearFor owner => Rind.clearFor owner
  | .pass accepts =>
      Prog.change fun system => { system with resources := system.resources.pass accepts }

def pauseStep (system : SocketSystem P) (action : PauseAction) : SocketSystem P :=
  ((action.prog definitions) system).elim system (·.2)

/-! ## Resuming -/

/-- Every active socket that is paused has an owner, under whom it is noted, and who makes
it accept connections again. -/
def SocketSystem.Resumable (system : SocketSystem P) : Prop :=
  ∀ socket, system.units.IsActive socket → (socket.fd : RawFd) ∈ system.resources.pausedFds →
    ∃ owner, socket.metadata.owner = some owner ∧
      socket.fd ∈ system.units.sockets.pausedBy owner ∧
      (resetFds owner system).resources.Accepts socket.fd

/-- A start gets a descriptor that is not open, and a client is admitted to a socket with
an owner, unless the descriptor is not watched or is noted as paused already. -/
def PauseAction.Meets (system : SocketSystem P) : PauseAction → Prop
  | .start create _ => ∀ metadata fd, create metadata = .ok fd →
      ∀ other, system.units.IsActive other → other.fd ≠ fd
  | .drainIncoming admits fd => ∀ name, system.units.sockets.instances.lookup fd = some name →
      ∀ socket, asOneSocket (definitions.instanceKey "*" name) system.units.instances = .ok socket →
        (fd : RawFd) ∈ system.resources.watchedFds → ∃ owner, socket.metadata.owner = some owner ∧
          (admits socket.metadata ∨ fd ∈ system.units.sockets.pausedBy owner)
  | .stop _ | .resetFds _ | .clearFor _ | .pass _ => True

/-- The names of descriptors lead to their sockets, and every active socket that is paused
is noted under its owner. -/
structure SocketSystem.Noted (system : SocketSystem P) : Prop where
  regular : system.units.Regular
  named : ∀ fd name, system.units.sockets.instances.lookup fd = some name →
    ∃ socket ∈ system.units.socketsAt (definitions.instanceKey "*" name), socket.fd = fd
  noted : ∀ socket, system.units.IsActive socket →
    (socket.fd : RawFd) ∈ system.resources.pausedFds →
      ∃ owner, socket.metadata.owner = some owner ∧
        socket.fd ∈ system.units.sockets.pausedBy owner

/-! ## What the steps do -/

variable {definitions create name} {units final : Units} {resources : Resources P}
  {system : SocketSystem P}

/-- A start pauses nothing, and resumes its socket. -/
theorem mem_paused_startResources {fd : RawFd}
    (paused : fd ∈ (startResources definitions create name units resources).pausedFds) :
    fd ∈ resources.pausedFds ∧ ∀ socket,
      (instantiateSocket definitions create name units.instances).1 = .ok socket →
        fd ≠ socket.fd := by
  rw [startResources] at paused
  split at paused
  · next error instances made =>
      refine ⟨paused, fun socket ok => ?_⟩
      rw [made] at ok
      cases ok
  · next socket instances made =>
      rw [Resources.mem_paused_resume] at paused
      obtain ⟨paused, other⟩ := paused
      refine ⟨?_, fun socket' ok => ?_⟩
      · split at paused
        · exact (Resources.mem_paused_own _).mp ((Resources.mem_paused_action _).mp paused)
        · exact paused
      · rw [made] at ok
        cases ok
        exact other

theorem mem_paused_stopResources {fd : RawFd} :
    fd ∈ (stopResources definitions name units resources).pausedFds ↔
      fd ∈ resources.pausedFds := by
  rw [stopResources]
  split
  · rfl
  · exact Resources.mem_paused_terminate

/-- A stop keeps what is noted of other sockets. -/
theorem mem_pausedBy_release {socket : Socket} {sockets : SocketRuntime} {owner : Ustr} {fd : Nat}
    (noted : fd ∈ sockets.pausedBy owner) (other : fd ≠ socket.fd) :
    fd ∈ (sockets.release socket).pausedBy owner := by
  rw [SocketRuntime.release, SocketRuntime.pausedBy]
  cases socket.metadata.owner with
  | none => exact noted
  | some closed =>
      rw [SocketRuntime.pausedBy] at noted
      cases held : sockets.paused.lookup closed with
      | none => simpa [held] using noted
      | some fds =>
          dsimp only
          by_cases same : owner = closed
          · subst same
            rw [held] at noted
            simp only [held, AList.lookup_insert, Option.getD_some, List.mem_filter]
            exact ⟨noted, decide_eq_true other⟩
          · simpa [held, AList.lookup_insert_ne same] using noted

/-- `as_one` finds a socket under its key. -/
theorem mem_of_asOneSocket {key : Ustr} {socket : Socket}
    (found : asOneSocket key units.instances = .ok socket) : socket ∈ units.socketsAt key := by
  rw [asOneSocket] at found
  rw [Units.mem_socketsAt, Units.entry]
  cases held : units.instances.lookup key with
  | none =>
      rw [held] at found
      cases found
  | some entry =>
      rw [held] at found
      dsimp only at found
      cases last : entry.getLast? with
      | none =>
          rw [last] at found
          cases found
      | some unit =>
          rw [last] at found
          cases unit with
          | socket other =>
              cases found
              exact List.mem_of_getLast? last
          | service _ => cases found
          | other => cases found

namespace SocketSystem.Noted

variable {result : Except CoreError Unit}

theorem start (noted : system.Noted definitions)
    (fresh : ∀ metadata fd, create metadata = .ok fd →
      ∀ other, system.units.IsActive other → other.fd ≠ fd)
    (ran : startSocket definitions create name system.units = some (result, final)) :
    SocketSystem.Noted definitions
      ⟨final, startResources definitions create name system.units system.resources⟩ := by
  have ends := startSocket_ends ran
  have paused := @mem_paused_startResources P definitions create name system.units system.resources
  generalize (instantiateSocket definitions create name system.units.instances).1 = made
    at ends paused
  cases ends with
  | again socket member first kept recorded =>
      refine ⟨noted.regular.congr kept, fun fd name' held => ?_, fun other active held => ?_⟩
      · rw [recorded] at held
        rw [kept]
        by_cases same : fd = socket.fd
        · subst same
          obtain rfl := Option.some.inj ((AList.lookup_insert _).symm.trans held)
          exact ⟨socket, member, rfl⟩
        · exact noted.named fd name' ((AList.lookup_insert_ne same).symm.trans held)
      · obtain ⟨held, -⟩ := paused held
        rw [recorded]
        exact noted.noted other ((isActive_congr kept other).mp active) held
  | opened socket absent created active others recorded =>
      have fresh := fresh socket.metadata socket.fd created
      refine ⟨noted.regular.opened active fresh others, fun fd name' held => ?_,
        fun other active' held => ?_⟩
      · rw [recorded] at held
        rw [others]
        by_cases same : fd = socket.fd
        · subst same
          obtain rfl := Option.some.inj ((AList.lookup_insert _).symm.trans held)
          rw [if_pos rfl]
          exact ⟨socket, List.mem_singleton.mpr rfl, rfl⟩
        · obtain ⟨socket', member, fd_⟩ :=
            noted.named fd name' ((AList.lookup_insert_ne same).symm.trans held)
          refine ⟨socket', ?_, fd_⟩
          split
          · next key =>
              rw [key, absent] at member
              cases member
          · exact member
      · obtain ⟨held, resumed⟩ := paused held
        rw [recorded]
        rcases (Units.Regular.isActive_opened absent active others other).mp active' with
          rfl | before
        · exact absurd rfl (resumed other rfl)
        · exact noted.noted other before held
  | refused error kept tables =>
      refine ⟨noted.regular.congr kept, fun fd name' held => ?_, fun other active held => ?_⟩
      · rw [kept]
        exact noted.named fd name' (tables ▸ held)
      · rw [tables]
        exact noted.noted other ((isActive_congr kept other).mp active) (paused held).1

theorem stop (noted : system.Noted definitions)
    (ran : stopSocket definitions name system.units = some (result, final)) :
    SocketSystem.Noted definitions
      ⟨final, stopResources definitions name system.units system.resources⟩ := by
  cases stopSocket_ends ran with
  | closed socket last others released =>
      have member : socket ∈ system.units.socketsAt _ := List.mem_of_getLast? last
      refine ⟨noted.regular.closed others, fun fd name' held => ?_, fun other active held => ?_⟩
      · rw [released] at held
        have apart : fd ≠ socket.fd := by
          rintro rfl
          cases (AList.lookup_erase _ _).symm.trans held
        obtain ⟨socket', member', fd_⟩ :=
          noted.named fd name' ((AList.lookup_erase_ne apart).symm.trans held)
        refine ⟨socket', ?_, fd_⟩
        rw [others]
        split
        · next key =>
            rw [key, noted.regular.single _ socket member] at member'
            exact absurd (fd_.symm.trans (congrArg Socket.fd (List.mem_singleton.mp member'))) apart
        · exact member'
      · obtain ⟨before, apart⟩ := (noted.regular.isActive_closed last others other).mp active
        obtain ⟨owner, owned, listed⟩ :=
          noted.noted other before (mem_paused_stopResources.mp held)
        rw [released]
        exact ⟨owner, owned, mem_pausedBy_release listed apart⟩
  | refused error kept tables =>
      refine ⟨noted.regular.congr kept, fun fd name' held => ?_, fun other active held => ?_⟩
      · rw [kept]
        exact noted.named fd name' (tables ▸ held)
      · rw [tables]
        exact noted.noted other ((isActive_congr kept other).mp active)
          (mem_paused_stopResources.mp held)

theorem drainIncoming {admits : SocketMetadata → Bool} {fd : Nat} {after : SocketSystem P}
    (noted : system.Noted definitions)
    (meets : (PauseAction.drainIncoming admits fd).Meets definitions system)
    (ran : Rind.drainIncoming definitions admits fd system = some (result, after)) :
    after.Noted definitions := by
  rw [Rind.drainIncoming] at ran
  split at ran
  · cases ran
    exact noted
  · next name held =>
      split at ran
      · cases ran
        exact noted
      · next socket found =>
          have member := mem_of_asOneSocket found
          obtain ⟨socket', member', sameFd⟩ := noted.named fd name held
          rw [noted.regular.single _ socket member] at member'
          obtain rfl := List.mem_singleton.mp member'
          have isSocket : ∀ other, system.units.IsActive other → other.fd = fd →
              other = socket' := fun other active same =>
            noted.regular.eq_of_fd active (noted.regular.isActive member) (same.trans sameFd.symm)
          -- a newly paused descriptor is that of the socket
          have noted' : ∀ other, system.units.IsActive other →
              (other.fd : RawFd) ∈ (system.resources.pause fd).pausedFds →
                (∃ owner, other.metadata.owner = some owner ∧
                  other.fd ∈ system.units.sockets.pausedBy owner) ∨
                other = socket' ∧ (fd : RawFd) ∈ system.resources.watchedFds := by
            intro other active paused
            rcases Resources.mem_paused_pause.mp paused with before | ⟨same, watched⟩
            · exact .inl (noted.noted other active before)
            · exact .inr ⟨isSocket other active (Int.ofNat_inj.mp same), watched⟩
          have keeps : (∀ owner, socket'.metadata.owner = some owner →
              admits socket'.metadata = true → False) →
                SocketSystem.Noted definitions
                  { system with resources := system.resources.pause fd } := by
            intro unlisted
            refine ⟨noted.regular, noted.named, fun other active paused => ?_⟩
            rcases noted' other active paused with before | ⟨rfl, watched⟩
            · exact before
            · obtain ⟨owner, owned, admitted | listed⟩ := meets name held other found watched
              · exact (unlisted owner owned admitted).elim
              · exact ⟨owner, owned, sameFd ▸ listed⟩
          dsimp only at ran
          split at ran
          · next denied =>
              cases ran
              refine keeps fun owner owned admitted => ?_
              rw [admitted] at denied
              cases denied
          · split at ran
            · next ownerless =>
                cases ran
                refine keeps fun owner owned _ => ?_
                rw [owned] at ownerless
                cases ownerless
            · next owner owned =>
                cases ran
                refine ⟨noted.regular.congr fun _ => rfl, noted.named, fun other active paused => ?_⟩
                simp only [SocketRuntime.pausedBy]
                rcases noted' other active paused with ⟨owner', owned', listed⟩ | ⟨rfl, -⟩
                · refine ⟨owner', owned', ?_⟩
                  by_cases same : owner' = owner
                  · subst same
                    rw [AList.lookup_insert]
                    exact List.mem_append_left _ listed
                  · rw [AList.lookup_insert_ne same]
                    exact listed
                · refine ⟨owner, owned, ?_⟩
                  rw [AList.lookup_insert, sameFd]
                  exact List.mem_append_right _ (List.mem_singleton.mpr rfl)

/-- The descriptors that are noted for an owner are not paused after they are resumed. -/
theorem resetFds (noted : system.Noted definitions) (owner : Ustr) :
    (Rind.resetFds owner system).Noted definitions := by
  cases held : system.units.sockets.paused.lookup owner with
  | none =>
      rw [Rind.resetFds, held]
      exact noted
  | some fds =>
      rw [Rind.resetFds, held]
      refine ⟨noted.regular.congr fun _ => rfl, noted.named, fun other active paused => ?_⟩
      obtain ⟨paused, fresh⟩ := (Resources.mem_paused_resumeAll _).mp paused
      have fresh : other.fd ∉ fds := fun listed => fresh (List.mem_map_of_mem listed)
      obtain ⟨owner', owned, listed⟩ := noted.noted other active paused
      refine ⟨owner', owned, ?_⟩
      rw [SocketRuntime.resetFds, SocketRuntime.pausedBy]
      have apart : owner' ≠ owner := by
        rintro rfl
        rw [SocketRuntime.pausedBy, held] at listed
        exact fresh listed
      rw [AList.lookup_erase_ne apart]
      exact listed

/-- Every action that meets its condition keeps the notes. -/
theorem step {action : PauseAction} (noted : system.Noted definitions)
    (meets : action.Meets definitions system) : (pauseStep definitions system action).Noted
      definitions := by
  rw [pauseStep]
  cases ran : action.prog definitions system with
  | none => exact noted
  | some outcome =>
      obtain ⟨result, after⟩ := outcome
      dsimp only [Option.elim]
      cases action with
      | start create name =>
          obtain ⟨⟨result', final⟩, started, same⟩ := Option.map_eq_some_iff.mp ran
          cases same
          exact noted.start meets started
      | stop name =>
          obtain ⟨⟨result', final⟩, stopped, same⟩ := Option.map_eq_some_iff.mp ran
          cases same
          exact noted.stop stopped
      | drainIncoming admits fd => exact noted.drainIncoming meets ran
      | resetFds owner =>
          cases ran
          exact noted.resetFds owner
      | clearFor owner =>
          simp only [PauseAction.prog, Rind.clearFor] at ran
          split at ran <;> cases ran <;> exact noted
      | pass accepts =>
          cases ran
          refine ⟨noted.regular, noted.named, fun other active paused => ?_⟩
          exact noted.noted other active ((Resources.mem_paused_pass accepts).mp paused)

/-- A socket that is noted under its owner accepts connections once that resumes it. -/
theorem resumable (noted : system.Noted definitions) : system.Resumable := by
  intro socket active paused
  obtain ⟨owner, owned, listed⟩ := noted.noted socket active paused
  refine ⟨owner, owned, listed, ?_⟩
  rw [SocketRuntime.pausedBy] at listed
  cases held : system.units.sockets.paused.lookup owner with
  | none =>
      rw [held] at listed
      cases listed
  | some fds =>
      rw [held, Option.getD_some] at listed
      rw [Rind.resetFds, held]
      apply Resources.accepts_of_resumed paused
      have resumed : (socket.fd : RawFd) ∈ fds.map Int.ofNat := List.mem_map_of_mem listed
      rw [Resources.entry_resumeAll, if_pos resumed]

end SocketSystem.Noted

/-- Every paused socket can be resumed in every state of a run. -/
def AlwaysResumable (definitions : MetadataRegistry SocketMetadata) (system : SocketSystem P)
    (actions : List PauseAction) : Prop :=
  ∀ before, before <+: actions → (Runs.run (pauseStep definitions) system before).Resumable

/-- In every state of a run whose clients are admitted to sockets with owners, the owners of
paused sockets make them accept connections again. -/
theorem paused_resumable {actions : List PauseAction} (noted : system.Noted definitions)
    (meets : Along (pauseStep definitions) (PauseAction.Meets definitions) system actions) :
    AlwaysResumable definitions system actions := by
  intro before beginning
  have keeps : ∀ (system : SocketSystem P) action, system.Noted definitions →
      action.Meets definitions system → (pauseStep definitions system action).Noted definitions :=
    fun _ _ => SocketSystem.Noted.step
  exact (meets.visits keeps noted beginning).resumable

end System

/-! ## A client that is denied -/

/-- A start of a socket, and the pass in which its descriptor comes to be watched. -/
def openSql : List PauseAction := [.start (opens 7) "app:sql", .pass acceptAll]

theorem idleUnits_noted :
    SocketSystem.Noted databaseRegistry (⟨idleUnits, .empty Unit⟩ : SocketSystem Unit) where
  regular := idleUnits_regular
  named := nofun
  noted socket active := absurd active (idleUnits_inactive socket)

theorem paused_resumable_sql : AlwaysResumable databaseRegistry
    (⟨idleUnits, .empty Unit⟩ : SocketSystem Unit)
    (openSql ++ [.drainIncoming (fun _ => true) 7, .resetFds "app:db"]) := by
  refine paused_resumable idleUnits_noted ⟨?_, trivial, ?_, trivial, trivial⟩
  · exact fun _ _ _ other active => absurd active (idleUnits_inactive other)
  · intro name held socket found _
    cases held
    cases found
    exact ⟨"app:db", rfl, .inl rfl⟩

/-- One client that is denied keeps the socket paused. -/
theorem not_paused_resumable_denied : ¬ AlwaysResumable databaseRegistry
    (⟨idleUnits, .empty Unit⟩ : SocketSystem Unit)
    (openSql ++ [.drainIncoming (fun _ => false) 7]) := by
  intro always
  have resumable := always _ List.prefix_rfl ⟨databaseSocket "sql", 7, true⟩
    ⟨"app:sql@static", by decide +kernel, rfl⟩ (by decide +kernel)
  obtain ⟨owner, owned, listed, -⟩ := resumable
  obtain rfl := Option.some.inj owned
  exact absurd listed (by decide +kernel)

end Rind
