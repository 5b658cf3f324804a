import Rind.Core.Resources
import Rind.Data.Maps
import Rind.Services.Service
import Mathlib.Data.List.Dedup
import Mathlib.Logic.Function.Basic

/-!
# Socket activation

A process gets the sockets of its service on the descriptors from 3 on, and their names in
its environment.  The descriptors and the names are two sets, each of which is gone through
in an order of its own.
-/

namespace Rind

/-- The descriptors and the names of sockets, as two sets. -/
structure SocketActivation where
  fds : List RawFd
  names : List Ustr

/-- The sockets of a registry or of a request, with their names. -/
abbrev NamedSockets : Type := List (Ustr × RawFd)

/-- The orders in which hash sets are gone through. -/
structure SetOrders where
  ofFds : List RawFd → List RawFd
  ofNames : List Ustr → List Ustr
  fdsPerm : ∀ fds, (ofFds fds).Perm fds
  namesPerm : ∀ names, (ofNames names).Perm names

/-- The descriptors of a new process before it runs its program: the descriptor of the daemon
that each one is a copy of, and those that stay open. -/
structure ChildFds where
  copyOf : RawFd → RawFd
  open_ : List RawFd

/-- What a process is started with: its environment, and the descriptor of the daemon that
each of its open descriptors is a copy of. -/
structure Handed where
  envs : AList fun _ : Ustr => Ustr
  files : RawFd → Option RawFd

namespace SocketActivation

/-- `SocketActivation::from` -/
def ofSockets (sockets : NamedSockets) : SocketActivation where
  fds := (sockets.map Prod.snd).dedup
  names := (sockets.map Prod.fst).dedup

def extend (activation : SocketActivation) (fds : List RawFd) (names : List Ustr) :
    SocketActivation where
  fds := (activation.fds ++ fds).dedup
  names := (activation.names ++ names).dedup

end SocketActivation

/-- The sockets of all owners. -/
abbrev SocketsMap : Type := AList fun _ : Ustr => SocketActivation

def getAllSockets (owners : AList fun _ : Ustr => NamedSockets) : SocketsMap :=
  Maps.select (fun sockets => some (.ofSockets sockets)) owners

/-- The sockets that a process of a service may get: those of the registry, and those of the
request under the name that it spells. -/
def socketsForStart (owners : AList fun _ : Ustr => NamedSockets) (name : Ustr)
    (socketFds : List RawFd) (socketFdNames : List Ustr) : SocketsMap :=
  let map := getAllSockets owners
  if socketFds.isEmpty then map
  else map.insert name (((map.lookup name).getD ⟨[], []⟩).extend socketFds socketFdNames)

/-- The name of a service without its scope, as `spawn_process` has it. -/
def fullServiceName (registryKey : Ustr) : Ustr :=
  match Text.rsplitOnce '@' registryKey with
  | some (name, _) => name
  | none => registryKey

section Spawn

variable (orders : SetOrders)

/-- What `spawn_process` adds to the environment. -/
def activationEnvs (map : SocketsMap) (registryKey : Ustr) (envs : AList fun _ : Ustr => Ustr) :
    AList fun _ : Ustr => Ustr :=
  match map.lookup (fullServiceName registryKey) with
  | none => envs
  | some activation =>
      let activationFds := orders.ofFds activation.fds
      let activationNames := orders.ofNames activation.names
      if activationFds.isEmpty then envs
      else
        let count := toString activationFds.length
        let inherited := ",".intercalate
          ((List.range activationFds.length).map fun i => toString (3 + i))
        let listening := ((envs.insert "RIND_SOCKET_FDS" inherited).insert "RIND_SOCKET_COUNT"
          count).insert "LISTEN_FDS" count
        if activationNames.isEmpty then listening
        else
          let names := ":".intercalate activationNames
          (listening.insert "RIND_SOCKET_NAMES" names).insert "LISTEN_FDNAMES" names

/-- Copy a descriptor, unless it is there already, and keep the copy open. -/
def passFd (child : ChildFds) (fd targetFd : RawFd) : ChildFds where
  copyOf := if fd = targetFd then child.copyOf
    else Function.update child.copyOf targetFd (child.copyOf fd)
  open_ := targetFd :: child.open_

/-- Pass some descriptors, one after the other. All others are closed by `exec`. -/
def passFds (fds : List RawFd) (fd : RawFd) : Option RawFd :=
  let child := fds.zipIdx.foldl (fun child entry => passFd child entry.1 (3 + entry.2)) ⟨id, []⟩
  if fd ∈ child.open_ then some (child.copyOf fd) else none

/-- The executor finds the sockets under the name before the first `@`. -/
def preExecFds (map : SocketsMap) (registryKey : Ustr) : List RawFd :=
  match map.lookup (rslvnsSnorm registryKey) with
  | some activation => orders.ofFds activation.fds
  | none => []

/-- What a process of a service gets. -/
def handOver (owners : AList fun _ : Ustr => NamedSockets) (name : Ustr)
    (socketFds : List RawFd) (socketFdNames : List Ustr) (runEnvs : AList fun _ : Ustr => Ustr) :
    Handed :=
  let map := socketsForStart owners name socketFds socketFdNames
  let registryKey := ensureScopedName name
  { envs := activationEnvs orders map registryKey runEnvs
    files := passFds (preExecFds orders map registryKey) }

end Spawn

/-! ## The sockets of a service -/

/-- The sockets of a service: those that the registry has for its name, and those of the
request. -/
def socketsOf (owners : AList fun _ : Ustr => NamedSockets) (name : Ustr)
    (request : NamedSockets) : NamedSockets :=
  (owners.lookup (fullServiceName (ensureScopedName name))).getD [] ++ request

/-- The process gets some sockets in their order, and their names in the same order. -/
structure Paired (order : NamedSockets) (handed : Handed) : Prop where
  count : handed.envs.lookup "LISTEN_FDS" = some (toString order.length)
  names : ∀ key ∈ ["LISTEN_FDNAMES", "RIND_SOCKET_NAMES"], ∃ text,
    handed.envs.lookup key = some text ∧ Text.split ':' text = order.map Prod.fst
  files : ∀ (i : Nat) (socket : Ustr × RawFd), order[i]? = some socket →
    handed.files (3 + (i : RawFd)) = some socket.2

/-- A process gets the sockets of its service, and each of their names in the place of its
socket, whatever the order of the sets is. -/
def PairsNames (owners : AList fun _ : Ustr => NamedSockets) (name : Ustr)
    (request : NamedSockets) : Prop :=
  ∀ orders runEnvs, ∃ order, order.Perm (socketsOf owners name request).dedup ∧
    (order ≠ [] → Paired order
      (handOver orders owners name (request.map Prod.snd) (request.map Prod.fst) runEnvs))

/-- There is one socket only, its name has no colon, and it is found: the request does not
spell the scope of the service, unless the registry has the socket too, and the executor finds
nothing else. -/
structure OneSocket (owners : AList fun _ : Ustr => NamedSockets) (name : Ustr)
    (request : NamedSockets) (socket : Ustr × RawFd) : Prop where
  only : (socketsOf owners name request).dedup = [socket]
  plain : ':' ∉ socket.1.toList
  found : (owners.lookup (fullServiceName (ensureScopedName name))).getD [] ≠ [] ∨
    fullServiceName (ensureScopedName name) = name
  executor : ((socketsForStart owners name (request.map Prod.snd) (request.map Prod.fst)).lookup
    (rslvnsSnorm (ensureScopedName name))).map SocketActivation.fds = some [socket.2]

variable {owners : AList fun _ : Ustr => NamedSockets} {name : Ustr} {request : NamedSockets}

theorem lookup_socketsForStart (key : Ustr) :
    (socketsForStart owners name (request.map Prod.snd) (request.map Prod.fst)).lookup key =
      if request ≠ [] ∧ key = name then
        some ((((owners.lookup key).map SocketActivation.ofSockets).getD ⟨[], []⟩).extend
          (request.map Prod.snd) (request.map Prod.fst))
      else (owners.lookup key).map SocketActivation.ofSockets := by
  have known (key : Ustr) : (getAllSockets owners).lookup key =
      (owners.lookup key).map SocketActivation.ofSockets := by
    rw [getAllSockets, Maps.lookup_select]
    cases owners.lookup key <;> rfl
  rw [socketsForStart]
  cases request with
  | nil => exact known key
  | cons socket rest =>
      rw [List.map_cons, List.isEmpty_cons, if_neg Bool.false_ne_true]
      by_cases same : key = name
      · subst same
        rw [AList.lookup_insert, if_pos ⟨List.cons_ne_nil _ _, rfl⟩, known]
      · rw [AList.lookup_insert_ne same, known, if_neg fun both => same both.2]

/-- Two sets have the descriptors and the names of some sockets. -/
structure Collects (activation : SocketActivation) (sockets : NamedSockets) : Prop where
  nodupFds : activation.fds.Nodup
  nodupNames : activation.names.Nodup
  fds : ∀ fd, fd ∈ activation.fds ↔ fd ∈ sockets.map Prod.snd
  names : ∀ name, name ∈ activation.names ↔ name ∈ sockets.map Prod.fst

theorem collects_ofSockets (sockets : NamedSockets) : Collects (.ofSockets sockets) sockets :=
  ⟨List.nodup_dedup _, List.nodup_dedup _, fun _ => List.mem_dedup, fun _ => List.mem_dedup⟩

theorem Collects.extend {activation : SocketActivation} {sockets : NamedSockets}
    (collects : Collects activation sockets) (more : NamedSockets) :
    Collects (activation.extend (more.map Prod.snd) (more.map Prod.fst)) (sockets ++ more) where
  nodupFds := List.nodup_dedup _
  nodupNames := List.nodup_dedup _
  fds := by
    intro fd
    rw [SocketActivation.extend, List.mem_dedup, List.mem_append, collects.fds, List.map_append,
      List.mem_append]
  names := by
    intro name
    rw [SocketActivation.extend, List.mem_dedup, List.mem_append, collects.names, List.map_append,
      List.mem_append]

/-- What is found for a process are sockets of the service. -/
theorem collects_of_lookup {activation : SocketActivation}
    (found : (socketsForStart owners name (request.map Prod.snd) (request.map Prod.fst)).lookup
      (fullServiceName (ensureScopedName name)) = some activation) :
    ∃ sockets, sockets ⊆ socketsOf owners name request ∧ Collects activation sockets := by
  rw [lookup_socketsForStart] at found
  split at found
  · cases found
    refine ⟨_, List.Subset.refl _, ?_⟩
    rw [socketsOf]
    apply Collects.extend
    cases owners.lookup (fullServiceName (ensureScopedName name)) with
    | none => exact ⟨List.nodup_nil, List.nodup_nil, by simp, by simp⟩
    | some sockets => exact collects_ofSockets sockets
  · obtain ⟨sockets, listed, rfl⟩ := Option.map_eq_some_iff.mp found
    refine ⟨sockets, ?_, collects_ofSockets sockets⟩
    rw [socketsOf, listed]
    exact List.subset_append_left _ _

/-- The sockets of a service are found, unless the request hides them. -/
theorem lookup_of_found (some_ : socketsOf owners name request ≠ [])
    (found : (owners.lookup (fullServiceName (ensureScopedName name))).getD [] ≠ [] ∨
      fullServiceName (ensureScopedName name) = name) :
    ∃ activation, (socketsForStart owners name (request.map Prod.snd)
        (request.map Prod.fst)).lookup (fullServiceName (ensureScopedName name)) = some activation ∧
      activation.fds ≠ [] ∧ activation.names ≠ [] := by
  rw [lookup_socketsForStart]
  split
  · next own =>
      refine ⟨_, rfl, ?_⟩
      rw [SocketActivation.extend, ne_eq, ne_eq, List.dedup_eq_nil, List.dedup_eq_nil,
        List.append_eq_nil_iff, List.append_eq_nil_iff, List.map_eq_nil_iff, List.map_eq_nil_iff]
      exact ⟨fun none_ => own.1 none_.2, fun none_ => own.1 none_.2⟩
  · next other =>
      have listed : (owners.lookup (fullServiceName (ensureScopedName name))).getD [] ≠ [] := by
        rcases found with listed | same
        · exact listed
        · have none_ : request = [] := by
            by_contra some_
            exact other ⟨some_, same⟩
          rwa [socketsOf, none_, List.append_nil] at some_
      cases known : owners.lookup (fullServiceName (ensureScopedName name)) with
      | none =>
          rw [known] at listed
          exact absurd rfl listed
      | some sockets =>
          rw [known, Option.getD_some] at listed
          refine ⟨_, rfl, ?_⟩
          rw [SocketActivation.ofSockets, ne_eq, ne_eq, List.dedup_eq_nil, List.dedup_eq_nil,
            List.map_eq_nil_iff, List.map_eq_nil_iff]
          exact ⟨listed, listed⟩

theorem nodup_of_lookup {key : Ustr} {activation : SocketActivation}
    (found : (socketsForStart owners name (request.map Prod.snd) (request.map Prod.fst)).lookup
      key = some activation) : activation.fds.Nodup := by
  rw [lookup_socketsForStart] at found
  split at found
  · cases found
    exact List.nodup_dedup _
  · obtain ⟨sockets, -, rfl⟩ := Option.map_eq_some_iff.mp found
    exact List.nodup_dedup _

/-- A set that begins with the same element in either direction. -/
theorem eq_singleton_of_head? {α : Type} {items : List α} {item : α} (nodup : items.Nodup)
    (first : items.head? = some item) (last : items.reverse.head? = some item) :
    items = [item] := by
  cases items with
  | nil => cases first
  | cons head rest =>
      cases first
      cases rest using List.reverseRecOn with
      | nil => rfl
      | append_singleton rest final =>
          have same : final = item := by simpa using last
          rw [same] at nodup
          exact absurd (List.mem_append_right _ (List.mem_singleton_self _))
            (List.nodup_cons.mp nodup).1

/-- A set of one element. -/
theorem eq_singleton_of_forall {α : Type} {items : List α} {item : α} (nodup : items.Nodup)
    (some_ : items ≠ []) (all : ∀ other ∈ items, other = item) : items = [item] := by
  cases items with
  | nil => exact absurd rfl some_
  | cons first rest =>
      obtain ⟨rfl, others⟩ := List.forall_mem_cons.mp all
      cases rest with
      | nil => rfl
      | cons second rest =>
          obtain rfl := (List.forall_mem_cons.mp others).1
          exact absurd List.mem_cons_self (List.nodup_cons.mp nodup).1

/-! ## The environment and the descriptors -/

section Handed

variable {orders : SetOrders}

theorem isEmpty_ofFds (fds : List RawFd) : (orders.ofFds fds).isEmpty = fds.isEmpty := by
  rw [Bool.eq_iff_iff, List.isEmpty_iff_length_eq_zero, List.isEmpty_iff_length_eq_zero,
    (orders.fdsPerm fds).length_eq]

theorem isEmpty_ofNames (names : List Ustr) :
    (orders.ofNames names).isEmpty = names.isEmpty := by
  rw [Bool.eq_iff_iff, List.isEmpty_iff_length_eq_zero, List.isEmpty_iff_length_eq_zero,
    (orders.namesPerm names).length_eq]

/-- What the environment is told of the sockets that are found. -/
theorem lookup_activationEnvs (orders : SetOrders) {map : SocketsMap} {registryKey : Ustr}
    {activation : SocketActivation} (found : map.lookup (fullServiceName registryKey) = some activation)
    (fds : activation.fds ≠ []) (names : activation.names ≠ []) (envs : AList fun _ : Ustr => Ustr) :
    (activationEnvs orders map registryKey envs).lookup "LISTEN_FDS" =
        some (toString activation.fds.length) ∧
      ∀ key ∈ ["LISTEN_FDNAMES", "RIND_SOCKET_NAMES"],
        (activationEnvs orders map registryKey envs).lookup key =
          some (":".intercalate (orders.ofNames activation.names)) := by
  rw [activationEnvs, found]
  dsimp only
  rw [isEmpty_ofFds, isEmpty_ofNames, if_neg (by simpa using fds), if_neg (by simpa using names),
    (orders.fdsPerm _).length_eq]
  constructor
  · rw [AList.lookup_insert_ne (by decide), AList.lookup_insert_ne (by decide),
      AList.lookup_insert]
  · intro key listed
    rcases List.mem_pair.mp listed with rfl | rfl
    · rw [AList.lookup_insert]
    · rw [AList.lookup_insert_ne (by decide), AList.lookup_insert]

/-- Only where sockets are found is the environment told of them. -/
theorem of_lookup_activationEnvs {map : SocketsMap} {registryKey key text : Ustr}
    (listed : key ∈ ["LISTEN_FDNAMES", "RIND_SOCKET_NAMES"])
    (named : (activationEnvs orders map registryKey ∅).lookup key = some text) :
    ∃ activation, map.lookup (fullServiceName registryKey) = some activation ∧
      activation.fds ≠ [] ∧ activation.names ≠ [] := by
  rw [activationEnvs] at named
  cases found : map.lookup (fullServiceName registryKey) with
  | none =>
      rw [found] at named
      cases named
  | some activation =>
      refine ⟨activation, rfl, fun none_ => ?_, fun none_ => ?_⟩
      · simp only [found] at named
        rw [isEmpty_ofFds, none_, List.isEmpty_nil, if_pos rfl] at named
        cases named
      · simp only [found] at named
        rw [isEmpty_ofFds, isEmpty_ofNames, none_, List.isEmpty_nil, if_pos rfl] at named
        split at named
        · cases named
        · rcases List.mem_pair.mp listed with rfl | rfl
          · rw [AList.lookup_insert_ne (by decide), AList.lookup_insert_ne (by decide),
              AList.lookup_insert_ne (by decide)] at named
            cases named
          · rw [AList.lookup_insert_ne (by decide), AList.lookup_insert_ne (by decide),
              AList.lookup_insert_ne (by decide)] at named
            cases named

theorem foldl_passFd (entries : List (RawFd × Nat)) (later : ∀ entry ∈ entries, 0 < entry.2)
    (child : ChildFds) (kept : 3 ∈ child.open_) :
    let after := entries.foldl (fun child entry => passFd child entry.1 (3 + entry.2)) child
    3 ∈ after.open_ ∧ after.copyOf 3 = child.copyOf 3 := by
  induction entries generalizing child with
  | nil => exact ⟨kept, rfl⟩
  | cons entry rest ih =>
      obtain ⟨first, others⟩ := List.forall_mem_cons.mp later
      have apart : (3 : Int) ≠ 3 + (entry.2 : Int) := by omega
      obtain ⟨kept', same⟩ := ih others (passFd child entry.1 (3 + entry.2))
        (List.mem_cons_of_mem _ kept)
      refine ⟨kept', same.trans ?_⟩
      dsimp only [passFd]
      split
      · rfl
      · exact Function.update_of_ne apart _ _

/-- The first of some descriptors is passed as 3. -/
theorem passFds_three (fds : List RawFd) : passFds fds 3 = fds.head? := by
  cases fds with
  | nil => rfl
  | cons fd rest =>
      have later : ∀ entry ∈ rest.zipIdx 1, 0 < entry.2 := by
        intro entry listed
        exact (List.mem_zipIdx listed).1
      obtain ⟨kept, same⟩ := foldl_passFd (rest.zipIdx 1) later (passFd ⟨id, []⟩ fd (3 + (0 : Nat)))
        List.mem_cons_self
      have copied : (passFd ⟨id, []⟩ fd (3 + (0 : Nat))).copyOf 3 = fd := by
        dsimp only [passFd]
        split
        · next there => exact there.symm
        · exact Function.update_self _ _ _
      rw [passFds, List.zipIdx_cons, List.foldl_cons, List.head?_cons]
      dsimp only
      rw [if_pos kept, same, copied]

theorem files_three {socketFds : List RawFd} {socketFdNames : List Ustr}
    {envs : AList fun _ : Ustr => Ustr} :
    (handOver orders owners name socketFds socketFdNames envs).files (3 + ((0 : Nat) : RawFd)) =
      (preExecFds orders (socketsForStart owners name socketFds socketFdNames)
        (ensureScopedName name)).head? :=
  passFds_three _

end Handed

/-! ## Pairs -/

theorem toString_injective {first second : Nat} (same : toString first = toString second) :
    first = second := by
  have digits := congrArg (fun text => Nat.ofDigitChars 10 text.toList 0) same
  rwa [Nat.toString_eq_repr, Nat.toString_eq_repr, Nat.toList_repr, Nat.toList_repr,
    Nat.ofDigitChars_ten_toDigits, Nat.ofDigitChars_ten_toDigits] at digits

/-- The sets that a process is told of whose sockets are paired with their names. -/
theorem Paired.of_handOver {orders : SetOrders} {order : NamedSockets}
    (paired : Paired order
      (handOver orders owners name (request.map Prod.snd) (request.map Prod.fst) ∅))
    (perm : order.Perm (socketsOf owners name request).dedup) :
    ∃ activation sockets, (socketsForStart owners name (request.map Prod.snd)
        (request.map Prod.fst)).lookup (fullServiceName (ensureScopedName name)) = some activation ∧
      sockets ⊆ socketsOf owners name request ∧ Collects activation sockets ∧
      activation.fds.length = order.length ∧
      orders.ofNames activation.names = order.map Prod.fst ∧
      ∀ socket ∈ order, ':' ∉ socket.1.toList := by
  obtain ⟨text, named, split⟩ := paired.names "LISTEN_FDNAMES" List.mem_cons_self
  obtain ⟨activation, found, fds, names⟩ := of_lookup_activationEnvs List.mem_cons_self named
  obtain ⟨sockets, subset, collects⟩ := collects_of_lookup found
  obtain ⟨count, texts⟩ := lookup_activationEnvs orders found fds names ∅
  have plain (socket : Ustr × RawFd) (listed : socket ∈ order) : ':' ∉ socket.1.toList := by
    have piece : socket.1 ∈ Text.split ':' text := split ▸ List.mem_map_of_mem listed
    exact (Text.mem_of_mem_split piece).1
  have namesPerm := orders.namesPerm activation.names
  refine ⟨activation, sockets, found, subset, collects, ?_, ?_, plain⟩
  · exact toString_injective (Option.some.inj (count.symm.trans paired.count))
  · have same := Option.some.inj ((texts _ List.mem_cons_self).symm.trans named)
    rw [← split, ← same]
    apply (Text.split_intercalate ':' _ _).symm
    · intro none_
      rw [none_] at namesPerm
      exact names namesPerm.symm.eq_nil
    · intro name listed
      obtain ⟨socket, member, rfl⟩ := List.mem_map.mp
        ((collects.names name).mp (namesPerm.mem_iff.mp listed))
      exact plain socket (perm.mem_iff.mpr (List.mem_dedup.mpr (subset member)))

/-- Of two sockets or more, the names can come in another order than the descriptors. -/
theorem PairsNames.length_le_one (pairs : PairsNames owners name request) :
    (socketsOf owners name request).dedup.length ≤ 1 := by
  by_contra more
  obtain ⟨first, perm, paired⟩ := pairs ⟨id, id, fun _ => .refl _, fun _ => .refl _⟩ ∅
  obtain ⟨second, perm', paired'⟩ :=
    pairs ⟨id, List.reverse, fun _ => .refl _, List.reverse_perm⟩ ∅
  have long := perm.length_eq
  have long' := perm'.length_eq
  have paired := paired (by rintro rfl; simp at long; omega)
  have paired' := paired' (by rintro rfl; simp at long'; omega)
  obtain ⟨activation, sockets, found, subset, collects, count, names, -⟩ := paired.of_handOver perm
  obtain ⟨activation', -, found', -, -, -, names', -⟩ := paired'.of_handOver perm'
  cases found.symm.trans found'
  -- The two orders begin with different names and the same descriptor.
  have fdsNodup : ((socketsOf owners name request).dedup.map Prod.snd).Nodup := by
    have inside : activation.fds ⊆ (socketsOf owners name request).dedup.map Prod.snd := by
      intro fd listed
      obtain ⟨socket, member, rfl⟩ := List.mem_map.mp ((collects.fds fd).mp listed)
      exact List.mem_map_of_mem (List.mem_dedup.mpr (subset member))
    have subperm := List.subperm_of_subset collects.nodupFds inside
    have whole := subperm.perm_of_length_le (by rw [List.length_map, count, long])
    exact whole.nodup_iff.mp collects.nodupFds
  cases first with
  | nil =>
      rw [List.length_nil] at long
      omega
  | cons socket rest =>
      cases second with
      | nil =>
          rw [List.length_nil] at long'
          omega
      | cons socket' rest' =>
          have file : some socket.2 = some socket'.2 :=
            (paired.files 0 socket rfl).symm.trans (paired'.files 0 socket' rfl)
          have same : socket = socket' :=
            List.inj_on_of_nodup_map fdsNodup (perm.mem_iff.mp List.mem_cons_self)
              (perm'.mem_iff.mp List.mem_cons_self) (Option.some.inj file)
          have names : activation.names = socket.1 :: rest.map Prod.fst := names
          have names' : activation.names.reverse = socket'.1 :: rest'.map Prod.fst := names'
          have nodup := collects.nodupNames
          rw [names] at names' nodup
          rw [List.reverse_cons, ← same] at names'
          cases reversed : (rest.map Prod.fst).reverse with
          | nil =>
              have none_ := congrArg List.length reversed
              rw [List.length_reverse, List.length_map, List.length_nil] at none_
              rw [List.length_cons] at long
              omega
          | cons last others =>
              rw [reversed, List.cons_append] at names'
              have again : socket.1 ∈ rest.map Prod.fst := by
                rw [← List.mem_reverse, reversed, (List.cons.inj names').1]
                exact List.mem_cons_self
              exact (List.nodup_cons.mp nodup).1 again

theorem PairsNames.oneSocket (pairs : PairsNames owners name request) {socket : Ustr × RawFd}
    (only : (socketsOf owners name request).dedup = [socket]) :
    OneSocket owners name request socket := by
  obtain ⟨order, perm, paired⟩ := pairs ⟨id, id, fun _ => .refl _, fun _ => .refl _⟩ ∅
  obtain ⟨order', perm', paired'⟩ :=
    pairs ⟨List.reverse, id, List.reverse_perm, fun _ => .refl _⟩ ∅
  obtain rfl := List.perm_singleton.mp (only ▸ perm)
  obtain rfl := List.perm_singleton.mp (only ▸ perm')
  have paired := paired (List.cons_ne_nil _ _)
  have paired' := paired' (List.cons_ne_nil _ _)
  obtain ⟨activation, -, found, -, -, count, -, plain⟩ := paired.of_handOver perm
  refine ⟨only, plain socket List.mem_cons_self, ?_, ?_⟩
  · by_contra hidden
    rw [not_or, not_not] at hidden
    rw [lookup_socketsForStart, if_neg fun both => hidden.2 both.2] at found
    obtain ⟨sockets, listed, rfl⟩ := Option.map_eq_some_iff.mp found
    rw [listed, Option.getD_some] at hidden
    rw [hidden.1] at count
    cases count
  · have first := paired.files 0 socket rfl
    have last := paired'.files 0 socket rfl
    rw [files_three, preExecFds] at first last
    cases executor : (socketsForStart owners name (request.map Prod.snd)
        (request.map Prod.fst)).lookup (rslvnsSnorm (ensureScopedName name)) with
    | none =>
        rw [executor] at first
        cases first
    | some activation' =>
        rw [executor] at first last
        exact congrArg some (eq_singleton_of_head? (nodup_of_lookup executor) first last)

theorem OneSocket.paired {socket : Ustr × RawFd} (one : OneSocket owners name request socket)
    (orders : SetOrders) (envs : AList fun _ : Ustr => Ustr) : Paired [socket]
      (handOver orders owners name (request.map Prod.snd) (request.map Prod.fst) envs) := by
  have some_ : socketsOf owners name request ≠ [] := by
    intro none_
    have only := one.only
    rw [none_] at only
    cases only
  obtain ⟨activation, found, fds, names⟩ := lookup_of_found some_ one.found
  obtain ⟨sockets, subset, collects⟩ := collects_of_lookup found
  have same (other : Ustr × RawFd) (listed : other ∈ sockets) : other = socket := by
    have member := List.mem_dedup.mpr (subset listed)
    rw [one.only] at member
    exact List.mem_singleton.mp member
  have fds_eq : activation.fds = [socket.2] := by
    apply eq_singleton_of_forall collects.nodupFds fds
    intro fd listed
    obtain ⟨other, member, rfl⟩ := List.mem_map.mp ((collects.fds fd).mp listed)
    rw [same other member]
  have names_eq : activation.names = [socket.1] := by
    apply eq_singleton_of_forall collects.nodupNames names
    intro name listed
    obtain ⟨other, member, rfl⟩ := List.mem_map.mp ((collects.names name).mp listed)
    rw [same other member]
  obtain ⟨count, texts⟩ := lookup_activationEnvs orders found fds names envs
  constructor
  · rw [fds_eq] at count
    exact count
  · intro key listed
    refine ⟨_, texts key listed, ?_⟩
    rw [names_eq, List.perm_singleton.mp (orders.namesPerm [socket.1])]
    apply Text.split_intercalate ':' (List.cons_ne_nil _ _)
    intro name listed
    rw [List.mem_singleton.mp listed]
    exact one.plain
  · intro i other listed
    obtain ⟨rfl, rfl⟩ : i = 0 ∧ socket = other := by
      cases i with
      | zero => exact ⟨rfl, Option.some.inj listed⟩
      | succ i => cases listed
    rw [files_three, preExecFds]
    obtain ⟨activation', found', fds'⟩ := Option.map_eq_some_iff.mp one.executor
    rw [found']
    dsimp only
    rw [fds', List.perm_singleton.mp (orders.fdsPerm [socket.2])]
    rfl

/-- A process gets its sockets and their names in the same order, whatever the order of the
sets is, exactly where there is at most one socket, which is found and has a name without a
colon. -/
theorem pairsNames_iff (owners : AList fun _ : Ustr => NamedSockets) (name : Ustr)
    (request : NamedSockets) : PairsNames owners name request ↔
      socketsOf owners name request = [] ∨ ∃ socket, OneSocket owners name request socket := by
  constructor
  · intro pairs
    cases sockets : (socketsOf owners name request).dedup with
    | nil => exact .inl ((List.dedup_eq_nil _).mp sockets)
    | cons socket rest =>
        right
        have short := pairs.length_le_one
        rw [sockets, List.length_cons] at short
        have none_ : rest = [] := List.eq_nil_of_length_eq_zero (by omega)
        subst none_
        exact ⟨socket, pairs.oneSocket sockets⟩
  · rintro (none_ | ⟨socket, one⟩) orders envs
    · refine ⟨[], ?_, fun some_ => absurd rfl some_⟩
      rw [none_, List.dedup_nil]
    · exact ⟨[socket], .of_eq one.only.symm, fun _ => one.paired orders envs⟩

/-- Two sockets of a registry. -/
def frontSockets : AList fun _ : Ustr => NamedSockets :=
  AList.singleton "web:front" [("http", 7), ("https", 8)]

theorem not_pairsNames_frontSockets : ¬ PairsNames frontSockets "web:front" [] := by
  intro pairs
  exact absurd pairs.length_le_one (by decide +kernel)

end Rind
