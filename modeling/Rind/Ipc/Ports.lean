import Rind.Ipc.Daemon

/-!
# Ports

The ports that processes listen on, as they are found in `/proc`.  The texts are cut at
fixed places, which are there in every text that gets so far.
-/

namespace Rind.Ipc

/-! ## Texts -/

/-- A part of a text, which has to be within it. -/
def slice (text : String) (start stop : Nat) : Option String :=
  if start ≤ stop ∧ stop ≤ text.length then
    some (String.ofList ((text.toList.take stop).drop start))
  else none

def hexDigit (c : Char) : Option Nat :=
  if c.isDigit then some (c.toNat - '0'.toNat)
  else if 'a' ≤ c ∧ c ≤ 'f' then some (c.toNat - 'a'.toNat + 10)
  else if 'A' ≤ c ∧ c ≤ 'F' then some (c.toNat - 'A'.toNat + 10)
  else none

/-- An unsigned hexadecimal number below a bound. -/
def parseHex (bound : Nat) (text : String) : Option Nat :=
  let digits := if Text.startsWith text "+" then text.toList.tail else text.toList
  if digits.isEmpty then none
  else
    ((digits.mapM hexDigit).map (·.foldl (fun value digit => 16 * value + digit) 0)).filter
      (· < bound)

/-- The address that the digits stand for, in the order of a little-endian host. -/
def ipText (address : Nat) : String :=
  ".".intercalate ((List.range 4).map fun place => toString (address / 256 ^ place % 256))

/-- `parse_ip_port` -/
def parseIpPort (text : String) : Option (String × Nat) :=
  match Text.split ':' text with
  | ip :: port :: _ => do
      let ip ← parseHex (2 ^ 32) ip
      let port ← parseHex (2 ^ 16) port
      some (ipText ip, port)
  | _ => none

/-! ## Processes -/

/-- The number of the socket that a descriptor refers to, if it refers to one. -/
def socketInode (target : String) : Option (Option Nat) :=
  if Text.startsWith target "socket:[" && Text.endsWith target "]" then
    (slice target 8 (target.length - 1)).map (Text.parseUnsigned (2 ^ 64))
  else some none

/-- The sockets of a process, with its id and its command. -/
def processSockets (process : ProcessEntry) : Option (List (Nat × Nat × String)) :=
  match Text.parseUnsigned (2 ^ 32) process.directory, process.descriptors with
  | some pid, some targets =>
      (targets.mapM socketInode).map fun inodes =>
        inodes.filterMap id |>.map fun inode =>
          (inode, pid, Text.trim (process.comm.getD "unknown"))
  | _, _ => some []

/-- The process of each socket. The one that is found last counts. -/
def inodeToPid (sockets : List (Nat × Nat × String)) : AList fun _ : Nat => Nat × String :=
  Maps.insertAll (fun entry => entry.1) (fun entry => entry.2) sockets ∅

/-! ## Lines -/

def tcpState (parts : List String) : Option String :=
  parts[3]?.map fun state =>
    match (parseHex 256 state).getD 0 with
    | 1 => "ESTABLISHED"
    | 10 => "LISTEN"
    | _ => "UNKNOWN"

/-- The port of a line with enough words, `none` in the inner place where it has none. -/
def portOfLine (protocol : String) (least : Nat) (stateOf : List String → Option String)
    (owners : AList fun _ : Nat => Nat × String) (line : String) :
    Option (Option PortStateSerialized) :=
  let parts := Text.splitWhitespace line
  if parts.length < least then some none
  else
    parts[1]?.bind fun address =>
      match parseIpPort address with
      | none => some none
      | some (ip, port) =>
          (stateOf parts).map fun state =>
            let owner := (parts[9]?.bind (Text.parseUnsigned (2 ^ 64))).bind owners.lookup
            some { protocol, localAddress := ip, localPort := port, state
                   pid := owner.map (·.1), process := owner.map (·.2) }

/-- The ports of a file, whose first line is a heading. -/
def portsOfFile (protocol : String) (least : Nat) (stateOf : List String → Option String)
    (owners : AList fun _ : Nat => Nat × String) (file : Option String) :
    Option (List PortStateSerialized) :=
  (((Text.lines (file.getD "")).drop 1).mapM (portOfLine protocol least stateOf owners)).map
    (·.filterMap id)

def getPorts (proc : ProcFs) : Option (List PortStateSerialized) := do
  let sockets ← (proc.processes.getD []).mapM processSockets
  let owners := inodeToPid sockets.flatten
  let tcp ← portsOfFile "tcp" 4 tcpState owners proc.tcp
  let udp ← portsOfFile "udp" 10 (fun _ => some "UNCONN") owners proc.udp
  some (tcp ++ udp)

/-! ## Every cut is within its text -/

/-- A list of steps that all succeed. -/
theorem mapM_isSome {α β : Type} {step : α → Option β} (every : ∀ item, (step item).isSome)
    (items : List α) : (items.mapM step).isSome := by
  induction items with
  | nil => rfl
  | cons item rest ih =>
      obtain ⟨first, stepped⟩ := Option.isSome_iff_exists.mp (every item)
      obtain ⟨others, mapped⟩ := Option.isSome_iff_exists.mp ih
      simp [List.mapM_cons, stepped, mapped]

/-- A text that begins and ends like a socket has something in between, or nothing. -/
theorem socketInode_isSome (target : String) : (socketInode target).isSome := by
  rw [socketInode]
  split
  · next framed =>
      rw [Bool.and_eq_true] at framed
      obtain ⟨rest, whole⟩ := List.isPrefixOf_iff_prefix.mp framed.1
      have ends : "]".toList <:+ target.toList := of_decide_eq_true framed.2
      have long : 8 ≤ target.length - 1 := by
        rw [← String.length_toList, ← whole, List.length_append]
        cases rest with
        | nil =>
            rw [← whole] at ends
            exact absurd ends (by decide)
        | cons first rest =>
            simp only [List.length_cons]
            change 8 ≤ 8 + (rest.length + 1) - 1
            omega
      rw [slice, if_pos ⟨long, Nat.sub_le _ _⟩]
      rfl
  · rfl

theorem processSockets_isSome (process : ProcessEntry) : (processSockets process).isSome := by
  rw [processSockets]
  split
  · rw [Option.isSome_map]
    exact mapM_isSome socketInode_isSome _
  · rfl

theorem portsOfFile_isSome (protocol : String) {least : Nat}
    (stateOf : List String → Option String) (one : 1 < least)
    (known : ∀ parts : List String, least ≤ parts.length → (stateOf parts).isSome)
    (owners : AList fun _ : Nat => Nat × String) (file : Option String) :
    (portsOfFile protocol least stateOf owners file).isSome := by
  rw [portsOfFile, Option.isSome_map]
  apply mapM_isSome
  intro line
  rw [portOfLine]
  dsimp only
  split
  · rfl
  · next long =>
      rw [Nat.not_lt] at long
      rw [List.getElem?_eq_getElem (one.trans_le long), Option.bind_some]
      split
      · rfl
      · rw [Option.isSome_map]
        exact known _ long

/-- The ports can always be listed. -/
theorem getPorts_isSome (proc : ProcFs) : (getPorts proc).isSome := by
  obtain ⟨sockets, found⟩ :=
    Option.isSome_iff_exists.mp (mapM_isSome processSockets_isSome (proc.processes.getD []))
  have states : ∀ parts : List String, 4 ≤ parts.length → (tcpState parts).isSome := by
    intro parts long
    rw [tcpState, Option.isSome_map, List.getElem?_eq_getElem long]
    rfl
  obtain ⟨tcp, listed⟩ := Option.isSome_iff_exists.mp
    (portsOfFile_isSome "tcp" tcpState (by decide) states (inodeToPid sockets.flatten) proc.tcp)
  obtain ⟨udp, listed'⟩ := Option.isSome_iff_exists.mp
    (portsOfFile_isSome "udp" (fun _ => some "UNCONN") (by decide : 1 < 10) (fun _ _ => rfl)
      (inodeToPid sockets.flatten) proc.udp)
  simp [getPorts, found, listed, listed']

end Rind.Ipc
