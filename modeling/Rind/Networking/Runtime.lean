import Rind.Core.Error
import Rind.Core.UserStore
import Rind.Ipc.Daemon
import Rind.Prog.Checks
import Rind.Services.Performing

/-!
# The networking runtime

A scan reads the wired interfaces and compares them with those of the scan before,
and reconciling configures interfaces, renews their leases and gives up those that
are offline.  Both keep their own tables and mirror them into facets by actions of
the flow runtime.  What the system answers is a part of the input.
-/

namespace Rind.Networking

open Prog

def networkingInterfaceState : Ustr := "net:interface!"

def networkingOnlineState : Ustr := "net:online!"

def networkingConfiguredState : Ustr := "net:configured!"

def networkingDnsReadyState : Ustr := "net:dns_ready!"

/-! ## Addresses -/

structure Ipv4Addr where
  a : UInt8
  b : UInt8
  c : UInt8
  d : UInt8
  deriving DecidableEq, Repr

namespace Ipv4Addr

def octets (addr : Ipv4Addr) : List UInt8 := [addr.a, addr.b, addr.c, addr.d]

def toText (addr : Ipv4Addr) : String :=
  ".".intercalate (addr.octets.map fun octet => toString octet.toNat)

/-- A number of at most three digits, without a leading zero. -/
def parseOctet (text : String) : Option UInt8 :=
  match Text.parseDigits text.toList with
  | none => none
  | some value =>
      if text.toList.length ≤ 3 ∧ value < 256 ∧
          (text.toList.head? = some '0' → text.toList.length = 1) then
        some (UInt8.ofNat value)
      else none

def parse (text : String) : Option Ipv4Addr :=
  match (Text.split '.' text).mapM parseOctet with
  | some [a, b, c, d] => some ⟨a, b, c, d⟩
  | _ => none

def countOnes (addr : Ipv4Addr) : Nat :=
  (addr.octets.map fun octet => ((List.range 8).filter octet.toNat.testBit).length).sum

end Ipv4Addr

def parseCidr (cidr : String) : Option (Ipv4Addr × Nat) := do
  let (ipText, prefixText) ← Text.splitOnce '/' cidr
  let ip ← Ipv4Addr.parse ipText
  let length ← Text.parseUnsigned 256 prefixText
  if 32 < length then none else some (ip, length)

/-- `u8::from_str_radix` for the base 16, which reads a plus sign. -/
def parseHexByte (text : String) : Option UInt8 :=
  let digits := match text.toList with
    | '+' :: rest => rest
    | digits => digits
  match digits.mapM Json.hexValue with
  | none | some [] => none
  | some values =>
      let value := values.foldl (fun value digit => 16 * value + digit) 0
      if value < 256 then some (UInt8.ofNat value) else none

def parseMac (mac : String) : Option (List UInt8) :=
  let parts := Text.split ':' mac
  if parts.length ≠ 6 then none else parts.mapM parseHexByte

/-! ## Interfaces -/

structure WiredInterfaceState where
  name : Ustr
  kind : String
  operstate : String
  carrier : Bool
  mtu : Option UInt32
  mac : Option String
  deriving DecidableEq, Repr

namespace WiredInterfaceState

def isOnline (interface : WiredInterfaceState) : Bool :=
  interface.carrier || interface.operstate == "up"

/-- The members that an interface is serialised with. -/
def fields (interface : WiredInterfaceState) : Members :=
  [("carrier", .bool interface.carrier),
   ("kind", .str interface.kind),
   ("mac", (interface.mac.map Json.str).getD .null),
   ("mtu", (interface.mtu.map fun mtu => Json.num (.int mtu.toNat)).getD .null),
   ("name", .str interface.name),
   ("operstate", .str interface.operstate)]

end WiredInterfaceState

/-- A directory below `/sys/class/net`, and the contents of its files. -/
structure SysfsEntry where
  name : Ustr
  wireless : Bool
  device : Bool
  type : Option String
  operstate : Option String
  carrier : Option String
  mtu : Option String
  address : Option String
  deriving DecidableEq, Repr

def readTrimmed (file : Option String) : Option String := (file.map Text.trim).filter (· ≠ "")

def isWiredInterface (entry : SysfsEntry) : Bool :=
  if entry.name = "lo" then false
  else if entry.wireless then false
  else if (readTrimmed entry.type).any (· ≠ "1") then false
  else Text.startsWith entry.name "en" || Text.startsWith entry.name "eth" || entry.device

/-- The interface of a directory. -/
def SysfsEntry.state (entry : SysfsEntry) : WiredInterfaceState where
  name := entry.name
  kind := "wired"
  operstate := (readTrimmed entry.operstate).getD "unknown"
  carrier := (readTrimmed entry.carrier).any (· = "1")
  mtu := (readTrimmed entry.mtu).bind parseU32
  mac := readTrimmed entry.address

abbrev Interfaces : Type := AList fun _ : Ustr => WiredInterfaceState

/-- The wired interfaces, none where the directory cannot be read. -/
def collectWiredInterfaces (root : Option (List SysfsEntry)) : Interfaces :=
  (root.getD []).foldl
    (fun interfaces entry =>
      if isWiredInterface entry then interfaces.insert entry.name entry.state else interfaces)
    ∅

/-! ## State -/

structure DhcpLease where
  ip : Ipv4Addr
  subnetMask : Ipv4Addr
  gateway : Option Ipv4Addr
  dnsServers : List Ipv4Addr
  leaseTime : UInt32
  obtained : Nat
  deriving DecidableEq, Repr

/-- Half of the lease, in milliseconds, is over. -/
def DhcpLease.needsRenewal (now : Nat) (lease : DhcpLease) : Bool :=
  decide ((lease.leaseTime.toNat / 2) * 1000 < now - lease.obtained)

def DhcpLease.prefixLen (lease : DhcpLease) : Nat := lease.subnetMask.countOnes

structure InterfaceRuntimeState where
  ip : Option Ipv4Addr
  gateway : Option Ipv4Addr
  dnsServers : List Ipv4Addr
  dhcpLease : Option DhcpLease
  lastConfigureAttempt : Option Nat
  deriving DecidableEq, Repr

def InterfaceRuntimeState.default : InterfaceRuntimeState := ⟨none, none, [], none, none⟩

/-- The tables of the runtime. Times are in milliseconds. -/
structure NetworkingRuntime where
  lastInterfaces : Interfaces
  online : Bool
  lastScan : Option Nat
  interfaceStates : AList fun _ : Ustr => InterfaceRuntimeState
  dnsWritten : Bool
  configuredInterfaces : List Ustr

def NetworkingRuntime.default : NetworkingRuntime := ⟨∅, false, none, ∅, false, []⟩

/-- The runtime, and the actions that it has dispatched. -/
structure NetworkingState where
  runtime : NetworkingRuntime
  dispatched : List Dispatched

abbrev NetworkingProg : Type → Type := Prog NetworkingState CoreError

def scanInterval : Nat := 1000

def update (change : NetworkingRuntime → NetworkingRuntime) : NetworkingProg Unit :=
  Prog.change fun state => { state with runtime := change state.runtime }

def dispatch (action : Dispatched) : NetworkingProg Unit :=
  Prog.change fun state => { state with dispatched := state.dispatched ++ [action] }

/-- The filter that branches of a name are removed with. -/
def nameFilter (name : Ustr) : Json := .obj [("as", .obj [("name", .str name)])]

/-! ## Scanning -/

def someOnline (interfaces : Interfaces) : Bool :=
  interfaces.entries.any fun entry => entry.2.isOnline

/-- The interfaces that are new or have changed are set. -/
def changedActions (runtime : NetworkingRuntime) (interfaces : Interfaces) : List Dispatched :=
  interfaces.entries.filterMap fun entry =>
    if runtime.lastInterfaces.lookup entry.1 = some entry.2 then none
    else some (.setFacet networkingInterfaceState (some (.obj entry.2.fields)))

/-- The interfaces that are gone are removed. -/
def goneActions (runtime : NetworkingRuntime) (interfaces : Interfaces) : List Dispatched :=
  runtime.lastInterfaces.keys.filterMap fun name =>
    if name ∈ interfaces then none
    else some (.removeFacet networkingInterfaceState (some (nameFilter name)))

def flagActions (runtime : NetworkingRuntime) (interfaces : Interfaces) : List Dispatched :=
  if someOnline interfaces = runtime.online then []
  else if someOnline interfaces then [.setFacet networkingOnlineState none]
  else [.removeFacet networkingOnlineState none]

def scanActions (runtime : NetworkingRuntime) (interfaces : Interfaces) : List Dispatched :=
  changedActions runtime interfaces ++ goneActions runtime interfaces ++
    flagActions runtime interfaces

/-- The last scan was a short time ago. -/
def NetworkingRuntime.scanned (runtime : NetworkingRuntime) (now : Nat) : Bool :=
  runtime.lastScan.any fun last => decide (now - last < scanInterval)

def scanAndSync (now : Nat) (root : Option (List SysfsEntry)) : NetworkingProg Unit := do
  let scanned ← read fun state => state.runtime.scanned now
  if scanned then pure () else do
  update fun runtime => { runtime with lastScan := some now }
  let interfaces := collectWiredInterfaces root
  let actions ← read fun state => scanActions state.runtime interfaces
  each actions dispatch
  update fun runtime =>
    { runtime with lastInterfaces := interfaces, online := someOnline interfaces }

/-! ## Configuring -/

/-- The definition of a network. Its routes are left out. -/
structure NetworkConfigMetadata extends Ipc.NetworkConfigMetadata where
  address : Option Ustr
  gateway : Option Ustr
  dns : Option (List Ustr)
  deriving DecidableEq, Repr

/-- What the system answers when an interface is configured. -/
structure Attempt where
  now : Nat
  present : Bool
  dhcpRequest : Except CoreError DhcpLease
  bringInterfaceUp : Except CoreError Unit

def configuredFields (iface : Ustr) (ip : String) (length : Nat) (gateway : Option Ipv4Addr) :
    Members :=
  [("gateway", .str ((gateway.map Ipv4Addr.toText).getD "")),
   ("ip", .str (ip ++ "/" ++ toString length)),
   ("name", .str iface)]

/-- Change what is known of an interface. -/
def updateInterface (iface : Ustr) (change : InterfaceRuntimeState → InterfaceRuntimeState) :
    NetworkingProg Unit :=
  update fun runtime => { runtime with
    interfaceStates := runtime.interfaceStates.insert iface
      (change ((runtime.interfaceStates.lookup iface).getD .default)) }

def writeDns (dnsServers : List Ipv4Addr) : NetworkingProg Unit :=
  if dnsServers = [] then pure () else do
  update fun runtime => { runtime with dnsWritten := true }
  dispatch (.setFacet networkingDnsReadyState none)

def addConfigured (iface : Ustr) : NetworkingProg Unit :=
  update fun runtime => { runtime with
    configuredInterfaces :=
      if iface ∈ runtime.configuredInterfaces then runtime.configuredInterfaces
      else runtime.configuredInterfaces ++ [iface] }

def applyLease (attempt : Attempt) (iface : Ustr) (lease : DhcpLease) : NetworkingProg Unit := do
  ofExcept attempt.bringInterfaceUp
  writeDns lease.dnsServers
  dispatch (.setFacet networkingConfiguredState
    (some (.obj (configuredFields iface lease.ip.toText lease.prefixLen lease.gateway))))
  addConfigured iface

def configureDhcp (attempt : Attempt) (iface : Ustr) : NetworkingProg Unit := do
  match ← read fun state => (state.runtime.lastInterfaces.lookup iface).bind (·.mac) with
  | none => fail (.invalidState "Mac address for \x7biface\x7d not supplied")
  | some mac =>
      match parseMac mac with
      | none => fail (.invalidState
          "Mac address '\x7bmac\x7d' for \x7biface\x7d could not be parsed")
      | some _ =>
          match attempt.dhcpRequest with
          | .error _ => pure ()
          | .ok lease => do
              applyLease attempt iface lease
              updateInterface iface fun state => { state with
                ip := some lease.ip
                gateway := lease.gateway
                dnsServers := lease.dnsServers
                dhcpLease := some lease }

def configureStatic (attempt : Attempt) (iface : Ustr) (cfg : NetworkConfigMetadata) :
    NetworkingProg Unit :=
  match cfg.address with
  | none => pure ()
  | some address =>
      match parseCidr address with
      | none => fail (.invalidState ("invalid CIDR address: " ++ address))
      | some (ip, length) => do
          let gateway := cfg.gateway.bind Ipv4Addr.parse
          let dnsServers := (cfg.dns.getD []).filterMap Ipv4Addr.parse
          ofExcept attempt.bringInterfaceUp
          writeDns dnsServers
          dispatch (.setFacet networkingConfiguredState
            (some (.obj (configuredFields iface ip.toText length gateway))))
          updateInterface iface fun state => { state with
            ip := some ip
            gateway := gateway
            dnsServers := dnsServers }
          addConfigured iface

/-- The interface was tried less than five seconds ago. -/
def NetworkingRuntime.tried (runtime : NetworkingRuntime) (iface : Ustr) (now : Nat) : Bool :=
  ((runtime.interfaceStates.lookup iface).bind (·.lastConfigureAttempt)).any fun last =>
    decide (now - last < 5000)

def configureOne (cfg : NetworkConfigMetadata) (attempt : Attempt) : NetworkingProg Unit := do
  let skipped ← read fun state =>
    decide (cfg.name ∈ state.runtime.configuredInterfaces) || !attempt.present ||
      state.runtime.tried cfg.name attempt.now
  if skipped then pure () else do
  updateInterface cfg.name fun state => { state with lastConfigureAttempt := some attempt.now }
  match cfg.method with
  | .dhcp => configureDhcp attempt cfg.name
  | .static => configureStatic attempt cfg.name cfg
  | .none => pure ()

/-- Configure the networks that are defined. -/
def configure (configs : List (NetworkConfigMetadata × Attempt)) : NetworkingProg Unit :=
  each configs fun config => configureOne config.1 config.2

/-! ## Reconciling -/

def NetworkingRuntime.needingRenewal (runtime : NetworkingRuntime) (now : Nat) : List Ustr :=
  runtime.interfaceStates.entries.filterMap fun entry =>
    (entry.2.dhcpLease.filter (·.needsRenewal now)).map fun _ => entry.1

def NetworkingRuntime.stillOnline (runtime : NetworkingRuntime) (iface : Ustr) : Bool :=
  (runtime.lastInterfaces.lookup iface).any (·.isOnline)

/-- Give up an interface that is offline. -/
def checkConfigured (iface : Ustr) : NetworkingProg Unit := do
  let stillOnline ← read fun state => state.runtime.stillOnline iface
  if stillOnline then pure () else do
  dispatch (.removeFacet networkingConfiguredState (some (nameFilter iface)))
  update fun runtime => { runtime with
    configuredInterfaces := runtime.configuredInterfaces.filter (· ≠ iface)
    interfaceStates := runtime.interfaceStates.erase iface }

def reconcile (now : Nat) (configs : List (NetworkConfigMetadata × Attempt))
    (renewal : Ustr → Attempt) : NetworkingProg Unit := do
  let unconfigured ← read fun state =>
    state.runtime.configuredInterfaces.isEmpty && state.runtime.online
  if unconfigured then configure configs else do
  let needing ← read fun state => state.runtime.needingRenewal now
  each needing fun iface => configureDhcp (renewal iface) iface
  let configured ← read fun state => state.runtime.configuredInterfaces
  each configured checkConfigured

end Rind.Networking
