import Rind.Services.Service

/-!
# Isolation

How a process is confined: the control group and the namespaces of its scope,
with the ones its service declares over them.
-/

namespace Rind

/-- The attributes of every scope. -/
abbrev ScopeAttributes : Type := AList fun _ : Ustr => AList fun _ : Ustr => String

namespace ScopeAttributes

def attrsForScope (scopes : ScopeAttributes) (scope : Ustr) : Option (AList fun _ : Ustr => String) :=
  scopes.lookup scope

def userForScope (scopes : ScopeAttributes) (scope : Ustr) : Option Ustr := do
  (← scopes.attrsForScope scope).lookup "user"

end ScopeAttributes

structure CapabilityPolicy where
  drop : List Ustr
  keep : List Ustr
  deriving DecidableEq, Repr

def CapabilityPolicy.isEmpty (caps : CapabilityPolicy) : Bool :=
  caps.drop.isEmpty && caps.keep.isEmpty

structure SeccompPolicy where
  profile : Option Ustr
  path : Option Ustr
  deriving DecidableEq, Repr

def SeccompPolicy.isEmpty (seccomp : SeccompPolicy) : Bool :=
  seccomp.profile.isNone && seccomp.path.isNone

structure ServiceIsolation where
  scope : Option Ustr
  cgroup : Option ServiceCgroup
  namespaces : Option ServiceNamespaces
  capabilities : Option CapabilityPolicy
  seccomp : Option SeccompPolicy
  deriving DecidableEq, Repr

/-- Whether the process runs under a supervisor of its own. -/
def ServiceIsolation.needsNamespaceSupervisor (isolation : ServiceIsolation) : Bool :=
  isolation.namespaces.any (fun ns => ns.pid || ns.user || ns.persist || ns.init) ||
    isolation.capabilities.isSome || isolation.seccomp.isSome

/-! ## Attributes of scopes -/

/-- The value of the first key that is set. -/
def attr (attrs : AList fun _ : Ustr => String) (keys : List Ustr) : Option String :=
  keys.findSome? attrs.lookup

def attrBool (attrs : AList fun _ : Ustr => String) (keys : List Ustr) : Option Bool := do
  let value := (Text.trim (← attr attrs keys)).toLower
  if value ∈ ["1", "true", "yes", "on"] then some true
  else if value ∈ ["0", "false", "no", "off"] then some false
  else none

/-- A policy that says something. -/
def unlessEmpty {α : Type} (isEmpty : α → Bool) (policy : α) : Option α :=
  if isEmpty policy then none else some policy

section Scopes

variable (scopes : ScopeAttributes) (scope : Option Ustr)

def scopeCgroup : Option ServiceCgroup := do
  let attrs ← scopes.attrsForScope (← scope)
  unlessEmpty ServiceCgroup.isEmpty {
    path := attr attrs ["cgroup.path"]
    memoryMax := attr attrs ["cgroup.memory-max", "cgroup.memory_max"]
    cpuMax := attr attrs ["cgroup.cpu-max", "cgroup.cpu_max"]
    pidsMax := attr attrs ["cgroup.pids-max", "cgroup.pids_max"] }

/-- The spellings of a namespace attribute. -/
def namespaceKeys (field : Ustr) : List Ustr :=
  ["namespace." ++ field, "namespaces." ++ field, "ns." ++ field]

def scopeNamespaces : Option ServiceNamespaces := do
  let attrs ← scopes.attrsForScope (← scope)
  let isSet := fun field => (attrBool attrs (namespaceKeys field)).getD false
  unlessEmpty ServiceNamespaces.isEmpty {
    mount := isSet "mount"
    uts := isSet "uts"
    ipc := isSet "ipc"
    net := isSet "net"
    pid := isSet "pid"
    user := isSet "user"
    cgroup := isSet "cgroup"
    mountPrivate := (attrBool attrs ["namespace.mount-private", "namespace.mount_private",
      "namespaces.mount-private", "namespaces.mount_private", "ns.mount-private",
      "ns.mount_private"]).getD false
    rootfs := attr attrs (namespaceKeys "rootfs")
    hostname := attr attrs (namespaceKeys "hostname")
    persist := isSet "persist"
    init := isSet "init" }

def splitAttrList (value : String) : List Ustr :=
  ((Text.split ',' value).map Text.trim).filter (· ≠ "")

def scopeCapabilities : Option CapabilityPolicy := do
  let attrs ← scopes.attrsForScope (← scope)
  let listed := fun keys => ((attr attrs keys).map splitAttrList).getD []
  unlessEmpty CapabilityPolicy.isEmpty {
    drop := listed ["capabilities.drop", "capability.drop", "caps.drop"]
    keep := listed ["capabilities.keep", "capability.keep", "caps.keep"] }

def scopeSeccomp : Option SeccompPolicy := do
  let attrs ← scopes.attrsForScope (← scope)
  unlessEmpty SeccompPolicy.isEmpty {
    profile := attr attrs ["seccomp.profile"]
    path := attr attrs ["seccomp.path"] }

end Scopes

/-! ## Merging -/

def mergeCgroup : (scope service : Option ServiceCgroup) → Option ServiceCgroup
  | none, none => none
  | some cgroup, none | none, some cgroup => some cgroup
  | some scope, some service => some {
      path := service.path <|> scope.path
      memoryMax := service.memoryMax <|> scope.memoryMax
      cpuMax := service.cpuMax <|> scope.cpuMax
      pidsMax := service.pidsMax <|> scope.pidsMax }

def mergeNamespaces : (scope service : Option ServiceNamespaces) → Option ServiceNamespaces
  | none, none => none
  | some ns, none | none, some ns => some ns
  | some scope, some service => some {
      mount := scope.mount || service.mount
      uts := scope.uts || service.uts
      ipc := scope.ipc || service.ipc
      net := scope.net || service.net
      pid := scope.pid || service.pid
      user := scope.user || service.user
      cgroup := scope.cgroup || service.cgroup
      mountPrivate := scope.mountPrivate || service.mountPrivate
      rootfs := service.rootfs <|> scope.rootfs
      hostname := service.hostname <|> scope.hostname
      persist := scope.persist || service.persist
      init := scope.init || service.init }

/-- The namespace features that only a scope may declare. -/
def scopeOnlyFeatures (ns : ServiceNamespaces) : List String :=
  (if ns.pid then ["pid"] else []) ++ (if ns.user then ["user"] else []) ++
    (if ns.persist then ["persist"] else []) ++ (if ns.init then ["init"] else [])

def validateServiceInlineNamespaces (metadata : ServiceMetadata) : Except CoreError Unit :=
  match metadata.namespaces with
  | none => .ok ()
  | some ns =>
      let invalid := scopeOnlyFeatures ns
      if invalid = [] then .ok ()
      else .error (.invalidState ("service '" ++ metadata.name ++
        "' declares scope-only namespace feature(s) inline: " ++ ", ".intercalate invalid ++
        "; put them on scope attributes instead"))

def isolationFor (scopes : ScopeAttributes) (metadata : ServiceMetadata) (scope : Option Ustr) :
    Except CoreError ServiceIsolation := do
  validateServiceInlineNamespaces metadata
  return {
    scope
    cgroup := mergeCgroup (scopeCgroup scopes scope) metadata.cgroup
    namespaces := mergeNamespaces (scopeNamespaces scopes scope) metadata.namespaces
    capabilities := scopeCapabilities scopes scope
    seccomp := scopeSeccomp scopes scope }

end Rind
