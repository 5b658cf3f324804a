import Rind.Services.Isolation

/-!
# Users of processes

The user a process is started as.
-/

namespace Rind

variable [SerdeJson]

/-- The text of a member of a payload. -/
def payloadFieldAsKey (payload : FlowPayload) (field : String) : Option Ustr :=
  (payload.getJsonField field).map fun value =>
    match value with
    | .str text => text
    | value => SerdeJson.toText value

/-- The users the search over a facet's branches collects: it ends with the
first one that some instance of the service does not run as. -/
def collectUsers (service : Service) (usernameField : String) (branches : List FlowInstance) :
    List Ustr :=
  ((branches.filterMap fun branch => payloadFieldAsKey branch.payload usernameField).find?
    fun user => service.instances.any fun inst => inst.user != some user).toList

/-- The only one of the collected users. -/
def onlyUser (users : List Ustr) (ambiguous : String) : Except CoreError (Option Ustr) :=
  match users with
  | [] => .ok none
  | [user] => .ok (some user)
  | _ => .error (.invalidState ambiguous)

def resolveUserFromSource (facets : Facets) (service : Service) (source : ServiceUserSource)
    (ctx : Option ServiceBranchContext) : Except CoreError (Option Ustr) :=
  let ofBranch := do payloadFieldAsKey (← (← ctx).payload) source.usernameField
  match ofBranch, source.branch with
  | some user, true => .ok (some user)
  | _, _ =>
      match source.facet with
      | none => .ok none
      | some facet =>
          let branches := facets.instances facet
          match source.matchBranchKey with
          | some field =>
              match ctx.bind (·.key) with
              | none => .ok none
              | some expected =>
                  let matching := branches.filter fun branch =>
                    payloadFieldAsKey branch.payload field == some expected
                  onlyUser (collectUsers service source.usernameField matching)
                    ("ambiguous users for state '" ++ facet ++ "' using match key '" ++ field ++
                      "'")
          | none =>
              onlyUser (collectUsers service source.usernameField branches)
                ("ambiguous users in state '" ++ facet ++
                  "' (set user-source.match-branch-key)")

/-- The user of the only session. -/
def sessionUser (facets : Facets) (service : Service) : Except CoreError (Option Ustr) :=
  onlyUser (collectUsers service "username" (facets.instances "rind:user_session"))
    ("service '" ++ service.metadata.name ++
      "' is userspace but username is ambiguous; configure \x60user-source\x60")

def resolveServiceUser (facets : Facets) (scopes : ScopeAttributes) (service : Service)
    (ctx : Option ServiceBranchContext) (scope : Option Ustr) : Except CoreError (Option Ustr) :=
  match ctx.bind (·.forcedUser) with
  | some user => .ok (some user)
  | none =>
      match service.metadata.space with
      | .system => .ok none
      | .userSelective user => .ok (some user)
      | .user =>
          match scope.bind scopes.userForScope with
          | some user => .ok (some user)
          | none => do
              let ofSource ← match service.metadata.userSource with
                | some source => resolveUserFromSource facets service source ctx
                | none => .ok none
              match ofSource, ctx.bind (·.key) with
              | some user, _ => .ok (some user)
              | none, some key => .ok (some key)
              | none, none => sessionUser facets service

def resolveScopeDefaultUser (scopes : ScopeAttributes) (service : Service) (scope : Option Ustr) :
    Option Ustr :=
  match service.metadata.space with
  | .system => scope.bind scopes.userForScope
  | _ => none

/-- The user of a process: its scope's for a system service, else the one its
service resolves. -/
def resolveUser (facets : Facets) (scopes : ScopeAttributes) (service : Service)
    (ctx : Option ServiceBranchContext) (scope : Option Ustr) : Except CoreError (Option Ustr) :=
  match resolveScopeDefaultUser scopes service scope with
  | some user => .ok (some user)
  | none => resolveServiceUser facets scopes service ctx scope

/-! ## What the user depends on -/

theorem collectUsers_congr {service other : Service}
    (users : service.instances.map ChildInstance.user = other.instances.map ChildInstance.user)
    (field : String) (branches : List FlowInstance) :
    collectUsers service field branches = collectUsers other field branches := by
  have same : ∀ user : Ustr, (service.instances.any fun inst => inst.user != some user) =
      other.instances.any fun inst => inst.user != some user := by
    intro user
    have mapped : ∀ insts : List ChildInstance, (insts.any fun inst => inst.user != some user) =
        (insts.map ChildInstance.user).any (· != some user) := by
      intro insts
      rw [List.any_map]
      rfl
    rw [mapped, mapped, users]
  simp only [collectUsers, same]

/-- Of the instances of the service only their users count. -/
theorem resolveUser_congr {service other : Service}
    (metadata : service.metadata = other.metadata)
    (users : service.instances.map ChildInstance.user = other.instances.map ChildInstance.user)
    (facets : Facets) (scopes : ScopeAttributes) (ctx : Option ServiceBranchContext)
    (scope : Option Ustr) :
    resolveUser facets scopes service ctx scope = resolveUser facets scopes other ctx scope := by
  simp only [resolveUser, resolveScopeDefaultUser, resolveServiceUser, resolveUserFromSource,
    sessionUser, collectUsers_congr users, metadata]

end Rind
