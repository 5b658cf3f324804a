import Rind.Services.Steps
import Mathlib.Data.List.Dedup

/-!
# Candidate users

The user a service of user space should run as: the one its start or its scope
names, or the only one that its source facet or the sessions hold.  The search
for that user looks at the instances of the service, and does not find it where
all of them run as the user already, or where there are none.
-/

namespace Rind

/-- Who a process of user space is to run as. -/
inductive Candidate where
  /-- The start, the scope or the branch names the user. -/
  | named (user : Ustr)
  /-- The branches of a facet hold one user. -/
  | listed (user : Ustr)
  /-- They hold several. -/
  | ambiguous (text : String)
  | nobody
  deriving DecidableEq, Repr

namespace Candidate

/-- The only user of a list. -/
def sole (users : List Ustr) (text : String) : Candidate :=
  match users.dedup with
  | [] => nobody
  | [user] => listed user
  | _ => ambiguous text

def orElse (first second : Candidate) : Candidate :=
  match first with
  | nobody => second
  | first => first

def ofOption (user : Option Ustr) : Candidate := (user.map named).getD nobody

end Candidate

section Candidates

variable [SerdeJson]

/-- The users of the branches that the source of a service's user selects. -/
def sourceUsers (facets : Facets) (source : ServiceUserSource)
    (ctx : Option ServiceBranchContext) : List Ustr :=
  match source.facet with
  | none => []
  | some facet =>
      let branches := facets.instances facet
      let selected :=
        match source.matchBranchKey, ctx.bind (·.key) with
        | none, _ => branches
        | some _, none => []
        | some field, some key =>
            branches.filter fun branch => payloadFieldAsKey branch.payload field == some key
      selected.filterMap fun branch => payloadFieldAsKey branch.payload source.usernameField

/-- The user a branch start hands over with its payload. -/
def payloadUser (source : ServiceUserSource) (ctx : Option ServiceBranchContext) : Option Ustr :=
  if source.branch then do payloadFieldAsKey (← (← ctx).payload) source.usernameField else none

def sourceAmbiguity (source : ServiceUserSource) : String :=
  match source.matchBranchKey with
  | some field =>
      "ambiguous users for state '" ++ source.facet.getD "" ++ "' using match key '" ++ field ++ "'"
  | none =>
      "ambiguous users in state '" ++ source.facet.getD "" ++
        "' (set user-source.match-branch-key)"

/-- The candidate of a service's user source. -/
def sourceCandidate (facets : Facets) (service : Service) (ctx : Option ServiceBranchContext) :
    Candidate :=
  match service.metadata.userSource with
  | none => .nobody
  | some source =>
      (Candidate.ofOption (payloadUser source ctx)).orElse
        (.sole (sourceUsers facets source ctx) (sourceAmbiguity source))

/-- The users with a session. -/
def sessionUsers (facets : Facets) : List Ustr :=
  (facets.instances "rind:user_session").filterMap fun branch =>
    payloadFieldAsKey branch.payload "username"

def sessionAmbiguity (service : Service) : String :=
  "service '" ++ service.metadata.name ++
    "' is userspace but username is ambiguous; configure \x60user-source\x60"

/-- Who a process of a service in user space is to run as. -/
def candidateUser (facets : Facets) (scopes : ScopeAttributes) (service : Service)
    (ctx : Option ServiceBranchContext) (scope : Option Ustr) : Candidate :=
  (Candidate.ofOption (ctx.bind (·.forcedUser))).orElse <|
    (Candidate.ofOption (scope.bind scopes.userForScope)).orElse <|
      (sourceCandidate facets service ctx).orElse <|
        (Candidate.ofOption (ctx.bind (·.key))).orElse <|
          .sole (sessionUsers facets) (sessionAmbiguity service)

/-- The scope a registry key ends with. -/
def scopeOf (registryKey : Ustr) : Option Ustr := (Text.rsplitOnce '@' registryKey).map Prod.snd

/-- Every spawn runs the process as the candidate or fails, with the error of the
ambiguity where there are several, and fails where there is none. -/
def SpawnsAsCandidate (env : ServiceEnv) (service : Service) (ctx : Option ServiceBranchContext)
    (registryKey : Ustr) : Prop :=
  ∀ run answer host,
    match candidateUser env.facets env.scopes service ctx (scopeOf registryKey) with
    | .named user | .listed user => ∀ inst final,
        spawnProcess env service ctx registryKey run answer host = (.ok inst, final) →
          inst.user = some user
    | .ambiguous text =>
        spawnProcess env service ctx registryKey run answer host =
          (.error (.invalidState text), host)
    | .nobody => ∃ error,
        spawnProcess env service ctx registryKey run answer host = (.error error, host)

/-- Where the search finds the candidate: it is named, or some instance of the
service runs as somebody else. A user that the branch is named after needs no
search. -/
def CandidateFound (facets : Facets) (scopes : ScopeAttributes) (service : Service)
    (ctx : Option ServiceBranchContext) (scope : Option Ustr) : Prop :=
  match candidateUser facets scopes service ctx scope with
  | .named _ => True
  | .listed user =>
      (∃ inst ∈ service.instances, inst.user ≠ some user) ∨ ctx.bind (·.key) = some user
  | .ambiguous _ | .nobody => False

/-! ## The search -/

/-- Whether some instance of a service runs as somebody else. -/
def Service.runsElsewhere (service : Service) (user : Ustr) : Bool :=
  service.instances.any fun inst => inst.user != some user

omit [SerdeJson] in
theorem Service.runsElsewhere_iff {service : Service} {user : Ustr} :
    service.runsElsewhere user = true ↔ ∃ inst ∈ service.instances, inst.user ≠ some user := by
  simp [runsElsewhere]

/-- The search never meets two users. -/
theorem onlyUser_collectUsers (service : Service) (field : String) (branches : List FlowInstance)
    (text : String) :
    onlyUser (collectUsers service field branches) text =
      .ok ((branches.filterMap fun branch => payloadFieldAsKey branch.payload field).find?
        service.runsElsewhere) := by
  have collected : collectUsers service field branches =
      ((branches.filterMap fun branch => payloadFieldAsKey branch.payload field).find?
        service.runsElsewhere).toList := rfl
  rw [collected]
  cases (branches.filterMap fun branch => payloadFieldAsKey branch.payload field).find?
    service.runsElsewhere <;> rfl

theorem resolveUserFromSource_eq (facets : Facets) (service : Service)
    (source : ServiceUserSource) (ctx : Option ServiceBranchContext) :
    resolveUserFromSource facets service source ctx =
      .ok ((payloadUser source ctx).or
        ((sourceUsers facets source ctx).find? service.runsElsewhere)) := by
  simp only [resolveUserFromSource, payloadUser, sourceUsers]
  split
  · next user found direct =>
      rw [if_pos direct, found, Option.some_or]
  · next indirect =>
      have unnamed : (if source.branch = true then (do
          payloadFieldAsKey (← (← ctx).payload) source.usernameField) else none) = none := by
        cases branch : source.branch with
        | false => rfl
        | true =>
            rw [if_pos rfl]
            refine Option.eq_none_iff_forall_ne_some.mpr fun user found => ?_
            exact indirect user found branch
      rw [unnamed, Option.none_or]
      cases source.facet with
      | none => rfl
      | some facet =>
          cases source.matchBranchKey with
          | none => exact onlyUser_collectUsers _ _ _ _
          | some field =>
              cases ctx.bind (·.key) with
              | none => rfl
              | some key => exact onlyUser_collectUsers _ _ _ _

/-- The user the runtime finds for a service of user space, if any. -/
def foundUser (facets : Facets) (scopes : ScopeAttributes) (service : Service)
    (ctx : Option ServiceBranchContext) (scope : Option Ustr) : Option Ustr :=
  (ctx.bind (·.forcedUser)).or <|
    (scope.bind scopes.userForScope).or <|
      (service.metadata.userSource.bind fun source =>
        (payloadUser source ctx).or
          ((sourceUsers facets source ctx).find? service.runsElsewhere)).or <|
        (ctx.bind (·.key)).or ((sessionUsers facets).find? service.runsElsewhere)

theorem resolveUser_userSpace {facets : Facets} {scopes : ScopeAttributes} {service : Service}
    (space : service.metadata.space = .user) (ctx : Option ServiceBranchContext)
    (scope : Option Ustr) :
    resolveUser facets scopes service ctx scope =
      .ok (foundUser facets scopes service ctx scope) := by
  have sessions : sessionUser facets service =
      .ok ((sessionUsers facets).find? service.runsElsewhere) := onlyUser_collectUsers _ _ _ _
  simp only [resolveUser, resolveScopeDefaultUser, resolveServiceUser, space, foundUser]
  cases ctx.bind (·.forcedUser) with
  | some user => rfl
  | none =>
      cases scope.bind scopes.userForScope with
      | some user => rfl
      | none =>
          cases service.metadata.userSource with
          | none =>
              cases key : ctx.bind (·.key) with
              | some key => rfl
              | none => exact sessions
          | some source =>
              simp only [resolveUserFromSource_eq, Option.bind_some, Option.none_or]
              cases (payloadUser source ctx).or
                  ((sourceUsers facets source ctx).find? service.runsElsewhere) with
              | some user => rfl
              | none =>
                  cases key : ctx.bind (·.key) with
                  | some key => rfl
                  | none => exact sessions

omit [SerdeJson] in
theorem find?_of_dedup {users : List Ustr} {user : Ustr} (sole : users.dedup = [user])
    (found : Ustr → Bool) :
    users.find? found = if found user then some user else none := by
  have only : ∀ other ∈ users, other = user := by
    intro other listed
    have inside : other ∈ users.dedup := List.mem_dedup.mpr listed
    rw [sole] at inside
    exact List.mem_singleton.mp inside
  have listed : user ∈ users := by
    rw [← List.mem_dedup, sole]
    exact List.mem_singleton_self user
  cases passes : found user with
  | false =>
      rw [if_neg Bool.false_ne_true, List.find?_eq_none]
      intro other inside
      rw [only other inside, passes]
      exact Bool.false_ne_true
  | true =>
      rw [if_pos rfl]
      cases users with
      | nil => contradiction
      | cons first rest =>
          rw [only first (by simp), List.find?_cons_of_pos passes]

omit [SerdeJson] in
theorem Candidate.sole_cases (users : List Ustr) (text : String) :
    (users = [] ∧ sole users text = nobody) ∨
      (∃ user, users.dedup = [user] ∧ sole users text = listed user) ∨
      sole users text = ambiguous text := by
  rw [sole]
  split
  · next empty => exact .inl ⟨(List.dedup_eq_nil users).mp empty, rfl⟩
  · next user sole => exact .inr (.inl ⟨user, sole, rfl⟩)
  · exact .inr (.inr rfl)

/-- A found user is the candidate, exactly where the search can find one. -/
def Candidate.Meets (service : Service) (key : Option Ustr) (found : Option Ustr) :
    Candidate → Prop
  | .named user => found = some user
  | .listed user =>
      found = some user ↔ (∃ inst ∈ service.instances, inst.user ≠ some user) ∨ key = some user
  | .ambiguous _ => True
  | .nobody => found = none

namespace Candidate.Meets

variable {service : Service} {key found : Option Ustr} {candidate : Candidate}

omit [SerdeJson] in
/-- A user that is named needs no search. -/
theorem ofOption (named : Option Ustr) (later : named = none → candidate.Meets service key found) :
    ((Candidate.ofOption named).orElse candidate).Meets service key (named.or found) := by
  cases named with
  | some user => exact rfl
  | none => exact later rfl

omit [SerdeJson] in
/-- The search at the end of the line. -/
theorem sole (users : List Ustr) (text : String) (keyless : key = none) :
    (Candidate.sole users text).Meets service key (users.find? service.runsElsewhere) := by
  rcases Candidate.sole_cases users text with ⟨empty, sole⟩ | ⟨user, only, sole⟩ | sole
  · rw [sole, empty]
    exact rfl
  · rw [sole, Meets, find?_of_dedup only, ← Service.runsElsewhere_iff, keyless]
    simp
  · rw [sole]
    trivial

end Candidate.Meets

/-- What the runtime finds meets the candidate. -/
theorem foundUser_meets (facets : Facets) (scopes : ScopeAttributes) (service : Service)
    (ctx : Option ServiceBranchContext) (scope : Option Ustr) :
    (candidateUser facets scopes service ctx scope).Meets service (ctx.bind (·.key))
      (foundUser facets scopes service ctx scope) := by
  rw [candidateUser, foundUser, sourceCandidate]
  refine .ofOption _ fun _ => .ofOption _ fun _ => ?_
  have keyOrSession : ((Candidate.ofOption (ctx.bind (·.key))).orElse
      (.sole (sessionUsers facets) (sessionAmbiguity service))).Meets service (ctx.bind (·.key))
        ((ctx.bind (·.key)).or ((sessionUsers facets).find? service.runsElsewhere)) :=
    .ofOption _ fun keyless => .sole _ _ keyless
  cases service.metadata.userSource with
  | none => exact keyOrSession
  | some source =>
      simp only [Option.bind_some]
      cases direct : payloadUser source ctx with
      | some user => exact rfl
      | none =>
          rcases Candidate.sole_cases (sourceUsers facets source ctx)
              (sourceAmbiguity source) with ⟨empty, sole⟩ | ⟨user, only, sole⟩ | sole
          · rw [sole, empty]
            exact keyOrSession
          · rw [sole]
            change _ = some user ↔ _
            rw [Option.none_or, find?_of_dedup only, ← Service.runsElsewhere_iff]
            cases elsewhere : service.runsElsewhere user with
            | true => simp
            | false =>
                -- no session of the user is found either
                have unfound : (sessionUsers facets).find? service.runsElsewhere ≠ some user := by
                  intro found
                  have passes := List.find?_some found
                  rw [elsewhere] at passes
                  contradiction
                cases ctx.bind (·.key) <;> simp [unfound]
          · rw [sole]
            trivial

/-! ## Spawning -/

omit [SerdeJson] in
theorem isolationFor_isOk (scopes : ScopeAttributes) (metadata : ServiceMetadata)
    (scope : Option Ustr) :
    (isolationFor scopes metadata scope).isOk =
      (validateServiceInlineNamespaces metadata).isOk := by
  rw [isolationFor]
  cases validateServiceInlineNamespaces metadata <;> rfl

variable {env : ServiceEnv} {service : Service} {ctx : Option ServiceBranchContext}
  {registryKey : Ustr}

/-- A process runs as the user that was resolved for it. -/
theorem spawnProcess_user {run : RunOption} {answer : SpawnAnswer} {host final : Host}
    {inst : ChildInstance}
    (spawned : spawnProcess env service ctx registryKey run answer host = (.ok inst, final)) :
    resolveUser env.facets env.scopes service ctx (scopeOf registryKey) = .ok inst.user := by
  rw [spawnProcess] at spawned
  split at spawned
  · simp at spawned
  · next launch prepared =>
      have resolved : resolveUser env.facets env.scopes service ctx (scopeOf registryKey) =
          .ok launch.user := by
        simp only [prepare, bind, Except.bind] at prepared
        split at prepared
        · cases prepared
        · next user found =>
            split at prepared
            · cases prepared
            · split at prepared
              · cases prepared
              · cases prepared
                exact found
      split at spawned
      · simp at spawned
      · split at spawned
        · simp at spawned
        · simp only [Prod.mk.injEq, Except.ok.injEq] at spawned
          rw [resolved, ← spawned.1]
          rfl

/-- Where a user is resolved and the namespaces are valid, some spawn succeeds. -/
theorem exists_spawnProcess {user : Option Ustr}
    (resolved : resolveUser env.facets env.scopes service ctx (scopeOf registryKey) = .ok user)
    (valid : (validateServiceInlineNamespaces service.metadata).isOk = true) :
    ∃ run answer host inst final,
      spawnProcess env service ctx registryKey run answer host = (.ok inst, final) := by
  have isolated : (isolationFor env.scopes service.metadata (scopeOf registryKey)).isOk = true :=
    isolationFor_isOk .. ▸ valid
  cases isolation : isolationFor env.scopes service.metadata (scopeOf registryKey) with
  | error error => rw [isolation] at isolated; cases isolated
  | ok isolation' =>
      let run : RunOption := { exec := "", args := [], variableName := none, executor := none }
      have prepared : prepare env service ctx registryKey run =
          .ok { user, isolation := isolation', executor := .native } := by
        simp only [scopeOf] at resolved isolation
        simp only [prepare, bind, Except.bind, resolved, isolation]
        rfl
      have grouped : setupCgroupForPid isolation' (.created 1 none none) = none := by
        simp [setupCgroupForPid]
      refine ⟨run, .created 1 none none, Services.boot.host, ?_⟩
      simp only [spawnProcess, prepared, Executor.spawn, Services.boot, AList.notMem_empty,
        if_false]
      split
      · next failed => split at failed <;> simp at failed
      · simp only [grouped]
        exact ⟨_, _, rfl⟩

/-- Where the namespaces are not valid, every spawn fails with their error. -/
theorem spawnProcess_invalid {user : Option Ustr} {error : CoreError}
    (resolved : resolveUser env.facets env.scopes service ctx (scopeOf registryKey) = .ok user)
    (invalid : validateServiceInlineNamespaces service.metadata = .error error) (run : RunOption)
    (answer : SpawnAnswer) (host : Host) :
    spawnProcess env service ctx registryKey run answer host = (.error error, host) := by
  have prepared : prepare env service ctx registryKey run = .error error := by
    simp only [scopeOf] at resolved
    simp only [prepare, bind, Except.bind, resolved, isolationFor, invalid]
  rw [spawnProcess, prepared]

/-! ## Errors -/

/-- The error of an ambiguity names the source or the session of the user. -/
theorem candidateUser_ambiguous {facets : Facets} {scopes : ScopeAttributes} {scope : Option Ustr}
    {text : String} (several : candidateUser facets scopes service ctx scope = .ambiguous text) :
    text = sessionAmbiguity service ∨ ∃ source, text = sourceAmbiguity source := by
  have ofOption {named : Option Ustr} {rest : Candidate}
      (several : (Candidate.ofOption named).orElse rest = .ambiguous text) :
      rest = .ambiguous text := by
    cases named with
    | some user => cases several
    | none => exact several
  have ofSole {users : List Ustr} {own : String}
      (several : Candidate.sole users own = .ambiguous text) : text = own := by
    rw [Candidate.sole] at several
    split at several <;> cases several
    rfl
  replace several := ofOption (ofOption several)
  rw [sourceCandidate] at several
  cases declared : service.metadata.userSource with
  | none =>
      rw [declared] at several
      exact .inl (ofSole (ofOption several))
  | some source =>
      simp only [declared] at several
      cases direct : payloadUser source ctx with
      | some user => rw [direct] at several; cases several
      | none =>
          rcases Candidate.sole_cases (sourceUsers facets source ctx) (sourceAmbiguity source) with
            ⟨-, sole⟩ | ⟨user, -, sole⟩ | sole
          · rw [direct, sole] at several
            exact .inl (ofSole (ofOption several))
          · rw [direct, sole] at several
            cases several
          · rw [direct, sole] at several
            cases several
            exact .inr ⟨source, rfl⟩

omit [SerdeJson] in
/-- The error of invalid namespaces is none of them. -/
theorem validate_ne_ambiguity {error : CoreError} {text : String}
    (invalid : validateServiceInlineNamespaces service.metadata = .error error)
    (several : text = sessionAmbiguity service ∨ ∃ source, text = sourceAmbiguity source) :
    error ≠ .invalidState text := by
  rintro rfl
  rw [validateServiceInlineNamespaces] at invalid
  split at invalid
  · cases invalid
  · dsimp only at invalid
    split at invalid
    · cases invalid
    · simp only [Except.error.injEq, CoreError.invalidState.injEq] at invalid
      have letters := congrArg String.toList invalid
      rcases several with rfl | ⟨source, rfl⟩
      · simp [sessionAmbiguity, String.append_assoc] at letters
      · rw [sourceAmbiguity] at letters
        split at letters <;> simp at letters

/-- Spawning a process of a service in user space runs it as the candidate, or
fails where there is none or several, exactly where the search finds the
candidate, or where the namespaces of the service are not valid and there are not
several. -/
theorem spawns_as_candidate_iff (space : service.metadata.space = .user) :
    SpawnsAsCandidate env service ctx registryKey ↔
      CandidateFound env.facets env.scopes service ctx (scopeOf registryKey) ∨
        (validateServiceInlineNamespaces service.metadata).isOk = false ∧
          ∀ text, candidateUser env.facets env.scopes service ctx (scopeOf registryKey) ≠
            .ambiguous text := by
  have resolved :
      resolveUser env.facets env.scopes service ctx (scopeOf registryKey) =
        .ok (foundUser env.facets env.scopes service ctx (scopeOf registryKey)) :=
    resolveUser_userSpace space ctx (scopeOf registryKey)
  have meets := foundUser_meets env.facets env.scopes service ctx (scopeOf registryKey)
  rw [CandidateFound, SpawnsAsCandidate]
  cases valid : (validateServiceInlineNamespaces service.metadata).isOk with
  | true =>
      obtain ⟨run, answer, host, inst, final, spawned⟩ := exists_spawnProcess resolved valid
      have user_eq := Except.ok.inj (resolved.symm.trans (spawnProcess_user spawned))
      have spawnedUser {run : RunOption} {answer : SpawnAnswer} {host final : Host}
          {inst : ChildInstance}
          (spawned : spawnProcess env service ctx registryKey run answer host = (.ok inst, final)) :
          inst.user = foundUser env.facets env.scopes service ctx (scopeOf registryKey) :=
        Except.ok.inj ((spawnProcess_user spawned).symm.trans resolved)
      cases candidate : candidateUser env.facets env.scopes service ctx (scopeOf registryKey) with
      | named user =>
          rw [candidate] at meets
          simp only [true_or, iff_true]
          intro run answer host inst final spawned
          rw [spawnedUser spawned]
          exact meets
      | listed user =>
          rw [candidate] at meets
          have exactly : foundUser env.facets env.scopes service ctx (scopeOf registryKey) =
              some user ↔ _ := meets
          simp only [Bool.true_eq_false, false_and, or_false]
          rw [← exactly]
          constructor
          · intro runs
            rw [user_eq]
            exact runs run answer host inst final spawned
          · intro found run answer host inst final spawned
            rw [spawnedUser spawned]
            exact found
      | ambiguous text =>
          simp only [Bool.true_eq_false, false_and, or_false, iff_false]
          intro fails
          have failed := fails run answer host
          rw [spawned] at failed
          simp at failed
      | nobody =>
          simp only [Bool.true_eq_false, false_and, or_false, iff_false]
          intro fails
          obtain ⟨error, failed⟩ := fails run answer host
          rw [spawned] at failed
          simp at failed
  | false =>
      cases invalid : validateServiceInlineNamespaces service.metadata with
      | ok value => rw [invalid] at valid; cases valid
      | error error =>
          have fails := spawnProcess_invalid resolved invalid
          cases candidate : candidateUser env.facets env.scopes service ctx
              (scopeOf registryKey) with
          | named user => simp [fails]
          | listed user => simp [fails]
          | ambiguous text =>
              have apart := validate_ne_ambiguity invalid (candidateUser_ambiguous candidate)
              simp only [fails]
              constructor
              · intro same
                have failed := same { exec := "", args := [], variableName := none, executor := none }
                  (.refused (.custom "")) Services.boot.host
                simp [apart] at failed
              · rintro (found | ⟨-, apart⟩)
                · contradiction
                · exact absurd rfl (apart text)
          | nobody => simp [fails]

end Candidates

/-! ## One session -/

open scoped Compact

/-- A service of user space. -/
def shellService : ServiceMetadata := { workerService with name := "shell", space := .user }

/-- The service in a system where one user has a session. -/
def lonelyEnv : ServiceEnv :=
  { loneEnv shellService 100 with
    facets := AList.insert "rind:user_session"
      [⟨"rind:user_session", .json ⟨"\x7b\"username\":\"makano\"\x7d"⟩, .facet⟩] ∅ }

/-- The service runs for another user already. -/
def otherShell : Service :=
  { Service.new shellService with instances := [.new "" (some "guest") (some ⟨99⟩)] }

theorem spawns_as_candidate_iff_other :
    SpawnsAsCandidate lonelyEnv otherShell none "app:shell@static" := by
  have space : otherShell.metadata.space = .user := rfl
  have listed : candidateUser lonelyEnv.facets lonelyEnv.scopes otherShell none
      (scopeOf "app:shell@static") = .listed "makano" := by
    decide +kernel
  have found : CandidateFound lonelyEnv.facets lonelyEnv.scopes otherShell none
      (scopeOf "app:shell@static") := by
    rw [CandidateFound, listed]
    exact .inl ⟨.new "" (some "guest") (some ⟨99⟩), by simp [otherShell], by decide⟩
  have settled : SpawnsAsCandidate lonelyEnv otherShell none "app:shell@static" ↔ _ :=
    spawns_as_candidate_iff space
  exact settled.mpr (.inl found)

/-- The first process of the service runs as nobody in particular. -/
theorem not_spawns_as_candidate_first :
    ¬ ∀ (env : ServiceEnv) (service : Service) (ctx : Option ServiceBranchContext)
      (registryKey : Ustr), service.metadata.space = .user →
        SpawnsAsCandidate env service ctx registryKey := by
  intro spawns
  have listed : candidateUser lonelyEnv.facets lonelyEnv.scopes (.new shellService) none
      (scopeOf "app:shell@static") = .listed "makano" := by
    decide +kernel
  have spawned := spawns lonelyEnv (.new shellService) none "app:shell@static" rfl
    { exec := "/bin/worker", args := [], variableName := none, executor := none }
    (.created 100 none none) Services.boot.host
  rw [listed] at spawned
  have ran : (spawnProcess lonelyEnv (.new shellService) none "app:shell@static"
      { exec := "/bin/worker", args := [], variableName := none, executor := none }
      (.created 100 none none) Services.boot.host).1.toOption.map ChildInstance.user =
        some none := by
    decide +kernel
  cases outcome : spawnProcess lonelyEnv (.new shellService) none "app:shell@static"
      { exec := "/bin/worker", args := [], variableName := none, executor := none }
      (.created 100 none none) Services.boot.host with
  | mk result final =>
      rw [outcome] at ran
      cases result with
      | error error => cases ran
      | ok inst =>
          have user := spawned inst final outcome
          simp [Except.toOption, user] at ran

end Rind
