import Rind.Core.Instances
import Rind.Core.Resources
import Rind.Services.Durations
import Rind.Services.Reload

/-!
# Timers

The start of a timer reads its duration, sets a descriptor of the kernel to it and adds it to the
present time. Each of these can go wrong: the duration may be cut within a character or overflow,
the kernel refuses a time that is negative as a signed number, and the deadline may lie behind the
end of the clock. Only the kernel gives an error; the others are panics.
-/

namespace Rind

/-- The definition of a timer with its duration. -/
structure TimerDefinition extends TimerMetadata where
  duration : Ustr
  deriving DecidableEq

instance : NamedItem TimerDefinition := ⟨fun definition => definition.name⟩

/-- A timer, with its deadline in seconds of the monotonic clock. -/
structure Timer where
  metadata : TimerDefinition
  deadline : Nat
  fd : RawFd

inductive TimerKind where
  | timer
  | other
  deriving DecidableEq

/-- The instances of timers, and those of other models. -/
def TimerKind.Value : TimerKind → Type
  | .timer => Timer
  | .other => Unit

structure TimerSystem (P : Type) where
  instances : InstanceMap TimerKind.Value
  resources : Resources P

/-- What the kernel answers about timer descriptors. It refuses negative times. -/
structure TimerFds where
  create : Except CoreError RawFd
  set : Int → Except CoreError Unit
  refuses : ∀ seconds < 0, ∃ error, set seconds = .error error

/-- `TimeSpec::from`: the 64 bits of the seconds, taken as a signed number. -/
def timeSpec (seconds : Nat) : Int :=
  if seconds < 2 ^ 63 then seconds else seconds - 2 ^ 64

/-- `Instant::now() + duration`, which panics behind the end of the clock. -/
def deadlineOf (now seconds : Nat) : Option Nat :=
  if now + seconds < 2 ^ 63 then some (now + seconds) else none

section Start

variable {P : Type} (insertName : Ustr → P → P) (now : Nat) (fds : TimerFds)
  (registry : MetadataRegistry TimerDefinition)

/-- What `start` makes of a definition, unless it panics. -/
def instantiateTimer (metadata : TimerDefinition) (resources : Resources P) :
    Option (Except CoreError Timer × Resources P) :=
  match parseDuration metadata.duration with
  | none => none
  | some none => some (.error (.custom ("invalid duration: " ++ metadata.duration)), resources)
  | some (some duration) =>
      match fds.create with
      | .error error => some (.error error, resources)
      | .ok fd =>
          match fds.set (timeSpec duration) with
          | .error error => some (.error error, resources)
          | .ok () =>
              (deadlineOf now duration).map fun deadline =>
                (.ok ⟨metadata, deadline, fd⟩, resources.own fd (.timer fd))

/-- What the event loop dispatches when a timer ends. -/
def finishAction (name : Ustr) : ResourceAction P := ⟨"timer", "finish_timer", some (insertName name)⟩

/-- `TimerRuntime::start`, unless it panics. -/
def TimerRuntime.start (name : Ustr) (system : TimerSystem P) :
    Option (Except CoreError Unit × TimerSystem P) :=
  match system.instances.asOne registry .timer "*" name with
  | .ok _ => some (.ok (), system)
  | .error _ =>
      let fullName := registry.instanceKey "*" name
      match system.instances.entry fullName with
      | first :: _ =>
          match (first.downcast TimerKind.timer : Option Timer) with
          | none => some (.error unexpectedInstance, system)
          | some timer =>
              some (.ok (), { system with
                resources := system.resources.action timer.fd (finishAction insertName name) })
      | [] =>
          match registry.instantiated "*" name with
          | none =>
              some (.error (.metadataNotFound (registry.resolveMetadataKey "*" name)), system)
          | some metadata =>
              match instantiateTimer now fds metadata system.resources with
              | none => none
              | some (.error error, resources) =>
                  some (.error error, ⟨system.instances.insert fullName [], resources⟩)
              | some (.ok timer, resources) =>
                  some (.ok (), ⟨system.instances.insert fullName [⟨.timer, timer⟩],
                    resources.action timer.fd (finishAction insertName name)⟩)

end Start

/-! ## Safe durations -/

/-- No text stops the daemon: the duration is read or refused, the timer is started or refused,
and a timer that is made ends when its duration says. -/
structure NeverPanics {P : Type} (insertName : Ustr → P → P) (now : Nat) (duration : String) :
    Prop where
  parse : (parseDuration duration).isSome
  start : ∀ fds registry name (system : TimerSystem P),
    (∀ metadata, registry.instantiated "*" name = some metadata → metadata.duration = duration) →
    (TimerRuntime.start insertName now fds registry name system).isSome
  represented : ∀ fds metadata (resources resources' : Resources P) timer,
    metadata.duration = duration →
    instantiateTimer now fds metadata resources = some (.ok timer, resources') →
    ∃ seconds, durationSeconds duration = some seconds ∧ timer.deadline = now + seconds ∧
      timer.deadline < 2 ^ 63

/-- A time of at most 64 bits whose deadline is on the clock, or which the kernel refuses as
negative. -/
def Fits (now seconds : Nat) : Prop :=
  seconds < 2 ^ 64 ∧ (2 ^ 63 ≤ seconds ∨ now + seconds < 2 ^ 63)

structure DurationFits (now : Nat) (duration : String) : Prop where
  ends : EndsInByte duration
  seconds : ∀ seconds, durationSeconds duration = some seconds → Fits now seconds

/-- No time setting of systemd does either, nor a duration that is made of one. -/
structure SettingNeverPanics {P : Type} (insertName : Ustr → P → P) (now : Nat) (value : String) :
    Prop where
  parse : (Systemd.parseTimeSpec value).isSome
  setting : (Systemd.settingDuration value).isSome
  calendar : ∀ duration, Systemd.parseOnCalendar value = some duration →
    NeverPanics insertName now duration
  spec : ∀ duration, Systemd.parseTimeSpec value = some (some duration) →
    NeverPanics insertName now duration

structure SettingFits (now : Nat) (value : String) : Prop where
  ends : EndsInByte value
  calendar : ∀ duration seconds, Systemd.parseOnCalendar value = some duration →
    durationSeconds duration = some seconds → Fits now seconds
  seconds : ∀ seconds, settingSeconds value = some seconds → Fits now seconds

section Safe

variable {P : Type} {insertName : Ustr → P → P} {now : Nat} {duration : String}

theorem timeSpec_negative {seconds : Nat} (large : 2 ^ 63 ≤ seconds) (small : seconds < 2 ^ 64) :
    timeSpec seconds < 0 := by
  rw [timeSpec, if_neg (Nat.not_lt.mpr large)]
  omega

theorem parseDuration_fits (fits : DurationFits now duration) :
    parseDuration duration = some (durationSeconds duration) := by
  classical
  rw [parseDuration_eq, if_pos fits.ends]
  cases stands : durationSeconds duration with
  | none => rfl
  | some seconds => exact if_pos (fits.seconds seconds stands).1

theorem instantiateTimer_isSome (fds : TimerFds) {metadata : TimerDefinition}
    (resources : Resources P) (fits : DurationFits now metadata.duration) :
    (instantiateTimer now fds metadata resources).isSome := by
  rw [instantiateTimer, parseDuration_fits fits]
  cases stands : durationSeconds metadata.duration with
  | none => rfl
  | some seconds =>
      obtain ⟨small, inTime⟩ := fits.seconds seconds stands
      cases fds.create with
      | error error => rfl
      | ok fd =>
          dsimp only
          cases answer : fds.set (timeSpec seconds) with
          | error error => rfl
          | ok done =>
              have onClock : now + seconds < 2 ^ 63 := by
                refine inTime.resolve_left fun large => ?_
                obtain ⟨error, refused⟩ := fds.refuses _ (timeSpec_negative large small)
                rw [refused] at answer
                cases answer
              dsimp only
              rw [deadlineOf, if_pos onClock]
              rfl

theorem start_isSome {fds : TimerFds} {registry : MetadataRegistry TimerDefinition} {name : Ustr}
    {system : TimerSystem P} (fits : ∀ metadata, registry.instantiated "*" name = some metadata →
      DurationFits now metadata.duration) :
    (TimerRuntime.start insertName now fds registry name system).isSome := by
  rw [TimerRuntime.start]
  cases system.instances.asOne registry .timer "*" name with
  | ok timer => rfl
  | error error =>
      dsimp only
      cases system.instances.entry (registry.instanceKey "*" name) with
      | cons first rest =>
          dsimp only
          cases (first.downcast TimerKind.timer : Option Timer) with
          | none => rfl
          | some timer => rfl
      | nil =>
          dsimp only
          cases defined : registry.instantiated "*" name with
          | none => rfl
          | some metadata =>
              obtain ⟨made, made_eq⟩ :=
                Option.isSome_iff_exists.mp
                  (instantiateTimer_isSome fds system.resources (fits metadata defined))
              obtain ⟨result, resources⟩ := made
              dsimp only
              rw [made_eq]
              cases result with
              | error error => rfl
              | ok timer => rfl

/-- A timer that is made ends when its duration says. -/
theorem instantiateTimer_represented {fds : TimerFds} {metadata : TimerDefinition}
    {resources resources' : Resources P} {timer : Timer}
    (made : instantiateTimer now fds metadata resources = some (.ok timer, resources')) :
    ∃ seconds, durationSeconds metadata.duration = some seconds ∧
      timer.deadline = now + seconds ∧ timer.deadline < 2 ^ 63 := by
  classical
  rw [instantiateTimer, parseDuration_eq] at made
  by_cases ends : EndsInByte metadata.duration
  · rw [if_pos ends] at made
    cases stands : durationSeconds metadata.duration with
    | none => simp [stands, bounded] at made
    | some seconds =>
        rw [stands, bounded] at made
        by_cases small : seconds < 2 ^ 64
        · rw [if_pos small] at made
          dsimp only at made
          split at made
          · cases made
          split at made
          · cases made
          rw [deadlineOf, Option.map_eq_some_iff] at made
          obtain ⟨deadline, inTime, same⟩ := made
          rw [Option.ite_none_right_eq_some, Option.some_inj] at inTime
          obtain ⟨onClock, rfl⟩ := inTime
          cases same
          exact ⟨seconds, rfl, rfl, onClock⟩
        · rw [if_neg small] at made
          cases made
  · rw [if_neg ends] at made
    cases made

end Safe

/-! ## Exactly the safe durations -/

/-- A kernel that accepts every time that is not negative. -/
def acceptingFds : TimerFds where
  create := .ok 3
  set seconds := if seconds < 0 then .error (.custom "EINVAL") else .ok ()
  refuses _ negative := ⟨_, if_pos negative⟩

section Exactly

variable {P : Type} {insertName : Ustr → P → P} {now : Nat}

theorem instantiated_ofGroup (duration : Ustr) :
    (MetadataRegistry.ofGroup "static" "app" [(⟨⟨"tick"⟩, duration⟩ : TimerDefinition)]).instantiated "*"
      "app:tick" = some ⟨⟨"tick"⟩, duration⟩ := rfl

/-- A deadline behind the end of the clock panics, unless the kernel refuses the time before. -/
theorem start_eq_none {duration : String} {seconds : Nat}
    (parsed : parseDuration duration = some (some seconds)) (low : seconds < 2 ^ 63)
    (late : ¬ now + seconds < 2 ^ 63) :
    TimerRuntime.start insertName now acceptingFds
      (.ofGroup "static" "app" [⟨⟨"tick"⟩, duration⟩]) "app:tick" ⟨∅, .empty P⟩ = none := by
  have accepted : acceptingFds.set (timeSpec seconds) = .ok () := by
    apply if_neg
    rw [timeSpec, if_pos low]
    omega
  have panics : instantiateTimer now acceptingFds ⟨⟨"tick"⟩, duration⟩ (.empty P) = none := by
    simp only [instantiateTimer, parsed, accepted, deadlineOf, if_neg late]
    rfl
  have fresh (name : Ustr) : (∅ : InstanceMap TimerKind.Value).entry name = [] := by
    rw [InstanceMap.entry, AList.lookup_empty]
    rfl
  rw [TimerRuntime.start, InstanceMap.asOne]
  simp only [fresh, List.getLast?_nil, instantiated_ofGroup, panics]

/-- A duration is safe exactly where it ends with a whole character, has at most 64 bits, and its
deadline is on the clock or the kernel refuses it. -/
theorem durationNeverPanics_iff (duration : String) :
    NeverPanics insertName now duration ↔ DurationFits now duration := by
  classical
  constructor
  · intro safe
    have parsed := safe.parse
    rw [parseDuration_eq] at parsed
    by_cases ends : EndsInByte duration
    · rw [if_pos ends] at parsed
      refine ⟨ends, ?_⟩
      intro seconds stands
      rw [stands, bounded] at parsed
      have small : seconds < 2 ^ 64 := by
        by_contra large
        rw [if_neg large] at parsed
        cases parsed
      refine ⟨small, or_iff_not_imp_left.mpr fun low => ?_⟩
      by_contra late
      have parsed' : parseDuration duration = some (some seconds) := by
        rw [parseDuration_eq, if_pos ends, stands]
        exact if_pos small
      have started := safe.start acceptingFds (.ofGroup "static" "app" [⟨⟨"tick"⟩, duration⟩])
        "app:tick" ⟨∅, .empty P⟩ (by
          intro metadata found
          rw [instantiated_ofGroup] at found
          cases found
          rfl)
      rw [start_eq_none parsed' (Nat.not_le.mp low) late] at started
      cases started
    · rw [if_neg ends] at parsed
      cases parsed
  · intro fits
    refine ⟨?_, ?_, ?_⟩
    · rw [parseDuration_fits fits]
      rfl
    · intro fds registry name system defined
      apply start_isSome
      intro metadata found
      rw [defined metadata found]
      exact fits
    · rintro fds metadata resources resources' timer rfl made
      exact instantiateTimer_represented made

/-- So is a time setting. -/
theorem settingNeverPanics_iff (value : String) :
    SettingNeverPanics insertName now value ↔ SettingFits now value := by
  constructor
  · intro safe
    refine ⟨?_, ?_, ?_⟩
    · exact endsInByte_of_parseTimeSpec safe.parse
    · intro duration seconds word stands
      exact ((durationNeverPanics_iff duration).mp (safe.calendar duration word)).seconds seconds stands
    · intro seconds stands
      obtain ⟨duration, read⟩ := parseTimeSpec_of_settingSeconds safe.parse stands
      have fits := (durationNeverPanics_iff duration).mp (safe.spec duration read)
      apply fits.seconds seconds
      rw [(settingSeconds_read read).2, stands]
  · intro fits
    have parsed := parseTimeSpec_isSome fits.ends fun seconds stands =>
      (fits.seconds seconds stands).1
    refine ⟨parsed, ?_, ?_, ?_⟩
    · rw [Systemd.settingDuration]
      cases Systemd.parseOnCalendar value with
      | none => exact parsed
      | some duration => rfl
    · intro duration word
      rw [durationNeverPanics_iff]
      refine ⟨endsInByte_calendar word, ?_⟩
      intro seconds stands
      exact fits.calendar duration seconds word stands
    · intro duration read
      obtain ⟨ends, stands⟩ := settingSeconds_read read
      rw [durationNeverPanics_iff]
      refine ⟨ends, fun seconds stands' => fits.seconds seconds ?_⟩
      rw [← stands, stands']

/-- No text of a unit file stops the daemon exactly where it ends with a whole character, comes to
at most 64 bits, and its deadline is on the clock or the kernel refuses it. -/
theorem timers_neverPanic_iff (insertName : Ustr → P → P) (now : Nat) (text : String) :
    (NeverPanics insertName now text ↔ DurationFits now text) ∧
      (SettingNeverPanics insertName now text ↔ SettingFits now text) :=
  ⟨durationNeverPanics_iff text, settingNeverPanics_iff text⟩

end Exactly

/-- A text that ends within a character, two products that overflow, and a deadline behind the end
of the clock. -/
theorem not_neverPanics :
    ¬ NeverPanics (fun _ (payload : Unit) => payload) 1 "5€" ∧
    ¬ NeverPanics (fun _ (payload : Unit) => payload) 1 "18446744073709551615m" ∧
    ¬ NeverPanics (fun _ (payload : Unit) => payload) 1 "9223372036854775807" ∧
    ¬ SettingNeverPanics (fun _ (payload : Unit) => payload) 1 "18446744073709551615w" := by
  refine ⟨?_, ?_, ?_, ?_⟩
  · intro safe
    exact absurd safe.parse (by decide +kernel)
  · intro safe
    exact absurd safe.parse (by decide +kernel)
  · intro safe
    have parsed : parseDuration "9223372036854775807" = some (some 9223372036854775807) := by
      decide +kernel
    have started := safe.start acceptingFds
      (.ofGroup "static" "app" [⟨⟨"tick"⟩, "9223372036854775807"⟩]) "app:tick" ⟨∅, .empty Unit⟩ (by
        intro metadata found
        rw [instantiated_ofGroup] at found
        cases found
        rfl)
    rw [start_eq_none parsed (by decide) (by decide)] at started
    cases started
  · intro safe
    exact absurd safe.parse (by decide +kernel)

end Rind
