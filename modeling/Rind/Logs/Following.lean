import Rind.Logs.Tail

/-!
# Exactly once

Behind the place that `tail_logs` has taken of a segment there are only whole
records, so each poll prints what was appended since the one before.  A record is
lost where it is appended after the seed has read its segment and before its place
is taken, and where the limit cuts it off.
-/

namespace Rind

section Following

variable [Bincode LogEntry] [Crc32]

namespace LogSystem

variable {system : LogSystem} {query : LogQuery} {limit : Nat}

/-! ## No record is left out -/

/-- The records of a segment that were appended from some place on. -/
def appendedFrom (system : LogSystem) (segment : String) (place : Nat) : List Logged :=
  system.appended.filter fun logged => logged.segment = segment ∧ place ≤ logged.start

/-- The seed comes to the record when it reads the segment. -/
def Readable (system : LogSystem) (logged : Logged) : Prop :=
  logged.entry.Fits ∧
    ∃ more, (system.content logged.segment).drop logged.start =
      encodeRecord logged.entry ++ more ∧
    recordScanner.Reaches (system.content logged.segment)
      ((system.content logged.segment).drop logged.start)

/-- A record is on its way to be printed, or has been. -/
def Kept (system : LogSystem) (logged : Logged) : Prop :=
  match system.phase with
  | .starting => system.Readable logged
  | .seeding todo found => logged.segment ∈ todo ∧ system.Readable logged ∨ logged ∈ found
  | phase => logged ∈ system.sink ∨
      ¬ Unplaced phase logged.segment ∧ (system.cursorOf logged.segment).offset ≤ logged.start

/-- What is behind the place of a segment is records, none of which has been printed. -/
structure Follows (query : LogQuery) (system : LogSystem) : Prop where
  aligned (segment : String) : ¬ Unplaced system.phase segment →
    (system.cursorOf segment).carry = [] ∧
      Consecutive (system.cursorOf segment).offset
        (system.appendedFrom segment (system.cursorOf segment).offset)
        ((system.content segment).drop (system.cursorOf segment).offset)
  kept : ∀ logged ∈ system.appended, query.matches logged.entry → system.Kept logged

theorem follows_start (files : Segments) :
    (start files).Follows query where
  aligned _ placed := absurd trivial placed
  kept _ inside := absurd inside List.not_mem_nil

/-- Nothing was appended behind the end of a segment. -/
theorem Sane.appendedFrom_end (sane : system.Sane) (segment : String) :
    system.appendedFrom segment (system.content segment).length = [] := by
  rw [appendedFrom, List.filter_eq_nil_iff]
  intro logged inside
  have within := sane.appended logged inside
  rw [length_encodeRecord] at within
  simp only [decide_eq_true_eq, not_and]
  rintro rfl behind
  omega

/-- A segment with its place at the end is aligned. -/
theorem Sane.aligned_end (sane : system.Sane) (segment : String) :
    Consecutive (system.content segment).length
      (system.appendedFrom segment (system.content segment).length)
      ((system.content segment).drop (system.content segment).length) := by
  rw [sane.appendedFrom_end, List.drop_length]
  exact rfl

theorem Readable.inside {logged : Logged} (readable : system.Readable logged) :
    logged.start < (system.content logged.segment).length := by
  obtain ⟨_, more, stands, _⟩ := readable
  have length := congrArg List.length stands
  rw [List.length_drop, List.length_append, length_encodeRecord] at length
  omega

theorem Readable.listed {logged : Logged} (readable : system.Readable logged) :
    logged.segment ∈ listSegments system.files := by
  apply mem_listSegments
  intro nothing
  have inside := readable.inside
  rw [nothing] at inside
  exact absurd inside (Nat.not_lt_zero _)

/-- A record stays readable while its segment grows. -/
theorem Readable.grows {after : LogSystem} {logged : Logged} (readable : system.Readable logged)
    (grows : system.content logged.segment <+: after.content logged.segment) :
    after.Readable logged := by
  have inside := readable.inside
  obtain ⟨fits, more, stands, reaches⟩ := readable
  obtain ⟨added, grown⟩ := grows
  refine ⟨fits, more ++ added, ?_, ?_⟩
  · rw [← grown, List.drop_append_of_le_length (Nat.le_of_lt inside), stands, List.append_assoc]
  · rw [← grown, List.drop_append_of_le_length (Nat.le_of_lt inside)]
    exact reaches.append added

/-- The seed finds what it can read. -/
theorem Readable.found {logged : Logged} (readable : system.Readable logged) :
    logged ∈ loggedIn logged.segment 0 (system.content logged.segment) := by
  obtain ⟨fits, more, stands, reaches⟩ := readable
  exact mem_loggedIn_of_reaches fits stands reaches

theorem Follows.seed (follows : system.Follows query) {segment : String} {todo : List String}
    {found : List Logged} (phase : system.phase = .seeding (segment :: todo) found) :
    (system.seed query segment todo found).Follows query := by
  refine ⟨fun segment placed => absurd trivial placed, fun logged inside wanted => ?_⟩
  have kept := follows.kept logged inside wanted
  simp only [Kept, phase] at kept
  rcases kept with ⟨listed, readable⟩ | isFound
  · cases List.mem_cons.mp listed with
    | inl same =>
        subst same
        exact .inr (List.mem_append_right _ (List.mem_filter.mpr ⟨readable.found, wanted⟩))
    | inr listed => exact .inl ⟨listed, readable⟩
  · exact .inr (List.mem_append_left _ isFound)

theorem Follows.endSeed (follows : system.Follows query) (sane : system.Sane)
    {found : List Logged} (phase : system.phase = .seeding [] found)
    (cutsNone : ∀ logged ∈ found.take (found.length - limit), logged ∉ system.appended) :
    (system.endSeed limit found).Follows query := by
  constructor
  · intro segment unlisted
    have nothing : system.content segment = [] := by
      by_contra stands
      exact unlisted (mem_listSegments stands)
    have offset := sane.offset segment
    have end_ : (system.cursorOf segment).offset = (system.content segment).length := by
      rw [nothing] at offset ⊢
      exact Nat.le_zero.mp offset
    refine ⟨?_, ?_⟩
    · rw [nothing, List.length_nil] at offset
      exact List.eq_nil_of_length_eq_zero (Nat.le_zero.mp ((sane.carry segment).trans offset))
    · change Consecutive (system.cursorOf segment).offset
        (system.appendedFrom segment (system.cursorOf segment).offset)
        ((system.content segment).drop (system.cursorOf segment).offset)
      rw [end_]
      exact sane.aligned_end segment
  · intro logged inside wanted
    have kept := follows.kept logged inside wanted
    simp only [Kept, phase] at kept
    rcases kept with ⟨listed, _⟩ | isFound
    · exact absurd listed List.not_mem_nil
    · rw [← List.take_append_drop (found.length - limit) found] at isFound
      cases List.mem_append.mp isFound with
      | inl cut => exact absurd inside (cutsNone logged cut)
      | inr printed => exact .inl (List.mem_append_right _ printed)

theorem Follows.place (follows : system.Follows query) (sane : system.Sane) {segment : String}
    {todo : List String} (phase : system.phase = .placing (segment :: todo)) :
    (system.place segment todo).Follows query := by
  constructor
  · intro other placed
    rw [place_cursorOf]
    split
    · rename_i same
      rw [same]
      exact ⟨rfl, sane.aligned_end segment⟩
    · rename_i apart
      apply follows.aligned
      rw [phase]
      intro listed
      cases List.mem_cons.mp listed with
      | inl same => exact apart same
      | inr listed => exact placed listed
  · intro logged inside wanted
    have kept := follows.kept logged inside wanted
    simp only [Kept, phase] at kept
    rcases kept with printed | ⟨placed, behind⟩
    · exact .inl printed
    · have apart : logged.segment ≠ segment := by
        intro same
        exact placed (List.mem_cons.mpr (.inl same))
      refine .inr ⟨fun listed => placed (List.mem_cons_of_mem _ listed), ?_⟩
      rw [place_cursorOf, if_neg apart]
      exact behind

theorem Follows.poll (follows : system.Follows query) (sane : system.Sane) {segment : String}
    {todo : List String} (phase : system.phase = .polling (segment :: todo)) :
    (system.poll query segment todo).Follows query := by
  obtain ⟨aligned, kept⟩ := follows
  rw [phase] at aligned
  obtain ⟨carry, consecutive⟩ := aligned segment not_false
  have sameSegment : ∀ logged ∈ system.appendedFrom segment (system.cursorOf segment).offset,
      logged.segment = segment := by
    intro logged inside
    rw [appendedFrom] at inside
    exact (of_decide_eq_true (List.mem_filter.mp inside).2).1
  obtain ⟨found, nothingLeft⟩ := readIncremental_consecutive (sane.offset segment) carry
    consecutive sameSegment
  obtain ⟨offset, _⟩ := sane.poll segment rfl
  constructor
  · intro other _
    rw [poll_cursorOf]
    split
    · rename_i same
      rw [same]
      refine ⟨nothingLeft, ?_⟩
      rw [offset]
      exact sane.aligned_end segment
    · exact aligned other not_false
  · intro logged inside wanted
    have kept := kept logged inside wanted
    simp only [Kept, phase] at kept
    rcases kept with printed | ⟨_, behind⟩
    · exact .inl (List.mem_append_left _ printed)
    · by_cases same : logged.segment = segment
      · have polled : logged ∈ (readIncremental segment (system.content segment)
            (system.cursorOf segment)).1 := by
          apply found
          rw [same] at behind
          exact List.mem_filter.mpr ⟨inside, decide_eq_true ⟨same, behind⟩⟩
        exact .inl (List.mem_append_right _ (List.mem_filter.mpr ⟨polled, wanted⟩))
      · refine .inr ⟨not_false, ?_⟩
        rw [poll_cursorOf, if_neg same]
        exact behind

theorem Follows.tail (follows : system.Follows query) (sane : system.Sane)
    (lossless : system.LosesNone query limit .tail) :
    (system.tailStep query limit).Follows query := by
  simp only [LosesNone] at lossless
  rw [tailStep]
  split
  · rename_i phase
    refine ⟨fun segment placed => absurd trivial placed, fun logged inside wanted => ?_⟩
    have readable := follows.kept logged inside wanted
    simp only [Kept, phase] at readable
    exact .inl ⟨readable.listed, readable⟩
  · rename_i phase
    exact follows.seed phase
  · rename_i phase
    simp only [phase] at lossless
    exact follows.endSeed sane phase lossless
  · rename_i phase
    exact follows.place sane phase
  · rename_i phase
    obtain ⟨aligned, kept⟩ := follows
    simp only [Kept, phase] at kept
    rw [phase] at aligned
    refine ⟨fun segment _ => aligned segment List.not_mem_nil, fun logged inside wanted => ?_⟩
    exact (kept logged inside wanted).imp_right fun waits => ⟨not_false, waits.2⟩
  · rename_i phase
    exact follows.poll sane phase
  · rename_i phase
    obtain ⟨aligned, kept⟩ := follows
    simp only [Kept, phase] at kept
    rw [phase] at aligned
    exact ⟨aligned, kept⟩

/-- The logger adds records to the end of a segment. -/
theorem Follows.logger (follows : system.Follows query) (sane : system.Sane) {step : LogStep}
    (logger : step ≠ .tail) (lossless : system.LosesNone query limit step) :
    (system.step query limit step).Follows query := by
  obtain ⟨⟨phase, cursor, sink, _⟩, changes⟩ := logger_cases system query limit step logger
  have grows (segment : String) := content_step system query limit step segment
  have stays (logged : Logged) (kept : system.Kept logged) :
      (system.step query limit step).Kept logged := by
    simp only [Kept] at kept ⊢
    rw [phase, sink, cursor]
    split at kept
    · exact kept.grows (grows _)
    · exact kept.imp_left fun waits => ⟨waits.1, waits.2.grows (grows _)⟩
    · exact kept
  constructor
  · intro segment placed
    rw [phase] at placed
    obtain ⟨carry, consecutive⟩ := follows.aligned segment placed
    rw [cursor]
    refine ⟨carry, ?_⟩
    rcases changes with ⟨content, appended⟩ | ⟨into, entry, rfl, content, appended⟩
    · rw [appendedFrom, content, appended]
      exact consecutive
    · rw [appendedFrom, content, appended, List.filter_append, ← appendedFrom]
      by_cases same : segment = into
      · subst same
        have offset := sane.offset segment
        have further := consecutive.append segment lossless.1
        rw [List.length_drop, Nat.add_sub_cancel' offset] at further
        rw [if_pos rfl, List.drop_append_of_le_length offset,
          List.filter_cons_of_pos (by simpa using offset)]
        exact further
      · have apart : into ≠ segment := Ne.symm same
        rw [if_neg same, List.filter_cons_of_neg (by simp [apart]), List.filter_nil,
          List.append_nil]
        exact consecutive
  · intro logged inside wanted
    rcases changes with ⟨_, appended⟩ | ⟨into, entry, rfl, content, appended⟩
    · rw [appended] at inside
      exact stays logged (follows.kept logged inside wanted)
    · rw [appended] at inside
      rcases List.mem_append.mp inside with old | new
      · exact stays logged (follows.kept logged old wanted)
      · rw [List.mem_singleton] at new
        subst new
        have condition := lossless.2 wanted
        have readable (reaches : recordScanner.Reaches
            (system.content into ++ encodeRecord entry) (encodeRecord entry)) :
            (system.step query limit (.append into entry)).Readable
              ⟨into, (system.content into).length, entry⟩ := by
          refine ⟨lossless.1, [], ?_, ?_⟩
          · rw [content, if_pos rfl, List.drop_left, List.append_nil]
          · rw [content, if_pos rfl, List.drop_left]
            exact reaches
        simp only [Kept]
        rw [phase]
        dsimp only at condition
        split at condition
        · rename_i atPhase
          rw [atPhase]
          exact readable condition
        · rename_i todo found atPhase
          rw [atPhase]
          exact .inl ⟨condition.1, readable condition.2⟩
        · rename_i todo atPhase
          rw [atPhase, cursor]
          exact .inr ⟨condition, sane.offset into⟩
        · rename_i todo atPhase
          rw [atPhase, cursor]
          exact .inr ⟨not_false, sane.offset into⟩

theorem Follows.step (follows : system.Follows query) (sane : system.Sane) (step : LogStep)
    (lossless : system.LosesNone query limit step) :
    (system.step query limit step).Follows query := by
  by_cases tail : step = .tail
  · subst tail
    exact follows.tail sane lossless
  · exact follows.logger sane tail lossless

/-! ## Rounds of polls -/

/-- The segments that the round has still to poll. -/
def unpolled : TailPhase → List String
  | .polling todo => todo
  | _ => []

/-- The segments stand polled up to what they held when the round before this one
began, and those that this round has polled up to what they held when it began. -/
structure Rounds (system : LogSystem) : Prop where
  listed (segment : String) : system.listed segment ≤ (system.content segment).length
  covered (segment : String) : system.covered segment ≤ (system.cursorOf segment).offset
  polled (segment : String) : segment ∉ unpolled system.phase →
    system.listed segment ≤ (system.cursorOf segment).offset
  early : match system.phase with
    | .polling _ => True
    | _ => ∀ segment, system.covered segment = 0

omit [Bincode LogEntry] [Crc32] in
theorem rounds_start (files : Segments) : (start files).Rounds where
  listed _ := Nat.zero_le _
  covered _ := Nat.zero_le _
  polled _ _ := Nat.zero_le _
  early _ := rfl

theorem Rounds.tail (rounds : system.Rounds) (sane : system.Sane) :
    (system.tailStep query limit).Rounds := by
  obtain ⟨listed, covered, polled, early⟩ := rounds
  rw [tailStep]
  split
  · rename_i phase
    rw [phase] at polled early
    exact ⟨listed, covered, polled, early⟩
  · rename_i phase
    rw [phase] at polled early
    exact ⟨listed, covered, polled, early⟩
  · rename_i phase
    rw [phase] at polled early
    exact ⟨listed, covered, polled, early⟩
  · rename_i segment todo phase
    rw [phase] at polled early
    have forward (other : String) :
        (system.cursorOf other).offset ≤ ((system.place segment todo).cursorOf other).offset := by
      rw [place_cursorOf]
      split
      · rename_i same
        rw [same]
        exact sane.offset segment
      · exact Nat.le_refl _
    exact ⟨listed, fun other => (covered other).trans (forward other),
      fun other done => (polled other done).trans (forward other), early⟩
  · rename_i phase
    rw [phase] at polled early
    exact ⟨listed, covered, polled, trivial⟩
  · rename_i segment todo phase
    rw [phase] at polled early
    have offset := (sane.poll segment rfl).1
    have forward (other : String) : (system.cursorOf other).offset ≤
        ((system.poll query segment todo).cursorOf other).offset := by
      rw [poll_cursorOf]
      split
      · rename_i same
        rw [same, offset]
        exact sane.offset segment
      · exact Nat.le_refl _
    refine ⟨listed, fun other => (covered other).trans (forward other), fun other done => ?_,
      trivial⟩
    by_cases same : other = segment
    · rw [poll_cursorOf, if_pos same, offset, same]
      exact listed segment
    · apply (polled other _).trans (forward other)
      intro inside
      cases List.mem_cons.mp inside with
      | inl isSegment => exact same isSegment
      | inr inside => exact done inside
  · rename_i phase
    rw [phase] at polled early
    refine ⟨fun _ => Nat.le_refl _, fun segment => polled segment List.not_mem_nil,
      fun segment unlisted => ?_, trivial⟩
    have nothing : system.content segment = [] := by
      by_contra stands
      exact unlisted (mem_listSegments stands)
    change (system.content segment).length ≤ _
    rw [nothing]
    exact Nat.zero_le _

theorem Rounds.step (rounds : system.Rounds) (sane : system.Sane) (step : LogStep) :
    (system.step query limit step).Rounds := by
  by_cases tail : step = .tail
  · subst tail
    exact rounds.tail sane
  · obtain ⟨⟨phase, cursor, _, listed, covered⟩, _⟩ := logger_cases system query limit step tail
    constructor
    · intro segment
      rw [listed]
      exact (rounds.listed segment).trans
        (content_step system query limit step segment).length_le
    · intro segment
      rw [covered, cursor]
      exact rounds.covered segment
    · intro segment
      rw [phase, listed, cursor]
      exact rounds.polled segment
    · rw [phase, covered]
      exact rounds.early

/-- Steps of `tail_logs` alone lead to a state. -/
def LeadsTo (query : LogQuery) (limit : Nat) (goal : LogSystem → Prop) (system : LogSystem) :
    Prop :=
  ∃ count, goal ((tailStep query limit)^[count] system)

theorem LeadsTo.step {goal : LogSystem → Prop}
    (leads : (system.tailStep query limit).LeadsTo query limit goal) :
    system.LeadsTo query limit goal := by
  obtain ⟨count, reached⟩ := leads
  exact ⟨count + 1, reached⟩

theorem LeadsTo.trans {first second : LogSystem → Prop}
    (leads : system.LeadsTo query limit first)
    (further : ∀ after, first after → after.LeadsTo query limit second) :
    system.LeadsTo query limit second := by
  obtain ⟨count, reached⟩ := leads
  obtain ⟨more, reachedThen⟩ := further _ reached
  use more + count
  rw [Function.iterate_add_apply]
  exact reachedThen

/-- A round comes to its end. -/
theorem leadsTo_polled {todo : List String} (phase : system.phase = .polling todo) :
    system.LeadsTo query limit fun after => after.phase = .polling [] ∧
      after.files = system.files ∧ after.listed = system.listed := by
  induction todo generalizing system with
  | nil => exact ⟨0, phase, rfl, rfl⟩
  | cons segment todo ih =>
      have polls : system.tailStep query limit = system.poll query segment todo := by
        rw [tailStep, phase]
      apply LeadsTo.step
      rw [polls]
      exact ih rfl

/-- And polls begin. -/
theorem leadsTo_polling :
    system.LeadsTo query limit fun after => (∃ todo, after.phase = .polling todo) ∧
      after.files = system.files := by
  have placing {system : LogSystem} {todo : List String} (phase : system.phase = .placing todo) :
      system.LeadsTo query limit fun after => (∃ todo, after.phase = .polling todo) ∧
        after.files = system.files := by
    induction todo generalizing system with
    | nil =>
        apply LeadsTo.step
        rw [tailStep, phase]
        exact ⟨0, ⟨[], rfl⟩, rfl⟩
    | cons segment todo ih =>
        have places : system.tailStep query limit = system.place segment todo := by
          rw [tailStep, phase]
        apply LeadsTo.step
        rw [places]
        exact ih rfl
  have seeding {system : LogSystem} {todo : List String} {found : List Logged}
      (phase : system.phase = .seeding todo found) :
      system.LeadsTo query limit fun after => (∃ todo, after.phase = .polling todo) ∧
        after.files = system.files := by
    induction todo generalizing system found with
    | nil =>
        have ends : system.tailStep query limit = system.endSeed limit found := by
          rw [tailStep, phase]
        apply LeadsTo.step
        rw [ends]
        exact placing rfl
    | cons segment todo ih =>
        have seeds : system.tailStep query limit = system.seed query segment todo found := by
          rw [tailStep, phase]
        apply LeadsTo.step
        rw [seeds]
        exact ih rfl
  cases phase : system.phase with
  | starting =>
      apply LeadsTo.step
      rw [tailStep, phase]
      exact seeding rfl
  | seeding todo found => exact seeding phase
  | placing todo => exact placing phase
  | polling todo => exact ⟨0, ⟨todo, phase⟩, rfl⟩

/-- What stands in the segments is covered in the end. -/
theorem leadsTo_covered (query : LogQuery) (limit : Nat) (system : LogSystem) :
    system.LeadsTo query limit fun after =>
      ∀ segment, after.covered segment = (system.content segment).length := by
  have polled : system.LeadsTo query limit fun after => after.phase = .polling [] ∧
      after.files = system.files := by
    apply leadsTo_polling.trans
    rintro after ⟨⟨todo, phase⟩, files⟩
    apply (leadsTo_polled phase).trans
    rintro later ⟨atEnd, sameFiles, _⟩
    exact ⟨0, atEnd, sameFiles.trans files⟩
  apply polled.trans
  rintro after ⟨phase, files⟩
  have begins {system : LogSystem} (phase : system.phase = .polling []) :
      system.tailStep query limit = system.beginRound := by
    rw [tailStep, phase]
  apply LeadsTo.step
  rw [begins phase]
  apply LeadsTo.trans (leadsTo_polled rfl)
  rintro later ⟨atEnd, _, listed⟩
  apply LeadsTo.step
  rw [begins atEnd]
  refine ⟨0, fun segment => ?_⟩
  change later.listed segment = _
  rw [listed]
  change (after.content segment).length = _
  rw [content, files, ← content]

/-! ## Whole runs -/

/-- No run prints a record twice. A run whose steps lose no record prints each record
that is appended and matches, at the latest when the second round of polls is over
that began behind it; and these rounds always come. -/
theorem exactlyOnce_of_losesNone (query : LogQuery) (limit : Nat) (files : Segments)
    (steps : List LogStep) :
    ((Runs.run (LogSystem.step query limit) (start files) steps).sink.map Logged.key).Nodup ∧
    (Runs.Along (LogSystem.step query limit) (LosesNone query limit) (start files) steps →
      (Runs.run (LogSystem.step query limit) (start files) steps).ExactlyOnce query) ∧
    (Runs.run (LogSystem.step query limit) (start files) steps).LeadsTo query limit fun after =>
      ∀ segment, after.covered segment =
        ((Runs.run (LogSystem.step query limit) (start files) steps).content segment).length := by
  have keepsOnce (system : LogSystem) (step : LogStep) (inv : system.Once ∧ system.Sane) :
      (system.step query limit step).Once ∧ (system.step query limit step).Sane :=
    ⟨inv.1.step inv.2 step, inv.2.step step⟩
  have keepsFollows (system : LogSystem) (step : LogStep)
      (inv : system.Follows query ∧ system.Rounds ∧ system.Sane)
      (lossless : system.LosesNone query limit step) :
      (system.step query limit step).Follows query ∧ (system.step query limit step).Rounds ∧
        (system.step query limit step).Sane :=
    ⟨inv.1.step inv.2.2 step lossless, inv.2.1.step inv.2.2 step, inv.2.2.step step⟩
  have once : (Runs.run (LogSystem.step query limit) (start files) steps).Once ∧
      (Runs.run (LogSystem.step query limit) (start files) steps).Sane :=
    Runs.run_invariant keepsOnce steps ⟨once_start files, sane_start files⟩
  refine ⟨once.1.nodup, fun lossless => ⟨once.1.nodup, ?_⟩, leadsTo_covered query limit _⟩
  have follows : (Runs.run (LogSystem.step query limit) (start files) steps).Follows query ∧
      (Runs.run (LogSystem.step query limit) (start files) steps).Rounds ∧
      (Runs.run (LogSystem.step query limit) (start files) steps).Sane :=
    lossless.invariant keepsFollows
      ⟨follows_start files, rounds_start files, sane_start files⟩
  generalize Runs.run (LogSystem.step query limit) (start files) steps = system at follows
  obtain ⟨⟨_, kept⟩, rounds, sane⟩ := follows
  intro logged inside wanted covered
  have behind := covered.trans (rounds.covered logged.segment)
  have early := rounds.early
  have isKept := kept logged inside wanted
  rw [length_encodeRecord] at behind covered
  simp only [Kept] at isKept
  split at isKept
  · rename_i phase
    rw [phase] at early
    rw [early] at covered
    omega
  · rename_i phase
    rw [phase] at early
    rw [early] at covered
    omega
  · rcases isKept with printed | ⟨_, ahead⟩
    · exact printed
    · omega

end LogSystem

end Following

section Standard

open scoped Standard

def anyEntry : LogQuery := ⟨false, none, none, none, none, []⟩

/-- The seed reads the empty segment, then a record is appended to it, and only then its
length is taken. Two rounds of polls follow. -/
def gapRun : List LogStep :=
  [.tail, .tail, .append "00000001.rlog" startedEntry, .tail, .tail, .tail, .tail, .tail, .tail]

def gapEnd : LogSystem :=
  Runs.run (LogSystem.step anyEntry 200) (LogSystem.start (AList.singleton "00000001.rlog" []))
    gapRun

/-- The record is never printed. -/
theorem not_exactlyOnce_gap : ¬ gapEnd.ExactlyOnce anyEntry := by
  have lost : gapEnd.sink.length = 0 ∧ anyEntry.matches startedEntry ∧
      0 + (encodeRecord startedEntry).length ≤ gapEnd.covered "00000001.rlog" := by
    decide +kernel
  obtain ⟨empty, wanted, covered⟩ := lost
  have appended : gapEnd.appended = [⟨"00000001.rlog", 0, startedEntry⟩] := rfl
  rintro ⟨_, printed⟩
  have inside := printed ⟨"00000001.rlog", 0, startedEntry⟩
    (by rw [appended]; exact List.mem_singleton_self _) wanted covered
  rw [List.eq_nil_of_length_eq_zero empty] at inside
  exact absurd inside List.not_mem_nil

end Standard

end Rind
