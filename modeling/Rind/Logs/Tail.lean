import Mathlib.Data.List.Sort
import Rind.Data.Text
import Rind.Logs.Records
import Rind.Prog.Runs

/-!
# Following the log

`tail_logs` prints what stands in the segments, then takes the length of each
segment as the place to go on from, and from then on prints what is appended.
The logger appends records and creates segments at any time.  What is printed is
kept with its segment and place, so that one record can be told from another.
-/

namespace Rind

structure LogQuery where
  isExact : Bool
  level : Option LogLevel
  target : Option String
  message : Option String
  since : Option UInt64
  fields : List (String × String)

def levelRank : LogLevel → Nat
  | .trace => 0
  | .debug => 1
  | .info => 2
  | .warn => 3
  | .error => 4
  | .fatal => 5

def LogQuery.matches (query : LogQuery) (entry : LogEntry) : Bool :=
  (match query.level with
    | some minLevel =>
        if query.isExact then decide (entry.level = minLevel)
        else decide (levelRank minLevel ≤ levelRank entry.level)
    | none => true) &&
  (query.target.all fun target => Text.contains entry.target target) &&
  (query.message.all fun message => Text.contains entry.message message) &&
  (query.since.all fun since => decide (since ≤ entry.timestamp)) &&
  query.fields.all fun field => decide (entry.fields.lookup field.1 = some field.2)

structure TailCursor where
  offset : Nat
  carry : List UInt8
  deriving DecidableEq, Repr

/-- An entry with the segment and the place its record stands at. -/
structure Logged where
  segment : String
  start : Nat
  entry : LogEntry
  deriving DecidableEq

/-- What tells a record from others. -/
def Logged.key (logged : Logged) : String × Nat := (logged.segment, logged.start)

abbrev Segments : Type := AList fun _ : String => List UInt8

/-- `list_segments` of a directory. -/
def listSegments (files : Segments) : List String := files.keys.insertionSort (· ≤ ·)

/-- Where `tail_logs` is. -/
inductive TailPhase where
  | starting
  | seeding (todo : List String) (found : List Logged)
  | placing (todo : List String)
  | polling (todo : List String)

/-- The logger and `tail_logs`. -/
structure LogSystem where
  files : Segments
  phase : TailPhase
  cursors : AList fun _ : String => TailCursor
  sink : List Logged
  /-- What the logger has appended since the start. -/
  appended : List Logged
  /-- The lengths of the segments when the present round of polls began. -/
  listed : String → Nat
  /-- And when the round before it began. -/
  covered : String → Nat

inductive LogStep where
  | tail
  | append (segment : String) (entry : LogEntry)
  | create (segment : String)

namespace LogSystem

def start (files : Segments) : LogSystem :=
  ⟨files, .starting, ∅, [], [], fun _ => 0, fun _ => 0⟩

def content (system : LogSystem) (segment : String) : List UInt8 :=
  (system.files.lookup segment).getD []

def cursorOf (system : LogSystem) (segment : String) : TailCursor :=
  (system.cursors.lookup segment).getD ⟨0, []⟩

/-- The segments that have no place to go on from yet. -/
def Unplaced : TailPhase → String → Prop
  | .starting, _ => True
  | .seeding _ _, _ => True
  | .placing todo, segment => segment ∈ todo
  | .polling _, _ => False

variable {system : LogSystem}

theorem mem_listSegments {segment : String} (stands : system.content segment ≠ []) :
    segment ∈ listSegments system.files := by
  rw [listSegments, List.mem_insertionSort, ← AList.mem_keys]
  rw [content] at stands
  by_contra absent
  exact stands (by rw [AList.lookup_eq_none.mpr absent, Option.getD_none])

theorem listSegments_nodup (files : Segments) : (listSegments files).Nodup :=
  (List.perm_insertionSort _ _).nodup_iff.mpr files.keys_nodup

theorem content_insert {after : LogSystem} {segment : String} {data : List UInt8}
    (inserted : after.files = system.files.insert segment data) (other : String) :
    after.content other = if other = segment then data else system.content other := by
  rw [content, inserted]
  split
  · rename_i same
    subst same
    rw [AList.lookup_insert, Option.getD_some]
  · rename_i apart
    rw [AList.lookup_insert_ne apart]
    rfl

theorem cursorOf_insert {after : LogSystem} {segment : String} {cursor : TailCursor}
    (inserted : after.cursors = system.cursors.insert segment cursor) (other : String) :
    after.cursorOf other = if other = segment then cursor else system.cursorOf other := by
  rw [cursorOf, inserted]
  split
  · rename_i same
    subst same
    rw [AList.lookup_insert, Option.getD_some]
  · rename_i apart
    rw [AList.lookup_insert_ne apart]
    rfl

end LogSystem

section Tail

variable [Bincode LogEntry] [Crc32]

/-- The entries of some data that stands at a place of a segment. -/
def loggedIn (segment : String) (place : Nat) (data : List UInt8) : List Logged :=
  (recordScanner.scan place data).1.filterMap fun hit =>
    (Bincode.codec.decode hit.value).map fun entry => ⟨segment, hit.start, entry⟩

/-- `read_incremental`. -/
def readIncremental (segment : String) (content : List UInt8) (cursor : TailCursor) :
    List Logged × TailCursor :=
  let cursor := if content.length < cursor.offset then ⟨0, []⟩ else cursor
  let appended := content.drop cursor.offset
  if appended = [] then ([], cursor)
  else
    let merged := cursor.carry ++ appended
    (loggedIn segment (cursor.offset - cursor.carry.length) merged,
      ⟨cursor.offset + appended.length, merged.drop (decodeRecords merged).2⟩)

/-! ## What a read finds -/

/-- A read finds records in the order they stand in, within the data. -/
theorem mem_loggedIn {segment : String} {place : Nat} {data : List UInt8} {logged : Logged}
    (found : logged ∈ loggedIn segment place data) :
    logged.segment = segment ∧ place ≤ logged.start ∧
      logged.start < place + (decodeRecords data).2 := by
  obtain ⟨hit, hitFound, decoded⟩ := List.mem_filterMap.mp found
  obtain ⟨entry, _, rfl⟩ := Option.map_eq_some_iff.mp decoded
  have bounds := (Scanner.scan_bounds recordScanner _ _).2.2 hit hitFound
  have shift := Scanner.scan_shift recordScanner place 0 data
  rw [Nat.add_zero] at shift
  rw [shift] at bounds
  exact ⟨rfl, bounds⟩

theorem loggedIn_nodup (segment : String) (place : Nat) (data : List UInt8) :
    ((loggedIn segment place data).map Logged.key).Nodup := by
  have sorted := Scanner.scan_sorted recordScanner place data
  rw [List.Nodup, List.pairwise_map]
  apply sorted.filterMap
  intro first second before logged isFirst other isSecond
  obtain ⟨_, _, rfl⟩ := Option.map_eq_some_iff.mp isFirst
  obtain ⟨_, _, rfl⟩ := Option.map_eq_some_iff.mp isSecond
  intro same
  exact absurd (congrArg Prod.snd same) (Nat.ne_of_lt before)

/-- A record that the scan comes to is found. -/
theorem mem_loggedIn_of_reaches {segment : String} {data more : List UInt8} {start : Nat}
    {entry : LogEntry} (fits : entry.Fits)
    (stands : data.drop start = encodeRecord entry ++ more)
    (reaches : recordScanner.Reaches data (data.drop start)) :
    ⟨segment, start, entry⟩ ∈ loggedIn segment 0 data := by
  apply List.mem_filterMap.mpr
  use ⟨start, (encodeRecord entry).length, entry.payload⟩
  have inside : 0 < (data.drop start).length := by
    rw [stands, List.length_append, length_encodeRecord]
    omega
  rw [List.length_drop] at inside
  constructor
  · apply Scanner.mem_scan_iff.mpr
    refine ⟨data.drop start, reaches, ?_, ?_⟩
    · rw [List.length_drop]
      dsimp only
      omega
    · rw [stands]
      exact (readRecord_encodeRecord _ _).mpr fits
  · rw [LogEntry.payload, Codec.decode_write, Option.map_some]

/-- Records that stand one right after the other from some place to the end. -/
def Consecutive : Nat → List Logged → List UInt8 → Prop
  | _, [], data => data = []
  | place, logged :: rest, data =>
      logged.start = place ∧ logged.entry.Fits ∧
      ∃ later, data = encodeRecord logged.entry ++ later ∧
        Consecutive (place + (encodeRecord logged.entry).length) rest later

theorem Consecutive.append {place : Nat} {records : List Logged} {data : List UInt8}
    (consecutive : Consecutive place records data) (segment : String) {entry : LogEntry}
    (fits : entry.Fits) :
    Consecutive place (records ++ [⟨segment, place + data.length, entry⟩])
      (data ++ encodeRecord entry) := by
  induction records generalizing place data with
  | nil =>
      subst consecutive
      exact ⟨rfl, fits, [], (List.append_nil _).symm, rfl⟩
  | cons logged rest ih =>
      obtain ⟨starts, loggedFits, later, rfl, consecutive⟩ := consecutive
      refine ⟨starts, loggedFits, later ++ encodeRecord entry, List.append_assoc _ _ _, ?_⟩
      rw [List.length_append, ← Nat.add_assoc]
      exact ih consecutive

/-- They are all found, and nothing is left over. -/
theorem Consecutive.found {segment : String} {place : Nat} {records : List Logged}
    {data : List UInt8} (consecutive : Consecutive place records data)
    (same : ∀ logged ∈ records, logged.segment = segment) :
    (∀ logged ∈ records, logged ∈ loggedIn segment place data) ∧
      (recordScanner.scan place data).2 = place + data.length := by
  induction records generalizing place data with
  | nil =>
      subst consecutive
      exact ⟨fun logged inside => absurd inside List.not_mem_nil,
        congrArg Prod.snd (Scanner.scan_stop recordScanner.empty)⟩
  | cons logged rest ih =>
      obtain ⟨rfl, fits, later, rfl, consecutive⟩ := consecutive
      obtain ⟨sameSegment, others⟩ := List.forall_mem_cons.mp same
      obtain ⟨found, consumed⟩ := ih consecutive others
      have frame : recordScanner.read (encodeRecord logged.entry ++ later) =
          .frame logged.entry.payload (encodeRecord logged.entry).length :=
        (readRecord_encodeRecord _ _).mpr fits
      have decoded : Bincode.codec.decode logged.entry.payload = some logged.entry :=
        Codec.decode_write _ _
      rw [loggedIn, Scanner.scan_frame frame, List.drop_left, consumed, List.length_append,
        Nat.add_assoc]
      refine ⟨List.forall_mem_cons.mpr ⟨?_, ?_⟩, rfl⟩
      · rw [List.filterMap_cons_some (by rw [decoded, Option.map_some]), ← sameSegment]
        exact List.mem_cons_self
      · intro other inside
        rw [List.filterMap_cons_some (by rw [decoded, Option.map_some])]
        exact List.mem_cons_of_mem _ (found other inside)

/-- A poll brings the cursor to the end of the segment, finds no record twice and
none before the place it read from. -/
theorem readIncremental_bounds {segment : String} {content : List UInt8} {cursor : TailCursor}
    (within : cursor.offset ≤ content.length) (carried : cursor.carry.length ≤ cursor.offset) :
    let result := readIncremental segment content cursor
    result.2.offset = content.length ∧ result.2.carry.length ≤ content.length ∧
      cursor.offset - cursor.carry.length ≤ content.length - result.2.carry.length ∧
      (result.1.map Logged.key).Nodup ∧
      ∀ logged ∈ result.1, logged.segment = segment ∧
        cursor.offset - cursor.carry.length ≤ logged.start ∧
        logged.start < content.length - result.2.carry.length := by
  rw [readIncremental, if_neg (Nat.not_lt.mpr within)]
  by_cases nothing : content.drop cursor.offset = []
  · have end_ : content.length ≤ cursor.offset := List.drop_eq_nil_iff.mp nothing
    simp only [nothing, if_true]
    refine ⟨by omega, by omega, by omega, List.nodup_nil, ?_⟩
    intro logged inside
    exact absurd inside List.not_mem_nil
  · have merged : (cursor.carry ++ content.drop cursor.offset).length =
        cursor.carry.length + (content.length - cursor.offset) := by
      rw [List.length_append, List.length_drop]
    have bounds := Scanner.scan_bounds recordScanner 0
      (cursor.carry ++ content.drop cursor.offset)
    have consumed : (decodeRecords (cursor.carry ++ content.drop cursor.offset)).2 ≤
        cursor.carry.length + (content.length - cursor.offset) := by
      rw [← merged, ← Nat.zero_add (List.length _)]
      exact bounds.2.1
    simp only [nothing, if_false, List.length_drop, merged]
    refine ⟨by omega, by omega, by omega, loggedIn_nodup _ _ _, ?_⟩
    intro logged inside
    obtain ⟨sameSegment, after, before⟩ := mem_loggedIn inside
    exact ⟨sameSegment, after, by omega⟩

/-- Whole records are found as soon as they are appended, and nothing is carried over. -/
theorem readIncremental_consecutive {segment : String} {content : List UInt8}
    {cursor : TailCursor} {records : List Logged} (within : cursor.offset ≤ content.length)
    (carry : cursor.carry = [])
    (consecutive : Consecutive cursor.offset records (content.drop cursor.offset))
    (same : ∀ logged ∈ records, logged.segment = segment) :
    (∀ logged ∈ records, logged ∈ (readIncremental segment content cursor).1) ∧
      (readIncremental segment content cursor).2.carry = [] := by
  obtain ⟨found, consumed⟩ := consecutive.found same
  rw [readIncremental, if_neg (Nat.not_lt.mpr within)]
  by_cases nothing : content.drop cursor.offset = []
  · simp only [nothing, if_true]
    rw [nothing] at consecutive
    cases records with
    | nil =>
        constructor
        · intro logged inside
          exact absurd inside List.not_mem_nil
        · exact carry
    | cons logged rest =>
        obtain ⟨_, _, later, empty, _⟩ := consecutive
        have length := congrArg List.length empty
        rw [List.length_append, length_encodeRecord, List.length_nil] at length
        omega
  · simp only [nothing, if_false, carry, List.nil_append, List.length_nil, Nat.sub_zero]
    constructor
    · exact found
    · have shift := Scanner.scan_shift recordScanner cursor.offset 0
        (content.drop cursor.offset)
      rw [Nat.add_zero, Prod.ext_iff] at shift
      have all := shift.2
      rw [consumed] at all
      apply List.drop_eq_nil_of_le
      exact Nat.le_of_add_le_add_left (Nat.le_of_eq all)

namespace LogSystem

/-- `read_entries_once` reads a segment. -/
def seed (query : LogQuery) (segment : String) (todo : List String) (found : List Logged)
    (system : LogSystem) : LogSystem :=
  let entries := loggedIn segment 0 (system.content segment)
  { system with
    phase := .seeding todo (found ++ entries.filter fun logged => query.matches logged.entry) }

/-- The seed is printed, and the segments are listed again. -/
def endSeed (limit : Nat) (found : List Logged) (system : LogSystem) : LogSystem :=
  { system with
    phase := .placing (listSegments system.files)
    sink := system.sink ++ found.drop (found.length - limit) }

/-- The length of a segment is taken. -/
def place (segment : String) (todo : List String) (system : LogSystem) : LogSystem :=
  { system with
    phase := .placing todo
    cursors := system.cursors.insert segment ⟨(system.content segment).length, []⟩ }

/-- What a segment has grown by is printed. -/
def poll (query : LogQuery) (segment : String) (todo : List String) (system : LogSystem) :
    LogSystem :=
  let polled := readIncremental segment (system.content segment) (system.cursorOf segment)
  { system with
    phase := .polling todo
    cursors := system.cursors.insert segment polled.2
    sink := system.sink ++ polled.1.filter fun logged => query.matches logged.entry }

def beginRound (system : LogSystem) : LogSystem :=
  { system with
    phase := .polling (listSegments system.files)
    listed := fun segment => (system.content segment).length
    covered := system.listed }

/-- One step of `tail_logs`: the list of the segments, or one of them. -/
def tailStep (query : LogQuery) (limit : Nat) (system : LogSystem) : LogSystem :=
  match system.phase with
  | .starting => { system with phase := .seeding (listSegments system.files) [] }
  | .seeding (segment :: todo) found => system.seed query segment todo found
  | .seeding [] found => system.endSeed limit found
  | .placing (segment :: todo) => system.place segment todo
  | .placing [] => { system with phase := .polling [] }
  | .polling (segment :: todo) => system.poll query segment todo
  | .polling [] => system.beginRound

def step (query : LogQuery) (limit : Nat) (system : LogSystem) : LogStep → LogSystem
  | .tail => system.tailStep query limit
  | .append segment entry =>
      match system.files.lookup segment with
      | none => system
      | some content =>
          { system with
            files := system.files.insert segment (content ++ encodeRecord entry)
            appended := system.appended ++ [⟨segment, content.length, entry⟩] }
  | .create segment =>
      match system.files.lookup segment with
      | none => { system with files := system.files.insert segment [] }
      | some _ => system

/-- No record is printed twice, and every record that matches and stood in its
segment when the last round of polls that is over began has been printed. -/
def ExactlyOnce (query : LogQuery) (system : LogSystem) : Prop :=
  (system.sink.map Logged.key).Nodup ∧
    ∀ logged ∈ system.appended, query.matches logged.entry →
      logged.start + (encodeRecord logged.entry).length ≤ system.covered logged.segment →
      logged ∈ system.sink

/-- The step loses no record: a record that is appended fits its lengths, and goes
to a segment that the seed has still to read, and can get to the end of, or to
one that has its place already; and the limit cuts off none of the records that
have been appended. -/
def LosesNone (query : LogQuery) (limit : Nat) (system : LogSystem) : LogStep → Prop
  | .append segment entry =>
      entry.Fits ∧ (query.matches entry →
        let reachable := recordScanner.Reaches
          (system.content segment ++ encodeRecord entry) (encodeRecord entry)
        match system.phase with
        | .starting => reachable
        | .seeding todo _ => segment ∈ todo ∧ reachable
        | .placing todo => segment ∉ todo
        | .polling _ => True)
  | .tail =>
      match system.phase with
      | .seeding [] found =>
          ∀ logged ∈ found.take (found.length - limit), logged ∉ system.appended
      | _ => True
  | .create _ => True

/-! ## What a step changes -/

variable {system : LogSystem} {query : LogQuery} {limit : Nat}

omit [Bincode LogEntry] [Crc32] in
theorem place_cursorOf (segment : String) (todo : List String) (other : String) :
    (system.place segment todo).cursorOf other =
      if other = segment then ⟨(system.content segment).length, []⟩
      else system.cursorOf other :=
  cursorOf_insert rfl other

theorem poll_cursorOf (segment : String) (todo : List String) (other : String) :
    (system.poll query segment todo).cursorOf other =
      if other = segment then
        (readIncremental segment (system.content segment) (system.cursorOf segment)).2
      else system.cursorOf other :=
  cursorOf_insert rfl other

variable (system query limit) in
/-- The logger leaves `tail_logs` alone, and only adds to the end of a segment. -/
theorem logger_cases (step : LogStep) (logger : step ≠ .tail) :
    ((system.step query limit step).phase = system.phase ∧
      (system.step query limit step).cursorOf = system.cursorOf ∧
      (system.step query limit step).sink = system.sink ∧
      (system.step query limit step).listed = system.listed ∧
      (system.step query limit step).covered = system.covered) ∧
    ((system.step query limit step).content = system.content ∧
        (system.step query limit step).appended = system.appended ∨
      ∃ segment entry, step = .append segment entry ∧
        (∀ other, (system.step query limit step).content other =
          if other = segment then system.content segment ++ encodeRecord entry
          else system.content other) ∧
        (system.step query limit step).appended =
          system.appended ++ [⟨segment, (system.content segment).length, entry⟩]) := by
  cases step with
  | tail => exact absurd rfl logger
  | append segment entry =>
      rw [LogSystem.step]
      cases stands : system.files.lookup segment with
      | none => exact ⟨⟨rfl, rfl, rfl, rfl, rfl⟩, .inl ⟨rfl, rfl⟩⟩
      | some data =>
          have same : system.content segment = data := by
            rw [content, stands, Option.getD_some]
          refine ⟨⟨rfl, rfl, rfl, rfl, rfl⟩, .inr ⟨segment, entry, rfl, ?_, ?_⟩⟩
          · intro other
            rw [same]
            exact content_insert rfl other
          · rw [same]
  | create segment =>
      rw [LogSystem.step]
      cases stands : system.files.lookup segment with
      | none =>
          refine ⟨⟨rfl, rfl, rfl, rfl, rfl⟩, .inl ⟨?_, rfl⟩⟩
          funext other
          have inserted : ∀ after : LogSystem, after.files = system.files.insert segment [] →
              after.content other = if other = segment then [] else system.content other :=
            fun _ isInserted => content_insert isInserted other
          refine (inserted _ rfl).trans ?_
          split
          · rename_i same
            rw [same, content, stands, Option.getD_none]
          · rfl
      | some data => exact ⟨⟨rfl, rfl, rfl, rfl, rfl⟩, .inl ⟨rfl, rfl⟩⟩

variable (system query limit) in
/-- Segments only grow. -/
theorem content_step (step : LogStep) (segment : String) :
    system.content segment <+: (system.step query limit step).content segment := by
  by_cases tail : step = .tail
  · subst tail
    have same : (system.tailStep query limit).files = system.files := by
      rw [tailStep]
      split <;> rfl
    rw [LogSystem.step, content, content, same]
  · rcases (logger_cases system query limit step tail).2 with ⟨same, _⟩ | ⟨into, entry, _, grows, _⟩
    · rw [same]
    · rw [grows]
      split
      · rename_i same
        subst same
        exact List.prefix_append _ _
      · exact List.prefix_refl _

/-! ## No record is printed twice -/

/-- Places lie within the segments, and records too. -/
structure Sane (system : LogSystem) : Prop where
  offset (segment : String) :
    (system.cursorOf segment).offset ≤ (system.content segment).length
  carry (segment : String) :
    (system.cursorOf segment).carry.length ≤ (system.cursorOf segment).offset
  appended : ∀ logged ∈ system.appended,
    logged.start + (encodeRecord logged.entry).length ≤ (system.content logged.segment).length

theorem sane_start (files : Segments) : (start files).Sane where
  offset _ := Nat.zero_le _
  carry _ := Nat.le_refl _
  appended _ inside := absurd inside List.not_mem_nil

/-- A segment that is polled has its place at its end. -/
theorem Sane.poll (sane : system.Sane) (segment : String) {polled : List Logged × TailCursor}
    (isPolled : polled = readIncremental segment (system.content segment)
      (system.cursorOf segment)) :
    polled.2.offset = (system.content segment).length ∧
      polled.2.carry.length ≤ (system.content segment).length ∧
      (system.cursorOf segment).offset - (system.cursorOf segment).carry.length ≤
        (system.content segment).length - polled.2.carry.length ∧
      (polled.1.map Logged.key).Nodup ∧
      ∀ logged ∈ polled.1, logged.segment = segment ∧
        (system.cursorOf segment).offset - (system.cursorOf segment).carry.length ≤
          logged.start ∧
        logged.start < (system.content segment).length - polled.2.carry.length := by
  subst isPolled
  exact readIncremental_bounds (sane.offset segment) (sane.carry segment)

theorem Sane.step (sane : system.Sane) (step : LogStep) :
    (system.step query limit step).Sane := by
  by_cases tail : step = .tail
  · subst tail
    rw [LogSystem.step, tailStep]
    split
    · exact ⟨sane.offset, sane.carry, sane.appended⟩
    · exact ⟨sane.offset, sane.carry, sane.appended⟩
    · exact ⟨sane.offset, sane.carry, sane.appended⟩
    · rename_i segment todo _
      refine ⟨fun other => ?_, fun other => ?_, sane.appended⟩
      · rw [place_cursorOf]
        split
        · rename_i same
          rw [same]
          exact Nat.le_refl _
        · exact sane.offset other
      · rw [place_cursorOf]
        split
        · exact Nat.zero_le _
        · exact sane.carry other
    · exact ⟨sane.offset, sane.carry, sane.appended⟩
    · rename_i segment todo _
      obtain ⟨offset, carry, _⟩ := sane.poll segment rfl
      refine ⟨fun other => ?_, fun other => ?_, sane.appended⟩
      · rw [poll_cursorOf]
        split
        · rename_i same
          rw [same]
          exact Nat.le_of_eq offset
        · exact sane.offset other
      · rw [poll_cursorOf]
        split
        · rw [offset]
          exact carry
        · exact sane.carry other
    · exact ⟨sane.offset, sane.carry, sane.appended⟩
  · obtain ⟨⟨_, cursor, _⟩, changes⟩ := logger_cases system query limit step tail
    have grows (segment : String) := (content_step system query limit step segment).length_le
    constructor
    · intro segment
      rw [cursor]
      exact (sane.offset segment).trans (grows segment)
    · intro segment
      rw [cursor]
      exact sane.carry segment
    · intro logged inside
      rcases changes with ⟨_, same⟩ | ⟨segment, entry, _, content, same⟩
      · rw [same] at inside
        exact (sane.appended logged inside).trans (grows logged.segment)
      · rw [same] at inside
        rcases List.mem_append.mp inside with old | new
        · exact (sane.appended logged old).trans (grows logged.segment)
        · rw [List.mem_singleton.mp new, content, if_pos rfl, List.length_append]

/-- The seed reads each segment once, and polls go on behind what was printed. -/
structure Once (system : LogSystem) : Prop where
  seeds : match system.phase with
    | .starting => system.sink = []
    | .seeding todo found =>
        system.sink = [] ∧ todo.Nodup ∧ (found.map Logged.key).Nodup ∧
          ∀ logged ∈ found, logged.segment ∉ todo ∧
            logged.start < (system.content logged.segment).length
    | _ => True
  nodup : (system.sink.map Logged.key).Nodup
  printed : ∀ logged ∈ system.sink, logged.start < (system.content logged.segment).length ∧
    (¬ Unplaced system.phase logged.segment →
      logged.start < (system.cursorOf logged.segment).offset -
        (system.cursorOf logged.segment).carry.length)

omit [Bincode LogEntry] [Crc32] in
theorem once_start (files : Segments) : (start files).Once where
  seeds := rfl
  nodup := List.nodup_nil
  printed _ inside := absurd inside List.not_mem_nil

omit [Bincode LogEntry] [Crc32] in
/-- What is found in other places is not found twice. -/
theorem nodup_keys_append {first second : List Logged} (one : (first.map Logged.key).Nodup)
    (two : (second.map Logged.key).Nodup)
    (apart : ∀ left ∈ first, ∀ right ∈ second, left.segment = right.segment →
      left.start ≠ right.start) :
    ((first ++ second).map Logged.key).Nodup := by
  rw [List.map_append]
  apply one.append two
  intro key inFirst inSecond
  obtain ⟨left, isLeft, rfl⟩ := List.mem_map.mp inFirst
  obtain ⟨right, isRight, same⟩ := List.mem_map.mp inSecond
  exact apart left isLeft right isRight (congrArg Prod.fst same).symm (congrArg Prod.snd same).symm

theorem Once.seed (once : system.Once) {segment : String} {todo : List String}
    {found : List Logged} (phase : system.phase = .seeding (segment :: todo) found) :
    (system.seed query segment todo found).Once := by
  obtain ⟨seeds, nodup, printed⟩ := once
  rw [phase] at seeds
  obtain ⟨empty, todoNodup, foundNodup, foundPlaces⟩ := seeds
  obtain ⟨fresh, restNodup⟩ := List.nodup_cons.mp todoNodup
  have entries (logged : Logged) (inside : logged ∈ (loggedIn segment 0
      (system.content segment)).filter fun logged => query.matches logged.entry) :
      logged.segment = segment ∧ logged.start < (system.content segment).length := by
    obtain ⟨same, _, before⟩ := mem_loggedIn (List.mem_of_mem_filter inside)
    have within := (Scanner.scan_bounds recordScanner 0 (system.content segment)).2.1
    rw [Nat.zero_add] at within before
    exact ⟨same, before.trans_le within⟩
  refine ⟨⟨empty, restNodup, ?_, ?_⟩, nodup, fun logged inside =>
    ⟨(printed logged inside).1, fun placed => absurd trivial placed⟩⟩
  · apply nodup_keys_append foundNodup
    · exact (loggedIn_nodup _ _ _).sublist (List.filter_sublist.map _)
    · intro left isLeft right isRight same
      have other := (foundPlaces left isLeft).1
      rw [same, (entries right isRight).1] at other
      exact absurd List.mem_cons_self other
  · intro logged inside
    rcases List.mem_append.mp inside with old | new
    · obtain ⟨apart, before⟩ := foundPlaces logged old
      exact ⟨fun listed => apart (List.mem_cons_of_mem _ listed), before⟩
    · obtain ⟨rfl, before⟩ := entries logged new
      exact ⟨fresh, before⟩

omit [Bincode LogEntry] [Crc32] in
theorem Once.endSeed (once : system.Once) {found : List Logged}
    (phase : system.phase = .seeding [] found) : (system.endSeed limit found).Once := by
  obtain ⟨seeds, _, _⟩ := once
  rw [phase] at seeds
  obtain ⟨empty, _, foundNodup, foundPlaces⟩ := seeds
  have sink : (system.endSeed limit found).sink = found.drop (found.length - limit) := by
    change system.sink ++ found.drop (found.length - limit) = _
    rw [empty, List.nil_append]
  have kept (logged : Logged) (inside : logged ∈ (system.endSeed limit found).sink) :
      logged.start < (system.content logged.segment).length := by
    rw [sink] at inside
    exact (foundPlaces logged (List.mem_of_mem_drop inside)).2
  refine ⟨trivial, ?_, fun logged inside => ⟨kept logged inside, fun placed => ?_⟩⟩
  · rw [sink]
    exact foundNodup.sublist ((List.drop_sublist _ _).map _)
  · apply absurd (mem_listSegments _) placed
    intro nothing
    have before := kept logged inside
    rw [nothing] at before
    exact absurd before (Nat.not_lt_zero _)

omit [Bincode LogEntry] [Crc32] in
theorem Once.place (once : system.Once) {segment : String} {todo : List String}
    (phase : system.phase = .placing (segment :: todo)) : (system.place segment todo).Once := by
  obtain ⟨_, nodup, printed⟩ := once
  refine ⟨trivial, nodup, fun logged inside => ⟨(printed logged inside).1, fun placed => ?_⟩⟩
  rw [place_cursorOf]
  split
  · rename_i same
    rw [← same]
    exact (printed logged inside).1
  · rename_i apart
    apply (printed logged inside).2
    rw [phase]
    intro listed
    cases List.mem_cons.mp listed with
    | inl same => exact apart same
    | inr listed => exact placed listed

theorem Once.poll (once : system.Once) (sane : system.Sane) {segment : String}
    {todo : List String} (phase : system.phase = .polling (segment :: todo)) :
    (system.poll query segment todo).Once := by
  obtain ⟨_, nodup, printed⟩ := once
  obtain ⟨offset, carry, behind, polledNodup, entries⟩ := sane.poll segment rfl
  have before (logged : Logged) (inside : logged ∈ system.sink) :
      logged.start < (system.cursorOf logged.segment).offset -
        (system.cursorOf logged.segment).carry.length := by
    apply (printed logged inside).2
    rw [phase]
    exact not_false
  refine ⟨trivial, ?_, fun logged inside => ?_⟩
  · apply nodup_keys_append nodup
    · exact polledNodup.sublist (List.filter_sublist.map _)
    · intro left isLeft right isRight same
      obtain ⟨place, after, _⟩ := entries right (List.mem_of_mem_filter isRight)
      have leftBefore := before left isLeft
      rw [same, place] at leftBefore
      omega
  · rw [poll_cursorOf]
    rcases List.mem_append.mp inside with old | new
    · refine ⟨(printed logged old).1, fun _ => ?_⟩
      have oldBefore := before logged old
      split
      · rename_i same
        rw [same] at oldBefore
        omega
      · exact oldBefore
    · obtain ⟨rfl, _, inContent⟩ := entries logged (List.mem_of_mem_filter new)
      refine ⟨inContent.trans_le (Nat.sub_le _ _), fun _ => ?_⟩
      rw [if_pos rfl, offset]
      exact inContent

theorem Once.tail (once : system.Once) (sane : system.Sane) :
    (system.tailStep query limit).Once := by
  rw [tailStep]
  split
  · rename_i phase
    obtain ⟨seeds, nodup, printed⟩ := once
    rw [phase] at seeds
    exact ⟨⟨seeds, listSegments_nodup _, List.nodup_nil,
      fun _ inside => absurd inside List.not_mem_nil⟩, nodup, fun logged inside =>
        ⟨(printed logged inside).1, fun placed => absurd trivial placed⟩⟩
  · rename_i phase
    exact once.seed phase
  · rename_i phase
    exact once.endSeed phase
  · rename_i phase
    exact once.place phase
  · rename_i phase
    refine ⟨trivial, once.nodup, fun logged inside =>
      ⟨(once.printed logged inside).1, fun _ => (once.printed logged inside).2 ?_⟩⟩
    rw [phase]
    exact List.not_mem_nil
  · rename_i phase
    exact once.poll sane phase
  · rename_i phase
    refine ⟨trivial, once.nodup, fun logged inside =>
      ⟨(once.printed logged inside).1, fun _ => (once.printed logged inside).2 ?_⟩⟩
    rw [phase]
    exact not_false

/-- No step makes `tail_logs` print a record twice. -/
theorem Once.step (once : system.Once) (sane : system.Sane) (step : LogStep) :
    (system.step query limit step).Once := by
  by_cases tail : step = .tail
  · subst tail
    exact once.tail sane
  · obtain ⟨⟨phase, cursor, sink, _⟩, _⟩ := logger_cases system query limit step tail
    have grows (segment : String) := (content_step system query limit step segment).length_le
    obtain ⟨seeds, nodup, printed⟩ := once
    constructor
    · rw [phase, sink]
      split
      · rename_i atPhase
        rw [atPhase] at seeds
        exact seeds
      · rename_i todo found atPhase
        rw [atPhase] at seeds
        obtain ⟨empty, todoNodup, foundNodup, places⟩ := seeds
        refine ⟨empty, todoNodup, foundNodup, fun logged inside => ?_⟩
        obtain ⟨apart, before⟩ := places logged inside
        exact ⟨apart, before.trans_le (grows _)⟩
      · trivial
    · rw [sink]
      exact nodup
    · intro logged inside
      rw [sink] at inside
      rw [phase, cursor]
      exact ⟨(printed logged inside).1.trans_le (grows _), (printed logged inside).2⟩

end LogSystem

end Tail

end Rind
