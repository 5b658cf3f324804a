import Rind.Data.Buffering
import Rind.Logs.Records
import Rind.Prog.Runs

/-!
# The logger

The logger appends each entry to a segment, and goes on to the next segment when enough has been
written.  It begins with the first segment again each time the daemon starts.  What the calls of the
kernel accept may fall short at any point: entries that could not be written are left out, and a
segment is read as far as it has got.
-/

namespace Rind

open Runs

section Format

variable [Bincode LogEntry] [Crc32]

/-! ## Segments that are cut -/

/-- The records of some entries, one after the other. -/
def recordsOf (entries : List LogEntry) : List UInt8 := entries.flatMap encodeRecord

@[simp] theorem recordsOf_append (front back : List LogEntry) :
    recordsOf (front ++ back) = recordsOf front ++ recordsOf back := List.flatMap_append

@[simp] theorem recordsOf_singleton (entry : LogEntry) : recordsOf [entry] = encodeRecord entry :=
  List.flatMap_singleton _ _

/-- The reader finds a record and goes on behind it. -/
theorem decode_encodeRecord {entry : LogEntry} (fits : entry.Fits) (rest : List UInt8) :
    (decodeRecords (encodeRecord entry ++ rest)).1 = entry :: (decodeRecords rest).1 := by
  have frame : recordScanner.read (encodeRecord entry ++ rest) =
      .frame entry.payload (encodeRecord entry).length :=
    (readRecord_encodeRecord entry rest).mpr fits
  have decoded : Bincode.codec.decode entry.payload = some entry := Codec.decode_write _ _
  have shift := Scanner.scan_shift recordScanner (0 + (encodeRecord entry).length) 0 rest
  rw [Nat.add_zero] at shift
  simp only [decodeRecords, Scanner.scan_frame frame, List.drop_left, List.filterMap_cons, decoded,
    shift, List.filterMap_map]
  rfl

/-- It finds nothing in a record that is cut. -/
theorem decode_cut {entry : LogEntry} (fits : entry.Fits) {front : List UInt8}
    (begins : front <+: encodeRecord entry) (cut : front.length < (encodeRecord entry).length) :
    (decodeRecords front).1 = [] := by
  obtain ⟨back, whole⟩ := begins
  have frame := (readRecord_encodeRecord entry []).mpr fits
  rw [List.append_nil, ← whole] at frame
  have stops : recordScanner.read front = .stop := Scanner.stop_of_cut frame (whole ▸ cut)
  simp [decodeRecords, Scanner.scan_stop stops]

theorem decode_recordsOf {entries : List LogEntry} (fits : ∀ entry ∈ entries, entry.Fits) :
    (decodeRecords (recordsOf entries)).1 = entries := by
  induction entries with
  | nil => rfl
  | cons entry rest ih =>
      obtain ⟨first, others⟩ := List.forall_mem_cons.mp fits
      rw [recordsOf, List.flatMap_cons, decode_encodeRecord first, ← recordsOf, ih others]

/-- Wherever the records are cut, the reader finds the first of them. -/
theorem decode_begins {entries : List LogEntry} (fits : ∀ entry ∈ entries, entry.Fits)
    {data : List UInt8} (begins : data <+: recordsOf entries) :
    (decodeRecords data).1 <+: entries := by
  induction entries generalizing data with
  | nil =>
      rw [List.prefix_nil.mp begins]
      exact List.prefix_rfl
  | cons entry rest ih =>
      obtain ⟨first, others⟩ := List.forall_mem_cons.mp fits
      have start : encodeRecord entry <+: recordsOf (entry :: rest) := List.prefix_append _ _
      rcases Nat.lt_or_ge data.length (encodeRecord entry).length with cut | long
      · have within := List.prefix_of_prefix_length_le begins start cut.le
        rw [decode_cut first within cut]
        exact List.nil_prefix
      · obtain ⟨later, rfl⟩ := List.prefix_of_prefix_length_le start begins long
        rw [decode_encodeRecord first]
        exact (List.prefix_cons_inj _).mpr
          (ih others ((List.prefix_append_right_inj _).mp begins))

end Format

/-! ## The source's loop -/

/-- `LogConfig`, as far as the segments go. -/
structure LogConfig where
  segmentMaxBytes : Nat

/-- What `open_segment` opens. -/
inductive LogFile where
  | segment (id : Nat)
  | fallback
  | devNull
  deriving DecidableEq

/-- The capacity of a `BufWriter`. -/
def bufSize : Nat := 8192

/-- How much the kernel accepts in a round: of the buffer and past it when the record is written, of
the flush behind it, and of the two flushes when the segment is left; and what can be opened. -/
structure LogCalls where
  flushed : Nat
  direct : Nat
  kept : Nat
  last : Nat
  dropped : Nat
  segmentOpens : Bool
  fallbackOpens : Bool

/-- `open_segment` -/
def openSegment (calls : LogCalls) (id : Nat) : LogFile :=
  if calls.segmentOpens then .segment id else if calls.fallbackOpens then .fallback else .devNull

/-- An entry that has been written, with the run of the daemon, the segment and the file. -/
structure Accepted where
  session : Nat
  segmentId : Nat
  file : LogFile
  entry : LogEntry

/-- The runs of the daemon in order, and within a run the segments. -/
def Accepted.Before (first second : Accepted) : Prop :=
  first.session < second.session ∨
    first.session = second.session ∧ first.segmentId ≤ second.segmentId

/-- The logger and the files. -/
structure Logger where
  segmentId : Nat
  written : Nat
  file : LogFile
  buf : List UInt8
  files : LogFile → List UInt8
  session : Nat
  accepted : List Accepted

/-- An entry is received, no entry is received in time, or the daemon starts anew. -/
inductive LoggerStep where
  | entry (entry : LogEntry) (calls : LogCalls)
  | timeout (accepts : Nat)
  | restart (calls : LogCalls)

namespace Logger

/-- The first start of a daemon, without any files. -/
def start (calls : LogCalls) : Logger := ⟨1, 0, openSegment calls 1, [], fun _ => [], 0, []⟩

def writer (logger : Logger) : BufWriter UInt8 := ⟨logger.files logger.file, logger.buf⟩

def setWriter (writer : BufWriter UInt8) (logger : Logger) : Logger :=
  { logger with files := Function.update logger.files logger.file writer.file, buf := writer.buf }

def flush (accepts : Nat) (logger : Logger) : Logger :=
  logger.setWriter (logger.writer.flush accepts).2

/-- The writer of the segment is flushed and dropped, and the next segment opened. -/
def rotate (calls : LogCalls) (logger : Logger) : Logger :=
  let logger := (logger.flush calls.last).flush calls.dropped
  { logger with
    segmentId := logger.segmentId + 1
    file := openSegment calls (logger.segmentId + 1)
    written := 0
    buf := [] }

section Rounds

variable [Bincode LogEntry] [Crc32] (config : LogConfig)

/-- The record of an entry has been written. -/
def accept (writer : BufWriter UInt8) (entry : LogEntry) (logger : Logger) : Logger :=
  { logger.setWriter writer with
    written := logger.written + (encodeRecord entry).length
    accepted := logger.accepted ++ [⟨logger.session, logger.segmentId, logger.file, entry⟩] }

/-- A round of `logger_loop`. -/
def step (logger : Logger) : LoggerStep → Logger
  | .entry entry calls =>
      match logger.writer.writeAll bufSize calls.flushed calls.direct (encodeRecord entry) with
      | (false, writer) => logger.setWriter writer
      | (true, writer) =>
          let logger := (logger.accept writer entry).flush calls.kept
          if config.segmentMaxBytes ≤ logger.written then logger.rotate calls else logger
  | .timeout accepts => logger.flush accepts
  | .restart calls =>
      { logger with
        segmentId := 1
        written := 0
        file := openSegment calls 1
        buf := []
        session := logger.session + 1 }

/-- The entries that have been written to a file. -/
def acceptedIn (file : LogFile) (logger : Logger) : List LogEntry :=
  (logger.accepted.filter (·.file = file)).map Accepted.entry

/-- A file holds all records that have been written to it. -/
def Intact (file : LogFile) (logger : Logger) : Prop :=
  logger.files file = recordsOf (logger.acceptedIn file)

/-- A step that changes the file goes on with one that is intact. -/
def OpensIntact (before after : Logger) : Prop :=
  after.segmentId = before.segmentId ∧ after.session = before.session ∨ after.Intact after.file

/-- No record is torn or too long, and no file is opened again that was left cut. -/
def Sound (logger : Logger) (label : LoggerStep) : Prop :=
  OpensIntact logger (logger.step config label) ∧
    match label with
    | .entry entry calls =>
        entry.Fits ∧ ¬ BufWriter.Tears bufSize calls.direct (encodeRecord entry)
    | _ => True

/-! ## What is read -/

/-- What is written and what waits for it are the records of a file, and each other file holds the
first of its records. -/
structure Faithful (logger : Logger) : Prop where
  writing : logger.writer.whole = recordsOf (logger.acceptedIn logger.file)
  left : ∀ file ≠ logger.file, logger.files file <+: recordsOf (logger.acceptedIn file)
  fits : ∀ accepted ∈ logger.accepted, accepted.entry.Fits

variable {config} {logger : Logger} {writer : BufWriter UInt8}

omit [Bincode LogEntry] [Crc32] in
@[simp] theorem writer_setWriter : (logger.setWriter writer).writer = writer := by
  simp [Logger.writer, setWriter]

@[simp] theorem writer_accept (entry : LogEntry) :
    (logger.accept writer entry).writer = writer := by
  simp [Logger.writer, accept, setWriter]

omit [Bincode LogEntry] [Crc32] in
@[simp] theorem files_setWriter {file : LogFile} (other : file ≠ logger.file) :
    (logger.setWriter writer).files file = logger.files file := Function.update_of_ne other _ _

/-- Each file holds the first of its records. -/
theorem Faithful.files_prefix (faithful : logger.Faithful) (file : LogFile) :
    logger.files file <+: recordsOf (logger.acceptedIn file) := by
  by_cases same : file = logger.file
  · subst same
    rw [← faithful.writing]
    exact logger.writer.file_prefix_whole
  · exact faithful.left file same

theorem Faithful.setWriter (faithful : logger.Faithful)
    (same : writer.whole = logger.writer.whole) : (logger.setWriter writer).Faithful := by
  refine ⟨?_, ?_, faithful.fits⟩
  · rw [writer_setWriter, same]
    exact faithful.writing
  · intro file other
    have kept : (logger.setWriter writer).files file = logger.files file := files_setWriter other
    rw [kept]
    exact faithful.left file other

theorem Faithful.flush (faithful : logger.Faithful) (accepts : Nat) :
    (logger.flush accepts).Faithful :=
  faithful.setWriter (BufWriter.whole_flush _ _)

theorem acceptedIn_accept_self (entry : LogEntry) :
    (logger.accept writer entry).acceptedIn logger.file =
      logger.acceptedIn logger.file ++ [entry] := by
  simp [acceptedIn, accept]

theorem acceptedIn_accept_of_ne {file : LogFile} (other : file ≠ logger.file) (entry : LogEntry) :
    (logger.accept writer entry).acceptedIn file = logger.acceptedIn file := by
  simp [acceptedIn, accept, Ne.symm other]

theorem Faithful.accept (faithful : logger.Faithful) {entry : LogEntry} (fits : entry.Fits)
    (written : writer.whole = logger.writer.whole ++ encodeRecord entry) :
    (logger.accept writer entry).Faithful := by
  refine ⟨?_, ?_, ?_⟩
  · have same : (logger.accept writer entry).file = logger.file := rfl
    rw [writer_accept, same, acceptedIn_accept_self, recordsOf_append, recordsOf_singleton, written,
      faithful.writing]
  · intro file (other : file ≠ logger.file)
    have kept : (logger.accept writer entry).files file = logger.files file := files_setWriter other
    rw [kept, acceptedIn_accept_of_ne other]
    exact faithful.left file other
  · intro accepted listed
    rcases List.mem_append.mp listed with old | new
    · exact faithful.fits accepted old
    · rw [List.mem_singleton.mp new]
      exact fits

/-- A file is opened that is intact. -/
theorem Faithful.opened (faithful : logger.Faithful) {after : Logger}
    (files : after.files = logger.files) (accepted : after.accepted = logger.accepted)
    (empty : after.buf = []) (intact : after.Intact after.file) : after.Faithful := by
  have entries (file : LogFile) : after.acceptedIn file = logger.acceptedIn file := by
    rw [acceptedIn, acceptedIn, accepted]
  refine ⟨?_, ?_, accepted ▸ faithful.fits⟩
  · rw [BufWriter.whole, Logger.writer, empty, List.append_nil]
    exact intact
  · intro file other
    rw [files, entries]
    exact faithful.files_prefix file

theorem Faithful.step (faithful : logger.Faithful) {label : LoggerStep}
    (sound : logger.Sound config label) : (logger.step config label).Faithful := by
  obtain ⟨opens, sound⟩ := sound
  cases label with
  | timeout accepts => exact faithful.flush accepts
  | restart calls =>
      refine faithful.opened rfl rfl rfl (opens.resolve_left fun same => ?_)
      exact absurd same.2 (Nat.succ_ne_self _)
  | entry entry calls =>
      have writes : BufWriter.Writes logger.writer (encodeRecord entry)
          (logger.writer.writeAll bufSize calls.flushed calls.direct (encodeRecord entry)) :=
        BufWriter.writes_writeAll sound.2
      rw [Logger.step] at opens ⊢
      generalize logger.writer.writeAll bufSize calls.flushed calls.direct (encodeRecord entry) =
        result at writes opens ⊢
      cases writes with
      | nothing whole => exact faithful.setWriter whole
      | all whole =>
          have accepted := (faithful.accept sound.1 whole).flush calls.kept
          dsimp only at opens ⊢
          split
          · rename_i full
            rw [if_pos full] at opens
            refine ((accepted.flush calls.last).flush calls.dropped).opened rfl rfl rfl ?_
            refine opens.resolve_left fun same => ?_
            exact absurd same.1 (Nat.succ_ne_self _)
          · exact accepted

theorem faithful_start (calls : LogCalls) : (start calls).Faithful :=
  ⟨rfl, fun _ _ => List.nil_prefix, nofun⟩

/-- Whatever calls fall short, each file reads as the first of the entries that were written to it,
in this order and once each, and as all of them where nothing waits in the buffer. -/
theorem files_read (config : LogConfig) (calls : LogCalls) (labels : List LoggerStep)
    (sound : Along (step config) (Sound config) (start calls) labels) (file : LogFile) :
    let logger := Runs.run (step config) (start calls) labels
    (decodeRecords (logger.files file)).1 <+: logger.acceptedIn file ∧
      (logger.Intact file → (decodeRecords (logger.files file)).1 = logger.acceptedIn file) ∧
      (logger.file = file → logger.buf = [] → logger.Intact file) := by
  have keeps : ∀ (logger : Logger) (label : LoggerStep), logger.Faithful →
      logger.Sound config label → (logger.step config label).Faithful :=
    fun _ _ faithful sound => faithful.step sound
  have faithful := sound.invariant keeps (faithful_start calls)
  dsimp only
  generalize Runs.run (step config) (start calls) labels = logger at faithful ⊢
  have fits : ∀ entry ∈ logger.acceptedIn file, entry.Fits := by
    intro entry listed
    obtain ⟨accepted, inFile, rfl⟩ := List.mem_map.mp listed
    exact faithful.fits accepted (List.mem_of_mem_filter inFile)
  refine ⟨decode_begins fits (faithful.files_prefix file), ?_, ?_⟩
  · intro intact
    rw [intact, decode_recordsOf fits]
  · rintro rfl empty
    have whole := faithful.writing
    rwa [BufWriter.whole, Logger.writer, empty, List.append_nil] at whole

/-! ## How segments are divided -/

/-- The entries that one run of the daemon has written to a segment. -/
def part (session segmentId : Nat) (logger : Logger) : List LogEntry :=
  (logger.accepted.filter fun accepted =>
    accepted.session = session ∧ accepted.segmentId = segmentId).map Accepted.entry

/-- The bytes of some entries. -/
def size (entries : List LogEntry) : Nat := (recordsOf entries).length

omit [Bincode LogEntry] [Crc32] in
/-- A segment that a run of the daemon has left for a later one. -/
def Left (session segmentId : Nat) (logger : Logger) : Prop :=
  1 ≤ segmentId ∧ (session = logger.session ∧ segmentId < logger.segmentId ∨
    ∃ accepted ∈ logger.accepted, accepted.session = session ∧ segmentId < accepted.segmentId)

/-- Each run of the daemon goes through its segments in order, and leaves a segment with the record
that fills it. -/
structure Divided (config : LogConfig) (logger : Logger) : Prop where
  ordered : logger.accepted.Pairwise Accepted.Before
  full : ∀ session segmentId, logger.Left session segmentId →
    config.segmentMaxBytes ≤ size (logger.part session segmentId)
  snug : ∀ session segmentId, (logger.part session segmentId).dropLast = [] ∨
    size (logger.part session segmentId).dropLast < config.segmentMaxBytes

/-- And it counts what it has written to the segment it is at. -/
structure Counting (config : LogConfig) (logger : Logger) : Prop extends Divided config logger where
  first : 1 ≤ logger.segmentId
  present : ∀ accepted ∈ logger.accepted, accepted.session < logger.session ∨
    accepted.session = logger.session ∧ accepted.segmentId ≤ logger.segmentId
  counted : logger.written = size (logger.part logger.session logger.segmentId)

/-- The segment it is at is not full. -/
def Room (config : LogConfig) (logger : Logger) : Prop :=
  logger.part logger.session logger.segmentId = [] ∨ logger.written < config.segmentMaxBytes

theorem part_accept (session segmentId : Nat) (entry : LogEntry) :
    (logger.accept writer entry).part session segmentId = logger.part session segmentId ++
      if logger.session = session ∧ logger.segmentId = segmentId then [entry] else [] := by
  rw [part, part]
  split <;> simp_all [accept]

theorem Counting.congr {after : Logger} (counting : logger.Counting config)
    (segmentId : after.segmentId = logger.segmentId) (session : after.session = logger.session)
    (written : after.written = logger.written) (accepted : after.accepted = logger.accepted) :
    after.Counting config := by
  obtain ⟨⟨ordered, full, snug⟩, first, present, counted⟩ := counting
  cases after
  cases logger
  dsimp only at segmentId session written accepted
  subst segmentId session written accepted
  exact ⟨⟨ordered, full, snug⟩, first, present, counted⟩

theorem Counting.accept (counting : logger.Counting config) (room : logger.Room config)
    (entry : LogEntry) : (logger.accept writer entry).Counting config := by
  refine ⟨⟨?_, ?_, ?_⟩, counting.first, ?_, ?_⟩
  · refine List.pairwise_append.mpr ⟨counting.ordered, List.pairwise_singleton _ _, ?_⟩
    intro accepted listed new isNew
    rw [List.mem_singleton.mp isNew]
    exact counting.present accepted listed
  · rintro session segmentId ⟨some, left⟩
    have before : logger.Left session segmentId := by
      refine ⟨some, ?_⟩
      rcases left with current | ⟨accepted, listed, same, later⟩
      · exact .inl current
      · rcases List.mem_append.mp listed with old | new
        · exact .inr ⟨accepted, old, same, later⟩
        · rw [List.mem_singleton.mp new] at same later
          exact .inl ⟨same.symm, later⟩
    refine (counting.full session segmentId before).trans ?_
    rw [part_accept, size, size, recordsOf_append, List.length_append]
    exact Nat.le_add_right _ _
  · intro session segmentId
    rw [part_accept]
    split
    · rename_i here
      rw [List.dropLast_concat, ← here.1, ← here.2, ← counting.counted]
      exact room
    · rw [List.append_nil]
      exact counting.snug session segmentId
  · intro accepted listed
    rcases List.mem_append.mp listed with old | new
    · exact counting.present accepted old
    · rw [List.mem_singleton.mp new]
      exact .inr ⟨rfl, le_rfl⟩
  · have here : (logger.accept writer entry).part logger.session logger.segmentId =
        logger.part logger.session logger.segmentId ++ [entry] := by
      rw [part_accept, if_pos ⟨rfl, rfl⟩]
    change logger.written + (encodeRecord entry).length =
      size ((logger.accept writer entry).part logger.session logger.segmentId)
    rw [here, counting.counted, size, size, recordsOf_append, recordsOf_singleton,
      List.length_append]

theorem Counting.flush (counting : logger.Counting config) (accepts : Nat) :
    (logger.flush accepts).Counting config := counting.congr rfl rfl rfl rfl

/-- No entry has been written to a later segment. -/
theorem Counting.part_later (counting : logger.Counting config) {session segmentId : Nat}
    (later : logger.session < session ∨
      logger.session = session ∧ logger.segmentId < segmentId) :
    logger.part session segmentId = [] := by
  rw [part, List.map_eq_nil_iff, List.filter_eq_nil_iff]
  intro accepted listed
  have present := counting.present accepted listed
  simp only [decide_eq_true_eq]
  omega

theorem Counting.rotate (counting : logger.Counting config)
    (filled : config.segmentMaxBytes ≤ logger.written) (calls : LogCalls) :
    (logger.rotate calls).Counting config ∧ (logger.rotate calls).Room config := by
  have empty : logger.part logger.session (logger.segmentId + 1) = [] :=
    counting.part_later (.inr ⟨rfl, Nat.lt_succ_self _⟩)
  refine ⟨⟨⟨counting.ordered, ?_, counting.snug⟩, Nat.le_add_left _ _, ?_, ?_⟩, .inl empty⟩
  · rintro session segmentId ⟨some, left⟩
    rcases left with ⟨same, earlier⟩ | later
    · rcases Nat.lt_succ_iff_lt_or_eq.mp earlier with earlier | here
      · exact counting.full session segmentId ⟨some, .inl ⟨same, earlier⟩⟩
      · rw [counting.counted] at filled
        rw [same, here]
        exact filled
    · exact counting.full session segmentId ⟨some, .inr later⟩
  · intro accepted listed
    exact (counting.present accepted listed).imp_right
      fun ⟨same, within⟩ => ⟨same, Nat.le_succ_of_le within⟩
  · exact (congrArg size empty).symm

theorem Counting.step (counting : logger.Counting config) (room : logger.Room config)
    (label : LoggerStep) :
    (logger.step config label).Counting config ∧ (logger.step config label).Room config := by
  cases label with
  | timeout accepts => exact ⟨counting.flush accepts, room⟩
  | restart calls =>
      have empty : logger.part (logger.session + 1) 1 = [] :=
        counting.part_later (.inl (Nat.lt_succ_self _))
      refine ⟨⟨⟨counting.ordered, ?_, counting.snug⟩, le_rfl, ?_, ?_⟩, .inl empty⟩
      · rintro session segmentId ⟨some, left⟩
        refine counting.full session segmentId ⟨some, .inr ?_⟩
        exact left.resolve_left fun current => Nat.not_lt.mpr some current.2
      · intro accepted listed
        have present := counting.present accepted listed
        exact .inl (show accepted.session < logger.session + 1 by omega)
      · exact (congrArg size empty).symm
  | entry entry calls =>
      rw [Logger.step]
      generalize logger.writer.writeAll bufSize calls.flushed calls.direct (encodeRecord entry) =
        result
      obtain ⟨written, writer⟩ := result
      cases written with
      | false => exact ⟨counting.congr rfl rfl rfl rfl, room⟩
      | true =>
          have accepted : ((logger.accept writer entry).flush calls.kept).Counting config :=
            (counting.accept room entry).flush calls.kept
          dsimp only
          split
          · rename_i filled
            exact accepted.rotate filled calls
          · rename_i space
            exact ⟨accepted, .inr (Nat.not_le.mp space)⟩

/-- The entries that one run of the daemon has written. -/
def entriesOf (session : Nat) (logger : Logger) : List LogEntry :=
  (logger.accepted.filter (·.session = session)).map Accepted.entry

omit [Bincode LogEntry] [Crc32] in
/-- What comes before a segment, and what is in it. -/
theorem filter_before_succ {entries : List Accepted}
    (ordered : entries.Pairwise fun first second => first.segmentId ≤ second.segmentId)
    (segmentId : Nat) :
    entries.filter (·.segmentId < segmentId) ++ entries.filter (·.segmentId = segmentId) =
      entries.filter (·.segmentId < segmentId + 1) := by
  induction entries with
  | nil => rfl
  | cons accepted rest ih =>
      obtain ⟨before, others⟩ := List.pairwise_cons.mp ordered
      have later := ih others
      rcases Nat.lt_trichotomy accepted.segmentId segmentId with less | same | more
      · simp only [List.filter_cons, less, less.ne, Nat.lt_add_one_of_lt less, decide_true,
          decide_false, if_true, ← later, List.cons_append, Bool.false_eq_true, if_false]
      · have none : rest.filter (·.segmentId < segmentId) = [] := by
          rw [List.filter_eq_nil_iff]
          intro other listed
          simpa [← same] using before other listed
        rw [none, List.nil_append] at later
        simp only [List.filter_cons, same, none, ← later, Nat.lt_irrefl, Nat.lt_add_one,
          decide_true, decide_false, if_true, Bool.false_eq_true, if_false, List.nil_append]
      · have beyond : ¬ accepted.segmentId < segmentId + 1 := Nat.not_lt.mpr more
        simp only [List.filter_cons, more.not_gt, more.ne', beyond, ← later, decide_false,
          Bool.false_eq_true, if_false]

omit [Bincode LogEntry] [Crc32] in
/-- The segments in order hold what a run of the daemon has written, in order. -/
theorem flatMap_part (ordered : logger.accepted.Pairwise Accepted.Before) (session : Nat)
    {last : Nat} (within : ∀ accepted ∈ logger.accepted, accepted.session = session →
      accepted.segmentId < last) :
    (List.range last).flatMap (logger.part session) = logger.entriesOf session := by
  let own := logger.accepted.filter (·.session = session)
  have ofSession (accepted : Accepted) (listed : accepted ∈ own) : accepted.session = session :=
    of_decide_eq_true (List.mem_filter.mp listed).2
  have ascending : own.Pairwise fun first second => first.segmentId ≤ second.segmentId := by
    refine (ordered.filter _).imp_of_mem fun {first second} isFirst isSecond before => ?_
    have same := (ofSession first isFirst).trans (ofSession second isSecond).symm
    exact (before.resolve_left (by omega)).2
  have parts (segmentId : Nat) : logger.part session segmentId =
      (own.filter (·.segmentId = segmentId)).map Accepted.entry := by
    rw [part, List.filter_filter]
    simp only [Bool.decide_and, Bool.and_comm]
  have upTo (segmentId : Nat) : (List.range segmentId).flatMap (logger.part session) =
      (own.filter (·.segmentId < segmentId)).map Accepted.entry := by
    induction segmentId with
    | zero => simp
    | succ segmentId ih =>
        rw [List.range_succ, List.flatMap_append, ih, List.flatMap_singleton, parts,
          ← List.map_append, filter_before_succ ascending]
  rw [upTo, entriesOf]
  congr 1
  refine List.filter_eq_self.mpr fun accepted listed => decide_eq_true ?_
  exact within accepted (List.mem_of_mem_filter listed) (ofSession accepted listed)

/-- Whatever calls fall short and however often the daemon starts, each of its runs goes through the
segments in order, and leaves one only when, and as soon as, it has filled it. -/
theorem segments_divided (config : LogConfig) (calls : LogCalls) (labels : List LoggerStep) :
    let logger := Runs.run (step config) (start calls) labels
    logger.Divided config ∧ ∀ session, ∃ last,
      (List.range last).flatMap (logger.part session) = logger.entriesOf session := by
  have initial : (start calls).Counting config ∧ (start calls).Room config := by
    refine ⟨⟨⟨.nil, ?_, fun _ _ => .inl rfl⟩, le_rfl, nofun, rfl⟩, .inl rfl⟩
    rintro session segmentId ⟨some, ⟨-, earlier⟩ | ⟨accepted, listed, -⟩⟩
    · exact absurd earlier (Nat.not_lt.mpr some)
    · cases listed
  have keeps : ∀ (logger : Logger) (label : LoggerStep),
      logger.Counting config ∧ logger.Room config →
        (logger.step config label).Counting config ∧ (logger.step config label).Room config :=
    fun _ label counting => counting.1.step counting.2 label
  have divided := (Runs.run_invariant keeps labels initial).1.toDivided
  dsimp only
  generalize Runs.run (step config) (start calls) labels = logger at divided ⊢
  refine ⟨divided, fun session =>
    ⟨(logger.accepted.map Accepted.segmentId).max?.getD 0 + 1, ?_⟩⟩
  refine flatMap_part divided.ordered session fun accepted listed _ => Nat.lt_succ_of_le ?_
  exact List.le_max?_getD_of_mem (List.mem_map_of_mem listed)

end Rounds

/-! ## Examples -/

section Examples

open scoped Standard

/-- Every call does what it is asked for. -/
def wholeCalls : LogCalls := ⟨bufSize, bufSize, bufSize, bufSize, bufSize, true, true⟩

/-- The second record gets into the segment with its first five bytes. -/
def cutFlush : List LoggerStep :=
  [.entry startedEntry wholeCalls, .entry mountedEntry { wholeCalls with kept := 5 }]

theorem files_read_cutFlush :
    let logger := Runs.run (step ⟨1000⟩) (start wholeCalls) cutFlush
    ((logger.acceptedIn (.segment 1)).map LogEntry.target = ["boot", "mount"] ∧
      (decodeRecords (logger.files (.segment 1))).1.map LogEntry.target = ["boot"]) ∧
    (decodeRecords (logger.files (.segment 1))).1 <+: logger.acceptedIn (.segment 1) := by
  have sound : Along (step ⟨1000⟩) (Sound ⟨1000⟩) (start wholeCalls) cutFlush := by
    refine ⟨⟨.inl ⟨by decide +kernel, by decide +kernel⟩, ?_, by decide +kernel⟩,
      ⟨.inl ⟨by decide +kernel, by decide +kernel⟩, ?_, by decide +kernel⟩, trivial⟩
    · rw [LogEntry.Fits]
      decide +kernel
    · rw [LogEntry.Fits]
      decide +kernel
  exact ⟨by decide +kernel, (files_read ⟨1000⟩ wholeCalls cutFlush sound (.segment 1)).1⟩

end Examples

end Logger

end Rind
