import Rind.Prog.Runs
import Rind.Transport.Ring

/-!
# Rings as queues

A ring gives its records out in the order in which they were put in, as long as no record
runs over one that is still to be read.  The counters wrap around at 32 bits, which is no
multiple of the size of the ring, so records that are put in across the end of the count
are not laid out one after the other.
-/

namespace Rind

/-- The size of a ring that takes up its half of the mapping. -/
def ringSize : Nat := shmSize - dataStart

/-- The cell of a byte of a piece that starts at an offset. -/
def slot (offset index : Nat) : Nat := (offset % 2 ^ 32 + index) % ringSize

/-- Pieces of bytes in a ring, each where the one before it ends. -/
def Laid (bytes : Nat → UInt8) : Nat → List (List UInt8) → Prop
  | _, [] => True
  | offset, piece :: rest =>
      (∀ index, (inside : index < piece.length) →
        bytes (dataStart + slot offset index) = piece[index]) ∧
      Laid bytes (offset + piece.length) rest

/-! ## Layout -/

section Layout

variable {bytes other : Nat → UInt8} {offset : Nat} {pieces : List (List UInt8)}

theorem slot_lt (offset index : Nat) : slot offset index < ringSize := Nat.mod_lt _ (by decide)

/-- Bytes of different pieces are in different cells, where the later piece starts before
the end of the count, or all of them take up no more than is left over at its end. -/
theorem slot_ne {first last index index' total : Nat} (start : offset < 2 ^ 32)
    (after : offset ≤ first) (before : first + index < last) (within : last + index' < offset + total)
    (small : total ≤ ringSize) (apart : last < 2 ^ 32 ∨ total ≤ 2 ^ 32 % ringSize) :
    slot first index ≠ slot last index' := by
  have size : ringSize = 1048564 := rfl
  rw [size] at small apart
  rw [slot, slot, size]
  by_cases early : last < 2 ^ 32
  · rw [Nat.mod_eq_of_lt early, Nat.mod_eq_of_lt (show first < 2 ^ 32 by omega)]
    omega
  · have wrapped : last % 2 ^ 32 = last - 2 ^ 32 := by omega
    rw [wrapped, Nat.mod_eq_of_lt (show last - 2 ^ 32 + index' < 1048564 by omega)]
    by_cases early : first < 2 ^ 32
    · rw [Nat.mod_eq_of_lt early]
      omega
    · have wrapped : first % 2 ^ 32 = first - 2 ^ 32 := by omega
      rw [wrapped, Nat.mod_eq_of_lt (show first - 2 ^ 32 + index < 1048564 by omega)]
      omega

/-- What is laid out only depends on the cells that it takes up. -/
theorem Laid.congr (same : ∀ first index, offset ≤ first →
      first + index < offset + pieces.flatten.length →
        other (dataStart + slot first index) = bytes (dataStart + slot first index))
    (laid : Laid bytes offset pieces) : Laid other offset pieces := by
  induction pieces generalizing offset with
  | nil => trivial
  | cons piece rest ih =>
      rw [List.flatten_cons, List.length_append] at same
      constructor
      · intro index inside
        rw [same offset index (le_refl _) (by omega)]
        exact laid.1 index inside
      · apply ih _ laid.2
        intro first index after within
        exact same first index (by omega) (by omega)

/-- Only the place of the offset in the count matters. -/
theorem laid_of_mod {next : Nat} (same : offset % 2 ^ 32 = next % 2 ^ 32)
    (laid : Laid bytes offset pieces) : Laid bytes next pieces := by
  induction pieces generalizing offset next with
  | nil => trivial
  | cons piece rest ih =>
      constructor
      · intro index inside
        rw [slot, ← same]
        exact laid.1 index inside
      · apply ih _ laid.2
        omega

theorem laid_append {more : List (List UInt8)} :
    Laid bytes offset (pieces ++ more) ↔
      Laid bytes offset pieces ∧ Laid bytes (offset + pieces.flatten.length) more := by
  induction pieces generalizing offset with
  | nil => simp [Laid]
  | cons piece rest ih =>
      rw [List.cons_append, Laid, Laid, ih, and_assoc, List.flatten_cons, List.length_append,
        Nat.add_assoc]

/-- A piece that is copied behind others. -/
theorem Laid.copied {ring final : ShmRingBuffer} {piece : List UInt8}
    (laid : Laid ring.bytes offset pieces) (start : offset < 2 ^ 32)
    (copy : ring.Copied final ringSize ((offset + pieces.flatten.length) % 2 ^ 32) piece)
    (room : pieces.flatten.length + piece.length ≤ ringSize)
    (apart : piece = [] ∨ offset + pieces.flatten.length < 2 ^ 32 ∨
      pieces.flatten.length + piece.length ≤ 2 ^ 32 % ringSize) :
    Laid final.bytes offset (pieces ++ [piece]) := by
  rw [laid_append]
  refine ⟨laid.congr ?_, ?_, trivial⟩
  · intro first index after within
    apply copy.kept _ (slot_lt first index)
    intro index' inside
    have some : piece ≠ [] := List.ne_nil_of_length_pos (by omega)
    exact (slot_ne start after within (by omega) room (apart.resolve_left some)).symm
  · exact copy.placed

end Layout

/-! ## Records -/

/-- The pieces of records: the length and the bytes of each. -/
def recordPieces (records : List (List UInt8)) : List (List UInt8) :=
  records.flatMap fun data => [Codec.littleEndian 4 data.length, data]

/-- How many bytes records take up. -/
def recordBytes (records : List (List UInt8)) : Nat := (recordPieces records).flatten.length

section Records

variable {data : List UInt8} {records : List (List UInt8)}

@[simp] theorem recordBytes_nil : recordBytes [] = 0 := rfl

@[simp] theorem recordBytes_cons :
    recordBytes (data :: records) = 4 + data.length + recordBytes records := by
  simp [recordBytes, recordPieces, Nat.add_assoc]

@[simp] theorem recordBytes_append : recordBytes (records ++ [data]) =
    recordBytes records + (4 + data.length) := by
  simp [recordBytes, recordPieces]

/-- A ring that holds records to be read. -/
structure ShmRingBuffer.Holds (ring : ShmRingBuffer) (records : List (List UInt8)) : Prop where
  capacity : ring.capacity.toNat = shmSize
  laid : Laid ring.bytes ring.tail.toNat (recordPieces records)
  head : ring.head.toNat = (ring.tail.toNat + recordBytes records) % 2 ^ 32
  room : recordBytes records < ringSize

namespace ShmRingBuffer

/-- A record is laid out apart from those in the ring: it is rejected, or its bytes start
before the count of the tail ends, or all records take up no more than is left over at the
end of the count. -/
def LaysApart (ring : ShmRingBuffer) (data : List UInt8) : Prop :=
  ring.used + (data.length + 4) < ringSize →
    ring.tail.toNat + ring.used + 4 < 2 ^ 32 ∨
      data = [] ∧ ring.tail.toNat + ring.used < 2 ^ 32 ∨
        ring.used + (data.length + 4) ≤ 2 ^ 32 % ringSize

variable {ring : ShmRingBuffer}

theorem Holds.used (holds : ring.Holds records) : ring.used = recordBytes records := by
  have head := holds.head
  have room := holds.room
  have size : ringSize = 1048564 := rfl
  have tail := ring.tail.toNat_lt
  rw [ShmRingBuffer.used, UInt32.toNat_sub]
  omega

/-! ### Calls -/

section Calls

variable (capacity : ring.capacity.toNat = shmSize)

include capacity in
theorem bufferSize_ok : sub32 ring.capacity.toNat dataStart = .ok ringSize := by
  rw [capacity]
  rfl

include capacity in
theorem write_full (short : data.length < 2 ^ 31) (small : ring.used < ringSize)
    (full : ringSize ≤ ring.used + (data.length + 4)) : ring.write data = .ok (false, ring) := by
  have size : ringSize = 1048564 := rfl
  rw [write, Nat.mod_eq_of_lt (by omega), add32_ok (by omega), ok_bind, bufferSize_ok capacity,
    ok_bind, usedSpace_eq, ok_bind, add32_ok (by omega), ok_bind, if_pos full]
  rfl

include capacity in
/-- A record that there is room for is copied behind the head, after its length. -/
theorem write_room (room : ring.used + (data.length + 4) < ringSize) : ∃ middle final,
    ring.write data = .ok (true,
      { final with head := .ofNat (((ring.head.toNat + 4) % 2 ^ 32 + data.length) % 2 ^ 32) }) ∧
    ring.Copied middle ringSize ring.head.toNat (Codec.littleEndian 4 data.length) ∧
    middle.Copied final ringSize ((ring.head.toNat + 4) % 2 ^ 32) data := by
  have size : ringSize = 1048564 := rfl
  have positive : 0 < ringSize := by decide
  have inside : dataStart + ringSize ≤ shmSize := by decide
  have length : (Codec.littleEndian 4 data.length).length = 4 := Codec.length_littleEndian _ _
  obtain ⟨middle, copied, header⟩ := copyAt_ok positive inside
    (show (Codec.littleEndian 4 data.length).length ≤ ringSize by
      rw [length]
      decide)
  rw [length] at copied
  obtain ⟨final, copied', body⟩ := copyAt_ok positive inside (show data.length ≤ ringSize by omega)
  refine ⟨middle, final, ?_, header, body⟩
  rw [write, Nat.mod_eq_of_lt (by omega), add32_ok (by omega), ok_bind, bufferSize_ok capacity,
    ok_bind, usedSpace_eq, ok_bind, add32_ok (by omega), ok_bind, if_neg (by omega), copied, ok_bind]
  dsimp only
  rw [copied']
  rfl

include capacity in
/-- What is read is what lies behind the length at the tail. -/
theorem read_found {len : Nat} (filled : ring.tail ≠ ring.head)
    (length : Codec.fromLittleEndian ((List.range 4).map fun index =>
      ring.bytes (dataStart + slot ring.tail.toNat index)) = len) (short : len ≤ ringSize) :
    ring.read = .ok (some ((List.range len).map fun index =>
        ring.bytes (dataStart + slot (ring.tail.toNat + 4) index)),
      { ring with tail := .ofNat (((ring.tail.toNat + 4) % 2 ^ 32 + len) % 2 ^ 32) }) := by
  have tail := ring.tail.toNat_lt
  have positive : 0 < ringSize := by decide
  have inside : dataStart + ringSize ≤ shmSize := by decide
  simp only [slot, Nat.mod_eq_of_lt tail] at length
  rw [read, if_neg filled, bufferSize_ok capacity, ok_bind, readAt_ok positive inside (by decide),
    ok_bind]
  dsimp only
  rw [length, readAt_ok positive inside short]
  rfl

end Calls

/-! ### Records in the ring -/

/-- The pieces of a record, copied behind those of others, are laid out after them. -/
theorem Holds.laid_append (holds : ring.Holds records) {middle final : ShmRingBuffer}
    (fits : recordBytes records + (data.length + 4) < ringSize)
    (header : ring.Copied middle ringSize ring.head.toNat (Codec.littleEndian 4 data.length))
    (body : middle.Copied final ringSize ((ring.head.toNat + 4) % 2 ^ 32) data)
    (apart : ring.LaysApart data) :
    Laid final.bytes ring.tail.toNat (recordPieces (records ++ [data])) := by
  have length : (Codec.littleEndian 4 data.length).length = 4 := Codec.length_littleEndian _ _
  have tail := ring.tail.toNat_lt
  rw [LaysApart, holds.used] at apart
  have apart := apart fits
  rw [holds.head] at header body
  have first : Laid middle.bytes ring.tail.toNat
      (recordPieces records ++ [Codec.littleEndian 4 data.length]) := by
    apply holds.laid.copied tail header
    · rw [length]
      change recordBytes records + 4 ≤ _
      omega
    · rw [length]
      change _ ∨ ring.tail.toNat + recordBytes records < _ ∨ recordBytes records + 4 ≤ _
      omega
  have size : (recordPieces records ++ [Codec.littleEndian 4 data.length]).flatten.length =
      recordBytes records + 4 := by
    rw [List.flatten_append, List.length_append, List.flatten_singleton, length]
    rfl
  have pieces : recordPieces (records ++ [data]) =
      recordPieces records ++ [Codec.littleEndian 4 data.length] ++ [data] := by
    simp [recordPieces]
  rw [pieces]
  apply first.copied tail
  · rw [size, ← Nat.add_assoc]
    rwa [Nat.mod_add_mod] at body
  · rw [size]
    omega
  · rw [size]
    rcases apart with early | ⟨empty, -⟩ | small
    · exact .inr (.inl (by omega))
    · exact .inl empty
    · exact .inr (.inr (by omega))

/-- A record that there is room for is put behind those in the ring. -/
theorem Holds.write_room (holds : ring.Holds records)
    (room : recordBytes records + (data.length + 4) < ringSize) (apart : ring.LaysApart data) :
    ∃ final, ring.write data = .ok (true, final) ∧ final.tail = ring.tail ∧
      final.Holds (records ++ [data]) := by
  obtain ⟨middle, final, ran, header, body⟩ :=
    ShmRingBuffer.write_room holds.capacity (holds.used.symm ▸ room)
  have tail : final.tail = ring.tail := body.tail.trans header.tail
  refine ⟨_, ran, tail, ?_, ?_, ?_, ?_⟩
  · exact (congrArg UInt32.toNat (body.capacity.trans header.capacity)).trans holds.capacity
  · have laid := holds.laid_append room header body apart
    rwa [← tail] at laid
  · change (UInt32.ofNat _).toNat = (final.tail.toNat + _) % _
    rw [tail, recordBytes_append, UInt32.toNat_ofNat', holds.head]
    omega
  · rw [recordBytes_append]
    omega

/-- The bytes of a piece that is laid out. -/
theorem map_range_of_laid {bytes : Nat → UInt8} {offset : Nat} {piece : List UInt8}
    (placed : ∀ index, (inside : index < piece.length) →
      bytes (dataStart + slot offset index) = piece[index]) :
    ((List.range piece.length).map fun index => bytes (dataStart + slot offset index)) = piece := by
  apply List.ext_getElem
  · rw [List.length_map, List.length_range]
  · intro index _ inside
    rw [List.getElem_map, List.getElem_range, placed index inside]

/-- The first record is read, if there is one. -/
theorem Holds.read_cons (holds : ring.Holds (data :: records)) :
    ∃ final, ring.read = .ok (some data, final) ∧ final.Holds records ∧
      final.tail.toNat = (ring.tail.toNat + (data.length + 4)) % 2 ^ 32 := by
  have head := holds.head
  have room := holds.room
  have size : ringSize = 1048564 := rfl
  have tail := ring.tail.toNat_lt
  rw [recordBytes_cons] at head room
  have filled : ring.tail ≠ ring.head := by
    intro same
    rw [same] at head tail
    omega
  obtain ⟨header, body, rest⟩ := holds.laid
  rw [Codec.length_littleEndian] at body rest
  have length : Codec.fromLittleEndian ((List.range 4).map fun index =>
      ring.bytes (dataStart + slot ring.tail.toNat index)) = data.length := by
    have found := map_range_of_laid header
    rw [Codec.length_littleEndian] at found
    rw [found, Codec.fromLittleEndian_littleEndian (by omega)]
  have ran := read_found holds.capacity filled length (by omega)
  rw [map_range_of_laid body] at ran
  refine ⟨_, ran, ⟨holds.capacity, ?_, ?_, by omega⟩, ?_⟩
  · apply laid_of_mod _ rest
    change _ = (UInt32.ofNat _).toNat % 2 ^ 32
    rw [UInt32.toNat_ofNat']
    omega
  · change ring.head.toNat = ((UInt32.ofNat _).toNat + _) % 2 ^ 32
    rw [head, UInt32.toNat_ofNat']
    omega
  · change (UInt32.ofNat _).toNat = _
    rw [UInt32.toNat_ofNat']
    omega

theorem Holds.read_nil (holds : ring.Holds []) : ring.read = .ok (none, ring) := by
  have same : ring.tail = ring.head := by
    apply UInt32.toNat_inj.mp
    rw [holds.head, recordBytes_nil, Nat.add_zero, Nat.mod_eq_of_lt ring.tail.toNat_lt]
  rw [ShmRingBuffer.read, if_pos same]
  rfl

end ShmRingBuffer

end Records

/-! ## Runs -/

/-- A call of the writer, with a record of less than 2 GiB, or of the reader. -/
inductive RingCall where
  | write (data : List UInt8) (short : data.length < 2 ^ 31)
  | read

/-- A ring with the records that were accepted and those that were read. -/
structure RingLog where
  ring : ShmRingBuffer
  written : List (List UInt8)
  received : List (List UInt8)
  faulted : Bool

/-- A ring as `start_listener` sets it up, in memory with any bytes. -/
def ShmRingBuffer.setUp (bytes : Nat → UInt8) : ShmRingBuffer := ⟨0, 0, .ofNat shmSize, bytes⟩

namespace RingLog

def start (bytes : Nat → UInt8) : RingLog := ⟨.setUp bytes, [], [], false⟩

def step (log : RingLog) : RingCall → RingLog
  | .write data _ =>
      match log.ring.write data with
      | .ok (true, ring) => { log with ring, written := log.written ++ [data] }
      | .ok (false, ring) => { log with ring }
      | .error _ => { log with faulted := true }
  | .read =>
      match log.ring.read with
      | .ok (some data, ring) => { log with ring, received := log.received ++ [data] }
      | .ok (none, ring) => { log with ring }
      | .error _ => { log with faulted := true }

theorem step_write {log : RingLog} {data : List UInt8} {ring : ShmRingBuffer}
    (short : data.length < 2 ^ 31) (ran : log.ring.write data = .ok (true, ring)) :
    log.step (.write data short) = { log with ring, written := log.written ++ [data] } := by
  rw [step, ran]

theorem step_read {log : RingLog} {data : List UInt8} {ring : ShmRingBuffer}
    (ran : log.ring.read = .ok (some data, ring)) :
    log.step .read = { log with ring, received := log.received ++ [data] } := by
  rw [step, ran]

/-- The records that were read are the first ones that were accepted, and nothing is found
exactly when they have all been read. -/
structure Fifo (log : RingLog) : Prop where
  faultless : log.faulted = false
  ordered : log.received <+: log.written
  exhausted : (∃ ring, log.ring.read = .ok (none, ring)) ↔ log.received = log.written

/-- A call that lays no record out over others. -/
def LaysApart (log : RingLog) : RingCall → Prop
  | .write data _ => log.ring.LaysApart data
  | .read => True

/-- The ring holds what has been written and not been read. -/
def Holds (log : RingLog) : Prop :=
  log.faulted = false ∧ ∃ records, log.ring.Holds records ∧ log.written = log.received ++ records

variable {log : RingLog}

theorem Holds.fifo (holds : log.Holds) : log.Fifo := by
  obtain ⟨faultless, records, holds, written⟩ := holds
  refine ⟨faultless, ⟨records, written.symm⟩, ?_⟩
  cases records with
  | nil => exact iff_of_true ⟨_, holds.read_nil⟩ (by rw [written, List.append_nil])
  | cons data records =>
      refine iff_of_false ?_ ?_
      · rintro ⟨ring, ran⟩
        obtain ⟨final, found, -⟩ := holds.read_cons
        rw [found] at ran
        cases ran
      · rw [written]
        intro same
        cases List.append_right_eq_self.mp same.symm

theorem Holds.step (holds : log.Holds) (call : RingCall) (apart : log.LaysApart call) :
    (log.step call).Holds := by
  obtain ⟨faultless, records, holds, written⟩ := holds
  cases call with
  | write data short =>
      rw [RingLog.step]
      by_cases room : recordBytes records + (data.length + 4) < ringSize
      · obtain ⟨final, ran, -, put⟩ := holds.write_room room apart
        rw [ran]
        refine ⟨faultless, records ++ [data], put, ?_⟩
        rw [written, List.append_assoc]
      · have small := holds.room
        rw [← holds.used] at room small
        rw [ShmRingBuffer.write_full holds.capacity short small (Nat.le_of_not_lt room)]
        exact ⟨faultless, records, holds, written⟩
  | read =>
      rw [RingLog.step]
      cases records with
      | nil =>
          rw [holds.read_nil]
          exact ⟨faultless, [], holds, written⟩
      | cons data records =>
          obtain ⟨final, ran, rest, -⟩ := holds.read_cons
          rw [ran]
          refine ⟨faultless, records, rest, ?_⟩
          rw [written, List.append_assoc]
          rfl

theorem holds_start (bytes : Nat → UInt8) : (start bytes).Holds :=
  ⟨rfl, [], ⟨rfl, trivial, rfl, by decide⟩, rfl⟩

/-- As long as all records are laid out apart, the ring is a queue. -/
theorem fifo_of_apart (bytes : Nat → UInt8) (calls : List RingCall)
    (apart : Runs.Along step LaysApart (start bytes) calls) :
    ∀ before, before <+: calls → (Runs.run step (start bytes) before).Fifo := by
  intro before beginning
  have keeps : ∀ (log : RingLog) (call : RingCall),
      log.Holds → log.LaysApart call → (log.step call).Holds :=
    fun _ call holds => holds.step call
  exact (apart.visits keeps (holds_start bytes) beginning).fifo

/-- A record that is written into a new ring and read. -/
theorem fifo_of_apart_ping : (Runs.run step (start fun _ => 0)
    [.write [7] (by decide), .read]).Fifo :=
  fifo_of_apart _ [.write [7] (by decide), .read]
    ⟨fun _ => .inl (by decide), trivial, trivial⟩ _ List.prefix_rfl

/-! ## Across the end of the count -/

/-- A record of 65532 bytes takes up 65536 bytes in a ring. -/
def longRecord : List UInt8 := List.replicate 65532 1

theorem longRecord_short : longRecord.length < 2 ^ 31 := by
  rw [longRecord, List.length_replicate]
  decide

/-- Write and read a long record. -/
def roundCalls : List RingCall := [.write longRecord longRecord_short, .read]

/-- Rounds, up to 65536 bytes before the end of the count; then a long record across the
end, an empty one, and a read. -/
def acrossCalls : List RingCall :=
  (List.replicate 65535 roundCalls).flatten ++
    [.write longRecord longRecord_short, .write [] (by decide), .read]

/-- A ring in which all has been read, some rounds after it was set up. -/
structure Rested (log : RingLog) (rounds : Nat) : Prop where
  holds : log.ring.Holds []
  tail : log.ring.tail.toNat = 65536 * rounds
  faultless : log.faulted = false
  even : log.received = log.written

variable {log : RingLog} {rounds : Nat}

theorem longRecord_length : longRecord.length = 65532 := List.length_replicate

theorem longRecord_room : recordBytes [] + (longRecord.length + 4) < ringSize := by
  rw [longRecord_length]
  decide

/-- A long record lies apart in a ring in which all has been read. -/
theorem Rested.laysApart (rested : log.Rested rounds) (early : rounds ≤ 65535) :
    log.ring.LaysApart longRecord := by
  intro _
  have tail := rested.tail
  have used := rested.holds.used
  rw [recordBytes_nil] at used
  omega

theorem Rested.round (rested : log.Rested rounds) (early : rounds < 65535) :
    (Runs.run step log roundCalls).Rested (rounds + 1) := by
  obtain ⟨final, ran, tail, put⟩ :=
    rested.holds.write_room longRecord_room (rested.laysApart early.le)
  obtain ⟨last, ran', rest, tail'⟩ := put.read_cons
  have run : Runs.run step log roundCalls = { log with
      ring := last, written := log.written ++ [longRecord],
      received := log.received ++ [longRecord] } := by
    rw [roundCalls, Runs.run_cons, Runs.run_cons, Runs.run_nil, step_write _ ran, step_read ran']
  rw [run]
  refine ⟨rest, ?_, rested.faultless, ?_⟩
  · rw [tail', tail, rested.tail, longRecord_length]
    omega
  · rw [rested.even]

theorem rested_rounds (bytes : Nat → UInt8) (early : rounds ≤ 65535) :
    (Runs.run step (start bytes) (List.replicate rounds roundCalls).flatten).Rested rounds := by
  induction rounds with
  | zero => exact ⟨⟨rfl, trivial, rfl, by decide⟩, rfl, rfl, rfl⟩
  | succ rounds ih =>
      rw [List.replicate_succ', List.flatten_append, List.flatten_singleton, Runs.run_append]
      exact (ih (by omega)).round (by omega)

/-- An empty record overwrites bytes of the long record before it, which goes across the
end of the count. -/
theorem Rested.overwritten (rested : log.Rested 65535) : ∃ data final,
    Runs.run step log [.write longRecord longRecord_short, .write [] (by decide), .read] =
      { log with
        ring := final, written := log.written ++ [longRecord] ++ [[]],
        received := log.received ++ [data] } ∧
    data[16380]? = some 0 := by
  obtain ⟨ring, ran, tail, put⟩ :=
    rested.holds.write_room longRecord_room (rested.laysApart (le_refl _))
  have start : ring.tail.toNat = 4294901760 := by rw [tail, rested.tail]
  have used : ring.used = 65536 := by
    rw [put.used, List.nil_append, recordBytes_cons, longRecord_length]
    rfl
  have head : ring.head.toNat = 0 := by
    rw [put.head, start, List.nil_append, recordBytes_cons, longRecord_length]
    rfl
  obtain ⟨middle, copied, ran', header, body⟩ :=
    ShmRingBuffer.write_room put.capacity
      (show ring.used + (([] : List UInt8).length + 4) < ringSize by
        rw [used]
        decide)
  rw [head] at header body
  obtain ⟨final, ran', bytes, tail', capacity, head'⟩ : ∃ final, ring.write [] = .ok (true, final) ∧
      final.bytes = copied.bytes ∧ final.tail = ring.tail ∧ final.capacity = ring.capacity ∧
      final.head.toNat = 4 :=
    ⟨_, ran', rfl, body.tail.trans header.tail, body.capacity.trans header.capacity,
      by rw [head]; rfl⟩
  -- only the first four cells have changed
  have kept (cell : Nat) (inside : cell < ringSize) (behind : 4 ≤ cell) :
      final.bytes (dataStart + cell) = ring.bytes (dataStart + cell) := by
    rw [bytes, body.kept cell inside (fun _ none => nomatch none), header.kept cell inside]
    intro index short
    rw [Codec.length_littleEndian] at short
    rw [Nat.zero_add, Nat.mod_eq_of_lt (Nat.lt_trans short (by decide))]
    omega
  have changed : final.bytes (dataStart + 0) = 0 := by
    rw [bytes, body.kept 0 (by decide) (fun _ none => nomatch none)]
    exact header.placed 0 (by decide)
  have length : Codec.fromLittleEndian ((List.range 4).map fun index =>
      final.bytes (dataStart + slot final.tail.toNat index)) = 65532 := by
    have found := ShmRingBuffer.map_range_of_laid put.laid.1
    rw [Codec.length_littleEndian] at found
    have same : ((List.range 4).map fun index =>
        final.bytes (dataStart + slot final.tail.toNat index)) =
        (List.range 4).map fun index => ring.bytes (dataStart + slot ring.tail.toNat index) := by
      apply List.map_congr_left
      intro index short
      rw [List.mem_range] at short
      have size : ringSize = 1048564 := rfl
      rw [tail', kept _ (slot_lt _ _)]
      rw [start, slot, size]
      omega
    rw [same, found, longRecord_length]
    rfl
  have filled : final.tail ≠ final.head := by
    intro same
    rw [← same, tail', start] at head'
    exact absurd head' (by decide)
  have cell : slot (final.tail.toNat + 4) 16380 = 0 := by
    rw [tail', start]
    rfl
  obtain ⟨data, last, ran'', found⟩ : ∃ data last, final.read = .ok (some data, last) ∧
      data[16380]? = some 0 := by
    have read := ShmRingBuffer.read_found (by rw [capacity, put.capacity]) filled length (by decide)
    refine ⟨_, _, read, ?_⟩
    rw [List.getElem?_map, List.getElem?_range (by decide), Option.map_some, cell, changed]
  refine ⟨data, last, ?_, found⟩
  rw [Runs.run_cons, Runs.run_cons, Runs.run_cons, Runs.run_nil, step_write _ ran,
    step_write _ ran', step_read ran'']

/-- A record across the end of the count is overwritten by the next one. -/
theorem not_fifo_across :
    ¬ ∀ (bytes : Nat → UInt8) (calls : List RingCall) (before : List RingCall),
      before <+: calls → (Runs.run step (start bytes) before).Fifo := by
  intro fifo
  have ended := (fifo (fun _ => 0) acrossCalls acrossCalls List.prefix_rfl).ordered
  have rested := rested_rounds (fun _ => 0) (le_refl 65535)
  obtain ⟨data, final, ran, changed⟩ := rested.overwritten
  rw [acrossCalls, Runs.run_append, ran] at ended
  change _ ++ [data] <+: _ ++ [longRecord] ++ [[]] at ended
  rw [rested.even, List.append_assoc, List.prefix_append_right_inj] at ended
  have same : data = longRecord := by
    obtain ⟨more, same⟩ := ended
    exact (List.cons.inj same).1
  rw [same, longRecord, List.getElem?_replicate_of_lt (by decide)] at changed
  exact absurd (Option.some.inj changed) (by decide)

end RingLog

end Rind
