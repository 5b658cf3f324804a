import Mathlib.Data.List.Infix
import Rind.Core.Persistence
import Rind.Data.Scanning

/-!
# Log records

A record of a log segment is a magic number, the length of what follows, the
length of the payload, the payload and its checksum.  A reader skips byte by
byte over what is no record, but trusts a length before any check: it gives up
where one runs beyond the end of the data.
-/

namespace Rind

inductive LogLevel where
  | trace | debug | info | warn | error | fatal
  deriving DecidableEq, Repr

structure LogEntry where
  timestamp : UInt64
  level : LogLevel
  target : String
  message : String
  fields : AList fun _ : String => String
  deriving DecidableEq

/-- `RLOG_MAGIC` -/
def rlogMagic : Nat := 0x524C4F47

/-- The number in some bytes of the data, `u32::from_be_bytes`. -/
def fieldAt (data : List UInt8) (start width : Nat) : Nat :=
  Codec.fromBigEndian ((data.drop start).take width)

theorem fieldAt_append {data more : List UInt8} {start width : Nat}
    (within : start + width ≤ data.length) :
    fieldAt (data ++ more) start width = fieldAt data start width := by
  rw [fieldAt, fieldAt, List.drop_append_of_le_length (by omega),
    List.take_append_of_le_length (by rw [List.length_drop]; omega)]

theorem fieldAt_lt (data : List UInt8) (start : Nat) : fieldAt data start 4 < 2 ^ 32 := by
  have bound := Codec.fromLittleEndian_lt ((data.drop start).take 4).reverse
  have short : ((data.drop start).take 4).reverse.length ≤ 4 := by
    rw [List.length_reverse]
    exact List.length_take_le _ _
  exact bound.trans_le (Nat.pow_le_pow_right (by decide) short)

section Format

variable [Bincode LogEntry] [Crc32]

/-- `encode_record`: the lengths are kept in 32 bits. -/
def encodeRecord (entry : LogEntry) : List UInt8 :=
  let payload := Bincode.codec.write entry
  let payloadLen := payload.length % 2 ^ 32
  let totalLen := (4 + payloadLen + 4) % 2 ^ 32
  Codec.bigEndian 4 rlogMagic ++ (Codec.bigEndian 4 totalLen ++
    (Codec.bigEndian 4 payloadLen ++ (payload ++ Codec.bigEndian 4 (Crc32.hash payload).toNat)))

omit [Bincode LogEntry] in
/-- What one round of `decode_records` finds from its cursor on. -/
def readRecord (data : List UInt8) : Reading (List UInt8) :=
  if data.length < 8 then .stop
  else if fieldAt data 0 4 ≠ rlogMagic then .skip
  else if data.length < 8 + fieldAt data 4 4 then .stop
  else if fieldAt data 4 4 < 8 then .skip
  else if 4 + fieldAt data 8 4 + 4 ≠ fieldAt data 4 4 then .skip
  else
    let payload := (data.drop 12).take (fieldAt data 8 4)
    if (Crc32.hash payload).toNat ≠ fieldAt data (12 + fieldAt data 8 4) 4 then .skip
    else .frame payload (8 + fieldAt data 4 4)

omit [Bincode LogEntry] in
/-- A header says how much a verdict needs; then more data changes nothing. -/
theorem readRecord_append {data : List UInt8} (more : List UInt8)
    (enough : 8 ≤ data.length)
    (reaches : fieldAt data 0 4 = rlogMagic → 8 + fieldAt data 4 4 ≤ data.length) :
    readRecord (data ++ more) = readRecord data := by
  have magic : fieldAt (data ++ more) 0 4 = fieldAt data 0 4 := fieldAt_append (by omega)
  have total : fieldAt (data ++ more) 4 4 = fieldAt data 4 4 := fieldAt_append (by omega)
  have longer : (data ++ more).length = data.length + more.length := List.length_append
  by_cases isMagic : fieldAt data 0 4 = rlogMagic
  · have within := reaches isMagic
    by_cases small : fieldAt data 4 4 < 8
    · grind [readRecord]
    · have inner : fieldAt (data ++ more) 8 4 = fieldAt data 8 4 := fieldAt_append (by omega)
      by_cases lengths : 4 + fieldAt data 8 4 + 4 = fieldAt data 4 4
      · have crc : fieldAt (data ++ more) (12 + fieldAt data 8 4) 4 =
            fieldAt data (12 + fieldAt data 8 4) 4 := fieldAt_append (by omega)
        have payload : ((data ++ more).drop 12).take (fieldAt data 8 4) =
            (data.drop 12).take (fieldAt data 8 4) := by
          rw [List.drop_append_of_le_length (by omega),
            List.take_append_of_le_length (by rw [List.length_drop]; omega)]
        simp only [readRecord, magic, total, inner, crc, payload, longer]
        grind
      · grind [readRecord]
  · grind [readRecord]

omit [Bincode LogEntry] in
/-- What stands behind the header of a frame. -/
theorem readRecord_frame {data payload : List UInt8} {size : Nat}
    (frame : readRecord data = .frame payload size) :
    16 ≤ size ∧ size ≤ data.length ∧ size = 8 + fieldAt data 4 4 ∧
      payload = (data.drop 12).take (fieldAt data 8 4) ∧
      4 + fieldAt data 8 4 + 4 = fieldAt data 4 4 := by
  simp only [readRecord] at frame
  split at frame <;> try cases frame
  split at frame <;> try cases frame
  split at frame <;> try cases frame
  split at frame <;> try cases frame
  split at frame <;> try cases frame
  split at frame <;> cases frame
  exact ⟨by omega, by omega, rfl, rfl, by omega⟩

omit [Bincode LogEntry] in
theorem readRecord_stop_iff {data : List UInt8} :
    readRecord data = .stop ↔ data.length < 8 ∨
      fieldAt data 0 4 = rlogMagic ∧ data.length < 8 + fieldAt data 4 4 := by
  rw [readRecord]
  grind

/-- The loop of `decode_records`. -/
def recordScanner : Scanner UInt8 (List UInt8) where
  read := readRecord
  empty := rfl
  advances frame := by
    have shape := readRecord_frame frame
    omega
  stable more goesOn := by
    have enough := mt readRecord_stop_iff.mpr goesOn
    apply readRecord_append
    · omega
    · intro magic
      omega
  whole {input more payload size} frame within := by
    have shape := readRecord_frame frame
    rw [Ne, readRecord_stop_iff]
    have total : fieldAt (input ++ more) 4 4 = fieldAt input 4 4 := fieldAt_append (by omega)
    omega

/-- `decode_records`: the entries, and how much of the data is done with. -/
def decodeRecords (data : List UInt8) : List LogEntry × Nat :=
  let scanned := recordScanner.scan 0 data
  (scanned.1.filterMap fun hit => Bincode.codec.decode hit.value, scanned.2)

/-! ## What was written -/

/-- The bytes of an entry in its record. -/
def LogEntry.payload (entry : LogEntry) : List UInt8 := Bincode.codec.write entry

/-- The lengths of the record of an entry do not wrap around. -/
def LogEntry.Fits (entry : LogEntry) : Prop := entry.payload.length + 8 < 2 ^ 32

theorem length_encodeRecord (entry : LogEntry) :
    (encodeRecord entry).length = 16 + entry.payload.length := by
  simp only [encodeRecord, LogEntry.payload, List.length_append, Codec.length_bigEndian]
  omega

omit [Bincode LogEntry] [Crc32] in
/-- A number is read back where it was written. -/
theorem fieldAt_written {before after : List UInt8} {start width value : Nat}
    (place : before.length = start) (fits : value < 256 ^ width) :
    fieldAt (before ++ (Codec.bigEndian width value ++ after)) start width = value := by
  rw [fieldAt, List.drop_left' place, List.take_left' (Codec.length_bigEndian _ _),
    Codec.fromBigEndian_bigEndian fits]

omit [Bincode LogEntry] in
/-- A frame with the right lengths and checksum is read. -/
theorem readRecord_written {payload : List UInt8} (fits : payload.length + 8 < 2 ^ 32)
    (rest : List UInt8) :
    readRecord (Codec.bigEndian 4 rlogMagic ++ (Codec.bigEndian 4 (payload.length + 8) ++
      (Codec.bigEndian 4 payload.length ++ (payload ++
        (Codec.bigEndian 4 (Crc32.hash payload).toNat ++ rest))))) =
      .frame payload (16 + payload.length) := by
  generalize shape : Codec.bigEndian 4 rlogMagic ++ (Codec.bigEndian 4 (payload.length + 8) ++
    (Codec.bigEndian 4 payload.length ++ (payload ++
      (Codec.bigEndian 4 (Crc32.hash payload).toNat ++ rest)))) = data
  have length : data.length = 16 + payload.length + rest.length := by
    rw [← shape]
    simp only [List.length_append, Codec.length_bigEndian]
    omega
  have magic : fieldAt data 0 4 = rlogMagic := by
    rw [← shape]
    exact fieldAt_written (List.length_nil : ([] : List UInt8).length = 0) (by decide)
  have total : fieldAt data 4 4 = payload.length + 8 := by
    rw [← shape]
    exact fieldAt_written (Codec.length_bigEndian _ _) (by omega)
  have inner : fieldAt data 8 4 = payload.length := by
    rw [← shape, ← List.append_assoc]
    apply fieldAt_written _ (by omega)
    simp only [List.length_append, Codec.length_bigEndian]
  have front : data.drop 12 =
      payload ++ (Codec.bigEndian 4 (Crc32.hash payload).toNat ++ rest) := by
    rw [← shape, ← List.append_assoc, ← List.append_assoc]
    apply List.drop_left'
    simp only [List.length_append, Codec.length_bigEndian]
  have checksum : fieldAt data (12 + payload.length) 4 = (Crc32.hash payload).toNat := by
    rw [fieldAt, ← List.drop_drop, front]
    exact fieldAt_written (rfl : payload.length = payload.length) (UInt32.toNat_lt _)
  rw [readRecord, if_neg (by omega), magic, if_neg (by simp), total, if_neg (by omega),
    if_neg (by omega), inner, if_neg (by omega), front, List.take_left, checksum]
  simp only [ne_eq, not_true_eq_false, if_false]
  rw [Nat.add_comm payload.length 8, ← Nat.add_assoc]

/-- A record is read as a whole exactly where its lengths were written as they are. -/
theorem readRecord_encodeRecord (entry : LogEntry) (rest : List UInt8) :
    readRecord (encodeRecord entry ++ rest) = .frame entry.payload (encodeRecord entry).length ↔
      entry.Fits := by
  constructor
  · intro frame
    have shape := readRecord_frame frame
    have bound := fieldAt_lt (encodeRecord entry ++ rest) 4
    rw [length_encodeRecord] at shape
    rw [LogEntry.Fits]
    omega
  · intro fits
    rw [LogEntry.Fits] at fits
    have payloadLen : entry.payload.length % 2 ^ 32 = entry.payload.length :=
      Nat.mod_eq_of_lt (by omega)
    have totalLen : (4 + entry.payload.length + 4) % 2 ^ 32 = entry.payload.length + 8 := by
      rw [Nat.mod_eq_of_lt (by omega)]
      omega
    have written := readRecord_written fits rest
    rw [length_encodeRecord, encodeRecord, ← LogEntry.payload, payloadLen, totalLen]
    simpa only [List.append_assoc] using written

/-! ## Reading past damage -/

/-- The intact records of a segment, each with the bytes that stand before it. -/
abbrev Records : Type := List (List UInt8 × LogEntry)

def Records.stretches (records : Records) : List (Scanner.Stretch UInt8 (List UInt8)) :=
  records.map fun record => ⟨record.1, encodeRecord record.2, record.2.payload⟩

/-- The bytes of a segment with the given intact records. -/
def Records.segment (records : Records) (tail : List UInt8) : List UInt8 :=
  Scanner.lay records.stretches tail

/-- Every intact record is read where it stands, in order. -/
def Records.AllRead (records : Records) (tail : List UInt8) : Prop :=
  (Scanner.marks 0 records.stretches).Sublist (recordScanner.scan 0 (records.segment tail)).1

/-- No byte inserted before an intact record, apart from those that frames among
the inserted bytes cover, begins a header whose length runs beyond the end of
the data, or a frame that reaches into what follows; and no length wraps around. -/
def Records.Clear : Records → List UInt8 → Prop
  | [], _ => True
  | (junk, entry) :: records, tail =>
      recordScanner.Clear junk (encodeRecord entry ++ Records.segment records tail) ∧
        entry.Fits ∧ Records.Clear records tail

theorem Records.passable_iff {records : Records} {tail : List UInt8} :
    recordScanner.Passable records.stretches tail ↔ records.Clear tail := by
  induction records with
  | nil => exact Iff.rfl
  | cons record records ih =>
      have frame := readRecord_encodeRecord record.2 (Records.segment records tail)
      exact and_congr Iff.rfl (and_congr frame ih)

/-- An entry that is read where it stands is returned. -/
theorem Records.AllRead.returned {records : Records} {tail : List UInt8}
    (allRead : records.AllRead tail) :
    (records.map Prod.snd).Sublist (decodeRecords (records.segment tail)).1 := by
  have decoded (records : Records) :
      (records.stretches.map Scanner.Stretch.value).filterMap Bincode.codec.decode =
        records.map Prod.snd := by
    induction records with
    | nil => rfl
    | cons record records ih =>
        have first : Bincode.codec.decode record.2.payload = some record.2 :=
          Codec.decode_write _ _
        exact (List.filterMap_cons_some first).trans (congrArg (record.2 :: ·) ih)
  have entries : (Scanner.marks 0 records.stretches).filterMap
      (fun hit => Bincode.codec.decode hit.value) = records.map Prod.snd := by
    rw [← decoded, ← Scanner.marks_values 0, List.filterMap_map]
    rfl
  rw [← entries]
  exact allRead.filterMap _

/-- Damage hides no intact record exactly when no inserted byte that the reader
comes to claims more data than there is, or a frame that reaches into what follows. -/
theorem allRead_iff (records : Records) (tail : List UInt8) :
    (records.AllRead tail ↔ records.Clear tail) ∧
      (records.AllRead tail →
        (records.map Prod.snd).Sublist (decodeRecords (records.segment tail)).1) :=
  ⟨Scanner.marks_sublist_iff.trans Records.passable_iff, Records.AllRead.returned⟩

omit [Bincode LogEntry] in
/-- The bytes hold no record. -/
def NoRecordIn (junk : List UInt8) : Prop :=
  ∀ left ∈ junk.tails, ∀ payload size, readRecord left ≠ .frame payload size

omit [Bincode LogEntry] in
theorem noRecordIn_of {junk : List UInt8}
    (every : ∀ left ∈ junk.tails, readRecord left = .skip ∨ readRecord left = .stop) :
    NoRecordIn junk := by
  intro left within payload size frame
  cases every left within with
  | inl skip => simp [frame] at skip
  | inr stop => simp [frame] at stop

/-- Every entry whose record is intact is returned, in order, whatever bytes
that hold no record stand before, between and after them. -/
def Resynchronises : Prop :=
  ∀ (records : Records) (tail : List UInt8), (∀ record ∈ records, NoRecordIn record.1) →
    NoRecordIn tail → (records.map Prod.snd).Sublist (decodeRecords (records.segment tail)).1

end Format

namespace Standard

def logLevelOf : Nat → Option LogLevel
  | 0 => some .trace
  | 1 => some .debug
  | 2 => some .info
  | 3 => some .warn
  | 4 => some .error
  | 5 => some .fatal
  | _ => none

def logLevelNumber : LogLevel → Nat
  | .trace => 0
  | .debug => 1
  | .info => 2
  | .warn => 3
  | .error => 4
  | .fatal => 5

def timestampCodec : Codec UInt64 :=
  Codec.varint.partialView (fun value => if value < 2 ^ 64 then some (UInt64.ofNat value) else none)
    UInt64.toNat fun value => by rw [if_pos value.toNat_lt, UInt64.ofNat_toNat]

/-- The fields of an entry one after the other. -/
scoped instance : Bincode LogEntry where
  codec :=
    (timestampCodec.pair ((Codec.varint.partialView logLevelOf logLevelNumber
      fun level => by cases level <;> rfl).pair (Codec.string.pair (Codec.string.pair
        (Codec.map Codec.string Codec.string))))).view
      (fun (timestamp, level, target, message, fields) =>
        ⟨timestamp, level, target, message, fields⟩)
      (fun entry => (entry.timestamp, entry.level, entry.target, entry.message, entry.fields))
      fun _ => rfl

end Standard

section Standard

open scoped Standard

def startedEntry : LogEntry := ⟨7, .info, "boot", "started", ∅⟩

def mountedEntry : LogEntry :=
  ⟨6, .info, "mount", "mounted the device /dev/sda1 at the directory /mnt", ∅⟩

/-- The header of a record that was cut short claims more than the intact record
behind it has. -/
theorem not_resynchronises_cutShort : ¬ Resynchronises := by
  intro resynchronises
  have cutShort : NoRecordIn ((encodeRecord mountedEntry).take 8) :=
    noRecordIn_of (by decide +kernel)
  have returned := resynchronises [((encodeRecord mountedEntry).take 8, startedEntry)] []
    (by simpa using cutShort) (noRecordIn_of (by decide +kernel))
  have nothing : (decodeRecords (Records.segment
      [((encodeRecord mountedEntry).take 8, startedEntry)] [])).1 = [] := by
    decide +kernel
  rw [nothing] at returned
  exact absurd returned (by simp)

end Standard

end Rind
