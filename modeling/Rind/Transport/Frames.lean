import Rind.Flow.Restore
import Rind.Transport.Ring

/-!
# Frames of messages

A message goes over a socket or a pipe as a frame: a magic, the length of its body and the
body.  In shared memory it is one record of a ring.  The writer for the standard input of a
service is a copy of the one for sockets that leaves out the magic.
-/

namespace Rind

/-! ## Streams -/

/-- `read_exact` -/
def readExact (count : Nat) (stream : List UInt8) : Option (List UInt8 × List UInt8) :=
  if count ≤ stream.length then some (stream.take count, stream.drop count) else none

theorem readExact_cases {count : Nat} {stream bytes rest : List UInt8}
    (read : readExact count stream = some (bytes, rest)) :
    bytes.length = count ∧ stream = bytes ++ rest := by
  rw [readExact] at read
  split at read
  · rename_i enough
    cases read
    exact ⟨List.length_take_of_le enough, (List.take_append_drop _ _).symm⟩
  · cases read

theorem readExact_append (bytes rest : List UInt8) :
    readExact bytes.length (bytes ++ rest) = some (bytes, rest) := by
  rw [readExact, if_pos (by simp), List.take_left, List.drop_left]

/-! ## Lengths of 32 bits -/

/-- The length of a body as it is written, in 32 bits. -/
def writtenLength (body : List UInt8) : Nat := body.length % 2 ^ 32

/-- The bytes of a body that a ring takes. -/
def ringRecord (body : List UInt8) : List UInt8 := body.take (writtenLength body)

section Records

variable {body : List UInt8}

theorem writtenLength_lt (body : List UInt8) : writtenLength body < 256 ^ 4 :=
  Nat.mod_lt _ (by decide)

@[simp] theorem length_ringRecord : (ringRecord body).length = writtenLength body :=
  List.length_take_of_le (Nat.mod_le _ _)

theorem ringRecord_of_lt (short : body.length < 2 ^ 32) : ringRecord body = body := by
  rw [ringRecord, writtenLength, Nat.mod_eq_of_lt short, List.take_length]

theorem writtenLength_ringRecord : writtenLength (ringRecord body) = writtenLength body := by
  rw [writtenLength, length_ringRecord, writtenLength, Nat.mod_mod]

theorem ShmRingBuffer.copyAt_ringRecord (ring : ShmRingBuffer) (offset size : Nat) :
    ring.copyAt offset (ringRecord body) size = ring.copyAt offset body size := by
  have same : (ringRecord body).length % 2 ^ 32 = body.length % 2 ^ 32 := writtenLength_ringRecord
  simp only [ShmRingBuffer.copyAt, same]
  congr 1
  funext pos
  congr 1
  funext spaceToEnd
  congr 1
  funext start
  split
  · rw [ringRecord, writtenLength, List.take_take, Nat.min_self]
  · rename_i beyond
    rw [sub32_ok (by omega), ringRecord, writtenLength, List.take_take,
      Nat.min_eq_left (by omega)]
    simp only [ok_bind, List.drop_take, List.take_take, Nat.min_self]

/-- A ring takes a body as its record. -/
theorem ShmRingBuffer.write_ringRecord (ring : ShmRingBuffer) :
    ring.write (ringRecord body) = ring.write body := by
  have same : (ringRecord body).length % 2 ^ 32 = body.length % 2 ^ 32 := writtenLength_ringRecord
  simp only [ShmRingBuffer.write, same, ShmRingBuffer.copyAt_ringRecord]

end Records

/-! ## Bodies -/

/-- The binary format, for messages.  A filter is an untagged enumeration, which the format
writes but does not read. -/
class BincodeMessages where
  encode : TransportMessage → Option (List UInt8)
  decode : List UInt8 → Option TransportMessage
  decode_encode (message : TransportMessage) (plain : message.branch = none) :
    ∃ bytes, encode message = some bytes ∧ decode bytes = some message
  untagged {bytes : List UInt8} {message : TransportMessage} (decoded : decode bytes = some message) :
    message.branch = none
  shortest {bytes body : List UInt8} {message : TransportMessage}
    (decoded : decode bytes = some message) (encoded : encode message = some body) :
    body.length ≤ bytes.length

section Frames

variable [BincodeMessages]

/-- `ser_to_vec` of a message: the empty vector, where it cannot be encoded. -/
def TransportMessage.asBytes (message : TransportMessage) : List UInt8 :=
  (BincodeMessages.encode message).getD []

def deserFromVec (item : List UInt8) : Option TransportMessage := BincodeMessages.decode item

theorem deserFromVec_asBytes {message : TransportMessage} (plain : message.branch = none) :
    deserFromVec message.asBytes = some message := by
  obtain ⟨bytes, encoded, decoded⟩ := BincodeMessages.decode_encode message plain
  rw [TransportMessage.asBytes, encoded]
  exact decoded

/-- What a message has been read from: it has no filter, and its own body is no longer. -/
theorem deserFromVec_cases {item : List UInt8} {message : TransportMessage}
    (decoded : deserFromVec item = some message) :
    message.branch = none ∧ message.asBytes.length ≤ item.length := by
  have plain := BincodeMessages.untagged decoded
  obtain ⟨bytes, encoded, -⟩ := BincodeMessages.decode_encode message plain
  rw [TransportMessage.asBytes, encoded]
  exact ⟨plain, BincodeMessages.shortest decoded encoded⟩

/-! ## Frames -/

/-- `IPC_MAGIC` -/
def ipcMagic : List UInt8 := [0x52, 0x49, 0x4E, 0x44]

/-- `MAX_IPC_MESSAGE_SIZE` -/
def maxIpcMessageSize : Nat := 64 * 1024 * 1024

def TransportMessage.writeSigned (message : TransportMessage) : List UInt8 :=
  let buf := message.asBytes
  ipcMagic ++ Codec.bigEndian 4 (writtenLength buf) ++ buf

/-- `start_stdin_writer`, for one message. -/
def TransportMessage.writeStdin (message : TransportMessage) : List UInt8 :=
  let payload := message.asBytes
  Codec.bigEndian 4 (writtenLength payload) ++ payload

def readSigned (stream : List UInt8) : Option (TransportMessage × List UInt8) := do
  let (magic, stream) ← readExact 4 stream
  guard (magic = ipcMagic)
  let (lenBuf, stream) ← readExact 4 stream
  let len := Codec.fromBigEndian lenBuf
  guard (len ≤ maxIpcMessageSize)
  let (buf, stream) ← readExact len stream
  let message ← deserFromVec buf
  some (message, stream)

/-- What has been read: the magic, a length within the limit, and as many bytes, which
decode. -/
theorem readSigned_cases {stream rest : List UInt8} {message : TransportMessage}
    (read : readSigned stream = some (message, rest)) : ∃ lenBuf buf,
      stream = ipcMagic ++ (lenBuf ++ (buf ++ rest)) ∧ lenBuf.length = 4 ∧
        Codec.fromBigEndian lenBuf = buf.length ∧ buf.length ≤ maxIpcMessageSize ∧
        deserFromVec buf = some message := by
  simp only [readSigned, Option.bind_eq_bind, Option.bind_eq_some_iff, Option.guard_eq_some',
    exists_const, Prod.exists, Option.some.injEq, Prod.mk.injEq] at read
  obtain ⟨magic, afterMagic, readMagic, rfl, lenBuf, afterLen, readLen, limit, buf, left,
    readBuf, decoded, decodes, rfl, rfl⟩ := read
  obtain ⟨-, rfl⟩ := readExact_cases readMagic
  obtain ⟨width, rfl⟩ := readExact_cases readLen
  obtain ⟨len, rfl⟩ := readExact_cases readBuf
  rw [← len] at limit
  exact ⟨lenBuf, buf, rfl, width, len.symm, limit, decodes⟩

theorem readSigned_frame {lenBuf buf : List UInt8} (rest : List UInt8) (width : lenBuf.length = 4)
    (len : Codec.fromBigEndian lenBuf = buf.length) (within : buf.length ≤ maxIpcMessageSize) :
    readSigned (ipcMagic ++ (lenBuf ++ (buf ++ rest))) =
      (deserFromVec buf).map fun message => (message, rest) := by
  have magic := readExact_append ipcMagic (lenBuf ++ (buf ++ rest))
  have length := readExact_append lenBuf (buf ++ rest)
  rw [show ipcMagic.length = 4 from rfl] at magic
  rw [width] at length
  simp only [readSigned, magic, Option.bind_eq_bind, Option.bind_some, length, len,
    readExact_append, guard, if_pos within, if_true, Option.pure_def, Option.map_eq_bind]
  rfl

/-- The messages that a reader takes from a stream, up to the first failure. -/
def readAll (stream : List UInt8) : List TransportMessage :=
  match _read : readSigned stream with
  | none => []
  | some (message, rest) => message :: readAll rest
termination_by stream.length
decreasing_by
  obtain ⟨lenBuf, buf, same, width, -⟩ := readSigned_cases _read
  rw [same]
  simp only [List.length_append, width]
  omega

theorem readAll_of_none {stream : List UInt8} (failed : readSigned stream = none) :
    readAll stream = [] := by
  rw [readAll]
  split
  · rfl
  · rename_i read
    rw [failed] at read
    cases read

theorem readAll_of_some {stream rest : List UInt8} {message : TransportMessage}
    (read : readSigned stream = some (message, rest)) :
    readAll stream = message :: readAll rest := by
  rw [readAll]
  split
  · rename_i failed
    rw [read] at failed
    cases failed
  · rename_i other
    rw [read] at other
    cases other
    rfl

/-- The first message that is read is the one at the front of the stream. -/
theorem readAll_eq_cons {stream : List UInt8} {message : TransportMessage}
    {messages : List TransportMessage} (read : readAll stream = message :: messages) :
    ∃ rest, readSigned stream = some (message, rest) ∧ readAll rest = messages := by
  cases next : readSigned stream with
  | none =>
      rw [readAll_of_none next] at read
      cases read
  | some result =>
      rw [readAll_of_some next] at read
      obtain ⟨rfl, rest⟩ := List.cons.inj read
      exact ⟨result.2, rfl, rest⟩

/-! ## Sockets -/

section Sockets

variable {message : TransportMessage} {rest : List UInt8}

/-- Whether the body of a message is within the limit of the reader. -/
def TransportMessage.Fits (message : TransportMessage) : Prop :=
  message.asBytes.length ≤ maxIpcMessageSize

theorem writtenLength_of_fits (fits : message.Fits) :
    writtenLength message.asBytes = message.asBytes.length := by
  apply Nat.mod_eq_of_lt
  exact Nat.lt_of_le_of_lt fits (by decide)

theorem readSigned_writeSigned (plain : message.branch = none) (fits : message.Fits) :
    readSigned (message.writeSigned ++ rest) = some (message, rest) := by
  have read := readSigned_frame rest
    (Codec.length_bigEndian 4 (writtenLength message.asBytes))
    ((Codec.fromBigEndian_bigEndian (writtenLength_lt _)).trans (writtenLength_of_fits fits)) fits
  rw [TransportMessage.writeSigned, List.append_assoc, List.append_assoc, read,
    deserFromVec_asBytes plain]
  rfl

/-- A message that is read from a stream has no filter and is within the limit. -/
theorem readSigned_fits {stream : List UInt8} (read : readSigned stream = some (message, rest)) :
    message.branch = none ∧ message.Fits := by
  obtain ⟨lenBuf, buf, -, -, -, limit, decoded⟩ := readSigned_cases read
  obtain ⟨plain, short⟩ := deserFromVec_cases decoded
  exact ⟨plain, Nat.le_trans short limit⟩

/-- Without a magic, a frame is only read where its length happens to be the magic, and then
the message is too large to have been in it. -/
theorem readSigned_writeStdin {found : TransportMessage} {left : List UInt8}
    (read : readSigned (message.writeStdin ++ rest) = some (found, left)) : found ≠ message := by
  rintro rfl
  have fits := (readSigned_fits read).2
  obtain ⟨lenBuf, buf, same, -⟩ := readSigned_cases read
  rw [TransportMessage.writeStdin, List.append_assoc] at same
  have magic := (List.append_inj same (Codec.length_bigEndian _ _)).1
  have length := Codec.fromBigEndian_bigEndian (writtenLength_lt found.asBytes)
  rw [magic, writtenLength_of_fits fits] at length
  rw [TransportMessage.Fits, ← length] at fits
  exact absurd fits (by decide)

end Sockets

/-! ## Records -/

/-- A message that is read from a record of its own has no filter, and its body has a length
of 32 bits. -/
theorem deserFromVec_ringRecord {message : TransportMessage} :
    deserFromVec (ringRecord message.asBytes) = some message ↔
      message.branch = none ∧ message.asBytes.length < 2 ^ 32 := by
  constructor
  · intro decoded
    obtain ⟨plain, short⟩ := deserFromVec_cases decoded
    rw [length_ringRecord] at short
    exact ⟨plain, Nat.lt_of_le_of_lt short (Nat.mod_lt _ (by decide))⟩
  · rintro ⟨plain, short⟩
    rw [ringRecord_of_lt short]
    exact deserFromVec_asBytes plain

/-! ## Channels -/

/-- A writer and the reader at the other end: frames over a socket or the standard output,
frames to the standard input of a service, or records of a ring, which the server writes
itself and a client through its stream. -/
inductive FrameChannel where
  | signed
  | stdin
  | ring
  | shmStream
  deriving DecidableEq, Repr

/-- The records that are put into a ring for a message; a stream leaves out empty bodies. -/
def FrameChannel.records (channel : FrameChannel) (message : TransportMessage) :
    List (List UInt8) :=
  if channel = .shmStream ∧ message.asBytes = [] then [] else [ringRecord message.asBytes]

/-- The messages that are read at the other end of a channel that has taken some. -/
def FrameChannel.delivered (channel : FrameChannel) (messages : List TransportMessage) :
    List TransportMessage :=
  match channel with
  | .signed => readAll (messages.flatMap TransportMessage.writeSigned)
  | .stdin => readAll (messages.flatMap TransportMessage.writeStdin)
  | .ring | .shmStream => (messages.flatMap channel.records).filterMap deserFromVec

/-- Whether a channel carries a message. -/
def FrameChannel.Carries (channel : FrameChannel) (message : TransportMessage) : Prop :=
  match channel with
  | .signed => message.branch = none ∧ message.asBytes.length ≤ maxIpcMessageSize
  | .stdin => False
  | .ring => message.branch = none ∧ message.asBytes.length < 2 ^ 32
  | .shmStream =>
      message.branch = none ∧ message.asBytes ≠ [] ∧ message.asBytes.length < 2 ^ 32

section Channels

variable {channel : FrameChannel} {message : TransportMessage} {messages : List TransportMessage}

theorem readAll_writeSigned {rest : List UInt8} :
    readAll (message.writeSigned ++ rest) = message :: messages ↔
      (message.branch = none ∧ message.Fits) ∧ readAll rest = messages := by
  constructor
  · intro all
    obtain ⟨left, read, others⟩ := readAll_eq_cons all
    have carried := readSigned_fits read
    rw [readSigned_writeSigned carried.1 carried.2] at read
    cases read
    exact ⟨carried, others⟩
  · rintro ⟨⟨plain, fits⟩, rfl⟩
    exact readAll_of_some (readSigned_writeSigned plain fits)

theorem readAll_writeStdin {rest : List UInt8} :
    readAll (message.writeStdin ++ rest) ≠ message :: messages := by
  intro all
  obtain ⟨left, read, -⟩ := readAll_eq_cons all
  exact readSigned_writeStdin read rfl

theorem length_records (channel : FrameChannel) (messages : List TransportMessage) :
    (messages.flatMap channel.records).length ≤ messages.length := by
  induction messages with
  | nil => exact Nat.le_refl 0
  | cons message rest ih =>
      rw [List.flatMap_cons, List.length_append, List.length_cons, FrameChannel.records]
      split
      · rw [List.length_nil]
        omega
      · rw [List.length_singleton]
        omega

/-- Each record that is skipped leaves too few for the messages. -/
theorem filterMap_records :
    ((message :: messages).flatMap channel.records).filterMap deserFromVec = message :: messages ↔
      (deserFromVec (ringRecord message.asBytes) = some message ∧
        ¬ (channel = .shmStream ∧ message.asBytes = [])) ∧
      (messages.flatMap channel.records).filterMap deserFromVec = messages := by
  have few := Nat.le_trans (List.length_filterMap_le deserFromVec _)
    (length_records channel messages)
  have fewer {records : List TransportMessage} (short : records.length ≤ messages.length) :
      records ≠ message :: messages := by
    rintro rfl
    exact Nat.not_succ_le_self _ short
  rw [List.flatMap_cons, FrameChannel.records]
  split
  · rename_i left
    exact iff_of_false (fewer few) fun all => all.1.2 left
  · rename_i put
    rw [List.singleton_append, List.filterMap_cons]
    split
    · rename_i skipped
      rw [skipped]
      exact iff_of_false (fewer few) fun all => Option.some_ne_none _ all.1.1.symm
    · rename_i found decoded
      rw [decoded, List.cons.injEq, Option.some.injEq]
      exact and_congr_left fun _ => (and_iff_left put).symm

theorem delivered_cons : channel.delivered (message :: messages) = message :: messages ↔
    channel.Carries message ∧ channel.delivered messages = messages := by
  cases channel with
  | signed => exact readAll_writeSigned
  | stdin => exact iff_of_false readAll_writeStdin fun all => all.1
  | ring =>
      rw [FrameChannel.delivered, filterMap_records, deserFromVec_ringRecord]
      simp [FrameChannel.Carries, FrameChannel.delivered]
  | shmStream =>
      rw [FrameChannel.delivered, filterMap_records, deserFromVec_ringRecord]
      simp only [FrameChannel.Carries, FrameChannel.delivered, true_and]
      constructor
      · rintro ⟨⟨⟨plain, short⟩, some⟩, rest⟩
        exact ⟨⟨plain, some, short⟩, rest⟩
      · rintro ⟨⟨plain, some, short⟩, rest⟩
        exact ⟨⟨⟨plain, short⟩, some⟩, rest⟩

/-- A channel delivers messages as they are exactly where it carries each of them. -/
theorem delivered_iff (channel : FrameChannel) (messages : List TransportMessage) :
    channel.delivered messages = messages ↔ ∀ message ∈ messages, channel.Carries message := by
  induction messages with
  | nil =>
      apply iff_of_true _ (by simp)
      have empty : readAll [] = [] := readAll_of_none rfl
      cases channel with
      | signed => exact empty
      | stdin => exact empty
      | ring => rfl
      | shmStream => rfl
  | cons message rest ih => rw [delivered_cons, ih, List.forall_mem_cons]

end Channels

end Frames

/-! ## The format -/

namespace Standard

def messageTypeCodec : Codec TransportMessageType :=
  Codec.varint.partialView
    (fun variant => match variant with
      | 0 => some .impulse
      | 1 => some .facet
      | 2 => some .enquiry
      | 3 => some .response
      | 4 => some .unknown
      | _ => none)
    (fun type => match type with
      | .impulse => 0
      | .facet => 1
      | .enquiry => 2
      | .response => 3
      | .unknown => 4)
    (fun type => by cases type <;> rfl)

def messageActionCodec : Codec TransportMessageAction :=
  Codec.varint.partialView
    (fun variant => match variant with
      | 0 => some .set
      | 1 => some .remove
      | _ => none)
    (fun action => match action with
      | .set => 0
      | .remove => 1)
    (fun action => by cases action <;> rfl)

/-- The filter of a message that has none. -/
def noBranchCodec : Codec Unit :=
  Codec.byte.partialView (fun tag => if tag = 0 then some () else none) (fun _ => 0) (by simp)

/-- A message up to its filter. -/
def beforeBranchCodec : Codec (TransportMessageType × Option FlowPayload) :=
  messageTypeCodec.pair payloadCodec.option

/-- A message from behind its filter on. -/
def afterBranchCodec : Codec (Option Ustr × TransportMessageAction) :=
  Codec.string.option.pair messageActionCodec

/-- The messages without a filter. -/
def plainMessageCodec : Codec ((TransportMessageType × Option FlowPayload) × Unit ×
    Option Ustr × TransportMessageAction) :=
  beforeBranchCodec.pair (noBranchCodec.pair afterBranchCodec)

theorem messageTypeCodec_shortest : messageTypeCodec.Shortest := by
  apply Codec.Shortest.varint.partialView
  intro variant type packed
  split at packed <;> cases packed <;> rfl

theorem messageActionCodec_shortest : messageActionCodec.Shortest := by
  apply Codec.Shortest.varint.partialView
  intro variant action packed
  split at packed <;> cases packed <;> rfl

theorem noBranchCodec_shortest : noBranchCodec.Shortest := by
  apply Codec.Shortest.byte.partialView
  intro tag nothing packed
  split at packed
  · rename_i zero
    exact zero.symm
  · cases packed

/-- The content of a variant behind its position. -/
theorem tagged_shortest {α β : Type} {codec : Codec α} (pack : α → β) (shortest : codec.Shortest)
    {variant : Nat} {bytes left rest : List UInt8} {payload : β}
    (head : (Codec.varint.write variant).length + left.length ≤ bytes.length)
    (read : ((codec.read left).map fun result => (pack result.1, result.2)) =
      some (payload, rest)) : ∃ value, payload = pack value ∧
        (Codec.varint.write variant ++ codec.write value).length + rest.length ≤ bytes.length := by
  obtain ⟨⟨value, after⟩, readValue, result⟩ := Option.map_eq_some_iff.mp read
  have body : (codec.write value).length + after.length ≤ left.length :=
    shortest _ _ _ readValue
  obtain ⟨rfl, rfl⟩ := Prod.mk.inj result
  refine ⟨value, rfl, ?_⟩
  change (Codec.varint.write variant ++ codec.write value).length + after.length ≤ _
  rw [List.length_append]
  omega

theorem payloadCodec_shortest : payloadCodec.Shortest := by
  intro bytes payload rest read
  simp only [payloadCodec, Option.bind_eq_bind, Option.bind_eq_some_iff, Prod.exists] at read
  obtain ⟨variant, left, readVariant, read⟩ := read
  have head := Codec.Shortest.varint _ _ _ readVariant
  split at read
  · obtain ⟨text, rfl, within⟩ :=
      tagged_shortest (fun text => FlowPayload.json ⟨text⟩) Codec.Shortest.string head read
    exact within
  · obtain ⟨text, rfl, within⟩ :=
      tagged_shortest FlowPayload.string Codec.Shortest.string head read
    exact within
  · obtain ⟨content, rfl, within⟩ :=
      tagged_shortest FlowPayload.bytes Codec.Shortest.byte.list head read
    exact within
  · obtain ⟨flag, rfl, within⟩ := tagged_shortest FlowPayload.none Codec.Shortest.bool head read
    exact within
  · cases read

/-- A filter as it is written. Nothing reads it: a JSON value is written as its text here. -/
def writeBranch [SerdeJson] : FlowMatchOperation → List UInt8
  | .eq value => Codec.string.write value
  | .options binary contains asValue =>
      Codec.bool.option.write binary ++ Codec.string.option.write contains ++
        Codec.string.option.write (asValue.map SerdeJson.toText)

theorem plainMessageCodec_shortest : plainMessageCodec.Shortest :=
  (messageTypeCodec_shortest.pair payloadCodec_shortest.option).pair
    (noBranchCodec_shortest.pair
      (Codec.Shortest.string.option.pair messageActionCodec_shortest))

def encodeMessage [SerdeJson] (message : TransportMessage) : List UInt8 :=
  match message.branch with
  | none =>
      plainMessageCodec.write ((message.type, message.payload), (), message.name, message.action)
  | some branch =>
      beforeBranchCodec.write (message.type, message.payload) ++ 1 :: writeBranch branch ++
        afterBranchCodec.write (message.name, message.action)

def decodeMessage (bytes : List UInt8) : Option TransportMessage :=
  (plainMessageCodec.decode bytes).map fun fields =>
    ⟨fields.1.1, fields.1.2, none, fields.2.2.1, fields.2.2.2⟩

theorem encodeMessage_plain [SerdeJson] {message : TransportMessage} (plain : message.branch = none) :
    encodeMessage message = plainMessageCodec.write
      ((message.type, message.payload), (), message.name, message.action) := by
  rw [encodeMessage, plain]

theorem decodeMessage_encodeMessage [SerdeJson] (message : TransportMessage)
    (plain : message.branch = none) : decodeMessage (encodeMessage message) = some message := by
  obtain ⟨type, payload, branch, name, action⟩ := message
  cases plain
  rw [decodeMessage, encodeMessage_plain rfl, Codec.decode_write, Option.map_some]

/-- What has been decoded, and how long its encoding is at most. -/
theorem decodeMessage_cases [SerdeJson] {bytes : List UInt8} {message : TransportMessage}
    (decoded : decodeMessage bytes = some message) :
    message.branch = none ∧ (encodeMessage message).length ≤ bytes.length := by
  obtain ⟨⟨⟨type, payload⟩, ⟨⟩, name, action⟩, fields, rfl⟩ := Option.map_eq_some_iff.mp decoded
  refine ⟨rfl, ?_⟩
  rw [encodeMessage_plain rfl]
  exact plainMessageCodec_shortest.decoded fields

scoped instance [SerdeJson] : BincodeMessages where
  encode message := some (encodeMessage message)
  decode := decodeMessage
  decode_encode message plain := ⟨_, rfl, decodeMessage_encodeMessage message plain⟩
  untagged decoded := (decodeMessage_cases decoded).1
  shortest decoded encoded := by
    cases encoded
    exact (decodeMessage_cases decoded).2

end Standard

/-! ## Messages that are lost -/

section Examples

open scoped Rind.Compact Rind.Standard

def announcement (branch : Option FlowMatchOperation) : TransportMessage where
  type := .facet
  payload := some (.string "up")
  branch := branch
  name := some "rind:net"
  action := .set

/-- A service reads no message from its standard input, and nobody one with a filter. -/
theorem not_delivered_announcement :
    FrameChannel.stdin.delivered [announcement none] ≠ [announcement none] ∧
      FrameChannel.signed.delivered [announcement (some (.eq "up"))] ≠
        [announcement (some (.eq "up"))] := by
  have unsigned : readSigned ((announcement none).writeStdin ++ []) = none := by
    decide +kernel
  have filtered : readSigned ((announcement (some (.eq "up"))).writeSigned ++ []) = none := by
    decide +kernel
  constructor
  · rw [FrameChannel.delivered, List.flatMap_cons, List.flatMap_nil, readAll_of_none unsigned]
    exact (List.cons_ne_nil _ _).symm
  · rw [FrameChannel.delivered, List.flatMap_cons, List.flatMap_nil, readAll_of_none filtered]
    exact (List.cons_ne_nil _ _).symm

end Examples

end Rind
