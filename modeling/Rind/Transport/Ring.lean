import Rind.Core.Error
import Rind.Data.Codec

/-!
# Shared ring buffers

A ring of byte records in one half of a mapping that two processes share.  A record is its
length and its bytes, each of them copied in up to two parts.  The head and the tail count
bytes and wrap around at 32 bits.
-/

namespace Rind

/-- What must not happen where memory is read and written that a peer can change. -/
inductive Fault where
  | divideByZero
  | overflow
  | outOfBounds
  deriving DecidableEq, Repr

/-! ## Numbers of 32 bits -/

def add32 (first second : Nat) : Except Fault Nat :=
  if first + second < 2 ^ 32 then .ok (first + second) else .error .overflow

def sub32 (first second : Nat) : Except Fault Nat :=
  if second ≤ first then .ok (first - second) else .error .overflow

def mod32 (first second : Nat) : Except Fault Nat :=
  if second = 0 then .error .divideByZero else .ok (first % second)

section Numbers

variable {first second : Nat}

theorem add32_ok (fits : first + second < 2 ^ 32) : add32 first second = .ok (first + second) :=
  if_pos fits

theorem sub32_ok (fits : second ≤ first) : sub32 first second = .ok (first - second) := if_pos fits

theorem sub32_cases {difference : Nat} (subtracted : sub32 first second = .ok difference) :
    second ≤ first ∧ difference = first - second := by
  rw [sub32] at subtracted
  split at subtracted
  · rename_i fits
    cases subtracted
    exact ⟨fits, rfl⟩
  · cases subtracted

theorem add32_cases {sum : Nat} (added : add32 first second = .ok sum) :
    first + second < 2 ^ 32 ∧ sum = first + second := by
  rw [add32] at added
  split at added
  · rename_i fits
    cases added
    exact ⟨fits, rfl⟩
  · cases added

theorem mod32_ok (positive : 0 < second) : mod32 first second = .ok (first % second) :=
  if_neg (Nat.pos_iff_ne_zero.mp positive)

end Numbers

/-! ## The buffer -/

/-- `SHM_SIZE` -/
def shmSize : Nat := 1024 * 1024

/-- The size of a `ShmHeader`. -/
def dataStart : Nat := 12

/-- A ring with its header and with the byte at each address from its start on. -/
structure ShmRingBuffer where
  head : UInt32
  tail : UInt32
  capacity : UInt32
  bytes : Nat → UInt8

namespace ShmRingBuffer

/-- `copy_nonoverlapping` into the mapping. -/
def put (ring : ShmRingBuffer) (start : Nat) (src : List UInt8) : Except Fault ShmRingBuffer :=
  if src = [] ∨ start + src.length ≤ shmSize then
    .ok { ring with
      bytes := fun address =>
        if start ≤ address then (src[address - start]?).getD (ring.bytes address)
        else ring.bytes address }
  else .error .outOfBounds

/-- `copy_nonoverlapping` out of the mapping. -/
def get (ring : ShmRingBuffer) (start len : Nat) : Except Fault (List UInt8) :=
  if len = 0 ∨ start + len ≤ shmSize then
    .ok ((List.range len).map fun index => ring.bytes (start + index))
  else .error .outOfBounds

def copyAt (ring : ShmRingBuffer) (offset : Nat) (src : List UInt8) (bufferSize : Nat) :
    Except Fault (Nat × ShmRingBuffer) := do
  let len := src.length % 2 ^ 32
  let pos ← mod32 offset bufferSize
  let spaceToEnd ← sub32 bufferSize pos
  let start ← add32 dataStart pos
  if len ≤ spaceToEnd then
    let ring ← ring.put start (src.take len)
    pure ((offset + len) % 2 ^ 32, ring)
  else
    let ring ← ring.put start (src.take spaceToEnd)
    let left ← sub32 len spaceToEnd
    let ring ← ring.put dataStart ((src.drop spaceToEnd).take left)
    pure ((offset + len) % 2 ^ 32, ring)

def readAt (ring : ShmRingBuffer) (offset len bufferSize : Nat) :
    Except Fault (Nat × List UInt8) := do
  let pos ← mod32 offset bufferSize
  let spaceToEnd ← sub32 bufferSize pos
  let start ← add32 dataStart pos
  if len ≤ spaceToEnd then
    let dest ← ring.get start len
    pure ((offset + len) % 2 ^ 32, dest)
  else
    let first ← ring.get start spaceToEnd
    let left ← sub32 len spaceToEnd
    let second ← ring.get dataStart left
    pure ((offset + len) % 2 ^ 32, first ++ second)

/-- How many bytes there are between the tail and the head. -/
def usedSpace (ring : ShmRingBuffer) : Except Fault Nat :=
  let head := ring.head.toNat
  let tail := ring.tail.toNat
  if tail ≤ head then sub32 head tail
  else do
    let before ← sub32 (2 ^ 32 - 1) tail
    let both ← add32 before head
    add32 both 1

def write (ring : ShmRingBuffer) (data : List UInt8) : Except Fault (Bool × ShmRingBuffer) := do
  let len := data.length % 2 ^ 32
  let totalLen ← add32 len 4
  let bufferSize ← sub32 ring.capacity.toNat dataStart
  let used ← ring.usedSpace
  let needed ← add32 used totalLen
  if bufferSize ≤ needed then pure (false, ring)
  else
    let (head, ring) ← ring.copyAt ring.head.toNat (Codec.littleEndian 4 len) bufferSize
    let (head, ring) ← ring.copyAt head data bufferSize
    pure (true, { ring with head := .ofNat head })

def read (ring : ShmRingBuffer) : Except Fault (Option (List UInt8) × ShmRingBuffer) := do
  if ring.tail = ring.head then pure (none, ring)
  else
    let bufferSize ← sub32 ring.capacity.toNat dataStart
    let (tail, lenBytes) ← ring.readAt ring.tail.toNat 4 bufferSize
    let (tail, data) ← ring.readAt tail (Codec.fromLittleEndian lenBytes) bufferSize
    pure (some data, { ring with tail := .ofNat tail })

/-! ## What is used -/

section Used

variable (ring : ShmRingBuffer)

/-- The bytes between the tail and the head, as the counters have it. -/
def used : Nat := (ring.head - ring.tail).toNat

theorem usedSpace_eq : ring.usedSpace = .ok ring.used := by
  have head := ring.head.toNat_lt
  have tail := ring.tail.toNat_lt
  rw [used, UInt32.toNat_sub, usedSpace]
  split
  · rename_i ordered
    rw [sub32_ok ordered]
    congr 1
    omega
  · rename_i wrapped
    rw [sub32_ok (by omega), ok_bind, add32_ok (by omega), ok_bind, add32_ok (by omega)]
    congr 1
    omega

end Used

/-! ## Copies -/

section Copies

variable {ring : ShmRingBuffer} {offset size : Nat} {src : List UInt8}

/-- The cell of a byte of a record, in a ring of some size. -/
theorem cell_before {index : Nat} (before : offset % size + index < size) :
    (offset + index) % size = offset % size + index := by
  rw [← Nat.mod_add_mod, Nat.mod_eq_of_lt before]

theorem cell_after {index : Nat} (after : size ≤ offset % size + index)
    (once : offset % size + index < 2 * size) :
    (offset + index) % size = offset % size + index - size := by
  rw [← Nat.mod_add_mod, Nat.mod_eq_sub_mod after, Nat.mod_eq_of_lt]
  omega

/-- What a copy into a ring leaves: each byte in its cell, and all else as it was. -/
structure Copied (ring final : ShmRingBuffer) (size offset : Nat) (src : List UInt8) : Prop where
  head : final.head = ring.head
  tail : final.tail = ring.tail
  capacity : final.capacity = ring.capacity
  placed : ∀ index, (inside : index < src.length) →
    final.bytes (dataStart + (offset + index) % size) = src[index]
  kept : ∀ cell < size, (∀ index < src.length, (offset + index) % size ≠ cell) →
    final.bytes (dataStart + cell) = ring.bytes (dataStart + cell)

/-- The byte at an address after some bytes have been put at another one. -/
def putByte (bytes : Nat → UInt8) (start : Nat) (src : List UInt8) (address : Nat) : UInt8 :=
  if start ≤ address then (src[address - start]?).getD (bytes address) else bytes address

theorem putByte_inside {bytes : Nat → UInt8} {start index : Nat} (inside : index < src.length) :
    putByte bytes start src (start + index) = src[index] := by
  rw [putByte, if_pos (Nat.le_add_right _ _), Nat.add_sub_cancel_left,
    List.getElem?_eq_getElem inside, Option.getD_some]

theorem putByte_outside {bytes : Nat → UInt8} {start address : Nat}
    (outside : address < start ∨ start + src.length ≤ address) :
    putByte bytes start src address = bytes address := by
  rw [putByte]
  split
  · rw [List.getElem?_eq_none (by omega), Option.getD_none]
  · rfl

theorem put_ok {start : Nat} (inside : src = [] ∨ start + src.length ≤ shmSize) :
    ring.put start src = .ok { ring with bytes := putByte ring.bytes start src } := if_pos inside

theorem get_ok {start len : Nat} (inside : len = 0 ∨ start + len ≤ shmSize) :
    ring.get start len = .ok ((List.range len).map fun index => ring.bytes (start + index)) :=
  if_pos inside

variable (positive : 0 < size) (inside : dataStart + size ≤ shmSize)

theorem shmSize_lt : shmSize < 2 ^ 32 := by decide

include positive inside in
theorem copyAt_ok (short : src.length ≤ size) : ∃ final,
    ring.copyAt offset src size = .ok ((offset + src.length) % 2 ^ 32, final) ∧
      Copied ring final size offset src := by
  have bound := shmSize_lt
  have pos : offset % size < size := Nat.mod_lt _ positive
  have len : src.length % 2 ^ 32 = src.length := Nat.mod_eq_of_lt (by omega)
  simp only [copyAt, len, mod32_ok positive, ok_bind, sub32_ok pos.le,
    add32_ok (show dataStart + offset % size < 2 ^ 32 by omega), List.take_length]
  split
  · rename_i fits
    rw [put_ok (.inr (by omega))]
    refine ⟨_, rfl, rfl, rfl, rfl, ?_, ?_⟩
    · intro index within
      rw [cell_before (by omega), ← Nat.add_assoc]
      exact putByte_inside within
    · intro cell _ apart
      apply putByte_outside
      by_contra within
      have index : cell - offset % size < src.length := by omega
      apply apart _ index
      rw [cell_before (by omega)]
      omega
  · rename_i wraps
    have first : (src.take (size - offset % size)).length = size - offset % size := by
      rw [List.length_take]
      omega
    have second : ((src.drop (size - offset % size)).take
        (src.length - (size - offset % size))).length = src.length - (size - offset % size) := by
      rw [List.length_take, List.length_drop]
      omega
    rw [put_ok (.inr (by omega)), ok_bind, sub32_ok (by omega), ok_bind,
      put_ok (.inr (by omega))]
    refine ⟨_, rfl, rfl, rfl, rfl, ?_, ?_⟩
    · intro index within
      by_cases before : index < size - offset % size
      · rw [cell_before (by omega)]
        change putByte (putByte _ _ _) _ _ _ = _
        rw [putByte_outside (.inr (by omega)), ← Nat.add_assoc,
          putByte_inside (by omega), List.getElem_take]
      · rw [cell_after (by omega) (by omega)]
        have shifted : index - (size - offset % size) = offset % size + index - size := by omega
        change putByte (putByte _ _ _) _ _ _ = _
        rw [← shifted, putByte_inside (by omega), List.getElem_take, List.getElem_drop]
        congr 1
        omega
    · intro cell within apart
      change putByte (putByte _ _ _) _ _ _ = _
      rw [putByte_outside, putByte_outside]
      · by_contra taken
        have index : cell - offset % size < src.length := by omega
        apply apart _ index
        rw [cell_before (by omega)]
        omega
      · by_contra taken
        have index : cell + (size - offset % size) < src.length := by omega
        apply apart _ index
        rw [cell_after (by omega) (by omega)]
        omega

include positive inside in
theorem readAt_ok {len : Nat} (short : len ≤ size) :
    ring.readAt offset len size = .ok ((offset + len) % 2 ^ 32,
      (List.range len).map fun index => ring.bytes (dataStart + (offset + index) % size)) := by
  have bound := shmSize_lt
  have pos : offset % size < size := Nat.mod_lt _ positive
  simp only [readAt, mod32_ok positive, ok_bind, sub32_ok pos.le,
    add32_ok (show dataStart + offset % size < 2 ^ 32 by omega)]
  split
  · rename_i fits
    rw [get_ok (.inr (by omega))]
    change Except.ok (_, _) = _
    congr 2
    apply List.map_congr_left
    intro index within
    rw [List.mem_range] at within
    rw [cell_before (by omega), Nat.add_assoc]
  · rename_i wraps
    rw [get_ok (.inr (by omega)), ok_bind, sub32_ok (by omega), ok_bind,
      get_ok (.inr (by omega))]
    change Except.ok (_, _) = _
    congr 2
    have parts : len = size - offset % size + (len - (size - offset % size)) := by omega
    conv_rhs => rw [parts, List.range_add, List.map_append, List.map_map]
    congr 1
    · apply List.map_congr_left
      intro index within
      rw [List.mem_range] at within
      rw [cell_before (by omega), Nat.add_assoc]
    · apply List.map_congr_left
      intro index within
      rw [List.mem_range] at within
      rw [Function.comp_apply, cell_after (by omega) (by omega)]
      congr 2
      omega

end Copies

end ShmRingBuffer

end Rind
