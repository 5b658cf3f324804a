import Rind.Transport.Ring

/-!
# Rings that a hostile peer writes

The header and the bytes of a ring are in memory that a client can write.  Reads and
writes of the daemon stay inside their half of the mapping, and compute nothing that
overflows, only for some of the values that it may find there.
-/

namespace Rind

namespace ShmRingBuffer

/-! ## Copies inside the half -/

/-- All bytes of a copy of up to two parts are in the half of the mapping. -/
def Within (size offset len : Nat) : Prop :=
  if len ≤ size - offset % size then len = 0 ∨ dataStart + offset % size + len ≤ shmSize
  else dataStart + size ≤ shmSize ∧ dataStart + (len - (size - offset % size)) ≤ shmSize

/-- The bytes that a read of up to two parts finds. -/
def fetched (ring : ShmRingBuffer) (size offset len : Nat) : List UInt8 :=
  if len ≤ size - offset % size then
    (List.range len).map fun index => ring.bytes (dataStart + offset % size + index)
  else
    ((List.range (size - offset % size)).map fun index =>
      ring.bytes (dataStart + offset % size + index)) ++
      (List.range (len - (size - offset % size))).map fun index => ring.bytes (dataStart + index)

theorem length_fetched (ring : ShmRingBuffer) (size offset len : Nat) :
    (ring.fetched size offset len).length = len := by
  rw [fetched]
  split
  · rw [List.length_map, List.length_range]
  · rw [List.length_append, List.length_map, List.length_map, List.length_range,
      List.length_range]
    omega

section Copies

variable {ring : ShmRingBuffer} {size offset : Nat}

theorem isOk_put_iff {start : Nat} {src : List UInt8} :
    IsOk (ring.put start src) ↔ src = [] ∨ start + src.length ≤ shmSize := isOk_ite_iff

theorem isOk_get_iff {start len : Nat} :
    IsOk (ring.get start len) ↔ len = 0 ∨ start + len ≤ shmSize := isOk_ite_iff

/-- Nothing is read from a ring without bytes. -/
theorem readAt_zero (len : Nat) : ring.readAt offset len 0 = .error .divideByZero := rfl

/-- A copy ends where its bytes do. -/
theorem copyAt_next {src : List UInt8} {next : Nat} {final : ShmRingBuffer}
    (copied : ring.copyAt offset src size = .ok (next, final)) :
    next = (offset + src.length % 2 ^ 32) % 2 ^ 32 := by
  obtain ⟨pos, -, copied⟩ := bind_eq_ok.mp copied
  obtain ⟨space, -, copied⟩ := bind_eq_ok.mp copied
  obtain ⟨start, -, copied⟩ := bind_eq_ok.mp copied
  split at copied
  · obtain ⟨first, -, same⟩ := bind_eq_ok.mp copied
    cases same
    rfl
  · obtain ⟨first, -, copied⟩ := bind_eq_ok.mp copied
    obtain ⟨left, -, copied⟩ := bind_eq_ok.mp copied
    obtain ⟨second, -, same⟩ := bind_eq_ok.mp copied
    cases same
    rfl

variable (positive : 0 < size) (small : dataStart + size ≤ 2 ^ 32)

include positive small in
theorem isOk_copyAt_iff {src : List UInt8} :
    IsOk (ring.copyAt offset src size) ↔ Within size offset (src.length % 2 ^ 32) := by
  have pos : offset % size < size := Nat.mod_lt _ positive
  have least := Nat.mod_le src.length (2 ^ 32)
  simp only [copyAt, mod32_ok positive, ok_bind, sub32_ok pos.le,
    add32_ok (show dataStart + offset % size < 2 ^ 32 by omega), Within]
  split
  · rw [isOk_bind_pure_iff, isOk_put_iff,
      List.take_eq_nil_iff, List.length_take, Nat.min_eq_left least]
    constructor
    · rintro ((none | empty) | inside)
      · exact .inl none
      · exact .inl (by rw [empty]; rfl)
      · exact .inr inside
    · rintro (none | inside)
      · exact .inl (.inl none)
      · exact .inr inside
  · rename_i wraps
    have first : (src.take (size - offset % size)).length = size - offset % size := by
      rw [List.length_take]
      omega
    have second : ((src.drop (size - offset % size)).take
        (src.length % 2 ^ 32 - (size - offset % size))).length =
          src.length % 2 ^ 32 - (size - offset % size) := by
      rw [List.length_take, List.length_drop]
      omega
    rw [isOk_bind_iff, isOk_put_iff, first]
    · refine and_congr_left fun _ => ?_
      have some : src.take (size - offset % size) ≠ [] := List.ne_nil_of_length_pos (by omega)
      rw [or_iff_right some]
      omega
    · intro final _
      rw [sub32_ok (by omega), ok_bind, isOk_bind_pure_iff,
        isOk_put_iff, second]
      exact or_iff_right (List.ne_nil_of_length_pos (by omega))

include positive small in
theorem isOk_readAt_iff {len : Nat} :
    IsOk (ring.readAt offset len size) ↔ Within size offset len := by
  have pos : offset % size < size := Nat.mod_lt _ positive
  simp only [readAt, mod32_ok positive, ok_bind, sub32_ok pos.le,
    add32_ok (show dataStart + offset % size < 2 ^ 32 by omega), Within]
  split
  · rw [isOk_bind_pure_iff, isOk_get_iff]
  · rename_i wraps
    rw [isOk_bind_iff, isOk_get_iff]
    · refine and_congr_left fun _ => ?_
      omega
    · intro first _
      rw [sub32_ok (by omega), ok_bind, isOk_bind_pure_iff,
        isOk_get_iff]
      exact or_iff_right (by omega)

include positive small in
theorem readAt_fetched {len : Nat} (within : Within size offset len) :
    ring.readAt offset len size = .ok ((offset + len) % 2 ^ 32, ring.fetched size offset len) := by
  have pos : offset % size < size := Nat.mod_lt _ positive
  rw [Within] at within
  simp only [readAt, mod32_ok positive, ok_bind, sub32_ok pos.le,
    add32_ok (show dataStart + offset % size < 2 ^ 32 by omega), fetched]
  split
  · rename_i fits
    rw [if_pos fits] at within
    rw [get_ok within]
    rfl
  · rename_i wraps
    rw [if_neg wraps] at within
    rw [get_ok (.inr (by omega)), ok_bind, sub32_ok (by omega), ok_bind, get_ok (.inr within.2)]
    rfl

end Copies

/-! ## Reads and writes -/

section Calls

variable (ring : ShmRingBuffer)

/-- The size of the ring after its header, where the capacity is larger than that. -/
def bufferSize : Nat := ring.capacity.toNat - dataStart

/-- The length that is found at the tail. -/
def recordLength : Nat :=
  Codec.fromLittleEndian (ring.fetched ring.bufferSize ring.tail.toNat 4)

/-- A read that faults nowhere and allocates no more than the ring. -/
def ReadSafe : Prop :=
  ∃ found final, ring.read = .ok (found, final) ∧ ∀ data, found = some data → data.length ≤ shmSize

/-- A write that faults nowhere. -/
def WriteSafe (data : List UInt8) : Prop := IsOk (ring.write data)

/-- There is nothing to read, or the header has a ring in which the length of a record, and
then the record, are inside the half. -/
def ReadsWithin : Prop :=
  ring.tail = ring.head ∨ dataStart < ring.capacity.toNat ∧
    Within ring.bufferSize ring.tail.toNat 4 ∧ ring.recordLength ≤ shmSize ∧
    Within ring.bufferSize ((ring.tail.toNat + 4) % 2 ^ 32) ring.recordLength

/-- The header has a ring, in which there is no room for the record, or in which its length
and its bytes are inside the half; and what is used up can be told in 32 bits. -/
def WritesWithin (data : List UInt8) : Prop :=
  data.length % 2 ^ 32 + 4 < 2 ^ 32 ∧ dataStart ≤ ring.capacity.toNat ∧
    ring.used + (data.length % 2 ^ 32 + 4) < 2 ^ 32 ∧
    (ring.bufferSize ≤ ring.used + (data.length % 2 ^ 32 + 4) ∨
      Within ring.bufferSize ring.head.toNat 4 ∧
        Within ring.bufferSize ((ring.head.toNat + 4) % 2 ^ 32) (data.length % 2 ^ 32))

theorem readSafe_iff : ring.ReadSafe ↔ ring.ReadsWithin := by
  have bound := ring.capacity.toNat_lt
  rw [ReadSafe, ReadsWithin, read]
  split
  · rename_i empty
    exact iff_of_true ⟨none, ring, rfl, nofun⟩ (.inl empty)
  · rename_i filled
    rw [or_iff_right filled]
    by_cases header : dataStart < ring.capacity.toNat
    · have positive : 0 < ring.bufferSize := by
        rw [bufferSize]
        omega
      have small : dataStart + ring.bufferSize ≤ 2 ^ 32 := by
        rw [bufferSize]
        omega
      rw [sub32_ok header.le, ok_bind, and_iff_right header, ← bufferSize]
      by_cases within : Within ring.bufferSize ring.tail.toNat 4
      · rw [readAt_fetched positive small within, ok_bind, and_iff_right within]
        change (∃ found final, (ring.readAt _ ring.recordLength _ >>= _) = _ ∧ _) ↔ _
        constructor
        · rintro ⟨found, final, ran, short⟩
          obtain ⟨⟨next, data⟩, copied, same⟩ := bind_eq_ok.mp ran
          cases same
          have inside := (isOk_readAt_iff positive small).mp ⟨_, copied⟩
          rw [readAt_fetched positive small inside] at copied
          cases copied
          have allocated := short _ rfl
          rw [length_fetched] at allocated
          exact ⟨allocated, inside⟩
        · rintro ⟨short, inside⟩
          rw [readAt_fetched positive small inside]
          refine ⟨_, _, rfl, ?_⟩
          intro data same
          cases same
          rwa [length_fetched]
      · refine iff_of_false ?_ fun both => within both.1
        rintro ⟨found, final, ran, -⟩
        obtain ⟨first, copied, -⟩ := bind_eq_ok.mp ran
        exact within ((isOk_readAt_iff positive small).mp ⟨first, copied⟩)
    · refine iff_of_false ?_ fun both => header both.1
      rintro ⟨found, final, ran, -⟩
      obtain ⟨size, sized, ran⟩ := bind_eq_ok.mp ran
      obtain ⟨first, copied, -⟩ := bind_eq_ok.mp ran
      have zero : size = 0 := by
        have difference := (sub32_cases sized).2
        omega
      rw [zero, readAt_zero] at copied
      cases copied

theorem writeSafe_iff (data : List UInt8) : ring.WriteSafe data ↔ ring.WritesWithin data := by
  have bound := ring.capacity.toNat_lt
  rw [WriteSafe, WritesWithin, write]
  have total : IsOk (add32 (data.length % 2 ^ 32) 4) ↔ data.length % 2 ^ 32 + 4 < 2 ^ 32 :=
    isOk_ite_iff
  have sized : IsOk (sub32 ring.capacity.toNat dataStart) ↔ dataStart ≤ ring.capacity.toNat :=
    isOk_ite_iff
  have needed : IsOk (add32 ring.used (data.length % 2 ^ 32 + 4)) ↔
      ring.used + (data.length % 2 ^ 32 + 4) < 2 ^ 32 := isOk_ite_iff
  rw [← total, ← sized, ← needed]
  apply isOk_bind_iff
  intro totalLen added
  obtain ⟨-, rfl⟩ := add32_cases added
  apply isOk_bind_iff
  intro size subtracted
  obtain ⟨header, rfl⟩ := sub32_cases subtracted
  rw [← bufferSize, usedSpace_eq, ok_bind]
  apply isOk_bind_iff
  intro sum added
  obtain ⟨-, rfl⟩ := add32_cases added
  split
  · rename_i full
    exact iff_of_true (isOk_ok _) (.inl full)
  · rename_i room
    rw [or_iff_right room]
    have positive : 0 < ring.bufferSize := by omega
    have small : dataStart + ring.bufferSize ≤ 2 ^ 32 := by
      rw [bufferSize]
      omega
    have length : (Codec.littleEndian 4 (data.length % 2 ^ 32)).length % 2 ^ 32 = 4 := by
      rw [Codec.length_littleEndian]
      rfl
    have first : IsOk (ring.copyAt ring.head.toNat (Codec.littleEndian 4 (data.length % 2 ^ 32))
        ring.bufferSize) ↔ Within ring.bufferSize ring.head.toNat 4 := by
      rw [isOk_copyAt_iff positive small, length]
    rw [← first]
    apply isOk_bind_iff
    rintro ⟨next, final⟩ copied
    have advanced := copyAt_next copied
    rw [length] at advanced
    subst advanced
    dsimp only
    rw [isOk_bind_pure_iff, isOk_copyAt_iff positive small]

end Calls

/-! ## All rings -/

/-- Reads and writes are safe exactly on the rings in which they stay inside the half. -/
theorem safe_iff (ring : ShmRingBuffer) :
    (ring.ReadSafe ↔ ring.ReadsWithin) ∧ ∀ data, ring.WriteSafe data ↔ ring.WritesWithin data :=
  ⟨ring.readSafe_iff, ring.writeSafe_iff⟩

/-- A ring whose client has set the capacity to the size of the header. -/
def emptied : ShmRingBuffer := ⟨1, 0, 12, fun _ => 0⟩

/-- The daemon divides by zero where a client has left no bytes in the ring. -/
theorem not_safe_emptied :
    ¬ ∀ ring : ShmRingBuffer, ring.ReadSafe ∧ ∀ data, ring.WriteSafe data := by
  intro safe
  obtain ⟨found, final, ran, -⟩ := (safe emptied).1
  have faults : emptied.read = .error .divideByZero := rfl
  rw [faults] at ran
  cases ran

end ShmRingBuffer

end Rind
