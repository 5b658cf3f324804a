import Mathlib.Algebra.Ring.Nat
import Mathlib.Data.List.AList

/-!
# Binary codecs

A codec writes a value as bytes and reads it back from the front of any input
that starts with them.  The combinators carry the proof of this law along.
-/

namespace Rind

/-- A writer with a reader that consumes exactly what was written. -/
structure Codec (α : Type) where
  write : α → List UInt8
  read : List UInt8 → Option (α × List UInt8)
  read_write (value : α) (rest : List UInt8) : read (write value ++ rest) = some (value, rest)

namespace Codec

variable {α β : Type}

/-- The value at the front of the input, whatever follows it. -/
def decode (codec : Codec α) (bytes : List UInt8) : Option α := (codec.read bytes).map (·.1)

@[simp] theorem decode_write (codec : Codec α) (value : α) :
    codec.decode (codec.write value) = some value := by
  have read := codec.read_write value []
  rw [List.append_nil] at read
  rw [decode, read, Option.map_some]

/-! ## Combinators -/

def pair (left : Codec α) (right : Codec β) : Codec (α × β) where
  write value := left.write value.1 ++ right.write value.2
  read bytes := do
    let (first, bytes) ← left.read bytes
    let (second, bytes) ← right.read bytes
    some ((first, second), bytes)
  read_write value rest := by
    simp [left.read_write, right.read_write]

/-- Another view of the values of a codec. -/
def view (codec : Codec α) (pack : α → β) (unpack : β → α)
    (inverse : ∀ value, pack (unpack value) = value) : Codec β where
  write value := codec.write (unpack value)
  read bytes := (codec.read bytes).map fun result => (pack result.1, result.2)
  read_write value rest := by
    rw [codec.read_write, Option.map_some, inverse]

/-- A view that only reads some of the values. -/
def partialView (codec : Codec α) (pack : α → Option β) (unpack : β → α)
    (inverse : ∀ value, pack (unpack value) = some value) : Codec β where
  write value := codec.write (unpack value)
  read bytes := do
    let (value, rest) ← codec.read bytes
    let value ← pack value
    some (value, rest)
  read_write value rest := by
    simp [codec.read_write, inverse]

def byte : Codec UInt8 where
  write value := [value]
  read
    | [] => none
    | value :: rest => some (value, rest)
  read_write _ _ := rfl

def bool : Codec Bool :=
  byte.partialView
    (fun value => if value = 0 then some false else if value = 1 then some true else none)
    (fun value => if value then 1 else 0)
    (by decide)

/-- A value that may be missing: one byte that says so, and the value. -/
def option (codec : Codec α) : Codec (Option α) where
  write
    | none => [0]
    | some value => 1 :: codec.write value
  read
    | [] => none
    | tag :: bytes =>
        if tag = 0 then some (none, bytes)
        else if tag = 1 then (codec.read bytes).map fun result => (some result.1, result.2)
        else none
  read_write value rest := by
    cases value <;> simp [codec.read_write]

/-! ## Numbers -/

/-- The low bytes of a number, lowest first. -/
def littleEndian : (width value : Nat) → List UInt8
  | 0, _ => []
  | width + 1, value => UInt8.ofNat (value % 256) :: littleEndian width (value / 256)

/-- The number of some bytes, lowest first. -/
def fromLittleEndian (bytes : List UInt8) : Nat :=
  bytes.foldr (fun low high => low.toNat + 256 * high) 0

def readLittleEndian (width : Nat) (bytes : List UInt8) : Option (Nat × List UInt8) :=
  if width ≤ bytes.length then some (fromLittleEndian (bytes.take width), bytes.drop width)
  else none

@[simp] theorem length_littleEndian (width value : Nat) :
    (littleEndian width value).length = width := by
  induction width generalizing value with
  | zero => rfl
  | succ width ih => rw [littleEndian, List.length_cons, ih]

theorem fromLittleEndian_littleEndian {width value : Nat} (fits : value < 256 ^ width) :
    fromLittleEndian (littleEndian width value) = value := by
  induction width generalizing value with
  | zero =>
      have zero : value = 0 := by simpa using fits
      subst zero
      rfl
  | succ width ih =>
      have high : value / 256 < 256 ^ width := by
        rw [Nat.div_lt_iff_lt_mul (by decide)]
        rwa [Nat.pow_succ] at fits
      have low : (UInt8.ofNat (value % 256)).toNat = value % 256 := by
        simp [UInt8.toNat_ofNat']
      have rest := ih high
      rw [fromLittleEndian] at rest ⊢
      rw [littleEndian, List.foldr_cons, rest, low, Nat.mod_add_div]

theorem readLittleEndian_littleEndian {width value : Nat} (fits : value < 256 ^ width)
    (rest : List UInt8) :
    readLittleEndian width (littleEndian width value ++ rest) = some (value, rest) := by
  rw [readLittleEndian, if_pos (by simp), List.take_left' (by simp), List.drop_left' (by simp),
    fromLittleEndian_littleEndian fits]

/-- The low bytes of a number, highest first. -/
def bigEndian (width value : Nat) : List UInt8 := (littleEndian width value).reverse

/-- The number of some bytes, highest first. -/
def fromBigEndian (bytes : List UInt8) : Nat := fromLittleEndian bytes.reverse

@[simp] theorem length_bigEndian (width value : Nat) : (bigEndian width value).length = width := by
  rw [bigEndian, List.length_reverse, length_littleEndian]

theorem fromBigEndian_bigEndian {width value : Nat} (fits : value < 256 ^ width) :
    fromBigEndian (bigEndian width value) = value := by
  rw [fromBigEndian, bigEndian, List.reverse_reverse, fromLittleEndian_littleEndian fits]

theorem fromLittleEndian_lt (bytes : List UInt8) : fromLittleEndian bytes < 256 ^ bytes.length := by
  induction bytes with
  | nil => decide
  | cons low rest ih =>
      have bound := low.toNat_lt
      rw [fromLittleEndian] at ih ⊢
      rw [List.foldr_cons, List.length_cons, Nat.pow_succ]
      omega

/-- Read ones up to a zero. -/
def readUnary : List UInt8 → Option (Nat × List UInt8)
  | [] => none
  | head :: rest =>
      if head = 0 then some (0, rest)
      else (readUnary rest).map fun result => (result.1 + 1, result.2)

theorem readUnary_replicate (count : Nat) (rest : List UInt8) :
    readUnary (List.replicate count 1 ++ 0 :: rest) = some (count, rest) := by
  induction count with
  | zero => rfl
  | succ count ih =>
      rw [List.replicate_succ, List.cons_append, readUnary, if_neg (by decide), ih,
        Option.map_some]

/-- A length: one byte where it is small, else a mark and 2, 4 or 8 bytes. The
last case is there for totality; no length in memory needs it. -/
def writeVarint (value : Nat) : List UInt8 :=
  if value < 251 then [UInt8.ofNat value]
  else if value < 256 ^ 2 then 251 :: littleEndian 2 value
  else if value < 256 ^ 4 then 252 :: littleEndian 4 value
  else if value < 256 ^ 8 then 253 :: littleEndian 8 value
  else 255 :: (List.replicate value 1 ++ [0])

def readVarint : List UInt8 → Option (Nat × List UInt8)
  | [] => none
  | mark :: rest =>
      if mark = 251 then readLittleEndian 2 rest
      else if mark = 252 then readLittleEndian 4 rest
      else if mark = 253 then readLittleEndian 8 rest
      else if mark = 255 then readUnary rest
      else if mark = 254 then none
      else some (mark.toNat, rest)

theorem readVarint_small {value : Nat} (small : value < 251) (rest : List UInt8) :
    readVarint (UInt8.ofNat value :: rest) = some (value, rest) := by
  have mark : (UInt8.ofNat value).toNat = value := by
    rw [UInt8.toNat_ofNat', Nat.mod_eq_of_lt]
    exact Nat.lt_trans small (by decide)
  have apart (other : UInt8) (large : 251 ≤ other.toNat) : UInt8.ofNat value ≠ other := by
    intro same
    rw [← same, mark] at large
    exact absurd small (Nat.not_lt.mpr large)
  rw [readVarint, if_neg (apart 251 (by decide)), if_neg (apart 252 (by decide)),
    if_neg (apart 253 (by decide)), if_neg (apart 255 (by decide)),
    if_neg (apart 254 (by decide)), mark]

theorem readVarint_writeVarint (value : Nat) (rest : List UInt8) :
    readVarint (writeVarint value ++ rest) = some (value, rest) := by
  rw [writeVarint]
  split
  · rename_i small
    exact readVarint_small small rest
  · split
    · rename_i fits
      exact readLittleEndian_littleEndian fits rest
    · split
      · rename_i fits
        exact readLittleEndian_littleEndian fits rest
      · split
        · rename_i fits
          exact readLittleEndian_littleEndian fits rest
        · rw [List.cons_append, List.append_assoc]
          exact readUnary_replicate value rest

def varint : Codec Nat where
  write := writeVarint
  read := readVarint
  read_write := readVarint_writeVarint

/-! ## Sequences -/

/-- Read a given number of values. -/
def readCount (codec : Codec α) : Nat → List UInt8 → Option (List α × List UInt8)
  | 0, bytes => some ([], bytes)
  | count + 1, bytes => do
      let (value, bytes) ← codec.read bytes
      let (values, bytes) ← readCount codec count bytes
      some (value :: values, bytes)

theorem readCount_write (codec : Codec α) (values : List α) (rest : List UInt8) :
    codec.readCount values.length (values.flatMap codec.write ++ rest) = some (values, rest) := by
  induction values with
  | nil => rfl
  | cons value values ih =>
      simp [readCount, codec.read_write, ih]

/-- A list as its length and its items. -/
def list (codec : Codec α) : Codec (List α) where
  write values := varint.write values.length ++ values.flatMap codec.write
  read bytes := do
    let (count, bytes) ← varint.read bytes
    codec.readCount count bytes
  read_write values rest := by
    simp [varint.read_write, codec.readCount_write]

/-- A text as the bytes of its encoding. -/
def string : Codec String :=
  byte.list.partialView (fun bytes => String.fromUTF8? ⟨bytes.toArray⟩)
    (fun text => text.toByteArray.data.toList)
    (fun text => by
      have valid : text.toByteArray.IsValidUTF8 := text.isValidUTF8
      rw [Array.toArray_toList, String.fromUTF8?, dif_pos valid]
      rfl)

/-- A map as the list of its entries. -/
def map {γ : Type} [DecidableEq γ] (key : Codec γ) (value : Codec α) :
    Codec (AList fun _ : γ => α) :=
  ((key.pair value).list).view
    (fun entries => entries.foldr (fun entry map => map.insert entry.1 entry.2) ∅)
    (fun map => map.entries.map fun entry => (entry.1, entry.2))
    (fun map => by
      obtain ⟨entries, nodup⟩ := map
      induction entries with
      | nil => rfl
      | cons entry entries ih =>
          have apart := List.nodupKeys_cons.mp nodup
          have tail := ih apart.2
          simp only [List.map_cons, List.foldr_cons] at tail ⊢
          rw [tail]
          apply AList.ext
          exact AList.entries_insert_of_notMem apart.1)

/-! ## Codecs that waste nothing -/

/-- No input is shorter than what is written for the value that is read from it. -/
def Shortest (codec : Codec α) : Prop :=
  ∀ bytes value rest, codec.read bytes = some (value, rest) →
    (codec.write value).length + rest.length ≤ bytes.length

section Shortest

variable {codec : Codec α} {right : Codec β}

theorem Shortest.decoded (shortest : codec.Shortest) {bytes : List UInt8} {value : α}
    (decoded : codec.decode bytes = some value) : (codec.write value).length ≤ bytes.length := by
  rw [decode, Option.map_eq_some_iff] at decoded
  obtain ⟨⟨_, rest⟩, read, rfl⟩ := decoded
  exact Nat.le_trans (Nat.le_add_right _ _) (shortest _ _ _ read)

theorem Shortest.pair (first : codec.Shortest) (second : right.Shortest) :
    (codec.pair right).Shortest := by
  intro bytes value rest read
  simp only [Codec.pair, Option.bind_eq_bind, Option.bind_eq_some_iff, Option.some.injEq] at read
  obtain ⟨⟨left, between⟩, readLeft, ⟨other, after⟩, readRight, result⟩ := read
  obtain ⟨rfl, rfl⟩ := Prod.mk.inj result
  have before := first _ _ _ readLeft
  have behind : (right.write other).length + after.length ≤ between.length :=
    second _ _ _ readRight
  change (codec.write left ++ right.write other).length + after.length ≤ bytes.length
  rw [List.length_append]
  omega

theorem Shortest.partialView (shortest : codec.Shortest) {pack : α → Option β} {unpack : β → α}
    {inverse : ∀ value, pack (unpack value) = some value}
    (same : ∀ value packed, pack value = some packed → unpack packed = value) :
    (codec.partialView pack unpack inverse).Shortest := by
  intro bytes value rest read
  simp only [Codec.partialView, Option.bind_eq_bind, Option.bind_eq_some_iff,
    Option.some.injEq] at read
  obtain ⟨⟨inner, left⟩, readInner, packed, isPacked, result⟩ := read
  cases result
  change (codec.write (unpack value)).length + _ ≤ _
  rw [same _ _ isPacked]
  exact shortest _ _ _ readInner

theorem Shortest.view (shortest : codec.Shortest) {pack : α → β} {unpack : β → α}
    {inverse : ∀ value, pack (unpack value) = value} (same : ∀ value, unpack (pack value) = value) :
    (codec.view pack unpack inverse).Shortest := by
  intro bytes value rest read
  obtain ⟨⟨inner, left⟩, readInner, result⟩ := Option.map_eq_some_iff.mp read
  cases result
  change (codec.write (unpack (pack inner))).length + _ ≤ _
  rw [same]
  exact shortest _ _ _ readInner

theorem Shortest.byte : byte.Shortest := by
  intro bytes value rest read
  cases bytes with
  | nil => cases read
  | cons head bytes =>
      cases read
      exact Nat.le_of_eq (Nat.add_comm _ _)

theorem Shortest.bool : bool.Shortest := by
  apply Shortest.byte.partialView
  intro value packed isPacked
  split at isPacked
  · rename_i zero
    cases isPacked
    exact zero.symm
  · split at isPacked
    · rename_i one
      cases isPacked
      exact one.symm
    · cases isPacked

theorem Shortest.option (shortest : codec.Shortest) : codec.option.Shortest := by
  intro bytes value rest read
  cases bytes with
  | nil => cases read
  | cons tag bytes =>
      simp only [Codec.option] at read
      split at read
      · cases read
        exact Nat.le_of_eq (Nat.add_comm _ _)
      · split at read
        · obtain ⟨⟨inner, left⟩, readInner, result⟩ := Option.map_eq_some_iff.mp read
          obtain ⟨rfl, rfl⟩ := Prod.mk.inj result
          have within := shortest _ _ _ readInner
          change (1 :: codec.write inner).length + left.length ≤ _
          rw [List.length_cons, List.length_cons]
          omega
        · cases read

theorem length_writeVarint_le {value width : Nat} (within : width = 2 ∨ width = 4 ∨ width = 8)
    (fits : value < 256 ^ width) : (writeVarint value).length ≤ 1 + width := by
  rw [writeVarint]
  split
  · simp
  · obtain rfl | rfl | rfl := within
    all_goals
      grind [length_littleEndian]

theorem length_writeVarint_le_unary (value : Nat) : (writeVarint value).length ≤ value + 2 := by
  rw [writeVarint]
  grind [length_littleEndian]

theorem readUnary_length {bytes rest : List UInt8} {count : Nat}
    (read : readUnary bytes = some (count, rest)) : count + 1 + rest.length = bytes.length := by
  induction bytes generalizing count with
  | nil => cases read
  | cons head bytes ih =>
      rw [readUnary] at read
      split at read
      · cases read
        rw [List.length_cons, Nat.add_comm, Nat.zero_add]
      · obtain ⟨⟨fewer, left⟩, readRest, result⟩ := Option.map_eq_some_iff.mp read
        cases result
        rw [List.length_cons, ← ih readRest]
        omega

theorem readLittleEndian_cases {width value : Nat} {bytes rest : List UInt8}
    (read : readLittleEndian width bytes = some (value, rest)) :
    value < 256 ^ width ∧ width + rest.length = bytes.length := by
  rw [readLittleEndian] at read
  split at read
  · rename_i enough
    cases read
    have bound := fromLittleEndian_lt (bytes.take width)
    rw [List.length_take_of_le enough] at bound
    rw [List.length_drop]
    exact ⟨bound, by omega⟩
  · cases read

theorem Shortest.varint : varint.Shortest := by
  intro bytes value rest read
  change readVarint bytes = _ at read
  change (writeVarint value).length + _ ≤ _
  -- A mark says how many bytes follow, and no number needs more than fit it.
  have marked (width : Nat) (known : width = 2 ∨ width = 4 ∨ width = 8) {bytes : List UInt8}
      (read : readLittleEndian width bytes = some (value, rest)) :
      (writeVarint value).length + rest.length ≤ bytes.length + 1 := by
    obtain ⟨fits, length⟩ := readLittleEndian_cases read
    have short := length_writeVarint_le known fits
    omega
  cases bytes with
  | nil => cases read
  | cons mark bytes =>
      rw [readVarint] at read
      rw [List.length_cons]
      split at read
      · exact marked 2 (.inl rfl) read
      split at read
      · exact marked 4 (.inr (.inl rfl)) read
      split at read
      · exact marked 8 (.inr (.inr rfl)) read
      split at read
      · have length := readUnary_length read
        have short := length_writeVarint_le_unary value
        omega
      split at read
      · cases read
      · cases read
        have small : mark.toNat < 251 := by
          have bound := mark.toNat_lt
          simp only [← UInt8.toNat_inj] at *
          have values : (251 : UInt8).toNat = 251 ∧ (252 : UInt8).toNat = 252 ∧
              (253 : UInt8).toNat = 253 ∧ (254 : UInt8).toNat = 254 ∧
              (255 : UInt8).toNat = 255 := by
            decide
          omega
        rw [writeVarint, if_pos small]
        exact Nat.le_of_eq (Nat.add_comm _ _)

theorem Shortest.count (shortest : codec.Shortest) {count : Nat} {bytes rest : List UInt8}
    {values : List α} (read : codec.readCount count bytes = some (values, rest)) :
    values.length = count ∧ (values.flatMap codec.write).length + rest.length ≤ bytes.length := by
  induction count generalizing bytes values with
  | zero =>
      cases read
      simp
  | succ count ih =>
      simp only [readCount, Option.bind_eq_bind, Option.bind_eq_some_iff, Option.some.injEq] at read
      obtain ⟨⟨value, left⟩, readFirst, ⟨others, after⟩, readRest, result⟩ := read
      obtain ⟨rfl, rfl⟩ := Prod.mk.inj result
      obtain ⟨length, within⟩ := ih readRest
      have first := shortest _ _ _ readFirst
      constructor
      · rw [List.length_cons, length]
      · change ((value :: others).flatMap codec.write).length + after.length ≤ bytes.length
        change (others.flatMap codec.write).length + after.length ≤ left.length at within
        rw [List.flatMap_cons, List.length_append]
        omega

theorem Shortest.list (shortest : codec.Shortest) : codec.list.Shortest := by
  intro bytes values rest read
  simp only [Codec.list, Option.bind_eq_bind, Option.bind_eq_some_iff] at read
  obtain ⟨⟨count, left⟩, readLength, readItems⟩ := read
  have head : (Codec.varint.write count).length + left.length ≤ bytes.length :=
    Shortest.varint _ _ _ readLength
  obtain ⟨length, items⟩ := shortest.count readItems
  change values.length = count at length
  change (values.flatMap codec.write).length + rest.length ≤ left.length at items
  change (Codec.varint.write values.length ++ values.flatMap codec.write).length + _ ≤ _
  rw [List.length_append, length]
  omega

theorem Shortest.string : string.Shortest := by
  apply Shortest.byte.list.partialView
  intro bytes text valid
  rw [String.fromUTF8?] at valid
  split at valid
  · cases valid
    rfl
  · cases valid

end Shortest

end Codec

end Rind
