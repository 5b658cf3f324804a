import Mathlib.Data.List.Infix

/-!
# Buffered writers

A buffered writer collects what is written to it until there is no room.  However much the file
behind it accepts, the file and the buffer together hold what was written, all of it or none.  Only
what does not fit into the buffer goes past it, and is torn where the file accepts a part.
-/

namespace Rind

/-- A file, and a buffer before it. -/
structure BufWriter (α : Type) where
  file : List α
  buf : List α

namespace BufWriter

variable {α : Type}

/-- What the file holds, and what it is to hold. -/
def whole (writer : BufWriter α) : List α := writer.file ++ writer.buf

/-- `flush_buf`, where the file accepts so much before it gives an error. -/
def flush (accepts : Nat) (writer : BufWriter α) : Bool × BufWriter α :=
  (decide (writer.buf.length ≤ accepts),
    ⟨writer.file ++ writer.buf.take accepts, writer.buf.drop accepts⟩)

/-- A write past the buffer. -/
def writeDirect (accepts : Nat) (data : List α) (writer : BufWriter α) : Bool × BufWriter α :=
  (decide (data.length ≤ accepts), { writer with file := writer.file ++ data.take accepts })

/-- A write into the buffer. -/
def push (data : List α) (writer : BufWriter α) : BufWriter α :=
  { writer with buf := writer.buf ++ data }

/-- `spare_capacity` -/
def spare (capacity : Nat) (writer : BufWriter α) : Nat := capacity - writer.buf.length

/-- `write_all`, where the file accepts so much of the buffer, and so much of what goes past it. -/
def writeAll (capacity flushed direct : Nat) (data : List α) (writer : BufWriter α) :
    Bool × BufWriter α :=
  if data.length < writer.spare capacity then (true, writer.push data)
  else
    match if writer.spare capacity < data.length then writer.flush flushed else (true, writer) with
    | (false, writer) => (false, writer)
    | (true, writer) =>
        if capacity ≤ data.length then writer.writeDirect direct data
        else (true, writer.push data)

/-- The file accepts a part of what goes past the buffer. -/
def Tears (capacity direct : Nat) (data : List α) : Prop :=
  capacity ≤ data.length ∧ 0 < direct ∧ direct < data.length

instance (capacity direct : Nat) (data : List α) : Decidable (Tears capacity direct data) :=
  inferInstanceAs (Decidable (_ ∧ _ ∧ _))

/-! ## What is written -/

variable {writer : BufWriter α} {capacity flushed direct accepts : Nat} {data : List α}

theorem file_prefix_whole (writer : BufWriter α) : writer.file <+: writer.whole :=
  List.prefix_append _ _

@[simp] theorem whole_flush (writer : BufWriter α) (accepts : Nat) :
    (writer.flush accepts).2.whole = writer.whole := by
  simp [flush, whole]

@[simp] theorem whole_push : (writer.push data).whole = writer.whole ++ data := by
  simp [push, whole]

/-- A flush that goes through leaves nothing in the buffer. -/
theorem buf_flush {writer : BufWriter α} {accepts : Nat}
    (done : (writer.flush accepts).1 = true) : (writer.flush accepts).2.buf = [] :=
  List.drop_eq_nil_of_le (of_decide_eq_true done)

/-- All of the data is in the file or the buffer, or nothing of it. -/
inductive Writes (writer : BufWriter α) (data : List α) : Bool × BufWriter α → Prop where
  | all {after : BufWriter α} (whole : after.whole = writer.whole ++ data) :
      Writes writer data (true, after)
  | nothing {after : BufWriter α} (whole : after.whole = writer.whole) :
      Writes writer data (false, after)

theorem writes_push : Writes writer data (true, writer.push data) := .all whole_push

theorem writes_direct (empty : writer.buf = [] ∨ data = [])
    (untorn : ¬ (0 < accepts ∧ accepts < data.length)) :
    Writes writer data (writer.writeDirect accepts data) := by
  by_cases done : data.length ≤ accepts
  · have all : data.take accepts = data := List.take_of_length_le done
    rw [writeDirect, decide_eq_true done, all]
    cases empty with
    | inl empty => exact .all (by simp [whole, empty])
    | inr empty => exact .all (by simp [whole, empty])
  · have nothing : accepts = 0 := by omega
    rw [writeDirect, decide_eq_false done, nothing]
    exact .nothing (by simp [whole])

/-- What is written past the buffer finds it empty. -/
theorem buf_of_direct (long : capacity ≤ data.length)
    (fits : ¬ writer.spare capacity < data.length) : writer.buf = [] ∨ data = [] := by
  rw [spare] at fits
  rw [← List.length_eq_zero_iff, ← List.length_eq_zero_iff]
  omega

theorem Writes.congr {before : BufWriter α} {result : Bool × BufWriter α}
    (same : before.whole = writer.whole) (writes : Writes before data result) :
    Writes writer data result := by
  cases writes with
  | all whole => exact .all (whole.trans (congrArg (· ++ data) same))
  | nothing whole => exact .nothing (whole.trans same)

/-- A write that succeeds is in the file or the buffer as a whole, and nothing of one that fails,
unless it is torn. -/
theorem writes_writeAll (untorn : ¬ Tears capacity direct data) :
    Writes writer data (writer.writeAll capacity flushed direct data) := by
  by_cases short : data.length < writer.spare capacity
  · rw [writeAll, if_pos short]
    exact writes_push
  have accepted : capacity ≤ data.length → ¬ (0 < direct ∧ direct < data.length) :=
    fun long some => untorn ⟨long, some⟩
  rw [writeAll, if_neg short]
  by_cases full : writer.spare capacity < data.length
  · rw [if_pos full]
    have kept := whole_flush writer flushed
    have emptied : (writer.flush flushed).1 = true → (writer.flush flushed).2.buf = [] := buf_flush
    generalize writer.flush flushed = result at kept emptied ⊢
    obtain ⟨done, after⟩ := result
    cases done with
    | false => exact .nothing kept
    | true =>
        refine Writes.congr kept ?_
        dsimp only
        split
        · rename_i long
          exact writes_direct (.inl (emptied rfl)) (accepted long)
        · exact writes_push
  · rw [if_neg full]
    dsimp only
    split
    · rename_i long
      exact writes_direct (buf_of_direct long full) (accepted long)
    · exact writes_push

end BufWriter

end Rind
