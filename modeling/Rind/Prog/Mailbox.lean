import Mathlib.Data.List.Basic

/-!
# Mailboxes with a bell

Letters are left in a box, and its bell is rung afterwards.  The keeper of the box sleeps
until the bell has been rung or something else wakes it up, silences the bell, and takes
letters until it finds the box empty.
-/

namespace Rind

/-- Where the keeper of a box is: it has found the box empty before it leaves. -/
inductive Keeper where
  | asleep
  | awake
  | taking
  | leaving
  deriving DecidableEq, Repr

structure Mailbox (α : Type) where
  letters : List α
  /-- How often the bell has been rung since it was silenced. -/
  bell : Nat
  keeper : Keeper
  deriving DecidableEq, Repr

namespace Mailbox

variable {α : Type}

/-- A letter is left, behind those that are there. -/
def leave (box : Mailbox α) (letter : α) : Mailbox α :=
  { box with letters := box.letters ++ [letter] }

/-- The bell is rung, unless it has been rung as often as it counts. -/
def ring (limit : Nat) (box : Mailbox α) : Mailbox α :=
  if box.bell < limit then { box with bell := box.bell + 1 } else box

def wake (box : Mailbox α) : Mailbox α :=
  if box.keeper = .asleep then { box with keeper := .awake } else box

def silence (box : Mailbox α) : Mailbox α :=
  if box.keeper = .awake then { box with bell := 0 } else box

def open_ (box : Mailbox α) : Mailbox α :=
  if box.keeper = .awake then { box with keeper := .taking } else box

/-- The keeper takes the first letter, or finds the box empty. -/
def take (box : Mailbox α) : Option α × Mailbox α :=
  if box.keeper = .taking then
    match box.letters with
    | [] => (none, { box with keeper := .leaving })
    | letter :: letters => (some letter, { box with letters })
  else (none, box)

def sleep (box : Mailbox α) : Mailbox α :=
  if box.keeper = .leaving then { box with keeper := .asleep } else box

/-! ## Letters -/

variable {box : Mailbox α} {limit : Nat}

@[simp] theorem letters_leave (letter : α) : (box.leave letter).letters = box.letters ++ [letter] :=
  rfl

@[simp] theorem letters_ring : (box.ring limit).letters = box.letters := by
  rw [ring]
  split <;> rfl

@[simp] theorem letters_wake : box.wake.letters = box.letters := by
  rw [wake]
  split <;> rfl

@[simp] theorem letters_silence : box.silence.letters = box.letters := by
  rw [silence]
  split <;> rfl

@[simp] theorem letters_open : box.open_.letters = box.letters := by
  rw [open_]
  split <;> rfl

@[simp] theorem letters_sleep : box.sleep.letters = box.letters := by
  rw [sleep]
  split <;> rfl

/-- The letter that is taken was the first one. -/
theorem letters_take : box.letters = box.take.1.toList ++ box.take.2.letters := by
  rw [take]
  split
  · split
    · rfl
    · assumption
  · rfl

/-! ## The bell -/

/-- What keeps letters from being overlooked: while the keeper is not about to take them,
the bell has been rung for them, or somebody still has to ring it. -/
def Heard (box : Mailbox α) (owed : Prop) : Prop :=
  box.keeper = .asleep ∨ box.keeper = .leaving → box.letters ≠ [] → 0 < box.bell ∨ owed

variable {owed later : Prop}

theorem Heard.mono (heard : box.Heard owed) (follows : owed → later) : box.Heard later :=
  fun idle filled => (heard idle filled).imp_right follows

/-- Letters may be lost. -/
theorem Heard.fewer (heard : box.Heard owed) {letters : List α}
    (fewer : letters ≠ [] → box.letters ≠ []) : ({ box with letters } : Mailbox α).Heard owed :=
  fun idle filled => heard idle (fewer filled)

/-- Who leaves a letter has to ring the bell. -/
theorem heard_leave (letter : α) (owes : owed) : (box.leave letter).Heard owed :=
  fun _ _ => .inr owes

/-- A bell that has been rung is heard, also when it counts no further. -/
theorem heard_ring (counts : 0 < limit) : (box.ring limit).Heard owed := by
  intro _ _
  rw [ring]
  split
  · exact .inl (Nat.succ_pos _)
  · rename_i full
    exact .inl (by omega)

theorem Heard.wake (heard : box.Heard owed) : box.wake.Heard owed := by
  rw [Mailbox.wake]
  split
  · intro idle
    exact absurd idle (by simp)
  · exact heard

theorem Heard.silence (heard : box.Heard owed) : box.silence.Heard owed := by
  rw [Mailbox.silence]
  split
  · rename_i awake
    intro idle
    exact absurd idle (by simp [awake])
  · exact heard

theorem Heard.open_ (heard : box.Heard owed) : box.open_.Heard owed := by
  rw [Mailbox.open_]
  split
  · intro idle
    exact absurd idle (by simp)
  · exact heard

theorem Heard.take (heard : box.Heard owed) : box.take.2.Heard owed := by
  rw [Mailbox.take]
  split
  · rename_i taking
    split
    · rename_i none_
      exact fun _ filled => absurd none_ filled
    · intro idle
      exact absurd idle (by simp [taking])
  · exact heard

theorem Heard.sleep (heard : box.Heard owed) : box.sleep.Heard owed := by
  rw [Mailbox.sleep]
  split
  · rename_i leaving
    exact fun _ => heard (.inr leaving)
  · exact heard

end Mailbox

end Rind
