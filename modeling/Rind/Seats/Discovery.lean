import Mathlib.Data.Finset.Card
import Rind.Data.Ranking
import Rind.Ipc.Control

/-!
# Seats of the virtual terminals

The seat of the terminal `ttyN` is `seat` and the number before.  Discovery counts the
entries of a sorted listing instead, and gives every entry that is named like a terminal
the number of its position.
-/

namespace Rind.Seats

open Ranking

/-! ## Discovery -/

/-- The seat of a terminal. The first one stands in for what has no number. -/
def ttyToSeat (tty : String) : String :=
  let number := ((Text.stripPrefix "tty" tty).bind (Text.parseUnsigned (2 ^ 64))).getD 1
  "seat" ++ toString (number - 1)

/-- The key that the entries are sorted by. -/
def ttyKey (name : String) : Nat :=
  ((Text.stripPrefix "tty" name).bind (Text.parseUnsigned (2 ^ 32))).getD (2 ^ 32 - 1)

/-- The value of `RIND_ACTIVATE_TTYS`. -/
def activateTtys (var : Option String) : Nat :=
  (var.bind (Text.parseUnsigned (2 ^ 64))).getD 7

def hasSeat (name : String) : Bool :=
  Text.startsWith name "tty" && decide (name ≠ "tty") && decide (name ≠ "tty0")

/-- The seats, from a variable of the environment and the entries of `/sys/class/tty`, if it
can be read. -/
def discoverSeats (var : Option String) (dir : Option (List (Option String))) : List String :=
  let limit := activateTtys var
  match dir with
  | none => []
  | some dir =>
      let entries := sortByKey ttyKey (dir.filterMap id)
      entries.zipIdx.filterMap fun item =>
        if hasSeat item.1 && decide (item.2 < limit) then some ("seat" ++ toString item.2)
        else none

/-! ## Purpose -/

/-- The names of the entries that can be read. -/
def listing (dir : Option (List (Option String))) : List String := (dir.getD []).filterMap id

/-- The name of a virtual terminal. -/
def terminal (number : Nat) : String := "tty" ++ toString number

/-- An entry of the name is among the first ones in order. -/
def Admits (limit : Nat) (listing : List String) (name : String) : Prop :=
  ∃ entry ∈ listing.zipIdx, entry.1 = name ∧ rankOf ttyKey listing entry < limit

/-- The seats are those of the virtual terminals that are admitted, in increasing order, and
lead back to terminals that exist. -/
structure SeatsOfTerminals (limit : Nat) (listing seats : List String) : Prop where
  terminals : ∃ numbers : List Nat, numbers.Pairwise (· < ·) ∧
    (∀ number, number ∈ numbers ↔ 1 ≤ number ∧ Admits limit listing (terminal number)) ∧
    seats = numbers.map fun number => ttyToSeat (terminal number)
  existing : ∀ seat ∈ seats, Ipc.seatToTty seat ∈ listing

/-! ## Names -/

theorem stripPrefix_append (start text : String) :
    Text.stripPrefix start (start ++ text) = some text := by
  rw [Text.stripPrefix_eq_some, String.toList_append]

/-- The number of a name, if it is below the bound. -/
theorem number_append (start : String) (bound number : Nat) :
    (Text.stripPrefix start (start ++ toString number)).bind (Text.parseUnsigned bound) =
      if number < bound then some number else none := by
  rw [stripPrefix_append, Option.bind_some, Nat.toString_eq_ofList_toDigits,
    Text.parseUnsigned_digits]

theorem append_toString_injective (start : String) :
    Function.Injective fun number : Nat => start ++ toString number := by
  intro first second same
  have same : start ++ toString first = start ++ toString second := same
  have numbers := number_append start (first + second + 1) first
  rw [same, number_append, if_pos (by omega), if_pos (by omega)] at numbers
  exact (Option.some.inj numbers).symm

theorem terminal_injective : Function.Injective terminal := append_toString_injective "tty"

theorem ttyToSeat_terminal (number : Nat) :
    ttyToSeat (terminal number) =
      "seat" ++ toString (if number < 2 ^ 64 then number - 1 else 0) := by
  rw [ttyToSeat, terminal, number_append]
  split
  · rfl
  · rfl

theorem seatToTty_seat {number : Nat} (small : number + 1 < 2 ^ 64) :
    Ipc.seatToTty ("seat" ++ toString number) = terminal (number + 1) := by
  rw [Ipc.seatToTty, number_append, if_pos (Nat.lt_of_succ_lt small)]
  simp only [Option.getD_some, Nat.mod_eq_of_lt small]
  rfl

theorem ttyKey_terminal (number : Nat) :
    ttyKey (terminal number) = if number < 2 ^ 32 then number else 2 ^ 32 - 1 := by
  rw [ttyKey, terminal, number_append]
  split
  · rfl
  · rfl

theorem hasSeat_terminal {number : Nat} (positive : 1 ≤ number) :
    hasSeat (terminal number) := by
  have begins : Text.startsWith (terminal number) "tty" := by
    rw [Text.startsWith, terminal, String.toList_append]
    exact List.isPrefixOf_iff_prefix.mpr (List.prefix_append _ _)
  have named : terminal number ≠ "tty" := by
    intro same
    have digits : (toString number).toList = [] := by
      apply List.append_right_eq_self.mp
      rw [← String.toList_append]
      exact congrArg String.toList same
    rw [Nat.toString_eq_ofList_toDigits, String.toList_ofList] at digits
    exact Nat.toDigits_ne_nil digits
  have later : terminal number ≠ terminal 0 := fun same =>
    absurd (terminal_injective same) (Nat.ne_of_gt positive)
  rw [hasSeat, begins, decide_eq_true named]
  exact decide_eq_true later

/-! ## Positions -/

/-- The positions that get a seat. -/
def seatNumbers (limit : Nat) (listing : List String) : List Nat :=
  (sortByKey ttyKey listing).zipIdx.filterMap fun item =>
    if hasSeat item.1 && decide (item.2 < limit) then some item.2 else none

theorem discoverSeats_eq (var : Option String) (dir : Option (List (Option String))) :
    discoverSeats var dir = (seatNumbers (activateTtys var) (listing dir)).map
      fun number => "seat" ++ toString number := by
  cases dir with
  | none => simp [discoverSeats, seatNumbers, listing, sortByKey]
  | some dir =>
      rw [discoverSeats, seatNumbers, listing, Option.getD_some, List.map_filterMap]
      congr 1
      funext item
      split
      · rfl
      · rfl

section Positions

variable {limit : Nat} {listing : List String}

theorem pairwise_seatNumbers : (seatNumbers limit listing).Pairwise (· < ·) := by
  have places : (sortByKey ttyKey listing).zipIdx.Pairwise fun first second =>
      first.2 < second.2 := by
    rw [← List.pairwise_map (f := Prod.snd), List.zipIdx_map_snd]
    exact List.pairwise_lt_range'
  apply places.filterMap
  intro first second earlier number found number' found'
  grind

/-- A position gets a seat if the entry of that rank is named like a terminal. -/
theorem mem_seatNumbers {number : Nat} : number ∈ seatNumbers limit listing ↔
    ∃ entry ∈ listing.zipIdx, hasSeat entry.1 ∧ rankOf ttyKey listing entry = number ∧
      number < limit := by
  have here : number ∈ seatNumbers limit listing ↔
      ∃ name, (sortByKey ttyKey listing)[number]? = some name ∧ hasSeat name ∧
        number < limit := by
    simp only [seatNumbers, List.mem_filterMap, Prod.exists, List.mk_mem_zipIdx_iff_getElem?,
      Option.ite_none_right_eq_some, Option.some.injEq, Bool.and_eq_true, decide_eq_true_eq]
    grind
  rw [here]
  simp only [getElem?_sortByKey]
  grind

/-- Positions that get a seat, and the terminals above all of which are admitted, are in a
one-to-one correspondence. -/
theorem mem_of_admits
    (above : ∀ number ∈ seatNumbers limit listing, Admits limit listing (terminal (number + 1)))
    {number : Nat} (positive : 1 ≤ number) (admits : Admits limit listing (terminal number)) :
    ∃ position ∈ seatNumbers limit listing, position + 1 = number := by
  -- each admitted terminal takes a position that gets a seat, so there are no more of them
  have takes : ∀ number, 1 ≤ number → Admits limit listing (terminal number) →
      ∃ position ∈ seatNumbers limit listing,
        (sortByKey ttyKey listing)[position]? = some (terminal number) := by
    rintro number positive ⟨entry, listed, named, small⟩
    refine ⟨_, mem_seatNumbers.mpr ⟨entry, listed, ?_, rfl, small⟩, ?_⟩
    · rw [named]
      exact hasSeat_terminal positive
    · exact (getElem?_sortByKey _ _ _).mpr ⟨entry, listed, named, rfl⟩
  choose! position takes using takes
  by_contra absent
  let seats := (seatNumbers limit listing).toFinset
  let numbers := insert number (seats.image (· + 1))
  have admitted : ∀ other ∈ numbers, 1 ≤ other ∧ Admits limit listing (terminal other) := by
    intro other inside
    rcases Finset.mem_insert.mp inside with rfl | next
    · exact ⟨positive, admits⟩
    · obtain ⟨seat, listed, rfl⟩ := Finset.mem_image.mp next
      exact ⟨Nat.succ_pos seat, above seat (List.mem_toFinset.mp listed)⟩
  have maps : ∀ other ∈ numbers, position other ∈ seats := by
    intro other inside
    obtain ⟨positive, admits⟩ := admitted other inside
    exact List.mem_toFinset.mpr (takes other positive admits).1
  have injective : Set.InjOn position numbers := by
    intro first inside second inside' same
    have found := (takes first (admitted first inside).1 (admitted first inside).2).2
    have found' := (takes second (admitted second inside').1 (admitted second inside').2).2
    rw [same, found'] at found
    exact (terminal_injective (Option.some.inj found)).symm
  have outside : number ∉ seats.image (· + 1) := by
    intro inside
    obtain ⟨seat, listed, same⟩ := Finset.mem_image.mp inside
    exact absent ⟨seat, List.mem_toFinset.mp listed, same⟩
  have few := Finset.card_le_card_of_injOn position maps injective
  rw [Finset.card_insert_of_notMem outside,
    Finset.card_image_of_injective _ (add_left_injective 1)] at few
  omega

end Positions

theorem activateTtys_lt (var : Option String) : activateTtys var < 2 ^ 64 := by
  rw [activateTtys]
  cases parsed : var.bind (Text.parseUnsigned (2 ^ 64)) with
  | none => decide
  | some limit =>
      obtain ⟨text, -, parsed⟩ := Option.bind_eq_some_iff.mp parsed
      rw [Text.parseUnsigned, Option.filter_eq_some_iff] at parsed
      exact of_decide_eq_true parsed.2

/-- Discovery finds the seats of the terminals exactly where every admitted entry that gets
a seat has the terminal above its rank admitted. -/
theorem seatsOfTerminals_iff (var : Option String) (dir : Option (List (Option String))) :
    SeatsOfTerminals (activateTtys var) (listing dir) (discoverSeats var dir) ↔
      ∀ entry ∈ (listing dir).zipIdx, hasSeat entry.1 →
        rankOf ttyKey (listing dir) entry < activateTtys var →
          Admits (activateTtys var) (listing dir)
            (terminal (rankOf ttyKey (listing dir) entry + 1)) := by
  have seats := discoverSeats_eq var dir
  constructor
  · rintro ⟨⟨numbers, -, members, same⟩, existing⟩ entry listed seated small
    have numbered := mem_seatNumbers.mpr ⟨entry, listed, seated, rfl, small⟩
    have discovered : "seat" ++ toString (rankOf ttyKey (listing dir) entry) ∈
        discoverSeats var dir := by
      rw [seats]
      exact List.mem_map_of_mem numbered
    have named := discovered
    rw [same] at named
    obtain ⟨number, inside, named⟩ := List.mem_map.mp named
    obtain ⟨positive, admits⟩ := (members number).mp inside
    rw [ttyToSeat_terminal] at named
    have position := append_toString_injective "seat" named
    split at position
    · have above : rankOf ttyKey (listing dir) entry + 1 = number := by omega
      rw [above]
      exact admits
    · next large =>
      -- the number is out of range, and the first terminal sorts before it
      rw [← position] at discovered ⊢
      have first := existing _ discovered
      rw [seatToTty_seat (by decide)] at first
      obtain ⟨place, found⟩ := List.getElem?_of_mem first
      obtain ⟨other, otherListed, otherNamed, otherSmall⟩ := admits
      refine ⟨(terminal 1, place), List.mk_mem_zipIdx_iff_getElem?.mpr found, rfl, ?_⟩
      apply (rankOf_le_of_key_lt (listing dir) ?_).trans_lt otherSmall
      rw [otherNamed, ttyKey_terminal, ttyKey_terminal, if_pos (by decide), if_neg (by omega)]
      decide
  · intro every
    have above : ∀ number ∈ seatNumbers (activateTtys var) (listing dir),
        Admits (activateTtys var) (listing dir) (terminal (number + 1)) := by
      intro number inside
      obtain ⟨entry, listed, seated, rfl, small⟩ := mem_seatNumbers.mp inside
      exact every entry listed seated small
    have small : ∀ number ∈ seatNumbers (activateTtys var) (listing dir),
        number + 1 < 2 ^ 64 := by
      intro number inside
      obtain ⟨entry, -, -, -, small⟩ := mem_seatNumbers.mp inside
      exact Nat.lt_of_le_of_lt small (activateTtys_lt var)
    refine ⟨⟨(seatNumbers (activateTtys var) (listing dir)).map (· + 1), ?_, ?_, ?_⟩, ?_⟩
    · exact List.pairwise_map.mpr (pairwise_seatNumbers.imp Nat.succ_lt_succ)
    · intro number
      rw [List.mem_map]
      constructor
      · rintro ⟨position, inside, rfl⟩
        exact ⟨Nat.succ_pos position, above position inside⟩
      · rintro ⟨positive, admits⟩
        exact mem_of_admits above positive admits
    · rw [seats, List.map_map]
      apply List.map_congr_left
      intro number inside
      rw [Function.comp_apply, ttyToSeat_terminal, if_pos (small number inside),
        Nat.add_sub_cancel]
    · intro seat inside
      rw [seats] at inside
      obtain ⟨number, numbered, rfl⟩ := List.mem_map.mp inside
      rw [seatToTty_seat (small number numbered)]
      obtain ⟨entry, listed, named, -⟩ := above number numbered
      rw [← named]
      exact List.fst_mem_of_mem_zipIdx listed

/-- The console takes the position of the first seat. -/
theorem not_seatsOfTerminals_console :
    ¬ ∀ var dir, SeatsOfTerminals (activateTtys var) (listing dir) (discoverSeats var dir) := by
  intro serves
  have numbered : 1 ∈ seatNumbers 7 ["tty0", "tty1"] :=
    mem_seatNumbers.mpr ⟨("tty1", 1), by decide, by decide, by decide +kernel, by decide⟩
  have discovered : "seat" ++ toString 1 ∈
      discoverSeats none (some [some "tty0", some "tty1"]) := by
    rw [discoverSeats_eq]
    exact List.mem_map_of_mem numbered
  have existing := (serves none (some [some "tty0", some "tty1"])).existing _ discovered
  exact absurd existing (by decide +kernel)

end Rind.Seats
