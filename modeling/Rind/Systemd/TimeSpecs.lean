import Rind.Services.Durations

/-!
# Times of systemd

The time of a systemd timer is rewritten as a duration, which the timer reads again when it is
loaded.  The two parsers agree on a time as long as its seconds fit into 64 bits and its last
character is a unit that they know, or the last of several digits.
-/

namespace Rind.Systemd

/-! ## What a time denotes -/

/-- The digits of a number, without the sign that may stand before them. -/
def digitsOf : List Char → List Char
  | '+' :: rest => rest
  | digits => digits

/-- The number that some characters are, of however many digits. -/
def number (chars : List Char) : Option Nat := Text.parseDigits (digitsOf chars)

/-- The seconds of a unit of systemd, in either case. -/
def unitSeconds (unit : Char) : Option Nat :=
  if unit = 's' ∨ unit = 'S' then some 1
  else if unit = 'm' ∨ unit = 'M' then some 60
  else if unit = 'h' ∨ unit = 'H' then some 3600
  else if unit = 'd' ∨ unit = 'D' then some 86400
  else if unit = 'w' ∨ unit = 'W' then some 604800
  else if unit = 'y' ∨ unit = 'Y' then some 31536000
  else none

/-- The seconds that a time denotes: a number with a unit, or a number of seconds. -/
def denotedSeconds (value : String) : Option Nat :=
  let chars := (Text.trim value).toList
  match chars.getLast?.bind unitSeconds with
  | some factor => (number chars.dropLast).map (· * factor)
  | none => number chars

/-- A time becomes the duration that it denotes, if any, and it does become one if it denotes
one that fits into 64 bits. -/
structure Agrees (value : String) : Prop where
  sound : ∀ duration, parseTimeSpec value = some (some duration) →
    ∃ seconds, denotedSeconds value = some seconds ∧
      parseDuration duration = some (some seconds)
  complete : ∀ seconds, denotedSeconds value = some seconds → seconds < 2 ^ 64 →
    ∃ duration, parseTimeSpec value = some (some duration)

/-- A number that is read is followed by a unit, and the time fits into 64 bits unless already
its days do not; or else the unit is that of microseconds, which is refused; or what follows is
one more digit of a number that fits. -/
def Fits (chars : List Char) (unit : Char) : Prop :=
  ∀ num, parseU64 chars = some num →
    match keptUnit unit with
    | some (count, kept) => num * count < 2 ^ 64 →
        ∀ factor, unitFactor kept = some factor → num * count * factor < 2 ^ 64
    | none => unit = 'u' ∨ unit = 'U' ∨ ∃ whole, number (chars ++ [unit]) = some whole ∧
        whole < 2 ^ 64

/-- A number has more than one digit. -/
def Several (chars : List Char) (unit : Char) : Prop :=
  (number (chars ++ [unit])).isSome → chars ≠ [] ∧ chars ≠ ['+']

/-! ## Numbers -/

section Numbers

variable {chars : List Char} {unit : Char}

theorem parseU64_eq (chars : List Char) : parseU64 chars = (number chars).filter (· < 2 ^ 64) := by
  rw [parseU64, Text.parseUnsigned, String.toList_ofList]
  rfl

theorem parseU64_of_number {num : Nat} (known : number chars = some num) (small : num < 2 ^ 64) :
    parseU64 chars = some num := by
  rw [parseU64_eq, known, Option.filter_some, if_pos (decide_eq_true small)]

theorem number_of_parseU64 {num : Nat} (parsed : parseU64 chars = some num) :
    number chars = some num := by
  rw [parseU64_eq, Option.filter_eq_some_iff] at parsed
  exact parsed.1

theorem digitsOf_concat (more : chars ≠ []) :
    digitsOf (chars ++ [unit]) = digitsOf chars ++ [unit] := by
  cases chars with
  | nil => exact absurd rfl more
  | cons first rest =>
      by_cases sign : first = '+'
      · subst sign
        rfl
      · simp [digitsOf, sign]

theorem digitsOf_eq_nil : digitsOf chars = [] ↔ chars = [] ∨ chars = ['+'] := by
  cases chars with
  | nil => exact iff_of_true rfl (.inl rfl)
  | cons first rest =>
      by_cases sign : first = '+'
      · subst sign
        simp [digitsOf]
      · simp [digitsOf, sign]

/-- A number ends with a digit. -/
theorem isDigit_of_number {whole : Nat} (known : number (chars ++ [unit]) = some whole) :
    unit.isDigit := by
  have digits := Text.all_isDigit_of_parseDigits known
  cases chars with
  | nil =>
      by_cases sign : unit = '+'
      · subst sign
        cases known
      · simpa [digitsOf, sign] using digits
  | cons first rest =>
      rw [digitsOf_concat (List.cons_ne_nil _ _), List.all_append, Bool.and_eq_true] at digits
      simpa using digits.2

/-- A number without its last digit is a smaller one. -/
theorem number_dropLast {whole : Nat} (known : number (chars ++ [unit]) = some whole)
    (more : chars ≠ []) (unsigned : chars ≠ ['+']) :
    ∃ num, number chars = some num ∧ num ≤ whole := by
  have some_ : digitsOf chars ≠ [] := by
    rw [Ne, digitsOf_eq_nil]
    exact not_or.mpr ⟨more, unsigned⟩
  rw [number, digitsOf_concat more, Text.parseDigits_concat some_,
    Option.ite_none_right_eq_some, Option.map_eq_some_iff] at known
  obtain ⟨-, num, read, rfl⟩ := known
  exact ⟨num, read, by omega⟩

/-- A number that is only its last character has one digit. -/
theorem number_alone {whole : Nat} (known : number (chars ++ [unit]) = some whole)
    (alone : chars = [] ∨ chars = ['+']) : whole < 10 := by
  rcases alone with rfl | rfl
  · by_cases sign : unit = '+'
    · subst sign
      cases known
    · rw [List.nil_append, number, digitsOf] at known
      · exact Text.parseDigits_singleton known
      · rintro rest same
        cases same
        exact sign rfl
  · exact Text.parseDigits_singleton known

theorem number_alone_none (alone : chars = [] ∨ chars = ['+']) : number chars = none := by
  rcases alone with rfl | rfl
  · rfl
  · rfl

end Numbers

/-! ## Units -/

section Units

variable {unit : Char}

/-- The seconds of a unit are those of the unit that is written in its place. -/
theorem unitSeconds_eq (unit : Char) :
    unitSeconds unit = (keptUnit unit).bind fun kept => (unitFactor kept.2).map (kept.1 * ·) := by
  simp only [unitSeconds, keptUnit]
  split
  · rfl
  split
  · rfl
  split
  · rfl
  split
  · rfl
  split
  · rfl
  split
  · rfl
  · rfl

theorem unitSeconds_kept {count factor : Nat} {kept : Char}
    (found : keptUnit unit = some (count, kept)) (known : unitFactor kept = some factor) :
    unitSeconds unit = some (count * factor) := by
  rw [unitSeconds_eq, found, Option.bind_some, known, Option.map_some]

theorem unitSeconds_unknown (unknown : keptUnit unit = none) : unitSeconds unit = none := by
  rw [unitSeconds_eq, unknown, Option.bind_none]

/-- What no unit of systemd is, is none of a duration either. -/
theorem unitFactor_unknown (unknown : keptUnit unit = none) : unitFactor unit = none := by
  rw [unitFactor]
  simp only [keptUnit] at unknown
  split at unknown
  · cases unknown
  · next seconds =>
      split at unknown
      · cases unknown
      · next minutes =>
          split at unknown
          · cases unknown
          · next hours =>
              split at unknown
              · cases unknown
              · next days =>
                  rw [if_neg fun same => seconds (.inl same),
                    if_neg fun same => minutes (.inl same), if_neg fun same => hours (.inl same),
                    if_neg fun same => days (.inl same)]

def unitLetters : List Char := ['s', 'S', 'm', 'M', 'h', 'H', 'd', 'D', 'w', 'W', 'y', 'Y']

/-- A unit has some seconds, is a byte, and is no digit. -/
theorem unitSeconds_some {factor : Nat} (known : unitSeconds unit = some factor) :
    0 < factor ∧ unit.utf8Size = 1 ∧ unit.isDigit = false := by
  have listed : unit ∈ unitLetters := by
    by_contra outside
    simp only [unitLetters, List.mem_cons, List.not_mem_nil, or_false, not_or] at outside
    simp [unitSeconds, outside] at known
  have letters : unitLetters.all fun unit => decide
      ((unitSeconds unit).any (0 < ·) ∧ unit.utf8Size = 1 ∧ unit.isDigit = false) := by decide
  obtain ⟨positive, rest⟩ := of_decide_eq_true (List.all_eq_true.mp letters unit listed)
  rw [known, Option.any_some, decide_eq_true_eq] at positive
  exact ⟨positive, rest⟩

end Units

/-! ## When the parsers agree -/

section Agreement

variable {value : String} {chars : List Char} {unit : Char}

theorem denotedSeconds_concat (shape : (Text.trim value).toList = chars ++ [unit]) :
    denotedSeconds value =
      match unitSeconds unit with
      | some factor => (number chars).map (· * factor)
      | none => number (chars ++ [unit]) := by
  simp [denotedSeconds, shape]

/-- What ends with a unit is no number as a whole. -/
theorem number_concat_unit {factor : Nat} (known : unitSeconds unit = some factor) :
    number (chars ++ [unit]) = none := by
  rw [Option.eq_none_iff_forall_ne_some]
  intro whole read
  have digit := isDigit_of_number read
  rw [(unitSeconds_some known).2.2] at digit
  cases digit

/-- What does not end with a byte denotes nothing. -/
theorem denotedSeconds_within (shape : (Text.trim value).toList = chars ++ [unit])
    (within : unit.utf8Size ≠ 1) : denotedSeconds value = none := by
  have unknown : unitSeconds unit = none := by
    rw [Option.eq_none_iff_forall_ne_some]
    intro factor known
    exact within (unitSeconds_some known).2.1
  rw [denotedSeconds_concat shape, unknown]
  dsimp only
  rw [Option.eq_none_iff_forall_ne_some]
  intro whole read
  have digit := isDigit_of_number read
  rw [Char.isDigit, Bool.and_eq_true, decide_eq_true_eq, decide_eq_true_eq] at digit
  exact within (Char.utf8Size_eq_one_iff.mpr (UInt32.le_trans digit.2 (by decide)))

/-- A time that is refused is one that denotes no seconds, or too many. -/
theorem agrees_of_refused (refused : parseTimeSpec value = some none) :
    Agrees value ↔ ∀ seconds, denotedSeconds value = some seconds → 2 ^ 64 ≤ seconds := by
  constructor
  · intro agrees seconds stands
    by_contra small
    obtain ⟨duration, read⟩ := agrees.complete seconds stands (by omega)
    rw [refused] at read
    cases read
  · intro large
    constructor
    · intro duration read
      rw [refused] at read
      cases read
    · intro seconds stands small
      exact absurd small (large seconds stands).not_gt

/-- A time whose number is not read agrees unless it is a digit alone. -/
theorem agrees_of_unread (shape : (Text.trim value).toList = chars ++ [unit])
    (single : unit.utf8Size = 1) (unread : parseU64 chars = none) :
    Agrees value ↔ Several chars unit := by
  have refused : parseTimeSpec value = some none := by
    rw [parseTimeSpec_concat shape single, unread]
    rfl
  have large (num : Nat) (known : number chars = some num) : 2 ^ 64 ≤ num := by
    by_contra small
    rw [parseU64_of_number known (by omega)] at unread
    cases unread
  rw [agrees_of_refused refused, denotedSeconds_concat shape, Several]
  cases known : unitSeconds unit with
  | some factor =>
      rw [number_concat_unit known]
      apply iff_of_true
      · intro seconds stands
        obtain ⟨num, read, rfl⟩ := Option.map_eq_some_iff.mp stands
        exact (large num read).trans (Nat.le_mul_of_pos_right _ (unitSeconds_some known).1)
      · nofun
  | none =>
      constructor
      · intro all some_
        obtain ⟨whole, read⟩ := Option.isSome_iff_exists.mp some_
        rw [← not_or]
        intro alone
        have bounds := all whole read
        have digit := number_alone read alone
        omega
      · intro several seconds stands
        obtain ⟨more, unsigned⟩ := several (Option.isSome_of_eq_some stands)
        obtain ⟨num, read, smaller⟩ := number_dropLast stands more unsigned
        exact (large num read).trans smaller

/-- A time with a unit agrees unless the seconds of its days are too many. -/
theorem agrees_of_kept (shape : (Text.trim value).toList = chars ++ [unit])
    (single : unit.utf8Size = 1) {num count factor : Nat} {kept : Char}
    (parsed : parseU64 chars = some num) (found : keptUnit unit = some (count, kept))
    (known : unitFactor kept = some factor) :
    Agrees value ↔ (num * count < 2 ^ 64 → num * count * factor < 2 ^ 64) := by
  obtain ⟨-, single', visible⟩ := keptUnit_known found
  have spec : parseTimeSpec value =
      (mulU64 num count).map fun num => some (toString num ++ String.ofList [kept]) := by
    rw [parseTimeSpec_concat shape single, parsed, Option.map_some, Option.getD_some, keptDuration,
      found]
  have denotes : denotedSeconds value = some (num * count * factor) := by
    rw [denotedSeconds_concat shape, unitSeconds_kept found known, Nat.mul_assoc]
    exact congrArg (Option.map _) (number_of_parseU64 parsed)
  have written (small : num * count < 2 ^ 64) :
      parseDuration (toString (num * count) ++ String.ofList [kept]) =
        bounded (some (num * count * factor)) := by
    classical
    obtain ⟨ends, stands⟩ := durationSeconds_written small known single' visible
    rw [parseDuration_eq, if_pos ends, stands]
  constructor
  · intro agrees small
    rw [mulU64, if_pos small, Option.map_some] at spec
    obtain ⟨seconds, -, read⟩ := agrees.sound _ spec
    rw [written small, bounded] at read
    by_contra large
    rw [if_neg large] at read
    cases read
  · intro fits
    constructor
    · intro duration read
      rw [spec, Option.map_eq_some_iff] at read
      obtain ⟨days, product, same⟩ := read
      rw [mulU64, Option.ite_none_right_eq_some, Option.some_inj] at product
      obtain ⟨small, rfl⟩ := product
      cases same
      refine ⟨_, denotes, ?_⟩
      rw [written small, bounded, if_pos (fits small)]
    · intro seconds stands small
      rw [denotes, Option.some_inj] at stands
      subst stands
      obtain ⟨⟨factor', positive, known'⟩, -⟩ := keptUnit_known found
      rw [known, Option.some_inj] at known'
      subst known'
      have days : num * count < 2 ^ 64 := (Nat.le_mul_of_pos_right _ positive).trans_lt small
      rw [spec, mulU64, if_pos days]
      exact ⟨_, rfl⟩

/-- A time without a unit agrees where it is a number that fits. -/
theorem agrees_of_raw (shape : (Text.trim value).toList = chars ++ [unit])
    (single : unit.utf8Size = 1) {num : Nat} (parsed : parseU64 chars = some num)
    (unknown : keptUnit unit = none) :
    Agrees value ↔ unit = 'u' ∨ unit = 'U' ∨
      ∃ whole, number (chars ++ [unit]) = some whole ∧ whole < 2 ^ 64 := by
  have denotes : denotedSeconds value = number (chars ++ [unit]) := by
    rw [denotedSeconds_concat shape, unitSeconds_unknown unknown]
  have spec : parseTimeSpec value =
      if unit = 'u' ∨ unit = 'U' then some none else some (some (Text.trim value)) := by
    rw [parseTimeSpec_concat shape single, parsed, Option.map_some, Option.getD_some, keptDuration,
      unknown, ← shape, String.ofList_toList]
  by_cases micro : unit = 'u' ∨ unit = 'U'
  · rw [if_pos micro] at spec
    rw [agrees_of_refused spec, denotes, ← or_assoc]
    apply iff_of_true
    · intro seconds stands
      have digit := isDigit_of_number stands
      rcases micro with rfl | rfl
      · cases digit
      · cases digit
    · exact .inl micro
  · rw [if_neg micro] at spec
    have again : (Text.trim (Text.trim value)).toList = chars ++ [unit] := by
      rw [Text.trim_trim, shape]
    have read : parseDuration (Text.trim value) = some (parseU64 (chars ++ [unit])) := by
      rw [parseDuration_concat again single, secondsOf_raw (.inr (unitFactor_unknown unknown)),
        bounded_parseU64]
    rw [← or_assoc, or_iff_right micro]
    constructor
    · intro agrees
      obtain ⟨seconds, stands, same⟩ := agrees.sound _ spec
      rw [read, Option.some_inj] at same
      exact ⟨seconds, denotes ▸ stands, parseU64_lt same⟩
    · rintro ⟨whole, known, small⟩
      constructor
      · intro duration same
        rw [spec] at same
        cases same
        exact ⟨whole, denotes.trans known, by rw [read, parseU64_of_number known small]⟩
      · intro seconds stands small
        exact ⟨_, spec⟩

theorem fits_of_parsed {num : Nat} (parsed : parseU64 chars = some num) :
    Fits chars unit ↔
      match keptUnit unit with
      | some (count, kept) => num * count < 2 ^ 64 →
          ∀ factor, unitFactor kept = some factor → num * count * factor < 2 ^ 64
      | none => unit = 'u' ∨ unit = 'U' ∨ ∃ whole, number (chars ++ [unit]) = some whole ∧
          whole < 2 ^ 64 := by
  rw [Fits, parsed]
  simp only [Option.some.injEq, forall_eq']

/-- What stands behind a number is not its only digit. -/
theorem several_of_parsed {num : Nat} (parsed : parseU64 chars = some num) :
    Several chars unit := by
  intro _
  rw [← not_or]
  intro alone
  have known := number_of_parseU64 parsed
  rw [number_alone_none alone] at known
  cases known

theorem agrees_concat (shape : (Text.trim value).toList = chars ++ [unit])
    (single : unit.utf8Size = 1) : Agrees value ↔ Fits chars unit ∧ Several chars unit := by
  cases parsed : parseU64 chars with
  | none =>
      have fits : Fits chars unit := by
        intro num read
        rw [parsed] at read
        cases read
      rw [agrees_of_unread shape single parsed, and_iff_right fits]
  | some num =>
      rw [and_iff_left (several_of_parsed parsed), fits_of_parsed parsed]
      cases found : keptUnit unit with
      | none => exact agrees_of_raw shape single parsed found
      | some kept =>
          obtain ⟨count, kept⟩ := kept
          obtain ⟨⟨factor, -, known⟩, -⟩ := keptUnit_known found
          rw [agrees_of_kept shape single parsed found known]
          simp only [known, Option.some.injEq, forall_eq']

/-- The times on which the two parsers agree: what stands before the last character is a number
that fits with it, or the time is refused and not a digit alone. -/
theorem timeSpec_agrees_iff (value : String) : Agrees value ↔
    ∀ chars unit, (Text.trim value).toList = chars ++ [unit] → unit.utf8Size = 1 →
      Fits chars unit ∧ Several chars unit := by
  rcases List.eq_nil_or_concat (Text.trim value).toList with empty | ⟨chars, unit, shape⟩
  · rw [agrees_of_refused (parseTimeSpec_blank empty), empty]
    apply iff_of_true
    · intro seconds stands
      rw [denotedSeconds, empty] at stands
      cases stands
    · intro chars unit shape
      exact absurd shape.symm (by simp)
  · rw [List.concat_eq_append] at shape
    have only : (∀ chars' unit', (Text.trim value).toList = chars' ++ [unit'] →
        unit'.utf8Size = 1 → Fits chars' unit' ∧ Several chars' unit') ↔
          (unit.utf8Size = 1 → Fits chars unit ∧ Several chars unit) := by
      constructor
      · intro all
        exact all chars unit shape
      · intro this chars' unit' shape'
        obtain ⟨rfl, same⟩ := List.append_inj' (shape.symm.trans shape') rfl
        cases same
        exact this
    rw [only]
    by_cases single : unit.utf8Size = 1
    · rw [agrees_concat shape single]
      exact ⟨fun both _ => both, fun both => both single⟩
    · apply iff_of_true
      · constructor
        · intro duration read
          rw [parseTimeSpec_within shape single] at read
          cases read
        · intro seconds stands
          rw [denotedSeconds_within shape single] at stands
          cases stands
      · exact fun single' => absurd single' single

/-- A number without a unit is refused where it has only one digit. -/
theorem not_agrees_digit : ¬ Agrees "5" := by
  intro agrees
  obtain ⟨duration, read⟩ := agrees.complete 5 (by decide +kernel) (by decide)
  have refused : parseTimeSpec "5" = some none := by decide +kernel
  rw [refused] at read
  cases read

end Agreement

end Rind.Systemd
