import Rind.Data.Text

/-!
# Durations

The time of a timer is a number with a unit behind it. Both parsers cut a text before its last
byte, which panics where that byte is only the end of a character, and multiply with the unit,
which panics where the product has more than 64 bits.
-/

namespace Rind

namespace Text

/-- `str::len` -/
def len : (chars : List Char) → Nat
  | [] => 0
  | c :: chars => c.utf8Size + len chars

/-- `str::split_at`, which panics where the place is no boundary of a character. -/
def splitAt (mid : Nat) : (chars : List Char) → Option (List Char × List Char)
  | [] => if mid = 0 then some ([], []) else none
  | c :: chars =>
      if mid = 0 then some ([], c :: chars)
      else if c.utf8Size ≤ mid then
        (splitAt (mid - c.utf8Size) chars).map fun parts => (c :: parts.1, parts.2)
      else none

theorem len_concat (chars : List Char) (last : Char) :
    len (chars ++ [last]) = len chars + last.utf8Size := by
  induction chars with
  | nil => simp [len]
  | cons c chars ih => simp [len, ih, Nat.add_assoc]

/-- A text can be cut before its last byte exactly where this is a character. -/
theorem splitAt_last (chars : List Char) (last : Char) :
    splitAt (len (chars ++ [last]) - 1) (chars ++ [last]) =
      if last.utf8Size = 1 then some (chars, [last]) else none := by
  have longer := last.utf8Size_pos
  induction chars with
  | nil =>
      rw [List.nil_append, len, len]
      by_cases single : last.utf8Size = 1
      · simp [splitAt, single]
      · have within : ¬ last.utf8Size ≤ last.utf8Size - 1 := by omega
        have apart : last.utf8Size - 1 ≠ 0 := by omega
        simp [splitAt, single, within, apart]
  | cons c chars ih =>
      have first := c.utf8Size_pos
      have rest : last.utf8Size ≤ len (chars ++ [last]) := by
        rw [len_concat]
        omega
      rw [List.cons_append, len, splitAt, if_neg (by omega), if_pos (by omega),
        show c.utf8Size + len (chars ++ [last]) - 1 - c.utf8Size = len (chars ++ [last]) - 1 by omega,
        ih]
      split
      · rfl
      · rfl

end Text

/-! ## The parsers -/

/-- A product of 64 bits, which panics where it overflows. -/
def mulU64 (left right : Nat) : Option Nat :=
  if left * right < 2 ^ 64 then some (left * right) else none

/-- `str::parse::<u64>` -/
def parseU64 (chars : List Char) : Option Nat := Text.parseUnsigned (2 ^ 64) (String.ofList chars)

/-- `parse_duration`, in seconds, unless it panics. -/
def parseDuration (s : String) : Option (Option Nat) :=
  let s := (Text.trim s).toList
  if s.isEmpty then some none
  else do
    let (numStr, unit) ← Text.splitAt (Text.len s - 1) s
    match parseU64 numStr with
    | some num =>
        if unit = ['s'] then some (some num)
        else if unit = ['m'] then (mulU64 num 60).map some
        else if unit = ['h'] then (mulU64 num 3600).map some
        else if unit = ['d'] then (mulU64 num 86400).map some
        else some (parseU64 s)
    | none => some (parseU64 s)

namespace Systemd

/-- `parse_time_spec`, unless it panics. -/
def parseTimeSpec (value : String) : Option (Option String) :=
  let trimmed := (Text.trim value).toList
  if trimmed.isEmpty then some none
  else do
    let (numStr, unit) ← Text.splitAt (Text.len trimmed - 1) trimmed
    match parseU64 numStr with
    | none => some none
    | some n =>
        if unit = ['s'] ∨ unit = ['S'] then some (some (toString n ++ "s"))
        else if unit = ['m'] ∨ unit = ['M'] then some (some (toString n ++ "m"))
        else if unit = ['h'] ∨ unit = ['H'] then some (some (toString n ++ "h"))
        else if unit = ['d'] ∨ unit = ['D'] then some (some (toString n ++ "d"))
        else if unit = ['w'] ∨ unit = ['W'] then
          (mulU64 n 7).map fun days => some (toString days ++ "d")
        else if unit = ['y'] ∨ unit = ['Y'] then
          (mulU64 n 365).map fun days => some (toString days ++ "d")
        else if unit = ['u'] ∨ unit = ['U'] then some none
        else some (some (String.ofList trimmed))

/-- The calendar words, with the durations that they stand for. -/
def calendarWords : List (String × String) :=
  [("minutely", "1m"), ("hourly", "1h"), ("daily", "1d"), ("weekly", "7d"), ("monthly", "30d"),
    ("quarterly", "90d"), ("semi-annually", "180d"), ("yearly", "365d"), ("annually", "365d")]

def parseOnCalendar (value : String) : Option String :=
  let value := Text.trim value
  if value.isEmpty then none
  else
    let lower := String.ofList (value.toList.map Char.toLower)
    (calendarWords.find? fun word =>
      (Text.stripPrefix word.1 lower).any fun rest => (Text.trim rest).isEmpty).map Prod.snd

/-- What `timer_duration_from` makes of one setting, unless it panics. -/
def settingDuration (value : String) : Option (Option String) :=
  match parseOnCalendar value with
  | some duration => some (some duration)
  | none => parseTimeSpec value

end Systemd

/-! ## What a duration stands for -/

/-- The last byte of a text, without the white space behind it, is a character. -/
def EndsInByte (text : String) : Prop :=
  ∀ last ∈ (Text.trim text).toList.getLast?, last.utf8Size = 1

def unitFactor (unit : Char) : Option Nat :=
  if unit = 's' then some 1
  else if unit = 'm' then some 60
  else if unit = 'h' then some 3600
  else if unit = 'd' then some 86400
  else none

/-- The seconds that a number with a unit, or without one, stands for, however many. -/
def secondsOf (chars : List Char) (unit : Char) : Option Nat :=
  match parseU64 chars, unitFactor unit with
  | some num, some factor => some (num * factor)
  | _, _ => parseU64 (chars ++ [unit])

def durationSeconds (text : String) : Option Nat :=
  (Text.trim text).toList.getLast?.bind fun unit =>
    secondsOf (Text.trim text).toList.dropLast unit

section Durations

variable {text : String} {chars : List Char} {unit : Char}

theorem parseU64_lt {num : Nat} (parsed : parseU64 chars = some num) : num < 2 ^ 64 := by
  rw [parseU64, Text.parseUnsigned, Option.filter_eq_some_iff] at parsed
  exact of_decide_eq_true parsed.2

theorem endsInByte_concat (shape : (Text.trim text).toList = chars ++ [unit]) :
    EndsInByte text ↔ unit.utf8Size = 1 := by
  simp [EndsInByte, shape]

theorem durationSeconds_concat (shape : (Text.trim text).toList = chars ++ [unit]) :
    durationSeconds text = secondsOf chars unit := by
  simp [durationSeconds, shape]

/-- A time of at most 64 bits; a longer one panics. -/
def bounded : Option Nat → Option (Option Nat)
  | none => some none
  | some seconds => if seconds < 2 ^ 64 then some (some seconds) else none

theorem bounded_parseU64 : bounded (parseU64 chars) = some (parseU64 chars) := by
  cases parsed : parseU64 chars with
  | none => rfl
  | some seconds => exact if_pos (parseU64_lt parsed)

theorem map_mulU64 (num factor : Nat) :
    (mulU64 num factor).map some = bounded (some (num * factor)) := by
  rw [mulU64, bounded]
  split
  · rfl
  · rfl

theorem secondsOf_some {num factor : Nat} (parsed : parseU64 chars = some num)
    (known : unitFactor unit = some factor) : secondsOf chars unit = some (num * factor) := by
  rw [secondsOf, parsed, known]

theorem secondsOf_raw (unknown : parseU64 chars = none ∨ unitFactor unit = none) :
    secondsOf chars unit = parseU64 (chars ++ [unit]) := by
  rcases unknown with unparsed | unknown
  · rw [secondsOf, unparsed]
  · rw [secondsOf, unknown]
    cases parseU64 chars with
    | none => rfl
    | some num => rfl

theorem parseDuration_concat (shape : (Text.trim text).toList = chars ++ [unit])
    (single : unit.utf8Size = 1) : parseDuration text = bounded (secondsOf chars unit) := by
  have some_ : (chars ++ [unit]).isEmpty = false := by simp
  rw [parseDuration, shape, Text.splitAt_last, if_pos single]
  simp only [some_, Bool.false_eq_true, if_false, Option.bind_eq_bind, Option.bind_some,
    List.cons.injEq, and_true]
  cases parsed : parseU64 chars with
  | none =>
      rw [secondsOf_raw (.inl parsed), bounded_parseU64]
  | some num =>
      dsimp only
      by_cases seconds : unit = 's'
      · rw [if_pos seconds, secondsOf_some parsed (if_pos seconds), Nat.mul_one]
        exact (if_pos (parseU64_lt parsed)).symm
      rw [if_neg seconds]
      by_cases minutes : unit = 'm'
      · rw [if_pos minutes, map_mulU64, secondsOf_some parsed]
        rw [unitFactor, if_neg seconds, if_pos minutes]
      rw [if_neg minutes]
      by_cases hours : unit = 'h'
      · rw [if_pos hours, map_mulU64, secondsOf_some parsed]
        rw [unitFactor, if_neg seconds, if_neg minutes, if_pos hours]
      rw [if_neg hours]
      by_cases days : unit = 'd'
      · rw [if_pos days, map_mulU64, secondsOf_some parsed]
        rw [unitFactor, if_neg seconds, if_neg minutes, if_neg hours, if_pos days]
      rw [if_neg days, secondsOf_raw, bounded_parseU64]
      right
      rw [unitFactor, if_neg seconds, if_neg minutes, if_neg hours, if_neg days]

/-- A duration is read unless it ends within a character or has more than 64 bits. -/
theorem parseDuration_eq (text : String) [Decidable (EndsInByte text)] :
    parseDuration text = if EndsInByte text then bounded (durationSeconds text) else none := by
  rcases List.eq_nil_or_concat (Text.trim text).toList with empty | ⟨chars, unit, shape⟩
  · have ends : EndsInByte text := by simp [EndsInByte, empty]
    rw [if_pos ends]
    simp [parseDuration, durationSeconds, empty, bounded]
  · rw [List.concat_eq_append] at shape
    rw [durationSeconds_concat shape]
    by_cases single : unit.utf8Size = 1
    · rw [if_pos ((endsInByte_concat shape).mpr single), parseDuration_concat shape single]
    · rw [if_neg (mt (endsInByte_concat shape).mp single), parseDuration, shape,
        Text.splitAt_last, if_neg single]
      simp

end Durations

/-! ## Settings -/

/-- The unit that the time of a setting is written in again, and how many of these one of its own
units is. -/
def keptUnit (unit : Char) : Option (Nat × Char) :=
  if unit = 's' ∨ unit = 'S' then some (1, 's')
  else if unit = 'm' ∨ unit = 'M' then some (1, 'm')
  else if unit = 'h' ∨ unit = 'H' then some (1, 'h')
  else if unit = 'd' ∨ unit = 'D' then some (1, 'd')
  else if unit = 'w' ∨ unit = 'W' then some (7, 'd')
  else if unit = 'y' ∨ unit = 'Y' then some (365, 'd')
  else none

/-- What the time of a setting becomes, unless it panics. -/
def keptDuration (chars : List Char) (unit : Char) (num : Nat) : Option (Option String) :=
  match keptUnit unit with
  | some (count, kept) =>
      (mulU64 num count).map fun num => some (toString num ++ String.ofList [kept])
  | none =>
      if unit = 'u' ∨ unit = 'U' then some none else some (some (String.ofList (chars ++ [unit])))

/-- The seconds that the time of a setting stands for, however many. -/
def settingSecondsOf (chars : List Char) (unit : Char) : Option Nat :=
  (parseU64 chars).bind fun num =>
    match keptUnit unit with
    | some (count, kept) => (unitFactor kept).map (num * count * ·)
    | none => if unit = 'u' ∨ unit = 'U' then none else secondsOf chars unit

def settingSeconds (value : String) : Option Nat :=
  (Text.trim value).toList.getLast?.bind fun unit =>
    settingSecondsOf (Text.trim value).toList.dropLast unit

section Settings

variable {value : String} {chars : List Char} {unit : Char}

theorem keptUnit_known {count : Nat} {kept : Char} (found : keptUnit unit = some (count, kept)) :
    (∃ factor, 0 < factor ∧ unitFactor kept = some factor) ∧ kept.utf8Size = 1 ∧
      Text.isWhitespace kept = false := by
  have listed : kept ∈ ['s', 'm', 'h', 'd'] := by
    simp only [keptUnit] at found
    split at found <;> try (cases found; decide)
    split at found <;> try (cases found; decide)
    split at found <;> try (cases found; decide)
    split at found <;> try (cases found; decide)
    split at found <;> try (cases found; decide)
    split at found <;> try (cases found; decide)
    cases found
  have known : ['s', 'm', 'h', 'd'].all fun kept =>
      (unitFactor kept).any (0 < ·) ∧ kept.utf8Size = 1 ∧ Text.isWhitespace kept = false := by
    decide
  obtain ⟨positive, single, visible⟩ := of_decide_eq_true (List.all_eq_true.mp known kept listed)
  cases known : unitFactor kept with
  | none => simp [known] at positive
  | some factor => exact ⟨⟨factor, by simpa [known] using positive, rfl⟩, single, visible⟩

theorem settingSeconds_concat (shape : (Text.trim value).toList = chars ++ [unit]) :
    settingSeconds value = settingSecondsOf chars unit := by
  simp [settingSeconds, shape]

/-- A setting is read unless it ends within a character, or its unit makes it too long. -/
theorem parseTimeSpec_concat (shape : (Text.trim value).toList = chars ++ [unit])
    (single : unit.utf8Size = 1) :
    Systemd.parseTimeSpec value =
      ((parseU64 chars).map (keptDuration chars unit)).getD (some none) := by
  have some_ : (chars ++ [unit]).isEmpty = false := by simp
  have one (num : Nat) (small : num < 2 ^ 64) : mulU64 num 1 = some num := by
    rw [mulU64, Nat.mul_one, if_pos small]
  rw [Systemd.parseTimeSpec, shape, Text.splitAt_last, if_pos single]
  simp only [some_, Bool.false_eq_true, if_false, Option.bind_eq_bind, Option.bind_some,
    List.cons.injEq, and_true]
  cases parsed : parseU64 chars with
  | none => rfl
  | some num =>
      have small := parseU64_lt parsed
      rw [Option.map_some, Option.getD_some, keptDuration, keptUnit]
      dsimp only
      split
      · simp only [one num small, Option.map_some]
      split
      · simp only [one num small, Option.map_some]
      split
      · simp only [one num small, Option.map_some]
      split
      · simp only [one num small, Option.map_some]
      split
      · rfl
      split
      · rfl
      · rfl

theorem parseTimeSpec_blank (empty : (Text.trim value).toList = []) :
    Systemd.parseTimeSpec value = some none := by
  simp [Systemd.parseTimeSpec, empty]

theorem parseTimeSpec_within (shape : (Text.trim value).toList = chars ++ [unit])
    (within : unit.utf8Size ≠ 1) : Systemd.parseTimeSpec value = none := by
  simp [Systemd.parseTimeSpec, shape, Text.splitAt_last, within]

/-- A number with a unit stands for its product with it. -/
theorem durationSeconds_written {num factor : Nat} {kept : Char} (small : num < 2 ^ 64)
    (known : unitFactor kept = some factor) (single : kept.utf8Size = 1)
    (visible : Text.isWhitespace kept = false) :
    EndsInByte (toString num ++ String.ofList [kept]) ∧
      durationSeconds (toString num ++ String.ofList [kept]) = some (num * factor) := by
  have written : (toString num ++ String.ofList [kept]).toList = Nat.toDigits 10 num ++ [kept] := by
    rw [String.toList_append, Nat.toString_eq_repr, Nat.toList_repr, String.toList_ofList]
  have trimmed : Text.trim (toString num ++ String.ofList [kept]) =
      toString num ++ String.ofList [kept] := by
    apply Text.trim_eq_self
    · intro c first
      rw [written] at first
      obtain ⟨digit, digits, shape⟩ := List.exists_cons_of_ne_nil (Nat.toDigits_ne_nil
        (n := num) (b := 10))
      rw [shape, List.cons_append, List.head?_cons, Option.mem_some_iff] at first
      subst first
      apply Text.isWhitespace_of_isDigit
      exact Nat.isDigit_of_mem_toDigits (b := 10) (n := num) (by decide) (by decide) (by simp [shape])
    · intro c last
      rw [written, List.getLast?_concat, Option.mem_some_iff] at last
      rw [← last, visible]
  have shape : (Text.trim (toString num ++ String.ofList [kept])).toList =
      Nat.toDigits 10 num ++ [kept] := by rw [trimmed, written]
  refine ⟨(endsInByte_concat shape).mpr single, ?_⟩
  rw [durationSeconds_concat shape, secondsOf_some (Text.parseUnsigned_toDigits small) known]

theorem settingSecondsOf_kept {num count factor : Nat} {kept : Char}
    (parsed : parseU64 chars = some num) (found : keptUnit unit = some (count, kept))
    (known : unitFactor kept = some factor) :
    settingSecondsOf chars unit = some (num * count * factor) := by
  simp [settingSecondsOf, parsed, found, known]

/-- Only what ends within a character is not cut. -/
theorem endsInByte_of_parseTimeSpec (read : (Systemd.parseTimeSpec value).isSome) :
    EndsInByte value := by
  rcases List.eq_nil_or_concat (Text.trim value).toList with empty | ⟨chars, unit, shape⟩
  · simp [EndsInByte, empty]
  rw [List.concat_eq_append] at shape
  rw [endsInByte_concat shape]
  by_contra within
  rw [parseTimeSpec_within shape within] at read
  cases read

/-- The calendar words stand for durations that end with a whole character. -/
theorem endsInByte_calendar {duration : String}
    (word : Systemd.parseOnCalendar value = some duration) : EndsInByte duration := by
  have listed : ∃ entry ∈ Systemd.calendarWords, entry.2 = duration := by
    rw [Systemd.parseOnCalendar] at word
    dsimp only at word
    split at word
    · cases word
    · obtain ⟨entry, found, same⟩ := Option.map_eq_some_iff.mp word
      exact ⟨entry, List.mem_of_find?_eq_some found, same⟩
  obtain ⟨entry, inside, rfl⟩ := listed
  have whole : Systemd.calendarWords.all fun entry =>
      (Text.trim entry.2).toList.getLast?.all (·.utf8Size == 1) := by decide +kernel
  intro last isLast
  have single := List.all_eq_true.mp whole entry inside
  rw [Option.mem_def.mp isLast, Option.all_some] at single
  exact eq_of_beq single

/-- What is read of a setting stands for as many seconds as the setting. -/
theorem settingSeconds_read {duration : String}
    (read : Systemd.parseTimeSpec value = some (some duration)) :
    EndsInByte duration ∧ durationSeconds duration = settingSeconds value := by
  rcases List.eq_nil_or_concat (Text.trim value).toList with empty | ⟨chars, unit, shape⟩
  · rw [parseTimeSpec_blank empty] at read
    cases read
  rw [List.concat_eq_append] at shape
  by_cases single : unit.utf8Size = 1
  · rw [parseTimeSpec_concat shape single] at read
    rw [settingSeconds_concat shape]
    cases parsed : parseU64 chars with
    | none =>
        rw [parsed] at read
        cases read
    | some num =>
        rw [parsed, Option.map_some, Option.getD_some, keptDuration] at read
        cases found : keptUnit unit with
        | none =>
            simp only [found] at read
            split at read
            · cases read
            · rename_i other
              cases read
              have same : String.ofList (chars ++ [unit]) = Text.trim value := by
                rw [← shape, String.ofList_toList]
              have again : (Text.trim (String.ofList (chars ++ [unit]))).toList =
                  chars ++ [unit] := by rw [same, Text.trim_trim, shape]
              refine ⟨(endsInByte_concat again).mpr single, ?_⟩
              simp only [durationSeconds_concat again, settingSecondsOf, parsed, Option.bind_some,
                found, if_neg other]
        | some kept =>
            obtain ⟨count, kept⟩ := kept
            obtain ⟨⟨factor, -, known⟩, single', visible⟩ := keptUnit_known found
            simp only [found, Option.map_eq_some_iff] at read
            obtain ⟨product, fits, same⟩ := read
            cases same
            rw [mulU64, Option.ite_none_right_eq_some, Option.some_inj] at fits
            obtain ⟨small, rfl⟩ := fits
            have written := durationSeconds_written small known single' visible
            rwa [settingSecondsOf_kept parsed found known]
  · rw [parseTimeSpec_within shape single] at read
    cases read

/-- A setting that does not become longer than 64 bits in the end is read. -/
theorem parseTimeSpec_isSome (ends : EndsInByte value)
    (small : ∀ seconds, settingSeconds value = some seconds → seconds < 2 ^ 64) :
    (Systemd.parseTimeSpec value).isSome := by
  rcases List.eq_nil_or_concat (Text.trim value).toList with empty | ⟨chars, unit, shape⟩
  · rw [parseTimeSpec_blank empty]
    rfl
  rw [List.concat_eq_append] at shape
  rw [settingSeconds_concat shape] at small
  rw [parseTimeSpec_concat shape ((endsInByte_concat shape).mp ends)]
  cases parsed : parseU64 chars with
  | none => rfl
  | some num =>
      rw [Option.map_some, Option.getD_some, keptDuration]
      cases found : keptUnit unit with
      | none =>
          dsimp only
          split
          · rfl
          · rfl
      | some kept =>
          obtain ⟨count, kept⟩ := kept
          obtain ⟨⟨factor, positive, known⟩, -⟩ := keptUnit_known found
          have product := small _ (settingSecondsOf_kept parsed found known)
          have fits : num * count < 2 ^ 64 :=
            (Nat.le_mul_of_pos_right _ positive).trans_lt product
          simp only [mulU64, if_pos fits]
          rfl

/-- And what stands for a time is read as a duration. -/
theorem parseTimeSpec_of_settingSeconds {seconds : Nat}
    (read : (Systemd.parseTimeSpec value).isSome) (stands : settingSeconds value = some seconds) :
    ∃ duration, Systemd.parseTimeSpec value = some (some duration) := by
  rcases List.eq_nil_or_concat (Text.trim value).toList with empty | ⟨chars, unit, shape⟩
  · simp [settingSeconds, empty] at stands
  rw [List.concat_eq_append] at shape
  rw [settingSeconds_concat shape, settingSecondsOf, Option.bind_eq_some_iff] at stands
  obtain ⟨num, parsed, stands⟩ := stands
  by_cases single : unit.utf8Size = 1
  · rw [parseTimeSpec_concat shape single, parsed, Option.map_some, Option.getD_some,
      keptDuration] at read ⊢
    cases found : keptUnit unit with
    | none =>
        simp only [found] at stands ⊢
        split at stands
        · cases stands
        · rename_i other
          exact ⟨_, if_neg other⟩
    | some kept =>
        obtain ⟨count, kept⟩ := kept
        simp only [found, Option.isSome_map] at read ⊢
        obtain ⟨product, fits⟩ := Option.isSome_iff_exists.mp read
        exact ⟨_, by rw [fits, Option.map_some]⟩
  · rw [parseTimeSpec_within shape single] at read
    cases read

end Settings

end Rind
