import Mathlib.Algebra.Group.Int.Defs
import Rind.Data.Text
import Rind.Json.Text
import Mathlib.Data.List.TakeWhile

/-!
# Printing and parsing agree

Every value whose numbers are in printed form, whose objects are ordered and
whose nesting is within the parser's limit is read back from its compact text.
Conversely the parser only produces such values.
-/

namespace Rind.Json

/-! ## Strings -/

theorem hexValue_digitChar (value : Nat) (below : value < 16) :
    hexValue value.digitChar = some value := by
  have checked : ∀ value < 16, hexValue value.digitChar = some value := by decide
  exact checked value below

/-- A control character is read back from its `\u` escape. -/
theorem parseUnicode_control (c : Char) (control : c.toNat < 0x20) (rest : List Char) :
    parseUnicode ('0' :: '0' :: Nat.digitChar (c.toNat / 16) ::
      Nat.digitChar (c.toNat % 16) :: rest) = some (c, rest) := by
  have zero : hexValue '0' = some 0 := rfl
  have high := hexValue_digitChar (c.toNat / 16) (by omega)
  have low := hexValue_digitChar (c.toNat % 16) (Nat.mod_lt _ (by decide))
  have value : ((0 * 16 + 0) * 16 + c.toNat / 16) * 16 + c.toNat % 16 = c.toNat := by omega
  have notHigh : ¬(0xD800 ≤ c.toNat ∧ c.toNat < 0xDC00) := by omega
  have notLow : ¬(0xDC00 ≤ c.toNat ∧ c.toNat < 0xE000) := by omega
  simp only [parseUnicode, parseHex4, zero, high, low, Option.bind_eq_bind, Option.bind_some,
    value, if_neg notHigh, if_neg notLow, Char.ofNat_toNat]

/-- Reading one printed character of a string. -/
theorem parseChars_escapeChar (fuel : Nat) (c : Char) (rest : List Char) :
    parseChars (fuel + 1) (escapeChar c ++ rest) =
      (parseChars fuel rest).map fun result => (c :: result.1, result.2) := by
  unfold escapeChar
  split
  · subst c; rfl
  split
  · subst c; rfl
  split
  · subst c; rfl
  split
  · subst c; rfl
  split
  · subst c; rfl
  split
  · subst c; rfl
  split
  · subst c; rfl
  split
  · rename_i control
    have unicode := parseUnicode_control c control rest
    simp only [List.cons_append, List.nil_append, parseChars, unicode]
    rfl
  · rename_i notQuote notBackslash _ _ _ _ _ notControl
    simp only [List.cons_append, List.nil_append, parseChars, if_neg notQuote,
      if_neg notBackslash, if_neg notControl]

theorem parseChars_escaped {fuel : Nat} {chars : List Char} (enough : chars.length < fuel)
    (rest : List Char) :
    parseChars fuel (chars.flatMap escapeChar ++ '"' :: rest) = some (chars, rest) := by
  induction chars generalizing fuel with
  | nil =>
      cases fuel with
      | zero => contradiction
      | succ fuel => rfl
  | cons c chars ih =>
      cases fuel with
      | zero => contradiction
      | succ fuel =>
          rw [List.flatMap_cons, List.append_assoc, parseChars_escapeChar,
            ih (by simpa using enough), Option.map_some]

theorem length_le_flatMap_escapeChar (chars : List Char) :
    chars.length ≤ (chars.flatMap escapeChar).length := by
  induction chars with
  | nil => simp
  | cons c chars ih =>
      have one : 1 ≤ (escapeChar c).length := by
        unfold escapeChar
        repeat' split
        all_goals simp
      rw [List.flatMap_cons, List.length_append, List.length_cons]
      omega

theorem parseString_quote (text : String) (rest : List Char) :
    parseString (quote text ++ rest) = some (text, rest) := by
  have enough : text.toList.length <
      (text.toList.flatMap escapeChar ++ '"' :: rest).length + 1 := by
    have escaped := length_le_flatMap_escapeChar text.toList
    rw [List.length_append]
    omega
  have read := parseChars_escaped enough rest
  simp only [quote, List.cons_append, List.append_assoc, List.nil_append, parseString]
  rw [read, Option.map_some, String.ofList_toList]

/-! ## Numbers -/

/-- A number in the form the printer gives it and the parser reads back. -/
def Number.Printed (value : Number) : Prop :=
  value.render.all isNumberChar ∧ numberOf value.render = some value

instance (value : Number) : Decidable value.Printed := inferInstanceAs (Decidable (_ ∧ _))

/-- The rest of the input does not continue a number. -/
def EndsNumber (rest : List Char) : Prop := ∀ c tail, rest = c :: tail → isNumberChar c = false

theorem takeWhile_append_of_endsNumber {token rest : List Char}
    (number : token.all isNumberChar) (ends : EndsNumber rest) :
    (token ++ rest).takeWhile isNumberChar = token ∧
      (token ++ rest).dropWhile isNumberChar = rest := by
  induction token with
  | nil =>
      cases rest with
      | nil => simp
      | cons c tail => simp [ends c tail rfl]
  | cons c token ih =>
      rw [List.all_cons, Bool.and_eq_true] at number
      obtain ⟨taken, dropped⟩ := ih number.2
      simp [number.1, taken, dropped]

theorem parseNumber_render {value : Number} (printed : value.Printed) {rest : List Char}
    (ends : EndsNumber rest) :
    parseNumber (value.render ++ rest) = some (.num value, rest) := by
  obtain ⟨taken, dropped⟩ := takeWhile_append_of_endsNumber printed.1 ends
  rw [parseNumber, taken, dropped, printed.2, Option.map_some]

/-- The digits of a positive number start with a nonzero one. -/
theorem head_toDigits {value : Nat} (positive : 0 < value) :
    ∃ first rest, Nat.toDigits 10 value = first :: rest ∧ first ≠ '0' := by
  induction value using Nat.strongRecOn with
  | ind value ih =>
      rw [Nat.toDigits_eq_if (by decide)]
      split
      · exact ⟨_, [], rfl, by simpa using Nat.ne_of_gt positive⟩
      · obtain ⟨first, rest, digits, nonzero⟩ :=
          ih (value / 10) (by omega) (by omega)
        exact ⟨first, rest ++ [Nat.digitChar (value % 10)], by simp [digits], nonzero⟩

theorem isNatural_toDigits (value : Nat) : isNatural (Nat.toDigits 10 value) = true := by
  rcases Nat.eq_zero_or_pos value with rfl | positive
  · rfl
  · obtain ⟨first, rest, digits, nonzero⟩ := head_toDigits positive
    have all := Text.all_isDigit_toDigits value
    rw [digits, List.all_cons, Bool.and_eq_true] at all
    rw [digits, isNatural]
    · simp [nonzero, all.1, all.2]
    · rintro rfl
      exact absurd rfl nonzero

theorem takeWhile_isDigit_toDigits (value : Nat) :
    (Nat.toDigits 10 value).takeWhile Char.isDigit = Nat.toDigits 10 value ∧
      (Nat.toDigits 10 value).dropWhile Char.isDigit = [] := by
  have all := List.all_eq_true.mp (Text.all_isDigit_toDigits value)
  exact ⟨List.takeWhile_eq_self_iff.mpr all, List.dropWhile_eq_nil_iff.mpr all⟩

theorem isNumberChar_of_isDigit {c : Char} (digit : c.isDigit) : isNumberChar c := by
  simp [isNumberChar, digit]

/-- The token of a negative integer that fits in 64 bits denotes it. -/
theorem numberOfUnsigned_negative (token : List Char) {value : Nat} (positive : 0 < value)
    (bounded : value ≤ 2 ^ 63) :
    numberOfUnsigned token true (Nat.toDigits 10 value) = some (.int (-value)) := by
  obtain ⟨taken, dropped⟩ := takeWhile_isDigit_toDigits value
  simp only [numberOfUnsigned, taken, dropped, isNatural_toDigits, Nat.ofDigitChars_ten_toDigits,
    decide_eq_true positive, decide_eq_true bounded]
  rfl

/-- The token of a natural number that fits in 64 bits denotes it. -/
theorem numberOfUnsigned_natural (token : List Char) {value : Nat} (bounded : value < 2 ^ 64) :
    numberOfUnsigned token false (Nat.toDigits 10 value) = some (.int value) := by
  obtain ⟨taken, dropped⟩ := takeWhile_isDigit_toDigits value
  simp only [numberOfUnsigned, taken, dropped, isNatural_toDigits, Nat.ofDigitChars_ten_toDigits,
    decide_eq_true bounded]
  rfl

/-- Every integer that fits in 64 bits is in printed form. -/
theorem Number.int_printed {value : Int} (low : -(2 ^ 63) ≤ value) (high : value < 2 ^ 64) :
    (Number.int value).Printed := by
  have digits : ∀ c ∈ Nat.toDigits 10 value.natAbs, isNumberChar c := fun c member =>
    isNumberChar_of_isDigit (List.all_eq_true.mp (Text.all_isDigit_toDigits _) c member)
  by_cases negative : value < 0
  · constructor
    · simp only [render, if_pos negative, List.all_cons, Bool.and_eq_true]
      exact ⟨rfl, List.all_eq_true.mpr digits⟩
    · have magnitude : -(value.natAbs : Int) = value := by omega
      rw [render, if_pos negative, numberOf,
        numberOfUnsigned_negative _ (by omega) (by omega), magnitude]
  · constructor
    · simp only [render, if_neg negative]
      exact List.all_eq_true.mpr digits
    · have magnitude : (value.natAbs : Int) = value := by omega
      have unsigned : numberOf (Nat.toDigits 10 value.natAbs) =
          numberOfUnsigned (Nat.toDigits 10 value.natAbs) false
            (Nat.toDigits 10 value.natAbs) := by
        rw [numberOf]
        intro rest minus
        have digit := Text.all_isDigit_toDigits value.natAbs
        rw [minus] at digit
        simp at digit
      rw [render, if_neg negative, unsigned, numberOfUnsigned_natural _ (by omega), magnitude]

/-! ## Blanks -/

/-- The text starts with a character that is no blank. -/
def NoBlank (input : List Char) : Prop := ∀ c tail, input = c :: tail → isBlank c = false

theorem skipBlanks_of_noBlank {input : List Char} (noBlank : NoBlank input) :
    skipBlanks input = input := by
  cases input with
  | nil => rfl
  | cons c tail => simp [skipBlanks, noBlank c tail rfl]

theorem noBlank_quote (text : String) (rest : List Char) : NoBlank (quote text ++ rest) := by
  intro c tail equal
  cases equal
  rfl

/-- A number prints at least one character, and only characters of numbers. -/
theorem Number.Printed.render_eq_cons {value : Number} (printed : value.Printed) :
    ∃ c tail, value.render = c :: tail ∧ isNumberChar c := by
  cases rendered : value.render with
  | nil =>
      have read := printed.2
      rw [rendered] at read
      contradiction
  | cons c tail =>
      have number := printed.1
      rw [rendered, List.all_cons, Bool.and_eq_true] at number
      exact ⟨c, tail, rfl, number.1⟩

/-- A number starts with neither a blank nor a closing bracket. -/
theorem isBlank_of_isNumberChar {c : Char} (number : isNumberChar c) :
    isBlank c = false ∧ c ≠ ']' := by
  constructor
  · cases blank : isBlank c with
    | false => rfl
    | true =>
        simp only [isBlank, Bool.or_eq_true, decide_eq_true_eq] at blank
        rcases blank with ((rfl | rfl) | rfl) | rfl <;> simp [isNumberChar] at number
  · rintro rfl
    simp [isNumberChar] at number

theorem render_eq_cons {value : Json} (regular : Regular Number.Printed value) :
    ∃ c tail, render value = c :: tail ∧ isBlank c = false ∧ c ≠ ']' := by
  cases value with
  | num value =>
      obtain ⟨c, tail, rendered, number⟩ := Number.Printed.render_eq_cons regular
      obtain ⟨noBlank, noClose⟩ := isBlank_of_isNumberChar number
      exact ⟨c, tail, rendered, noBlank, noClose⟩
  | null => exact ⟨_, _, rfl, rfl, by decide⟩
  | bool value => cases value <;> exact ⟨_, _, rfl, rfl, by decide⟩
  | str text => exact ⟨_, _, rfl, rfl, by decide⟩
  | arr items => cases items <;> exact ⟨_, _, rfl, rfl, by decide⟩
  | obj fields => cases fields <;> exact ⟨_, _, rfl, rfl, by decide⟩

theorem noBlank_render {value : Json} (regular : Regular Number.Printed value)
    (rest : List Char) : NoBlank (render value ++ rest) := by
  obtain ⟨c, tail, rendered, noBlank, -⟩ := render_eq_cons regular
  rw [rendered]
  intro c' tail' equal
  cases equal
  exact noBlank

/-- After a value comes a separator or a closing bracket, never more of it. -/
theorem endsNumber_renderItems (items : List Json) (rest : List Char) :
    EndsNumber (renderItems items ++ rest) := by
  cases items <;> (rintro c tail ⟨⟩; rfl)

theorem endsNumber_renderFields (fields : List (String × Json)) (rest : List Char) :
    EndsNumber (renderFields fields ++ rest) := by
  cases fields <;> (rintro c tail ⟨⟩; rfl)

theorem length_lt_renderItems (items : List Json) : items.length < (renderItems items).length := by
  induction items with
  | nil => simp [renderItems]
  | cons item rest ih =>
      simp only [renderItems, List.length_cons, List.length_append]
      omega

theorem length_lt_renderFields (fields : List (String × Json)) :
    fields.length < (renderFields fields).length := by
  induction fields with
  | nil => simp [renderFields]
  | cons member rest ih =>
      simp only [renderFields, List.length_cons, List.length_append]
      omega

/-! ## Objects -/

/-- Inserting a key above all others appends it. -/
theorem insert_above {fields : List (String × Json)} {key : String} (value : Json)
    (above : ∀ member ∈ fields, member.1 < key) :
    OrderedFields.insert key value fields = fields ++ [(key, value)] := by
  induction fields with
  | nil => rfl
  | cons member rest ih =>
      have below := above member (by simp)
      rw [OrderedFields.insert, if_neg (not_lt_of_gt below), if_neg (ne_of_gt below),
        ih fun other inside => above other (by simp [inside]), List.cons_append]

theorem foldl_insert_ordered {done fields : List (String × Json)}
    (ordered : OrderedFields.Ordered (done ++ fields)) :
    fields.foldl (fun fields member => OrderedFields.insert member.1 member.2 fields) done =
      done ++ fields := by
  induction fields generalizing done with
  | nil => simp
  | cons member rest ih =>
      have above : ∀ other ∈ done, other.1 < member.1 := by
        intro other inside
        exact (List.pairwise_append.mp ordered).2.2 other inside member (by simp)
      rw [List.foldl_cons, insert_above member.2 above]
      have grown : OrderedFields.Ordered ((done ++ [member]) ++ rest) := by simpa using ordered
      simpa using ih grown

/-- Collecting the members of an ordered map gives the map. -/
theorem collect_ordered {fields : List (String × Json)}
    (ordered : OrderedFields.Ordered fields) : collect fields = fields :=
  @foldl_insert_ordered [] fields ordered

/-! ## Values -/

theorem parseMember_render {value : Parser Json} (key : String) {held : Json}
    (regular : Regular Number.Printed held) {rest : List Char}
    (read : value (render held ++ rest) = some (held, rest)) :
    parseMember value (quote key ++ ':' :: (render held ++ rest)) =
      some ((key, held), rest) := by
  have colon : skipBlanks (':' :: (render held ++ rest)) = ':' :: (render held ++ rest) := rfl
  simp only [parseMember, skipBlanks_of_noBlank (noBlank_quote _ _), parseString_quote,
    Option.bind_eq_bind, Option.bind_some, colon,
    skipBlanks_of_noBlank (noBlank_render regular rest), read]

theorem parseScalar_number {value : Number} (printed : value.Printed) {rest : List Char}
    (ends : EndsNumber rest) :
    parseScalar (value.render ++ rest) = some (.num value, rest) := by
  obtain ⟨c, tail, rendered, number⟩ := printed.render_eq_cons
  have read := parseNumber_render printed ends
  rw [rendered, List.cons_append] at read ⊢
  unfold parseScalar
  split
  all_goals first
    | exact read
    | (rename_i equal; injection equal with head _; subst head; contradiction)

theorem parseValue_eq_parseScalar {nesting : Nat} {c : Char} {tail : List Char}
    (notArray : c ≠ '[') (notObject : c ≠ '{') :
    parseValue nesting (c :: tail) = parseScalar (c :: tail) := by
  cases nesting with
  | zero => rfl
  | succ nesting =>
      unfold parseValue
      split
      all_goals first
        | rfl
        | (rename_i equal; cases equal; contradiction)

theorem parseArray_render {value : Parser Json} {item : Json} {items : List Json}
    (regular : Regular Number.Printed item) {rest rest' : List Char}
    (first : value (render item ++ rest) = some (item, rest))
    (others : parseItems value (rest.length + 1) rest = some (items, rest')) :
    parseArray value (render item ++ rest) = some (.arr (item :: items), rest') := by
  rw [parseArray, skipBlanks_of_noBlank (noBlank_render regular rest)]
  split
  · rename_i tail equal
    obtain ⟨c, tail', rendered, -, noClose⟩ := render_eq_cons regular
    rw [rendered, List.cons_append] at equal
    injection equal with head _
    exact absurd head noClose
  · simp only [first, others, Option.bind_eq_bind, Option.bind_some]

theorem parseObject_render {value : Parser Json} {key : String} {held : Json}
    {fields : List (String × Json)} (regular : Regular Number.Printed held)
    (ordered : OrderedFields.Ordered ((key, held) :: fields)) {rest rest' : List Char}
    (first : value (render held ++ rest) = some (held, rest))
    (others : parseFields value (rest.length + 1) rest = some (fields, rest')) :
    parseObject value (quote key ++ ':' :: (render held ++ rest)) =
      some (.obj ((key, held) :: fields), rest') := by
  rw [parseObject, skipBlanks_of_noBlank (noBlank_quote key _)]
  split
  · rename_i tail equal
    rw [quote, List.cons_append] at equal
    injection equal with head _
    exact absurd head (by decide)
  · simp only [parseMember_render _ regular first, others, Option.bind_eq_bind, Option.bind_some,
      collect_ordered ordered]

mutual
/-- A printed value is read back, whatever text follows it. -/
theorem parseValue_render (value : Json) {nesting : Nat} {rest : List Char}
    (shallow : value.depth ≤ nesting) (regular : Regular Number.Printed value)
    (ends : EndsNumber rest) :
    parseValue nesting (render value ++ rest) = some (value, rest) := by
  cases value with
  | null => cases nesting <;> rfl
  | bool value => cases value <;> cases nesting <;> rfl
  | num value =>
      obtain ⟨c, tail, rendered, number⟩ := Number.Printed.render_eq_cons regular
      have read := parseScalar_number regular ends
      rw [render]
      rw [rendered, List.cons_append] at read ⊢
      rw [parseValue_eq_parseScalar _ _, read]
      · rintro rfl; contradiction
      · rintro rfl; contradiction
  | str text =>
      have read := parseString_quote text rest
      rw [render]
      simp only [quote, List.cons_append] at read ⊢
      rw [parseValue_eq_parseScalar (by decide) (by decide), parseScalar, read]
      rfl
  | arr items =>
      cases nesting with
      | zero => simp [depth] at shallow
      | succ nesting =>
          cases items with
          | nil => rfl
          | cons item items =>
              simp only [depth, Nat.add_le_add_iff_right, depthItems, max_le_iff] at shallow
              have first := parseValue_render item shallow.1 regular.1
                (endsNumber_renderItems items rest)
              have others := parseItems_render items shallow.2 regular.2 rest
                ((renderItems items ++ rest).length + 1) (by
                  have short := length_lt_renderItems items
                  rw [List.length_append]
                  omega)
              simp only [render, List.cons_append, List.append_assoc, parseValue]
              exact parseArray_render regular.1 first others
  | obj fields =>
      cases nesting with
      | zero => simp [depth] at shallow
      | succ nesting =>
          cases fields with
          | nil => rfl
          | cons member fields =>
              simp only [depth, Nat.add_le_add_iff_right, depthFields, max_le_iff] at shallow
              obtain ⟨ordered, memberRegular, fieldsRegular⟩ := regular
              have first := parseValue_render member.2 shallow.1 memberRegular
                (endsNumber_renderFields fields rest)
              have others := parseFields_render fields shallow.2 fieldsRegular rest
                ((renderFields fields ++ rest).length + 1) (by
                  have short := length_lt_renderFields fields
                  rw [List.length_append]
                  omega)
              simp only [render, List.cons_append, List.append_assoc, parseValue]
              exact parseObject_render memberRegular ordered first others

/-- The remaining items of a printed array are read back. -/
theorem parseItems_render (items : List Json) {nesting : Nat}
    (shallow : depthItems items ≤ nesting) (regular : RegularItems Number.Printed items)
    (rest : List Char) :
    ∀ fuel > items.length,
      parseItems (parseValue nesting) fuel (renderItems items ++ rest) = some (items, rest) := by
  cases items with
  | nil =>
      intro fuel enough
      cases fuel with
      | zero => contradiction
      | succ fuel => rfl
  | cons item items =>
      intro fuel enough
      cases fuel with
      | zero => contradiction
      | succ fuel =>
          simp only [depthItems, max_le_iff] at shallow
          have first := parseValue_render item shallow.1 regular.1
            (endsNumber_renderItems items rest)
          have others := parseItems_render items shallow.2 regular.2 rest fuel
            (by simpa using enough)
          have comma : skipBlanks (',' :: (render item ++ (renderItems items ++ rest))) =
              ',' :: (render item ++ (renderItems items ++ rest)) := rfl
          simp only [renderItems, List.cons_append, List.append_assoc, parseItems, comma,
            skipBlanks_of_noBlank (noBlank_render regular.1 _), first, others,
            Option.bind_eq_bind, Option.bind_some]

/-- The remaining members of a printed object are read back. -/
theorem parseFields_render (fields : List (String × Json)) {nesting : Nat}
    (shallow : depthFields fields ≤ nesting) (regular : RegularFields Number.Printed fields)
    (rest : List Char) :
    ∀ fuel > fields.length,
      parseFields (parseValue nesting) fuel (renderFields fields ++ rest) =
        some (fields, rest) := by
  cases fields with
  | nil =>
      intro fuel enough
      cases fuel with
      | zero => contradiction
      | succ fuel => rfl
  | cons member fields =>
      intro fuel enough
      cases fuel with
      | zero => contradiction
      | succ fuel =>
          simp only [depthFields, max_le_iff] at shallow
          have first := parseValue_render member.2 shallow.1 regular.1
            (endsNumber_renderFields fields rest)
          have others := parseFields_render fields shallow.2 regular.2 rest fuel
            (by simpa using enough)
          have whole := parseMember_render member.1 regular.1 first
          have comma : skipBlanks (',' :: (quote member.1 ++
              ':' :: (render member.2 ++ (renderFields fields ++ rest)))) =
              ',' :: (quote member.1 ++
                ':' :: (render member.2 ++ (renderFields fields ++ rest))) := rfl
          simp only [renderFields, List.cons_append, List.append_assoc, parseFields, comma,
            whole, others, Option.bind_eq_bind, Option.bind_some]
end

/-- Printing and parsing agree on every printed-form value within the nesting
limit. -/
theorem parse_render {value : Json} {nesting : Nat} (shallow : value.depth ≤ nesting)
    (regular : Regular Number.Printed value) :
    parse nesting (render value) = some value := by
  have ends : EndsNumber [] := fun _ _ same => nomatch same
  have read := parseValue_render value shallow regular ends
  have noBlank := noBlank_render regular []
  rw [List.append_nil] at read noBlank
  rw [parse, skipBlanks_of_noBlank noBlank, read]
  rfl

/-! ## Parsed values are in printed form -/

theorem numberOfUnsigned_cases {token unsigned : List Char} {negative : Bool} {value : Number}
    (read : numberOfUnsigned token negative unsigned = some value) :
    value.Printed ∨ value = .float (String.ofList token) := by
  simp only [numberOfUnsigned] at read
  split at read
  · contradiction
  · split at read
    · rename_i _ isInt
      simp only [Bool.and_eq_true, decide_eq_true_eq] at isInt
      cases read
      exact .inl (Number.int_printed (by omega) (by omega))
    · split at read
      · rename_i _ _ isInt
        simp only [Bool.and_eq_true, decide_eq_true_eq] at isInt
        cases read
        exact .inl (Number.int_printed (by omega) (by omega))
      · cases read
        exact .inr rfl

theorem numberOf_printed {token : List Char} {value : Number} (number : token.all isNumberChar)
    (read : numberOf token = some value) : value.Printed := by
  have either : value.Printed ∨ value = .float (String.ofList token) := by
    unfold numberOf at read
    split at read <;> exact numberOfUnsigned_cases read
  rcases either with printed | rfl
  · exact printed
  · have rendered : (Number.float (String.ofList token)).render = token := String.toList_ofList
    exact ⟨by rw [rendered]; exact number, by rw [rendered]; exact read⟩

theorem parseScalar_regular {input rest : List Char} {value : Json}
    (read : parseScalar input = some (value, rest)) :
    value.depth = 0 ∧ Regular Number.Printed value := by
  unfold parseScalar at read
  split at read
  · cases read; exact ⟨rfl, trivial⟩
  · cases read; exact ⟨rfl, trivial⟩
  · cases read; exact ⟨rfl, trivial⟩
  · obtain ⟨result, -, equal⟩ := Option.map_eq_some_iff.mp read
    cases equal
    exact ⟨rfl, trivial⟩
  · obtain ⟨number, numberRead, equal⟩ := Option.map_eq_some_iff.mp read
    cases equal
    exact ⟨rfl, numberOf_printed List.all_takeWhile numberRead⟩

section Collections

variable {good : Json → Prop} {value : Parser Json}

theorem parseItems_good
    (each : ∀ input item rest, value input = some (item, rest) → good item)
    {fuel : Nat} {input rest : List Char} {items : List Json}
    (read : parseItems value fuel input = some (items, rest)) : ∀ item ∈ items, good item := by
  induction fuel generalizing input items with
  | zero => contradiction
  | succ fuel ih =>
      rw [parseItems] at read
      split at read
      · cases read
        simp
      · simp only [Option.bind_eq_bind, Option.bind_eq_some_iff] at read
        obtain ⟨first, firstRead, others, othersRead, equal⟩ := read
        cases equal
        simpa using ⟨each _ _ _ firstRead, ih othersRead⟩
      · contradiction

theorem parseMember_good
    (each : ∀ input item rest, value input = some (item, rest) → good item)
    {input rest : List Char} {member : String × Json}
    (read : parseMember value input = some (member, rest)) : good member.2 := by
  simp only [parseMember, Option.bind_eq_bind, Option.bind_eq_some_iff] at read
  obtain ⟨key, -, read⟩ := read
  split at read
  · simp only [Option.bind_eq_some_iff] at read
    obtain ⟨held, heldRead, equal⟩ := read
    cases equal
    exact each _ _ _ heldRead
  · contradiction

theorem parseFields_good
    (each : ∀ input item rest, value input = some (item, rest) → good item)
    {fuel : Nat} {input rest : List Char} {members : List (String × Json)}
    (read : parseFields value fuel input = some (members, rest)) :
    ∀ member ∈ members, good member.2 := by
  induction fuel generalizing input members with
  | zero => contradiction
  | succ fuel ih =>
      rw [parseFields] at read
      split at read
      · cases read
        simp
      · simp only [Option.bind_eq_bind, Option.bind_eq_some_iff] at read
        obtain ⟨first, firstRead, others, othersRead, equal⟩ := read
        cases equal
        intro member inside
        rcases List.mem_cons.mp inside with rfl | inside
        · exact parseMember_good each firstRead
        · exact ih othersRead member inside
      · contradiction

theorem foldl_insert_invariant {done members : List (String × Json)}
    (ordered : OrderedFields.Ordered done) (doneGood : ∀ member ∈ done, good member.2)
    (membersGood : ∀ member ∈ members, good member.2) :
    let fields := members.foldl
      (fun fields member => OrderedFields.insert member.1 member.2 fields) done
    OrderedFields.Ordered fields ∧ ∀ member ∈ fields, good member.2 := by
  induction members generalizing done with
  | nil => exact ⟨ordered, doneGood⟩
  | cons member rest ih =>
      refine ih (ordered.insert member.1 member.2) ?_ fun other inside =>
        membersGood other (by simp [inside])
      intro other inside
      rcases OrderedFields.mem_insert inside with rfl | old
      · exact membersGood member (by simp)
      · exact doneGood other old

theorem collect_good (good : Json → Prop) {members : List (String × Json)}
    (each : ∀ member ∈ members, good member.2) :
    OrderedFields.Ordered (collect members) ∧ ∀ member ∈ collect members, good member.2 :=
  @foldl_insert_invariant good [] members .nil (by simp) each

end Collections

/-- A parsed value is within the nesting limit, with ordered objects and
numbers in printed form. -/
theorem parseValue_regular {nesting : Nat} {input rest : List Char} {value : Json}
    (read : parseValue nesting input = some (value, rest)) :
    value.depth ≤ nesting ∧ Regular Number.Printed value := by
  induction nesting generalizing input rest value with
  | zero =>
      obtain ⟨flat, regular⟩ := parseScalar_regular read
      exact ⟨Nat.le_of_eq flat, regular⟩
  | succ nesting ih =>
      have each : ∀ input item rest, parseValue nesting input = some (item, rest) →
          item.depth ≤ nesting ∧ Regular Number.Printed item := fun _ _ _ itemRead => ih itemRead
      simp only [parseValue] at read
      split at read
      · rw [parseArray] at read
        split at read
        · cases read
          exact ⟨by simp [depth, depthItems], trivial⟩
        · simp only [Option.bind_eq_bind, Option.bind_eq_some_iff] at read
          obtain ⟨first, firstRead, others, othersRead, equal⟩ := read
          cases equal
          have all := parseItems_good each othersRead
          have head := each _ _ _ firstRead
          refine ⟨?_, head.2, regularItems_iff.mpr fun item inside => (all item inside).2⟩
          simp only [depth, depthItems, Nat.add_le_add_iff_right, max_le_iff]
          exact ⟨head.1, depthItems_le.mpr fun item inside => (all item inside).1⟩
      · rw [parseObject] at read
        split at read
        · cases read
          exact ⟨by simp [depth, depthFields], .nil, trivial⟩
        · simp only [Option.bind_eq_bind, Option.bind_eq_some_iff] at read
          obtain ⟨first, firstRead, others, othersRead, equal⟩ := read
          cases equal
          have all : ∀ member ∈ first.1 :: others.1,
              member.2.depth ≤ nesting ∧ Regular Number.Printed member.2 := by
            intro member inside
            rcases List.mem_cons.mp inside with rfl | inside
            · exact parseMember_good each firstRead
            · exact parseFields_good each othersRead member inside
          obtain ⟨ordered, good⟩ :=
            collect_good (fun item => item.depth ≤ nesting ∧ Regular Number.Printed item) all
          refine ⟨?_, ordered, regularFields_iff.mpr fun member inside => (good member inside).2⟩
          simp only [depth, Nat.add_le_add_iff_right]
          exact depthFields_le.mpr fun member inside => (good member inside).1
      · obtain ⟨flat, regular⟩ := parseScalar_regular read
        exact ⟨by omega, regular⟩

theorem parse_regular {nesting : Nat} {input : List Char} {value : Json}
    (read : parse nesting input = some value) :
    value.depth ≤ nesting ∧ Regular Number.Printed value := by
  rw [parse] at read
  split at read
  · rename_i found rest valueRead
    split at read
    · cases read
      exact parseValue_regular valueRead
    · contradiction
  · contradiction

end Rind.Json
