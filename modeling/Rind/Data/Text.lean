import Mathlib.Algebra.Group.Nat.Defs
import Mathlib.Data.List.Infix
import Mathlib.Data.List.TakeWhile

/-!
# String operations

The standard-library operations on strings and bytes that the models use,
written over lists of characters so that they evaluate.
-/

namespace Rind.Text

/-- The text before and after the first `separator`. -/
def splitOnce (separator : Char) (text : String) : Option (String × String) :=
  match text.toList.dropWhile (· != separator) with
  | [] => none
  | _ :: after =>
      some (String.ofList (text.toList.takeWhile (· != separator)), String.ofList after)

/-- A text without the separator is not split. -/
theorem splitOnce_of_notMem {separator : Char} {text : String}
    (free : separator ∉ text.toList) : splitOnce separator text = none := by
  have dropped : text.toList.dropWhile (· != separator) = [] := by
    rw [List.dropWhile_eq_nil_iff]
    intro c listed
    rw [bne_iff_ne]
    rintro rfl
    exact free listed
  rw [splitOnce, dropped]

/-- The part before the separator is without it, and so is a text that is not split. -/
theorem notMem_splitOnce (separator : Char) (text : String) :
    match splitOnce separator text with
    | some (before, _) => separator ∉ before.toList
    | none => separator ∉ text.toList := by
  rw [splitOnce]
  cases dropped : text.toList.dropWhile (· != separator) with
  | nil =>
      intro listed
      simpa using List.dropWhile_eq_nil_iff.mp dropped separator listed
  | cons first rest =>
      intro listed
      rw [String.toList_ofList] at listed
      simpa using List.mem_takeWhile_imp listed

/-- A text is split at the separator that comes after a part without it. -/
theorem splitOnce_of_append {separator : Char} {text before : String} {after : List Char}
    (free : separator ∉ before.toList) (whole : text.toList = before.toList ++ separator :: after) :
    splitOnce separator text = some (before, String.ofList after) := by
  have passes : ∀ c ∈ before.toList, (c != separator) = true := by
    intro c listed
    rw [bne_iff_ne]
    rintro rfl
    exact free listed
  rw [splitOnce, whole, List.dropWhile_append_of_pos passes, List.takeWhile_append_of_pos passes]
  simp

/-- The text before and after the last `separator`. -/
def rsplitOnce (separator : Char) (text : String) : Option (String × String) :=
  match text.toList.reverse.dropWhile (· != separator) with
  | [] => none
  | _ :: before =>
      some (String.ofList before.reverse,
        String.ofList (text.toList.reverse.takeWhile (· != separator)).reverse)

theorem rsplitOnce_of_append {separator : Char} {text : String} {before after : List Char}
    (whole : text.toList = before ++ separator :: after) (last : separator ∉ after) :
    rsplitOnce separator text = some (String.ofList before, String.ofList after) := by
  have reversed : text.toList.reverse = after.reverse ++ separator :: before.reverse := by
    simp [whole]
  have stops : ∀ c ∈ after.reverse, (c != separator) = true := by
    intro c listed
    rw [bne_iff_ne]
    rintro rfl
    exact last (List.mem_reverse.mp listed)
  rw [rsplitOnce, reversed, List.dropWhile_append_of_pos stops, List.takeWhile_append_of_pos stops]
  simp

/-- The pieces of a text between separators. -/
def split (separator : Char) (text : String) : List String :=
  (text.toList.splitOn separator).map String.ofList

/-- What is between separators has the elements of the whole that are none. -/
theorem mem_of_mem_splitOnP {p : Char → Bool} {chars piece : List Char}
    (split : piece ∈ chars.splitOnP p) : ∀ c ∈ piece, c ∈ chars ∧ p c = false := by
  induction chars generalizing piece with
  | nil =>
      rw [List.splitOnP_nil, List.mem_singleton] at split
      subst split
      simp
  | cons first rest ih =>
      rw [List.splitOnP_cons_eq_if_modifyHead] at split
      split at split
      · rw [List.mem_cons] at split
        obtain rfl | split := split
        · simp
        · intro c inside
          exact ⟨List.mem_cons_of_mem _ (ih split c inside).1, (ih split c inside).2⟩
      · rename_i kept
        obtain ⟨head, tail, whole⟩ := List.exists_cons_of_ne_nil (List.splitOnP_ne_nil p rest)
        rw [whole, List.modifyHead_cons, List.mem_cons] at split
        intro c inside
        obtain rfl | split := split
        · rw [List.mem_cons] at inside
          obtain rfl | inside := inside
          · exact ⟨List.mem_cons_self, Bool.not_eq_true _ ▸ kept⟩
          · have from_ := ih (whole ▸ List.mem_cons_self) c inside
            exact ⟨List.mem_cons_of_mem _ from_.1, from_.2⟩
        · have from_ := ih (whole ▸ List.mem_cons_of_mem _ split) c inside
          exact ⟨List.mem_cons_of_mem _ from_.1, from_.2⟩

/-- The pieces of a text have its characters, without the separator. -/
theorem mem_of_mem_split {separator : Char} {text piece : String}
    (piece_mem : piece ∈ split separator text) :
    separator ∉ piece.toList ∧ ∀ c ∈ piece.toList, c ∈ text.toList := by
  rw [split, List.mem_map] at piece_mem
  obtain ⟨chars, chars_mem, rfl⟩ := piece_mem
  rw [String.toList_ofList]
  constructor
  · intro inside
    exact absurd (mem_of_mem_splitOnP chars_mem _ inside).2 (by simp)
  · intro c inside
    exact (mem_of_mem_splitOnP chars_mem c inside).1

/-- A text of two pieces. -/
theorem split_pair {separator : Char} {text first second : String}
    (firstFree : separator ∉ first.toList) (secondFree : separator ∉ second.toList)
    (whole : text.toList = first.toList ++ separator :: second.toList) :
    split separator text = [first, second] := by
  have passes {piece : String} (free : separator ∉ piece.toList) :
      ∀ c ∈ piece.toList, (c == separator) = false := by
    intro c inside
    rw [beq_eq_false_iff_ne]
    rintro rfl
    exact free inside
  rw [split, whole, List.splitOn_eq_splitOnP,
    List.splitOnP_append_cons_of_forall_mem (passes firstFree) _ (beq_self_eq_true separator),
    List.splitOnP_eq_singleton (passes secondFree)]
  simp

/-- What is joined is split again, where no piece holds the separator. -/
theorem split_intercalate (separator : Char) {names : List String} (some_ : names ≠ [])
    (free : ∀ name ∈ names, separator ∉ name.toList) :
    split separator ((String.singleton separator).intercalate names) = names := by
  rw [split, String.toList_intercalate, String.toList_singleton,
    List.splitOn_intercalate _ _ (by simpa using some_)]
  · simp
  · simpa using free

/-- The pieces of a text between separators, the last of at most `count` pieces
being all that is left. -/
def splitn (separator : Char) (text : String) : (count : Nat) → List String
  | 0 => []
  | 1 => [text]
  | count + 1 =>
      match splitOnce separator text with
      | some (first, rest) => first :: splitn separator rest count
      | none => [text]

/-- The lines of a text, without their ends. -/
def lines (text : String) : List String :=
  let pieces := text.toList.splitOn '\n'
  let pieces := if pieces.getLast? = some [] then pieces.dropLast else pieces
  pieces.map fun line =>
    String.ofList (if line.getLast? = some '\r' then line.dropLast else line)

/-- The characters with Unicode's `White_Space` property. -/
def isWhitespace (c : Char) : Bool :=
  let code := c.toNat
  (0x09 ≤ code && code ≤ 0x0D) || code = 0x20 || code = 0x85 || code = 0xA0 || code = 0x1680 ||
    (0x2000 ≤ code && code ≤ 0x200A) || code = 0x2028 || code = 0x2029 || code = 0x202F ||
    code = 0x205F || code = 0x3000

/-- Drop white space at both ends. -/
def trim (text : String) : String :=
  String.ofList ((text.toList.dropWhile isWhitespace).reverse.dropWhile isWhitespace).reverse

/-- What neither begins nor ends with white space is not trimmed. -/
theorem trim_eq_self {text : String} (first : ∀ c ∈ text.toList.head?, isWhitespace c = false)
    (last : ∀ c ∈ text.toList.getLast?, isWhitespace c = false) : trim text = text := by
  have kept {chars : List Char} (first : ∀ c ∈ chars.head?, isWhitespace c = false) :
      chars.dropWhile isWhitespace = chars := by
    cases chars with
    | nil => rfl
    | cons c chars => rw [List.dropWhile_cons, first c rfl]; rfl
  rw [trim, kept first, kept (by rwa [List.head?_reverse]), List.reverse_reverse,
    String.ofList_toList]

theorem head?_dropWhile {c : Char} {chars : List Char}
    (first : c ∈ (chars.dropWhile isWhitespace).head?) : isWhitespace c = false := by
  have kept := List.head?_dropWhile_not isWhitespace chars
  rw [Option.mem_def.mp first] at kept
  exact kept

theorem trim_trim (text : String) : trim (trim text) = trim text := by
  apply trim_eq_self
  · intro c first
    rw [trim, String.toList_ofList] at first
    have shorter : ((text.toList.dropWhile isWhitespace).reverse.dropWhile isWhitespace).reverse <+:
        text.toList.dropWhile isWhitespace := by
      have tail := List.dropWhile_suffix (l := (text.toList.dropWhile isWhitespace).reverse)
        isWhitespace
      rwa [← List.reverse_prefix, List.reverse_reverse] at tail
    obtain ⟨rest, whole⟩ := shorter
    have whole' := congrArg List.head? whole
    rw [List.head?_append, Option.mem_def.mp first, Option.some_or] at whole'
    exact head?_dropWhile whole'.symm
  · intro c last
    rw [trim, String.toList_ofList, List.getLast?_reverse] at last
    exact head?_dropWhile last

theorem isWhitespace_of_isDigit {c : Char} (digit : c.isDigit) : isWhitespace c = false := by
  rw [Char.isDigit, Bool.and_eq_true, decide_eq_true_eq, decide_eq_true_eq] at digit
  have low : 48 ≤ c.toNat := UInt32.le_iff_toNat_le.mp digit.1
  have high : c.toNat ≤ 57 := digit.2
  simp only [isWhitespace, Bool.or_eq_false_iff, Bool.and_eq_false_iff, decide_eq_false_iff_not]
  omega

/-- The words of a text. -/
def splitWhitespace (text : String) : List String :=
  ((text.toList.splitOnP isWhitespace).filter (!·.isEmpty)).map String.ofList

/-- The text after `start`, if it begins with it. -/
def stripPrefix (start text : String) : Option String :=
  (start.toList.isPrefixOf? text.toList).map String.ofList

/-- A stripped text is the one that `start` was put before. -/
theorem stripPrefix_eq_some {start text rest : String} :
    stripPrefix start text = some rest ↔ start.toList ++ rest.toList = text.toList := by
  rw [stripPrefix, Option.map_eq_some_iff]
  constructor
  · rintro ⟨chars, found, rfl⟩
    rw [String.toList_ofList]
    exact List.isPrefixOf?_eq_some_iff_append_eq.mp found
  · intro whole
    exact ⟨rest.toList, List.isPrefixOf?_eq_some_iff_append_eq.mpr whole, String.ofList_toList⟩

/-- Drop every leading repetition of `start`. -/
def trimStartMatches (start text : String) : String :=
  let rec strip : Nat → List Char → List Char
    | 0, chars => chars
    | fuel + 1, chars =>
        match start.toList.isPrefixOf? chars with
        | some rest => strip fuel rest
        | none => chars
  String.ofList (strip text.toList.length text.toList)

/-- Drop every trailing repetition of `ending`. -/
def trimEndMatches (ending text : String) : String :=
  let reversed (text : String) := String.ofList text.toList.reverse
  reversed (trimStartMatches (reversed ending) (reversed text))

theorem strip_of_head (c : Char) (fuel : Nat) {chars : List Char} (other : chars.head? ≠ some c) :
    trimStartMatches.strip (String.ofList [c]) fuel chars = chars := by
  cases fuel with
  | zero => rfl
  | succ fuel =>
      have apart : (String.ofList [c]).toList.isPrefixOf? chars = none := by
        rw [String.toList_ofList]
        cases chars with
        | nil => rfl
        | cons first rest =>
            have ne : c ≠ first := by
              rintro rfl
              exact other rfl
            simp [List.isPrefixOf?, ne]
      rw [trimStartMatches.strip, apart]

/-- A character that ends a text once is dropped there. -/
theorem trimEndMatches_concat {c : Char} {text : String} {body : List Char}
    (shape : text.toList = body ++ [c]) (single : body.getLast? ≠ some c) :
    (trimEndMatches (String.ofList [c]) text).toList = body := by
  have front : (String.ofList [c]).toList.isPrefixOf? (c :: body.reverse) = some body.reverse := by
    simp [List.isPrefixOf?]
  have stripped : trimStartMatches (String.ofList [c]) (String.ofList (c :: body.reverse)) =
      String.ofList body.reverse := by
    rw [trimStartMatches, String.toList_ofList, List.length_cons, trimStartMatches.strip,
      front]
    exact congrArg String.ofList (strip_of_head c _ (by rwa [List.head?_reverse]))
  rw [trimEndMatches]
  beta_reduce
  rw [shape, List.reverse_append, List.reverse_singleton,
    List.singleton_append, String.toList_ofList, String.toList_ofList, List.reverse_singleton,
    stripped, String.toList_ofList, List.reverse_reverse]

/-- Whether `needle` occurs in `text`. -/
def contains (text needle : String) : Bool := decide (needle.toList <:+: text.toList)

/-- Whether `text` starts with `start`. -/
def startsWith (text start : String) : Bool := start.toList.isPrefixOf text.toList

/-- Whether `text` ends with `ending`. -/
def endsWith (text ending : String) : Bool := decide (ending.toList <:+ text.toList)

/-! ## Numbers -/

/-- The number that some decimal digits stand for. -/
def parseDigits (digits : List Char) : Option Nat :=
  if digits.isEmpty || !digits.all Char.isDigit then none
  else some (digits.foldl (fun value digit => 10 * value + (digit.toNat - '0'.toNat)) 0)

theorem parseDigits_concat {digits : List Char} {last : Char} (some_ : digits ≠ []) :
    parseDigits (digits ++ [last]) =
      if last.isDigit then
        (parseDigits digits).map (10 * · + (last.toNat - '0'.toNat))
      else none := by
  have whole : (digits ++ [last]).isEmpty = false := by simp
  have part : digits.isEmpty = false := by simpa using some_
  rw [parseDigits, parseDigits, whole, part, List.all_append, List.all_cons, List.all_nil,
    Bool.and_true, Bool.false_or, Bool.false_or]
  by_cases digit : last.isDigit
  · rw [if_pos digit, digit, Bool.and_true]
    cases digits.all Char.isDigit with
    | false => rfl
    | true => simp
  · rw [if_neg digit, if_pos]
    simp [digit]

theorem all_isDigit_of_parseDigits {digits : List Char} {num : Nat}
    (read : parseDigits digits = some num) : digits.all Char.isDigit := by
  rw [parseDigits, Option.ite_none_left_eq_some] at read
  simpa using (not_or.mp (mt Bool.or_eq_true_iff.mpr read.1)).2

/-- A number of one digit is small. -/
theorem parseDigits_singleton {last : Char} {num : Nat} (read : parseDigits [last] = some num) :
    num < 10 := by
  have digit : last.isDigit := by simpa using all_isDigit_of_parseDigits read
  rw [Char.isDigit, Bool.and_eq_true, decide_eq_true_eq, decide_eq_true_eq] at digit
  have above : last.toNat ≤ 57 := digit.2
  have zero : '0'.toNat = 48 := rfl
  rw [parseDigits, Option.ite_none_left_eq_some] at read
  cases read.2
  simp only [List.foldl_cons, List.foldl_nil]
  omega

/-- An unsigned number below a bound, which may start with a plus sign. -/
def parseUnsigned (bound : Nat) (text : String) : Option Nat :=
  let digits := match text.toList with
    | '+' :: rest => rest
    | digits => digits
  (parseDigits digits).filter (· < bound)

theorem all_isDigit_toDigits (num : Nat) : (Nat.toDigits 10 num).all Char.isDigit := by
  rw [List.all_eq_true]
  intro c listed
  exact Nat.isDigit_of_mem_toDigits (by decide) (by decide) listed

/-- A number is read back from its digits if it is below the bound. -/
theorem parseUnsigned_digits (bound num : Nat) :
    parseUnsigned bound (String.ofList (Nat.toDigits 10 num)) =
      if num < bound then some num else none := by
  have digits := all_isDigit_toDigits num
  have parsed : parseDigits (Nat.toDigits 10 num) = some num := by
    rw [parseDigits, if_neg (by simp [digits, Nat.toDigits_ne_nil])]
    exact congrArg some Nat.ofDigitChars_ten_toDigits
  rw [parseUnsigned, String.toList_ofList]
  split
  · rename_i rest shape
    rw [shape] at digits
    simp at digits
  · rw [parsed, Option.filter_some]
    simp only [decide_eq_true_eq]

theorem parseUnsigned_toDigits {bound num : Nat} (small : num < bound) :
    parseUnsigned bound (String.ofList (Nat.toDigits 10 num)) = some num := by
  rw [parseUnsigned_digits, if_pos small]

/-- A signed number of 64 bits. -/
def parseSigned (text : String) : Option Int :=
  if startsWith text "-" then
    ((parseDigits text.toList.tail).filter (· ≤ 2 ^ 63)).map fun value => -(value : Int)
  else (parseUnsigned (2 ^ 63) text).map Int.ofNat

/-! ## Lossy UTF-8 -/

/-- A continuation byte. -/
def isTail (byte : UInt8) : Bool := 0x80 ≤ byte && byte ≤ 0xBF

/-- The second bytes that may follow the first byte of a longer sequence. -/
def isSecond (first second : UInt8) : Bool :=
  if first = 0xE0 then 0xA0 ≤ second && second ≤ 0xBF
  else if first = 0xED then 0x80 ≤ second && second ≤ 0x9F
  else if first = 0xF0 then 0x90 ≤ second && second ≤ 0xBF
  else if first = 0xF4 then 0x80 ≤ second && second ≤ 0x8F
  else isTail second

/-- How many bytes follow a first byte, if it starts a sequence. -/
def tailLength (first : UInt8) : Option Nat :=
  if first < 0x80 then some 0
  else if 0xC2 ≤ first && first ≤ 0xDF then some 1
  else if 0xE0 ≤ first && first ≤ 0xEF then some 2
  else if 0xF0 ≤ first && first ≤ 0xF4 then some 3
  else none

/-- The longest valid beginning of the bytes that follow a first byte. -/
def validTail (first : UInt8) (length : Nat) (rest : List UInt8) : List UInt8 :=
  match rest.take length with
  | [] => []
  | second :: others =>
      if isSecond first second then second :: others.takeWhile isTail else []

/-- The code point of a complete sequence. -/
def codePoint (first : UInt8) (tail : List UInt8) : Nat :=
  let lead := match tail.length with
    | 0 => first.toNat
    | 1 => first.toNat % 0x20
    | 2 => first.toNat % 0x10
    | _ => first.toNat % 0x08
  tail.foldl (fun code byte => code * 0x40 + byte.toNat % 0x40) lead

/-- Decode UTF-8. Each maximal ill-formed part becomes one replacement
character. -/
def fromUtf8LossyChars : Nat → List UInt8 → List Char
  | 0, _ | _, [] => []
  | fuel + 1, first :: rest =>
      match tailLength first with
      | none => '\uFFFD' :: fromUtf8LossyChars fuel rest
      | some length =>
          let tail := validTail first length rest
          let decoded := if tail.length = length then Char.ofNat (codePoint first tail) else '\uFFFD'
          decoded :: fromUtf8LossyChars fuel (rest.drop tail.length)

/-- `String::from_utf8_lossy`. -/
def fromUtf8Lossy (bytes : List UInt8) : String :=
  String.ofList (fromUtf8LossyChars bytes.length bytes)

end Rind.Text
