import Rind.Data.Cutting
import Rind.Systemd.Ini

/-!
# The lines of a unit file

A line that ends in a backslash goes on with the next one, and a comment ends a line. The loader
knows quotes, but not that a backslash stands before a character that is meant as it is, and it
forgets a line that still goes on at the end of the file. Beside that it reads the lines of the
text.
-/

namespace Rind.Systemd

/-! ## Comments -/

/-- A comment starts here, unless it is quoted. -/
def isSign (c : Char) : Bool := c = '#' || c = ';'

/-- The quotes that are open. -/
@[ext] structure Quotes where
  inSingle : Bool
  inDouble : Bool
  deriving DecidableEq, Repr

def Quotes.next (quotes : Quotes) (c : Char) : Quotes :=
  if c = singleQuote ∧ ¬ quotes.inDouble then { quotes with inSingle := !quotes.inSingle }
  else if c = doubleQuote ∧ ¬ quotes.inSingle then { quotes with inDouble := !quotes.inDouble }
  else quotes

/-- The quotes that are open behind some characters, if each quote counts. -/
def quotesAfter (before : List Char) : Quotes := before.foldl Quotes.next ⟨false, false⟩

/-- A comment sign outside of the quotes. -/
def bareSign (before : List Char) (c : Char) : Bool :=
  isSign c && quotesAfter before = ⟨false, false⟩

/-- The quotes that are open, and whether the next character is meant as it is. -/
structure Escapes extends Quotes where
  escaped : Bool
  deriving DecidableEq, Repr

/-- A backslash outside of single quotes escapes the next character. -/
def Escapes.next (state : Escapes) (c : Char) : Escapes :=
  if state.escaped then { state with escaped := false }
  else if c = backslash ∧ ¬ state.inSingle then { state with escaped := true }
  else { state with toQuotes := state.toQuotes.next c }

def escapesAfter (before : List Char) : Escapes :=
  before.foldl Escapes.next ⟨⟨false, false⟩, false⟩

/-- A comment sign that is neither quoted nor escaped. -/
def unescapedSign (before : List Char) (c : Char) : Bool :=
  isSign c && escapesAfter before = ⟨⟨false, false⟩, false⟩

/-- A line up to the sign where it is cut. -/
def cutLine (cuts : List Char → Char → Bool) (line : String) : String :=
  String.ofList (cutAt cuts [] line.toList)

theorem isSign_of_bareSign {before : List Char} {c : Char} (cut : bareSign before c) :
    isSign c := (Bool.and_eq_true_iff.mp cut).1

theorem isSign_of_unescapedSign {before : List Char} {c : Char} (cut : unescapedSign before c) :
    isSign c := (Bool.and_eq_true_iff.mp cut).1

theorem quotesAfter_concat (before : List Char) (c : Char) :
    quotesAfter (before ++ [c]) = (quotesAfter before).next c := by
  rw [quotesAfter, List.foldl_append]
  rfl

theorem escapesAfter_concat (before : List Char) (c : Char) :
    escapesAfter (before ++ [c]) = (escapesAfter before).next c := by
  rw [escapesAfter, List.foldl_append]
  rfl

theorem beforeComment_eq (before rest : List Char) :
    beforeComment (quotesAfter before).inSingle (quotesAfter before).inDouble rest =
      cutAt bareSign before rest := by
  induction rest generalizing before with
  | nil => rfl
  | cons c rest ih =>
      have next := ih (before ++ [c])
      rw [quotesAfter_concat] at next
      rw [beforeComment, cutAt]
      by_cases single : c = singleQuote ∧ ¬ (quotesAfter before).inDouble
      · have plain : bareSign before c = false := by simp [bareSign, single.1, isSign, singleQuote]
        rw [if_pos single, plain, ← next, Quotes.next, if_pos single]
        rfl
      rw [if_neg single]
      by_cases double : c = doubleQuote ∧ ¬ (quotesAfter before).inSingle
      · have plain : bareSign before c = false := by simp [bareSign, double.1, isSign, doubleQuote]
        rw [if_pos double, plain, ← next, Quotes.next, if_neg single, if_pos double]
        rfl
      rw [if_neg double, ← next, Quotes.next, if_neg single, if_neg double]
      have same : bareSign before c ↔ (c = '#' ∨ c = ';') ∧ ¬ (quotesAfter before).inSingle ∧
          ¬ (quotesAfter before).inDouble := by
        simp [bareSign, isSign, Quotes.ext_iff]
      simp only [same]

/-- `strip_comment` cuts a line at the first comment sign outside of the quotes. -/
theorem stripComment_eq : stripComment = cutLine bareSign := by
  funext line
  exact congrArg String.ofList (beforeComment_eq [] line.toList)

/-- The only backslash at the end of some characters escapes what comes next, or is quoted. -/
theorem not_unescapedSign {body : List Char} {c : Char} (single : body.getLast? ≠ some backslash) :
    unescapedSign (body ++ [backslash]) c = false := by
  have plain : (escapesAfter body).escaped = false := by
    cases body using List.reverseRecOn with
    | nil => rfl
    | append_singleton start last =>
        rw [List.getLast?_concat, ne_eq, Option.some.injEq] at single
        rw [escapesAfter_concat, Escapes.next]
        split
        · rfl
        · next unescaped =>
            rw [if_neg fun escapes => single escapes.1]
            simpa using unescaped
  have kept (quotes : Quotes) : quotes.next backslash = quotes := by
    rw [Quotes.next, if_neg (by simp [backslash, singleQuote]),
      if_neg (by simp [backslash, doubleQuote])]
  rw [unescapedSign, Bool.and_eq_false_iff, decide_eq_false_iff_not, escapesAfter_concat,
    Escapes.next, plain, if_neg Bool.false_ne_true, kept]
  right
  split
  · simp
  · next quoted =>
      intro outside
      have inSingle := congrArg (·.inSingle) outside
      exact quoted ⟨rfl, by simpa using inSingle⟩

/-! ## Lines that go on -/

/-- A line that goes on ends in a backslash, which is dropped with a space in its place. -/
theorem isContinuation_shape {line : String} (goesOn : isContinuation line) :
    ∃ body, line.toList = body ++ [backslash] ∧ body.getLast? ≠ some backslash ∧
      (stripTrailingBackslash line ++ " ").toList = body ++ [' '] := by
  rw [isContinuation, Bool.and_eq_true, Bool.not_eq_true', Text.endsWith, Text.endsWith,
    decide_eq_true_eq, decide_eq_false_iff_not, String.toList_ofList, String.toList_ofList]
    at goesOn
  obtain ⟨⟨body, shape⟩, single⟩ := goesOn
  have last : body.getLast? ≠ some backslash := by
    intro last
    obtain ⟨start, rfl⟩ := List.getLast?_eq_some_iff.mp last
    exact single ⟨start, by rw [← shape, List.append_assoc]; rfl⟩
  refine ⟨body, shape.symm, last, ?_⟩
  have kept : trimEnd line = line := by
    rw [trimEnd, ← shape, List.reverse_append, List.reverse_singleton, List.singleton_append,
      List.dropWhile_cons_of_neg (by decide), ← List.singleton_append, List.reverse_append,
      List.reverse_reverse, List.reverse_singleton, shape, String.ofList_toList]
  have dropped : (stripTrailingBackslash line).toList = body := by
    rw [stripTrailingBackslash, kept]
    exact Text.trimEndMatches_concat shape.symm last
  rw [String.toList_append, dropped]
  rfl

/-! ## Reading the lines -/

/-- The lines that are put together, those of them that stand for something, and what still goes
on at the end. -/
structure JoinedLines where
  joined : List String
  logical : List String
  pending : String

/-- A line as it is put together from what is pending and the next line of the file. -/
def joinLine (pending rawLine : String) : String :=
  trimStart (if pending = "" then rawLine else pending ++ rawLine)

/-- The lines of a file, if comments are stripped like this. -/
def readLines (strip : String → String) (pending : String) : (rawLines : List String) → JoinedLines
  | [] => ⟨[], [], pending⟩
  | rawLine :: rest =>
      let line := joinLine pending rawLine
      let stripped := strip line
      if stripped = "" then
        let later := readLines strip "" rest
        { later with joined := line :: later.joined }
      else if isContinuation stripped then
        let later := readLines strip (stripTrailingBackslash stripped ++ " ") rest
        { later with joined := line :: later.joined }
      else
        let later := readLines strip "" rest
        { later with joined := line :: later.joined, logical := stripped :: later.logical }

/-- A line that still goes on at the end of the file, unless nothing stands on it. -/
def lastLine (pending : String) : List String := if Text.trim pending = "" then [] else [pending]

/-- The lines of a text: no comment starts in quotes or behind a backslash, and the last line may
go on. -/
def textLines (content : String) : List String :=
  let lines := readLines (cutLine unescapedSign) "" (Text.lines content)
  lines.logical ++ lastLine lines.pending

section Reading

variable {cuts : List Char → Char → Bool} {pending rawLine line : String} {rawLines : List String}

/-- What a line begins with is no white space. -/
theorem head?_joinLine (pending rawLine : String) {c : Char}
    (first : c ∈ (joinLine pending rawLine).toList.head?) :
    Text.isWhitespace c = false := by
  rw [joinLine, trimStart, String.toList_ofList] at first
  exact Text.head?_dropWhile first

/-- A line that goes on begins with what is pending. -/
theorem joinLine_of_pending (rawLine : String) {base : List Char}
    (shape : pending.toList = base ++ [' '])
    (first : ∃ c ∈ base.head?, Text.isWhitespace c = false) :
    (joinLine pending rawLine).toList = base ++ ' ' :: rawLine.toList := by
  obtain ⟨c, head, black⟩ := first
  obtain ⟨rest, rfl⟩ : ∃ rest, base = c :: rest := by
    cases base with
    | nil => cases head
    | cons c' rest =>
        cases head
        exact ⟨rest, rfl⟩
  have going : pending ≠ "" := by
    rintro rfl
    cases shape
  rw [joinLine, if_neg going, trimStart, String.toList_ofList, String.toList_append, shape]
  simp [black]

theorem cutLine_empty (strip_ : cutLine cuts line = "") : cutAt cuts [] line.toList = [] := by
  have same := congrArg String.toList strip_
  rwa [cutLine, String.toList_ofList] at same

/-- Lines that stand for something are not cut again. -/
theorem whole_of_mem_logical
    (stored : line ∈ (readLines (cutLine cuts) pending rawLines).logical) :
    Whole cuts [] line.toList := by
  induction rawLines generalizing pending with
  | nil => cases stored
  | cons rawLine rest ih =>
      rw [readLines] at stored
      split at stored
      · exact ih stored
      · split at stored
        · exact ih stored
        · rcases List.mem_cons.mp stored with rfl | later
          · rw [cutLine, String.toList_ofList]
            exact whole_cutAt cuts [] _
          · exact ih later

/-- What is left of a line that goes on, with the space behind it. -/
theorem whole_pending {body : List Char} (blank : ∀ before, cuts before ' ' = false)
    (whole : Whole cuts [] (body ++ [backslash])) : Whole cuts [] (body ++ [' ']) := by
  have kept := whole.of_append.cutAt_append [' ']
  rwa [cutAt, blank, if_neg Bool.false_ne_true] at kept

theorem whole_next (blank : ∀ before, cuts before ' ' = false)
    (goesOn : isContinuation (cutLine cuts line)) :
    Whole cuts [] (stripTrailingBackslash (cutLine cuts line) ++ " ").toList := by
  obtain ⟨body, shape, -, pending'⟩ := isContinuation_shape goesOn
  rw [pending']
  apply whole_pending blank
  rw [← shape, cutLine, String.toList_ofList]
  exact whole_cutAt cuts [] _

theorem head?_of_begins {start chars : List Char} (begins : start <+: chars)
    (first : ∃ c ∈ start.head?, Text.isWhitespace c = false) :
    ∃ c ∈ chars.head?, Text.isWhitespace c = false := by
  obtain ⟨rest, rfl⟩ := begins
  obtain ⟨c, head, black⟩ := first
  exact ⟨c, by rw [List.head?_append, Option.mem_def.mp head]; rfl, black⟩

/-- What a line begins with stays, if only its last character is dropped. -/
theorem begins_of_concat {start body : List Char} {c : Char} (begins : start <+: body ++ [c])
    (other : start.getLast? ≠ some c) : start <+: body := by
  rcases List.prefix_concat_iff.mp begins with rfl | shorter
  · rw [List.getLast?_concat] at other
    contradiction
  · exact shorter

/-- A line of the file that stands for something begins like this, or such a line is pending at
the end of the file. -/
def Carries (start : List Char) (lines : JoinedLines) : Prop :=
  (∃ line ∈ lines.logical, start <+: line.toList) ∨
    lines.logical = [] ∧ ∃ base, lines.pending.toList = base ++ [' '] ∧ start <+: base ∧
      ∃ c ∈ base.head?, Text.isWhitespace c = false

/-- A line that begins like this is read at once, or goes on with the lines behind it. -/
theorem carries_cons {start base : List Char} (blank : ∀ before, cuts before ' ' = false)
    (begins : start <+: base)
    (stands : base <+: (cutLine cuts (joinLine pending rawLine)).toList)
    (first : ∃ c ∈ base.head?, Text.isWhitespace c = false) (last : base.getLast? ≠ some backslash)
    (later : ∀ {pending' : String} {base' : List Char}, pending'.toList = base' ++ [' '] →
      start <+: base' → (∃ c ∈ base'.head?, Text.isWhitespace c = false) →
      Whole cuts [] pending'.toList → Carries start (readLines (cutLine cuts) pending' rawLines)) :
    Carries start (readLines (cutLine cuts) pending (rawLine :: rawLines)) := by
  have whole : Whole cuts [] (cutLine cuts (joinLine pending rawLine)).toList := by
    rw [cutLine, String.toList_ofList]
    exact whole_cutAt cuts [] _
  rw [readLines]
  generalize cutLine cuts (joinLine pending rawLine) = line at stands whole ⊢
  split
  · next empty =>
      rw [empty] at stands
      obtain ⟨c, head, -⟩ := first
      rw [List.prefix_nil.mp stands] at head
      cases head
  · split
    · next goesOn =>
        obtain ⟨body, shape, -, pending'⟩ := isContinuation_shape goesOn
        have kept : base <+: body := begins_of_concat (shape ▸ stands) last
        exact later pending' (begins.trans kept) (head?_of_begins kept first)
          (pending' ▸ whole_pending blank (shape ▸ whole))
    · exact .inl ⟨line, List.mem_cons_self, begins.trans stands⟩

theorem carries_of_pending {start base : List Char} (blank : ∀ before, cuts before ' ' = false)
    (shape : pending.toList = base ++ [' ']) (begins : start <+: base)
    (first : ∃ c ∈ base.head?, Text.isWhitespace c = false)
    (whole : Whole cuts [] pending.toList) :
    Carries start (readLines (cutLine cuts) pending rawLines) := by
  induction rawLines generalizing pending base with
  | nil => exact .inr ⟨rfl, base, shape, begins, first⟩
  | cons rawLine rest ih =>
      have joined := joinLine_of_pending rawLine shape first
      have stripped : (cutLine cuts (joinLine pending rawLine)).toList =
          base ++ [' '] ++ cutAt cuts (base ++ [' ']) rawLine.toList := by
        rw [shape] at whole
        rw [cutLine, String.toList_ofList, joined, ← List.singleton_append, ← List.append_assoc,
          whole.cutAt_append]
        rfl
      have longer := List.prefix_append base [' ']
      apply carries_cons blank (begins.trans longer) (stripped ▸ List.prefix_append _ _)
        (head?_of_begins longer first)
      · rw [List.getLast?_concat]
        decide
      · intro pending' base' shape' begins' first' whole'
        exact ih shape' begins' first' whole'

/-- What a line begins with, up to a sign, is carried on. -/
theorem carries_of_sign {start : List Char} {c : Char} (rawLines : List String)
    (blank : ∀ before, cuts before ' ' = false) (sign : isSign c)
    (stands : start ++ [c] <+: (cutLine cuts (joinLine pending rawLine)).toList) :
    Carries (start ++ [c]) (readLines (cutLine cuts) pending (rawLine :: rawLines)) := by
  have first : ∃ d ∈ (start ++ [c]).head?, Text.isWhitespace d = false := by
    have shorter : start ++ [c] <+: (joinLine pending rawLine).toList := by
      rw [cutLine, String.toList_ofList] at stands
      exact stands.trans (cutAt_begins cuts [] _)
    obtain ⟨rest, whole⟩ := shorter
    obtain ⟨d, head⟩ : ∃ d, (start ++ [c]).head? = some d := by
      cases start with
      | nil => exact ⟨c, rfl⟩
      | cons d _ => exact ⟨d, rfl⟩
    refine ⟨d, head, head?_joinLine pending rawLine ?_⟩
    rw [← whole, List.head?_append, head]
    rfl
  apply carries_cons blank (List.prefix_refl _) stands first
  · rw [List.getLast?_concat]
    rintro ⟨⟩
    cases sign
  · intro pending' base' shape' begins' first' whole'
    exact carries_of_pending blank shape' begins' first' whole'

end Reading

/-! ## The lines that the loader reads -/

section Loader

variable {pending rawLine line : String} {rawLines : List String}

theorem bareSign_blank (before : List Char) : bareSign before ' ' = false := rfl

theorem unescapedSign_blank (before : List Char) : unescapedSign before ' ' = false := rfl

theorem whole_pending_readLines (whole : Whole unescapedSign [] pending.toList) :
    Whole unescapedSign []
      (readLines (cutLine unescapedSign) pending rawLines).pending.toList := by
  induction rawLines generalizing pending with
  | nil => exact whole
  | cons rawLine rest ih =>
      rw [readLines]
      split
      · exact ih rfl
      · split
        · next goesOn => exact ih (whole_next unescapedSign_blank goesOn)
        · exact ih rfl

/-- What begins with black characters is a last line. -/
theorem mem_lastLine {base : List Char} (shape : pending.toList = base ++ [' '])
    (first : ∃ c ∈ base.head?, Text.isWhitespace c = false) : pending ∈ lastLine pending := by
  obtain ⟨c, head, black⟩ := first
  rw [lastLine]
  split
  · next blank =>
      have kept : pending.toList.dropWhile Text.isWhitespace = pending.toList := by
        cases base with
        | nil => cases head
        | cons d rest =>
            cases head
            rw [shape, List.cons_append, List.dropWhile_cons_of_neg (by rw [black]; decide)]
      have dropped : (pending.toList.reverse.dropWhile Text.isWhitespace).reverse = [] := by
        have none := congrArg String.toList blank
        rwa [Text.trim, String.toList_ofList, kept] at none
      have white := List.dropWhile_eq_nil_iff.mp (List.reverse_eq_nil_iff.mp dropped) c (by
        rw [List.mem_reverse, shape]
        exact List.mem_append_left _ (List.mem_of_head? head))
      cases black.symm.trans white
  · exact List.mem_singleton_self pending

/-- Lines of the text are whole. -/
theorem whole_of_mem_lines (whole : Whole unescapedSign [] pending.toList)
    (stored : line ∈ (readLines (cutLine unescapedSign) pending rawLines).logical ++
      lastLine (readLines (cutLine unescapedSign) pending rawLines).pending) :
    Whole unescapedSign [] line.toList := by
  rcases List.mem_append.mp stored with logical | last
  · exact whole_of_mem_logical logical
  · rw [lastLine] at last
    split at last
    · cases last
    · rw [List.mem_singleton.mp last]
      exact whole_pending_readLines whole

/-- Where a comment starts elsewhere without escapes, other lines are read. -/
theorem logical_ne (whole : Whole unescapedSign [] pending.toList)
    (apart : cutLine bareSign (joinLine pending rawLine) ≠
      cutLine unescapedSign (joinLine pending rawLine)) :
    (readLines (cutLine bareSign) pending (rawLine :: rawLines)).logical ≠
      (readLines (cutLine unescapedSign) pending (rawLine :: rawLines)).logical ++
        lastLine (readLines (cutLine unescapedSign) pending (rawLine :: rawLines)).pending := by
  intro equal
  have parts : cutAt bareSign [] (joinLine pending rawLine).toList ≠
      cutAt unescapedSign [] (joinLine pending rawLine).toList :=
    fun same => apart (congrArg String.ofList same)
  rcases cutAt_apart parts with ⟨sign, cut, longer⟩ | ⟨sign, cut, longer⟩
  · -- the loader cuts a line of the text, which goes on
    rw [← String.toList_ofList (l := cutAt unescapedSign _ _), ← cutLine] at longer
    have uncut {line : String} (stored : line ∈ (readLines (cutLine unescapedSign) pending
        (rawLine :: rawLines)).logical ++ lastLine (readLines (cutLine unescapedSign) pending
          (rawLine :: rawLines)).pending) : Whole bareSign [] line.toList := by
      rw [← equal] at stored
      exact whole_of_mem_logical stored
    have carried := carries_of_sign rawLines unescapedSign_blank (isSign_of_bareSign cut) longer
    generalize readLines (cutLine unescapedSign) pending (rawLine :: rawLines) = lines
      at carried uncut
    rcases carried with ⟨line, stored, begins⟩ | ⟨-, base, shape, begins, first⟩
    · exact not_whole_of_begins cut begins (uncut (List.mem_append_left _ stored))
    · have last := uncut (List.mem_append_right _ (mem_lastLine shape first))
      rw [shape] at last
      exact not_whole_of_begins cut begins last.of_append
  · -- the loader goes on where the text has a comment
    rw [← String.toList_ofList (l := cutAt bareSign _ _), ← cutLine] at longer
    have carried := carries_of_sign rawLines bareSign_blank (isSign_of_unescapedSign cut) longer
    generalize readLines (cutLine bareSign) pending (rawLine :: rawLines) = lines
      at carried equal
    rcases carried with ⟨line, stored, begins⟩ | ⟨none, -⟩
    · rw [equal] at stored
      exact not_whole_of_begins cut begins (whole_of_mem_lines whole stored)
    · rw [none] at equal
      have unread := (List.append_eq_nil_iff.mp equal.symm).1
      rw [readLines] at unread
      split at unread
      · next blank =>
          have nothing := cutLine_empty blank
          rw [nothing] at cut longer
          have bare : bareSign [] sign := by
            rw [bareSign, isSign_of_unescapedSign cut]
            rfl
          rw [cutLine, String.toList_ofList] at longer
          exact not_whole_of_begins bare longer (whole_cutAt _ _ _)
      · split at unread
        · next goesOn =>
            obtain ⟨body, shape, single, -⟩ := isContinuation_shape goesOn
            rw [cutLine, String.toList_ofList] at shape
            rw [List.nil_append, shape, not_unescapedSign single] at cut
            cases cut
        · cases unread

/-- The loader reads the lines of the text exactly if each comment starts where it does without
escapes, and nothing goes on at the end. -/
theorem logical_eq_iff (whole : Whole unescapedSign [] pending.toList) :
    (readLines (cutLine bareSign) pending rawLines).logical =
        (readLines (cutLine unescapedSign) pending rawLines).logical ++
          lastLine (readLines (cutLine unescapedSign) pending rawLines).pending ↔
      (∀ line ∈ (readLines (cutLine unescapedSign) pending rawLines).joined,
        cutLine bareSign line = cutLine unescapedSign line) ∧
      Text.trim (readLines (cutLine unescapedSign) pending rawLines).pending = "" := by
  induction rawLines generalizing pending with
  | nil =>
      rw [readLines, readLines, lastLine]
      split
      · next blank => simp [blank]
      · next blank => simp [blank]
  | cons rawLine rest ih =>
      by_cases same : cutLine bareSign (joinLine pending rawLine) =
          cutLine unescapedSign (joinLine pending rawLine)
      · have joined {lines : List String} {P : Prop} :
            ((∀ other ∈ joinLine pending rawLine :: lines,
              cutLine bareSign other = cutLine unescapedSign other) ∧ P ↔
            (∀ other ∈ lines, cutLine bareSign other = cutLine unescapedSign other) ∧ P) := by
          simp [same]
        have none : Whole unescapedSign [] "".toList := rfl
        rw [readLines, readLines, same]
        split
        · exact (ih none).trans joined.symm
        · split
          · next goesOn => exact (ih (whole_next unescapedSign_blank goesOn)).trans joined.symm
          · rw [List.cons_append, List.cons_inj_right]
            exact (ih none).trans joined.symm
      · constructor
        · intro equal
          exact absurd equal (logical_ne whole same)
        · rintro ⟨alike, -⟩
          refine absurd (alike (joinLine pending rawLine) ?_) same
          rw [readLines]
          split
          · exact List.mem_cons_self
          · split
            · exact List.mem_cons_self
            · exact List.mem_cons_self

end Loader

end Rind.Systemd
