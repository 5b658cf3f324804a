import Rind.Systemd.Ini

/-!
# Command lines of systemd

A command line is split into tokens at white space outside of quotes. In double quotes a backslash
stands before a character that is meant as it is, so each token can be written in them.
-/

namespace Rind.Systemd

/-- What `systemd_exec` keeps from character to character. -/
structure ExecState where
  tokens : List String
  current : List Char
  inSingle : Bool
  inDouble : Bool
  hadToken : Bool

namespace ExecState

def start : ExecState := ⟨[], [], false, false, false⟩

/-- What white space outside of quotes does. -/
def separate (state : ExecState) : ExecState :=
  if state.hadToken then
    { state with
      tokens := state.tokens ++ [String.ofList state.current]
      current := []
      hadToken := false }
  else state

def push (state : ExecState) (c : Char) : ExecState :=
  { state with hadToken := true, current := state.current ++ [c] }

/-- What any other character does, unless it is a backslash in double quotes. -/
def take (state : ExecState) (c : Char) : ExecState :=
  if c = singleQuote ∧ ¬ state.inDouble then
    { state with hadToken := true, inSingle := !state.inSingle }
  else if c = doubleQuote ∧ ¬ state.inSingle then
    { state with hadToken := true, inDouble := !state.inDouble }
  else state.push c

end ExecState

/-- The loop of `systemd_exec`. -/
def splitExec (state : ExecState) : (chars : List Char) → ExecState
  | [] => state
  | c :: chars =>
      if Text.isWhitespace c ∧ ¬ state.inSingle ∧ ¬ state.inDouble then
        splitExec state.separate chars
      else if c = backslash ∧ state.inDouble then
        match chars with
        | [] => { state with hadToken := true }
        | next :: chars => splitExec (state.push next) chars
      else splitExec (state.take c) chars

theorem splitExec_nil (state : ExecState) : splitExec state [] = state := rfl

theorem splitExec_cons (state : ExecState) (c : Char) (chars : List Char) :
    splitExec state (c :: chars) =
      if Text.isWhitespace c ∧ ¬ state.inSingle ∧ ¬ state.inDouble then
        splitExec state.separate chars
      else if c = backslash ∧ state.inDouble then
        match chars with
        | [] => { state with hadToken := true }
        | next :: chars => splitExec (state.push next) chars
      else splitExec (state.take c) chars := by
  cases chars with
  | nil => rfl
  | cons next chars => rfl

/-- The tokens at the end of the line. -/
def ExecState.finish (state : ExecState) : List String :=
  if state.hadToken ∨ state.current ≠ [] then state.tokens ++ [String.ofList state.current]
  else state.tokens

/-- `systemd_exec`: the program and its arguments. -/
def systemdExec (value : String) : Option (String × List String) :=
  let trimmed := Text.trim value
  if trimmed.isEmpty then none
  else
    match (splitExec .start trimmed.toList).finish with
    | [] => none
    | exec :: args => some (exec, args)

/-! ## Quoted tokens -/

def escapeQuoted (c : Char) : List Char :=
  if c = doubleQuote ∨ c = backslash then [backslash, c] else [c]

/-- A token in double quotes. -/
def quoteToken (token : String) : List Char :=
  doubleQuote :: token.toList.flatMap escapeQuoted ++ [doubleQuote]

/-- Each token with the white space before it. -/
def quoteGaps (args : List (String × String)) : List Char :=
  args.flatMap fun arg => arg.1.toList ++ quoteToken arg.2

/-- A token, and each further one with the white space before it. -/
def quoteExec (exec : String) (args : List (String × String)) : String :=
  String.ofList (quoteToken exec ++ quoteGaps args)

/-- What separates tokens: some white space. -/
def IsGap (gap : String) : Prop := gap ≠ "" ∧ ∀ c ∈ gap.toList, Text.isWhitespace c

section Quoted

variable {tokens : List String} {current rest : List Char}

/-- A character is read back from its escape. -/
theorem splitExec_escapeQuoted (c : Char) :
    splitExec ⟨tokens, current, false, true, true⟩ (escapeQuoted c ++ rest) =
      splitExec ⟨tokens, current ++ [c], false, true, true⟩ rest := by
  rw [escapeQuoted]
  split
  · rw [List.cons_append, splitExec_cons, if_neg (by simp), if_pos (by simp)]
    rfl
  · rename_i plain
    obtain ⟨noQuote, noBackslash⟩ := not_or.mp plain
    rw [List.singleton_append, splitExec_cons, if_neg (by simp), if_neg (by simp [noBackslash])]
    simp [ExecState.take, ExecState.push, noQuote]

theorem splitExec_escaped (chars : List Char) :
    splitExec ⟨tokens, current, false, true, true⟩ (chars.flatMap escapeQuoted ++ rest) =
      splitExec ⟨tokens, current ++ chars, false, true, true⟩ rest := by
  induction chars generalizing current with
  | nil => rw [List.flatMap_nil, List.nil_append, List.append_nil]
  | cons c chars ih =>
      rw [List.flatMap_cons, List.append_assoc, splitExec_escapeQuoted, ih, List.append_assoc,
        List.singleton_append]

/-- A double quote outside of single ones changes the mode. -/
theorem splitExec_doubleQuote (inDouble hadToken : Bool) :
    splitExec ⟨tokens, current, false, inDouble, hadToken⟩ (doubleQuote :: rest) =
      splitExec ⟨tokens, current, false, !inDouble, true⟩ rest := by
  have visible : Text.isWhitespace doubleQuote = false := by decide
  have noBackslash : doubleQuote ≠ backslash := by decide
  have noSingle : doubleQuote ≠ singleQuote := by decide
  rw [splitExec_cons, if_neg (by simp [visible]), if_neg (by simp [noBackslash])]
  simp [ExecState.take, noSingle]

/-- A quoted token is read back, also where it is empty. -/
theorem splitExec_quoteToken (token : String) (hadToken : Bool) :
    splitExec ⟨tokens, [], false, false, hadToken⟩ (quoteToken token ++ rest) =
      splitExec ⟨tokens, token.toList, false, false, true⟩ rest := by
  rw [quoteToken, List.cons_append, List.cons_append, splitExec_doubleQuote, List.append_assoc,
    Bool.not_false, splitExec_escaped, List.singleton_append, splitExec_doubleQuote,
    List.nil_append, Bool.not_true]

/-- White space ends a token, once. -/
theorem splitExec_gap {gap : String} (isGap : IsGap gap) :
    splitExec ⟨tokens, current, false, false, true⟩ (gap.toList ++ rest) =
      splitExec ⟨tokens ++ [String.ofList current], [], false, false, false⟩ rest := by
  have skipped (blanks : List Char) (white : ∀ c ∈ blanks, Text.isWhitespace c) :
      splitExec ⟨tokens ++ [String.ofList current], [], false, false, false⟩ (blanks ++ rest) =
        splitExec ⟨tokens ++ [String.ofList current], [], false, false, false⟩ rest := by
    induction blanks with
    | nil => rfl
    | cons c blanks ih =>
        obtain ⟨first, others⟩ := List.forall_mem_cons.mp white
        rw [List.cons_append, splitExec_cons, if_pos (by simp [first])]
        exact ih others
  obtain ⟨nonempty, white⟩ := isGap
  cases shape : gap.toList with
  | nil => exact absurd (String.toList_eq_nil_iff.mp shape) nonempty
  | cons c blanks =>
      rw [shape] at white
      obtain ⟨first, others⟩ := List.forall_mem_cons.mp white
      rw [List.cons_append, splitExec_cons, if_pos (by simp [first])]
      exact skipped blanks others

theorem finish_quoteGaps {token : String} {args : List (String × String)}
    (gaps : ∀ arg ∈ args, IsGap arg.1) :
    (splitExec ⟨tokens, token.toList, false, false, true⟩ (quoteGaps args)).finish =
      tokens ++ token :: args.map Prod.snd := by
  induction args generalizing tokens token with
  | nil =>
      rw [quoteGaps, List.flatMap_nil, splitExec_nil, ExecState.finish, if_pos (.inl rfl),
        String.ofList_toList]
      rfl
  | cons arg args ih =>
      obtain ⟨first, others⟩ := List.forall_mem_cons.mp gaps
      rw [quoteGaps, List.flatMap_cons, List.append_assoc, splitExec_gap first,
        splitExec_quoteToken, ← quoteGaps, ih others, String.ofList_toList]
      simp

/-! ## Lines -/

theorem getLast?_quoteGaps (before : List Char) (args : List (String × String)) :
    (before ++ doubleQuote :: quoteGaps args).getLast? = some doubleQuote := by
  induction args generalizing before with
  | nil => rw [quoteGaps, List.flatMap_nil, List.getLast?_concat]
  | cons arg args ih =>
      have last := ih (before ++ doubleQuote :: (arg.1.toList ++
        doubleQuote :: arg.2.toList.flatMap escapeQuoted))
      simpa [quoteGaps, quoteToken] using last

/-- A quoted line has no white space at its ends. -/
theorem trim_quoteExec (exec : String) (args : List (String × String)) :
    Text.trim (quoteExec exec args) = quoteExec exec args := by
  have visible : Text.isWhitespace doubleQuote = false := by decide
  apply Text.trim_eq_self
  · intro c first
    simp only [quoteExec, quoteToken, String.toList_ofList, List.cons_append, List.head?_cons,
      Option.mem_some_iff] at first
    rw [← first, visible]
  · intro c last
    have final : (quoteToken exec ++ quoteGaps args).getLast? = some doubleQuote := by
      rw [quoteToken, List.append_assoc]
      exact getLast?_quoteGaps _ args
    rw [quoteExec, String.toList_ofList, final, Option.mem_some_iff] at last
    rw [← last, visible]

/-- Tokens that are quoted one by one, with any white space between them, are read back. -/
theorem systemdExec_quoteExec (exec : String) (args : List (String × String))
    (gaps : ∀ arg ∈ args, IsGap arg.1) :
    systemdExec (quoteExec exec args) = some (exec, args.map Prod.snd) := by
  have tokens : (splitExec .start (quoteToken exec ++ quoteGaps args)).finish =
      exec :: args.map Prod.snd := by
    rw [ExecState.start, splitExec_quoteToken, finish_quoteGaps gaps, List.nil_append]
  have shown : (quoteExec exec args).isEmpty = false := by
    rw [Bool.eq_false_iff, Ne, String.isEmpty_iff, ← String.toList_eq_nil_iff, quoteExec,
      String.toList_ofList]
    exact List.cons_ne_nil _ _
  rw [systemdExec, trim_quoteExec]
  simp only [shown, Bool.false_eq_true, if_false]
  rw [quoteExec, String.toList_ofList, tokens]

/-- A program with an empty argument, one with quotes, and one with a line break. -/
theorem systemdExec_quoteExec_printf :
    systemdExec (quoteExec "/bin/printf" [(" ", ""), (" \t", "a \"b\" \\"), ("\n", "c\nd")]) =
      some ("/bin/printf", ["", "a \"b\" \\", "c\nd"]) :=
  systemdExec_quoteExec "/bin/printf" [(" ", ""), (" \t", "a \"b\" \\"), ("\n", "c\nd")] (by
    rw [List.forall_mem_cons, List.forall_mem_cons, List.forall_mem_singleton]
    exact ⟨⟨by decide, List.all_eq_true.mp (by decide)⟩,
      ⟨by decide, List.all_eq_true.mp (by decide)⟩, by decide, List.all_eq_true.mp (by decide)⟩)

end Quoted

end Rind.Systemd
