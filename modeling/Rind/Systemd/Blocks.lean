import Rind.Systemd.Lines
import Mathlib.Data.List.Forall2

/-!
# The sections of a unit file

A header begins a section, and the assignments behind it belong to it. The loader gives the
assignments before the first header to the section of this header, and of several sections with
the same name it sees the last one only.
-/

namespace Rind.Systemd

/-! ## Blocks of assignments -/

/-- What a line stands for. -/
inductive Item where
  | header (name : String)
  | assignment (key value : String)
  deriving DecidableEq, Repr

/-- A line without a value stands for nothing. -/
def itemOf (line : String) : Option Item :=
  match parseSectionHeader line with
  | some name => some (.header name)
  | none =>
      match Text.splitOnce '=' line with
      | none => none
      | some (key, value) =>
          if Text.trim value = "" then none
          else some (.assignment (Text.trim key) (Text.trim value))

/-- Keys with their values, in order. -/
abbrev Assignments : Type := List (String × String)

/-- The assignments before the first header, and those behind each header. -/
structure Blocks where
  before : Assignments
  sections : List (String × Assignments)
  deriving DecidableEq, Repr

/-- The assignments between two headers are a block. -/
def blocks : (items : List Item) → Blocks
  | [] => ⟨[], []⟩
  | .header name :: rest => ⟨[], (name, (blocks rest).before) :: (blocks rest).sections⟩
  | .assignment key value :: rest =>
      { blocks rest with before := (key, value) :: (blocks rest).before }

/-- The blocks of a text. -/
def textBlocks (content : String) : Blocks := blocks ((textLines content).filterMap itemOf)

/-- A header is one of a section, in whatever case. -/
def Names (name header : String) : Prop := toAsciiLowercase header = name

instance (name header : String) : Decidable (Names name header) :=
  inferInstanceAs (Decidable (_ = _))

/-- The assignments of a section, behind all its headers. -/
def assigned (name : String) (sections : List (String × Assignments)) : Assignments :=
  (sections.filter (Names name ·.1)).flatMap Prod.snd

/-- The values that are assigned to a key. -/
def valuesOf (key : String) (assignments : Assignments) : List String :=
  (assignments.filter (·.1 = key)).map Prod.snd

/-- A section has the values of some assignments. -/
def Holds (values : IniSection) (assignments : Assignments) : Prop :=
  ∀ key, values.lookup key =
    if valuesOf key assignments = [] then none else some (valuesOf key assignments)

/-- The file shows the sections that have a header, each with its assignments. -/
def IniFile.Shows (ini : IniFile) (sections : List (String × Assignments)) : Prop :=
  ∀ name, ((ini.sectionOf name).isSome ↔ ∃ block ∈ sections, Names name block.1) ∧
    ∀ values ∈ ini.sectionOf name, Holds values (assigned name sections)

/-- The loader reads the lines of the text, and sees their assignments in the sections. -/
structure Reads (content : String) : Prop where
  lines : (readLines stripComment "" (Text.lines content)).logical = textLines content
  sections : (parseIni content).Shows (textBlocks content).sections

section Values

variable {key value name : String} {assignments more : Assignments} {values : IniSection}

theorem valuesOf_append :
    valuesOf key (assignments ++ more) = valuesOf key assignments ++ valuesOf key more := by
  simp [valuesOf]

theorem eq_nil_of_valuesOf (none : ∀ key, valuesOf key assignments = []) : assignments = [] := by
  cases assignments with
  | nil => rfl
  | cons entry rest =>
      have first := none entry.1
      simp [valuesOf] at first

theorem holds_empty : Holds ∅ [] := fun _ => rfl

theorem Holds.assign (held : Holds values assignments) (key value : String) :
    Holds (values.insert key ((values.lookup key).getD [] ++ [value]))
      (assignments ++ [(key, value)]) := by
  have before : (values.lookup key).getD [] = valuesOf key assignments := by
    rw [held key]
    split
    · next none => exact none.symm
    · rfl
  intro other
  by_cases same : other = key
  · subst same
    rw [AList.lookup_insert, before, valuesOf_append]
    simp [valuesOf]
  · have none : valuesOf other [(key, value)] = [] := by simp [valuesOf, Ne.symm same]
    rw [AList.lookup_insert_ne same, held other, valuesOf_append, none, List.append_nil]

/-- A section has the values of other assignments exactly if these are the same. -/
theorem Holds.iff_values (held : Holds values assignments) :
    Holds values more ↔ ∀ key, valuesOf key assignments = valuesOf key more := by
  constructor
  · intro held' key
    have same := (held key).symm.trans (held' key)
    split at same
    · next none =>
        split at same
        · next none' => rw [none, none']
        · cases same
    · split at same
      · cases same
      · exact Option.some.inj same
  · intro same key
    rw [held key, same key]

end Values

/-! ## What the loader makes of the items -/

/-- What an item does to the section that is being read. -/
def IniState.read (state : IniState) : (item : Item) → IniState
  | .header name => { state.closed with current := some name }
  | .assignment key value => { state with
      currentMap := state.currentMap.insert key
        ((state.currentMap.lookup key).getD [] ++ [value]) }

/-- What a line does that is no comment and does not go on. -/
def IniState.readLine (state : IniState) (line : String) : IniState :=
  match itemOf line with
  | some item => state.read item
  | none => state

/-- A line is dropped, goes on, or is read as what it stands for. -/
theorem parseLine_eq (state : IniState) (rawLine : String) :
    parseLine state rawLine =
      if stripComment (joinLine state.pending rawLine) = "" then { state with pending := "" }
      else if isContinuation (stripComment (joinLine state.pending rawLine)) then
        { state with
          pending :=
            stripTrailingBackslash (stripComment (joinLine state.pending rawLine)) ++ " " }
      else IniState.readLine { state with pending := "" }
        (stripComment (joinLine state.pending rawLine)) := by
  rw [parseLine, ← joinLine]
  generalize stripComment (joinLine state.pending rawLine) = line
  dsimp only
  split
  · rfl
  split
  · rfl
  rw [IniState.readLine, itemOf]
  cases header : parseSectionHeader line with
  | some name => rfl
  | none =>
      cases parts : Text.splitOnce '=' line with
      | none => rfl
      | some parts =>
          dsimp only
          split
          · rfl
          · rfl

theorem readLine_pending (state : IniState) (line : String) :
    (state.readLine line).pending = state.pending := by
  rw [IniState.readLine]
  split
  · next item _ =>
      cases item with
      | header name =>
          rw [IniState.read, IniState.closed]
          split
          · rfl
          · rfl
      | assignment key value => rfl
  · rfl

/-- The lines are read one by one, as far as they stand for something. -/
theorem foldl_parseLine (rawLines : List String) (state : IniState) :
    (rawLines.foldl parseLine state).closed.sections =
      ((readLines stripComment state.pending rawLines).logical.foldl
        IniState.readLine { state with pending := "" }).closed.sections := by
  induction rawLines generalizing state with
  | nil =>
      rw [List.foldl_nil, readLines, List.foldl_nil, IniState.closed, IniState.closed]
      dsimp only
      split
      · rfl
      · rfl
  | cons rawLine rest ih =>
      rw [List.foldl_cons, ih, readLines, parseLine_eq]
      split
      · rfl
      · split
        · rfl
        · have read := readLine_pending { state with pending := "" }
            (stripComment (joinLine state.pending rawLine))
          rw [List.foldl_cons]
          generalize IniState.readLine _ _ = after at read ⊢
          cases after
          cases read
          rfl

theorem foldl_readLine (lines : List String) (state : IniState) :
    lines.foldl IniState.readLine state = (lines.filterMap itemOf).foldl IniState.read state := by
  induction lines generalizing state with
  | nil => rfl
  | cons line rest ih =>
      rw [List.foldl_cons, ih, IniState.readLine]
      cases found : itemOf line with
      | none => rw [List.filterMap_cons_none found]
      | some item => rw [List.filterMap_cons_some found, List.foldl_cons]

/-- A section is a block with the same name. -/
def IsBlock (entry : String × IniSection) (block : String × Assignments) : Prop :=
  entry.1 = block.1 ∧ Holds entry.2 block.2

/-- The sections that come of some items, with the assignments that are read already. -/
def openBlocks (current : Option String) (already : Assignments) (later : Blocks) :
    List (String × Assignments) :=
  match current with
  | some name => (name, already ++ later.before) :: later.sections
  | none =>
      match later.sections with
      | [] => []
      | (name, own) :: rest => (name, already ++ later.before ++ own) :: rest

theorem openBlocks_assignment (current : Option String) (already : Assignments) (key value : String)
    (rest : List Item) :
    openBlocks current already (blocks (.assignment key value :: rest)) =
      openBlocks current (already ++ [(key, value)]) (blocks rest) := by
  rw [blocks]
  cases current with
  | some name => simp [openBlocks]
  | none => simp [openBlocks]

/-- The sections of the loader are the blocks of the items. -/
theorem sections_foldl (items : List Item) (state : IniState) {already : Assignments}
    (held : Holds state.currentMap already) :
    ∃ later, (items.foldl IniState.read state).closed.sections = state.sections ++ later ∧
      List.Forall₂ IsBlock later (openBlocks state.current already (blocks items)) := by
  induction items generalizing state already with
  | nil =>
      rw [List.foldl_nil, blocks, IniState.closed]
      cases state.current with
      | none => exact ⟨[], (List.append_nil _).symm, .nil⟩
      | some name =>
          refine ⟨[(name, state.currentMap)], rfl, ?_⟩
          rw [openBlocks, List.append_nil]
          exact .cons ⟨rfl, held⟩ .nil
  | cons item rest ih =>
      rw [List.foldl_cons]
      cases item with
      | assignment key value =>
          rw [openBlocks_assignment]
          exact ih (state.read (.assignment key value)) (held.assign key value)
      | header name =>
          rw [blocks]
          cases current : state.current with
          | none =>
              have same : state.read (.header name) = { state with current := some name } := by
                rw [IniState.read, IniState.closed, current]
              rw [same]
              obtain ⟨later, stored, shown⟩ := ih { state with current := some name } held
              refine ⟨later, stored, ?_⟩
              rw [openBlocks, List.append_nil]
              exact shown
          | some open_ =>
              have ended : state.read (.header name) =
                  { state with
                    sections := state.sections ++ [(open_, state.currentMap)]
                    current := some name
                    currentMap := ∅ } := by
                rw [IniState.read, IniState.closed, current]
              rw [ended]
              obtain ⟨later, stored, shown⟩ := ih
                { state with
                  sections := state.sections ++ [(open_, state.currentMap)]
                  current := some name
                  currentMap := ∅ } holds_empty
              refine ⟨(open_, state.currentMap) :: later, ?_, ?_⟩
              · rw [stored, List.append_assoc, List.singleton_append]
              · rw [openBlocks, List.append_nil]
                exact .cons ⟨rfl, held⟩ shown

/-! ## The last section of a name -/

/-- The sections that the loader reads: what stands before the first header belongs to it. -/
def Blocks.loaded (parts : Blocks) : List (String × Assignments) := openBlocks none [] parts

/-- The last block of a name. -/
def lastOf (name : String) : (sections : List (String × Assignments)) → Option Assignments
  | [] => none
  | block :: rest => (lastOf name rest).or (if Names name block.1 then some block.2 else none)

/-- The last block of each name has the assignments of its section. -/
def Faithful (loaded sections : List (String × Assignments)) : Prop :=
  ∀ name own, lastOf name loaded = some own →
    ∀ key, valuesOf key own = valuesOf key (assigned name sections)

section Last

variable {name key : String} {sections loaded rest : List (String × Assignments)}
  {block : String × Assignments} {own before : Assignments}

theorem sectionOf_cons (entry : String × IniSection) (rest : List (String × IniSection)) :
    (IniFile.mk (entry :: rest)).sectionOf name =
      ((IniFile.mk rest).sectionOf name).or
        (if Names name entry.1 then some entry.2 else none) := by
  rw [IniFile.sectionOf, IniFile.sectionOf, List.reverse_cons, List.find?_append, List.find?_cons,
    List.find?_nil, Option.map_or]
  by_cases named : toAsciiLowercase entry.1 = name
  · simp [Names, named]
  · simp [Names, named]

/-- The loader sees the last section of a name. -/
theorem sectionOf_isBlock {entries : List (String × IniSection)}
    (shown : List.Forall₂ IsBlock entries loaded) (name : String) :
    Option.Rel Holds ((IniFile.mk entries).sectionOf name) (lastOf name loaded) := by
  induction shown with
  | nil => exact .none
  | cons first others ih =>
      obtain ⟨same, held⟩ := first
      rw [sectionOf_cons, lastOf, same]
      generalize IniFile.sectionOf _ name = seen, lastOf name _ = own at ih ⊢
      cases ih with
      | some held' => exact .some held'
      | none =>
          rw [Option.none_or, Option.none_or]
          split
          · exact .some held
          · exact .none

theorem assigned_cons :
    assigned name (block :: rest) =
      (if Names name block.1 then block.2 else []) ++ assigned name rest := by
  rw [assigned, List.filter_cons]
  by_cases named : Names name block.1
  · simp [named, assigned]
  · simp [named, assigned]

theorem lastOf_eq_none : lastOf name sections = none ↔
    ∀ block ∈ sections, ¬ Names name block.1 := by
  induction sections with
  | nil => simp [lastOf]
  | cons block rest ih => simp [lastOf, ih, and_comm]

theorem assigned_of_lastOf_none (none : lastOf name sections = none) :
    assigned name sections = [] := by
  rw [lastOf_eq_none] at none
  rw [assigned, List.filter_eq_nil_iff.mpr fun block listed => by simp [none block listed]]
  rfl

/-- The last block is the end of the section. -/
theorem assigned_of_lastOf (last : lastOf name sections = some own) :
    ∃ earlier, assigned name sections = earlier ++ own := by
  induction sections with
  | nil => cases last
  | cons block rest ih =>
      rw [lastOf] at last
      rw [assigned_cons]
      cases later : lastOf name rest with
      | some own' =>
          rw [later, Option.some_or] at last
          obtain ⟨earlier, shape⟩ := ih (later.trans last)
          exact ⟨_ ++ earlier, by rw [shape, List.append_assoc]⟩
      | none =>
          rw [later, Option.none_or] at last
          split at last
          · next named =>
              cases last
              exact ⟨[], by rw [if_pos named, assigned_of_lastOf_none later, List.append_nil]; rfl⟩
          · cases last

/-- Where a later block of the name follows, the values in front are not seen. -/
theorem valuesOf_last (last : lastOf name rest = some own)
    (same : valuesOf key own = valuesOf key (before ++ assigned name rest)) :
    valuesOf key before = [] ∧ valuesOf key own = valuesOf key (assigned name rest) := by
  obtain ⟨earlier, shape⟩ := assigned_of_lastOf last
  rw [shape, valuesOf_append, valuesOf_append] at same
  have lengths := congrArg List.length same
  rw [List.length_append, List.length_append] at lengths
  have front : valuesOf key before = [] := List.eq_nil_of_length_eq_zero (by omega)
  refine ⟨front, ?_⟩
  rw [shape, valuesOf_append]
  rwa [front, List.nil_append] at same

theorem exists_lastOf (more : ∃ other ∈ rest, Names name other.1) :
    ∃ own, lastOf name rest = some own := by
  cases last : lastOf name rest with
  | some own => exact ⟨own, rfl⟩
  | none =>
      obtain ⟨other, listed, named⟩ := more
      exact absurd named (lastOf_eq_none.mp last other listed)

/-- A block whose name comes again has no assignments, and otherwise nothing is in front of it. -/
theorem faithful_cons (block : String × Assignments) (before : Assignments)
    (rest : List (String × Assignments)) :
    Faithful ((block.1, before ++ block.2) :: rest) (block :: rest) ↔
      Faithful rest rest ∧
        if ∃ other ∈ rest, Names (toAsciiLowercase block.1) other.1 then block.2 = []
        else before = [] := by
  have self : Names (toAsciiLowercase block.1) block.1 := rfl
  constructor
  · intro faithful
    have behind {name : String} {own : Assignments} (last : lastOf name rest = some own)
        (key : String) := faithful name own (by rw [lastOf, last, Option.some_or]) key
    constructor
    · intro name own last key
      have same := behind last key
      rw [assigned_cons] at same
      exact (valuesOf_last last same).2
    · split
      · next more =>
          obtain ⟨own, last⟩ := exists_lastOf more
          apply eq_nil_of_valuesOf
          intro key
          have same := behind last key
          rw [assigned_cons, if_pos self] at same
          exact (valuesOf_last last same).1
      · next alone =>
          have none : lastOf (toAsciiLowercase block.1) rest = none :=
            lastOf_eq_none.mpr fun other listed named => alone ⟨other, listed, named⟩
          apply eq_nil_of_valuesOf
          intro key
          have same := faithful (toAsciiLowercase block.1) (before ++ block.2)
            (by rw [lastOf, none, Option.none_or, if_pos self]) key
          rw [assigned_cons, if_pos self, assigned_of_lastOf_none none, List.append_nil,
            valuesOf_append] at same
          exact List.append_left_eq_self.mp same
  · rintro ⟨faithful, first⟩ name own last key
    rw [lastOf] at last
    rw [assigned_cons]
    cases later : lastOf name rest with
    | some own' =>
        rw [later, Option.some_or] at last
        cases last
        rw [faithful name own later key]
        split
        · next named =>
            have more : ∃ other ∈ rest, Names (toAsciiLowercase block.1) other.1 := by
              by_contra alone
              have none : lastOf name rest = none :=
                lastOf_eq_none.mpr fun other listed same =>
                  alone ⟨other, listed, same.trans named.symm⟩
              cases none.symm.trans later
            rw [if_pos more] at first
            rw [first, List.nil_append]
        · rw [List.nil_append]
    | none =>
        rw [later, Option.none_or] at last
        split at last
        · next named =>
            cases last
            have alone : ¬ ∃ other ∈ rest, Names (toAsciiLowercase block.1) other.1 := by
              rintro ⟨other, listed, same⟩
              exact lastOf_eq_none.mp later other listed (same.trans named)
            rw [if_neg alone] at first
            rw [if_pos named, assigned_of_lastOf_none later, first, List.nil_append,
              List.append_nil]
        · cases last

theorem faithful_self :
    Faithful sections sections ↔ sections.Pairwise fun earlier later =>
      toAsciiLowercase earlier.1 = toAsciiLowercase later.1 → earlier.2 = [] := by
  induction sections with
  | nil => simp [Faithful, lastOf]
  | cons block rest ih =>
      have step := faithful_cons block [] rest
      rw [List.nil_append] at step
      rw [step, ih, List.pairwise_cons, and_comm]
      apply and_congr_left'
      split
      · next more =>
          obtain ⟨other, listed, named⟩ := more
          exact ⟨fun none _ _ _ => none, fun alone => alone other listed named.symm⟩
      · next alone =>
          exact ⟨fun _ other listed same => absurd ⟨other, listed, same.symm⟩ alone, fun _ => rfl⟩

end Last

/-! ## The texts that are read as they are meant -/

section Texts

variable {content name : String} {ini : IniFile} {parts : Blocks}

theorem map_loaded : parts.loaded.map Prod.fst = parts.sections.map Prod.fst := by
  rw [Blocks.loaded, openBlocks]
  split
  · next empty => rw [empty]
  · next shape => rw [shape]; rfl

theorem named_loaded :
    (∃ block ∈ parts.loaded, Names name block.1) ↔
      ∃ block ∈ parts.sections, Names name block.1 := by
  have headers (sections : List (String × Assignments)) :
      (∃ block ∈ sections, Names name block.1) ↔ ∃ header ∈ sections.map Prod.fst,
        Names name header := by simp
  rw [headers, headers, map_loaded]

/-- The file shows the sections exactly if the last block of each name has what is assigned in
it. -/
theorem shows_iff (shown : List.Forall₂ IsBlock ini.sections parts.loaded) :
    ini.Shows parts.sections ↔ Faithful parts.loaded parts.sections := by
  constructor
  · intro shows name own last
    have related := sectionOf_isBlock shown name
    rw [last] at related
    generalize seen : IniFile.sectionOf _ name = values at related
    cases related with
    | some held => exact held.iff_values.mp ((shows name).2 _ seen)
  · intro faithful name
    have related : Option.Rel Holds (ini.sectionOf name) (lastOf name parts.loaded) :=
      sectionOf_isBlock shown name
    have none : lastOf name parts.loaded = none ↔ ∀ block ∈ parts.loaded, ¬ Names name block.1 :=
      lastOf_eq_none
    have same := faithful name
    rw [← named_loaded]
    generalize ini.sectionOf name = seen, lastOf name parts.loaded = own at related none same ⊢
    cases related with
    | none =>
        have unnamed := none.mp rfl
        exact ⟨by simpa using unnamed, fun values seen => nomatch seen⟩
    | some held =>
        have named : ∃ block ∈ parts.loaded, Names name block.1 := by
          by_contra alone
          cases none.mpr fun block listed named => alone ⟨block, listed, named⟩
        refine ⟨⟨fun _ => named, fun _ => rfl⟩, ?_⟩
        rintro values ⟨⟩
        exact held.iff_values.mpr (same _ rfl)

/-- The texts that the loader reads as they are meant: a comment starts at the same sign if
nothing is escaped, no line goes on at the end, no assignment stands in front of the first header
(unless its name comes again), and those of a section stand behind its last header. -/
structure Straight (content : String) : Prop where
  comments : ∀ line ∈ (readLines (cutLine unescapedSign) "" (Text.lines content)).joined,
    CutAlike bareSign unescapedSign [] line.toList
  ended : Text.trim (readLines (cutLine unescapedSign) "" (Text.lines content)).pending = ""
  front : ∀ first rest, (textBlocks content).sections = first :: rest →
    (textBlocks content).before = [] ∨ ∃ other ∈ rest, Names (toAsciiLowercase first.1) other.1
  once : (textBlocks content).sections.Pairwise fun earlier later =>
    toAsciiLowercase earlier.1 = toAsciiLowercase later.1 → earlier.2 = []

theorem faithful_iff :
    Faithful parts.loaded parts.sections ↔
      (∀ first rest, parts.sections = first :: rest →
        parts.before = [] ∨ ∃ other ∈ rest, Names (toAsciiLowercase first.1) other.1) ∧
      parts.sections.Pairwise fun earlier later =>
        toAsciiLowercase earlier.1 = toAsciiLowercase later.1 → earlier.2 = [] := by
  rw [← faithful_self, Blocks.loaded, openBlocks]
  cases parts.sections with
  | nil => simp
  | cons first rest =>
      have plain := faithful_cons first [] rest
      rw [List.nil_append] at plain
      have front : (∀ first' rest', first :: rest = first' :: rest' → parts.before = [] ∨
          ∃ other ∈ rest', Names (toAsciiLowercase first'.1) other.1) ↔
            (parts.before = [] ∨ ∃ other ∈ rest, Names (toAsciiLowercase first.1) other.1) := by
        constructor
        · intro all
          exact all first rest rfl
        · rintro given _ _ ⟨⟩
          exact given
      dsimp only
      rw [List.nil_append, faithful_cons, plain, front]
      split
      · next more =>
          exact ⟨fun both => ⟨.inr more, both⟩, And.right⟩
      · next alone =>
          exact ⟨fun both => ⟨.inl both.2, both.1, rfl⟩,
            fun all => ⟨all.2.1, all.1.resolve_right alone⟩⟩

theorem lines_iff :
    (readLines stripComment "" (Text.lines content)).logical = textLines content ↔
      (∀ line ∈ (readLines (cutLine unescapedSign) "" (Text.lines content)).joined,
        CutAlike bareSign unescapedSign [] line.toList) ∧
      Text.trim (readLines (cutLine unescapedSign) "" (Text.lines content)).pending = "" := by
  have empty : Whole unescapedSign [] "".toList := rfl
  rw [stripComment_eq, textLines, logical_eq_iff empty]
  simp only [← cutAt_eq_iff, cutLine, String.ofList_inj]

theorem parseIni_shown
    (read : (readLines stripComment "" (Text.lines content)).logical = textLines content) :
    List.Forall₂ IsBlock (parseIni content).sections (textBlocks content).loaded := by
  obtain ⟨later, stored, shown⟩ := sections_foldl ((textLines content).filterMap itemOf)
    ⟨[], none, ∅, ""⟩ holds_empty
  rw [parseIni, foldl_parseLine, read, foldl_readLine, stored]
  exact shown

/-- The loader reads a text as it is meant exactly if escapes do not matter for its comments, no
line goes on at its end, and the assignments of a section stand behind the last one of its
headers. -/
theorem reads_iff (content : String) : Reads content ↔ Straight content := by
  constructor
  · intro reads
    obtain ⟨comments, ended⟩ := lines_iff.mp reads.lines
    obtain ⟨front, once⟩ :=
      faithful_iff.mp ((shows_iff (parseIni_shown reads.lines)).mp reads.sections)
    exact ⟨comments, ended, front, once⟩
  · intro straight
    have lines := lines_iff.mpr ⟨straight.comments, straight.ended⟩
    exact ⟨lines, (shows_iff (parseIni_shown lines)).mpr
      (faithful_iff.mpr ⟨straight.front, straight.once⟩)⟩

end Texts

/-- A key that is seen with other values than are assigned to it. -/
theorem not_reads_of_lookup {content name key : String} {seen : Option (List String)}
    (loaded : ((parseIni content).sectionOf name).map (·.lookup key) = some seen)
    (apart : seen ≠ if valuesOf key (assigned name (textBlocks content).sections) = [] then none
      else some (valuesOf key (assigned name (textBlocks content).sections))) :
    ¬ Reads content := by
  intro reads
  obtain ⟨values, found, rfl⟩ := Option.map_eq_some_iff.mp loaded
  exact apart ((reads.sections name).2 values found key)

/-! ### Four texts -/

/-- The first header's command is lost where the section goes on behind a second one, a sign is
cut out of a value, an assignment in front of the first header is taken into its section, and
a last line that goes on is dropped. -/
theorem not_reads :
    ¬ Reads "[Service]\nExecStart=a\n[Service]\nUser=b" ∧
      ¬ Reads "[Service]\nExecStart=a \\# b" ∧
      ¬ Reads "User=b\n[Service]\nExecStart=a" ∧
      ¬ Reads "[Service]\nExecStart=a \\" := by
  refine ⟨?_, fun reads => ?_, ?_, fun reads => ?_⟩
  · have lost : ((parseIni "[Service]\nExecStart=a\n[Service]\nUser=b").sectionOf "service").map
        (·.lookup "ExecStart") = some none := by decide +kernel
    exact not_reads_of_lookup lost (by decide +kernel)
  · exact absurd reads.lines (by decide +kernel)
  · have taken : ((parseIni "User=b\n[Service]\nExecStart=a").sectionOf "service").map
        (·.lookup "User") = some (some ["b"]) := by decide +kernel
    exact not_reads_of_lookup taken (by decide +kernel)
  · exact absurd reads.lines (by decide +kernel)

end Rind.Systemd
