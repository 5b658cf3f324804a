import Mathlib.Data.List.AList
import Rind.Data.Text

/-!
# The files of systemd

A unit file is read line by line: sections, keys that may come several times,
comments outside of quotes, and lines that go on after a backslash.
-/

namespace Rind.Systemd

/-- The values of each key, in their order. -/
abbrev IniSection : Type := AList fun _ : String => List String

structure IniFile where
  sections : List (String × IniSection)

def singleQuote : Char := Char.ofNat 0x27

def doubleQuote : Char := Char.ofNat 0x22

def backslash : Char := Char.ofNat 0x5C

def trimStart (text : String) : String :=
  String.ofList (text.toList.dropWhile Text.isWhitespace)

def trimEnd (text : String) : String :=
  String.ofList (text.toList.reverse.dropWhile Text.isWhitespace).reverse

def toAsciiLowercase (text : String) : String := String.ofList (text.toList.map Char.toLower)

/-- The characters before a comment sign that is not quoted. -/
def beforeComment (inSingle inDouble : Bool) : List Char → List Char
  | [] => []
  | c :: rest =>
      if c = singleQuote ∧ ¬ inDouble then c :: beforeComment (!inSingle) inDouble rest
      else if c = doubleQuote ∧ ¬ inSingle then c :: beforeComment inSingle (!inDouble) rest
      else if (c = '#' ∨ c = ';') ∧ ¬ inSingle ∧ ¬ inDouble then []
      else c :: beforeComment inSingle inDouble rest

def stripComment (line : String) : String := String.ofList (beforeComment false false line.toList)

def isContinuation (line : String) : Bool :=
  Text.endsWith line (String.ofList [backslash]) &&
    !Text.endsWith line (String.ofList [backslash, backslash])

def stripTrailingBackslash (line : String) : String :=
  Text.trimEndMatches (String.ofList [backslash]) (trimEnd line)

def parseSectionHeader (line : String) : Option String :=
  let trimmed := Text.trim line
  if Text.startsWith trimmed "[" ∧ Text.endsWith trimmed "]" ∧ 2 ≤ trimmed.toList.length then
    some (Text.trim (String.ofList (trimmed.toList.drop 1).dropLast))
  else none

/-- What `parse_ini` keeps from line to line. -/
structure IniState where
  sections : List (String × IniSection)
  current : Option String
  currentMap : IniSection
  pending : String

/-- The section that is being read ends. -/
def IniState.closed (state : IniState) : IniState :=
  match state.current with
  | some name => { state with
      sections := state.sections ++ [(name, state.currentMap)]
      current := none
      currentMap := ∅ }
  | none => state

def parseLine (state : IniState) (rawLine : String) : IniState :=
  let line := if state.pending = "" then rawLine else state.pending ++ rawLine
  let stripped := stripComment (trimStart line)
  if stripped = "" then { state with pending := "" }
  else if isContinuation stripped then
    { state with pending := stripTrailingBackslash stripped ++ " " }
  else
    let state := { state with pending := "" }
    match parseSectionHeader stripped with
    | some name => { state.closed with current := some name }
    | none =>
        match Text.splitOnce '=' stripped with
        | none => state
        | some (key, value) =>
            let key := Text.trim key
            let value := Text.trim value
            if value = "" then state
            else { state with
              currentMap := state.currentMap.insert key
                ((state.currentMap.lookup key).getD [] ++ [value]) }

def parseIni (content : String) : IniFile :=
  ⟨((Text.lines content).foldl parseLine ⟨[], none, ∅, ""⟩).closed.sections⟩

/-- The section of a name, in whatever case; the last one where there are several. -/
def IniFile.sectionOf (ini : IniFile) (name : String) : Option IniSection :=
  (ini.sections.reverse.find? fun entry => toAsciiLowercase entry.1 = name).map Prod.snd

def allValues (values : IniSection) (key : String) : List String := (values.lookup key).getD []

/-- `split_whitespace`: words, without commas behind them. -/
def splitWords (value : String) : List String :=
  ((Text.splitWhitespace value).map (Text.trimEndMatches ",")).filter (· ≠ "")

end Rind.Systemd
