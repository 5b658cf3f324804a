import Rind.Data.Text

/-!
# Names of units

Every unit is addressed as `group:name@scope`.  The scope may be omitted, and
then is `static`.
-/

namespace Rind

/-- The interned string type of names. -/
abbrev Ustr := String

/-- `rslvns!(a, b)`: the name of an item in a group. -/
def rslvns (parent child : Ustr) : Ustr := parent ++ ":" ++ child

/-- `rslvns!(snorm path)`: a name without its scope. -/
def rslvnsSnorm (path : Ustr) : Ustr :=
  match Text.splitOnce '@' path with
  | some (name, _) => name
  | none => path

/-- The parts of a scoped name. -/
structure ScopedName where
  parent : Ustr
  child : Ustr
  scope : Ustr
  deriving DecidableEq, Repr

/-- `rslvns!(res path)`: the last two segments of the name, and the scope. -/
def parseScopedName (path : Ustr) : ScopedName :=
  let (name, scope) := (Text.splitOnce '@' path).getD (path, "static")
  match (Text.split ':' name).reverse with
  | child :: parent :: _ => { parent, child, scope }
  | [child] => { parent := "", child, scope }
  | [] => { parent := "", child := "", scope }

/-- `compose_scoped_name`: the default scope is left out. -/
def composeScopedName (parent child : Ustr) (scope : Option Ustr) : Ustr :=
  match scope with
  | some scope =>
      if scope ≠ "" ∧ scope ≠ "static" then rslvns parent child ++ "@" ++ scope
      else rslvns parent child
  | none => rslvns parent child

/-- A name without a scope is in the default scope. -/
theorem scope_parseScopedName {path : Ustr} (bare : '@' ∉ path.toList) :
    (parseScopedName path).scope = "static" := by
  rw [parseScopedName, Text.splitOnce_of_notMem bare]
  dsimp only [Option.getD_none]
  split <;> rfl

/-- A name without the separators of names. -/
def PlainPart (name : Ustr) : Prop := ':' ∉ name.toList ∧ '@' ∉ name.toList

theorem toList_rslvns (parent child : Ustr) :
    (rslvns parent child).toList = parent.toList ++ ':' :: child.toList := by
  simp [rslvns]

/-- The parts of any name are without separators. -/
theorem parseScopedName_plain (path : Ustr) :
    PlainPart (parseScopedName path).parent ∧ PlainPart (parseScopedName path).child := by
  have empty : PlainPart "" := by simp [PlainPart]
  have free := Text.notMem_splitOnce '@' path
  have bare : '@' ∉ ((Text.splitOnce '@' path).getD (path, "static")).1.toList := by
    split at free <;> rename_i parts <;> rw [parts] <;> exact free
  cases parts : (Text.splitOnce '@' path).getD (path, "static") with
  | mk name scope =>
      rw [parts] at bare
      have pieces {piece : String} (inside : piece ∈ (Text.split ':' name).reverse) :
          PlainPart piece := by
        have piece_mem := Text.mem_of_mem_split (List.mem_reverse.mp inside)
        exact ⟨piece_mem.1, fun listed => bare (piece_mem.2 _ listed)⟩
      simp only [parseScopedName, parts]
      split
      · rename_i child parent rest reversed
        exact ⟨pieces (reversed ▸ by simp), pieces (reversed ▸ by simp)⟩
      · rename_i child reversed
        exact ⟨empty, pieces (reversed ▸ by simp)⟩
      · exact ⟨empty, empty⟩

/-- The name of an item in its group is taken apart into these exactly where both are without
separators. -/
theorem parseScopedName_rslvns {group name : Ustr} :
    (parseScopedName (rslvns group name)).parent = group ∧
        (parseScopedName (rslvns group name)).child = name ↔
      PlainPart group ∧ PlainPart name := by
  constructor
  · rintro ⟨parent, child⟩
    have plain := parseScopedName_plain (rslvns group name)
    rwa [parent, child] at plain
  · rintro ⟨group_plain, name_plain⟩
    have bare : '@' ∉ (rslvns group name).toList := by
      rw [toList_rslvns, List.mem_append, List.mem_cons]
      simp [group_plain.2, name_plain.2]
    have pieces := Text.split_pair group_plain.1 name_plain.1 (toList_rslvns group name)
    rw [parseScopedName, Text.splitOnce_of_notMem bare]
    simp [pieces]

example : parseScopedName "units:rind:active@s" = ⟨"rind", "active", "s"⟩ := by decide +kernel

end Rind
