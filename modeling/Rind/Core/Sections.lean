import Rind.Core.UnitFiles

/-!
# Sections that do not fit

The sections of a file are parsed and put in one after the other.  Where one does not fit,
those before it have taken the place of the definitions of the group.
-/

namespace Rind

open Prog

section Sections

variable {τ M V : Type} [DecidableEq τ]

namespace UnitsMetadata

variable (metadata : UnitsMetadata τ M) (format : UnitFormat τ M V)

/-- The page has the same types, groups and definitions. -/
structure SameAs (other : UnitsMetadata τ M) : Prop where
  name : metadata.name = other.name
  types : metadata.nameToType = other.nameToType
  groups : ∀ group, group ∈ metadata.values ↔ group ∈ other.values
  items : ∀ group type, metadata.getInGroup group type = other.getInGroup group type

/-- A section of some type whose value does not fit it. -/
def Refused (entry : Ustr × V) : Prop :=
  ∃ type error, metadata.nameToType.lookup entry.1 = some type ∧
    format.parse type entry.2 = .error error

/-- What the last section of a type defines. -/
def LastOf (sections : List (Ustr × V)) (type : τ) (items : List M) : Prop :=
  ∃ before entry after, sections = before ++ entry :: after ∧
    metadata.nameToType.lookup entry.1 = some type ∧ format.parse type entry.2 = .ok items ∧
    ∀ later ∈ after, metadata.nameToType.lookup later.1 ≠ some type

/-- The last section of each type before the first one that does not fit defines what the
group has already. -/
def KeepsItems (toml : String) (group : Ustr) : Prop :=
  ∀ before failing rest, format.fromStr toml = .ok (before ++ failing :: rest) →
    (∀ entry ∈ before, ¬ metadata.Refused format entry) → metadata.Refused format failing →
    ∀ type items, metadata.LastOf format before type items →
      metadata.getInGroup group type = some items

/-- Where a file is not accepted, the page is as it was. -/
def UnchangedOnError (toml : String) (group : Ustr) : Prop :=
  ∀ error after, fromToml format toml group metadata = some (.error error, after) →
    after.SameAs metadata

variable {metadata format}

theorem getInGroup_put (group other : Ustr) (type type' : τ) (items : List M) :
    (metadata.put group type items).getInGroup other type' =
      if group = other ∧ type = type' then some items else metadata.getInGroup other type' := by
  rw [getInGroup, put]
  by_cases sameGroup : group = other
  · subst sameGroup
    rw [AList.lookup_insert, Option.bind_some]
    by_cases sameType : type = type'
    · subst sameType
      rw [AList.lookup_insert, if_pos ⟨rfl, rfl⟩]
    · rw [AList.lookup_insert_ne (Ne.symm sameType), if_neg fun both => sameType both.2,
        getInGroup]
      cases metadata.values.lookup group <;> rfl
  · rw [AList.lookup_insert_ne (Ne.symm sameGroup), if_neg fun both => sameGroup both.1]
    rfl

theorem mem_put {group other : Ustr} {type : τ} {items : List M} :
    other ∈ (metadata.put group type items).values ↔ other = group ∨ other ∈ metadata.values :=
  AList.mem_insert _

/-- A group that has definitions is there. -/
theorem mem_of_getInGroup {group : Ustr} {type : τ} {items : List M}
    (found : metadata.getInGroup group type = some items) : group ∈ metadata.values := by
  obtain ⟨values, known, -⟩ := Option.bind_eq_some_iff.mp found
  exact AList.lookup_isSome.mp (Option.isSome_of_eq_some known)

end UnitsMetadata

open UnitsMetadata

variable {metadata : UnitsMetadata τ M} {format : UnitFormat τ M V} {group : Ustr}

/-! ## The sections that are put in -/

/-- The page after a section that fits, or is of no type. -/
def takeSection (format : UnitFormat τ M V) (group : Ustr) (metadata : UnitsMetadata τ M)
    (entry : Ustr × V) : UnitsMetadata τ M :=
  match metadata.nameToType.lookup entry.1 with
  | none => metadata
  | some type =>
      match format.parse type entry.2 with
      | .error _ => metadata
      | .ok items => metadata.put group type items

@[simp] theorem nameToType_takeSection (entry : Ustr × V) :
    (takeSection format group metadata entry).nameToType = metadata.nameToType := by
  rw [takeSection]
  split
  · rfl
  · split <;> rfl

@[simp] theorem name_takeSection (entry : Ustr × V) :
    (takeSection format group metadata entry).name = metadata.name := by
  rw [takeSection]
  split
  · rfl
  · split <;> rfl

theorem nameToType_foldl (sections : List (Ustr × V)) :
    (sections.foldl (takeSection format group) metadata).nameToType = metadata.nameToType := by
  induction sections generalizing metadata with
  | nil => rfl
  | cons entry rest ih => rw [List.foldl_cons, ih, nameToType_takeSection]

theorem name_foldl (sections : List (Ustr × V)) :
    (sections.foldl (takeSection format group) metadata).name = metadata.name := by
  induction sections generalizing metadata with
  | nil => rfl
  | cons entry rest ih => rw [List.foldl_cons, ih, name_takeSection]

omit [DecidableEq τ] in
/-- Whether a section is refused depends on the types only. -/
theorem refused_congr {other : UnitsMetadata τ M} (same : metadata.nameToType = other.nameToType)
    (entry : Ustr × V) : metadata.Refused format entry ↔ other.Refused format entry := by
  rw [Refused, Refused, same]

/-- One section of a file. -/
def collectSection (format : UnitFormat τ M V) (group : Ustr) (entry : Ustr × V) :
    Prog (UnitsMetadata τ M) CoreError Unit := do
  if ← read fun metadata => decide (entry.1 ∈ metadata.nameToType) then
    insertValue format entry.1 entry.2 group
  else pure ()

theorem collectValue_eq (table : List (Ustr × V)) :
    collectValue format table group = each table (collectSection format group) := rfl

theorem collectSection_ok {entry : Ustr × V} (fits : ¬ metadata.Refused format entry) :
    collectSection format group entry metadata =
      some (.ok (), takeSection format group metadata entry) := by
  rw [collectSection, run_read_bind, takeSection]
  cases known : metadata.nameToType.lookup entry.1 with
  | none =>
      have unknown := AList.lookup_eq_none.mp known
      rw [if_neg (by simpa using unknown)]
      rfl
  | some type =>
      have listed := AList.lookup_isSome.mp (Option.isSome_of_eq_some known)
      rw [if_pos (decide_eq_true listed), insertValue, run_read_bind, known]
      cases parsed : format.parse type entry.2 with
      | error error => exact absurd ⟨type, error, known, parsed⟩ fits
      | ok items =>
          simp only [parsed]
          rfl

theorem collectSection_error (group : Ustr) {entry : Ustr × V} (refused : metadata.Refused format entry) :
    ∃ error, collectSection format group entry metadata = some (.error error, metadata) := by
  obtain ⟨type, error, known, parsed⟩ := refused
  have listed := AList.lookup_isSome.mp (Option.isSome_of_eq_some known)
  refine ⟨error, ?_⟩
  rw [collectSection, run_read_bind, if_pos (decide_eq_true listed), insertValue, run_read_bind,
    known]
  simp only [parsed]
  rfl

theorem each_collectSection {sections : List (Ustr × V)}
    (fit : ∀ entry ∈ sections, ¬ metadata.Refused format entry) :
    each sections (collectSection format group) metadata =
      some (.ok (), sections.foldl (takeSection format group) metadata) := by
  induction sections generalizing metadata with
  | nil => rfl
  | cons entry rest ih =>
      obtain ⟨first, others⟩ := List.forall_mem_cons.mp fit
      rw [each_cons, run_bind_of_ok (collectSection_ok first), List.foldl_cons]
      apply ih
      intro later listed
      rw [refused_congr (nameToType_takeSection entry)]
      exact others later listed

omit [DecidableEq τ] in
theorem first_refused {sections : List (Ustr × V)}
    (some_ : ¬ ∀ entry ∈ sections, ¬ metadata.Refused format entry) :
    ∃ before failing rest, sections = before ++ failing :: rest ∧
      (∀ entry ∈ before, ¬ metadata.Refused format entry) ∧ metadata.Refused format failing := by
  induction sections with
  | nil => exact absurd (fun entry listed => absurd listed List.not_mem_nil) some_
  | cons entry rest ih =>
      by_cases refused : metadata.Refused format entry
      · exact ⟨[], entry, rest, rfl, fun other listed => absurd listed List.not_mem_nil, refused⟩
      · obtain ⟨before, failing, rest, rfl, fit, fails⟩ :=
          ih fun others => some_ (List.forall_mem_cons.mpr ⟨refused, others⟩)
        exact ⟨entry :: before, failing, rest, rfl, List.forall_mem_cons.mpr ⟨refused, fit⟩, fails⟩

/-- A file fails at its first section that does not fit, after those before it were put in. -/
theorem collectValue_error_iff {table : List (Ustr × V)} {after : UnitsMetadata τ M} :
    (∃ error, collectValue format table group metadata = some (.error error, after)) ↔
      ∃ before failing rest, table = before ++ failing :: rest ∧
        (∀ entry ∈ before, ¬ metadata.Refused format entry) ∧
        metadata.Refused format failing ∧
        after = before.foldl (takeSection format group) metadata := by
  have fails {before : List (Ustr × V)} (rest : List (Ustr × V)) {failing : Ustr × V}
      (fit : ∀ entry ∈ before, ¬ metadata.Refused format entry)
      (refused : metadata.Refused format failing) : ∃ error,
        collectValue format (before ++ failing :: rest) group metadata =
          some (.error error, before.foldl (takeSection format group) metadata) := by
    have kept : (before.foldl (takeSection format group) metadata).Refused format failing := by
      rwa [refused_congr (nameToType_foldl before)]
    obtain ⟨error, failed⟩ := collectSection_error group kept
    refine ⟨error, ?_⟩
    rw [collectValue_eq, each_append_of_ok (each_collectSection fit), each_cons]
    exact run_bind_of_error failed
  constructor
  · rintro ⟨error, ran⟩
    by_cases fit : ∀ entry ∈ table, ¬ metadata.Refused format entry
    · rw [collectValue_eq, each_collectSection fit] at ran
      cases ran
    · obtain ⟨before, failing, rest, rfl, fit, refused⟩ := first_refused fit
      obtain ⟨error', failed⟩ := fails rest fit refused
      cases ran.symm.trans failed
      exact ⟨before, failing, rest, rfl, fit, refused, rfl⟩
  · rintro ⟨before, failing, rest, rfl, fit, refused, rfl⟩
    exact fails rest fit refused

/-! ## What has changed -/

omit [DecidableEq τ] in
theorem lastOf_append {sections : List (Ustr × V)} {entry : Ustr × V} {type : τ} {items : List M} :
    metadata.LastOf format (sections ++ [entry]) type items ↔
      metadata.nameToType.lookup entry.1 = some type ∧ format.parse type entry.2 = .ok items ∨
        metadata.nameToType.lookup entry.1 ≠ some type ∧
          metadata.LastOf format sections type items := by
  constructor
  · rintro ⟨before, last, after, split, known, parsed, later⟩
    cases after using List.reverseRecOn with
    | nil =>
        obtain ⟨rfl, same⟩ := List.append_inj' split rfl
        cases same
        exact .inl ⟨known, parsed⟩
    | append_singleton after final =>
        rw [← List.cons_append, ← List.append_assoc] at split
        obtain ⟨rfl, same⟩ := List.append_inj' split rfl
        cases same
        obtain ⟨others, final_⟩ := List.forall_mem_append.mp later
        exact .inr ⟨final_ _ (List.mem_singleton_self _),
          before, last, after, rfl, known, parsed, others⟩
  · rintro (⟨known, parsed⟩ | ⟨other, before, last, after, rfl, known, parsed, later⟩)
    · exact ⟨sections, entry, [], rfl, known, parsed, fun later listed =>
        absurd listed List.not_mem_nil⟩
    · refine ⟨before, last, after ++ [entry], by simp, known, parsed, ?_⟩
      apply List.forall_mem_append.mpr ⟨later, _⟩
      intro final listed
      rwa [List.mem_singleton.mp listed]

omit [DecidableEq τ] in
theorem lastOf_append_of_none {sections : List (Ustr × V)} {entry : Ustr × V} {type : τ}
    {items : List M} (unknown : metadata.nameToType.lookup entry.1 = none) :
    metadata.LastOf format (sections ++ [entry]) type items ↔
      metadata.LastOf format sections type items := by
  rw [lastOf_append, unknown]
  simp

/-- What a group has after some sections: the last section of each type, and what it had. -/
structure SectionsTaken (format : UnitFormat τ M V) (group : Ustr) (metadata : UnitsMetadata τ M)
    (sections : List (Ustr × V)) (after : UnitsMetadata τ M) : Prop where
  written : ∀ type items, metadata.LastOf format sections type items →
    after.getInGroup group type = some items
  kept : ∀ other type, (other = group → ∀ items, ¬ metadata.LastOf format sections type items) →
    after.getInGroup other type = metadata.getInGroup other type
  groups : ∀ other, other ∈ after.values ↔ other ∈ metadata.values ∨
    other = group ∧ ∃ type items, metadata.LastOf format sections type items

/-- A further section that fits takes the place of what the group has of its type. -/
theorem SectionsTaken.put {sections : List (Ustr × V)} {entry : Ustr × V}
    {after : UnitsMetadata τ M} (taken : SectionsTaken format group metadata sections after)
    {type : τ} {items : List M} (known : metadata.nameToType.lookup entry.1 = some type)
    (parsed : format.parse type entry.2 = .ok items) :
    SectionsTaken format group metadata (sections ++ [entry]) (after.put group type items) := by
  obtain ⟨written, kept, groups⟩ := taken
  have lastOf (other : τ) (defined : List M) :
      metadata.LastOf format (sections ++ [entry]) other defined ↔
        type = other ∧ items = defined ∨
          type ≠ other ∧ metadata.LastOf format sections other defined := by
    rw [lastOf_append, known, ne_eq, Option.some.injEq]
    apply or_congr_left
    apply and_congr_right
    rintro rfl
    rw [parsed, Except.ok.injEq]
  have new := (lastOf type items).mpr (.inl ⟨rfl, rfl⟩)
  constructor
  · intro other defined last
    rw [getInGroup_put]
    rcases (lastOf other defined).mp last with ⟨rfl, rfl⟩ | ⟨apart, last⟩
    · rw [if_pos ⟨rfl, rfl⟩]
    · rw [if_neg fun both => apart both.2]
      exact written other defined last
  · intro other type' none_
    rw [getInGroup_put]
    split
    · next same =>
        obtain ⟨rfl, rfl⟩ := same
        exact absurd new (none_ rfl items)
    · next apart =>
        apply kept other type'
        rintro rfl defined last
        have apart : type ≠ type' := fun same => apart ⟨rfl, same⟩
        exact none_ rfl defined ((lastOf _ _).mpr (.inr ⟨apart, last⟩))
  · intro other
    rw [mem_put, groups]
    constructor
    · rintro (rfl | old | ⟨rfl, -⟩)
      · exact .inr ⟨rfl, type, items, new⟩
      · exact .inl old
      · exact .inr ⟨rfl, type, items, new⟩
    · rintro (old | ⟨rfl, -⟩)
      · exact .inr (.inl old)
      · exact .inl rfl

theorem foldl_taken (group : Ustr) {sections : List (Ustr × V)}
    (fit : ∀ entry ∈ sections, ¬ metadata.Refused format entry) :
    SectionsTaken format group metadata sections
      (sections.foldl (takeSection format group) metadata) := by
  induction sections using List.reverseRecOn with
  | nil =>
      have none_ (type : τ) (items : List M) : ¬ metadata.LastOf format [] type items := by
        rintro ⟨before, entry, after, split, -⟩
        cases before <;> cases split
      exact ⟨fun type items last => absurd last (none_ type items), fun _ _ _ => rfl,
        fun other => (or_iff_left fun ⟨_, type, items, last⟩ => none_ type items last).symm⟩
  | append_singleton sections entry ih =>
      obtain ⟨others, last⟩ := List.forall_mem_append.mp fit
      have taken := ih others
      rw [List.foldl_append, List.foldl_cons, List.foldl_nil, takeSection, nameToType_foldl]
      cases known : metadata.nameToType.lookup entry.1 with
      | none =>
          obtain ⟨written, kept, groups⟩ := taken
          constructor
          · simpa only [lastOf_append_of_none known] using written
          · simpa only [lastOf_append_of_none known] using kept
          · simpa only [lastOf_append_of_none known] using groups
      | some type =>
          cases parsed : format.parse type entry.2 with
          | error error =>
              exact absurd ⟨type, error, known, parsed⟩ (last entry (List.mem_singleton_self _))
          | ok items =>
              simp only [parsed]
              exact taken.put known parsed

end Sections

section Examples

/-- The text of a file with a facet and an impulse without a name. -/
def mixedText : String := "[[facet]]\nname = \"ready\"\n[[impulse]]\n"

/-- What this text means. -/
def mixedFormat : UnitFormat SectionType SampleDefinition (Option Ustr) where
  fromStr text :=
    if text = mixedText then .ok [("facet", some "ready"), ("impulse", none)]
    else .error (.parseError "expected a section")
  parse _ value :=
    match value with
    | some name => .ok [⟨name⟩]
    | none => .error (.parseError "missing field \x60name\x60\nin \x60impulse\x60\n")

/-- A page with one facet in the group of the file. -/
def readyPage : UnitsMetadata SectionType SampleDefinition where
  name := "static"
  nameToType := (AList.singleton "facet" .facet).insert "impulse" .impulse
  values := AList.singleton "net" (AList.singleton .facet [⟨"online"⟩])

end Examples

end Rind
