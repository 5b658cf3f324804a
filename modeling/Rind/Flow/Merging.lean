import Rind.Flow.Payloads
import Mathlib.Data.String.Basic

/-!
# Forced members

The merge of two objects visits the new members in key order and passes over the key that the
last forced member, `&k`, was written under. A key is passed over when the forced key just before
it is its own, and that one was not passed over itself. From this follows for which objects every
member comes out as the forced new one, else the plain new one, else the stored one.
-/

namespace Rind

open OrderedFields

/-- The key that a member is written under. -/
def mergeTarget (key : String) : String := (Text.stripPrefix "&" key).getD key

/-- The key to pass over, after a member. -/
def nextForced (forced key : String) : String :=
  if forced = key then forced else (Text.stripPrefix "&" key).getD forced

/-- The key to pass over, after the members with these keys. -/
def lastForced (forced : String) (keys : List String) : String := keys.foldl nextForced forced

/-- Whether a key is passed over, from the forced keys before it, the nearest one first. The empty
key is passed over where there is none. -/
def hides : List String → String → Bool
  | [], key => key == ""
  | nearest :: before, key => nearest == "&" ++ key && !hides before nearest

/-- The forced keys before a key, the nearest one first. -/
def forcedBefore (added : List (String × Json)) (key : String) : List String :=
  (((added.filter (·.1 < key)).map Prod.fst).filter
    fun before => (Text.stripPrefix "&" before).isSome).reverse

/-- The merge passes over the member with this key. -/
def skips (added : List (String × Json)) (key : String) : Prop := hides (forcedBefore added key) key

/-! ## Keys -/

section Keys

variable {key other : String}

theorem stripPrefix_amp : Text.stripPrefix "&" other = some key ↔ other = "&" ++ key := by
  rw [Text.stripPrefix_eq_some, ← String.toList_append, String.toList_inj, eq_comm]

theorem amp_inj : "&" ++ other = "&" ++ key ↔ other = key := by
  rw [← String.toList_inj, String.toList_append, String.toList_append, List.append_cancel_left_eq,
    String.toList_inj]

theorem amp_lt_amp : "&" ++ other < "&" ++ key ↔ other < key := by
  rw [String.lt_iff_toList_lt, String.lt_iff_toList_lt, String.toList_append, String.toList_append]
  exact List.cons_lt_cons_self

/-- A plain key is written by its own member and by the forced one. -/
theorem mergeTarget_eq (plain : Text.stripPrefix "&" key = none) :
    mergeTarget other = key ↔ other = key ∨ other = "&" ++ key := by
  rw [mergeTarget]
  cases stripped : Text.stripPrefix "&" other with
  | none =>
      have unforced : other ≠ "&" ++ key := by
        intro forced
        rw [stripPrefix_amp.mpr forced] at stripped
        cases stripped
      simp [unforced]
  | some target =>
      have different : other ≠ key := by
        rintro rfl
        rw [plain] at stripped
        cases stripped
      rw [Option.getD_some, stripPrefix_amp.mp stripped, amp_inj]
      rw [stripPrefix_amp.mp stripped] at different
      exact ⟨.inr, Or.rec (absurd · different) id⟩

end Keys

/-! ## Members -/

section Members

variable {forced key other : String} {value : Json} {stored added before after : List (String × Json)}

/-- A member is written, or passed over. -/
theorem mergeFields_cons : mergeFields forced stored ((key, value) :: added) =
    mergeFields (nextForced forced key)
      (if forced = key then stored else insert (mergeTarget key) value stored) added := by
  rw [mergeFields, nextForced, mergeTarget]
  split
  · rfl
  · cases Text.stripPrefix "&" key with
    | none => rfl
    | some target => rfl

theorem mergeFields_append : mergeFields forced stored (before ++ after) =
    mergeFields (lastForced forced (before.map Prod.fst)) (mergeFields forced stored before)
      after := by
  induction before generalizing forced stored with
  | nil => rfl
  | cons member rest ih =>
      obtain ⟨key, value⟩ := member
      rw [List.cons_append, mergeFields_cons, mergeFields_cons, ih]
      rfl

/-- Members that are written under other keys leave a key as it is. -/
theorem lookup_mergeFields_other (others : ∀ member ∈ added, mergeTarget member.1 ≠ key) :
    (mergeFields forced stored added).lookup key = stored.lookup key := by
  induction added generalizing forced stored with
  | nil => rfl
  | cons member rest ih =>
      obtain ⟨⟨first, later⟩⟩ := And.intro (List.forall_mem_cons.mp others) trivial
      obtain ⟨other, value⟩ := member
      rw [mergeFields_cons, ih later]
      split
      · rfl
      · exact lookup_insert_of_ne (Ne.symm first) _ _

/-- The last member that is written under a key decides it, unless it is passed over. -/
theorem lookup_mergeFields_split (target : mergeTarget other = key)
    (others : ∀ member ∈ after, mergeTarget member.1 ≠ key) :
    (mergeFields forced stored (before ++ (other, value) :: after)).lookup key =
      if lastForced forced (before.map Prod.fst) = other then
        (mergeFields forced stored before).lookup key
      else some value := by
  rw [mergeFields_append, mergeFields_cons, lookup_mergeFields_other others, target]
  split
  · rfl
  · rw [lookup_insert_self]

end Members

/-! ## Keys that are passed over -/

/-- The entries of an ordered list before and after the one that a key looks up. -/
theorem OrderedFields.Ordered.split {κ ν : Type} [LinearOrder κ] {fields : List (κ × ν)}
    (ordered : Ordered fields) {key : κ} {value : ν} (held : fields.lookup key = some value) :
    ∃ before after, fields = before ++ (key, value) :: after ∧
      (∀ entry ∈ before, entry.1 < key) ∧ ∀ entry ∈ after, key < entry.1 := by
  obtain ⟨before, after, rfl⟩ := List.append_of_mem (mem_of_lookup held)
  obtain ⟨-, later, apart⟩ := List.pairwise_append.mp ordered
  refine ⟨before, after, rfl, ?_, (List.pairwise_cons.mp later).1⟩
  intro entry listed
  exact apart entry listed _ List.mem_cons_self

section Skipped

variable {key other : String} {value : Json} {added before after : List (String × Json)}

/-- The key to pass over is the one that the forced keys hide. -/
theorem lastForced_eq {keys : List String} (distinct : keys.Nodup) (absent : key ∉ keys) :
    lastForced "" keys = key ↔
      hides (keys.filter fun before => (Text.stripPrefix "&" before).isSome).reverse key := by
  induction keys using List.reverseRecOn generalizing key with
  | nil =>
      rw [lastForced, List.foldl_nil, List.filter_nil, List.reverse_nil, hides, beq_iff_eq]
      exact eq_comm
  | append_singleton keys last ih =>
      obtain ⟨earlier, -, apart⟩ := List.nodup_append.mp distinct
      have fresh : last ∉ keys := fun listed => apart last listed last (by simp) rfl
      have absent' : key ∉ keys := fun listed => absent (List.mem_append_left _ listed)
      have different : last ≠ key := fun same => absent (by simp [same])
      have next : lastForced "" (keys ++ [last]) = nextForced (lastForced "" keys) last := by
        rw [lastForced, List.foldl_append]
        rfl
      rw [next, nextForced, List.filter_append, List.reverse_append]
      cases stripped : Text.stripPrefix "&" last with
      | none =>
          have same : (if lastForced "" keys = last then lastForced "" keys
              else (none : Option String).getD (lastForced "" keys)) = lastForced "" keys :=
            ite_self _
          rw [same, List.filter_cons_of_neg (by simp [stripped])]
          exact ih earlier absent'
      | some target =>
          rw [List.filter_cons_of_pos (by simp [stripped])]
          have forced := stripPrefix_amp.mp stripped
          have hidden := ih earlier fresh
          split
          · rename_i passed
            simp [hides, hidden.mp passed, passed, different]
          · rename_i written
            have shown : hides (keys.filter
                fun before => (Text.stripPrefix "&" before).isSome).reverse last = false :=
              Bool.eq_false_iff.mpr fun hidden' => written (hidden.mpr hidden')
            rw [Option.getD_some, List.filter_nil, List.reverse_singleton, List.singleton_append,
              hides, shown, forced]
            simp

/-- Below a key stand the members before it. -/
theorem filter_below (below : ∀ member ∈ before, member.1 < key)
    (above : ∀ member ∈ after, key < member.1) :
    (before ++ (key, value) :: after).filter (·.1 < key) = before := by
  rw [List.filter_append, List.filter_eq_self.mpr, List.filter_cons_of_neg,
    List.filter_eq_nil_iff.mpr, List.append_nil]
  · intro member listed
    rw [decide_eq_true_iff]
    exact (above member listed).asymm
  · rw [decide_eq_true_iff]
    exact lt_irrefl key
  · intro member listed
    exact decide_eq_true (below member listed)

/-- A member is passed over when its key is hidden from the forced keys before it. -/
theorem lastForced_split (ordered : Ordered (before ++ (key, value) :: after)) :
    lastForced "" (before.map Prod.fst) = key ↔ skips (before ++ (key, value) :: after) key := by
  obtain ⟨earlier, later, apart⟩ := List.pairwise_append.mp ordered
  have below (member) (listed : member ∈ before) : member.1 < key :=
    apart member listed _ List.mem_cons_self
  rw [skips, forcedBefore, filter_below below (List.pairwise_cons.mp later).1]
  apply lastForced_eq (Ordered.keys_nodup earlier)
  intro listed
  obtain ⟨member, inside, rfl⟩ := List.mem_map.mp listed
  exact lt_irrefl _ (below member inside)

end Skipped

/-- The key to pass over was so before, or is written by force. -/
theorem lastForced_origin {forced : String} {keys : List String} (absent : "&" ++ key ∉ keys)
    (last : lastForced forced keys = key) : forced = key := by
  induction keys generalizing forced with
  | nil => exact last
  | cons first rest ih =>
      obtain ⟨different, absent'⟩ := not_or.mp (mt List.mem_cons.mpr absent)
      have next : nextForced forced first = key := ih absent' last
      rw [nextForced] at next
      split at next
      · exact next
      · cases stripped : Text.stripPrefix "&" first with
        | none => simpa [stripped] using next
        | some target =>
            rw [stripped, Option.getD_some] at next
            rw [stripPrefix_amp.mp stripped, next] at different
            exact absurd rfl different

/-! ## Merged objects -/

/-- Each plain key is held as its forced new member says, else its plain new one, else as it was. -/
def Merged (stored added : List (String × Json)) : Prop :=
  ∃ fields, mergeJson (.obj stored) (.obj added) = .obj fields ∧
    ∀ key, Text.stripPrefix "&" key = none →
      fields.lookup key =
        ((added.lookup ("&" ++ key)).or (added.lookup key)).or (stored.lookup key)

/-- No member that is passed over, or written over a forced one, is missed. -/
structure Mergeable (stored added : List (String × Json)) : Prop where
  empty : ∀ value, added.lookup "" = some value → added.lookup "&" = none →
    stored.lookup "" = some value
  alone : ∀ key value, Text.stripPrefix "&" key = none → added.lookup ("&" ++ key) = some value →
    added.lookup key = none → skips added ("&" ++ key) → stored.lookup key = some value
  both : ∀ key forced plain, Text.stripPrefix "&" key = none →
    added.lookup ("&" ++ key) = some forced → added.lookup key = some plain → "&" ++ key < key →
    skips added key ∨ forced = plain

instance {added : List (String × Json)} {key : String} : Decidable (skips added key) :=
  inferInstanceAs (Decidable (_ = true))

section Objects

variable {key : String} {value forced plain : Json} {stored added : List (String × Json)}

theorem key_of_mem {member : String × Json} {fields : List (String × Json)}
    (absent : fields.lookup key = none) (listed : member ∈ fields) : member.1 ≠ key := by
  rintro rfl
  simpa using List.lookup_eq_none_iff.mp absent member listed

/-- A key without members keeps its value. -/
theorem lookup_merged_absent (unforced : Text.stripPrefix "&" key = none)
    (noForced : added.lookup ("&" ++ key) = none) (noPlain : added.lookup key = none) :
    (mergeFields "" stored added).lookup key = stored.lookup key := by
  apply lookup_mergeFields_other
  intro member listed target
  rcases (mergeTarget_eq unforced).mp target with same | same
  · exact key_of_mem noPlain listed same
  · exact key_of_mem noForced listed same

theorem mergeTarget_self (unforced : Text.stripPrefix "&" key = none) : mergeTarget key = key :=
  (mergeTarget_eq unforced).mpr (.inl rfl)

theorem mergeTarget_amp : mergeTarget ("&" ++ key) = key := by
  rw [mergeTarget, stripPrefix_amp.mpr rfl, Option.getD_some]

/-- A key with a plain member is written, unless it is the empty one. -/
theorem lookup_merged_plain (ordered : Ordered added)
    (unforced : Text.stripPrefix "&" key = none) (noForced : added.lookup ("&" ++ key) = none)
    (held : added.lookup key = some plain) :
    (mergeFields "" stored added).lookup key =
      if key = "" then stored.lookup key else some plain := by
  obtain ⟨before, after, rfl, below, above⟩ := ordered.split held
  have others (member) (listed : member ∈ before ++ (key, plain) :: after)
      (different : member.1 ≠ key) : mergeTarget member.1 ≠ key := by
    intro target
    rcases (mergeTarget_eq unforced).mp target with same | same
    · exact different same
    · exact key_of_mem noForced listed same
  rw [lookup_mergeFields_split (mergeTarget_self unforced) fun member listed =>
      others member (List.mem_append_right _ (List.mem_cons_of_mem _ listed)) (above _ listed).ne',
    lookup_mergeFields_other fun member listed =>
      others member (List.mem_append_left _ listed) (below _ listed).ne]
  have empty : lastForced "" (before.map Prod.fst) = key ↔ key = "" := by
    constructor
    · intro last
      refine (lastForced_origin ?_ last).symm
      intro listed
      obtain ⟨member, inside, same⟩ := List.mem_map.mp listed
      exact key_of_mem noForced (List.mem_append_left _ inside) same
    · rintro rfl
      cases before with
      | nil => rfl
      | cons member rest =>
          have under := below member List.mem_cons_self
          rw [String.lt_iff_toList_lt] at under
          exact absurd under (List.not_lt_nil _)
  simp only [empty]

/-- A key with a forced member alone is written, unless that one is passed over. -/
theorem lookup_merged_forced (ordered : Ordered added)
    (unforced : Text.stripPrefix "&" key = none)
    (held : added.lookup ("&" ++ key) = some forced) (noPlain : added.lookup key = none) :
    (mergeFields "" stored added).lookup key =
      if skips added ("&" ++ key) then stored.lookup key else some forced := by
  obtain ⟨before, after, rfl, below, above⟩ := ordered.split held
  have others (member) (listed : member ∈ before ++ ("&" ++ key, forced) :: after)
      (different : member.1 ≠ "&" ++ key) : mergeTarget member.1 ≠ key := by
    intro target
    rcases (mergeTarget_eq unforced).mp target with same | same
    · exact key_of_mem noPlain listed same
    · exact different same
  rw [lookup_mergeFields_split mergeTarget_amp fun member listed =>
      others member (List.mem_append_right _ (List.mem_cons_of_mem _ listed)) (above _ listed).ne',
    lookup_mergeFields_other fun member listed =>
      others member (List.mem_append_left _ listed) (below _ listed).ne]
  simp only [lastForced_split ordered]

theorem amp_ne (unforced : Text.stripPrefix "&" key = none) : "&" ++ key ≠ key := by
  intro same
  rw [stripPrefix_amp.mpr same.symm] at unforced
  cases unforced

/-- Where a key is to be passed over, its forced member was the last to be written. -/
theorem lookup_merged_passed {before : List (String × Json)} (ordered : Ordered before)
    (unforced : Text.stripPrefix "&" key = none)
    (held : before.lookup ("&" ++ key) = some forced) (noPlain : before.lookup key = none)
    (passed : lastForced "" (before.map Prod.fst) = key) :
    (mergeFields "" stored before).lookup key = some forced := by
  rw [lookup_merged_forced ordered unforced held noPlain]
  obtain ⟨first, rest, rfl, under, beyond⟩ := ordered.split held
  apply if_neg
  intro hidden
  have hidden' := (lastForced_split ordered).mpr hidden
  rw [List.map_append, lastForced, List.foldl_append] at passed
  change lastForced (nextForced (lastForced "" (first.map Prod.fst)) ("&" ++ key))
    (rest.map Prod.fst) = key at passed
  rw [hidden', nextForced, if_pos rfl] at passed
  refine amp_ne unforced (lastForced_origin ?_ passed)
  intro listed
  obtain ⟨member, inside, same⟩ := List.mem_map.mp listed
  exact (beyond member inside).ne' same

/-- A key with both members is written by the later one, unless that one is passed over. -/
theorem lookup_merged_both (ordered : Ordered added)
    (unforced : Text.stripPrefix "&" key = none)
    (held : added.lookup ("&" ++ key) = some forced) (held' : added.lookup key = some plain) :
    (mergeFields "" stored added).lookup key =
      if "&" ++ key < key ∧ ¬ skips added key then some plain else some forced := by
  rcases lt_or_gt_of_ne (amp_ne unforced) with earlier | later
  · obtain ⟨before, after, rfl, below, above⟩ := ordered.split held'
    have noPlain : before.lookup key = none := by
      rw [List.lookup_eq_none_iff]
      intro member listed
      simpa using (below member listed).ne'
    have inside : before.lookup ("&" ++ key) = some forced := by
      have absent : after.lookup ("&" ++ key) = none := by
        rw [List.lookup_eq_none_iff]
        intro member listed
        simpa using (earlier.trans (above member listed)).ne
      simpa [List.lookup_append, List.lookup_cons, beq_false_of_ne (amp_ne unforced), absent]
        using held
    rw [lookup_mergeFields_split (mergeTarget_self unforced) ?later]
    case later =>
      intro member listed target
      rcases (mergeTarget_eq unforced).mp target with same | same
      · exact (above member listed).ne' same
      · exact (earlier.trans (above member listed)).ne' same
    by_cases passed : lastForced "" (before.map Prod.fst) = key
    · have skipped := (lastForced_split ordered).mp passed
      rw [if_pos passed, if_neg fun both => both.2 skipped]
      exact lookup_merged_passed (List.pairwise_append.mp ordered).1 unforced inside noPlain passed
    · have written : ¬ skips (before ++ (key, plain) :: after) key :=
        fun skipped => passed ((lastForced_split ordered).mpr skipped)
      rw [if_neg passed, if_pos ⟨earlier, written⟩]
  · rw [if_neg fun both => later.asymm both.1]
    obtain ⟨before, after, rfl, below, above⟩ := ordered.split held
    rw [lookup_mergeFields_split mergeTarget_amp ?later]
    case later =>
      intro member listed target
      rcases (mergeTarget_eq unforced).mp target with same | same
      · exact (later.trans (above member listed)).ne' same
      · exact (above member listed).ne' same
    apply if_neg
    intro passed
    -- A plain key before its forced one is below every forced one of a forced one.
    have absent : "&" ++ ("&" ++ key) ∉ before.map Prod.fst := by
      intro listed
      obtain ⟨member, inside, same⟩ := List.mem_map.mp listed
      have under := below member inside
      rw [same, amp_lt_amp] at under
      exact later.asymm under
    have empty := congrArg String.toList (lastForced_origin absent passed)
    rw [String.toList_append] at empty
    cases empty

end Objects

/-- The merge of two objects holds every member exactly where none that counts is passed over or
written over. -/
theorem merged_iff {stored added : List (String × Json)} (ordered : Ordered added) :
    Merged stored added ↔ Mergeable stored added := by
  have held : Merged stored added ↔ ∀ key, Text.stripPrefix "&" key = none →
      (mergeFields "" stored added).lookup key =
        ((added.lookup ("&" ++ key)).or (added.lookup key)).or (stored.lookup key) := by
    constructor
    · rintro ⟨fields, made, members⟩
      cases made
      exact members
    · intro members
      exact ⟨_, rfl, members⟩
  rw [held]
  constructor
  · intro members
    refine ⟨?empty, ?alone, ?both⟩
    case empty =>
      intro value plain noForced
      have noForced' : added.lookup ("&" ++ "") = none := by rwa [String.append_empty]
      have empty := members "" rfl
      rw [lookup_merged_plain ordered rfl noForced' plain, if_pos rfl, plain, noForced'] at empty
      exact empty
    case alone =>
      intro key value unforced forced noPlain skipped
      have alone := members key unforced
      rw [lookup_merged_forced ordered unforced forced noPlain, if_pos skipped, forced] at alone
      exact alone
    case both =>
      intro key value plain unforced forced written earlier
      have both := members key unforced
      rw [lookup_merged_both ordered unforced forced written, forced] at both
      by_cases skipped : skips added key
      · exact .inl skipped
      · rw [if_pos ⟨earlier, skipped⟩] at both
        exact .inr (Option.some.inj both).symm
  · intro mergeable key unforced
    cases forced : added.lookup ("&" ++ key) with
    | none =>
        cases plain : added.lookup key with
        | none => exact lookup_merged_absent unforced forced plain
        | some value =>
            rw [lookup_merged_plain ordered unforced forced plain]
            split
            · rename_i empty
              subst empty
              rw [String.append_empty] at forced
              exact mergeable.empty value plain forced
            · rfl
    | some value =>
        cases plain : added.lookup key with
        | none =>
            rw [lookup_merged_forced ordered unforced forced plain]
            split
            · rename_i skipped
              exact mergeable.alone key value unforced forced plain skipped
            · rfl
        | some value' =>
            rw [lookup_merged_both ordered unforced forced plain]
            split
            · rename_i covered
              obtain ⟨earlier, written⟩ := covered
              have same := (mergeable.both key value value' unforced forced plain
                earlier).resolve_left written
              rw [same]
              rfl
            · rfl

/-- A forced member alone is merged. -/
theorem merged_iff_forced : Merged [("seat", .str "seat0")] [("&seat", .str "seat1")] := by
  refine (merged_iff (List.pairwise_singleton _ _)).mpr ⟨?_, ?_, ?_⟩
  · intro value held
    simp [List.lookup_cons] at held
  · intro key value unforced held _ skipped
    simp only [List.lookup_cons, List.lookup_nil] at held
    split at held
    · rename_i same
      rw [eq_of_beq same] at skipped
      exact absurd skipped (by decide +kernel)
    · cases held
  · intro key forced plain unforced held held'
    simp only [List.lookup_cons, List.lookup_nil] at held'
    split at held'
    · rename_i same
      rw [eq_of_beq same] at unforced
      cases unforced
    · cases held'

/-- With two forced members the plain one overwrites the first of them. -/
theorem not_merged_twice : ¬ Merged []
    [("&seat", .bool true), ("&tty", .bool true), ("seat", .bool false), ("tty", .bool false)] := by
  rintro ⟨fields, made, members⟩
  cases made
  exact absurd (members "seat" (by decide +kernel)) (by decide +kernel)

end Rind
