import Mathlib.Data.List.AList

/-!
# Inverse maps

A map whose values carry a key of another kind, and a second map that leads from each such
key back to the place of its value.  They stay inverse as long as both are written together.
-/

namespace Rind.Maps

variable {α β γ : Type} [DecidableEq α] [DecidableEq γ]

/-- The second map leads from the key of each value of the first to its place, and nowhere
else. -/
def Inverse (key : β → γ) (map : AList fun _ : α => β) (back : AList fun _ : γ => α) : Prop :=
  ∀ name place, back.lookup name = some place ↔
    ∃ value, map.lookup place = some value ∧ key value = name

namespace Inverse

variable {key : β → γ} {map : AList fun _ : α => β} {back : AList fun _ : γ => α}

theorem empty (key : β → γ) :
    Inverse key (∅ : AList fun _ : α => β) (∅ : AList fun _ : γ => α) := by
  intro name place
  simp

/-- The key of a value leads to it. -/
theorem back_of_lookup (inverse : Inverse key map back) {place : α} {value : β}
    (found : map.lookup place = some value) : back.lookup (key value) = some place :=
  (inverse (key value) place).mpr ⟨value, found, rfl⟩

/-- A value under a new place, with a new key. -/
theorem insert (inverse : Inverse key map back) {place : α} {value : β} (newPlace : place ∉ map)
    (newKey : key value ∉ back) :
    Inverse key (map.insert place value) (back.insert (key value) place) := by
  have absent : back.lookup (key value) = none := AList.lookup_eq_none.mpr newKey
  intro name other
  by_cases same : other = place
  · subst same
    rw [AList.lookup_insert]
    have unused : back.lookup name ≠ some other := by
      intro leads
      obtain ⟨old, found, -⟩ := (inverse name other).mp leads
      exact newPlace (AList.lookup_isSome.mp (by rw [found, Option.isSome_some]))
    by_cases named : name = key value
    · rw [named, AList.lookup_insert]
      simp
    · rw [AList.lookup_insert_ne named]
      simpa [Ne.symm named] using unused
  · rw [AList.lookup_insert_ne same]
    by_cases named : name = key value
    · rw [named, AList.lookup_insert, Option.some_inj]
      constructor
      · exact fun equal => absurd equal.symm same
      · rintro ⟨old, found, keyed⟩
        have leads := inverse.back_of_lookup found
        rw [keyed, absent] at leads
        cases leads
    · rw [AList.lookup_insert_ne named]
      exact inverse name other

/-- A value is taken out of both. -/
theorem erase (inverse : Inverse key map back) {name : γ} {place : α}
    (leads : back.lookup name = some place) :
    Inverse key (map.erase place) (back.erase name) := by
  obtain ⟨value, found, keyed⟩ := (inverse name place).mp leads
  intro other elsewhere
  by_cases named : other = name
  · subst named
    rw [AList.lookup_erase]
    constructor
    · exact nofun
    · rintro ⟨left, remains, keyed⟩
      by_cases same : elsewhere = place
      · rw [same, AList.lookup_erase] at remains
        cases remains
      · rw [AList.lookup_erase_ne same] at remains
        have leads' := inverse.back_of_lookup remains
        rw [keyed, leads, Option.some_inj] at leads'
        exact absurd leads'.symm same
  · rw [AList.lookup_erase_ne named]
    by_cases same : elsewhere = place
    · subst same
      rw [AList.lookup_erase]
      constructor
      · intro leads'
        obtain ⟨left, remains, keyed'⟩ := (inverse other elsewhere).mp leads'
        rw [found, Option.some_inj] at remains
        rw [← remains, keyed] at keyed'
        exact absurd keyed'.symm named
      · rintro ⟨_, nothing, -⟩
        cases nothing
    · rw [AList.lookup_erase_ne same]
      exact inverse other elsewhere

end Inverse

end Rind.Maps
