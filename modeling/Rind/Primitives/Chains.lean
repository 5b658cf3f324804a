import Rind.Primitives.Mounting

/-!
# Chains of mounts

A mount that comes after others is entered under the name of its unit and its target, and
is looked for under its target.  So the mounts that come after it are never mounted, and
mounts can come only after mounts that come after nothing.
-/

namespace Rind.UnitMounts

section Defs

variable (mounts : UnitMounts) (announce : List mounts.Idx → mounts.Idx → Except CoreError Unit)

/-- Mounting ends with each mount attempted once, after all mounts that it names, and with
nothing logged as unresolved. -/
def MountsAll (limit : Nat) : Prop :=
  ∃ result done, mountUnits announce limit (Progress.start mounts) = some (result, done) ∧
    done.calls.Perm mounts.places ∧ Dependencies.Ordered mounts.DependsOn done.calls ∧
    done.unresolved = none

/-- The mounts name targets of mounts of the list. -/
def Named : Prop := ∀ idx, ∀ name ∈ (mounts.mount idx).after.getD [],
  ∃ other, (mounts.mount other).target = name

/-- What the extensions answer to a mount that they are told of. -/
def mountAnswer (calls : List mounts.Idx) (idx : mounts.Idx) : Except CoreError Unit :=
  if (mounts.mount idx).announced then announce calls idx else .ok ()

/-- No mount without `after` fails before the last mount of all, and the mounts that others
come after come after nothing. -/
structure Flat : Prop where
  pass : ∀ before idx rest, free waitsToMount mounts.places = before ++ idx :: rest →
    (rest ≠ [] ∨ ∃ other, (mounts.mount other).after ≠ none) →
      mounts.mountAnswer announce (before ++ [idx]) idx = .ok ()
  shallow : ∀ idx other, mounts.DependsOn idx other → (mounts.mount other).after = none

/-- What a mount is entered under once it is attempted. -/
def enteredAs (idx : mounts.Idx) : Ustr :=
  match waitsToMount idx with
  | some pending => pending.name
  | none => (mounts.mount idx).target

/-- No mount is entered under the target of another one. -/
def Apart : Prop :=
  ∀ idx other, mounts.enteredAs idx = (mounts.mount other).target → idx = other

end Defs

variable {mounts : UnitMounts} {announce : List mounts.Idx → mounts.Idx → Except CoreError Unit}

theorem mountTarget_calls : Calls (mountTarget announce) (mounts.mountAnswer announce) := by
  intro idx progress
  rw [mountTarget, callFor, Prog.run_change_bind, mountAnswer]
  split
  · rw [Prog.run_read_bind]
    dsimp only
    cases announce (progress.calls ++ [idx]) idx <;> rfl
  · rfl

theorem attempt_mountTarget_succeeds :
    Succeeds fun idx : mounts.Idx => Prog.attempt (mountTarget announce idx) := by
  intro idx progress
  exact Prog.run_attempt_of_some (mountTarget_calls idx progress)

/-- What a mount waits for. -/
theorem of_waitsToMount {idx : mounts.Idx} {pending : Pending mounts}
    (waits : waitsToMount idx = some pending) :
    pending.idx = idx ∧ pending.name = (mounts.get idx).1 ++ ":" ++ (mounts.mount idx).target ∧
      (mounts.mount idx).after = some pending.waitsFor := by
  obtain ⟨afters, found, rfl⟩ := Option.map_eq_some_iff.mp waits
  exact ⟨rfl, rfl, found⟩

theorem idx_of_waitsToMount (idx : mounts.Idx) (pending : Pending mounts)
    (waits : waitsToMount idx = some pending) : pending.idx = idx :=
  (of_waitsToMount waits).1

theorem waitsToMount_eq_none {idx : mounts.Idx} :
    waitsToMount idx = none ↔ (mounts.mount idx).after = none := Option.map_eq_none_iff

theorem mem_free {idx : mounts.Idx} :
    idx ∈ free waitsToMount mounts.places ↔ (mounts.mount idx).after = none := by
  rw [free, List.mem_filter, and_iff_right (List.mem_finRange idx), Option.isNone_iff_eq_none,
    waitsToMount_eq_none]

/-- Where all mounts come after nothing, they are the ones that wait for nothing. -/
theorem free_eq_places (none_ : ∀ idx, (mounts.mount idx).after = none) :
    free waitsToMount mounts.places = mounts.places :=
  List.filter_eq_self.mpr fun idx _ =>
    Option.isNone_iff_eq_none.mpr (waitsToMount_eq_none.mpr (none_ idx))

theorem mountsAll_of_flat (named : mounts.Named) {limit : Nat} (enough : mounts.length < limit)
    (flat : mounts.Flat announce) : mounts.MountsAll announce limit := by
  rcases each_enter waitsToMount mountTarget_calls mounts.places (Progress.start mounts) with
    ⟨pass, -⟩ | ⟨before, idx, rest, err, after, split, -, fails, ran, calls, log⟩
  · obtain ⟨gone, left, done, ran, whole⟩ := whole_spec waitsToMount mountTarget_calls
      attempt_mountTarget_succeeds pass enough
    have none_left : left = [] := by
      apply List.eq_nil_iff_forall_not_mem.mpr
      intro pending listed
      obtain ⟨idx, waits⟩ := whole.waiting_eq (.inr listed)
      obtain ⟨rfl, -, after⟩ := of_waitsToMount waits
      obtain ⟨needed, wanted, unknown⟩ := whole.waits pending listed
      have wanted : needed ∈ (mounts.mount pending.idx).after.getD [] := by rwa [after]
      obtain ⟨other, rfl⟩ := named pending.idx needed wanted
      exact unknown (.inl ⟨other, mem_free.mpr (flat.shallow _ other wanted), rfl⟩)
    have perm := whole.perm_places idx_of_waitsToMount
    refine ⟨.ok (), done, ran, ?_, ?_, ?_⟩
    · simpa [none_left] using perm
    · rw [whole.calls]
      apply Dependencies.Ordered.append_of_forall
      · apply Dependencies.Ordered.of_forall
        intro idx listed other depends
        rw [DependsOn, mem_free.mp listed] at depends
        cases depends
      · intro before idx rest _ other depends
        exact List.mem_append_left _ (mem_free.mpr (flat.shallow idx other depends))
    · rw [whole.unresolved, none_left]
      rfl
  · have last : rest = [] ∧ ∀ other, (mounts.mount other).after = none := by
      by_contra more
      rw [not_and_or, not_forall] at more
      have passes := flat.pass before idx rest split more
      cases fails.symm.trans passes
    obtain ⟨rfl, none_⟩ := last
    have all : after.calls = mounts.places := by
      rw [calls, ← free_eq_places none_, split]
      rfl
    refine ⟨.error err, after, Prog.run_bind_of_error ran, .of_eq all, ?_, log⟩
    apply Dependencies.Ordered.of_forall
    intro idx _ other depends
    rw [DependsOn, none_ idx] at depends
    cases depends

/-- What a mount is entered under is its own target only where it waits for nothing. -/
theorem after_eq_none_of_enteredAs (apart : mounts.Apart) (idx other : mounts.Idx)
    (same : mounts.enteredAs idx = (mounts.mount other).target) :
    (mounts.mount other).after = none := by
  cases apart idx other same
  rw [enteredAs] at same
  cases waits : waitsToMount idx with
  | none => exact waitsToMount_eq_none.mp waits
  | some pending =>
      simp only [waits] at same
      obtain ⟨-, name, -⟩ := of_waitsToMount waits
      have longer := congrArg String.length (name.symm.trans same)
      rw [String.length_append, String.length_append] at longer
      have colon : ":".length = 1 := rfl
      omega

theorem flat_of_mountsAll (apart : mounts.Apart) {limit : Nat} (enough : mounts.length < limit)
    (attempts : mounts.MountsAll announce limit) : mounts.Flat announce := by
  obtain ⟨result, done, ran, perm, -, log⟩ := attempts
  rcases each_enter waitsToMount mountTarget_calls mounts.places (Progress.start mounts) with
    ⟨pass, -⟩ | ⟨before, idx, rest, err, after, split, earlier, -, ran', calls, -⟩
  · obtain ⟨gone, left, done', ran', whole⟩ := whole_spec waitsToMount mountTarget_calls
      attempt_mountTarget_succeeds pass enough
    cases ran.symm.trans ran'
    have none_left : left = [] := by
      have logged := whole.unresolved.symm.trans log
      cases left with
      | nil => rfl
      | cons pending rest => cases logged
    refine ⟨fun before idx rest split _ => pass before idx rest split, fun idx other depends => ?_⟩
    cases waits : waitsToMount idx with
    | none =>
        rw [DependsOn, waitsToMount_eq_none.mp waits] at depends
        cases depends
    | some pending =>
        have listed : pending ∈ gone := by
          have member := whole.perm.mem_iff.mpr
            (List.mem_filterMap.mpr ⟨idx, List.mem_finRange idx, waits⟩)
          rwa [none_left, List.append_nil] at member
        obtain ⟨first, second, rfl⟩ := List.append_of_mem listed
        obtain ⟨-, -, after⟩ := of_waitsToMount waits
        rw [DependsOn, after] at depends
        rcases whole.supplied.earlier depends with ⟨free_, listed, same⟩ | ⟨entered, listed, same⟩
        · apply after_eq_none_of_enteredAs apart free_
          rw [enteredAs, waitsToMount_eq_none.mpr (mem_free.mp listed)]
          exact same
        · obtain ⟨place, waits⟩ := whole.waiting_eq (.inl (List.mem_append_left _ listed))
          apply after_eq_none_of_enteredAs apart place
          rw [enteredAs, waits]
          exact same
  · cases ran.symm.trans (Prog.run_bind_of_error ran')
    have calls : done.calls = before ++ [idx] := calls
    have sublist : (free waitsToMount mounts.places).Sublist mounts.places := List.filter_sublist
    have shorter := sublist.length_le
    have same := perm.length_eq
    rw [calls, List.length_append, List.length_singleton] at same
    rw [split, List.length_append, List.length_cons] at shorter
    have none_rest : rest = [] := List.eq_nil_of_length_eq_zero (by omega)
    subst none_rest
    have whole : free waitsToMount mounts.places = mounts.places :=
      sublist.eq_of_length (by rw [split, ← same]; simp)
    have none_ (other : mounts.Idx) : (mounts.mount other).after = none := by
      apply mem_free.mp
      rw [whole]
      exact List.mem_finRange other
    refine ⟨fun first other second split' more => ?_, fun _ other _ => none_ other⟩
    rcases more with more | ⟨other, waits⟩
    · obtain ⟨final, last, rfl⟩ := (List.eq_nil_or_concat second).resolve_left more
      rw [split, List.concat_eq_append, ← List.cons_append, ← List.append_assoc] at split'
      obtain ⟨rfl, -⟩ := List.append_inj' split' rfl
      exact earlier first other final rfl
    · exact absurd (none_ other) waits

/-- Mounting does what its order asks for where mounts come after mounts only that come after
nothing, and not otherwise, if no mount is entered under the target of another one. -/
theorem mountsAll_iff_flat (mounts : UnitMounts)
    (announce : List mounts.Idx → mounts.Idx → Except CoreError Unit) (named : mounts.Named)
    (limit : Nat) (enough : mounts.length < limit) :
    (mounts.Flat announce → mounts.MountsAll announce limit) ∧
      (mounts.Apart → mounts.MountsAll announce limit → mounts.Flat announce) :=
  ⟨mountsAll_of_flat named enough, fun apart => flat_of_mountsAll apart enough⟩

/-- A mount that comes after one that comes after nothing. -/
def homeAndUser : UnitMounts :=
  [("rind", ⟨"/home", none, none, false⟩), ("rind", ⟨"/home/user", none, some ["/home"], false⟩)]

theorem mountsAll_homeAndUser : homeAndUser.MountsAll (fun _ _ => .ok ()) 3 :=
  (mountsAll_iff_flat homeAndUser (fun _ _ => .ok ()) (by unfold Named; decide) 3 (by decide)).1
    ⟨fun _ _ _ _ _ => ite_self _, by unfold DependsOn; decide⟩

/-- A chain of three mounts. -/
def nestedMounts : UnitMounts :=
  [("rind", ⟨"/a", none, none, false⟩), ("rind", ⟨"/a/b", none, some ["/a"], false⟩),
    ("rind", ⟨"/a/b/c", none, some ["/a/b"], false⟩)]

theorem not_mountsAll_nestedMounts :
    ¬ nestedMounts.MountsAll (fun _ _ => .ok ()) 4 := by
  rintro ⟨result, done, ran, perm, -⟩
  have calls : (mountUnits (fun _ _ => .ok ()) 4 (Progress.start nestedMounts)).map
      (fun outcome => outcome.2.calls.length) = some 2 := by decide +kernel
  rw [ran, Option.map_some] at calls
  have whole := perm.length_eq
  rw [Option.some.inj calls] at whole
  exact absurd whole (by decide)

end Rind.UnitMounts
