import Rind.Primitives.Mounts

/-!
# The order of mounts

Both routines go through the mounts twice: what waits for nothing is done at once, and
the others are done as soon as everything they wait for is finished.
-/

namespace Rind.UnitMounts

/-- A mount names the target of another one. -/
def DependsOn (mounts : UnitMounts) (idx other : mounts.Idx) : Prop :=
  (mounts.mount other).target ∈ (mounts.mount idx).after.getD []

variable {mounts : UnitMounts}

/-! ## What waits for nothing -/

section Enter

variable {waiting : mounts.Idx → Option (Pending mounts)}
  {effect : mounts.Idx → Prog (Progress mounts) CoreError Unit}
  {answer : List mounts.Idx → mounts.Idx → Except CoreError Unit}

/-- A routine calls the system once for a place, and may fail after it. -/
def Calls (effect : mounts.Idx → Prog (Progress mounts) CoreError Unit)
    (answer : List mounts.Idx → mounts.Idx → Except CoreError Unit) : Prop :=
  ∀ idx progress, effect idx progress =
    some (answer (progress.calls ++ [idx]) idx, { progress with calls := progress.calls ++ [idx] })

/-- The places of a list that wait for nothing. -/
def free (waiting : mounts.Idx → Option (Pending mounts)) (places : List mounts.Idx) :
    List mounts.Idx :=
  places.filter fun idx => (waiting idx).isNone

/-- Each call for a place that waits for nothing succeeds. -/
def Pass (waiting : mounts.Idx → Option (Pending mounts))
    (answer : List mounts.Idx → mounts.Idx → Except CoreError Unit) (called : List mounts.Idx)
    (places : List mounts.Idx) : Prop :=
  ∀ before idx rest, free waiting places = before ++ idx :: rest →
    answer (called ++ before ++ [idx]) idx = .ok ()

theorem free_cons_some {idx : mounts.Idx} {places : List mounts.Idx} {pending : Pending mounts}
    (waits : waiting idx = some pending) : free waiting (idx :: places) = free waiting places := by
  rw [free, List.filter_cons_of_neg (by simp [waits]), free]

theorem free_cons_none {idx : mounts.Idx} {places : List mounts.Idx} (none_ : waiting idx = none) :
    free waiting (idx :: places) = idx :: free waiting places := by
  rw [free, List.filter_cons_of_pos (by simp [none_]), free]

theorem pass_cons_none {idx : mounts.Idx} {called places : List mounts.Idx}
    (none_ : waiting idx = none) (passes : answer (called ++ [idx]) idx = .ok ())
    (others : Pass waiting answer (called ++ [idx]) places) :
    Pass waiting answer called (idx :: places) := by
  intro before other rest split
  rw [free_cons_none none_] at split
  cases before with
  | nil =>
      cases split
      simpa using passes
  | cons first before =>
      obtain ⟨rfl, same⟩ := List.cons.inj split
      simpa using others before other rest same

theorem enter_none (calls : Calls effect answer) {idx : mounts.Idx} (free : waiting idx = none)
    {progress : Progress mounts} (passes : answer (progress.calls ++ [idx]) idx = .ok ()) :
    enter waiting effect idx progress = some (.ok (), { progress with
      calls := progress.calls ++ [idx]
      finished := progress.finished.insert (mounts.mount idx).target }) := by
  have called := calls idx progress
  rw [passes] at called
  rw [enter, free]
  exact Prog.run_bind_of_ok called

/-- The first round calls the system for the places that wait for nothing, up to the first
call that fails. -/
theorem each_enter (waiting : mounts.Idx → Option (Pending mounts)) (calls : Calls effect answer)
    (places : List mounts.Idx)
    (progress : Progress mounts) :
    (Pass waiting answer progress.calls places ∧ ∃ finished,
      Prog.each places (enter waiting effect) progress = some (.ok (), { progress with
        calls := progress.calls ++ free waiting places
        finished := finished
        pending := progress.pending ++ places.filterMap waiting }) ∧
      ∀ name, name ∈ finished ↔ name ∈ progress.finished ∨
        ∃ idx ∈ free waiting places, (mounts.mount idx).target = name) ∨
    ∃ before idx rest err after, free waiting places = before ++ idx :: rest ∧
      (∀ first other second, before = first ++ other :: second →
        answer (progress.calls ++ first ++ [other]) other = .ok ()) ∧
      answer (progress.calls ++ before ++ [idx]) idx = .error err ∧
      Prog.each places (enter waiting effect) progress = some (.error err, after) ∧
      after.calls = progress.calls ++ before ++ [idx] ∧
      after.unresolved = progress.unresolved := by
  induction places generalizing progress with
  | nil =>
      left
      refine ⟨fun before idx rest split => ?_, progress.finished, ?_, by simp [free]⟩
      · cases before <;> cases split
      · simp [free]
  | cons idx places ih =>
      cases waits : waiting idx with
      | some pending =>
          have entered : enter waiting effect idx progress =
              some (.ok (), { progress with pending := progress.pending ++ [pending] }) := by
            rw [enter, waits]
            rfl
          rw [Prog.each_cons, Prog.run_bind_of_ok entered, free_cons_some waits, Pass,
            free_cons_some waits, List.filterMap_cons_some waits]
          rcases ih { progress with pending := progress.pending ++ [pending] } with passed | failed
          · left
            obtain ⟨pass, finished, ran, known⟩ := passed
            refine ⟨pass, finished, ?_, known⟩
            rw [ran]
            simp
          · exact .inr failed
      | none =>
          cases passes : answer (progress.calls ++ [idx]) idx with
          | error err =>
              right
              have called := calls idx progress
              rw [passes] at called
              refine ⟨[], idx, free waiting places, err,
                { progress with calls := progress.calls ++ [idx] }, free_cons_none waits, ?_, ?_,
                ?_, ?_, rfl⟩
              · intro first other second split
                cases first <;> cases split
              · simpa using passes
              · rw [Prog.each_cons, enter, waits]
                exact Prog.run_bind_of_error (Prog.run_bind_of_error called)
              · simp
          | ok _ =>
              rw [Prog.each_cons, Prog.run_bind_of_ok (enter_none calls waits passes),
                free_cons_none waits, List.filterMap_cons_none waits]
              rcases ih { progress with
                calls := progress.calls ++ [idx]
                finished := progress.finished.insert (mounts.mount idx).target } with
                passed | failed
              · left
                obtain ⟨pass, finished, ran, known⟩ := passed
                refine ⟨pass_cons_none waits passes pass, finished, ?_, fun name => ?_⟩
                · rw [ran]
                  simp
                · rw [known, List.mem_insert_iff]
                  simp [eq_comm, or_assoc, or_left_comm]
              · right
                obtain ⟨before, other, rest, err, after, split, earlier, fails, ran, made, log⟩ :=
                  failed
                refine ⟨idx :: before, other, rest, err, after, ?_, ?_, ?_, ran, ?_, log⟩
                · rw [split, List.cons_append]
                · intro first last second split
                  cases first with
                  | nil =>
                      cases split
                      simpa using passes
                  | cons head first =>
                      obtain ⟨rfl, same⟩ := List.cons.inj split
                      simpa using earlier first last second same
                · simpa using fails
                · simpa using made

end Enter

/-! ## What waits -/

section Settle

variable {effect : mounts.Idx → Prog (Progress mounts) CoreError Unit}

/-- A routine calls the system once for a place, and does not fail. -/
abbrev Succeeds (effect : mounts.Idx → Prog (Progress mounts) CoreError Unit) : Prop :=
  Calls effect fun _ _ => .ok ()

/-- What is done with a place that need not wait any more. -/
def doPending (effect : mounts.Idx → Prog (Progress mounts) CoreError Unit)
    (pending : Pending mounts) : Prog (Progress mounts) CoreError Unit := do
  effect pending.idx
  finish pending.name

theorem doPending_eq (succeeds : Succeeds effect) (pending : Pending mounts)
    (progress : Progress mounts) : doPending effect pending progress = some (.ok (), { progress with
      calls := progress.calls ++ [pending.idx]
      finished := progress.finished.insert pending.name }) :=
  Prog.run_bind_of_ok (succeeds pending.idx progress)

theorem keepUnless_releases (succeeds : Succeeds effect) (items : List (Pending mounts)) :
    Prog.Releases (fun progress name => name ∈ progress.finished) Pending.waitsFor Pending.name
      (keepUnless effect) (doPending effect) items where
  waits := by
    rintro pending - progress ⟨needed, listed, out⟩
    rw [keepUnless, Prog.run_read_bind, if_neg]
    · rfl
    · rw [List.all_eq_true]
      intro all
      exact out (List.contains_iff_mem.mp (all needed listed))
  goes := by
    rintro pending - progress ready
    rw [keepUnless, Prog.run_read_bind, if_pos, Prog.run_bind_of_ok (doPending_eq succeeds ..)]
    · exact Prog.run_bind_of_ok (succeeds pending.idx progress)
    · exact List.all_eq_true.mpr fun needed listed =>
        List.contains_iff_mem.mpr (ready needed listed)
  effects := by
    rintro pending - progress result after ran
    cases (doPending_eq succeeds pending progress).symm.trans ran
    exact ⟨rfl, fun name => List.mem_insert_iff.trans or_comm⟩

theorem each_doPending (succeeds : Succeeds effect) (gone : List (Pending mounts))
    (progress : Progress mounts) : ∃ finished,
      Prog.each gone (doPending effect) progress = some (.ok (), { progress with
        calls := progress.calls ++ gone.map Pending.idx
        finished := finished }) := by
  induction gone generalizing progress with
  | nil => exact ⟨progress.finished, by simp⟩
  | cons pending rest ih =>
      obtain ⟨finished, ran⟩ := ih { progress with
        calls := progress.calls ++ [pending.idx]
        finished := progress.finished.insert pending.name }
      refine ⟨finished, ?_⟩
      rw [Prog.each_cons, Prog.run_bind_of_ok (doPending_eq succeeds pending progress), ran]
      simp

/-- The second part of both routines: the places that were done, each after all that it waits
for, and those that are left, each of which waits for something that is not finished. -/
theorem settlePending_spec (succeeds : Succeeds effect) (progress : Progress mounts) {limit : Nat}
    (enough : progress.pending.length < limit) : ∃ gone left finished,
      settlePending effect limit progress = some (.ok (), { progress with
        calls := progress.calls ++ gone.map Pending.idx
        finished := finished
        unresolved := if left.isEmpty then progress.unresolved else
          some (Maps.insertAll Pending.name (fun pending => ",".intercalate pending.waitsFor) left ∅) }) ∧
      (gone ++ left).Perm progress.pending ∧
      Prog.Supplied Pending.waitsFor Pending.name (· ∈ progress.finished) gone ∧
      (∀ name, name ∈ finished ↔ name ∈ progress.finished ∨ name ∈ gone.map Pending.name) ∧
      ∀ pending ∈ left, ∃ needed ∈ pending.waitsFor, needed ∉ finished := by
  have ends : ∀ pending ∈ progress.pending, ∀ progress, doPending effect pending progress ≠ none :=
    fun pending _ progress => ne_of_eq_of_ne (doPending_eq succeeds pending progress) nofun
  obtain ⟨gone, left, after, ran, parts, waiting⟩ := Prog.settle_spec
    (keepUnless_releases succeeds progress.pending) (List.Subset.refl _) ends progress enough
  obtain ⟨finished, each_⟩ := each_doPending succeeds gone progress
  cases each_.symm.trans parts.ran
  refine ⟨gone, left, finished, ?_, parts.perm, parts.supplied, parts.known, waiting⟩
  rw [settlePending, Prog.run_read_bind, Prog.run_bind_of_ok ran, reportUnresolved]
  split <;> rfl

end Settle

/-! ## Both parts -/

section Whole

variable {waiting : mounts.Idx → Option (Pending mounts)}
  {effect again : mounts.Idx → Prog (Progress mounts) CoreError Unit}
  {answer : List mounts.Idx → mounts.Idx → Except CoreError Unit}

/-- All places of the list. -/
abbrev places (mounts : UnitMounts) : List mounts.Idx := List.finRange mounts.length

/-- The places that were done after the ones that wait for nothing, and those that are left. -/
structure Whole (waiting : mounts.Idx → Option (Pending mounts)) (gone left : List (Pending mounts))
    (done : Progress mounts) : Prop where
  calls : done.calls = free waiting mounts.places ++ gone.map Pending.idx
  perm : (gone ++ left).Perm (mounts.places.filterMap waiting)
  supplied : Prog.Supplied Pending.waitsFor Pending.name
    (fun name => ∃ idx ∈ free waiting mounts.places, (mounts.mount idx).target = name) gone
  waits : ∀ pending ∈ left, ∃ needed ∈ pending.waitsFor,
    ¬ ((∃ idx ∈ free waiting mounts.places, (mounts.mount idx).target = needed) ∨
      needed ∈ gone.map Pending.name)
  unresolved : done.unresolved = if left.isEmpty then none else
    some (Maps.insertAll Pending.name (fun pending => ",".intercalate pending.waitsFor) left ∅)

theorem whole_spec (waiting : mounts.Idx → Option (Pending mounts)) (calls : Calls effect answer) (succeeds : Succeeds again)
    (pass : Pass waiting answer [] mounts.places) {limit : Nat} (enough : mounts.length < limit) :
    ∃ gone left done, (do
        Prog.each mounts.places (enter waiting effect)
        settlePending again limit) (Progress.start mounts) = some (.ok (), done) ∧
      Whole waiting gone left done := by
  rcases each_enter waiting calls mounts.places (Progress.start mounts) with
    ⟨-, finished, ran, known⟩ | ⟨before, idx, rest, err, -, split, -, fails, -⟩
  · have shorter : (mounts.places.filterMap waiting).length < limit := by
      have := List.length_filterMap_le waiting mounts.places
      rw [List.length_finRange] at this
      exact this.trans_lt enough
    obtain ⟨gone, left, finished', ran', perm, supplied, known', waits⟩ :=
      settlePending_spec succeeds ⟨free waiting mounts.places, finished,
        mounts.places.filterMap waiting, none⟩ shorter
    refine ⟨gone, left, _, (Prog.run_bind_of_ok ran).trans ran', rfl, perm, ?_, ?_, rfl⟩
    · have initial (name : Ustr) : name ∈ finished ↔
          ∃ idx ∈ free waiting mounts.places, (mounts.mount idx).target = name :=
        (known name).trans (or_iff_right List.not_mem_nil)
      exact (Prog.Supplied.congr initial).mp supplied
    · intro pending listed
      obtain ⟨needed, wanted, out⟩ := waits pending listed
      refine ⟨needed, wanted, fun found => out ((known' needed).mpr (found.imp_left fun first => ?_))⟩
      exact (known needed).mpr (.inr first)
  · have passes := pass before idx rest split
    cases fails.symm.trans passes

variable {gone left : List (Pending mounts)} {done : Progress mounts}

theorem map_idx_filterMap (own : ∀ idx pending, waiting idx = some pending → pending.idx = idx)
    (places : List mounts.Idx) :
    (places.filterMap waiting).map Pending.idx = places.filter fun idx => (waiting idx).isSome := by
  induction places with
  | nil => rfl
  | cons idx rest ih =>
      cases waits : waiting idx with
      | none =>
          rw [List.filterMap_cons_none waits, ih, List.filter_cons_of_neg (by simp [waits])]
      | some pending =>
          rw [List.filterMap_cons_some waits, List.map_cons, own idx pending waits, ih,
            List.filter_cons_of_pos (by simp [waits])]

/-- Each place is done once, or is left. -/
theorem Whole.perm_places (whole : Whole waiting gone left done)
    (own : ∀ idx pending, waiting idx = some pending → pending.idx = idx) :
    (done.calls ++ left.map Pending.idx).Perm mounts.places := by
  have waiting_ := (whole.perm.map Pending.idx).trans (.of_eq (map_idx_filterMap own mounts.places))
  rw [whole.calls, List.append_assoc, ← List.map_append]
  apply (waiting_.append_left _).trans
  have split := List.filter_append_perm (fun idx => (waiting idx).isNone) mounts.places
  simpa only [free, Option.not_isNone] using split

theorem Whole.nodup_calls (whole : Whole waiting gone left done)
    (own : ∀ idx pending, waiting idx = some pending → pending.idx = idx) : done.calls.Nodup :=
  (List.nodup_append.mp ((whole.perm_places own).nodup_iff.mpr (List.nodup_finRange _))).1

theorem Whole.mem_left_iff (whole : Whole waiting gone left done)
    (own : ∀ idx pending, waiting idx = some pending → pending.idx = idx) (idx : mounts.Idx) :
    idx ∈ left.map Pending.idx ↔ idx ∉ done.calls := by
  have perm := whole.perm_places own
  constructor
  · intro listed called
    have nodup := perm.nodup_iff.mpr (List.nodup_finRange _)
    exact (List.nodup_append.mp nodup).2.2 idx called idx listed rfl
  · exact (List.mem_append.mp (perm.mem_iff.mpr (List.mem_finRange idx))).resolve_left

theorem Whole.waiting_eq (whole : Whole waiting gone left done) {pending : Pending mounts}
    (listed : pending ∈ gone ∨ pending ∈ left) : ∃ idx, waiting idx = some pending := by
  have member := whole.perm.mem_iff.mp (List.mem_append.mpr listed)
  obtain ⟨idx, -, waits⟩ := List.mem_filterMap.mp member
  exact ⟨idx, waits⟩

/-- The names that are logged are those of the mounts that are left. -/
theorem Whole.mem_unresolved (whole : Whole waiting gone left done) (name : Ustr) :
    (∃ fields, done.unresolved = some fields ∧ name ∈ fields) ↔
      ∃ pending ∈ left, pending.name = name := by
  rw [whole.unresolved]
  cases left with
  | nil => simp
  | cons pending rest =>
      rw [List.isEmpty_cons, if_neg Bool.false_ne_true]
      constructor
      · rintro ⟨fields, logged, listed⟩
        cases logged
        exact (Maps.mem_insertAll.mp listed).resolve_left (AList.notMem_empty name)
      · exact fun left_ => ⟨_, rfl, Maps.mem_insertAll.mpr (.inr left_)⟩

end Whole

end Rind.UnitMounts
