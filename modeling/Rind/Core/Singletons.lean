import Rind.Core.Instances

/-!
# Singleton handles

A closure that needs several singletons at once is given them by
`singleton_handle`, which takes their entries out of the instance map and puts them
back when the closure has returned.  An error before the closure is called leaves
out what was taken before it.
-/

namespace Rind

variable {ι : Type} [DecidableEq ι] {V : ι → Type} {R : Type}

/-- A singleton that a closure asks for. -/
structure HandleKey (ι : Type) where
  name : Ustr
  type : ι

/-- A closure over singletons. It is given the rest of the map, and returns the
singletons it was given, changed as it likes. -/
structure HandleClosure (V : ι → Type) (R : Type) where
  run : InstanceMap V → List (Boxed V) → Except CoreError R × InstanceMap V × List (Boxed V)
  typed : ∀ map singletons, (run map singletons).2.2.map Sigma.fst = singletons.map Sigma.fst

/-- Take the entries of the keys out of the map, up to the first one that is
missing. -/
def takeEntries : List (HandleKey ι) → InstanceMap V →
    Except CoreError (List (List (Boxed V))) × InstanceMap V
  | [], map => (.ok [], map)
  | key :: rest, map =>
      match map.lookup key.name with
      | none => (.error (.missingField key.name), map)
      | some entry =>
          match takeEntries rest (map.erase key.name) with
          | (.error error, map) => (.error error, map)
          | (.ok entries, map) => (.ok (entry :: entries), map)

/-- The name of a type parameter of the macro, by its position. -/
def parameterName (position : Nat) : String := String.singleton (Char.ofNat ('A'.toNat + position))

/-- The first instance of each entry that was taken. -/
def borrowFirsts : (position : Nat) → List (HandleKey ι) → List (List (Boxed V)) →
    Except CoreError (List (Boxed V))
  | _, [], _ => .ok []
  | _, key :: _, [] | _, key :: _, [] :: _ => .error (.missingField key.name)
  | position, key :: keys, (first :: _) :: entries =>
      if first.1 = key.type then
        match borrowFirsts (position + 1) keys entries with
        | .error error => .error error
        | .ok firsts => .ok (first :: firsts)
      else .error (.typeMismatch key.name (parameterName position))

/-- Put the entries back with what has become of their first instances. -/
def putEntries : List (HandleKey ι) → List (List (Boxed V)) → List (Boxed V) → InstanceMap V →
    InstanceMap V
  | key :: keys, entry :: entries, first :: firsts, map =>
      putEntries keys entries firsts (map.insert key.name (first :: entry.tail))
  | _, _, _, map => map

/-- `singleton_handle` -/
def singletonHandle (keys : List (HandleKey ι)) (closure : HandleClosure V R)
    (map : InstanceMap V) : Except CoreError R × InstanceMap V :=
  if ¬ (keys.map HandleKey.name).Nodup then (.error .doubleKey, map)
  else
    match takeEntries keys map with
    | (.error error, map) => (.error error, map)
    | (.ok entries, map) =>
        match borrowFirsts 0 keys entries with
        | .error error => (.error error, map)
        | .ok firsts =>
            let (result, map, firsts) := closure.run map firsts
            (result, putEntries keys entries firsts map)

/-! ## What a closure is given -/

/-- The key has an entry that begins with an instance of its type. -/
def Borrowable (map : InstanceMap V) (key : HandleKey ι) : Prop :=
  ∃ first ∈ (map.entry key.name).head?, first.1 = key.type

/-- The map without the entries of the keys. -/
def withoutKeys (keys : List (HandleKey ι)) (map : InstanceMap V) : InstanceMap V :=
  keys.foldl (fun map key => map.erase key.name) map

/-- The singletons of the keys. -/
def singletonsOf (keys : List (HandleKey ι)) (map : InstanceMap V) : List (Boxed V) :=
  keys.filterMap fun key => (map.entry key.name).head?

/-- What a failed call may make of the map: nothing if the closure cannot be called,
and otherwise what the closure makes of the singletons and of the rest. -/
structure KeepsEntries (keys : List (HandleKey ι)) (closure : HandleClosure V R)
    (map final : InstanceMap V) : Prop where
  uncalled : ¬ ((keys.map HandleKey.name).Nodup ∧ ∀ key ∈ keys, Borrowable map key) →
    ∀ name, final.lookup name = map.lookup name
  singletons : (keys.map HandleKey.name).Nodup → (∀ key ∈ keys, Borrowable map key) →
    ∀ (position : Nat) (key : HandleKey ι) (first : Boxed V), keys[position]? = some key →
      (closure.run (withoutKeys keys map) (singletonsOf keys map)).2.2[position]? = some first →
        final.lookup key.name = some (first :: (map.entry key.name).tail)
  others : (keys.map HandleKey.name).Nodup → (∀ key ∈ keys, Borrowable map key) →
    ∀ name, name ∉ keys.map HandleKey.name → final.lookup name =
      (closure.run (withoutKeys keys map) (singletonsOf keys map)).2.1.lookup name

/-! ## Taking and borrowing -/

section Taking

variable {map : InstanceMap V} {keys : List (HandleKey ι)} {name : Ustr}

omit [DecidableEq ι] in
/-- Taking entries out only erases. -/
theorem lookup_takeEntries_of_none (absent : map.lookup name = none) :
    (takeEntries keys map).2.lookup name = none := by
  induction keys generalizing map with
  | nil => exact absent
  | cons key rest ih =>
      have erased : (map.erase key.name).lookup name = none := by
        by_cases same : name = key.name
        · rw [same, AList.lookup_erase]
        · rw [AList.lookup_erase_ne same, absent]
      have later := ih erased
      rw [takeEntries]
      split
      · exact absent
      · split <;> rename_i taken <;> rw [taken] at later <;> exact later

omit [DecidableEq ι] in
/-- All entries are taken where none is missing. -/
theorem takeEntries_of_present (distinct : (keys.map HandleKey.name).Nodup)
    (present : ∀ key ∈ keys, (map.lookup key.name).isSome) :
    takeEntries keys map = (.ok (keys.map fun key => map.entry key.name), withoutKeys keys map) := by
  induction keys generalizing map with
  | nil => rfl
  | cons key rest ih =>
      obtain ⟨apart, distinct'⟩ := List.nodup_cons.mp distinct
      obtain ⟨here, present'⟩ := List.forall_mem_cons.mp present
      obtain ⟨entry, found⟩ := Option.isSome_iff_exists.mp here
      have elsewhere : ∀ other ∈ rest, (map.erase key.name).lookup other.name =
          map.lookup other.name := by
        intro other member
        apply AList.lookup_erase_ne
        intro same
        exact apart (same ▸ List.mem_map_of_mem member)
      have rest_taken := ih distinct' fun other member => by
        rw [elsewhere other member]
        exact present' other member
      have entries : (rest.map fun other => InstanceMap.entry (map.erase key.name) other.name) =
          rest.map fun other => map.entry other.name :=
        List.map_congr_left fun other member => by
          rw [InstanceMap.entry, elsewhere other member, InstanceMap.entry]
      rw [entries] at rest_taken
      rw [takeEntries, found]
      simp only [rest_taken, List.map_cons, InstanceMap.entry, found, Option.getD_some]
      rfl

omit [DecidableEq ι] in
/-- And none is missing where all are taken. -/
theorem present_of_takeEntries {entries : List (List (Boxed V))} {final : InstanceMap V}
    (taken : takeEntries keys map = (.ok entries, final)) :
    ∀ key ∈ keys, (map.lookup key.name).isSome := by
  induction keys generalizing map entries final with
  | nil => simp
  | cons key rest ih =>
      rw [takeEntries] at taken
      split at taken
      · cases taken
      · next entry found =>
          split at taken
          · cases taken
          · next later last others =>
              refine List.forall_mem_cons.mpr ⟨by rw [found]; rfl, fun other member => ?_⟩
              have held := ih others other member
              by_cases same : other.name = key.name
              · rw [same, found]
                rfl
              · rwa [AList.lookup_erase_ne same] at held

omit [DecidableEq ι] in
/-- The first entry is gone as soon as it has been taken. -/
theorem lookup_takeEntries_first {first : HandleKey ι} {rest : List (HandleKey ι)}
    (present : map.lookup first.name ≠ none) :
    (takeEntries (first :: rest) map).2.lookup first.name = none := by
  have later : (takeEntries rest (map.erase first.name)).2.lookup first.name = none :=
    lookup_takeEntries_of_none (AList.lookup_erase ..)
  rw [takeEntries]
  split
  · contradiction
  · split <;> rename_i taken <;> rw [taken] at later <;> exact later

/-- All singletons are borrowed where their entries begin with them. -/
theorem borrowFirsts_of_borrowable (borrowable : ∀ key ∈ keys, Borrowable map key)
    (position : Nat) :
    borrowFirsts position keys (keys.map fun key => map.entry key.name) =
      .ok (singletonsOf keys map) := by
  induction keys generalizing position with
  | nil => rfl
  | cons key rest ih =>
      obtain ⟨⟨first, held, typed⟩, others⟩ := List.forall_mem_cons.mp borrowable
      obtain ⟨tail, listed⟩ := List.head?_eq_some_iff.mp held
      have singletons : singletonsOf (key :: rest) map = first :: singletonsOf rest map := by
        rw [singletonsOf, List.filterMap_cons, listed]
        rfl
      rw [List.map_cons, listed, borrowFirsts, if_pos typed, ih others, singletons]

theorem borrowFirsts_error (missing : ¬ ∀ key ∈ keys, Borrowable map key) (position : Nat) :
    ∃ error, borrowFirsts position keys (keys.map fun key => map.entry key.name) =
      .error error := by
  induction keys generalizing position with
  | nil => simp at missing
  | cons key rest ih =>
      rw [List.map_cons]
      cases listed : map.entry key.name with
      | nil => exact ⟨_, rfl⟩
      | cons first tail =>
          rw [borrowFirsts]
          by_cases typed : first.1 = key.type
          · have here : Borrowable map key := ⟨first, by rw [listed]; rfl, typed⟩
            rw [List.forall_mem_cons, not_and] at missing
            obtain ⟨error, failed⟩ := ih (missing here) (position + 1)
            rw [if_pos typed, failed]
            exact ⟨error, rfl⟩
          · rw [if_neg typed]
            exact ⟨_, rfl⟩

end Taking

/-! ## Putting back -/

section Putting

variable {keys : List (HandleKey ι)} {entries : HandleKey ι → List (Boxed V)}
  {firsts : List (Boxed V)} {map : InstanceMap V}

omit [DecidableEq ι] in
theorem lookup_putEntries_of_notMem {name : Ustr} (other : name ∉ keys.map HandleKey.name) :
    (putEntries keys (keys.map entries) firsts map).lookup name = map.lookup name := by
  induction keys generalizing firsts map with
  | nil => rfl
  | cons key rest ih =>
      rw [List.map_cons, List.mem_cons, not_or] at other
      cases firsts with
      | nil => rfl
      | cons first later =>
          rw [List.map_cons, putEntries, ih other.2, AList.lookup_insert_ne other.1]

omit [DecidableEq ι] in
theorem lookup_putEntries (distinct : (keys.map HandleKey.name).Nodup) {position : Nat}
    {key : HandleKey ι} {first : Boxed V} (at_ : keys[position]? = some key)
    (left : firsts[position]? = some first) :
    (putEntries keys (keys.map entries) firsts map).lookup key.name =
      some (first :: (entries key).tail) := by
  induction keys generalizing firsts map position with
  | nil => simp at at_
  | cons other rest ih =>
      obtain ⟨apart, distinct'⟩ := List.nodup_cons.mp distinct
      cases firsts with
      | nil => simp at left
      | cons value later =>
          rw [List.map_cons, putEntries]
          cases position with
          | zero =>
              simp only [List.getElem?_cons_zero, Option.some_inj] at at_ left
              subst at_ left
              rw [lookup_putEntries_of_notMem apart, AList.lookup_insert]
          | succ position =>
              rw [List.getElem?_cons_succ] at at_ left
              exact ih distinct' at_ left

end Putting

/-! ## Failed calls -/

section Failing

variable {keys : List (HandleKey ι)} {closure : HandleClosure V R} {map : InstanceMap V}

omit [DecidableEq ι] in
/-- A map that is left as it was, where the closure is not called. -/
theorem KeepsEntries.unchanged
    (uncalled : ¬ ((keys.map HandleKey.name).Nodup ∧ ∀ key ∈ keys, Borrowable map key)) :
    KeepsEntries keys closure map map where
  uncalled _ _ := rfl
  singletons distinct borrowable := absurd ⟨distinct, borrowable⟩ uncalled
  others distinct borrowable := absurd ⟨distinct, borrowable⟩ uncalled

omit [DecidableEq ι] in
theorem present_of_borrowable {key : HandleKey ι} (borrowable : Borrowable map key) :
    (map.lookup key.name).isSome := by
  obtain ⟨first, held, -⟩ := borrowable
  rw [InstanceMap.entry] at held
  cases found : map.lookup key.name with
  | none => simp [found] at held
  | some entry => rfl

/-- The closure is called with the singletons, and its changes are kept. -/
theorem keepsEntries_of_called {result : Except CoreError R} {final : InstanceMap V}
    (distinct : (keys.map HandleKey.name).Nodup) (borrowable : ∀ key ∈ keys, Borrowable map key)
    (ran : singletonHandle keys closure map = (result, final)) :
    KeepsEntries keys closure map final := by
  rw [singletonHandle, if_neg (not_not.mpr distinct),
    takeEntries_of_present distinct fun key member => present_of_borrowable (borrowable key member)]
    at ran
  simp only [borrowFirsts_of_borrowable borrowable, Prod.mk.injEq] at ran
  obtain ⟨-, rfl⟩ := ran
  exact {
    uncalled := fun uncalled => absurd ⟨distinct, borrowable⟩ uncalled
    singletons := fun _ _ position key first at_ left => lookup_putEntries distinct at_ left
    others := fun _ _ name other => lookup_putEntries_of_notMem other }

/-- A call that fails between the first entry it takes and the closure loses that
entry. -/
theorem singletonHandle_loses (closure : HandleClosure V R) {first : HandleKey ι}
    {rest : List (HandleKey ι)}
    (distinct : ((first :: rest).map HandleKey.name).Nodup)
    (present : map.lookup first.name ≠ none)
    (unborrowed : ¬ ∀ key ∈ first :: rest, Borrowable map key) :
    ∃ error final, singletonHandle (first :: rest) closure map = (.error error, final) ∧
      final.lookup first.name = none := by
  have gone : (takeEntries (first :: rest) map).2.lookup first.name = none :=
    lookup_takeEntries_first present
  rw [singletonHandle, if_neg (not_not.mpr distinct)]
  cases taken : takeEntries (first :: rest) map with
  | mk result final =>
      rw [taken] at gone
      cases result with
      | error error => exact ⟨error, final, rfl, gone⟩
      | ok entries =>
          have all := takeEntries_of_present distinct (present_of_takeEntries taken)
          obtain ⟨error, failed⟩ := borrowFirsts_error unborrowed 0
          have same : entries = (first :: rest).map fun key => map.entry key.name := by
            rw [all] at taken
            cases taken
            rfl
          refine ⟨error, final, ?_, gone⟩
          simp only [same, failed]

variable (first : HandleKey ι) (rest : List (HandleKey ι)) (closure : HandleClosure V R)
  (map : InstanceMap V)

/-- A failed call keeps all entries exactly when it fails before it takes one out, or
in the closure. -/
theorem entries_kept_iff :
    (∀ error final, singletonHandle (first :: rest) closure map = (.error error, final) →
        KeepsEntries (first :: rest) closure map final) ↔
      ¬ ((first :: rest).map HandleKey.name).Nodup ∨ map.lookup first.name = none ∨
        ∀ key ∈ first :: rest, Borrowable map key := by
  constructor
  · intro keeps
    by_contra lost
    rw [not_or, not_or, not_not] at lost
    obtain ⟨distinct, present, unborrowed⟩ := lost
    obtain ⟨error, final, failed, gone⟩ :=
      singletonHandle_loses closure distinct present unborrowed
    have kept := (keeps error final failed).uncalled (fun called => unborrowed called.2) first.name
    exact present (kept.symm.trans gone)
  · intro early error final failed
    by_cases distinct : ((first :: rest).map HandleKey.name).Nodup
    · rcases early with double | absent | borrowable
      · contradiction
      · rw [singletonHandle, if_neg (not_not.mpr distinct), takeEntries, absent] at failed
        cases failed
        apply KeepsEntries.unchanged
        rintro ⟨-, borrowable⟩
        have present := present_of_borrowable (borrowable first List.mem_cons_self)
        rw [absent] at present
        cases present
      · exact keepsEntries_of_called distinct borrowable failed
    · rw [singletonHandle, if_pos distinct] at failed
      cases failed
      exact .unchanged fun called => distinct called.1

end Failing

/-! ## A missing singleton -/

/-- A closure that does nothing. -/
def idleClosure : HandleClosure (fun _ : Unit => Nat) Unit where
  run map singletons := (.ok (), map, singletons)
  typed _ _ := rfl

/-- A map with a facet graph, and without a variable heap. -/
def graphOnly : InstanceMap fun _ : Unit => Nat := AList.insert "runtime:facet_graph" [⟨(), 0⟩] ∅

def graphKey : HandleKey Unit := ⟨"runtime:facet_graph", ()⟩

def heapKey : HandleKey Unit := ⟨"runtime:variable_heap", ()⟩

/-- The facet graph is lost where the variable heap is missing. -/
theorem not_entries_kept_heap :
    ¬ ∀ error final, singletonHandle [graphKey, heapKey] idleClosure graphOnly =
        (.error error, final) → KeepsEntries [graphKey, heapKey] idleClosure graphOnly final := by
  intro keeps
  have unborrowed : ¬ ∀ key ∈ [graphKey, heapKey], Borrowable graphOnly key := by
    intro borrowable
    have absent : (graphOnly.lookup heapKey.name).isSome = false := by decide
    have present := present_of_borrowable (borrowable heapKey (by simp))
    rw [absent] at present
    cases present
  have present : (graphOnly.lookup graphKey.name).isSome := by decide
  obtain ⟨error, final, failed, gone⟩ : ∃ error final,
      singletonHandle [graphKey, heapKey] idleClosure graphOnly = (.error error, final) ∧
        final.lookup graphKey.name = none :=
    singletonHandle_loses _ (by decide) (Option.isSome_iff_ne_none.mp present) unborrowed
  have kept := (keeps error final failed).uncalled (fun called => unborrowed called.2) graphKey.name
  rw [← kept, gone] at present
  cases present

end Rind
