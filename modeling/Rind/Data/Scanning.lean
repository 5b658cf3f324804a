import Mathlib.Data.List.Basic

/-!
# Scanning for frames

A scanner looks at the front of some input: a frame stands there, or one item
is skipped, or the scan stops.  A frame is found behind inserted items exactly
when no item the scan comes to makes it stop or reads over the frame.
-/

namespace Rind

/-- What a scanner sees at the front of its input. -/
inductive Reading (β : Type) where
  | stop
  | skip
  | frame (value : β) (size : Nat)
  deriving DecidableEq, Repr

/-- A reader of frames. What it sees stands however the input goes on, unless
it stopped for want of input. -/
structure Scanner (α β : Type) where
  read : List α → Reading β
  empty : read [] = .stop
  advances {input : List α} {value : β} {size : Nat} :
    read input = .frame value size → 0 < size ∧ size ≤ input.length
  stable {input : List α} (more : List α) : read input ≠ .stop → read (input ++ more) = read input
  whole {input more : List α} {value : β} {size : Nat} :
    read (input ++ more) = .frame value size → size ≤ input.length → read input ≠ .stop

/-- A frame where the scan met it. -/
structure Hit (β : Type) where
  start : Nat
  size : Nat
  value : β
  deriving DecidableEq, Repr

namespace Scanner

variable {α β : Type} (scanner : Scanner α β)

/-- The frames from some place on, and where the scan stops. -/
def scanFrom : Nat → Nat → List α → List (Hit β) × Nat
  | 0, cursor, _ => ([], cursor)
  | fuel + 1, cursor, input =>
      match scanner.read input with
      | .stop => ([], cursor)
      | .skip => scanFrom fuel (cursor + 1) (input.drop 1)
      | .frame value size =>
          let later := scanFrom fuel (cursor + size) (input.drop size)
          (⟨cursor, size, value⟩ :: later.1, later.2)

def scan (cursor : Nat) (input : List α) : List (Hit β) × Nat :=
  scanner.scanFrom (input.length + 1) cursor input

variable {scanner}

/-! ## One step of a scan -/

theorem skip_length {input : List α} (skip : scanner.read input = .skip) :
    (input.drop 1).length + 1 = input.length := by
  cases input with
  | nil =>
      rw [scanner.empty] at skip
      cases skip
  | cons item input => rfl

theorem frame_length {input : List α} {value : β} {size : Nat}
    (frame : scanner.read input = .frame value size) :
    (input.drop size).length + size = input.length ∧ 0 < size := by
  have advances := scanner.advances frame
  rw [List.length_drop]
  omega

variable (scanner) in
/-- What holds where the scan stops, and before every step it takes, holds. -/
theorem scan_induction {motive : List α → Prop}
    (stop : ∀ input, scanner.read input = .stop → motive input)
    (skip : ∀ input, scanner.read input = .skip → motive (input.drop 1) → motive input)
    (frame : ∀ input value size, scanner.read input = .frame value size →
      motive (input.drop size) → motive input)
    (input : List α) : motive input := by
  induction length : input.length using Nat.strongRecOn generalizing input with
  | ind length ih =>
      subst length
      match seen : scanner.read input with
      | .stop => exact stop input seen
      | .skip =>
          have shorter := skip_length seen
          exact skip input seen (ih _ (by omega) _ rfl)
      | .frame value size =>
          have shorter := frame_length seen
          exact frame input value size seen (ih _ (by omega) _ rfl)

/-- Fuel beyond the length of the input changes nothing. -/
theorem scanFrom_enough {fuel cursor : Nat} {input : List α} (enough : input.length < fuel) :
    scanner.scanFrom fuel cursor input = scanner.scan cursor input := by
  induction input using scan_induction scanner generalizing fuel cursor with
  | stop input stop =>
      cases fuel with
      | zero => exact absurd enough (Nat.not_lt_zero _)
      | succ fuel => simp only [scan, scanFrom, stop]
  | skip input skip ih =>
      have shorter := skip_length skip
      cases fuel with
      | zero => exact absurd enough (Nat.not_lt_zero _)
      | succ fuel =>
          simp only [scan, scanFrom, skip]
          rw [ih (by omega), ih (by omega)]
  | frame input value size frame ih =>
      have shorter := frame_length frame
      cases fuel with
      | zero => exact absurd enough (Nat.not_lt_zero _)
      | succ fuel =>
          simp only [scan, scanFrom, frame]
          rw [ih (by omega), ih (by omega)]

theorem scan_stop {cursor : Nat} {input : List α} (stop : scanner.read input = .stop) :
    scanner.scan cursor input = ([], cursor) := by
  simp only [scan, scanFrom, stop]

theorem scan_skip {cursor : Nat} {input : List α} (skip : scanner.read input = .skip) :
    scanner.scan cursor input = scanner.scan (cursor + 1) (input.drop 1) := by
  have shorter := skip_length skip
  rw [scan]
  simp only [scanFrom, skip]
  exact scanFrom_enough (by omega)

theorem scan_frame {cursor size : Nat} {input : List α} {value : β}
    (frame : scanner.read input = .frame value size) :
    scanner.scan cursor input =
      (⟨cursor, size, value⟩ :: (scanner.scan (cursor + size) (input.drop size)).1,
        (scanner.scan (cursor + size) (input.drop size)).2) := by
  have shorter := frame_length frame
  rw [scan]
  simp only [scanFrom, frame]
  rw [scanFrom_enough (by omega)]

variable (scanner) in
/-- Where the scan begins only moves the places. -/
theorem scan_shift (first second : Nat) (input : List α) :
    scanner.scan (first + second) input =
      ((scanner.scan second input).1.map fun hit => { hit with start := first + hit.start },
        first + (scanner.scan second input).2) := by
  induction input using scan_induction scanner generalizing second with
  | stop input stop =>
      rw [scan_stop stop, scan_stop stop]
      rfl
  | skip input skip ih =>
      rw [scan_skip skip, scan_skip skip, Nat.add_assoc, ih]
  | frame input value size frame ih =>
      rw [scan_frame frame, scan_frame frame, Nat.add_assoc, ih]
      rfl

variable (scanner) in
/-- A scan goes forward and does not leave its input. -/
theorem scan_bounds (cursor : Nat) (input : List α) :
    cursor ≤ (scanner.scan cursor input).2 ∧
      (scanner.scan cursor input).2 ≤ cursor + input.length ∧
      ∀ hit ∈ (scanner.scan cursor input).1,
        cursor ≤ hit.start ∧ hit.start < (scanner.scan cursor input).2 := by
  induction input using scan_induction scanner generalizing cursor with
  | stop input stop => simp [scan_stop stop]
  | skip input skip ih =>
      have shorter := skip_length skip
      obtain ⟨forward, within, hits⟩ := ih (cursor + 1)
      rw [scan_skip skip]
      refine ⟨by omega, by omega, fun hit found => ?_⟩
      have bounds := hits hit found
      omega
  | frame input value size frame ih =>
      have shorter := frame_length frame
      obtain ⟨forward, within, hits⟩ := ih (cursor + size)
      rw [scan_frame frame]
      refine ⟨by omega, by omega, fun hit found => ?_⟩
      rcases List.mem_cons.mp found with rfl | found
      · dsimp only
        omega
      · have bounds := hits hit found
        omega

variable (scanner) in
/-- A scan meets no frame twice. -/
theorem scan_sorted (cursor : Nat) (input : List α) :
    (scanner.scan cursor input).1.Pairwise fun first second => first.start < second.start := by
  induction input using scan_induction scanner generalizing cursor with
  | stop input stop =>
      rw [scan_stop stop]
      exact List.Pairwise.nil
  | skip input skip ih =>
      rw [scan_skip skip]
      exact ih _
  | frame input value size frame ih =>
      rw [scan_frame frame]
      refine List.Pairwise.cons (fun hit found => ?_) (ih _)
      have later := ((scan_bounds scanner _ _).2.2 hit found).1
      have shorter := frame_length frame
      dsimp only
      omega

variable (scanner) in
/-- More input at the end only lets the scan go on from where it stopped. -/
theorem scan_append (cursor : Nat) (front back : List α) :
    scanner.scan cursor (front ++ back) =
      ((scanner.scan cursor front).1 ++ (scanner.scan (scanner.scan cursor front).2
          (front.drop ((scanner.scan cursor front).2 - cursor) ++ back)).1,
        (scanner.scan (scanner.scan cursor front).2
          (front.drop ((scanner.scan cursor front).2 - cursor) ++ back)).2) := by
  induction front using scan_induction scanner generalizing cursor with
  | stop front stop =>
      rw [scan_stop stop, Nat.sub_self, List.drop_zero]
      rfl
  | skip front skip ih =>
      have shorter := skip_length skip
      have same : scanner.read (front ++ back) = .skip := by
        rw [scanner.stable back (by simp [skip]), skip]
      have forward := (scan_bounds scanner (cursor + 1) (front.drop 1)).1
      have place : 1 + ((scanner.scan (cursor + 1) (front.drop 1)).2 - (cursor + 1)) =
          (scanner.scan (cursor + 1) (front.drop 1)).2 - cursor := by omega
      rw [scan_skip same, scan_skip skip, List.drop_append_of_le_length (by omega), ih,
        List.drop_drop, place]
  | frame front value size frame ih =>
      have shorter := frame_length frame
      have same : scanner.read (front ++ back) = .frame value size := by
        rw [scanner.stable back (by simp [frame]), frame]
      have forward := (scan_bounds scanner (cursor + size) (front.drop size)).1
      have place : size + ((scanner.scan (cursor + size) (front.drop size)).2 - (cursor + size)) =
          (scanner.scan (cursor + size) (front.drop size)).2 - cursor := by omega
      rw [scan_frame same, scan_frame frame, List.drop_append_of_le_length (by omega), ih,
        List.drop_drop, place]
      rfl

/-! ## The inputs a scan comes to -/

variable (scanner) in
inductive Reaches : List α → List α → Prop where
  | here (input : List α) : Reaches input input
  | skip {input later : List α} : scanner.read input = .skip → Reaches (input.drop 1) later →
      Reaches input later
  | frame {input later : List α} {value : β} {size : Nat} :
      scanner.read input = .frame value size → Reaches (input.drop size) later →
      Reaches input later

theorem Reaches.suffix {input later : List α} (reaches : scanner.Reaches input later) :
    later <:+ input := by
  induction reaches with
  | here input => exact List.suffix_refl _
  | skip _ _ ih => exact ih.trans (List.drop_suffix _ _)
  | frame _ _ ih => exact ih.trans (List.drop_suffix _ _)

/-- There is one way through the input. -/
theorem Reaches.linear {input sooner later : List α} (reaches : scanner.Reaches input sooner)
    (other : scanner.Reaches input later) (order : later.length ≤ sooner.length) :
    scanner.Reaches sooner later := by
  induction reaches with
  | here input => exact other
  | skip skip first ih =>
      have within := first.suffix.length_le
      have shorter := skip_length skip
      cases other with
      | here => omega
      | skip _ rest => exact ih rest order
      | frame frame _ => simp [skip] at frame
  | frame frame first ih =>
      have within := first.suffix.length_le
      have shorter := frame_length frame
      cases other with
      | here => omega
      | skip skip _ => simp [frame] at skip
      | frame same rest =>
          rw [frame] at same
          cases same
          exact ih rest order

theorem Reaches.trans {input sooner later : List α} (reaches : scanner.Reaches input sooner)
    (further : scanner.Reaches sooner later) : scanner.Reaches input later := by
  induction reaches with
  | here input => exact further
  | skip skip _ ih => exact .skip skip (ih further)
  | frame frame _ ih => exact .frame frame (ih further)

/-- A scan goes on from each input it comes to. -/
theorem Reaches.scan {input later : List α} (reaches : scanner.Reaches input later) (cursor : Nat) :
    ∃ before, ∀ place, place + later.length = cursor + input.length →
      scanner.scan cursor input =
        (before ++ (scanner.scan place later).1, (scanner.scan place later).2) := by
  induction reaches generalizing cursor with
  | here input =>
      use []
      intro place same
      rw [Nat.add_right_cancel same]
      rfl
  | skip skip _ ih =>
      obtain ⟨before, goesOn⟩ := ih (cursor + 1)
      have shorter := skip_length skip
      use before
      intro place same
      rw [scan_skip skip]
      exact goesOn place (by omega)
  | @frame input later value size frame _ ih =>
      obtain ⟨before, goesOn⟩ := ih (cursor + size)
      have shorter := frame_length frame
      use ⟨cursor, size, value⟩ :: before
      intro place same
      rw [scan_frame frame, goesOn place (by omega)]
      rfl

/-- A frame is found exactly where the scan comes to it. -/
theorem mem_scan_iff {cursor : Nat} {input : List α} {hit : Hit β} :
    hit ∈ (scanner.scan cursor input).1 ↔
      ∃ later, scanner.Reaches input later ∧ hit.start + later.length = cursor + input.length ∧
        scanner.read later = .frame hit.value hit.size := by
  constructor
  · intro found
    induction input using scan_induction scanner generalizing cursor with
    | stop input stop =>
        rw [scan_stop stop] at found
        exact absurd found List.not_mem_nil
    | skip input skip ih =>
        have shorter := skip_length skip
        rw [scan_skip skip] at found
        obtain ⟨later, reaches, place, frame⟩ := ih found
        exact ⟨later, .skip skip reaches, by omega, frame⟩
    | frame input value size frame ih =>
        have shorter := frame_length frame
        rw [scan_frame frame] at found
        rcases List.mem_cons.mp found with rfl | found
        · exact ⟨input, .here input, rfl, frame⟩
        · obtain ⟨later, reaches, place, there⟩ := ih found
          exact ⟨later, .frame frame reaches, by omega, there⟩
  · intro ⟨later, reaches, place, frame⟩
    obtain ⟨before, goesOn⟩ := reaches.scan cursor
    rw [goesOn hit.start place, scan_frame frame]
    exact List.mem_append_right _ List.mem_cons_self

/-! ## Inserted items -/

/-- An item of the junk that no frame of the junk covers. -/
inductive Open (scanner : Scanner α β) (junk : List α) : List α → Prop where
  | start : Open scanner junk junk
  | next {item : α} {left : List α} : Open scanner junk (item :: left) →
      (∀ value size, scanner.read (item :: left) ≠ .frame value size) → Open scanner junk left
  | after {left : List α} {value : β} {size : Nat} : Open scanner junk left →
      scanner.read left = .frame value size → Open scanner junk (left.drop size)

/-- No open item of the junk stops the scan or begins a frame that reaches into
what follows. -/
def Clear (scanner : Scanner α β) (junk rest : List α) : Prop :=
  ∀ left, left ≠ [] → scanner.Open junk left →
    scanner.read (left ++ rest) ≠ .stop ∧
    ∀ value size, scanner.read (left ++ rest) = .frame value size → size ≤ left.length

/-- A frame of the junk is one of the whole input. -/
theorem frame_append {left : List α} (rest : List α) {value : β} {size : Nat}
    (frame : scanner.read left = .frame value size) :
    scanner.read (left ++ rest) = .frame value size ∧
      (left ++ rest).drop size = left.drop size ++ rest := by
  have advances := scanner.advances frame
  have same : scanner.read (left ++ rest) = scanner.read left := by
    apply scanner.stable
    rw [frame]
    simp
  rw [same, frame, List.drop_append_of_le_length advances.2]
  exact ⟨rfl, rfl⟩

/-- A frame of the whole input that ends in the junk is one of the junk. -/
theorem frame_of_append {left rest : List α} {value : β} {size : Nat}
    (frame : scanner.read (left ++ rest) = .frame value size) (within : size ≤ left.length) :
    scanner.read left = .frame value size := by
  rw [← scanner.stable rest (scanner.whole frame within), frame]

/-- A reader stops where the frame before it is cut. -/
theorem stop_of_cut {front back : List α} {value : β} {size : Nat}
    (frame : scanner.read (front ++ back) = .frame value size) (cut : front.length < size) :
    scanner.read front = .stop := by
  by_contra goesOn
  rw [scanner.stable back goesOn] at frame
  exact absurd (scanner.advances frame).2 (Nat.not_le.mpr cut)

/-- More input at the end does not change the way. -/
theorem Reaches.append {input later : List α} (reaches : scanner.Reaches input later)
    (more : List α) : scanner.Reaches (input ++ more) (later ++ more) := by
  induction reaches with
  | here input => exact .here _
  | @skip input later skip _ ih =>
      have shorter := skip_length skip
      have same : scanner.read (input ++ more) = .skip := by
        rw [scanner.stable more (by simp [skip]), skip]
      apply Reaches.skip same
      rw [List.drop_append_of_le_length (by omega)]
      exact ih
  | frame frame _ ih =>
      obtain ⟨same, dropped⟩ := frame_append more frame
      apply Reaches.frame same
      rw [dropped]
      exact ih

theorem Clear.reaches {junk rest : List α} (clear : scanner.Clear junk rest) :
    scanner.Reaches (junk ++ rest) rest := by
  have walk (left : List α) (isOpen : scanner.Open junk left) :
      scanner.Reaches (left ++ rest) rest := by
    induction length : left.length using Nat.strongRecOn generalizing left with
    | ind length ih =>
        subst length
        cases left with
        | nil => exact .here rest
        | cons item left =>
            obtain ⟨goesOn, within⟩ := clear _ (List.cons_ne_nil item left) isOpen
            match seen : scanner.read (item :: left ++ rest) with
            | .stop => exact absurd seen goesOn
            | .skip =>
                have next : scanner.Open junk left := by
                  apply isOpen.next
                  intro value size frame
                  rw [(frame_append rest frame).1] at seen
                  cases seen
                exact .skip seen (ih _ (Nat.lt_succ_self _) left next rfl)
            | .frame value size =>
                have frame := frame_of_append seen (within value size seen)
                have shorter := frame_length frame
                have further := ih _ (by omega) _ (isOpen.after frame) rfl
                rw [← (frame_append rest frame).2] at further
                exact .frame seen further
  exact walk junk .start

theorem Reaches.clear {junk rest : List α} (reaches : scanner.Reaches (junk ++ rest) rest) :
    scanner.Clear junk rest := by
  -- What the scan sees at an item of the junk leaves it a way to the rest.
  have seen (left : List α) (there : left ≠ []) (way : scanner.Reaches (left ++ rest) rest) :
      scanner.read (left ++ rest) ≠ .stop ∧
      ∀ value size, scanner.read (left ++ rest) = .frame value size → size ≤ left.length := by
    have longer := List.length_pos_iff.mpr there
    generalize whole : left ++ rest = input at way
    have lengths := congrArg List.length whole
    rw [List.length_append] at lengths
    cases way with
    | here => omega
    | skip skip _ => simp [skip]
    | frame frame later =>
        have within := later.suffix.length_le
        have shorter := frame_length frame
        constructor
        · simp [frame]
        · intro value size same
          rw [frame] at same
          cases same
          omega
  have walk (left : List α) (isOpen : scanner.Open junk left) :
      scanner.Reaches (left ++ rest) rest := by
    induction isOpen with
    | start => exact reaches
    | @next item left _ noFrame ih =>
        obtain ⟨goesOn, within⟩ := seen _ (List.cons_ne_nil item left) ih
        have skip : scanner.read (item :: left ++ rest) = .skip := by
          match view : scanner.read (item :: left ++ rest) with
          | .stop => exact absurd view goesOn
          | .skip => rfl
          | .frame value size =>
              exact absurd (frame_of_append view (within value size view)) (noFrame value size)
        have step : scanner.Reaches (item :: left ++ rest) (left ++ rest) := .skip skip (.here _)
        exact step.linear ih (List.suffix_append left rest).length_le
    | @after left value size _ frame ih =>
        obtain ⟨inWhole, dropped⟩ := frame_append rest frame
        have step : scanner.Reaches (left ++ rest) (left.drop size ++ rest) := by
          apply Reaches.frame inWhole
          rw [dropped]
          exact .here _
        exact step.linear ih (List.suffix_append _ rest).length_le
  intro left there isOpen
  exact seen left there (walk left isOpen)

/-! ## Frames among inserted items -/

/-- A frame and the items inserted before it. -/
structure Stretch (α β : Type) where
  junk : List α
  frame : List α
  value : β

/-- The stretches one after the other, and what stands behind them. -/
def lay : List (Stretch α β) → List α → List α
  | [], tail => tail
  | stretch :: stretches, tail => stretch.junk ++ (stretch.frame ++ lay stretches tail)

/-- Where the frames of the stretches stand. -/
def marks : Nat → List (Stretch α β) → List (Hit β)
  | _, [] => []
  | cursor, stretch :: stretches =>
      ⟨cursor + stretch.junk.length, stretch.frame.length, stretch.value⟩ ::
        marks (cursor + stretch.junk.length + stretch.frame.length) stretches

/-- Every frame can be read, and no item before it hides it. -/
def Passable (scanner : Scanner α β) : List (Stretch α β) → List α → Prop
  | [], _ => True
  | stretch :: stretches, tail =>
      scanner.Clear stretch.junk (stretch.frame ++ lay stretches tail) ∧
      scanner.read (stretch.frame ++ lay stretches tail) =
        .frame stretch.value stretch.frame.length ∧
      Passable scanner stretches tail

@[simp] theorem marks_values (cursor : Nat) (stretches : List (Stretch α β)) :
    (marks cursor stretches).map Hit.value = stretches.map Stretch.value := by
  induction stretches generalizing cursor with
  | nil => rfl
  | cons stretch stretches ih => rw [marks, List.map_cons, List.map_cons, ih]

theorem marks_start {cursor : Nat} {stretches : List (Stretch α β)} {hit : Hit β}
    (mark : hit ∈ marks cursor stretches) : cursor ≤ hit.start := by
  induction stretches generalizing cursor with
  | nil => exact absurd mark List.not_mem_nil
  | cons stretch stretches ih =>
      rcases List.mem_cons.mp mark with rfl | mark
      · exact Nat.le_add_right _ _
      · have later := ih mark
        omega

theorem Passable.sublist {stretches : List (Stretch α β)} {tail : List α}
    (passable : scanner.Passable stretches tail) (cursor : Nat) :
    (marks cursor stretches).Sublist (scanner.scan cursor (lay stretches tail)).1 := by
  induction stretches generalizing cursor with
  | nil => exact List.nil_sublist _
  | cons stretch stretches ih =>
      obtain ⟨clear, frame, passable⟩ := passable
      obtain ⟨before, goesOn⟩ := clear.reaches.scan cursor
      have place : cursor + stretch.junk.length + (stretch.frame ++ lay stretches tail).length =
          cursor + (stretch.junk ++ (stretch.frame ++ lay stretches tail)).length := by
        simp only [List.length_append]
        omega
      rw [lay, marks, goesOn _ place, scan_frame frame, List.drop_left]
      exact ((ih passable _).cons_cons _).trans (List.sublist_append_right _ _)

/-- The frames that the scan finds are those it can get to. -/
theorem passable_of_mem {stretches : List (Stretch α β)} {tail : List α} (cursor : Nat)
    (found : ∀ mark ∈ marks cursor stretches, mark ∈ (scanner.scan cursor (lay stretches tail)).1) :
    scanner.Passable stretches tail := by
  induction stretches generalizing cursor with
  | nil => trivial
  | cons stretch stretches ih =>
      have lengths : (lay (stretch :: stretches) tail).length =
          stretch.junk.length + (stretch.frame.length + (lay stretches tail).length) := by
        rw [lay, List.length_append, List.length_append]
      obtain ⟨there, reaches, place, frame⟩ := mem_scan_iff.mp (found _ List.mem_cons_self)
      have same : there = stretch.frame ++ lay stretches tail := by
        have within : stretch.frame ++ lay stretches tail <:+ lay (stretch :: stretches) tail :=
          List.suffix_append _ _
        have equal : there.length = (stretch.frame ++ lay stretches tail).length := by
          rw [List.length_append]
          simp only at place
          omega
        exact (List.suffix_of_suffix_length_le reaches.suffix within
          (Nat.le_of_eq equal)).eq_of_length equal
      subst same
      have onward : scanner.Reaches (lay (stretch :: stretches) tail) (lay stretches tail) := by
        apply reaches.trans
        apply Reaches.frame frame
        rw [List.drop_left]
        exact .here _
      refine ⟨reaches.clear, frame,
        ih (cursor + stretch.junk.length + stretch.frame.length) ?_⟩
      intro mark isMark
      obtain ⟨later, reaches, place, frame⟩ := mem_scan_iff.mp (found mark (.tail _ isMark))
      have behind := marks_start isMark
      exact mem_scan_iff.mpr ⟨later, onward.linear reaches (by omega), by omega, frame⟩

/-- A scan finds all the frames of some stretches exactly when no inserted item
hides one and each of them can be read. -/
theorem marks_sublist_iff {stretches : List (Stretch α β)} {tail : List α} {cursor : Nat} :
    (marks cursor stretches).Sublist (scanner.scan cursor (lay stretches tail)).1 ↔
      scanner.Passable stretches tail := by
  constructor
  · intro found
    exact passable_of_mem cursor fun mark isMark => found.mem isMark
  · intro passable
    exact passable.sublist cursor

end Scanner

end Rind
