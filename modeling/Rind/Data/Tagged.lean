import Mathlib.Data.List.Induction

/-!
# Tagged records

An area of bytes holds records of a tag, a length and as many bytes.  Bytes of padding may stand
between them, and the area ends with a byte that says so, or with the first record that it has
no room for.  A reader that goes by positions finds the records that are read off the area byte
by byte.
-/

namespace Rind.Tagged

/-! ## Positions -/

section Positions

variable {ε : Type} (fault : ε) {data rest values : List UInt8} {index : Nat} {byte : UInt8}

/-- The byte at a position. -/
def byteAt (data : List UInt8) (index : Nat) : Except ε UInt8 :=
  match data[index]? with
  | some byte => .ok byte
  | none => .error fault

/-- The bytes from a position up to another one. -/
def slice (data : List UInt8) (start finish : Nat) : Except ε (List UInt8) :=
  if start ≤ finish ∧ finish ≤ data.length then .ok ((data.take finish).drop start)
  else .error fault

theorem lt_of_drop (shape : data.drop index = byte :: rest) : index < data.length := by
  by_contra beyond
  rw [List.drop_eq_nil_of_le (by omega)] at shape
  cases shape

theorem byteAt_of_drop (shape : data.drop index = byte :: rest) :
    byteAt fault data index = .ok byte := by
  have found : data[index]? = some byte := by
    rw [← List.head?_drop, shape, List.head?_cons]
  rw [byteAt, found]

theorem drop_succ (shape : data.drop index = byte :: rest) : data.drop (index + 1) = rest := by
  rw [← List.tail_drop, shape, List.tail_cons]

/-- The bytes of a record are those that follow its length. -/
theorem slice_of_drop {len : Nat} (inside : index ≤ data.length)
    (shape : data.drop index = values) (fits : len ≤ values.length) :
    slice fault data index (index + len) = .ok (values.take len) := by
  subst shape
  rw [List.length_drop] at fits
  rw [slice, if_pos ⟨Nat.le_add_right _ _, by omega⟩, List.drop_take, Nat.add_sub_cancel_left]

end Positions

/-! ## Records -/

/-- What follows a record is shorter. -/
theorem length_drop_lt (tag len : UInt8) (values : List UInt8) (count : Nat) :
    (values.drop count).length < (tag :: len :: values).length := by
  rw [List.length_drop, List.length_cons, List.length_cons]
  omega

/-- The records of an area, where `last` ends it and `pad` stands between them.  A single byte is
none: it ends the area, or has no room for its length. -/
def records (last pad : UInt8) : List UInt8 → List (UInt8 × List UInt8)
  | [] | [_] => []
  | tag :: len :: values =>
      if tag = last then []
      else if tag = pad then records last pad (len :: values)
      else if values.length < len.toNat then []
      else (tag, values.take len.toNat) :: records last pad (values.drop len.toNat)
  termination_by area => area.length
  decreasing_by
  · exact Nat.lt_succ_self _
  · exact length_drop_lt tag len values len.toNat

section Records

variable (last pad tag : UInt8)

@[simp] theorem records_nil : records last pad [] = [] := by
  rw [records]

@[simp] theorem records_single : records last pad [tag] = [] := by
  rw [records]

theorem records_last (rest : List UInt8) : records last pad (last :: rest) = [] := by
  cases rest with
  | nil => exact records_single last pad last
  | cons len values => rw [records, if_pos rfl]

variable {last pad tag} {rest values : List UInt8} {len : UInt8}

theorem records_pad (other : pad ≠ last) :
    records last pad (pad :: rest) = records last pad rest := by
  cases rest with
  | nil => rw [records_single, records_nil]
  | cons len values => rw [records, if_neg other, if_pos rfl]

theorem records_short (short : values.length < len.toNat) (other : tag ≠ last)
    (some_ : tag ≠ pad) : records last pad (tag :: len :: values) = [] := by
  rw [records, if_neg other, if_neg some_, if_pos short]

theorem records_fits (fits : ¬ values.length < len.toNat) (other : tag ≠ last)
    (some_ : tag ≠ pad) : records last pad (tag :: len :: values) =
      (tag, values.take len.toNat) :: records last pad (values.drop len.toNat) := by
  rw [records, if_neg other, if_neg some_, if_neg fits]

end Records

/-- The last record with a tag that has enough bytes. -/
def lastSized (tag : UInt8) (size : Nat) (found : List (UInt8 × List UInt8)) :
    Option (List UInt8) :=
  (found.filter fun record => record.1 = tag ∧ size ≤ record.2.length).getLast?.map Prod.snd

/-- The records of a tag, in order. -/
def allOf (tag : UInt8) (found : List (UInt8 × List UInt8)) : List (List UInt8) :=
  (found.filter fun record => record.1 = tag).map Prod.snd

section Folds

variable {σ α : Type} {found : List (UInt8 × List UInt8)} {tag : UInt8} {size : Nat}

/-- What a loop keeps of the records in a field that each of them may overwrite is left by the
last one. -/
theorem foldl_lastSized {step : σ → UInt8 × List UInt8 → σ} {field : σ → α}
    {value : List UInt8 → α}
    (writes : ∀ state record, record.1 = tag → size ≤ record.2.length →
      field (step state record) = value record.2)
    (keeps : ∀ state record, ¬ (record.1 = tag ∧ size ≤ record.2.length) →
      field (step state record) = field state) (start : σ) :
    field (found.foldl step start) = ((lastSized tag size found).map value).getD (field start) := by
  induction found using List.reverseRecOn with
  | nil => rfl
  | append_singleton front record ih =>
      rw [List.foldl_append, List.foldl_cons, List.foldl_nil, lastSized, List.filter_append]
      by_cases sized : record.1 = tag ∧ size ≤ record.2.length
      · rw [writes _ _ sized.1 sized.2, List.filter_cons_of_pos (by simpa using sized),
          List.filter_nil, List.getLast?_concat]
        rfl
      · rw [keeps _ _ sized, ih, List.filter_cons_of_neg (by simpa using sized), List.filter_nil,
          List.append_nil, lastSized]

/-- What a loop collects from the records of a tag stands there in their order. -/
theorem foldl_allOf {step : σ → UInt8 × List UInt8 → σ} {field : σ → List α}
    {values : List UInt8 → List α}
    (adds : ∀ state record, record.1 = tag →
      field (step state record) = field state ++ values record.2)
    (keeps : ∀ state record, record.1 ≠ tag → field (step state record) = field state)
    (start : σ) :
    field (found.foldl step start) = field start ++ (allOf tag found).flatMap values := by
  induction found generalizing start with
  | nil => simp [allOf]
  | cons record rest ih =>
      rw [List.foldl_cons, ih, allOf, allOf]
      by_cases same : record.1 = tag
      · rw [adds _ _ same, List.filter_cons_of_pos (by simpa using same), List.map_cons,
          List.flatMap_cons, List.append_assoc]
      · rw [keeps _ _ same, List.filter_cons_of_neg (by simpa using same)]

end Folds

end Rind.Tagged
