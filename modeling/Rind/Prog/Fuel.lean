import Mathlib.Data.Nat.Basic
import Mathlib.Order.WellFounded

/-!
# Searches with fuel

A recursive question that may go round in circles is asked with fuel, and has no
answer where the fuel runs out.  More fuel never changes an answer.
-/

namespace Rind.Fuel

variable {α β : Type}

/-- A question is answered as soon as there is enough fuel. -/
def Answers (ask : Nat → Option β) (answer : β) : Prop := ∃ fuel, ask fuel = some answer

/-- An answer stays with more fuel. -/
def Growing (ask : Nat → Option β) : Prop :=
  ∀ fuel answer, ask fuel = some answer → ask (fuel + 1) = some answer

theorem Growing.mono {ask : Nat → Option β} (growing : Growing ask) {fuel more : Nat}
    (le : fuel ≤ more) {answer : β} (found : ask fuel = some answer) : ask more = some answer := by
  induction le with
  | refl => exact found
  | step _ ih => exact growing _ _ ih

/-- There is one answer at most. -/
theorem Growing.unique {ask : Nat → Option β} (growing : Growing ask) {answer other : β}
    (first : Answers ask answer) (second : Answers ask other) : answer = other := by
  obtain ⟨fuel, found⟩ := first
  obtain ⟨fuel', found'⟩ := second
  have left := growing.mono (Nat.le_max_left fuel fuel') found
  have right := growing.mono (Nat.le_max_right fuel fuel') found'
  exact Option.some.inj (left.symm.trans right)

/-- Where both questions have answers, only the positive ones need to be compared. -/
theorem answers_congr {ask other : Nat → Option Bool} (growing : Growing ask)
    (growing' : Growing other) (answered : ∃ answer, Answers ask answer)
    (answered' : ∃ answer, Answers other answer) :
    (∀ answer, Answers ask answer ↔ Answers other answer) ↔
      (Answers ask true ↔ Answers other true) := by
  refine ⟨fun same => same true, fun same answer => ?_⟩
  obtain ⟨first, holds⟩ := answered
  obtain ⟨second, holds'⟩ := answered'
  have agree : first = second := by
    cases first with
    | true => exact growing'.unique (same.mp holds) holds'
    | false =>
        cases second with
        | true => exact growing.unique holds (same.mpr holds')
        | false => rfl
  subst agree
  constructor
  · intro other
    rwa [growing.unique other holds]
  · intro other
    rwa [growing'.unique other holds']

/-- A question is answered by its first step or the rest of its steps. -/
theorem answers_succ {ask rest : Nat → Option Bool} {direct : Option Bool} (zero : ask 0 = none)
    (succ : ∀ fuel, ask (fuel + 1) = direct.or (rest fuel)) :
    Answers ask true ↔ direct = some true ∨ direct = none ∧ Answers rest true := by
  have stepped : Answers ask true ↔ ∃ fuel, direct.or (rest fuel) = some true := by
    constructor
    · rintro ⟨fuel, found⟩
      cases fuel with
      | zero => simp [zero] at found
      | succ fuel => exact ⟨fuel, (succ fuel).symm.trans found⟩
    · rintro ⟨fuel, found⟩
      exact ⟨fuel + 1, (succ fuel).trans found⟩
  rw [stepped]
  cases direct <;> simp [Answers]

/-! ## Asking one after the other -/

section Any

variable {first second : α → Option Bool} {items : List α}

theorem anyM_cons (ask : α → Option Bool) (item : α) (rest : List α) :
    (item :: rest).anyM ask = (ask item).bind fun found => if found then some true else rest.anyM ask := by
  rw [List.anyM]
  cases ask item with
  | none => rfl
  | some found => cases found <;> rfl

/-- The search answers what it did where each question does. -/
theorem anyM_mono (stays : ∀ item ∈ items, ∀ answer, first item = some answer →
    second item = some answer) {answer : Bool} (found : items.anyM first = some answer) :
    items.anyM second = some answer := by
  induction items with
  | nil => exact found
  | cons item rest ih =>
      obtain ⟨stays, others⟩ := List.forall_mem_cons.mp stays
      rw [anyM_cons] at found ⊢
      cases asked : first item with
      | none => simp [asked] at found
      | some result =>
          rw [asked, Option.bind_some] at found
          rw [stays result asked, Option.bind_some]
          cases result with
          | true => exact found
          | false => exact ih others found

theorem exists_of_anyM (found : items.anyM first = some true) :
    ∃ item ∈ items, first item = some true := by
  induction items with
  | nil => cases found
  | cons item rest ih =>
      rw [anyM_cons] at found
      cases asked : first item with
      | none => simp [asked] at found
      | some result =>
          cases result with
          | true => exact ⟨item, List.mem_cons_self, asked⟩
          | false =>
              rw [asked, Option.bind_some] at found
              obtain ⟨other, listed, holds⟩ := ih found
              exact ⟨other, List.mem_cons_of_mem _ listed, holds⟩

theorem forall_of_anyM (found : items.anyM first = some false) :
    ∀ item ∈ items, first item = some false := by
  induction items with
  | nil => simp
  | cons item rest ih =>
      rw [anyM_cons] at found
      cases asked : first item with
      | none => simp [asked] at found
      | some result =>
          cases result with
          | true => simp [asked] at found
          | false =>
              rw [asked, Option.bind_some] at found
              exact List.forall_mem_cons.mpr ⟨asked, ih found⟩

end Any

section Search

variable (ask : Nat → α → Option Bool) (items : List α)

theorem growing_anyM (growing : ∀ item, Growing (ask · item)) :
    Growing fun fuel => items.anyM (ask fuel) :=
  fun fuel _ found => anyM_mono (fun item _ answer => growing item fuel answer) found

/-- A search is answered if each of its questions is. -/
theorem answers_anyM (growing : ∀ item, Growing (ask · item))
    (answered : ∀ item ∈ items, ∃ answer, Answers (ask · item) answer) :
    ∃ answer, Answers (fun fuel => items.anyM (ask fuel)) answer := by
  induction items with
  | nil => exact ⟨false, 0, rfl⟩
  | cons item rest ih =>
      obtain ⟨⟨result, fuel, asked⟩, others⟩ := List.forall_mem_cons.mp answered
      cases result with
      | true => exact ⟨true, fuel, by simp [asked]⟩
      | false =>
          obtain ⟨answer, fuel', found⟩ := ih others
          have asked := (growing item).mono (Nat.le_max_left fuel fuel') asked
          have found := (growing_anyM ask rest growing).mono (Nat.le_max_right fuel fuel') found
          refine ⟨answer, max fuel fuel', ?_⟩
          dsimp only at asked found ⊢
          rw [anyM_cons, asked]
          exact found

/-- An answered search finds something if one of its questions is answered so. -/
theorem answers_anyM_true (growing : ∀ item, Growing (ask · item))
    (answered : ∀ item ∈ items, ∃ answer, Answers (ask · item) answer) :
    Answers (fun fuel => items.anyM (ask fuel)) true ↔ ∃ item ∈ items, Answers (ask · item) true := by
  constructor
  · rintro ⟨fuel, found⟩
    obtain ⟨item, listed, holds⟩ := exists_of_anyM found
    exact ⟨item, listed, fuel, holds⟩
  · rintro ⟨item, listed, holds⟩
    obtain ⟨answer, found⟩ := answers_anyM ask items growing answered
    cases answer with
    | true => exact found
    | false =>
        obtain ⟨fuel, found⟩ := found
        have fails : Answers (ask · item) false := ⟨fuel, forall_of_anyM found item listed⟩
        exact absurd ((growing item).unique holds fails) (by decide)

/-- A search is answered where each question has the answer it had in another search. -/
theorem answers_anyM_of {first : α → Option Bool} (growing : ∀ item, Growing (ask · item))
    (same : ∀ item ∈ items, ∀ answer, first item = some answer → Answers (ask · item) answer)
    {answer : Bool} (found : items.anyM first = some answer) :
    Answers (fun fuel => items.anyM (ask fuel)) answer := by
  induction items with
  | nil => exact ⟨0, found⟩
  | cons item rest ih =>
      obtain ⟨here, others⟩ := List.forall_mem_cons.mp same
      rw [anyM_cons] at found
      obtain ⟨result, asked, found⟩ := Option.bind_eq_some_iff.mp found
      obtain ⟨fuel, asked'⟩ := here result asked
      cases result with
      | true =>
          refine ⟨fuel, ?_⟩
          dsimp only at asked' ⊢
          rw [anyM_cons, asked']
          exact found
      | false =>
          obtain ⟨fuel', found'⟩ := ih others found
          have asked' := (growing item).mono (Nat.le_max_left fuel fuel') asked'
          have found' := (growing_anyM ask rest growing).mono (Nat.le_max_right fuel fuel') found'
          refine ⟨max fuel fuel', ?_⟩
          dsimp only at asked' found' ⊢
          rw [anyM_cons, asked']
          exact found'

end Search

/-! ## Searches along links -/

/-- A question is decided as such, or passed on to others; also whether it is decided may take
fuel. -/
structure Links (α : Type) where
  decided : Nat → α → Option (Option Bool)
  next : α → List α

namespace Links

variable (links : Links α)

def ask : Nat → α → Option Bool
  | 0, _ => none
  | fuel + 1, item =>
      (links.decided fuel item).bind fun decided => decided.or ((links.next item).anyM (ask fuel))

/-- A question is passed on, whatever the fuel. -/
def Open (item : α) : Prop := ∀ fuel answer, links.decided fuel item ≠ some (some answer)

/-- A question is passed on to another one. -/
def Passes (linked item : α) : Prop := links.Open item ∧ linked ∈ links.next item

variable {links}

theorem growing_ask (growing : ∀ item, Growing (links.decided · item)) (item : α) :
    Growing (links.ask · item) := by
  intro fuel
  induction fuel generalizing item with
  | zero =>
      intro answer found
      cases found
  | succ fuel ih =>
      intro answer found
      obtain ⟨decided, first, found⟩ := Option.bind_eq_some_iff.mp found
      have first : links.decided (fuel + 1) item = some decided := growing item fuel decided first
      apply Option.bind_eq_some_iff.mpr
      refine ⟨decided, first, ?_⟩
      cases decided with
      | some _ => exact found
      | none => exact anyM_mono (fun linked _ => ih linked) found

/-- Where no question is passed on in circles, all are answered. -/
theorem answered (growing : ∀ item, Growing (links.decided · item))
    (settled : ∀ item, ∃ decided, Answers (links.decided · item) decided)
    (wellFounded : WellFounded links.Passes) (item : α) :
    ∃ answer, Answers (links.ask · item) answer := by
  induction item using wellFounded.induction with
  | _ item ih =>
      obtain ⟨decided, fuel, first⟩ := settled item
      cases decided with
      | some answer => exact ⟨answer, fuel + 1, Option.bind_eq_some_iff.mpr ⟨_, first, rfl⟩⟩
      | none =>
          have isOpen : links.Open item := by
            intro fuel' answer other
            cases (growing item).unique ⟨fuel, first⟩ ⟨fuel', other⟩
          obtain ⟨answer, fuel', found⟩ := answers_anyM links.ask (links.next item)
            (growing_ask growing) fun linked listed => ih linked ⟨isOpen, listed⟩
          have first := (growing item).mono (Nat.le_max_left fuel fuel') first
          have found := (growing_anyM links.ask (links.next item) (growing_ask growing)).mono
            (Nat.le_max_right fuel fuel') found
          exact ⟨answer, max fuel fuel' + 1, Option.bind_eq_some_iff.mpr ⟨none, first, found⟩⟩

/-- Questions that are passed on to one another first are never answered. -/
theorem ask_none {among : α → Prop}
    (passes : ∀ item, among item → links.Open item ∧
      ∃ first rest, links.next item = first :: rest ∧ among first) (fuel : Nat) :
    ∀ item, among item → links.ask fuel item = none := by
  induction fuel with
  | zero => exact fun _ _ => rfl
  | succ fuel ih =>
      intro item inside
      obtain ⟨isOpen, first, rest, listed, inside'⟩ := passes item inside
      rw [ask, listed, anyM_cons, ih first inside', Option.bind_none]
      cases decided : links.decided fuel item with
      | none => rfl
      | some decided' =>
          cases decided' with
          | none => rfl
          | some answer => exact absurd decided (isOpen fuel answer)

/-- Two searches along the same links give the same answers where each question is decided
alike, or has the same answers anyway. -/
theorem answers_of {other : Links α} (next : other.next = links.next)
    (growing : ∀ item, Growing (other.decided · item))
    (same : ∀ item, (∀ decided, Answers (links.decided · item) decided →
        Answers (other.decided · item) decided) ∨
      ∀ answer, Answers (links.ask · item) answer → Answers (other.ask · item) answer)
    {item : α} {answer : Bool} (found : Answers (links.ask · item) answer) :
    Answers (other.ask · item) answer := by
  obtain ⟨fuel, found⟩ := found
  induction fuel generalizing item answer with
  | zero => cases found
  | succ fuel ih =>
      rcases same item with alike | anyway
      · obtain ⟨decided, first, rest⟩ := Option.bind_eq_some_iff.mp found
        obtain ⟨fuel', first'⟩ := alike decided ⟨fuel, first⟩
        cases decided with
        | some given => exact ⟨fuel' + 1, Option.bind_eq_some_iff.mpr ⟨_, first', rest⟩⟩
        | none =>
            obtain ⟨more, rest'⟩ := answers_anyM_of other.ask (links.next item)
              (growing_ask growing) (fun linked _ _ => ih) rest
            have first' := (growing item).mono (Nat.le_max_left fuel' more) first'
            have rest' := (growing_anyM other.ask (links.next item) (growing_ask growing)).mono
              (Nat.le_max_right fuel' more) rest'
            refine ⟨max fuel' more + 1, Option.bind_eq_some_iff.mpr ⟨none, first', ?_⟩⟩
            rw [next]
            exact rest'
      · exact anyway answer ⟨fuel + 1, found⟩

end Links

end Rind.Fuel
