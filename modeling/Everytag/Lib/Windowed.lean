import Mathlib.Data.List.Basic
import Mathlib.Order.Basic

/-!
# A history at two resolutions

A `Windowed` history has a flag for every step, newest first, and a list of slots.  Some steps, the shifts,
open a new slot; it says whether one of the flags that are then at least `lo` and less than `hi` steps
old was set.  Both lists grow for ever: a program that keeps a window of each refines this.

    the newest `n` slots know of step k   iff   a shift `a` with k + lo < a ≤ k + hi
                                                is one of the last `n`        (exists_slot_iff)
-/

/-- Flags of all steps and slots of all shifts, newest first. -/
structure Windowed where
  flags : List Bool := []
  slots : List Bool := []

namespace Windowed

variable {α : Type}

/-- An element in a range of positions. -/
def anyIn (p : α → Bool) (xs : List α) (lo hi : Nat) : Bool := ((xs.take hi).drop lo).any p

theorem anyIn_iff {p : α → Bool} {xs : List α} {lo hi : Nat} :
    anyIn p xs lo hi = true ↔ ∃ i x, lo ≤ i ∧ i < hi ∧ xs[i]? = some x ∧ p x = true := by
  simp only [anyIn, List.any_eq_true, List.mem_iff_getElem?, List.getElem?_drop, List.getElem?_take]
  constructor
  · rintro ⟨x, ⟨i, hi⟩, hx⟩
    split at hi
    · exact ⟨lo + i, x, by omega, by omega, hi, hx⟩
    · cases hi
  · rintro ⟨i, x, hlo, hhi, hi, hx⟩
    refine ⟨x, ⟨i - lo, ?_⟩, hx⟩
    rw [if_pos (by omega), Nat.add_sub_cancel' hlo, hi]

/-- One step: a shift opens a slot for the flags of the past, then the new flag is added. -/
def step (lo hi : Nat) (shift flag : Bool) (h : Windowed) : Windowed where
  flags := flag :: h.flags
  slots := if shift then anyIn id h.flags lo hi :: h.slots else h.slots

@[simp] theorem step_flags (lo hi : Nat) (shift flag : Bool) (h : Windowed) :
    (h.step lo hi shift flag).flags = flag :: h.flags := rfl

variable (lo hi : Nat) (shift flag : Nat → Bool)

/-- The history after the steps 1 to `j`. -/
def after : Nat → Windowed
  | 0 => {}
  | j + 1 => (after j).step lo hi (shift (j + 1)) (flag (j + 1))

/-- The number of shifts among the steps 1 to `j`. -/
def count : Nat → Nat
  | 0 => 0
  | j + 1 => count j + if shift (j + 1) then 1 else 0

theorem count_mono {i j : Nat} (h : i ≤ j) : count shift i ≤ count shift j := by
  induction h with
  | refl => exact Nat.le_refl _
  | step _ ih => exact Nat.le_trans ih (Nat.le_add_right _ _)

theorem count_le_add (i n : Nat) : count shift (i + n) ≤ count shift i + n := by
  induction n with
  | zero => exact Nat.le_refl _
  | succ n ih =>
    show count shift (i + n) + (if shift (i + n + 1) then 1 else 0) ≤ _
    split <;> omega

theorem getElem?_flags (j i : Nat) :
    (after lo hi shift flag j).flags[i]? = if i < j then some (flag (j - i)) else none := by
  induction j generalizing i with
  | zero => rfl
  | succ j ih =>
    cases i with
    | zero => simp [after, step]
    | succ i => simp [after, step, ih]

/-- The flags of an age between `m` and `n`, by the step they belong to. -/
theorem anyIn_flags_iff {j m n : Nat} : anyIn id (after lo hi shift flag j).flags m n = true ↔
    ∃ k, 1 ≤ k ∧ k + m ≤ j ∧ j < k + n ∧ flag k = true := by
  simp only [anyIn_iff, getElem?_flags, id]
  constructor
  · rintro ⟨i, x, hm, hn, hi, hx⟩
    split at hi
    · cases hi
      exact ⟨j - i, by omega, by omega, by omega, hx⟩
    · cases hi
  · rintro ⟨k, hk, hm, hn, hf⟩
    refine ⟨j - k, true, by omega, by omega, ?_, rfl⟩
    rw [if_pos (by omega), Nat.sub_sub_self (by omega), hf]

/-- A mark among the first `n` entries stands in front or among the next `n - 1`. -/
theorem exists_mark_cons {x : Bool} {xs : List Bool} {n : Nat} :
    (∃ c, c < n ∧ (x :: xs)[c]? = some true) ↔
      0 < n ∧ (x = true ∨ ∃ c, c < n - 1 ∧ xs[c]? = some true) := by
  constructor
  · rintro ⟨c, hc, hx⟩
    refine ⟨by omega, ?_⟩
    cases c with
    | zero => exact .inl (by simpa using hx)
    | succ c => exact .inr ⟨c, by omega, by simpa using hx⟩
  · rintro ⟨hn, rfl | ⟨c, hc, hx⟩⟩
    · exact ⟨0, hn, rfl⟩
    · exact ⟨c + 1, by omega, by simpa using hx⟩

/-- What the newest `n` slots know. -/
theorem exists_slot_iff {j n : Nat} :
    (∃ c, c < n ∧ (after lo hi shift flag j).slots[c]? = some true) ↔
      ∃ a k, a ≤ j ∧ shift a = true ∧ count shift j < count shift a + n ∧
        1 ≤ k ∧ k + lo < a ∧ a ≤ k + hi ∧ flag k = true := by
  induction j generalizing n with
  | zero =>
    simp only [after, List.getElem?_nil, reduceCtorEq, and_false, exists_false, false_iff]
    rintro ⟨a, k, ha, _, _, _, hlt, _⟩
    omega
  | succ j ih =>
    by_cases hs : shift (j + 1) = true
    · -- the new slot stands in front of the old ones
      have hnew : (after lo hi shift flag (j + 1)).slots =
          anyIn id (after lo hi shift flag j).flags lo hi :: (after lo hi shift flag j).slots := by
        simp [after, step, hs]
      have hcount : count shift (j + 1) = count shift j + 1 := by simp [count, hs]
      rw [hnew, hcount, exists_mark_cons, anyIn_flags_iff, ih]
      constructor
      · rintro ⟨hn, ⟨k, hk, hlo, hhi, hf⟩ | ⟨a, k, ha, hsa, hlt, hrest⟩⟩
        · exact ⟨j + 1, k, Nat.le_refl _, hs, by omega, hk, by omega, by omega, hf⟩
        · exact ⟨a, k, by omega, hsa, by omega, hrest⟩
      · rintro ⟨a, k, ha, hsa, hlt, hk, hlo, hhi, hf⟩
        rcases Nat.eq_or_lt_of_le ha with rfl | ha
        · exact ⟨by omega, .inl ⟨k, hk, by omega, by omega, hf⟩⟩
        · have hle : count shift a ≤ count shift j := count_mono shift (Nat.le_of_lt_succ ha)
          exact ⟨by omega, .inr ⟨a, k, by omega, hsa, by omega, hk, hlo, hhi, hf⟩⟩
    · have hold : (after lo hi shift flag (j + 1)).slots = (after lo hi shift flag j).slots := by
        simp [after, step, hs]
      have hcount : count shift (j + 1) = count shift j := by simp [count, hs]
      rw [hold, hcount, ih]
      constructor
      · rintro ⟨a, k, ha, hrest⟩
        exact ⟨a, k, by omega, hrest⟩
      · rintro ⟨a, k, ha, hsa, hrest⟩
        have hne : a ≠ j + 1 := fun h => hs (h ▸ hsa)
        exact ⟨a, k, by omega, hsa, hrest⟩

end Windowed
