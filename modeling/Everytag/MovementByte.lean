import Everytag.Movement
import Mathlib.Tactic.IntervalCases

/-!
# What the movement byte says

Each of the 288 slots of `moves300` is read by one bit of `compute_accel_byte()` (`bitOfSlot`), and the bit is
set if one of its slots is (`testBit_computeAccelByte`).  The slots from the third on only move up, one
place at each shift (`slot_shifted`), so that what a bit tells passes on to the same or a later bit; the first
bit is about the last thirty batches (`first_bit_iff`).
-/

namespace Everytag

open Windowed

namespace Moves

variable {m : Moves}

/-! ## Bits and slots -/

/-- The first slot of a bit's window. -/
def firstSlot : Nat → Nat
  | 0 => 0
  | 1 => 2
  | 2 => 6
  | 3 => 12
  | 4 => 36
  | 5 => 72
  | 6 => 144
  | _ => 288

/-- The bit that reads a slot. -/
def bitOfSlot (i : Nat) : Nat :=
  if i < 2 then 0 else if i < 6 then 1 else if i < 12 then 2 else if i < 36 then 3
  else if i < 72 then 4 else if i < 144 then 5 else 6

theorem bitOfSlot_lt (i : Nat) : bitOfSlot i < 7 := by
  unfold bitOfSlot
  split_ifs <;> decide

theorem bitOfSlot_mono {i j : Nat} (h : i ≤ j) : bitOfSlot i ≤ bitOfSlot j := by
  unfold bitOfSlot
  split_ifs <;> omega

theorem bitOfSlot_eq_iff {b i : Nat} (hb : b < 7) (hi : i < 288) :
    bitOfSlot i = b ↔ firstSlot b ≤ i ∧ i < firstSlot (b + 1) := by
  unfold bitOfSlot
  interval_cases b <;> (simp only [firstSlot, Nat.reduceAdd]; grind)

theorem testBit_foldl_windows (ws : List (Int × Int × UInt8)) (res : UInt8) (b : Nat) :
    (ws.foldl (fun res w => if m.hasMovement w.1 w.2.1 then res ||| w.2.2 else res) res).toNat.testBit
        b = true ↔
      res.toNat.testBit b = true ∨
        ∃ w ∈ ws, m.hasMovement w.1 w.2.1 = true ∧ w.2.2.toNat.testBit b = true := by
  induction ws generalizing res with
  | nil => simp
  | cons w ws ih =>
    rw [List.foldl_cons, ih]
    by_cases hm : m.hasMovement w.1 w.2.1 = true
    · simp [hm, Nat.testBit_or, or_assoc]
    · simp [hm]

/-- The window with the mask of bit `b`. -/
theorem testBit_window : ∀ b < 7, ∀ w ∈ accelWindows,
    (w.2.2.toNat.testBit b = true ↔
      w.1 = (5 * firstSlot b : Nat) ∧ w.2.1 = (5 * firstSlot (b + 1) : Nat)) := by
  decide

theorem window_mem : ∀ b < 7, ∃ w ∈ accelWindows,
    w.1 = (5 * firstSlot b : Nat) ∧ w.2.1 = (5 * firstSlot (b + 1) : Nat) := by
  decide

theorem firstSlot_lt {b : Nat} (hb : b < 7) : firstSlot b < 288 ∧ firstSlot (b + 1) ≤ 288 := by
  interval_cases b <;> decide

/-- A bit is set if one of its slots is. -/
theorem testBit_computeAccelByte {b : Nat} (hb : b < 7) :
    m.computeAccelByte.toNat.testBit b = true ↔
      ∃ (i : Nat) (h : i < 288), bitOfSlot i = b ∧ m.moves300[i] ≠ 0 := by
  obtain ⟨hlo, hhi⟩ := firstSlot_lt hb
  have hwindow : m.computeAccelByte.toNat.testBit b = true ↔
      m.hasMovement (5 * firstSlot b : Nat) (5 * firstSlot (b + 1) : Nat) = true := by
    rw [computeAccelByte, testBit_foldl_windows]
    constructor
    · rintro (h0 | ⟨w, hw, hm, hbit⟩)
      · simp at h0
      · obtain ⟨h1, h2⟩ := (testBit_window b hb w hw).1 hbit
        rwa [h1, h2] at hm
    · intro hm
      obtain ⟨w, hw, h1, h2⟩ := window_mem b hb
      exact .inr ⟨w, hw, by rwa [h1, h2], (testBit_window b hb w hw).2 ⟨h1, h2⟩⟩
  rw [hwindow, hasMovement_slots _ _ hlo hhi]
  constructor
  · rintro ⟨i, h, hge, hlt, hne⟩
    exact ⟨i, h, (bitOfSlot_eq_iff hb h).2 ⟨hge, hlt⟩, hne⟩
  · rintro ⟨i, h, hbit, hne⟩
    obtain ⟨hge, hlt⟩ := (bitOfSlot_eq_iff hb h).1 hbit
    exact ⟨i, h, hge, hlt, hne⟩

/-- The byte is zero if all slots are. -/
theorem computeAccelByte_eq_zero :
    m.computeAccelByte = 0 ↔ ∀ (i : Nat) (h : i < 288), m.moves300[i] = 0 := by
  rw [← not_iff_not, ← ne_eq, computeAccelByte_ne_zero, Marked]
  constructor
  · rintro ⟨i, h, -, -, hne⟩ hall
    exact hne (hall i h)
  · intro hall
    simp only [not_forall] at hall
    obtain ⟨i, h, hne⟩ := hall
    exact ⟨i, h, Nat.zero_le i, h, hne⟩

end Moves

namespace MovementTracker

open Moves

variable {run : List Batch} {j n : Nat}

/-! ## Runs -/

/-- Bit `b` is set after batch `j`. -/
def BitSet (run : List Batch) (j b : Nat) : Prop := (after run j).computeAccelByte.toNat.testBit b = true

/-- The number of shifts among the batches `j + 1` to `j'`. -/
def shiftsFrom (run : List Batch) (j j' : Nat) : Nat := count (shifts run) j' - count (shifts run) j

/-- The first bit is about the flags of the last thirty batches. -/
theorem first_bit_iff (hj : j ≤ run.length) :
    BitSet run j 0 ↔ ∃ k, 1 ≤ k ∧ k ≤ j ∧ j < k + 30 ∧ flagged run k = true := by
  have hr := refines_after hj
  rw [BitSet, testBit_computeAccelByte (by decide)]
  constructor
  · rintro ⟨i, hi, hbit, hne⟩
    obtain ⟨-, hlt⟩ := (bitOfSlot_eq_iff (by decide) hi).1 hbit
    have h2 : i < 2 := hlt
    have hflags : anyIn id (Windowed.after 15 30 (shifts run) (flagged run) j).flags 0 15 = true ∨
        anyIn id (Windowed.after 15 30 (shifts run) (flagged run) j).flags 15 30 = true := by
      interval_cases i
      · exact .inl (hr.recent.1 hne)
      · exact .inr (hr.older.1 hne)
    rw [anyIn_flags_iff, anyIn_flags_iff] at hflags
    rcases hflags with ⟨k, hk, hkj, hjk, hf⟩ | ⟨k, hk, hkj, hjk, hf⟩
    · exact ⟨k, hk, hkj, by omega, hf⟩
    · exact ⟨k, hk, by omega, hjk, hf⟩
  · rintro ⟨k, hk, hkj, hjk, hf⟩
    by_cases hnew : j < k + 15
    · exact ⟨0, by decide, rfl, hr.recent.2 ((anyIn_flags_iff ..).2 ⟨k, hk, hkj, hnew, hf⟩)⟩
    · exact ⟨1, by decide, rfl, hr.older.2 ((anyIn_flags_iff ..).2 ⟨k, hk, by omega, hjk, hf⟩)⟩

theorem slot_succ (hj : j < run.length) {i : Nat} (h2 : 2 ≤ i) (hi : i < 288) :
    (after run (j + 1)).moves300[i]? =
      if shifts run (j + 1) then (after run j).moves300[i - 1]? else (after run j).moves300[i]? := by
  have hb := List.getElem?_eq_getElem hj
  rw [after_succ hb, feed_toMoves, Vector.getElem?_eq_getElem hi, getElem_record, if_neg (by omega),
    if_neg (by omega), Vector.getElem?_eq_getElem hi, Vector.getElem?_eq_getElem (by omega)]
  simp only [shifts, hb]
  split <;> rfl

theorem shiftsFrom_succ : shiftsFrom run j (j + (n + 1)) =
    shiftsFrom run j (j + n) + if shifts run (j + n + 1) then 1 else 0 := by
  have hmono : count (shifts run) j ≤ count (shifts run) (j + n) := count_mono _ (Nat.le_add_right j n)
  have hcount : count (shifts run) (j + (n + 1)) =
      count (shifts run) (j + n) + if shifts run (j + n + 1) then 1 else 0 := rfl
  simp only [shiftsFrom, hcount]
  omega

/-- A slot from the third on moves to the next index at a shift and stays where it is otherwise. -/
theorem slot_shifted (hn : j + n ≤ run.length) {i : Nat} (h2 : 2 ≤ i)
    (hi : i + shiftsFrom run j (j + n) < 288) :
    (after run (j + n)).moves300[i + shiftsFrom run j (j + n)]? = (after run j).moves300[i]? := by
  induction n with
  | zero => simp [shiftsFrom]
  | succ n ih =>
    rw [shiftsFrom_succ] at hi ⊢
    rw [← Nat.add_assoc j n 1, slot_succ (by omega) (by omega) hi]
    by_cases hs : shifts run (j + n + 1) = true
    · simp only [hs, if_true] at hi ⊢
      exact ih (by omega) (by omega)
    · simp only [hs] at hi ⊢
      exact ih (by omega) hi

/-- What a bit tells was told before by itself or an earlier one, or has come into the third slot since. -/
theorem bit_aged (hn : j + n ≤ run.length) {b : Nat} (hb : b < 7) (hset : BitSet run (j + n) b) :
    (∃ (i : Nat) (hi : i < 288), i < shiftsFrom run j (j + n) + 2 ∧ bitOfSlot i = b ∧
      (after run (j + n)).moves300[i] ≠ 0) ∨ ∃ b' ≤ b, BitSet run j b' := by
  obtain ⟨i, hi, hbit, hne⟩ := (testBit_computeAccelByte hb).1 hset
  by_cases hold : i < shiftsFrom run j (j + n) + 2
  · exact .inl ⟨i, hi, hold, hbit, hne⟩
  · right
    obtain ⟨k, hk⟩ : ∃ k, i = k + 2 + shiftsFrom run j (j + n) :=
      ⟨i - (shiftsFrom run j (j + n) + 2), by omega⟩
    have hslot := slot_shifted hn (Nat.le_add_left 2 k) (by omega)
    rw [← hk, Vector.getElem?_eq_getElem hi, Vector.getElem?_eq_getElem (by omega)] at hslot
    rw [Option.some.inj hslot] at hne
    have hle : bitOfSlot (k + 2) ≤ b := hbit ▸ bitOfSlot_mono (by omega)
    exact ⟨bitOfSlot (k + 2), hle, (testBit_computeAccelByte (bitOfSlot_lt _)).2 ⟨k + 2, by omega, rfl, hne⟩⟩

/-- Thirty batches and 288 shifts without a flag clear the byte. -/
theorem byte_of_quiet {j' : Nat} (hj : j + 30 ≤ j') (hj' : j' ≤ run.length)
    (hquiet : ∀ k, j < k → k ≤ j' → flagged run k = false)
    (hshifts : 288 ≤ shiftsFrom run (j + 30) j') : (after run j').computeAccelByte = 0 := by
  by_contra hne
  obtain ⟨k, hflag, hkj, hrec⟩ := (accelByte_ne_zero_iff hj').1 hne
  have hk : k ≤ j := by
    by_contra hlt
    simp [hquiet k (by omega) hkj] at hflag
  rcases hrec with hlt | ⟨a, ha, -, -, hak, hcount⟩
  · omega
  · have hmono : count (shifts run) a ≤ count (shifts run) (j + 30) := count_mono _ (by omega)
    simp only [shiftsFrom] at hshifts
    omega

/-- What the byte says of every run. -/
structure ByteMeaning (run : List Batch) : Prop where
  recent : ∀ j ≤ run.length,
    BitSet run j 0 ↔ ∃ k, 1 ≤ k ∧ k ≤ j ∧ j < k + 30 ∧ flagged run k = true
  partition : ∀ j b, b < 7 →
    (BitSet run j b ↔ ∃ (i : Nat) (h : i < 288), bitOfSlot i = b ∧ (after run j).moves300[i] ≠ 0)
  zero : ∀ j, (after run j).computeAccelByte = 0 ↔ ∀ (i : Nat) (h : i < 288), (after run j).moves300[i] = 0
  ageing : ∀ j n i, j + n ≤ run.length → 2 ≤ i → i + shiftsFrom run j (j + n) < 288 →
    (after run (j + n)).moves300[i + shiftsFrom run j (j + n)]? = (after run j).moves300[i]?
  ordered : ∀ j n b, j + n ≤ run.length → b < 7 → BitSet run (j + n) b →
    (∃ (i : Nat) (hi : i < 288), i < shiftsFrom run j (j + n) + 2 ∧ bitOfSlot i = b ∧
      (after run (j + n)).moves300[i] ≠ 0) ∨ ∃ b' ≤ b, BitSet run j b'
  expiry : ∀ j j', j + 30 ≤ j' → j' ≤ run.length → (∀ k, j < k → k ≤ j' → flagged run k = false) →
    288 ≤ shiftsFrom run (j + 30) j' → (after run j').computeAccelByte = 0

/-- The movement byte, for every run of `record_reading`; every slot belongs to one of the seven bits. -/
theorem movement_byte_meaning (run : List Batch) : ByteMeaning run ∧ ∀ i, bitOfSlot i < 7 := by
  constructor
  · constructor
    · intro j hj
      exact first_bit_iff hj
    · intro j b hb
      exact testBit_computeAccelByte hb
    · intro j
      exact computeAccelByte_eq_zero
    · intro j n i hn h2 hi
      exact slot_shifted hn h2 hi
    · intro j n b hn hb hset
      exact bit_aged hn hb hset
    · intro j j' hj hj' hquiet hshifts
      exact byte_of_quiet hj hj' hquiet hshifts
  · exact bitOfSlot_lt

end MovementTracker

end Everytag
