import Everytag.Lib.Bytes
import Everytag.Lib.Windowed

/-!
# Movement history

`accel_data.cpp`.  A batch of samples is flagged if more than one of its steps is larger than the
threshold.  The flags of the last thirty batches are `moves20`; `moves300` sums them up in slots of five
minutes, of which the first two are rewritten at every batch and all are shifted when more than 300
seconds have passed.  The arrays are the windows of a `Windowed` (`refines_after`), and the byte in the
advertisement tells whether one of them has an entry (`computeAccelByte_ne_zero`).

At the cadence of the firmware, a batch every 20 seconds, a shift comes every 16 batches, but takes
only 15 of them along: a batch whose number is 1 modulo 16 never reaches a slot that is shifted
(`recorded_of_ne`, `not_recorded_of_eq`).
-/

namespace Everytag

/-! ## The arrays -/

/-- `memmove(v + 1, v, n - 1)` -/
def shiftUp {α : Type} {n : Nat} (v : Vector α n) : Vector α n := Vector.ofFn fun i => v[i.val - 1]

@[simp] theorem getElem_shiftUp {α : Type} {n : Nat} (v : Vector α n) (i : Nat) (h : i < n) :
    (shiftUp v)[i] = v[i - 1] := by
  simp [shiftUp]

/-- What the tracker and the accelerometer driver both keep; the last field is the uptime of the last
shift of `moves300`. -/
structure Moves where
  moves20 : Vector UInt8 30 := Vector.replicate 30 0
  moves300 : Vector UInt8 288 := Vector.replicate 288 0
  lastShift : UInt32 := 0
deriving DecidableEq, Repr

namespace Moves

/-- The loop over `moves20` from `lo` to `hi`, with its result as a byte. -/
def summary (moves20 : Vector UInt8 30) (lo hi : Nat) : UInt8 :=
  if Windowed.anyIn (· != 0) moves20.toList lo hi then 1 else 0

/-- The five minutes are over. -/
def shiftDue (m : Moves) (now : UInt32) : Bool := decide (now > m.lastShift + 300)

/-- The common part of `record_reading` and `accel_read`: a batch at the uptime `now` with that many
movements.  `later` is the uptime stored by a shift. -/
def record (m : Moves) (movements : Nat) (now later : UInt32) : Moves :=
  let moves20 := (shiftUp m.moves20).set 0 (if movements > 1 then 1 else 0)
  let moves300 := if m.shiftDue now then shiftUp m.moves300 else m.moves300
  { moves20 := moves20
    moves300 := (moves300.set 0 (summary moves20 0 15)).set 1 (summary moves20 15 30)
    lastShift := if m.shiftDue now then later else m.lastShift }

/-- `has_movement` and `accel_movement`; both divide towards zero. -/
def hasMovement (m : Moves) (startMin endMin : Int) : Bool :=
  let start := startMin.tdiv 5
  let stop := (endMin + 4).tdiv 5
  let start := if start < 0 ∨ start ≥ 288 then 0 else start
  let stop := if stop < 0 ∨ stop > 288 then 288 else stop
  Windowed.anyIn (· > 0) m.moves300.toList start.toNat stop.toNat

/-- The windows of `compute_accel_byte`, in minutes, with their bits. -/
def accelWindows : List (Int × Int × UInt8) :=
  [(0, 10, 0x01), (10, 30, 0x02), (30, 60, 0x04), (60, 180, 0x08), (180, 360, 0x10), (360, 720, 0x20),
    (720, 1440, 0x40)]

def computeAccelByte (m : Moves) : UInt8 :=
  accelWindows.foldl (fun res w => if m.hasMovement w.1 w.2.1 then res ||| w.2.2 else res) 0

end Moves

/-! ## The tracker -/

/-- One reading of the three axes. -/
structure Sample where
  x : Int16
  y : Int16
  z : Int16
deriving DecidableEq, Repr, Inhabited

/-- A step larger than the threshold on some axis. -/
def moved (threshold : Int) (prev cur : Sample) : Bool :=
  let far (a b : Int16) : Bool := decide (((a.toInt - b.toInt).natAbs : Int) > threshold)
  far prev.x cur.x || far prev.y cur.y || far prev.z cur.z

structure MovementTracker extends Moves where
  lastSample : Sample := ⟨0, 0, 0⟩
  hasPrevious : Bool := false
  temperature : Int16 := 0
deriving DecidableEq, Repr

namespace MovementTracker

/-- The movements that `record_reading` counts; without a previous reading it starts at index 2. -/
def movements (t : MovementTracker) (samples : List Sample) (threshold : Int) : Nat :=
  let first := if t.hasPrevious then 1 else 2
  (List.range' first (samples.length - first)).countP fun i =>
    moved threshold (if i = 1 then t.lastSample else samples[i - 1]!) samples[i]!

/-- `record_reading`; `count` is the length of `samples`. -/
def recordReading (t : MovementTracker) (samples : List Sample) (threshold : Int) (uptimeSec : UInt32) :
    MovementTracker :=
  { t with
    toMoves := t.toMoves.record (t.movements samples threshold) uptimeSec uptimeSec
    lastSample := samples.getLast?.getD t.lastSample
    hasPrevious := t.hasPrevious || !samples.isEmpty }

end MovementTracker

/-- The arguments of one call of `record_reading`. -/
structure Batch where
  samples : List Sample
  threshold : Int
  uptime : UInt32

namespace MovementTracker

def feed (t : MovementTracker) (b : Batch) : MovementTracker :=
  t.recordReading b.samples b.threshold b.uptime

/-- The tracker after the first `j` batches of a run. -/
def after (run : List Batch) (j : Nat) : MovementTracker := (run.take j).foldl feed {}

end MovementTracker

namespace Moves

open Windowed

variable {m : Moves}

/-! ## The summary byte -/

/-- An entry in a range of `moves300`. -/
def Marked (m : Moves) (lo hi : Nat) : Prop :=
  ∃ (i : Nat) (h : i < 288), lo ≤ i ∧ i < hi ∧ m.moves300[i] ≠ 0

theorem anyIn_toList {n : Nat} {p : UInt8 → Bool} {v : Vector UInt8 n} {lo hi : Nat} :
    anyIn p v.toList lo hi = true ↔ ∃ (i : Nat) (h : i < n), lo ≤ i ∧ i < hi ∧ p v[i] = true := by
  rw [anyIn_iff]
  constructor
  · rintro ⟨i, x, hlo, hhi, hi, hx⟩
    obtain ⟨h, rfl⟩ := List.getElem?_eq_some_iff.1 hi
    exact ⟨i, by simpa using h, hlo, hhi, by simpa using hx⟩
  · rintro ⟨i, h, hlo, hhi, hx⟩
    exact ⟨i, v[i], hlo, hhi, by simp [h], hx⟩

theorem marked_split {a c : Nat} (b : Nat) (hab : a ≤ b) (hbc : b ≤ c) :
    m.Marked a c ↔ m.Marked a b ∨ m.Marked b c := by
  constructor
  · rintro ⟨i, h, hlo, hhi, hne⟩
    rcases Nat.lt_or_ge i b with hlt | hge
    · exact .inl ⟨i, h, hlo, hlt, hne⟩
    · exact .inr ⟨i, h, hge, hhi, hne⟩
  · rintro (⟨i, h, hlo, hhi, hne⟩ | ⟨i, h, hlo, hhi, hne⟩)
    · exact ⟨i, h, hlo, by omega, hne⟩
    · exact ⟨i, h, by omega, hhi, hne⟩

/-- A window of whole slots. -/
theorem hasMovement_slots (lo hi : Nat) (hlo : lo < 288) (hhi : hi ≤ 288) :
    m.hasMovement (5 * lo : Nat) (5 * hi : Nat) = true ↔ m.Marked lo hi := by
  have hstart : ((5 * lo : Nat) : Int).tdiv 5 = lo := by
    rw [Int.tdiv_eq_ediv_of_nonneg (by omega)]
    omega
  have hstop : (((5 * hi : Nat) : Int) + 4).tdiv 5 = hi := by
    rw [Int.tdiv_eq_ediv_of_nonneg (by omega)]
    omega
  simp only [hasMovement, hstart, hstop]
  rw [if_neg (by omega), if_neg (by omega), anyIn_toList]
  simp only [Int.toNat_natCast, decide_eq_true_eq, gt_iff_lt, UInt8.pos_iff_ne_zero]
  rfl

theorem foldl_windows_ne_zero {ws : List (Int × Int × UInt8)} (hws : ∀ w ∈ ws, w.2.2 ≠ 0) (res : UInt8) :
    ws.foldl (fun res w => if m.hasMovement w.1 w.2.1 then res ||| w.2.2 else res) res ≠ 0 ↔
      res ≠ 0 ∨ ∃ w ∈ ws, m.hasMovement w.1 w.2.1 = true := by
  induction ws generalizing res with
  | nil => simp
  | cons w ws ih =>
    obtain ⟨hw, hws⟩ := List.forall_mem_cons.1 hws
    rw [List.foldl_cons, ih hws]
    by_cases hm : m.hasMovement w.1 w.2.1 = true
    · simp [hm, hw, UInt8.or_eq_zero_iff]
    · simp [hm]

/-- The windows cover the array. -/
theorem computeAccelByte_ne_zero : m.computeAccelByte ≠ 0 ↔ m.Marked 0 288 := by
  rw [computeAccelByte, foldl_windows_ne_zero (by decide)]
  rw [marked_split 2 (by decide) (by decide), marked_split 6 (a := 2) (by decide) (by decide),
    marked_split 12 (a := 6) (by decide) (by decide), marked_split 36 (a := 12) (by decide) (by decide),
    marked_split 72 (a := 36) (by decide) (by decide), marked_split 144 (a := 72) (by decide) (by decide),
    ← hasMovement_slots 0 2 (by decide) (by decide), ← hasMovement_slots 2 6 (by decide) (by decide),
    ← hasMovement_slots 6 12 (by decide) (by decide), ← hasMovement_slots 12 36 (by decide) (by decide),
    ← hasMovement_slots 36 72 (by decide) (by decide), ← hasMovement_slots 72 144 (by decide) (by decide),
    ← hasMovement_slots 144 288 (by decide) (by decide)]
  simp [accelWindows]

/-! ## The arrays are windows of a history -/

/-- The arrays hold the newest entries of the history, and the first two slots sum up `moves20`. -/
structure Refines (m : Moves) (h : Windowed) : Prop where
  flags : ∀ (i : Nat) (hi : i < 30), m.moves20[i] ≠ 0 ↔ h.flags[i]? = some true
  recent : m.moves300[0] ≠ 0 ↔ anyIn id h.flags 0 15 = true
  older : m.moves300[1] ≠ 0 ↔ anyIn id h.flags 15 30 = true
  slots : ∀ (c : Nat) (hc : c + 2 < 288), m.moves300[c + 2] ≠ 0 ↔ h.slots[c]? = some true

theorem refines_init : Refines {} {} where
  flags i hi := by simp
  recent := by simp [anyIn]
  older := by simp [anyIn]
  slots c hc := by simp

theorem summary_ne_zero {v : Vector UInt8 30} {flags : List Bool}
    (h : ∀ (i : Nat) (hi : i < 30), v[i] ≠ 0 ↔ flags[i]? = some true) (lo hi : Nat) (hhi : hi ≤ 30) :
    summary v lo hi ≠ 0 ↔ anyIn id flags lo hi = true := by
  have hany : anyIn (· != 0) v.toList lo hi = true ↔ anyIn id flags lo hi = true := by
    rw [anyIn_toList, anyIn_iff]
    constructor
    · rintro ⟨i, hi, hlo, hlt, hne⟩
      exact ⟨i, true, hlo, hlt, (h i hi).1 (by simpa using hne), rfl⟩
    · rintro ⟨i, x, hlo, hlt, hx, hx'⟩
      have hi : i < 30 := by omega
      refine ⟨i, hi, hlo, hlt, ?_⟩
      cases hx'
      simpa using (h i hi).2 hx
  rw [summary, ← hany]
  split <;> simp_all

@[simp] theorem record_moves20 (movements : Nat) (now later : UInt32) :
    (m.record movements now later).moves20 =
      (shiftUp m.moves20).set 0 (if movements > 1 then 1 else 0) := rfl

theorem getElem_set_set {n : Nat} (v : Vector UInt8 (n + 2)) (a b : UInt8) (i : Nat) (hi : i < n + 2) :
    ((v.set 0 a).set 1 b)[i] = if i = 0 then a else if i = 1 then b else v[i] := by
  match i with
  | 0 => simp
  | 1 => simp
  | i + 2 => simp

theorem getElem_record (movements : Nat) (now later : UInt32) (i : Nat) (hi : i < 288) :
    (m.record movements now later).moves300[i] =
      if i = 0 then summary (m.record movements now later).moves20 0 15
      else if i = 1 then summary (m.record movements now later).moves20 15 30
      else if m.shiftDue now then m.moves300[i - 1] else m.moves300[i] := by
  rw [show (m.record movements now later).moves300[i] = _ from getElem_set_set (n := 286) _ _ _ i hi,
    record_moves20]
  by_cases hs : m.shiftDue now = true
  · simp [hs]
  · simp [hs]

/-- One batch is one step of the history. -/
theorem Refines.record {h : Windowed} (hr : m.Refines h) (movements : Nat) (now later : UInt32) :
    (m.record movements now later).Refines (h.step 15 30 (m.shiftDue now) (decide (movements > 1))) := by
  have hflags (i : Nat) (hi : i < 30) : (m.record movements now later).moves20[i] ≠ 0 ↔
      (h.step 15 30 (m.shiftDue now) (decide (movements > 1))).flags[i]? = some true := by
    rw [step_flags]
    cases i with
    | zero => simp
    | succ i => simpa using hr.flags i (by omega)
  refine ⟨hflags, ?_, ?_, fun c hc => ?_⟩
  · rw [getElem_record, if_pos rfl]
    exact summary_ne_zero hflags 0 15 (by decide)
  · rw [getElem_record, if_neg (by decide), if_pos rfl]
    exact summary_ne_zero hflags 15 30 (by decide)
  · rw [getElem_record, if_neg (by omega), if_neg (by omega)]
    by_cases hs : m.shiftDue now = true
    · rw [if_pos hs]
      cases c with
      | zero => simpa [Windowed.step, hs] using hr.older
      | succ c => simpa [Windowed.step, hs] using hr.slots c (by omega)
    · rw [if_neg hs]
      simpa [Windowed.step, hs] using hr.slots c hc

/-- Something is left in the arrays: a flag of the last thirty batches, or a slot. -/
theorem Refines.marked_iff {h : Windowed} (hr : m.Refines h) :
    m.Marked 0 288 ↔ anyIn id h.flags 0 30 = true ∨ ∃ c, c < 286 ∧ h.slots[c]? = some true := by
  have hsplit : anyIn id h.flags 0 30 = true ↔
      anyIn id h.flags 0 15 = true ∨ anyIn id h.flags 15 30 = true := by
    simp only [anyIn_iff]
    constructor
    · rintro ⟨i, x, -, hi, hx⟩
      rcases Nat.lt_or_ge i 15 with hlt | hge
      · exact .inl ⟨i, x, Nat.zero_le _, hlt, hx⟩
      · exact .inr ⟨i, x, hge, hi, hx⟩
    · rintro (⟨i, x, hlo, hi, hx⟩ | ⟨i, x, hlo, hi, hx⟩)
      · exact ⟨i, x, hlo, by omega, hx⟩
      · exact ⟨i, x, by omega, hi, hx⟩
  rw [hsplit, ← hr.recent, ← hr.older]
  constructor
  · rintro ⟨i, hi, -, -, hne⟩
    match i with
    | 0 => exact .inl (.inl hne)
    | 1 => exact .inl (.inr hne)
    | c + 2 => exact .inr ⟨c, by omega, (hr.slots c hi).1 hne⟩
  · rintro ((hne | hne) | ⟨c, hc, hslot⟩)
    · exact ⟨0, by decide, by decide, by decide, hne⟩
    · exact ⟨1, by decide, by decide, by decide, hne⟩
    · exact ⟨c + 2, by omega, by omega, by omega, (hr.slots c (by omega)).2 hslot⟩

end Moves

namespace MovementTracker

open Windowed Moves

/-! ## Runs -/

/-- Batch `k` of a run, counted from 1, has more than one movement. -/
def flagged (run : List Batch) (k : Nat) : Bool :=
  match k with
  | 0 => false
  | k + 1 => match run[k]? with
    | some b => decide ((after run k).movements b.samples b.threshold > 1)
    | none => false

/-- Batch `k` shifts `moves300`. -/
def shifts (run : List Batch) (k : Nat) : Bool :=
  match k with
  | 0 => false
  | k + 1 => match run[k]? with
    | some b => (after run k).shiftDue b.uptime
    | none => false

variable {run : List Batch}

@[simp] theorem feed_toMoves (t : MovementTracker) (b : Batch) :
    (t.feed b).toMoves = t.toMoves.record (t.movements b.samples b.threshold) b.uptime b.uptime := rfl

theorem after_succ {j : Nat} {b : Batch} (h : run[j]? = some b) :
    after run (j + 1) = (after run j).feed b := by
  rw [after, after, List.take_add_one, h, List.foldl_append]
  rfl

/-- The arrays are those of the history of the run. -/
theorem refines_after {j : Nat} (hj : j ≤ run.length) :
    (after run j).toMoves.Refines (Windowed.after 15 30 (shifts run) (flagged run) j) := by
  induction j with
  | zero => exact refines_init
  | succ j ih =>
    have hb := List.getElem?_eq_getElem hj
    rw [after_succ hb, Windowed.after, feed_toMoves]
    simp only [shifts, flagged, hb]
    exact (ih (Nat.le_of_succ_le hj)).record _ _ _

/-- With the shifts at `shift`, batch `k` still shows after batch `j`: it is one of the last thirty, or a
shift has taken it along that is one of the last 286. -/
def Recorded (shift : Nat → Bool) (k j : Nat) : Prop :=
  k ≤ j ∧ (j < k + 30 ∨
    ∃ a, a ≤ j ∧ shift a = true ∧ k + 15 < a ∧ a ≤ k + 30 ∧ count shift j < count shift a + 286)

/-- The byte is zero exactly if no flagged batch shows. -/
theorem accelByte_ne_zero_iff {j : Nat} (hj : j ≤ run.length) : (after run j).computeAccelByte ≠ 0 ↔
    ∃ k, flagged run k = true ∧ Recorded (shifts run) k j := by
  rw [computeAccelByte_ne_zero, (refines_after hj).marked_iff, anyIn_flags_iff, exists_slot_iff]
  have hpos {k : Nat} (h : flagged run k = true) : 1 ≤ k := by
    cases k with
    | zero => cases h
    | succ k => exact Nat.succ_le_succ (Nat.zero_le k)
  constructor
  · rintro (⟨k, -, hkj, hjk, hf⟩ | ⟨a, k, haj, ha, hc, -, hlo, hhi, hf⟩)
    · exact ⟨k, hf, hkj, .inl hjk⟩
    · exact ⟨k, hf, by omega, .inr ⟨a, haj, ha, hlo, hhi, hc⟩⟩
  · rintro ⟨k, hf, hkj, hjk | ⟨a, haj, ha, hlo, hhi, hc⟩⟩
    · exact .inl ⟨k, hpos hf, hkj, hjk, hf⟩
    · exact .inr ⟨a, k, haj, ha, hc, hpos hf, hlo, hhi, hf⟩

/-! ## The cadence of the firmware -/

/-- One batch every 20 seconds, the first at uptime 20. -/
def AtCadence (run : List Batch) : Prop :=
  ∀ i b, run[i]? = some b → b.uptime.toNat = 20 * (i + 1)

def cadence (k : Nat) : UInt32 := UInt32.ofNat (20 * k)

/-- The uptime of the last shift after `k` batches. -/
def lastShiftAt : Nat → UInt32
  | 0 => 0
  | k + 1 => if cadence (k + 1) > lastShiftAt k + 300 then cadence (k + 1) else lastShiftAt k

/-- Batch `k` comes more than 300 seconds after the last shift. -/
def cadenceShifts : Nat → Bool
  | 0 => false
  | k + 1 => decide (cadence (k + 1) > lastShiftAt k + 300)

theorem AtCadence.uptime (h : AtCadence run) {i : Nat} {b : Batch} (hb : run[i]? = some b) :
    b.uptime = cadence (i + 1) := by
  rw [cadence, ← h i b hb, UInt32.ofNat_toNat]

theorem AtCadence.fits (h : AtCadence run) {j : Nat} (hj : j ≤ run.length) : 20 * j < 2 ^ 32 := by
  cases j with
  | zero => decide
  | succ j => exact h j _ (List.getElem?_eq_getElem hj) ▸ UInt32.toNat_lt _

theorem AtCadence.lastShift (h : AtCadence run) {j : Nat} (hj : j ≤ run.length) :
    (after run j).lastShift = lastShiftAt j := by
  induction j with
  | zero => rfl
  | succ j ih =>
    have hb := List.getElem?_eq_getElem hj
    rw [after_succ hb, lastShiftAt, ← ih (Nat.le_of_succ_le hj), ← h.uptime hb, feed_toMoves]
    simp [Moves.record, shiftDue]

theorem AtCadence.shifts (h : AtCadence run) {k : Nat} (hk : k ≤ run.length) :
    shifts run k = cadenceShifts k := by
  cases k with
  | zero => rfl
  | succ k =>
    have hb := List.getElem?_eq_getElem hk
    simp only [MovementTracker.shifts, hb, cadenceShifts, shiftDue, h.lastShift (Nat.le_of_succ_le hk), h.uptime hb]

theorem AtCadence.count (h : AtCadence run) {j : Nat} (hj : j ≤ run.length) :
    Windowed.count (MovementTracker.shifts run) j = Windowed.count cadenceShifts j := by
  induction j with
  | zero => rfl
  | succ j ih => rw [Windowed.count, Windowed.count, ih (Nat.le_of_succ_le hj), h.shifts hj]

theorem AtCadence.recorded_iff (h : AtCadence run) {k j : Nat} (hj : j ≤ run.length) :
    Recorded (MovementTracker.shifts run) k j ↔ Recorded cadenceShifts k j := by
  refine and_congr_right fun _ => or_congr_right (exists_congr fun a => and_congr_right fun ha => ?_)
  rw [h.shifts (ha.trans hj), h.count hj, h.count (ha.trans hj)]

/-- Between two shifts lie sixteen batches, not fifteen: after 300 seconds the code waits for more.  Batch
214748352 is the last multiple of 16 with an uptime that fits into 32 bits. -/
theorem cadence_due {k : Nat} (hk : k < 214748352) :
    cadence (k + 1) > UInt32.ofNat (320 * (k / 16)) + 300 ↔ (k + 1) % 16 = 0 := by
  have hslot : k / 16 ≤ 13421771 := by omega
  rw [gt_iff_lt, UInt32.lt_iff_toNat_lt, UInt32.toNat_add, cadence, UInt32.toNat_ofNat', UInt32.toNat_ofNat']
  show (320 * (k / 16) % 2 ^ 32 + 300) % 2 ^ 32 < 20 * (k + 1) % 2 ^ 32 ↔ _
  rw [Nat.mod_eq_of_lt (a := 320 * (k / 16)) (by omega), Nat.mod_eq_of_lt (by omega),
    Nat.mod_eq_of_lt (by omega)]
  omega

theorem lastShiftAt_eq {k : Nat} (hk : k ≤ 214748352) : lastShiftAt k = UInt32.ofNat (320 * (k / 16)) := by
  induction k with
  | zero => rfl
  | succ k ih =>
    rw [lastShiftAt, ih (Nat.le_of_succ_le hk)]
    by_cases h : (k + 1) % 16 = 0
    · rw [if_pos ((cadence_due hk).2 h), cadence]
      congr 1
      omega
    · rw [if_neg (mt (cadence_due hk).1 h)]
      congr 2
      omega

theorem cadenceShifts_iff {k : Nat} (hk : k < 214748352) :
    cadenceShifts (k + 1) = true ↔ (k + 1) % 16 = 0 := by
  rw [cadenceShifts, decide_eq_true_eq, lastShiftAt_eq hk.le, cadence_due hk]

theorem count_cadenceShifts {k : Nat} (hk : k ≤ 214748352) : count cadenceShifts k = k / 16 := by
  induction k with
  | zero => rfl
  | succ k ih =>
    rw [count, ih (Nat.le_of_succ_le hk)]
    by_cases h : (k + 1) % 16 = 0
    · rw [if_pos ((cadenceShifts_iff hk).2 h)]
      omega
    · rw [if_neg (mt (cadenceShifts_iff hk).1 h)]
      omega

/-- Batch 214748364 is the last before the uptime overflows. -/
theorem count_cadenceShifts_le {k : Nat} (hk : 20 * k < 2 ^ 32) : count cadenceShifts k ≤ k / 16 + 12 := by
  rcases Nat.le_total k 214748352 with h | h
  · rw [count_cadenceShifts h]
    omega
  · obtain ⟨n, rfl⟩ := Nat.exists_eq_add_of_le h
    have hadd := count_le_add cadenceShifts 214748352 n
    rw [count_cadenceShifts (Nat.le_refl _)] at hadd
    omega

/-- A batch that is not 1 modulo 16 shows for a day. -/
theorem recorded_of_ne {k j : Nat} (hk : k % 16 ≠ 1) (h0 : 1 ≤ k) (hkj : k ≤ j) (hday : j < k + 4320)
    (hj : 20 * j < 2 ^ 32) : Recorded cadenceShifts k j := by
  refine ⟨hkj, ?_⟩
  -- the one shift between 16 and 30 batches later
  obtain ⟨a, ha⟩ : ∃ a, a + 1 = 16 * ((k + 30) / 16) := ⟨16 * ((k + 30) / 16) - 1, by omega⟩
  rcases Nat.lt_or_ge j (a + 1) with hlt | hle
  · exact .inl (by omega)
  · have hfit : a < 214748352 := by omega
    refine .inr ⟨a + 1, hle, (cadenceShifts_iff hfit).2 (by omega), by omega, by omega, ?_⟩
    have hcount := count_cadenceShifts_le hj
    rw [count_cadenceShifts hfit]
    omega

/-- A batch that is 1 modulo 16 is lost once it has left `moves20`. -/
theorem not_recorded_of_eq {k j : Nat} (hk : k % 16 = 1) (hold : k + 30 ≤ j) (hj : 20 * j < 2 ^ 32) :
    ¬ Recorded cadenceShifts k j := by
  rintro ⟨-, hlt | ⟨a, haj, ha, hlo, hhi, -⟩⟩
  · omega
  · obtain ⟨b, rfl⟩ : ∃ b, a = b + 1 := ⟨a - 1, by omega⟩
    have hmod := (cadenceShifts_iff (by omega)).1 ha
    omega

/-! ## A day of movement -/

/-- After batch `k`, the byte is not zero as long as the batch is less than a day old. -/
def KeptForADay (run : List Batch) (k : Nat) : Prop :=
  ∀ j, k ≤ j → j ≤ run.length → 20 * (j - k) < 24 * 60 * 60 → (after run j).computeAccelByte ≠ 0

/-- A flagged batch is kept for a day unless its number is 1 modulo 16.  Such a batch is kept only where
another flagged batch shows at every moment between its leaving `moves20` and the end of the day. -/
theorem keptForADay_iff {k : Nat} (hrun : AtCadence run) (hk : flagged run k = true) :
    KeptForADay run k ↔ k % 16 ≠ 1 ∨
      ∀ j, k + 30 ≤ j → j ≤ run.length → 20 * (j - k) < 24 * 60 * 60 →
        ∃ k', flagged run k' = true ∧ Recorded cadenceShifts k' j := by
  have h0 : 1 ≤ k := by
    cases k with
    | zero => cases hk
    | succ k => exact Nat.succ_le_succ (Nat.zero_le k)
  have hshow (j : Nat) (hj : j ≤ run.length) : (after run j).computeAccelByte ≠ 0 ↔
      ∃ k', flagged run k' = true ∧ Recorded cadenceShifts k' j := by
    simp only [accelByte_ne_zero_iff hj, hrun.recorded_iff hj]
  constructor
  · intro hkept
    exact .inr fun j hold hj hday => (hshow j hj).1 (hkept j (by omega) hj hday)
  · rintro hcond j hkj hj hday
    rw [hshow j hj]
    by_cases hfine : j < k + 30
    · exact ⟨k, hk, hkj, .inl hfine⟩
    · rcases hcond with hne | hothers
      · exact ⟨k, hk, recorded_of_ne hne h0 hkj (by omega) (hrun.fits hj)⟩
      · exact hothers j (by omega) hj hday

/-- `n` batches of five samples, of which only batch `k` is shaken. -/
def shakenOnce (k n : Nat) : List Batch :=
  (List.range n).map fun i =>
    { samples := (List.range 5).map fun s => if i + 1 = k ∧ s % 2 = 1 then ⟨200, 100, 100⟩ else ⟨0, 100, 100⟩
      threshold := 10
      uptime := UInt32.ofNat (20 * (i + 1)) }

theorem atCadence_shakenOnce (k : Nat) {n : Nat} (hn : 20 * n < 2 ^ 32) : AtCadence (shakenOnce k n) := by
  intro i b hb
  simp only [shakenOnce, List.getElem?_map, Option.map_eq_some_iff] at hb
  obtain ⟨x, hx, rfl⟩ := hb
  obtain ⟨hi, rfl⟩ := List.getElem?_eq_some_iff.1 hx
  rw [List.length_range] at hi
  rw [List.getElem_range, UInt32.toNat_ofNat', Nat.mod_eq_of_lt]
  omega

/-- Movement in the second batch shows for the next fourteen minutes. -/
theorem keptForADay_second : KeptForADay (shakenOnce 2 42) 2 :=
  (keptForADay_iff (atCadence_shakenOnce 2 (by decide)) (by decide +kernel)).2 (.inl (by decide))

/-- Movement in the first batch is forgotten after ten minutes. -/
theorem first_batch_forgotten :
    ¬ ∀ run k, AtCadence run → flagged run k = true → KeptForADay run k := by
  intro h
  have hrun : AtCadence (shakenOnce 1 31) := atCadence_shakenOnce 1 (by decide)
  have honly : ∀ k' ≤ 31, flagged (shakenOnce 1 31) k' = true → k' = 1 := by decide +kernel
  have hbyte : (after (shakenOnce 1 31) 31).computeAccelByte ≠ 0 :=
    h _ 1 hrun (by decide +kernel) 31 (by decide) (by decide) (by decide)
  obtain ⟨k', hflag, hrec⟩ := (accelByte_ne_zero_iff (by decide)).1 hbyte
  rw [hrun.recorded_iff (by decide)] at hrec
  obtain rfl := honly k' hrec.1 hflag
  exact not_recorded_of_eq (by decide) (by decide) (by decide) hrec

end MovementTracker

end Everytag
