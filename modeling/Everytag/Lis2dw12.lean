import Everytag.Movement

/-!
# The accelerometer driver

`lis2dw12.c`.  The driver keeps its own arrays and the last sample of the previous read in
`accSamples[0]`, where (-1, -1, -1) stands for "no previous read".  The tracker has a flag and a copy
instead.  Fed with the same reads, both keep the same arrays (`Mirrors.read`).
-/

namespace Everytag

/-- What the sensor answers to one `accel_read`: whether the bus is ready, the temperature register unless its
transfer fails, and what the transfer of the FIFO leaves in the buffer, with its success. -/
structure BusRead where
  ready : Bool
  outTemp : Option Int16
  fifo : Vector Sample 32
  fifoOk : Bool

/-- (-1, -1, -1) -/
def noSample : Sample := ⟨-1, -1, -1⟩

/-- The globals of `lis2dw12.c`. -/
structure Lis2dw12 extends Moves where
  accSamples : Vector Sample 33 := Vector.replicate 33 ⟨0, 0, 0⟩
  accelTemperature : Int16 := 0
  arraysInitialized : Bool := false
deriving DecidableEq, Repr

namespace Lis2dw12

/-- `250 + accTemp / 25.6`, without its fraction. -/
def temperatureOf (accTemp : Int16) : Int16 := Int16.ofInt ((32000 + 5 * accTemp.toInt).tdiv 128)

/-- `accel_init`; the arrays are initialized once. -/
def accelInit (ready : Bool) (d : Lis2dw12) : Int × Lis2dw12 :=
  if !ready then (-1, d)
  else if d.arraysInitialized then (0, d)
  else (0, { d with
    accSamples := d.accSamples.set 0 noSample
    moves20 := Vector.replicate 30 0
    moves300 := Vector.replicate 288 0
    arraysInitialized := true })

def accelPowerdown (ready : Bool) (d : Lis2dw12) : Int × Lis2dw12 :=
  if !ready then (-1, d) else (0, { d with accelTemperature := 0 })

/-- `i2c_burst_read_dt` into `accSamples` from index 1 on. -/
def fill (accSamples : Vector Sample 33) (fifo : Vector Sample 32) : Vector Sample 33 :=
  Vector.ofFn fun i => if i.val = 0 then accSamples[0]! else fifo[i.val - 1]!

/-- The movements that `accel_read` counts in a filled buffer. -/
def movements (accSamples : Vector Sample 33) (accelThreshold : Int) : Nat :=
  let first := if accSamples[0]! = noSample then 2 else 1
  (List.range' first (33 - first)).countP fun i => moved accelThreshold accSamples[i - 1]! accSamples[i]!

/-- `accel_read`; `now` and `later` are the two reads of the uptime. -/
def accelRead (bus : BusRead) (accelThreshold : Int) (now later : UInt32) (d : Lis2dw12) :
    Int × Lis2dw12 :=
  if !bus.ready then (-1, d)
  else match bus.outTemp with
    | none => (-1, d)
    | some accTemp =>
      let accSamples := fill d.accSamples bus.fifo
      let d := { d with accelTemperature := temperatureOf accTemp, accSamples := accSamples }
      if !bus.fifoOk then (-1, d)
      else (0, { d with
        toMoves := d.toMoves.record (movements accSamples accelThreshold) now later
        accSamples := accSamples.set 0 accSamples[32]! })

/-- The result of `accel_movement` is an `int`. -/
def accelMovement (d : Lis2dw12) (startOffset endOffset : Int) : Int :=
  if d.toMoves.hasMovement startOffset endOffset then 1 else 0

end Lis2dw12

/-! ## The same reads for both -/

/-- A successful read of the FIFO: 32 samples behind whatever stands at index 0. -/
structure FifoRead where
  head : Sample
  fifo : Vector Sample 32
  outTemp : Int16
  threshold : Int
  uptime : UInt32

namespace FifoRead

/-- The arguments of `record_reading`. -/
def batch (r : FifoRead) : Batch := ⟨r.head :: r.fifo.toList, r.threshold, r.uptime⟩

/-- What the driver sees. -/
def bus (r : FifoRead) : BusRead := ⟨true, some r.outTemp, r.fifo, true⟩

end FifoRead

namespace Lis2dw12

def read (d : Lis2dw12) (r : FifoRead) : Lis2dw12 :=
  (d.accelRead r.bus r.threshold r.uptime r.uptime).2

/-- The driver after `accel_init`. -/
def started : Lis2dw12 := (accelInit true {}).2

/-- The driver after `accel_init` and the first `j` reads of a run. -/
def after (run : List FifoRead) (j : Nat) : Lis2dw12 := (run.take j).foldl read started

/-- The driver and the tracker have seen the same reads, none of which ended with (-1, -1, -1). -/
structure Mirrors (t : MovementTracker) (d : Lis2dw12) : Prop where
  moves : t.toMoves = d.toMoves
  none : t.hasPrevious = false → d.accSamples[0]! = noSample
  some : t.hasPrevious = true → d.accSamples[0]! = t.lastSample ∧ t.lastSample ≠ noSample

theorem mirrors_started : Mirrors {} started where
  moves := rfl
  none _ := rfl
  some h := by cases h

theorem getElem!_fill_zero (accSamples : Vector Sample 33) (fifo : Vector Sample 32) :
    (fill accSamples fifo)[0]! = accSamples[0]! := by
  simp [fill]

theorem getElem!_fill_succ (accSamples : Vector Sample 33) (fifo : Vector Sample 32) {i : Nat} (h : i < 32) :
    (fill accSamples fifo)[i + 1]! = fifo[i]! := by
  rw [getElem!_pos _ (i + 1) (by omega)]
  simp [fill]

theorem getElem!_batch (r : FifoRead) {i : Nat} (h : i < 32) : r.batch.samples[i + 1]! = r.fifo[i]! := by
  simp [FifoRead.batch, h]

variable {t : MovementTracker} {d : Lis2dw12} {r : FifoRead}

/-- The sentinel is in the buffer exactly if the flag is down. -/
theorem Mirrors.noSample_iff (h : Mirrors t d) : d.accSamples[0]! = noSample ↔ t.hasPrevious = false := by
  cases hp : t.hasPrevious with
  | false => simpa using h.none hp
  | true =>
    rw [(h.some hp).1]
    simpa using (h.some hp).2

/-- Both count the same movements. -/
theorem Mirrors.movements (h : Mirrors t d) : t.movements r.batch.samples r.threshold =
    Lis2dw12.movements (fill d.accSamples r.fifo) r.threshold := by
  have hlen : r.batch.samples.length = 33 := by simp [FifoRead.batch]
  have hfirst : (if t.hasPrevious then 1 else 2) =
      if (fill d.accSamples r.fifo)[0]! = noSample then 2 else 1 := by
    rw [getElem!_fill_zero, ite_cond_congr (propext h.noSample_iff)]
    cases t.hasPrevious <;> rfl
  simp only [MovementTracker.movements, Lis2dw12.movements, hlen, ← hfirst]
  refine List.countP_congr ?_
  intro i hi
  rw [List.mem_range'_1] at hi
  obtain ⟨k, rfl⟩ : ∃ k, i = k + 1 := ⟨i - 1, by split at hi <;> omega⟩
  have hk : k < 32 := by split at hi <;> omega
  rw [getElem!_batch r hk, getElem!_fill_succ _ _ hk, Nat.add_sub_cancel]
  cases k with
  | zero =>
    -- only a machine that has a previous sample starts at index 1
    have hp : t.hasPrevious = true := by
      by_contra hp
      rw [if_neg hp] at hi
      omega
    rw [if_pos rfl, getElem!_fill_zero, (h.some hp).1]
  | succ k =>
    rw [if_neg (by omega), getElem!_batch r (by omega), getElem!_fill_succ _ _ (by omega)]

/-- One read. -/
theorem Mirrors.read (h : Mirrors t d) (hlast : r.fifo[31]! ≠ noSample) :
    Mirrors (t.feed r.batch) (d.read r) := by
  have hsome : (t.feed r.batch).lastSample = r.fifo[31]! := by
    simp [MovementTracker.feed, MovementTracker.recordReading, FifoRead.batch,
      List.getLast?_eq_getElem?]
  have hzero : (d.read r).accSamples[0]! = r.fifo[31]! := by
    simp [Lis2dw12.read, accelRead, FifoRead.bus, fill]
  refine ⟨?_, fun hp => ?_, fun _ => ⟨hzero.trans hsome.symm, hsome ▸ hlast⟩⟩
  · show t.toMoves.record (t.movements r.batch.samples r.threshold) r.uptime r.uptime = _
    rw [h.movements, h.moves]
    rfl
  · simp [MovementTracker.feed, MovementTracker.recordReading, FifoRead.batch] at hp

theorem Mirrors.reads (h : Mirrors t d) (reads : List FifoRead) (hlast : ∀ r ∈ reads, r.fifo[31]! ≠ noSample) :
    Mirrors (reads.foldl (fun t r => t.feed r.batch) t) (reads.foldl Lis2dw12.read d) := by
  induction reads generalizing t d with
  | nil => exact h
  | cons r reads ih =>
    obtain ⟨hr, hlast⟩ := List.forall_mem_cons.1 hlast
    rw [List.foldl_cons, List.foldl_cons]
    exact ih (h.read hr) hlast

theorem mirrors_after {run : List FifoRead} (hrun : ∀ r ∈ run, r.fifo[31]! ≠ noSample) (j : Nat) :
    Mirrors (MovementTracker.after (run.map FifoRead.batch) j) (after run j) := by
  have h := mirrors_started.reads (run.take j) fun r hr => hrun r (List.mem_of_mem_take hr)
  rw [MovementTracker.after, after, ← List.map_take, List.foldl_map]
  exact h

/-- The tracker keeps the arrays of the driver, after every read of every run whose reads do not end with
(-1, -1, -1), and both answer alike for every window. -/
theorem tracker_refines_driver (run : List FifoRead) (hrun : ∀ r ∈ run, r.fifo[31]! ≠ noSample) (j : Nat) :
    let t := MovementTracker.after (run.map FifoRead.batch) j
    let d := Lis2dw12.after run j
    t.moves20 = d.moves20 ∧ t.moves300 = d.moves300 ∧ t.lastShift = d.lastShift ∧
      ∀ a b : Int, t.hasMovement a b = true ↔ d.accelMovement a b = 1 := by
  intro t d
  have h : t.toMoves = d.toMoves := (mirrors_after hrun j).moves
  refine ⟨by rw [h], by rw [h], by rw [h], fun a b => ?_⟩
  rw [accelMovement, ← h]
  split <;> simp_all

/-- Two reads of a device that lies still, and is knocked when the second one begins: of the two movements that it
takes, the first is from the sample carried over. -/
theorem tracker_refines_driver_knocked :
    let still : FifoRead := ⟨⟨7, 7, 7⟩, Vector.replicate 32 ⟨200, 0, 0⟩, 0, 10, 20⟩
    let knocked : FifoRead := { still with
      fifo := Vector.ofFn fun i => if i.val = 0 then ⟨0, 0, 0⟩ else ⟨200, 0, 0⟩
      uptime := 40 }
    (Lis2dw12.after [still, knocked] 1).accelMovement 0 5 ≠ 1 ∧
      (Lis2dw12.after [still, knocked] 2).accelMovement 0 5 = 1 := by
  intro still knocked
  have hstill : (MovementTracker.after ([still, knocked].map FifoRead.batch) 1).hasMovement 0 5 = false := by
    decide +kernel
  have hknocked : (MovementTracker.after ([still, knocked].map FifoRead.batch) 2).hasMovement 0 5 = true := by
    decide +kernel
  have hrun : ∀ r ∈ [still, knocked], r.fifo[31]! ≠ noSample := by
    simp [still, knocked, noSample]
  obtain ⟨-, -, -, hfirst⟩ := tracker_refines_driver [still, knocked] hrun 1
  obtain ⟨-, -, -, hsecond⟩ := tracker_refines_driver [still, knocked] hrun 2
  refine ⟨fun h => ?_, (hsecond 0 5).1 hknocked⟩
  exact absurd (hstill.symm.trans ((hfirst 0 5).2 h)) (by decide)

end Lis2dw12

end Everytag
