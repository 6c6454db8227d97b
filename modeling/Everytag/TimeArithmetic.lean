import Everytag.Clock

/-!
# Signed arithmetic of the clock

`update_time_offset` subtracts the uptime from what the client writes, `get_time` and `save_time` add it.  The
operands are `int64_t`, and a sum or a difference outside of that type is undefined.  `WallClock` is the same
clock over the integers: the time that was set last, and the seconds that have been counted since, in memory and
in the record.  The code agrees with it for as long as nothing overflows (`Agrees.step`), so that the exact
condition can be read off the integers.
-/

namespace Everytag

open Bytes BeaconConfig SettingsManager

/-- A change of the clock, or a read of the time characteristic. -/
inductive TimeEvent
  | clock (e : ClockEvent)
  | read (uptime : UInt32)
deriving DecidableEq, Repr

namespace TimeEvent

/-- The time that the event sets, and the uptime at which it does. -/
def sets? : TimeEvent → Option (Int64 × UInt32)
  | .clock (.write uptime buf) => if buf.length = 8 then some (readInt64 buf, uptime) else none
  | _ => none

/-- The uptime at which the event calls `get_time`. -/
def asks? : TimeEvent → Option UInt32
  | .clock (.storeTime uptime) | .read uptime => some uptime
  | .clock (.write ..) | .clock .reset => none

end TimeEvent

namespace SettingsManager

def timeStep (m : SettingsManager) : TimeEvent → SettingsManager
  | .clock e => m.clockStep e
  | .read _ => m

def timeRun (m : SettingsManager) (es : List TimeEvent) : SettingsManager := es.foldl timeStep m

/-- One of the two operations of the event overflows: the subtraction in `update_time_offset`, or the addition
in `get_time`. -/
def Overflows (m : SettingsManager) (e : TimeEvent) : Prop :=
  (∃ v uptime, e.sets? = some (v, uptime) ∧ v.toBitVec.ssubOverflow uptime.toUInt64.toInt64.toBitVec) ∨
    ∃ uptime, e.asks? = some uptime ∧
      m.config.timeOffset.toBitVec.saddOverflow uptime.toUInt64.toInt64.toBitVec

/-- Nothing overflows in the run, and between two sets of the clock, within a boot, the time that is read has
moved on by the difference of the uptimes. -/
structure TimeExact (m : SettingsManager) (es : List TimeEvent) : Prop where
  defined : ∀ pre e post, es = pre ++ e :: post → ¬ (m.timeRun pre).Overflows e
  law : ∀ pre e mid uptime post v u, es = pre ++ e :: (mid ++ .read uptime :: post) →
    e.sets? = some (v, u) → (∀ x ∈ mid, x.sets? = none ∧ x ≠ .clock .reset) →
      (handleTimeOffsetRead (m.timeRun (pre ++ e :: mid)) uptime).toInt - v.toInt = uptime.toNat - u.toNat

end SettingsManager

/-! ## The clock over the integers -/

/-- The time that was set last, and the seconds that have been counted since: how many stand for uptime zero of
this boot, and of the next. -/
structure WallClock where
  time : Int
  counted : Int
  record : Int
deriving DecidableEq, Repr

namespace WallClock

/-- A clock that was set to `time` at an uptime. -/
def set (time : Int) (uptime : UInt32) : WallClock := ⟨time, -uptime.toNat, -uptime.toNat⟩

/-- The clock of a boot that finds `offset` in its record. -/
def boot (offset : Int64) : WallClock := set offset.toInt 0

def step (c : WallClock) : TimeEvent → WallClock
  | .clock (.write uptime buf) => if buf.length = 8 then set (readInt64 buf).toInt uptime else c
  | .clock (.storeTime uptime) => { c with record := c.counted + uptime.toNat }
  | .clock .reset => { c with counted := c.record }
  | .read _ => c

def run (c : WallClock) (es : List TimeEvent) : WallClock := es.foldl step c

/-- What is set lies at least the uptime above -2^63, and with what has been counted since, it is still below
2^63 whenever it is asked for. -/
structure Room (c : WallClock) (e : TimeEvent) : Prop where
  sets : ∀ v uptime, e.sets? = some (v, uptime) → -2 ^ 63 + (uptime.toNat : Int) ≤ v.toInt
  asks : ∀ uptime, e.asks? = some uptime → c.time + (c.counted + uptime.toNat) < 2 ^ 63

end WallClock

/-! ## One operation -/

section

variable {v offset : Int64} {u : UInt32}

theorem toInt_uptime (u : UInt32) : u.toUInt64.toInt64.toInt = u.toNat := by
  have hu := u.toNat_lt
  show (u.toUInt64.toBitVec).toInt = u.toNat
  rw [BitVec.toInt_eq_toNat_of_lt]
  · simp
  · simp
    omega

theorem not_ssubOverflow_iff : ¬ v.toBitVec.ssubOverflow u.toUInt64.toInt64.toBitVec ↔
    -2 ^ 63 + (u.toNat : Int) ≤ v.toInt := by
  have hu := u.toNat_lt
  have hv := v.toInt_lt
  simp only [BitVec.ssubOverflow, Int64.toInt_toBitVec, toInt_uptime]
  simp
  omega

theorem not_saddOverflow_iff : ¬ offset.toBitVec.saddOverflow u.toUInt64.toInt64.toBitVec ↔
    offset.toInt + u.toNat < 2 ^ 63 := by
  have hlow := offset.le_toInt
  simp only [BitVec.saddOverflow, Int64.toInt_toBitVec, toInt_uptime]
  simp
  omega

theorem toInt_sub_uptime (h : -2 ^ 63 + (u.toNat : Int) ≤ v.toInt) :
    (v - u.toUInt64.toInt64).toInt = v.toInt - u.toNat := by
  rw [← toInt_uptime u]
  exact BitVec.toInt_sub_of_not_ssubOverflow (not_ssubOverflow_iff.2 h)

theorem toInt_add_uptime (h : offset.toInt + u.toNat < 2 ^ 63) :
    (offset + u.toUInt64.toInt64).toInt = offset.toInt + u.toNat := by
  rw [← toInt_uptime u]
  exact BitVec.toInt_add_of_not_saddOverflow (not_saddOverflow_iff.2 h)

end

/-! ## Runs -/

theorem forall_splits_cons {α : Type} {x : α} {xs : List α} {P : List α → α → Prop} :
    (∀ pre e post, x :: xs = pre ++ e :: post → P pre e) ↔
      P [] x ∧ ∀ pre e post, xs = pre ++ e :: post → P (x :: pre) e := by
  constructor
  · refine fun h => ⟨h [] x xs rfl, fun pre e post hxs => h (x :: pre) e post ?_⟩
    rw [hxs]
    rfl
  · rintro ⟨hx, hxs⟩ (_ | ⟨_, pre⟩) e post h
    · cases h
      exact hx
    · cases h
      exact hxs pre e post rfl

theorem WallClock.step_of_sets {c : WallClock} {e : TimeEvent} {v : Int64} {u : UInt32}
    (h : e.sets? = some (v, u)) : c.step e = .set v.toInt u := by
  cases e with
  | read _ => cases h
  | clock e =>
    cases e with
    | storeTime _ | reset => cases h
    | write _ buf =>
      by_cases hlen : buf.length = 8
      · simp only [TimeEvent.sets?, if_pos hlen, Option.some.injEq, Prod.mk.injEq] at h
        obtain ⟨rfl, rfl⟩ := h
        exact if_pos hlen
      · simp [TimeEvent.sets?, hlen] at h

/-- Until it is set again or the device resets, a clock goes on counting from where it was set. -/
theorem WallClock.run_of_quiet {c : WallClock} {es : List TimeEvent}
    (h : ∀ x ∈ es, x.sets? = none ∧ x ≠ .clock .reset) :
    (c.run es).time = c.time ∧ (c.run es).counted = c.counted := by
  induction es generalizing c with
  | nil => exact ⟨rfl, rfl⟩
  | cons x es ih =>
    obtain ⟨⟨hsets, hreset⟩, hes⟩ := List.forall_mem_cons.1 h
    have hstep : (c.step x).time = c.time ∧ (c.step x).counted = c.counted := by
      cases x with
      | read u => exact ⟨rfl, rfl⟩
      | clock x =>
        cases x with
        | reset => exact absurd rfl hreset
        | storeTime u => exact ⟨rfl, rfl⟩
        | write u buf =>
          have hlen : buf.length ≠ 8 := fun hlen => by simp [TimeEvent.sets?, hlen] at hsets
          rw [show c.step (.clock (.write u buf)) = c from if_neg hlen]
          exact ⟨rfl, rfl⟩
    obtain ⟨htime, hcounted⟩ := ih (c := c.step x) hes
    exact ⟨htime.trans hstep.1, hcounted.trans hstep.2⟩

namespace SettingsManager

variable {m : SettingsManager} {c : WallClock} {e : TimeEvent} {es : List TimeEvent}

/-- The offset in memory, and the one that a load would find, are those of the clock over the integers. -/
structure Agrees (m : SettingsManager) (c : WallClock) : Prop where
  memory : m.config.timeOffset.toInt = c.time + c.counted
  record : (BeaconConfig.load m.nvs.read).timeOffset.toInt = c.time + c.record

theorem agrees_boot (nvs : Nvs) :
    Agrees ⟨BeaconConfig.load nvs.read, nvs⟩ (.boot (BeaconConfig.load nvs.read).timeOffset) where
  memory := by simp [WallClock.boot, WallClock.set]
  record := by simp [WallClock.boot, WallClock.set]

theorem Agrees.not_overflows (h : Agrees m c) : ¬ m.Overflows e ↔ c.Room e := by
  have hasks (u : UInt32) : ¬ m.config.timeOffset.toBitVec.saddOverflow u.toUInt64.toInt64.toBitVec ↔
      c.time + (c.counted + u.toNat) < 2 ^ 63 := by
    rw [not_saddOverflow_iff, h.memory, Int.add_assoc]
  constructor
  · intro hno
    refine ⟨fun v u he => ?_, fun u he => ?_⟩
    · exact not_ssubOverflow_iff.1 fun hover => hno (.inl ⟨v, u, he, hover⟩)
    · exact (hasks u).1 fun hover => hno (.inr ⟨u, he, hover⟩)
  · rintro hroom (⟨v, u, he, hover⟩ | ⟨u, he, hover⟩)
    · exact not_ssubOverflow_iff.2 (hroom.sets v u he) hover
    · exact (hasks u).2 (hroom.asks u he) hover

/-- With room for the event, both clocks do the same. -/
theorem Agrees.step (h : Agrees m c) (hroom : c.Room e) : Agrees (m.timeStep e) (c.step e) := by
  cases e with
  | read u => exact h
  | clock e =>
    cases e with
    | reset => exact ⟨h.record, h.record⟩
    | storeTime u =>
      refine ⟨h.memory, ?_⟩
      have hlt : m.config.timeOffset.toInt + u.toNat < 2 ^ 63 := by
        rw [h.memory, Int.add_assoc]
        exact hroom.asks u rfl
      have hload : (BeaconConfig.load (m.saveTime u).nvs.read).timeOffset = m.config.getTime u :=
        load_timeOffset (by simp [saveTime])
      show (BeaconConfig.load (m.saveTime u).nvs.read).timeOffset.toInt = c.time + (c.counted + u.toNat)
      rw [hload, getTime, toInt_add_uptime hlt, h.memory, Int.add_assoc]
    | write u buf =>
      by_cases hlen : buf.length = 8
      · have hle := hroom.sets (readInt64 buf) u (by simp [TimeEvent.sets?, hlen])
        have hoffset : (m.timeStep (.clock (.write u buf))).config.timeOffset =
            readInt64 buf - u.toUInt64.toInt64 := by
          simp [timeStep, clockStep, handleTimeOffsetWrite, handleBlock, hlen, updateTimeOffset]
        have hload : (BeaconConfig.load (m.timeStep (.clock (.write u buf))).nvs.read).timeOffset =
            readInt64 buf - u.toUInt64.toInt64 :=
          load_timeOffset (by
            simp [timeStep, clockStep, handleTimeOffsetWrite, handleBlock, hlen, updateTimeOffset, fieldBytes])
        have hset : c.step (.clock (.write u buf)) = .set (readInt64 buf).toInt u := if_pos hlen
        rw [hset]
        constructor
        · rw [hoffset, toInt_sub_uptime hle]
          rfl
        · rw [hload, toInt_sub_uptime hle]
          rfl
      · have hm : m.timeStep (.clock (.write u buf)) = m := by
          simp [timeStep, clockStep, handleTimeOffsetWrite, handleBlock, hlen]
        have hc : c.step (.clock (.write u buf)) = c := if_neg hlen
        rwa [hm, hc]

theorem Agrees.run (h : Agrees m c) (hroom : ∀ pre e post, es = pre ++ e :: post → (c.run pre).Room e) :
    Agrees (m.timeRun es) (c.run es) := by
  induction es generalizing m c with
  | nil => exact h
  | cons e es ih =>
    refine ih (h.step (hroom [] e es rfl)) ?_
    rintro pre x post rfl
    exact hroom (e :: pre) x post rfl

/-- What is free of overflows on one side has room on the other. -/
theorem Agrees.defined_iff (h : Agrees m c) :
    (∀ pre e post, es = pre ++ e :: post → ¬ (m.timeRun pre).Overflows e) ↔
      ∀ pre e post, es = pre ++ e :: post → (c.run pre).Room e := by
  induction es generalizing m c with
  | nil => simp
  | cons e es ih =>
    rw [forall_splits_cons (P := fun pre e => ¬ (m.timeRun pre).Overflows e),
      forall_splits_cons (P := fun pre e => (c.run pre).Room e)]
    constructor
    · rintro ⟨hno, hrest⟩
      have hroom : c.Room e := h.not_overflows.1 hno
      exact ⟨hroom, (ih (h.step hroom)).1 hrest⟩
    · rintro ⟨hroom, hrest⟩
      exact ⟨h.not_overflows.2 hroom, (ih (h.step hroom)).2 hrest⟩

theorem Agrees.time_law (h : Agrees m c) (hroom : ∀ pre e post, es = pre ++ e :: post → (c.run pre).Room e)
    {pre mid post : List TimeEvent} {uptime u : UInt32} {v : Int64}
    (hes : es = pre ++ e :: (mid ++ .read uptime :: post)) (hsets : e.sets? = some (v, u))
    (hmid : ∀ x ∈ mid, x.sets? = none ∧ x ≠ .clock .reset) :
    (handleTimeOffsetRead (m.timeRun (pre ++ e :: mid)) uptime).toInt - v.toInt = uptime.toNat - u.toNat := by
  have hsplit : es = (pre ++ e :: mid) ++ .read uptime :: post := by simpa using hes
  have hagrees : Agrees (m.timeRun (pre ++ e :: mid)) (c.run (pre ++ e :: mid)) := by
    refine h.run fun pre' x post' hx => hroom pre' x (post' ++ .read uptime :: post) ?_
    rw [hsplit, hx]
    simp
  have hrun : c.run (pre ++ e :: mid) = ((c.run pre).step e).run mid := by simp [WallClock.run]
  have hset : (c.run pre).step e = .set v.toInt u := WallClock.step_of_sets hsets
  have hquiet := WallClock.run_of_quiet (c := (c.run pre).step e) hmid
  rw [← hrun, hset] at hquiet
  obtain ⟨htime, hcounted⟩ := hquiet
  have hasked := (hroom _ _ _ hsplit).asks uptime rfl
  have hmemory := hagrees.memory
  rw [htime, hcounted] at hasked hmemory
  have hnow : ((m.timeRun (pre ++ e :: mid)).config.timeOffset + uptime.toUInt64.toInt64).toInt =
      (m.timeRun (pre ++ e :: mid)).config.timeOffset.toInt + uptime.toNat :=
    toInt_add_uptime (by rw [hmemory, Int.add_assoc]; exact hasked)
  rw [handleTimeOffsetRead, getTime, hnow, hmemory]
  show v.toInt + -(u.toNat : Int) + uptime.toNat - v.toInt = uptime.toNat - u.toNat
  omega

end SettingsManager

open SettingsManager

/-- From any boot on, in any run of writes, saves, reads and resets, the arithmetic is defined and exact if and
only if every time that is set lies at least its uptime above -2^63, and every time that is asked for, counted on
from the one that was set last or found in the record, is below 2^63. -/
theorem time_exact_iff (nvs : Nvs) (es : List TimeEvent) :
    TimeExact ⟨BeaconConfig.load nvs.read, nvs⟩ es ↔
      ∀ pre e post, es = pre ++ e :: post →
        ((WallClock.boot (BeaconConfig.load nvs.read).timeOffset).run pre).Room e := by
  have hboot := agrees_boot nvs
  constructor
  · exact fun h => hboot.defined_iff.1 h.defined
  · intro hroom
    refine ⟨hboot.defined_iff.2 hroom, ?_⟩
    intro pre e mid uptime post v u hes hsets hmid
    exact hboot.time_law hroom hes hsets hmid

/-- The earliest time there is, written one second after a boot on erased flash. -/
theorem earliest_time_overflows :
    ¬ ∀ (nvs : Nvs) (es : List TimeEvent), TimeExact ⟨BeaconConfig.load nvs.read, nvs⟩ es := by
  intro h
  have hdefined := (h .erased [.clock (.write 1 (leBytes 8 (2 ^ 63)))]).defined [] _ [] rfl
  exact hdefined (.inl ⟨Int64.minValue, 1, by decide, by decide⟩)

end Everytag
