import Everytag.Persistence

/-!
# The clock across restarts

One NVS record holds the clock, and two functions write it: `save_time` stores the time itself, and the
bridge function of the time characteristic stores the offset, which is the time minus the uptime.  A load
takes the record for an offset.  Since the uptime starts at zero again, what `save_time` stored comes back
as the time it was, and what a time sync stored comes back as the time at which that boot began
(`getTime_reset`).
-/

namespace Everytag

open Bytes BeaconConfig

/-- What can happen to the clock: a write of the time characteristic, `store_time`, and a reset, after which
the uptime is zero and `load` reads NVS again. -/
inductive ClockEvent
  | write (uptime : UInt32) (buf : List UInt8)
  | storeTime (uptime : UInt32)
  | reset
deriving DecidableEq, Repr

namespace ClockEvent

/-- The uptime at which the event happens, or which it leaves. -/
def uptime : ClockEvent → UInt32
  | .write uptime _ => uptime
  | .storeTime uptime => uptime
  | .reset => 0

/-- The event writes the record: a write of eight bytes, or `store_time`. -/
def Persists : ClockEvent → Prop
  | .write _ buf => buf.length = 8
  | .storeTime _ => True
  | .reset => False

end ClockEvent

namespace SettingsManager

def clockStep (m : SettingsManager) : ClockEvent → SettingsManager
  | .write uptime buf => (handleTimeOffsetWrite m uptime buf).2
  | .storeTime uptime => m.saveTime uptime
  | .reset => m.load

def clockRun (m : SettingsManager) (es : List ClockEvent) : SettingsManager := es.foldl clockStep m

variable {m : SettingsManager} {e : ClockEvent}

/-- The record under the id of the time offset. -/
def timeRecord (m : SettingsManager) : Option (List UInt8) := m.nvs.find NvsFieldId.timeOffset.id

theorem load_timeOffset {n : Nvs} {v : Int64}
    (h : n.find NvsFieldId.timeOffset.id = some (leBytes 8 v.toUInt64.toNat)) :
    (BeaconConfig.load n.read).timeOffset = v := by
  have hread : n.read NvsFieldId.timeOffset.id 8 = ((8 : Int), leBytes 8 v.toUInt64.toNat) := by
    simpa using Nvs.read_of_find h
  have hkeys := apply_loadKeys (f := BeaconConfig.timeOffset) (fun _ _ _ => rfl) n.read
  have hfmdn := apply_loadFmdnKey (f := BeaconConfig.timeOffset) (fun _ _ => rfl) n.read
  simp [BeaconConfig.load, loadSteps, hkeys, hfmdn, hread]

theorem uptime_eq_zero_iff {u : UInt32} : u.toUInt64.toInt64 = 0 ↔ u = 0 := by
  refine ⟨fun h => ?_, fun h => by rw [h]; rfl⟩
  have hu : u.toUInt64 = 0 := congrArg Int64.toUInt64 h
  simpa using congrArg UInt64.toUInt32 hu

/-- `save_time` stores the time, a time sync the offset. -/
theorem timeRecord_step (h : e.Persists) : ∃ v : Int64,
    (m.clockStep e).timeRecord = some (leBytes 8 v.toUInt64.toNat) ∧
      (v = (m.clockStep e).config.getTime e.uptime ↔ (∃ t, e = .storeTime t) ∨ e.uptime = 0) := by
  cases e with
  | write t buf =>
    have hlen : buf.length = 8 := h
    let v := readInt64 buf - t.toUInt64.toInt64
    have hstep : (m.clockStep (.write t buf)).config.timeOffset = v := by
      simp [clockStep, handleTimeOffsetWrite, handleBlock, hlen, updateTimeOffset, v]
    refine ⟨v, by simp [clockStep, handleTimeOffsetWrite, handleBlock, hlen, timeRecord, fieldBytes,
      updateTimeOffset, v], ?_⟩
    rw [getTime, hstep]
    simp [ClockEvent.uptime, uptime_eq_zero_iff]
  | storeTime t => exact ⟨m.config.getTime t, rfl, by simp [clockStep, saveTime, ClockEvent.uptime]⟩
  | reset => exact h.elim

theorem timeRecord_step_of_not (h : ¬ e.Persists) : (m.clockStep e).timeRecord = m.timeRecord := by
  cases e with
  | write t buf =>
    have hlen : buf.length ≠ 8 := h
    simp [clockStep, handleTimeOffsetWrite, handleBlock, hlen]
  | storeTime t => exact absurd trivial h
  | reset => rfl

theorem timeRecord_run {es : List ClockEvent} (h : ∀ x ∈ es, ¬ x.Persists) :
    (m.clockRun es).timeRecord = m.timeRecord := by
  induction es generalizing m with
  | nil => rfl
  | cons x es ih =>
    obtain ⟨hx, hes⟩ := List.forall_mem_cons.1 h
    exact (ih hes).trans (timeRecord_step_of_not hx)

/-- After a reset, the clock stands at what the record holds. -/
theorem getTime_reset {v : Int64} (h : m.timeRecord = some (leBytes 8 v.toUInt64.toNat)) :
    (m.clockStep .reset).config.getTime 0 = v := by
  show (BeaconConfig.load m.nvs.read).getTime 0 = v
  rw [getTime, load_timeOffset h]
  simp

end SettingsManager

open SettingsManager

/-- A reset brings back the clock of the last event that persisted it exactly if that event was
`store_time` or happened at uptime zero. -/
theorem clock_survives_iff (m : SettingsManager) (pre mid : List ClockEvent) (e : ClockEvent)
    (he : e.Persists) (hmid : ∀ x ∈ mid, ¬ x.Persists) :
    ((m.clockRun (pre ++ e :: mid)).clockStep .reset).config.getTime 0 =
        (m.clockRun (pre ++ [e])).config.getTime e.uptime ↔
      (∃ t, e = .storeTime t) ∨ e.uptime = 0 := by
  let m₁ := m.clockRun pre
  have hlast : m.clockRun (pre ++ [e]) = m₁.clockStep e := by simp [clockRun, m₁]
  have hrun : m.clockRun (pre ++ e :: mid) = (m₁.clockStep e).clockRun mid := by simp [clockRun, m₁]
  obtain ⟨v, hv, hiff⟩ := timeRecord_step (m := m₁) he
  rw [hrun, hlast, getTime_reset ((timeRecord_run hmid).trans hv), hiff]

/-- Saved after an hour, the clock is still there after two resets. -/
theorem clock_survives_saved :
    let m : SettingsManager := ⟨{}, .erased⟩
    let es : List ClockEvent := [.write 0 (leBytes 8 1000000), .storeTime 3600, .reset]
    ((m.clockRun es).clockStep .reset).config.getTime 0 = (m.clockRun (es.take 2)).config.getTime 3600 :=
  (clock_survives_iff ⟨{}, .erased⟩ [.write 0 (leBytes 8 1000000)] [.reset] (.storeTime 3600) trivial
    (by simp [ClockEvent.Persists])).2 (.inl ⟨3600, rfl⟩)

/-- Synced to 1000000 at uptime 100, the clock stands at 999900 after a reset. -/
theorem clock_moves_back :
    ¬ ∀ (m : SettingsManager) (pre mid : List ClockEvent) (e : ClockEvent), e.Persists →
      (∀ x ∈ mid, ¬ x.Persists) →
      ((m.clockRun (pre ++ e :: mid)).clockStep .reset).config.getTime 0 =
        (m.clockRun (pre ++ [e])).config.getTime e.uptime := by
  intro h
  exact absurd (h ⟨{}, .erased⟩ [] [] (.write 100 (leBytes 8 1000000)) rfl (by simp)) (by decide)

end Everytag
