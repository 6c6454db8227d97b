import Everytag.Startup
import Everytag.Clock
import Everytag.Tick

/-!
# The clock at a stop

A device that stops on its own goes through `power_off` or `reboot`, and both have a body in
`zephyr_hardware.cpp`: `reboot` stores the time before it does anything else, `power_off` never does.  What a tick
leaves in the record when it stops is therefore decided at its head, where the hourly save is due or is not.
`Recorder` follows the `store_time` calls of a tick, and the writes of the time that come after them.
-/

namespace Everytag

open Interaction StateMachine Bytes SettingsManager

/-! ## Two functions that do not return -/

/-- What `power_off` is compiled with. -/
structure Peripherals where
  useButton : Bool
  useAccelerometer : Bool
deriving DecidableEq, Repr

inductive HardwareCall
  /-- `my_wdt_disable` -/
  | wdtDisable
  /-- `gpio_pin_interrupt_configure_dt(&sw0, GPIO_INT_LEVEL_ACTIVE)` -/
  | configureWake
  | accelPowerdown
  /-- `k_sleep` -/
  | sleepMs (ms : Nat)
  | storeTime
  | sysPoweroff
  | sysReboot
deriving DecidableEq, Repr

abbrev HardwareCall.Ans : HardwareCall → Type
  | .configureWake | .accelPowerdown => Int
  | _ => Unit

/-- Milliseconds that it takes. -/
@[simp] def HardwareCall.lasts : HardwareCall → Nat
  | .sleepMs ms => ms
  | _ => 0

/-- Code of `ZephyrHardware`. -/
abbrev Hardware (α : Type) := Prog HardwareCall HardwareCall.Ans α

@[simp] def platform (c : HardwareCall) : Hardware c.Ans := Prog.issue c

namespace ZephyrHardware

def powerOff (b : Peripherals) : Hardware Unit := do
  platform .wdtDisable
  if b.useButton then
    let _ ← platform .configureWake
  if b.useAccelerometer then
    let _ ← platform .accelPowerdown
  platform (.sleepMs 500)
  platform .sysPoweroff

/-- `n` rounds of storing the time. -/
def rebootRounds : (n : Nat) → Hardware Unit
  | 0 => return ()
  | n + 1 => do
    platform .storeTime
    platform (.sleepMs 1000)
    rebootRounds n

def reboot : Hardware Unit := do
  rebootRounds 8
  platform (.sleepMs 1000)
  platform .sysReboot

end ZephyrHardware

/-! ## The record during a tick -/

/-- The write of a client that sets the time. -/
def Device.setsTime (d : Device) : GattEvent → Bool
  | .write .timeOffset _ buf => d.gatt.authorizedGatt && d.gatt.allowedChange && buf.length == 8
  | _ => false

/-- A device in a tick. -/
structure Recorder where
  device : Device
  stopped : Bool := false
  watchdog : Bool := true
  /-- the first uptime that the tick has read -/
  first : Option UInt32 := none
  /-- the uptime of its last `store_time` -/
  saved : Option UInt32 := none
  /-- a client has set the time since -/
  synced : Bool := false
deriving DecidableEq, Repr

namespace Recorder

/-- `main` after the settings are loaded. -/
def boot (nvs : Nvs) : Recorder := { device := Device.boot nvs }

def store (w : Recorder) (uptime : UInt32) : Recorder :=
  { w with device := w.device.storeTime uptime, saved := some uptime, synced := false }

def event (w : Recorder) (e : GattEvent) : Recorder :=
  { w with device := w.device.step e, synced := w.synced || w.device.setsTime e }

def stop (w : Recorder) : Recorder := { w with stopped := true }

end Recorder

/-- The watchdog, which nothing feeds any more, may end a sleep for good. -/
def hardware : World HardwareCall HardwareCall.Ans Recorder where
  allowed _ _ := True
  step w c _ w' := w.stopped = false ∧
    match c with
    | .wdtDisable => w' = { w with watchdog := false }
    | .storeTime => ∃ uptime, w' = w.store uptime
    | .sleepMs _ => w' = w ∨ w.watchdog = true ∧ w' = w.stop
    | .sysPoweroff | .sysReboot => w' = w.stop
    | .configureWake | .accelPowerdown => w' = w
  move w w' := w.stopped = false ∧ ∃ e, w' = w.event e

/-- The function has stopped the device. -/
def Recorder.Halts (w : Recorder) (p : Hardware Unit) (w' : Recorder) : Prop :=
  w'.stopped = true ∧ ∃ q, Reaches hardware (p, w) (q, w')

/-- Effect of a call.  A tick begins when the flags are copied. -/
def Recorder.Next (b : Peripherals) (w : Recorder) : (c : Call) → c.Ans → Recorder → Prop
  | .uptimeSeconds, now, w' => w' = { w with first := w.first.or (some now) }
  | .powerOff, _, w' => w.Halts (ZephyrHardware.powerOff b) w'
  | .reboot, _, w' => w.Halts ZephyrHardware.reboot w'
  | .storeTime, _, w' => ∃ uptime, w' = w.store uptime
  | .glueSyncGattState, flags, w' => w.device.Serves .glueSyncGattState flags w.device ∧
    w' = { w with first := none, saved := none, synced := false }
  | c, a, w' => ∃ d, w.device.Serves c a d ∧ w' = { w with device := d }

/-- GATT events arrive between the calls, until the device stops. -/
def recording (b : Peripherals) : World Call Call.Ans Recorder where
  allowed _ _ := True
  step w c a w' := w.stopped = false ∧ w.Next b c a w'
  move w w' := w.stopped = false ∧ ∃ e, w' = w.event e

/-- The tick has stored the time, and the record is still that of the clock at the uptime of the call. -/
def Recorder.SavedAtStop (w : Recorder) : Prop :=
  ∃ uptime, w.saved = some uptime ∧
    w.device.settings.timeRecord = some (leBytes 8 (w.device.settings.config.getTime uptime).toUInt64.toNat)

/-- The hourly save is due at the first uptime of the tick. -/
def Recorder.SaveDue (s : StateMachine) (w : Recorder) : Prop :=
  ∃ now, w.first = some now ∧ s.timers.timeSave + kIntervalTimeSave ≤ now

/-! ## The record and the clock -/

theorem timeOffset_apply {c : BeaconConfig} {s : BeaconConfig.Setter} {ch : Chrc} (h : CalledBy ch s)
    (hch : ch ≠ .timeOffset) : (s.apply c).timeOffset = c.timeOffset := by
  refine BeaconConfig.Setter.apply_keeps (f := BeaconConfig.timeOffset) ?_
  cases s with
  | timeOffset => cases ch <;> first | exact h.elim | exact absurd rfl hch
  | _ => rfl

namespace Device

variable {d : Device} {e : GattEvent}

/-- What a client sets is stored as an offset. -/
theorem timeRecord_of_setsTime (h : d.setsTime e = true) : (d.step e).settings.timeRecord =
    some (leBytes 8 (d.step e).settings.config.timeOffset.toUInt64.toNat) := by
  cases e with
  | write ch t buf =>
    cases ch with
    | timeOffset =>
      simp only [setsTime, Bool.and_eq_true, beq_iff_eq] at h
      obtain ⟨⟨hauth, hallowed⟩, hlen⟩ := h
      simp [step, handle, attWrite, writeAuthorize, chrcWrite, chrcWriteTimeOffset, gatedWrite, onSettings,
        handleTimeOffsetWrite, handleBlock, hauth, hallowed, hlen, timeRecord, BeaconConfig.fieldBytes]
    | _ => simp [setsTime] at h
  | _ => simp [setsTime] at h

/-- No other event touches the clock or its record. -/
theorem time_of_not_setsTime (h : d.setsTime e = false) :
    (d.step e).settings.config.timeOffset = d.settings.config.timeOffset ∧
      (d.step e).settings.timeRecord = d.settings.timeRecord := by
  by_cases hwrite : ∃ t buf, e = .write .timeOffset t buf
  · obtain ⟨t, buf, rfl⟩ := hwrite
    suffices hs : (d.step (.write .timeOffset t buf)).settings = d.settings by rw [hs]; exact ⟨rfl, rfl⟩
    simp only [setsTime, Bool.and_eq_false_iff, beq_eq_false_iff_ne] at h
    rcases h with (hauth | hallowed) | hlen
    · simp [step, handle, attWrite, writeAuthorize, hauth]
    · simp [step, handle, attWrite, chrcWrite, chrcWriteTimeOffset, gatedWrite, hallowed]
      split <;> rfl
    · simp [step, handle, attWrite, chrcWrite, chrcWriteTimeOffset, gatedWrite, onSettings, handleTimeOffsetWrite,
        handleBlock, hlen]
      split
      · split <;> rfl
      · rfl
  · have hother (ch : Chrc) (t : UInt32) (buf : List UInt8) (he : e = .write ch t buf) : ch ≠ .timeOffset :=
      fun hch => hwrite ⟨t, buf, hch ▸ he⟩
    refine ⟨?_, step_find (fun ch t buf he => ?_) (by simp)⟩
    · exact step_keeps (f := BeaconConfig.timeOffset) fun ch t buf he c s hs =>
        timeOffset_apply hs (hother ch t buf he)
    · have hne := hother ch t buf he
      cases ch <;> simp_all [Chrc.record]

end Device

namespace Recorder

variable {w w' : Recorder} {e : GattEvent} {uptime : UInt32}

/-- The record is what the last `store_time` left of the clock, or what a client has set since. -/
def Consistent (w : Recorder) : Prop :=
  ∀ uptime, w.saved = some uptime → w.device.settings.timeRecord = some (leBytes 8
    (if w.synced then w.device.settings.config.timeOffset
      else w.device.settings.config.getTime uptime).toUInt64.toNat)

theorem consistent_store : (w.store uptime).Consistent := by
  intro u hu
  cases hu
  simp [store, Device.storeTime, SettingsManager.saveTime, timeRecord]

theorem Consistent.event (h : w.Consistent) (e : GattEvent) : (w.event e).Consistent := by
  intro u hu
  cases hsets : w.device.setsTime e with
  | true => simpa [Recorder.event, hsets] using Device.timeRecord_of_setsTime hsets
  | false =>
    obtain ⟨hoffset, hrecord⟩ := Device.time_of_not_setsTime hsets
    have hold := h u hu
    simp only [Recorder.event, hsets, Bool.or_false, BeaconConfig.getTime, hoffset, hrecord]
    exact hold

/-- The record holds the time if no client has set it since, or if what was stored was the offset. -/
theorem Consistent.savedAtStop_iff (h : w.Consistent) :
    w.SavedAtStop ↔ w.saved.isSome ∧ (w.synced = false ∨ w.saved = some 0) := by
  have hinj (a b : Int64) : leBytes 8 a.toUInt64.toNat = leBytes 8 b.toUInt64.toNat ↔ a = b := by
    refine ⟨fun hab => ?_, fun hab => by rw [hab]⟩
    rw [← BeaconConfig.readInt64_leBytes a, hab, BeaconConfig.readInt64_leBytes]
  cases hsaved : w.saved with
  | none => simp [SavedAtStop, hsaved]
  | some u =>
    have hrecord := h u hsaved
    simp only [SavedAtStop, hsaved, hrecord, Option.some.injEq, hinj, exists_eq_left', Option.isSome_some, true_and]
    cases w.synced with
    | false => simp
    | true => simp [BeaconConfig.getTime, uptime_eq_zero_iff]

theorem Consistent.stop (h : w.Consistent) : w.stop.Consistent := h

/-! ## Powering off and rebooting -/

variable {p q : Hardware Unit} {b : Peripherals}

theorem Consistent.hardware_step {c : HardwareCall} {a : c.Ans} (h : w.Consistent)
    (hs : hardware.step w c a w') : w'.Consistent := by
  obtain ⟨-, hs⟩ := hs
  cases c with
  | wdtDisable | configureWake | accelPowerdown => cases hs; exact h
  | sysPoweroff | sysReboot => cases hs; exact h.stop
  | storeTime =>
    obtain ⟨uptime, rfl⟩ := hs
    exact consistent_store
  | sleepMs ms =>
    rcases hs with rfl | ⟨-, rfl⟩
    · exact h
    · exact h.stop

theorem Consistent.halts (h : w.Consistent) (hh : w.Halts p w') : w'.Consistent := by
  obtain ⟨-, q, hr⟩ := hh
  refine reaches_keeps (I := Consistent) ?_ (fun _ _ _ _ h hs => h.hardware_step hs) hr h
  rintro w _ h ⟨-, e, rfl⟩
  exact h.event e

/-- The first uptime of the tick, and the last one at which the time was stored, stay as they are. -/
def SameReadings (w w' : Recorder) : Prop := w'.first = w.first ∧ w'.saved = w.saved

/-- `power_off` does not store the time. -/
theorem Halts.sameReadings (h : w.Halts (ZephyrHardware.powerOff b) w') : SameReadings w w' := by
  obtain ⟨-, q, hr⟩ := h
  have hcalls : wp (free (· ≠ HardwareCall.storeTime) fun _ _ => True) (ZephyrHardware.powerOff b)
      (fun _ _ => True) () := by
    simp [ZephyrHardware.powerOff]
  refine reaches_keeps_of_free (I := SameReadings w) hcalls ?_ ?_ hr ⟨rfl, rfl⟩
  · rintro w₁ _ h ⟨-, e, rfl⟩
    exact h
  · rintro w₁ c a w₂ h hc ⟨-, hs⟩
    cases c with
    | storeTime => exact absurd rfl hc
    | sleepMs ms =>
      rcases hs with rfl | ⟨-, rfl⟩
      · exact h
      · exact h
    | _ => cases hs; exact h

/-- `reboot` stores the time before anything can stop it. -/
theorem Halts.stored (h : w.Halts ZephyrHardware.reboot w') (hrun : w.stopped = false) :
    w'.saved.isSome = true := by
  obtain ⟨hstop, q, hr⟩ := h
  let stored : World HardwareCall HardwareCall.Ans Recorder :=
    { hardware with allowed := fun w c => c = .storeTime ∨ w.saved.isSome = true }
  have hstays (w w' : Recorder) (h : w.saved.isSome = true) (hm : stored.move w w') : w'.saved.isSome = true := by
    obtain ⟨-, e, rfl⟩ := hm
    exact h
  have hstep (w : Recorder) (c : HardwareCall) (a : c.Ans) (w' : Recorder) (h : w.saved.isSome = true)
      (hs : stored.step w c a w') : w'.saved.isSome = true := by
    obtain ⟨-, hs⟩ := hs
    cases c with
    | storeTime =>
      obtain ⟨uptime, rfl⟩ := hs
      rfl
    | sleepMs ms =>
      rcases hs with rfl | ⟨-, rfl⟩
      · exact h
      · exact h
    | _ => cases hs; exact h
  obtain ⟨rest, hrest⟩ : ∃ rest : Hardware Unit,
      ZephyrHardware.reboot = (Prog.issue .storeTime >>= fun _ => rest) := ⟨_, rfl⟩
  have hfirst : wp stored ZephyrHardware.reboot (fun _ w => w.saved.isSome = true) w := by
    rw [hrest]
    refine wp_call_of_stable (I := fun _ => True) (J := fun w => w.saved.isSome = true) trivial
      (fun _ _ _ _ => trivial) (fun w _ => ?_) ?_
    · refine ⟨.inl rfl, ?_⟩
      rintro a w' ⟨-, uptime, rfl⟩
      rfl
    · exact fun _ w h => wp_invariant _ hstays (fun w c h => ⟨.inr h, fun a w' hs => hstep w c a w' h hs⟩) _ h
  refine reaches_keeps_of_allowed (E := stored) (I := fun w => w.stopped = true → w.saved.isSome = true) ?_ ?_
    hfirst (hr.allowing _) (fun h => absurd (hrun.symm.trans h) (by decide)) hstop
  · rintro w₁ _ h ⟨-, e, rfl⟩
    exact h
  · intro w₁ c a w₂ h hc hs
    rcases hc with rfl | hsaved
    · obtain ⟨-, uptime, rfl⟩ := hs
      exact fun _ => rfl
    · exact fun _ => hstep w₁ c a w₂ hsaved hs

/-! ## The calls of a tick -/

theorem Consistent.step {c : Call} {a : c.Ans} (h : w.Consistent) (hs : (recording b).step w c a w') :
    w'.Consistent := by
  obtain ⟨-, hs⟩ := hs
  cases c with
  | uptimeSeconds => cases hs; exact h
  | powerOff | reboot => exact h.halts hs
  | storeTime =>
    obtain ⟨uptime, rfl⟩ := hs
    exact consistent_store
  | glueSyncGattState =>
    obtain ⟨-, rfl⟩ := hs
    nofun
  | config | configKey =>
    obtain ⟨d, ⟨-, rfl⟩, rfl⟩ := hs
    exact h
  | updateTurnedOn on =>
    obtain ⟨d, rfl, rfl⟩ := hs
    exact fun u hu => (SettingsManager.find_save_of_ne (by decide)).trans (h u hu)
  | _ =>
    obtain ⟨d, rfl, rfl⟩ := hs
    exact h

theorem Consistent.move (h : w.Consistent) (hm : (recording b).move w w') : w'.Consistent := by
  obtain ⟨-, e, rfl⟩ := hm
  exact h.event e

/-- At every moment of a run. -/
theorem consistent_of_tick {nvs : Nvs} {s : StateMachine} {r : Main StateMachine}
    (h : Boundary (recording b) (initializeMachine {}) mainLoop (· = boot nvs) s w)
    (hr : Reaches (recording b) (mainLoop s, w) (r, w')) : w'.Consistent := by
  have hmove (w w' : Recorder) (h : w.Consistent) (hm : (recording b).move w w') : w'.Consistent := h.move hm
  have hcall (w : Recorder) (c : Call) (a : c.Ans) (w' : Recorder) (h : w.Consistent)
      (hs : (recording b).step w c a w') : w'.Consistent := h.step hs
  refine reaches_keeps hmove hcall hr (boundary_keeps ?_ hmove hcall h)
  rintro _ rfl
  nofun

end Recorder

/-! ## A tick -/

/-- Calls that the recorder does not follow. -/
@[simp] def Call.Unrecorded : Call → Prop
  | .uptimeSeconds | .powerOff | .reboot | .storeTime | .glueSyncGattState => False
  | _ => True

/-- Calls that cannot change what the save has decided. -/
@[simp] def Call.AfterSave : Call → Prop
  | .reboot | .storeTime | .glueSyncGattState => False
  | _ => True

namespace Recorder

/-- A tick that has not read the uptime yet. -/
structure Fresh (w : Recorder) : Prop where
  running : w.stopped = false
  first : w.first = none
  saved : w.saved = none

/-- The uptime has been read, and the time was stored if that was due. -/
structure Decided (s : StateMachine) (w : Recorder) : Prop where
  first : w.first.isSome = true
  saved : w.saved.isSome = true ↔ w.SaveDue s

theorem Decided.same {s : StateMachine} {w w' : Recorder} (h : w.Decided s) (hw : SameReadings w w') :
    w'.Decided s := by
  obtain ⟨hfirst, hsaved⟩ := hw
  refine ⟨hfirst ▸ h.first, ?_⟩
  rw [hsaved, SaveDue, hfirst]
  exact h.saved

end Recorder

section

variable {b : Peripherals} {s s₀ : StateMachine} {w w' : Recorder}

theorem Recorder.Next.unrecorded {c : Call} {a : c.Ans} (hs : w.Next b c a w') (hc : c.Unrecorded) :
    ∃ d, w' = { w with device := d } := by
  cases c with
  | uptimeSeconds | powerOff | reboot | storeTime | glueSyncGattState => exact hc.elim
  | _ =>
    obtain ⟨d, -, rfl⟩ := hs
    exact ⟨d, rfl⟩

theorem Recorder.Fresh.move (h : w.Fresh) (hm : (recording b).move w w') : w'.Fresh := by
  obtain ⟨-, e, rfl⟩ := hm
  exact ⟨h.running, h.first, h.saved⟩

theorem Recorder.Decided.move (h : w.Decided s) (hm : (recording b).move w w') : w'.Decided s := by
  obtain ⟨-, e, rfl⟩ := hm
  exact h.same ⟨rfl, rfl⟩

theorem Recorder.Decided.next {c : Call} {a : c.Ans} (h : w.Decided s) (hs : w.Next b c a w') (hc : c.AfterSave) :
    w'.Decided s := by
  refine h.same ?_
  cases c with
  | reboot | storeTime | glueSyncGattState => exact hc.elim
  | uptimeSeconds =>
    obtain ⟨now, hnow⟩ := Option.isSome_iff_exists.1 h.first
    rw [hs]
    exact ⟨by simp [hnow], rfl⟩
  | powerOff => exact Halts.sameReadings hs
  | _ =>
    obtain ⟨d, -, rfl⟩ := hs
    exact ⟨rfl, rfl⟩

/-- A tick begins when the flags are copied. -/
theorem syncGattState_fresh : wp (recording b) (syncGattState s) (fun _ w => w.Fresh) w := by
  refine wp_call_of_stable (I := fun _ => True) (J := Recorder.Fresh) trivial (fun _ _ _ _ => trivial)
    (fun w _ => ⟨trivial, ?_⟩) fun f w₁ h₁ => wp_ret_of_stable h₁ fun _ _ h hm => h.move hm
  rintro f _ ⟨hrun, -, rfl⟩
  exact ⟨hrun, rfl, rfl⟩

theorem tickSleep_fresh (h : w.Fresh) : wp (recording b) (tickSleep s) (fun _ w => w.Fresh) w := by
  have hcalls : wp (free Call.Unrecorded fun _ _ => True) (tickSleep s) (fun _ _ => True) () := by
    simp [tickSleep]
  refine wp_mono (fun _ _ h => h.2) (wp_frame hcalls Recorder.Fresh (fun _ _ h hm => h.move hm) ?_ h)
  refine fun w c hc h => ⟨trivial, fun a w' hs => ⟨trivial, ?_⟩⟩
  obtain ⟨d, rfl⟩ := hs.2.unrecorded hc
  exact ⟨h.running, h.first, h.saved⟩

/-- The way out of the settings stops the device by `reboot` alone. -/
theorem handleSettingsModeExit_stored (h : w.stopped = false) : wp (recording b) (handleSettingsModeExit s)
    (fun _ w => w.stopped = true → w.saved.isSome = true) w := by
  have hcalls : wp (free (· ≠ Call.powerOff) fun _ _ => True) (handleSettingsModeExit s) (fun _ _ => True) () := by
    have hupload (u : Unit) :
        wp (free (· ≠ Call.powerOff) fun _ _ => True) (firmwareUpload s) (fun _ _ => True) u :=
      wp_mono (fun _ _ _ => trivial) (firmwareUpload_free (by simp))
    simp [handleSettingsModeExit, leaveSettings, restoreMac, ibeaconFallback, hupload]
  refine wp_mono (fun _ _ h => h.2) (wp_frame hcalls (fun w => w.stopped = true → w.saved.isSome = true) ?_ ?_ ?_)
  · rintro w _ h ⟨-, e, rfl⟩
    exact h
  · refine fun w c hc _ => ⟨trivial, fun a w' hs => ⟨trivial, fun hstop => ?_⟩⟩
    obtain ⟨hrun, hs⟩ := hs
    cases c with
    | powerOff => exact absurd rfl hc
    | reboot => exact Recorder.Halts.stored hs hrun
    | storeTime =>
      obtain ⟨uptime, rfl⟩ := hs
      rfl
    | uptimeSeconds =>
      cases hs
      exact absurd (hrun.symm.trans hstop) (by decide)
    | _ =>
      obtain ⟨d, -, rfl⟩ := hs
      exact absurd (hrun.symm.trans hstop) (by decide)
  · exact fun hstop => absurd (h.symm.trans hstop) (by decide)

theorem uptimeSeconds_first (h : w.Fresh) :
    wp (recording b) (issue .uptimeSeconds) (fun now w => w.first = some now ∧ w.saved = none) w := by
  intro w₁ hm
  have h₁ : w₁.Fresh := World.Moves.keeps (fun _ _ h hm => h.move hm) hm h
  refine ⟨trivial, fun now w₂ hs => wp_ret_of_stable ?_ ?_⟩
  · have hw₂ : w₂ = { w₁ with first := w₁.first.or (some now) } := hs.2
    rw [hw₂, h₁.first]
    exact ⟨rfl, h₁.saved⟩
  · rintro w _ h ⟨-, e, rfl⟩
    exact h

/-- The hourly save. -/
theorem handleTimeSave_decided (h : w.Fresh) (hs : s.timers = s₀.timers) :
    wp (recording b) (handleTimeSave s) (fun _ w => w.Decided s₀) w := by
  have hret {s' : StateMachine} {w : Recorder} (h : w.Decided s₀) :
      wp (recording b) (pure s' : Main StateMachine) (fun _ w => w.Decided s₀) w :=
    wp_ret_of_stable h fun _ _ h hm => h.move hm
  refine wp_seq (uptimeSeconds_first h) ?_
  intro now w₁ hread
  have hfirst : w₁.first = some now := hread.1
  have hsaved : w₁.saved = none := hread.2
  rw [hs, wp_ite]
  constructor
  · intro hdue
    refine wp_call_of_stable (I := fun w => w.first = some now) (J := fun w => w.Decided s₀) hfirst ?_ ?_
      fun _ _ h => hret h
    · rintro w _ h ⟨-, e, rfl⟩
      exact h
    · refine fun w h => ⟨trivial, fun _ _ hnext => ?_⟩
      obtain ⟨uptime, rfl⟩ := hnext.2
      have hstore : (w.store uptime).first = some now := h
      exact ⟨by rw [hstore]; rfl, fun _ => ⟨now, hstore, hdue⟩, fun _ => rfl⟩
  · intro hnot
    refine hret ⟨by rw [hfirst]; rfl, fun hsome => ?_, ?_⟩
    · rw [hsaved] at hsome
      cases hsome
    · rintro ⟨now', hnow, hdue⟩
      have heq : now = now' := Option.some.inj (hfirst.symm.trans hnow)
      exact absurd (heq ▸ hdue) hnot

/-! ## After the save -/

abbrev afterSave : World Call Call.Ans Unit := free Call.AfterSave fun _ _ => True

theorem wp_decided {α : Type} {p : Main α} (hp : wp afterSave p (fun _ _ => True) ()) (h : w.Decided s₀) :
    wp (recording b) p (fun _ w => w.Decided s₀) w := by
  refine wp_mono (fun _ _ h => h.2) (wp_frame hp (Recorder.Decided s₀) (fun _ _ h hm => h.move hm) ?_ h)
  exact fun w c hc h => ⟨trivial, fun a w' hs => ⟨trivial, h.next hs.2 hc⟩⟩

variable {u : Unit}

theorem broadcast_afterSave : wp afterSave (broadcast s) (fun _ _ => True) u := by
  simp [broadcast]

theorem handleBatteryCheck_afterSave : wp afterSave (handleBatteryCheck s) (fun _ _ => True) u := by
  simp [handleBatteryCheck, updateBattery, updateStatus, broadcast_afterSave]

theorem handleUvloShutdown_afterSave : wp afterSave (handleUvloShutdown s) (fun _ _ => True) u := by
  simp [handleUvloShutdown]

theorem handleNokeysShutdown_afterSave : wp afterSave (handleNokeysShutdown s) (fun _ _ => True) u := by
  simp [handleNokeysShutdown]

theorem handleSettingsModeEntry_afterSave : wp afterSave (handleSettingsModeEntry s) (fun _ _ => True) u := by
  simp [handleSettingsModeEntry, useSettingsMac]

theorem handleMaxPowerBurst_afterSave : wp afterSave (handleMaxPowerBurst s) (fun _ _ => True) u := by
  simp [handleMaxPowerBurst]

theorem handleKeyRotation_afterSave : wp afterSave (handleKeyRotation s) (fun _ _ => True) u := by
  simp [handleKeyRotation, setMacFromCurrentKey, broadcast_afterSave]

theorem handleButtonLongpress_afterSave : wp afterSave (handleButtonLongpress s) (fun _ _ => True) u := by
  simp [handleButtonLongpress, waitButtonRelease_free (P := Call.AfterSave) trivial trivial trivial]

theorem handleAccelerometer_afterSave : wp afterSave (handleAccelerometer s) (fun _ _ => True) u := by
  simp [handleAccelerometer]

theorem tickBroadcast_afterSave : wp afterSave (tickBroadcast s) (fun _ _ => True) u := by
  simp [tickBroadcast, handleInitialBroadcast, handleAirtagFmdnAlternation, broadcast_afterSave]

theorem recording_duties : DutiesRule (recording b) (fun _ w => w.Decided s₀) (fun _ w => w.Decided s₀) where
  uptime h _ := wp_decided (by simp) h
  entry h _ := wp_decided handleSettingsModeEntry_afterSave h
  burst h _ := wp_decided handleMaxPowerBurst_afterSave h
  rotation h _ := wp_decided handleKeyRotation_afterSave h
  button h _ := wp_decided handleButtonLongpress_afterSave h
  accelerometer h _ := wp_decided handleAccelerometer_afterSave h
  broadcast h _ := wp_decided tickBroadcast_afterSave h

theorem tickBroadcasting_decided (h : w.Fresh) (hs : Broadcasting s) (htimers : s.timers = s₀.timers) :
    wp (recording b) (tickBroadcasting s) (fun _ w => w.Decided s₀) w :=
  recording_duties.tickBroadcasting (fun h => h) (handleTimeSave_decided h htimers)
    (fun h _ => wp_decided handleBatteryCheck_afterSave h) (fun h _ => wp_decided handleUvloShutdown_afterSave h)
    (fun h _ => wp_decided handleNokeysShutdown_afterSave h) (fun _ _ _ h hm => h.move hm) hs

/-- A tick that stops the device has stored the time if it is one of the settings, or if the save was due. -/
theorem mainLoop_stops (hs : s.state ≠ .initializing) : wp (recording b) (mainLoop s) (fun _ w' =>
    w'.stopped = true → (w'.saved.isSome = true ↔
      (s.state = .settingsMode ∨ s.broadcastingSettings = true) ∨ w'.SaveDue s)) w := by
  refine wp_seq (wp_mode syncGattState_fresh syncGattState_calls) ?_
  rintro s₁ w₁ ⟨h₁, f, hs₁⟩
  have hstate₁ : s₁.state = s.state := by rw [hs₁]
  have hsettings₁ : s₁.broadcastingSettings = s.broadcastingSettings := by rw [hs₁]
  by_cases hend : s₁.state = .shuttingDown ∨ s₁.state = .firmwareUpload
  · rw [tick_of_ended hend]
    have hfresh : wp (recording b) (pure s₁ : Main StateMachine) (fun _ w => w.Fresh) w₁ :=
      wp_ret_of_stable h₁ fun _ _ h hm => h.move hm
    exact wp_mono (fun _ _ h hstop => absurd (h.running.symm.trans hstop) (by decide)) hfresh
  rw [tick_of_running hend]
  refine wp_seq (wp_mode (tickSleep_fresh h₁) (tickSleep_calls Policy.any_sound)) ?_
  rintro s₂ w₂ ⟨h₂, n, -, hs₂⟩
  have hstate₂ : s₂.state = s.state := by rw [hs₂]; exact hstate₁
  have hsettings₂ : s₂.broadcastingSettings = s.broadcastingSettings := by rw [hs₂]; exact hsettings₁
  rw [wp_ite, hstate₂, hsettings₂]
  constructor
  · intro hmode
    refine wp_mono (fun _ w h hstop => ?_) (handleSettingsModeExit_stored h₂.running)
    exact ⟨fun _ => .inl hmode, fun _ => h hstop⟩
  · intro hmode
    rw [← hstate₂] at hs
    rw [hstate₁, ← hstate₂] at hend
    rw [← hstate₂, ← hsettings₂] at hmode
    have hmodes : Broadcasting s₂ := broadcasting_of_running hs hend hmode
    have hdecided : wp (recording b) (tickBroadcasting s₂) (fun _ w => w.Decided s) w₂ :=
      tickBroadcasting_decided h₂ hmodes (by rw [hs₂, hs₁])
    refine wp_mono (fun _ w h _ => ?_) hdecided
    rw [← hstate₂, ← hsettings₂]
    exact h.saved.trans ⟨.inr, fun h => h.resolve_left hmode⟩

end

/-- In whatever tick the device stops: the record is that of the clock if and only if the tick is one of the settings,
whose only stop is `reboot`, or the hourly save was due at its head, and no client has set the time since it was
stored, or it was stored at uptime zero. -/
theorem clock_saved_iff (b : Peripherals) {nvs : Nvs} {s s' : StateMachine} {w w' : Recorder}
    (h : Boundary (recording b) (initializeMachine {}) mainLoop (· = .boot nvs) s w)
    (hr : Reaches (recording b) (mainLoop s, w) (.ret s', w')) (hstop : w'.stopped = true) :
    w'.SavedAtStop ↔ ((s.state = .settingsMode ∨ s.broadcastingSettings = true) ∨ w'.SaveDue s) ∧
      (w'.synced = false ∨ w'.saved = some 0) := by
  have hstart : s.state ≠ .initializing :=
    boundary_inv (I := fun s _ => s.state ≠ .initializing)
      (fun w _ => wp_of_calls (fun _ _ => trivial) initializeMachine_started)
      (fun s w h => wp_of_calls (fun _ _ => trivial) (mainLoop_started h)) h
  have hstored := wp_value (wp_reaches (mainLoop_stops (b := b) (w := w) hstart) hr) hstop
  rw [(Recorder.consistent_of_tick h hr).savedAtStop_iff, hstored]

/-! ## A device without keys -/

/-- `power_off` with no event during it. -/
theorem powerOff_halts (b : Peripherals) {w : Recorder} (h : w.stopped = false) :
    w.Halts (ZephyrHardware.powerOff b) { w with watchdog := false, stopped := true } := by
  let serve (w : Recorder) (c : HardwareCall) : Option (c.Ans × Recorder) :=
    if w.stopped then none
    else match c with
      | .wdtDisable => some ((), { w with watchdog := false })
      | .configureWake | .accelPowerdown => some ((0 : Int), w)
      | .sleepMs _ => some ((), w)
      | .sysPoweroff => some ((), w.stop)
      | .storeTime | .sysReboot => none
  have hserve (w : Recorder) (c : HardwareCall) (x : c.Ans × Recorder) (hx : serve w c = some x) :
      hardware.step w c x.1 x.2 := by
    simp only [serve] at hx
    split at hx
    · cases hx
    · refine ⟨by simpa using ‹¬ w.stopped = true›, ?_⟩
      cases c with
      | storeTime | sysReboot => cases hx
      | sleepMs ms => cases hx; exact .inl rfl
      | _ => cases hx; rfl
  refine ⟨rfl, .ret (), reaches_of_play hserve ?_⟩
  cases b with
  | mk button accelerometer => cases button <;> cases accelerometer <;>
    simp [ZephyrHardware.powerOff, serve, h, Recorder.stop]

/-- The answers at an uptime, with no event in between. -/
def Recorder.serve (now : UInt32) (w : Recorder) (c : Call) : Option (c.Ans × Recorder) :=
  if w.stopped then none
  else match c with
    | .uptimeSeconds => some (now, { w with first := w.first.or (some now) })
    | .powerOff => some ((), { w with watchdog := false, stopped := true })
    | .storeTime => some ((), w.store now)
    | .glueSyncGattState =>
      some (⟨w.device.gatt.connectedGatt, w.device.gatt.authorizedGatt, w.device.gatt.pauseUpload,
        w.device.gatt.needsReset⟩, { w with first := none, saved := none, synced := false })
    | .reboot | .configKey _ | .setTurnedOn _ | .updateTurnedOn _ | .startSettingsAdv => none
    | c => some (answers w.device.settings.config now 3000 c, w)

theorem recording_step_serve {b : Peripherals} {now : UInt32} (w : Recorder) (c : Call) (x : c.Ans × Recorder)
    (hx : w.serve now c = some x) : (recording b).step w c x.1 x.2 := by
  unfold Recorder.serve at hx
  split at hx
  · cases hx
  · have hrun : w.stopped = false := by simpa using ‹¬ w.stopped = true›
    refine ⟨hrun, ?_⟩
    cases c with
    | uptimeSeconds => cases hx; rfl
    | powerOff => cases hx; exact powerOff_halts b hrun
    | storeTime => cases hx; exact ⟨now, rfl⟩
    | glueSyncGattState => cases hx; exact ⟨⟨rfl, rfl⟩, rfl⟩
    | config => cases hx; exact ⟨w.device, ⟨rfl, rfl⟩, rfl⟩
    | reboot | configKey | setTurnedOn | updateTurnedOn | startSettingsAdv => cases hx
    | _ => cases hx; exact ⟨w.device, rfl, rfl⟩

/-- The flash of a device that has been turned on, and nothing else. -/
def keylessNvs : Nvs := ⟨[(NvsFieldId.turnedOn.id, BeaconConfig.boolBytes true)]⟩

/-- With its first tick after an hour, it stores the time before it powers off. -/
theorem clock_saved_due : ∃ s s' w w',
    Boundary (recording ⟨true, true⟩) (initializeMachine {}) mainLoop (· = .boot keylessNvs) s w ∧
      Reaches (recording ⟨true, true⟩) (mainLoop s, w) (.ret s', w') ∧ w'.stopped = true ∧
      w'.SavedAtStop := by
  obtain ⟨x, hx, y, hy, hstop, hfirst, hsave, hsynced⟩ :
      ∃ x ∈ (initializeMachine {}).play (Recorder.serve 3600) (.boot keylessNvs),
      ∃ y ∈ (mainLoop x.1).play (Recorder.serve 3600) x.2, y.2.stopped = true ∧ y.2.first = some 3600 ∧
        x.1.timers.timeSave = 0 ∧ y.2.synced = false := by decide +kernel
  have hboot :
      Boundary (recording ⟨true, true⟩) (initializeMachine {}) mainLoop (· = .boot keylessNvs) x.1 x.2 :=
    .start rfl (reaches_of_play recording_step_serve hx)
  have htick : Reaches (recording ⟨true, true⟩) (mainLoop x.1, x.2) (.ret y.1, y.2) :=
    reaches_of_play recording_step_serve hy
  have hdue : y.2.SaveDue x.1 := ⟨3600, hfirst, by rw [hsave]; decide⟩
  refine ⟨x.1, y.1, x.2, y.2, hboot, htick, hstop, ?_⟩
  exact (clock_saved_iff ⟨true, true⟩ hboot htick hstop).2 ⟨.inr hdue, .inl hsynced⟩

/-- With its first tick after five minutes, it powers off without. -/
theorem clock_not_saved :
    ¬ ∀ (b : Peripherals) (nvs : Nvs) (s s' : StateMachine) (w w' : Recorder),
      Boundary (recording b) (initializeMachine {}) mainLoop (· = .boot nvs) s w →
      Reaches (recording b) (mainLoop s, w) (.ret s', w') → w'.stopped = true → w'.SavedAtStop := by
  obtain ⟨x, hx, y, hy, hstop, hsaved⟩ :
      ∃ x ∈ (initializeMachine {}).play (Recorder.serve 301) (.boot keylessNvs),
      ∃ y ∈ (mainLoop x.1).play (Recorder.serve 301) x.2, y.2.stopped = true ∧ y.2.saved = none := by
    decide +kernel
  intro h
  obtain ⟨uptime, hstored, -⟩ := h ⟨true, true⟩ keylessNvs x.1 y.1 x.2 y.2
    (.start rfl (reaches_of_play recording_step_serve hx)) (reaches_of_play recording_step_serve hy) hstop
  cases hsaved.symm.trans hstored

end Everytag
