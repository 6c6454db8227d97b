import Everytag.Ledger
import Everytag.TimeSaved
import Everytag.TimeArithmetic
import Everytag.SaveAge
import Everytag.FlashWear

/-!
# How far the clock falls behind

A reset takes the clock back to what the flash holds: the time of the last save, or the offset that a client has
set since, which is the time at which the boot began.  `timekeeping` is the device with its clock and the age of
its saved time, and `truth` follows the time as a client has told it, over any number of resets.  The ages come
from `ageing`, which `timekeeping` follows; what the flash holds is an invariant, `Clocked.Right`.
-/

namespace Everytag

open Interaction StateMachine BeaconConfig Bytes SettingsManager

/-- `k_uptime_seconds` after so many milliseconds. -/
def uptimeAt (ms : Nat) : UInt32 := .ofNat (ms / 1000)

/-- A device, with what its clock should show. -/
structure Clocked where
  device : Device
  age : Age := {}
  /-- a client has set the time since the last save -/
  synced : Bool := false
  /-- what the clock should have shown at uptime zero -/
  truth : Int64
  /-- seconds that it may have lost since a client has set it -/
  lost : Nat
deriving DecidableEq, Repr

namespace Clocked

/-- `main` after the settings are loaded. -/
def boot (nvs : Nvs) (truth : Int64) (lost : Nat) : Clocked := { device := .boot nvs, truth, lost }

/-- A client that sets the time tells it. -/
def event (w : Clocked) (e : GattEvent) : Clocked :=
  match w.device.setsTime e, e with
  | true, .write _ uptime buf =>
    { w with
      device := w.device.step e, synced := true,
      truth := readInt64 buf - uptime.toUInt64.toInt64, lost := 0 }
  | _, _ => { w with device := w.device.step e }

def run (w : Clocked) (es : List GattEvent) : Clocked := es.foldl event w

/-- `store_time` -/
def store (w : Clocked) : Clocked :=
  { w with device := w.device.storeTime (uptimeAt w.age.time), age := w.age.save, synced := false }

def pass (w : Clocked) (ms : Nat) : Clocked := { w with age := w.age.pass ms }

def off (w : Clocked) : Clocked := { w with age := w.age.off }

/-- The seconds that a reset now would lose. -/
def reset (w : Clocked) : Nat :=
  if w.synced then w.age.time / 1000 else 3617 + (w.age.held + 999) / 1000

end Clocked

namespace Clocked

/-- What a call of `power_off` or `reboot` does. -/
def act (w : Clocked) : HardwareCall → Clocked
  | .storeTime => w.store
  | .sysPoweroff | .sysReboot => w.off
  | c => w.pass c.lasts

end Clocked

/-- The two functions that do not return, with events before each of their calls.  Each call can be the last. -/
def stopping : World HardwareCall HardwareCall.Ans Clocked where
  allowed _ _ := True
  step w c _ w' := w.age.on = true ∧ ∃ es, w' = (w.run es).act c ∨ ∃ ms ≤ c.lasts, w' = ((w.run es).pass ms).off
  move _ _ := False

namespace Clocked

/-- The function, or a loss of power in it, has stopped the device. -/
def Halts (w : Clocked) (p : Hardware Unit) (w' : Clocked) : Prop :=
  w'.age.on = false ∧ ∃ q, Reaches stopping (p, w) (q, w')

/-- What a call leaves. -/
def Next (b : Peripherals) (w : Clocked) : (c : Call) → c.Ans → Clocked → Prop
  | .storeTime, _, w' => w' = w.store
  | .powerOff, _, w' => w.Halts (ZephyrHardware.powerOff b) w'
  | .reboot, _, w' => w.Halts ZephyrHardware.reboot w'
  | c, a, w' => ∃ d age, w.device.Serves c a d ∧ w.age.Done c a age ∧ w' = { w with device := d, age := age }

/-- The power is lost in a call. -/
def Cut (w : Clocked) (c : Call) (a : c.Ans) (w' : Clocked) : Prop :=
  (∃ d, w.device.Serves c a d) ∧ ∃ ms ≤ c.lasts, w' = (w.pass ms).off

end Clocked

/-- The main loop, with any events before each of its calls, until the uptime comes near the end of its range. -/
def timekeeping (b : Peripherals) : World Call Call.Ans Clocked where
  allowed _ _ := True
  step w c a w' := w.age.on = true ∧ w'.age.time / 1000 < 4294960096 ∧
    ∃ es, (w.run es).Next b c a w' ∨ (w.run es).Cut c a w'
  move _ _ := False

/-- Lives of a device, each ended by a reset at any moment, a loss of power among them: the flash content that they
leave, what the clock should show then, in whole seconds of each life, and the seconds that it may have lost. -/
inductive Lives (b : Peripherals) : Nvs → Int64 → Nat → Prop
  | new {nvs : Nvs} : Lives b nvs (load nvs.read).timeOffset 0
  | reset {nvs : Nvs} {truth : Int64} {lost : Nat} {p : Main StateMachine} {w : Clocked} :
      Lives b nvs truth lost →
      During (timekeeping b) (initializeMachine {}) mainLoop (· = .boot nvs truth lost) p w →
      Lives b w.device.settings.nvs (w.truth + (uptimeAt w.age.time).toUInt64.toInt64) (w.lost + w.reset)

section

variable {b : Peripherals} {w w' : Clocked} {e : GattEvent} {es : List GattEvent} {a x : Age} {ms n : Nat}

/-! ## The age of the saved time -/

@[simp] theorem Clocked.device_event : (w.event e).device = w.device.step e := by
  unfold Clocked.event
  split <;> rfl

@[simp] theorem Clocked.age_event : (w.event e).age = w.age := by
  unfold Clocked.event
  split <;> rfl

@[simp] theorem Clocked.device_run : (w.run es).device = w.device.run es := by
  induction es generalizing w with
  | nil => rfl
  | cons e es ih =>
    rw [Device.run_cons, ← device_event]
    exact ih

@[simp] theorem Clocked.age_run : (w.run es).age = w.age := by
  induction es generalizing w with
  | nil => rfl
  | cons e es ih => exact ih.trans age_event

theorem Age.pass_zero : a.pass 0 = a := by
  simp

theorem Age.pass_pass : (a.pass ms).pass n = a.pass (ms + n) := by
  simp only [Age.pass]
  split <;> simp [Nat.add_assoc]

/-- What a call of the two functions makes of the age. -/
def Age.act (a : Age) : HardwareCall → Age
  | .storeTime => a.save
  | .sysPoweroff | .sysReboot => a.off
  | c => a.pass c.lasts

theorem Clocked.age_act (c : HardwareCall) : (w.act c).age = w.age.act c := by
  cases c <;> rfl

/-- The calls of a function that may leave the device stopped with these ages. -/
def stoppingWith (Stopped : Age → Prop) : World HardwareCall HardwareCall.Ans Clocked :=
  { stopping with allowed := fun w c => w.age.on = true → ∀ ms ≤ c.lasts, Stopped (w.age.pass ms).off }

instance {Stopped : Age → Prop} : (stoppingWith Stopped).Sequential := ⟨fun _ _ h => h⟩

theorem Clocked.Halts.stopped {P : Age → Prop} {p : Hardware Unit} (h : w.Halts p w')
    (hp : wp (stoppingWith P) p (fun _ _ => True) w) (hon : w.age.on = true) : P w'.age := by
  obtain ⟨hoff, q, hr⟩ := h
  refine reaches_keeps_of_allowed (E := stoppingWith P) (I := fun w => w.age.on = false → P w.age)
    (fun _ _ _ hm => hm.elim) (fun w c _ w' _ hc hs hoff => ?_) hp (hr.allowing _)
    (fun hoff => absurd (hon.symm.trans hoff) (by decide)) hoff
  obtain ⟨hon, es, rfl | ⟨ms, hms, rfl⟩⟩ := hs
  · have hlast : P w.age.off := by
      have h := hc hon 0 (Nat.zero_le _)
      rwa [Age.pass_zero] at h
    rw [age_act, age_run] at hoff ⊢
    cases c with
    | sysPoweroff | sysReboot => exact hlast
    | _ => exact absurd (hon.symm.trans hoff) (by decide)
  · show P ((w.run es).age.pass ms).off
    rw [age_run]
    exact hc hon ms hms

theorem wp_act {α : Type} {Stopped : Age → Prop} {c : HardwareCall} {k : c.Ans → Hardware α}
    {Q : α → Clocked → Prop} (hw : w.age.on = true → w.age = x) (hc : ∀ ms ≤ c.lasts, Stopped (x.pass ms).off)
    (hk : ∀ r w', (w'.age.on = true → w'.age = x.act c) → wp (stoppingWith Stopped) (k r) Q w') :
    wp (stoppingWith Stopped) (Prog.issue c >>= k) Q w := by
  refine wp_call _ (fun hon => ?_) ?_
  · rw [hw hon]
    exact hc
  · rintro r w' ⟨hon, es, rfl | ⟨ms, -, rfl⟩⟩
    · refine hk r _ fun _ => ?_
      rw [Clocked.age_act, Clocked.age_run, hw hon]
    · exact hk r _ fun hoff => by cases hoff

/-- A call that is compiled in or not, and takes no time. -/
theorem wp_optional {α : Type} {Stopped : Age → Prop} {used : Bool} {c : HardwareCall} {p : Hardware α}
    {Q : α → Clocked → Prop} (hw : w.age.on = true → w.age = x) (hc : x.act c = x.pass 0) (hlasts : c.lasts = 0)
    (hx : Stopped x.off) (hp : ∀ w', (w'.age.on = true → w'.age = x) → wp (stoppingWith Stopped) p Q w') :
    wp (stoppingWith Stopped) (if used then platform c >>= fun _ => p else p) Q w := by
  rw [wp_ite]
  refine ⟨fun _ => ?_, fun _ => hp w hw⟩
  refine wp_act hw (fun ms hms => ?_) ?_
  · rw [hlasts] at hms
    rwa [Nat.le_zero.1 hms, Age.pass_zero]
  · intro _ w' hw'
    exact hp w' fun hon => by rw [hw' hon, hc, Age.pass_zero]

/-- `power_off` takes half a second. -/
theorem powerOff_stopped (h : w.Halts (ZephyrHardware.powerOff b) w') (hon : w.age.on = true) :
    ∃ ms ≤ 500, w'.age = (w.age.pass ms).off := by
  let Stopped (x : Age) : Prop := ∃ ms ≤ 500, x = (w.age.pass ms).off
  have hnow : Stopped w.age.off := ⟨0, Nat.zero_le _, by rw [Age.pass_zero]⟩
  refine Clocked.Halts.stopped (P := Stopped) h ?_ hon
  refine wp_act (fun _ => rfl) (fun ms hms => ⟨ms, hms.trans (Nat.zero_le _), rfl⟩) ?_
  intro _ w₁ h₁
  refine wp_optional (fun hon => (h₁ hon).trans Age.pass_zero) rfl rfl hnow ?_
  intro w₂ h₂
  refine wp_optional h₂ rfl rfl hnow ?_
  intro w₃ h₃
  refine wp_act h₃ (fun ms hms => ⟨ms, hms, rfl⟩) ?_
  intro _ w₄ h₄
  refine (wp_issue _ _ _ _).2 ⟨fun hon ms hms => ⟨500, le_refl 500, ?_⟩, fun _ _ _ => trivial⟩
  rw [h₄ hon, Nat.le_zero.1 hms, Age.pass_zero]
  rfl

/-- After `k` rounds of `reboot`. -/
def Age.rounds (a : Age) : Nat → Age
  | 0 => a
  | k + 1 => (a.rounds k).save.pass 1000

theorem Age.save_rounds (k : Nat) : (a.rounds k).save = (a.pass (1000 * k)).save := by
  induction k with
  | zero => simp [rounds]
  | succ k ih =>
    rw [rounds, ih]
    simp [Nat.mul_succ, Nat.add_assoc]

/-- `reboot` lets the device stop after a save of each of its rounds, or before the first one. -/
theorem reboot_stopped (h : w.Halts ZephyrHardware.reboot w') (hon : w.age.on = true) :
    w.age.Done .reboot () w'.age ∨ w.age.Cut .reboot w'.age := by
  let Stopped (x : Age) : Prop := w.age.Done .reboot () x ∨ w.age.Cut .reboot x
  have hsaved {k ms : Nat} (hk : k < 8) (hms : ms ≤ 2000) : Stopped (((w.age.rounds k).save.pass ms).off) :=
    .inl ⟨k, hk, ms, hms, by rw [Age.save_rounds]⟩
  have hrounds (k : Nat) (hk : k ≤ 8) : Stopped (w.age.rounds k).off := by
    cases k with
    | zero => exact .inr ⟨0, Nat.zero_le _, by rw [Age.pass_zero]; rfl⟩
    | succ k => exact hsaved hk (by decide)
  have hloop (n k : Nat) {w₁ : Clocked} (hk : k + n = 8) (h₁ : w₁.age.on = true → w₁.age = w.age.rounds k) :
      wp (stoppingWith Stopped) (ZephyrHardware.rebootRounds n)
        (fun _ w' => w'.age.on = true → w'.age = w.age.rounds 8) w₁ := by
    induction n generalizing k w₁ with
    | zero => exact (wp_pure _ _ _ _).2 (hk ▸ h₁)
    | succ n ih =>
      refine wp_act h₁ (fun ms hms => ?_) ?_
      · rw [Nat.le_zero.1 hms, Age.pass_zero]
        exact hrounds k (by omega)
      intro _ w₂ h₂
      refine wp_act h₂ (fun ms hms => hsaved (by omega) (hms.trans (by decide))) ?_
      intro _ w₃ h₃
      exact ih (k + 1) (by omega) h₃
  refine Clocked.Halts.stopped (P := Stopped) h ?_ hon
  refine wp_seq (hloop 8 0 rfl fun _ => rfl) ?_
  intro _ w₁ h₁
  have hlast {ms : Nat} (hms : ms ≤ 1000) : Stopped ((w.age.rounds 8).pass ms).off := by
    rw [Age.rounds, Age.pass_pass]
    exact hsaved (by decide) (by omega)
  refine wp_act h₁ (fun ms hms => hlast hms) ?_
  intro _ w₂ h₂
  refine (wp_issue _ _ _ _).2 ⟨fun hon ms hms => ?_, fun _ _ _ => trivial⟩
  rw [h₂ hon, Nat.le_zero.1 hms, Age.pass_zero]
  exact hlast (le_refl 1000)

/-! ## The clock and its record -/

theorem Device.Serves.time {d d' : Device} {c : Call} {r : c.Ans} (h : d.Serves c r d') (hstore : c ≠ .storeTime)
    (hreboot : c ≠ .reboot) : d'.settings.config.timeOffset = d.settings.config.timeOffset ∧
      d'.settings.timeRecord = d.settings.timeRecord := by
  cases c with
  | storeTime => exact absurd rfl hstore
  | reboot => exact absurd rfl hreboot
  | config | configKey | glueSyncGattState =>
    obtain ⟨-, rfl⟩ := h
    exact ⟨rfl, rfl⟩
  | updateTurnedOn on =>
    cases h
    exact ⟨rfl, SettingsManager.find_save_of_ne (by decide)⟩
  | _ =>
    cases h
    exact ⟨rfl, rfl⟩

theorem load_timeOffset_congr {n n' : Nvs}
    (h : n.find NvsFieldId.timeOffset.id = n'.find NvsFieldId.timeOffset.id) :
    (load n.read).timeOffset = (load n'.read).timeOffset := by
  have hbytes := fieldBytes_load_of_find_eq (f := .timeOffset) h
  rw [← readInt64_leBytes (load n.read).timeOffset, ← readInt64_leBytes (load n'.read).timeOffset]
  exact congrArg readInt64 hbytes

/-- A load now would find the clock as it was at the last save, or the offset that a client has set since; and
the clock is not too far behind. -/
structure Clocked.Right (w : Clocked) : Prop where
  sound : w.device.Sound
  record : (load w.device.settings.nvs.read).timeOffset =
    w.device.settings.config.getTime (if w.synced then 0 else uptimeAt w.age.saved)
  lag : ∃ lag ≤ w.lost, w.device.settings.config.timeOffset + .ofNat lag = w.truth

theorem Clocked.Right.same (h : w.Right) (hsound : w'.device.Sound)
    (htime : w'.device.settings.config.timeOffset = w.device.settings.config.timeOffset ∧
      w'.device.settings.timeRecord = w.device.settings.timeRecord)
    (hage : w'.age.saved = w.age.saved) (hghost : w'.synced = w.synced ∧ w'.truth = w.truth ∧ w'.lost = w.lost) :
    w'.Right := by
  obtain ⟨hoffset, hrecord⟩ := htime
  obtain ⟨hsynced, htruth, hlost⟩ := hghost
  refine ⟨hsound, ?_, ?_⟩
  · rw [load_timeOffset_congr hrecord, h.record, getTime, getTime, hoffset, hsynced, hage]
  · rw [hlost, hoffset, htruth]
    exact h.lag

/-- What a client sets is what it tells. -/
theorem Device.timeOffset_of_setsTime {d : Device} {ch : Chrc} {t : UInt32} {buf : List UInt8}
    (h : d.setsTime (.write ch t buf) = true) :
    (d.step (.write ch t buf)).settings.config.timeOffset = readInt64 buf - t.toUInt64.toInt64 := by
  cases ch with
  | timeOffset =>
    simp only [setsTime, Bool.and_eq_true, beq_iff_eq] at h
    obtain ⟨⟨hauth, hallowed⟩, hlen⟩ := h
    simp [step, handle, attWrite, writeAuthorize, chrcWrite, chrcWriteTimeOffset, gatedWrite, onSettings,
      handleTimeOffsetWrite, handleBlock, hauth, hallowed, hlen, updateTimeOffset]
  | _ => simp [setsTime] at h

theorem Clocked.Right.event (h : w.Right) (e : GattEvent) : (w.event e).Right := by
  cases hsets : w.device.setsTime e with
  | false =>
    have hevent : w.event e = { w with device := w.device.step e } := by
      unfold Clocked.event
      rw [hsets]
    rw [hevent]
    exact h.same (h.sound.step e) (Device.time_of_not_setsTime hsets) rfl ⟨rfl, rfl, rfl⟩
  | true =>
    cases e with
    | write ch t buf =>
      have hevent : w.event (.write ch t buf) = { w with
          device := w.device.step (.write ch t buf), synced := true,
          truth := readInt64 buf - t.toUInt64.toInt64, lost := 0 } := by
        unfold Clocked.event
        rw [hsets]
      have hoffset := Device.timeOffset_of_setsTime hsets
      rw [hevent]
      refine ⟨h.sound.step _, ?_, 0, le_refl 0, ?_⟩
      · rw [load_timeOffset (Device.timeRecord_of_setsTime hsets), getTime]
        simp
      · rw [hoffset]
        simp
    | _ => simp [Device.setsTime] at hsets

theorem Clocked.Right.run (h : w.Right) (es : List GattEvent) : (w.run es).Right := by
  induction es generalizing w with
  | nil => exact h
  | cons e es ih => exact ih (h.event e)

theorem Clocked.Right.store (h : w.Right) : w.store.Right := by
  refine ⟨h.sound.serves (c := .storeTime) (a := ()) ⟨_, rfl⟩, ?_, h.lag⟩
  exact load_timeOffset (by simp [Clocked.store, Device.storeTime, SettingsManager.saveTime])

theorem Clocked.Right.pass (h : w.Right) (ms : Nat) : (w.pass ms).Right :=
  h.same h.sound ⟨rfl, rfl⟩ rfl ⟨rfl, rfl, rfl⟩

theorem Clocked.Right.off (h : w.Right) : w.off.Right := h.same h.sound ⟨rfl, rfl⟩ rfl ⟨rfl, rfl, rfl⟩

theorem Clocked.Right.act (h : w.Right) (c : HardwareCall) : (w.act c).Right := by
  cases c with
  | storeTime => exact h.store
  | sysPoweroff | sysReboot => exact h.off
  | _ => exact h.pass _

theorem Clocked.Right.halts {p : Hardware Unit} (h : w.Right) (hh : w.Halts p w') : w'.Right := by
  obtain ⟨-, q, hr⟩ := hh
  refine reaches_keeps (E := stopping) (I := Clocked.Right) (fun _ _ _ hm => hm.elim) ?_ hr h
  rintro w c r w' h ⟨-, es, rfl | ⟨ms, -, rfl⟩⟩
  · exact (h.run es).act c
  · exact ((h.run es).pass ms).off

/-- What a call leaves of the age, where it is completed. -/
theorem Age.Done.saved {c : Call} {r : c.Ans} {a' : Age} (h : a.Done c r a') (hstore : c ≠ .storeTime)
    (hreboot : c ≠ .reboot) : a'.saved = a.saved := by
  cases c with
  | storeTime => exact absurd rfl hstore
  | reboot => exact absurd rfl hreboot
  | uptimeSeconds =>
    obtain ⟨-, rfl⟩ := h
    rfl
  | _ =>
    cases h
    rfl

theorem Clocked.Right.next {c : Call} {r : c.Ans} (h : w.Right) (hs : w.Next b c r w') : w'.Right := by
  have hother {d : Device} {a : Age} (hstore : c ≠ .storeTime) (hreboot : c ≠ .reboot)
      (hserves : w.device.Serves c r d) (hdone : w.age.Done c r a) :
      Clocked.Right { w with device := d, age := a } :=
    h.same (h.sound.serves hserves) (hserves.time hstore hreboot) (hdone.saved hstore hreboot) ⟨rfl, rfl, rfl⟩
  cases c with
  | storeTime =>
    cases hs
    exact h.store
  | powerOff | reboot => exact h.halts hs
  | _ =>
    obtain ⟨d, a, hserves, hdone, rfl⟩ := hs
    exact hother (by nofun) (by nofun) hserves hdone

theorem Clocked.Right.step {c : Call} {r : c.Ans} (h : w.Right) (hs : (timekeeping b).step w c r w') : w'.Right := by
  obtain ⟨-, -, es, hnext | ⟨-, ms, -, rfl⟩⟩ := hs
  · exact (h.run es).next hnext
  · exact ((h.run es).pass ms).off

/-! ## The ages of a run -/

theorem Device.Sound.answers {d d' : Device} {c : Call} {r : c.Ans} (h : d.Sound) (hs : d.Serves c r d') :
    Answers .valid c r := by
  cases c with
  | config =>
    obtain ⟨rfl, -⟩ := hs
    exact h.valid
  | _ => trivial

theorem Clocked.Next.age {c : Call} {r : c.Ans} (h : w.device.Sound) (hon : w.age.on = true)
    (hs : w.Next b c r w') : Answers .valid c r ∧ (w.age.Done c r w'.age ∨ w.age.Cut c w'.age) := by
  cases c with
  | storeTime =>
    cases hs
    exact ⟨trivial, .inl rfl⟩
  | powerOff => exact ⟨trivial, .inr (powerOff_stopped hs hon)⟩
  | reboot => exact ⟨trivial, reboot_stopped hs hon⟩
  | _ =>
    obtain ⟨d, a, hserves, hdone, rfl⟩ := hs
    exact ⟨h.answers hserves, .inl hdone⟩

theorem timekeeping_follows_ageing : (timekeeping b).Follows ageing fun w a => a = w.age ∧ w.Right where
  step := by
    rintro w _ c r w' ⟨rfl, h⟩ hs
    have h' : w'.Right := h.step hs
    obtain ⟨hon, hclear, es, hs⟩ := hs
    have hrun : (w.run es).Right := h.run es
    have hage : (w.run es).age = w.age := Clocked.age_run
    rw [← hage] at hon ⊢
    refine ⟨w'.age, ?_, rfl, h'⟩
    rcases hs with hnext | ⟨⟨d, hserves⟩, ms, hms, rfl⟩
    · obtain ⟨hanswers, hends⟩ := hnext.age hrun.sound hon
      exact ⟨hon, hanswers, hclear, hends⟩
    · exact ⟨hon, hrun.sound.answers hserves, hclear, .inr ⟨ms, hms, rfl⟩⟩
  move h hm := hm.elim

/-- Where a boot finds the clock right, it stays right in every run. -/
theorem right_of_during {nvs : Nvs} {truth : Int64} {lost : Nat} {p : Main StateMachine}
    (h : (Clocked.boot nvs truth lost).Right)
    (hd : During (timekeeping b) (initializeMachine {}) mainLoop (· = .boot nvs truth lost) p w) :
    w.Right ∧ w.age.saved ≤ w.age.time ∧ w.age.Fresh ∧ w.age.time / 1000 < 4294960096 := by
  have hinit (w : Clocked) (hw : w = .boot nvs truth lost) :
      ∃ a : Age, (fun a => a = {}) a ∧ a = w.age ∧ w.Right :=
    ⟨{}, rfl, by rw [hw]; rfl, hw ▸ h⟩
  obtain ⟨a, ha, rfl, hright⟩ := timekeeping_follows_ageing.during hinit hd
  exact ⟨hright, fresh_of_during ha⟩

/-! ## Lives -/

theorem toInt64_uptimeAt (h : ms / 1000 < 4294960096) :
    (uptimeAt ms).toUInt64.toInt64 = .ofNat (ms / 1000) := by
  rw [← Int64.ofInt_toInt (uptimeAt ms).toUInt64.toInt64, toInt_uptime, uptimeAt,
    UInt32.toNat_ofNat_of_lt' (by rw [UInt32.size]; omega), Int64.ofInt_eq_ofNat]

/-- The clock of a new life, with what the old one has lost. -/
theorem Lives.right {nvs : Nvs} {truth : Int64} {lost : Nat} (h : Lives b nvs truth lost) :
    (Clocked.boot nvs truth lost).Right := by
  have hboot {nvs : Nvs} {truth : Int64} {lost : Nat}
      (hlag : ∃ lag ≤ lost, (load nvs.read).timeOffset + .ofNat lag = truth) :
      (Clocked.boot nvs truth lost).Right := by
    refine ⟨⟨valid_load _, Nat.zero_le _⟩, ?_, hlag⟩
    simp [Clocked.boot, Device.boot, getTime, uptimeAt]
  induction h with
  | new => exact hboot ⟨0, le_refl 0, Int64.add_zero _⟩
  | @reset nvs truth lost p w _ hd ih =>
    obtain ⟨hright, hsaved, hfresh, hclear⟩ := right_of_during ih hd
    obtain ⟨lag, hlag, htruth⟩ := hright.lag
    -- the uptime that the record stands for
    obtain ⟨kept, hkept, hrecord, hreset⟩ : ∃ kept ≤ w.age.time / 1000,
        (load w.device.settings.nvs.read).timeOffset = w.device.settings.config.timeOffset + .ofNat kept ∧
        w.age.time / 1000 ≤ kept + w.reset := by
      cases hsynced : w.synced with
      | true =>
        refine ⟨0, Nat.zero_le _, ?_, ?_⟩
        · rw [hright.record, hsynced]
          rfl
        · simp [Clocked.reset, hsynced]
      | false =>
        refine ⟨w.age.saved / 1000, Nat.div_le_div_right hsaved, ?_, ?_⟩
        · rw [hright.record, hsynced, getTime, ← toInt64_uptimeAt (by omega)]
          rfl
        · have hage : w.age.time ≤ w.age.saved + 3617000 + w.age.held := hfresh
          simp only [Clocked.reset, hsynced, Bool.false_eq_true, if_false]
          omega
    refine hboot ⟨lag + (w.age.time / 1000 - kept), by omega, ?_⟩
    rw [hrecord, ← htruth, toInt64_uptimeAt hclear, Int64.add_assoc, Int64.add_assoc, ← Int64.ofNat_add,
      ← Int64.ofNat_add]
    congr 2
    omega

end

/-- However often the device is reset, at whatever moments, and whatever clients do: the clock is never ahead of
what a client has set, and behind by what the resets since then may have lost.  A reset loses an hour, seventeen
seconds and the time that the button was held, or, where a client has set the time since the last save, the whole
uptime. -/
theorem clock_lag_bounded (b : Peripherals) {nvs : Nvs} {truth : Int64} {lost : Nat} (h : Lives b nvs truth lost)
    {p : Main StateMachine} {w : Clocked}
    (hd : During (timekeeping b) (initializeMachine {}) mainLoop (· = .boot nvs truth lost) p w) :
    ∃ lag ≤ w.lost, w.device.settings.config.getTime (uptimeAt w.age.time) + .ofNat lag =
      w.truth + (uptimeAt w.age.time).toUInt64.toInt64 := by
  obtain ⟨lag, hlag, htruth⟩ := (right_of_during h.right hd).1.lag
  refine ⟨lag, hlag, ?_⟩
  rw [getTime, Int64.add_assoc, Int64.add_comm _ (.ofNat lag), ← Int64.add_assoc, htruth]

/-- A device that nothing happens to. -/
def Clocked.serve (w : Clocked) (c : Call) : Option (c.Ans × Clocked) :=
  if w.age.on ∧ w.age.time + c.lasts < 4294960096000 then
    match c with
    | .storeTime => some ((), w.store)
    | .buttonPressed => some (false, { w with age := { w.age with pressed := false } })
    | .uptimeSeconds => some (uptimeAt w.age.time, w)
    | .powerOff => none
    | c => (w.device.serve (uptimeAt w.age.time) c).map fun x =>
      (x.1, { w with device := x.2, age := w.age.pass c.lasts })
  else none

theorem timekeeping_step_serve {b : Peripherals} (w : Clocked) (c : Call) (x : c.Ans × Clocked)
    (hx : w.serve c = some x) : (timekeeping b).step w c x.1 x.2 := by
  unfold Clocked.serve at hx
  split at hx
  · rename_i h
    obtain ⟨hon, hclear⟩ := h
    cases c with
    | storeTime =>
      cases hx
      exact ⟨hon, by simp only [Clocked.store, Age.save]; omega, [], .inl rfl⟩
    | buttonPressed =>
      cases hx
      exact ⟨hon, by dsimp only; omega, [], .inl ⟨w.device, _, rfl, rfl, rfl⟩⟩
    | uptimeSeconds =>
      cases hx
      have hnow : (uptimeAt w.age.time).toNat = w.age.time / 1000 :=
        UInt32.toNat_ofNat_of_lt' (by rw [UInt32.size]; omega)
      exact ⟨hon, by dsimp only; omega, [], .inl ⟨w.device, w.age, rfl, ⟨hnow, rfl⟩, rfl⟩⟩
    | powerOff => cases hx
    | reboot => cases hx
    | _ =>
      obtain ⟨y, hy, rfl⟩ := Option.map_eq_some_iff.1 hx
      obtain ⟨hserves, -⟩ := Device.serves_serve hy
      exact ⟨hon, by simp only [Age.pass]; omega, [], .inl ⟨y.2, _, hserves, rfl, rfl⟩⟩
  · cases hx

/-- The power is lost after a tick; the new clock is behind, with four seconds to show. -/
theorem clock_lag_bounded_reset :
    ∃ nvs : Nvs, Lives ⟨true, true⟩ nvs 4 3617 ∧
      ∃ lag ≤ 3617, (Device.boot nvs).settings.config.getTime 0 + .ofNat lag = 4 := by
  let nvs : Nvs := ⟨[(NvsFieldId.turnedOn.id, intBytes 1)]⟩
  obtain ⟨⟨s₀, w₀⟩, h₀, ⟨s₁, w₁⟩, h₁, htruth, hlost⟩ :
      ∃ x₀ ∈ (initializeMachine {}).play Clocked.serve (.boot nvs 0 0),
      ∃ x₁ ∈ (mainLoop x₀.1).play Clocked.serve x₀.2,
        x₁.2.truth + (uptimeAt x₁.2.age.time).toUInt64.toInt64 = 4 ∧ x₁.2.lost + x₁.2.reset = 3617 := by
    decide +kernel
  have hboot : Boundary (timekeeping ⟨true, true⟩) (initializeMachine {}) mainLoop (· = .boot nvs 0 0) s₀ w₀ :=
    .start rfl (reaches_of_play timekeeping_step_serve h₀)
  have hlives : Lives ⟨true, true⟩ w₁.device.settings.nvs 4 3617 := by
    rw [← htruth, ← hlost]
    exact .reset .new (.iter hboot (reaches_of_play timekeeping_step_serve h₁))
  obtain ⟨lag, hlag, hclock⟩ := clock_lag_bounded ⟨true, true⟩ hlives (.start rfl .refl)
  have hzero : uptimeAt 0 = 0 := by decide
  simp only [Clocked.boot, hzero] at hclock
  exact ⟨_, hlives, lag, hlag, hclock⟩

end Everytag
