import Everytag.Records
import Everytag.Persistence

/-!
# Starting without a button

A board without a button starts only if `turned_on` is set when `load` has run, and the one place that
sets it is behind a press of the button.  From erased flash, whatever a client writes and wherever a boot
is cut off, the record of `turned_on` is never written (`Flashed.off`), and every boot ends in
`power_off`.
-/

namespace Everytag

open Interaction StateMachine BeaconConfig

/-- A device and whether `power_off` has been called on it. -/
structure Powered where
  device : Device
  off : Bool := false

/-- The button is never pressed. -/
def NoButton : (c : Call) → c.Ans → Prop
  | .buttonPressed, pressed => pressed = false
  | _, _ => True

/-- A board without a button.  GATT events arrive between the calls, until `power_off`; `turned_on` stays as it
is. -/
def buttonless : World Call Call.Ans Powered where
  allowed _ c := ∀ on, c ≠ .setTurnedOn on ∧ c ≠ .updateTurnedOn on
  step w c a w' := w.off = false ∧ w.device.Serves c a w'.device ∧ NoButton c a ∧
    w'.off = decide (c = .powerOff)
  move w w' := w.off = false ∧ ∃ e, w' = { w with device := w.device.step e }

/-- `main` after the settings are loaded. -/
def Powered.boot (nvs : Nvs) : Powered := ⟨Device.boot nvs, false⟩

/-- The flash of such a board: erased, or left behind by a boot that was cut off at some point. -/
inductive Flashed : Nvs → Prop
  | erased : Flashed .erased
  | boot {nvs : Nvs} {p : Main StateMachine} {w : Powered} : Flashed nvs →
      During buttonless (initializeMachine {}) mainLoop (· = .boot nvs) p w → Flashed w.device.settings.nvs

/-! ## The setting -/

theorem turnedOn_apply {c : BeaconConfig} {s : Setter} {ch : Chrc} (h : CalledBy ch s) :
    (s.apply c).turnedOn = c.turnedOn := by
  refine Setter.apply_keeps (f := BeaconConfig.turnedOn) ?_
  cases s with
  | turnedOn => cases ch <;> exact h.elim
  | _ => rfl

/-- A load reads the setting from its own record alone. -/
theorem load_turnedOn (rd : NvsRead) : (load rd).turnedOn = readBool rd NvsFieldId.turnedOn.id false := by
  obtain ⟨hperiod, hpower, hinterval, hstatus, haccel⟩ :=
    apply_integerReads (f := BeaconConfig.turnedOn) (fun _ _ _ hs _ => turnedOn_apply hs) rd
  have hkeys := apply_loadKeys (f := BeaconConfig.turnedOn) (fun _ _ _ => rfl) rd
  have hfmdn := apply_loadFmdnKey (f := BeaconConfig.turnedOn) (fun _ _ => rfl) rd
  simp only [load, loadSteps, List.foldl_cons, List.foldl_nil, hfmdn, hkeys,
    apply_ite BeaconConfig.turnedOn, ite_self, haccel, hstatus, hinterval, hpower, hperiod]

namespace Device

variable {d d' : Device}

theorem turnedOn_step {e : GattEvent} : (d.step e).settings.config.turnedOn = d.settings.config.turnedOn :=
  step_keeps (f := BeaconConfig.turnedOn) fun _ _ _ _ _ _ hs => turnedOn_apply hs

/-- The setting is off, and its record has never been written. -/
structure TurnedOff (d : Device) : Prop where
  config : d.settings.config.turnedOn = false
  record : d.settings.nvs.find NvsFieldId.turnedOn.id = none

theorem TurnedOff.step (h : d.TurnedOff) (e : GattEvent) : (d.step e).TurnedOff where
  config := turnedOn_step.trans h.config
  record := (step_find (fun ch _ _ _ => by cases ch <;> simp [Chrc.record]) (by simp)).trans h.record

theorem TurnedOff.serves {c : Call} {a : c.Ans} (h : d.TurnedOff) (hs : d.Serves c a d')
    (hc : ∀ on, c ≠ .setTurnedOn on ∧ c ≠ .updateTurnedOn on) : d'.TurnedOff := by
  refine ⟨?_, (hs.find (by decide) fun _ on => (hc on).2).trans h.record⟩
  cases c with
  | config | configKey | glueSyncGattState =>
    obtain ⟨-, rfl⟩ := hs
    exact h.config
  | setTurnedOn on => exact absurd rfl (hc on).1
  | updateTurnedOn on => exact absurd rfl (hc on).2
  | storeTime =>
    obtain ⟨t, rfl⟩ := hs
    exact h.config
  | reboot =>
    obtain ⟨ts, rfl⟩ := hs
    rw [(d.foldl_storeTime_config ts).1]
    exact h.config
  | _ => cases hs; exact h.config

theorem TurnedOff.boot {nvs : Nvs} (h : nvs.find NvsFieldId.turnedOn.id = none) : (boot nvs).TurnedOff := by
  refine ⟨?_, h⟩
  show (load nvs.read).turnedOn = false
  rw [load_turnedOn]
  simp [readBool, Nvs.read, h]

end Device

/-! ## A boot -/

section

variable {nvs : Nvs} {s : StateMachine} {w w' : Powered} {c : Call}

/-- The device is on, and its setting is off. -/
structure Powered.Unset (w : Powered) : Prop where
  on : w.off = false
  turnedOff : w.device.TurnedOff

theorem Powered.Unset.move (h : w.Unset) (hm : buttonless.move w w') : w'.Unset := by
  obtain ⟨-, e, rfl⟩ := hm
  exact ⟨h.on, h.turnedOff.step e⟩

theorem Device.TurnedOff.move (h : w.device.TurnedOff) (hm : buttonless.move w w') :
    w'.device.TurnedOff := by
  obtain ⟨-, e, rfl⟩ := hm
  exact h.step e

/-- What the answer to a call says while the setting is off. -/
def OffAnswer : (c : Call) → c.Ans → Prop
  | .buttonPressed, pressed => pressed = false
  | .config, cfg => cfg.turnedOn = false
  | _, _ => True

/-- A call other than the last one. -/
theorem wp_unset {α : Type} {k : c.Ans → Main α} {Q : α → Powered → Prop} (hw : w.Unset)
    (hc : ∀ on, c ≠ .setTurnedOn on ∧ c ≠ .updateTurnedOn on) (hoff : c ≠ .powerOff)
    (hk : ∀ a w', OffAnswer c a → w'.Unset → wp buttonless (k a) Q w') :
    wp buttonless (issue c >>= k) Q w := by
  intro w₁ hm
  have h₁ : w₁.Unset := World.Moves.keeps (fun _ _ h hm => h.move hm) hm hw
  refine ⟨hc, fun a w' hs => hk a w' ?_ ⟨?_, h₁.turnedOff.serves hs.2.1 hc⟩⟩
  · obtain ⟨-, hserves, hbutton, -⟩ := hs
    cases c with
    | buttonPressed => exact hbutton
    | config => rw [show a = _ from hserves.1]; exact h₁.turnedOff.config
    | _ => trivial
  · rw [hs.2.2.2, decide_eq_false hoff]

/-- Without a press and with the setting off, `initialize` ends in `power_off`. -/
theorem initializeMachine_off (hw : w.Unset) : wp buttonless (initializeMachine s)
    (fun s' w' => s'.state = .shuttingDown ∧ w'.off = true) w := by
  refine wp_unset hw (by simp) (by simp) ?_
  intro _ w₁ _ h₁
  refine wp_unset h₁ (by simp) (by simp) ?_
  intro _ w₂ _ h₂
  refine wp_unset h₂ (by simp) (by simp) ?_
  intro pressed w₃ hpressed h₃
  refine wp_unset h₃ (by simp) (by simp) ?_
  intro _ w₄ _ h₄
  rw [show pressed = false from hpressed]
  refine wp_unset h₄ (by simp) (by simp) ?_
  intro cfg w₅ hcfg h₅
  rw [show cfg.turnedOn = false from hcfg]
  refine wp_unset h₅ (by simp) (by simp) ?_
  intro _ w₆ _ h₆
  refine wp_call_of_stable (I := fun _ => True) (J := fun w => w.off = true) trivial
    (fun _ _ _ _ => trivial) (fun w _ => ⟨by simp [buttonless], fun _ w' hs => hs.2.2.2⟩) fun _ w₇ h₇ => ?_
  exact wp_ret_of_stable ⟨rfl, h₇⟩ fun w w' h hm => absurd (h.2.symm.trans hm.1) (by decide)

/-- Nothing runs on a device that is off. -/
theorem mainLoop_off {Q : StateMachine → Powered → Prop} (h : w.off = true) :
    wp buttonless (mainLoop s) Q w := by
  have hstay (w w' : Powered) (h : w.off = true) (hm : buttonless.move w w') : w'.off = true :=
    absurd (h.symm.trans hm.1) (by decide)
  have hcall (w : Powered) (h : w.off = true) : buttonless.allowed w .glueSyncGattState ∧
      ∀ a w', buttonless.step w .glueSyncGattState a w' → False :=
    ⟨by simp [buttonless], fun a w' hs => absurd (h.symm.trans hs.1) (by decide)⟩
  rw [mainLoop, wp_bind]
  exact wp_call_of_stable h hstay hcall fun _ _ hf => hf.elim

/-- No boot writes the record of the setting. -/
theorem Flashed.off (h : Flashed nvs) : nvs.find NvsFieldId.turnedOn.id = none := by
  induction h with
  | erased => rfl
  | @boot nvs p w _ hd ih =>
    have hboot (w : Powered) (hw : w = .boot nvs) : w.Unset := hw ▸ ⟨rfl, Device.TurnedOff.boot ih⟩
    have hkept : w.device.TurnedOff :=
      during_keeps_of_allowed (I := fun _ w => w.off = true) (J := fun w => w.device.TurnedOff)
        (fun w hw => wp_mono (fun _ _ h => h.2) (initializeMachine_off (hboot w hw)))
        (fun _ _ h => mainLoop_off h) (fun w hw => (hboot w hw).turnedOff)
        (fun _ _ h hm => h.move hm) (fun _ _ _ _ h hc hs => h.serves hs.2.1 hc) hd
    exact hkept.record

/-! ## Every boot -/

/-- Answers to the calls of a boot that ends in `power_off`, with no event in between. -/
def Powered.serve (w : Powered) (c : Call) : Option (c.Ans × Powered) :=
  if w.off then none
  else match c with
    | .wdtFeed | .blinkLed .. | .sleepMs _ => some ((), w)
    | .buttonPressed => some (false, w)
    | .config => some (w.device.settings.config, w)
    | .powerOff => some ((), { w with off := true })
    | .uptimeSeconds | .btEnable | .btDisable | .advStartAirtag .. | .advStartFmdn .. | .advStop
    | .advUpdateAirtag | .advUpdateFmdn | .setMac _ | .setTxPower _ | .batteryVoltage | .isCharging
    | .reboot | .storeTime | .prepareAirtag _ | .prepareFmdn _ | .startSettingsAdv | .stopSettingsAdv
    | .broadcastIbeacon _ | .accelRead | .accelInit | .accelPowerdown | .bqReinit _ | .bqShipmode
    | .updateTurnedOn _ | .enableDfu | .disableDfu | .setStatusBytes .. | .beaconAdvCancelSync
    | .beaconAdvSetAllowed _ | .configKey _ | .setTurnedOn _ | .computeAccelByte | .accelTemperature
    | .glueSyncGattState => none

theorem buttonless_step_serve (w : Powered) (c : Call) (x : c.Ans × Powered) (hx : w.serve c = some x) :
    buttonless.step w c x.1 x.2 := by
  unfold Powered.serve at hx
  split at hx
  · cases hx
  · have hon : w.off = false := by simpa using ‹¬ w.off = true›
    cases c with
    | wdtFeed | blinkLed | sleepMs => cases hx; exact ⟨hon, rfl, trivial, hon⟩
    | buttonPressed => cases hx; exact ⟨hon, rfl, rfl, hon⟩
    | config => cases hx; exact ⟨hon, ⟨rfl, rfl⟩, trivial, hon⟩
    | powerOff => cases hx; exact ⟨hon, rfl, trivial, rfl⟩
    | _ => cases hx

theorem initializeMachine_ends (hw : w.Unset) :
    ∃ s' w', Reaches buttonless (initializeMachine s, w) (.ret s', w') := by
  refine ⟨{ s with state := .shuttingDown }, { w with off := true }, ?_⟩
  refine reaches_of_play buttonless_step_serve ?_
  simp [initializeMachine, Powered.serve, hw.on, hw.turnedOff.config]

end

/-- A board without a button never starts: whatever has been on its flash since it was erased, its boot ends,
and every way it can end is `power_off`. -/
theorem buttonless_never_starts (nvs : Nvs) (h : Flashed nvs) :
    (∃ s w, Reaches buttonless (initializeMachine {}, .boot nvs) (.ret s, w)) ∧
    ∀ s w, Reaches buttonless (initializeMachine {}, .boot nvs) (.ret s, w) →
      s.state = .shuttingDown ∧ w.off = true := by
  have hw : (Powered.boot nvs).Unset := ⟨rfl, Device.TurnedOff.boot h.off⟩
  refine ⟨initializeMachine_ends hw, fun s w hr => ?_⟩
  have hend := wp_reaches (initializeMachine_off hw) hr
  exact hend w .refl

/-- Right after flashing. -/
theorem buttonless_never_starts_erased :
    ∃ s w, Reaches buttonless (initializeMachine {}, .boot .erased) (.ret s, w) ∧
      s.state = .shuttingDown ∧ w.off = true := by
  obtain ⟨⟨s, w, hr⟩, hend⟩ := buttonless_never_starts .erased .erased
  exact ⟨s, w, hr, hend s w hr⟩

/-- A boot from erased flash powers the device off. -/
theorem buttonless_powers_off :
    ¬ ∀ nvs, Flashed nvs → ∀ s w, Reaches buttonless (initializeMachine {}, .boot nvs) (.ret s, w) →
      s.state = .broadcasting ∧ w.off = false := by
  intro h
  have hw : (Powered.boot .erased).Unset := ⟨rfl, Device.TurnedOff.boot rfl⟩
  obtain ⟨s, w, hr⟩ := initializeMachine_ends (s := {}) hw
  have hend := wp_reaches (initializeMachine_off hw) hr
  obtain ⟨-, hoff⟩ := hend w .refl
  exact absurd ((h .erased .erased s w hr).2.symm.trans hoff) (by decide)

end Everytag
