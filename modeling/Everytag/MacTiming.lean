import Everytag.Keyless
import Mathlib.Data.Set.Basic

/-!
# When the address is set

An address "must be set while BT is disabled".  The world `controller` keeps whether Bluetooth is enabled and,
for each `set_mac`, whether it was.  Boot, the settings window and the rotation keep to the rule, but
`broadcast()` sets the address once more before it starts the AirTag, while Bluetooth is enabled
(`broadcast_controller`).  So the rule holds as long as no configuration turns the AirTag on, and only then
(`mac_while_disabled_iff`).
-/

namespace Everytag

open Interaction StateMachine

/-- The controller, and the addresses it was given, each with whether it was enabled then. -/
structure Controller where
  enabled : Bool := false
  given : List (Mac × Bool) := []

namespace Controller

@[simp] def Next (w : Controller) : Call → Controller → Prop
  | .btEnable, w' => w' = { w with enabled := true }
  | .btDisable, w' => w' = { w with enabled := false }
  | .setMac addr, w' => w' = { w with given := w.given ++ [(addr, w.enabled)] }
  | _, w' => w' = w

/-- Some address was given to the enabled controller. -/
def Live (w : Controller) : Prop := ∃ x ∈ w.given, x.2 = true

end Controller

/-- Each configuration that is read is one of `cfgs`, apart from `turned_on`. -/
def OneOf (cfgs : Set BeaconConfig) : (c : Call) → c.Ans → Prop
  | .config, a => ∃ cfg ∈ cfgs, ∃ on, a = { cfg with turnedOn := on }
  | _, _ => True

/-- No configuration turns the AirTag on. -/
def AirtagOff (cfgs : Set BeaconConfig) : Prop := ∀ cfg ∈ cfgs, cfg.flagAirtag = false

/-- The controller under a device whose configuration is among `cfgs`.  The AirTag is to be started only after an
address was given to the enabled controller; and if it is off, none is to be. -/
def controller (cfgs : Set BeaconConfig) : World Call Call.Ans Controller where
  allowed w c := (∀ lo hi, c = .advStartAirtag lo hi → w.Live) ∧
    (AirtagOff cfgs → ∀ addr, c = .setMac addr → w.enabled = false)
  step w c a w' := OneOf cfgs c a ∧ w.Next c w'
  move _ _ := False

section

variable {cfgs : Set BeaconConfig} {s s' : StateMachine} {w w' : Controller}

instance : (controller cfgs).Sequential := ⟨fun _ _ h => h⟩

@[simp] theorem controller_allowed (c : Call) : (controller cfgs).allowed w c ↔
    (∀ lo hi, c = .advStartAirtag lo hi → w.Live) ∧
      (AirtagOff cfgs → ∀ addr, c = .setMac addr → w.enabled = false) := Iff.rfl

@[simp] theorem controller_step (c : Call) (a : c.Ans) :
    (controller cfgs).step w c a w' ↔ OneOf cfgs c a ∧ w.Next c w' := Iff.rfl

theorem AirtagOff.read {cfg : BeaconConfig} (h : AirtagOff cfgs) (hcfg : OneOf cfgs .config cfg) :
    cfg.flagAirtag = false := by
  obtain ⟨cfg, hmem, on, rfl⟩ := hcfg
  exact h cfg hmem

/-- Programs that leave the radio alone. -/
theorem wp_controller {α : Type} {p : Main α} {Q : α → Prop} (hp : wp (calls .quiet) p (fun a _ => Q a) ()) :
    wp (controller cfgs) p (fun a w' => Q a ∧ w' = w) w := by
  refine wp_frame (E := controller cfgs) hp (· = w) (fun _ _ _ h => h.elim) (fun w₁ c hc h₁ => ?_) rfl
  have hquiet : c.radioCall = true → False := hc.radio
  refine ⟨⟨?_, ?_⟩, fun a w₂ hs => ⟨answers_of_config (fun _ => trivial) c a, ?_⟩⟩
  · rintro lo hi rfl
    exact absurd rfl hquiet
  · rintro - addr rfl
    exact absurd rfl hquiet
  · obtain ⟨-, hs⟩ := hs
    cases c with
    | btEnable | btDisable | setMac => exact absurd rfl hquiet
    | _ =>
      cases hs
      exact h₁

theorem waitButtonRelease_controller {ms : UInt32} {Q : Unit → Controller → Prop} (hQ : Q () w) :
    wp (controller cfgs) (waitButtonRelease ms) Q w := by
  refine wp_mono ?_ (wp_controller (waitButtonRelease_calls (Q := fun _ _ => True) trivial trivial))
  rintro _ w' ⟨-, rfl⟩
  exact hQ

/-! ## Handlers -/

/-- A machine that is broadcasting has enabled Bluetooth, and does not show an AirTag that is off. -/
@[mk_iff enabled_iff]
structure Enabled (cfgs : Set BeaconConfig) (s : StateMachine) (w : Controller) : Prop where
  enabled : s.state = .broadcasting → w.enabled = true
  airtag : AirtagOff cfgs → s.broadcastingAirtag = false

theorem Enabled.broadcasting (h : Enabled cfgs s w) (hs : Broadcasting s) : w.enabled = true := h.enabled hs.state

theorem Enabled.same (h : Enabled cfgs s w) (hstate : s'.state = s.state)
    (hairtag : s'.broadcastingAirtag = s.broadcastingAirtag) : Enabled cfgs s' w :=
  ⟨fun hb => h.enabled (hstate ▸ hb), fun hoff => hairtag.trans (h.airtag hoff)⟩

theorem Enabled.keep {α : Type} {p : Main α} {f : α → StateMachine} (h : Enabled cfgs s w)
    (hp : wp (calls .quiet) p
      (fun a _ => (f a).state = s.state ∧ (f a).broadcastingAirtag = s.broadcastingAirtag) ()) :
    wp (controller cfgs) p (fun a => Enabled cfgs (f a)) w := by
  refine wp_mono ?_ (wp_controller hp)
  rintro a w' ⟨⟨hstate, hairtag⟩, rfl⟩
  exact h.same hstate hairtag

/-- The address is set again while Bluetooth is enabled. -/
theorem broadcast_controller (hon : w.enabled = true) (h : AirtagOff cfgs → s.broadcastingAirtag = false) :
    wp (controller cfgs) (broadcast s) (Enabled cfgs) w := by
  have hlive : Controller.Live { w with given := w.given ++ [(s.bleAddr, true)] } :=
    ⟨(s.bleAddr, true), by simp⟩
  rw [hon] at hlive
  have hshown (hairtag : s.broadcastingAirtag = true) : ¬ AirtagOff cfgs :=
    fun hoff => absurd (hairtag.symm.trans (h hoff)) (by decide)
  simp +contextual [broadcast, enabled_iff, hon, hlive, hshown, h]

theorem handleSettingsModeEntry_controller (h : Enabled cfgs s w) (hs : Broadcasting s) :
    wp (controller cfgs) (handleSettingsModeEntry s) (Enabled cfgs) w := by
  simp +contextual [handleSettingsModeEntry, useSettingsMac, enabled_iff, h.broadcasting hs, h.airtag]

theorem firmwareUpload_controller (h : Enabled cfgs s w) :
    wp (controller cfgs) (firmwareUpload s) (Enabled cfgs) w := by
  simp only [firmwareUpload, issue, wp_bind, wp_issue, controller_allowed, controller_step, Controller.Next,
    reduceCtorEq, IsEmpty.forall_iff, implies_true, and_self, true_and]
  rintro _ _ ⟨-, rfl⟩ _ _ ⟨-, rfl⟩ _ _ ⟨-, rfl⟩ _ w ⟨-, rfl⟩
  refine wp_mono ?_ (wp_controller (uploadWait_calls Policy.quiet_sound 15))
  rintro _ w' ⟨-, rfl⟩
  simpa [enabled_iff] using fun _ _ _ _ => h.airtag

theorem leaveSettings_controller :
    wp (controller cfgs) (leaveSettings s) (Enabled cfgs) w := by
  simp +contextual [leaveSettings, restoreMac, ibeaconFallback, enabled_iff]

theorem handleKeyRotation_controller (h : Enabled cfgs s w) (hs : Broadcasting s) :
    wp (controller cfgs) (handleKeyRotation s) (Enabled cfgs) w := by
  simp +contextual [handleKeyRotation, setMacFromCurrentKey, enabled_iff, h.broadcasting hs, h.airtag,
    broadcast_controller]

theorem handleBatteryCheck_controller (h : Enabled cfgs s w) (hs : Broadcasting s) :
    wp (controller cfgs) (handleBatteryCheck s) (Enabled cfgs) w := by
  simp +contextual [handleBatteryCheck, updateBattery, updateStatus, broadcast_controller, h.broadcasting hs,
    h.airtag, enabled_iff]

theorem tickBroadcast_controller (h : Enabled cfgs s w) (hs : Broadcasting s) :
    wp (controller cfgs) (tickBroadcast s) (Enabled cfgs) w := by
  by_cases hoff : AirtagOff cfgs
  · simp +contextual [tickBroadcast, handleInitialBroadcast, hoff.read, h, broadcast_controller,
      h.broadcasting hs]
  · simp [tickBroadcast, handleInitialBroadcast, handleAirtagFmdnAlternation, hoff, h, broadcast_controller,
      h.broadcasting hs]

theorem handleButtonLongpress_controller (h : Enabled cfgs s w) :
    wp (controller cfgs) (handleButtonLongpress s) (fun r => Enabled cfgs r.2) w := by
  simp +contextual [handleButtonLongpress, waitButtonRelease_controller, h, enabled_iff, h.airtag]

theorem handleUvloShutdown_controller (h : Enabled cfgs s w) (hs : Broadcasting s) :
    wp (controller cfgs) (handleUvloShutdown s) (fun r => Enabled cfgs r.2) w := by
  simp +contextual [handleUvloShutdown, enabled_iff, h.airtag, h.broadcasting hs]

theorem handleSettingsModeExit_controller (h : Enabled cfgs s w) :
    wp (controller cfgs) (handleSettingsModeExit s) (Enabled cfgs) w := by
  simp [handleSettingsModeExit, h, leaveSettings_controller, firmwareUpload_controller]

theorem controller_rule : TickRule (controller cfgs) (Enabled cfgs) (Enabled cfgs) where
  weaken h := h
  sync h := h.keep (f := id) (by simp [syncGattState])
  sleep h := h.keep (f := id) (wp_mono (by rintro _ _ ⟨n, -, rfl⟩; exact ⟨rfl, rfl⟩)
    (tickSleep_calls Policy.quiet_sound))
  exit h _ := handleSettingsModeExit_controller h
  timeSave h _ := h.keep (f := id) (by simp [handleTimeSave])
  batteryCheck := handleBatteryCheck_controller
  uvlo := handleUvloShutdown_controller
  nokeys h hs := by simp +contextual [handleNokeysShutdown, enabled_iff, h.airtag, h.broadcasting hs]
  uptime h _ := h.keep (f := fun _ => _) (by simp)
  entry := handleSettingsModeEntry_controller
  burst h hs := by simp +contextual [handleMaxPowerBurst, enabled_iff, h.airtag, h.broadcasting hs]
  rotation := handleKeyRotation_controller
  button h _ := handleButtonLongpress_controller h
  accelerometer h _ := h.keep (f := id) (by simp [handleAccelerometer])
  broadcast := tickBroadcast_controller

/-! ## Startup -/

theorem startUp_controller (hw : w.enabled = false) : wp (controller cfgs) (startUp s) (Enabled cfgs) w := by
  refine wp_seq (wp_controller (wakePeripherals_calls Policy.quiet_sound)) ?_
  rintro _ w ⟨-, rfl⟩
  simp +contextual [prepareKeys, setMacFromCurrentKey, setInitialMac, updateBattery, updateStatus, startRadio,
    ibeaconFallback, waitButtonRelease_controller, enabled_iff, hw]

theorem initializeMachine_controller (hw : w.enabled = false) :
    wp (controller cfgs) (initializeMachine {}) (Enabled cfgs) w := by
  simp [initializeMachine, startUp_controller, hw, enabled_iff]

end

/-! ## The first AirTag -/

section

variable {s : StateMachine} {ans : (c : Call) → c.Ans}

/-- Nothing is on air. -/
@[mk_iff nothingShown_iff]
structure NothingShown (s : StateMachine) : Prop where
  anything : s.broadcastingAnything = false
  airtag : s.broadcastingAirtag = false
  fmdn : s.broadcastingFmdn = false
  settings : s.broadcastingSettings = false

/-- As `initialize` leaves it. -/
@[mk_iff justStarted_iff]
structure JustStarted (s : StateMachine) : Prop extends NothingShown s where
  state : s.state = .broadcasting
  timers : s.timers = {}
  voltage : s.lastBatteryVoltage = 3000

/-- The call that starts the AirTag. -/
def Call.StartsAirtag (c : Call) : Prop := ∃ lo hi, c = .advStartAirtag lo hi

theorem initializeMachine_justStarted (hbutton : ans .buttonPressed = false) (hon : (ans .config).turnedOn = true)
    (hv : ans .batteryVoltage = (3000 : Int)) : (initializeMachine {}).Ends ans JustStarted := by
  have hstored : storedVoltage (ans .batteryVoltage) = 3000 := by rw [hv]; decide
  simp [initializeMachine, startUp, prepareKeys, setMacFromCurrentKey, setInitialMac, updateBattery, updateStatus,
    startRadio, ibeaconFallback, waitButtonRelease_ends hbutton, hon, justStarted_iff, nothingShown_iff, hstored]

theorem handleMaxPowerBurst_justStarted (hs : JustStarted s) (hnow : ans .uptimeSeconds = (0 : UInt32)) :
    (handleMaxPowerBurst s).Ends ans JustStarted := by
  have hearly : ¬ s.timers.maxPower + kIntervalMaxPower ≤ (0 : UInt32) := by
    rw [hs.timers]
    decide
  have hidle : s.timers.endMaxPower = 0 := by rw [hs.timers]
  simp [handleMaxPowerBurst, hnow, hearly, hidle, hs]

/-- The rotation comes at once if the interval is zero, but has nothing to restart. -/
theorem handleKeyRotation_nothingShown (hs : NothingShown s) : (handleKeyRotation s).Ends ans NothingShown := by
  simp [handleKeyRotation, setMacFromCurrentKey, broadcast, nothingShown_iff, (nothingShown_iff _).1 hs]

theorem tickBroadcast_startsAirtag (hs : NothingShown s) (hairtag : (ans .config).flagAirtag = true) :
    (tickBroadcast s).Issues ans Call.StartsAirtag := by
  simp [tickBroadcast, handleInitialBroadcast, broadcast, Call.StartsAirtag, (nothingShown_iff _).1 hs, hairtag]

theorem tickDuties_startsAirtag (hs : JustStarted s) (hbutton : ans .buttonPressed = false)
    (hnow : ans .uptimeSeconds = (0 : UInt32)) (hairtag : (ans .config).flagAirtag = true) :
    (tickDuties s).Issues ans Call.StartsAirtag := by
  have hearly : ¬ s.timers.settingsMode + kIntervalSettings ≤ (0 : UInt32) := by
    rw [hs.timers]
    decide
  simp only [tickDuties, issue, Prog.issues_issue_bind, hnow, if_neg hearly]
  refine .inr (.bind_right (handleMaxPowerBurst_justStarted hs hnow) fun s₁ h₁ => ?_)
  refine .bind_right (handleKeyRotation_nothingShown h₁.toNothingShown) fun s₂ h₂ => ?_
  have hlong : (handleButtonLongpress s₂).Ends ans (fun r => r = (false, s₂)) := by
    simp [handleButtonLongpress, hbutton]
  refine .bind_right hlong ?_
  rintro _ rfl
  have haccel : (handleAccelerometer s₂).Ends ans NothingShown := by
    simp [handleAccelerometer, nothingShown_iff, (nothingShown_iff _).1 h₂]
  exact .bind_right haccel fun s₃ h₃ => tickBroadcast_startsAirtag h₃ hairtag

/-- The first round after a start comes to the AirTag. -/
theorem mainLoop_startsAirtag (hs : JustStarted s) (hbutton : ans .buttonPressed = false)
    (hnow : ans .uptimeSeconds = (0 : UInt32)) (hairtag : (ans .config).flagAirtag = true) :
    (mainLoop s).Issues ans Call.StartsAirtag := by
  have hsync : (syncGattState s).Ends ans JustStarted := by
    simp [syncGattState, justStarted_iff, nothingShown_iff, (justStarted_iff _).1 hs, (nothingShown_iff _).1 hs.1]
  refine .bind_right hsync fun s₁ h₁ => ?_
  rw [tick_of_running (by simp [h₁.state])]
  have hsleep : (tickSleep s₁).Ends ans JustStarted := by
    simp [tickSleep, justStarted_iff, nothingShown_iff, (justStarted_iff _).1 h₁, (nothingShown_iff _).1 h₁.1]
  refine .bind_right hsleep fun s₂ h₂ => ?_
  rw [if_neg (by simp [h₂.state, h₂.settings])]
  have htime : (handleTimeSave s₂).Ends ans (· = s₂) := by
    simp [handleTimeSave, hnow, h₂.timers, kIntervalTimeSave]
  refine .bind_right htime ?_
  rintro s₂ rfl
  have hcheck : (handleBatteryCheck s₂).Ends ans (· = s₂) := by
    have hearly : (0 : UInt32) < s₂.timers.batteryCheck + kIntervalBatteryCheck := by
      rw [h₂.timers]
      decide
    simp only [handleBatteryCheck, issue, Prog.ends_bind, Prog.ends_issue, hnow, if_pos hearly, Prog.ends_pure]
  refine .bind_right hcheck ?_
  rintro s₂ rfl
  have huvlo : (handleUvloShutdown s₂).Ends ans (fun r => r.1 = false ∧ JustStarted r.2) := by
    simp [handleUvloShutdown, justStarted_iff, nothingShown_iff, (justStarted_iff _).1 h₂,
      (nothingShown_iff _).1 h₂.1, kBatteryLowVoltage]
  refine .bind_right huvlo ?_
  rintro ⟨stop, s₃⟩ ⟨rfl, h₃⟩
  have hnokeys : (handleNokeysShutdown s₃).Ends ans (fun r => r = (false, s₃)) := by
    simp [handleNokeysShutdown, hairtag]
  refine .bind_right hnokeys ?_
  rintro _ rfl
  exact tickDuties_startsAirtag h₃ hbutton hnow hairtag

end

/-! ## Runs -/

section

variable {cfgs : Set BeaconConfig}

/-- In every run whose configurations are among `cfgs`, all addresses are set while Bluetooth is disabled. -/
def MacWhileDisabled (cfgs : Set BeaconConfig) : Prop :=
  ∀ q w, During (controller cfgs) (initializeMachine {}) mainLoop (· = {}) q w →
    ∀ x ∈ w.given, x.2 = false

theorem start_enabled : ∀ w : Controller, w = {} → wp (controller cfgs) (initializeMachine {})
    (fun s w => Enabled cfgs s w ∧ s.state ≠ .initializing) w := by
  rintro _ rfl
  exact wp_mode (initializeMachine_controller rfl) initializeMachine_started

theorem round_enabled : ∀ (s : StateMachine) (w : Controller),
    Enabled cfgs s w ∧ s.state ≠ .initializing →
    wp (controller cfgs) (mainLoop s) (fun s w => Enabled cfgs s w ∧ s.state ≠ .initializing) w := by
  rintro s w ⟨h, hs⟩
  exact wp_mode (controller_rule.mainLoop h hs) (mainLoop_started hs)

theorem AirtagOff.macWhileDisabled (h : AirtagOff cfgs) : MacWhileDisabled cfgs := by
  intro q w hrun
  refine during_keeps_of_allowed (J := fun w : Controller => ∀ x ∈ w.given, x.2 = false) start_enabled
    round_enabled ?_ (fun _ _ _ hm => hm.elim) ?_ hrun
  · rintro _ rfl
    simp
  · intro w c a w' hJ hallowed hs
    cases c with
    | setMac addr =>
      obtain ⟨-, rfl⟩ := hs
      have hoff := hallowed.2 h addr rfl
      simpa [hoff, or_imp, forall_and] using hJ
    | _ =>
      obtain ⟨-, rfl⟩ := hs
      exact hJ

/-- A device with the AirTag on shows it in its first tick. -/
theorem MacWhileDisabled.airtagOff (h : MacWhileDisabled cfgs) : AirtagOff cfgs := by
  intro cfg hcfg
  by_contra hairtag
  rw [Bool.not_eq_false] at hairtag
  have hstep (w : Controller) (c : Call) :
      ∃ w', (controller cfgs).step w c (answers { cfg with turnedOn := true } 0 3000 c) w' := by
    cases c with
    | config => exact ⟨_, ⟨cfg, hcfg, true, rfl⟩, rfl⟩
    | _ => exact ⟨_, trivial, rfl⟩
  have hends : (initializeMachine {}).Ends (answers { cfg with turnedOn := true } 0 3000) JustStarted :=
    initializeMachine_justStarted rfl rfl rfl
  obtain ⟨s, w, hstart, hs⟩ := hends.exists_reaches hstep {}
  have hissues : (mainLoop s).Issues (answers { cfg with turnedOn := true } 0 3000) Call.StartsAirtag :=
    mainLoop_startsAirtag hs rfl rfl hairtag
  obtain ⟨q, w', c, hround, hnext, lo, hi, rfl⟩ := hissues.exists_reaches hstep w
  have hrun : During (controller cfgs) (initializeMachine {}) mainLoop (· = {}) q w' :=
    .iter (.start rfl hstart) hround
  obtain ⟨x, hx, hlive⟩ := (during_allowed start_enabled round_enabled hrun hnext).1 lo hi rfl
  exact absurd (hlive.symm.trans (h q w' hrun x hx)) (by decide)

/-- The address is set only while Bluetooth is disabled exactly if the AirTag is always off. -/
theorem mac_while_disabled_iff (cfgs : Set BeaconConfig) :
    MacWhileDisabled cfgs ↔ ∀ cfg ∈ cfgs, cfg.flagAirtag = false :=
  ⟨fun h => h.airtagOff, fun h => AirtagOff.macWhileDisabled h⟩

/-- One AirTag key. -/
theorem airtag_given_live : ¬ MacWhileDisabled {{ flagAirtag := true, numKeys := 1, turnedOn := true }} := by
  intro h
  exact absurd (h.airtagOff _ rfl) (by decide)

end

end Everytag
