import Everytag.Firmware

/-!
# Feeding the watchdog

Time passes in `sleep_ms` and in `blink_led`; every other call takes none.  The world `watchdog` measures
the time since the last `wdt_feed`, over any answers with a valid configuration.  At the end of
`initialize` and of a tick it is at most that of a slow blink (`mainLoop_within`), and the next tick sleeps eight
seconds at most before it feeds.
-/

namespace Everytag

open Interaction StateMachine

/-- `WDT_MAX_WINDOW`, in milliseconds -/
def wdtMaxWindow : Nat := 10000

/-- The sleeps of `blink_led`. -/
def blinkDelay (count : Int) (fast : Bool) : Nat :=
  if fast then 250 + 2 * count.toNat * 100 else 1000 + 2 * count.toNat * 200

/-- Milliseconds since the last `wdt_feed`, and whether the device has been switched off or restarted. -/
structure Stopwatch where
  elapsed : Nat := 0
  stopped : Bool := false
deriving DecidableEq, Repr

namespace Stopwatch

@[simp] def after (w : Stopwatch) : Call → Stopwatch
  | .sleepMs ms => { w with elapsed := w.elapsed + ms.toNat }
  | .blinkLed count fast => { w with elapsed := w.elapsed + blinkDelay count fast }
  | .wdtFeed => { w with elapsed := 0 }
  | .powerOff | .reboot => { w with stopped := true }
  | .uptimeSeconds | .btEnable | .btDisable | .advStartAirtag .. | .advStartFmdn .. | .advStop
  | .advUpdateAirtag | .advUpdateFmdn | .setMac _ | .setTxPower _ | .batteryVoltage | .isCharging
  | .buttonPressed | .storeTime | .prepareAirtag _ | .prepareFmdn _ | .startSettingsAdv | .stopSettingsAdv
  | .broadcastIbeacon _ | .accelRead | .accelInit | .accelPowerdown | .bqReinit _ | .bqShipmode
  | .updateTurnedOn _ | .enableDfu | .disableDfu | .setStatusBytes .. | .beaconAdvCancelSync
  | .beaconAdvSetAllowed _ | .config | .configKey _ | .setTurnedOn _ | .computeAccelByte
  | .accelTemperature | .glueSyncGattState => w

/-- At most `ms` have passed, on a device that is still running. -/
def Within (ms : Nat) (w : Stopwatch) : Prop := w.stopped = true ∨ w.elapsed ≤ ms

/-- The watchdog has not bitten. -/
def Fed (w : Stopwatch) : Prop := w.stopped = true ∨ w.elapsed < wdtMaxWindow

theorem Within.fed {ms : Nat} {w : Stopwatch} (h : w.Within ms) (hms : ms < wdtMaxWindow) : w.Fed :=
  h.imp_right fun h => Nat.lt_of_le_of_lt h hms

theorem Within.mono {ms ms' : Nat} {w : Stopwatch} (h : w.Within ms) (hms : ms ≤ ms') : w.Within ms' :=
  h.imp_right fun h => Nat.le_trans h hms

end Stopwatch

/-- The watchdog must have been fed in time whenever the main loop issues a call. -/
def watchdog : World Call Call.Ans Stopwatch where
  allowed w _ := w.Fed
  step w c a w' := Answers .valid c a ∧ w' = w.after c
  move _ _ := False

section

variable {s : StateMachine} {w w' : Stopwatch} {ms : Nat}

instance : watchdog.Sequential := ⟨fun _ _ h => h⟩

@[simp] theorem watchdog_allowed (c : Call) : watchdog.allowed w c ↔ w.Fed := Iff.rfl

@[simp] theorem watchdog_step (c : Call) (a : c.Ans) :
    watchdog.step w c a w' ↔ Answers .valid c a ∧ w' = w.after c := Iff.rfl

/-! ## Calls that take time -/

/-- How long it may be after a call that is issued after at most `ms`; no time counts on a device that has
stopped. -/
def Call.bound (ms : Nat) : Call → Nat
  | .sleepMs d => ms + d.toNat
  | .blinkLed count fast => ms + blinkDelay count fast
  | .wdtFeed | .powerOff | .reboot => 0
  | _ => ms

theorem Stopwatch.Within.after (h : w.Within ms) (c : Call) : (w.after c).Within (c.bound ms) := by
  cases c with
  | sleepMs | blinkLed => exact h.imp_right fun h => Nat.add_le_add_right h _
  | wdtFeed => exact .inr (Nat.le_refl _)
  | powerOff | reboot => exact .inl rfl
  | _ => exact h

/-- One call of a sequence. -/
theorem wp_issue_timed {c : Call} (h : w.Within ms) (hms : ms < wdtMaxWindow) :
    wp watchdog (issue c) (fun _ w' => w'.Within (c.bound ms)) w := by
  refine (wp_issue _ _ _ _).2 ⟨h.fed hms, ?_⟩
  rintro a _ ⟨-, rfl⟩
  exact h.after c

theorem wp_timed {α : Type} {c : Call} {k : c.Ans → Main α} {Q : α → Stopwatch → Prop} (h : w.Within ms)
    (hms : ms < wdtMaxWindow)
    (hk : ∀ a w', Answers .valid c a → w'.Within (c.bound ms) → wp watchdog (k a) Q w') :
    wp watchdog (issue c >>= k) Q w := by
  refine wp_call watchdog (h.fed hms) ?_
  intro a w' hs
  obtain ⟨ha, rfl⟩ := hs
  exact hk a _ ha (h.after c)

namespace StateMachine

/-! ## Functions that take no time -/

theorem syncGattState_instant (h : w.Fed) : wp watchdog (syncGattState s) (fun _ w' => w' = w) w := by
  simp [syncGattState, h]

theorem handleTimeSave_instant (h : w.Fed) : wp watchdog (handleTimeSave s) (fun _ w' => w' = w) w := by
  simp [handleTimeSave, h]

theorem broadcast_instant (h : w.Fed) : wp watchdog (broadcast s) (fun _ w' => w' = w) w := by
  simp [broadcast, h]

theorem updateBattery_instant (h : w.Fed) : wp watchdog (updateBattery s) (fun _ w' => w' = w) w := by
  simp [updateBattery, h]

theorem updateStatus_instant (h : w.Fed) : wp watchdog (updateStatus s) (fun _ w' => w' = w) w := by
  simp [updateStatus, h]

theorem handleBatteryCheck_instant (h : w.Fed) :
    wp watchdog (handleBatteryCheck s) (fun _ w' => w' = w) w := by
  simp [handleBatteryCheck, updateBattery, updateStatus, broadcast_instant, h]

theorem handleSettingsModeEntry_instant (h : w.Fed) :
    wp watchdog (handleSettingsModeEntry s) (fun _ w' => w' = w) w := by
  simp [handleSettingsModeEntry, useSettingsMac, h]

theorem handleMaxPowerBurst_instant (h : w.Fed) :
    wp watchdog (handleMaxPowerBurst s) (fun _ w' => w' = w) w := by
  simp [handleMaxPowerBurst, h]

theorem handleKeyRotation_instant (h : w.Fed) :
    wp watchdog (handleKeyRotation s) (fun _ w' => w' = w) w := by
  simp [handleKeyRotation, setMacFromCurrentKey, broadcast_instant, h]

theorem handleAccelerometer_instant (h : w.Fed) :
    wp watchdog (handleAccelerometer s) (fun _ w' => w' = w) w := by
  simp [handleAccelerometer, h]

theorem tickBroadcast_instant (h : w.Fed) :
    wp watchdog (tickBroadcast s) (fun _ w' => w' = w) w := by
  simp [tickBroadcast, handleInitialBroadcast, handleAirtagFmdnAlternation, broadcast_instant, h]

theorem prepareKeys_instant (h : w.Fed) : wp watchdog (prepareKeys s) (fun _ w' => w' = w) w := by
  simp [prepareKeys, setMacFromCurrentKey, h]

theorem setInitialMac_instant (h : w.Fed) : wp watchdog (setInitialMac s) (fun _ w' => w' = w) w := by
  simp [setInitialMac, h]

/-! ## Functions that take time -/

theorem waitButtonRelease_within {d : UInt32} (h : w.Within ms) (hms : ms + d.toNat < wdtMaxWindow) :
    wp watchdog (waitButtonRelease d) (fun _ w' => w'.Within ms) w := by
  refine wp_loop watchdog (fun w' => w'.Within ms) h ?_
  intro w₁ h₁
  refine ⟨h₁.fed (by omega), fun pressed w₂ hs => ?_⟩
  obtain ⟨-, rfl⟩ := hs
  refine ⟨fun _ => ?_, fun _ => by simpa using h₁⟩
  refine wp_timed h₁ (by omega) ?_
  intro _ w₃ _ h₃
  refine (wp_issue watchdog _ _ _).2 ⟨h₃.fed hms, fun _ w₄ hs => ?_⟩
  obtain ⟨-, rfl⟩ := hs
  exact (h₃.after .wdtFeed).mono (Nat.zero_le _)

/-- A tick is eight seconds long at most. -/
theorem tickSleep_ms {cfg : BeaconConfig} (h : cfg.Valid) :
    (1000 * cfg.multPeriod.toUInt32).toNat ≤ 8000 := by
  rcases h.multPeriod with h | h | h | h <;> rw [h] <;> decide

theorem tickSleep_within (h : w.Within 1800) :
    wp watchdog (tickSleep s) (fun _ w' => w'.Within 0) w := by
  -- the rest of the function, after the sleep
  have hfeed (w₁ : Stopwatch) (h₁ : w₁.Within 9800) : wp watchdog
      (do issue .wdtFeed
          if s.chargeLockCounter > 0 then
            let cfg ← issue .config
            return { s with chargeLockCounter := s.chargeLockCounter - cfg.multPeriod.toNat }
          else return s) (fun _ w' => w'.Within 0) w₁ := by
    refine wp_timed h₁ (by decide) ?_
    intro _ w₂ _ h₂
    have hfed : w₂.Fed := h₂.fed (by decide)
    simpa [hfed] using ⟨fun _ _ _ => h₂, fun _ => h₂⟩
  simp only [tickSleep]
  split
  · exact wp_timed h (by decide) fun _ w₁ _ h₁ => hfeed w₁ (h₁.mono (by decide))
  · refine wp_timed h (by decide) ?_
    intro cfg w₁ hcfg h₁
    refine wp_timed h₁ (by decide) fun _ w₂ _ h₂ => hfeed w₂ (h₂.mono ?_)
    exact Nat.add_le_add_left (tickSleep_ms hcfg) 1800

theorem handleUvloShutdown_within (h : w.Within 0) :
    wp watchdog (handleUvloShutdown s) (fun _ w' => w'.Within 0) w := by
  have hfed : w.Fed := h.fed (by decide)
  have hstop : Stopwatch.Within 0 { w with stopped := true } := .inl rfl
  simp [handleUvloShutdown, hfed, h, hstop]

theorem handleNokeysShutdown_within (h : w.Within 0) :
    wp watchdog (handleNokeysShutdown s) (fun _ w' => w'.Within 0) w := by
  refine wp_timed h (by decide) ?_
  intro now w₁ _ h₁
  refine wp_timed h₁ (by decide) ?_
  intro cfg w₂ _ h₂
  split
  · refine wp_timed h₂ (by decide) ?_
    intro charging w₃ _ h₃
    split
    · refine wp_timed h₃ (by decide) ?_
      intro _ w₄ _ h₄
      refine wp_timed h₄ (by decide) ?_
      intro _ w₅ _ h₅
      refine wp_timed h₅ (by decide) ?_
      intro _ w₆ _ h₆
      exact (wp_pure ..).2 h₆
    · exact (wp_pure ..).2 h₃
  · exact (wp_pure ..).2 h₂

/-- A second passes before the button is read again. -/
theorem handleButtonLongpress_within (h : w.Within 0) :
    wp watchdog (handleButtonLongpress s) (fun _ w' => w'.Within 1000) w := by
  refine wp_timed h (by decide) ?_
  intro pressed w₁ _ h₁
  split
  · simpa using h₁.mono (by decide)
  · refine wp_timed h₁ (by decide) ?_
    intro _ w₂ _ h₂
    refine wp_timed h₂ (by decide) ?_
    intro pressed w₃ _ h₃
    split
    · exact (wp_pure ..).2 h₃
    · refine wp_timed h₃ (by decide) ?_
      intro _ w₄ _ h₄
      refine wp_timed h₄ (by decide) ?_
      intro _ w₅ _ h₅
      refine wp_seq (waitButtonRelease_within h₅ (by decide)) ?_
      intro _ w₆ h₆
      refine wp_timed h₆ (by decide) ?_
      intro _ w₇ _ h₇
      refine wp_timed h₇ (by decide) ?_
      intro _ w₈ _ h₈
      refine wp_timed h₈ (by decide) ?_
      intro _ w₉ _ h₉
      have hfed : w₉.Fed := h₉.fed (by decide)
      have hstop : Stopwatch.Within 1000 { w₉ with stopped := true } := .inl rfl
      simp [hfed, hstop]

theorem leaveSettings_within (h : w.Within 0) :
    wp watchdog (leaveSettings s) (fun _ w' => w'.Within 0) w := by
  have hfed : w.Fed := h.fed (by decide)
  have hstop : Stopwatch.Within 0 { w with stopped := true } := .inl rfl
  simp [leaveSettings, restoreMac, ibeaconFallback, hfed, h, hstop]

theorem uploadWait_within (n : Nat) (h : w.Within 0) :
    wp watchdog (uploadWait n) (fun _ w' => w'.Within 0) w := by
  induction n generalizing w with
  | zero => simpa [uploadWait] using h
  | succ n ih =>
    refine wp_timed h (by decide) ?_
    intro _ w₁ _ h₁
    refine wp_timed h₁ (by decide) ?_
    intro _ w₂ _ h₂
    exact wp_timed h₂ (by decide) fun _ w₃ _ h₃ => ih h₃

theorem firmwareUpload_within (h : w.Within 0) :
    wp watchdog (firmwareUpload s) (fun _ w' => w'.Within 0) w := by
  refine wp_timed h (by decide) ?_
  intro _ w₁ _ h₁
  refine wp_timed h₁ (by decide) ?_
  intro _ w₂ _ h₂
  refine wp_timed h₂ (by decide) ?_
  intro _ w₃ _ h₃
  refine wp_timed h₃ (by decide) ?_
  intro _ w₄ _ h₄
  refine wp_seq (uploadWait_within 15 h₄) ?_
  intro _ w₅ h₅
  refine wp_timed h₅ (by decide) ?_
  intro _ w₆ _ h₆
  refine wp_timed h₆ (by decide) ?_
  intro _ w₇ _ h₇
  exact (wp_pure ..).2 h₇

theorem handleSettingsModeExit_within (h : w.Within 0) :
    wp watchdog (handleSettingsModeExit s) (fun _ w' => w'.Within 0) w := by
  refine handleSettingsModeExit_decides (J := (·.Within 0)) ?_ ?_ ?_ ?_ ?_ h
  · exact fun w h => wp_issue_timed h (by decide)
  · rintro ms w (rfl | rfl) h
    · exact wp_mono (fun _ _ h => wp_issue_timed h (by decide)) (wp_issue_timed h (by decide))
    · exact wp_mono (fun _ _ h => wp_issue_timed h (by decide)) (wp_issue_timed h (by decide))
  · exact fun _ h => (wp_pure ..).2 h
  · exact fun _ h => firmwareUpload_within h
  · exact fun _ h => leaveSettings_within h

/-! ## A tick -/

theorem tickDuties_within (h : w.Within 0) :
    wp watchdog (tickDuties s) (fun _ w' => w'.Within 1000) w := by
  have hfed {ms : Nat} (hms : ms ≤ 1000) {w : Stopwatch} (h : w.Within ms) : w.Fed :=
    h.fed (Nat.lt_of_le_of_lt hms (by decide))
  refine wp_timed h (by decide) ?_
  intro now w₁ _ h₁
  split
  · exact wp_mono (fun _ _ hw => hw ▸ h₁.mono (by decide)) (handleSettingsModeEntry_instant (hfed (by decide) h₁))
  · refine wp_seq (handleMaxPowerBurst_instant (hfed (by decide) h₁)) ?_
    intro s₂ w₂ hw₂
    refine wp_seq (handleKeyRotation_instant (hw₂ ▸ hfed (by decide) h₁)) ?_
    intro s₃ w₃ hw₃
    subst hw₂ hw₃
    refine wp_seq (handleButtonLongpress_within h₁) ?_
    intro r w₄ h₄
    obtain ⟨stop, s₄⟩ := r
    cases stop with
    | true => simpa using h₄
    | false =>
      refine wp_seq (handleAccelerometer_instant (hfed (le_refl _) h₄)) ?_
      intro s₅ w₅ hw₅
      subst hw₅
      exact wp_mono (fun _ _ hw => hw ▸ h₄) (tickBroadcast_instant (hfed (le_refl _) h₄))

theorem tickBroadcasting_within (h : w.Within 0) :
    wp watchdog (tickBroadcasting s) (fun _ w' => w'.Within 1000) w := by
  have hfed : w.Fed := h.fed (by decide)
  refine wp_seq (handleTimeSave_instant hfed) ?_
  intro s₁ w₁ hw₁
  subst hw₁
  refine wp_seq (handleBatteryCheck_instant hfed) ?_
  intro s₂ w₂ hw₂
  subst hw₂
  refine wp_seq (handleUvloShutdown_within h) ?_
  intro r w₃ h₃
  obtain ⟨stop, s₃⟩ := r
  cases stop with
  | true => simpa using h₃.mono (by decide)
  | false =>
    refine wp_seq (handleNokeysShutdown_within h₃) ?_
    intro r w₄ h₄
    obtain ⟨stop, s₄⟩ := r
    cases stop with
    | true => simpa using h₄.mono (by decide)
    | false => exact tickDuties_within h₄

/-- A tick may begin 1800 ms after the last feed, and ends 1000 ms after one at most. -/
theorem mainLoop_within (h : w.Within 1800) :
    wp watchdog (mainLoop s) (fun _ w' => w'.Within 1800) w := by
  refine wp_seq (syncGattState_instant (h.fed (by decide))) ?_
  intro s₁ w₁ hw₁
  subst hw₁
  simp only [tick]
  split
  · simpa using h
  · refine wp_seq (tickSleep_within h) ?_
    intro s₂ w₂ h₂
    split
    · exact wp_mono (fun _ _ h => h.mono (by decide)) (handleSettingsModeExit_within h₂)
    · exact wp_mono (fun _ _ h => h.mono (by decide)) (tickBroadcasting_within h₂)

/-! ## Startup -/

theorem accelInitRetry_instant (n : Nat) (h : w.Fed) :
    wp watchdog (accelInitRetry n) (fun _ w' => w' = w) w := by
  induction n with
  | zero => simp [accelInitRetry]
  | succ n ih => simpa [accelInitRetry, h] using fun _ _ => ih

theorem wakePeripherals_within (h : w.Within 450) :
    wp watchdog wakePeripherals (fun _ w' => w'.Within 460) w := by
  refine wp_timed h (by decide) ?_
  intro _ w₁ _ h₁
  refine wp_timed h₁ (by decide) ?_
  intro _ w₂ _ h₂
  refine wp_timed h₂ (by decide) ?_
  intro _ w₃ _ h₃
  have hfed : w₃.Fed := h₃.fed (by decide)
  have h₃' : w₃.Within 460 := h₃
  refine wp_seq (accelInitRetry_instant 3 hfed) ?_
  intro _ w₄ hw₄
  subst hw₄
  simp [hfed, h₃']

theorem startRadio_within (h : w.Within 460) :
    wp watchdog (startRadio s) (fun _ w' => w'.Within 1800) w := by
  refine wp_timed h (by decide) ?_
  intro _ w₁ _ h₁
  refine wp_timed h₁ (by decide) ?_
  intro cfg w₂ _ h₂
  refine wp_timed h₂ (by decide) ?_
  intro _ w₃ _ h₃
  refine wp_timed (show w₃.Within 460 from h₃) (by decide) ?_
  intro _ w₄ _ h₄
  refine wp_timed h₄ (by decide) ?_
  intro _ w₅ _ h₅
  have hfed : w₅.Fed := h₅.fed (by decide)
  have h₅' : w₅.Within 1800 := h₅
  simp [ibeaconFallback, hfed, h₅']

/-- A slow blink comes last. -/
theorem startUp_within (h : w.Within 450) :
    wp watchdog (startUp s) (fun _ w' => w'.Within 1800) w := by
  refine wp_seq (wakePeripherals_within h) ?_
  intro _ w₁ h₁
  have hfed : w₁.Fed := h₁.fed (by decide)
  refine wp_seq (prepareKeys_instant hfed) ?_
  intro s₂ w₂ hw₂
  subst hw₂
  refine wp_seq (setInitialMac_instant hfed) ?_
  intro _ w₃ hw₃
  subst hw₃
  refine wp_seq (updateBattery_instant hfed) ?_
  intro s₄ w₄ hw₄
  subst hw₄
  refine wp_seq (updateStatus_instant hfed) ?_
  intro s₅ w₅ hw₅
  subst hw₅
  refine wp_seq (startRadio_within h₁) ?_
  intro _ w₆ h₆
  refine wp_seq (waitButtonRelease_within h₆ (by decide)) ?_
  intro _ w₇ h₇
  exact (wp_pure ..).2 h₇

theorem initializeMachine_within (h : w.Within 0) :
    wp watchdog (initializeMachine s) (fun _ w' => w'.Within 1800) w := by
  refine wp_timed h (by decide) ?_
  intro _ w₁ _ h₁
  refine wp_timed h₁ (by decide) ?_
  intro _ w₂ _ h₂
  refine wp_timed h₂ (by decide) ?_
  intro pressed w₃ _ h₃
  refine wp_timed h₃ (by decide) ?_
  intro _ w₄ _ h₄
  split
  · refine wp_timed h₄ (by decide) ?_
    intro _ w₅ _ h₅
    refine wp_timed h₅ (by decide) ?_
    intro _ w₆ _ h₆
    exact startUp_within (h₆.mono (by decide))
  · refine wp_timed h₄ (by decide) ?_
    intro cfg w₅ _ h₅
    split
    · refine wp_timed h₅ (by decide) ?_
      intro _ w₆ _ h₆
      refine wp_timed h₆ (by decide) ?_
      intro _ w₇ _ h₇
      exact (wp_pure ..).2 (h₇.mono (by decide))
    · exact startUp_within (h₅.mono (by decide))

end StateMachine

/-- In every run over valid configurations, less than the window of the watchdog has passed since it was
fed, at every call and at the end of every tick. -/
theorem watchdog_never_starved {p : Main StateMachine} {w : Stopwatch}
    (h : During watchdog (initializeMachine {}) mainLoop (· = {}) p w) : w.Fed := by
  have hstart (w : Stopwatch) (hw : w = {}) : wp watchdog (initializeMachine {}) (fun _ w' => w'.Within 1800) w :=
    initializeMachine_within (.inr (by rw [hw]))
  have hp : wp watchdog p (fun _ w' => w'.Within 1800) w :=
    during_wp hstart (fun s w => mainLoop_within) h
  cases p with
  | ret s => exact (wp_value hp).fed (by decide)
  | call c k => exact wp_allowed hp rfl
  | loop c t b k => exact wp_allowed hp rfl

/-- A device with a period of eight seconds, at rest. -/
def restingConfig : BeaconConfig := { multPeriod := 8, turnedOn := true }

theorem restingConfig_valid : restingConfig.Valid :=
  ⟨by decide, by decide, by decide, by decide, by decide⟩

def Stopwatch.serve (w : Stopwatch) (c : Call) : Option (c.Ans × Stopwatch) :=
  some (answers restingConfig 0 3000 c, w.after c)

theorem watchdog_step_serve (w : Stopwatch) (c : Call) (x : c.Ans × Stopwatch) (hx : w.serve c = some x) :
    watchdog.step w c x.1 x.2 := by
  cases hx
  refine ⟨?_, rfl⟩
  cases c with
  | config => exact restingConfig_valid
  | _ => trivial

/-- The slow blink at the end of `initialize` and the sleep of the first tick leave 200 ms. -/
theorem watchdog_never_starved_first_tick : ∃ p w,
    During watchdog (initializeMachine {}) mainLoop (· = {}) p w ∧ p.next? = some .wdtFeed ∧
      w.elapsed = 9800 ∧ w.Fed := by
  let s : StateMachine := { state := .broadcasting, whatInStatus := .voltage, lastBatteryVoltage := 3000 }
  have hstart : (initializeMachine {}).play Stopwatch.serve {} = some (s, { elapsed := 1800 }) := by rfl
  have hboundary : Boundary watchdog (initializeMachine {}) mainLoop (· = {}) s { elapsed := 1800 } :=
    .start rfl (reaches_of_play watchdog_step_serve hstart)
  have hstep (w : Stopwatch) (c : Call) :
      watchdog.step w c (answers restingConfig 0 3000 c) (w.after c) := watchdog_step_serve w c _ rfl
  have hduring := During.iter hboundary (.head (.call (hstep _ .glueSyncGattState))
    (.head (.call (hstep _ .config)) (.head (.call (hstep _ (.sleepMs 8000))) .refl)))
  exact ⟨_, _, hduring, rfl, rfl, watchdog_never_starved hduring⟩

end

end Everytag
