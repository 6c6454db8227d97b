import Everytag.StateMachine

/-!
# What the member functions call and change

One specification for each member function, in the world `calls`: which calls it may issue, and
how the state it returns differs from the state it was given.  `Call.Within` sorts the calls: those
in `radioCall` touch the radio, its address or its payload, the restart machinery or the configuration,
and two of them (`modeCall`) decide whether a client can connect; `enableDfu` opens the firmware
upload; a sleep is constrained by its length.  Every other call is always within.  The worlds in which
the properties of whole runs are proved get these specifications through the frame rule.
-/

namespace Everytag

open Interaction

/-- Calls that reach the radio or the advertising machinery, `reboot`, and the one call that changes the
configuration. -/
@[simp] def Call.radioCall : Call → Bool
  | .btEnable | .btDisable | .advStartAirtag .. | .advStartFmdn .. | .advStop | .advUpdateAirtag
  | .advUpdateFmdn | .setMac _ | .reboot | .prepareAirtag _ | .startSettingsAdv | .stopSettingsAdv
  | .broadcastIbeacon _ | .beaconAdvCancelSync | .beaconAdvSetAllowed _ | .setTurnedOn _ => true
  | .uptimeSeconds | .setTxPower _ | .batteryVoltage | .isCharging | .wdtFeed | .blinkLed .. | .powerOff
  | .buttonPressed | .sleepMs _ | .storeTime | .prepareFmdn _ | .accelRead | .accelInit | .accelPowerdown
  | .bqReinit _ | .bqShipmode | .updateTurnedOn _ | .enableDfu | .disableDfu | .setStatusBytes ..
  | .config | .configKey _ | .computeAccelByte | .accelTemperature | .glueSyncGattState => false

/-- Calls that start the connectable advertisement, or forbid its restart. -/
@[simp] def Call.modeCall : Call → Bool
  | .startSettingsAdv | .beaconAdvSetAllowed _ => true
  | _ => false

/-- What a program may do, and what it knows of a configuration: the lengths of its sleeps, its indices
into the key ring, and whether it reaches the radio, changes the mode, reads the battery or opens the
upload. -/
structure Policy where
  sleep : UInt32 → Prop
  index : UInt8 → Prop
  radio : Prop
  mode : Prop
  reading : Prop
  dfu : Prop
  config : BeaconConfig → Prop

/-- The code keeps within a policy that lets it sleep for nonzero constants and for the length of a
tick, and index below the number of keys. -/
structure Policy.Sound (P : Policy) : Prop where
  sleep : ∀ ms, ms ≠ 0 → P.sleep ms
  tick : ∀ cfg : BeaconConfig, P.config cfg → P.sleep (1000 * cfg.multPeriod.toUInt32)
  index : ∀ (cfg : BeaconConfig) (i : UInt8), P.config cfg → i < cfg.numKeys → P.index i

/-- Nothing known of a configuration and nothing promised, except as `reading` and `dfu` say. -/
def Policy.any (reading dfu : Prop) : Policy where
  sleep _ := True
  index _ := True
  radio := True
  mode := True
  reading := reading
  dfu := dfu
  config _ := True

theorem Policy.any_sound {reading dfu : Prop} : (Policy.any reading dfu).Sound :=
  ⟨fun _ _ => trivial, fun _ _ => trivial, fun _ _ _ _ => trivial⟩

/-- Everything but the radio. -/
def Policy.quiet : Policy := { Policy.any True True with radio := False }

theorem Policy.quiet_sound : Policy.quiet.Sound :=
  ⟨fun _ _ => trivial, fun _ _ => trivial, fun _ _ _ _ => trivial⟩

@[mk_iff within_iff]
structure Call.Within (P : Policy) (c : Call) : Prop where
  radio : c.radioCall = true → P.radio
  mode : c.modeCall = true → P.mode
  reading : c = .batteryVoltage → P.reading
  dfu : c = .enableDfu → P.dfu
  sleep : ∀ ms, c = .sleepMs ms → P.sleep ms
  index : ∀ i, c = .configKey i → P.index i

attribute [simp] Call.within_iff

/-- Nothing is known of an answer, except of a configuration. -/
@[simp] def Answers (P : Policy) : (c : Call) → c.Ans → Prop
  | .config, cfg => P.config cfg
  | _, _ => True

/-- With every configuration admitted, so is every answer. -/
theorem answers_of_config {P : Policy} (h : ∀ cfg, P.config cfg) (c : Call) (a : c.Ans) : Answers P c a := by
  cases c with
  | config => exact h a
  | _ => trivial

abbrev calls (P : Policy) : World Call Call.Ans Unit := free (Call.Within P) (Answers P)

/-- What a program returns whatever the calls answer, it returns in every world that allows all calls. -/
theorem wp_of_calls {W α : Type} {E : World Call Call.Ans W} (hE : ∀ w c, E.allowed w c) {p : Main α}
    {Q : α → Prop} (hp : wp (calls (.any True True)) p (fun a _ => Q a) ()) {w : W} :
    wp E p (fun a _ => Q a) w :=
  wp_mono (fun _ _ h => h.1) (wp_frame hp (fun _ => True) (fun _ _ _ _ => trivial)
    (fun w c _ _ => ⟨hE w c, fun a _ _ => ⟨answers_of_config (fun _ => trivial) c a, trivial⟩⟩) trivial)

section

variable {P : Call → Prop} {R : (c : Call) → c.Ans → Prop} {u : Unit}

theorem waitButtonRelease_free {ms : UInt32} {Q : Unit → Unit → Prop} (hbutton : P .buttonPressed)
    (hsleep : P (.sleepMs ms)) (hfeed : P .wdtFeed) (hQ : Q () u) : wp (free P R) (waitButtonRelease ms) Q u := by
  refine wp_loop _ (fun _ => True) trivial ?_
  intro w _
  simpa [hbutton, hsleep, hfeed] using fun _ _ => hQ

theorem StateMachine.uploadWait_free (n : Nat) (hsleep : P (.sleepMs 4000)) (hstore : P .storeTime)
    (hfeed : P .wdtFeed) : wp (free P R) (uploadWait n) (fun _ _ => True) u := by
  induction n with
  | zero => simp [uploadWait]
  | succ n ih => simpa [uploadWait, hsleep, hstore, hfeed] using fun _ _ _ _ _ _ => ih

/-- Nothing but the state changes, and nothing follows it. -/
theorem StateMachine.firmwareUpload_free {s : StateMachine}
    (h : ∀ c ∈ [Call.enableDfu, .beaconAdvCancelSync, .stopSettingsAdv, .startSettingsAdv, .sleepMs 4000,
      .storeTime, .wdtFeed, .disableDfu, .reboot], P c) :
    wp (free P R) (firmwareUpload s) (fun s' _ => s' = { s with state := .firmwareUpload }) u := by
  simp only [List.forall_mem_cons] at h
  obtain ⟨henable, hcancel, hstop, hstart, hsleep, hstore, hfeed, hdisable, hreboot, -⟩ := h
  simp only [firmwareUpload, issue, wp_bind, wp_issue, free_allowed, free_step, henable, hcancel, hstop, hstart,
    true_and]
  refine fun _ _ _ _ _ _ _ _ _ _ _ _ => wp_mono (fun _ _ _ => ?_) (uploadWait_free 15 hsleep hstore hfeed)
  simp [hdisable, hreboot]

theorem StateMachine.accelInitRetry_free (n : Nat) (hinit : P .accelInit) :
    wp (free P R) (accelInitRetry n) (fun _ _ => True) u := by
  induction n with
  | zero => simp [accelInitRetry]
  | succ n ih => simpa [accelInitRetry, hinit] using fun _ _ _ _ => ih

end

section

variable {P : Policy} {u : Unit}

theorem waitButtonRelease_calls {ms : UInt32} {Q : Unit → Unit → Prop} (h : P.sleep ms)
    (hQ : Q () u) : wp (calls P) (waitButtonRelease ms) Q u :=
  waitButtonRelease_free (by simp) (by simp [h]) (by simp) hQ

namespace StateMachine

variable {s : StateMachine}

/-! ## Routine duties -/

/-- Only the charge lock differs, and it has not grown. -/
def OnlyLock (s s' : StateMachine) : Prop :=
  ∃ n ≤ s.chargeLockCounter, s' = { s with chargeLockCounter := n }

@[simp] theorem onlyLock_self : OnlyLock s s := ⟨_, le_refl _, rfl⟩

@[simp] theorem onlyLock_mk {n : Int} :
    OnlyLock s { s with chargeLockCounter := n } ↔ n ≤ s.chargeLockCounter := by
  constructor
  · rintro ⟨m, hm, h⟩
    cases h
    exact hm
  · exact fun h => ⟨n, h, rfl⟩

/-- Only timers other than that of the battery check differ. -/
def OnlyTimers (s s' : StateMachine) : Prop :=
  ∃ t : Timers, t.batteryCheck = s.timers.batteryCheck ∧ s' = { s with timers := t }

@[simp] theorem onlyTimers_self : OnlyTimers s s := ⟨s.timers, rfl, rfl⟩

@[simp] theorem onlyTimers_mk {t : Timers} :
    OnlyTimers s { s with timers := t } ↔ t.batteryCheck = s.timers.batteryCheck := by
  constructor
  · rintro ⟨u, hu, h⟩
    cases h
    exact hu
  · exact fun h => ⟨t, h, rfl⟩

/-- Only the flags that the glue copies differ. -/
def OnlyFlags (s s' : StateMachine) : Prop :=
  ∃ f : GattFlags, s' = { s with connectedGatt := f.connected, authorizedGatt := f.authorized,
                                 pauseUpload := f.pauseUpload, needsReset := f.needsReset }

@[simp] theorem onlyFlags_mk (f : GattFlags) : OnlyFlags s
    { s with connectedGatt := f.connected, authorizedGatt := f.authorized,
             pauseUpload := f.pauseUpload, needsReset := f.needsReset } := ⟨f, rfl⟩

theorem syncGattState_calls :
    wp (calls P) (syncGattState s) (fun s' _ => OnlyFlags s s') u := by
  simp [syncGattState]

/-- The sleep of a tick has the length that the period multiplier gives. -/
theorem tickSleep_calls (hP : P.Sound) :
    wp (calls P) (tickSleep s) (fun s' _ => OnlyLock s s') u := by
  simpa [tickSleep, hP.sleep] using fun _ => hP.tick

theorem handleTimeSave_calls :
    wp (calls P) (handleTimeSave s) (fun s' _ => OnlyTimers s s') u := by
  simp [handleTimeSave]

theorem handleMaxPowerBurst_calls :
    wp (calls P) (handleMaxPowerBurst s) (fun s' _ => OnlyTimers s s') u := by
  simp [handleMaxPowerBurst]

theorem handleAccelerometer_calls :
    wp (calls P) (handleAccelerometer s) (fun s' _ => OnlyTimers s s') u := by
  simp [handleAccelerometer]

theorem updateBattery_calls (hb : P.reading) :
    wp (calls P) (updateBattery s)
      (fun s' _ => ∃ v, s' = { s with lastBatteryVoltage := v }) u := by
  simp [updateBattery, hb]

theorem updateStatus_calls :
    wp (calls P) (updateStatus s)
      (fun s' _ => s' = { s with whatInStatus := s.whatInStatus.next }) u := by
  simp [updateStatus]

/-! ## Duties that reach the radio -/

/-- Only `broadcasting_anything_` differs. -/
def OnlyAnything (s s' : StateMachine) : Prop := ∃ b, s' = { s with broadcastingAnything := b }

@[simp] theorem onlyAnything_self : OnlyAnything s s := ⟨_, rfl⟩

@[simp] theorem onlyAnything_mk {b : Bool} : OnlyAnything s { s with broadcastingAnything := b } :=
  ⟨b, rfl⟩

/-- What the under-voltage protection works on is the same, and a machine that was started still is. -/
@[mk_iff sameBattery_iff]
structure SameBattery (s s' : StateMachine) : Prop where
  badPower : s'.badPower = s.badPower
  lastBatteryVoltage : s'.lastBatteryVoltage = s.lastBatteryVoltage
  batteryCheck : s'.timers.batteryCheck = s.timers.batteryCheck
  started : s.state ≠ .initializing → s'.state ≠ .initializing

@[simp] theorem sameBattery_refl : SameBattery s s := ⟨rfl, rfl, rfl, id⟩

theorem SameBattery.trans {s₁ s₂ s₃ : StateMachine} (h : SameBattery s₁ s₂) (h' : SameBattery s₂ s₃) :
    SameBattery s₁ s₃ :=
  ⟨h'.1.trans h.1, h'.2.trans h.2, h'.3.trans h.3, h'.4 ∘ h.4⟩

theorem SameBattery.shutDown {s' : StateMachine} (h : SameBattery s s') :
    SameBattery s { s' with state := .shuttingDown } :=
  ⟨h.1, h.2, h.3, fun _ => by nofun⟩

theorem OnlyTimers.sameBattery {s' : StateMachine} : OnlyTimers s s' → SameBattery s s' := by
  rintro ⟨t, ht, rfl⟩
  exact ⟨rfl, rfl, ht, id⟩

theorem broadcast_only (hr : P.radio) :
    wp (calls P) (broadcast s) (fun s' _ => OnlyAnything s s') u := by
  simp [broadcast, hr]

theorem broadcast_calls {Q : StateMachine → Unit → Prop} (hr : P.radio)
    (hQ : ∀ b, Q { s with broadcastingAnything := b } u) :
    wp (calls P) (broadcast s) Q u :=
  wp_mono (fun _ _ ⟨b, hb⟩ => hb ▸ hQ b) (broadcast_only hr)

theorem handleBatteryCheck_calls (hr : P.radio) (hb : P.reading) : wp (calls P) (handleBatteryCheck s)
    (fun s' _ => s'.state = s.state ∧ s'.broadcastingSettings = s.broadcastingSettings) u := by
  simp [handleBatteryCheck, updateBattery, updateStatus, broadcast_calls, hr, hb]

/-- A duty that may end the tick: if it does, the machine shuts down. -/
def Ends (s : StateMachine) (r : Bool × StateMachine) : Prop :=
  r = (false, s) ∨ r = (true, { s with state := .shuttingDown })

theorem handleNokeysShutdown_calls :
    wp (calls P) (handleNokeysShutdown s) (fun r _ => Ends s r) u := by
  simp [handleNokeysShutdown, Ends]

theorem handleUvloShutdown_calls (hr : P.radio) (hm : P.mode) : wp (calls P) (handleUvloShutdown s)
    (fun r _ => ∃ n b, Ends { s with chargeLockCounter := n, badPower := b } r) u := by
  simp [handleUvloShutdown, Ends, hr, hm]

theorem handleButtonLongpress_calls (hP : P.Sound) (hr : P.radio) (hm : P.mode) :
    wp (calls P) (handleButtonLongpress s) (fun r _ => Ends s r) u := by
  simp [handleButtonLongpress, Ends, hr, hm, hP.sleep, waitButtonRelease_calls]

theorem restoreMac_calls (hr : P.radio) : wp (calls P) (restoreMac s) (fun _ _ => True) u := by
  simp [restoreMac, hr]

theorem ibeaconFallback_calls (hr : P.radio) :
    wp (calls P) (ibeaconFallback s) (fun _ _ => True) u := by
  simp [ibeaconFallback, hr]

theorem handleSettingsModeEntry_calls (hr : P.radio) (hm : P.mode) :
    wp (calls P) (handleSettingsModeEntry s) (fun s' _ => SameBattery s s') u := by
  simp [handleSettingsModeEntry, useSettingsMac, sameBattery_iff, hr, hm]

theorem handleKeyRotation_calls (hP : P.Sound) (hr : P.radio) : wp (calls P) (handleKeyRotation s)
    (fun s' _ => SameBattery s s' ∧ s'.state = s.state) u := by
  have hidx (cfg : BeaconConfig) (h : P.config cfg) (h0 : ¬ cfg.numKeys = 0) :
      P.index (rotate s.currentKey cfg.numKeys) := hP.index cfg _ h (rotate_lt _ h0)
  simp +contextual [handleKeyRotation, setMacFromCurrentKey, sameBattery_iff, broadcast_calls, hidx, hr]

theorem tickBroadcast_calls (hr : P.radio) : wp (calls P) (tickBroadcast s)
    (fun s' _ => SameBattery s s' ∧ s'.state = s.state) u := by
  simp [tickBroadcast, handleInitialBroadcast, handleAirtagFmdnAlternation, sameBattery_iff,
    broadcast_calls, hr]

/-! ## A tick -/

theorem tickDuties_calls (hP : P.Sound) (hr : P.radio) (hm : P.mode) :
    wp (calls P) (tickDuties s) (fun s' _ => SameBattery s s') u := by
  simp only [tickDuties, issue, wp_bind, wp_issue, wp_ite, free_allowed, free_step]
  refine ⟨by simp, fun now _ _ => ⟨fun _ => ?_, fun _ => ?_⟩⟩
  · exact handleSettingsModeEntry_calls hr hm
  · refine wp_mono (fun s₁ _ h₁ => ?_) handleMaxPowerBurst_calls
    refine wp_seq (handleKeyRotation_calls hP hr) ?_
    intro s₂ _ hpost
    obtain ⟨h₂, _⟩ := hpost
    refine wp_seq (handleButtonLongpress_calls hP hr hm) ?_
    intro r _ h₃
    have h12 := h₁.sameBattery.trans h₂
    rcases h₃ with rfl | rfl
    · refine wp_seq handleAccelerometer_calls ?_
      intro s₄ _ h₄
      exact wp_mono (fun s₅ _ h₅ => (h12.trans h₄.sameBattery).trans h₅.1) (tickBroadcast_calls hr)
    · simpa using h12.shutDown

theorem uploadWait_calls (hP : P.Sound) (n : Nat) :
    wp (calls P) (uploadWait n) (fun _ _ => True) u :=
  uploadWait_free n (by simp [hP.sleep]) (by simp) (by simp)

theorem firmwareUpload_only (hP : P.Sound) (hr : P.radio) (hm : P.mode) (hd : P.dfu) :
    wp (calls P) (firmwareUpload s) (fun s' _ => s' = { s with state := .firmwareUpload }) u :=
  firmwareUpload_free (by simp [hP.sleep, hr, hm, hd])

theorem firmwareUpload_calls (hP : P.Sound) (hr : P.radio) (hm : P.mode) (hd : P.dfu) :
    wp (calls P) (firmwareUpload s) (fun s' _ => SameBattery s s') u := by
  refine wp_mono ?_ (firmwareUpload_only hP hr hm hd)
  rintro _ _ rfl
  exact ⟨rfl, rfl, rfl, by nofun⟩

theorem leaveSettings_calls (hr : P.radio) :
    wp (calls P) (leaveSettings s) (fun s' _ => SameBattery s s') u := by
  simp [leaveSettings, restoreMac, ibeaconFallback, sameBattery_iff, hr]

/-- The rule of the way out: `J` holds through the waits, each followed by a feed, up to the decision. -/
theorem handleSettingsModeExit_decides {W : Type} {E : World Call Call.Ans W} {J : W → Prop}
    {Q : StateMachine → W → Prop} {w : W} (huptime : ∀ w, J w → wp E (issue .uptimeSeconds) (fun _ => J) w)
    (hwait : ∀ ms w, ms = 2000 ∨ ms = 4000 → J w →
      wp E (issue (.sleepMs ms)) (fun _ => wp E (issue .wdtFeed) fun _ => J) w)
    (hstay : ∀ w, J w → wp E (pure s) Q w) (hupload : ∀ w, J w → wp E (firmwareUpload s) Q w)
    (hleave : ∀ w, J w → wp E (leaveSettings s) Q w) (hw : J w) : wp E (handleSettingsModeExit s) Q w := by
  have hdecide (w : W) (h : J w) : wp E (if s.pauseUpload then firmwareUpload s else leaveSettings s) Q w := by
    split
    · exact hupload w h
    · exact hleave w h
  have hthen {ms : UInt32} {p : Main StateMachine} {w : W} (hms : ms = 2000 ∨ ms = 4000) (h : J w)
      (hp : ∀ w, J w → wp E p Q w) : wp E (do issue (.sleepMs ms); issue .wdtFeed; p) Q w :=
    wp_seq (hwait ms w hms h) fun _ _ h => wp_seq h fun _ w h => hp w h
  refine wp_seq (huptime w hw) fun now w₁ h₁ => ?_
  split
  · exact hstay w₁ h₁
  dsimp only
  split <;> split
  · exact hthen (.inl rfl) h₁ fun _ h => hthen (.inr rfl) h hdecide
  · exact hthen (.inl rfl) h₁ hdecide
  · exact hthen (.inr rfl) h₁ hdecide
  · exact hdecide w₁ h₁

theorem handleSettingsModeExit_calls (hP : P.Sound) (hr : P.radio) (hm : P.mode)
    (hd : s.pauseUpload = true → P.dfu) :
    wp (calls P) (handleSettingsModeExit s) (fun s' _ => SameBattery s s') u := by
  have hup : s.pauseUpload = true → ∀ u,
      wp (calls P) (firmwareUpload s) (fun s' _ => SameBattery s s') u :=
    fun h _ => firmwareUpload_calls hP hr hm (hd h)
  simp +contextual [handleSettingsModeExit, hP.sleep, hup, leaveSettings_calls, hr]

theorem tickBroadcasting_calls (hP : P.Sound) (hr : P.radio) (hm : P.mode) (hb : P.reading) :
    wp (calls P) (tickBroadcasting s) (fun _ _ => True) u := by
  refine wp_seq handleTimeSave_calls ?_
  intro s₁ _ _
  refine wp_seq (handleBatteryCheck_calls hr hb) ?_
  intro s₂ _ _
  refine wp_seq (handleUvloShutdown_calls hr hm) ?_
  intro r _ hpost
  obtain ⟨n, b, h₃⟩ := hpost
  rcases h₃ with rfl | rfl
  · refine wp_seq handleNokeysShutdown_calls ?_
    intro r _ h₄
    rcases h₄ with rfl | rfl
    · exact wp_mono (fun _ _ _ => trivial) (tickDuties_calls hP hr hm)
    · simp
  · simp

/-- The whole tick: the firmware upload opens only under `pause_upload_`. -/
theorem tick_calls (hP : P.Sound) (hr : P.radio) (hm : P.mode) (hb : P.reading)
    (hd : s.pauseUpload = true → P.dfu) :
    wp (calls P) (tick s) (fun _ _ => True) u := by
  simp only [tick, wp_ite, wp_pure, wp_bind]
  refine ⟨fun _ => trivial, fun _ => ?_⟩
  refine wp_mono (fun s₁ _ h₁ => ?_) (tickSleep_calls hP)
  obtain ⟨n, _, rfl⟩ := h₁
  split
  · exact wp_mono (fun _ _ _ => trivial) (handleSettingsModeExit_calls hP hr hm hd)
  · exact tickBroadcasting_calls hP hr hm hb

/-! ## Startup -/

theorem accelInitRetry_calls (n : Nat) :
    wp (calls P) (accelInitRetry n) (fun _ _ => True) u :=
  accelInitRetry_free n (by simp)

theorem wakePeripherals_calls (hP : P.Sound) : wp (calls P) wakePeripherals (fun _ _ => True) u := by
  simp only [wakePeripherals, issue, wp_bind, wp_issue, free_allowed, free_step]
  refine ⟨by simp, fun _ _ _ => ⟨by simp [hP.sleep], fun _ _ _ => ⟨by simp, fun _ _ _ => ?_⟩⟩⟩
  exact wp_mono (fun _ _ _ => by simp) (accelInitRetry_calls 3)

/-- The ring is at its first key, and only the address differs. -/
def FirstKey (s s' : StateMachine) : Prop := ∃ addr, s' = { s with currentKey := 0, bleAddr := addr }

@[simp] theorem firstKey_mk {addr : Mac} :
    FirstKey s { s with currentKey := 0, bleAddr := addr } := ⟨addr, rfl⟩

theorem prepareKeys_calls (hP : P.Sound) (hr : P.radio) :
    wp (calls P) (prepareKeys s) (fun s' _ => FirstKey s s') u := by
  have h0 (cfg : BeaconConfig) (h : P.config cfg) (hn : 0 < cfg.numKeys) : P.index 0 :=
    hP.index cfg 0 h hn
  simpa [prepareKeys, setMacFromCurrentKey, hr] using fun _ _ cfg h hn => ⟨h0 cfg h hn, h0⟩

theorem setInitialMac_calls (hr : P.radio) : wp (calls P) (setInitialMac s) (fun _ _ => True) u := by
  simp [setInitialMac, hr]

theorem startRadio_calls (hr : P.radio) : wp (calls P) (startRadio s) (fun _ _ => True) u := by
  simp [startRadio, ibeaconFallback, hr]

/-- What a machine that starts has set. -/
def Started (s s' : StateMachine) : Prop :=
  ∃ (addr : Mac) (v : UInt16), s' = { s with
    state := .broadcasting, currentKey := 0, bleAddr := addr, lastBatteryVoltage := v,
    whatInStatus := s.whatInStatus.next, broadcastingAnything := false, broadcastingAirtag := false,
    broadcastingFmdn := false, broadcastingSettings := false }

theorem startUp_started (hP : P.Sound) (hr : P.radio) (hb : P.reading) :
    wp (calls P) (startUp s) (fun s' _ => Started s s') u := by
  refine wp_seq (wakePeripherals_calls hP) ?_
  intro _ _ _
  refine wp_seq (prepareKeys_calls hP hr) ?_
  intro s₁ _ h₁
  obtain ⟨addr, rfl⟩ := h₁
  refine wp_seq (setInitialMac_calls hr) ?_
  intro _ _ _
  refine wp_seq (updateBattery_calls hb) ?_
  intro s₂ _ h₂
  obtain ⟨v, rfl⟩ := h₂
  refine wp_seq updateStatus_calls ?_
  intro s₃ _ h₃
  subst h₃
  refine wp_seq (startRadio_calls hr) ?_
  intro _ _ _
  refine wp_seq (waitButtonRelease_calls (Q := fun _ _ => True) (hP.sleep 1000 (by decide)) trivial) ?_
  intro _ _ _
  exact (wp_pure _ _ _ _).2 ⟨addr, v, rfl⟩

/-- A machine that starts broadcasts, and its charge lock is what it was. -/
theorem startUp_calls (hP : P.Sound) (hr : P.radio) (hb : P.reading) : wp (calls P) (startUp s)
    (fun s' _ => s'.state = .broadcasting ∧ s'.chargeLockCounter = s.chargeLockCounter) u := by
  refine wp_mono ?_ (startUp_started hP hr hb)
  rintro _ _ ⟨addr, v, rfl⟩
  exact ⟨rfl, rfl⟩

theorem initializeMachine_calls (hP : P.Sound) (hr : P.radio) (hb : P.reading) :
    wp (calls P) (initializeMachine s)
      (fun s' _ => s'.state = .broadcasting ∨ s'.state = .shuttingDown) u := by
  have hstart (u : Unit) : wp (calls P) (startUp s)
      (fun s' _ => s'.state = .broadcasting ∨ s'.state = .shuttingDown) u :=
    wp_mono (fun _ _ h => .inl h.1) (startUp_calls hP hr hb)
  simp [initializeMachine, hP.sleep, hr, hstart]

theorem mainLoop_calls (hP : P.Sound) (hr : P.radio) (hm : P.mode) (hb : P.reading) (hd : P.dfu) :
    wp (calls P) (mainLoop s) (fun _ _ => True) u :=
  wp_seq syncGattState_calls fun _ _ _ => tick_calls hP hr hm hb fun _ => hd

end StateMachine
end
end Everytag
