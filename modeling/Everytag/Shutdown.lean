import Everytag.Footprint

/-!
# Boards without self-shutdown

Boards that define neither `BATTERY_UVLO_SHUTDOWN` nor `SHUTDOWN_NOKEYS` in `myboards.h` run the same
state machine as the others; their `is_charging` is false and their `battery_voltage` may be 0 for ever.
`TickInputs` are the answers that the two shutdown handlers of one tick look at.  A tick shuts the device
down without the button exactly if it is not `Spared` (`mainLoop_optIn`).
-/

namespace Everytag

open Interaction StateMachine

/-- The configuration during a tick, the uptimes that `handle_battery_check` and `handle_nokeys_shutdown` read,
and the answer of `battery_voltage`. -/
structure TickInputs where
  cfg : BeaconConfig
  check : UInt32
  reading : Int
  nokeys : UInt32

/-- The voltage that the under-voltage check of a tick begun in `s` works on. -/
def TickInputs.voltage (i : TickInputs) (s : StateMachine) : UInt16 :=
  if i.check < s.timers.batteryCheck + kIntervalBatteryCheck then s.lastBatteryVoltage
  else storedVoltage i.reading

/-- The sixth low reading in a row, as the state machine counts them. -/
def TickInputs.low (i : TickInputs) (s : StateMachine) : Prop :=
  i.voltage s < kBatteryLowVoltage ∧ kUvloBadPowerThreshold < s.badPower + 1

/-- Both protocols off after five minutes. -/
def TickInputs.noProtocol (i : TickInputs) : Prop :=
  i.cfg.flagAirtag = false ∧ i.cfg.flagFmdn = false ∧ kShutdownNokeys < i.nokeys

/-- The tick comes to the two handlers. -/
def Judges (s : StateMachine) : Prop :=
  s.state ≠ .shuttingDown ∧ s.state ≠ .firmwareUpload ∧ s.state ≠ .settingsMode ∧
    s.broadcastingSettings = false

/-- The handlers find no reason for a shutdown. -/
def Spared (s : StateMachine) (i : TickInputs) : Prop := Judges s → ¬ i.low s ∧ ¬ i.noProtocol

/-- Ghost state of a tick: the reads of the uptime so far, and whether the long press has switched the device
off. -/
structure Board where
  asked : Nat := 0
  pressed : Bool := false

@[simp] def Board.Next (i : TickInputs) (w : Board) : (c : Call) → c.Ans → Board → Prop
  | .uptimeSeconds, now, w' =>
    (w.asked = 1 → now = i.check) ∧ (w.asked = 2 → now = i.nokeys) ∧ w' = { w with asked := w.asked + 1 }
  | .isCharging, charging, w' => charging = false ∧ w' = w
  | .batteryVoltage, v, w' => v = i.reading ∧ w' = w
  | .config, cfg, w' => cfg = i.cfg ∧ w' = w
  | .updateTurnedOn on, _, w' => w' = { w with pressed := w.pressed || !on }
  | _, _, w' => w' = w

/-- A board without a charger, during a tick with the inputs `i`. -/
def optIn (i : TickInputs) : World Call Call.Ans Board where
  allowed _ _ := True
  step w c a w' := w.Next i c a w'
  move _ _ := False

section

variable {i : TickInputs} {s : StateMachine} {w w' : Board}

instance : (optIn i).Sequential := ⟨fun _ _ h => h⟩

@[simp] theorem optIn_allowed (c : Call) : (optIn i).allowed w c ↔ True := Iff.rfl

@[simp] theorem optIn_step (c : Call) (a : c.Ans) : (optIn i).step w c a w' ↔ w.Next i c a w' := Iff.rfl

/-- What a program returns in every world it returns here. -/
theorem wp_optIn {α : Type} {p : Main α} {Q : α → Prop}
    (hp : wp (calls (.any True True)) p (fun a _ => Q a) ()) : wp (optIn i) p (fun a _ => Q a) w :=
  wp_mono (fun _ _ h => h.1) (wp_frame (E := optIn i) hp (fun _ => True) (fun _ _ _ _ => trivial)
    (fun _ c _ _ => ⟨trivial, fun a _ _ => ⟨answers_of_config (fun _ => trivial) c a, trivial⟩⟩) trivial)

/-! ## Up to the two handlers -/

theorem syncGattState_optIn :
    wp (optIn i) (syncGattState s) (fun s' w' => OnlyFlags s s' ∧ w' = w) w := by
  simp [syncGattState]

theorem tickSleep_optIn :
    wp (optIn i) (tickSleep s) (fun s' w' => OnlyLock s s' ∧ w' = w) w := by
  simp [tickSleep]

theorem handleTimeSave_optIn : wp (optIn i) (handleTimeSave s)
    (fun s' w' => OnlyTimers s s' ∧ w' = { w with asked := w.asked + 1 }) w := by
  simp +contextual [handleTimeSave]

theorem updateStatus_optIn : wp (optIn i) (updateStatus s)
    (fun s' w' => s' = { s with whatInStatus := s.whatInStatus.next } ∧ w' = w) w := by
  simp [updateStatus]

theorem broadcast_optIn :
    wp (optIn i) (broadcast s) (fun s' w' => OnlyAnything s s' ∧ w' = w) w := by
  simp [broadcast]

theorem updateBattery_optIn : wp (optIn i) (updateBattery s)
    (fun s' w' => s' = { s with lastBatteryVoltage := storedVoltage i.reading } ∧ w' = w) w := by
  simp +contextual [updateBattery]

/-- The battery check is the second read of the uptime. -/
theorem handleBatteryCheck_optIn (hw : w.asked = 1) : wp (optIn i) (handleBatteryCheck s)
    (fun s' w' => (s'.lastBatteryVoltage = i.voltage s ∧ s'.badPower = s.badPower ∧
        s'.chargeLockCounter = s.chargeLockCounter ∧ s'.state = s.state) ∧
      w' = { w with asked := 2 }) w := by
  simp only [handleBatteryCheck, issue, wp_bind (p := Prog.issue _), wp_issue, wp_ite, wp_pure,
    optIn_allowed, optIn_step, Board.Next, true_and]
  rintro now _ ⟨hnow, -, rfl⟩
  rw [hnow hw, hw]
  refine ⟨fun hlt => by simp [TickInputs.voltage, hlt], fun hge => ?_⟩
  have hvoltage : i.voltage s = storedVoltage i.reading := by rw [TickInputs.voltage, if_neg hge]
  refine wp_seq updateBattery_optIn ?_
  intro s₁ w₁ hpost
  obtain ⟨rfl, rfl⟩ := hpost
  refine wp_seq updateStatus_optIn ?_
  intro s₂ w₂ hpost
  obtain ⟨rfl, rfl⟩ := hpost
  simp only [wp_bind, wp_issue, optIn_allowed, optIn_step, Board.Next, true_and]
  rintro cfg _ ⟨-, rfl⟩
  split
  · refine wp_mono (fun s₃ w₃ hpost => ?_) broadcast_optIn
    obtain ⟨⟨b, rfl⟩, rfl⟩ := hpost
    exact ⟨⟨hvoltage.symm, rfl, rfl, rfl⟩, rfl⟩
  · rw [wp_pure]
    exact ⟨⟨hvoltage.symm, rfl, rfl, rfl⟩, rfl⟩

/-- Nothing charges the battery, and the lock stays open. -/
theorem handleUvloShutdown_optIn (hlock : s.chargeLockCounter ≤ 0) : wp (optIn i) (handleUvloShutdown s)
    (fun r w' => (r.1 = true ↔ s.lastBatteryVoltage < kBatteryLowVoltage ∧
          kUvloBadPowerThreshold < s.badPower + 1) ∧
        r.2.state = (if r.1 then .shuttingDown else s.state) ∧
        r.2.chargeLockCounter = s.chargeLockCounter ∧ w' = w) w := by
  by_cases hlow : s.lastBatteryVoltage < kBatteryLowVoltage
  · by_cases hbad : kUvloBadPowerThreshold < s.badPower + 1
    · simp [handleUvloShutdown, hlock, hlow, hbad]
    · simp [handleUvloShutdown, hlock, hlow, UInt8.not_lt.1 hbad]
  · simp [handleUvloShutdown, UInt16.not_lt.1 hlow]

theorem handleNokeysShutdown_optIn (hw : w.asked = 2) : wp (optIn i) (handleNokeysShutdown s)
    (fun r w' => (r.1 = true ↔ i.noProtocol) ∧ Ends s r ∧ w'.pressed = w.pressed) w := by
  by_cases hflags : i.cfg.flagAirtag = false ∧ i.cfg.flagFmdn = false
  · by_cases hlate : kShutdownNokeys < i.nokeys
    · simp [handleNokeysShutdown, Ends, hw, TickInputs.noProtocol, hflags, hlate]
    · simp [handleNokeysShutdown, Ends, hw, TickInputs.noProtocol, hflags, UInt32.not_lt.1 hlate]
  · simpa [handleNokeysShutdown, Ends, hw, TickInputs.noProtocol] using
      ⟨fun ha hf => absurd ⟨ha, hf⟩ hflags, fun _ ha hf => absurd ⟨ha, hf⟩ hflags⟩

/-! ## The rest of the tick -/

/-- Neither the lock nor the state differs. -/
def SameLock (s s' : StateMachine) : Prop :=
  s'.chargeLockCounter = s.chargeLockCounter ∧ s'.state = s.state

theorem StateMachine.OnlyTimers.sameLock {s' : StateMachine} : OnlyTimers s s' → SameLock s s' := by
  rintro ⟨t, -, rfl⟩
  exact ⟨rfl, rfl⟩

/-- The lock is the same and the machine runs on. -/
def RunsOn (s s' : StateMachine) : Prop :=
  s'.chargeLockCounter = s.chargeLockCounter ∧ s'.state ≠ .shuttingDown

theorem handleKeyRotation_sameLock :
    wp (optIn i) (handleKeyRotation s) (fun s' _ => SameLock s s') w :=
  wp_optIn (by simp [handleKeyRotation, setMacFromCurrentKey, SameLock, broadcast_calls, Policy.any])

theorem tickBroadcast_sameLock : wp (optIn i) (tickBroadcast s) (fun s' _ => SameLock s s') w :=
  wp_optIn (by simp [tickBroadcast, handleInitialBroadcast, handleAirtagFmdnAlternation, SameLock,
    broadcast_calls, Policy.any])

theorem handleSettingsModeEntry_runsOn (hs : s.state ≠ .shuttingDown) (u : Unit) :
    wp (calls (.any True True)) (handleSettingsModeEntry s) (fun s' _ => RunsOn s s') u := by
  simp [handleSettingsModeEntry, useSettingsMac, RunsOn, hs, Policy.any]

theorem firmwareUpload_runsOn {P : Policy} (hP : P.Sound) (hr : P.radio) (hm : P.mode) (hd : P.dfu) (u : Unit) :
    wp (calls P) (firmwareUpload s) (fun s' _ => RunsOn s s') u := by
  refine wp_mono ?_ (firmwareUpload_only hP hr hm hd)
  rintro _ _ rfl
  exact ⟨rfl, by nofun⟩

theorem leaveSettings_runsOn (hs : s.state ≠ .shuttingDown) (u : Unit) :
    wp (calls (.any True True)) (leaveSettings s) (fun s' _ => RunsOn s s') u := by
  simp [leaveSettings, restoreMac, ibeaconFallback, RunsOn, hs, Policy.any]

theorem handleSettingsModeExit_runsOn (hs : s.state ≠ .shuttingDown) (u : Unit) :
    wp (calls (.any True True)) (handleSettingsModeExit s) (fun s' _ => RunsOn s s') u := by
  have hself : RunsOn s s := ⟨rfl, hs⟩
  have hsleep (ms : UInt32) : (Policy.any True True).sleep ms := trivial
  have hsound : (Policy.any True True).Sound := Policy.any_sound
  have hupload := firmwareUpload_runsOn (s := s) hsound trivial trivial trivial
  simp [handleSettingsModeExit, hupload, leaveSettings_runsOn hs, hself, hsleep]

theorem waitButtonRelease_optIn {ms : UInt32} {Q : Unit → Board → Prop}
    (hQ : ∀ w', w'.pressed = w.pressed → Q () w') : wp (optIn i) (waitButtonRelease ms) Q w := by
  refine wp_loop (optIn i) (fun w' => w'.pressed = w.pressed) rfl ?_
  intro w' h
  simpa [h] using hQ w' h

/-- The one way to switch the device off. -/
theorem handleButtonLongpress_optIn : wp (optIn i) (handleButtonLongpress s)
    (fun r w' => Ends s r ∧ (r.1 = true → w'.pressed = true)) w := by
  simp [handleButtonLongpress, Ends, waitButtonRelease_optIn]

theorem StateMachine.Ends.stop_cases {r : Bool × StateMachine} (h : Ends s r) :
    r.1 = false ∧ r.2 = s ∨ r.1 = true ∧ r.2 = { s with state := .shuttingDown } := by
  rcases h with rfl | rfl
  · exact .inl ⟨rfl, rfl⟩
  · exact .inr ⟨rfl, rfl⟩

/-- From the settings timer on, only the button switches the device off. -/
theorem tickDuties_optIn (hs : s.state ≠ .shuttingDown) : wp (optIn i) (tickDuties s)
    (fun s' w' => s'.chargeLockCounter = s.chargeLockCounter ∧
      (s'.state = .shuttingDown → w'.pressed = true)) w := by
  simp only [tickDuties, issue, wp_bind (p := Prog.issue _), wp_issue, wp_ite, optIn_allowed, true_and]
  refine fun now w₁ _ => ⟨fun _ => ?_, fun _ => ?_⟩
  · refine wp_mono (fun s' w' h => ?_) (wp_optIn (handleSettingsModeEntry_runsOn hs ()))
    exact ⟨h.1, fun hdown => absurd hdown h.2⟩
  · refine wp_seq (wp_optIn handleMaxPowerBurst_calls) ?_
    intro s₂ w₂ h₂
    refine wp_seq handleKeyRotation_sameLock ?_
    intro s₃ w₃ h₃
    have hlock₃ : s₃.chargeLockCounter = s.chargeLockCounter := h₃.1.trans h₂.sameLock.1
    have hstate₃ : s₃.state = s.state := h₃.2.trans h₂.sameLock.2
    refine wp_seq handleButtonLongpress_optIn ?_
    intro r w₄ hpost
    obtain ⟨hends, hpressed⟩ := hpost
    obtain ⟨stop, s₄⟩ := r
    rcases hends.stop_cases with ⟨rfl, rfl⟩ | ⟨rfl, rfl⟩
    · refine wp_seq (wp_optIn handleAccelerometer_calls) ?_
      intro s₅ w₅ h₅
      refine wp_mono (fun s₆ w₆ h₆ => ?_) tickBroadcast_sameLock
      have hstate₆ : s₆.state = s.state := h₆.2.trans (h₅.sameLock.2.trans hstate₃)
      exact ⟨h₆.1.trans (h₅.sameLock.1.trans hlock₃), fun hdown => absurd (hstate₆.symm.trans hdown) hs⟩
    · rw [if_pos rfl, wp_pure]
      exact ⟨hlock₃, fun _ => hpressed rfl⟩

theorem TickInputs.low_of_same {s' : StateMachine} (h : SameBattery s s') : i.low s' ↔ i.low s := by
  rw [low, low, voltage, voltage, h.badPower, h.lastBatteryVoltage, h.batteryCheck]

/-- What a tick in broadcasting mode leaves. -/
def Outcome (i : TickInputs) (s : StateMachine) (pressed : Bool) (s' : StateMachine) (w' : Board) : Prop :=
  s'.chargeLockCounter ≤ 0 ∧
    (i.low s ∨ i.noProtocol → s'.state = .shuttingDown ∧ w'.pressed = pressed) ∧
    (¬ i.low s → ¬ i.noProtocol → s'.state = .shuttingDown → w'.pressed = true)

theorem tickBroadcasting_optIn (hs : s.state ≠ .shuttingDown) (hlock : s.chargeLockCounter ≤ 0)
    (hw : w.asked = 0) :
    wp (optIn i) (tickBroadcasting s) (Outcome i s w.pressed) w := by
  refine wp_seq handleTimeSave_optIn ?_
  intro s₁ w₁ hpost
  obtain ⟨h₁, rfl⟩ := hpost
  have hlow₁ : i.low s₁ ↔ i.low s := TickInputs.low_of_same h₁.sameBattery
  obtain ⟨hlock₁, hstate₁⟩ := h₁.sameLock
  refine wp_seq (handleBatteryCheck_optIn (by simp [hw])) ?_
  intro s₂ w₂ hpost
  obtain ⟨⟨hvoltage₂, hbad₂, hlock₂, hstate₂⟩, rfl⟩ := hpost
  refine wp_seq (handleUvloShutdown_optIn (by omega)) ?_
  intro r w₃ hpost
  obtain ⟨hstop₃, hstate₃, hlock₃, rfl⟩ := hpost
  rw [hvoltage₂, hbad₂] at hstop₃
  obtain ⟨stop, s₃⟩ := r
  have hopen : s₃.chargeLockCounter ≤ 0 := by
    rw [hlock₃, hlock₂, hlock₁]
    exact hlock
  cases stop with
  | true =>
    have hlow : i.low s := hlow₁.1 (hstop₃.1 rfl)
    show wp (optIn i) (pure s₃) _ _
    rw [wp_pure]
    exact ⟨hopen, fun _ => ⟨hstate₃, rfl⟩, fun hn => absurd hlow hn⟩
  | false =>
    have hlow : ¬ i.low s := fun h => absurd (hstop₃.2 (hlow₁.2 h)) (by simp)
    have hs₃ : s₃.state = s.state := hstate₃.trans (hstate₂.trans hstate₁)
    refine wp_seq (handleNokeysShutdown_optIn rfl) ?_
    intro r w₄ hpost
    obtain ⟨hstop₄, hends, hpressed₄⟩ := hpost
    obtain ⟨stop, s₄⟩ := r
    rcases hends.stop_cases with ⟨rfl, rfl⟩ | ⟨rfl, rfl⟩
    · have hno : ¬ i.noProtocol := fun h => absurd (hstop₄.2 h) (by simp)
      refine wp_mono (fun s' w' h => ?_) (tickDuties_optIn (by rw [hs₃]; exact hs))
      exact ⟨h.1.trans_le hopen, fun h' => absurd h' (by simp [hlow, hno]), fun _ _ => h.2⟩
    · show wp (optIn i) (pure _) _ _
      rw [wp_pure]
      exact ⟨hopen, fun _ => ⟨rfl, hpressed₄⟩, fun _ hn => absurd (hstop₄.1 rfl) hn⟩

/-! ## Runs -/

/-- Nothing has charged the battery, and a machine that has shut down was switched off. -/
structure SwitchedOff (s : StateMachine) (pressed : Bool) : Prop where
  lock : s.chargeLockCounter ≤ 0
  off : s.state = .shuttingDown → pressed = true

/-- A tick of the main loop, in a machine that is not locked by a charger. -/
theorem mainLoop_optIn (hlock : s.chargeLockCounter ≤ 0) (hw : w.asked = 0) :
    wp (optIn i) (mainLoop s) (fun s' w' => s'.chargeLockCounter ≤ 0 ∧
      (Judges s → Outcome i s w.pressed s' w') ∧
      (¬ Judges s → s'.state = .shuttingDown → s.state = .shuttingDown ∧ w'.pressed = w.pressed)) w := by
  refine wp_seq syncGattState_optIn ?_
  intro s₁ w₁ hpost
  obtain ⟨⟨f, hs₁⟩, rfl⟩ := hpost
  have hstate₁ : s₁.state = s.state := by rw [hs₁]
  have hlock₁ : s₁.chargeLockCounter = s.chargeLockCounter := by rw [hs₁]
  have hsettings₁ : s₁.broadcastingSettings = s.broadcastingSettings := by rw [hs₁]
  have hsame₁ : SameBattery s s₁ := by rw [hs₁]; exact ⟨rfl, rfl, rfl, id⟩
  by_cases hend : s₁.state = .shuttingDown ∨ s₁.state = .firmwareUpload
  · have hnot : ¬ Judges s := fun h => hend.elim (hstate₁ ▸ h.1) (hstate₁ ▸ h.2.1)
    rw [tick_of_ended hend, wp_pure]
    exact ⟨by omega, fun h => absurd h hnot, fun _ hdown => ⟨hstate₁ ▸ hdown, rfl⟩⟩
  rw [tick_of_running hend]
  rw [not_or] at hend
  refine wp_seq tickSleep_optIn ?_
  intro s₂ w₂ hpost
  obtain ⟨⟨n, hn, hs₂⟩, rfl⟩ := hpost
  have hstate₂ : s₂.state = s.state := by rw [hs₂]; exact hstate₁
  have hlock₂ : s₂.chargeLockCounter ≤ 0 := by rw [hs₂]; simp only; omega
  have hsettings₂ : s₂.broadcastingSettings = s.broadcastingSettings := by rw [hs₂]; exact hsettings₁
  have hsame₂ : SameBattery s s₂ := hsame₁.trans (by rw [hs₂]; exact ⟨rfl, rfl, rfl, id⟩)
  have hrun : s₂.state ≠ .shuttingDown := by rw [hstate₂, ← hstate₁]; exact hend.1
  split
  · rename_i hmode
    rw [hstate₂, hsettings₂] at hmode
    have hnot : ¬ Judges s := by
      rintro ⟨-, -, hstate, hsettings⟩
      rcases hmode with hmode | hmode
      · exact hstate hmode
      · rw [hsettings] at hmode
        cases hmode
    refine wp_mono (fun s' w' h => ?_) (wp_optIn (handleSettingsModeExit_runsOn hrun ()))
    exact ⟨by rw [h.1]; exact hlock₂, fun hj => absurd hj hnot, fun _ hdown => absurd hdown h.2⟩
  · rename_i hmode
    rw [hstate₂, hsettings₂, not_or, Bool.not_eq_true] at hmode
    rw [hstate₁] at hend
    have hjudges : Judges s := ⟨hend.1, hend.2, hmode.1, hmode.2⟩
    refine wp_mono (fun s' w' h => ?_) (tickBroadcasting_optIn hrun hlock₂ hw)
    simp only [Outcome, TickInputs.low_of_same hsame₂] at h
    exact ⟨h.1, fun _ => h, fun hnot => absurd hjudges hnot⟩

theorem startUp_optIn (hlock : s.chargeLockCounter ≤ 0) :
    wp (optIn i) (startUp s) (fun s' w' => SwitchedOff s' w'.pressed) w := by
  refine wp_mono (fun s' w' h => ⟨h.2.le.trans hlock, fun hdown => ?_⟩)
    (wp_optIn (startUp_calls Policy.any_sound trivial trivial))
  rw [h.1] at hdown
  cases hdown

/-- A device that is turned on starts. -/
theorem initializeMachine_optIn (hon : i.cfg.turnedOn = true) :
    wp (optIn i) (initializeMachine {}) (fun s' w' => SwitchedOff s' w'.pressed) w := by
  simp [initializeMachine, hon, startUp_optIn]

/-- States at the ends of ticks of a device whose configuration is turned on when it starts; the ticks are
`spared`.  The flag says whether the long press has switched the device off. -/
inductive BoardRun (spared : StateMachine → TickInputs → Prop) : StateMachine → Bool → Prop
  | start {i : TickInputs} {s : StateMachine} {w : Board} : i.cfg.turnedOn = true →
      Reaches (optIn i) (initializeMachine {}, {}) (.ret s, w) → BoardRun spared s w.pressed
  | tick {i : TickInputs} {s s' : StateMachine} {pressed : Bool} {w : Board} : BoardRun spared s pressed →
      spared s i → Reaches (optIn i) (mainLoop s, { pressed := pressed }) (.ret s', w) →
      BoardRun spared s' w.pressed

/-- The lock stays open on a board that never charges. -/
theorem BoardRun.lock {spared : StateMachine → TickInputs → Prop} {pressed : Bool}
    (h : BoardRun spared s pressed) : s.chargeLockCounter ≤ 0 := by
  induction h with
  | start hon hr =>
    exact (wp_value (Q := fun s w => SwitchedOff s w.pressed) (wp_reaches (initializeMachine_optIn hon) hr)).lock
  | tick _ _ hr ih => exact (wp_value (wp_reaches (mainLoop_optIn ih rfl) hr)).1

theorem BoardRun.switchedOff {pressed : Bool} (h : BoardRun Spared s pressed) : SwitchedOff s pressed := by
  induction h with
  | start hon hr =>
    exact wp_value (Q := fun s w => SwitchedOff s w.pressed) (wp_reaches (initializeMachine_optIn hon) hr)
  | @tick i s s' pressed w _ hs hr ih =>
    obtain ⟨hlock, hjudged, hpassed⟩ := wp_value (wp_reaches (mainLoop_optIn ih.lock rfl) hr)
    refine ⟨hlock, fun hdown => ?_⟩
    by_cases hj : Judges s
    · exact (hjudged hj).2.2 (hs hj).1 (hs hj).2 hdown
    · obtain ⟨hwas, hsame⟩ := hpassed hj hdown
      exact hsame.trans (ih.off hwas)

/-- On a board without self-shutdown, the device shuts down only by the long press as long as every tick is
spared: no sixth low reading is counted, and some protocol is on after five minutes.  Any other tick shuts
it down, without a press. -/
theorem self_shutdown_opt_in (s : StateMachine) (pressed : Bool) :
    (BoardRun Spared s pressed → s.state = .shuttingDown → pressed = true) ∧
    (BoardRun (fun _ _ => True) s pressed → ∀ i, ¬ Spared s i →
      wp (optIn i) (mainLoop s) (fun s' w => s'.state = .shuttingDown ∧ w.pressed = pressed)
        { pressed := pressed }) := by
  refine ⟨fun h => h.switchedOff.off, fun h i hs => ?_⟩
  have hj : Judges s := by
    by_contra hj
    exact hs fun h => absurd h hj
  have hreason : i.low s ∨ i.noProtocol := by
    by_contra hno
    rw [not_or] at hno
    exact hs fun _ => hno
  exact wp_mono (fun s' w h => (h.2.1 hj).2.1 hreason) (mainLoop_optIn h.lock rfl)

end

/-! ## A board without battery measurement -/

/-- A device at rest that reads `voltage`, with every uptime of the tick the same. -/
def Board.serve (cfg : BeaconConfig) (voltage : Int) (now : UInt32) (w : Board) (c : Call) :
    Option (c.Ans × Board) :=
  some (answers cfg now voltage c,
    match c with
    | .uptimeSeconds => { w with asked := w.asked + 1 }
    | .updateTurnedOn on => { w with pressed := w.pressed || !on }
    | _ => w)

theorem optIn_step_serve {cfg : BeaconConfig} {voltage : Int} {now : UInt32} (w : Board) (c : Call)
    (x : c.Ans × Board) (hx : w.serve cfg voltage now c = some x) :
    (optIn ⟨cfg, now, voltage, now⟩).step w c x.1 x.2 := by
  cases hx
  cases c with
  | uptimeSeconds => exact ⟨fun _ => rfl, fun _ => rfl, rfl⟩
  | isCharging | batteryVoltage | config => exact ⟨rfl, rfl⟩
  | _ => rfl

/-- Whether the lamp has blinked. -/
def blinking : World Call Call.Ans Bool where
  allowed _ _ := True
  step blinked c _ blinked' := blinked' = (blinked || c matches .blinkLed ..)
  move _ _ := False

/-- A device at rest whose button is held until the lamp blinks. -/
def Board.hold (cfg : BeaconConfig) (now : UInt32) (x : Board × Bool) (c : Call) : Option (c.Ans × Board × Bool) :=
  match c with
  | .buttonPressed => some (!x.2, x)
  | c => (x.1.serve cfg 3000 now c).map fun y => (y.1, y.2, x.2 || c matches .blinkLed ..)

theorem hold_step_serve {cfg : BeaconConfig} {now : UInt32} (x : Board × Bool) (c : Call)
    (y : c.Ans × Board × Bool) (hy : Board.hold cfg now x c = some y) :
    ((optIn ⟨cfg, now, 3000, now⟩).both blinking).step x c y.1 y.2 := by
  cases c with
  | buttonPressed =>
    cases hy
    exact ⟨rfl, (Bool.or_false _).symm⟩
  | _ =>
    cases hy
    exact ⟨optIn_step_serve x.1 _ _ rfl, rfl⟩

/-- Held in the tick at two seconds, the button switches a healthy device off. -/
theorem self_shutdown_opt_in_pressed :
    ∃ s pressed, BoardRun Spared s pressed ∧ s.state = .shuttingDown ∧ pressed = true := by
  let cfg : BeaconConfig := { turnedOn := true, flagAirtag := true }
  obtain ⟨⟨s₀, w₀⟩, h₀, ⟨s, w, blinked⟩, h₁, hearly, hvoltage, hdown⟩ :
      ∃ x₀ ∈ (initializeMachine {}).play (Board.serve cfg 3000 0) {},
      ∃ x₁ ∈ (mainLoop x₀.1).play (Board.hold cfg 2) ({ pressed := x₀.2.pressed }, false),
        2 < x₀.1.timers.batteryCheck + kIntervalBatteryCheck ∧ kBatteryLowVoltage ≤ x₀.1.lastBatteryVoltage ∧
          x₁.1.state = .shuttingDown := by decide
  have hspared : Spared s₀ ⟨cfg, 2, 3000, 2⟩ := by
    refine fun _ => ⟨fun hlow => ?_, fun hno => ?_⟩
    · have hbelow := hlow.1
      rw [TickInputs.voltage, if_pos hearly] at hbelow
      exact absurd hbelow (UInt16.not_lt.2 hvoltage)
    · exact absurd hno.1 (by decide)
  obtain ⟨w', htick, rfl⟩ := World.both_follows_left.reaches (reaches_of_play hold_step_serve h₁) rfl
  have hrun := (BoardRun.start rfl (reaches_of_play optIn_step_serve h₀)).tick hspared htick
  exact ⟨s, w.pressed, hrun, hdown, (self_shutdown_opt_in s w.pressed).1 hrun hdown⟩

/-- Ticks at the uptimes `nows`. -/
def boardTicks (cfg : BeaconConfig) (voltage : Int) :
    List UInt32 → StateMachine × Bool → Option (StateMachine × Bool)
  | [], x => some x
  | now :: nows, (s, pressed) =>
    ((mainLoop s).play (Board.serve cfg voltage now) { pressed := pressed }).bind fun (s', w) =>
      boardTicks cfg voltage nows (s', w.pressed)

theorem BoardRun.ticks {cfg : BeaconConfig} {voltage : Int} {nows : List UInt32} {s : StateMachine}
    {pressed : Bool} {x : StateMachine × Bool} (h : BoardRun (fun _ _ => True) s pressed)
    (hx : boardTicks cfg voltage nows (s, pressed) = some x) : BoardRun (fun _ _ => True) x.1 x.2 := by
  induction nows generalizing s pressed with
  | nil =>
    cases hx
    exact h
  | cons now nows ih =>
    obtain ⟨⟨s', w⟩, hp, hx⟩ := Option.bind_eq_some_iff.1 hx
    exact ih (h.tick trivial (reaches_of_play optIn_step_serve hp)) hx

/-- The device boots and ticks at the uptimes `nows`. -/
def boardPlayed (cfg : BeaconConfig) (voltage : Int) (nows : List UInt32) : Option (StateMachine × Bool) :=
  ((initializeMachine {}).play (Board.serve cfg voltage 0) {}).bind fun (s, w) =>
    boardTicks cfg voltage nows (s, w.pressed)

/-- A board that measures nothing reads 0 for ever, and is shut down in its sixth tick. -/
theorem missing_measurement_shuts_down :
    ¬ ∀ s pressed, BoardRun (fun _ _ => True) s pressed → s.state = .shuttingDown → pressed = true := by
  obtain ⟨x, hx, hdown, hpressed⟩ : ∃ x ∈ boardPlayed { turnedOn := true, flagAirtag := true } 0 [2, 4, 6, 8, 10, 12],
      x.1.state = .shuttingDown ∧ x.2 = false := by decide
  intro h
  obtain ⟨⟨s, w⟩, hp, hticks⟩ := Option.bind_eq_some_iff.1 hx
  have hrun : BoardRun (fun _ _ => True) x.1 x.2 :=
    (BoardRun.start rfl (reaches_of_play optIn_step_serve hp)).ticks hticks
  exact absurd (h x.1 x.2 hrun hdown) (by simp [hpressed])

end Everytag
