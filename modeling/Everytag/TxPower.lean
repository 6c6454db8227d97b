import Everytag.Footprint
import Everytag.Tick

/-!
# Transmit power

Six places request a level.  The world `transmitting` keeps the level requested last and the uptimes read in the
current tick; as long as a settings window is open every call may find another configuration.  Between two
handlers of a broadcasting tick the level is that of the configuration, or 2 with a deadline set (`Lit`), and
what follows the burst handler keeps it so (`OnLevel`): the window asks for 0, the way back and the rotation for
`tx_power`, and the handler itself ends every burst that is due.
-/

namespace Everytag

open Interaction StateMachine

structure Transmitter where
  /-- from `start_settings_adv` to the next `bt_disable` -/
  window : Bool := false
  cfg : BeaconConfig
  /-- the level requested last -/
  level : Option Int := none
  latest : UInt32 := 0
  /-- the uptimes read in the current tick -/
  reads : List UInt32 := []

namespace Transmitter

/-- Uptimes do not decrease, and stay clear of the end of their range.  Nothing follows `reboot` and
`power_off`. -/
@[simp] def Next (w : Transmitter) : (c : Call) → c.Ans → Transmitter → Prop
  | .uptimeSeconds, now, w' =>
    w.latest ≤ now ∧ now.toNat < 4294960096 ∧ w' = { w with latest := now, reads := w.reads ++ [now] }
  | .glueSyncGattState, _, w' => w' = { w with reads := [] }
  | .config, cfg, w' => cfg = w.cfg ∧ w' = w
  | .btDisable, _, w' => w' = { w with window := false }
  | .startSettingsAdv, _, w' => w' = { w with window := true }
  | .reboot, _, _ | .powerOff, _, _ => False
  | .setTxPower level, _, w' => w' = { w with level := some level }
  | .setTurnedOn on, _, w' => w' = { w with cfg := w.cfg.setTurnedOn on }
  | _, _, w' => w' = w

end Transmitter

/-- In an open window every call may find a new configuration. -/
def transmitting : World Call Call.Ans Transmitter where
  allowed _ _ := True
  step w c a w' := ∃ cfg, (cfg = w.cfg ∨ w.window = true) ∧ { w with cfg := cfg }.Next c a w'
  move _ _ := False

section

variable {s s' : StateMachine} {w w' : Transmitter} {n : Nat} {e : UInt32}

instance : transmitting.Sequential := ⟨fun _ _ h => h⟩

@[simp] theorem transmitting_allowed (c : Call) : transmitting.allowed w c ↔ True := Iff.rfl

theorem transmitting_step (c : Call) (a : c.Ans) : transmitting.step w c a w' ↔
    ∃ cfg, (cfg = w.cfg ∨ w.window = true) ∧ { w with cfg := cfg }.Next c a w' := Iff.rfl

/-- With the window closed the configuration stays. -/
theorem transmitting_step_closed (hw : w.window = false) (c : Call) (a : c.Ans) :
    transmitting.step w c a w' ↔ w.Next c a w' := by
  obtain ⟨window, cfg, level, latest, reads⟩ := w
  cases hw
  simp only [transmitting_step, Bool.false_eq_true, or_false, exists_eq_left]

/-! ## Broadcasting -/

/-- The mode and the burst are the same. -/
@[mk_iff sameBurst_iff]
structure SameBurst (s s' : StateMachine) : Prop where
  state : s'.state = s.state
  settings : s'.broadcastingSettings = s.broadcastingSettings
  maxPower : s'.timers.maxPower = s.timers.maxPower
  endMaxPower : s'.timers.endMaxPower = s.timers.endMaxPower

/-- Between two handlers of a broadcasting tick. -/
structure OnPower (s : StateMachine) (w : Transmitter) : Prop where
  mode : Broadcasting s
  closed : w.window = false
  started : s.timers.maxPower.toNat < 4294960096

/-- Before the burst handler, after `n` reads of the uptime, in a tick that started with the deadline `e`. -/
structure Lit (e : UInt32) (n : Nat) (s : StateMachine) (w : Transmitter) : Prop extends OnPower s w where
  reads : w.reads.length = n
  deadline : s.timers.endMaxPower = e
  level : w.level = some (w.cfg.txPower.toNat : Int) ∨ w.level = some 2 ∧ 0 < s.timers.endMaxPower

/-- A burst that was not over when the handler read the uptime, which is the fifth read of a tick: its deadline
is `e`, or it was started then. -/
structure Active (e : UInt32) (s : StateMachine) (w : Transmitter) : Prop where
  level : w.level = some 2
  deadline : 0 < s.timers.endMaxPower
  handler : ∃ now, w.reads[4]? = some now ∧ now < s.timers.endMaxPower ∧
    (s.timers.endMaxPower = e ∨ s.timers.maxPower = now)

/-- After it. -/
structure OnLevel (e : UInt32) (s : StateMachine) (w : Transmitter) : Prop extends OnPower s w where
  level : w.level = some (w.cfg.txPower.toNat : Int) ∨ Active e s w

theorem OnPower.same (h : OnPower s w) (hs : SameBurst s s') : OnPower s' w :=
  ⟨h.mode.same hs.state hs.settings, h.closed, hs.maxPower ▸ h.started⟩

theorem Lit.same (h : Lit e n s w) (hs : SameBurst s s') : Lit e n s' w :=
  ⟨h.toOnPower.same hs, h.reads, hs.endMaxPower.trans h.deadline, by rw [hs.endMaxPower]; exact h.level⟩

theorem Active.same (h : Active e s w) (hs : SameBurst s s') : Active e s' w :=
  ⟨h.level, by rw [hs.endMaxPower]; exact h.deadline, by rw [hs.endMaxPower, hs.maxPower]; exact h.handler⟩

theorem OnLevel.same (h : OnLevel e s w) (hs : SameBurst s s') : OnLevel e s' w :=
  ⟨h.toOnPower.same hs, h.level.imp_right (·.same hs)⟩

/-- One more read of the uptime. -/
def Transmitter.read (w : Transmitter) (now : UInt32) : Transmitter :=
  { w with latest := now, reads := w.reads ++ [now] }

theorem Lit.read (h : Lit e n s w) (now : UInt32) : Lit e (n + 1) s (w.read now) :=
  ⟨⟨h.mode, h.closed, h.started⟩, by simp [Transmitter.read, h.reads], h.deadline, h.level⟩

theorem OnLevel.read (h : OnLevel e s w) (now : UInt32) : OnLevel e s (w.read now) := by
  refine ⟨⟨h.mode, h.closed, h.started⟩, h.level.imp_right fun h => ⟨h.level, h.deadline, ?_⟩⟩
  obtain ⟨t, ht, hlt⟩ := h.handler
  have hlen : 4 < w.reads.length := (List.getElem?_eq_some_iff.1 ht).1
  exact ⟨t, by rw [Transmitter.read, List.getElem?_append_left hlen, ht], hlt⟩

theorem wp_read {α : Type} {k : UInt32 → Main α} {Q : α → Transmitter → Prop} (hw : w.window = false)
    (hk : ∀ now, w.latest ≤ now → now.toNat < 4294960096 → wp transmitting (k now) Q (w.read now)) :
    wp transmitting (issue .uptimeSeconds >>= k) Q w := by
  refine wp_call _ trivial fun now w' hs => ?_
  obtain ⟨hle, hlt, rfl⟩ := (transmitting_step_closed hw _ _).1 hs
  exact hk now hle hlt

theorem wp_closed_config {α : Type} {k : BeaconConfig → Main α} {Q : α → Transmitter → Prop}
    (hw : w.window = false) (hk : wp transmitting (k w.cfg) Q w) :
    wp transmitting (issue .config >>= k) Q w := by
  refine wp_call _ trivial fun cfg w' hs => ?_
  obtain ⟨rfl, rfl⟩ := (transmitting_step_closed hw _ _).1 hs
  exact hk

theorem broadcast_transmitting {Q : StateMachine → Transmitter → Prop} (hw : w.window = false)
    (hQ : ∀ b, Q { s with broadcastingAnything := b } w) : wp transmitting (broadcast s) Q w := by
  simp [broadcast, transmitting_step_closed, hw, hQ]

theorem handleTimeSave_lit (h : Lit e n s w) : wp transmitting (handleTimeSave s) (Lit e (n + 1)) w := by
  refine wp_read h.closed fun now _ _ => ?_
  have hread := h.read now
  have hsame : Lit e (n + 1) { s with timers := { s.timers with timeSave := now } } (w.read now) :=
    hread.same ⟨rfl, rfl, rfl, rfl⟩
  simp [transmitting_step_closed, hread.closed, hread, hsame]

theorem handleBatteryCheck_lit (h : Lit e n s w) :
    wp transmitting (handleBatteryCheck s) (Lit e (n + 1)) w := by
  refine wp_read h.closed fun now _ _ => ?_
  have hread := h.read now
  have hsame (v : UInt16) (k : WhatInStatus) (b : Bool) : Lit e (n + 1) { s with
      timers := { s.timers with batteryCheck := now }, lastBatteryVoltage := v, whatInStatus := k,
      broadcastingAnything := b } (w.read now) := hread.same ⟨rfl, rfl, rfl, rfl⟩
  simp [updateBattery, updateStatus, transmitting_step_closed, hread.closed, broadcast_transmitting, hread,
    hsame]

theorem handleUvloShutdown_lit (h : Lit e n s w) :
    wp transmitting (handleUvloShutdown s) (fun r w' => r.1 = false ∧ Lit e n r.2 w') w := by
  have hsame (c : Int) (b : UInt8) : Lit e n { s with chargeLockCounter := c, badPower := b } w :=
    h.same ⟨rfl, rfl, rfl, rfl⟩
  simp [handleUvloShutdown, transmitting_step_closed, h.closed, hsame]

theorem handleNokeysShutdown_lit (h : Lit e n s w) :
    wp transmitting (handleNokeysShutdown s) (fun r w' => r = (false, s) ∧ Lit e (n + 1) s w') w := by
  refine wp_read h.closed fun now _ _ => ?_
  have hread := h.read now
  simp [transmitting_step_closed, hread.closed, hread]

/-! ## The burst handler and what follows -/

/-- A burst can only start when some time has passed, so its deadline is not zero. -/
theorem deadline_pos {start now : UInt32} (mult : UInt8) (hstart : start.toNat < 4294960096)
    (hnow : now.toNat < 4294960096) (hdue : start + kIntervalMaxPower ≤ now) :
    0 < now + 2 * mult.toUInt32 := by
  have hmult : mult.toNat < 256 := mult.toNat_lt
  have hsum : (start + kIntervalMaxPower).toNat = start.toNat + 68 := by
    rw [UInt32.toNat_add]
    exact Nat.mod_eq_of_lt (by simp only [kIntervalMaxPower, UInt32.reduceToNat]; omega)
  have hdouble : (2 * mult.toUInt32).toNat = 2 * mult.toNat := by
    rw [UInt32.toNat_mul, UInt8.toNat_toUInt32]
    exact Nat.mod_eq_of_lt (by simp only [UInt32.reduceToNat]; omega)
  rw [UInt32.le_iff_toNat_le, hsum] at hdue
  rw [UInt32.lt_iff_toNat_lt, UInt32.toNat_add, hdouble, Nat.mod_eq_of_lt (by omega)]
  simp only [UInt32.reduceToNat]
  omega

/-- The end of a burst that is due. -/
theorem burstEnd_onLevel {now : UInt32} (h : OnPower s w)
    (hlevel : w.level = some (w.cfg.txPower.toNat : Int) ∨ w.level = some 2 ∧ 0 < s.timers.endMaxPower)
    (hdeadline : s.timers.endMaxPower = e ∨ s.timers.maxPower = now) (hfifth : w.reads[4]? = some now) :
    wp transmitting (if s.timers.endMaxPower > 0 && s.timers.endMaxPower ≤ now then do
        let cfg ← issue .config
        issue (.setTxPower cfg.txPower.toNat)
        return { s with timers := { s.timers with endMaxPower := 0 } }
      else return s) (OnLevel e) w := by
  rw [wp_ite]
  constructor
  · intro _
    refine wp_closed_config h.closed ?_
    simp only [issue, wp_bind, wp_issue, wp_pure, transmitting_allowed, transmitting_step_closed h.closed,
      Transmitter.Next, true_and]
    rintro _ _ rfl
    exact ⟨⟨⟨h.mode.state, h.mode.settings⟩, h.closed, h.started⟩, .inl rfl⟩
  · intro hgo
    simp only [Bool.and_eq_true, decide_eq_true_eq, not_and, UInt32.not_le] at hgo
    refine (wp_pure _ _ _ _).2 ⟨h, hlevel.imp_right ?_⟩
    rintro ⟨hburst, hset⟩
    exact ⟨hburst, hset, now, hfifth, hgo hset, hdeadline⟩

theorem handleMaxPowerBurst_onLevel (h : Lit e 4 s w) :
    wp transmitting (handleMaxPowerBurst s) (OnLevel e) w := by
  refine wp_read h.closed fun now _ hnow => ?_
  have hread := h.read now
  have hfifth : (w.read now).reads[4]? = some now := by
    rw [Transmitter.read, List.getElem?_append_right (by rw [h.reads]), h.reads]
    rfl
  refine wp_closed_config hread.closed ?_
  dsimp only
  rw [wp_ite]
  constructor
  · intro hstart
    simp only [Bool.and_eq_true, decide_eq_true_eq] at hstart
    have hpos := deadline_pos w.cfg.multPeriod h.started hnow hstart.2
    refine wp_call _ trivial fun _ w' hs => ?_
    obtain rfl := (transmitting_step_closed hread.closed _ _).1 hs
    exact burstEnd_onLevel ⟨⟨h.mode.state, h.mode.settings⟩, h.closed, hnow⟩ (.inr ⟨rfl, hpos⟩) (.inr rfl)
      hfifth
  · intro _
    exact burstEnd_onLevel hread.toOnPower hread.level (.inl hread.deadline) hfifth

theorem handleKeyRotation_onLevel (h : OnLevel e s w) :
    wp transmitting (handleKeyRotation s) (OnLevel e) w := by
  refine wp_read h.closed fun now _ _ => ?_
  have hread := h.read now
  refine wp_closed_config hread.closed ?_
  rw [wp_ite, wp_ite]
  refine ⟨fun _ => (wp_pure _ _ _ _).2 hread, fun _ => ⟨fun _ => (wp_pure _ _ _ _).2 hread, fun _ => ?_⟩⟩
  have hback {s' : StateMachine} {w' : Transmitter} (hs : SameBurst s s') (hw' : w'.window = false)
      (hlevel : w'.level = some (w'.cfg.txPower.toNat : Int)) : wp transmitting (broadcast s') (OnLevel e) w' :=
    broadcast_transmitting hw' fun b => ⟨(⟨h.mode, hw', h.started⟩ : OnPower s w').same
      ⟨hs.state, hs.settings, hs.maxPower, hs.endMaxPower⟩, .inl hlevel⟩
  simp [setMacFromCurrentKey, transmitting_step_closed, hread.closed, hback, sameBurst_iff]

theorem waitButtonRelease_transmitting {ms : UInt32} {Q : Unit → Transmitter → Prop} (hw : w.window = false)
    (hQ : Q () w) : wp transmitting (waitButtonRelease ms) Q w := by
  refine wp_loop _ (· = w) rfl ?_
  rintro w rfl
  simpa [transmitting_step_closed, hw] using hQ

theorem handleButtonLongpress_onLevel (h : OnLevel e s w) :
    wp transmitting (handleButtonLongpress s) (fun r w' => r = (false, s) ∧ OnLevel e s w') w := by
  simp [handleButtonLongpress, transmitting_step_closed, h.closed, h, waitButtonRelease_transmitting]

theorem handleAccelerometer_onLevel (h : OnLevel e s w) :
    wp transmitting (handleAccelerometer s) (OnLevel e) w := by
  refine wp_read h.closed fun now _ _ => ?_
  have hread := h.read now
  have hsame (a b : UInt32) :
      OnLevel e { s with timers := { s.timers with accelRead := a, accelReset := b } } (w.read now) :=
    hread.same ⟨rfl, rfl, rfl, rfl⟩
  simp [transmitting_step_closed, hread.closed, hread, hsame]

theorem tickBroadcast_onLevel (h : OnLevel e s w) : wp transmitting (tickBroadcast s) (OnLevel e) w := by
  have hsame (a b c : Bool) : OnLevel e { s with
      broadcastingAnything := a, broadcastingAirtag := b, broadcastingFmdn := c } w :=
    h.same ⟨rfl, rfl, rfl, rfl⟩
  simp [tickBroadcast, handleInitialBroadcast, handleAirtagFmdnAlternation, broadcast_transmitting,
    transmitting_step_closed, h.closed, h, hsame]

/-! ## The settings window -/

/-- In settings mode. -/
structure LowPower (s : StateMachine) (w : Transmitter) : Prop where
  state : s.state = .settingsMode
  settings : s.broadcastingSettings = true
  level : w.level = some 0
  started : s.timers.maxPower.toNat < 4294960096

theorem LowPower.same (h : LowPower s w) (hs : SameBurst s s') : LowPower s' w :=
  ⟨hs.state.trans h.state, hs.settings.trans h.settings, h.level, hs.maxPower ▸ h.started⟩

/-- A call that asks for no level leaves it, in an open window as in a closed one. -/
theorem transmitting_level {c : Call} {a : c.Ans} (hc : ∀ level, c ≠ .setTxPower level)
    (hs : transmitting.step w c a w') : w'.level = w.level := by
  obtain ⟨cfg, -, hs⟩ := hs
  cases c with
  | setTxPower level => exact absurd rfl (hc level)
  | uptimeSeconds =>
    obtain ⟨-, -, rfl⟩ := hs
    rfl
  | config =>
    obtain ⟨-, rfl⟩ := hs
    rfl
  | reboot | powerOff => exact hs.elim
  | _ =>
    obtain rfl := hs
    rfl

theorem LowPower.issue {c : Call} (h : LowPower s w) (hc : ∀ level, c ≠ .setTxPower level) :
    wp transmitting (Prog.issue c) (fun _ => LowPower s) w :=
  (wp_issue _ _ _ _).2 ⟨trivial, fun _ _ hs =>
    ⟨h.state, h.settings, (transmitting_level hc hs).trans h.level, h.started⟩⟩

theorem LowPower.call {α : Type} {c : Call} {k : c.Ans → Main α} {Q : α → Transmitter → Prop} (h : LowPower s w)
    (hc : ∀ level, c ≠ .setTxPower level) (hk : ∀ a w', LowPower s w' → wp transmitting (k a) Q w') :
    wp transmitting (Prog.issue c >>= k) Q w := wp_seq (h.issue hc) hk

/-- The settings timer was found due before, and the uptime does not go back. -/
theorem handleSettingsModeEntry_low (h : OnPower s w)
    (hdue : s.timers.settingsMode + kIntervalSettings ≤ w.latest) :
    wp transmitting (handleSettingsModeEntry s) LowPower w := by
  refine wp_read h.closed fun now hle _ => ?_
  rw [if_neg (UInt32.not_lt.2 (UInt32.le_trans hdue hle))]
  have hread : (w.read now).window = false := h.closed
  have hlow : LowPower { s with
        state := .settingsMode
        timers := { s.timers with settingsMode := now, endSettings := now + kSettingsWait }
        broadcastingSettings := true, broadcastingAnything := true
        broadcastingFmdn := false, broadcastingAirtag := false }
      { w.read now with window := true, level := some 0 } := ⟨rfl, rfl, rfl, h.started⟩
  simp [useSettingsMac, transmitting_step_closed, hread, hlow]

/-- The level is that of the configuration as `bt_disable` leaves it. -/
theorem leaveSettings_onLevel (h : LowPower s w) : wp transmitting (leaveSettings s) (OnLevel e) w := by
  refine h.call (by simp) fun _ w h => h.call (by simp) fun _ w h => ?_
  refine wp_call _ trivial ?_
  rintro _ _ ⟨cfg, -, rfl⟩
  have hback : OnLevel e { s with
        state := .broadcasting, broadcastingSettings := false, broadcastingAnything := false
        broadcastingFmdn := false, broadcastingAirtag := false }
      { w with window := false, cfg := cfg, level := some (cfg.txPower.toNat : Int) } :=
    ⟨⟨⟨rfl, rfl⟩, rfl, h.started⟩, .inl rfl⟩
  simp [restoreMac, ibeaconFallback, transmitting_step_closed, hback]

/-- The upload window ends in `reboot`. -/
theorem firmwareUpload_ends : wp transmitting (firmwareUpload s) (fun _ _ => False) w := by
  have hreboot (w : Transmitter) :
      wp transmitting (do issue .disableDfu; issue .reboot; return { s with state := .firmwareUpload })
        (fun _ _ => False) w := by
    simp [transmitting_step]
  refine wp_call _ trivial fun _ _ _ => wp_call _ trivial fun _ _ _ => ?_
  refine wp_call _ trivial fun _ _ _ => wp_call _ trivial fun _ _ _ => ?_
  exact wp_seq (wp_of_calls (fun _ _ => trivial) (uploadWait_calls Policy.any_sound 15)) fun _ w _ => hreboot w

theorem handleSettingsModeExit_power (h : LowPower s w) :
    wp transmitting (handleSettingsModeExit s) (fun s' w' => OnLevel e s' w' ∨ LowPower s' w') w := by
  refine handleSettingsModeExit_decides (J := LowPower s) ?_ ?_ ?_ ?_ ?_ h
  · exact fun _ h => h.issue (by simp)
  · exact fun _ _ _ h => wp_mono (fun _ _ h => h.issue (by simp)) (h.issue (by simp))
  · exact fun _ h => (wp_pure _ _ _ _).2 (.inr h)
  · exact fun _ _ => wp_mono (fun _ _ => False.elim) firmwareUpload_ends
  · exact fun _ h => wp_mono (fun _ _ => .inl) (leaveSettings_onLevel h)

/-! ## Ticks -/

theorem tickDuties_power (h : Lit e 3 s w) :
    wp transmitting (tickDuties s) (fun s' w' => OnLevel e s' w' ∨ LowPower s' w') w := by
  refine wp_read h.closed fun now _ _ => ?_
  have hread := h.read now
  split
  · rename_i hdue
    exact wp_mono (fun _ _ => .inr) (handleSettingsModeEntry_low hread.toOnPower hdue)
  · refine wp_seq (handleMaxPowerBurst_onLevel hread) ?_
    intro s₁ w₁ h₁
    refine wp_seq (handleKeyRotation_onLevel h₁) ?_
    intro s₂ w₂ h₂
    refine wp_seq (handleButtonLongpress_onLevel h₂) ?_
    rintro _ w₃ ⟨rfl, h₃⟩
    refine wp_seq (handleAccelerometer_onLevel h₃) ?_
    intro s₄ w₄ h₄
    exact wp_mono (fun _ _ => .inl) (tickBroadcast_onLevel h₄)

theorem tickBroadcasting_power (h : Lit e 0 s w) :
    wp transmitting (tickBroadcasting s) (fun s' w' => OnLevel e s' w' ∨ LowPower s' w') w := by
  refine wp_seq (handleTimeSave_lit h) ?_
  intro s₁ w₁ h₁
  refine wp_seq (handleBatteryCheck_lit h₁) ?_
  intro s₂ w₂ h₂
  refine wp_seq (handleUvloShutdown_lit h₂) ?_
  rintro ⟨_, s₃⟩ w₃ ⟨rfl, h₃⟩
  refine wp_seq (handleNokeysShutdown_lit h₃) ?_
  rintro _ w₄ ⟨rfl, h₄⟩
  exact tickDuties_power h₄

/-- What a tick starts with: the reads of the last one are forgotten. -/
theorem OnLevel.lit (h : OnLevel e s w) : Lit s.timers.endMaxPower 0 s { w with reads := [] } :=
  ⟨⟨h.mode, h.closed, h.started⟩, rfl, rfl, h.level.imp_right fun h => ⟨h.level, h.deadline⟩⟩

theorem syncGattState_lit (h : OnLevel e s w) :
    wp transmitting (syncGattState s) (Lit s.timers.endMaxPower 0) w := by
  refine wp_call _ trivial fun f w₁ hs => ?_
  obtain rfl := (transmitting_step_closed h.closed _ _).1 hs
  exact (wp_pure _ _ _ _).2 (h.lit.same ⟨rfl, rfl, rfl, rfl⟩)

theorem tickSleep_lit (h : Lit e n s w) : wp transmitting (tickSleep s) (Lit e n) w := by
  have hlock : Lit e n { s with
      broadcastingSettings := false
      chargeLockCounter := s.chargeLockCounter - w.cfg.multPeriod.toNat } w :=
    h.same ⟨rfl, h.mode.settings.symm, rfl, rfl⟩
  simp [tickSleep, transmitting_step_closed, h.closed, h.mode.settings, h, hlock]

theorem mainLoop_onLevel (h : OnLevel e s w) : wp transmitting (mainLoop s)
    (fun s' w' => OnLevel s.timers.endMaxPower s' w' ∨ LowPower s' w') w := by
  refine wp_seq (syncGattState_lit h) ?_
  intro s₁ w₁ h₁
  rw [tick_of_running (by rw [h₁.mode.state]; simp)]
  refine wp_seq (tickSleep_lit h₁) ?_
  intro s₂ w₂ h₂
  rw [if_neg (by rw [h₂.mode.state, h₂.mode.settings]; simp)]
  exact tickBroadcasting_power h₂

theorem syncGattState_low (h : LowPower s w) : wp transmitting (syncGattState s) LowPower w :=
  h.call (by simp) fun _ _ h => (wp_pure _ _ _ _).2 (h.same ⟨rfl, rfl, rfl, rfl⟩)

theorem tickSleep_low (h : LowPower s w) : wp transmitting (tickSleep s) LowPower w := by
  rw [tickSleep, if_pos h.settings]
  refine h.call (by simp) fun _ _ h => h.call (by simp) fun _ _ h => ?_
  rw [wp_ite]
  exact ⟨fun _ => h.call (by simp) fun _ _ h => (wp_pure _ _ _ _).2 (h.same ⟨rfl, rfl, rfl, rfl⟩),
    fun _ => (wp_pure _ _ _ _).2 h⟩

theorem mainLoop_low (h : LowPower s w) :
    wp transmitting (mainLoop s) (fun s' w' => OnLevel e s' w' ∨ LowPower s' w') w := by
  refine wp_seq (syncGattState_low h) ?_
  intro s₁ w₁ h₁
  rw [tick_of_running (by rw [h₁.state]; simp)]
  refine wp_seq (tickSleep_low h₁) ?_
  intro s₂ w₂ h₂
  rw [if_pos (.inl h₂.state)]
  exact handleSettingsModeExit_power h₂

/-! ## Startup -/

/-- Programs that do not open the settings window. -/
theorem wp_closed {α : Type} {p : Main α} {Q : α → Prop} (hw : w.window = false)
    (hp : wp (calls { Policy.any True True with mode := False }) p (fun a _ => Q a) ()) :
    wp transmitting p (fun a w' => Q a ∧ w'.window = false) w := by
  refine wp_frame (E := transmitting) hp (fun w' => w'.window = false) (fun _ _ _ h => h.elim) ?_ hw
  intro w₁ c hc h₁
  refine ⟨trivial, fun a w₂ hs => ⟨answers_of_config (fun _ => trivial) c a, ?_⟩⟩
  replace hs := (transmitting_step_closed h₁ c a).1 hs
  cases c with
  | startSettingsAdv => exact (hc.mode rfl).elim
  | uptimeSeconds =>
    obtain ⟨-, -, rfl⟩ := hs
    exact h₁
  | config =>
    obtain ⟨-, rfl⟩ := hs
    exact h₁
  | reboot | powerOff => exact hs.elim
  | btDisable =>
    obtain rfl := hs
    rfl
  | _ =>
    obtain rfl := hs
    exact h₁

theorem startRadio_onLevel (hw : w.window = false) : wp transmitting (startRadio s)
    (fun _ w' => w'.window = false ∧ w'.level = some (w'.cfg.txPower.toNat : Int)) w := by
  simp [startRadio, ibeaconFallback, transmitting_step_closed, hw]

theorem startUp_onLevel (hw : w.window = false) (hs : s.timers.maxPower.toNat < 4294960096) :
    wp transmitting (startUp s) (OnLevel e) w := by
  have hsound : { Policy.any True True with mode := False }.Sound :=
    ⟨fun _ _ => trivial, fun _ _ => trivial, fun _ _ _ _ => trivial⟩
  refine wp_seq (wp_closed hw (wakePeripherals_calls hsound)) ?_
  rintro _ w₁ ⟨-, h₁⟩
  refine wp_seq (wp_closed h₁ (prepareKeys_calls hsound trivial)) ?_
  rintro _ w₂ ⟨⟨addr, rfl⟩, h₂⟩
  refine wp_seq (wp_closed h₂ (setInitialMac_calls trivial)) ?_
  rintro _ w₃ ⟨-, h₃⟩
  refine wp_seq (wp_closed h₃ (updateBattery_calls trivial)) ?_
  rintro _ w₄ ⟨⟨v, rfl⟩, h₄⟩
  refine wp_seq (wp_closed h₄ updateStatus_calls) ?_
  rintro _ w₅ ⟨rfl, h₅⟩
  refine wp_seq (startRadio_onLevel h₅) ?_
  rintro _ w₆ ⟨h₆, hlevel⟩
  refine wp_seq (waitButtonRelease_transmitting (Q := fun _ w' => w' = w₆) h₆ rfl) ?_
  rintro _ _ rfl
  exact (wp_pure _ _ _ _).2 ⟨⟨⟨rfl, rfl⟩, h₆, hs⟩, .inl hlevel⟩

theorem initializeMachine_onLevel (hw : w.window = false) :
    wp transmitting (initializeMachine {}) (OnLevel e) w := by
  have hstart {w : Transmitter} (hw : w.window = false) : wp transmitting (startUp {}) (OnLevel e) w :=
    startUp_onLevel hw (by decide)
  simp [initializeMachine, transmitting_step_closed, hw, hstart]

end

/-! ## Runs -/

/-- A device that is off. -/
def Transmitter.Boots (w : Transmitter) : Prop := w.window = false

theorem boundary_power {s : StateMachine} {w : Transmitter}
    (h : Boundary transmitting (initializeMachine {}) mainLoop Transmitter.Boots s w) :
    (∃ e, OnLevel e s w) ∨ LowPower s w := by
  refine boundary_inv (I := fun s w => (∃ e, OnLevel e s w) ∨ LowPower s w) ?_ ?_ h
  · intro w hw
    exact wp_mono (fun _ _ h => .inl ⟨0, h⟩) (initializeMachine_onLevel hw)
  · rintro s w (⟨e, h⟩ | h)
    · exact wp_mono (fun _ _ h => h.imp_left fun h => ⟨_, h⟩) (mainLoop_onLevel h)
    · exact wp_mono (fun _ _ h => h.imp_left fun h => ⟨0, h⟩) (mainLoop_low h)

/-- A burst whose deadline `e` was reached when the handler ran is over, or the next one was started. -/
theorem OnLevel.over {e now : UInt32} {s : StateMachine} {w : Transmitter} (h : OnLevel e s w)
    (hfifth : w.reads[4]? = some now) (hover : e ≤ now) :
    w.level = some (w.cfg.txPower.toNat : Int) ∨ s.timers.maxPower = now := by
  refine h.level.imp_right fun h => ?_
  obtain ⟨t, ht, hlt, hdeadline⟩ := h.handler
  obtain rfl : t = now := Option.some.inj (ht.symm.trans hfifth)
  refine hdeadline.resolve_left fun he => ?_
  exact absurd (he ▸ hlt) (UInt32.not_lt.2 hover)

/-- The level is 0 in settings mode and otherwise that of the configuration, but for a burst whose deadline lies
after the uptime at which the burst handler, the fifth to read it in a tick, last ran.  And a tick in which the
handler finds a burst over ends at the configured level, unless it started the next one. -/
theorem txPower_follows_config {s : StateMachine} {w : Transmitter}
    (h : Boundary transmitting (initializeMachine {}) mainLoop Transmitter.Boots s w) :
    (s.state = .settingsMode ∨ s.state = .broadcasting) ∧
    (s.state = .settingsMode → w.level = some 0) ∧
    (s.state = .broadcasting → w.level = some (w.cfg.txPower.toNat : Int) ∨
      w.level = some 2 ∧ 0 < s.timers.endMaxPower ∧
        ∃ now, w.reads[4]? = some now ∧ now < s.timers.endMaxPower) ∧
    ∀ s' w' now, Reaches transmitting (mainLoop s, w) (.ret s', w') → s'.state = .broadcasting →
      w'.reads[4]? = some now → s.timers.endMaxPower ≤ now →
        w'.level = some (w'.cfg.txPower.toNat : Int) ∨ s'.timers.maxPower = now := by
  have hpower := boundary_power h
  have hnext : wp transmitting (mainLoop s)
      (fun s' w' => OnLevel s.timers.endMaxPower s' w' ∨ LowPower s' w') w := by
    rcases hpower with ⟨e, h⟩ | h
    · exact mainLoop_onLevel h
    · exact mainLoop_low h
  have hover : ∀ s' w' now, Reaches transmitting (mainLoop s, w) (.ret s', w') → s'.state = .broadcasting →
      w'.reads[4]? = some now → s.timers.endMaxPower ≤ now →
        w'.level = some (w'.cfg.txPower.toNat : Int) ∨ s'.timers.maxPower = now := by
    intro s' w' now hr hs' hfifth hle
    rcases wp_value (wp_reaches hnext hr) with h | h
    · exact h.over hfifth hle
    · exact absurd (h.state.symm.trans hs') (by decide)
  rcases hpower with ⟨e, h⟩ | h
  · refine ⟨.inr h.mode.state, by simp [h.mode.state], fun _ => ?_, hover⟩
    refine h.level.imp_right fun hactive => ⟨hactive.level, hactive.deadline, ?_⟩
    obtain ⟨now, hfifth, hlt, -⟩ := hactive.handler
    exact ⟨now, hfifth, hlt⟩
  · exact ⟨.inl h.state, fun _ => h.level, by simp [h.state], hover⟩

/-- What a call leaves at the uptime `now`. -/
def Transmitter.after (now : UInt32) (w : Transmitter) : Call → Option Transmitter
  | .uptimeSeconds => if w.latest ≤ now ∧ now.toNat < 4294960096 then some (w.read now) else none
  | .btDisable => some { w with window := false }
  | .startSettingsAdv => some { w with window := true }
  | .glueSyncGattState => some { w with reads := [] }
  | .reboot | .powerOff => none
  | .setTxPower level => some { w with level := some level }
  | .setTurnedOn on => some { w with cfg := w.cfg.setTurnedOn on }
  | _ => some w

/-- A device at rest, at the uptime `now`. -/
def Transmitter.serve (now : UInt32) (w : Transmitter) (c : Call) : Option (c.Ans × Transmitter) :=
  (w.after now c).map fun w' => (answers w.cfg now 3000 c, w')

theorem transmitting_step_serve {now : UInt32} (w : Transmitter) (c : Call) (x : c.Ans × Transmitter)
    (hx : w.serve now c = some x) : transmitting.step w c x.1 x.2 := by
  obtain ⟨w', hw', rfl⟩ := Option.map_eq_some_iff.1 hx
  refine ⟨w.cfg, .inl rfl, ?_⟩
  cases c with
  | uptimeSeconds =>
    obtain ⟨⟨hle, hlt⟩, hread⟩ := Option.ite_none_right_eq_some.1 hw'
    exact ⟨hle, hlt, (Option.some.inj hread).symm⟩
  | reboot | powerOff => cases hw'
  | config =>
    cases hw'
    exact ⟨rfl, rfl⟩
  | _ =>
    cases hw'
    rfl

/-- After the settings window at 68 seconds a burst starts at 71, for two seconds. -/
theorem txPower_follows_config_burst : ∃ (s : StateMachine) (w : Transmitter),
    Boundary transmitting (initializeMachine {}) mainLoop Transmitter.Boots s w ∧ s.state = .broadcasting ∧
      w.level = some 2 ∧ w.cfg.txPower = 0 ∧ 71 < s.timers.endMaxPower ∧ w.reads[4]? = some 71 := by
  let off : Transmitter :=
    { cfg := { turnedOn := true, flagAirtag := true, flagFmdn := true, txPower := 0 } }
  obtain ⟨x₀, h₀, x₁, h₁, x₂, h₂, x₃, h₃, hburst⟩ :
      ∃ x₀ ∈ (initializeMachine {}).play (Transmitter.serve 0) off,
      ∃ x₁ ∈ (mainLoop x₀.1).play (Transmitter.serve 68) x₀.2,
      ∃ x₂ ∈ (mainLoop x₁.1).play (Transmitter.serve 70) x₁.2,
      ∃ x₃ ∈ (mainLoop x₂.1).play (Transmitter.serve 71) x₂.2,
      x₃.1.state = .broadcasting ∧ x₃.2.cfg.txPower = 0 ∧ x₃.2.level = some 2 ∧ x₃.2.reads[4]? = some 71 := by
    decide
  have hoff : off.Boots := rfl
  have hrun : Boundary transmitting (initializeMachine {}) mainLoop Transmitter.Boots x₃.1 x₃.2 :=
    .iter (.iter (.iter (.start hoff (reaches_of_play transmitting_step_serve h₀))
      (reaches_of_play transmitting_step_serve h₁)) (reaches_of_play transmitting_step_serve h₂))
      (reaches_of_play transmitting_step_serve h₃)
  obtain ⟨hstate, htx, hlevel, hfifth⟩ := hburst
  rcases (txPower_follows_config hrun).2.2.1 hstate with hcfg | ⟨-, -, now, hnow, hlt⟩
  · rw [hlevel, htx] at hcfg
    exact absurd hcfg (by decide)
  · obtain rfl : now = 71 := Option.some.inj (hnow.symm.trans hfifth)
    exact ⟨x₃.1, x₃.2, hrun, hstate, hlevel, htx, hlt, hfifth⟩

end Everytag
