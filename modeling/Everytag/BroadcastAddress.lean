import Everytag.Keyless

/-!
# The broadcast address

`initialize`, the settings window and the way back from it each choose an address, with three different guards,
and the controller keeps the last one it was given.  The world `addressing` follows the address from `set_mac`
to `bt_enable`.  Until the first rotation the address of the machine is that of the first key (`Kept`), and what
is in effect in broadcasting mode is what the comment in `handle_settings_mode_exit` says, unless FMDN alone is on.
-/

namespace Everytag

open Interaction StateMachine

/-- The address last given to `set_mac` and the one in effect since the last `bt_enable`, `none` for that of the
controller; and the number of keys prepared so far. -/
structure Addressing where
  given : Option Mac := none
  inEffect : Option Mac := none
  prepared : Nat := 0

@[simp] def Addressing.Next (w : Addressing) : Call → Addressing → Prop
  | .btEnable, w' => w' = { w with inEffect := w.given }
  | .setMac addr, w' => w' = { w with given := some addr }
  | .prepareAirtag _, w' => w' = { w with prepared := w.prepared + 1 }
  | _, w' => w' = w

/-- A device with the configuration `cfg`. -/
def addressing (cfg : BeaconConfig) : World Call Call.Ans Addressing where
  allowed _ _ := True
  step w c a w' := Steady cfg c a ∧ w.Next c w'
  move _ _ := False

/-- The address of the first key; zero without keys. -/
def firstAddress (cfg : BeaconConfig) : Mac :=
  if 0 < cfg.numKeys then (cfg.keys[0]?.map deriveMacFromKey).getD (Vector.replicate 6 0) else Vector.replicate 6 0

/-- The address to broadcast under: that of the key only if the AirTag is on, else the settings address if one is
configured, else that of the controller. -/
def expectedAddress (cfg : BeaconConfig) : Option Mac :=
  if cfg.flagAirtag then some (firstAddress cfg)
  else if macConfigured cfg.settingsMac then some cfg.settingsMac
  else none

section

variable {cfg : BeaconConfig} {s s' : StateMachine} {w w' : Addressing} {u : Unit}

instance : (addressing cfg).Sequential := ⟨fun _ _ h => h⟩

@[simp] theorem addressing_allowed (c : Call) : (addressing cfg).allowed w c ↔ True := Iff.rfl

@[simp] theorem addressing_step (c : Call) (a : c.Ans) :
    (addressing cfg).step w c a w' ↔ Steady cfg c a ∧ w.Next c w' := Iff.rfl

/-- Programs that leave the radio alone. -/
theorem wp_addressing {α : Type} {p : Main α} {Q : α → Prop} (hp : wp (calls .quiet) p (fun a _ => Q a) ()) :
    wp (addressing cfg) p (fun a w' => Q a ∧ w' = w) w := by
  refine wp_frame (E := addressing cfg) hp (fun w' => w' = w) (fun _ _ _ h => h.elim)
    (fun w₁ c hc h₁ => ⟨trivial, fun a w₂ hs => ⟨answers_of_config (fun _ => trivial) c a, ?_⟩⟩) rfl
  have hquiet : c.radioCall = true → False := hc.radio
  obtain ⟨-, hs⟩ := hs
  cases c with
  | setMac | btEnable | prepareAirtag => exact absurd rfl hquiet
  | _ =>
    cases hs
    exact h₁

/-! ## Until the first rotation -/

/-- No key but the first has been prepared. -/
structure AddressKept (cfg : BeaconConfig) (s : StateMachine) (w : Addressing) : Prop where
  prepared : 0 < cfg.numKeys → 1 ≤ w.prepared
  bleAddr : s.bleAddr = firstAddress cfg
  /-- nothing hands over the address of the key -/
  off : cfg.flagAirtag = false → w.given = expectedAddress cfg ∧ s.broadcastingAirtag = false
  inEffect : s.state = .broadcasting → w.inEffect = expectedAddress cfg

/-- The same, or a key has been prepared since. -/
def Addressed (cfg : BeaconConfig) (s : StateMachine) (w : Addressing) : Prop :=
  2 ≤ w.prepared ∨ AddressKept cfg s w

/-- From the first rotation on nothing is said. -/
theorem wp_rotated {α : Type} {p : Main α} {f : α → StateMachine} (hw : 2 ≤ w.prepared) :
    wp (addressing cfg) p (fun a w' => Addressed cfg (f a) w') w := by
  refine wp_mono (fun _ _ => .inl)
    (wp_invariant (E := addressing cfg) (fun w' => 2 ≤ w'.prepared) (fun _ _ _ h => h.elim)
    (fun w₁ c h₁ => ⟨trivial, fun a w₂ hs => ?_⟩) p hw)
  obtain ⟨-, hs⟩ := hs
  cases c with
  | prepareAirtag =>
    cases hs
    exact Nat.le_succ_of_le h₁
  | _ =>
    cases hs
    exact h₁

theorem AddressKept.same (h : AddressKept cfg s w) (hble : s'.bleAddr = s.bleAddr)
    (hA : s'.broadcastingAirtag = s.broadcastingAirtag)
    (hstate : s'.state = .broadcasting → s.state = .broadcasting) :
    AddressKept cfg s' w where
  prepared := h.prepared
  bleAddr := hble.trans h.bleAddr
  off hoff := (h.off hoff).imp_right hA.trans
  inEffect hb := h.inEffect (hstate hb)

/-- The address of the key is handed over only for the AirTag, and comes into effect at the next `bt_enable`. -/
theorem AddressKept.given (h : AddressKept cfg s w) (hA : s.broadcastingAirtag = true) (b : Bool) :
    AddressKept cfg { s with broadcastingAnything := b } { w with given := some s.bleAddr } where
  prepared := h.prepared
  bleAddr := h.bleAddr
  off hoff := absurd hA (by rw [(h.off hoff).2]; nofun)
  inEffect := h.inEffect

theorem broadcast_addressing (h : AddressKept cfg s w) :
    wp (addressing cfg) (broadcast s) (AddressKept cfg) w := by
  have hkeep (b : Bool) : AddressKept cfg { s with broadcastingAnything := b } w := h.same rfl rfl id
  simp only [broadcast, issue, wp_bind, wp_issue, wp_ite, wp_pure, addressing_allowed, addressing_step, Steady,
    Addressing.Next, true_and]
  refine ⟨?_, fun _ => ⟨fun _ => h, fun _ => ⟨fun _ => ?_, fun _ => ?_⟩⟩⟩
  · rintro - _ _ rfl
    exact hkeep false
  · simp [h]
  · rintro _ _ ⟨-, rfl⟩
    refine ⟨fun hA => ?_, fun _ => ⟨fun _ => ?_, fun _ => h⟩⟩
    · rintro _ _ rfl _ _ rfl
      exact h.given hA true
    · rintro _ _ rfl
      exact hkeep true

theorem handleBatteryCheck_addressing (h : AddressKept cfg s w) :
    wp (addressing cfg) (handleBatteryCheck s) (AddressKept cfg) w := by
  refine wp_call _ trivial ?_
  rintro now _ ⟨-, rfl⟩
  rw [wp_ite]
  refine ⟨fun _ => (wp_pure _ _ _ _).2 h, fun _ => ?_⟩
  refine wp_seq (wp_addressing (updateBattery_calls trivial)) ?_
  rintro s₁ w₁ ⟨⟨v, rfl⟩, rfl⟩
  refine wp_seq (wp_addressing updateStatus_calls) ?_
  rintro s₂ w₂ ⟨rfl, rfl⟩
  have h₂ : AddressKept cfg { s with
      timers := { s.timers with batteryCheck := now }
      lastBatteryVoltage := v
      whatInStatus := s.whatInStatus.next } w₂ := h.same rfl rfl id
  refine wp_call _ trivial ?_
  rintro cfg' _ ⟨-, rfl⟩
  rw [wp_ite]
  exact ⟨fun _ => broadcast_addressing h₂, fun _ => (wp_pure _ _ _ _).2 h₂⟩

theorem handleUvloShutdown_addressing (h : AddressKept cfg s w) :
    wp (addressing cfg) (handleUvloShutdown s) (fun r w' => AddressKept cfg r.2 w') w := by
  have hpower (n : Int) (b : UInt8) : AddressKept cfg { s with chargeLockCounter := n, badPower := b } w :=
    h.same rfl rfl id
  have hdown (n : Int) (b : UInt8) :
      AddressKept cfg { s with chargeLockCounter := n, badPower := b, state := .shuttingDown } w :=
    h.same rfl rfl (by nofun)
  simp [handleUvloShutdown, hpower, hdown]

theorem handleNokeysShutdown_addressing (h : AddressKept cfg s w) :
    wp (addressing cfg) (handleNokeysShutdown s) (fun r w' => AddressKept cfg r.2 w') w := by
  refine wp_mono ?_ (wp_addressing handleNokeysShutdown_calls)
  rintro r w' ⟨rfl | rfl, rfl⟩
  · exact h
  · exact h.same rfl rfl (by nofun)

theorem handleButtonLongpress_addressing (h : AddressKept cfg s w) :
    wp (addressing cfg) (handleButtonLongpress s) (fun r w' => AddressKept cfg r.2 w') w := by
  have hdown : AddressKept cfg { s with state := .shuttingDown } w := h.same rfl rfl (by nofun)
  have hwait {Q : Unit → Addressing → Prop} (w : Addressing) (hQ : Q () w) :
      wp (addressing cfg) (waitButtonRelease 500) Q w := by
    refine wp_mono ?_ (wp_addressing (waitButtonRelease_calls (Q := fun _ _ => True) trivial trivial))
    rintro _ w' ⟨-, rfl⟩
    exact hQ
  simp [handleButtonLongpress, hwait, h, hdown]

theorem tickBroadcast_addressing (h : AddressKept cfg s w) :
    wp (addressing cfg) (tickBroadcast s) (AddressKept cfg) w := by
  have hwith (a f : Bool) (ha : cfg.flagAirtag = false → a = false) : wp (addressing cfg)
      (broadcast { s with broadcastingAirtag := a, broadcastingFmdn := f }) (AddressKept cfg) w :=
    broadcast_addressing ⟨h.prepared, h.bleAddr, fun hoff => ⟨(h.off hoff).1, ha hoff⟩, h.inEffect⟩
  refine wp_call _ trivial ?_
  rintro _ _ ⟨⟨on, rfl⟩, rfl⟩
  rw [wp_ite, wp_ite]
  refine ⟨fun _ => ?_, fun _ => ⟨fun hboth => ?_, fun _ => (wp_pure _ _ _ _).2 h⟩⟩
  · refine wp_call _ trivial ?_
    rintro _ _ ⟨⟨on, rfl⟩, rfl⟩
    rw [wp_ite, wp_ite]
    refine ⟨fun _ => ⟨fun hA => ?_, fun _ => ?_⟩, fun _ => (wp_pure _ _ _ _).2 h⟩
    · exact hwith true s.broadcastingFmdn fun hoff => absurd hA (by simp [hoff])
    · exact hwith s.broadcastingAirtag true fun hoff => (h.off hoff).2
  · refine wp_call _ trivial ?_
    rintro _ _ ⟨⟨on, rfl⟩, rfl⟩
    have hA : cfg.flagAirtag = true := (Bool.and_eq_true_iff.1 hboth).1
    rw [wp_ite, wp_ite]
    refine ⟨fun _ => (wp_pure _ _ _ _).2 h, fun _ => ⟨fun _ => ?_, fun _ => ?_⟩⟩
    · exact hwith false true fun _ => rfl
    · exact hwith true false fun hoff => absurd hA (by simp [hoff])

theorem handleSettingsModeEntry_addressing (h : AddressKept cfg s w) :
    wp (addressing cfg) (handleSettingsModeEntry s) (AddressKept cfg) w := by
  by_cases hmac : macConfigured cfg.settingsMac = true
  · simpa [handleSettingsModeEntry, useSettingsMac, hmac, h] using fun _ _ =>
      ⟨h.prepared, h.bleAddr, fun hoff => ⟨by simp [expectedAddress, hoff, hmac], rfl⟩, by simp⟩
  · simpa [handleSettingsModeEntry, useSettingsMac, hmac, h] using fun _ _ =>
      ⟨h.prepared, h.bleAddr, fun hoff => ⟨(h.off hoff).1, rfl⟩, by simp⟩

theorem firmwareUpload_addressing (h : AddressKept cfg s w) :
    wp (addressing cfg) (firmwareUpload s) (AddressKept cfg) w := by
  have hup : AddressKept cfg { s with state := .firmwareUpload } w := h.same rfl rfl (by nofun)
  simp only [firmwareUpload, issue, wp_bind, wp_issue, addressing_allowed, addressing_step, Addressing.Next, Steady,
    true_and]
  rintro _ _ rfl _ _ rfl _ _ rfl _ _ rfl
  refine wp_mono ?_ (wp_addressing (uploadWait_calls Policy.quiet_sound 15))
  rintro _ w' ⟨-, rfl⟩
  simpa using hup

/-- The way back puts the expected address into effect. -/
theorem leaveSettings_addressing (h : AddressKept cfg s w) :
    wp (addressing cfg) (leaveSettings s) (AddressKept cfg) w := by
  have hdone (state : State) {given : Option Mac} (hgiven : given = expectedAddress cfg) :
      AddressKept cfg { s with
        state := state, broadcastingSettings := false, broadcastingAnything := false,
        broadcastingFmdn := false, broadcastingAirtag := false } ⟨given, given, w.prepared⟩ :=
    ⟨h.prepared, h.bleAddr, fun _ => ⟨hgiven, rfl⟩, fun _ => hgiven⟩
  cases hA : cfg.flagAirtag with
  | true =>
    have hback : some s.bleAddr = expectedAddress cfg := by simp [expectedAddress, hA, h.bleAddr]
    simp [leaveSettings, restoreMac, ibeaconFallback, hA, hdone _ hback]
  | false =>
    simp [leaveSettings, restoreMac, ibeaconFallback, hA, hdone _ (h.off hA).1]

theorem handleSettingsModeExit_addressing (h : AddressKept cfg s w) :
    wp (addressing cfg) (handleSettingsModeExit s) (AddressKept cfg) w := by
  simp [handleSettingsModeExit, h, leaveSettings_addressing h, firmwareUpload_addressing h]

/-- A rotation prepares the second key. -/
theorem handleKeyRotation_addressing (h : AddressKept cfg s w) :
    wp (addressing cfg) (handleKeyRotation s) (Addressed cfg) w := by
  refine wp_call _ trivial ?_
  rintro now w ⟨-, rfl⟩
  refine wp_call _ trivial ?_
  rintro _ w ⟨⟨on, rfl⟩, rfl⟩
  rw [wp_ite, wp_ite]
  refine ⟨fun _ => (wp_pure _ _ _ _).2 (.inr h), fun hkeys => ⟨fun _ => (wp_pure _ _ _ _).2 (.inr h), fun _ => ?_⟩⟩
  have hn : cfg.flagAirtag = true ∧ ¬ cfg.numKeys = 0 := by simpa using hkeys
  have hfirst : 1 ≤ w.prepared := h.prepared (UInt8.pos_iff_ne_zero.2 hn.2)
  refine wp_call _ trivial fun _ w₁ h₁ => wp_call _ trivial fun _ w₂ h₂ => wp_call _ trivial fun _ w₃ h₃ => ?_
  cases h₁.2
  cases h₂.2
  cases h₃.2
  refine wp_call _ trivial fun _ w₄ h₄ => wp_call _ trivial fun _ w₅ h₅ => ?_
  cases h₄.2
  cases h₅.2
  exact wp_rotated (f := id) (Nat.succ_le_succ hfirst)

theorem rule_addressing : TickRule (addressing cfg) (AddressKept cfg) (Addressed cfg) where
  weaken := .inr
  uptime h _ := by simpa using h
  sync h := by
    refine wp_mono ?_ (wp_addressing syncGattState_calls)
    rintro s' w' ⟨⟨f, rfl⟩, rfl⟩
    exact h.same rfl rfl id
  sleep h := by
    refine wp_mono ?_ (wp_addressing (tickSleep_calls Policy.quiet_sound))
    rintro s' w' ⟨⟨n, -, rfl⟩, rfl⟩
    exact h.same rfl rfl id
  exit h _ := wp_mono (fun _ _ => .inr) (handleSettingsModeExit_addressing h)
  timeSave h _ := by
    refine wp_mono ?_ (wp_addressing handleTimeSave_calls)
    rintro s' w' ⟨⟨t, -, rfl⟩, rfl⟩
    exact h.same rfl rfl id
  batteryCheck h _ := handleBatteryCheck_addressing h
  uvlo h _ := handleUvloShutdown_addressing h
  nokeys h _ := handleNokeysShutdown_addressing h
  entry h _ := wp_mono (fun _ _ => .inr) (handleSettingsModeEntry_addressing h)
  burst h _ := by
    refine wp_mono ?_ (wp_addressing handleMaxPowerBurst_calls)
    rintro s' w' ⟨⟨t, -, rfl⟩, rfl⟩
    exact h.same rfl rfl id
  rotation h _ := handleKeyRotation_addressing h
  button h _ := by
    rcases h with h | h
    · exact wp_rotated h
    · exact wp_mono (fun _ _ => .inr) (handleButtonLongpress_addressing h)
  accelerometer h _ := by
    rcases h with h | h
    · exact wp_rotated h
    · refine wp_mono ?_ (wp_addressing handleAccelerometer_calls)
      rintro s' w' ⟨⟨t, -, rfl⟩, rfl⟩
      exact .inr (h.same rfl rfl id)
  broadcast h _ := by
    rcases h with h | h
    · exact wp_rotated h
    · exact wp_mono (fun _ _ => .inr) (tickBroadcast_addressing h)

/-! ## Startup -/

/-- The address that `initialize` chooses: that of the key if either protocol is on. -/
def initialAddress (cfg : BeaconConfig) : Option Mac :=
  if cfg.flagAirtag || cfg.flagFmdn then some (firstAddress cfg)
  else if macConfigured cfg.settingsMac then some cfg.settingsMac
  else none

/-- What a machine that starts leaves. -/
structure Booted (cfg : BeaconConfig) (s : StateMachine) (w : Addressing) : Prop where
  bleAddr : s.bleAddr = firstAddress cfg
  broadcastingAirtag : s.broadcastingAirtag = false
  addresses : w.given = initialAddress cfg ∧ w.inEffect = initialAddress cfg
  prepared : w.prepared = if 0 < cfg.numKeys then 1 else 0

theorem prepareKeys_addressing (hs : s.bleAddr = Vector.replicate 6 0) : wp (addressing cfg) (prepareKeys s)
    (fun s' w' => s'.bleAddr = firstAddress cfg ∧
      w' = { w with prepared := w.prepared + if 0 < cfg.numKeys then 1 else 0 }) w := by
  by_cases hn : 0 < cfg.numKeys
  · have hne : cfg.numKeys ≠ 0 := UInt8.pos_iff_ne_zero.1 hn
    simp +contextual [prepareKeys, setMacFromCurrentKey, firstAddress, hn, hne]
  · simp [prepareKeys, firstAddress, hn, hs]

theorem setInitialMac_addressing (hs : s.bleAddr = firstAddress cfg) (hw : w.given = none) :
    wp (addressing cfg) (setInitialMac s) (fun _ w' => w' = { w with given := initialAddress cfg }) w := by
  refine wp_call _ trivial ?_
  rintro _ w ⟨⟨on, rfl⟩, rfl⟩
  rw [wp_ite, wp_ite]
  refine ⟨fun hflags => ?_, fun hflags => ⟨fun hmac => ?_, fun hmac => ?_⟩⟩
  · simp [initialAddress, hs, hflags]
  · simp [initialAddress, hflags, hmac]
  · simp [initialAddress, hflags, hmac, ← hw]

theorem startUp_addressing : wp (addressing cfg) (startUp {}) (Booted cfg) {} := by
  refine wp_seq (wp_addressing (wakePeripherals_calls Policy.quiet_sound)) ?_
  rintro _ w₁ ⟨-, rfl⟩
  refine wp_seq (prepareKeys_addressing rfl) ?_
  rintro s₂ w₂ ⟨hble, rfl⟩
  refine wp_seq (setInitialMac_addressing hble rfl) ?_
  rintro _ w₃ rfl
  refine wp_seq (wp_addressing (updateBattery_calls trivial)) ?_
  rintro s₄ w₄ ⟨⟨v, rfl⟩, rfl⟩
  refine wp_seq (wp_addressing updateStatus_calls) ?_
  rintro s₅ w₅ ⟨rfl, rfl⟩
  refine wp_seq
    (R := fun _ w' => w' = ⟨initialAddress cfg, initialAddress cfg, if 0 < cfg.numKeys then 1 else 0⟩) ?_ ?_
  · simp [startRadio, ibeaconFallback]
  · rintro _ w₆ rfl
    refine wp_seq (wp_addressing (waitButtonRelease_calls (Q := fun _ _ => True) trivial trivial)) ?_
    rintro _ w₇ ⟨-, rfl⟩
    exact (wp_pure _ _ _ _).2 ⟨hble, rfl, ⟨rfl, rfl⟩, rfl⟩

theorem initializeMachine_addressing : wp (addressing cfg) (initializeMachine {})
    (fun s' w' => s'.state = .shuttingDown ∨ Booted cfg s' w') {} := by
  have hstart : wp (addressing cfg) (startUp {}) (fun s' w' => s'.state = .shuttingDown ∨ Booted cfg s' w') {} :=
    wp_mono (fun _ _ => .inr) startUp_addressing
  simp [initializeMachine, hstart]

/-- The guards of `initialize` are those of the comment, unless FMDN alone is on. -/
theorem initialAddress_eq_iff : initialAddress cfg = expectedAddress cfg ↔
    cfg.flagAirtag = true ∨ cfg.flagFmdn = false ∨
      macConfigured cfg.settingsMac = true ∧ cfg.settingsMac = firstAddress cfg := by
  unfold initialAddress expectedAddress
  cases hA : cfg.flagAirtag with
  | true => simp
  | false =>
    cases hF : cfg.flagFmdn with
    | false => simp
    | true =>
      by_cases hmac : macConfigured cfg.settingsMac = true
      · simp [hmac, eq_comm]
      · simp [hmac]

theorem Booted.kept (h : Booted cfg s w) (heq : initialAddress cfg = expectedAddress cfg) : AddressKept cfg s w where
  prepared hn := by rw [h.prepared, if_pos hn]
  bleAddr := h.bleAddr
  off _ := ⟨h.addresses.1.trans heq, h.broadcastingAirtag⟩
  inEffect _ := h.addresses.2.trans heq

theorem mainLoop_addressing (h : Addressed cfg s w) (hs : s.state ≠ .initializing) :
    wp (addressing cfg) (mainLoop s) (Addressed cfg) w := by
  rcases h with h | h
  · exact wp_rotated (f := id) h
  · exact rule_addressing.mainLoop h hs

theorem addressing_step_answers (w : Addressing) (c : Call) :
    ∃ w', (addressing cfg).step w c (answers { cfg with turnedOn := true } 0 3000 c) w' := by
  have hsteady := steady_answers_on cfg true 0 3000 c
  cases c with
  | _ => exact ⟨_, hsteady, rfl⟩

end

/-! ## The address in effect -/

/-- In every run without a rotation, the address in effect in broadcasting mode is the expected one. -/
def AgreesOnAddress (cfg : BeaconConfig) : Prop :=
  ∀ s w, Boundary (addressing cfg) (initializeMachine {}) mainLoop (· = {}) s w →
    s.state = .broadcasting → w.prepared ≤ 1 → w.inEffect = expectedAddress cfg

/-- The first boundary is enough to tell. -/
theorem AgreesOnAddress.initial {cfg : BeaconConfig} (h : AgreesOnAddress cfg) :
    initialAddress cfg = expectedAddress cfg := by
  have hends : (initializeMachine {}).Ends (answers { cfg with turnedOn := true } 0 3000)
      (fun s => s.state = .broadcasting) := initializeMachine_ends_broadcasting rfl rfl
  obtain ⟨s, w, hr, hs⟩ := hends.exists_reaches addressing_step_answers {}
  have hbooted := wp_value (wp_reaches initializeMachine_addressing hr)
  rcases hbooted with hdown | hbooted
  · exact absurd (hs.symm.trans hdown) (by decide)
  · rw [← hbooted.addresses.2]
    refine h s w (.start rfl hr) hs ?_
    rw [hbooted.prepared]
    split <;> omega

theorem agreesOnAddress_of_initial {cfg : BeaconConfig} (heq : initialAddress cfg = expectedAddress cfg) :
    AgreesOnAddress cfg := by
  have hstart (w : Addressing) (hw : w = {}) : wp (addressing cfg) (initializeMachine {})
      (fun s' w' => s'.state = .shuttingDown ∨ Addressed cfg s' w' ∧ s'.state ≠ .initializing) w := by
    subst hw
    refine wp_mono ?_ (wp_mode initializeMachine_addressing initializeMachine_started)
    rintro s' w' ⟨hdown | hbooted, hs⟩
    · exact .inl hdown
    · exact .inr ⟨.inr (hbooted.kept heq), hs⟩
  have hiter (s : StateMachine) (w : Addressing)
      (h : s.state = .shuttingDown ∨ Addressed cfg s w ∧ s.state ≠ .initializing) :
      wp (addressing cfg) (mainLoop s)
        (fun s' w' => s'.state = .shuttingDown ∨ Addressed cfg s' w' ∧ s'.state ≠ .initializing) w := by
    rcases h with hdown | ⟨h, hs⟩
    · exact wp_mono (fun _ _ => .inl) (wp_of_calls (fun _ _ => trivial) (mainLoop_shutDown hdown))
    · exact wp_mono (fun _ _ => .inr) (wp_mode (mainLoop_addressing h hs) (mainLoop_started hs))
  intro s w h hs hprepared
  rcases boundary_inv hstart hiter h with hdown | ⟨hmany | hkept, -⟩
  · exact absurd (hs.symm.trans hdown) (by decide)
  · omega
  · exact hkept.inEffect hs

/-- Boot and settings window agree on the expected address exactly if the AirTag is on, or FMDN is off, or the
configured settings address happens to be that of the first key. -/
theorem broadcast_address_iff (cfg : BeaconConfig) : AgreesOnAddress cfg ↔
    cfg.flagAirtag = true ∨ cfg.flagFmdn = false ∨
      macConfigured cfg.settingsMac = true ∧ cfg.settingsMac = firstAddress cfg :=
  ⟨fun h => initialAddress_eq_iff.1 h.initial, fun h => agreesOnAddress_of_initial (initialAddress_eq_iff.2 h)⟩

/-- With FMDN alone on, a device boots under the address of its AirTag key. -/
theorem fmdn_boots_under_key : ¬ AgreesOnAddress { flagFmdn := true, numKeys := 1 } := by
  intro h
  have := initialAddress_eq_iff.1 h.initial
  exact absurd this (by decide)

end Everytag
