import Everytag.Tick

/-!
# A device without keys

`flag_airtag` and the number of keys are independent settings, and only the rotation and the preparation of a
key look at the second.  The world `unkeyed` refuses the calls that show an AirTag or hand over the address of
a key; a device without keys keeps to it as long as both protocols are off (`mainLoop_unkeyed`), and comes to
such a call while it starts if one of them is on (`initializeMachine_issues`).
-/

namespace Everytag

open Interaction StateMachine

/-- Calls that show an AirTag, or hand over `ble_addr_` while no key has been loaded. -/
@[simp] def Call.KeyDerived : Call → Prop
  | .advStartAirtag .. | .advUpdateAirtag => True
  | .setMac addr => addr = Vector.replicate 6 0
  | _ => False

/-- What is on air. -/
@[simp] def OnAir.Next (air : OnAir) : Call → OnAir → Prop
  | .advStartAirtag .., air' | .advUpdateAirtag, air' => air' = .airtag
  | .advStartFmdn .., air' | .advUpdateFmdn, air' => air' = .fmdn
  | .broadcastIbeacon _, air' => air' = .ibeacon
  | .startSettingsAdv, air' => air' = .settings
  | .advStop, air' | .stopSettingsAdv, air' | .btDisable, air' => air' = .none
  | _, air' => air' = air

/-- A device with the configuration `cfg` that is not to show a key. -/
def unkeyed (cfg : BeaconConfig) : World Call Call.Ans OnAir where
  allowed _ c := ¬ c.KeyDerived
  step air c a air' := Steady cfg c a ∧ air.Next c air'
  move _ _ := False

section

variable {cfg : BeaconConfig} {s s' : StateMachine} {air air' : OnAir} {u : Unit}

instance : (unkeyed cfg).Sequential := ⟨fun _ _ h => h⟩

@[simp] theorem unkeyed_allowed (c : Call) : (unkeyed cfg).allowed air c ↔ ¬ c.KeyDerived := Iff.rfl

@[simp] theorem unkeyed_step (c : Call) (a : c.Ans) :
    (unkeyed cfg).step air c a air' ↔ Steady cfg c a ∧ air.Next c air' := Iff.rfl

/-- Neither protocol is on. -/
@[mk_iff bothOff_iff]
structure BothOff (cfg : BeaconConfig) : Prop where
  airtag : cfg.flagAirtag = false
  fmdn : cfg.flagFmdn = false

/-- A machine that is broadcasting has its iBeacon on air. -/
def Fallen (s : StateMachine) (air : OnAir) : Prop :=
  s.state = .broadcasting → s.broadcastingSettings = false ∧ air = .ibeacon

theorem ne_zero_of_macConfigured {mac : Mac} (h : macConfigured mac = true) : mac ≠ Vector.replicate 6 0 := by
  rintro rfl
  exact absurd h (by decide)

theorem Fallen.same (h : Fallen s air) (hstate : s'.state = s.state)
    (hsettings : s'.broadcastingSettings = s.broadcastingSettings) : Fallen s' air :=
  fun hb => (h (hstate ▸ hb)).imp_left hsettings.trans

/-- Programs that leave the radio alone. -/
theorem wp_unkeyed {α : Type} {p : Main α} {Q : α → Prop} (hp : wp (calls .quiet) p (fun a _ => Q a) ()) :
    wp (unkeyed cfg) p (fun a air' => Q a ∧ air' = air) air := by
  refine wp_frame (E := unkeyed cfg) hp (fun air' => air' = air) (fun _ _ _ h => h.elim)
    (fun air₁ c hc h₁ => ?_) rfl
  have hquiet : c.radioCall = true → False := hc.radio
  refine ⟨fun hkey => ?_, fun a air₂ hs => ⟨answers_of_config (fun _ => trivial) c a, ?_⟩⟩
  · cases c with
    | advStartAirtag | advUpdateAirtag | setMac => exact hquiet rfl
    | _ => exact hkey
  · obtain ⟨-, hs⟩ := hs
    cases c with
    | advStartAirtag | advUpdateAirtag | advStartFmdn | advUpdateFmdn | broadcastIbeacon | startSettingsAdv
    | advStop | stopSettingsAdv | btDisable => exact absurd rfl hquiet
    | _ =>
      cases hs
      exact h₁

theorem handleSettingsModeEntry_unkeyed (hJ : Fallen s air) (hs : Broadcasting s) :
    wp (unkeyed cfg) (handleSettingsModeEntry s) Fallen air := by
  have hair := hJ hs.state
  simp +contextual [handleSettingsModeEntry, useSettingsMac, Fallen, hair, ne_zero_of_macConfigured]

theorem firmwareUpload_unkeyed : wp (unkeyed cfg) (firmwareUpload s) Fallen air := by
  simp only [firmwareUpload, issue, wp_bind, wp_issue, unkeyed_allowed, unkeyed_step, Call.KeyDerived,
    OnAir.Next, Steady, not_false_eq_true, true_and]
  rintro _ _ rfl _ _ rfl _ _ rfl _ _ rfl
  refine wp_mono (fun _ air' _ => ?_) (wp_unkeyed (uploadWait_calls Policy.quiet_sound 15))
  simp [Fallen]

theorem handleSettingsModeExit_unkeyed (h : BothOff cfg) (hJ : Fallen s air)
    (hs : s.state = .settingsMode ∨ s.broadcastingSettings = true) :
    wp (unkeyed cfg) (handleSettingsModeExit s) Fallen air := by
  have hstate : s.state ≠ .broadcasting := by
    intro hb
    rcases hs with hs | hs
    · exact absurd (hb.symm.trans hs) (by decide)
    · exact absurd ((hJ hb).1.symm.trans hs) (by decide)
  have hleave (air : OnAir) : wp (unkeyed cfg) (leaveSettings s) Fallen air := by
    simp [leaveSettings, restoreMac, ibeaconFallback, Fallen, h.1, h.2, hstate]
  simp [handleSettingsModeExit, hleave, firmwareUpload_unkeyed, Fallen, hstate]

theorem waitButtonRelease_unkeyed {ms : UInt32} {Q : Unit → OnAir → Prop} (hQ : Q () air) :
    wp (unkeyed cfg) (waitButtonRelease ms) Q air := by
  refine wp_mono ?_ (wp_unkeyed (waitButtonRelease_calls (Q := fun _ _ => True) trivial trivial))
  rintro _ air' ⟨-, rfl⟩
  exact hQ

theorem handleButtonLongpress_unkeyed (hJ : Fallen s air) (hs : Broadcasting s) :
    wp (unkeyed cfg) (handleButtonLongpress s) (fun r air' => Fallen r.2 air') air := by
  simp [handleButtonLongpress, waitButtonRelease_unkeyed, Fallen, hJ hs.state]

theorem rule_unkeyed (h : BothOff cfg) : TickRule (unkeyed cfg) Fallen Fallen where
  weaken := id
  uptime hJ hs := by simp [Fallen, hJ hs.state]
  sync hJ := by
    refine wp_mono ?_ (wp_unkeyed syncGattState_calls)
    rintro s' air' ⟨⟨f, rfl⟩, rfl⟩
    exact hJ.same rfl rfl
  sleep hJ := by
    refine wp_mono ?_ (wp_unkeyed (tickSleep_calls Policy.quiet_sound))
    rintro s' air' ⟨⟨n, -, rfl⟩, rfl⟩
    exact hJ.same rfl rfl
  exit := handleSettingsModeExit_unkeyed h
  timeSave hJ hs := by simp [handleTimeSave, Fallen, hJ hs.state]
  batteryCheck hJ hs := by
    simp [handleBatteryCheck, updateBattery, updateStatus, Fallen, h.1, h.2, hJ hs.state]
  uvlo hJ hs := by simp [handleUvloShutdown, Fallen, hJ hs.state]
  nokeys hJ hs := by simp [handleNokeysShutdown, Fallen, hJ hs.state]
  entry := handleSettingsModeEntry_unkeyed
  burst hJ hs := by simp [handleMaxPowerBurst, Fallen, hJ hs.state]
  rotation hJ hs := by simp [handleKeyRotation, Fallen, h.1, hJ hs.state]
  button := handleButtonLongpress_unkeyed
  accelerometer hJ hs := by simp [handleAccelerometer, Fallen, hJ hs.state]
  broadcast hJ hs := by simp [tickBroadcast, Fallen, h.1, h.2, hJ hs.state]

/-! ## Startup -/

theorem startUp_unkeyed (h : BothOff cfg) (hkeys : cfg.numKeys = 0) : wp (unkeyed cfg) (startUp s) Fallen air := by
  refine wp_seq (wp_unkeyed (wakePeripherals_calls Policy.quiet_sound)) ?_
  intro _ air₁ _
  simp +contextual [prepareKeys, setInitialMac, updateBattery, updateStatus, startRadio, ibeaconFallback,
    waitButtonRelease_unkeyed, Fallen, h.1, h.2, hkeys, ne_zero_of_macConfigured]

theorem initializeMachine_unkeyed (h : BothOff cfg) (hkeys : cfg.numKeys = 0) :
    wp (unkeyed cfg) (initializeMachine s) Fallen air := by
  simp [initializeMachine, startUp_unkeyed h hkeys, Fallen]

theorem unkeyed_step_answers (air : OnAir) (c : Call) :
    ∃ air', (unkeyed cfg).step air c (answers { cfg with turnedOn := true } 0 3000 c) air' := by
  have hsteady := steady_answers_on cfg true 0 3000 c
  cases c with
  | _ => exact ⟨_, hsteady, rfl⟩

/-- Like a start, a round keeps to what is allowed. -/
theorem mainLoop_unkeyed (h : BothOff cfg) (hJ : Fallen s air) (hs : s.state ≠ .initializing) :
    wp (unkeyed cfg) (mainLoop s) (fun s' air' => Fallen s' air' ∧ s'.state ≠ .initializing) air :=
  wp_mode ((rule_unkeyed h).mainLoop hJ hs) (mainLoop_started hs)

end

/-! ## A start with a protocol on -/

section

variable {cfg : BeaconConfig} {s : StateMachine} {ans : (c : Call) → c.Ans} {P : Call → Prop}

theorem waitButtonRelease_ends {ms : UInt32} {Q : Unit → Prop} (h : ans .buttonPressed = false) :
    (waitButtonRelease ms).Ends ans Q ↔ Q () := by
  rw [waitButtonRelease, Prog.ends_loop, h]
  exact (and_iff_right rfl).trans (Prog.ends_pure () Q)

@[simp] theorem accelInitRetry_ends {n : Nat} {Q : Unit → Prop} : (accelInitRetry n).Ends ans Q ↔ Q () := by
  induction n with
  | zero => simp [accelInitRetry]
  | succ n ih => simp [accelInitRetry, ih]

@[simp] theorem wakePeripherals_ends {Q : Unit → Prop} : wakePeripherals.Ends ans Q ↔ Q () := by
  simp [wakePeripherals]

theorem startUp_ends (hbutton : ans .buttonPressed = false) :
    (startUp s).Ends ans (fun s => s.state = .broadcasting) := by
  simp [startUp, prepareKeys, setMacFromCurrentKey, setInitialMac, updateBattery, updateStatus, startRadio,
    ibeaconFallback, waitButtonRelease_ends hbutton]

/-- A device that is turned on starts. -/
theorem initializeMachine_ends_broadcasting (hbutton : ans .buttonPressed = false)
    (hon : (ans .config).turnedOn = true) : (initializeMachine s).Ends ans (fun s => s.state = .broadcasting) := by
  simp [initializeMachine, startUp_ends hbutton, hon]

/-- Without keys the address stays zero, and a protocol that is on has it set. -/
theorem startUp_issues (hkeys : (ans .config).numKeys = 0)
    (hflags : (ans .config).flagAirtag = true ∨ (ans .config).flagFmdn = true) :
    (startUp {}).Issues ans Call.KeyDerived := by
  have hprep : (prepareKeys {}).Ends ans (fun s => s.bleAddr = Vector.replicate 6 0) := by
    simp [prepareKeys, hkeys]
  refine .bind_right (Q := fun _ => True) (wakePeripherals_ends.2 trivial) fun _ _ => .bind_right hprep fun s hs => ?_
  refine .bind_left ?_
  simp [setInitialMac, hflags, hs]

theorem initializeMachine_issues (hbutton : ans .buttonPressed = false) (hon : (ans .config).turnedOn = true)
    (hkeys : (ans .config).numKeys = 0) (hflags : (ans .config).flagAirtag = true ∨ (ans .config).flagFmdn = true) :
    (initializeMachine {}).Issues ans Call.KeyDerived := by
  simp [initializeMachine, hbutton, hon, startUp_issues hkeys hflags]

end

/-! ## The identity of a device without keys -/

/-- The calls of every run keep off the address of a key and the AirTag; and without FMDN the iBeacon is on air
in broadcasting mode. -/
structure KeylessIdentity (cfg : BeaconConfig) : Prop where
  calls : ∀ p air, During (unkeyed cfg) (initializeMachine {}) mainLoop (· = .none) p air →
    ∀ c, p.next? = some c → ¬ c.KeyDerived
  fallback : cfg.flagFmdn = false →
    ∀ s air, Boundary (unkeyed cfg) (initializeMachine {}) mainLoop (· = .none) s air →
      s.state = .broadcasting → air = .ibeacon

theorem KeylessIdentity.bothOff {cfg : BeaconConfig} (h : KeylessIdentity cfg) (hkeys : cfg.numKeys = 0) :
    BothOff cfg := by
  by_contra hflags
  have hon : cfg.flagAirtag = true ∨ cfg.flagFmdn = true := by
    by_contra hoff
    rw [not_or, Bool.not_eq_true, Bool.not_eq_true] at hoff
    exact hflags ⟨hoff.1, hoff.2⟩
  have hissues : (initializeMachine {}).Issues (answers { cfg with turnedOn := true } 0 3000) Call.KeyDerived :=
    initializeMachine_issues rfl rfl hkeys hon
  obtain ⟨p, air, c, hr, hc, hkey⟩ := hissues.exists_reaches unkeyed_step_answers .none
  exact h.calls p air (.start rfl hr) c hc hkey

theorem BothOff.keylessIdentity {cfg : BeaconConfig} (h : BothOff cfg) (hkeys : cfg.numKeys = 0) :
    KeylessIdentity cfg := by
  have hstart (air : OnAir) (_ : air = .none) : wp (unkeyed cfg) (initializeMachine {})
      (fun s' air' => Fallen s' air' ∧ s'.state ≠ .initializing) air :=
    wp_mode (initializeMachine_unkeyed h hkeys) initializeMachine_started
  have hiter (s : StateMachine) (air : OnAir) (hI : Fallen s air ∧ s.state ≠ .initializing) :=
    mainLoop_unkeyed h hI.1 hI.2
  refine ⟨fun p air hp c hc => during_allowed hstart hiter hp hc, fun _ s air hs hb => ?_⟩
  exact ((boundary_inv hstart hiter hs).1 hb).2

/-- A device without keys shows nothing of a key, and falls back to the iBeacon, exactly if both protocols are
off. -/
theorem keyless_identity_iff (cfg : BeaconConfig) (hkeys : cfg.numKeys = 0) :
    KeylessIdentity cfg ↔ cfg.flagAirtag = false ∧ cfg.flagFmdn = false :=
  ⟨fun h => ⟨(h.bothOff hkeys).1, (h.bothOff hkeys).2⟩, fun h => BothOff.keylessIdentity ⟨h.1, h.2⟩ hkeys⟩

/-- As flashed. -/
theorem keyless_identity_default : KeylessIdentity {} := (keyless_identity_iff {} rfl).2 ⟨rfl, rfl⟩

/-- With either protocol on, `set_mac` is handed six zeros while the device starts. -/
theorem zero_address_set : ¬ KeylessIdentity { flagAirtag := true } ∧ ¬ KeylessIdentity { flagFmdn := true } :=
  ⟨fun h => absurd (h.bothOff rfl).1 (by decide), fun h => absurd (h.bothOff rfl).2 (by decide)⟩

end Everytag
