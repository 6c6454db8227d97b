import Everytag.Tick
import Everytag.Ledger

/-!
# Flash wear

Every record that is written wears the flash.  `wearing` is the device with any events of the GATT layer before
each call of the main loop; it counts the events, and the records that the calls write (`own`).  The calls are
paid from a budget of one record an hour and a few for the start and the end, which is all that the world
`budget` knows; `wearing` follows it.
-/

namespace Everytag

open Interaction StateMachine BeaconConfig

/-- The records that a call can write; `reboot` stores the time eight times. -/
@[simp] def Call.cost : Call → Nat
  | .storeTime => 1
  | .reboot => 8
  | .updateTurnedOn _ => 1
  | _ => 0

/-- The calls that end a run. -/
@[simp] def Call.stops : Call → Bool
  | .reboot | .powerOff => true
  | _ => false

/-- Uptimes do not decrease, and stay clear of the end of their range. -/
@[simp] def Ticks (latest : UInt32) : (c : Call) → c.Ans → UInt32 → Prop
  | .uptimeSeconds, now, latest' => latest ≤ now ∧ now.toNat < 4294960096 ∧ latest' = now
  | _, _, latest' => latest' = latest

/-! ## The budget -/

structure Spent where
  /-- the uptime read last -/
  latest : UInt32 := 0
  on : Bool := true
  /-- the records that were written -/
  own : Nat := 0
deriving DecidableEq, Repr

def budget : World Call Call.Ans Spent where
  allowed w c := w.on = true → w.own + c.cost ≤ w.latest.toNat / 3600 + 24
  step w c a w' := w.on = true ∧ Ticks w.latest c a w'.latest ∧ w'.on = !c.stops ∧ w'.own ≤ w.own + c.cost
  move _ _ := False

instance : budget.Sequential := ⟨fun _ _ h => h⟩

section

variable {s s' : StateMachine} {w w' : Spent} {u : UInt32} {k : Nat}

@[simp] theorem budget_allowed (c : Call) :
    budget.allowed w c ↔ (w.on = true → w.own + c.cost ≤ w.latest.toNat / 3600 + 24) := Iff.rfl

@[simp] theorem budget_step (c : Call) (a : c.Ans) : budget.step w c a w' ↔
    w.on = true ∧ Ticks w.latest c a w'.latest ∧ w'.on = !c.stops ∧ w'.own ≤ w.own + c.cost := Iff.rfl

/-- With the last hourly save at `u`, one record for each hour before it and `k` more. -/
def Worn (k : Nat) (u : UInt32) (w : Spent) : Prop :=
  w.on = true → w.own ≤ u.toNat / 3600 + k ∧ u ≤ w.latest ∧ w.latest.toNat < 4294960096

theorem Worn.mono {l : Nat} (h : Worn k u w) (hl : k ≤ l) : Worn l u w := fun hon =>
  ⟨Nat.le_trans (h hon).1 (Nat.add_le_add_left hl _), (h hon).2⟩

/-- A call that can be paid. -/
theorem Worn.allowed {c : Call} (h : Worn k u w) (hk : k + c.cost ≤ 24) : budget.allowed w c := by
  intro hon
  obtain ⟨hown, hle, -⟩ := h hon
  have hhours : u.toNat / 3600 ≤ w.latest.toNat / 3600 := Nat.div_le_div_right (UInt32.le_iff_toNat_le.1 hle)
  omega

theorem Worn.step {c : Call} {a : c.Ans} (h : Worn k u w) (hs : budget.step w c a w') :
    Worn (k + c.cost) u w' := by
  obtain ⟨hon, hclock, -, hown⟩ := hs
  obtain ⟨hle, hlast, hbound⟩ := h hon
  intro _
  have hlatest : w.latest ≤ w'.latest ∧ w'.latest.toNat < 4294960096 := by
    cases c with
    | uptimeSeconds =>
      obtain ⟨hnow, hlt, heq⟩ := hclock
      exact heq ▸ ⟨hnow, hlt⟩
    | _ =>
      rw [show w'.latest = w.latest from hclock]
      exact ⟨UInt32.le_refl _, hbound⟩
  exact ⟨by omega, UInt32.le_trans hlast hlatest.1, hlatest.2⟩

/-- After the end nothing is left to pay. -/
theorem Worn.of_stops {c : Call} {a : c.Ans} (hs : budget.step w c a w') (hc : c.stops = true) : Worn k u w' := by
  intro hon
  rw [hs.2.2.1, hc] at hon
  cases hon

theorem wp_pay {α : Type} {c : Call} {m : Nat} {p : c.Ans → Main α} {Q : α → Spent → Prop} (hc : c.cost = m)
    (h : Worn k u w) (hk : k + m ≤ 24) (hp : ∀ a w', Worn (k + m) u w' → wp budget (p a) Q w') :
    wp budget (issue c >>= p) Q w := by
  subst hc
  refine wp_call _ (h.allowed hk) ?_
  intro a w' hs
  exact hp a w' (h.step hs)

/-- A call that costs nothing. -/
theorem wp_free {α : Type} {c : Call} {p : c.Ans → Main α} {Q : α → Spent → Prop} (hc : c.cost = 0)
    (h : Worn k u w) (hk : k ≤ 24) (hp : ∀ a w', Worn k u w' → wp budget (p a) Q w') :
    wp budget (issue c >>= p) Q w :=
  wp_pay hc h hk hp

theorem wp_stop {α : Type} {c : Call} {m : Nat} {p : c.Ans → Main α} {Q : α → Spent → Prop} (hc : c.cost = m)
    (hstop : c.stops = true) (h : Worn k u w) (hk : k + m ≤ 24)
    (hp : ∀ a w', Worn 1 u w' → wp budget (p a) Q w') : wp budget (issue c >>= p) Q w := by
  subst hc
  refine wp_call _ (h.allowed hk) ?_
  intro a w' hs
  exact hp a w' (.of_stops hs hstop)

/-- Programs that write nothing. -/
abbrev dry : World Call Call.Ans Unit := free (fun c => c.cost = 0) fun _ _ => True

theorem wp_dry {α : Type} {p : Main α} {Q : α → Prop} (hp : wp dry p (fun a _ => Q a) ()) (h : Worn k u w)
    (hk : k ≤ 24) : wp budget p (fun a w' => Q a ∧ Worn k u w') w := by
  refine wp_frame (E := budget) hp (Worn k u) (fun _ _ _ h => h.elim) (fun w₁ c hc h₁ => ?_) h
  have hfree : k + c.cost = k := congrArg (k + ·) hc
  refine ⟨h₁.allowed (by omega), fun a w₂ hs => ⟨trivial, ?_⟩⟩
  exact hfree ▸ h₁.step hs

/-! ## The handlers that write -/

/-- The record of another hour. -/
theorem handleTimeSave_worn (h : Worn 1 s.timers.timeSave w) :
    wp budget (handleTimeSave s) (fun s' w' => Worn 1 s'.timers.timeSave w') w := by
  refine wp_call _ (h.allowed (by decide)) ?_
  intro now w₁ hs₁
  have h₁ : Worn 1 s.timers.timeSave w₁ := h.step hs₁
  have hlt : now.toNat < 4294960096 := hs₁.2.1.2.1
  have hnow : w₁.latest = now := hs₁.2.1.2.2
  rw [wp_ite]
  refine ⟨fun hdue => ?_, fun _ => (wp_pure _ _ _ _).2 h₁⟩
  refine wp_call _ (h₁.allowed (by decide)) ?_
  intro _ w₂ hs₂
  refine (wp_pure _ _ _ _).2 fun hon => ?_
  have hlatest : w₂.latest = now := Eq.trans hs₂.2.1 hnow
  obtain ⟨hown, hle, -⟩ := h₁ hs₂.1
  have hmore : w₂.own ≤ w₁.own + 1 := hs₂.2.2.2
  refine ⟨?_, UInt32.le_of_eq hlatest.symm, hlatest ▸ hlt⟩
  show w₂.own ≤ now.toNat / 3600 + 1
  have hlast : s.timers.timeSave.toNat + 3600 ≤ now.toNat := by
    have hu := UInt32.le_iff_toNat_le.1 hle
    have hdue := UInt32.le_iff_toNat_le.1 hdue
    rw [hnow] at hu
    rw [UInt32.toNat_add] at hdue
    have hinterval : kIntervalTimeSave.toNat = 3600 := rfl
    omega
  omega

theorem uploadWait_worn (n : Nat) (h : Worn k u w) (hk : k + n ≤ 24) :
    wp budget (uploadWait n) (fun _ => Worn (k + n) u) w := by
  induction n generalizing k w with
  | zero => exact (wp_pure _ _ _ _).2 h
  | succ n ih =>
    refine wp_free rfl h (by omega) ?_
    intro _ w₁ h₁
    refine wp_pay (m := 1) rfl h₁ (by omega) ?_
    intro _ w₂ h₂
    refine wp_free rfl h₂ (by omega) ?_
    intro _ w₃ h₃
    exact wp_mono (fun _ _ h => h.mono (by omega)) (ih h₃ (by omega))

theorem firmwareUpload_worn (h : Worn 1 u w) : wp budget (firmwareUpload s) (fun _ => Worn 1 u) w := by
  refine wp_free rfl h (by decide) ?_
  intro _ w₁ h₁
  refine wp_free rfl h₁ (by decide) ?_
  intro _ w₂ h₂
  refine wp_free rfl h₂ (by decide) ?_
  intro _ w₃ h₃
  refine wp_free rfl h₃ (by decide) ?_
  intro _ w₄ h₄
  refine wp_seq (uploadWait_worn 15 h₄ (by decide)) ?_
  intro _ w₅ h₅
  refine wp_free rfl h₅ (by decide) ?_
  intro _ w₆ h₆
  refine wp_stop rfl rfl h₆ (by decide) ?_
  intro _ w₇ h₇
  exact (wp_pure _ _ _ _).2 h₇

theorem leaveSettings_worn (h : Worn 1 s.timers.timeSave w) :
    wp budget (leaveSettings s) (fun s' w' => Worn 1 s'.timers.timeSave w') w := by
  refine wp_free rfl h (by decide) ?_
  intro _ w₁ h₁
  refine wp_free rfl h₁ (by decide) ?_
  intro _ w₂ h₂
  refine wp_free rfl h₂ (by decide) ?_
  intro _ w₃ h₃
  refine wp_seq (wp_dry (Q := fun _ => True) (by simp [restoreMac]) h₃ (by decide)) ?_
  rintro _ w₄ ⟨-, h₄⟩
  refine wp_free rfl h₄ (by decide) ?_
  intro _ w₅ h₅
  refine wp_free rfl h₅ (by decide) ?_
  intro cfg w₆ h₆
  refine wp_free rfl h₆ (by decide) ?_
  intro _ w₇ h₇
  rw [wp_ite]
  refine ⟨fun _ => ?_, fun _ => ?_⟩
  · refine wp_stop rfl rfl h₇ (by decide) ?_
    intro _ w₈ h₈
    exact (wp_pure _ _ _ _).2 h₈
  · refine wp_seq (wp_dry (Q := fun _ => True) (by simp [ibeaconFallback]) h₇ (by decide)) ?_
    rintro _ w₈ ⟨-, h₈⟩
    exact (wp_pure _ _ _ _).2 h₈

theorem handleSettingsModeExit_worn (h : Worn 1 s.timers.timeSave w) :
    wp budget (handleSettingsModeExit s) (fun s' w' => Worn 1 s'.timers.timeSave w') w := by
  have hcall {c : Call} (hc : c.cost = 0) {w : Spent} (h : Worn 1 s.timers.timeSave w) :
      wp budget (issue c) (fun _ => Worn 1 s.timers.timeSave) w :=
    wp_mono (fun _ _ hw => hw.2) (wp_dry (Q := fun _ => True) (by simpa using hc) h (by decide))
  refine handleSettingsModeExit_decides (J := Worn 1 s.timers.timeSave) (fun w h => hcall rfl h)
    (fun ms w hms h => wp_mono (fun _ w h => hcall rfl h) (hcall rfl h)) (fun w h => ?_) (fun w h => ?_)
    (fun w h => leaveSettings_worn h) h
  · exact (wp_pure _ _ _ _).2 h
  · have hupload : wp (calls (.any True True)) (firmwareUpload s)
        (fun s' _ => s'.timers.timeSave = s.timers.timeSave) () :=
      wp_mono (fun _ _ h => by rw [h]) (firmwareUpload_only Policy.any_sound trivial trivial trivial)
    exact wp_mono (fun _ _ hw => hw.2 ▸ hw.1) (wp_mode (firmwareUpload_worn h) hupload)

/-- A long press writes the power state, and ends the run. -/
theorem handleButtonLongpress_worn (h : Worn 1 s.timers.timeSave w) : wp budget (handleButtonLongpress s)
    (fun r w' => Worn 1 r.2.timers.timeSave w') w := by
  refine wp_free rfl h (by decide) ?_
  intro pressed w₁ h₁
  rw [wp_ite]
  refine ⟨fun _ => (wp_pure _ _ _ _).2 h₁, fun _ => ?_⟩
  refine wp_free rfl h₁ (by decide) ?_
  intro _ w₂ h₂
  refine wp_free rfl h₂ (by decide) ?_
  intro pressed' w₃ h₃
  rw [wp_ite]
  refine ⟨fun _ => (wp_pure _ _ _ _).2 h₃, fun _ => ?_⟩
  refine wp_free rfl h₃ (by decide) ?_
  intro _ w₄ h₄
  refine wp_free rfl h₄ (by decide) ?_
  intro _ w₅ h₅
  refine wp_seq (wp_dry (Q := fun _ => True) (waitButtonRelease_free rfl rfl rfl trivial) h₅ (by decide)) ?_
  rintro _ w₆ ⟨-, h₆⟩
  refine wp_free rfl h₆ (by decide) ?_
  intro _ w₇ h₇
  refine wp_pay (m := 1) rfl h₇ (by decide) ?_
  intro _ w₈ h₈
  refine wp_free rfl h₈ (by decide) ?_
  intro _ w₉ h₉
  refine wp_free rfl h₉ (by decide) ?_
  intro _ w₁₀ h₁₀
  refine wp_free rfl h₁₀ (by decide) ?_
  intro _ w₁₁ h₁₁
  refine wp_free rfl h₁₁ (by decide) ?_
  intro _ w₁₂ h₁₂
  refine wp_free rfl h₁₂ (by decide) ?_
  intro _ w₁₃ h₁₃
  refine wp_stop rfl rfl h₁₃ (by decide) ?_
  intro _ w₁₄ h₁₄
  exact (wp_pure _ _ _ _).2 h₁₄

/-! ## The other handlers -/

theorem wp_unwritten {α : Type} {p : Main α} {f : α → StateMachine}
    (hp : wp dry p (fun a _ => (f a).timers.timeSave = s.timers.timeSave) ()) (h : Worn 1 s.timers.timeSave w) :
    wp budget p (fun a w' => Worn 1 (f a).timers.timeSave w') w :=
  wp_mono (fun _ _ hw => hw.1 ▸ hw.2) (wp_dry hp h (by decide))

theorem broadcast_dry {v : Unit} : wp dry (broadcast s)
    (fun s' _ => s'.timers.timeSave = s.timers.timeSave) v := by
  simp [broadcast]

theorem handleBatteryCheck_dry {v : Unit} : wp dry (handleBatteryCheck s)
    (fun s' _ => s'.timers.timeSave = s.timers.timeSave) v := by
  have hthen {s₁ : StateMachine} (hs : s₁.timers.timeSave = s.timers.timeSave) (v : Unit) :
      wp dry (broadcast s₁) (fun s' _ => s'.timers.timeSave = s.timers.timeSave) v :=
    wp_mono (fun _ _ h => h.trans hs) broadcast_dry
  simp [handleBatteryCheck, updateBattery, updateStatus, hthen]

theorem handleKeyRotation_dry {v : Unit} : wp dry (handleKeyRotation s)
    (fun s' _ => s'.timers.timeSave = s.timers.timeSave) v := by
  have hthen {s₁ : StateMachine} (hs : s₁.timers.timeSave = s.timers.timeSave) (v : Unit) :
      wp dry (broadcast s₁) (fun s' _ => s'.timers.timeSave = s.timers.timeSave) v :=
    wp_mono (fun _ _ h => h.trans hs) broadcast_dry
  simp [handleKeyRotation, setMacFromCurrentKey, hthen]

theorem tickBroadcast_dry {v : Unit} : wp dry (tickBroadcast s)
    (fun s' _ => s'.timers.timeSave = s.timers.timeSave) v := by
  have hthen {s₁ : StateMachine} (hs : s₁.timers.timeSave = s.timers.timeSave) (v : Unit) :
      wp dry (broadcast s₁) (fun s' _ => s'.timers.timeSave = s.timers.timeSave) v :=
    wp_mono (fun _ _ h => h.trans hs) broadcast_dry
  simp [tickBroadcast, handleInitialBroadcast, handleAirtagFmdnAlternation, hthen]

theorem worn_rule : TickRule budget (fun s => Worn 1 s.timers.timeSave) (fun s => Worn 1 s.timers.timeSave) where
  weaken h := h
  sync h := wp_unwritten (f := id) (by simp [syncGattState]) h
  sleep h := wp_unwritten (f := id) (by simp [tickSleep]) h
  exit h _ := handleSettingsModeExit_worn h
  timeSave h _ := handleTimeSave_worn h
  batteryCheck h _ := wp_unwritten (f := id) handleBatteryCheck_dry h
  uvlo h _ := wp_unwritten (by simp [handleUvloShutdown]) h
  nokeys h _ := wp_unwritten (by simp [handleNokeysShutdown]) h
  uptime h _ := wp_mono (fun _ _ hw => hw.2) (wp_dry (Q := fun _ => True) (by simp) h (by decide))
  entry h _ := wp_unwritten (f := id) (by simp [handleSettingsModeEntry, useSettingsMac]) h
  burst h _ := wp_unwritten (f := id) (by simp [handleMaxPowerBurst]) h
  rotation h _ := wp_unwritten (f := id) handleKeyRotation_dry h
  button h _ := handleButtonLongpress_worn h
  accelerometer h _ := wp_unwritten (f := id) (by simp [handleAccelerometer]) h
  broadcast h _ := wp_unwritten (f := id) tickBroadcast_dry h

/-! ## Startup -/

theorem wakePeripherals_dry {v : Unit} : wp dry wakePeripherals (fun _ _ => True) v := by
  have hinit (v : Unit) (Q : Unit → Unit → Prop) (hQ : Q () ()) : wp dry (accelInitRetry 3) Q v :=
    wp_mono (fun _ _ _ => hQ) (accelInitRetry_free 3 rfl)
  simp [wakePeripherals, hinit]

theorem startUp_dry {v : Unit} : wp dry (startUp s)
    (fun s' _ => s'.timers.timeSave = s.timers.timeSave) v := by
  refine wp_seq wakePeripherals_dry ?_
  intro _ _ _
  refine wp_seq (R := fun s' _ => s'.timers = s.timers) (by simp [prepareKeys, setMacFromCurrentKey]) ?_
  intro s₁ _ h₁
  refine wp_seq (R := fun _ _ => True) (by simp [setInitialMac]) ?_
  intro _ _ _
  refine wp_seq (R := fun s' _ => s'.timers = s.timers) (by simp [updateBattery, h₁]) ?_
  intro s₂ _ h₂
  refine wp_seq (R := fun s' _ => s'.timers = s.timers) (by simp [updateStatus, h₂]) ?_
  intro s₃ _ h₃
  refine wp_seq (R := fun _ _ => True) (by simp [startRadio, ibeaconFallback]) ?_
  intro _ _ _
  refine wp_seq (waitButtonRelease_free (Q := fun _ _ => True) rfl rfl rfl trivial) ?_
  intro _ _ _
  exact (wp_pure _ _ _ _).2 (congrArg Timers.timeSave h₃)

/-- A start with the button held writes the power state. -/
theorem initializeMachine_worn : wp budget (initializeMachine {}) (fun s' => Worn 1 s'.timers.timeSave) {} := by
  have h₀ : Worn 0 0 ({} : Spent) := fun _ => ⟨Nat.zero_le _, UInt32.le_refl _, by decide⟩
  have hstart {k : Nat} {w : Spent} (h : Worn k 0 w) (hk : k ≤ 1) :
      wp budget (startUp {}) (fun s' => Worn 1 s'.timers.timeSave) w :=
    wp_unwritten (s := {}) (f := id) startUp_dry (h.mono hk)
  refine wp_free rfl h₀ (by decide) ?_
  intro _ w₁ h₁
  refine wp_free rfl h₁ (by decide) ?_
  intro _ w₂ h₂
  refine wp_free rfl h₂ (by decide) ?_
  intro pressed w₃ h₃
  refine wp_free rfl h₃ (by decide) ?_
  intro _ w₄ h₄
  rw [wp_ite]
  refine ⟨fun _ => ?_, fun _ => ?_⟩
  · refine wp_free rfl h₄ (by decide) ?_
    intro _ w₅ h₅
    refine wp_pay (m := 1) rfl h₅ (by decide) ?_
    intro _ w₆ h₆
    exact hstart h₆ (le_refl 1)
  · refine wp_free rfl h₄ (by decide) ?_
    intro cfg w₅ h₅
    rw [wp_ite]
    refine ⟨fun _ => ?_, fun _ => hstart h₅ (by decide)⟩
    refine wp_free rfl h₅ (by decide) ?_
    intro _ w₆ h₆
    refine wp_stop rfl rfl h₆ (by decide) ?_
    intro _ w₇ h₇
    exact (wp_pure _ _ _ _).2 h₇

/-! ## Runs of the budget -/

/-- What has been written, at any moment of a run. -/
theorem own_le {p : Main StateMachine} (h : During budget (initializeMachine {}) mainLoop (· = {}) p w) :
    w.own ≤ w.latest.toNat / 3600 + 24 := by
  refine during_keeps_of_allowed (E := budget) (J := fun w => w.own ≤ w.latest.toNat / 3600 + 24)
    (I := fun s w => Worn 1 s.timers.timeSave w ∧ s.state ≠ .initializing) (fun w hw => ?_) (fun s w h => ?_)
    (fun w hw => ?_) (fun _ _ _ h => h.elim) (fun w c a w' hw hc hs => ?_) h
  · subst hw
    exact wp_mode initializeMachine_worn initializeMachine_started
  · exact wp_mode (worn_rule.mainLoop h.1 h.2) (mainLoop_started h.2)
  · subst hw
    exact Nat.zero_le _
  · have hpaid := hc hs.1
    have hown := hs.2.2.2
    have hlatest : w.latest ≤ w'.latest := by
      have hclock := hs.2.1
      cases c with
      | uptimeSeconds => exact hclock.2.2 ▸ hclock.1
      | _ => exact UInt32.le_of_eq (Eq.symm hclock)
    have hhours : w.latest.toNat / 3600 ≤ w'.latest.toNat / 3600 :=
      Nat.div_le_div_right (UInt32.le_iff_toNat_le.1 hlatest)
    omega

end

/-! ## The device -/

namespace Device

/-- The records that the flash has taken up. -/
def records (d : Device) : Nat := d.settings.nvs.log.length

/-- The record that an event writes: a setting that the device takes, or the keys of a session that ends. -/
def weight (d : Device) : GattEvent → Nat
  | .write ch _ buf => if d.Takes ch buf ∧ ch.Saves buf then 1 else 0
  | .disconnected => if d.gatt.updateKeysAtDisconnect then 1 else 0
  | _ => 0

def weights (d : Device) : List GattEvent → Nat
  | [] => 0
  | e :: es => d.weight e + (d.step e).weights es

variable {d d' : Device} {ch : Chrc} {t : UInt32} {buf : List UInt8}

theorem records_save {m : SettingsManager} {f : NvsFieldId} :
    (m.save f).nvs.log.length = m.nvs.log.length + 1 := by
  simp [SettingsManager.save, SettingsManager.saveField, Nvs.write]

theorem records_bridge (hne : ch ≠ .auth) :
    (d.bridge t buf ch).records = d.records + if ch.Saves buf then 1 else 0 := by
  cases hrecord : ch.record with
  | none =>
    cases ch with
    | key =>
      rw [if_neg (by simp [Chrc.Saves])]
      simp only [records, bridge, handleKey]
      split
      · rfl
      · split <;> rfl
    | auth => exact absurd rfl hne
    | _ => cases hrecord
  | some f =>
    have h := bridge_saves d t buf hrecord
    by_cases hs : ch.Saves buf
    · rw [if_pos hs] at h ⊢
      obtain ⟨c, hc⟩ := h
      rw [records, hc, records_save]
      rfl
    · rw [if_neg hs] at h ⊢
      exact congrArg (fun m => m.nvs.log.length) h

theorem records_step (d : Device) (e : GattEvent) : (d.step e).records = d.records + d.weight e := by
  cases e with
  | write ch t buf =>
    rw [weight]
    by_cases ht : d.Takes ch buf
    · obtain ⟨g, hg⟩ := attWrite_of_takes (t := t) ht
      have hstep : (d.step (.write ch t buf)).records = (d.bridge t buf ch).records := by
        simp only [records, step, handle, hg]
      rw [hstep, records_bridge ht.2.2.1]
      simp only [ht, true_and]
    · obtain ⟨g, hg⟩ := attWrite_of_not_takes (t := t) ht
      rw [if_neg fun h => ht h.1]
      simp only [records, step, handle, hg, Nat.add_zero]
  | disconnected =>
    simp only [records, weight, step, handle, disconnected]
    split
    · rw [handleKey_none, records_save]
    · rfl
  | readTime t len offset =>
    simp only [records, weight, step, handle, chrcReadTimeOffset]
    split
    · rfl
    · split <;> rfl
  | _ => rfl

theorem records_run (d : Device) (es : List GattEvent) : (d.run es).records = d.records + d.weights es := by
  induction es generalizing d with
  | nil => rfl
  | cons e es ih => rw [run_cons, ih, records_step, weights, Nat.add_assoc]

theorem records_storeTime : (d.storeTime t).records = d.records + 1 := by
  simp [records, storeTime, SettingsManager.saveTime, Nvs.write]

theorem records_foldl_storeTime (d : Device) (ts : List UInt32) :
    (ts.foldl storeTime d).records = d.records + ts.length := by
  induction ts generalizing d with
  | nil => rfl
  | cons t ts ih => rw [List.foldl_cons, ih, records_storeTime, List.length_cons, Nat.add_assoc, Nat.add_comm 1]

/-- What a call writes is covered by its cost. -/
theorem Serves.records {c : Call} {a : c.Ans} (h : d.Serves c a d')
    (hreboot : c = .reboot → d'.records ≤ d.records + 8) :
    d.records ≤ d'.records ∧ d'.records ≤ d.records + c.cost := by
  cases c with
  | config | configKey | glueSyncGattState =>
    obtain ⟨-, rfl⟩ := h
    exact ⟨le_refl _, le_refl _⟩
  | updateTurnedOn on =>
    cases h
    have hsave : Device.records { d with settings := (d.setTurnedOn on).settings.save .turnedOn } =
        d.records + 1 := records_save
    exact ⟨hsave ▸ Nat.le_succ _, le_of_eq hsave⟩
  | storeTime =>
    obtain ⟨t, rfl⟩ := h
    exact ⟨records_storeTime ▸ Nat.le_succ _, le_of_eq records_storeTime⟩
  | reboot =>
    refine ⟨?_, hreboot rfl⟩
    obtain ⟨ts, rfl⟩ := h
    exact records_foldl_storeTime d ts ▸ Nat.le_add_right _ _
  | _ =>
    cases h
    exact ⟨le_refl _, le_refl _⟩

end Device

/-- A device with its events, and what has been spent. -/
structure Wear where
  device : Device
  /-- the records that events have written -/
  events : Nat := 0
  spent : Spent := {}

/-- The main loop, with any events before each of its calls; `reboot` stores the time eight times. -/
def wearing : World Call Call.Ans Wear where
  allowed _ _ := True
  step w c a w' := w.spent.on = true ∧ Ticks w.spent.latest c a w'.spent.latest ∧ w'.spent.on = !c.stops ∧
    ∃ es : List GattEvent, (w.device.run es).Serves c a w'.device ∧
      (c = .reboot → w'.device.records ≤ (w.device.run es).records + 8) ∧
      w'.events = w.events + w.device.weights es ∧
      w'.spent.own = w.spent.own + (w'.device.records - (w.device.run es).records)
  move _ _ := False

theorem wearing_follows_budget : wearing.Follows budget (fun w v => v = w.spent) where
  step := by
    rintro w _ c a w' rfl ⟨hon, hclock, hon', es, hserves, hreboot, -, hown⟩
    obtain ⟨-, hcost⟩ := hserves.records hreboot
    exact ⟨w'.spent, ⟨hon, hclock, hon', by omega⟩, rfl⟩
  move h hm := hm.elim

/-- Every record comes from an event or from a call, at every moment of a run: an event writes one only if it
sets a setting that the device takes or ends a session with new keys, and the main loop no more than one for
each hour of uptime and 24 for the start and the end, whatever clients do. -/
theorem flash_wear_bounded (d₀ : Device) {p : Main StateMachine} {w : Wear}
    (h : During wearing (initializeMachine {}) mainLoop (· = ⟨d₀, 0, {}⟩) p w) :
    w.device.records = d₀.records + w.events + w.spent.own ∧
      w.spent.own ≤ w.spent.latest.toNat / 3600 + 24 := by
  constructor
  · refine during_keeps (E := wearing) (I := fun w => w.device.records = d₀.records + w.events + w.spent.own)
      (fun w hw => ?_) (fun _ _ _ hm => hm.elim) (fun w c a w' hw hs => ?_) h
    · rw [hw]
      rfl
    · obtain ⟨-, -, -, es, hserves, hreboot, hevents, hown⟩ := hs
      obtain ⟨hmore, -⟩ := hserves.records hreboot
      have hrun := w.device.records_run es
      omega
  · have hinit (w : Wear) (hw : w = ⟨d₀, 0, {}⟩) : ∃ v : Spent, (fun v => v = {}) v ∧ v = w.spent :=
      ⟨{}, rfl, by rw [hw]⟩
    obtain ⟨v, hv, rfl⟩ := wearing_follows_budget.during hinit h
    exact own_le hv

/-- The answers of a device at the uptime `now`. -/
def Device.serve (now : UInt32) (d : Device) : (c : Call) → Option (c.Ans × Device)
  | .glueSyncGattState => some (⟨d.gatt.connectedGatt, d.gatt.authorizedGatt, d.gatt.pauseUpload,
      d.gatt.needsReset⟩, d)
  | .startSettingsAdv => some ((), d.startSettingsAdv)
  | .storeTime => some ((), d.storeTime now)
  | .configKey i => d.settings.config.keys[i.toNat]?.map fun key => (key, d)
  | .reboot | .setTurnedOn _ | .updateTurnedOn _ => none
  | c => some (answers d.settings.config now 3000 c, d)

theorem Device.serves_serve {now : UInt32} {d : Device} {c : Call} {x : c.Ans × Device}
    (h : d.serve now c = some x) : d.Serves c x.1 x.2 ∧ c ≠ .reboot := by
  cases c with
  | glueSyncGattState | config => cases h; exact ⟨⟨rfl, rfl⟩, by nofun⟩
  | startSettingsAdv => cases h; exact ⟨rfl, by nofun⟩
  | storeTime => cases h; exact ⟨⟨now, rfl⟩, by nofun⟩
  | configKey i =>
    obtain ⟨key, hkey, rfl⟩ := Option.map_eq_some_iff.1 h
    exact ⟨⟨hkey, rfl⟩, by nofun⟩
  | reboot | setTurnedOn | updateTurnedOn => cases h
  | _ => cases h; exact ⟨rfl, by nofun⟩

/-- The device at `now`, where `es` come before the flags are copied. -/
def Wear.serve (now : UInt32) (es : List GattEvent) (w : Wear) (c : Call) : Option (c.Ans × Wear) :=
  let es := if c = .glueSyncGattState then es else []
  let d := w.device.run es
  if w.spent.on ∧ w.spent.latest ≤ now then
    (d.serve now c).map fun x => (x.1, ⟨x.2, w.events + w.device.weights es,
      ⟨if c = .uptimeSeconds then now else w.spent.latest, !c.stops, w.spent.own + (x.2.records - d.records)⟩⟩)
  else none

theorem wearing_step_serve {now : UInt32} (hnow : now.toNat < 4294960096) {es : List GattEvent} (w : Wear)
    (c : Call) (x : c.Ans × Wear) (hx : w.serve now es c = some x) : wearing.step w c x.1 x.2 := by
  rw [Wear.serve] at hx
  split at hx
  · rename_i h
    obtain ⟨y, hy, rfl⟩ := Option.map_eq_some_iff.1 hx
    obtain ⟨hserves, hreboot⟩ := Device.serves_serve hy
    refine ⟨h.1, ?_, rfl, _, hserves, fun hc => absurd hc hreboot, rfl, rfl⟩
    cases c with
    | uptimeSeconds =>
      cases hy
      exact ⟨h.2, hnow, rfl⟩
    | _ => rfl
  · cases hx

/-- An hour after the start a client sets the period, and the clock is saved. -/
theorem flash_wear_bounded_hour :
    ∃ (d₀ : Device) (p : Main StateMachine) (w : Wear),
      During wearing (initializeMachine {}) mainLoop (· = ⟨d₀, 0, {}⟩) p w ∧
      w.events = 1 ∧ w.device.records = d₀.records + 2 := by
  let d₀ : Device := .boot ⟨[(NvsFieldId.turnedOn.id, intBytes 1)]⟩
  let es : List GattEvent := [.startSettingsAdv, .connected 0, .write .auth 0 defaultAuthCode.toList,
    .write .period 3600 (intBytes 8)]
  obtain ⟨⟨s₀, w₀⟩, h₀, ⟨s₁, w₁⟩, h₁, hevents, hown⟩ :
      ∃ x₀ ∈ (initializeMachine {}).play (Wear.serve 0 []) ⟨d₀, 0, {}⟩,
      ∃ x₁ ∈ (mainLoop x₀.1).play (Wear.serve 3600 es) x₀.2, x₁.2.events = 1 ∧ x₁.2.spent.own = 1 := by
    decide +kernel
  have hduring : During wearing (initializeMachine {}) mainLoop (· = ⟨d₀, 0, {}⟩) (.ret s₁) w₁ :=
    .iter (.start rfl (reaches_of_play (wearing_step_serve (by decide)) h₀))
      (reaches_of_play (wearing_step_serve (by decide)) h₁)
  have hrecords := (flash_wear_bounded d₀ hduring).1
  rw [hevents, hown] at hrecords
  exact ⟨d₀, _, w₁, hduring, hevents, hrecords⟩

end Everytag
