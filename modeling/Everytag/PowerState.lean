import Everytag.Startup
import Everytag.Keyless

/-!
# The power state across boots

Two things decide whether a board with a button starts: the button at its start, and the record of `turned_on`.
`Press` follows the button through its readings, as the user's hand would be described; in the world `switching`
the last action on record is what the user had done when the record was written, whatever was written.  The
record agrees with it after any boots, each of them cut off anywhere (`PowerHistory.agrees`), and so does the
outcome of the next one.
-/

namespace Everytag

open Interaction StateMachine BeaconConfig

/-! ## The button -/

/-- What the readings of the button show. -/
inductive Press
  /-- the boot has not looked yet -/
  | unseen
  /-- held at the boot: the device is switched on -/
  | held
  /-- not held at the boot; what is pressed until the start is over is only waited out -/
  | passed
  /-- in a tick, with no press under way -/
  | up
  | down
  /-- found down, and a second has passed -/
  | second
  /-- still down after it -/
  | long
  /-- let go after a long press: the device is switched off -/
  | released
deriving DecidableEq

namespace Press

/-- A reading of the button. -/
def look : Press → Bool → Press
  | .unseen, isDown => if isDown then .held else .passed
  | .up, isDown => if isDown then .down else .up
  | .down, isDown => if isDown then .down else .up
  | .second, isDown => if isDown then .long else .up
  | .long, isDown => if isDown then .long else .released
  | p, _ => p

def wait : Press → (ms : UInt32) → Press
  | .down, ms => if 1000 ≤ ms then .second else .down
  | p, _ => p

/-- A tick starts with the flags of `glue_sync_gatt_state`. -/
def next (p : Press) : (c : Call) → c.Ans → Press
  | .glueSyncGattState, _ => .up
  | .buttonPressed, isDown => p.look isDown
  | .sleepMs ms, _ => p.wait ms
  | _, _ => p

/-- What the user has done: switched the device on, or off. -/
def action : Press → Option Bool
  | .held => some true
  | .released => some false
  | _ => none

end Press

/-- A board with a button. -/
structure Switch where
  device : Device
  off : Bool := false
  press : Press := .unseen
  /-- the last action of the user that is on record -/
  last : Option Bool

namespace Switch

/-- `main` after the settings are loaded. -/
def boot (nvs : Nvs) (last : Option Bool) : Switch := { device := Device.boot nvs, last := last }

/-- When the record of `turned_on` is written, the last action of the user is on record. -/
def recorded (w : Switch) : Call → Option Bool
  | .updateTurnedOn _ => w.press.action.or w.last
  | _ => w.last

/-- After a call that leaves the device `d`. -/
def after (w : Switch) (c : Call) (a : c.Ans) (d : Device) : Switch :=
  ⟨d, decide (c = .powerOff ∨ c = .reboot), w.press.next c a, w.recorded c⟩

end Switch

/-- GATT events arrive between the calls, until `power_off` or `reboot`.  What is written must be what the user
did. -/
def switching : World Call Call.Ans Switch where
  allowed w c := ∀ on, c = .updateTurnedOn on → w.press.action = some on
  step w c a w' := w.off = false ∧ ∃ d, w.device.Serves c a d ∧ w' = w.after c a d
  move w w' := w.off = false ∧ ∃ e, w' = { w with device := w.device.step e }

/-- Boots of one board, the first on erased flash, each cut off at some point: by a loss of power, or because
nothing runs after `power_off` and `reboot`.  `last` is the last action on record. -/
inductive PowerHistory : Nvs → (last : Option Bool) → Prop
  | erased : PowerHistory .erased none
  | boot {nvs : Nvs} {last : Option Bool} {p : Main StateMachine} {w : Switch} : PowerHistory nvs last →
      During switching (initializeMachine {}) mainLoop (· = .boot nvs last) p w →
      PowerHistory w.device.settings.nvs w.last

section

variable {s : StateMachine} {w w' : Switch} {p : Press} {last : Option Bool} {on : Bool} {nvs : Nvs}

/-! ## The record -/

/-- The record of `turned_on` is the last action on record. -/
def OnFlash (w : Switch) : Prop :=
  w.device.settings.nvs.find NvsFieldId.turnedOn.id = w.last.map boolBytes

theorem OnFlash.move (h : OnFlash w) (hm : switching.move w w') : OnFlash w' := by
  obtain ⟨-, e, rfl⟩ := hm
  exact (Device.step_find (fun ch _ _ _ => by cases ch <;> simp [Chrc.record]) (by simp)).trans h

theorem OnFlash.step {c : Call} {a : c.Ans} (h : OnFlash w) (hc : switching.allowed w c)
    (hs : switching.step w c a w') : OnFlash w' := by
  obtain ⟨-, d, hserves, rfl⟩ := hs
  have hkept (hon : ∀ on, c ≠ .updateTurnedOn on) : OnFlash (w.after c a d) := by
    have hlast : w.recorded c = w.last := by
      cases c with
      | updateTurnedOn on => exact absurd rfl (hon on)
      | _ => rfl
    show _ = (w.recorded c).map boolBytes
    rw [hlast]
    exact (hserves.find (by decide) fun _ => hon).trans h
  cases c with
  | updateTurnedOn on =>
    obtain rfl := hserves
    show ((w.device.setTurnedOn on).settings.save .turnedOn).nvs.find NvsFieldId.turnedOn.id =
      (w.press.action.or w.last).map boolBytes
    rw [SettingsManager.find_save, if_pos rfl, hc on rfl]
    rfl
  | _ => exact hkept (by simp)

/-- A fresh boot reads the setting from its record. -/
theorem boot_turnedOn (h : nvs.find NvsFieldId.turnedOn.id = last.map boolBytes) :
    (Device.boot nvs).settings.config.turnedOn = (last == some true) := by
  show (load nvs.read).turnedOn = _
  rw [load_turnedOn]
  cases last with
  | none => simp [readBool, Nvs.read, h]
  | some on => cases on <;> simp [readBool_of_find h]

/-! ## One call -/

/-- The press, and the last action on record. -/
structure Stands (p : Press) (last : Option Bool) (w : Switch) : Prop where
  press : w.press = p
  last : w.last = last

theorem Stands.move (h : Stands p last w) (hm : switching.move w w') : Stands p last w' := by
  obtain ⟨-, e, rfl⟩ := hm
  exact ⟨h.press, h.last⟩

theorem wp_issue_stands {c : Call} (h : Stands p last w) (hc : ∀ on, c ≠ .updateTurnedOn on) :
    wp switching (issue c) (fun a w' => Stands (p.next c a) last w') w := by
  intro w₁ hm
  have h₁ : Stands p last w₁ := World.Moves.keeps (fun _ _ h hm => h.move hm) hm h
  refine ⟨fun on hon => absurd hon (hc on), ?_⟩
  rintro a _ ⟨-, d, -, rfl⟩
  refine wp_ret_of_stable ⟨congrArg (Press.next · c a) h₁.press, ?_⟩ fun _ _ h hm => h.move hm
  cases c with
  | updateTurnedOn on => exact absurd rfl (hc on)
  | _ => exact h₁.last

theorem wp_stands {α : Type} {c : Call} {k : c.Ans → Main α} {Q : α → Switch → Prop} (h : Stands p last w)
    (hc : ∀ on, c ≠ .updateTurnedOn on)
    (hk : ∀ a w', Stands (p.next c a) last w' → wp switching (k a) Q w') :
    wp switching (issue c >>= k) Q w :=
  wp_seq (wp_issue_stands h hc) hk

/-- The action of the user goes on record. -/
theorem Stands.update {a : Unit} (h : Stands p last w) (haction : p.action = some on)
    (hs : switching.step w (.updateTurnedOn on) a w') : Stands p (some on) w' := by
  obtain ⟨-, d, -, rfl⟩ := hs
  refine ⟨h.press, ?_⟩
  show w.press.action.or w.last = some on
  rw [h.press, haction]
  rfl

theorem Stands.allowed_update (h : Stands p last w) (haction : p.action = some on) :
    switching.allowed w (.updateTurnedOn on) := by
  rintro _ ⟨⟩
  rw [h.press, haction]

/-! ## The long press -/

/-- What the user has done in this tick is on record. -/
def OnRecord (w : Switch) : Prop := ∀ on, w.press.action = some on → w.last = some on

/-- No press is under way, or the device has been switched off. -/
def Calm (s : StateMachine) (w : Switch) : Prop := w.press = .up ∨ s.state = .shuttingDown ∧ OnRecord w

theorem Calm.move (h : Calm s w) (hm : switching.move w w') : Calm s w' := by
  obtain ⟨-, e, rfl⟩ := hm
  exact h

theorem Calm.up (h : Calm s w) (hs : Broadcasting s) : w.press = .up :=
  h.resolve_right fun h => absurd (hs.state.symm.trans h.1) (by decide)

theorem waitButtonRelease_released {ms : UInt32} (h : Stands .long last w) :
    wp switching (waitButtonRelease ms) (fun _ w' => Stands .released last w') w := by
  refine ⟨Stands .long last, h, fun w₀ w₁ h₀ hm => ?_⟩
  have h₁ : Stands .long last w₁ := World.Moves.keeps (fun _ _ h hm => h.move hm) hm h₀
  refine ⟨by rintro _ (_ | _), ?_⟩
  rintro isDown _ ⟨-, d, -, rfl⟩
  have hnext : Stands (Press.look .long isDown) last (w₁.after .buttonPressed isDown d) :=
    ⟨congrArg (Press.look · isDown) h₁.press, h₁.last⟩
  constructor
  · rintro rfl
    refine wp_stands hnext (by simp) fun _ _ h => ?_
    exact wp_issue_stands h (by simp)
  · rintro rfl
    exact wp_ret_of_stable hnext fun _ _ h hm => h.move hm

/-- Two readings a second apart and the release make a long press, and only a long press switches the device
off. -/
theorem handleButtonLongpress_calm (h : Stands .up last w) :
    wp switching (handleButtonLongpress s) (fun r w' => Calm r.2 w') w := by
  have hshort (w : Switch) (h : Stands .up last w) :
      wp switching (pure (false, s)) (fun r w' => Calm r.2 w') w :=
    wp_ret_of_stable (.inl h.press) fun _ _ h hm => h.move hm
  refine wp_stands h (by simp) fun isDown w₁ h₁ => ?_
  cases isDown with
  | false => exact hshort w₁ h₁
  | true =>
    refine wp_stands h₁ (by simp) fun _ w₂ h₂ => ?_
    refine wp_stands h₂ (by simp) fun isDown w₃ h₃ => ?_
    cases isDown with
    | false => exact hshort w₃ h₃
    | true =>
      refine wp_stands h₃ (by simp) fun _ w₄ h₄ => ?_
      refine wp_stands h₄ (by simp) fun _ w₅ h₅ => ?_
      refine wp_seq (waitButtonRelease_released h₅) fun _ w₆ h₆ => ?_
      refine wp_stands h₆ (by simp) fun _ w₇ h₇ => ?_
      refine wp_call_of_stable h₇ (fun _ _ h hm => h.move hm)
        (fun _ h => ⟨h.allowed_update rfl, fun _ _ hs => h.update rfl hs⟩) fun _ w₈ h₈ => ?_
      refine wp_stands h₈ (by simp) fun _ _ h => ?_
      refine wp_stands h (by simp) fun _ _ h => ?_
      refine wp_stands h (by simp) fun _ _ h => ?_
      refine wp_stands h (by simp) fun _ _ h => ?_
      refine wp_stands h (by simp) fun _ _ h => ?_
      refine wp_stands h (by simp) fun _ w' h => ?_
      refine wp_ret_of_stable (.inr ⟨rfl, fun on hon => ?_⟩) fun _ _ h hm => h.move hm
      rw [h.press] at hon
      rw [h.last, ← Option.some.inj hon]

/-! ## Ticks -/

/-- Everything but a reading of the button and the record of `turned_on`. -/
@[simp] def Call.HandsOff : Call → Prop
  | .buttonPressed => False
  | .updateTurnedOn _ => False
  | _ => True

abbrev handsOff : World Call Call.Ans Unit := free Call.HandsOff fun _ _ => True

theorem wp_up {α : Type} {p : Main α} (h : w.press = .up)
    (hp : wp handsOff p (fun _ _ => True) ()) :
    wp switching p (fun _ w' => w'.press = .up) w := by
  refine wp_mono (fun _ _ h => h.2) (wp_frame (E := switching) hp (·.press = .up) ?_ ?_ h)
  · rintro w _ h ⟨-, e, rfl⟩
    exact h
  · intro w c hc h
    refine ⟨?_, ?_⟩
    · rintro on rfl
      exact hc.elim
    · rintro a _ ⟨-, d, -, rfl⟩
      refine ⟨trivial, ?_⟩
      show w.press.next c a = .up
      rw [h]
      cases c with
      | buttonPressed => exact hc.elim
      | _ => rfl

theorem handleSettingsModeExit_handsOff {u : Unit} :
    wp handsOff (handleSettingsModeExit s) (fun _ _ => True) u := by
  have hupload (u : Unit) : wp handsOff (firmwareUpload s) (fun _ _ => True) u :=
    wp_mono (fun _ _ _ => trivial) (firmwareUpload_free (by simp))
  have hleave (u : Unit) : wp handsOff (leaveSettings s) (fun _ _ => True) u := by
    simp [leaveSettings, restoreMac, ibeaconFallback]
  simp [handleSettingsModeExit, hupload, hleave]

theorem calm_rule : TickRule switching (fun _ w => w.press = .up) Calm where
  weaken h := .inl h
  sync h := wp_up h (by simp [syncGattState])
  sleep h := wp_up h (by simp [tickSleep])
  exit h _ := wp_mono (fun _ _ h => .inl h) (wp_up h handleSettingsModeExit_handsOff)
  timeSave h _ := wp_up h (by simp [handleTimeSave])
  batteryCheck h _ := wp_up h (by simp [handleBatteryCheck, updateBattery, updateStatus, broadcast])
  uvlo h _ := wp_up h (by simp [handleUvloShutdown])
  nokeys h _ := wp_up h (by simp [handleNokeysShutdown])
  uptime h _ := wp_up h (by simp)
  entry h _ := wp_mono (fun _ _ h => .inl h) (wp_up h (by simp [handleSettingsModeEntry, useSettingsMac]))
  burst h _ := wp_up h (by simp [handleMaxPowerBurst])
  rotation h _ := wp_mono (fun _ _ h => .inl h)
    (wp_up h (by simp [handleKeyRotation, setMacFromCurrentKey, broadcast]))
  button h hs := handleButtonLongpress_calm ⟨h.up hs, rfl⟩
  accelerometer h hs := wp_mono (fun _ _ h => .inl h) (wp_up (h.up hs) (by simp [handleAccelerometer]))
  broadcast h hs := wp_mono (fun _ _ h => .inl h)
    (wp_up (h.up hs) (by simp [tickBroadcast, handleInitialBroadcast, handleAirtagFmdnAlternation, broadcast]))

theorem Calm.onRecord (h : Calm s w) : OnRecord w := by
  rcases h with h | h
  · simp [OnRecord, h, Press.action]
  · exact h.2

theorem mainLoop_onRecord (hs : s.state ≠ .initializing) :
    wp switching (mainLoop s) (fun _ w' => OnRecord w') w := by
  refine wp_stands (c := .glueSyncGattState) ⟨rfl, rfl⟩ (by simp) fun f w₁ h₁ => ?_
  refine wp_mono (fun _ _ h => h.onRecord) (calm_rule.tick (fun _ _ _ h hm => h.move hm) h₁.press ?_)
  exact hs

/-! ## A boot -/

/-- A device that starts, with `turned_on` as it is in its configuration. -/
structure Starting (on : Bool) (p : Press) (last : Option Bool) (w : Switch) : Prop
    extends Stands p last w where
  running : w.off = false
  setting : w.device.settings.config.turnedOn = on

theorem Starting.move (h : Starting on p last w) (hm : switching.move w w') : Starting on p last w' := by
  refine ⟨h.toStands.move hm, ?_, ?_⟩
  · obtain ⟨-, e, rfl⟩ := hm
    exact h.running
  · obtain ⟨-, e, rfl⟩ := hm
    exact Device.turnedOn_step.trans h.setting

/-- What `initialize` calls before it has decided whether to start, but for the last call, and from then on. -/
@[simp] def Call.Starts : Call → Prop
  | .powerOff | .reboot | .glueSyncGattState | .storeTime | .startSettingsAdv => False
  | .setTurnedOn _ | .updateTurnedOn _ => False
  | .configKey i => i.toNat < kMaxKeysInMemory
  | _ => True

/-- An answer of the device, with `turned_on` as it is. -/
def SettingAnswer (on : Bool) : (c : Call) → c.Ans → Prop
  | .config, cfg => cfg.turnedOn = on
  | _, _ => True

theorem Device.Serves.starts {d d' : Device} {c : Call} {a : c.Ans} (hs : d.Serves c a d') (hc : c.Starts) :
    d' = d ∧ SettingAnswer d.settings.config.turnedOn c a := by
  cases c with
  | powerOff | reboot | glueSyncGattState | storeTime | startSettingsAdv | setTurnedOn | updateTurnedOn =>
    exact hc.elim
  | config => exact ⟨hs.2, congrArg _ hs.1⟩
  | configKey => exact ⟨hs.2, trivial⟩
  | _ => exact ⟨hs, trivial⟩

theorem Starting.step {c : Call} {a : c.Ans} (h : Starting on p last w) (hc : c.Starts)
    (hs : switching.step w c a w') : SettingAnswer on c a ∧ Starting on (p.next c a) last w' := by
  obtain ⟨-, d, hserves, rfl⟩ := hs
  obtain ⟨rfl, ha⟩ := hserves.starts hc
  obtain ⟨⟨rfl, rfl⟩, hrun, rfl⟩ := h
  refine ⟨ha, ⟨rfl, ?_⟩, ?_, rfl⟩
  · cases c with
    | updateTurnedOn => exact hc.elim
    | _ => rfl
  · show decide (c = .powerOff ∨ c = .reboot) = false
    refine decide_eq_false ?_
    rintro (rfl | rfl)
    · exact hc
    · exact hc

theorem wp_starting {α : Type} {c : Call} {k : c.Ans → Main α} {Q : α → Switch → Prop}
    (h : Starting on p last w) (hc : c.Starts)
    (hk : ∀ a w', SettingAnswer on c a → Starting on (p.next c a) last w' → wp switching (k a) Q w') :
    wp switching (issue c >>= k) Q w := by
  intro w₁ hm
  have h₁ : Starting on p last w₁ := World.Moves.keeps (fun _ _ h hm => h.move hm) hm h
  refine ⟨?_, fun a w' hs => ?_⟩
  · rintro b rfl
    exact hc.elim
  · obtain ⟨ha, h'⟩ := h₁.step hc hs
    exact hk a w' ha h'

/-- Once it is decided that the device starts, the button is only waited for. -/
def Press.Settled (p : Press) : Prop := p = .held ∨ p = .passed

theorem Press.Settled.next (h : Press.Settled p) {c : Call} {a : c.Ans} (hc : c.Starts) : p.next c a = p := by
  rcases h with rfl | rfl
  · cases c with
    | glueSyncGattState => exact hc.elim
    | _ => rfl
  · cases c with
    | glueSyncGattState => exact hc.elim
    | _ => rfl

abbrev starting : World Call Call.Ans Unit := free Call.Starts fun _ _ => True

theorem wakePeripherals_starts {u : Unit} : wp starting wakePeripherals (fun _ _ => True) u := by
  simp only [wakePeripherals, issue, wp_bind, wp_issue, free_allowed, free_step, Call.Starts, true_and,
    forall_const]
  exact fun _ => wp_mono (fun _ _ _ => by simp) (accelInitRetry_free 3 trivial)

theorem startUp_starts {u : Unit} : wp starting (startUp s) (fun s' _ => s'.state = .broadcasting) u := by
  have hkeys (u : Unit) : wp starting (prepareKeys s) (fun _ _ => True) u := by
    simp [prepareKeys, setMacFromCurrentKey, kMaxKeysInMemory]
  have hmac (s : StateMachine) (u : Unit) : wp starting (setInitialMac s) (fun _ _ => True) u := by
    simp [setInitialMac]
  have hbattery (s : StateMachine) (u : Unit) : wp starting (updateBattery s) (fun _ _ => True) u := by
    simp [updateBattery]
  have hstatus (s : StateMachine) (u : Unit) : wp starting (updateStatus s) (fun _ _ => True) u := by
    simp [updateStatus]
  have hradio (s : StateMachine) (u : Unit) : wp starting (startRadio s) (fun _ _ => True) u := by
    simp [startRadio, ibeaconFallback]
  refine wp_seq wakePeripherals_starts fun _ _ _ => wp_seq (hkeys _) fun s₁ _ _ => ?_
  refine wp_seq (hmac s₁ _) fun _ _ _ => wp_seq (hbattery _ _) fun s₂ _ _ => ?_
  refine wp_seq (hstatus s₂ _) fun s₃ _ _ => wp_seq (hradio s₃ _) fun _ _ _ => ?_
  exact wp_seq (waitButtonRelease_free (Q := fun _ _ => True) trivial trivial trivial trivial) fun _ _ _ =>
    (wp_pure _ _ _ _).2 rfl

/-- A start leaves the button and the record alone. -/
theorem startUp_starting (hp : Press.Settled p) (h : Starting on p last w) : wp switching (startUp s)
    (fun s' w' => s'.state = .broadcasting ∧ Starting on p last w') w := by
  refine wp_frame (E := switching) startUp_starts (Starting on p last) (fun _ _ h hm => h.move hm) ?_ h
  intro w c hc h
  refine ⟨?_, fun a w' hs => ⟨trivial, ?_⟩⟩
  · rintro b rfl
    exact hc.elim
  · exact hp.next hc ▸ (h.step hc hs).2

/-- How a boot can come out of `initialize`. -/
inductive BootEnd (last : Option Bool) (s : StateMachine) (w : Switch) : Prop
  | held : s.state = .broadcasting → Stands .held (some true) w → BootEnd last s w
  | on : last = some true → s.state = .broadcasting → Stands .passed last w → BootEnd last s w
  | off : last ≠ some true → s.state = .shuttingDown → w.off = true → Stands .passed last w → BootEnd last s w

theorem BootEnd.move (h : BootEnd last s w) (hm : switching.move w w') : BootEnd last s w' := by
  cases h with
  | held hs h => exact .held hs (h.move hm)
  | on hlast hs h => exact .on hlast hs (h.move hm)
  | off hlast hs hoff h => exact absurd (hoff.symm.trans hm.1) (by decide)

/-- The button held: both copies of the setting are set. -/
theorem switchOn_bootEnd (h : Starting on .held last w) :
    wp switching (do issue (.setTurnedOn true); issue (.updateTurnedOn true); startUp s) (BootEnd last) w := by
  refine wp_call_of_stable (J := fun w => w.off = false ∧ Stands .held last w) h
    (fun _ _ h hm => h.move hm) ?_ ?_
  · refine fun w h => ⟨by simp [switching], ?_⟩
    rintro _ _ ⟨-, d, -, rfl⟩
    exact ⟨rfl, h.press, h.last⟩
  intro _ w₁ h₁
  refine wp_call_of_stable (I := fun w => w.off = false ∧ Stands .held last w)
    (J := Starting true .held (some true)) h₁ ?_ ?_ ?_
  · rintro w w' ⟨hrun, h⟩ hm
    refine ⟨?_, h.move hm⟩
    obtain ⟨-, e, rfl⟩ := hm
    exact hrun
  · refine fun w h => ⟨h.2.allowed_update rfl, fun _ _ hs => ⟨h.2.update rfl hs, ?_, ?_⟩⟩
    · obtain ⟨-, d, -, rfl⟩ := hs
      rfl
    · obtain ⟨-, d, rfl, rfl⟩ := hs
      rfl
  · exact fun _ w₂ h₂ => wp_mono (fun s' w' h => .held h.1 h.2.toStands) (startUp_starting (.inl rfl) h₂)

theorem initializeMachine_bootEnd (h : Starting (last == some true) .unseen last w) :
    wp switching (initializeMachine s) (BootEnd last) w := by
  refine wp_starting h trivial fun _ w₁ _ h₁ => ?_
  refine wp_starting h₁ trivial fun _ w₂ _ h₂ => ?_
  refine wp_starting h₂ trivial fun isDown w₃ _ h₃ => ?_
  refine wp_starting h₃ trivial fun _ w₄ _ h₄ => ?_
  cases isDown with
  | true => exact switchOn_bootEnd h₄
  | false =>
    refine wp_starting h₄ trivial fun cfg w₅ hcfg h₅ => ?_
    replace hcfg : cfg.turnedOn = (last == some true) := hcfg
    split
    · refine wp_starting h₅ trivial fun _ w₆ _ h₆ => ?_
      have hlast : last ≠ some true := by
        rintro rfl
        simp_all
      refine wp_call_of_stable (J := fun w => w.off = true ∧ Stands .passed last w) h₆
        (fun _ _ h hm => h.move hm) ?_ ?_
      · refine fun w h => ⟨by simp [switching], ?_⟩
        rintro _ _ ⟨-, d, -, rfl⟩
        exact ⟨rfl, h.press, h.last⟩
      · rintro _ w₇ ⟨hoff, h₇⟩
        exact wp_ret_of_stable (.off hlast rfl hoff h₇) fun _ _ h hm => h.move hm
    · have hlast : last = some true := by simp_all
      exact wp_mono (fun s' w' h => .on hlast h.1 h.2.toStands) (startUp_starting (.inr rfl) h₅)

/-! ## Every boot -/

theorem boot_starting (h : nvs.find NvsFieldId.turnedOn.id = last.map boolBytes) :
    Starting (last == some true) .unseen last (.boot nvs last) :=
  ⟨⟨rfl, rfl⟩, rfl, boot_turnedOn h⟩

theorem BootEnd.onRecord (h : BootEnd last s w) : s.state ≠ .initializing ∧ OnRecord w := by
  cases h with
  | held hs h =>
    refine ⟨by simp [hs], fun on hon => ?_⟩
    rw [h.press] at hon
    rw [h.last, ← Option.some.inj hon]
  | on _ hs h => exact ⟨by simp [hs], by simp [OnRecord, h.press, Press.action]⟩
  | off _ hs _ h => exact ⟨by simp [hs], by simp [OnRecord, h.press, Press.action]⟩

theorem initializeMachine_onRecord (h : nvs.find NvsFieldId.turnedOn.id = last.map boolBytes)
    (hw : w = .boot nvs last) : wp switching (initializeMachine {})
      (fun s w => s.state ≠ .initializing ∧ OnRecord w) w :=
  wp_mono (fun _ _ h => h.onRecord) (initializeMachine_bootEnd (hw ▸ boot_starting h))

theorem mainLoop_stays (h : s.state ≠ .initializing ∧ OnRecord w) :
    wp switching (mainLoop s) (fun s w => s.state ≠ .initializing ∧ OnRecord w) w :=
  wp_mono (fun _ _ h => ⟨h.2, h.1⟩) (wp_mode (mainLoop_onRecord h.1) (mainLoop_started h.1))

/-- Nothing but the user has changed the record. -/
theorem PowerHistory.agrees (h : PowerHistory nvs last) :
    nvs.find NvsFieldId.turnedOn.id = last.map boolBytes := by
  induction h with
  | erased => rfl
  | boot _ hd ih =>
    exact during_keeps_of_allowed (I := fun s w => s.state ≠ .initializing ∧ OnRecord w) (J := OnFlash)
      (fun _ hw => initializeMachine_onRecord ih hw) (fun _ _ h => mainLoop_stays h)
      (by rintro _ rfl; exact ih) (fun _ _ h hm => h.move hm) (fun _ _ _ _ h hc hs => h.step hc hs) hd

theorem Device.serves_answers (d : Device) {c : Call} (hc : c.Starts) (now : UInt32) (voltage : Int) :
    d.Serves c (answers d.settings.config now voltage c) d := by
  cases c with
  | powerOff | reboot | glueSyncGattState | storeTime | startSettingsAdv | setTurnedOn | updateTurnedOn =>
    exact hc.elim
  | config => exact ⟨rfl, rfl⟩
  | configKey i =>
    refine ⟨?_, rfl⟩
    show d.settings.config.keys[i.toNat]? = some (d.settings.config.keys[i.toNat]?.getD _)
    rw [Vector.getElem?_eq_getElem (show i.toNat < 40 from hc), Option.getD_some]
  | _ => rfl

/-- Once the button is up, nothing keeps a device from starting. -/
theorem startUp_completes (hp : Press.Settled p) (h : Starting on p last w) :
    ∃ s' w', Reaches switching (startUp s, w) (.ret s', w') ∧ w'.press = p := by
  have hserve (w₁ : Switch) (c : Call) (hc : c.Starts) (h₁ : Starting on p last w₁ ∧ w₁.device = w.device) :
      True ∧ ∃ w₂, switching.step w₁ c (answers w.device.settings.config 0 3000 c) w₂ ∧
        Starting on p last w₂ ∧ w₂.device = w.device := by
    obtain ⟨h₁, hdevice⟩ := h₁
    have hs : switching.step w₁ c (answers w.device.settings.config 0 3000 c) (w₁.after c _ w₁.device) :=
      ⟨h₁.running, w₁.device, hdevice ▸ w₁.device.serves_answers hc 0 3000, rfl⟩
    have h₂ := (h₁.step hc hs).2
    rw [hp.next hc] at h₂
    exact ⟨trivial, _, hs, h₂, hdevice⟩
  have hends : (startUp s).Ends (answers w.device.settings.config 0 3000) (fun s => s.state = .broadcasting) :=
    startUp_ends rfl
  obtain ⟨s', w', hr, -, h', -⟩ := hends.exists_reaches_within hserve startUp_starts ⟨h, rfl⟩
  exact ⟨s', w', hr, h'.press⟩

theorem reaches_call {α : Type} {c : Call} {d : Device} {k : c.Ans → Main α} {q : Main α × Switch} (a : c.Ans)
    (hrun : w.off = false) (hs : w.device.Serves c a d) (h : Reaches switching (k a, w.after c a d) q) :
    Reaches switching (issue c >>= k, w) q :=
  .head (.call ⟨hrun, d, hs, rfl⟩) h

/-- A boot with the button held. -/
theorem boot_completes_held : ∃ s' w', Reaches switching (initializeMachine s, .boot nvs last) (.ret s', w') ∧
    w'.press = .held := by
  let d := (Device.boot nvs).setTurnedOn true
  let w : Switch :=
    ⟨{ d with settings := (d.setTurnedOn true).settings.save .turnedOn }, false, .held, some true⟩
  have hw : Starting true .held (some true) w := ⟨⟨rfl, rfl⟩, rfl, rfl⟩
  obtain ⟨s', w', hr, hpress⟩ := startUp_completes (s := s) (.inl rfl) hw
  refine ⟨s', w', ?_, hpress⟩
  refine reaches_call () rfl rfl ?_
  refine reaches_call () rfl rfl ?_
  refine reaches_call true rfl rfl ?_
  refine reaches_call () rfl rfl ?_
  refine reaches_call () rfl rfl ?_
  exact reaches_call () rfl rfl hr

/-- A boot with the button up. -/
theorem boot_completes_passed (h : nvs.find NvsFieldId.turnedOn.id = last.map boolBytes) :
    ∃ s' w', Reaches switching (initializeMachine s, .boot nvs last) (.ret s', w') ∧ w'.press = .passed := by
  have hw : Starting (last == some true) .passed last ⟨Device.boot nvs, false, .passed, last⟩ :=
    ⟨⟨rfl, rfl⟩, rfl, boot_turnedOn h⟩
  obtain ⟨s', w', hr, hpress⟩ : ∃ s' w', Reaches switching
      (if !(Device.boot nvs).settings.config.turnedOn then do
        issue (.sleepMs 500)
        issue .powerOff
        return { s with state := .shuttingDown }
      else startUp s, ⟨Device.boot nvs, false, .passed, last⟩) (.ret s', w') ∧ w'.press = .passed := by
    split
    · refine ⟨{ s with state := .shuttingDown }, ⟨Device.boot nvs, true, .passed, last⟩, ?_, rfl⟩
      refine reaches_call () rfl rfl ?_
      exact reaches_call () rfl rfl .refl
    · exact startUp_completes (.inr rfl) hw
  refine ⟨s', w', ?_, hpress⟩
  refine reaches_call () rfl rfl ?_
  refine reaches_call () rfl rfl ?_
  refine reaches_call false rfl rfl ?_
  refine reaches_call () rfl rfl ?_
  exact reaches_call (Device.boot nvs).settings.config rfl ⟨rfl, rfl⟩ hr

/-- After any boots: the record is the last action on record; the next boot ends, with the button held or not,
and it ends in broadcasting if and only if the button is held or the last action on record switched the device
on, and in `power_off` otherwise; and what the user does in `initialize` or in a tick is on record when that
ends. -/
theorem power_state_across_boots (h : PowerHistory nvs last) :
    nvs.find NvsFieldId.turnedOn.id = last.map boolBytes ∧
    (∀ held : Bool, ∃ s w, Reaches switching (initializeMachine {}, .boot nvs last) (.ret s, w) ∧
      w.press = if held then .held else .passed) ∧
    (∀ s w, Reaches switching (initializeMachine {}, .boot nvs last) (.ret s, w) →
      (s.state = .broadcasting ↔ w.press = .held ∨ last = some true) ∧
      (s.state = .broadcasting ∨ s.state = .shuttingDown ∧ w.off = true)) ∧
    ∀ s w, Boundary switching (initializeMachine {}) mainLoop (· = .boot nvs last) s w →
      ∀ on, w.press.action = some on → w.last = some on := by
  have hrecord := h.agrees
  refine ⟨hrecord, fun held => ?_, fun s w hr => ?_, fun s w hb => ?_⟩
  · cases held with
    | true => exact boot_completes_held
    | false => exact boot_completes_passed hrecord
  · have hend : BootEnd last s w :=
      wp_reaches (initializeMachine_bootEnd (boot_starting hrecord)) hr w .refl
    cases hend with
    | held hs h => simp [hs, h.press]
    | on hlast hs h => simp [hs, hlast]
    | off hlast hs hoff h => simp [hs, hlast, hoff, h.press]
  · exact (boundary_inv (I := fun s w => s.state ≠ .initializing ∧ OnRecord w)
      (fun _ hw => initializeMachine_onRecord hrecord hw) (fun _ _ h => mainLoop_stays h) hb).2

end

/-- A device that was switched on once and lost its power starts without the button. -/
theorem power_state_across_boots_second : ∃ nvs s w, PowerHistory nvs (some true) ∧
    Reaches switching (initializeMachine {}, .boot nvs (some true)) (.ret s, w) ∧ w.press = .passed ∧
    s.state = .broadcasting := by
  obtain ⟨-, hboot, -, hlast⟩ := power_state_across_boots .erased
  obtain ⟨s₁, w₁, hr₁, hheld⟩ := hboot true
  have hon : w₁.last = some true := hlast s₁ w₁ (.start rfl hr₁) true (by rw [hheld]; rfl)
  have hhistory : PowerHistory w₁.device.settings.nvs (some true) := hon ▸ .boot .erased (.start rfl hr₁)
  obtain ⟨-, hboot, hend, -⟩ := power_state_across_boots hhistory
  obtain ⟨s₂, w₂, hr₂, hup⟩ := hboot false
  exact ⟨_, s₂, w₂, hhistory, hr₂, hup, (hend s₂ w₂ hr₂).1.2 (.inr rfl)⟩

end Everytag
