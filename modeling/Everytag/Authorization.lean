import Everytag.Session

/-!
# Authorization and pending restarts

The main loop with GATT events between its calls is the world `firmware`: its state carries the
history of the events, and opening the firmware upload is allowed only if the history has an
authorized request for it.

* Nothing happens to settings, flags or clock outside of an authorized session, and no firmware upload
  opens without a request from one (`Ran.authorized`, `enableDfu_requested`).
* A pending restart survives every event but a failed auth write; a settings window that ends with a
  restart pending ends in `reboot` (`handleSettingsModeExit_reboots`).
* A write of a new code closes the session and changes nothing (`authCode_run`).
-/

namespace Everytag

open Bytes Interaction StateMachine

/-! ## The main loop among GATT events -/

structure Firmware where
  device : Device
  past : History := []

/-- `GattEvent`s arrive between the calls of the main loop; `start_settings_adv` is an event that
the main loop causes itself. -/
def firmware : World Call Call.Ans Firmware where
  allowed w c := c = .enableDfu → UploadRequested w.past
  step w c a w' := w.device.Serves c a w'.device ∧
    w'.past = if c = .startSettingsAdv then w.past ++ [(w.device, .startSettingsAdv)] else w.past
  move w w' := ∃ e, w' = ⟨w.device.step e, w.past ++ [(w.device, e)]⟩

theorem Device.Serves.sameSession {d d' : Device} {c : Call} {a : c.Ans} (h : d.Serves c a d')
    (hc : c ≠ .startSettingsAdv) : SameSession d d' := by
  cases c with
  | config | configKey | glueSyncGattState =>
    obtain ⟨-, rfl⟩ := h
    exact ⟨rfl, rfl, rfl⟩
  | setTurnedOn | updateTurnedOn => cases h; exact ⟨rfl, rfl, rfl⟩
  | storeTime =>
    obtain ⟨t, rfl⟩ := h
    exact ⟨rfl, rfl, rfl⟩
  | reboot =>
    obtain ⟨ts, rfl⟩ := h
    obtain ⟨hc, hg⟩ := d.foldl_storeTime_config ts
    exact ⟨hg, by rw [hc], by rw [hc]⟩
  | startSettingsAdv => exact absurd rfl hc
  | _ => cases h; exact ⟨rfl, rfl, rfl⟩

/-- The events and calls of the firmware make a run of the device. -/
theorem Ran.firmware_step {d₀ : Device} {w w' : Firmware} {c : Call} {a : c.Ans}
    (h : Ran d₀ w.past w.device) (hs : firmware.step w c a w') : Ran d₀ w'.past w'.device := by
  obtain ⟨hserves, hpast⟩ := hs
  by_cases hc : c = .startSettingsAdv
  · subst hc
    rw [hpast, if_pos rfl, show w'.device = _ from hserves]
    exact h.event .startSettingsAdv
  · rw [hpast, if_neg hc]
    exact h.call (hserves.sameSession hc)

theorem Ran.firmware_move {d₀ : Device} {w w' : Firmware} (h : Ran d₀ w.past w.device)
    (hm : firmware.move w w') : Ran d₀ w'.past w'.device := by
  obtain ⟨e, rfl⟩ := hm
  exact h.event e

theorem Ran.during {d₀ : Device} {p : Main StateMachine} {w : Firmware}
    (h : During firmware (initializeMachine {}) mainLoop (· = ⟨d₀, []⟩) p w) : Ran d₀ w.past w.device :=
  during_keeps (I := fun w => Ran d₀ w.past w.device) (fun _ hw => hw ▸ .start)
    (fun _ _ h hm => h.firmware_move hm) (fun _ _ _ _ h hs => h.firmware_step hs) h

theorem firmware_past {w w' : Firmware} {c : Call} {a : c.Ans} (hs : firmware.step w c a w') :
    ∃ more, w'.past = w.past ++ more := by
  refine ⟨if c = .startSettingsAdv then [(w.device, .startSettingsAdv)] else [], ?_⟩
  rw [hs.2]
  split <;> simp

section Upload

variable {d₀ : Device} {s : StateMachine} {w : Firmware}

/-- The invariant behind the upload: the run so far, and a request wherever the copy of the flag in
the state machine is set. -/
def Requested (d₀ : Device) (pauseUpload : Bool) (w : Firmware) : Prop :=
  Ran d₀ w.past w.device ∧ (pauseUpload = true → UploadRequested w.past)

theorem Requested.step {w' : Firmware} {b : Bool} {c : Call} {a : c.Ans} (h : Requested d₀ b w)
    (hs : firmware.step w c a w') : Requested d₀ b w' := by
  obtain ⟨more, hmore⟩ := firmware_past hs
  exact ⟨h.1.firmware_step hs, fun hb => hmore ▸ (h.2 hb).append more⟩

theorem Requested.move {w' : Firmware} {b : Bool} (h : Requested d₀ b w) (hm : firmware.move w w') :
    Requested d₀ b w' := by
  refine ⟨h.1.firmware_move hm, fun hb => ?_⟩
  obtain ⟨e, rfl⟩ := hm
  exact (h.2 hb).append _

/-- Programs that open the upload only under `pause_upload_` keep the invariant. -/
theorem wp_firmware {α : Type} {p : Main α} {Q : α → Prop} {b : Bool}
    (hp : wp (calls (.any True (b = true))) p (fun a _ => Q a) ()) (h : Requested d₀ b w) :
    wp firmware p (fun _ w => Ran d₀ w.past w.device) w := by
  exact wp_mono (fun _ _ hw => hw.2.1) (wp_frame (E := firmware) hp (Requested d₀ b)
    (fun _ _ h hm => h.move hm)
    (fun w c hc h => ⟨fun hdfu => h.2 (hc.dfu hdfu), fun a w' hs =>
      ⟨answers_of_config (fun _ => trivial) c a, h.step hs⟩⟩) h)

theorem wp_syncGattState (hd₀ : d₀.gatt.allowedChange ≠ true) (hp₀ : d₀.gatt.pauseUpload ≠ true)
    (h : Ran d₀ w.past w.device) :
    wp firmware (syncGattState s) (fun s' w => Requested d₀ s'.pauseUpload w) w := by
  have hclosed (w w' : Firmware) (b : Bool) (h : Requested d₀ b w) (hm : firmware.Moves w w') :
      Requested d₀ b w' := World.Moves.keeps (fun _ _ h hm => h.move hm) hm h
  intro w₁ hm
  have h₁ : Ran d₀ w₁.past w₁.device := World.Moves.keeps (I := fun w => Ran d₀ w.past w.device)
    (fun _ _ h hm => h.firmware_move hm) hm h
  refine ⟨by nofun, fun flags w₂ hs w₃ hm₃ => hclosed w₂ w₃ _ ⟨h₁.firmware_step hs, fun hp => ?_⟩ hm₃⟩
  obtain ⟨⟨rfl, hdev⟩, hpast⟩ := hs
  rw [hpast]
  exact h₁.uploadRequested hd₀ hp₀ hp

/-- The firmware upload opens only on an authorized request. -/
theorem enableDfu_requested (hd₀ : d₀.gatt.allowedChange ≠ true) (hp₀ : d₀.gatt.pauseUpload ≠ true)
    {p : Main StateMachine} (h : During firmware (initializeMachine {}) mainLoop (· = ⟨d₀, []⟩) p w)
    (hnext : p.next? = some .enableDfu) : UploadRequested w.past := by
  refine during_allowed (I := fun _ w => Ran d₀ w.past w.device) (fun w hw => ?_) (fun s w hr => ?_)
    h hnext rfl
  · subst hw
    exact wp_firmware (b := false) (initializeMachine_calls Policy.any_sound trivial trivial)
      ⟨.start, by nofun⟩
  · refine wp_seq (wp_syncGattState hd₀ hp₀ hr) ?_
    intro s' w' hreq
    exact wp_firmware (tick_calls Policy.any_sound trivial trivial trivial fun hp => hp) hreq

end Upload

/-- A disconnection keeps the configuration and stores the ring or nothing. -/
theorem Device.step_disconnected (d : Device) :
    (d.step .disconnected).settings.config = d.settings.config ∧
      ((d.step .disconnected).settings.nvs = d.settings.nvs ∨
        (d.step .disconnected).settings.nvs =
          (d.settings.nvs.write NvsFieldId.key.id (flat d.settings.config.keys)).2) := by
  by_cases hu : d.gatt.updateKeysAtDisconnect = true
  · rw [Device.step_disconnected_settings hu]
    refine ⟨SettingsManager.save_config _ _, .inr ?_⟩
    simp [SettingsManager.save, SettingsManager.saveField, BeaconConfig.fieldBytes]
  · have : (d.step .disconnected).settings = d.settings := by
      simp [Device.step, Device.handle, Device.disconnected, hu]
    rw [this]
    exact ⟨rfl, .inl rfl⟩

/-- Take any settings, all flags of the GATT layer zero.  After any events, a further event outside
of an authorized session changes no setting by a write, arms no restart and no upload, and sends no
time; the ring is the old one overwritten by chunks of authorized sessions, which is all that a
disconnection stores; and the main loop opens the firmware upload only after an authorized client
has written the reserved status word. -/
theorem gatt_authorization (m : SettingsManager) (accelThreshold : Int) :
    let d₀ : Device := ⟨m, accelThreshold, {}⟩
    (∀ (es : List GattEvent) (e : GattEvent),
      ¬ AuthorizedSession (d₀.history es) → (d₀.run es).Harmless e) ∧
    (∀ es : List GattEvent, let d := d₀.run es
      Overwritten m.config.keys (d₀.history es) d.settings.config.keys ∧
      (d.step .disconnected).settings.config = d.settings.config ∧
      ((d.step .disconnected).settings.nvs = d.settings.nvs ∨
        (d.step .disconnected).settings.nvs =
          (d.settings.nvs.write NvsFieldId.key.id (flat d.settings.config.keys)).2)) ∧
    ∀ (p : Main StateMachine) (w : Firmware),
      During firmware (initializeMachine {}) mainLoop (· = ⟨d₀, []⟩) p w →
      p.next? = some .enableDfu → UploadRequested w.past := by
  intro d₀
  have h₀ : d₀.gatt.allowedChange ≠ true := by simp [d₀]
  refine ⟨fun es e hclosed => ?_, fun es => ⟨?_, (d₀.run es).step_disconnected⟩, fun p w h hnext => ?_⟩
  · refine Device.harmless_of_closed (fun ha => hclosed ?_) e
    exact (ran_history d₀ es).authorized h₀ ha
  · exact (ran_history d₀ es).overwritten h₀
  · exact enableDfu_requested h₀ (by simp [d₀]) h hnext

/-! ## Pending restarts -/

/-- The clock stands at `now`. -/
@[simp] def ClockAt (now : UInt32) : (c : Call) → c.Ans → Prop
  | .uptimeSeconds, a => a = now
  | _, _ => True

/-- The state says whether `reboot` has been called. -/
def rebooting (now : UInt32) : World Call Call.Ans Bool where
  allowed _ _ := True
  step rebooted c a rebooted' := ClockAt now c a ∧ rebooted' = (rebooted || decide (c = .reboot))
  move _ _ := False

instance (now : UInt32) : (rebooting now).Sequential := ⟨fun _ _ h => h⟩

section Rebooting

variable {now : UInt32} {s : StateMachine}

@[simp] theorem rebooting_allowed (b : Bool) (c : Call) : (rebooting now).allowed b c ↔ True := Iff.rfl

@[simp] theorem rebooting_step (b b' : Bool) (c : Call) (a : c.Ans) :
    (rebooting now).step b c a b' ↔ ClockAt now c a ∧ b' = (b || decide (c = .reboot)) := Iff.rfl

theorem uploadWait_terminates (n : Nat) {b : Bool} :
    wp (rebooting now) (uploadWait n) (fun _ _ => True) b := by
  induction n with
  | zero => simp [uploadWait]
  | succ n ih => simpa [uploadWait] using ih

theorem firmwareUpload_reboots {b : Bool} :
    wp (rebooting now) (firmwareUpload s) (fun _ rebooted => rebooted = true) b := by
  simp only [firmwareUpload, issue, wp_bind, wp_issue, rebooting_allowed, rebooting_step, ClockAt,
    reduceCtorEq, decide_false, Bool.or_false, true_and, forall_eq, forall_const]
  refine wp_mono (fun _ _ _ => ?_) (uploadWait_terminates 15)
  simp

theorem leaveSettings_reboots {b : Bool} (h : s.needsReset = true) :
    wp (rebooting now) (leaveSettings s) (fun _ rebooted => rebooted = true) b := by
  simp [leaveSettings, restoreMac, h]

/-- A settings window with a restart pending lasts until its end and ends in `reboot`. -/
theorem handleSettingsModeExit_reboots (h : s.needsReset = true) :
    wp (rebooting now) (handleSettingsModeExit s)
      (fun s' rebooted => if now < s.timers.endSettings then s' = s else rebooted = true) false := by
  by_cases hnow : now < s.timers.endSettings
  · simp [handleSettingsModeExit, hnow]
  · simpa [handleSettingsModeExit, hnow, firmwareUpload_reboots, leaveSettings_reboots h] using
      UInt32.not_lt.1 hnow

end Rebooting

/-- In any run of the main loop among GATT events: once an event leaves a restart pending, it is
pending at every later event and now, exactly if no auth write has failed since.  A settings window
that the state machine leaves with a restart pending is left by `reboot`. -/
theorem needsReset_kept_iff (d₀ : Device) :
    (∀ (p : Main StateMachine) (w : Firmware),
      During firmware (initializeMachine {}) mainLoop (· = ⟨d₀, []⟩) p w →
      ∀ (pre post : History) (d : Device) (e : GattEvent), w.past = pre ++ (d, e) :: post →
        (d.step e).gatt.needsReset = true →
        (((∀ x ∈ post, x.1.gatt.needsReset = true) ∧ w.device.gatt.needsReset = true) ↔
          ∀ x ∈ post, ¬ FailedAuth x)) ∧
    ∀ (s : StateMachine) (now : UInt32), s.needsReset = true →
      wp (rebooting now) (handleSettingsModeExit s)
        (fun s' rebooted => if now < s.timers.endSettings then s' = s else rebooted = true) false := by
  refine ⟨fun p w h pre post d e hpast he => ?_, fun s now h => handleSettingsModeExit_reboots h⟩
  exact (Ran.during h).needsReset_iff hpast he

/-- A session that writes the period and then, as for a new code, eight bytes that are not the stored
code: the pending restart is gone, and the settings window ends in broadcasting without `reboot`. -/
theorem needsReset_lost :
    let d := Device.defaultSession.step (.write .period 0 [4, 0, 0, 0])
    let d' := d.step (.write .auth 0 [104, 103, 102, 101, 100, 99, 98, 97])
    d.gatt.needsReset = true ∧ d'.gatt.needsReset = false ∧ d'.settings.config.multPeriod = 4 ∧
      wp (rebooting 100)
        (handleSettingsModeExit
          { state := .settingsMode, broadcastingSettings := true, broadcastingAnything := true,
            needsReset := d'.gatt.needsReset })
        (fun s rebooted => s.state = .broadcasting ∧ rebooted = false) false := by
  refine ⟨by decide, by decide, by decide, ?_⟩
  rw [show (Device.step _ _).gatt.needsReset = false by decide]
  simp [handleSettingsModeExit, leaveSettings, restoreMac, ibeaconFallback]

/-! ## A new code -/

/-- A further change: another code than `code`, written in an authorized session. -/
def ChangesCode (code : AuthCode) (x : Device × GattEvent) : Prop :=
  x.1.gatt.allowedChange = true ∧ ∃ t buf, x.2 = .write .auth t buf ∧ buf ≠ code.toList

/-- The code of the device has become `new`: it is stored, a load after the disconnection finds it,
the session stays authorized, and until a further change an auth write passes exactly with it. -/
structure PasswordChanged (d : Device) (t : UInt32) (new : AuthCode) : Prop where
  stored : (d.step (.write .auth t new.toList)).settings.config.authCode = new
  persisted : (BeaconConfig.load
    ((d.step (.write .auth t new.toList)).step .disconnected).settings.nvs.read).authCode = new
  authorized : (d.step (.write .auth t new.toList)).gatt.allowedChange = true
  later : ∀ (es : List GattEvent) (buf : List UInt8),
    (∀ x ∈ (d.step (.write .auth t new.toList)).history es, ¬ ChangesCode new x) →
    (0 < handleAuth ((d.step (.write .auth t new.toList)).run es).settings buf ↔ buf = new.toList)

theorem authCode_run (d : Device) (es : List GattEvent) :
    (d.run es).settings.config.authCode = d.settings.config.authCode := by
  induction es generalizing d with
  | nil => rfl
  | cons e es ih => exact (ih (d.step e)).trans Device.authCode_step

/-- Writing a code other than the stored one never changes the code: the settings stay as they are,
the session is closed, and from then on an auth write passes exactly with the old code. -/
theorem password_unchanged (d : Device) (t : UInt32) (new : AuthCode)
    (hne : new ≠ d.settings.config.authCode) :
    let d' := d.step (.write .auth t new.toList)
    ¬ PasswordChanged d t new ∧ d'.settings = d.settings ∧ d'.gatt.allowedChange = false ∧
      ∀ (es : List GattEvent) (buf : List UInt8),
        0 < handleAuth (d'.run es).settings buf ↔ buf = d.settings.config.authCode.toList := by
  intro d'
  have hcode : new.toList ≠ d.settings.config.authCode.toList := fun h => hne (Vector.toList_inj.1 h)
  have hd' : d' = { d with gatt :=
      { d.gatt with allowedChange := false, needsReset := false, pauseUpload := false } } := by
    simp [d', Device.step, Device.handle, Device.attWrite, Device.writeAuthorize, Device.chrcWrite,
      Device.chrcWriteAuth, handleAuth_pos, hcode]
  refine ⟨fun h => hne ?_, by rw [hd'], by rw [hd'], fun es buf => ?_⟩
  · exact h.stored.symm.trans Device.authCode_step
  · rw [handleAuth_pos, authCode_run, Device.authCode_step]

/-- `hgfedcba` is refused for ever, and the default code passes. -/
theorem password_unchanged_default :
    let d' := Device.defaultSession.step (.write .auth 0 [104, 103, 102, 101, 100, 99, 98, 97])
    d'.gatt.allowedChange = false ∧ ∀ (es : List GattEvent) (buf : List UInt8),
      0 < handleAuth (d'.run es).settings buf ↔ buf = defaultAuthCode.toList :=
  (password_unchanged Device.defaultSession 0 #v[104, 103, 102, 101, 100, 99, 98, 97] (by decide)).2.2

/-- `conn_beacon.py -n hgfedcba` in a session opened with the default code. -/
theorem password_not_changed :
    ¬ PasswordChanged Device.defaultSession 0 #v[104, 103, 102, 101, 100, 99, 98, 97] := by
  intro h
  exact absurd h.authorized (by decide)

end Everytag
