import Everytag.Keyless
import Everytag.Client

/-!
# The settings address

`conn_beacon.py -c` writes an address, the record of it is loaded at the next start, and two guards of the state
machine decide whether it counts as configured.  `Told` are the devices that were told an address and no other
one since; they hold it, in their configuration and in flash, over writes, calls and restarts (`Told.holds`).
The world `reloaded` notes under which address each settings window and each iBeacon of a start goes on air.
-/

namespace Everytag

open Interaction StateMachine BeaconConfig

/-- `conn_beacon.py -c`: the address as written, most significant byte first, reaches the device reversed. -/
def newMacId (t : UInt32) (addr : Mac) : GattEvent := .write .settingsMac t addr.toList.reverse

/-- The event does not write the settings address. -/
def GattEvent.Spares (e : GattEvent) : Prop := ∀ t buf, e ≠ .write .settingsMac t buf

/-- Devices that were told the address `addr` in an authorized session, and no other one since. -/
inductive Told (addr : Mac) : Device → Prop
  | written {d : Device} (t : UInt32) : d.Authorized → Told addr (d.step (newMacId t addr))
  | event {d : Device} {e : GattEvent} : Told addr d → e.Spares → Told addr (d.step e)
  | call {d d' : Device} {c : Call} {a : c.Ans} : Told addr d → d.Serves c a d' → Told addr d'
  | boot {d : Device} : Told addr d → Told addr (.boot d.settings.nvs)

/-! ## The setting and its record -/

theorem settingsMac_apply {c : BeaconConfig} {s : Setter} {ch : Chrc} (h : CalledBy ch s) (hne : ch ≠ .settingsMac) :
    (s.apply c).settingsMac = c.settingsMac := by
  refine Setter.apply_keeps (f := BeaconConfig.settingsMac) ?_
  cases s with
  | settingsMac => cases ch <;> first | exact absurd rfl hne | exact h.elim
  | _ => rfl

/-- A load reads the address from its own record. -/
theorem load_settingsMac {n : Nvs} {mac : Mac} (h : n.find NvsFieldId.settingsMac.id = some mac.toList) :
    (load n.read).settingsMac = mac := by
  have hkeys := apply_loadKeys (f := BeaconConfig.settingsMac) (fun _ _ _ => rfl) n.read
  have hfmdn := apply_loadFmdnKey (f := BeaconConfig.settingsMac) (fun _ _ => rfl) n.read
  simp [load, loadSteps, hfmdn, hkeys, read_vector_of_find h]

/-- The address is configured, and on record. -/
structure Device.Holds (d : Device) (mac : Mac) : Prop where
  config : d.settings.config.settingsMac = mac
  record : d.settings.nvs.find NvsFieldId.settingsMac.id = some mac.toList

namespace Device

variable {d d' : Device} {mac : Mac}

theorem settingsMac_step {e : GattEvent} (he : e.Spares) :
    (d.step e).settings.config.settingsMac = d.settings.config.settingsMac := by
  refine step_keeps (f := BeaconConfig.settingsMac) fun ch t buf hwrite c s hs => settingsMac_apply hs ?_
  rintro rfl
  exact he t buf hwrite

theorem Holds.step (h : d.Holds mac) {e : GattEvent} (he : e.Spares) : (d.step e).Holds mac where
  config := (settingsMac_step he).trans h.config
  record := by
    refine (step_find (fun ch t buf hw => ?_) (by simp)).trans h.record
    subst hw
    have hne : ch ≠ .settingsMac := by
      rintro rfl
      exact he t buf rfl
    cases ch <;> simp_all [Chrc.record]

theorem Holds.run (h : d.Holds mac) {es : List GattEvent} (hes : ∀ e ∈ es, e.Spares) : (d.run es).Holds mac := by
  induction es generalizing d with
  | nil => exact h
  | cons e es ih => exact ih (h.step (hes e List.mem_cons_self)) fun e he => hes e (List.mem_cons_of_mem _ he)

/-- The main loop changes one setting. -/
theorem Serves.config {c : Call} {a : c.Ans} (hs : d.Serves c a d') :
    ∃ on, d'.settings.config = { d.settings.config with turnedOn := on } := by
  cases c with
  | config | configKey | glueSyncGattState =>
    obtain ⟨-, rfl⟩ := hs
    exact ⟨_, rfl⟩
  | setTurnedOn on =>
    cases hs
    exact ⟨on, rfl⟩
  | updateTurnedOn on =>
    cases hs
    exact ⟨on, SettingsManager.save_config _ _⟩
  | storeTime =>
    obtain ⟨t, rfl⟩ := hs
    exact ⟨_, rfl⟩
  | reboot =>
    obtain ⟨ts, rfl⟩ := hs
    exact ⟨_, (d.foldl_storeTime_config ts).1⟩
  | _ =>
    cases hs
    exact ⟨_, rfl⟩

theorem Holds.serves {c : Call} {a : c.Ans} (h : d.Holds mac) (hs : d.Serves c a d') : d'.Holds mac := by
  obtain ⟨on, hon⟩ := hs.config
  refine ⟨?_, (hs.find (by decide) (by nofun)).trans h.record⟩
  rw [hon]
  exact h.config

theorem Holds.boot (h : d.Holds mac) : (boot d.settings.nvs).Holds mac := ⟨load_settingsMac h.record, h.record⟩

/-- An address that is accepted is stored and saved. -/
theorem Authorized.settingsMac (hd : d.Authorized) (t : UInt32) (v : Mac) :
    (d.step (.write .settingsMac t v.toList)).settings =
      { d.settings with config := { d.settings.config with settingsMac := v } }.save .settingsMac := by
  simp [Device.step, handle, attWrite, writeAuthorize, hd.authorizedGatt, chrcWrite, chrcWriteSettingsMac,
    hd.allowedChange, gatedWrite, onSettings, handleSettingsMac, handleBlock, setSettingsMac, exactly]

theorem Authorized.holds (hd : d.Authorized) (t : UInt32) (addr : Mac) :
    (d.step (newMacId t addr)).Holds addr.reverse := by
  have hbuf : addr.toList.reverse = addr.reverse.toList := Vector.toList_reverse.symm
  rw [newMacId, hbuf]
  refine ⟨?_, ?_⟩
  · rw [hd.settingsMac, SettingsManager.save_config]
  · rw [hd.settingsMac, SettingsManager.find_save, if_pos rfl]
    rfl

end Device

theorem Told.holds {addr : Mac} {d : Device} (h : Told addr d) : d.Holds addr.reverse := by
  induction h with
  | written t hd => exact hd.holds t addr
  | event _ he ih => exact ih.step he
  | call _ hs ih => exact ih.serves hs
  | boot _ ih => exact ih.boot

/-! ## Runs after a restart -/

/-- A started device, and what the radio is told. -/
structure Addresses where
  device : Device
  /-- the address handed over since the radio was last switched off -/
  given : Option Mac := none
  /-- the one that was there when it was switched on -/
  used : Option Mac := none
  /-- those of the settings windows so far -/
  windows : List (Option Mac) := []
  /-- those of the iBeacons before the first window -/
  beacons : List (Option Mac) := []

def Addresses.after (w : Addresses) (d : Device) : Call → Addresses
  | .btEnable => { w with device := d, used := w.given }
  | .btDisable => { w with device := d, given := none }
  | .startSettingsAdv => { w with device := d, windows := w.windows ++ [w.used] }
  | .broadcastIbeacon _ =>
    { w with device := d, beacons := if w.windows = [] then w.beacons ++ [w.used] else w.beacons }
  | .setMac addr => { w with device := d, given := some addr }
  | _ => { w with device := d }

/-- What may go on air under which address. -/
@[simp] def Addresses.Allows (mac : Mac) (w : Addresses) : Call → Prop
  | .startSettingsAdv => w.used = some mac
  | .broadcastIbeacon _ => w.windows = [] → w.used = some mac
  | _ => True

/-- A device that is to use the address `mac`.  From the first settings window on clients connect, and their
events arrive in front of any call; none of them writes another settings address.  `reboot` does not return. -/
def reloaded (mac : Mac) : World Call Call.Ans Addresses where
  allowed w c := w.Allows mac c
  step w c a w' := c ≠ .reboot ∧ ∃ es d, (es ≠ [] → w.windows ≠ []) ∧ (∀ e ∈ es, e.Spares) ∧
    (w.device.run es).Serves c a d ∧ w' = w.after d c
  move _ _ := False

/-- Each settings window of a run that starts from the record of a device that was told `addr`, and each iBeacon
that it starts with, goes on air under the address. -/
structure SettingsMacUsed (addr : Mac) : Prop where
  windows : ∀ d, Told addr d → ∀ p w,
    During (reloaded addr.reverse) (initializeMachine {}) mainLoop (· = { device := .boot d.settings.nvs }) p w →
    ∀ a ∈ w.windows, a = some addr.reverse
  beacons : ∀ d, Told addr d → ∀ p w,
    During (reloaded addr.reverse) (initializeMachine {}) mainLoop (· = { device := .boot d.settings.nvs }) p w →
    ∀ a ∈ w.beacons, a = some addr.reverse

/-- A tick in this state leaves settings mode. -/
def InWindow (s : StateMachine) : Prop := s.state = .settingsMode ∨ s.broadcastingSettings = true

/-- The address is there, and in settings mode the radio is on with it. -/
structure AddressReady (mac : Mac) (s : StateMachine) (w : Addresses) : Prop where
  holds : w.device.Holds mac
  window : InWindow s → w.used = some mac ∧ w.windows ≠ []

/-- Programs that open no window and show no iBeacon. -/
abbrev windowless : World Call Call.Ans Unit :=
  free (fun c => c ≠ .startSettingsAdv ∧ ∀ v, c ≠ .broadcastIbeacon v) fun _ _ => True

section

variable {mac : Mac} {s s' : StateMachine} {w w' : Addresses}

instance : (reloaded mac).Sequential := ⟨fun _ _ h => h⟩

@[simp] theorem reloaded_allowed (c : Call) : (reloaded mac).allowed w c ↔ w.Allows mac c := Iff.rfl

/-- What a call keeps unless it opens a window. -/
structure Addresses.Kept (w w' : Addresses) : Prop where
  holds : ∀ mac, w.device.Holds mac → w'.device.Holds mac
  windows : w'.windows = w.windows
  /-- no client has been connected -/
  protocols : w.windows = [] →
    w'.device.settings.config.flagAirtag = w.device.settings.config.flagAirtag ∧
    w'.device.settings.config.flagFmdn = w.device.settings.config.flagFmdn

theorem Addresses.Kept.refl (w : Addresses) : w.Kept w := ⟨fun _ => id, rfl, fun _ => ⟨rfl, rfl⟩⟩

theorem Addresses.Kept.trans {w₁ w₂ w₃ : Addresses} (h : w₁.Kept w₂) (h' : w₂.Kept w₃) : w₁.Kept w₃ where
  holds mac hw := h'.holds mac (h.holds mac hw)
  windows := h'.windows.trans h.windows
  protocols hw := by
    have h₁ := h.protocols hw
    have h₂ := h'.protocols (h.windows.trans hw)
    exact ⟨h₂.1.trans h₁.1, h₂.2.trans h₁.2⟩

theorem reloaded_kept {c : Call} {a : c.Ans} (hs : (reloaded mac).step w c a w') (hc : c ≠ .startSettingsAdv) :
    w.Kept w' := by
  obtain ⟨-, es, d, hes, hspares, hd, rfl⟩ := hs
  have hdev : (w.after d c).device = d := by cases c <;> rfl
  refine ⟨fun mac h => ?_, ?_, fun hw => ?_⟩
  · rw [hdev]
    exact (h.run hspares).serves hd
  · cases c with
    | startSettingsAdv => exact absurd rfl hc
    | _ => rfl
  · have hnil : es = [] := by
      by_contra hne
      exact hes hne hw
    subst hnil
    obtain ⟨on, hon⟩ := hd.config
    rw [hdev, hon]
    exact ⟨rfl, rfl⟩

theorem wp_windowless {α : Type} {p : Main α} {Q : α → Prop} (hp : wp windowless p (fun a _ => Q a) ()) :
    wp (reloaded mac) p (fun a w' => Q a ∧ w.Kept w') w := by
  refine wp_frame (E := reloaded mac) hp (fun w' => w.Kept w') (fun _ _ _ h => h.elim)
    (fun w₁ c hc h₁ => ⟨?_, fun a w₂ hs => ⟨trivial, h₁.trans (reloaded_kept hs hc.1)⟩⟩) (.refl w)
  cases c with
  | startSettingsAdv => exact absurd rfl hc.1
  | broadcastIbeacon v => exact absurd rfl (hc.2 v)
  | _ => trivial

/-- Programs that leave the radio alone. -/
theorem wp_reloaded {α : Type} {p : Main α} {Q : α → Prop} (hp : wp (calls .quiet) p (fun a _ => Q a) ()) :
    wp (reloaded mac) p (fun a w' => Q a ∧ w.Kept w' ∧ w'.given = w.given ∧ w'.used = w.used) w := by
  refine wp_frame (E := reloaded mac) hp (fun w' => w.Kept w' ∧ w'.given = w.given ∧ w'.used = w.used)
    (fun _ _ _ h => h.elim) (fun w₁ c hc h₁ => ?_) ⟨.refl w, rfl, rfl⟩
  have hquiet : c.radioCall = true → False := hc.radio
  refine ⟨?_, fun a w₂ hs => ⟨answers_of_config (fun _ => trivial) c a, h₁.1.trans (reloaded_kept hs ?_), ?_⟩⟩
  · cases c with
    | startSettingsAdv | broadcastIbeacon => exact absurd rfl hquiet
    | _ => trivial
  · rintro rfl
    exact hquiet rfl
  · obtain ⟨-, es, d, -, -, -, rfl⟩ := hs
    cases c with
    | setMac | btDisable | btEnable => exact absurd rfl hquiet
    | _ => exact h₁.2

theorem wp_reloaded_call {α : Type} {c : Call} {k : c.Ans → Main α} {Q : α → Addresses → Prop}
    (hc : w.Allows mac c) (hne : c ≠ .startSettingsAdv)
    (hk : c ≠ .reboot → ∀ a d, w.Kept (w.after d c) → wp (reloaded mac) (k a) Q (w.after d c)) :
    wp (reloaded mac) (issue c >>= k) Q w := by
  refine wp_call _ hc fun a w' hs => ?_
  have hkept := reloaded_kept hs hne
  obtain ⟨hreboot, es, d, -, -, -, rfl⟩ := hs
  exact hk hreboot a d hkept

/-- The configuration that is read has the address, and the protocols of the start until a window is opened. -/
theorem wp_reloaded_config {α : Type} {k : BeaconConfig → Main α} {Q : α → Addresses → Prop}
    (h : w.device.Holds mac)
    (hk : ∀ cfg d, cfg.settingsMac = mac → (w.windows = [] → cfg = w.device.settings.config) →
      w.Kept { w with device := d } → wp (reloaded mac) (k cfg) Q { w with device := d }) :
    wp (reloaded mac) (issue .config >>= k) Q w := by
  refine wp_call _ trivial fun cfg w' hs => ?_
  have hkept := reloaded_kept hs (by simp)
  obtain ⟨-, es, d, hes, hspares, ⟨rfl, rfl⟩, rfl⟩ := hs
  refine hk _ _ (h.run hspares).config (fun hw => ?_) hkept
  have hnil : es = [] := by
    by_contra hne
    exact hes hne hw
  rw [hnil, Device.run_nil]

/-! ## A tick -/

theorem AddressReady.kept (h : AddressReady mac s w) (hk : w.Kept w') (hs : ¬ InWindow s') : AddressReady mac s' w' :=
  ⟨hk.holds mac h.holds, fun hin => absurd hin hs⟩

/-- Handlers that neither open a window nor leave a machine in one only have to keep the address. -/
theorem AddressReady.handler {α : Type} {p : Main α} {f : α → StateMachine} (h : AddressReady mac s w)
    (hp : wp windowless p (fun a _ => ¬ InWindow (f a)) ()) :
    wp (reloaded mac) p (fun a => AddressReady mac (f a)) w :=
  wp_mono (fun _ _ hk => h.kept hk.2 hk.1) (wp_windowless hp)

theorem AddressReady.quiet (h : AddressReady mac s w) (hk : w.Kept w' ∧ w'.given = w.given ∧ w'.used = w.used)
    (hs : InWindow s' → InWindow s) : AddressReady mac s' w' := by
  obtain ⟨hk, -, hu⟩ := hk
  refine ⟨hk.holds mac h.holds, fun hin => ?_⟩
  obtain ⟨hused, hopen⟩ := h.window (hs hin)
  exact ⟨hu.trans hused, by rw [hk.windows]; exact hopen⟩

theorem handleSettingsModeEntry_reloaded (hmac : macConfigured mac = true) (h : AddressReady mac s w) :
    wp (reloaded mac) (handleSettingsModeEntry s) (AddressReady mac) w := by
  refine wp_reloaded_call trivial (by simp) fun _ now d₁ hk₁ => ?_
  by_cases hlt : now < s.timers.settingsMode + kIntervalSettings
  · rw [if_pos hlt, wp_pure]
    exact h.quiet ⟨hk₁, rfl, rfl⟩ id
  rw [if_neg hlt]
  refine wp_reloaded_call trivial (by simp) fun _ _ d₂ hk₂ => ?_
  refine wp_reloaded_call trivial (by simp) fun _ _ d₃ hk₃ => ?_
  refine wp_reloaded_call trivial (by simp) fun _ _ d₄ hk₄ => ?_
  have hk := ((hk₁.trans hk₂).trans hk₃).trans hk₄
  refine wp_seq (R := fun _ w' => w'.device.Holds mac ∧ w'.given = some mac) ?_ ?_
  · refine wp_reloaded_config (hk.holds mac h.holds) fun cfg d₅ hcfg _ hk₅ => ?_
    rw [hcfg, if_pos hmac]
    show wp (reloaded mac) (issue (.setMac mac) >>= pure) _ _
    refine wp_reloaded_call trivial (by simp) fun _ _ d₆ hk₆ => ?_
    exact (wp_pure _ _ _ _).2 ⟨(hk₅.trans hk₆).holds mac (hk.holds mac h.holds), rfl⟩
  rintro _ w₆ ⟨h₆, hgiven⟩
  refine wp_reloaded_call trivial (by simp) fun _ _ d₇ hk₇ => ?_
  refine wp_reloaded_call trivial (by simp) fun _ _ d₈ hk₈ => ?_
  refine wp_call _ hgiven fun _ w₉ hs => ?_
  obtain ⟨-, es, d₉, -, hspares, hd, rfl⟩ := hs
  refine (wp_pure _ _ _ _).2 ⟨?_, fun _ => ⟨hgiven, by simp [Addresses.after]⟩⟩
  exact (((hk₇.trans hk₈).holds mac h₆).run hspares).serves hd

theorem firmwareUpload_reloaded {Q : StateMachine → Addresses → Prop} (hu : w.used = some mac) :
    wp (reloaded mac) (firmwareUpload s) Q w := by
  refine wp_reloaded_call trivial (by simp) fun _ _ d₁ hk₁ => ?_
  refine wp_reloaded_call trivial (by simp) fun _ _ d₂ hk₂ => ?_
  refine wp_reloaded_call trivial (by simp) fun _ _ d₃ hk₃ => ?_
  refine wp_call _ hu fun _ w₄ _ => ?_
  refine wp_seq (wp_reloaded (uploadWait_calls Policy.quiet_sound 15)) fun _ w₅ _ => ?_
  refine wp_reloaded_call trivial (by simp) fun _ _ d₆ hk₆ => ?_
  exact wp_reloaded_call trivial (by simp) fun hreboot _ _ _ => absurd rfl hreboot

theorem ibeaconFallback_reloaded (hw : w.windows ≠ []) :
    wp (reloaded mac) (ibeaconFallback s) (fun _ w' => w.Kept w') w := by
  refine wp_reloaded_call trivial (by simp) fun _ cfg d₁ hk₁ => ?_
  rw [wp_ite]
  refine ⟨fun _ => ?_, fun _ => (wp_pure _ _ _ _).2 hk₁⟩
  show wp (reloaded mac) (issue (.broadcastIbeacon s.lastBatteryVoltage.toNat) >>= pure) _ _
  refine wp_reloaded_call (fun hnil => absurd hnil hw) (by simp) fun _ _ d₂ hk₂ => ?_
  exact (wp_pure _ _ _ _).2 (hk₁.trans hk₂)

theorem leaveSettings_reloaded (h : AddressReady mac s w) (hw : w.windows ≠ []) :
    wp (reloaded mac) (leaveSettings s) (AddressReady mac) w := by
  refine wp_reloaded_call trivial (by simp) fun _ _ d₁ hk₁ => ?_
  refine wp_reloaded_call trivial (by simp) fun _ _ d₂ hk₂ => ?_
  refine wp_reloaded_call trivial (by simp) fun _ _ d₃ hk₃ => ?_
  refine wp_seq (wp_windowless (Q := fun _ => True) (by simp [restoreMac])) ?_
  rintro _ w₄ ⟨_, hk₄⟩
  refine wp_reloaded_call trivial (by simp) fun _ _ d₅ hk₅ => ?_
  refine wp_reloaded_call trivial (by simp) fun _ _ d₆ hk₆ => ?_
  refine wp_reloaded_call trivial (by simp) fun _ _ d₇ hk₇ => ?_
  have hk := (((((hk₁.trans hk₂).trans hk₃).trans hk₄).trans hk₅).trans hk₆).trans hk₇
  cases hr : s.needsReset with
  | true => exact wp_reloaded_call trivial (by simp) fun hreboot _ _ _ => absurd rfl hreboot
  | false =>
    refine wp_seq (ibeaconFallback_reloaded ?_) fun _ w₈ hk₈ => ?_
    · rw [hk.windows]
      exact hw
    · refine (wp_pure _ _ _ _).2 (h.kept (hk.trans hk₈) ?_)
      simp [InWindow]

theorem handleSettingsModeExit_reloaded (h : AddressReady mac s w) (hs : InWindow s) :
    wp (reloaded mac) (handleSettingsModeExit s) (AddressReady mac) w := by
  have hissue (c : Call) {w : Addresses} (hc : w.Allows mac c) (hne : c ≠ .startSettingsAdv)
      (hu : ∀ d, (w.after d c).used = w.used) (h : AddressReady mac s w) :
      wp (reloaded mac) (issue c) (fun _ => AddressReady mac s) w := by
    show wp (reloaded mac) (issue c >>= pure) _ _
    refine wp_reloaded_call hc hne fun _ _ d hk => (wp_pure _ _ _ _).2 ?_
    refine ⟨hk.holds mac h.holds, fun hin => ?_⟩
    rw [hu, hk.windows]
    exact h.window hin
  refine handleSettingsModeExit_decides (J := AddressReady mac s) ?_ ?_ ?_ ?_ ?_ h
  · exact fun _ h => hissue .uptimeSeconds trivial (by simp) (fun _ => rfl) h
  · intro ms _ _ h
    refine wp_mono (fun _ _ h => ?_) (hissue (.sleepMs ms) trivial (by simp) (fun _ => rfl) h)
    exact hissue .wdtFeed trivial (by simp) (fun _ => rfl) h
  · exact fun _ h => (wp_pure _ _ _ _).2 h
  · exact fun _ h => firmwareUpload_reloaded (h.window hs).1
  · exact fun _ h => leaveSettings_reloaded h (h.window hs).2

theorem handleButtonLongpress_windowless {u : Unit} (hs : Broadcasting s) :
    wp windowless (handleButtonLongpress s) (fun r _ => ¬ InWindow r.2) u := by
  have hwait {Q : Unit → Unit → Prop} (hQ : Q () u) : wp windowless (waitButtonRelease 500) Q u := by
    refine wp_loop _ (fun _ => True) trivial ?_
    intro w _
    simpa using fun _ => hQ
  simp [handleButtonLongpress, hwait, InWindow, hs.state, hs.settings]

theorem rule_reloaded (hmac : macConfigured mac = true) :
    TickRule (reloaded mac) (AddressReady mac) (AddressReady mac) where
  weaken := id
  sync h := by
    refine wp_mono ?_ (wp_reloaded syncGattState_calls)
    rintro s' w' ⟨⟨f, rfl⟩, hk⟩
    exact h.quiet hk id
  sleep h := by
    refine wp_mono ?_ (wp_reloaded (tickSleep_calls Policy.quiet_sound))
    rintro s' w' ⟨⟨n, -, rfl⟩, hk⟩
    exact h.quiet hk id
  exit := handleSettingsModeExit_reloaded
  timeSave h hs := h.handler (by simp [handleTimeSave, InWindow, hs.state, hs.settings])
  batteryCheck h hs := h.handler (by
    simp [handleBatteryCheck, updateBattery, updateStatus, broadcast, InWindow, hs.state, hs.settings])
  uvlo h hs := h.handler (by simp [handleUvloShutdown, InWindow, hs.state, hs.settings])
  nokeys h hs := h.handler (by simp [handleNokeysShutdown, InWindow, hs.state, hs.settings])
  uptime h hs := h.handler (by simp [InWindow, hs.state, hs.settings])
  entry h _ := handleSettingsModeEntry_reloaded hmac h
  burst h hs := h.handler (by simp [handleMaxPowerBurst, InWindow, hs.state, hs.settings])
  rotation h hs := h.handler (by
    simp [handleKeyRotation, setMacFromCurrentKey, broadcast, InWindow, hs.state, hs.settings])
  button h hs := h.handler (handleButtonLongpress_windowless hs)
  accelerometer h hs := h.handler (by simp [handleAccelerometer, InWindow, hs.state, hs.settings])
  broadcast h hs := h.handler (by
    simp [tickBroadcast, handleInitialBroadcast, handleAirtagFmdnAlternation, broadcast, InWindow, hs.state,
      hs.settings])

/-! ## Startup -/

/-- With both protocols off, the address has been handed over. -/
def Addresses.Given (mac : Mac) (w : Addresses) : Prop :=
  BothOff w.device.settings.config → w.given = some mac

theorem Addresses.Given.quiet (h : w.Given mac) (hw : w.windows = [])
    (hk : w.Kept w' ∧ w'.given = w.given ∧ w'.used = w.used) : w'.Given mac := by
  obtain ⟨hA, hF⟩ := hk.1.protocols hw
  exact fun hoff => hk.2.1.trans (h ⟨hA ▸ hoff.airtag, hF ▸ hoff.fmdn⟩)

theorem setInitialMac_reloaded (hmac : macConfigured mac = true) (h : w.device.Holds mac) (hw : w.windows = []) :
    wp (reloaded mac) (setInitialMac s) (fun _ w' => w.Kept w' ∧ w'.Given mac) w := by
  refine wp_reloaded_config h fun cfg d hcfg hsame hk => ?_
  by_cases hflags : (cfg.flagAirtag || cfg.flagFmdn) = true
  · rw [if_pos hflags]
    show wp (reloaded mac) (issue (.setMac s.bleAddr) >>= pure) _ _
    refine wp_reloaded_call trivial (by simp) fun _ _ d₂ hk₂ => ?_
    have hkept := hk.trans hk₂
    refine (wp_pure _ _ _ _).2 ⟨hkept, fun hoff => ?_⟩
    obtain ⟨hA, hF⟩ := hkept.protocols hw
    rw [hsame hw, ← hA, ← hF, hoff.airtag, hoff.fmdn] at hflags
    cases hflags
  · rw [if_neg hflags, hcfg, if_pos hmac]
    show wp (reloaded mac) (issue (.setMac mac) >>= pure) _ _
    refine wp_reloaded_call trivial (by simp) fun _ _ d₂ hk₂ => ?_
    exact (wp_pure _ _ _ _).2 ⟨hk.trans hk₂, fun _ => rfl⟩

theorem startRadio_reloaded (h : w.device.Holds mac) (hw : w.windows = []) (hgiven : w.Given mac) :
    wp (reloaded mac) (startRadio s) (fun _ w' => w.Kept w') w := by
  refine wp_reloaded_call trivial (by simp) fun _ _ d₁ hk₁ => ?_
  refine wp_reloaded_call trivial (by simp) fun _ _ d₂ hk₂ => ?_
  refine wp_reloaded_call trivial (by simp) fun _ _ d₃ hk₃ => ?_
  refine wp_reloaded_call trivial (by simp) fun _ _ d₄ hk₄ => ?_
  refine wp_reloaded_call trivial (by simp) fun _ _ d₅ hk₅ => ?_
  have hk := (((hk₁.trans hk₂).trans hk₃).trans hk₄).trans hk₅
  refine wp_reloaded_config (hk.holds mac h) fun cfg d₆ _ hsame hk₆ => ?_
  by_cases hoff : (!cfg.flagAirtag && !cfg.flagFmdn) = true
  · rw [if_pos hoff]
    obtain ⟨hA, hF⟩ := hk.protocols hw
    rw [hsame (hk.windows.trans hw), hA, hF] at hoff
    have hused : w.given = some mac := hgiven (by simpa [bothOff_iff] using hoff)
    show wp (reloaded mac) (issue (.broadcastIbeacon s.lastBatteryVoltage.toNat) >>= pure) _ _
    refine wp_reloaded_call (fun _ => hused) (by simp) fun _ _ d₇ hk₇ => ?_
    exact (wp_pure _ _ _ _).2 ((hk.trans hk₆).trans hk₇)
  · rw [if_neg hoff]
    exact (wp_pure _ _ _ _).2 (hk.trans hk₆)

theorem startUp_reloaded (hmac : macConfigured mac = true) (h : w.device.Holds mac) (hw : w.windows = []) :
    wp (reloaded mac) (startUp s) (AddressReady mac) w := by
  refine wp_seq (wp_reloaded (wakePeripherals_calls Policy.quiet_sound)) ?_
  rintro _ w₁ ⟨_, hk₁, _⟩
  refine wp_seq (wp_windowless (Q := fun _ => True) (by simp [prepareKeys, setMacFromCurrentKey])) ?_
  rintro s₂ w₂ ⟨_, hk₂⟩
  have hk₁₂ := hk₁.trans hk₂
  refine wp_seq (setInitialMac_reloaded hmac (hk₁₂.holds mac h) (hk₁₂.windows.trans hw)) ?_
  rintro _ w₃ ⟨hk₃, hgiven⟩
  have hk₁₃ := hk₁₂.trans hk₃
  refine wp_seq (wp_reloaded (updateBattery_calls trivial)) ?_
  rintro s₄ w₄ ⟨⟨v, hs₄⟩, hk₄⟩
  have hk₁₄ := hk₁₃.trans hk₄.1
  refine wp_seq (wp_reloaded updateStatus_calls) ?_
  rintro s₅ w₅ ⟨hs₅, hk₅⟩
  have hk₁₅ := hk₁₄.trans hk₅.1
  have hgiven₅ := (hgiven.quiet (hk₁₃.windows.trans hw) hk₄).quiet (hk₁₄.windows.trans hw) hk₅
  refine wp_seq (startRadio_reloaded (hk₁₅.holds mac h) (hk₁₅.windows.trans hw) hgiven₅) fun _ w₆ hk₆ => ?_
  refine wp_seq (wp_reloaded (waitButtonRelease_calls (Q := fun _ _ => True) trivial trivial)) ?_
  rintro _ w₇ ⟨_, hk₇, _⟩
  refine (wp_pure _ _ _ _).2 ⟨((hk₁₅.trans hk₆).trans hk₇).holds mac h, ?_⟩
  subst hs₅ hs₄
  simp [InWindow]

theorem initializeMachine_reloaded (hmac : macConfigured mac = true) (h : w.device.Holds mac) (hw : w.windows = []) :
    wp (reloaded mac) (initializeMachine {}) (AddressReady mac) w := by
  refine wp_reloaded_call trivial (by simp) fun _ _ d₁ hk₁ => ?_
  refine wp_reloaded_call trivial (by simp) fun _ _ d₂ hk₂ => ?_
  refine wp_reloaded_call trivial (by simp) fun _ pressed d₃ hk₃ => ?_
  refine wp_reloaded_call trivial (by simp) fun _ _ d₄ hk₄ => ?_
  have hk := ((hk₁.trans hk₂).trans hk₃).trans hk₄
  rw [wp_ite]
  refine ⟨fun _ => ?_, fun _ => ?_⟩
  · refine wp_reloaded_call trivial (by simp) fun _ _ d₅ hk₅ => ?_
    refine wp_reloaded_call trivial (by simp) fun _ _ d₆ hk₆ => ?_
    have hk' := (hk.trans hk₅).trans hk₆
    exact startUp_reloaded hmac (hk'.holds mac h) (hk'.windows.trans hw)
  · refine wp_reloaded_call trivial (by simp) fun _ cfg d₅ hk₅ => ?_
    have hk' := hk.trans hk₅
    rw [wp_ite]
    refine ⟨fun _ => ?_, fun _ => startUp_reloaded hmac (hk'.holds mac h) (hk'.windows.trans hw)⟩
    refine wp_reloaded_call trivial (by simp) fun _ _ d₆ hk₆ => ?_
    refine wp_reloaded_call trivial (by simp) fun _ _ d₇ hk₇ => ?_
    refine (wp_pure _ _ _ _).2 ⟨((hk'.trans hk₆).trans hk₇).holds mac h, ?_⟩
    simp [InWindow]

/-- Whatever is on air so far is there under the address. -/
structure Addresses.Under (mac : Mac) (w : Addresses) : Prop where
  windows : ∀ a ∈ w.windows, a = some mac
  beacons : ∀ a ∈ w.beacons, a = some mac

theorem Addresses.Under.call {c : Call} {a : c.Ans} (h : w.Under mac) (hc : w.Allows mac c)
    (hs : (reloaded mac).step w c a w') : w'.Under mac := by
  obtain ⟨-, es, d, -, -, -, rfl⟩ := hs
  cases c with
  | startSettingsAdv =>
    refine ⟨fun a ha => ?_, h.beacons⟩
    rcases List.mem_append.1 ha with ha | ha
    · exact h.windows a ha
    · exact (List.mem_singleton.1 ha).trans hc
  | broadcastIbeacon v =>
    refine ⟨h.windows, fun a ha => ?_⟩
    by_cases hw : w.windows = []
    · simp only [Addresses.after, if_pos hw] at ha
      rcases List.mem_append.1 ha with ha | ha
      · exact h.beacons a ha
      · exact (List.mem_singleton.1 ha).trans (hc hw)
    · simp only [Addresses.after, if_neg hw] at ha
      exact h.beacons a ha
  | _ => exact ⟨h.windows, h.beacons⟩

/-- A run from the record of an address that counts as configured. -/
theorem during_under (hmac : macConfigured mac = true) {d : Device} (hd : d.Holds mac) {p : Main StateMachine}
    (h : During (reloaded mac) (initializeMachine {}) mainLoop (· = { device := d }) p w) : w.Under mac := by
  refine during_keeps_of_allowed (E := reloaded mac) (I := fun s w => AddressReady mac s w ∧ s.state ≠ .initializing)
    (J := fun w => w.Under mac) ?_ ?_ ?_
    (fun _ _ _ h => h.elim) (fun w c a w' hw hc hs => hw.call hc hs) h
  · rintro w rfl
    exact wp_mode (initializeMachine_reloaded hmac hd rfl) initializeMachine_started
  · rintro s w ⟨hready, hs⟩
    exact wp_mode ((rule_reloaded hmac).mainLoop hready hs) (mainLoop_started hs)
  · rintro w rfl
    exact ⟨by nofun, by nofun⟩

end

/-- An address that counts as configured is used. -/
theorem SettingsMacUsed.of_configured {addr : Mac} (h : macConfigured addr.reverse = true) :
    SettingsMacUsed addr where
  windows _ hd _ _ hp := (during_under h hd.holds.boot hp).windows
  beacons _ hd _ _ hp := (during_under h hd.holds.boot hp).beacons

/-! ## An address that does not count -/

/-- A device at rest at an uptime. -/
def Addresses.serve (now : UInt32) (w : Addresses) : (c : Call) → Option (c.Ans × Addresses)
  | .reboot | .storeTime => none
  | .startSettingsAdv => some ((), w.after w.device.startSettingsAdv .startSettingsAdv)
  | .glueSyncGattState => some (⟨w.device.gatt.connectedGatt, w.device.gatt.authorizedGatt, w.device.gatt.pauseUpload,
      w.device.gatt.needsReset⟩, w.after w.device .glueSyncGattState)
  | .updateTurnedOn _ | .configKey _ | .setTurnedOn _ => none
  | c => some (answers w.device.settings.config now 3000 c, w.after w.device c)

theorem reloaded_step_serve {mac : Mac} {now : UInt32} (w : Addresses) (c : Call) (x : c.Ans × Addresses)
    (hx : w.serve now c = some x) : (reloaded mac).step w c x.1 x.2 := by
  cases c with
  | configKey | setTurnedOn | updateTurnedOn | storeTime | reboot => cases hx
  | config | glueSyncGattState =>
    cases hx
    exact ⟨by nofun, [], _, by nofun, by nofun, ⟨rfl, rfl⟩, rfl⟩
  | _ =>
    cases hx
    exact ⟨by nofun, [], _, by nofun, by nofun, rfl, rfl⟩

/-- A started device with a client that has sent the default code. -/
def openSession : Device :=
  let d := (Device.boot .erased).setTurnedOn true
  Device.run { d with settings := d.settings.save .turnedOn }
    [.startSettingsAdv, .connected 0, .write .auth 0 defaultAuthCode.toList]

theorem openSession_authorized : openSession.Authorized := ⟨by decide, by decide⟩

/-- As it starts after the client has set the address. -/
def restarted (addr : Mac) : Device := .boot (openSession.step (newMacId 0 addr)).settings.nvs

/-- A device that starts without a protocol and without a settings address that counts. -/
structure Unaddressed (d : Device) : Prop where
  turnedOn : d.settings.config.turnedOn = true
  bothOff : BothOff d.settings.config
  numKeys : d.settings.config.numKeys = 0
  accelThreshold : d.settings.config.accelThreshold ≠ 0
  settingsMac : macConfigured d.settings.config.settingsMac = false

theorem restarted_unaddressed {addr : Mac} (h : macConfigured addr.reverse = false) :
    Unaddressed (restarted addr) := by
  have hbuf : addr.toList.reverse = addr.reverse.toList := Vector.toList_reverse.symm
  have hnvs : (openSession.step (newMacId 0 addr)).settings.nvs =
      ⟨[(NvsFieldId.settingsMac.id, addr.reverse.toList), (NvsFieldId.turnedOn.id, boolBytes true)]⟩ := by
    rw [newMacId, hbuf, openSession_authorized.settingsMac]
    rfl
  have hmac : (restarted addr).settings.config.settingsMac = addr.reverse :=
    (openSession_authorized.holds 0 addr).boot.config
  rw [restarted, hnvs] at hmac ⊢
  refine ⟨rfl, ⟨rfl, rfl⟩, rfl, ?_, ?_⟩
  · show (800 : UInt16) ≠ 0
    decide
  · rw [hmac]
    exact h

section

variable {d : Device} {s : StateMachine}

theorem initializeMachine_play (h : Unaddressed d) : ∃ s,
    (initializeMachine {}).play (Addresses.serve 0) { device := d } = some (s, { device := d, beacons := [none] }) ∧
    s.state = .broadcasting ∧ s.timers = {} ∧ s.broadcastingSettings = false ∧ s.chargeLockCounter = 0 := by
  simp [initializeMachine, startUp, wakePeripherals, accelInitRetry, prepareKeys, setInitialMac, updateBattery,
    updateStatus, startRadio, ibeaconFallback, waitButtonRelease, Addresses.serve, Addresses.after, answers, Prog.play,
    h.turnedOn, h.bothOff.airtag, h.bothOff.fmdn, h.numKeys, h.accelThreshold, h.settingsMac]

/-- The tick that opens the first window. -/
theorem mainLoop_play (h : Unaddressed d) {beacons : List (Option Mac)} (hstate : s.state = .broadcasting)
    (htimers : s.timers = {}) (hsettings : s.broadcastingSettings = false) (hlock : s.chargeLockCounter = 0) :
    ∃ x, (mainLoop s).play (Addresses.serve 60) { device := d, beacons := beacons } = some x ∧
      x.2.windows = [none] ∧ x.2.beacons = beacons := by
  have hvoltage : kBatteryLowVoltage ≤ storedVoltage 3000 := by decide
  simp [mainLoop, syncGattState, tick, tickSleep, tickBroadcasting, handleTimeSave, handleBatteryCheck, updateBattery,
    updateStatus, handleUvloShutdown, handleNokeysShutdown, tickDuties, handleSettingsModeEntry, useSettingsMac,
    Addresses.serve, Addresses.after, answers, kIntervalSettings, kIntervalTimeSave, kIntervalBatteryCheck,
    kShutdownNokeys, hvoltage, hstate, htimers, hsettings, hlock, h.bothOff.airtag, h.bothOff.fmdn, h.settingsMac]

end

/-- Neither the iBeacon of the start nor the first settings window is under an address that does not count. -/
theorem not_used_of_unconfigured {addr : Mac} (h : macConfigured addr.reverse = false) :
    ∃ p w, During (reloaded addr.reverse) (initializeMachine {}) mainLoop (· = { device := restarted addr }) p w ∧
      none ∈ w.windows ∧ none ∈ w.beacons := by
  have hd := restarted_unaddressed h
  obtain ⟨s, hstart, hstate, htimers, hsettings, hlock⟩ := initializeMachine_play hd
  obtain ⟨⟨s', w'⟩, htick, hwindows, hbeacons⟩ := mainLoop_play hd hstate htimers hsettings hlock
  refine ⟨.ret s', w', .iter (.start rfl (reaches_of_play reloaded_step_serve hstart))
    (reaches_of_play reloaded_step_serve htick), ?_, ?_⟩
  · exact hwindows ▸ List.mem_singleton_self none
  · exact hbeacons ▸ List.mem_singleton_self none

theorem SettingsMacUsed.configured {addr : Mac} (h : SettingsMacUsed addr) : macConfigured addr.reverse = true := by
  by_contra hmac
  obtain ⟨p, w, hp, hnone, -⟩ := not_used_of_unconfigured (Bool.not_eq_true _ ▸ hmac)
  have htold : Told addr (openSession.step (newMacId 0 addr)) := .written 0 openSession_authorized
  cases h.windows _ htold p w hp none hnone

theorem macConfigured_reverse {addr : Mac} :
    macConfigured addr.reverse = true ↔ addr.get 0 ≠ 0 ∧ addr.get 5 ≠ 0 := by
  have hfirst : addr.reverse[0]! = addr.get 5 := by
    rw [getElem!_pos _ _ (by decide), Vector.getElem_reverse]
    rfl
  have hlast : addr.reverse[5]! = addr.get 0 := by
    rw [getElem!_pos _ _ (by decide), Vector.getElem_reverse]
    rfl
  rw [macConfigured, hfirst, hlast]
  simp [and_comm]

/-- The address a client sets is used, in every settings window and for the iBeacon of a start, exactly if neither
its first nor its last byte is zero. -/
theorem settings_mac_used_iff (addr : Mac) : SettingsMacUsed addr ↔ addr.get 0 ≠ 0 ∧ addr.get 5 ≠ 0 := by
  rw [← macConfigured_reverse]
  exact ⟨fun h => h.configured, fun h => .of_configured h⟩

/-- `C2:41:42:43:44:00`, whose first byte is not zero. -/
theorem settings_mac_ignored :
    ¬ ∀ addr : Mac, ¬ (addr.get 0 = 0 ∧ addr.get 5 = 0) → SettingsMacUsed addr := by
  intro h
  have hused := h #v[0xC2, 0x41, 0x42, 0x43, 0x44, 0x00] (by decide)
  exact (macConfigured_reverse.1 hused.configured).2 rfl

end Everytag
