import Everytag.Footprint

/-!
# The broadcasting flags and the radio

The main loop never asks the radio what it is doing: it knows from four booleans.  In the world
`radio` a call acts on a radio with an on-air mode, and is allowed only where a real one would not
refuse or misbehave.  `Shows` relates the booleans to what is on air at the end of a tick; every
handler keeps it (`Shown`), through the settings window and back (`InSettings`).

The address in effect and the AirTag payload are carried along: while the configuration does not
change, both belong to the key `current_key_` (`Tag`).
-/

namespace Everytag

open Interaction StateMachine

structure Radio where
  enabled : Bool
  onAir : OnAir
  /-- from `start_settings_adv` to the next `bt_disable`: a client can change the settings -/
  window : Bool
  cfg : BeaconConfig
  /-- the address last given to `set_mac` -/
  macNext : Mac
  /-- the address in effect, that of the last `bt_enable` -/
  mac : Mac
  /-- the key last given to `prepare_airtag` -/
  payload : Key

/-- `key` is number `i` of the ring, and `addr` is its address. -/
structure Tag (cfg : BeaconConfig) (i : UInt8) (addr : Mac) (key : Key) : Prop where
  lt : i < cfg.numKeys
  get : cfg.keys[i.toNat]? = some key
  derive : addr = deriveMacFromKey key

/-- The configuration never changes, and has an AirTag to show. -/
structure Tagged (fixed : Prop) (cfg : BeaconConfig) : Prop where
  fixed : fixed
  flag : cfg.flagAirtag = true
  keys : 0 < cfg.numKeys
  fits : cfg.numKeys.toNat ≤ kMaxKeysInMemory

theorem Tagged.exists_key {fixed : Prop} {cfg : BeaconConfig} (h : Tagged fixed cfg) {i : UInt8}
    (hi : i < cfg.numKeys) : ∃ key, cfg.keys[i.toNat]? = some key := by
  have : i.toNat < 40 := Nat.lt_of_lt_of_le (UInt8.lt_iff_toNat_lt.1 hi) h.fits
  exact ⟨cfg.keys[i.toNat], Vector.getElem?_eq_getElem this⟩

namespace Radio

/-- What the radio asks of a call. -/
@[simp] def Safe (w : Radio) : Call → Prop
  | .advStartAirtag .. | .advStartFmdn .. | .broadcastIbeacon _ | .startSettingsAdv =>
    w.enabled = true ∧ w.onAir = .none
  | .advUpdateAirtag | .advUpdateFmdn => w.onAir = .airtag ∨ w.onAir = .fmdn
  | .btDisable => w.onAir = .none
  | _ => True

/-- Calls that put the AirTag payload on air find it in step with the address; calls that change either
find no AirTag on air. -/
@[simp] def KeepsTag (w : Radio) : Call → Prop
  | .advStartAirtag .. | .advUpdateAirtag => ∃ i, Tag w.cfg i w.mac w.payload
  | .btEnable | .prepareAirtag _ => w.onAir ≠ .airtag
  | _ => True

/-- What a call leaves, if it succeeds.  Nothing follows `reboot` and `power_off`. -/
@[simp] def after (w : Radio) : Call → Option Radio
  | .setTurnedOn v => some { w with cfg := w.cfg.setTurnedOn v }
  | .setMac addr => some { w with macNext := addr }
  | .prepareAirtag key => some { w with payload := key }
  | .btEnable => some { w with enabled := true, mac := w.macNext }
  | .btDisable => some { w with enabled := false, onAir := .none, window := false }
  | .advStartAirtag .. | .advUpdateAirtag => some { w with onAir := .airtag }
  | .advStartFmdn .. | .advUpdateFmdn => some { w with onAir := .fmdn }
  | .advStop | .stopSettingsAdv => some { w with onAir := .none }
  | .startSettingsAdv => some { w with onAir := .settings, window := true }
  | .broadcastIbeacon _ => some { w with onAir := .ibeacon }
  | .reboot | .powerOff => none
  | .uptimeSeconds | .setTxPower _ | .batteryVoltage | .isCharging | .wdtFeed | .blinkLed .. | .buttonPressed
  | .sleepMs _ | .storeTime | .prepareFmdn _ | .accelRead | .accelInit | .accelPowerdown | .bqReinit _
  | .bqShipmode | .updateTurnedOn _ | .enableDfu | .disableDfu | .setStatusBytes .. | .beaconAdvCancelSync
  | .beaconAdvSetAllowed _ | .config | .configKey _ | .computeAccelByte | .accelTemperature
  | .glueSyncGattState => some w

/-- What a call answers, if it succeeds; an index past the ring may answer anything. -/
@[simp] def Answers (w : Radio) : (c : Call) → c.Ans → Prop
  | .config, cfg => cfg = w.cfg
  | .configKey i, key => ∀ k, w.cfg.keys[i.toNat]? = some k → key = k
  | .btEnable, rc => rc = 0
  | .advStartAirtag .., rc => rc = 0
  | .advStartFmdn .., rc => rc = 0
  | .advUpdateAirtag, rc => rc = 0
  | .advUpdateFmdn, rc => rc = 0
  | .advStop, rc => rc = 0
  | _, _ => True

@[simp] def Serves (w : Radio) (c : Call) (a : c.Ans) (w' : Radio) : Prop :=
  w.Answers c a ∧ w.after c = some w'

theorem after_quiet {w w' : Radio} {c : Call} (hc : c.radioCall ≠ true) (h : w.after c = some w') :
    w' = w := by
  cases c with
  | powerOff => cases h
  | _ => first | exact (Option.some.inj h).symm | exact absurd rfl hc

/-- Before bt_enable is called for the first time. -/
structure Off (w : Radio) : Prop where
  enabled : w.enabled = false
  onAir : w.onAir = .none
  window : w.window = false

end Radio

/-- In an open window every call may find a new configuration, unless it is `fixed`. -/
def radio (fixed : Prop) : World Call Call.Ans Radio where
  allowed w c := w.Safe c ∧ (Tagged fixed w.cfg → w.KeepsTag c)
  step w c a w' := ∃ cfg, (cfg = w.cfg ∨ ¬ fixed ∧ w.window = true) ∧ { w with cfg := cfg }.Serves c a w'
  move _ _ := False

section

variable {fixed : Prop} {s s' : StateMachine} {w w' : Radio}

instance : (radio fixed).Sequential := ⟨fun _ _ h => h⟩

@[simp] theorem radio_allowed (c : Call) :
    (radio fixed).allowed w c ↔ w.Safe c ∧ (Tagged fixed w.cfg → w.KeepsTag c) := Iff.rfl

theorem radio_step (c : Call) (a : c.Ans) : (radio fixed).step w c a w' ↔
    ∃ cfg, (cfg = w.cfg ∨ ¬ fixed ∧ w.window = true) ∧ { w with cfg := cfg }.Serves c a w' := Iff.rfl

/-- With the window closed the configuration stays. -/
theorem radio_step_closed (hw : w.window = false) (c : Call) (a : c.Ans) :
    (radio fixed).step w c a w' ↔ w.Serves c a w' := by
  obtain ⟨enabled, onAir, window, cfg, macNext, mac, payload⟩ := w
  cases hw
  simp only [radio_step, Bool.false_eq_true, and_false, or_false, exists_eq_left]

theorem wp_uptime {α : Type} {k : UInt32 → Main α} {Q : α → Radio → Prop} (hw : w.window = false)
    (hk : ∀ now, wp (radio fixed) (k now) Q w) : wp (radio fixed) (issue .uptimeSeconds >>= k) Q w := by
  simpa [radio_step_closed hw] using hk

theorem wp_config {α : Type} {k : BeaconConfig → Main α} {Q : α → Radio → Prop} (hw : w.window = false)
    (hk : wp (radio fixed) (k w.cfg) Q w) : wp (radio fixed) (issue .config >>= k) Q w := by
  simpa [radio_step_closed hw] using hk

/-! ## What the booleans say -/

/-- The booleans `anything`, `airtag` and `fmdn` against the on-air mode, with one of the two
protocols turned on or none. -/
@[mk_iff shows_iff]
inductive Shows : (flags anything airtag fmdn : Bool) → OnAir → Prop
  | ibeacon : Shows false false false false .ibeacon
  | silent : Shows true false false false .none
  | airtag : Shows true true true false .airtag
  | fmdn : Shows true true false true .fmdn

/-- Between two handlers of a broadcasting tick. -/
structure Shown (fixed : Prop) (s : StateMachine) (w : Radio) : Prop where
  state : s.state = .broadcasting
  settings : s.broadcastingSettings = false
  enabled : w.enabled = true
  closed : w.window = false
  onAir : Shows (w.cfg.flagAirtag || w.cfg.flagFmdn) s.broadcastingAnything s.broadcastingAirtag
    s.broadcastingFmdn w.onAir
  tag : Tagged fixed w.cfg →
    Tag w.cfg s.currentKey s.bleAddr w.payload ∧ w.mac = s.bleAddr ∧ w.macNext = s.bleAddr

/-- In settings mode. -/
structure InSettings (fixed : Prop) (s : StateMachine) (w : Radio) : Prop where
  state : s.state = .settingsMode
  settings : s.broadcastingSettings = true
  enabled : w.enabled = true
  onAir : w.onAir = .settings
  tag : Tagged fixed w.cfg → Tag w.cfg s.currentKey s.bleAddr w.payload

/-- At the call of `broadcast`: what the booleans ask for is not yet on air, or another protocol is. -/
structure Ready (fixed : Prop) (s : StateMachine) (w : Radio) : Prop where
  state : s.state = .broadcasting
  settings : s.broadcastingSettings = false
  enabled : w.enabled = true
  closed : w.window = false
  flags : (w.cfg.flagAirtag || w.cfg.flagFmdn) = true
  exclusive : s.broadcastingAirtag = true → s.broadcastingFmdn = false
  onAir : if s.broadcastingAnything then
      (s.broadcastingAirtag = true ∨ s.broadcastingFmdn = true) ∧ (w.onAir = .airtag ∨ w.onAir = .fmdn)
    else w.onAir = .none
  tag : Tagged fixed w.cfg →
    Tag w.cfg s.currentKey s.bleAddr w.payload ∧ w.mac = s.bleAddr ∧ w.macNext = s.bleAddr

theorem Shows.exclusive {flags anything airtag fmdn : Bool} {m : OnAir}
    (h : Shows flags anything airtag fmdn m) : airtag = true → fmdn = false := by
  cases h <;> simp

/-- With a protocol turned on, `broadcasting_anything_` says whether one of the two is on air. -/
theorem Shows.onAir {anything airtag fmdn : Bool} {m : OnAir} (h : Shows true anything airtag fmdn m) :
    if anything then (airtag = true ∨ fmdn = true) ∧ (m = .airtag ∨ m = .fmdn) else m = .none := by
  cases h <;> simp

theorem Shown.ready (h : Shown fixed s w) (hf : (w.cfg.flagAirtag || w.cfg.flagFmdn) = true) :
    Ready fixed s w :=
  ⟨h.state, h.settings, h.enabled, h.closed, hf, h.onAir.exclusive, (hf ▸ h.onAir).onAir, h.tag⟩

/-- The booleans have been set to one of the two protocols. -/
theorem Shown.ready_with (h : Shown fixed s w) (hf : (w.cfg.flagAirtag || w.cfg.flagFmdn) = true)
    {airtag fmdn : Bool} (hx : airtag = true → fmdn = false) (ho : airtag = true ∨ fmdn = true) :
    Ready fixed { s with broadcastingAirtag := airtag, broadcastingFmdn := fmdn } w where
  state := h.state
  settings := h.settings
  enabled := h.enabled
  closed := h.closed
  flags := hf
  exclusive := hx
  onAir := by
    have hm := (hf ▸ h.onAir).onAir
    cases ha : s.broadcastingAnything with
    | true => exact ⟨ho, (by simpa [ha] using hm : _ ∧ _).2⟩
    | false => simpa [ha] using hm
  tag := h.tag

theorem Ready.exists_tag (h : Ready fixed s w) (ht : Tagged fixed w.cfg) :
    ∃ i, Tag w.cfg i w.mac w.payload :=
  ⟨s.currentKey, (h.tag ht).2.1 ▸ (h.tag ht).1⟩

/-- Nothing is asked for, or one protocol is: it starts on a silent radio or replaces what is on air. -/
theorem Ready.cases (h : Ready fixed s w) :
    (s.broadcastingAirtag = false ∧ s.broadcastingFmdn = false ∧ s.broadcastingAnything = false ∧
      w.onAir = .none) ∨
    (s.broadcastingAirtag = true ∧ s.broadcastingFmdn = false ∨
      s.broadcastingAirtag = false ∧ s.broadcastingFmdn = true) ∧
    (s.broadcastingAnything = false ∧ w.onAir = .none ∨
      s.broadcastingAnything = true ∧ (w.onAir = .airtag ∨ w.onAir = .fmdn)) := by
  have hx := h.exclusive
  have ho := h.onAir
  cases ha : s.broadcastingAnything <;> cases hA : s.broadcastingAirtag <;> simp_all

theorem broadcast_radio (h : Ready fixed s w) :
    wp (radio fixed) (broadcast s) (fun s' w' => Shown fixed s' w') w := by
  have htag := fun ht => h.exists_tag ht
  have htag' := fun ht => (⟨(h.tag ht).1, (h.tag ht).2.1, rfl⟩ :
    Tag w.cfg s.currentKey s.bleAddr w.payload ∧ w.mac = s.bleAddr ∧ s.bleAddr = s.bleAddr)
  rcases h.cases with ⟨hA, hF, ha, ho⟩ | ⟨⟨hA, hF⟩ | ⟨hA, hF⟩, ⟨ha, ho⟩ | ⟨ha, ho⟩⟩
  · have hshown : Shown fixed s w :=
      ⟨h.state, h.settings, h.enabled, h.closed, by rw [h.flags, ha, hA, hF, ho]; constructor, h.tag⟩
    simpa [broadcast, ha, hA, hF, h.settings, radio_step_closed, h.closed] using hshown
  · simpa [broadcast, ha, hA, hF, h.settings, radio_step_closed, h.closed, h.enabled, ho] using
      ⟨htag, h.state, rfl, rfl, rfl, by rw [h.flags]; constructor, htag'⟩
  · simpa [broadcast, ha, hA, hF, h.settings, radio_step_closed, h.closed, h.enabled, ho] using
      ⟨htag, h.state, h.settings, rfl, rfl, by rw [h.flags, ha, hA, hF]; constructor, h.tag⟩
  · simpa [broadcast, ha, hA, hF, h.settings, radio_step_closed, h.closed, h.enabled, ho] using
      ⟨h.state, rfl, rfl, rfl, by rw [h.flags]; constructor, h.tag⟩
  · simpa [broadcast, ha, hA, hF, h.settings, radio_step_closed, h.closed, h.enabled, ho] using
      ⟨h.state, h.settings, rfl, rfl, by rw [h.flags, ha, hA, hF]; constructor, h.tag⟩

/-! ## Handlers that leave the radio alone -/

/-- Programs that issue none of the radio calls leave the radio as it is, its configuration apart. -/
theorem wp_quiet_open {α : Type} {p : Main α} {Q : α → Prop}
    (hp : wp (calls .quiet) p (fun a _ => Q a) ()) :
    wp (radio fixed) p (fun a w' => Q a ∧
      ∃ cfg, (cfg = w.cfg ∨ ¬ fixed ∧ w.window = true) ∧ w' = { w with cfg := cfg }) w := by
  refine wp_frame (E := radio fixed) hp
    (fun w' => ∃ cfg, (cfg = w.cfg ∨ ¬ fixed ∧ w.window = true) ∧ w' = { w with cfg := cfg })
    (fun _ _ _ h => h.elim) (fun w₁ c hc h => ?_) ⟨w.cfg, .inl rfl, rfl⟩
  have hquiet : c.radioCall = true → False := hc.radio
  obtain ⟨cfg, hcfg, rfl⟩ := h
  refine ⟨?_, fun a w₂ ⟨cfg₂, hcfg₂, hs⟩ => ⟨answers_of_config (fun _ => trivial) c a, cfg₂, ?_, ?_⟩⟩
  · cases c with
    | _ => first | exact ⟨trivial, fun _ => trivial⟩ | exact (hquiet rfl).elim
  · rcases hcfg₂ with rfl | h
    · exact hcfg
    · exact .inr h
  · exact Radio.after_quiet hquiet hs.2

theorem wp_quiet {α : Type} {p : Main α} {Q : α → Prop} (hw : w.window = false)
    (hp : wp (calls .quiet) p (fun a _ => Q a) ()) :
    wp (radio fixed) p (fun a w' => Q a ∧ w' = w) w := by
  refine wp_mono (fun a w' ⟨ha, cfg, hcfg, hw'⟩ => ⟨ha, ?_⟩) (wp_quiet_open hp)
  rcases hcfg with rfl | h
  · exact hw'
  · rw [hw] at h
    exact absurd h.2 (by simp)

theorem Shown.onlyLock (h : Shown fixed s w) : OnlyLock s s' → Shown fixed s' w := by
  rintro ⟨n, _, rfl⟩
  exact ⟨h.1, h.2, h.3, h.4, h.5, h.6⟩

theorem Shown.onlyTimers (h : Shown fixed s w) : OnlyTimers s s' → Shown fixed s' w := by
  rintro ⟨t, _, rfl⟩
  exact ⟨h.1, h.2, h.3, h.4, h.5, h.6⟩

theorem Shown.onlyFlags (h : Shown fixed s w) : OnlyFlags s s' → Shown fixed s' w := by
  rintro ⟨f, rfl⟩
  exact ⟨h.1, h.2, h.3, h.4, h.5, h.6⟩

/-! ## Broadcasting -/

theorem handleBatteryCheck_radio (h : Shown fixed s w) :
    wp (radio fixed) (handleBatteryCheck s) (fun s' w' => Shown fixed s' w') w := by
  refine wp_uptime h.closed ?_
  intro now
  split
  · exact (wp_pure _ _ _ _).2 h
  · refine wp_seq (wp_quiet h.closed (updateBattery_calls trivial)) ?_
    intro s₁ w₁ hpost
    obtain ⟨⟨v, hs₁⟩, hw₁⟩ := hpost
    subst hs₁ hw₁
    refine wp_seq (wp_quiet h.closed updateStatus_calls) ?_
    intro s₂ w₂ hpost
    obtain ⟨hs₂, hw₂⟩ := hpost
    have h₂ : Shown fixed s₂ w₂ := by
      rw [hs₂, hw₂]
      exact ⟨h.1, h.2, h.3, h.4, h.5, h.6⟩
    refine wp_config h₂.closed ?_
    split
    · exact broadcast_radio (h₂.ready ‹_›)
    · exact (wp_pure _ _ _ _).2 h₂

theorem handleUvloShutdown_radio (h : Shown fixed s w) :
    wp (radio fixed) (handleUvloShutdown s) (fun r w' => r.1 = false ∧ Shown fixed r.2 w') w := by
  have hpower (n : Int) (b : UInt8) : Shown fixed { s with chargeLockCounter := n, badPower := b } w :=
    ⟨h.1, h.2, h.3, h.4, h.5, h.6⟩
  simpa [handleUvloShutdown, radio_step_closed, h.closed] using
    ⟨fun _ => hpower _ _, fun _ =>
      ⟨⟨fun _ _ => hpower _ _, fun _ => hpower _ _⟩, fun _ _ => hpower _ _, fun _ => hpower _ _⟩⟩

theorem handleNokeysShutdown_radio (h : Shown fixed s w) :
    wp (radio fixed) (handleNokeysShutdown s) (fun r w' => r = (false, s) ∧ w' = w) w := by
  simp [handleNokeysShutdown, radio_step_closed, h.closed]

theorem handleSettingsModeEntry_radio (h : Shown fixed s w) :
    wp (radio fixed) (handleSettingsModeEntry s)
      (fun s' w' => Shown fixed s' w' ∨ InSettings fixed s' w') w := by
  have htag := fun ht => (h.tag ht).1
  simpa [handleSettingsModeEntry, useSettingsMac, radio_step_closed, h.closed] using fun now =>
    ⟨fun _ => .inl h, fun _ =>
      ⟨fun _ => .inr ⟨rfl, rfl, rfl, rfl, htag⟩, fun _ => .inr ⟨rfl, rfl, rfl, rfl, htag⟩⟩⟩

theorem handleKeyRotation_radio (h : Shown fixed s w) :
    wp (radio fixed) (handleKeyRotation s) (fun s' w' => Shown fixed s' w') w := by
  refine wp_uptime h.closed fun now => wp_config h.closed ?_
  simp only [wp_ite, wp_pure]
  refine ⟨fun _ => h, fun hkeys => ⟨fun _ => h, fun _ => ?_⟩⟩
  simp only [Bool.or_eq_true, Bool.not_eq_true', beq_iff_eq, not_or, Bool.not_eq_false] at hkeys
  have hlt := rotate_lt s.currentKey hkeys.2
  -- the ring is read twice, for the payload and for the address
  have htag {key key' : Key} (ht : Tagged fixed w.cfg)
      (hkey : ∀ k, w.cfg.keys[(rotate s.currentKey w.cfg.numKeys).toNat]? = some k → key = k)
      (hkey' : ∀ k, w.cfg.keys[(rotate s.currentKey w.cfg.numKeys).toNat]? = some k → key' = k) :
      Tag w.cfg (rotate s.currentKey w.cfg.numKeys) (deriveMacFromKey key') key := by
    obtain ⟨k, hk⟩ := ht.exists_key hlt
    rw [hkey k hk, hkey' k hk]
    exact ⟨hlt, hk, rfl⟩
  simp only [setMacFromCurrentKey, issue, wp_bind, wp_issue, wp_ite, wp_pure, radio_allowed,
    radio_step_closed, h.closed, Radio.Safe, Radio.KeepsTag, Radio.Serves, Radio.Answers, Radio.after,
    Option.some.injEq, hlt,
    and_self, true_and, and_true, implies_true, and_imp, forall_apply_eq_imp_iff, forall_eq, forall_eq',
    forall_const, ne_eq, reduceCtorEq, not_false_eq_true, not_true_eq_false, IsEmpty.forall_iff]
  exact fun key hkey key' hkey' => broadcast_radio
    ⟨h.state, h.settings, rfl, rfl, by simp [hkeys.1], h.onAir.exclusive, rfl,
      fun ht => ⟨htag ht hkey hkey', rfl, rfl⟩⟩

theorem handleButtonLongpress_radio (h : Shown fixed s w) :
    wp (radio fixed) (handleButtonLongpress s) (fun r w' => r = (false, s) ∧ w' = w) w := by
  simp only [handleButtonLongpress, issue, Bool.not_eq_eq_eq_not, Bool.not_true, wp_bind, wp_issue,
    wp_ite, wp_pure, radio_allowed, radio_step_closed, h.closed, Radio.Safe, Radio.KeepsTag, Radio.Serves,
    Radio.Answers, Radio.after, Option.some.injEq, Bool.not_eq_false, Bool.forall_bool,
    Bool.false_eq_true, Bool.true_eq_false, and_self, true_and, and_true, implies_true, IsEmpty.forall_iff,
    forall_const, forall_eq, forall_eq']
  refine wp_mono (fun _ w' hpost => ?_)
    (wp_quiet h.closed (waitButtonRelease_calls (Q := fun _ _ => True) trivial trivial))
  obtain ⟨_, hw'⟩ := hpost
  subst hw'
  simp [radio_step_closed, h.closed]

theorem handleInitialBroadcast_radio (h : Shown fixed s w) :
    wp (radio fixed) (handleInitialBroadcast s) (fun s' w' => Shown fixed s' w') w := by
  refine wp_config h.closed ?_
  split
  · rename_i hc
    simp only [Bool.and_eq_true, Bool.not_eq_true'] at hc
    split
    · exact broadcast_radio (h.ready_with hc.2 (fun _ => hc.1.2) (.inl rfl))
    · exact broadcast_radio (h.ready_with hc.2 (by simp [hc.1.1]) (.inr rfl))
  · exact (wp_pure _ _ _ _).2 h

theorem handleAirtagFmdnAlternation_radio (h : Shown fixed s w) :
    wp (radio fixed) (handleAirtagFmdnAlternation s) (fun s' w' => Shown fixed s' w') w := by
  refine wp_config h.closed ?_
  split
  · exact (wp_pure _ _ _ _).2 h
  · rename_i hc
    simp only [Bool.not_eq_true', Bool.not_eq_false, Bool.and_eq_true] at hc
    split
    · exact broadcast_radio (h.ready_with (by simp [hc.1]) (fun h => nomatch h) (.inr rfl))
    · exact broadcast_radio (h.ready_with (by simp [hc.1]) (fun _ => rfl) (.inl rfl))

theorem tickBroadcast_radio (h : Shown fixed s w) :
    wp (radio fixed) (tickBroadcast s) (fun s' w' => Shown fixed s' w') w := by
  refine wp_config h.closed ?_
  split
  · exact handleInitialBroadcast_radio h
  · split
    · exact handleAirtagFmdnAlternation_radio h
    · exact (wp_pure _ _ _ _).2 h

theorem tickDuties_radio (h : Shown fixed s w) :
    wp (radio fixed) (tickDuties s) (fun s' w' => Shown fixed s' w' ∨ InSettings fixed s' w') w := by
  refine wp_uptime h.closed ?_
  intro now
  split
  · exact handleSettingsModeEntry_radio h
  · refine wp_seq (wp_quiet h.closed handleMaxPowerBurst_calls) ?_
    intro s₁ w₁ hpost
    obtain ⟨h₁, hw₁⟩ := hpost
    subst hw₁
    replace h₁ := h.onlyTimers h₁
    refine wp_seq (handleKeyRotation_radio h₁) ?_
    intro s₂ w₂ h₂
    refine wp_seq (handleButtonLongpress_radio h₂) ?_
    intro r w₃ hpost
    obtain ⟨hr, hw₃⟩ := hpost
    subst hr hw₃
    refine wp_seq (wp_quiet h₂.closed handleAccelerometer_calls) ?_
    intro s₄ w₄ hpost
    obtain ⟨h₄, hw₄⟩ := hpost
    subst hw₄
    exact wp_mono (fun _ _ => .inl) (tickBroadcast_radio (h₂.onlyTimers h₄))

theorem tickBroadcasting_radio (h : Shown fixed s w) :
    wp (radio fixed) (tickBroadcasting s) (fun s' w' => Shown fixed s' w' ∨ InSettings fixed s' w') w := by
  refine wp_seq (wp_quiet h.closed handleTimeSave_calls) ?_
  intro s₁ w₁ hpost
  obtain ⟨h₁, hw₁⟩ := hpost
  subst hw₁
  refine wp_seq (handleBatteryCheck_radio (h.onlyTimers h₁)) ?_
  intro s₂ w₂ h₂
  refine wp_seq (handleUvloShutdown_radio h₂) ?_
  intro r w₃ hpost
  obtain ⟨hr, h₃⟩ := hpost
  obtain ⟨stop, s₃⟩ := r
  subst hr
  refine wp_seq (handleNokeysShutdown_radio h₃) ?_
  intro r w₄ hpost
  obtain ⟨hr, hw₄⟩ := hpost
  subst hr hw₄
  exact tickDuties_radio h₃

/-! ## Settings mode -/

theorem InSettings.of_cfg (h : InSettings fixed s w) {cfg : BeaconConfig}
    (hc : cfg = w.cfg ∨ ¬ fixed ∧ w.window = true) : InSettings fixed s { w with cfg := cfg } where
  state := h.state
  settings := h.settings
  enabled := h.enabled
  onAir := h.onAir
  tag ht := by
    rcases hc with rfl | ⟨hfix, -⟩
    · exact h.tag ht
    · exact absurd ht.fixed hfix

theorem InSettings.issue {c : Call} (h : InSettings fixed s w) (hc : c.radioCall = false) :
    wp (radio fixed) (Prog.issue c) (fun _ => InSettings fixed s) w := by
  have hquiet : wp (calls .quiet) (Prog.issue c) (fun _ _ => True) () := by
    simp [-Call.radioCall, hc, Policy.quiet, Policy.any]
  refine wp_mono (fun _ w' hpost => ?_) (wp_quiet_open hquiet)
  obtain ⟨_, cfg, hcfg, hw'⟩ := hpost
  rw [hw']
  exact h.of_cfg hcfg

/-- The way back restores the address of the current key; `reboot` has no way back. -/
theorem leaveSettings_radio (h : InSettings fixed s w) :
    wp (radio fixed) (leaveSettings s) (fun s' w' => Shown fixed s' w') w := by
  refine wp_call _ (by simp) ?_
  intro _ w₁ hs
  obtain ⟨c₁, hc₁, -, hs⟩ := hs
  cases hs
  replace h := h.of_cfg hc₁
  refine wp_call _ (by simp) ?_
  intro _ w₂ hs
  obtain ⟨c₂, hc₂, -, hs⟩ := hs
  cases hs
  replace h := h.of_cfg hc₂
  refine wp_call _ (by simp) ?_
  intro _ w₃ hs
  obtain ⟨c₃, hc₃, -, hs⟩ := hs
  cases hs
  have htag := (h.of_cfg hc₃).tag
  clear h hc₁ hc₂ hc₃
  simpa [restoreMac, ibeaconFallback, radio_step_closed] using
    ⟨fun hA _ => ⟨fun hA' => absurd (hA'.symm.trans hA) (by simp), fun _ =>
      ⟨rfl, rfl, rfl, rfl, by rw [hA]; exact .silent, fun ht => ⟨htag ht, rfl, rfl⟩⟩⟩,
    fun hA _ => ⟨
      fun _ hF => ⟨rfl, rfl, rfl, rfl, by rw [hA, hF]; exact .ibeacon,
        fun ht => absurd (hA.symm.trans ht.flag) (by simp)⟩,
      fun hF => ⟨rfl, rfl, rfl, rfl, by rw [hF hA, Bool.or_true]; exact .silent,
        fun ht => absurd (hA.symm.trans ht.flag) (by simp)⟩⟩⟩

/-- The upload window ends in `reboot`. -/
theorem firmwareUpload_radio (h : InSettings fixed s w) :
    wp (radio fixed) (firmwareUpload s) (fun _ _ => False) w := by
  refine wp_call _ (by simp) ?_
  intro _ w₁ hs
  obtain ⟨c₁, hc₁, -, hs⟩ := hs
  cases hs
  refine wp_call _ (by simp) ?_
  intro _ w₂ hs
  obtain ⟨c₂, hc₂, -, hs⟩ := hs
  cases hs
  refine wp_call _ (by simp) ?_
  intro _ w₃ hs
  obtain ⟨c₃, hc₃, -, hs⟩ := hs
  cases hs
  refine wp_call _ (by simp [h.enabled]) ?_
  intro _ w₄ _
  refine wp_seq (wp_quiet_open (uploadWait_calls Policy.quiet_sound 15)) ?_
  intro _ w₅ _
  simp [radio_step]

theorem handleSettingsModeExit_radio (h : InSettings fixed s w) :
    wp (radio fixed) (handleSettingsModeExit s)
      (fun s' w' => Shown fixed s' w' ∨ InSettings fixed s' w') w := by
  refine handleSettingsModeExit_decides (J := InSettings fixed s) ?_ ?_ ?_ ?_ ?_ h
  · exact fun _ h => h.issue rfl
  · exact fun _ _ _ h => wp_mono (fun _ _ h => h.issue rfl) (h.issue rfl)
  · exact fun _ h => (wp_pure _ _ _ _).2 (.inr h)
  · exact fun _ h => wp_mono (fun _ _ => False.elim) (firmwareUpload_radio h)
  · exact fun _ h => wp_mono (fun _ _ => .inl) (leaveSettings_radio h)

/-! ## Ticks -/

/-- A main loop that is broadcasting or in settings mode stays in one of the two, as long as it runs. -/
theorem mainLoop_radio (h : Shown fixed s w ∨ InSettings fixed s w) :
    wp (radio fixed) (mainLoop s) (fun s' w' => Shown fixed s' w' ∨ InSettings fixed s' w') w := by
  rcases h with h | h
  · refine wp_seq (wp_quiet h.closed syncGattState_calls) ?_
    intro s₁ w₁ hpost
    obtain ⟨hs₁, hw₁⟩ := hpost
    subst hw₁
    have h₁ := h.onlyFlags hs₁
    rw [tick_of_running (by rw [h₁.state]; simp)]
    refine wp_seq (wp_quiet h₁.closed (tickSleep_calls Policy.quiet_sound)) ?_
    intro s₂ w₂ hpost
    obtain ⟨hs₂, hw₂⟩ := hpost
    subst hw₂
    have h₂ := h₁.onlyLock hs₂
    rw [if_neg (by rw [h₂.state, h₂.settings]; simp)]
    exact tickBroadcasting_radio h₂
  · refine wp_seq (wp_quiet_open syncGattState_calls) ?_
    intro s₁ w₁ hpost
    obtain ⟨⟨f, hs₁⟩, c₁, hc₁, hw₁⟩ := hpost
    have h₁ : InSettings fixed s₁ w₁ := by
      rw [hs₁, hw₁]
      have h := h.of_cfg hc₁
      exact ⟨h.1, h.2, h.3, h.4, h.5⟩
    rw [tick_of_running (by rw [h₁.state]; simp)]
    refine wp_seq (wp_quiet_open (tickSleep_calls Policy.quiet_sound))
      fun s₂ w₂ hpost => ?_
    obtain ⟨⟨n, _, hs₂⟩, c₂, hc₂, hw₂⟩ := hpost
    have h₂ : InSettings fixed s₂ w₂ := by
      rw [hs₂, hw₂]
      have h := h₁.of_cfg hc₂
      exact ⟨h.1, h.2, h.3, h.4, h.5⟩
    rw [if_pos (.inr h₂.settings)]
    exact handleSettingsModeExit_radio h₂

/-! ## Startup -/

theorem prepareKeys_radio (hw : w.Off) :
    wp (radio fixed) (prepareKeys s) (fun s' w' => w'.Off ∧
      (Tagged fixed w'.cfg → Tag w'.cfg s'.currentKey s'.bleAddr w'.payload)) w := by
  simpa [prepareKeys, setMacFromCurrentKey, radio_step_closed, hw.window] using
    ⟨fun hn => ⟨fun _ h => by simp [hw.onAir] at h,
      fun _ => ⟨⟨hw.enabled, hw.onAir, rfl⟩, fun _ => ⟨hn, by simp, rfl⟩⟩,
      fun h0 => absurd hn (by simp [h0])⟩,
    fun h0 => ⟨hw, fun ht => absurd ht.keys (by simp [h0])⟩⟩

theorem setInitialMac_radio (hw : w.Off) :
    wp (radio fixed) (setInitialMac s) (fun _ w' => ∃ addr,
      (w.cfg.flagAirtag = true → addr = s.bleAddr) ∧ w' = { w with macNext := addr }) w := by
  simpa +contextual [setInitialMac, radio_step_closed, hw.window] using
    fun _ _ _ => ⟨w.macNext, by rw [← hw.window]⟩

theorem startRadio_radio (hw : w.Off) :
    wp (radio fixed) (startRadio s) (fun _ w' => w' = { w with
      enabled := true, mac := w.macNext,
      onAir := if w.cfg.flagAirtag || w.cfg.flagFmdn then .none else .ibeacon }) w := by
  simp +contextual [startRadio, ibeaconFallback, radio_step_closed, hw.window, hw.onAir]

theorem startUp_radio (hw : w.Off) :
    wp (radio fixed) (startUp s) (fun s' w' => Shown fixed s' w') w := by
  refine wp_seq (wp_quiet hw.window (wakePeripherals_calls Policy.quiet_sound)) ?_
  intro _ w₁ hpost
  obtain ⟨_, hw₁⟩ := hpost
  subst hw₁
  refine wp_seq (prepareKeys_radio hw) ?_
  intro s₂ w₂ hpost
  obtain ⟨hw₂, htag⟩ := hpost
  refine wp_seq (setInitialMac_radio hw₂) ?_
  intro _ w₃ hpost
  obtain ⟨addr, haddr, hw₃⟩ := hpost
  subst hw₃
  refine wp_seq (wp_quiet hw₂.window (updateBattery_calls trivial)) ?_
  intro s₄ w₄ hpost
  obtain ⟨⟨v, hs₄⟩, hw₄⟩ := hpost
  subst hs₄ hw₄
  refine wp_seq (wp_quiet hw₂.window updateStatus_calls) ?_
  intro s₅ w₅ hpost
  obtain ⟨hs₅, hw₅⟩ := hpost
  subst hs₅ hw₅
  refine wp_seq (startRadio_radio ⟨hw₂.enabled, hw₂.onAir, hw₂.window⟩) ?_
  intro _ w₆ hw₆
  refine wp_seq (wp_quiet (hw₆ ▸ hw₂.window)
    (waitButtonRelease_calls (Q := fun _ _ => True) trivial trivial)) fun _ w₇ hpost => ?_
  obtain ⟨_, hw₇⟩ := hpost
  subst hw₆ hw₇
  rw [wp_pure]
  refine ⟨rfl, rfl, rfl, hw₂.window, ?_, fun ht => ⟨htag ht, haddr ht.flag, haddr ht.flag⟩⟩
  show Shows (w₂.cfg.flagAirtag || w₂.cfg.flagFmdn) false false false
    (if w₂.cfg.flagAirtag || w₂.cfg.flagFmdn then .none else .ibeacon)
  cases w₂.cfg.flagAirtag || w₂.cfg.flagFmdn
  · exact .ibeacon
  · exact .silent

theorem initializeMachine_radio (hw : w.Off) :
    wp (radio fixed) (initializeMachine s) (fun s' w' => Shown fixed s' w' ∨ InSettings fixed s' w') w := by
  have hstart {w : Radio} (hw : w.Off) : wp (radio fixed) (startUp s)
      (fun s' w' => Shown fixed s' w' ∨ InSettings fixed s' w') w :=
    wp_mono (fun _ _ => .inl) (startUp_radio hw)
  simpa [initializeMachine, radio_step_closed, hw.window] using
    ⟨fun _ => hstart hw, hstart ⟨hw.enabled, hw.onAir, rfl⟩⟩

end

/-! ## Runs -/

/-- In every run, while the configuration may change at any call between `start_settings_adv` and the next
`bt_disable` and so between any ticks in settings mode: no call is refused by the radio, and whenever a
tick ends in broadcasting the booleans say what is on air. -/
theorem flags_simulate_radio :
    (∀ p w, During (radio False) (initializeMachine {}) mainLoop Radio.Off p w →
      ∀ c, p.next? = some c → w.Safe c) ∧
    ∀ s w, Boundary (radio False) (initializeMachine {}) mainLoop Radio.Off s w →
      (s.state = .broadcasting →
        w.enabled = true ∧ s.broadcastingSettings = false ∧
        (s.broadcastingAnything = true ↔
          s.broadcastingAirtag = true ∧ s.broadcastingFmdn = false ∧ w.onAir = .airtag ∨
          s.broadcastingAirtag = false ∧ s.broadcastingFmdn = true ∧ w.onAir = .fmdn) ∧
        (w.onAir = .ibeacon ↔ w.cfg.flagAirtag = false ∧ w.cfg.flagFmdn = false)) ∧
      (s.state = .settingsMode → w.enabled = true ∧ s.broadcastingSettings = true ∧ w.onAir = .settings) ∧
      (s.state = .broadcasting ∨ s.state = .settingsMode) := by
  have hinv {s : StateMachine} {w : Radio}
      (h : Boundary (radio False) (initializeMachine {}) mainLoop Radio.Off s w) :
      Shown False s w ∨ InSettings False s w :=
    boundary_inv (fun w hw => initializeMachine_radio hw) (fun s w h => mainLoop_radio h) h
  refine ⟨fun p w h c hc => ?_, fun s w h => ?_⟩
  · exact (during_allowed (I := fun s w => Shown False s w ∨ InSettings False s w)
      (fun w hw => initializeMachine_radio hw) (fun s w h => mainLoop_radio h) h hc).1
  · rcases hinv h with h | h
    · refine ⟨fun _ => ⟨h.enabled, h.settings, ?_⟩, fun hs => ?_, .inl h.state⟩
      · have hm := (shows_iff _ _ _ _ _).1 h.onAir
        rw [Bool.or_eq_false_iff, Bool.or_eq_true_iff] at hm
        grind
      · exact absurd (h.state.symm.trans hs) (by decide)
    · exact ⟨fun hs => absurd (h.state.symm.trans hs) (by decide),
        fun _ => ⟨h.enabled, h.settings, h.onAir⟩, .inr h.state⟩

/-- What is on air as an AirTag shows a key of the ring of `cfg`. -/
structure Showing (cfg : BeaconConfig) (w : Radio) : Prop where
  config : w.cfg = cfg.setTurnedOn w.cfg.turnedOn
  tag : w.onAir = .airtag → ∃ i, Tag cfg i w.mac w.payload

theorem Tag.of_config {cfg cfg' : BeaconConfig} {b : Bool} (h : cfg' = cfg.setTurnedOn b) {i : UInt8}
    {addr : Mac} {key : Key} (ht : Tag cfg' i addr key) : Tag cfg i addr key := by
  subst h
  exact ⟨ht.lt, ht.get, ht.derive⟩

theorem Showing.step {cfg : BeaconConfig} {w w' : Radio} {c : Call} {a : c.Ans} (h : Showing cfg w)
    (hc : w.KeepsTag c) (hs : (radio True).step w c a w') : Showing cfg w' := by
  obtain ⟨cfg', hcfg, hs⟩ := hs
  obtain rfl : cfg' = w.cfg := by simpa using hcfg
  obtain ⟨-, hs⟩ := hs
  cases c with
  | setTurnedOn v =>
    cases hs
    exact ⟨by rw [h.config]; rfl, h.tag⟩
  | prepareAirtag | btEnable =>
    cases hs
    exact ⟨h.config, fun ht => absurd ht hc⟩
  | advStartAirtag | advUpdateAirtag =>
    cases hs
    exact ⟨h.config, fun _ => hc.imp fun _ ht => ht.of_config h.config⟩
  | advStartFmdn | advUpdateFmdn | advStop | btDisable | startSettingsAdv | stopSettingsAdv
  | broadcastIbeacon =>
    cases hs
    exact ⟨h.config, fun ht => nomatch ht⟩
  | reboot | powerOff => cases hs
  | _ =>
    cases hs
    exact ⟨h.config, h.tag⟩

theorem Showing.tagged {cfg : BeaconConfig} {w : Radio} (h : Showing cfg w) (ht : Tagged True cfg) :
    Tagged True w.cfg := by
  rw [h.config]
  exact ⟨trivial, ht.flag, ht.keys, ht.fits⟩

/-- A finder that sees the address in effect and the advertisement prepared last puts `key` together. -/
theorem Tag.reassemble {cfg : BeaconConfig} {i : UInt8} {mac : Mac} {key : Key} (h : Tag cfg i mac key)
    (tmpl : OfflineFindingAdvTemplate) :
    cfg.keys[i.toNat]? = some (reassemble mac (fillAdvTemplate key tmpl)) := by
  rw [h.derive, reassemble_fillAdvTemplate]
  exact h.get

/-- A device at rest, at the uptime `now`. -/
def Radio.serve (now : UInt32) (w : Radio) (c : Call) : Option (c.Ans × Radio) :=
  (w.after c).map fun w' => (answers w.cfg now 3000 c, w')

theorem radio_step_serve {fixed : Prop} {now : UInt32} (w : Radio) (c : Call) (x : c.Ans × Radio)
    (hx : w.serve now c = some x) : (radio fixed).step w c x.1 x.2 := by
  obtain ⟨w', hw', rfl⟩ := Option.map_eq_some_iff.1 hx
  refine ⟨w.cfg, .inl rfl, ?_, hw'⟩
  cases c with
  | configKey i => exact fun k hk => by simp [answers, hk]
  | config | btEnable | advStartAirtag | advStartFmdn | advUpdateAirtag | advUpdateFmdn | advStop => rfl
  | _ => trivial

/-- With a fixed configuration: whenever the AirTag is on air, address and payload stand for one key of
the ring, and at the end of a tick it is the current one. -/
theorem airtag_identity {cfg : BeaconConfig} (hflag : cfg.flagAirtag = true) (hkeys : 0 < cfg.numKeys)
    (hfits : cfg.numKeys.toNat ≤ kMaxKeysInMemory) :
    (∀ p w, During (radio True) (initializeMachine {}) mainLoop (fun w => w.Off ∧ w.cfg = cfg) p w →
      w.onAir = .airtag → ∃ i, Tag cfg i w.mac w.payload ∧
        ∀ tmpl, cfg.keys[i.toNat]? = some (reassemble w.mac (fillAdvTemplate w.payload tmpl))) ∧
    ∀ s w, Boundary (radio True) (initializeMachine {}) mainLoop (fun w => w.Off ∧ w.cfg = cfg) s w →
      w.onAir = .airtag → Tag cfg s.currentKey w.mac w.payload := by
  have ht : Tagged True cfg := ⟨trivial, hflag, hkeys, hfits⟩
  have hstart (w : Radio) (hw : w.Off ∧ w.cfg = cfg) :
      wp (radio True) (initializeMachine {}) (fun s w => Shown True s w ∨ InSettings True s w) w :=
    initializeMachine_radio hw.1
  have hiter (s : StateMachine) (w : Radio) (h : Shown True s w ∨ InSettings True s w) := mainLoop_radio h
  have hshow (p : Main StateMachine) (w : Radio)
      (h : During (radio True) (initializeMachine {}) mainLoop (fun w => w.Off ∧ w.cfg = cfg) p w) :
      Showing cfg w := by
    refine during_keeps_of_allowed hstart hiter (fun w hw => ⟨by rw [hw.2]; rfl, fun h => ?_⟩)
      (fun _ _ _ hm => hm.elim) (fun w c a w' hI hc hs => hI.step (hc.2 (hI.tagged ht)) hs) h
    rw [hw.1.onAir] at h
    cases h
  refine ⟨fun p w h hair => ?_, fun s w h hair => ?_⟩
  · obtain ⟨i, hi⟩ := (hshow p w h).tag hair
    exact ⟨i, hi, hi.reassemble⟩
  · have hs : Showing cfg w := by
      cases h with
      | start hi hr => exact hshow _ _ (.start hi hr)
      | iter hb hr => exact hshow _ _ (.iter hb hr)
    rcases boundary_inv hstart hiter h with h | h
    · obtain ⟨htag, hmac, -⟩ := h.tag (hs.tagged ht)
      exact hmac ▸ htag.of_config hs.config
    · exact absurd (hair.symm.trans h.onAir) (by decide)

/-- A configuration with one key. -/
def oneKey : BeaconConfig where
  turnedOn := true
  flagAirtag := true
  numKeys := 1
  keys := (Vector.replicate 40 (Vector.replicate 28 0)).set 0 (Vector.replicate 28 0x5A)

/-- After its first tick a device with one key shows it. -/
theorem airtag_identity_one_key :
    ∃ s w, Boundary (radio True) (initializeMachine {}) mainLoop (fun w => w.Off ∧ w.cfg = oneKey) s w ∧
      w.onAir = .airtag ∧ Tag oneKey s.currentKey w.mac w.payload := by
  let off : Radio := ⟨false, .none, false, oneKey, .replicate 6 0, .replicate 6 0, .replicate 28 0⟩
  obtain ⟨x, hx, hair⟩ : ∃ x ∈ ((initializeMachine {}).play (Radio.serve 0) off).bind fun x =>
      (mainLoop x.1).play (Radio.serve 1) x.2, x.2.onAir = .airtag := by decide
  obtain ⟨⟨s, w⟩, h₀, h₁⟩ := Option.bind_eq_some_iff.1 hx
  have hb : Boundary (radio True) (initializeMachine {}) mainLoop (fun w => w.Off ∧ w.cfg = oneKey)
      x.1 x.2 :=
    .iter (.start ⟨⟨rfl, rfl, rfl⟩, rfl⟩ (reaches_of_play radio_step_serve h₀))
      (reaches_of_play radio_step_serve h₁)
  exact ⟨x.1, x.2, hb, hair, (airtag_identity rfl (by decide) (by decide)).2 _ _ hb hair⟩

end Everytag
