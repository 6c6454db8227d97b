import Everytag.Gatt

/-!
# What one event of the GATT layer can do

`Wrote d ch t buf d'` lists the four ways a write request can end: refused without a trace, as an
auth write that opens the session or closes it, or accepted in an open session (`attWrite_cases`).
The invariants of whole runs are read off these cases and never off the callbacks themselves.

    0 < handleAuth m buf ↔ buf = m.config.authCode.toList      (handleAuth_pos)
-/

namespace Everytag

open Bytes

/-! ## The code check -/

theorem validateAuthCode_ok {buf : List UInt8} {stored : AuthCode} :
    validateAuthCode buf stored = .ok ↔ buf = stored.toList := by
  unfold validateAuthCode
  by_cases hlen : buf.length = 8
  · have h : diffBits buf stored.toList = 0 ↔ buf = stored.toList := by
      rw [diffBits, foldl_or_xor_eq_zero, forall_zip_eq_iff (by simpa using hlen)]
      simp
    simp [hlen, h]
  · have : buf ≠ stored.toList := fun h => hlen (by simp [h])
    simp [hlen, this]

/-- An auth write passes exactly with the stored code. -/
theorem handleAuth_pos {m : SettingsManager} {buf : List UInt8} :
    0 < handleAuth m buf ↔ buf = m.config.authCode.toList := by
  simp only [handleAuth, validateAuthCode_ok]
  by_cases h : buf = m.config.authCode.toList
  · simp [h]
  · simp only [h, if_false, iff_false]
    split <;> decide

/-! ## Bridge functions -/

open BeaconConfig (Setter)

/-- The setters that the bridge function of a characteristic calls. -/
def CalledBy : Chrc → Setter → Prop
  | .key, .keyChunk .. | .key, .numKeys _ | .period, .multPeriod _ | .fmdn, .flagFmdn _
  | .airtag, .flagAirtag _ | .changeInterval, .changeInterval _ | .txPower, .txPower _
  | .fmdnKey, .fmdnKey _ | .timeOffset, .timeOffset .. | .settingsMac, .settingsMac _
  | .status, .statusFlags _ | .accel, .accelThreshold _ => True
  | _, _ => False

section

variable {P : BeaconConfig → Prop} {m : SettingsManager} {buf : List UInt8}

theorem handleInt_config {f : NvsFieldId} {spec : GattFieldSpec}
    {setter : BeaconConfig → Int → BeaconConfig}
    (h : P m.config) (hs : ∀ v, P (setter m.config v)) : P (handleInt f spec setter m buf).2.config := by
  unfold handleInt
  split
  · rw [SettingsManager.save_config]
    exact hs _
  · exact h

theorem handleFlag_config {f : NvsFieldId} {setter : BeaconConfig → Bool → BeaconConfig}
    (h : P m.config) (hs : ∀ v, P (setter m.config v)) : P (handleFlag f setter m buf).2.config := by
  unfold handleFlag
  split
  · exact h
  · rw [SettingsManager.save_config]
    exact hs _

theorem handleBlock_config {f : NvsFieldId} {len : Nat} {setter : BeaconConfig → List UInt8 → BeaconConfig}
    (h : P m.config) (hs : ∀ bs, P (setter m.config bs)) : P (handleBlock f len setter m buf).2.config := by
  unfold handleBlock
  split
  · exact h
  · rw [SettingsManager.save_config]
    exact hs _

@[simp] theorem handleKey_none (m : SettingsManager) (k : Nat) : (handleKey m k none).2 = m.save .key := rfl

theorem handleKey_config {k : Nat} (h : P m.config)
    (hs : ∀ c s, CalledBy .key s → P c → P (s.apply c)) : P (handleKey m k (some buf)).2.config := by
  have hchunk := fun keyIdx offset => hs m.config (.keyChunk keyIdx offset buf) trivial h
  simp only [handleKey]
  split
  · exact h
  · split
    · exact h
    · split
      · exact hs _ (.numKeys _) trivial (hchunk _ _)
      · exact hchunk _ _

theorem handleAccel_config {d : Device} (h : P d.settings.config)
    (hs : ∀ v, P (d.settings.config.setAccelThreshold v).2) : P (handleAccel d buf).2.settings.config := by
  unfold handleAccel
  split
  · rw [SettingsManager.save_config]
    exact hs _
  · exact h

end

/-! ## Write requests -/

namespace Device

/-- `beacon_glue_handle_*` by itself, without the callback around it. -/
def bridge (d : Device) (uptime : UInt32) (buf : List UInt8) : Chrc → Device
  | .auth => d
  | .key => { d with settings := (handleKey d.settings d.gatt.keysReceived (some buf)).2 }
  | .period => onSettings handlePeriod d buf
  | .fmdn => onSettings handleFmdn d buf
  | .airtag => onSettings handleAirtag d buf
  | .changeInterval => onSettings handleChangeInterval d buf
  | .txPower => onSettings handleTxPower d buf
  | .fmdnKey => onSettings handleFmdnKey d buf
  | .timeOffset => onSettings (fun m => handleTimeOffsetWrite m uptime) d buf
  | .settingsMac => onSettings handleSettingsMac d buf
  | .status => onSettings handleStatus d buf
  | .accel => (handleAccel d buf).2

variable {d : Device} {ch : Chrc} {t : UInt32} {buf : List UInt8}

@[simp] theorem bridge_gatt : (d.bridge t buf ch).gatt = d.gatt := by
  cases ch with
  | accel => simp only [bridge, handleAccel]; split <;> rfl
  | _ => rfl

/-- What holds of the configuration and is kept by the setters of a bridge function still holds after
it. -/
theorem bridge_config {P : BeaconConfig → Prop} (h : P d.settings.config)
    (hs : ∀ c s, CalledBy ch s → P c → P (s.apply c)) : P (d.bridge t buf ch).settings.config := by
  cases ch with
  | auth => exact h
  | key => exact handleKey_config h hs
  | period => exact handleInt_config h fun _ => hs _ (.multPeriod _) trivial h
  | fmdn => exact handleFlag_config h fun _ => hs _ (.flagFmdn _) trivial h
  | airtag => exact handleFlag_config h fun _ => hs _ (.flagAirtag _) trivial h
  | changeInterval => exact handleInt_config h fun _ => hs _ (.changeInterval _) trivial h
  | txPower => exact handleInt_config h fun _ => hs _ (.txPower _) trivial h
  | fmdnKey => exact handleBlock_config h fun _ => hs _ (.fmdnKey _) trivial h
  | timeOffset => exact handleBlock_config h fun _ => hs _ (.timeOffset _ _) trivial h
  | settingsMac => exact handleBlock_config h fun _ => hs _ (.settingsMac _) trivial h
  | status => exact handleBlock_config h fun _ => hs _ (.statusFlags _) trivial h
  | accel => exact handleAccel_config h fun _ => hs _ (.accelThreshold _) trivial h

/-- The write asks for a firmware upload. -/
def UploadRequest (ch : Chrc) (buf : List UInt8) : Prop :=
  ch = .status ∧ buf.length = 4 ∧ BeaconConfig.readInt buf = dfuWord

/-- What an accepted write does to the flags. -/
structure Accepts (ch : Chrc) (buf : List UInt8) (g g' : Gatt) : Prop where
  connectedGatt : g'.connectedGatt = g.connectedGatt
  authorizedGatt : g'.authorizedGatt = g.authorizedGatt
  allowedChange : g'.allowedChange = g.allowedChange
  needsReset : g.needsReset = true → g'.needsReset = true
  pauseUpload : g'.pauseUpload = true → g.pauseUpload = true
  keysReceived : g'.keysReceived = g.keysReceived ∨
    ch = .key ∧ buf.length = 14 ∧ g.keysReceived < 2 * kMaxKeysInMemory ∧
      g'.keysReceived = g.keysReceived + 1

/-- The ways a write request ends. -/
inductive Wrote (d : Device) (ch : Chrc) (t : UInt32) (buf : List UInt8) : Device → Prop
  | refused : ch ≠ .auth → Wrote d ch t buf d
  | opened : ch = .auth → buf = d.settings.config.authCode.toList → Wrote d ch t buf
      { d with gatt := { d.gatt with allowedChange := true, authorizedGatt := true } }
  | closed : ch = .auth → buf ≠ d.settings.config.authCode.toList → Wrote d ch t buf
      { d with gatt := { d.gatt with allowedChange := false, needsReset := false, pauseUpload := false } }
  | upload : UploadRequest ch buf → d.gatt.allowedChange = true → Wrote d ch t buf
      { d with gatt := { d.gatt with pauseUpload := true } }
  | accepted {g : Gatt} : ch ≠ .auth → d.gatt.allowedChange = true → Accepts ch buf d.gatt g →
      Wrote d ch t buf { d.bridge t buf ch with gatt := g }

theorem gatedWrite_cases {restart : Bool} {f : Device → List UInt8 → Device} (hne : ch ≠ .auth)
    (hf : f d buf = d.bridge t buf ch) : Wrote d ch t buf (gatedWrite restart f d buf).2 := by
  unfold gatedWrite
  split
  · exact .refused hne
  · rename_i h
    simp only [hf, bridge_gatt]
    refine .accepted hne (by simpa using h) ⟨rfl, rfl, rfl, fun hr => ?_, fun hp => (by cases hp), .inl rfl⟩
    simp [hr]

theorem chrcWriteAuth_cases : Wrote d .auth t buf (d.chrcWriteAuth buf).2 := by
  simp only [chrcWriteAuth, gt_iff_lt, handleAuth_pos]
  split
  · exact .opened rfl ‹_›
  · exact .closed rfl ‹_›

theorem chrcWriteStatus_cases : Wrote d .status t buf (d.chrcWriteStatus buf).2 := by
  unfold chrcWriteStatus
  split
  · exact .refused (by decide)
  · rename_i h
    split
    · exact .upload ⟨rfl, ‹_›⟩ (by simpa using h)
    · exact gatedWrite_cases (by decide) rfl

theorem handleKey_refused {m : SettingsManager} {k : Nat}
    (h : buf.length ≠ 14 ∨ 2 * kMaxKeysInMemory ≤ k) : handleKey m k (some buf) = (-1, m) := by
  by_cases hlen : buf.length = 14
  · simp [handleKey, hlen, h.resolve_left (fun h => h hlen)]
  · simp [handleKey, hlen]

theorem handleKey_fst {m : SettingsManager} {k : Nat} (hlen : buf.length = 14)
    (hk : k < 2 * kMaxKeysInMemory) : (handleKey m k (some buf)).1 = 0 := by
  simp [handleKey, hlen, Nat.not_le.2 hk]

/-- The chunk counter names slot and half. -/
theorem chunkFits {k : Nat} (hlen : buf.length = 14) (hk : k < 2 * kMaxKeysInMemory) :
    BeaconConfig.ChunkFits ((k / 2 : Nat) : Int) (14 * (k % 2)) buf := by
  simp only [BeaconConfig.ChunkFits, kMaxKeysInMemory, hlen] at hk ⊢
  omega

theorem handleKey_snd {m : SettingsManager} {k : Nat} (hlen : buf.length = 14)
    (hk : k < 2 * kMaxKeysInMemory) :
    (handleKey m k (some buf)).2.config.keys =
      (m.config.setKeyChunk (k / 2 : Nat) (14 * (k % 2)) buf).keys ∧
    (handleKey m k (some buf)).2.nvs = m.nvs := by
  simp only [handleKey, hlen, Nat.not_le.2 hk, ne_eq, not_true_eq_false, if_false, and_true]
  by_cases hh : k % 2 = 1
  · simp only [hh, if_true, BeaconConfig.setNumKeys]
    split <;> rfl
  · simp only [hh, if_false]

/-- The flags after an accepted chunk: the second half of a key arms the restart. -/
def countChunk (g : Gatt) : Gatt :=
  if (g.keysReceived + 1) % 2 = 0 then
    { g with keysReceived := g.keysReceived + 1, needsReset := true, updateKeysAtDisconnect := true,
             pauseUpload := false }
  else { g with keysReceived := g.keysReceived + 1 }

theorem chrcWriteKey_snd (ha : d.gatt.allowedChange = true) (hlen : buf.length = 14)
    (hk : d.gatt.keysReceived < 2 * kMaxKeysInMemory) :
    (d.chrcWriteKey buf).2 = { d.bridge t buf .key with gatt := countChunk d.gatt } := by
  simp only [chrcWriteKey, ha, handleKey_fst hlen hk, countChunk, bridge]
  by_cases h : (d.gatt.keysReceived + 1) % 2 = 0
  · simp [h]
  · simp [h]

theorem accepts_countChunk {g : Gatt} (hlen : buf.length = 14)
    (hk : g.keysReceived < 2 * kMaxKeysInMemory) : Accepts .key buf g (countChunk g) := by
  have hk' : g.keysReceived + 1 = g.keysReceived ∨ Chrc.key = .key ∧ buf.length = 14 ∧
      g.keysReceived < 2 * kMaxKeysInMemory ∧ g.keysReceived + 1 = g.keysReceived + 1 :=
    .inr ⟨rfl, hlen, hk, rfl⟩
  unfold countChunk
  split
  · exact ⟨rfl, rfl, rfl, fun _ => rfl, fun h => (by cases h), hk'⟩
  · exact ⟨rfl, rfl, rfl, id, id, hk'⟩

theorem chrcWriteKey_cases : Wrote d .key t buf (d.chrcWriteKey buf).2 := by
  by_cases ha : d.gatt.allowedChange = true
  · by_cases hr : buf.length ≠ 14 ∨ 2 * kMaxKeysInMemory ≤ d.gatt.keysReceived
    · have : (d.chrcWriteKey buf).2 = d := by simp [chrcWriteKey, ha, handleKey_refused hr]
      rw [this]
      exact .refused (by decide)
    · simp only [not_or, not_le, not_not] at hr
      rw [chrcWriteKey_snd ha hr.1 hr.2]
      exact .accepted (by decide) ha (accepts_countChunk hr.1 hr.2)
  · have : (d.chrcWriteKey buf).2 = d := by simp [chrcWriteKey, ha]
    rw [this]
    exact .refused (by decide)

theorem attWrite_cases : Wrote d ch t buf (d.attWrite ch t buf).2 := by
  unfold attWrite
  split
  · cases ch with
    | auth => exact chrcWriteAuth_cases
    | key => exact chrcWriteKey_cases
    | status => exact chrcWriteStatus_cases
    | _ => exact gatedWrite_cases (by decide) rfl
  · rename_i h
    exact .refused fun hch => h (by simp [writeAuthorize, hch])

end Device

/-! ## Events -/

/-- Connection callbacks and restarts of settings advertising. -/
def GattEvent.resets : GattEvent → Prop
  | .connected _ | .disconnected | .recycled | .startSettingsAdv => True
  | .readTime .. | .write .. => False

namespace Device

variable {d : Device} {e : GattEvent}

/-- The flags after a connection event or a restart of settings advertising. -/
structure Closes (g g' : Gatt) : Prop where
  allowedChange : g'.allowedChange = false
  needsReset : g'.needsReset = g.needsReset
  pauseUpload : g'.pauseUpload = g.pauseUpload
  keysReceived : g'.keysReceived ≤ g.keysReceived

/-- The flags after a read of the time. -/
structure Tells (g g' : Gatt) : Prop where
  allowedChange : g'.allowedChange = g.allowedChange
  needsReset : g'.needsReset = g.needsReset
  pauseUpload : g'.pauseUpload = true → g.pauseUpload = true
  keysReceived : g'.keysReceived = g.keysReceived

/-- The ways an event ends. -/
inductive Stepped (d : Device) : GattEvent → Device → Prop
  | reset {e : GattEvent} {g : Gatt} : e.resets → Closes d.gatt g → Stepped d e { d with gatt := g }
  | saved {g : Gatt} : Closes d.gatt g →
      Stepped d .disconnected { d with settings := d.settings.save .key, gatt := g }
  | read {t : UInt32} {len offset : Nat} {g : Gatt} : Tells d.gatt g →
      Stepped d (.readTime t len offset) { d with gatt := g }
  | write {ch : Chrc} {t : UInt32} {buf : List UInt8} {d' : Device} : Wrote d ch t buf d' →
      Stepped d (.write ch t buf) d'

theorem step_disconnected_settings (h : d.gatt.updateKeysAtDisconnect = true) :
    (d.step .disconnected).settings = d.settings.save .key := by
  simp [step, handle, disconnected, h]

theorem step_cases : Stepped d e (d.step e) := by
  cases e with
  | connected err =>
    refine .reset trivial ?_
    split <;> exact ⟨rfl, rfl, rfl, le_refl _⟩
  | disconnected =>
    by_cases h : d.gatt.updateKeysAtDisconnect = true
    · have : d.step .disconnected = { d with
          settings := d.settings.save .key
          gatt := { d.gatt with connectedGatt := false, authorizedGatt := false, allowedChange := false,
                                updateKeysAtDisconnect := false } } := by
        simp [step, handle, disconnected, h]
      rw [this]
      exact .saved ⟨rfl, rfl, rfl, le_refl _⟩
    · have : d.step .disconnected = { d with gatt := { d.gatt with
          connectedGatt := false, authorizedGatt := false, allowedChange := false } } := by
        simp [step, handle, disconnected, h]
      rw [this]
      exact .reset trivial ⟨rfl, rfl, rfl, le_refl _⟩
  | recycled => exact .reset trivial ⟨rfl, rfl, rfl, le_refl _⟩
  | startSettingsAdv => exact .reset trivial ⟨rfl, rfl, rfl, Nat.zero_le _⟩
  | readTime t len offset =>
    simp only [step, handle, chrcReadTimeOffset]
    split
    · exact .read ⟨rfl, rfl, id, rfl⟩
    · split
      · exact .read ⟨rfl, rfl, id, rfl⟩
      · exact .read ⟨rfl, rfl, (by nofun), rfl⟩
  | write ch t buf => exact .write attWrite_cases

/-- A setting that no setter of the event touches. -/
theorem step_keeps {α : Type} {f : BeaconConfig → α} (h : ∀ ch t buf, e = .write ch t buf →
    ∀ c s, CalledBy ch s → f (s.apply c) = f c) : f (d.step e).settings.config = f d.settings.config := by
  have hs := step_cases (d := d) (e := e)
  generalize d.step e = d' at hs ⊢
  cases hs with
  | reset | read => rfl
  | saved => rw [SettingsManager.save_config]
  | @write ch t buf _ hw =>
    cases hw with
    | refused | opened | closed | upload => rfl
    | accepted =>
      exact bridge_config (P := fun c => f c = f d.settings.config) rfl
        fun c s hs hc => (h ch t buf rfl c s hs).trans hc

end Device

end Everytag
