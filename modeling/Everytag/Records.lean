import Everytag.Firmware

/-!
# Who writes which record

The bridge function of a write request saves the record of its own setting (`Chrc.record`).  The ring of
keys is saved by a disconnection alone, and the record of `turned_on` only by the main loop
(`step_find`, `Serves.find`).  A load reads each setting from its own record (`apply_integerReads`).
-/

namespace Everytag

open BeaconConfig

/-- The record that the bridge function of a characteristic saves. -/
def Chrc.record : Chrc → Option NvsFieldId
  | .auth | .key => none
  | .period => some .period
  | .fmdn => some .fmdn
  | .airtag => some .airtag
  | .changeInterval => some .changeInterval
  | .txPower => some .power
  | .fmdnKey => some .fmdnKey
  | .timeOffset => some .timeOffset
  | .settingsMac => some .settingsMac
  | .status => some .status
  | .accel => some .accel

section

variable {m : SettingsManager} {buf : List UInt8} {f g : NvsFieldId}

theorem SettingsManager.find_save_of_ne (h : g ≠ f) : (m.save f).nvs.find g.id = m.nvs.find g.id := by
  rw [find_save, if_neg h]

theorem handleInt_find {spec : GattFieldSpec} {setter : BeaconConfig → Int → BeaconConfig} (h : g ≠ f) :
    (handleInt f spec setter m buf).2.nvs.find g.id = m.nvs.find g.id := by
  unfold handleInt
  split
  · exact SettingsManager.find_save_of_ne h
  · rfl

theorem handleFlag_find {setter : BeaconConfig → Bool → BeaconConfig} (h : g ≠ f) :
    (handleFlag f setter m buf).2.nvs.find g.id = m.nvs.find g.id := by
  unfold handleFlag
  split
  · rfl
  · exact SettingsManager.find_save_of_ne h

theorem handleBlock_find {len : Nat} {setter : BeaconConfig → List UInt8 → BeaconConfig} (h : g ≠ f) :
    (handleBlock f len setter m buf).2.nvs.find g.id = m.nvs.find g.id := by
  unfold handleBlock
  split
  · rfl
  · exact SettingsManager.find_save_of_ne h

theorem handleKey_find {k : Nat} : (handleKey m k (some buf)).2.nvs = m.nvs := by
  simp only [handleKey]
  split
  · rfl
  · split <;> rfl

end

namespace Device

variable {d d' : Device} {g : NvsFieldId}

theorem bridge_find {ch : Chrc} {t : UInt32} {buf : List UInt8} (h : ch.record ≠ some g) :
    (d.bridge t buf ch).settings.nvs.find g.id = d.settings.nvs.find g.id := by
  have hne {f : NvsFieldId} (hf : ch.record = some f) : g ≠ f := fun hg => h (hg ▸ hf)
  cases ch with
  | auth => rfl
  | key => rw [bridge, handleKey_find]
  | period | changeInterval | txPower => exact handleInt_find (hne rfl)
  | fmdn | airtag => exact handleFlag_find (hne rfl)
  | fmdnKey | timeOffset | settingsMac | status => exact handleBlock_find (hne rfl)
  | accel =>
    simp only [bridge, handleAccel]
    split
    · exact SettingsManager.find_save_of_ne (hne rfl)
    · rfl

/-- A record that the event does not save. -/
theorem step_find {e : GattEvent} (h : ∀ ch t buf, e = .write ch t buf → ch.record ≠ some g)
    (hkey : g = .key → e = .disconnected → d.gatt.updateKeysAtDisconnect = false) :
    (d.step e).settings.nvs.find g.id = d.settings.nvs.find g.id := by
  have hs := step_cases (d := d) (e := e)
  cases e with
  | disconnected =>
    by_cases hu : d.gatt.updateKeysAtDisconnect = true
    · rw [step_disconnected_settings hu]
      exact SettingsManager.find_save_of_ne fun hg => by simp [hkey hg rfl] at hu
    · simp [step, handle, disconnected, hu]
  | write ch t buf =>
    generalize d.step (.write ch t buf) = d' at hs ⊢
    cases hs with
    | reset he => exact he.elim
    | write hw =>
      cases hw with
      | refused | opened | closed | upload => rfl
      | accepted => exact bridge_find (h ch t buf rfl)
  | connected | recycled | startSettingsAdv | readTime =>
    generalize d.step _ = d' at hs ⊢
    cases hs <;> rfl

theorem find_storeTime (t : UInt32) (h : g ≠ .timeOffset) :
    (d.storeTime t).settings.nvs.find g.id = d.settings.nvs.find g.id := by
  simp [storeTime, SettingsManager.saveTime, h]

theorem find_foldl_storeTime (ts : List UInt32) (h : g ≠ .timeOffset) :
    (ts.foldl storeTime d).settings.nvs.find g.id = d.settings.nvs.find g.id := by
  induction ts generalizing d with
  | nil => rfl
  | cons t ts ih => exact ih.trans (find_storeTime t h)

/-- The main loop saves the clock and `turned_on`. -/
theorem Serves.find {c : Call} {a : c.Ans} (hs : d.Serves c a d') (htime : g ≠ .timeOffset)
    (hon : g = .turnedOn → ∀ on, c ≠ .updateTurnedOn on) :
    d'.settings.nvs.find g.id = d.settings.nvs.find g.id := by
  cases c with
  | config | configKey | glueSyncGattState =>
    obtain ⟨-, rfl⟩ := hs
    rfl
  | updateTurnedOn on =>
    cases hs
    exact SettingsManager.find_save_of_ne fun hg => hon hg on rfl
  | storeTime =>
    obtain ⟨t, rfl⟩ := hs
    exact find_storeTime t htime
  | reboot =>
    obtain ⟨ts, rfl⟩ := hs
    exact find_foldl_storeTime ts htime
  | _ => cases hs; rfl

end Device

/-! ## Loading -/

namespace BeaconConfig

/-- What the setter keeps, the read keeps. -/
theorem apply_readAndApply {α : Type} {f : BeaconConfig → α} {setter : BeaconConfig → UInt32 → BeaconConfig}
    (h : ∀ c v, f (setter c v) = f c) (rd : NvsRead) (id : UInt16) (c : BeaconConfig) :
    f (readAndApply rd id setter c) = f c := by
  unfold readAndApply
  split
  · exact h c _
  · rfl

/-- What the setters of the bridge functions keep, the five integer reads of a load keep. -/
theorem apply_integerReads {α : Type} {f : BeaconConfig → α}
    (h : ∀ c s ch, CalledBy ch s → ch ≠ .key → f (Setter.apply c s) = f c) (rd : NvsRead) :
    (∀ c, f (readAndApply rd NvsFieldId.period.id (fun c v => (c.setMultPeriod v.toUInt8).2) c) = f c) ∧
    (∀ c, f (readAndApply rd NvsFieldId.power.id (fun c v => (c.setTxPower v.toUInt8).2) c) = f c) ∧
    (∀ c, f (readAndApply rd NvsFieldId.changeInterval.id
      (fun c v => (c.setChangeInterval v.toUInt16).2) c) = f c) ∧
    (∀ c, f (readAndApply rd NvsFieldId.status.id (fun c v => c.setStatusFlags v) c) = f c) ∧
    ∀ c, f (readAndApply rd NvsFieldId.accel.id (fun c v => (c.setAccelThreshold v.toUInt16).2) c) = f c :=
  ⟨apply_readAndApply (fun c v => h c (.multPeriod v.toUInt8) .period trivial (by decide)) rd _,
    apply_readAndApply (fun c v => h c (.txPower v.toUInt8) .txPower trivial (by decide)) rd _,
    apply_readAndApply (fun c v => h c (.changeInterval v.toUInt16) .changeInterval trivial (by decide)) rd _,
    apply_readAndApply (fun c v => h c (.statusFlags v) .status trivial (by decide)) rd _,
    apply_readAndApply (fun c v => h c (.accelThreshold v.toUInt16) .accel trivial (by decide)) rd _⟩

end BeaconConfig

end Everytag
