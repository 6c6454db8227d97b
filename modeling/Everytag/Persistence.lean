import Everytag.Validity

/-!
# Settings survive a restart

Saving writes the record of one field (`saveFields_find`), a load reads each record back, and what a
field's encoder wrote its decoder and its validator take unchanged (`load_of_find`).  The number of
keys has no record of its own: a load counts the keys in front of the first empty one.
-/

namespace Everytag

open Bytes

namespace BeaconConfig

variable {c : BeaconConfig}

/-! ## Encoders and decoders -/

@[simp] theorem length_intBytes (v : UInt32) : (intBytes v).length = 4 := length_leBytes 4 _

@[simp] theorem readInt_intBytes (v : UInt32) : readInt (intBytes v) = v := by
  have hv : v.toNat < 256 ^ 4 := v.toNat_lt
  rw [readInt, List.take_of_length_le (by simp), intBytes, leNat_leBytes 4 _ hv, UInt32.ofNat_toNat]

@[simp] theorem readInt64_leBytes (v : Int64) : readInt64 (leBytes 8 v.toUInt64.toNat) = v := by
  have hv : v.toUInt64.toNat < 256 ^ 8 := v.toUInt64.toNat_lt
  rw [readInt64, List.take_of_length_le (by simp), leNat_leBytes 8 _ hv, UInt64.ofNat_toNat]
  simp

section Read

variable {n : Nvs} {i : UInt16}

theorem readBool_of_find {b : Bool} (h : n.find i = some (boolBytes b)) (dest : Bool) :
    readBool n.read i dest = b := by
  have hr : n.read i 4 = ((4 : Int), boolBytes b) := by simpa [boolBytes] using Nvs.read_of_find h
  rw [readBool, hr, boolBytes, readInt_intBytes]
  cases b <;> simp

theorem readAndApply_of_find {v : UInt32} (h : n.find i = some (intBytes v))
    (setter : BeaconConfig → UInt32 → BeaconConfig) : readAndApply n.read i setter c = setter c v := by
  have hr : n.read i 4 = ((4 : Int), intBytes v) := by simpa using Nvs.read_of_find h
  simp [readAndApply, hr]

theorem read_vector_of_find {len : Nat} {v : Vector UInt8 len} (h : n.find i = some v.toList) :
    n.read i len = ((len : Int), v.toList) := by
  simpa using Nvs.read_of_find h

theorem read_keys_of_find {keys : KeyRing} (h : n.find i = some (flat keys)) :
    n.read i 1120 = ((1120 : Int), flat keys) := by
  simpa using Nvs.read_of_find h

end Read

theorem setMultPeriod_of_valid (h : c.Valid) (c' : BeaconConfig) :
    (c'.setMultPeriod c.multPeriod).2 = { c' with multPeriod := c.multPeriod } := by
  rcases h.multPeriod with h | h | h | h <;> simp [setMultPeriod, h]

theorem setTxPower_of_valid (h : c.Valid) (c' : BeaconConfig) :
    (c'.setTxPower c.txPower).2 = { c' with txPower := c.txPower } := by
  simp [setTxPower, UInt8.not_lt.2 h.txPower]

theorem setChangeInterval_of_valid (h : c.Valid) (c' : BeaconConfig) :
    (c'.setChangeInterval c.changeInterval).2 = { c' with changeInterval := c.changeInterval } := by
  obtain ⟨hmod, hlo, hhi⟩ := h.changeInterval
  simp [setChangeInterval, hmod, UInt16.not_lt.2 hlo, UInt16.not_lt.2 hhi]

theorem setAccelThreshold_of_valid (h : c.Valid) (c' : BeaconConfig) :
    (c'.setAccelThreshold c.accelThreshold).2 = { c' with accelThreshold := c.accelThreshold } := by
  simp [setAccelThreshold, UInt16.not_lt.2 h.accelThreshold]

/-- The ring and its count depend on the key record alone. -/
theorem load_keys_of_find {n : Nvs} {keys : KeyRing} (h : n.find NvsFieldId.key.id = some (flat keys)) :
    (load n.read).keys = keys ∧ (load n.read).numKeys = UInt8.ofNat (countKeys keys) := by
  have hring := apply_loadFmdnKey (f := BeaconConfig.keys) (fun _ _ => rfl) n.read
  have hcount := apply_loadFmdnKey (f := BeaconConfig.numKeys) (fun _ _ => rfl) n.read
  simp only [load, loadSteps, List.foldl_cons, List.foldl_nil, hring, hcount]
  simp [loadKeys, read_keys_of_find h]

/-- A load of storage that holds the records of `c` gives `c`, with the keys counted. -/
theorem load_of_find {n : Nvs} (h : c.Valid) (hn : ∀ f : NvsFieldId, n.find f.id = some (c.fieldBytes f)) :
    load n.read = { c with numKeys := UInt8.ofNat (countKeys c.keys) } := by
  have htime : n.read NvsFieldId.timeOffset.id 8 = ((8 : Int), leBytes 8 c.timeOffset.toUInt64.toNat) := by
    simpa [fieldBytes] using Nvs.read_of_find (hn .timeOffset)
  simp [load, loadSteps, readBool_of_find (hn .fmdn), readBool_of_find (hn .airtag),
    readBool_of_find (hn .turnedOn), readAndApply_of_find (hn .period),
    readAndApply_of_find (hn .power), readAndApply_of_find (hn .changeInterval),
    readAndApply_of_find (hn .status), readAndApply_of_find (hn .accel), htime,
    read_vector_of_find (hn .settingsMac), read_vector_of_find (hn .auth), loadKeys,
    read_keys_of_find (hn .key), loadFmdnKey, read_vector_of_find (hn .fmdnKey),
    setMultPeriod_of_valid h, setTxPower_of_valid h, setChangeInterval_of_valid h,
    setAccelThreshold_of_valid h, setStatusFlags]

end BeaconConfig

namespace SettingsManager

/-- `save_field` called for each of the ids. -/
def saveFields (m : SettingsManager) (ids : List UInt16) : SettingsManager :=
  ids.foldl (fun m i => (m.saveField i).2) m

theorem saveField_find_of_ne (m : SettingsManager) {i j : UInt16} (h : j ≠ i) :
    (m.saveField i).2.nvs.find j = m.nvs.find j := by
  unfold saveField
  split
  · rw [Nvs.find_write, if_neg h]
  · rfl

theorem saveField_of_unknown (m : SettingsManager) {i : UInt16} (h : NvsFieldId.ofId? i = none) :
    m.saveField i = (-1, m) := by
  simp [saveField, h]

/-- A record that was saved once holds the field, however the saves are ordered or repeated. -/
theorem saveFields_find (m : SettingsManager) {ids : List UInt16} {f : NvsFieldId}
    (h : f.id ∈ ids ∨ m.nvs.find f.id = some (m.config.fieldBytes f)) :
    (m.saveFields ids).nvs.find f.id = some (m.config.fieldBytes f) := by
  induction ids generalizing m with
  | nil => simpa [saveFields] using h
  | cons i ids ih =>
    have hc : (m.saveField i).2.config = m.config := saveField_config m i
    rw [← hc]
    apply ih
    by_cases hi : i = f.id
    · subst hi
      right
      rw [hc]
      simpa [save] using find_save m f f
    · rw [hc, saveField_find_of_ne m (Ne.symm hi)]
      exact h.imp (fun h => (List.mem_cons.1 h).resolve_left (Ne.symm hi)) id

end SettingsManager

/-- Whatever configuration a load and any setters leave, once all thirteen fields are saved, in any
order and among any other saves, a fresh manager on the same storage loads it back; the number of
keys becomes the number of keys in front of the first empty one.  One save touches one record. -/
theorem settings_survive_restart (rd : NvsRead) (setters : List BeaconConfig.Setter) (nvs : Nvs)
    (ids : List UInt16) (hids : ∀ f : NvsFieldId, f.id ∈ ids) :
    let c := setters.foldl BeaconConfig.Setter.apply (BeaconConfig.load rd)
    let m : SettingsManager := ⟨c, nvs⟩
    let fresh : SettingsManager := SettingsManager.load ⟨{}, (m.saveFields ids).nvs⟩
    { fresh.config with numKeys := c.numKeys } = c ∧
    fresh.config.numKeys.toNat = BeaconConfig.countKeys c.keys ∧
    (∀ i j : UInt16, j ≠ i → (m.saveField i).2.nvs.find j = m.nvs.find j) ∧
    ∀ i : UInt16, NvsFieldId.ofId? i = none → (m.saveField i).2 = m := by
  intro c m fresh
  have hv : c.Valid := BeaconConfig.Valid.foldl_apply setters (BeaconConfig.valid_load rd)
  have hfind := fun f : NvsFieldId => m.saveFields_find (.inl (hids f))
  have hload : fresh.config = { c with numKeys := UInt8.ofNat (BeaconConfig.countKeys c.keys) } :=
    BeaconConfig.load_of_find hv hfind
  refine ⟨?_, ?_, fun i j h => m.saveField_find_of_ne h, fun i h => ?_⟩
  · rw [hload]
  · have := BeaconConfig.countKeys_le c.keys
    rw [hload]
    simp only [kMaxKeysInMemory, UInt8.toNat_ofNat'] at this ⊢
    omega
  · rw [m.saveField_of_unknown h]

/-- A device that starts on erased flash and is told to wake every eight seconds still does so after a
restart. -/
theorem settings_survive_restart_erased :
    let m : SettingsManager := ⟨[BeaconConfig.Setter.multPeriod 8].foldl BeaconConfig.Setter.apply
      (BeaconConfig.load Nvs.erased.read), .erased⟩
    let saved := (m.saveFields (NvsFieldId.all.map NvsFieldId.id)).nvs
    m.config.multPeriod = 8 ∧
      { BeaconConfig.load saved.read with numKeys := m.config.numKeys } = m.config :=
  ⟨by decide, (settings_survive_restart Nvs.erased.read [.multPeriod 8] .erased
    (NvsFieldId.all.map NvsFieldId.id) fun f => List.mem_map_of_mem f.mem_all).1⟩

end Everytag
