import Everytag.Callbacks

/-!
# Configurations stay valid

`BeaconConfig.Valid` is what the validated setters check.  It holds of the defaults, is kept by
every setter and by every read of a load (`valid_loadSteps`), and so by everything that can happen
to the settings of a device: `SettingsOp` lists the setters, saves, loads and bridge functions
together with the events of the GATT layer, and `Device.Sound` holds along every sequence of them.
-/

namespace Everytag

namespace BeaconConfig

structure Valid (c : BeaconConfig) : Prop where
  multPeriod : c.multPeriod = 1 ∨ c.multPeriod = 2 ∨ c.multPeriod = 4 ∨ c.multPeriod = 8
  txPower : c.txPower ≤ 2
  changeInterval : c.changeInterval % 8 = 0 ∧ 32 ≤ c.changeInterval ∧ c.changeInterval ≤ 7200
  accelThreshold : c.accelThreshold ≤ 16383
  numKeys : c.numKeys.toNat ≤ kMaxKeysInMemory

theorem valid_default : Valid {} := by
  refine ⟨?_, ?_, ?_, ?_, ?_⟩ <;> decide

variable {c : BeaconConfig}

/-! ## Setters -/

theorem Valid.setMultPeriod (h : c.Valid) (v : UInt8) : (c.setMultPeriod v).2.Valid := by
  unfold BeaconConfig.setMultPeriod
  split
  · exact h
  · exact { h with multPeriod := by grind }

theorem Valid.setTxPower (h : c.Valid) (v : UInt8) : (c.setTxPower v).2.Valid := by
  unfold BeaconConfig.setTxPower
  split
  · exact h
  · exact { h with txPower := UInt8.not_lt.1 ‹_› }

theorem aligned_le (v : UInt16) : v - v % 8 ≤ v ∧ (v - v % 8) % 8 = 0 := by
  have h : v.toNat % 8 ≤ v.toNat := Nat.mod_le _ _
  have hle : v % 8 ≤ v := UInt16.le_iff_toNat_le.2 (by simpa using h)
  constructor
  · rw [UInt16.le_iff_toNat_le, UInt16.toNat_sub_of_le _ _ hle]
    omega
  · rw [← UInt16.toNat_inj, UInt16.toNat_mod, UInt16.toNat_sub_of_le _ _ hle]
    show (v.toNat - v.toNat % 8) % 8 = 0
    omega

theorem Valid.setChangeInterval (h : c.Valid) (v : UInt16) : (c.setChangeInterval v).2.Valid := by
  simp only [BeaconConfig.setChangeInterval]
  obtain ⟨hle, hmod⟩ := aligned_le v
  split
  · exact h
  · rename_i hv
    simp only [not_or, UInt16.not_lt, gt_iff_lt] at hv
    exact { h with changeInterval := ⟨hmod, hv.1, UInt16.le_trans hle hv.2⟩ }

theorem Valid.setAccelThreshold (h : c.Valid) (v : UInt16) : (c.setAccelThreshold v).2.Valid := by
  unfold BeaconConfig.setAccelThreshold
  split
  · exact h
  · exact { h with accelThreshold := UInt16.not_lt.1 ‹_› }

theorem Valid.setKeyChunk (h : c.Valid) (keyIdx : Int) (offset : Nat) (data : List UInt8) :
    (c.setKeyChunk keyIdx offset data).Valid := by
  unfold BeaconConfig.setKeyChunk
  split
  · exact { h with }
  · exact h

theorem Valid.setNumKeys (h : c.Valid) (n : UInt8) : (c.setNumKeys n).Valid := by
  unfold BeaconConfig.setNumKeys
  split
  · exact { h with numKeys := ‹_› }
  · exact h

theorem Valid.apply (h : c.Valid) (s : Setter) : (s.apply c).Valid := by
  cases s with
  | multPeriod v => exact h.setMultPeriod v
  | txPower v => exact h.setTxPower v
  | changeInterval v => exact h.setChangeInterval v
  | accelThreshold v => exact h.setAccelThreshold v
  | keyChunk keyIdx offset data => exact h.setKeyChunk keyIdx offset data
  | numKeys n => exact h.setNumKeys n
  | _ => exact { h with }

theorem Valid.foldl_apply (setters : List Setter) (h : c.Valid) :
    (setters.foldl Setter.apply c).Valid := by
  induction setters generalizing c with
  | nil => exact h
  | cons s setters ih => exact ih (h.apply s)

/-! ## Load -/

theorem countKeys_le (keys : KeyRing) : countKeys keys ≤ kMaxKeysInMemory := by
  have := (List.takeWhile_sublist (l := keys.toList) fun k => !isKeyEmpty k).length_le
  simpa [countKeys, kMaxKeysInMemory] using this

theorem Valid.readAndApply (h : c.Valid) (rd : NvsRead) (id : UInt16)
    {setter : BeaconConfig → UInt32 → BeaconConfig} (hs : ∀ v, (setter c v).Valid) :
    (readAndApply rd id setter c).Valid := by
  unfold BeaconConfig.readAndApply
  split
  · exact hs _
  · exact h

theorem Valid.withKeys (h : c.Valid) (keys : KeyRing) {n : UInt8} (hn : n.toNat ≤ kMaxKeysInMemory) :
    Valid { c with keys := keys, numKeys := n } := { h with numKeys := hn }

theorem Valid.loadKeys (h : c.Valid) (rd : NvsRead) : (loadKeys rd c).Valid := by
  simp only [BeaconConfig.loadKeys]
  split
  · refine h.withKeys _ ?_
    rw [UInt8.toNat_ofNat']
    exact (Nat.mod_le _ _).trans (countKeys_le _)
  · exact h.withKeys _ (by decide)

theorem Valid.withFmdnKey (h : c.Valid) (key : FmdnKey) : Valid { c with fmdnKey := key } := { h with }

theorem Valid.loadFmdnKey (h : c.Valid) (rd : NvsRead) : (loadFmdnKey rd c).Valid := by
  rw [BeaconConfig.loadFmdnKey]
  split
  · exact h.withFmdnKey _
  · exact h.withFmdnKey _

/-- Each read of a load keeps validity, whatever the storage answers. -/
theorem Valid.loadStep (h : c.Valid) (rd : NvsRead) : ∀ f ∈ loadSteps rd, (f c).Valid := by
  simp only [loadSteps, List.forall_mem_cons]
  refine ⟨{ h with }, { h with }, { h with }, ?_, ?_, ?_, ?_, ?_, ?_, { h with }, { h with },
    h.loadKeys rd, h.loadFmdnKey rd, List.forall_mem_nil _⟩
  · exact h.readAndApply rd _ fun v => h.setMultPeriod _
  · exact h.readAndApply rd _ fun v => h.setTxPower _
  · exact h.readAndApply rd _ fun v => h.setChangeInterval _
  · exact h.readAndApply rd _ fun v => { h with }
  · exact h.readAndApply rd _ fun v => h.setAccelThreshold _
  · split
    · exact { h with }
    · exact h

theorem Valid.foldl {fs : List (BeaconConfig → BeaconConfig)} (hfs : ∀ f ∈ fs, ∀ c, Valid c → (f c).Valid)
    (h : c.Valid) : (fs.foldl (fun c f => f c) c).Valid := by
  induction fs generalizing c with
  | nil => exact h
  | cons f fs ih =>
    exact ih (fun g hg => hfs g (List.mem_cons_of_mem _ hg)) (hfs f List.mem_cons_self c h)

/-- A load is valid after each of its reads. -/
theorem valid_loadSteps (rd : NvsRead) (n : Nat) :
    (((loadSteps rd).take n).foldl (fun c f => f c) {} : BeaconConfig).Valid :=
  Valid.foldl (fun f hf _ hc => hc.loadStep rd f (List.mem_of_mem_take hf)) valid_default

theorem valid_load (rd : NvsRead) : (load rd).Valid := valid_loadSteps rd 13

end BeaconConfig

/-! ## Whatever happens to the settings -/

/-- Everything that touches the settings: the methods of `SettingsManager`, the bridge functions
called with any buffer, and the events of the GATT layer. -/
inductive SettingsOp
  | setter (s : BeaconConfig.Setter)
  | saveField (fieldId : UInt16)
  | saveTime (uptimeSec : UInt32)
  | load (rd : NvsRead)
  | bridge (ch : Chrc) (uptimeSec : UInt32) (buf : List UInt8)
  | flushKeys
  | event (e : GattEvent)

namespace Device

def apply (d : Device) : SettingsOp → Device
  | .setter s => { d with settings := { d.settings with config := s.apply d.settings.config } }
  | .saveField fieldId => { d with settings := (d.settings.saveField fieldId).2 }
  | .saveTime uptimeSec => { d with settings := d.settings.saveTime uptimeSec }
  | .load rd => { d with settings := { d.settings with config := BeaconConfig.load rd } }
  | .bridge ch uptimeSec buf => d.bridge uptimeSec buf ch
  | .flushKeys => { d with settings := (handleKey d.settings d.gatt.keysReceived none).2 }
  | .event e => d.step e

/-- The configuration is valid and no more chunks are counted than the ring has halves. -/
structure Sound (d : Device) : Prop where
  valid : d.settings.config.Valid
  keysReceived : d.gatt.keysReceived ≤ 2 * kMaxKeysInMemory

variable {d : Device}

theorem Sound.bridge (h : d.Sound) (uptimeSec : UInt32) (buf : List UInt8) (ch : Chrc) :
    (d.bridge uptimeSec buf ch).Sound :=
  ⟨bridge_config h.valid fun _ s _ hc => hc.apply s, by rw [bridge_gatt]; exact h.keysReceived⟩

theorem Sound.wrote {ch : Chrc} {t : UInt32} {buf : List UInt8} {d' : Device} (h : d.Sound)
    (hw : Wrote d ch t buf d') : d'.Sound := by
  cases hw with
  | refused => exact h
  | opened | closed | upload => exact ⟨h.valid, h.keysReceived⟩
  | @accepted g _ _ hacc =>
    refine ⟨(h.bridge t buf ch).valid, ?_⟩
    show g.keysReceived ≤ _
    have := h.keysReceived
    rcases hacc.keysReceived with he | ⟨-, -, hlt, he⟩
    · omega
    · omega

theorem Sound.step (h : d.Sound) (e : GattEvent) : (d.step e).Sound := by
  have hs := step_cases (d := d) (e := e)
  generalize d.step e = d' at hs ⊢
  cases hs with
  | reset _ hg => exact ⟨h.valid, hg.keysReceived.trans h.keysReceived⟩
  | saved hg =>
    exact ⟨by rw [SettingsManager.save_config]; exact h.valid, hg.keysReceived.trans h.keysReceived⟩
  | read hg => exact ⟨h.valid, hg.keysReceived.le.trans h.keysReceived⟩
  | write hw => exact h.wrote hw

/-- What one operation does keeps the device sound. -/
theorem Sound.apply (h : d.Sound) (op : SettingsOp) : (d.apply op).Sound := by
  cases op with
  | setter s => exact ⟨h.valid.apply s, h.keysReceived⟩
  | saveField fieldId =>
    refine ⟨?_, h.keysReceived⟩
    rw [Device.apply, SettingsManager.saveField_config]
    exact h.valid
  | saveTime uptimeSec => exact ⟨h.valid, h.keysReceived⟩
  | load rd => exact ⟨BeaconConfig.valid_load rd, h.keysReceived⟩
  | bridge ch uptimeSec buf => exact h.bridge uptimeSec buf ch
  | flushKeys =>
    exact ⟨by rw [Device.apply, handleKey_none, SettingsManager.save_config]; exact h.valid, h.keysReceived⟩
  | event e => exact h.step e

/-- And so does any sequence of operations. -/
theorem Sound.foldl_apply (h : d.Sound) (ops : List SettingsOp) : (ops.foldl Device.apply d).Sound := by
  induction ops generalizing d with
  | nil => exact h
  | cons op ops ih => exact ih (h.apply op)

end Device

end Everytag
