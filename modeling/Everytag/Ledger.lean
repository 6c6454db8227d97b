import Everytag.Lib.Registers
import Everytag.Scalars
import Everytag.Client

/-!
# The ledger of settings

Every setting is a register of the device, named by its record: `fieldBytes` reads it in memory, and
`fieldBytes` of a load reads it in flash.  A load fills each register from its own record
(`fieldBytes_load_congr`).  An accepted write request changes the register of its characteristic, by the
value that the payload stands for (`Chrc.requested`), and saves it.  The ten lasting settings are those that
nothing else changes.  So over any number of lifetimes, each of them ended by a loss of power at any moment,
such a setting is the last value accepted, in memory and in flash (`settings_are_last_accepted`).
-/

namespace Everytag

open Bytes BeaconConfig Interaction Registers StateMachine

/-! ## A load, record by record -/

namespace BeaconConfig

/-- The read of a field in a load. -/
def loadStep (rd : NvsRead) (c : BeaconConfig) : NvsFieldId → BeaconConfig
  | .fmdn => { c with flagFmdn := readBool rd NvsFieldId.fmdn.id c.flagFmdn }
  | .airtag => { c with flagAirtag := readBool rd NvsFieldId.airtag.id c.flagAirtag }
  | .turnedOn => { c with turnedOn := readBool rd NvsFieldId.turnedOn.id c.turnedOn }
  | .period => Scalar.period.read rd c
  | .power => Scalar.power.read rd c
  | .changeInterval => Scalar.changeInterval.read rd c
  | .accel => Scalar.accel.read rd c
  | .status => readAndApply rd NvsFieldId.status.id (fun c v => c.setStatusFlags v) c
  | .timeOffset =>
    let r := rd NvsFieldId.timeOffset.id 8
    if r.1 > 0 then { c with timeOffset := readInt64 r.2 } else c
  | .settingsMac => { c with settingsMac := overlay c.settingsMac (rd NvsFieldId.settingsMac.id 6).2 }
  | .auth => { c with authCode := overlay c.authCode (rd NvsFieldId.auth.id 8).2 }
  | .key => loadKeys rd c
  | .fmdnKey => loadFmdnKey rd c

/-- The order of the reads. -/
def loadOrder : List NvsFieldId :=
  [.fmdn, .airtag, .turnedOn, .period, .power, .changeInterval, .status, .accel, .timeOffset,
    .settingsMac, .auth, .key, .fmdnKey]

theorem load_eq_foldl (rd : NvsRead) : load rd = loadOrder.foldl (loadStep rd) {} := rfl

variable {rd rd' : NvsRead} {c c' : BeaconConfig} {f g : NvsFieldId}

/-! Records tell fields apart. -/

theorem intBytes_injective {v w : UInt32} (h : intBytes v = intBytes w) : v = w := by
  rw [← readInt_intBytes v, h, readInt_intBytes]

theorem boolBytes_injective {a b : Bool} (h : boolBytes a = boolBytes b) : a = b := by
  revert h
  cases a <;> cases b <;> decide

theorem flat_injective {k l : KeyRing} (h : flat k = flat l) : k = l := by
  rw [← overlayRows_flat k k, h, overlayRows_flat]

theorem fieldBytes_scalar_own (s : Scalar) (h : c.fieldBytes s.record = c'.fieldBytes s.record) :
    (s.read rd c).fieldBytes s.record = (s.read rd c').fieldBytes s.record := by
  simp only [Scalar.fieldBytes_record, Scalar.field_read] at h ⊢
  split
  · rfl
  · exact h

theorem fieldBytes_scalar_other (s : Scalar) (hf : f ≠ s.record) :
    (s.read rd c).fieldBytes f = c.fieldBytes f := by
  refine apply_readAndApply (f := fun c => c.fieldBytes f) (fun c v => ?_) rd _ c
  cases s with
  | period => simp only [Scalar.setter, setMultPeriod]; split <;> cases f <;> first | rfl | exact absurd rfl hf
  | power => simp only [Scalar.setter, setTxPower]; split <;> cases f <;> first | rfl | exact absurd rfl hf
  | changeInterval =>
    simp only [Scalar.setter, setChangeInterval]; split <;> cases f <;> first | rfl | exact absurd rfl hf
  | accel =>
    simp only [Scalar.setter, setAccelThreshold]; split <;> cases f <;> first | rfl | exact absurd rfl hf

/-- A read sees no more of the configuration than its own field. -/
theorem fieldBytes_loadStep_own (h : c.fieldBytes f = c'.fieldBytes f) :
    (loadStep rd c f).fieldBytes f = (loadStep rd c' f).fieldBytes f := by
  cases f with
  | period => exact fieldBytes_scalar_own .period h
  | power => exact fieldBytes_scalar_own .power h
  | changeInterval => exact fieldBytes_scalar_own .changeInterval h
  | accel => exact fieldBytes_scalar_own .accel h
  | fmdn | airtag | turnedOn =>
    simp only [fieldBytes, loadStep] at h ⊢
    rw [boolBytes_injective h]
  | status =>
    simp only [fieldBytes, loadStep, readAndApply] at h ⊢
    split
    · rfl
    · exact h
  | timeOffset =>
    simp only [fieldBytes, loadStep] at h ⊢
    split
    · rfl
    · exact h
  | settingsMac | auth =>
    simp only [fieldBytes, loadStep] at h ⊢
    rw [Vector.toList_inj.1 h]
  | key =>
    simp only [fieldBytes, loadStep, loadKeys_keys] at h ⊢
    rw [flat_injective h]
  | fmdnKey =>
    simp only [fieldBytes, loadStep] at h ⊢
    rw [loadFmdnKey, loadFmdnKey]
    split
    · rfl
    · rw [Vector.toList_inj.1 h]

/-- It writes no other field. -/
theorem fieldBytes_loadStep_other (h : g ≠ f) : (loadStep rd c g).fieldBytes f = c.fieldBytes f := by
  cases g with
  | period => exact fieldBytes_scalar_other .period h.symm
  | power => exact fieldBytes_scalar_other .power h.symm
  | changeInterval => exact fieldBytes_scalar_other .changeInterval h.symm
  | accel => exact fieldBytes_scalar_other .accel h.symm
  | key =>
    refine apply_loadKeys (f := fun c => c.fieldBytes f) (fun c keys n => ?_) rd c
    cases f <;> first | rfl | exact absurd rfl h
  | fmdnKey =>
    refine apply_loadFmdnKey (f := fun c => c.fieldBytes f) (fun c key => ?_) rd c
    cases f <;> first | rfl | exact absurd rfl h
  | status =>
    refine apply_readAndApply (f := fun c => c.fieldBytes f) (fun c v => ?_) rd _ c
    cases f <;> first | rfl | exact absurd rfl h
  | timeOffset =>
    simp only [loadStep]
    split <;> cases f <;> first | rfl | exact absurd rfl h
  | _ => cases f <;> first | rfl | exact absurd rfl h

theorem loadStep_register (rd : NvsRead) (f : NvsFieldId) :
    Register (loadStep rd) id f fun c => c.fieldBytes f where
  own ha h := by
    subst ha
    exact fieldBytes_loadStep_own h
  other h := fieldBytes_loadStep_other h

theorem readAndApply_congr {id : UInt16} (h : ∀ len, rd id len = rd' id len)
    (setter : BeaconConfig → UInt32 → BeaconConfig) (c : BeaconConfig) :
    readAndApply rd id setter c = readAndApply rd' id setter c := by
  rw [readAndApply, readAndApply, h]

/-- Two storages that answer alike for the record. -/
theorem loadStep_congr (h : ∀ len, rd f.id len = rd' f.id len) : loadStep rd c f = loadStep rd' c f := by
  cases f with
  | period | power | changeInterval | accel | status => exact readAndApply_congr h _ c
  | fmdn | airtag | turnedOn => simp only [loadStep, readBool, h]
  | timeOffset | settingsMac | auth => simp only [loadStep, h]
  | key => simp only [loadStep, loadKeys, h]
  | fmdnKey => simp only [loadStep, loadFmdnKey, h]

/-- A load fills a field from the record of that field. -/
theorem fieldBytes_load_congr (h : ∀ len, rd f.id len = rd' f.id len) :
    (load rd).fieldBytes f = (load rd').fieldBytes f := by
  rw [load_eq_foldl, load_eq_foldl]
  refine (loadStep_register rd f).get_foldl_congr (loadStep_register rd' f) (fun c g hg => ?_) rfl
  obtain rfl : g = f := hg
  rw [loadStep_congr h]

theorem fieldBytes_load_of_find_eq {n n' : Nvs} (h : n.find f.id = n'.find f.id) :
    (load n.read).fieldBytes f = (load n'.read).fieldBytes f :=
  fieldBytes_load_congr fun len => by simp only [Nvs.read, h]

/-- A record that was saved loads as it was. -/
theorem fieldBytes_load_of_saved {n : Nvs} (hc : c.Valid) (h : n.find f.id = some (c.fieldBytes f)) :
    (load n.read).fieldBytes f = c.fieldBytes f := by
  have hall (g : NvsFieldId) := SettingsManager.saveFields_find ⟨c, n⟩
    (.inl (List.mem_map_of_mem g.mem_all) : g.id ∈ NvsFieldId.all.map NvsFieldId.id ∨ _)
  rw [fieldBytes_load_of_find_eq (h.trans (hall f).symm), load_of_find hc hall]
  cases f <;> rfl

end BeaconConfig

/-! ## Write requests -/

/-- The value of a payload for one of the four integers: a number of the documented range. -/
def Scalar.requested (s : Scalar) (buf : List UInt8) : Option (List UInt8) :=
  if buf.length = 4 ∧ 0 ≤ int32Of buf ∧ s.Documented (int32Of buf).toNat then
    some (intBytes (UInt32.ofNat (s.rounded (int32Of buf).toNat)))
  else none

/-- The value that a payload stands for at a characteristic, as the record of the setting holds it. -/
def Chrc.requested (t : UInt32) (buf : List UInt8) : Chrc → Option (List UInt8)
  | .auth | .key => none
  | .period => Scalar.period.requested buf
  | .txPower => Scalar.power.requested buf
  | .changeInterval => Scalar.changeInterval.requested buf
  | .accel => Scalar.accel.requested buf
  | .fmdn | .airtag => if buf.length = 4 then some (boolBytes (decide (int32Of buf ≠ 0))) else none
  | .fmdnKey => if buf.length = 20 then some buf else none
  | .settingsMac => if buf.length = 6 then some buf else none
  | .status => if buf.length = 4 then some (intBytes (readInt buf)) else none
  | .timeOffset =>
    if buf.length = 8 then some (leBytes 8 (readInt64 buf - t.toUInt64.toInt64).toUInt64.toNat) else none

/-- The bridge function of the characteristic accepts the payload. -/
def Chrc.Saves (buf : List UInt8) : Chrc → Prop
  | .auth | .key => False
  | .period => (validateField buf true periodSpec 0).1 = .ok
  | .txPower => (validateField buf true txPowerSpec 0).1 = .ok
  | .changeInterval => (validateField buf true changeIntervalSpec 0).1 = .ok
  | .accel => (validateField buf true accelSpec 0).1 = .ok
  | .fmdn | .airtag | .status => buf.length = 4
  | .fmdnKey => buf.length = 20
  | .settingsMac => buf.length = 6
  | .timeOffset => buf.length = 8

instance (buf : List UInt8) (ch : Chrc) : Decidable (ch.Saves buf) := by
  cases ch <;> (unfold Chrc.Saves; infer_instance)

/-- The field a setter sets. -/
def BeaconConfig.Setter.field : Setter → Option NvsFieldId
  | .multPeriod _ => some .period
  | .txPower _ => some .power
  | .changeInterval _ => some .changeInterval
  | .statusFlags _ => some .status
  | .accelThreshold _ => some .accel
  | .flagFmdn _ => some .fmdn
  | .flagAirtag _ => some .airtag
  | .turnedOn _ => some .turnedOn
  | .fmdnKey _ => some .fmdnKey
  | .settingsMac _ => some .settingsMac
  | .authCode _ => some .auth
  | .keyChunk .. => some .key
  | .numKeys _ => none
  | .timeOffset .. => some .timeOffset

theorem fieldBytes_apply_of_ne {c : BeaconConfig} {s : Setter} {f : NvsFieldId} (h : s.field ≠ some f) :
    (s.apply c).fieldBytes f = c.fieldBytes f := by
  refine Setter.apply_keeps (f := fun c => c.fieldBytes f) ?_
  cases s <;> cases f <;> first | rfl | exact absurd rfl h

/-- A bridge function calls the setter of its record; chunks set the ring. -/
theorem CalledBy.field {ch : Chrc} {s : Setter} {f : NvsFieldId} (h : CalledBy ch s) (hf : s.field = some f) :
    ch.record = some f ∨ ch = .key ∧ f = .key := by
  cases s <;> cases hf <;> cases ch <;> first | exact h.elim | exact .inl rfl | exact .inr ⟨rfl, rfl⟩

theorem toList_exactly {n : Nat} {old : Vector UInt8 n} {data : List UInt8} (h : data.length = n) :
    (exactly n old data).toList = data := by
  obtain ⟨v, rfl⟩ : ∃ v : Vector UInt8 n, v.toList = data := ⟨⟨data.toArray, by simpa using h⟩, by simp⟩
  rw [exactly, if_pos h, overlay_toList]

/-- A payload with a value for one of the four integers passes its validator. -/
theorem Scalar.saves_of_requested {s : Scalar} {buf : List UInt8} (h : (s.requested buf).isSome = true) :
    (validateField buf true s.spec 0).1 = .ok := by
  unfold Scalar.requested at h
  split at h
  · rename_i hdoc
    obtain ⟨hlen, hpos, hdoc⟩ := hdoc
    refine congrArg Prod.fst (Scalar.validateField_ok.2 ⟨hlen, rfl, ?_⟩)
    cases s <;> (simp only [Scalar.Documented, Scalar.Admitted] at hdoc ⊢; omega)
  · cases h

namespace Device

variable {d : Device} {t : UInt32} {buf : List UInt8} {ch : Chrc} {f : NvsFieldId}

/-- A bridge function changes no other register. -/
theorem fieldBytes_bridge_other (h : ch.record ≠ some f) (hkey : ch = .key → f ≠ .key) :
    (d.bridge t buf ch).settings.config.fieldBytes f = d.settings.config.fieldBytes f := by
  refine bridge_config (P := fun c => c.fieldBytes f = d.settings.config.fieldBytes f) rfl fun c s hs hc => ?_
  refine (fieldBytes_apply_of_ne fun hf => ?_).trans hc
  rcases hs.field hf with hr | ⟨hch, hk⟩
  · exact h hr
  · exact hkey hch hk

theorem fieldBytes_bridge_scalar (s : Scalar) :
    (d.bridge t buf s.chrc).settings.config.fieldBytes s.record =
      (s.requested buf).getD (d.settings.config.fieldBytes s.record) := by
  by_cases hr : (validateField buf true s.spec 0).1 = .ok
  · obtain ⟨v, hv⟩ : ∃ v, validateField buf true s.spec 0 = (.ok, v) := ⟨_, Prod.ext hr rfl⟩
    obtain ⟨hlen, rfl, hadm⟩ := Scalar.validateField_ok.1 hv
    obtain ⟨n, hn⟩ := Int.eq_ofNat_of_zero_le hadm.nonneg
    rw [hn] at hv hadm
    have hn' : (UInt32.ofNat n).toNat % 2 ^ s.width = n := by
      rw [UInt32.toNat_ofNat']
      cases s <;> (simp only [Scalar.Admitted, Scalar.width] at hadm ⊢; omega)
    rw [Scalar.bridge_of_ok hv, SettingsManager.save_config, Scalar.fieldBytes_record, Scalar.field_setter, hn',
      Scalar.requested, hn]
    by_cases hdoc : s.Documented n
    · simp [hdoc, hlen]
    · simp [hdoc, Scalar.fieldBytes_record]
  · have hnone : s.requested buf = none := by
      by_contra hsome
      exact hr (Scalar.saves_of_requested (Option.isSome_iff_ne_none.2 hsome))
    rw [Scalar.bridge_of_refused hr, hnone, Option.getD_none]

/-- The register takes the value that the payload stands for, or keeps its own. -/
theorem fieldBytes_bridge_own (h : ch.record = some f) :
    (d.bridge t buf ch).settings.config.fieldBytes f =
      (ch.requested t buf).getD (d.settings.config.fieldBytes f) := by
  cases ch with
  | auth | key => cases h
  | period => cases h; exact fieldBytes_bridge_scalar .period
  | txPower => cases h; exact fieldBytes_bridge_scalar .power
  | changeInterval => cases h; exact fieldBytes_bridge_scalar .changeInterval
  | accel => cases h; exact fieldBytes_bridge_scalar .accel
  | fmdn | airtag =>
    cases h
    by_cases hlen : buf.length = 4
    · simp [bridge, onSettings, handleFmdn, handleAirtag, handleFlag, Chrc.requested, hlen, fieldBytes,
        setFlagFmdn, setFlagAirtag]
    · simp [bridge, onSettings, handleFmdn, handleAirtag, handleFlag, Chrc.requested, hlen]
  | fmdnKey =>
    cases h
    by_cases hlen : buf.length = 20
    · simp [bridge, onSettings, handleFmdnKey, handleBlock, Chrc.requested, hlen, fieldBytes, setFmdnKey,
        toList_exactly]
    · simp [bridge, onSettings, handleFmdnKey, handleBlock, Chrc.requested, hlen]
  | settingsMac =>
    cases h
    by_cases hlen : buf.length = 6
    · simp [bridge, onSettings, handleSettingsMac, handleBlock, Chrc.requested, hlen, fieldBytes,
        setSettingsMac, toList_exactly]
    · simp [bridge, onSettings, handleSettingsMac, handleBlock, Chrc.requested, hlen]
  | status =>
    cases h
    by_cases hlen : buf.length = 4
    · simp [bridge, onSettings, handleStatus, handleBlock, Chrc.requested, hlen, fieldBytes, setStatusFlags]
    · simp [bridge, onSettings, handleStatus, handleBlock, Chrc.requested, hlen]
  | timeOffset =>
    cases h
    by_cases hlen : buf.length = 8
    · simp [bridge, onSettings, handleTimeOffsetWrite, handleBlock, Chrc.requested, hlen, fieldBytes,
        updateTimeOffset]
    · simp [bridge, onSettings, handleTimeOffsetWrite, handleBlock, Chrc.requested, hlen]

/-- A payload with which the bridge function gets as far as the save; it does nothing with any other. -/
theorem bridge_saves (d : Device) (t : UInt32) (buf : List UInt8) (h : ch.record = some f) :
    if ch.Saves buf then ∃ c, (d.bridge t buf ch).settings = { d.settings with config := c }.save f
    else (d.bridge t buf ch).settings = d.settings := by
  have hint {sp : GattFieldSpec} {set : BeaconConfig → Int → BeaconConfig} :
      if (validateField buf true sp 0).1 = .ok then
        ∃ c, (handleInt f sp set d.settings buf).2 = { d.settings with config := c }.save f
      else (handleInt f sp set d.settings buf).2 = d.settings := by
    split
    · rename_i hok
      exact ⟨_, Scalar.handleInt_of_ok (Prod.ext hok rfl)⟩
    · exact Scalar.handleInt_of_refused ‹_›
  have hflag {set : BeaconConfig → Bool → BeaconConfig} :
      if buf.length = 4 then
        ∃ c, (handleFlag f set d.settings buf).2 = { d.settings with config := c }.save f
      else (handleFlag f set d.settings buf).2 = d.settings := by
    split
    · exact ⟨set d.settings.config (decide (int32Of buf ≠ 0)), by simp [handleFlag, *]⟩
    · simp [handleFlag, *]
  have hblock {len : Nat} {set : BeaconConfig → List UInt8 → BeaconConfig} :
      if buf.length = len then
        ∃ c, (handleBlock f len set d.settings buf).2 = { d.settings with config := c }.save f
      else (handleBlock f len set d.settings buf).2 = d.settings := by
    split
    · exact ⟨set d.settings.config buf, by simp [handleBlock, *]⟩
    · simp [handleBlock, *]
  cases ch with
  | auth | key => cases h
  | period | changeInterval | txPower => cases h; exact hint
  | fmdn | airtag => cases h; exact hflag
  | fmdnKey | timeOffset | settingsMac | status => cases h; exact hblock
  | accel =>
    cases h
    by_cases hok : Chrc.accel.Saves buf
    · have hv : validateField buf true accelSpec 0 = (.ok, _) := Prod.ext hok rfl
      rw [if_pos hok]
      simp only [bridge, handleAccel]
      rw [hv]
      exact ⟨_, rfl⟩
    · rw [if_neg hok]
      exact congrArg Device.settings (Scalar.bridge_of_refused hok : d.bridge t buf Scalar.accel.chrc = d)

/-- The device takes the request: the client has authenticated, and asks for a setting or sends a chunk. -/
def Takes (d : Device) (ch : Chrc) (buf : List UInt8) : Prop :=
  d.gatt.authorizedGatt = true ∧ d.gatt.allowedChange = true ∧ ch ≠ .auth ∧
    ¬ (ch = .status ∧ buf.length = 4 ∧ readInt buf = dfuWord)

instance (d : Device) (ch : Chrc) (buf : List UInt8) : Decidable (d.Takes ch buf) := by
  unfold Takes; infer_instance

theorem gatedWrite_of_allowed {restart : Bool} {fn : Device → List UInt8 → Device}
    (ha : d.gatt.allowedChange = true) : ∃ g, (gatedWrite restart fn d buf).2 = { fn d buf with gatt := g } := by
  simp only [gatedWrite, ha, Bool.not_true, Bool.false_eq_true, if_false]
  exact ⟨_, rfl⟩

theorem gatedWrite_of_closed {restart : Bool} {fn : Device → List UInt8 → Device}
    (ha : d.gatt.allowedChange = false) : (gatedWrite restart fn d buf).2 = d := by
  simp [gatedWrite, ha]

/-- A request that is taken runs the bridge function of its characteristic. -/
theorem attWrite_of_takes (h : d.Takes ch buf) :
    ∃ g, (d.attWrite ch t buf).2 = { d.bridge t buf ch with gatt := g } := by
  obtain ⟨hz, ha, hne, hdfu⟩ := h
  simp only [attWrite, writeAuthorize, hz, Bool.true_or, if_true]
  cases ch with
  | auth => exact absurd rfl hne
  | key =>
    by_cases hr : buf.length ≠ 14 ∨ 2 * kMaxKeysInMemory ≤ d.gatt.keysReceived
    · refine ⟨d.gatt, ?_⟩
      simp [chrcWrite, chrcWriteKey, ha, bridge, handleKey_refused hr]
    · simp only [not_or, not_le, not_not] at hr
      exact ⟨_, chrcWriteKey_snd ha hr.1 hr.2⟩
  | status =>
    have hdfu' : ¬ (buf.length = 4 ∧ readInt buf = dfuWord) := fun hu => hdfu ⟨rfl, hu⟩
    simp only [chrcWrite, chrcWriteStatus, ha, Bool.not_true, Bool.false_eq_true, if_false, hdfu']
    exact gatedWrite_of_allowed ha
  | _ => exact gatedWrite_of_allowed ha

/-- Any other request leaves the settings alone. -/
theorem attWrite_of_not_takes (h : ¬ d.Takes ch buf) : ∃ g, (d.attWrite ch t buf).2 = { d with gatt := g } := by
  by_cases hz : d.writeAuthorize ch = true
  · simp only [attWrite, hz, if_true]
    by_cases hauth : ch = .auth
    · subst hauth
      simp only [chrcWrite, chrcWriteAuth]
      split <;> exact ⟨_, rfl⟩
    · have hz' : d.gatt.authorizedGatt = true := by simpa [writeAuthorize, hauth] using hz
      by_cases ha : d.gatt.allowedChange = true
      · obtain ⟨rfl, hu⟩ : ch = .status ∧ buf.length = 4 ∧ readInt buf = dfuWord := by
          by_contra hu
          exact h ⟨hz', ha, hauth, hu⟩
        simp only [chrcWrite, chrcWriteStatus, ha, Bool.not_true, Bool.false_eq_true, if_false, if_pos hu]
        exact ⟨_, rfl⟩
      · simp only [Bool.not_eq_true] at ha
        refine ⟨d.gatt, ?_⟩
        cases ch with
        | auth => exact absurd rfl hauth
        | key => simp [chrcWrite, chrcWriteKey, ha]
        | status => simp [chrcWrite, chrcWriteStatus, ha]
        | _ => exact gatedWrite_of_closed ha
  · simp only [attWrite, hz, Bool.false_eq_true, if_false]
    exact ⟨_, rfl⟩

end Device

/-! ## Lifetimes -/

/-- A write request that was taken. -/
structure Request where
  chrc : Chrc
  uptime : UInt32
  data : List UInt8
deriving DecidableEq, Repr

/-- What the request asks a field to be. -/
def Request.value (f : NvsFieldId) (r : Request) : Option (List UInt8) :=
  if r.chrc.record = some f then r.chrc.requested r.uptime r.data else none

/-- A device, and the requests it has taken, oldest first. -/
structure Ledger where
  device : Device
  past : List Request

/-- The ledger after an event. -/
def Ledger.event (w : Ledger) (e : GattEvent) : Ledger where
  device := w.device.step e
  past := match e with
    | .write ch t buf => if w.device.Takes ch buf then w.past ++ [⟨ch, t, buf⟩] else w.past
    | _ => w.past

/-- GATT events arrive between the calls of the main loop. -/
def keeping : World Call Call.Ans Ledger where
  allowed _ _ := True
  step w c a w' := w.device.Serves c a w'.device ∧ w'.past = w.past
  move w w' := ∃ e, w' = w.event e

/-- Lifetimes of one device from the flash content `nvs₀`, each of them ended by a loss of power, at any moment:
the flash content they leave, and the requests taken. -/
inductive Lifetimes (nvs₀ : Nvs) : Nvs → List Request → Prop
  | new : Lifetimes nvs₀ nvs₀ []
  | boot {nvs : Nvs} {past : List Request} {p : Main StateMachine} {w : Ledger} : Lifetimes nvs₀ nvs past →
      During keeping (initializeMachine {}) mainLoop (· = ⟨.boot nvs, past⟩) p w →
      Lifetimes nvs₀ w.device.settings.nvs w.past

/-- The next load finds the field as it is now. -/
def SettingsManager.Mirrors (m : SettingsManager) (f : NvsFieldId) : Prop :=
  (BeaconConfig.load m.nvs.read).fieldBytes f = m.config.fieldBytes f

/-- The field is the last value taken, in memory and in flash. -/
structure Kept (nvs₀ : Nvs) (past : List Request) (f : NvsFieldId) (m : SettingsManager) : Prop where
  live : m.config.fieldBytes f = latest (Request.value f) ((load nvs₀.read).fieldBytes f) past
  stored : m.Mirrors f

/-- The ten fields that change by write requests alone: not the ring, which comes in chunks, nor what the main
loop saves by itself. -/
def NvsFieldId.Lasting (f : NvsFieldId) : Prop := f ≠ .key ∧ f ≠ .timeOffset ∧ f ≠ .turnedOn

section

variable {nvs₀ nvs : Nvs} {past : List Request} {f : NvsFieldId} {m m' : SettingsManager} {d : Device}
  {r : Request}

theorem SettingsManager.Mirrors.congr (h : m.Mirrors f) (hc : m'.config.fieldBytes f = m.config.fieldBytes f)
    (hn : m'.nvs.find f.id = m.nvs.find f.id) : m'.Mirrors f :=
  (fieldBytes_load_of_find_eq hn).trans (h.trans hc.symm)

theorem Kept.congr (h : Kept nvs₀ past f m) (hc : m'.config.fieldBytes f = m.config.fieldBytes f)
    (hn : m'.nvs.find f.id = m.nvs.find f.id) : Kept nvs₀ past f m' :=
  ⟨hc.trans h.live, h.stored.congr hc hn⟩

/-- A bridge function sets a field to the value of the request, or leaves it. -/
theorem Device.fieldBytes_bridge (hf : f ≠ .key) :
    (d.bridge r.uptime r.data r.chrc).settings.config.fieldBytes f =
      (r.value f).getD (d.settings.config.fieldBytes f) := by
  by_cases hr : r.chrc.record = some f
  · rw [fieldBytes_bridge_own hr, Request.value, if_pos hr]
  · rw [fieldBytes_bridge_other hr fun _ => hf, Request.value, if_neg hr, Option.getD_none]

/-- What a payload stands for is saved. -/
theorem Chrc.saves_of_requested {ch : Chrc} {t : UInt32} {buf : List UInt8}
    (h : (ch.requested t buf).isSome = true) : ch.Saves buf := by
  cases ch with
  | auth | key => cases h
  | period => exact Scalar.saves_of_requested (s := .period) h
  | txPower => exact Scalar.saves_of_requested (s := .power) h
  | changeInterval => exact Scalar.saves_of_requested (s := .changeInterval) h
  | accel => exact Scalar.saves_of_requested (s := .accel) h
  | _ => simpa [Chrc.requested, Chrc.Saves] using h

theorem Device.mirrors_of_saves (hd : d.Sound) (hr : r.chrc.record = some f) (hs : r.chrc.Saves r.data) :
    (d.bridge r.uptime r.data r.chrc).settings.Mirrors f := by
  have hvalid := (hd.bridge r.uptime r.data r.chrc).valid
  have hsaves := d.bridge_saves r.uptime r.data hr
  rw [if_pos hs] at hsaves
  obtain ⟨c, hc⟩ := hsaves
  rw [hc] at hvalid ⊢
  refine fieldBytes_load_of_saved hvalid ?_
  rw [SettingsManager.find_save, if_pos rfl, SettingsManager.save_config]

/-- A request with a value for a field leaves memory and flash in step, whatever they were. -/
theorem Device.mirrors_of_value (hd : d.Sound) (h : (r.value f).isSome = true) :
    (d.bridge r.uptime r.data r.chrc).settings.Mirrors f := by
  unfold Request.value at h
  split at h
  · exact mirrors_of_saves hd ‹_› (Chrc.saves_of_requested h)
  · cases h

/-- Either they are in step, or the record is as it was. -/
theorem Device.flash_bridge (hd : d.Sound) :
    (d.bridge r.uptime r.data r.chrc).settings.Mirrors f ∨
      (d.bridge r.uptime r.data r.chrc).settings.nvs.find f.id = d.settings.nvs.find f.id := by
  by_cases hr : r.chrc.record = some f
  · by_cases hs : r.chrc.Saves r.data
    · exact .inl (mirrors_of_saves hd hr hs)
    · have hsaves := d.bridge_saves r.uptime r.data hr
      rw [if_neg hs] at hsaves
      exact .inr (by rw [hsaves])
  · exact .inr (bridge_find hr)

theorem Device.mirrors_bridge (hd : d.Sound) (hf : f ≠ .key) (h : d.settings.Mirrors f) :
    (d.bridge r.uptime r.data r.chrc).settings.Mirrors f := by
  by_cases hr : r.chrc.record = some f
  · by_cases hs : r.chrc.Saves r.data
    · exact mirrors_of_saves hd hr hs
    · have hsaves := d.bridge_saves r.uptime r.data hr
      rw [if_neg hs] at hsaves
      rw [hsaves]
      exact h
  · exact h.congr (fieldBytes_bridge_other hr fun _ => hf) (bridge_find hr)

/-- A request that is taken enters the ledger. -/
theorem Kept.bridge (hd : d.Sound) (hf : f.Lasting) (h : Kept nvs₀ past f d.settings) :
    Kept nvs₀ (past ++ [r]) f (d.bridge r.uptime r.data r.chrc).settings := by
  refine ⟨?_, d.mirrors_bridge hd hf.1 h.stored⟩
  rw [Device.fieldBytes_bridge hf.1, latest_concat, h.live]

end

theorem accelThreshold_of_fieldBytes {c c' : BeaconConfig} (h : c.fieldBytes .accel = c'.fieldBytes .accel) :
    c.accelThreshold = c'.accelThreshold := by
  have h' : c.accelThreshold.toUInt32 = c'.accelThreshold.toUInt32 := intBytes_injective h
  rw [← UInt16.toUInt16_toUInt32 c.accelThreshold, h', UInt16.toUInt16_toUInt32]

/-- The C global follows the setting. -/
theorem accelThreshold_bridge {d : Device} {t : UInt32} {buf : List UInt8} {ch : Chrc}
    (h : d.accelThreshold = d.settings.config.accelThreshold.toNat) :
    (d.bridge t buf ch).accelThreshold = (d.bridge t buf ch).settings.config.accelThreshold.toNat := by
  by_cases hch : ch = .accel
  · subst hch
    have hagrees : Scalar.accel.Agrees d t buf := Scalar.agrees_of_not_overreaches fun ho => by cases ho.1
    by_cases hr : (validateField buf true Scalar.accel.spec 0).1 = .ok
    · obtain ⟨n, hn, hfield, -, hglobal⟩ := hagrees.ok _ (Prod.ext hr rfl)
      refine (hglobal rfl).trans ?_
      rw [hn]
      exact congrArg Int.ofNat hfield.symm
    · rw [show d.bridge t buf .accel = d from hagrees.refused hr]
      exact h
  · have hglobal : (d.bridge t buf ch).accelThreshold = d.accelThreshold := by
      cases ch <;> first | rfl | exact absurd rfl hch
    have hfield : (d.bridge t buf ch).settings.config.accelThreshold = d.settings.config.accelThreshold :=
      accelThreshold_of_fieldBytes (Device.fieldBytes_bridge_other (by cases ch <;> simp_all [Chrc.record])
        (by simp))
    rw [hglobal, hfield, h]

/-- What the ledger says of the device. -/
structure Ledger.Holds (nvs₀ : Nvs) (w : Ledger) : Prop where
  sound : w.device.Sound
  kept : ∀ f : NvsFieldId, f.Lasting → Kept nvs₀ w.past f w.device.settings
  accelThreshold : w.device.accelThreshold = w.device.settings.config.accelThreshold.toNat

section

variable {nvs₀ : Nvs} {w w' : Ledger}

theorem Ledger.Holds.same (h : w.Holds nvs₀) (hs : w'.device.Sound) (hpast : w'.past = w.past)
    (hfield : ∀ f : NvsFieldId, f.Lasting →
      w'.device.settings.config.fieldBytes f = w.device.settings.config.fieldBytes f)
    (hfind : ∀ f : NvsFieldId, f.Lasting →
      w'.device.settings.nvs.find f.id = w.device.settings.nvs.find f.id)
    (hglobal : w'.device.accelThreshold = w.device.accelThreshold) : w'.Holds nvs₀ := by
  refine ⟨hs, fun f hf => hpast ▸ (h.kept f hf).congr (hfield f hf) (hfind f hf), ?_⟩
  rw [hglobal, h.accelThreshold,
    accelThreshold_of_fieldBytes (hfield .accel ⟨by decide, by decide, by decide⟩)]

theorem Ledger.Holds.event (h : w.Holds nvs₀) (e : GattEvent) : (w.event e).Holds nvs₀ := by
  have hsound := h.sound.step e
  cases e with
  | write ch t buf =>
    by_cases ht : w.device.Takes ch buf
    · obtain ⟨g, hg⟩ := Device.attWrite_of_takes (t := t) ht
      have hd : (w.event (.write ch t buf)) =
          ⟨{ w.device.bridge t buf ch with gatt := g }, w.past ++ [⟨ch, t, buf⟩]⟩ := by
        simp only [Ledger.event, Device.step, Device.handle, hg, if_pos ht]
      refine hd ▸ ⟨?_, fun f hf => ?_, accelThreshold_bridge h.accelThreshold⟩
      · exact (congrArg Ledger.device hd) ▸ hsound
      · exact (h.kept f hf).bridge (r := ⟨ch, t, buf⟩) h.sound hf
    · obtain ⟨g, hg⟩ := Device.attWrite_of_not_takes (t := t) ht
      have hd : (w.event (.write ch t buf)) = ⟨{ w.device with gatt := g }, w.past⟩ := by
        simp only [Ledger.event, Device.step, Device.handle, hg, if_neg ht]
      exact h.same hsound (by rw [hd]) (fun _ _ => by rw [hd]) (fun _ _ => by rw [hd]) (by rw [hd])
  | disconnected =>
    refine h.same hsound rfl (fun f _ => ?_) (fun f hf => ?_) ?_
    · exact Device.step_keeps (f := fun c => c.fieldBytes f) fun _ _ _ he => by cases he
    · refine Device.step_find (fun _ _ _ he => by cases he) fun hk => absurd hk hf.1
    · simp only [Ledger.event, Device.step, Device.handle, Device.disconnected]
      split <;> rfl
  | readTime t len offset =>
    refine h.same hsound rfl (fun f _ => ?_) (fun f hf => ?_) ?_
    · exact Device.step_keeps (f := fun c => c.fieldBytes f) fun _ _ _ he => by cases he
    · refine Device.step_find (fun _ _ _ he => by cases he) fun hk => absurd hk hf.1
    · simp only [Ledger.event, Device.step, Device.handle, Device.chrcReadTimeOffset]
      split
      · rfl
      · split <;> rfl
  | connected | recycled | startSettingsAdv => exact h.same hsound rfl (fun _ _ => rfl) (fun _ _ => rfl) rfl

/-- The main loop changes `turned_on` and nothing else. -/
theorem Device.Serves.fieldBytes {d d' : Device} {c : Call} {a : c.Ans} {f : NvsFieldId} (h : d.Serves c a d')
    (hf : f ≠ .turnedOn) : d'.settings.config.fieldBytes f = d.settings.config.fieldBytes f := by
  cases c with
  | config | configKey | glueSyncGattState =>
    obtain ⟨-, rfl⟩ := h
    rfl
  | setTurnedOn | updateTurnedOn =>
    cases h
    cases f <;> first | rfl | exact absurd rfl hf
  | storeTime =>
    obtain ⟨t, rfl⟩ := h
    rfl
  | reboot =>
    obtain ⟨ts, rfl⟩ := h
    rw [(d.foldl_storeTime_config ts).1]
  | _ => cases h; rfl

theorem Device.foldl_storeTime_accelThreshold (d : Device) (ts : List UInt32) :
    (ts.foldl storeTime d).accelThreshold = d.accelThreshold := by
  induction ts generalizing d with
  | nil => rfl
  | cons t ts ih => exact ih (d.storeTime t)

theorem Device.Serves.accelThreshold {d d' : Device} {c : Call} {a : c.Ans} (h : d.Serves c a d') :
    d'.accelThreshold = d.accelThreshold := by
  cases c with
  | config | configKey | glueSyncGattState =>
    obtain ⟨-, rfl⟩ := h
    rfl
  | storeTime =>
    obtain ⟨t, rfl⟩ := h
    rfl
  | reboot =>
    obtain ⟨ts, rfl⟩ := h
    exact d.foldl_storeTime_accelThreshold ts
  | _ => cases h; rfl

theorem Ledger.Holds.call {c : Call} {a : c.Ans} (h : w.Holds nvs₀) (hs : keeping.step w c a w') :
    w'.Holds nvs₀ := by
  obtain ⟨hserves, hpast⟩ := hs
  exact h.same (h.sound.serves hserves) hpast (fun f hf => hserves.fieldBytes hf.2.2)
    (fun f hf => hserves.find hf.2.1 fun hon => absurd hon hf.2.2) hserves.accelThreshold

/-- A boot finds the settings as the last lifetime left them. -/
theorem Ledger.Holds.boot {nvs : Nvs} {past : List Request} (h : Lifetimes nvs₀ nvs past) :
    Ledger.Holds nvs₀ ⟨.boot nvs, past⟩ := by
  have hsound (nvs : Nvs) : (Device.boot nvs).Sound := ⟨valid_load _, Nat.zero_le _⟩
  induction h with
  | new => exact ⟨hsound nvs₀, fun f _ => ⟨rfl, rfl⟩, rfl⟩
  | boot _ hd ih =>
    have hw := during_keeps (I := fun w => Ledger.Holds nvs₀ w) (fun w hw => by subst hw; exact ih)
      (fun w w' h hm => by obtain ⟨e, rfl⟩ := hm; exact h.event e) (fun _ _ _ _ h hs => h.call hs) hd
    refine ⟨hsound _, fun f hf => ⟨?_, rfl⟩, rfl⟩
    exact (hw.kept f hf).stored.trans (hw.kept f hf).live

end

/-- However often the device loses power, at whatever moment, and whatever clients and the main loop do in
between: each of the ten lasting settings is the last value that a request it took stood for, in memory and in
flash, and the value it first booted with if there is none.  A lost session loses none of them; the code never
changes. -/
theorem settings_are_last_accepted {nvs₀ nvs : Nvs} {past : List Request} (h : Lifetimes nvs₀ nvs past)
    {p : Main StateMachine} {w : Ledger}
    (hd : During keeping (initializeMachine {}) mainLoop (· = ⟨.boot nvs, past⟩) p w) :
    (∀ f : NvsFieldId, f.Lasting →
      w.device.settings.config.fieldBytes f =
        latest (Request.value f) ((load nvs₀.read).fieldBytes f) w.past ∧
      (load w.device.settings.nvs.read).fieldBytes f = w.device.settings.config.fieldBytes f) ∧
    w.device.settings.config.authCode = (load nvs₀.read).authCode ∧
    w.device.accelThreshold = w.device.settings.config.accelThreshold.toNat := by
  have hw := during_keeps (I := fun w => Ledger.Holds nvs₀ w) (fun w hw => by subst hw; exact .boot h)
    (fun w w' h hm => by obtain ⟨e, rfl⟩ := hm; exact h.event e) (fun _ _ _ _ h hs => h.call hs) hd
  refine ⟨fun f hf => ⟨(hw.kept f hf).live, (hw.kept f hf).stored⟩, ?_, hw.accelThreshold⟩
  have hauth := (hw.kept .auth ⟨by decide, by decide, by decide⟩).live
  rw [latest_of_none fun r _ => ?_] at hauth
  · exact Vector.toList_inj.1 hauth
  · have hr : r.chrc.record ≠ some .auth := by cases r.chrc <;> simp [Chrc.record]
    rw [Request.value, if_neg hr]

theorem Ledger.moves (w : Ledger) (es : List GattEvent) : keeping.Moves w (es.foldl Ledger.event w) := by
  induction es generalizing w with
  | nil => exact World.Moves.refl
  | cons e es ih => exact Relation.ReflTransGen.head ⟨e, rfl⟩ (ih (w.event e))

/-- A client sets the period to 8 and then to 3, which is refused; power is lost with the client still
connected. -/
theorem settings_are_last_accepted_period :
    let es : List GattEvent := [.startSettingsAdv, .connected 0, .write .auth 0 defaultAuthCode.toList,
      .write .period 1 (intBytes 8), .write .period 2 (intBytes 3)]
    let w := es.foldl Ledger.event ⟨.boot .erased, []⟩
    (Device.boot w.device.settings.nvs).settings.config.fieldBytes .period = intBytes 8 := by
  intro es w
  have hlife : Lifetimes .erased w.device.settings.nvs w.past :=
    .boot .new (.start rfl (.of_moves (Ledger.moves _ es)))
  have hd : During keeping (initializeMachine {}) mainLoop
      (· = ⟨.boot w.device.settings.nvs, w.past⟩) (initializeMachine {})
      ⟨.boot w.device.settings.nvs, w.past⟩ := .start rfl .refl
  rw [((settings_are_last_accepted hlife hd).1 .period ⟨by decide, by decide, by decide⟩).1]
  decide +kernel

end Everytag
