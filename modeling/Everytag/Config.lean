import Everytag.Nvs

/-!
# Settings: `BeaconConfig` and `SettingsManager`

`load` is the list of its thirteen reads in source order (`loadSteps`), folded from the defaults,
so that what holds "during" a load is a statement about the prefixes of that list.  Scalars travel
as 4-byte integers (`readInt`, `intBytes`); `saveField` encodes the field an id names.  The setters
that validate return the source's `bool` beside the configuration.
-/

namespace Everytag

open Bytes

abbrev Key := Vector UInt8 28
abbrev KeyRing := Vector Key 40
abbrev Mac := Vector UInt8 6
abbrev AuthCode := Vector UInt8 8
abbrev FmdnKey := Vector UInt8 20

def kMaxKeysInMemory : Nat := 40

/-- `abcdefgh` -/
def defaultAuthCode : AuthCode := #v[97, 98, 99, 100, 101, 102, 103, 104]

def defaultSettingsMac : Mac := #v[0, 0x41, 0x42, 0x43, 0x44, 0]

/-- `BeaconConfig`; the defaults are those a load falls back to. -/
structure BeaconConfig where
  flagFmdn : Bool := false
  flagAirtag : Bool := false
  multPeriod : UInt8 := 2
  txPower : UInt8 := 2
  changeInterval : UInt16 := 6000
  statusFlags : UInt32 := 0x458000
  accelThreshold : UInt16 := 800
  turnedOn : Bool := false
  timeOffset : Int64 := 0
  authCode : AuthCode := defaultAuthCode
  settingsMac : Mac := defaultSettingsMac
  fmdnKey : FmdnKey := Vector.replicate 20 0
  keys : KeyRing := Vector.replicate 40 (Vector.replicate 28 0)
  numKeys : UInt8 := 0
deriving DecidableEq, Repr

namespace BeaconConfig

/-! ## Setters -/

def setMultPeriod (c : BeaconConfig) (v : UInt8) : Bool × BeaconConfig :=
  if v ≠ 1 ∧ v ≠ 2 ∧ v ≠ 4 ∧ v ≠ 8 then (false, c) else (true, { c with multPeriod := v })

def setTxPower (c : BeaconConfig) (v : UInt8) : Bool × BeaconConfig :=
  if v > 2 then (false, c) else (true, { c with txPower := v })

def setChangeInterval (c : BeaconConfig) (v : UInt16) : Bool × BeaconConfig :=
  let aligned := v - v % 8
  if aligned < 32 ∨ v > 7200 then (false, c) else (true, { c with changeInterval := aligned })

def setStatusFlags (c : BeaconConfig) (v : UInt32) : BeaconConfig := { c with statusFlags := v }

def setAccelThreshold (c : BeaconConfig) (v : UInt16) : Bool × BeaconConfig :=
  if v > 16383 then (false, c) else (true, { c with accelThreshold := v })

def setFlagFmdn (c : BeaconConfig) (v : Bool) : BeaconConfig := { c with flagFmdn := v }

def setFlagAirtag (c : BeaconConfig) (v : Bool) : BeaconConfig := { c with flagAirtag := v }

def setTurnedOn (c : BeaconConfig) (v : Bool) : BeaconConfig := { c with turnedOn := v }

/-- The array `data` points to, when its length is the one asked for. -/
def exactly (n : Nat) (old : Vector UInt8 n) (data : List UInt8) : Vector UInt8 n :=
  if data.length = n then overlay old data else old

def setFmdnKey (c : BeaconConfig) (data : List UInt8) : BeaconConfig :=
  { c with fmdnKey := exactly 20 c.fmdnKey data }

def setSettingsMac (c : BeaconConfig) (data : List UInt8) : BeaconConfig :=
  { c with settingsMac := exactly 6 c.settingsMac data }

def setAuthCode (c : BeaconConfig) (data : List UInt8) : BeaconConfig :=
  { c with authCode := exactly 8 c.authCode data }

/-- What `set_key_chunk` checks before it copies. -/
def ChunkFits (keyIdx : Int) (offset : Nat) (data : List UInt8) : Prop :=
  ¬ (keyIdx < 0 ∨ keyIdx ≥ kMaxKeysInMemory ∨ data.length ≠ 14 ∨ (offset ≠ 0 ∧ offset ≠ 14) ∨
    offset + data.length > 28)

instance (keyIdx : Int) (offset : Nat) (data : List UInt8) :
    Decidable (ChunkFits keyIdx offset data) := by
  unfold ChunkFits; infer_instance

theorem ChunkFits.idx_lt {keyIdx : Int} {offset : Nat} {data : List UInt8}
    (h : ChunkFits keyIdx offset data) : keyIdx.toNat < 40 := by
  simp only [ChunkFits, kMaxKeysInMemory] at h
  omega

theorem ChunkFits.end_le {keyIdx : Int} {offset : Nat} {data : List UInt8}
    (h : ChunkFits keyIdx offset data) : offset + data.length ≤ 28 := by
  simp only [ChunkFits] at h
  omega

/-- The `memcpy` into the ring needs both bounds, so it exists only behind the check. -/
def setKeyChunk (c : BeaconConfig) (keyIdx : Int) (offset : Nat) (data : List UInt8) : BeaconConfig :=
  if h : ChunkFits keyIdx offset data then
    have hi := h.idx_lt
    { c with keys := c.keys.set keyIdx.toNat (blit c.keys[keyIdx.toNat] offset data h.end_le) hi }
  else c

def setNumKeys (c : BeaconConfig) (n : UInt8) : BeaconConfig :=
  if n.toNat ≤ kMaxKeysInMemory then { c with numKeys := n } else c

/-! ## Time -/

def getTime (c : BeaconConfig) (uptimeSec : UInt32) : Int64 :=
  c.timeOffset + uptimeSec.toUInt64.toInt64

def updateTimeOffset (c : BeaconConfig) (newTime : Int64) (uptimeSec : UInt32) : BeaconConfig :=
  { c with timeOffset := newTime - uptimeSec.toUInt64.toInt64 }

/-- A call of a setter of `SettingsManager`. -/
inductive Setter
  | multPeriod (v : UInt8)
  | txPower (v : UInt8)
  | changeInterval (v : UInt16)
  | statusFlags (v : UInt32)
  | accelThreshold (v : UInt16)
  | flagFmdn (v : Bool)
  | flagAirtag (v : Bool)
  | turnedOn (v : Bool)
  | fmdnKey (data : List UInt8)
  | settingsMac (data : List UInt8)
  | authCode (data : List UInt8)
  | keyChunk (keyIdx : Int) (offset : Nat) (data : List UInt8)
  | numKeys (n : UInt8)
  | timeOffset (newTime : Int64) (uptimeSec : UInt32)

def Setter.apply (c : BeaconConfig) : Setter → BeaconConfig
  | .multPeriod v => (c.setMultPeriod v).2
  | .txPower v => (c.setTxPower v).2
  | .changeInterval v => (c.setChangeInterval v).2
  | .statusFlags v => c.setStatusFlags v
  | .accelThreshold v => (c.setAccelThreshold v).2
  | .flagFmdn v => c.setFlagFmdn v
  | .flagAirtag v => c.setFlagAirtag v
  | .turnedOn v => c.setTurnedOn v
  | .fmdnKey data => c.setFmdnKey data
  | .settingsMac data => c.setSettingsMac data
  | .authCode data => c.setAuthCode data
  | .keyChunk keyIdx offset data => c.setKeyChunk keyIdx offset data
  | .numKeys n => c.setNumKeys n
  | .timeOffset newTime uptimeSec => c.updateTimeOffset newTime uptimeSec

/-- What a setter leaves if it takes its value. -/
def Setter.stored (c : BeaconConfig) : Setter → BeaconConfig
  | .multPeriod v => { c with multPeriod := v }
  | .txPower v => { c with txPower := v }
  | .changeInterval v => { c with changeInterval := v - v % 8 }
  | .accelThreshold v => { c with accelThreshold := v }
  | .keyChunk keyIdx offset data => { c with keys := (c.setKeyChunk keyIdx offset data).keys }
  | .numKeys n => { c with numKeys := n }
  | s => s.apply c

/-- Otherwise it changes nothing. -/
theorem Setter.apply_cases (c : BeaconConfig) (s : Setter) : s.apply c = s.stored c ∨ s.apply c = c := by
  cases s with
  | multPeriod v => simp only [apply, stored, setMultPeriod]; split <;> simp
  | txPower v => simp only [apply, stored, setTxPower]; split <;> simp
  | changeInterval v => simp only [apply, stored, setChangeInterval]; split <;> simp
  | accelThreshold v => simp only [apply, stored, setAccelThreshold]; split <;> simp
  | keyChunk keyIdx offset data => simp only [apply, stored, setKeyChunk]; split <;> simp
  | numKeys n => simp only [apply, stored, setNumKeys]; split <;> simp
  | _ => exact .inl rfl

/-- What the value of a setter does not touch, the setter keeps. -/
theorem Setter.apply_keeps {α : Type} {f : BeaconConfig → α} {c : BeaconConfig} {s : Setter}
    (h : f (s.stored c) = f c) : f (s.apply c) = f c := by
  rcases s.apply_cases c with hs | hs
  · rw [hs, h]
  · rw [hs]

/-! ## Load -/

/-- A 4-byte `int` that was zero before the read. -/
def readInt (bs : List UInt8) : UInt32 := UInt32.ofNat (leNat (bs.take 4))

/-- An `int64_t` that was zero before the read. -/
def readInt64 (bs : List UInt8) : Int64 := (UInt64.ofNat (leNat (bs.take 8))).toInt64

def readBool (rd : NvsRead) (id : UInt16) (dest : Bool) : Bool :=
  if (rd id 4).1 > 0 then decide (readInt (rd id 4).2 ≠ 0) else dest

/-- Read an `int` and hand it to a setter, whose verdict is not looked at. -/
def readAndApply (rd : NvsRead) (id : UInt16) (setter : BeaconConfig → UInt32 → BeaconConfig)
    (c : BeaconConfig) : BeaconConfig :=
  if (rd id 4).1 > 0 then setter c (readInt (rd id 4).2) else c

/-- `is_key_empty`, as the key count spells it out. -/
def isKeyEmpty (k : Key) : Bool := k.toList.all (· == 0)

/-- Keys in front of the first empty one. -/
def countKeys (keys : KeyRing) : Nat := (keys.toList.takeWhile fun k => !isKeyEmpty k).length

def loadKeys (rd : NvsRead) (c : BeaconConfig) : BeaconConfig :=
  let r := rd NvsFieldId.key.id 1120
  let keys := overlayRows c.keys r.2
  if r.1 > 0 then { c with keys := keys, numKeys := UInt8.ofNat (countKeys keys) }
  else { c with keys := keys, numKeys := 0 }

def loadFmdnKey (rd : NvsRead) (c : BeaconConfig) : BeaconConfig :=
  let r := rd NvsFieldId.fmdnKey.id 20
  if r.1 ≤ 0 then { c with fmdnKey := Vector.replicate 20 0 }
  else { c with fmdnKey := overlay c.fmdnKey r.2 }

theorem loadKeys_keys (rd : NvsRead) (c : BeaconConfig) :
    (loadKeys rd c).keys = overlayRows c.keys (rd NvsFieldId.key.id 1120).2 := by
  rw [loadKeys]
  split <;> rfl

/-- The read of the ring sets the ring and its count. -/
theorem apply_loadKeys {α : Type} {f : BeaconConfig → α}
    (h : ∀ c keys n, f { c with keys := keys, numKeys := n } = f c) (rd : NvsRead) (c : BeaconConfig) :
    f (loadKeys rd c) = f c := by
  rw [loadKeys]
  split
  · exact h c _ _
  · exact h c _ _

theorem apply_loadFmdnKey {α : Type} {f : BeaconConfig → α} (h : ∀ c key, f { c with fmdnKey := key } = f c)
    (rd : NvsRead) (c : BeaconConfig) : f (loadFmdnKey rd c) = f c := by
  rw [loadFmdnKey]
  split
  · exact h c _
  · exact h c _

/-- The reads of `SettingsManager::load`, in source order. -/
def loadSteps (rd : NvsRead) : List (BeaconConfig → BeaconConfig) :=
  [ fun c => { c with flagFmdn := readBool rd NvsFieldId.fmdn.id c.flagFmdn },
    fun c => { c with flagAirtag := readBool rd NvsFieldId.airtag.id c.flagAirtag },
    fun c => { c with turnedOn := readBool rd NvsFieldId.turnedOn.id c.turnedOn },
    readAndApply rd NvsFieldId.period.id fun c v => (c.setMultPeriod v.toUInt8).2,
    readAndApply rd NvsFieldId.power.id fun c v => (c.setTxPower v.toUInt8).2,
    readAndApply rd NvsFieldId.changeInterval.id fun c v => (c.setChangeInterval v.toUInt16).2,
    readAndApply rd NvsFieldId.status.id fun c v => c.setStatusFlags v,
    readAndApply rd NvsFieldId.accel.id fun c v => (c.setAccelThreshold v.toUInt16).2,
    fun c =>
      let r := rd NvsFieldId.timeOffset.id 8
      if r.1 > 0 then { c with timeOffset := readInt64 r.2 } else c,
    fun c => { c with settingsMac := overlay c.settingsMac (rd NvsFieldId.settingsMac.id 6).2 },
    fun c => { c with authCode := overlay c.authCode (rd NvsFieldId.auth.id 8).2 },
    loadKeys rd,
    loadFmdnKey rd ]

/-- `SettingsManager::load`: reset to the defaults, then read. -/
def load (rd : NvsRead) : BeaconConfig := (loadSteps rd).foldl (fun c f => f c) {}

/-! ## Save -/

def intBytes (v : UInt32) : List UInt8 := leBytes 4 v.toNat

def boolBytes (b : Bool) : List UInt8 := intBytes (if b then 1 else 0)

/-- What `save_field` writes for a field. -/
def fieldBytes (c : BeaconConfig) : NvsFieldId → List UInt8
  | .fmdn => boolBytes c.flagFmdn
  | .airtag => boolBytes c.flagAirtag
  | .period => intBytes c.multPeriod.toUInt32
  | .changeInterval => intBytes c.changeInterval.toUInt32
  | .key => flat c.keys
  | .auth => c.authCode.toList
  | .power => intBytes c.txPower.toUInt32
  | .fmdnKey => c.fmdnKey.toList
  | .timeOffset => leBytes 8 c.timeOffset.toUInt64.toNat
  | .settingsMac => c.settingsMac.toList
  | .status => intBytes c.statusFlags
  | .accel => intBytes c.accelThreshold.toUInt32
  | .turnedOn => boolBytes c.turnedOn

end BeaconConfig

/-- `SettingsManager`: the configuration and the storage behind it. -/
structure SettingsManager where
  config : BeaconConfig
  nvs : Nvs
deriving DecidableEq, Repr

namespace SettingsManager

/-- `load`; the source returns 0 in every case. -/
def load (m : SettingsManager) : SettingsManager := { m with config := BeaconConfig.load m.nvs.read }

def saveField (m : SettingsManager) (fieldId : UInt16) : Int × SettingsManager :=
  match NvsFieldId.ofId? fieldId with
  | some f => ((m.nvs.write fieldId (m.config.fieldBytes f)).1,
      { m with nvs := (m.nvs.write fieldId (m.config.fieldBytes f)).2 })
  | none => (-1, m)

/-- `save_time`: the record of the offset gets the absolute time. -/
def saveTime (m : SettingsManager) (uptimeSec : UInt32) : SettingsManager :=
  { m with nvs := (m.nvs.write NvsFieldId.timeOffset.id
      (leBytes 8 (m.config.getTime uptimeSec).toUInt64.toNat)).2 }

/-- A call of `save_field` for a known field. -/
def save (m : SettingsManager) (f : NvsFieldId) : SettingsManager := (m.saveField f.id).2

@[simp] theorem save_config (m : SettingsManager) (f : NvsFieldId) : (m.save f).config = m.config := by
  simp [save, saveField]

@[simp] theorem saveField_config (m : SettingsManager) (fieldId : UInt16) :
    (m.saveField fieldId).2.config = m.config := by
  unfold saveField
  split <;> rfl

@[simp] theorem find_save (m : SettingsManager) (f g : NvsFieldId) :
    (m.save f).nvs.find g.id = if g = f then some (m.config.fieldBytes f) else m.nvs.find g.id := by
  simp [save, saveField]

end SettingsManager

end Everytag
