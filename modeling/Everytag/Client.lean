import Everytag.Persistence
import Everytag.Records

/-!
# The status word, from the client to flash

`write_int32` of `conn_beacon.py` packs a status word as a signed number; `chrc_write_status` compares
the four bytes with the reserved word, and `beacon_glue_handle_status` stores them as an unsigned one.
The firmware takes every word (`StatusReceived.of_bytes`); the client sends the lower half of them.
-/

namespace Everytag

open Bytes BeaconConfig

/-! ## `conn_beacon.py` -/

/-- `struct.pack("<i", value)`; `none` is the `struct.error` it raises out of range. -/
def structPackI (value : Int) : Option (List UInt8) :=
  if -2147483648 ≤ value ∧ value ≤ 2147483647 then some (leBytes 4 (value % 4294967296).toNat) else none

/-- `write_int32`: the request that reaches the device at the uptime `t`. -/
def writeInt32 (ch : Chrc) (t : UInt32) (value : Int) : Option GattEvent :=
  (structPackI value).map fun data => .write ch t data

theorem structPackI_toNat (w : UInt32) :
    structPackI w.toNat = if w.toNat < 2147483648 then some (intBytes w) else none := by
  have hw : w.toNat < 4294967296 := w.toNat_lt
  by_cases h : w.toNat < 2147483648
  · have hmod : ((w.toNat : Int) % 4294967296).toNat = w.toNat := by omega
    rw [if_pos h, structPackI, if_pos (by omega), hmod, intBytes]
  · rw [if_neg h, structPackI, if_neg (by omega)]

/-! ## The firmware -/

/-- A load reads the status word from its own record. -/
theorem load_statusFlags {n : Nvs} {w : UInt32} (h : n.find NvsFieldId.status.id = some (intBytes w)) :
    (load n.read).statusFlags = w := by
  have haccel (c : BeaconConfig) : (readAndApply n.read NvsFieldId.accel.id
      (fun c v => (c.setAccelThreshold v.toUInt16).2) c).statusFlags = c.statusFlags :=
    apply_readAndApply (fun c v => by rw [setAccelThreshold]; split <;> rfl) n.read NvsFieldId.accel.id c
  have hkeys := apply_loadKeys (f := BeaconConfig.statusFlags) (fun _ _ _ => rfl) n.read
  have hfmdn := apply_loadFmdnKey (f := BeaconConfig.statusFlags) (fun _ _ => rfl) n.read
  simp only [load, loadSteps, List.foldl_cons, List.foldl_nil, hfmdn, hkeys,
    apply_ite BeaconConfig.statusFlags, ite_self, haccel, readAndApply_of_find h, setStatusFlags]

/-- A client has authenticated, and its writes are accepted. -/
structure Device.Authorized (d : Device) : Prop where
  authorizedGatt : d.gatt.authorizedGatt = true
  allowedChange : d.gatt.allowedChange = true

/-- A status request in an authorized session: the reserved word asks for the upload and leaves the
settings alone; any other is stored as it is, and a load finds it. -/
structure StatusReceived (w : UInt32) (d d' : Device) : Prop where
  reserved : w = Device.dfuWord → d'.gatt.pauseUpload = true ∧ d'.settings = d.settings
  stored : w ≠ Device.dfuWord → d'.settings.config = { d.settings.config with statusFlags := w } ∧
    (load d'.settings.nvs.read).statusFlags = w

/-- The firmware is right about all words, whoever packs them. -/
theorem StatusReceived.of_bytes {d : Device} (hd : d.Authorized) (t : UInt32) (w : UInt32) :
    StatusReceived w d (d.step (.write .status t (intBytes w))) := by
  by_cases hw : w = Device.dfuWord
  · have hd' : d.step (.write .status t (intBytes w)) =
        { d with gatt := { d.gatt with pauseUpload := true } } := by
      simp [Device.step, Device.handle, Device.attWrite, Device.writeAuthorize, hd.authorizedGatt,
        Device.chrcWrite, Device.chrcWriteStatus, hd.allowedChange, hw]
    rw [hd']
    exact ⟨fun _ => ⟨rfl, rfl⟩, fun hne => absurd hw hne⟩
  · have hd' : (d.step (.write .status t (intBytes w))).settings =
        { d.settings with config := d.settings.config.setStatusFlags w }.save .status := by
      simp [Device.step, Device.handle, Device.attWrite, Device.writeAuthorize, hd.authorizedGatt,
        Device.chrcWrite, Device.chrcWriteStatus, hd.allowedChange, hw, Device.gatedWrite, Device.onSettings,
        handleStatus, handleBlock]
    refine ⟨fun h => absurd h hw, fun _ => ?_⟩
    rw [hd', SettingsManager.save_config]
    refine ⟨rfl, load_statusFlags ?_⟩
    rw [SettingsManager.find_save, if_pos rfl]
    rfl

/-! ## The whole way -/

/-- `write_int32(UUID_STATUS, w)` sends four bytes, and the firmware takes them for `w`. -/
def StatusTransferred (w : UInt32) : Prop :=
  ∃ data : List UInt8, data.length = 4 ∧ ∀ t : UInt32,
    writeInt32 .status t w.toNat = some (.write .status t data) ∧
    ∀ d : Device, d.Authorized → StatusReceived w d (d.step (.write .status t data))

/-- The word gets through exactly if it is in the lower half: the rest, the reserved word among them, ends
in an error of the client. -/
theorem statusTransferred_iff (w : UInt32) : StatusTransferred w ↔ w.toNat < 2147483648 := by
  constructor
  · rintro ⟨data, -, h⟩
    have hsent := (h 0).1
    rw [writeInt32, structPackI_toNat] at hsent
    by_contra hw
    rw [if_neg hw] at hsent
    cases hsent
  · intro hw
    refine ⟨intBytes w, length_intBytes w, fun t => ⟨?_, fun d hd => .of_bytes hd t w⟩⟩
    rw [writeInt32, structPackI_toNat, if_pos hw]
    rfl

/-- `conn_beacon.py --dfu` never sends its request. -/
theorem dfuWord_not_sent : ¬ ∀ w : UInt32, StatusTransferred w := by
  intro h
  obtain ⟨data, -, hdata⟩ := h Device.dfuWord
  have hnone : writeInt32 .status 0 Device.dfuWord.toNat = none := by decide
  rw [(hdata 0).1] at hnone
  cases hnone

end Everytag
