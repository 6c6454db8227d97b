import Everytag.Lib.Bytes

/-!
# Persistent records

The record ids of `beacon_nvs_ids.hpp` and the storage under `SettingsManager`.  `NvsRead` is the
reading half of `INvsStorage`: any function from an id and a length to a return code and the bytes
that were copied out, so a read may fail, come back short or deliver garbage.  `Nvs` is the
faithful storage: a log of records, as ZMS keeps it, where a read finds the record written last.
-/

namespace Everytag

/-- `NvsFieldId`, one constructor for each line of `BEACON_NVS_IDS`. -/
inductive NvsFieldId
  | fmdn | airtag | period | changeInterval | key | auth | power | fmdnKey | timeOffset
  | settingsMac | status | accel | turnedOn
deriving DecidableEq, Repr

namespace NvsFieldId

def id : NvsFieldId → UInt16
  | .fmdn => 0x01
  | .airtag => 0x02
  | .period => 0x03
  | .changeInterval => 0x04
  | .key => 0x05
  | .auth => 0x06
  | .power => 0x07
  | .fmdnKey => 0x08
  | .timeOffset => 0x09
  | .settingsMac => 0x0a
  | .status => 0x0b
  | .accel => 0x0c
  | .turnedOn => 0x0d

def all : List NvsFieldId :=
  [.fmdn, .airtag, .period, .changeInterval, .key, .auth, .power, .fmdnKey, .timeOffset,
    .settingsMac, .status, .accel, .turnedOn]

/-- The field a raw `uint16_t` id names, if any. -/
def ofId? (i : UInt16) : Option NvsFieldId := all.find? fun f => f.id == i

theorem mem_all (f : NvsFieldId) : f ∈ all := by
  cases f <;> decide

theorem id_injective {f g : NvsFieldId} (h : f.id = g.id) : f = g := by
  revert h
  cases f <;> cases g <;> decide

@[simp] theorem id_eq_iff {f g : NvsFieldId} : f.id = g.id ↔ f = g :=
  ⟨id_injective, fun h => by rw [h]⟩

@[simp] theorem ofId?_id (f : NvsFieldId) : ofId? f.id = some f := by
  cases f <;> decide

end NvsFieldId

/-- `INvsStorage::read`: the return code and the bytes copied into the buffer. -/
abbrev NvsRead := UInt16 → Nat → Int × List UInt8

/-- Storage that returns what was last written: the newest record comes first. -/
structure Nvs where
  log : List (UInt16 × List UInt8)
deriving DecidableEq, Repr

namespace Nvs

/-- Flash after `nrfjprog --eraseall`. -/
def erased : Nvs := ⟨[]⟩

/-- The record under an id. -/
def find (n : Nvs) (i : UInt16) : Option (List UInt8) := n.log.lookup i

/-- `zms_read`: a missing record is `-ENOENT`; otherwise the record's length, which may exceed the
buffer. -/
def read (n : Nvs) : NvsRead := fun i len =>
  match n.find i with
  | some bs => (bs.length, bs.take len)
  | none => (-2, [])

/-- `zms_write`. -/
def write (n : Nvs) (i : UInt16) (bs : List UInt8) : Int × Nvs :=
  (bs.length, ⟨(i, bs) :: n.log⟩)

@[simp] theorem find_write (n : Nvs) (i j : UInt16) (bs : List UInt8) :
    (n.write i bs).2.find j = if j = i then some bs else n.find j := by
  by_cases h : j = i
  · simp [find, write, h]
  · have hb : (j == i) = false := by simpa using h
    simp [find, write, List.lookup_cons, h, hb]

theorem read_of_find {n : Nvs} {i : UInt16} {bs : List UInt8} (h : n.find i = some bs) :
    n.read i bs.length = ((bs.length : Int), bs) := by
  simp [read, h]

end Nvs

end Everytag
