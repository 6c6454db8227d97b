import Everytag.Lib.Tlv
import Everytag.AdvertData

/-!
# Packets

Every advertisement that the firmware starts or updates is a list of records: the flags, and one record with
the data.  The iBeacon has a store of its own, with the battery voltage in its last byte.  `BleGlue` follows
the bytes that were handed to the radio last, through any calls in any order; a scanner that takes the records
apart knows from their types which of the four it has heard, and has what the firmware has put into it.
-/

namespace Everytag

/-! ## What is handed over -/

def btDataFlags : UInt8 := 0x01
def btDataUuid16All : UInt8 := 0x03
def btDataSvcData16 : UInt8 := 0x16
def btDataManufacturerData : UInt8 := 0xff

def btLeAdLimited : UInt8 := 0x01
def btLeAdGeneral : UInt8 := 0x02
def btLeAdNoBredr : UInt8 := 0x04

/-- The literal of `adv_ibeacon`, without its type. -/
def advIbeaconLiteral : Vector UInt8 25 :=
  #v[0x4c, 0x00, 0x02, 0x15, 0x18, 0xee, 0x15, 0x16, 0x01, 0x6b, 0x4b, 0xec, 0xad, 0x96,
    0xbc, 0xb9, 0x6d, 0x16, 0x6e, 0x97, 0x1, 0x1, 0x1, 0x1, 0x0]

/-- The globals of `ble_glue.c`, and the advertising data that the radio has got. -/
structure BleGlue extends AdvertData where
  iBeaconData : Vector UInt8 32 := Vector.replicate 32 0
  advIbeacon : AdvertSource := .literal
  sent : List UInt8 := []
deriving DecidableEq, Repr

/-- The advertisement that a call hands over. -/
def Call.hands : Call → OnAir
  | .startSettingsAdv => .settings
  | .advUpdateAirtag => .airtag
  | .advUpdateFmdn => .fmdn
  | .advStartAirtag .. => .airtag
  | .advStartFmdn .. => .fmdn
  | .broadcastIbeacon _ => .ibeacon
  | _ => .none

namespace BleGlue

/-- The bytes `adv_ibeacon[1].data` points to. -/
def ibeaconPayload (w : BleGlue) : Vector UInt8 25 :=
  match w.advIbeacon with
  | .store => Vector.ofFn fun i => w.iBeaconData[i.val]
  | .literal => advIbeaconLiteral

/-- `broadcast_ibeacon` up to the start of the advertisement. -/
def fillIbeacon (w : BleGlue) (battVoltage : Int) : BleGlue :=
  { w with
    iBeaconData := (Bytes.blit w.iBeaconData 0 w.ibeaconPayload.toList (by simp)).set 24
      (UInt8.ofInt ((battVoltage + 50).tdiv 100))
    advIbeacon := .store }

/-- `adv_airtag`, `adv_fmdn`, `adv_ibeacon`, and `ad` of `gatt_glue.c`. -/
def records (w : BleGlue) : OnAir → List Tlv
  | .none => []
  | .airtag => [⟨btDataManufacturerData, w.airtagPayload.toList⟩]
  | .fmdn => [⟨btDataFlags, [btLeAdNoBredr ||| btLeAdGeneral]⟩, ⟨btDataSvcData16, w.fmdnPayload.toList⟩]
  | .ibeacon => [⟨btDataFlags, [btLeAdNoBredr]⟩, ⟨btDataManufacturerData, w.ibeaconPayload.toList⟩]
  -- `BT_UUID_UDS_VAL` is 0x181c
  | .settings => [⟨btDataFlags, [btLeAdLimited ||| btLeAdNoBredr]⟩, ⟨btDataUuid16All, [0x1c, 0x18]⟩]

def hand (w : BleGlue) : OnAir → BleGlue
  | .none => w
  | mode => { w with sent := Tlv.encodeAll (w.records mode) }

def fill (w : BleGlue) : Call → BleGlue
  | .broadcastIbeacon battVoltage => w.fillIbeacon battVoltage
  | c => { w with toAdvertData := w.toAdvertData.after c }

def after (w : BleGlue) (c : Call) : BleGlue := (w.fill c).hand c.hands

/-! ## The stores -/

section

variable {w : BleGlue} {cs : List Call} {c : Call} {v : Int}

@[simp] theorem toAdvertData_hand (mode : OnAir) : (w.hand mode).toAdvertData = w.toAdvertData := by
  cases mode <;> rfl

@[simp] theorem ibeaconPayload_hand (mode : OnAir) : (w.hand mode).ibeaconPayload = w.ibeaconPayload := by
  cases mode <;> rfl

@[simp] theorem records_hand (mode mode' : OnAir) : (w.hand mode).records mode' = w.records mode' := by
  cases mode <;> rfl

theorem fill_of_ne (h : ∀ v, c ≠ .broadcastIbeacon v) :
    w.fill c = { w with toAdvertData := w.toAdvertData.after c } := by
  unfold fill
  split
  · exact absurd rfl (h _)
  · rfl

theorem toAdvertData_after : (w.after c).toAdvertData = w.toAdvertData.after c := by
  rw [after, toAdvertData_hand]
  by_cases h : ∃ v, c = .broadcastIbeacon v
  · obtain ⟨v, rfl⟩ := h
    simp only [fill, fillIbeacon, AdvertData.after]
  · rw [fill_of_ne (not_exists.1 h)]

theorem toAdvertData_foldl :
    (cs.foldl after w).toAdvertData = cs.foldl AdvertData.after w.toAdvertData := by
  induction cs generalizing w with
  | nil => rfl
  | cons c cs ih => rw [List.foldl_cons, List.foldl_cons, ih, toAdvertData_after]

/-- From the second call on the copy is of the store onto itself. -/
theorem getElem_fillIbeacon (i : Nat) (hi : i < 25) : (w.fillIbeacon v).ibeaconPayload[i] =
    if i = 24 then UInt8.ofInt ((v + 50).tdiv 100) else w.ibeaconPayload[i] := by
  have hstore : (w.fillIbeacon v).ibeaconPayload[i] = (w.fillIbeacon v).iBeaconData[i] := by
    simp [ibeaconPayload, fillIbeacon]
  rw [hstore]
  simp only [fillIbeacon, Vector.getElem_set, Bytes.getElem_blit]
  by_cases h24 : i = 24
  · rw [if_pos h24.symm, if_pos h24]
  · rw [if_neg (Ne.symm h24), if_neg h24]
    simp [hi]

/-- The iBeacon with a byte for the battery. -/
def ibeacon (battery : UInt8) : Vector UInt8 25 := advIbeaconLiteral.set 24 battery

theorem ibeaconPayload_fill (h : ∃ b, w.ibeaconPayload = ibeacon b) :
    (∃ b, (w.fill c).ibeaconPayload = ibeacon b) ∧
      ∀ v, c = .broadcastIbeacon v → (w.fill c).ibeaconPayload = ibeacon (UInt8.ofInt ((v + 50).tdiv 100)) := by
  obtain ⟨b, hb⟩ := h
  have hfill (v : Int) : (w.fillIbeacon v).ibeaconPayload = ibeacon (UInt8.ofInt ((v + 50).tdiv 100)) := by
    ext i hi : 1
    rw [getElem_fillIbeacon, hb, ibeacon, ibeacon]
    simp only [Vector.getElem_set]
    grind
  by_cases hc : ∃ v, c = .broadcastIbeacon v
  · obtain ⟨v, rfl⟩ := hc
    refine ⟨⟨_, hfill v⟩, fun v' hv' => ?_⟩
    cases hv'
    exact hfill v
  · rw [fill_of_ne (not_exists.1 hc)]
    exact ⟨⟨b, hb⟩, fun v hv => absurd ⟨v, hv⟩ hc⟩

theorem ibeaconPayload_foldl : ∃ b, (cs.foldl after {}).ibeaconPayload = ibeacon b := by
  have h₀ : ∃ b, ({} : BleGlue).ibeaconPayload = ibeacon b := ⟨0, rfl⟩
  generalize ({} : BleGlue) = w at h₀ ⊢
  induction cs generalizing w with
  | nil => exact h₀
  | cons c cs ih =>
    refine ih _ ?_
    rw [after, ibeaconPayload_hand]
    exact (ibeaconPayload_fill h₀).1

/-! ## Records -/

theorem records_fits (mode : OnAir) : ∀ r ∈ w.records mode, r.Fits := by
  cases mode <;> simp [records, Tlv.Fits]

/-- No packet is longer than the 31 bytes of an advertisement. -/
theorem length_records (mode : OnAir) : (Tlv.encodeAll (w.records mode)).length ≤ 31 := by
  rw [Tlv.length_encodeAll]
  cases mode <;> simp [records, Tlv.size]

/-- The types of the records tell which advertisement it is. -/
theorem mode_of_types {w' : BleGlue} {mode mode' : OnAir}
    (h : (w.records mode).map Tlv.type = (w'.records mode').map Tlv.type) : mode = mode' := by
  cases mode <;> cases mode' <;>
    first | rfl | simp [records, btDataFlags, btDataUuid16All, btDataSvcData16, btDataManufacturerData] at h

end

end BleGlue

/-! ## On air -/

/-- The byte of the battery is the voltage in tenths of a volt, rounded. -/
theorem battery_byte {mv : Nat} (h : mv < 25550) :
    let b := (UInt8.ofInt (((mv : Int) + 50).tdiv 100)).toNat
    100 * b ≤ mv + 50 ∧ mv < 100 * b + 50 := by
  intro b
  have hdiv : ((mv : Int) + 50).tdiv 100 = ((mv + 50) / 100 : Nat) := by
    rw [Int.tdiv_eq_ediv_of_nonneg (by omega)]
    omega
  have hb : b = (mv + 50) / 100 := by
    simp only [b, hdiv, UInt8.ofInt, UInt8.toNat_ofNat']
    omega
  omega

namespace BleGlue

variable {w : BleGlue} {cs : List Call} {c : Call}

theorem sent_hand {mode : OnAir} (h : mode ≠ .none) : (w.hand mode).sent = Tlv.encodeAll (w.records mode) := by
  cases mode with
  | none => exact absurd rfl h
  | _ => rfl

/-- The radio has the records as they are in the stores. -/
theorem sent_foldl (h : c.hands ≠ .none) : ((cs ++ [c]).foldl after {}).sent =
    Tlv.encodeAll (((cs ++ [c]).foldl after {}).records c.hands) := by
  simp only [List.foldl_append, List.foldl_cons, List.foldl_nil, after, records_hand]
  exact sent_hand h

theorem prepared_foldl : AdvertData.Prepared cs (cs.foldl after {}).toAdvertData := by
  rw [toAdvertData_foldl]
  exact AdvertData.prepared cs

theorem records_airtag {k : Key} {a f : UInt8} (hk : lastOf Call.airtagKey? cs = some k)
    (hs : lastOf Call.statusBytes? cs = some (a, f)) : (cs.foldl after {}).records .airtag =
      [⟨btDataManufacturerData, [0x4c, 0x00, 0x12, 0x19, a] ++ k.toList.drop 6 ++ [k.toList.headD 0 >>> 6, 0x00]⟩] := by
  have h : AdvertData.Prepared cs _ := prepared_foldl
  have hfirst : k.toList.headD 0 = k[0] := by simp [List.headD_eq_head?_getD, List.head?_eq_getElem?]
  rw [records, h.payload hk, (h.status a f hs).1, payload_eq, Vector.toList_append, Vector.toList_append,
    Vector.toList_drop, hfirst]
  rfl

theorem records_fmdn {k : FmdnKey} {a f : UInt8} (hk : lastOf Call.fmdnKey? cs = some k)
    (hs : lastOf Call.statusBytes? cs = some (a, f)) : (cs.foldl after {}).records .fmdn =
      [⟨btDataFlags, [0x06]⟩, ⟨btDataSvcData16, [0xAA, 0xFE, 0x41] ++ k.toList ++ [f]⟩] := by
  have h : AdvertData.Prepared cs _ := prepared_foldl
  rw [records, h.service_payload hk (h.status a f hs).2, Vector.toList_append, Vector.toList_append]
  rfl

theorem records_ibeacon (mv : Nat) (h : mv < 25550) : ∃ b : UInt8,
    ((cs ++ [Call.broadcastIbeacon mv]).foldl after {}).records .ibeacon =
      [⟨btDataFlags, [0x04]⟩, ⟨btDataManufacturerData, advIbeaconLiteral.toList.take 24 ++ [b]⟩] ∧
    100 * b.toNat ≤ mv + 50 ∧ mv < 100 * b.toNat + 50 := by
  refine ⟨_, ?_, battery_byte h⟩
  have hbefore : ∃ b, (cs.foldl after {}).ibeaconPayload = ibeacon b := ibeaconPayload_foldl
  have hpayload := (ibeaconPayload_fill (c := .broadcastIbeacon mv) hbefore).2 mv rfl
  simp only [List.foldl_append, List.foldl_cons, List.foldl_nil, after, records_hand]
  rw [records, hpayload]
  rfl

end BleGlue

open BleGlue in
/-- Whatever calls came before, each call that starts or updates an advertisement hands over 31 bytes or less, in
which a scanner finds the records that were meant, whatever padding is behind them: an AirTag with the status
and the last key but for the bytes that are in the address, the FMDN service with the last key and the status, an
iBeacon with the voltage in tenths of a volt, or the settings service; and no packet of one kind can be taken
for one of another. -/
theorem packets_parse (cs : List Call) (c : Call) (hc : c.hands ≠ .none) :
    let w := (cs ++ [c]).foldl after {}
    w.sent.length ≤ 31 ∧
    (∀ n, Tlv.parse (w.sent ++ List.replicate n 0) = some (w.records c.hands)) ∧
    (∀ cs' c', c'.hands ≠ .none → ((cs' ++ [c']).foldl after {}).sent = w.sent → c'.hands = c.hands) ∧
    (∀ k a f, c.hands = .airtag → lastOf Call.airtagKey? cs = some k →
      lastOf Call.statusBytes? cs = some (a, f) → w.records c.hands =
        [⟨btDataManufacturerData, [0x4c, 0x00, 0x12, 0x19, a] ++ k.toList.drop 6 ++ [k.toList.headD 0 >>> 6, 0x00]⟩]) ∧
    (∀ k a f, c.hands = .fmdn → lastOf Call.fmdnKey? cs = some k →
      lastOf Call.statusBytes? cs = some (a, f) → w.records c.hands =
        [⟨btDataFlags, [0x06]⟩, ⟨btDataSvcData16, [0xAA, 0xFE, 0x41] ++ k.toList ++ [f]⟩]) ∧
    ∀ mv : Nat, c = .broadcastIbeacon mv → mv < 25550 → ∃ b : UInt8, w.records c.hands =
        [⟨btDataFlags, [0x04]⟩, ⟨btDataManufacturerData, advIbeaconLiteral.toList.take 24 ++ [b]⟩] ∧
      100 * b.toNat ≤ mv + 50 ∧ mv < 100 * b.toNat + 50 := by
  intro w
  have hsent : w.sent = Tlv.encodeAll (w.records c.hands) := sent_foldl hc
  have hlast {α : Type} (pick : Call → Option α) (hpick : pick c = none) :
      lastOf pick (cs ++ [c]) = lastOf pick cs := by
    rw [lastOf_concat, hpick, Option.none_or]
  have hidle (h : c.hands = .airtag ∨ c.hands = .fmdn) :
      c.airtagKey? = none ∧ c.fmdnKey? = none ∧ c.statusBytes? = none := by
    cases c <;> simp [Call.hands, Call.airtagKey?, Call.fmdnKey?, Call.statusBytes?] at h ⊢
  refine ⟨?_, fun n => ?_, fun cs' c' hc' heq => ?_, fun k a f hm hk hs => ?_, fun k a f hm hk hs => ?_,
    fun mv hm hmv => ?_⟩
  · rw [hsent]
    exact length_records c.hands
  · rw [hsent]
    exact Tlv.parse_encodeAll (records_fits c.hands) n
  · rw [sent_foldl hc', hsent] at heq
    exact mode_of_types (congrArg (List.map Tlv.type)
      (Tlv.encodeAll_injective (records_fits c'.hands) (records_fits c.hands) heq))
  · obtain ⟨hkey, -, hstatus⟩ := hidle (.inl hm)
    rw [hm]
    exact records_airtag ((hlast _ hkey).trans hk) ((hlast _ hstatus).trans hs)
  · obtain ⟨-, hkey, hstatus⟩ := hidle (.inr hm)
    rw [hm]
    exact records_fmdn ((hlast _ hkey).trans hk) ((hlast _ hstatus).trans hs)
  · subst hm
    exact records_ibeacon mv hmv

/-- A battery at 3.04 volts. -/
theorem packets_parse_ibeacon :
    ∃ b : UInt8, (([Call.broadcastIbeacon 2960] ++ [Call.broadcastIbeacon (3040 : Nat)]).foldl BleGlue.after
        {}).records .ibeacon =
      [⟨btDataFlags, [0x04]⟩, ⟨btDataManufacturerData, advIbeaconLiteral.toList.take 24 ++ [b]⟩] ∧
      b.toNat = 30 := by
  obtain ⟨b, hrecords, hle, hlt⟩ := (packets_parse [.broadcastIbeacon 2960] (.broadcastIbeacon (3040 : Nat))
    (by decide)).2.2.2.2.2 3040 rfl (by decide)
  exact ⟨b, hrecords, by omega⟩

end Everytag
