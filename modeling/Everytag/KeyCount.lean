import Everytag.WholeKeys

/-!
# Two ways to count keys

While keys are uploaded `num_keys` is the number of the last completed pair of chunks; a load counts the keys in
front of the first empty slot.  After a session of `n` pairs the ring is the old one with the bytes received
laid over it and `num_keys` is `n` (`Laid.run`), and the two counts agree exactly when no uploaded key is empty
and the slot behind them is (`key_counts_agree_iff`).
-/

namespace Everytag

open Bytes Interaction BeaconConfig StateMachine

/-! ## The count of a load -/

theorem countKeys_eq_findIdx (ring : KeyRing) : countKeys ring = ring.toList.findIdx isKeyEmpty := by
  have hle : ring.toList.findIdx isKeyEmpty ≤ ring.toList.length := List.findIdx_le_length
  rw [countKeys, List.takeWhile_eq_take_findIdx_not]
  simpa using hle

theorem countKeys_iff {ring : KeyRing} {n : Nat} (hn : n ≤ 40) :
    countKeys ring = n ↔
      (∀ (i : Nat) (hi : i < 40), i < n → isKeyEmpty ring[i] = false) ∧
        ∀ hn : n < 40, isKeyEmpty ring[n] = true := by
  rw [countKeys_eq_findIdx]
  by_cases hlt : n < 40
  · rw [List.findIdx_eq (by simpa using hlt)]
    constructor
    · rintro ⟨hend, hkeys⟩
      exact ⟨fun i hi hin => by simpa using hkeys i hin, fun _ => by simpa using hend⟩
    · rintro ⟨hkeys, hend⟩
      exact ⟨by simpa using hend hlt, fun i hin => by simpa using hkeys i (by omega) hin⟩
  · obtain rfl : n = ring.toList.length := by simp; omega
    rw [List.findIdx_eq_length]
    constructor
    · intro hkeys
      exact ⟨fun i hi _ => hkeys _ (by simp), fun h => absurd h hlt⟩
    · rintro ⟨hkeys, -⟩ k hk
      obtain ⟨i, hi, rfl⟩ := List.getElem_of_mem hk
      simpa using hkeys i (by simpa using hi) hi

/-! ## The bytes received -/

namespace Device

variable {d : Device} {e : GattEvent} {es : List GattEvent} {buf : List UInt8}

/-- The bytes that an event adds to the keys: a chunk in an open session, while there is room. -/
def received (d : Device) : GattEvent → List UInt8
  | .write .key _ buf =>
    if d.gatt.allowedChange ∧ d.gatt.authorizedGatt ∧ buf.length = 14 ∧
      d.gatt.keysReceived < 2 * kMaxKeysInMemory then buf else []
  | _ => []

/-- The bytes of all chunks that are accepted. -/
def receives (d : Device) : List GattEvent → List UInt8
  | [] => []
  | e :: es => d.received e ++ (d.step e).receives es

theorem received_of_accepted {k : Nat} (h : Accepted (d, e) k buf) : d.received e = buf := by
  obtain ⟨t, he⟩ := h.event
  simp only at he
  rw [he, received, if_pos ⟨h.allowed, h.authorized, h.length, h.count.symm ▸ h.room⟩]

theorem received_of_not_accepted (h : ∀ k buf, ¬ Accepted (d, e) k buf) : d.received e = [] := by
  unfold received
  split
  · rename_i t buf
    split
    · rename_i hc
      exact absurd ⟨⟨t, rfl⟩, hc.1, hc.2.1, hc.2.2.1, rfl, hc.2.2.2⟩ (h _ buf)
    · rfl
  · rfl

theorem numKeys_apply {c : BeaconConfig} {s : Setter} {ch : Chrc} (h : CalledBy ch s) (hne : ch ≠ .key) :
    (s.apply c).numKeys = c.numKeys := by
  refine Setter.apply_keeps (f := BeaconConfig.numKeys) ?_
  cases s with
  | keyChunk | numKeys => cases ch <;> first | exact absurd rfl hne | exact h.elim
  | _ => rfl

/-- The second half of a key sets the count. -/
theorem numKeys_of_accepted {k : Nat} (h : Accepted (d, e) k buf) :
    (d.step e).settings.config.numKeys =
      if k % 2 = 1 then UInt8.ofNat (k / 2 + 1) else d.settings.config.numKeys := by
  obtain ⟨t, he⟩ := h.event
  have hroom : ¬ k ≥ 2 * kMaxKeysInMemory := Nat.not_le.2 h.room
  have hlen := h.length
  have hchunk (idx : Int) (offset : Nat) :
      (d.settings.config.setKeyChunk idx offset buf).numKeys = d.settings.config.numKeys := by
    unfold setKeyChunk
    split <;> rfl
  have hn : (UInt8.ofNat (k / 2 + 1)).toNat ≤ kMaxKeysInMemory := by
    rw [UInt8.toNat_ofNat']
    simp only [kMaxKeysInMemory] at hroom ⊢
    omega
  have hstep : d.step e = { d.bridge t buf .key with gatt := countChunk d.gatt } := by
    simp only at he
    rw [he]
    exact step_key h.allowed h.authorized hlen (h.count.symm ▸ h.room)
  rw [hstep]
  have hk : d.gatt.keysReceived = k := h.count
  simp only [bridge, handleKey, hk, hlen, hroom, ne_eq, not_true_eq_false, if_false]
  split
  · rw [setNumKeys, if_pos hn]
  · exact hchunk _ _

/-- No other event does. -/
theorem numKeys_step (h : ∀ k buf, ¬ Accepted (d, e) k buf) :
    (d.step e).settings.config.numKeys = d.settings.config.numKeys := by
  by_cases hkey : ∃ t buf, e = .write .key t buf
  · obtain ⟨t, buf, rfl⟩ := hkey
    rw [step_key_refused fun hc => h _ buf ⟨⟨t, rfl⟩, hc.1, hc.2.1, hc.2.2.1, rfl, hc.2.2.2⟩]
  · refine step_keeps (f := BeaconConfig.numKeys) fun ch t buf he c s hs => numKeys_apply hs ?_
    rintro rfl
    exact hkey ⟨t, buf, he⟩

/-- `bytes` have arrived since the ring was `ring` with `numKeys` keys. -/
structure Laid (ring : KeyRing) (numKeys : UInt8) (bytes : List UInt8) (d : Device) : Prop where
  length : bytes.length = 14 * d.gatt.keysReceived
  room : d.gatt.keysReceived ≤ 2 * kMaxKeysInMemory
  ring : d.settings.config.keys = overlayRows ring bytes
  numKeys : d.settings.config.numKeys =
    if d.gatt.keysReceived / 2 = 0 then numKeys else UInt8.ofNat (d.gatt.keysReceived / 2)

theorem overlayRows_append {ring : KeyRing} {bytes buf : List UInt8} {k : Nat} (hlen : bytes.length = 14 * k)
    (hbuf : buf.length = 14) {i j : Nat} (hi : i < 40) (hj : j < 28) :
    (overlayRows ring (bytes ++ buf))[i][j] =
      if 2 * i + j / 14 = k then buf[j % 14]?.getD (overlayRows ring bytes)[i][j]
      else (overlayRows ring bytes)[i][j] := by
  simp only [overlayRows, Vector.getElem_ofFn, List.getElem?_append, hlen]
  rcases Nat.lt_trichotomy (2 * i + j / 14) k with hlt | heq | hgt
  · rw [if_pos (by omega), if_neg (by omega)]
  · have hmod : i * 28 + j - 14 * k = j % 14 := by omega
    have hend : bytes[i * 28 + j]? = none := List.getElem?_eq_none (by omega)
    rw [if_neg (by omega), if_pos heq, hmod, hend, Option.getD_none]
  · have hend : bytes[i * 28 + j]? = none := List.getElem?_eq_none (by omega)
    have hpast : buf[i * 28 + j - 14 * k]? = none := List.getElem?_eq_none (by omega)
    rw [if_neg (by omega), if_neg (by omega), hend, hpast]

theorem Laid.step {ring : KeyRing} {numKeys : UInt8} {bytes : List UInt8} (h : Laid ring numKeys bytes d)
    (he : e ≠ .startSettingsAdv) : Laid ring numKeys (bytes ++ d.received e) (d.step e) := by
  by_cases hacc : ∃ k buf, Accepted (d, e) k buf
  · obtain ⟨k, buf, hacc⟩ := hacc
    have hk : d.gatt.keysReceived = k := hacc.count
    have hk' : (d.step e).gatt.keysReceived = k + 1 := hacc.keysReceived
    have hlen := h.length
    have hbuf := hacc.length
    refine ⟨?_, ?_, ?_, ?_⟩
    · rw [received_of_accepted hacc, List.length_append, hk']
      omega
    · rw [hk']
      exact hacc.room
    · rw [received_of_accepted hacc]
      ext i hi j hj : 2
      rw [overlayRows_append (hk ▸ hlen) hbuf hi hj, ← h.ring]
      exact hacc.getElem hi hj
    · rw [numKeys_of_accepted hacc, hk', h.numKeys, hk]
      by_cases hodd : k % 2 = 1
      · have hhalf : (k + 1) / 2 = k / 2 + 1 := by omega
        rw [if_pos hodd, hhalf, if_neg (by omega)]
      · have hhalf : (k + 1) / 2 = k / 2 := by omega
        rw [if_neg hodd, hhalf]
  · simp only [not_exists] at hacc
    rw [received_of_not_accepted hacc, List.append_nil]
    have hnum := numKeys_step hacc
    have hs := ringStep (d := d) (e := e)
    generalize d.step e = d' at hs hnum ⊢
    cases hs with
    | chunk h' => exact absurd h' (hacc _ _)
    | restart => exact absurd rfl he
    | disconnected hring hc =>
      exact ⟨hc.symm ▸ h.length, hc.symm ▸ h.room, hring.trans h.ring,
        by rw [hnum, hc]; exact h.numKeys⟩
    | other _ _ _ hring hcount =>
      have hc := hcount.keysReceived
      exact ⟨hc.symm ▸ h.length, hc.symm ▸ h.room, hring.trans h.ring,
        by rw [hnum, hc]; exact h.numKeys⟩

theorem Laid.run {ring : KeyRing} {numKeys : UInt8} {bytes : List UInt8} (h : Laid ring numKeys bytes d)
    (hes : GattEvent.startSettingsAdv ∉ es) : Laid ring numKeys (bytes ++ d.receives es) (d.run es) := by
  induction es generalizing d bytes with
  | nil => simpa [receives] using h
  | cons e es ih =>
    rw [receives, ← List.append_assoc]
    exact ih (h.step fun he => hes (he ▸ List.mem_cons_self)) fun hm => hes (List.mem_cons_of_mem _ hm)

end Device

/-! ## The two counts -/

/-- Ring and count are those of a load, and no chunk has been counted yet. -/
structure LoadedRing (nvs : Nvs) (d : Device) : Prop where
  keys : d.settings.config.keys = (BeaconConfig.load nvs.read).keys
  numKeys : d.settings.config.numKeys = (BeaconConfig.load nvs.read).numKeys
  noChunks : d.gatt.keysReceived = 0

/-- Key number `i` of the bytes sent. -/
def keySent (bytes : List UInt8) (i : Nat) : List UInt8 := (bytes.drop (28 * i)).take 28

/-- No key of the upload is empty, and the slot behind its `n` keys is. -/
def KeysEnd (ring : KeyRing) (bytes : List UInt8) (n : Nat) : Prop :=
  (∀ i < n, (keySent bytes i).all (· == 0) = false) ∧ ∀ hn : n < 40, isKeyEmpty ring[n] = true

/-- A call hands over a key that is not empty, if it hands over one. -/
def SelectsKey (c : Call) : Prop := ∀ key, c = .prepareAirtag key → isKeyEmpty key = false

/-- The count in the configuration is the one of the next load, and no rotation selects an empty key. -/
structure CountsAgree (m : SettingsManager) : Prop where
  reloaded : m.config.numKeys = (m.save .key).load.config.numKeys
  leading : m.config.numKeys.toNat = countKeys m.config.keys
  rotation : ∀ s, wp (free SelectsKey (Steady m.config)) (handleKeyRotation s) (fun _ _ => True) ()

theorem toList_overlayRows (ring : KeyRing) {bytes : List UInt8} {i : Nat} (hi : i < 40)
    (hlen : 28 * (i + 1) ≤ bytes.length) : (overlayRows ring bytes)[i].toList = keySent bytes i := by
  apply List.ext_getElem
  · simp [keySent]
    omega
  · intro j h1 h2
    have hj : j < 28 := by simpa using h1
    have hbyte : i * 28 + j < bytes.length := by omega
    simp only [overlayRows, Vector.getElem_toList, Vector.getElem_ofFn, List.getElem?_eq_getElem hbyte,
      Option.getD_some, keySent, List.getElem_take, List.getElem_drop, Nat.mul_comm]

theorem isKeyEmpty_overlayRows (ring : KeyRing) {bytes : List UInt8} {i : Nat} (hi : i < 40)
    (hlen : 28 * (i + 1) ≤ bytes.length) :
    isKeyEmpty (overlayRows ring bytes)[i] = (keySent bytes i).all (· == 0) := by
  rw [isKeyEmpty, toList_overlayRows ring hi hlen]

theorem overlayRows_past {ring : KeyRing} {bytes : List UInt8} {i : Nat} (hi : i < 40)
    (hlen : bytes.length ≤ 28 * i) : (overlayRows ring bytes)[i] = ring[i] := by
  ext j hj : 1
  have hend : bytes[i * 28 + j]? = none := List.getElem?_eq_none (by omega)
  simp only [overlayRows, Vector.getElem_ofFn, hend, Option.getD_none]
  rfl

theorem overlayRows_nil (ring : KeyRing) : overlayRows ring [] = ring := by
  ext i hi : 1
  exact overlayRows_past hi (Nat.zero_le _)

theorem toNat_ofNat_countKeys (ring : KeyRing) : (UInt8.ofNat (countKeys ring)).toNat = countKeys ring := by
  have hle := countKeys_le ring
  rw [UInt8.toNat_ofNat']
  simp only [kMaxKeysInMemory] at hle
  omega

/-- A load counts the ring it has read. -/
theorem numKeys_load (nvs : Nvs) :
    (BeaconConfig.load nvs.read).numKeys.toNat = countKeys (BeaconConfig.load nvs.read).keys := by
  obtain ⟨c, hc⟩ : ∃ c, BeaconConfig.load nvs.read = loadFmdnKey nvs.read (loadKeys nvs.read c) :=
    ⟨((loadSteps nvs.read).take 11).foldl (fun c f => f c) {}, rfl⟩
  have hring := apply_loadFmdnKey (f := BeaconConfig.keys) (fun _ _ => rfl) nvs.read
  have hcount := apply_loadFmdnKey (f := BeaconConfig.numKeys) (fun _ _ => rfl) nvs.read
  by_cases hr : (nvs.read NvsFieldId.key.id 1120).1 > 0
  · rw [hc, hring, hcount, loadKeys, if_pos hr]
    exact toNat_ofNat_countKeys _
  · have hnone : (nvs.read NvsFieldId.key.id 1120).2 = [] := by
      revert hr
      unfold Nvs.read
      split
      · rename_i bs _
        cases bs <;> simp
      · simp
    rw [load_keys, hnone, hc, hcount, loadKeys, if_neg hr]
    symm
    rw [UInt8.toNat_zero, countKeys_iff (Nat.zero_le 40)]
    refine ⟨fun i _ hi => absurd hi (Nat.not_lt_zero i), fun _ => ?_⟩
    rw [overlayRows_past (by decide) (Nat.zero_le _)]
    decide

/-- What is saved is counted by the next load. -/
theorem numKeys_reload (m : SettingsManager) :
    (m.save .key).load.config.numKeys = UInt8.ofNat (countKeys m.config.keys) := by
  have hfind : (m.save .key).nvs.find NvsFieldId.key.id = some (flat m.config.keys) := by
    rw [SettingsManager.find_save, if_pos rfl]
    rfl
  exact (load_keys_of_find hfind).2

theorem broadcast_selects (c : BeaconConfig) (s : StateMachine) (u : Unit) :
    wp (free SelectsKey (Steady c)) (broadcast s) (fun _ _ => True) u := by
  simp [broadcast, SelectsKey]

theorem rotation_selects {c : BeaconConfig} (h : c.numKeys.toNat = countKeys c.keys) (s : StateMachine) :
    wp (free SelectsKey (Steady c)) (handleKeyRotation s) (fun _ _ => True) () := by
  have hle : countKeys c.keys ≤ 40 := countKeys_le c.keys
  have hfull := ((countKeys_iff hle).1 rfl).1
  have hkey (hne : c.numKeys ≠ 0) (key : Key)
      (hk : ∀ k, c.keys[(rotate s.currentKey c.numKeys).toNat]? = some k → key = k) :
      isKeyEmpty key = false := by
    have hidx := UInt8.lt_iff_toNat_lt.1 (rotate_lt s.currentKey hne)
    have h40 : (rotate s.currentKey c.numKeys).toNat < 40 := by omega
    rw [hk _ (Vector.getElem?_eq_getElem h40)]
    exact hfull _ h40 (by omega)
  simp +contextual [handleKeyRotation, setMacFromCurrentKey, SelectsKey, broadcast_selects]
  intro now _ hne _ key hk
  exact hkey hne key hk

theorem countsAgree_iff {m : SettingsManager} :
    CountsAgree m ↔ m.config.numKeys.toNat = countKeys m.config.keys := by
  constructor
  · intro h
    exact h.leading
  · intro h
    refine ⟨?_, h, rotation_selects h⟩
    rw [numKeys_reload, ← UInt8.toNat_inj, h, toNat_ofNat_countKeys]

/-- After a session of `n` pairs of chunks over a ring that was loaded, the two counts agree exactly when the
upload was empty, or is a list of keys with an empty slot of the old ring behind it. -/
theorem key_counts_agree_iff (nvs : Nvs) (d : Device) (es : List GattEvent) (n : Nat) (h : LoadedRing nvs d)
    (hes : GattEvent.startSettingsAdv ∉ es) (hlen : (d.receives es).length = 28 * n) :
    CountsAgree (d.run es).settings ↔
      n = 0 ∨ KeysEnd (BeaconConfig.load nvs.read).keys (d.receives es) n := by
  have hfirst : d.Laid (BeaconConfig.load nvs.read).keys (BeaconConfig.load nvs.read).numKeys [] := by
    rw [← h.keys, ← h.numKeys]
    refine ⟨?_, ?_, (overlayRows_nil _).symm, ?_⟩
    · rw [h.noChunks]
      rfl
    · rw [h.noChunks]
      exact Nat.zero_le _
    · rw [h.noChunks]
      rfl
  have hlaid := hfirst.run hes
  rw [List.nil_append] at hlaid
  have hcount := hlaid.length
  have hroom := hlaid.room
  simp only [kMaxKeysInMemory] at hroom
  have hhalf : (d.run es).gatt.keysReceived / 2 = n := by omega
  have hnum := hlaid.numKeys
  rw [hhalf] at hnum
  rw [countsAgree_iff, hnum, hlaid.ring]
  by_cases hn : n = 0
  · have hnil : d.receives es = [] := List.length_eq_zero_iff.1 (by omega)
    simp only [hn, if_true, hnil, overlayRows_nil, true_or, iff_true]
    exact numKeys_load nvs
  · have htoNat : (UInt8.ofNat n).toNat = n := by
      rw [UInt8.toNat_ofNat']
      omega
    simp only [hn, if_false, htoNat, false_or]
    rw [eq_comm, countKeys_iff (by omega), KeysEnd]
    refine and_congr ?_ ?_
    · constructor
      · intro hkeys i hi
        rw [← isKeyEmpty_overlayRows (BeaconConfig.load nvs.read).keys (by omega) (by omega)]
        exact hkeys i (by omega) hi
      · intro hkeys i hi hin
        rw [isKeyEmpty_overlayRows _ hi (by omega)]
        exact hkeys i hin
    · refine forall_congr' fun hn40 => ?_
      rw [overlayRows_past hn40 (by omega)]

/-- One key and nothing behind it, over the ring of erased flash. -/
theorem key_counts_agree_iff_one_key :
    CountsAgree (Device.defaultSession.run (Device.sendKey 0 (.replicate 28 0x5A))).settings := by
  have h : LoadedRing .erased Device.defaultSession := ⟨rfl, rfl, rfl⟩
  have hagree := key_counts_agree_iff .erased Device.defaultSession
    (Device.sendKey 0 (.replicate 28 0x5A)) 1 h (by decide) (by decide)
  exact hagree.2 (.inr ⟨by decide, by decide⟩)

/-- One key as `conn_beacon.py` sends it: the empty key at the end is counted too. -/
theorem terminator_counted :
    let d := Device.defaultSession.run (Device.upload 0 [.replicate 28 0x5A])
    d.settings.config.numKeys = 2 ∧ countKeys d.settings.config.keys = 1 ∧ ¬ CountsAgree d.settings := by
  intro d
  have hnum : d.settings.config.numKeys = 2 := by decide
  have hcount : countKeys d.settings.config.keys = 1 := by decide
  refine ⟨hnum, hcount, ?_⟩
  rw [countsAgree_iff, hnum, hcount]
  decide

end Everytag
