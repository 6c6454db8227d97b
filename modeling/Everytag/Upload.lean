import Everytag.Persistence

/-!
# Uploading keys

A client sends each key as two chunks of 14 bytes and ends a list of fewer than forty keys with an
empty one.  A chunk lands in the half of the slot that the chunk counter names and nowhere else
(`getElem_step_key`); two chunks fill a slot (`run_sendKey`); the ring is saved when the client
disconnects, and a load counts the keys in front of the empty one.
-/

namespace Everytag

open Bytes BeaconConfig

namespace BeaconConfig

theorem getElem_setKeyChunk {c : BeaconConfig} {keyIdx offset : Nat} {data : List UInt8}
    (h : ChunkFits keyIdx offset data) {i j : Nat} (hi : i < 40) (hj : j < 28) :
    (c.setKeyChunk keyIdx offset data).keys[i][j] =
      if i = keyIdx ∧ offset ≤ j then data[j - offset]?.getD c.keys[i][j] else c.keys[i][j] := by
  have hidx := h.idx_lt
  simp only [setKeyChunk, h, dif_pos, Int.toNat_natCast] at hidx ⊢
  by_cases hik : i = keyIdx
  · subst hik
    simp [getElem_blit]
  · simp [hik, Ne.symm hik]

end BeaconConfig

namespace Device

variable {d : Device} {t : UInt32} {buf : List UInt8}

theorem step_key (ha : d.gatt.allowedChange = true) (hz : d.gatt.authorizedGatt = true)
    (hlen : buf.length = 14) (hk : d.gatt.keysReceived < 2 * kMaxKeysInMemory) :
    d.step (.write .key t buf) = { d.bridge t buf .key with gatt := countChunk d.gatt } := by
  simp only [step, handle, attWrite, writeAuthorize, hz, Bool.true_or, if_true, chrcWrite]
  exact chrcWriteKey_snd ha hlen hk

/-- An accepted chunk changes the half of the slot that the counter names, and no other byte. -/
theorem getElem_step_key (ha : d.gatt.allowedChange = true) (hz : d.gatt.authorizedGatt = true)
    (hlen : buf.length = 14) (hk : d.gatt.keysReceived < 2 * kMaxKeysInMemory) {i j : Nat}
    (hi : i < 40) (hj : j < 28) :
    (d.step (.write .key t buf)).settings.config.keys[i][j] =
      if 2 * i + j / 14 = d.gatt.keysReceived then buf[j % 14]?.getD d.settings.config.keys[i][j]
      else d.settings.config.keys[i][j] := by
  obtain ⟨hkeys, -⟩ := handleKey_snd (m := d.settings) hlen hk
  simp only [step_key ha hz hlen hk, bridge, hkeys, getElem_setKeyChunk (chunkFits hlen hk) hi hj]
  by_cases hslot : 2 * i + j / 14 = d.gatt.keysReceived
  · have h1 : i = d.gatt.keysReceived / 2 ∧ 14 * (d.gatt.keysReceived % 2) ≤ j := by omega
    have h2 : j - 14 * (d.gatt.keysReceived % 2) = j % 14 := by omega
    rw [if_pos h1, if_pos hslot, h2]
  · rw [if_neg hslot]
    split
    · have : buf.length ≤ j - 14 * (d.gatt.keysReceived % 2) := by omega
      simp [List.getElem?_eq_none this]
    · rfl

theorem step_key_nvs (ha : d.gatt.allowedChange = true) (hz : d.gatt.authorizedGatt = true)
    (hlen : buf.length = 14) (hk : d.gatt.keysReceived < 2 * kMaxKeysInMemory) :
    (d.step (.write .key t buf)).settings.nvs = d.settings.nvs := by
  rw [step_key ha hz hlen hk]
  exact (handleKey_snd hlen hk).2

/-! ## Whole keys -/

/-- The two writes of one key. -/
def sendKey (t : UInt32) (key : Key) : List GattEvent :=
  [.write .key t (key.toList.take 14), .write .key t (key.toList.drop 14)]

/-- `2 * m` chunks have been counted in an open session. -/
structure Receiving (m : Nat) (d : Device) : Prop where
  allowed : d.gatt.allowedChange = true
  authorized : d.gatt.authorizedGatt = true
  count : d.gatt.keysReceived = 2 * m

/-- Two chunks that are the halves of a key fill its slot. -/
theorem set_of_halves {ring ring₁ ring₂ : KeyRing} {m : Nat} (hm : m < 40) (key : Key)
    (h₁ : ∀ (i j : Nat) (hi : i < 40) (hj : j < 28), ring₁[i][j] =
      if 2 * i + j / 14 = 2 * m then (key.toList.take 14)[j % 14]?.getD ring[i][j] else ring[i][j])
    (h₂ : ∀ (i j : Nat) (hi : i < 40) (hj : j < 28), ring₂[i][j] =
      if 2 * i + j / 14 = 2 * m + 1 then (key.toList.drop 14)[j % 14]?.getD ring₁[i][j] else ring₁[i][j]) :
    ring₂ = ring.set m key := by
  ext i hi j hj : 2
  rw [h₂ i j hi hj, h₁ i j hi hj, Vector.getElem_set]
  by_cases him : m = i
  · subst him
    rw [if_pos rfl]
    by_cases hj14 : j < 14
    · have hmod : j % 14 = j := by omega
      rw [if_neg (by omega), if_pos (by omega), hmod]
      simp [hj14]
    · have hmod : 14 + j % 14 = j := by omega
      rw [if_pos (by omega), List.getElem?_drop, hmod]
      simp [hj]
  · rw [if_neg (by omega), if_neg (by omega), if_neg him]

/-- What the counters are after a first and after a second half. -/
theorem countChunk_of_even {g : Gatt} {m : Nat} (h : g.keysReceived = 2 * m) :
    countChunk g = { g with keysReceived := 2 * m + 1 } := by
  simp [countChunk, h]

theorem countChunk_of_odd {g : Gatt} {m : Nat} (h : g.keysReceived = 2 * m + 1) :
    countChunk g = { g with keysReceived := 2 * (m + 1), needsReset := true,
                            updateKeysAtDisconnect := true, pauseUpload := false } := by
  have heven : (2 * m + 1 + 1) % 2 = 0 := by omega
  simp [countChunk, h, heven, Nat.mul_add]

/-- A key fills the next slot. -/
theorem run_sendKey {m : Nat} (h : d.Receiving m) (hm : m < 40) (key : Key) :
    let d' := d.run (sendKey t key)
    d'.Receiving (m + 1) ∧ d'.settings.nvs = d.settings.nvs ∧ d'.gatt.updateKeysAtDisconnect = true ∧
      d'.settings.config.keys = d.settings.config.keys.set m key := by
  intro d'
  obtain ⟨ha, hz, hc⟩ := h
  have hl : (key.toList.take 14).length = 14 := by simp
  have hr : (key.toList.drop 14).length = 14 := by simp
  have hk : d.gatt.keysReceived < 2 * kMaxKeysInMemory := by
    simp only [kMaxKeysInMemory]
    omega
  -- after the first half
  let d₁ := d.step (.write .key t (key.toList.take 14))
  have hg₁ : d₁.gatt = { d.gatt with keysReceived := 2 * m + 1 } := by
    show (Device.step _ _).gatt = _
    rw [step_key ha hz hl hk]
    exact countChunk_of_even hc
  have ha₁ : d₁.gatt.allowedChange = true := by rw [hg₁]; exact ha
  have hz₁ : d₁.gatt.authorizedGatt = true := by rw [hg₁]; exact hz
  have hc₁ : d₁.gatt.keysReceived = 2 * m + 1 := by rw [hg₁]
  have hk₁ : d₁.gatt.keysReceived < 2 * kMaxKeysInMemory := by
    simp only [kMaxKeysInMemory]
    omega
  -- after the second half
  have hg : d'.gatt = { d₁.gatt with keysReceived := 2 * (m + 1), needsReset := true,
                                     updateKeysAtDisconnect := true, pauseUpload := false } := by
    show (d₁.step _).gatt = _
    rw [step_key ha₁ hz₁ hr hk₁]
    exact countChunk_of_odd hc₁
  refine ⟨⟨by rw [hg]; exact ha₁, by rw [hg]; exact hz₁, by rw [hg]⟩, ?_, by rw [hg], ?_⟩
  · exact (step_key_nvs ha₁ hz₁ hr hk₁).trans (step_key_nvs ha hz hl hk)
  · exact set_of_halves hm key (fun i j hi hj => hc ▸ getElem_step_key ha hz hl hk hi hj)
      (fun i j hi hj => hc₁ ▸ getElem_step_key ha₁ hz₁ hr hk₁ hi hj)

/-- The ring with `ks` laid into the slots from `m` on. -/
theorem run_sendKeys {m : Nat} (t : UInt32) (ks : List Key) (h : d.Receiving m) (hm : m + ks.length ≤ 40) :
    let d' := d.run (ks.flatMap (sendKey t))
    d'.Receiving (m + ks.length) ∧ d'.settings.nvs = d.settings.nvs ∧
      (ks ≠ [] → d'.gatt.updateKeysAtDisconnect = true) ∧
      ∀ (i : Nat) (hi : i < 40), d'.settings.config.keys[i] =
        if m ≤ i then ks[i - m]?.getD d.settings.config.keys[i] else d.settings.config.keys[i] := by
  induction ks generalizing d m with
  | nil => exact ⟨h, rfl, fun h => absurd rfl h, fun i hi => by simp⟩
  | cons k ks ih =>
    simp only [List.length_cons] at hm
    obtain ⟨h₁, hn₁, hu₁, hr₁⟩ := run_sendKey (t := t) h (by omega) k
    obtain ⟨h₂, hn₂, hu₂, hr₂⟩ := ih h₁ (by omega)
    rw [List.flatMap_cons, run_append]
    refine ⟨?_, hn₂.trans hn₁, fun _ => ?_, fun i hi => ?_⟩
    · rw [List.length_cons, Nat.add_comm ks.length, ← Nat.add_assoc]
      exact h₂
    · by_cases hks : ks = []
      · subst hks
        exact hu₁
      · exact hu₂ hks
    · rw [hr₂ i hi, hr₁, Vector.getElem_set]
      rcases Nat.lt_trichotomy i m with hlt | rfl | hgt
      · rw [if_neg (by omega), if_neg (by omega), if_neg (by omega)]
      · rw [if_neg (by omega), if_pos rfl, if_pos (le_refl _)]
        simp
      · rw [if_pos (by omega), if_neg (by omega), if_pos (by omega)]
        have : i - m = i - (m + 1) + 1 := by omega
        simp [this]

/-! ## The whole upload -/

def emptyKey : Key := Vector.replicate 28 0

/-- What `conn_beacon.py` sends for a list of keys. -/
def upload (t : UInt32) (keys : List Key) : List GattEvent :=
  (if keys.length < 40 then keys ++ [emptyKey] else keys).flatMap (sendKey t)

/-- After the upload the keys stand at the head of the ring, an empty one behind them, and the ring is to be
saved. -/
theorem run_upload (h : d.Receiving 0) (t : UInt32) {keys : List Key} (hlen : keys.length ≤ 40) :
    let d' := d.run (upload t keys)
    d'.gatt.updateKeysAtDisconnect = true ∧
      (∀ (i : Nat) (hi : i < 40), i < keys.length → keys[i]? = some d'.settings.config.keys[i]) ∧
      ∀ hi : keys.length < 40, d'.settings.config.keys[keys.length] = emptyKey := by
  intro d'
  obtain ⟨sent, hsent⟩ : ∃ sent, sent = if keys.length < 40 then keys ++ [emptyKey] else keys := ⟨_, rfl⟩
  have hd' : d' = d.run (sent.flatMap (sendKey t)) := by rw [hsent]; rfl
  have hfits : 0 + sent.length ≤ 40 := by
    rw [hsent]
    split
    · rw [List.length_append, List.length_singleton]; omega
    · omega
  have hne : sent ≠ [] := by
    rw [hsent]
    split
    · simp
    · intro hnil
      simp [hnil] at *
  have hget (i : Nat) (hik : i < keys.length) : sent[i]? = keys[i]? := by
    rw [hsent]
    split
    · exact List.getElem?_append_left hik
    · rfl
  obtain ⟨-, -, hupd, hring⟩ := run_sendKeys t sent h hfits
  rw [← hd'] at hupd hring
  refine ⟨hupd hne, fun i hi hik => ?_, fun hlt => ?_⟩
  · rw [hring i hi, if_pos (Nat.zero_le _), Nat.sub_zero, hget i hik, List.getElem?_eq_getElem hik,
      Option.getD_some]
  · rw [hring _ hlt, if_pos (Nat.zero_le _), Nat.sub_zero, hsent, if_pos hlt, List.getElem?_concat_length,
      Option.getD_some]

/-- A ring that is to be saved is what the load after the disconnection finds. -/
theorem load_disconnected (h : d.gatt.updateKeysAtDisconnect = true) :
    let loaded := BeaconConfig.load (d.step .disconnected).settings.nvs.read
    loaded.keys = d.settings.config.keys ∧
      loaded.numKeys.toNat = countKeys d.settings.config.keys := by
  have hfind : (d.step .disconnected).settings.nvs.find NvsFieldId.key.id =
      some (flat d.settings.config.keys) := by
    rw [step_disconnected_settings h]
    simp [fieldBytes]
  obtain ⟨hkeys, hnum⟩ := load_keys_of_find hfind
  have hle := countKeys_le d.settings.config.keys
  refine ⟨hkeys, ?_⟩
  rw [hnum, UInt8.toNat_ofNat']
  simp only [kMaxKeysInMemory] at hle
  omega

end Device

open Device

theorem countKeys_eq {ring : KeyRing} {keys : List Key} (hne : ∀ k ∈ keys, isKeyEmpty k = false)
    (hring : ∀ (i : Nat) (hi : i < 40), i < keys.length → keys[i]? = some ring[i])
    (hlen : keys.length ≤ 40) (hend : ∀ hi : keys.length < 40, isKeyEmpty ring[keys.length] = true) :
    countKeys ring = keys.length := by
  have htake : ring.toList.take keys.length = keys := by
    apply List.ext_getElem
    · simp [hlen]
    · intro i h1 h2
      have := hring i (by omega) h2
      rw [List.getElem?_eq_getElem h2, Option.some.injEq] at this
      simp [this]
  have hsplit : ring.toList = keys ++ ring.toList.drop keys.length := by
    conv_lhs => rw [← List.take_append_drop keys.length ring.toList, htake]
  have hrest : (ring.toList.drop keys.length).takeWhile (fun k => !isKeyEmpty k) = [] := by
    by_cases hlt : keys.length < 40
    · rw [List.drop_eq_getElem_cons (by simpa using hlt), Vector.getElem_toList, List.takeWhile_cons]
      simp [hend hlt]
    · rw [List.drop_of_length_le (by simp; omega), List.takeWhile_nil]
  rw [countKeys, hsplit, List.takeWhile_append_of_pos (by simpa using hne), hrest, List.append_nil]

namespace Device

variable {d : Device} {t : UInt32} {buf : List UInt8}

/-- A chunk that is not accepted changes nothing at all. -/
theorem step_key_refused (h : ¬ (d.gatt.allowedChange = true ∧ d.gatt.authorizedGatt = true ∧
      buf.length = 14 ∧ d.gatt.keysReceived < 2 * kMaxKeysInMemory)) :
    d.step (.write .key t buf) = d := by
  simp only [step, handle, attWrite, writeAuthorize]
  by_cases hz : d.gatt.authorizedGatt = true
  · by_cases ha : d.gatt.allowedChange = true
    · have hr : buf.length ≠ 14 ∨ 2 * kMaxKeysInMemory ≤ d.gatt.keysReceived := by
        simp only [ha, hz, true_and, not_and_or, not_lt] at h
        exact h
      simp [hz, chrcWrite, chrcWriteKey, ha, handleKey_refused hr]
    · simp [hz, chrcWrite, chrcWriteKey, ha]
  · simp [hz]

/-- Whatever is written to the key characteristic, only bytes of the half named by the counter
change. -/
theorem step_key_frame {i j : Nat} (hi : i < 40) (hj : j < 28)
    (h : (d.step (.write .key t buf)).settings.config.keys[i][j] ≠ d.settings.config.keys[i][j]) :
    2 * i + j / 14 = d.gatt.keysReceived := by
  by_contra hne
  apply h
  by_cases hacc : d.gatt.allowedChange = true ∧ d.gatt.authorizedGatt = true ∧ buf.length = 14 ∧
      d.gatt.keysReceived < 2 * kMaxKeysInMemory
  · obtain ⟨ha, hz, hlen, hk⟩ := hacc
    rw [getElem_step_key ha hz hlen hk hi hj, if_neg hne]
  · rw [step_key_refused hacc]

end Device

/-- An authenticated client sends up to forty keys, whatever ring was there before, and disconnects:
the next load has exactly these keys, in order.  No chunk changes a byte outside of the half slot
that the chunk counter names. -/
theorem upload_round_trip (d : Device) (t : UInt32) (keys : List Key) (hlen : keys.length ≤ 40)
    (hne : ∀ k ∈ keys, isKeyEmpty k = false) (h : d.Receiving 0) :
    let nvs := (d.run (upload t keys ++ [.disconnected])).settings.nvs
    let loaded := (SettingsManager.load ⟨{}, nvs⟩).config
    loaded.numKeys.toNat = keys.length ∧
    (∀ (i : Nat) (hi : i < 40), i < keys.length → keys[i]? = some loaded.keys[i]) ∧
    ∀ (d₁ : Device) (t₁ : UInt32) (buf : List UInt8) (i j : Nat) (hi : i < 40) (hj : j < 28),
      (d₁.step (.write .key t₁ buf)).settings.config.keys[i][j] ≠ d₁.settings.config.keys[i][j] →
      2 * i + j / 14 = d₁.gatt.keysReceived := by
  intro nvs loaded
  let d' := d.run (upload t keys)
  obtain ⟨hupd, hhead, hend⟩ := run_upload h t hlen
  have hnvs : nvs = (d'.step .disconnected).settings.nvs := by
    simp only [nvs, run_append, run_cons, run_nil, d']
  obtain ⟨hkeys, hnum⟩ : loaded.keys = d'.settings.config.keys ∧
      loaded.numKeys.toNat = countKeys d'.settings.config.keys := by
    show (BeaconConfig.load nvs.read).keys = _ ∧ (BeaconConfig.load nvs.read).numKeys.toNat = _
    rw [hnvs]
    exact load_disconnected hupd
  refine ⟨?_, fun i hi hik => ?_, fun d₁ t₁ buf i j hi hj => step_key_frame hi hj⟩
  · rw [hnum]
    exact countKeys_eq hne hhead hlen fun hlt => by rw [hend hlt]; decide
  · rw [hkeys]
    exact hhead i hi hik

/-- A client that sends the code of the device can start an upload. -/
theorem Device.receiving_opened (d : Device) (t : UInt32) :
    (d.run [.startSettingsAdv, .connected 0, .write .auth t d.settings.config.authCode.toList]).Receiving 0 := by
  have hcode : 0 < handleAuth d.settings d.settings.config.authCode.toList := handleAuth_pos.2 rfl
  constructor <;>
    simp [run, step, handle, attWrite, writeAuthorize, chrcWrite, chrcWriteAuth, connected, startSettingsAdv, hcode]

/-- One key, in a session after one that has stored three: the empty key behind it hides the other two. -/
theorem upload_round_trip_shorter :
    let key (b : UInt8) : Key := .replicate 28 b
    let stored := defaultSession.run (upload 0 [key 1, key 2, key 3] ++ [.disconnected])
    let session := stored.run
      [.startSettingsAdv, .connected 0, .write .auth 9 stored.settings.config.authCode.toList]
    let nvs := (session.run (upload 9 [key 4] ++ [.disconnected])).settings.nvs
    (BeaconConfig.load stored.settings.nvs.read).numKeys.toNat = 3 ∧
      (BeaconConfig.load nvs.read).numKeys.toNat = 1 ∧ (BeaconConfig.load nvs.read).keys[0]? = some (key 4) := by
  intro key stored session nvs
  have hopen : defaultSession.Receiving 0 := ⟨by decide, by decide, by decide⟩
  have hagain : session.Receiving 0 := stored.receiving_opened 9
  clear_value session
  obtain ⟨hthree, -⟩ := upload_round_trip defaultSession 0 [key 1, key 2, key 3] (by decide) (by decide) hopen
  obtain ⟨hnum, hkeys, -⟩ := upload_round_trip session 9 [key 4] (by decide) (by decide) hagain
  exact ⟨hthree, hnum, (hkeys 0 (by decide) (by decide)).symm⟩

end Everytag
