import Everytag.Hardware

/-!
# What is on air

The globals of `ble_glue.c` that hold the two advertisements, and the three functions of
`ZephyrHardware` that write them.  At first the advertising data points to a literal, and from the
first `prepare_*` on to a store; each store has one status byte that is saved across the copies.

Whatever the order of the calls, the stores are a function of the last key of each protocol and the
last status bytes (`Prepared`), and the address and the AirTag payload give the key back (`recoverKey`).
-/

namespace Everytag

/-! ## Globals -/

/-- Where `adv_airtag[0].data` or `adv_fmdn[1].data` points. -/
inductive AdvertSource
  | literal | store
deriving DecidableEq, Repr

/-- The initial bytes of `offline_finding_adv_template`. -/
def offlineFindingAdvTemplate : OfflineFindingAdvTemplate :=
  #v[0x1e, 0xff, 0x4c, 0x00, 0x12, 0x19, 0xAA,
    0x00, 0x00, 0x00, 0x00, 0x00, 0x00, 0x00, 0x00,
    0x00, 0x00, 0x00, 0x00, 0x00, 0x00, 0x00, 0x00,
    0x00, 0x00, 0x00, 0x00, 0x00, 0x00,
    0x00, 0x00]

/-- The literal of `adv_airtag`. -/
def advAirtagLiteral : Vector UInt8 29 :=
  #v[0x4c, 0x00, 0x02, 0x15, 0x18, 0xee, 0x15, 0x16,
    0x01, 0x6b, 0x4b, 0xec, 0xad, 0x96,
    0xbc, 0xb9, 0x6d, 0x16, 0x6e, 0x97,
    0x00, 0x00, 0x00, 0x00, 0x00, 0x00, 0x00, 0x00, 0x00]

/-- The literal of `adv_fmdn`. -/
def advFmdnLiteral : Vector UInt8 24 :=
  #v[0xAA, 0xFE, 0x41,
    0x00, 0x00, 0x00, 0x00, 0x00, 0x00, 0x00, 0x00, 0x00, 0x00,
    0x00, 0x00, 0x00, 0x00, 0x00, 0x00, 0x00, 0x00, 0x00, 0x00,
    0xc0]

structure AdvertData where
  template : OfflineFindingAdvTemplate := offlineFindingAdvTemplate
  airtagDataStore : Vector UInt8 31 := Vector.replicate 31 0
  fmdnDataStore : Vector UInt8 25 := Vector.replicate 25 0
  advAirtag : AdvertSource := .literal
  advFmdn : AdvertSource := .literal
  bleAddr : Mac := #v[0xFF, 0xBB, 0xCC, 0xDD, 0xEE, 0xFF]
deriving DecidableEq, Repr

namespace AdvertData

/-- The bytes `adv_airtag[0].data` points to; the store has a length and a type byte in front. -/
def airtagPayload (w : AdvertData) : Vector UInt8 29 :=
  match w.advAirtag with
  | .literal => advAirtagLiteral
  | .store => Vector.ofFn fun i => w.airtagDataStore[i.val + 2]

/-- The bytes `adv_fmdn[1].data` points to. -/
def fmdnPayload (w : AdvertData) : Vector UInt8 24 :=
  match w.advFmdn with
  | .literal => advFmdnLiteral
  | .store => Vector.ofFn fun i => w.fmdnDataStore[i.val]

/-! ## Calls -/

def prepareAirtag (w : AdvertData) (key : Key) : AdvertData :=
  let template := fillAdvTemplate key w.template
  let statusSave := w.airtagDataStore[6]
  { w with
    bleAddr := deriveMacFromKey key
    template := template
    airtagDataStore := (Bytes.blit w.airtagDataStore 0 template.toList (by simp)).set 6 statusSave
    advAirtag := .store }

/-- From the second call on the first copy is of the store onto itself. -/
def prepareFmdn (w : AdvertData) (key : FmdnKey) : AdvertData :=
  let statusSave := w.fmdnDataStore[23]
  let store := Bytes.blit w.fmdnDataStore 0 w.fmdnPayload.toList (by simp)
  { w with
    fmdnDataStore := (Bytes.blit store 3 key.toList (by simp)).set 23 statusSave
    advFmdn := .store }

def setStatusBytes (w : AdvertData) (airtagStatus fmdnStatus : UInt8) : AdvertData :=
  { w with
    airtagDataStore := w.airtagDataStore.set 6 airtagStatus
    fmdnDataStore := w.fmdnDataStore.set 23 fmdnStatus }

/-- What a call of the main loop does to the advertisements. -/
def after (w : AdvertData) : Call → AdvertData
  | .prepareAirtag key => w.prepareAirtag key
  | .prepareFmdn key => w.prepareFmdn key
  | .setStatusBytes airtagStatus fmdnStatus => w.setStatusBytes airtagStatus fmdnStatus
  | _ => w

end AdvertData

/-! ## The last call of a kind -/

/-- The last of the values that `pick` finds in a list of calls. -/
def lastOf {α : Type} (pick : Call → Option α) (cs : List Call) : Option α :=
  cs.foldl (fun last c => (pick c).or last) none

@[simp] theorem lastOf_concat {α : Type} (pick : Call → Option α) (cs : List Call) (c : Call) :
    lastOf pick (cs ++ [c]) = (pick c).or (lastOf pick cs) := by
  simp [lastOf]

def Call.airtagKey? : Call → Option Key
  | .prepareAirtag key => some key
  | _ => none

def Call.fmdnKey? : Call → Option FmdnKey
  | .prepareFmdn key => some key
  | _ => none

def Call.statusBytes? : Call → Option (UInt8 × UInt8)
  | .setStatusBytes airtagStatus fmdnStatus => some (airtagStatus, fmdnStatus)
  | _ => none

/-! ## The stores in closed form -/

section

variable {key key' : Key} {tmpl : OfflineFindingAdvTemplate}

theorem getElem_fillAdvTemplate (i : Nat) (hi : i < 31) :
    (fillAdvTemplate key tmpl)[i] =
      if i = 29 then key[0] >>> 6 else if h : 7 ≤ i ∧ i < 29 then key[i - 1] else tmpl[i] := by
  unfold fillAdvTemplate
  rw [Vector.getElem_set]
  by_cases h29 : i = 29
  · rw [if_pos h29.symm, if_pos h29]
  · rw [if_neg (Ne.symm h29), if_neg h29, Bytes.getElem_blit]
    split
    · split
      · have hlt : i - 7 < 22 := by omega
        have hadd : 6 + (i - 7) = i - 1 := by omega
        simp [hlt, hadd]
      · have hge : ¬ i - 7 < 22 := by omega
        simp [hge]
    · rw [dif_neg (by omega)]

/-- A second key replaces the first. -/
theorem fillAdvTemplate_twice :
    fillAdvTemplate key' (fillAdvTemplate key tmpl) = fillAdvTemplate key' tmpl := by
  ext i hi
  simp only [getElem_fillAdvTemplate]
  grind

/-- The status byte is not part of the key. -/
theorem fillAdvTemplate_set (status : UInt8) :
    (fillAdvTemplate key tmpl).set 6 status = fillAdvTemplate key (tmpl.set 6 status) := by
  ext i hi
  simp only [Vector.getElem_set, getElem_fillAdvTemplate]
  grind

end

namespace AdvertData

variable {w : AdvertData}

@[simp] theorem prepareAirtag_template (key : Key) :
    (w.prepareAirtag key).template = fillAdvTemplate key w.template := by
  simp only [prepareAirtag]

@[simp] theorem prepareAirtag_advAirtag (key : Key) : (w.prepareAirtag key).advAirtag = .store := by
  simp only [prepareAirtag]

@[simp] theorem prepareAirtag_bleAddr (key : Key) :
    (w.prepareAirtag key).bleAddr = deriveMacFromKey key := by
  simp only [prepareAirtag]

@[simp] theorem prepareAirtag_advFmdn (key : Key) : (w.prepareAirtag key).advFmdn = w.advFmdn := by
  simp only [prepareAirtag]

@[simp] theorem prepareAirtag_fmdnPayload (key : Key) :
    (w.prepareAirtag key).fmdnPayload = w.fmdnPayload := by
  simp only [fmdnPayload, prepareAirtag]

@[simp] theorem prepareAirtag_fmdnDataStore (key : Key) :
    (w.prepareAirtag key).fmdnDataStore = w.fmdnDataStore := by
  simp only [prepareAirtag]

@[simp] theorem prepareAirtag_status (key : Key) :
    (w.prepareAirtag key).airtagDataStore[6] = w.airtagDataStore[6] := by
  simp only [prepareAirtag, Vector.getElem_set_self]

/-- The store becomes the template, except for its status byte. -/
theorem prepareAirtag_airtagDataStore (key : Key) : (w.prepareAirtag key).airtagDataStore =
    fillAdvTemplate key (w.template.set 6 w.airtagDataStore[6]) := by
  have hcopy : Bytes.blit w.airtagDataStore 0 (fillAdvTemplate key w.template).toList (by simp) =
      fillAdvTemplate key w.template := by
    ext i hi
    simp [Bytes.getElem_blit, hi]
  rw [← fillAdvTemplate_set, prepareAirtag, hcopy]

@[simp] theorem prepareFmdn_advFmdn (key : FmdnKey) : (w.prepareFmdn key).advFmdn = .store := by
  simp only [prepareFmdn]

@[simp] theorem prepareFmdn_airtag (key : FmdnKey) :
    (w.prepareFmdn key).template = w.template ∧ (w.prepareFmdn key).advAirtag = w.advAirtag ∧
      (w.prepareFmdn key).bleAddr = w.bleAddr := by
  simp only [prepareFmdn, and_self]

@[simp] theorem prepareFmdn_airtagDataStore (key : FmdnKey) :
    (w.prepareFmdn key).airtagDataStore = w.airtagDataStore := by
  simp only [prepareFmdn]

@[simp] theorem prepareFmdn_status (key : FmdnKey) :
    (w.prepareFmdn key).fmdnDataStore[23] = w.fmdnDataStore[23] := by
  simp only [prepareFmdn, Vector.getElem_set_self]

theorem getElem_prepareFmdn (key : FmdnKey) (i : Nat) (hi : i < 24) :
    (w.prepareFmdn key).fmdnPayload[i] =
      if h : 3 ≤ i ∧ i < 23 then key[i - 3] else if i = 23 then w.fmdnDataStore[23] else w.fmdnPayload[i] := by
  have hstore : (w.prepareFmdn key).fmdnPayload[i] = (w.prepareFmdn key).fmdnDataStore[i] := by
    simp [fmdnPayload, prepareFmdn]
  rw [hstore]
  simp only [prepareFmdn, Vector.getElem_set, Bytes.getElem_blit]
  by_cases h23 : i = 23
  · rw [if_pos h23.symm, dif_neg (by omega), if_pos h23]
  · rw [if_neg (Ne.symm h23), if_neg h23]
    by_cases h3 : 3 ≤ i
    · have hlt : i - 3 < 20 := by omega
      rw [if_pos h3, dif_pos (by omega)]
      simp [hlt]
    · rw [if_neg h3, dif_neg (by omega)]
      simp [hi]

/-- The status bytes stand behind the key. -/
theorem getElem_setStatusBytes (a f : UInt8) (i : Nat) (hi : i < 23) :
    (w.setStatusBytes a f).fmdnPayload[i] = w.fmdnPayload[i] := by
  have h23 : ¬ 23 = i := by omega
  cases hs : w.advFmdn <;> simp [fmdnPayload, setStatusBytes, hs, h23]

/-! ## Every sequence of calls -/

/-- What the globals hold after the calls `cs`. -/
structure Prepared (cs : List Call) (w : AdvertData) : Prop where
  template : ∀ key, fillAdvTemplate key w.template = fillAdvTemplate key offlineFindingAdvTemplate
  airtag : ∀ key, lastOf Call.airtagKey? cs = some key → w.advAirtag = .store ∧
    w.bleAddr = deriveMacFromKey key ∧
    w.airtagDataStore = fillAdvTemplate key (offlineFindingAdvTemplate.set 6 w.airtagDataStore[6])
  service : ∀ (i : Nat) (hi : i < 3), w.fmdnPayload[i] = advFmdnLiteral[i]
  fmdn : ∀ key, lastOf Call.fmdnKey? cs = some key → w.advFmdn = .store ∧
    ∀ (i : Nat) (hi : i < 20), w.fmdnPayload[i + 3] = key[i]
  status : ∀ a f, lastOf Call.statusBytes? cs = some (a, f) →
    w.airtagDataStore[6] = a ∧ w.fmdnDataStore[23] = f

theorem Prepared.prepareAirtag {cs : List Call} (h : Prepared cs w) (key : Key) :
    Prepared (cs ++ [.prepareAirtag key]) (w.prepareAirtag key) where
  template key' := by rw [prepareAirtag_template, fillAdvTemplate_twice, h.template]
  airtag key' hk := by
    simp only [lastOf_concat, Call.airtagKey?, Option.some_or, Option.some.injEq] at hk
    subst hk
    refine ⟨prepareAirtag_advAirtag _, prepareAirtag_bleAddr _, ?_⟩
    rw [prepareAirtag_status, prepareAirtag_airtagDataStore, ← fillAdvTemplate_set, h.template,
      fillAdvTemplate_set]
  service i hi := by rw [prepareAirtag_fmdnPayload, h.service i hi]
  fmdn key' hk := by
    rw [prepareAirtag_advFmdn, prepareAirtag_fmdnPayload]
    exact h.fmdn key' (by simpa [Call.fmdnKey?] using hk)
  status a f hs := by
    rw [prepareAirtag_status, prepareAirtag_fmdnDataStore]
    exact h.status a f (by simpa [Call.statusBytes?] using hs)

theorem Prepared.prepareFmdn {cs : List Call} (h : Prepared cs w) (key : FmdnKey) :
    Prepared (cs ++ [.prepareFmdn key]) (w.prepareFmdn key) where
  template := by rw [(prepareFmdn_airtag key).1]; exact h.template
  airtag key' hk := by
    rw [(prepareFmdn_airtag key).2.1, (prepareFmdn_airtag key).2.2, prepareFmdn_airtagDataStore]
    exact h.airtag key' (by simpa [Call.airtagKey?] using hk)
  service i hi := by
    rw [getElem_prepareFmdn, dif_neg (by omega), if_neg (by omega), h.service i hi]
  fmdn key' hk := by
    simp only [lastOf_concat, Call.fmdnKey?, Option.some_or, Option.some.injEq] at hk
    subst hk
    refine ⟨prepareFmdn_advFmdn _, fun i hi => ?_⟩
    rw [getElem_prepareFmdn, dif_pos (by omega)]
    simp only [Nat.add_sub_cancel]
  status a f hs := by
    rw [prepareFmdn_airtagDataStore, prepareFmdn_status]
    exact h.status a f (by simpa [Call.statusBytes?] using hs)

theorem Prepared.setStatusBytes {cs : List Call} (h : Prepared cs w) (a f : UInt8) :
    Prepared (cs ++ [.setStatusBytes a f]) (w.setStatusBytes a f) where
  template := h.template
  airtag key hk := by
    obtain ⟨hsource, haddr, hstore⟩ := h.airtag key (by simpa [Call.airtagKey?] using hk)
    refine ⟨hsource, haddr, ?_⟩
    have hset : (w.setStatusBytes a f).airtagDataStore = w.airtagDataStore.set 6 a := rfl
    rw [hset, Vector.getElem_set_self, hstore, fillAdvTemplate_set, Vector.set_set]
  service i hi := by
    rw [getElem_setStatusBytes a f i (by omega), h.service i hi]
  fmdn key hk := by
    obtain ⟨hsource, hkey⟩ := h.fmdn key (by simpa [Call.fmdnKey?] using hk)
    refine ⟨hsource, fun i hi => ?_⟩
    rw [getElem_setStatusBytes a f (i + 3) (by omega), hkey i hi]
  status a' f' hs := by
    simp only [lastOf_concat, Call.statusBytes?, Option.some_or, Option.some.injEq, Prod.mk.injEq] at hs
    obtain ⟨rfl, rfl⟩ := hs
    exact ⟨Vector.getElem_set_self _, Vector.getElem_set_self _⟩

theorem Prepared.after {cs : List Call} (h : Prepared cs w) (c : Call) :
    Prepared (cs ++ [c]) (w.after c) := by
  cases c with
  | prepareAirtag key => exact h.prepareAirtag key
  | prepareFmdn key => exact h.prepareFmdn key
  | setStatusBytes a f => exact h.setStatusBytes a f
  | _ =>
    exact ⟨h.template, fun key hk => h.airtag key (by simpa [Call.airtagKey?] using hk), h.service,
      fun key hk => h.fmdn key (by simpa [Call.fmdnKey?] using hk),
      fun a f hs => h.status a f (by simpa [Call.statusBytes?] using hs)⟩

theorem Prepared.run {cs : List Call} (h : Prepared cs w) (more : List Call) :
    Prepared (cs ++ more) (more.foldl AdvertData.after w) := by
  induction more generalizing cs w with
  | nil => simpa using h
  | cons c more ih => simpa using ih (Prepared.after h c)

/-- From power-up on. -/
theorem prepared (cs : List Call) : Prepared cs (cs.foldl after {}) := by
  have h : Prepared [] {} := ⟨fun _ => rfl, by nofun, fun _ _ => rfl, by nofun, by nofun⟩
  exact h.run cs

end AdvertData

/-! ## Losslessness -/

/-- The bytes of the AirTag payload, by their offsets. -/
theorem payload_eq (k : Key) (a : UInt8) :
    (Vector.ofFn fun i : Fin 29 => (fillAdvTemplate k (offlineFindingAdvTemplate.set 6 a))[i.val + 2]) =
      #v[(0x4C : UInt8), 0x00, 0x12, 0x19, a] ++ k.drop 6 ++ #v[k.get 0 >>> 6, (0x00 : UInt8)] := by
  apply Vector.ext
  intro i hi
  rw [Vector.getElem_ofFn, getElem_fillAdvTemplate]
  dsimp only
  by_cases hhead : i < 5
  · rw [if_neg (by omega), dif_neg (by omega), Vector.getElem_append_left (by omega),
      Vector.getElem_append_left hhead]
    obtain rfl | rfl | rfl | rfl | rfl : i = 0 ∨ i = 1 ∨ i = 2 ∨ i = 3 ∨ i = 4 := by omega
    all_goals rfl
  · by_cases hkey : i < 27
    · have hadd : i + 2 - 1 = 6 + (i - 5) := by omega
      rw [if_neg (by omega), dif_pos (by omega), Vector.getElem_append_left (by omega),
        Vector.getElem_append_right (by omega) (by omega), Vector.getElem_drop]
      simp only [hadd]
    · rw [Vector.getElem_append_right (by omega) (by omega)]
      obtain rfl | rfl : i = 27 ∨ i = 28 := by omega
      all_goals rfl

theorem recoverKey_ofFn (mac : Mac) (adv : OfflineFindingAdvTemplate) :
    recoverKey mac (Vector.ofFn fun i => adv[i.val + 2]) = reassemble mac adv := by
  ext i hi
  simp only [recoverKey, reassemble, Vector.getElem_ofFn]
  split
  · rfl
  · split
    · rfl
    · have hadd : i - 1 + 2 = i + 1 := by omega
      simp only [hadd]

namespace AdvertData

variable {cs : List Call} {w : AdvertData}

theorem Prepared.payload {k : Key} (h : Prepared cs w) (hk : lastOf Call.airtagKey? cs = some k) :
    w.airtagPayload = Vector.ofFn fun i : Fin 29 =>
      (fillAdvTemplate k (offlineFindingAdvTemplate.set 6 w.airtagDataStore[6]))[i.val + 2] := by
  obtain ⟨hsource, -, hstore⟩ := h.airtag k hk
  rw [← hstore, airtagPayload, hsource]

theorem Prepared.recover {k : Key} (h : Prepared cs w) (hk : lastOf Call.airtagKey? cs = some k) :
    recoverKey w.bleAddr w.airtagPayload = k := by
  rw [(h.airtag k hk).2.1, h.payload hk, recoverKey_ofFn, reassemble_fillAdvTemplate]

theorem Prepared.service_payload {k : FmdnKey} {f : UInt8} (h : Prepared cs w)
    (hk : lastOf Call.fmdnKey? cs = some k) (hf : w.fmdnDataStore[23] = f) :
    w.fmdnPayload = #v[(0xAA : UInt8), 0xFE, 0x41] ++ k ++ #v[f] := by
  obtain ⟨hsource, hkey⟩ := h.fmdn k hk
  apply Vector.ext
  intro i hi
  by_cases hhead : i < 3
  · rw [h.service i hhead, Vector.getElem_append_left (by omega), Vector.getElem_append_left hhead]
    obtain rfl | rfl | rfl : i = 0 ∨ i = 1 ∨ i = 2 := by omega
    all_goals rfl
  · by_cases hlast : i < 23
    · have := hkey (i - 3) (by omega)
      simp only [Nat.sub_add_cancel (Nat.le_of_not_lt hhead)] at this
      rw [this, Vector.getElem_append_left (by omega), Vector.getElem_append_right (by omega) (by omega)]
    · obtain rfl : i = 23 := by omega
      rw [Vector.getElem_append_right (by omega) (by omega), ← hf]
      simp only [fmdnPayload, hsource, Vector.getElem_ofFn]
      rfl

end AdvertData

/-- Whatever the calls and their order, as soon as each of the three has been made: the AirTag payload
has the type, the last status byte and the last key, all but the first six bytes, which are in the
address, and two bits that are not; the FMDN payload has the service, the last key and the last status
byte.  Address and payload determine the key. -/
theorem advertisement_lossless (cs : List Call) (k : Key) (k' : FmdnKey) (a f : UInt8)
    (hk : lastOf Call.airtagKey? cs = some k) (hk' : lastOf Call.fmdnKey? cs = some k')
    (hs : lastOf Call.statusBytes? cs = some (a, f)) :
    let w := cs.foldl AdvertData.after {}
    w.bleAddr = deriveMacFromKey k ∧
    w.airtagPayload = #v[(0x4C : UInt8), 0x00, 0x12, 0x19, a] ++ k.drop 6 ++ #v[k.get 0 >>> 6, (0x00 : UInt8)] ∧
    recoverKey w.bleAddr w.airtagPayload = k ∧
    (∀ (cs₂ : List Call) (k₂ : Key), lastOf Call.airtagKey? cs₂ = some k₂ →
      let w₂ := cs₂.foldl AdvertData.after {}
      w₂.bleAddr = w.bleAddr → w₂.airtagPayload = w.airtagPayload → k₂ = k) ∧
    w.fmdnPayload = #v[(0xAA : UInt8), 0xFE, 0x41] ++ k' ++ #v[f] := by
  intro w
  have h := AdvertData.prepared cs
  obtain ⟨ha, hf⟩ := h.status a f hs
  refine ⟨(h.airtag k hk).2.1, ?_, h.recover hk, fun cs₂ k₂ hk₂ => ?_, ?_⟩
  · rw [h.payload hk, ha]
    exact payload_eq k a
  · intro w₂ haddr hpay
    have h₂ := (AdvertData.prepared cs₂).recover hk₂
    rw [haddr, hpay, h.recover hk] at h₂
    exact h₂.symm
  · exact h.service_payload hk' hf

/-- A key, its status byte before it, and the other protocol in between. -/
theorem advertisement_lossless_example :
    let k : Key := Vector.replicate 28 0x9B
    let w := [Call.setStatusBytes 0x45 0x46, .prepareFmdn (Vector.replicate 20 7), .prepareAirtag k].foldl
      AdvertData.after {}
    recoverKey w.bleAddr w.airtagPayload = k :=
  (advertisement_lossless [.setStatusBytes 0x45 0x46, .prepareFmdn (Vector.replicate 20 7),
    .prepareAirtag (Vector.replicate 28 0x9B)] (Vector.replicate 28 0x9B) (Vector.replicate 20 7) 0x45 0x46
    rfl rfl rfl).2.2.1

end Everytag
