import Mathlib.Data.List.ReduceOption
import Everytag.WriteOrder

/-!
# A session of `conn_beacon.py`

The script is the list of its requests in order (`script`); `none` stands where Python raises an exception,
which ends it.  `follow` runs it against the device, `connBeacon` puts connection and disconnection around it.
With the right code each option does what its help text says and nothing else does anything
(`applied_of_auth`); with a wrong one no setting changes (`settings_of_wrong_auth`).
-/

namespace Everytag

open Bytes BeaconConfig Registers

/-! ## The script -/

/-- The command line.  Numbers and hex strings are as Python converts them; `some none` is a text that it cannot
convert. -/
structure Args where
  auth : List UInt8
  /-- the content of the file -/
  keyfile : Option (List UInt8) := none
  fmdn : Option String := none
  airtag : Option String := none
  delay : Option (Option Int) := none
  txpower : Option (Option Int) := none
  interval : Option (Option Int) := none
  readtime : Bool := false
  writetime : Bool := false
  fmdnkey : Option (Option (List UInt8)) := none
  movethreshold : Option (Option Int) := none
  statusbyte : Option (Option Int) := none
  /-- in the order in which it is written down -/
  newmacid : Option (Option (List UInt8)) := none
  newauth : Option (List UInt8) := none
  dfu : Bool := false
deriving DecidableEq, Repr

/-- A request of the script. -/
inductive Ask
  | write (ch : Chrc) (data : List UInt8)
  | readTime
deriving DecidableEq, Repr

/-- `struct.pack("<q", value)` -/
def structPackQ (value : Int) : Option (List UInt8) :=
  if -9223372036854775808 ≤ value ∧ value ≤ 9223372036854775807 then
    some (leBytes 8 (value % 18446744073709551616).toNat)
  else none

namespace Args

/-- `write_int32` of a number that may have failed to convert. -/
def int32 (ch : Chrc) (value : Option Int) : Option Ask := (value.bind structPackI).map (.write ch)

def zeroKey : List UInt8 := List.replicate 14 0

/-- The upload of the keys. -/
def uploadKeys : List UInt8 → List (Option Ask)
  | [] => [none]  -- `f.read(1)[0]`
  | n :: keys =>
    let nKeys := min n.toNat 40
    ((List.range (nKeys * 2)).map fun i => some (.write .key ((keys.drop (14 * i)).take 14))) ++
      if nKeys < 40 then [some (.write .key zeroKey), some (.write .key zeroKey)] else []

/-- An option of the command line, and what the script does if it is given. -/
def given {α : Type} (option : Option α) (act : α → Option Ask) : List (Option Ask) := (option.map act).toList

def flag (ch : Chrc) (value : String) : Option Ask := int32 ch (some (if value = "0" then 0 else 1))

/-- The upload, if there is one. -/
def upload (a : Args) : List (Option Ask) :=
  match a.keyfile with
  | some file => uploadKeys file
  | none => []

def beforeRead (a : Args) : List (Option Ask) :=
  given a.fmdn (flag .fmdn) ++
  given a.airtag (flag .airtag) ++
  given a.delay (int32 .period) ++
  given a.txpower (int32 .txPower) ++
  given a.interval (int32 .changeInterval)

def afterRead (a : Args) (now : Int) : List (Option Ask) :=
  (if a.writetime then [(structPackQ now).map (.write .timeOffset)] else []) ++
  given a.fmdnkey (Option.map (.write .fmdnKey)) ++
  given a.movethreshold (int32 .accel) ++
  given a.statusbyte (int32 .status) ++
  given a.newmacid (Option.map fun mac => .write .settingsMac mac.reverse)

def others (a : Args) (now : Int) : List (Option Ask) :=
  a.beforeRead ++ (if a.readtime then [some .readTime] else []) ++ a.afterRead now

/-- What stands between authentication and the new code. -/
def settings (a : Args) (now : Int) : List (Option Ask) := a.upload ++ a.others now

/-- `int(time.time())` is `now`. -/
def script (a : Args) (now : Int) : List (Option Ask) :=
  some (.write .auth a.auth) :: a.settings now ++
  given a.newauth (fun code => some (.write .auth code)) ++
  if a.dfu then [int32 .status (some 0xDFDF0001)] else []

end Args

/-! ## The session -/

/-- What the surroundings of a session bring in: the uptime at which a request for a characteristic arrives (only
the clock looks at it), the room in a packet, and whether the client library raises an exception when the
device answers with an error. -/
structure Air where
  uptime : Chrc → UInt32
  /-- the uptime of the read -/
  readAt : UInt32
  len : Nat
  /-- the smallest packet of the protocol -/
  len_ge : 22 ≤ len
  attrRead : AttrRead
  documented : AttrRead.Documented attrRead
  raises : Bool

namespace Device

/-- The answer of the device to a request. -/
def answer (d : Device) (air : Air) : Ask → Int × Device
  | .write ch data => d.attWrite ch (air.uptime ch) data
  | .readTime => (((d.chrcReadTimeOffset air.readAt air.len 0).1.answer air.attrRead).1,
      (d.chrcReadTimeOffset air.readAt air.len 0).2)

/-- `datetime.fromtimestamp` knows no year after 9999. -/
def Unshown (d : Device) (air : Air) (ask : Ask) : Prop :=
  ask = .readTime ∧ 253402300799 < leNat ((d.chrcReadTimeOffset air.readAt air.len 0).1.answer air.attrRead).2

instance (d : Device) (air : Air) (ask : Ask) : Decidable (d.Unshown air ask) := by
  unfold Unshown; infer_instance

/-- The script, up to its first exception. -/
def follow (d : Device) (air : Air) : List (Option Ask) → Device
  | [] => d
  | none :: _ => d
  | some ask :: rest =>
    let r := d.answer air ask
    if air.raises = true ∧ r.1 < 0 ∨ d.Unshown air ask then r.2 else r.2.follow air rest

/-- The requests that go out, the one that raises an exception included. -/
def sent (d : Device) (air : Air) : List (Option Ask) → List Ask
  | [] => []
  | none :: _ => []
  | some ask :: rest =>
    let r := d.answer air ask
    ask :: if air.raises = true ∧ r.1 < 0 ∨ d.Unshown air ask then [] else r.2.sent air rest

/-- Connect, run the script, disconnect; a script that raises loses the connection too. -/
def connBeacon (d : Device) (air : Air) (a : Args) (now : Int) : Device :=
  (((d.step .startSettingsAdv).step (.connected 0)).follow air (a.script now)).step .disconnected

end Device

/-! ## One request -/

/-- The event that a request is for the device. -/
def Ask.event (air : Air) : Ask → GattEvent
  | .write ch data => .write ch (air.uptime ch) data
  | .readTime => .readTime air.readAt air.len 0

/-- The value that a request brings for a field. -/
def Ask.value (air : Air) (f : NvsFieldId) : Ask → Option (List UInt8)
  | .write ch data =>
    if ch = .status ∧ data.length = 4 ∧ readInt data = Device.dfuWord then none
    else Request.value f ⟨ch, air.uptime ch, data⟩
  | .readTime => none

/-- The bytes it adds to the keys. -/
def Ask.chunk : Ask → List UInt8
  | .write .key data => data
  | _ => []

def Ask.restarts : Ask → Bool
  | .write ch _ => ch.restarts
  | .readTime => false

/-- The request is one of those between the authentications, and a chunk has its length. -/
def Ask.Proper (ask : Ask) : Prop :=
  ∀ ch data, ask = .write ch data → ch ≠ .auth ∧ (ch = .key → data.length = 14)

namespace Device

variable {d : Device} {air : Air} {ask : Ask} {f : NvsFieldId}

theorem answer_snd (d : Device) (air : Air) (ask : Ask) : (d.answer air ask).2 = d.step (ask.event air) := by
  cases ask <;> rfl

/-- In an authorized session the device answers without an error. -/
theorem answer_fst (air : Air) (hd : d.Authorized) (h : ask.Proper)
    (hroom : ∀ data, ask = .write .key data → d.gatt.keysReceived < 2 * kMaxKeysInMemory) :
    0 ≤ (d.answer air ask).1 := by
  obtain ⟨hz, ha⟩ := hd
  cases ask with
  | readTime =>
    have hlen := air.len_ge
    simp only [answer, chrcReadTimeOffset, ha, if_neg (by omega : ¬ air.len < 8), Bool.not_true,
      Bool.false_eq_true, if_false, Reply.answer]
    rw [(air.documented.part _ _ _ (Nat.zero_le _)).2]
    exact Int.natCast_nonneg _
  | write ch data =>
    obtain ⟨hne, hchunk⟩ := h ch data rfl
    simp only [answer, attWrite, writeAuthorize, hz, Bool.true_or, if_true]
    cases ch with
    | auth => exact absurd rfl hne
    | key =>
      have hk := hroom data rfl
      simp only [chrcWrite, chrcWriteKey, ha, handleKey_fst (hchunk rfl) hk]
      simp only [Bool.not_true, Bool.false_eq_true, if_false, Int.lt_irrefl]
      split <;> exact Int.natCast_nonneg _
    | status =>
      simp only [chrcWrite, chrcWriteStatus, gatedWrite, ha, Bool.not_true, Bool.false_eq_true, if_false]
      split <;> exact Int.natCast_nonneg _
    | _ =>
      simp only [chrcWrite, chrcWritePeriod, chrcWriteFmdn, chrcWriteAirtag, chrcWriteChangeInterval,
        chrcWriteTxPower, chrcWriteFmdnKey, chrcWriteTimeOffset, chrcWriteSettingsMac, chrcWriteAccel,
        gatedWrite, ha, Bool.not_true, Bool.false_eq_true, if_false]
      exact Int.natCast_nonneg _

end Device

/-! ## The requests of a session -/

/-- The time that the script reads can be displayed. -/
def Displayable (c : BeaconConfig) (t : UInt32) : Prop := (c.getTime t).toUInt64.toNat ≤ 253402300799

/-- What a device has come to, since it was `d₀`, by these requests of an authorized session. -/
structure Heard (air : Air) (d₀ : Device) (asks : List Ask) (d : Device) : Prop where
  authorized : d.Authorized
  sound : d.Sound
  field : ∀ f, f ≠ .key →
    d.settings.config.fieldBytes f = latest (Ask.value air f) (d₀.settings.config.fieldBytes f) asks
  stored : ∀ f, f ≠ .key → (d₀.settings.Mirrors f ∨ ∃ ask ∈ asks, (ask.value air f).isSome = true) →
    d.settings.Mirrors f
  flash : ∀ f, f ≠ .key → d.settings.Mirrors f ∨ d.settings.nvs.find f.id = d₀.settings.nvs.find f.id
  ring : d.Laid d₀.settings.config.keys d₀.settings.config.numKeys (asks.flatMap Ask.chunk)
  record : d.settings.nvs.find NvsFieldId.key.id = d₀.settings.nvs.find NvsFieldId.key.id
  updateKeys : d.gatt.updateKeysAtDisconnect = true ↔ 2 ≤ d.gatt.keysReceived
  needsReset : d.gatt.needsReset = true ↔
    d₀.gatt.needsReset = true ∨ (∃ ask ∈ asks, ask.restarts = true) ∨ 2 ≤ d.gatt.keysReceived

namespace Heard

variable {air : Air} {d₀ d : Device} {asks : List Ask} {ask : Ask}

theorem start (ha : d.Authorized) (hs : d.Sound) (hk : d.gatt.keysReceived = 0)
    (hu : d.gatt.updateKeysAtDisconnect = false) : Heard air d [] d := by
  refine ⟨ha, hs, fun _ _ => rfl, fun _ _ h => by simpa using h, fun _ _ => .inr rfl, ⟨?_, ?_, ?_, ?_⟩, rfl, ?_, ?_⟩
  · rw [hk]
    rfl
  · rw [hk]
    exact Nat.zero_le _
  · exact (overlayRows_nil _).symm
  · rw [hk]
    rfl
  · rw [hu, hk]
    decide
  · rw [hk]
    simp

theorem readTime (h : Heard air d₀ asks d) :
    Heard air d₀ (asks ++ [.readTime]) (d.step (Ask.readTime.event air)) := by
  have hstep : ∃ g, d.step (Ask.readTime.event air) = { d with gatt := g } ∧
      g.authorizedGatt = d.gatt.authorizedGatt ∧ g.allowedChange = d.gatt.allowedChange ∧
      g.keysReceived = d.gatt.keysReceived ∧ g.updateKeysAtDisconnect = d.gatt.updateKeysAtDisconnect ∧
      g.needsReset = d.gatt.needsReset := by
    simp only [Ask.event, Device.step, Device.handle, Device.chrcReadTimeOffset]
    split
    · exact ⟨d.gatt, rfl, rfl, rfl, rfl, rfl, rfl⟩
    · split <;> exact ⟨_, rfl, rfl, rfl, rfl, rfl, rfl⟩
  obtain ⟨g, hg, hz, ha, hk, hu, hn⟩ := hstep
  rw [hg]
  refine ⟨⟨hz.trans h.authorized.1, ha.trans h.authorized.2⟩, ⟨h.sound.valid, hk ▸ h.sound.keysReceived⟩,
    fun f hf => ?_, fun f hf hm => h.stored f hf (by simpa [Ask.value] using hm), h.flash, ⟨?_, ?_, ?_, ?_⟩,
    h.record, ?_, ?_⟩
  · rw [latest_concat]
    exact h.field f hf
  · simpa [Ask.chunk, hk] using h.ring.length
  · exact hk ▸ h.ring.room
  · simpa [Ask.chunk] using h.ring.ring
  · simpa [hk] using h.ring.numKeys
  · rw [hu, hk]
    exact h.updateKeys
  · rw [hn, hk, h.needsReset]
    simp [Ask.restarts]

theorem step_write {ch : Chrc} {data : List UInt8} (hne : ch ≠ .auth) :
    d.step (Ask.event air (.write ch data)) = d.tell ⟨ch, air.uptime ch, data⟩ := by
  rw [Device.tell, if_neg hne]
  rfl

theorem authorized_tell {r : Request} (h : d.Authorized) : (d.tell r).Authorized := by
  obtain ⟨hz, ha⟩ := Prod.mk.inj (d.session_tell r)
  exact ⟨hz.trans h.1, ha.trans h.2⟩

theorem takes_iff {ch : Chrc} {data : List UInt8} (h : d.Authorized) (hne : ch ≠ .auth) :
    d.Takes ch data ↔ ¬ (ch = .status ∧ data.length = 4 ∧ readInt data = Device.dfuWord) :=
  ⟨fun ht => ht.2.2.2, fun hu => ⟨h.1, h.2, hne, hu⟩⟩

/-- A request changes a field to the value it brings. -/
theorem fieldBytes_tell {ch : Chrc} {data : List UInt8} {f : NvsFieldId} (h : d.Authorized) (hne : ch ≠ .auth)
    (hf : f ≠ .key) : (d.tell ⟨ch, air.uptime ch, data⟩).settings.config.fieldBytes f =
      (Ask.value air f (.write ch data)).getD (d.settings.config.fieldBytes f) := by
  obtain ⟨g, hg⟩ := d.tell_eq ⟨ch, air.uptime ch, data⟩
  rw [hg, Ask.value]
  by_cases hu : ch = .status ∧ data.length = 4 ∧ readInt data = Device.dfuWord
  · rw [if_neg fun ht => (takes_iff h hne).1 ht hu, if_pos hu, Option.getD_none]
  · rw [if_pos ((takes_iff h hne).2 hu), if_neg hu]
    exact Device.fieldBytes_bridge (r := ⟨ch, air.uptime ch, data⟩) hf

theorem mirrors_tell {r : Request} {f : NvsFieldId} (hs : d.Sound) (hf : f ≠ .key)
    (h : d.settings.Mirrors f) : (d.tell r).settings.Mirrors f := by
  obtain ⟨g, hg⟩ := d.tell_eq r
  rw [hg]
  split
  · exact d.mirrors_bridge hs hf h
  · exact h

/-- A request with a value for a field brings memory and flash in step. -/
theorem mirrors_tell_of_value {ch : Chrc} {data : List UInt8} {f : NvsFieldId} (hs : d.Sound) (h : d.Authorized)
    (hne : ch ≠ .auth) (hv : (Ask.value air f (.write ch data)).isSome = true) :
    (d.tell ⟨ch, air.uptime ch, data⟩).settings.Mirrors f := by
  obtain ⟨g, hg⟩ := d.tell_eq ⟨ch, air.uptime ch, data⟩
  rw [Ask.value] at hv
  by_cases hu : ch = .status ∧ data.length = 4 ∧ readInt data = Device.dfuWord
  · rw [if_pos hu] at hv
    cases hv
  · rw [if_neg hu] at hv
    rw [hg, if_pos ((takes_iff h hne).2 hu)]
    exact Device.mirrors_of_value hs hv

theorem flash_tell {r : Request} {f : NvsFieldId} (hs : d.Sound) :
    (d.tell r).settings.Mirrors f ∨ (d.tell r).settings.nvs.find f.id = d.settings.nvs.find f.id := by
  obtain ⟨g, hg⟩ := d.tell_eq r
  rw [hg]
  split
  · exact Device.flash_bridge hs
  · exact .inr rfl

theorem received_eq_chunk {ch : Chrc} {data : List UInt8} (h : d.Authorized)
    (hkey : ch = .key → data.length = 14 ∧ d.gatt.keysReceived < 2 * kMaxKeysInMemory) :
    d.received (Ask.event air (.write ch data)) = Ask.chunk (.write ch data) := by
  cases ch with
  | key =>
    obtain ⟨hlen, hk⟩ := hkey rfl
    simp only [Ask.event, Device.received, Ask.chunk]
    rw [if_pos ⟨h.2, h.1, hlen, hk⟩]
  | _ => rfl

/-- What a request does to the counters. -/
theorem counters_tell (air : Air) {ch : Chrc} {data : List UInt8} (h : d.Authorized) (hne : ch ≠ .auth)
    (hkey : ch = .key → data.length = 14 ∧ d.gatt.keysReceived < 2 * kMaxKeysInMemory)
    (hupdate : d.gatt.updateKeysAtDisconnect = true ↔ 2 ≤ d.gatt.keysReceived) :
    let d' := d.tell ⟨ch, air.uptime ch, data⟩
    d'.settings.nvs.find NvsFieldId.key.id = d.settings.nvs.find NvsFieldId.key.id ∧
      (d.gatt.keysReceived ≤ d'.gatt.keysReceived ∧ d'.gatt.keysReceived ≤ d.gatt.keysReceived + 1) ∧
      (d'.gatt.updateKeysAtDisconnect = true ↔ 2 ≤ d'.gatt.keysReceived) ∧
      (d'.gatt.needsReset = true ↔ d.gatt.needsReset = true ∨ ch.restarts = true ∨
        d.gatt.keysReceived < d'.gatt.keysReceived ∧ d.gatt.keysReceived % 2 = 1) := by
  intro d'
  have hreset := d.needsReset_tell ⟨ch, air.uptime ch, data⟩
  by_cases hch : ch = .key
  · subst hch
    obtain ⟨hlen, hk⟩ := hkey rfl
    have ht : d.Takes .key data := (takes_iff h hne).2 fun hu => by cases hu.1
    have hd' : d' = { d.bridge (air.uptime .key) data .key with gatt := Device.countChunk d.gatt } := by
      show d.tell _ = _
      rw [Device.tell_key rfl, if_pos ⟨ht, hlen, hk⟩]
    have hcount : d'.gatt.keysReceived = d.gatt.keysReceived + 1 := by
      rw [hd']
      simp only [Device.countChunk]
      split <;> rfl
    refine ⟨by rw [hd']; exact congrArg (Nvs.find · _) handleKey_find, ⟨by omega, by omega⟩, ?_, ?_⟩
    · rw [hcount, hd']
      simp only [Device.countChunk]
      split
      · simp only [true_iff]
        omega
      · rw [hupdate]
        omega
    · rw [hreset, Device.Arms, hcount]
      simp only [Chrc.restarts, ht, hlen, hk, true_and, Bool.false_eq_true, false_or]
      have hlt : d.gatt.keysReceived < d.gatt.keysReceived + 1 := Nat.lt_succ_self _
      simp only [hlt, true_and]
  · have hring : d'.ring = d.ring := Device.ring_tell_other hch
    obtain ⟨-, hring⟩ := Prod.mk.inj hring
    obtain ⟨-, hring⟩ := Prod.mk.inj hring
    obtain ⟨hrecord, hring⟩ := Prod.mk.inj hring
    obtain ⟨hcount, hu⟩ := Prod.mk.inj hring
    have htakes : d.Takes ch data ∧ ch.restarts = true ↔ ch.restarts = true := by
      refine ⟨And.right, fun hr => ⟨(takes_iff h hne).2 fun hu => ?_, hr⟩⟩
      rw [hu.1] at hr
      cases hr
    refine ⟨hrecord, ⟨hcount.ge, by omega⟩, by rw [hu, hcount]; exact hupdate, ?_⟩
    rw [hreset, Device.Arms, hcount]
    simp only [hch, false_and, or_false, htakes, Nat.lt_irrefl]

theorem write {ch : Chrc} {data : List UInt8} (h : Heard air d₀ asks d) (hne : ch ≠ .auth)
    (hkey : ch = .key → data.length = 14 ∧ d.gatt.keysReceived < 2 * kMaxKeysInMemory) :
    Heard air d₀ (asks ++ [.write ch data]) (d.step (Ask.event air (.write ch data))) := by
  have hring := h.ring.step (e := Ask.event air (.write ch data)) (by rintro ⟨⟩)
  rw [received_eq_chunk h.authorized hkey] at hring
  have hsound := h.sound.step (Ask.event air (.write ch data))
  obtain ⟨hrecord, ⟨hle, hone⟩, hupdate, hreset⟩ := counters_tell air h.authorized hne hkey h.updateKeys
  rw [step_write hne] at hring hsound ⊢
  refine ⟨authorized_tell h.authorized, hsound, fun f hf => ?_, fun f hf hm => ?_, fun f hf => ?_,
    by simpa using hring, hrecord.trans h.record, hupdate, ?_⟩
  · rw [fieldBytes_tell h.authorized hne hf, latest_concat, h.field f hf]
  · rcases hm with hm | ⟨ask, hask, hv⟩
    · exact mirrors_tell h.sound hf (h.stored f hf (.inl hm))
    · rcases List.mem_append.1 hask with hask | hask
      · exact mirrors_tell h.sound hf (h.stored f hf (.inr ⟨ask, hask, hv⟩))
      · rw [List.mem_singleton.1 hask] at hv
        exact mirrors_tell_of_value h.sound h.authorized hne hv
  · rcases h.flash f hf with hm | hfind
    · exact .inl (mirrors_tell h.sound hf hm)
    · exact (flash_tell h.sound).imp_right fun hr => hr.trans hfind
  · have hpair : 2 ≤ d.gatt.keysReceived ∨
        (d.gatt.keysReceived < (d.tell ⟨ch, air.uptime ch, data⟩).gatt.keysReceived ∧
          d.gatt.keysReceived % 2 = 1) ↔
        2 ≤ (d.tell ⟨ch, air.uptime ch, data⟩).gatt.keysReceived := by omega
    have hmem : (∃ ask ∈ asks ++ [Ask.write ch data], ask.restarts = true) ↔
        (∃ ask ∈ asks, ask.restarts = true) ∨ ch.restarts = true := by
      simp [or_and_right, exists_or, Ask.restarts]
    rw [hreset, h.needsReset, ← hpair, hmem]
    constructor
    · rintro ((h₀ | hr | h2) | hr | hodd)
      exacts [.inl h₀, .inr (.inl (.inl hr)), .inr (.inr (.inl h2)), .inr (.inl (.inr hr)),
        .inr (.inr (.inr hodd))]
    · rintro (h₀ | (hr | hr) | h2 | hodd)
      exacts [.inl (.inl h₀), .inl (.inr (.inl hr)), .inr (.inl hr), .inl (.inr (.inr h2)), .inr (.inr hodd)]

/-- No request before the read sets the clock. -/
theorem timeOffset_eq (h : Heard air d₀ asks d) (hv : ∀ ask ∈ asks, ask.value air .timeOffset = none) :
    d.settings.config.timeOffset = d₀.settings.config.timeOffset := by
  have hfield := h.field .timeOffset (by decide)
  rw [latest_of_none hv] at hfield
  have := congrArg readInt64 hfield
  simpa only [fieldBytes, readInt64_leBytes] using this

theorem displayable_readTime (h : Heard air d₀ asks d) (hv : ∀ ask ∈ asks, ask.value air .timeOffset = none)
    (hclock : Displayable d₀.settings.config air.readAt) : ¬ d.Unshown air .readTime := by
  rintro ⟨-, hbig⟩
  have htime : d.settings.config.getTime air.readAt = d₀.settings.config.getTime air.readAt := by
    rw [getTime, getTime, h.timeOffset_eq hv]
  have hlen := air.len_ge
  have htold : ((d.chrcReadTimeOffset air.readAt air.len 0).1.answer air.attrRead).2 =
      leBytes 8 (d₀.settings.config.getTime air.readAt).toUInt64.toNat := by
    simp only [Device.chrcReadTimeOffset, h.authorized.2, if_neg (by omega : ¬ air.len < 8), Bool.not_true,
      Bool.false_eq_true, if_false, Reply.answer, handleTimeOffsetRead, htime]
    rw [(air.documented.part _ _ _ (Nat.zero_le _)).1, List.drop_zero]
    exact List.take_of_length_le (by rw [length_leBytes]; omega)
  rw [htold, leNat_leBytes 8 _ (UInt64.toNat_lt _)] at hbig
  exact absurd hbig (Nat.not_lt.2 hclock)

/-- The script goes through a list of proper requests. -/
theorem follow {more : List Ask} (h : Heard air d₀ asks d) (hproper : ∀ ask ∈ more, ask.Proper)
    (hclock : ∀ pre post, asks ++ more = pre ++ Ask.readTime :: post →
      (∀ ask ∈ pre, ask.value air .timeOffset = none) ∧ Displayable d₀.settings.config air.readAt)
    (hroom : ((asks ++ more).flatMap Ask.chunk).length ≤ 1120) (rest : List (Option Ask)) :
    ∃ d', Heard air d₀ (asks ++ more) d' ∧ d.follow air (more.map some ++ rest) = d'.follow air rest := by
  induction more generalizing asks d with
  | nil => exact ⟨d, by simpa using h, rfl⟩
  | cons ask more ih =>
    have hk : ∀ data, ask = .write .key data → d.gatt.keysReceived < 2 * kMaxKeysInMemory := by
      rintro data rfl
      have hlen := h.ring.length
      have hdata := (hproper _ List.mem_cons_self .key data rfl).2 rfl
      simp only [List.flatMap_append, List.flatMap_cons, List.length_append, Ask.chunk, hdata] at hroom
      simp only [kMaxKeysInMemory]
      omega
    have hrc := Device.answer_fst air h.authorized (hproper ask List.mem_cons_self) hk
    have hnext : Heard air d₀ (asks ++ [ask]) (d.step (ask.event air)) := by
      cases ask with
      | readTime => exact h.readTime
      | write ch data =>
        obtain ⟨hne, hlen⟩ := hproper _ List.mem_cons_self ch data rfl
        exact h.write hne fun hch => ⟨hlen hch, hk data (by rw [hch])⟩
    have hshown : ¬ d.Unshown air ask := fun hu => by
      obtain rfl : ask = .readTime := hu.1
      obtain ⟨hv, hs⟩ := hclock asks more rfl
      exact h.displayable_readTime hv hs hu
    obtain ⟨d', hd', hfollow⟩ := ih hnext (fun ask ha => hproper ask (List.mem_cons_of_mem _ ha))
      (by simpa using hclock) (by simpa using hroom)
    refine ⟨d', by simpa using hd', ?_⟩
    have hgoes : ¬ (air.raises = true ∧ (d.answer air ask).1 < 0 ∨ d.Unshown air ask) := by
      rintro (⟨-, hneg⟩ | hu)
      · omega
      · exact hshown hu
    rw [List.map_cons, List.cons_append, Device.follow, if_neg hgoes, Device.answer_snd]
    exact hfollow

end Heard

/-! ## What the options ask for -/

/-- The record of a number that an integer setting can take. -/
def Scalar.encode (s : Scalar) (n : Int) : Option (List UInt8) :=
  if 0 ≤ n ∧ s.Documented n.toNat then some (intBytes (UInt32.ofNat (s.rounded n.toNat))) else none

/-- What the command line asks a field to be, if the request reaches the device at the uptime `t`. -/
def Args.asked (a : Args) (now : Int) (t : UInt32) : NvsFieldId → Option (List UInt8)
  | .fmdn => a.fmdn.map fun value => boolBytes (decide (value ≠ "0"))
  | .airtag => a.airtag.map fun value => boolBytes (decide (value ≠ "0"))
  | .period => a.delay.join.bind Scalar.period.encode
  | .power => a.txpower.join.bind Scalar.power.encode
  | .changeInterval => a.interval.join.bind Scalar.changeInterval.encode
  | .accel => a.movethreshold.join.bind Scalar.accel.encode
  | .fmdnKey => a.fmdnkey.join.bind fun key => if key.length = 20 then some key else none
  | .settingsMac => a.newmacid.join.bind fun mac => if mac.length = 6 then some mac.reverse else none
  | .status => a.statusbyte.join.bind fun word =>
    if UInt32.ofInt word = Device.dfuWord then none else some (intBytes (UInt32.ofInt word))
  | .timeOffset =>
    if a.writetime then some (leBytes 8 (Int64.ofInt now - t.toUInt64.toInt64).toUInt64.toNat) else none
  | .key | .auth | .turnedOn => none

section Options

variable {air : Air} {f : NvsFieldId} {n : Int}

theorem structPackI_eq (n : Int) : structPackI n =
    if -2147483648 ≤ n ∧ n ≤ 2147483647 then some (intBytes (UInt32.ofInt n)) else none := by
  have h : (UInt32.ofInt n).toNat = (n % 4294967296).toNat := by
    simp only [UInt32.ofInt, UInt32.toNat_ofNat']
    have hlt : n % 4294967296 < 4294967296 := Int.emod_lt_of_pos n (by decide)
    have hpos : 0 ≤ n % 4294967296 := Int.emod_nonneg n (by decide)
    have hcast : (2 : Int) ^ 32 = 4294967296 := by decide
    rw [hcast]
    omega
  rw [structPackI, intBytes, h]

theorem int32Of_intBytes (h : -2147483648 ≤ n ∧ n ≤ 2147483647) : int32Of (intBytes (UInt32.ofInt n)) = n := by
  have hmod : (n % (4294967296 : Nat)).bmod 4294967296 = n := by
    rw [Int.emod_bmod]
    exact Int.bmod_eq_of_le (by omega) (by omega)
  have hpos : 0 ≤ n % 2 ^ 32 := Int.emod_nonneg n (by decide)
  rw [int32Of, readInt_intBytes, UInt32.ofInt, UInt32.toInt32_ofNat', Int32.toInt_ofNat', Int.toNat_of_nonneg hpos]
  exact hmod

theorem readInt64_structPackQ {data : List UInt8} (h : structPackQ n = some data) :
    data.length = 8 ∧ readInt64 data = Int64.ofInt n := by
  have hpos : 0 ≤ n % 18446744073709551616 := Int.emod_nonneg n (by decide)
  have hlt : n % 18446744073709551616 < 18446744073709551616 := Int.emod_lt_of_pos n (by decide)
  have hmod : (n % (18446744073709551616 : Nat)).bmod 18446744073709551616 = n.bmod 18446744073709551616 :=
    Int.emod_bmod ..
  unfold structPackQ at h
  split at h
  · cases h
    refine ⟨length_leBytes 8 _, ?_⟩
    rw [readInt64, List.take_of_length_le (by simp), leNat_leBytes 8 _ (by omega), ← Int64.toInt_inj,
      UInt64.toInt64_ofNat', Int64.toInt_ofNat', Int64.toInt_ofInt, Int.toNat_of_nonneg hpos]
    exact hmod
  · cases h

/-- What a step of the script brings for a field. -/
def stepValue (air : Air) (f : NvsFieldId) (step : Option Ask) : Option (List UInt8) := step.bind (Ask.value air f)

theorem latest_reduceOption (steps : List (Option Ask)) (v : List UInt8) :
    latest (Ask.value air f) v steps.reduceOption = latest (stepValue air f) v steps := by
  induction steps generalizing v with
  | nil => rfl
  | cons step steps ih =>
    cases step with
    | none => exact ih v
    | some ask => exact ih _

theorem latest_given {α : Type} (option : Option α) (act : α → Option Ask) (v : List UInt8) :
    latest (stepValue air f) v (Args.given option act) = (option.bind fun x => stepValue air f (act x)).getD v := by
  cases option <;> rfl

/-- A request for another characteristic. -/
theorem value_write_of_ne (air : Air) {ch : Chrc} (h : ch.record ≠ some f) (data : List UInt8) :
    Ask.value air f (.write ch data) = none := by
  rw [Ask.value, Request.value, if_neg h, ite_self]

theorem value_write {ch : Chrc} (h : ch.record = some f) (hne : ch ≠ .status) (data : List UInt8) :
    Ask.value air f (.write ch data) = ch.requested (air.uptime ch) data := by
  rw [Ask.value, if_neg fun hu => hne hu.1, Request.value, if_pos h]

theorem stepValue_map_of_ne {ch : Chrc} (h : ch.record ≠ some f) (data : Option (List UInt8)) :
    stepValue air f (data.map (.write ch)) = none := by
  cases data with
  | none => rfl
  | some data => exact value_write_of_ne air h data

theorem stepValue_int32_of_ne {ch : Chrc} (h : ch.record ≠ some f) (value : Option Int) :
    stepValue air f (Args.int32 ch value) = none := stepValue_map_of_ne h _

theorem stepValue_scalar (s : Scalar) (value : Option Int) :
    stepValue air s.record (Args.int32 s.chrc value) = value.bind s.encode := by
  have hrec : s.chrc.record = some s.record := by cases s <;> rfl
  have hne : s.chrc ≠ .status := by cases s <;> decide
  have hreq (data : List UInt8) : s.chrc.requested (air.uptime s.chrc) data = s.requested data := by
    cases s <;> rfl
  cases value with
  | none => rfl
  | some n =>
    have hstep : stepValue air s.record (Args.int32 s.chrc (some n)) = (structPackI n).bind s.requested := by
      simp only [Args.int32, Option.bind_some, stepValue, Option.bind_map]
      exact congrArg _ (funext fun data => (value_write hrec hne data).trans (hreq data))
    rw [hstep, structPackI_eq, Option.bind_some, Scalar.encode]
    by_cases hn : -2147483648 ≤ n ∧ n ≤ 2147483647
    · rw [if_pos hn, Option.bind_some, Scalar.requested, int32Of_intBytes hn]
      simp
    · rw [if_neg hn, Option.bind_none, if_neg]
      rintro ⟨hpos, hdoc⟩
      have hlt := Scalar.documented_lt hdoc
      have hwidth : 2 ^ s.width ≤ 65536 := by cases s <;> decide
      omega

theorem stepValue_flag {ch : Chrc} (hch : ch = .fmdn ∨ ch = .airtag) (h : ch.record = some f) (value : String) :
    stepValue air f (Args.flag ch value) = some (boolBytes (decide (value ≠ "0"))) := by
  have hne : ch ≠ .status := by rcases hch with rfl | rfl <;> decide
  have hreq (t : UInt32) (data : List UInt8) : ch.requested t data =
      if data.length = 4 then some (boolBytes (decide (int32Of data ≠ 0))) else none := by
    rcases hch with rfl | rfl <;> rfl
  by_cases hv : value = "0"
  · rw [Args.flag, if_pos hv, show Args.int32 ch (some 0) = some (.write ch (intBytes 0)) from rfl]
    refine (value_write h hne _).trans ?_
    rw [hreq, if_pos (length_intBytes 0)]
    simp [hv]
    decide
  · rw [Args.flag, if_neg hv, show Args.int32 ch (some 1) = some (.write ch (intBytes 1)) from rfl]
    refine (value_write h hne _).trans ?_
    rw [hreq, if_pos (length_intBytes 1)]
    simp [hv]
    decide

theorem stepValue_status {value : Option Int} (h : Args.int32 .status value ≠ none) :
    stepValue air .status (Args.int32 .status value) = value.bind fun word =>
      if UInt32.ofInt word = Device.dfuWord then none else some (intBytes (UInt32.ofInt word)) := by
  cases value with
  | none => rfl
  | some n =>
    have hn : -2147483648 ≤ n ∧ n ≤ 2147483647 := by
      by_contra hn
      exact h (by rw [Args.int32, Option.bind_some, structPackI_eq, if_neg hn, Option.map_none])
    simp [Args.int32, structPackI_eq, hn, stepValue, Ask.value, Request.value, Chrc.record, Chrc.requested]

theorem stepValue_time {now : Int} (h : (structPackQ now).map (Ask.write .timeOffset) ≠ none) :
    stepValue air .timeOffset ((structPackQ now).map (.write .timeOffset)) =
      some (leBytes 8 (Int64.ofInt now - (air.uptime .timeOffset).toUInt64.toInt64).toUInt64.toNat) := by
  cases hdata : structPackQ now with
  | none => exact absurd (by rw [hdata]; rfl) h
  | some data =>
    obtain ⟨hlen, hread⟩ := readInt64_structPackQ hdata
    refine (value_write (rfl : Chrc.timeOffset.record = some .timeOffset) (by decide) data).trans ?_
    rw [Chrc.requested, if_pos hlen, hread]

theorem latest_uploadKeys (file : List UInt8) (v : List UInt8) :
    latest (stepValue air f) v (Args.uploadKeys file) = v := by
  refine latest_of_none fun step hstep => ?_
  have hkey (data : List UInt8) : stepValue air f (some (.write .key data)) = none :=
    value_write_of_ne air (by simp [Chrc.record] : Chrc.key.record ≠ some f) data
  cases file with
  | nil =>
    rw [List.mem_singleton.1 hstep]
    rfl
  | cons n keys =>
    rcases List.mem_append.1 hstep with hmem | hmem
    · obtain ⟨i, -, rfl⟩ := List.mem_map.1 hmem
      exact hkey _
    · split at hmem
      · simp only [List.mem_cons, List.not_mem_nil, or_false, or_self] at hmem
        rw [hmem]
        exact hkey _
      · exact absurd hmem List.not_mem_nil

theorem bind_scalar (s : Scalar) (option : Option (Option Int)) :
    (option.bind fun value => stepValue air s.record (Args.int32 s.chrc value)) = option.join.bind s.encode := by
  cases option with
  | none => rfl
  | some value => exact stepValue_scalar s value

theorem bind_flag {ch : Chrc} (hch : ch = .fmdn ∨ ch = .airtag) (h : ch.record = some f) (option : Option String) :
    (option.bind fun value => stepValue air f (Args.flag ch value)) =
      option.map fun value => boolBytes (decide (value ≠ "0")) := by
  cases option with
  | none => rfl
  | some value => exact stepValue_flag hch h value

theorem bind_fmdnKey (option : Option (Option (List UInt8))) :
    (option.bind fun key => stepValue air .fmdnKey (key.map (.write .fmdnKey))) =
      option.join.bind fun key => if key.length = 20 then some key else none := by
  rcases option with _ | _ | key
  · rfl
  · rfl
  · exact value_write (rfl : Chrc.fmdnKey.record = some .fmdnKey) (by decide) key

theorem bind_settingsMac (option : Option (Option (List UInt8))) :
    (option.bind fun mac => stepValue air .settingsMac (mac.map fun m => .write .settingsMac m.reverse)) =
      option.join.bind fun mac => if mac.length = 6 then some mac.reverse else none := by
  rcases option with _ | _ | mac
  · rfl
  · rfl
  · refine (value_write (rfl : Chrc.settingsMac.record = some .settingsMac) (by decide) mac.reverse).trans ?_
    rw [Chrc.requested, List.length_reverse]
    rfl

theorem bind_int32_of_ne {ch : Chrc} (h : ch.record ≠ some f) (option : Option (Option Int)) :
    (option.bind fun value => stepValue air f (Args.int32 ch value)) = none := by
  simp only [stepValue_int32_of_ne h, Option.bind_fun_none]

theorem bind_flag_of_ne {ch : Chrc} (h : ch.record ≠ some f) (option : Option String) :
    (option.bind fun value => stepValue air f (Args.flag ch value)) = none := by
  simp only [Args.flag, stepValue_int32_of_ne h, Option.bind_fun_none]

theorem bind_fmdnKey_of_ne (h : Chrc.fmdnKey.record ≠ some f) (option : Option (Option (List UInt8))) :
    (option.bind fun key => stepValue air f (key.map (.write .fmdnKey))) = none := by
  simp only [stepValue_map_of_ne h, Option.bind_fun_none]

theorem bind_settingsMac_of_ne (h : Chrc.settingsMac.record ≠ some f) (option : Option (Option (List UInt8))) :
    (option.bind fun mac => stepValue air f (mac.map fun m => .write .settingsMac m.reverse)) = none := by
  have hmac (mac : Option (List UInt8)) :
      stepValue air f (mac.map fun m => Ask.write .settingsMac m.reverse) = none := by
    cases mac with
    | none => rfl
    | some m => exact value_write_of_ne air h m.reverse
  simp only [hmac, Option.bind_fun_none]

theorem latest_upload (a : Args) (v : List UInt8) : latest (stepValue air f) v a.upload = v := by
  unfold Args.upload
  split
  · exact latest_uploadKeys _ v
  · rfl

theorem latest_readTime (readtime : Bool) (v : List UInt8) :
    latest (stepValue air f) v (if readtime then [some .readTime] else []) = v := by
  cases readtime <;> rfl

theorem latest_time_of_ne (h : Chrc.timeOffset.record ≠ some f) (writetime : Bool) (now : Int) (v : List UInt8) :
    latest (stepValue air f) v (if writetime then [(structPackQ now).map (.write .timeOffset)] else []) = v := by
  refine latest_of_none fun step hstep => ?_
  cases writetime with
  | false => cases hstep
  | true =>
    rw [List.mem_singleton.1 hstep]
    exact stepValue_map_of_ne h _

/-- Each option sets its field, and no other request of the script does. -/
theorem latest_settings (air : Air) {a : Args} {now : Int} (h : ∀ step ∈ a.settings now, step ≠ none)
    (v : List UInt8) :
    latest (stepValue air f) v (a.settings now) = (a.asked now (air.uptime .timeOffset) f).getD v := by
  simp only [Args.settings, Args.others, Args.beforeRead, Args.afterRead, latest_append, latest_upload,
    latest_readTime, latest_given]
  cases f with
  | key | auth | turnedOn =>
    simp (disch := decide) only [bind_int32_of_ne, bind_flag_of_ne, bind_fmdnKey_of_ne, bind_settingsMac_of_ne,
      latest_time_of_ne, Option.getD_none, Args.asked]
  | fmdn =>
    simp (disch := decide) only [bind_int32_of_ne, bind_flag_of_ne, bind_fmdnKey_of_ne, bind_settingsMac_of_ne,
      latest_time_of_ne, Option.getD_none, Args.asked]
    exact congrArg (Option.getD · v) (bind_flag (.inl rfl) rfl a.fmdn)
  | airtag =>
    simp (disch := decide) only [bind_int32_of_ne, bind_flag_of_ne, bind_fmdnKey_of_ne, bind_settingsMac_of_ne,
      latest_time_of_ne, Option.getD_none, Args.asked]
    exact congrArg (Option.getD · v) (bind_flag (.inr rfl) rfl a.airtag)
  | period =>
    simp (disch := decide) only [bind_int32_of_ne, bind_flag_of_ne, bind_fmdnKey_of_ne, bind_settingsMac_of_ne,
      latest_time_of_ne, Option.getD_none, Args.asked]
    exact congrArg (Option.getD · v) (bind_scalar .period a.delay)
  | power =>
    simp (disch := decide) only [bind_int32_of_ne, bind_flag_of_ne, bind_fmdnKey_of_ne, bind_settingsMac_of_ne,
      latest_time_of_ne, Option.getD_none, Args.asked]
    exact congrArg (Option.getD · v) (bind_scalar .power a.txpower)
  | changeInterval =>
    simp (disch := decide) only [bind_int32_of_ne, bind_flag_of_ne, bind_fmdnKey_of_ne, bind_settingsMac_of_ne,
      latest_time_of_ne, Option.getD_none, Args.asked]
    exact congrArg (Option.getD · v) (bind_scalar .changeInterval a.interval)
  | accel =>
    simp (disch := decide) only [bind_int32_of_ne, bind_flag_of_ne, bind_fmdnKey_of_ne, bind_settingsMac_of_ne,
      latest_time_of_ne, Option.getD_none, Args.asked]
    exact congrArg (Option.getD · v) (bind_scalar .accel a.movethreshold)
  | fmdnKey =>
    simp (disch := decide) only [bind_int32_of_ne, bind_flag_of_ne, bind_settingsMac_of_ne, latest_time_of_ne,
      Option.getD_none, Args.asked]
    exact congrArg (Option.getD · v) (bind_fmdnKey a.fmdnkey)
  | settingsMac =>
    simp (disch := decide) only [bind_int32_of_ne, bind_flag_of_ne, bind_fmdnKey_of_ne, latest_time_of_ne,
      Option.getD_none, Args.asked]
    exact congrArg (Option.getD · v) (bind_settingsMac a.newmacid)
  | status =>
    simp (disch := decide) only [bind_int32_of_ne, bind_flag_of_ne, bind_fmdnKey_of_ne, bind_settingsMac_of_ne,
      latest_time_of_ne, Option.getD_none, Args.asked]
    cases hopt : a.statusbyte with
    | none => rfl
    | some value =>
      have hstep := h (Args.int32 .status value)
        (by simp [Args.settings, Args.others, Args.afterRead, Args.given, hopt])
      exact congrArg (Option.getD · v) (stepValue_status hstep)
  | timeOffset =>
    simp (disch := decide) only [bind_int32_of_ne, bind_flag_of_ne, bind_fmdnKey_of_ne, bind_settingsMac_of_ne,
      Option.getD_none, Args.asked]
    by_cases hw : a.writetime = true
    · have hpack := h ((structPackQ now).map (.write .timeOffset))
        (by simp [Args.settings, Args.others, Args.afterRead, hw])
      simp only [hw, if_true]
      exact congrArg (Option.getD · v) (stepValue_time hpack)
    · simp only [hw, Bool.false_eq_true, if_false]
      rfl

end Options

/-! ## The keys -/

/-- The bytes of the keys in the file, and of the empty key behind them. -/
def Args.keyBytes (a : Args) : List UInt8 :=
  match a.keyfile with
  | some (n :: keys) =>
    let nKeys := min n.toNat 40
    keys.take (28 * nKeys) ++ if nKeys < 40 then List.replicate 28 0 else []
  | _ => []

/-- The script gets through to the new code: no number or hex string is malformed or too large, the key file
is as long as its first byte says, and the time on the device `c`, at the uptime `t`, is one of a calendar. -/
structure Args.Runs (a : Args) (now : Int) (c : BeaconConfig) (t : UInt32) : Prop where
  steps : ∀ step ∈ a.settings now, step ≠ none
  clock : a.readtime = true → Displayable c t
  file : ∀ n keys, a.keyfile = some (n :: keys) → 28 * min n.toNat 40 ≤ keys.length

section Requests

variable {a : Args} {now : Int} {c : BeaconConfig} {t : UInt32}

/-- The chunks of the keys, one after the other, are the bytes in front of the last one read. -/
theorem flatMap_chunks (keys : List UInt8) (n : Nat) :
    ((List.range n).map fun i => (keys.drop (14 * i)).take 14).flatten = keys.take (14 * n) := by
  induction n with
  | zero => simp
  | succ n ih =>
    rw [List.range_succ, List.map_append, List.flatten_append, ih, Nat.mul_succ, List.take_add]
    simp

theorem Args.mem_given {α : Type} {option : Option α} {act : α → Option Ask} {step : Option Ask}
    (h : step ∈ given option act) : ∃ x, option = some x ∧ step = act x := by
  cases option with
  | none => cases h
  | some x => exact ⟨x, rfl, List.mem_singleton.1 h⟩

/-- An option is given whose setting takes effect after a restart. -/
def Args.restarts (a : Args) : Bool :=
  a.fmdn.isSome || a.airtag.isSome || a.delay.isSome || a.interval.isSome || a.fmdnkey.isSome ||
    a.movethreshold.isSome

/-- A request for a setting. -/
structure Args.Other (a : Args) (ch : Chrc) : Prop where
  auth : ch ≠ .auth
  key : ch ≠ .key
  restarts : ch.restarts = true → a.restarts = true

theorem write_of_map {ask : Ask} {ch : Chrc} {data : Option (List UInt8)} (h : some ask = data.map (.write ch)) :
    ∃ data, ask = .write ch data := by
  obtain ⟨data, -, hd⟩ := Option.map_eq_some_iff.1 h.symm
  exact ⟨data, hd.symm⟩

theorem Args.mem_beforeRead {ask : Ask} (h : some ask ∈ a.beforeRead) :
    ∃ ch data, ask = .write ch data ∧ a.Other ch ∧ ch ≠ .timeOffset := by
  simp only [beforeRead, List.mem_append] at h
  rcases h with (((h | h) | h) | h) | h
  all_goals
    obtain ⟨x, ho, hx⟩ := mem_given h
    obtain ⟨data, rfl⟩ := write_of_map hx
    exact ⟨_, data, rfl, ⟨by decide, by decide, by simp [Chrc.restarts, restarts, ho]⟩, by decide⟩

theorem Args.mem_afterRead {ask : Ask} (h : some ask ∈ a.afterRead now) :
    ∃ ch data, ask = .write ch data ∧ a.Other ch := by
  simp only [afterRead, List.mem_append] at h
  rcases h with (((h | h) | h) | h) | h
  case inl.inl.inl.inl =>
    split at h
    · obtain ⟨data, rfl⟩ := write_of_map (List.mem_singleton.1 h)
      exact ⟨_, data, rfl, by decide, by decide, fun hr => by cases hr⟩
    · cases h
  case inr =>
    obtain ⟨x, -, hx⟩ := mem_given h
    obtain ⟨mac, -, hd⟩ := Option.map_eq_some_iff.1 hx.symm
    exact ⟨_, _, hd.symm, by decide, by decide, fun hr => by cases hr⟩
  all_goals
    obtain ⟨x, ho, hx⟩ := mem_given h
    obtain ⟨data, rfl⟩ := write_of_map hx
    exact ⟨_, data, rfl, by decide, by decide, by simp [Chrc.restarts, restarts, ho]⟩

theorem Args.mem_others {ask : Ask} (h : some ask ∈ a.others now) :
    ask = .readTime ∨ ∃ ch data, ask = .write ch data ∧ a.Other ch := by
  rcases List.mem_append.1 h with h | h
  · rcases List.mem_append.1 h with h | h
    · obtain ⟨ch, data, hw, hch, -⟩ := mem_beforeRead h
      exact .inr ⟨ch, data, hw, hch⟩
    · split at h
      · exact .inl (by simpa using h)
      · cases h
  · exact .inr (mem_afterRead h)

theorem Args.restarts_iff (h : ∀ step ∈ a.others now, step ≠ none) :
    (∃ ask, some ask ∈ a.others now ∧ ask.restarts = true) ↔ a.restarts = true := by
  constructor
  · rintro ⟨ask, hm, hr⟩
    rcases mem_others hm with rfl | ⟨ch, data, rfl, hch⟩
    · cases hr
    · exact hch.restarts hr
  · intro hr
    have hgiven {α : Type} {o : Option α} (act : α → Option Ask) (ho : o.isSome = true)
        (hmem : ∀ x, o = some x → act x ∈ a.others now)
        (hact : ∀ x ask, act x = some ask → ask.restarts = true) :
        ∃ ask, some ask ∈ a.others now ∧ ask.restarts = true := by
      obtain ⟨x, hx⟩ := Option.isSome_iff_exists.1 ho
      obtain ⟨ask, hask⟩ := Option.ne_none_iff_exists'.1 (h _ (hmem x hx))
      exact ⟨ask, hask ▸ hmem x hx, hact x ask hask⟩
    have hmap {ch : Chrc} (hch : ch.restarts = true) (o : Option (List UInt8)) (ask : Ask)
        (ho : o.map (.write ch) = some ask) : ask.restarts = true := by
      obtain ⟨data, -, rfl⟩ := Option.map_eq_some_iff.1 ho
      exact hch
    simp only [restarts, Bool.or_eq_true] at hr
    rcases hr with ((((ho | ho) | ho) | ho) | ho) | ho
    · exact hgiven (flag .fmdn) ho (fun x hx => by simp [others, beforeRead, afterRead, given, hx])
        fun _ => hmap rfl _
    · exact hgiven (flag .airtag) ho (fun x hx => by simp [others, beforeRead, afterRead, given, hx])
        fun _ => hmap rfl _
    · exact hgiven (int32 .period) ho (fun x hx => by simp [others, beforeRead, afterRead, given, hx])
        fun _ => hmap rfl _
    · exact hgiven (int32 .changeInterval) ho (fun x hx => by simp [others, beforeRead, afterRead, given, hx])
        fun _ => hmap rfl _
    · exact hgiven (Option.map (.write .fmdnKey)) ho
        (fun x hx => by simp [others, beforeRead, afterRead, given, hx]) fun _ => hmap rfl _
    · exact hgiven (int32 .accel) ho (fun x hx => by simp [others, beforeRead, afterRead, given, hx])
        fun _ => hmap rfl _

/-- The chunks of an upload. -/
def Args.chunks (a : Args) : List (List UInt8) :=
  match a.keyfile with
  | some (n :: keys) =>
    ((List.range (min n.toNat 40 * 2)).map fun i => (keys.drop (14 * i)).take 14) ++
      if min n.toNat 40 < 40 then [zeroKey, zeroKey] else []
  | _ => []

theorem Args.upload_eq (h : a.Runs now c t) : a.upload = (a.chunks.map (Ask.write .key)).map some := by
  unfold upload chunks
  cases hk : a.keyfile with
  | none => rfl
  | some file =>
    cases file with
    | nil => exact absurd rfl (h.steps none (by simp [settings, upload, hk, uploadKeys]))
    | cons n keys =>
      simp only [uploadKeys, List.map_append, List.map_map]
      congr 1
      split <;> rfl

theorem Args.length_of_mem_chunks (h : a.Runs now c t) : ∀ data ∈ a.chunks, data.length = 14 := by
  intro data hd
  unfold chunks at hd
  split at hd
  · rename_i n keys hk
    have hlen := h.file n keys hk
    rcases List.mem_append.1 hd with hd | hd
    · obtain ⟨i, hi, rfl⟩ := List.mem_map.1 hd
      rw [List.mem_range] at hi
      simp
      omega
    · split at hd
      · have hzero : data = zeroKey := by simpa using hd
        rw [hzero]
        rfl
      · cases hd
  · cases hd

theorem Args.flatten_chunks (a : Args) : a.chunks.flatten = a.keyBytes := by
  unfold chunks keyBytes
  split
  · rename_i n keys _
    have hmul : 14 * (min n.toNat 40 * 2) = 28 * min n.toNat 40 := by omega
    rw [List.flatten_append, flatMap_chunks, hmul]
    congr 1
    split <;> rfl
  · rfl

/-- An upload holds a whole key at least, an empty one if the file has none. -/
theorem Args.length_chunks (h : a.Runs now c t) :
    (2 ≤ a.chunks.length ↔ a.keyfile.isSome = true) ∧ a.chunks.length ≤ 80 := by
  unfold chunks
  cases hk : a.keyfile with
  | none => simp
  | some file =>
    cases file with
    | nil => exact absurd rfl (h.steps none (by simp [settings, upload, hk, uploadKeys]))
    | cons n keys =>
      simp only [List.length_append, List.length_map, List.length_range, Option.isSome_some, iff_true]
      split
      · simp only [List.length_cons, List.length_nil]
        omega
      · simp only [List.length_nil]
        omega

end Requests

/-! ## The session as a whole -/

/-- What a session with these options makes of the device `d₀`; `t` is the uptime at which the time arrives. -/
structure Applied (a : Args) (now : Int) (t : UInt32) (d₀ d : Device) : Prop where
  /-- each option sets its field, if its value is one that the field can take -/
  field : ∀ f, f ≠ .key →
    d.settings.config.fieldBytes f = (a.asked now t f).getD (d₀.settings.config.fieldBytes f)
  /-- and stores it; a field in step with flash stays so -/
  stored : ∀ f, f ≠ .key → ((a.asked now t f).isSome = true ∨ d₀.settings.Mirrors f) → d.settings.Mirrors f
  flash : ∀ f, f ≠ .key → d.settings.Mirrors f ∨ d.settings.nvs.find f.id = d₀.settings.nvs.find f.id
  keys : d.settings.config.keys = overlayRows d₀.settings.config.keys a.keyBytes
  record : d.settings.nvs.find NvsFieldId.key.id =
    if a.keyfile.isSome then some (flat d.settings.config.keys)
    else d₀.settings.nvs.find NvsFieldId.key.id
  /-- a new code that is not the old one costs the restart -/
  needsReset : d.gatt.needsReset = true ↔
    (∀ code, a.newauth = some code → code = a.auth) ∧
      (d₀.gatt.needsReset = true ∨ a.restarts = true ∨ a.keyfile.isSome = true)
  closed : d.gatt.allowedChange = false

section Session

variable {air : Air} {a : Args} {now : Int} {d₀ d : Device} {c : BeaconConfig} {t : UInt32}

/-- An authentication is never answered with an error. -/
theorem auth_goes (d : Device) (code : List UInt8) :
    ¬ (air.raises = true ∧ (d.answer air (.write .auth code)).1 < 0 ∨ d.Unshown air (.write .auth code)) := by
  have hrc : ¬ (d.answer air (.write .auth code)).1 < 0 := by
    simp only [Device.answer, Device.attWrite, Device.writeAuthorize, Device.chrcWrite, Device.chrcWriteAuth]
    simp only [beq_self_eq_true, Bool.or_true, if_true]
    split <;> simp
  rintro (h | h)
  · exact hrc h.2
  · cases h.1

/-- The end of the script: a new code changes no setting, and the request for an upload is never sent. -/
theorem follow_end (air : Air) (a : Args) (d : Device) : ∃ g,
    d.follow air (Args.given a.newauth (fun code => some (.write .auth code)) ++
      if a.dfu then [Args.int32 .status (some 0xDFDF0001)] else []) = { d with gatt := g } ∧
    g.keysReceived = d.gatt.keysReceived ∧ g.updateKeysAtDisconnect = d.gatt.updateKeysAtDisconnect ∧
    (g.needsReset = true ↔
      (∀ code, a.newauth = some code → code = d.settings.config.authCode.toList) ∧
        d.gatt.needsReset = true) := by
  have hdfu (d : Device) :
      d.follow air (if a.dfu then [Args.int32 .status (some 0xDFDF0001)] else []) = d := by
    split <;> rfl
  cases hn : a.newauth with
  | none => exact ⟨d.gatt, by simpa [Args.given] using hdfu d, rfl, rfl, by simp⟩
  | some code =>
    have hstep : d.follow air (Args.given (some code) (fun code => some (.write .auth code)) ++
        if a.dfu then [Args.int32 .status (some 0xDFDF0001)] else []) = (d.chrcWriteAuth code).2 := by
      simp only [Args.given, Option.map_some, Option.toList_some, List.singleton_append, Device.follow,
        if_neg (auth_goes d _), hdfu]
      simp [Device.answer, Device.attWrite, Device.writeAuthorize, Device.chrcWrite]
    rw [hstep]
    simp only [Device.chrcWriteAuth, gt_iff_lt, handleAuth_pos]
    split
    · exact ⟨_, rfl, rfl, rfl, by simp [*]⟩
    · exact ⟨_, rfl, rfl, rfl, by simp [*]⟩

/-- The device when the script starts: connected, with nothing of an upload left. -/
def Device.dialled (d : Device) : Device := (d.step .startSettingsAdv).step (.connected 0)

/-- The script after its first request. -/
def Args.rest (a : Args) (now : Int) : List (Option Ask) :=
  a.settings now ++ (given a.newauth (fun code => some (.write .auth code)) ++
    if a.dfu then [int32 .status (some 0xDFDF0001)] else [])

theorem follow_script (d : Device) :
    d.follow air (a.script now) = ((d.chrcWriteAuth a.auth).2).follow air (a.rest now) := by
  simp only [Args.script, List.cons_append, List.append_assoc, Device.follow,
    if_neg (auth_goes d _)]
  simp [Device.answer, Device.attWrite, Device.writeAuthorize, Device.chrcWrite, Args.rest]

/-- The requests of the script between the authentications. -/
def Args.asks (a : Args) (now : Int) : List Ask := a.chunks.map (.write .key) ++ (a.others now).reduceOption

theorem Args.settings_eq (h : a.Runs now c t) : a.settings now = (a.asks now).map some := by
  have hothers : ∀ steps : List (Option Ask), (∀ step ∈ steps, step ≠ none) →
      steps = steps.reduceOption.map some := by
    intro steps
    induction steps with
    | nil => exact fun _ => rfl
    | cons step steps ih =>
      intro hs
      obtain ⟨ask, rfl⟩ := Option.ne_none_iff_exists'.1 (hs step List.mem_cons_self)
      rw [List.reduceOption_cons_of_some, List.map_cons, ← ih fun s hm => hs s (List.mem_cons_of_mem _ hm)]
  rw [settings, upload_eq h, asks, List.map_append,
    ← hothers _ fun step hm => h.steps step (List.mem_append_right _ hm)]

theorem Args.proper_asks (h : a.Runs now c t) : ∀ ask ∈ a.asks now, ask.Proper := by
  rintro ask hm ch data rfl
  rcases List.mem_append.1 hm with hm | hm
  · obtain ⟨chunk, hc, hw⟩ := List.mem_map.1 hm
    cases hw
    exact ⟨by decide, fun _ => length_of_mem_chunks h _ hc⟩
  · rcases mem_others (List.reduceOption_mem_iff.1 hm) with hr | ⟨ch', data', hw, hch⟩
    · cases hr
    · cases hw
      exact ⟨hch.auth, fun hk => absurd hk hch.key⟩

theorem Args.restarts_asks (h : a.Runs now c t) :
    (∃ ask ∈ a.asks now, ask.restarts = true) ↔ a.restarts = true := by
  rw [← restarts_iff fun step hm => h.steps step (List.mem_append_right _ hm)]
  constructor
  · rintro ⟨ask, hm, hr⟩
    rcases List.mem_append.1 hm with hm | hm
    · obtain ⟨data, -, rfl⟩ := List.mem_map.1 hm
      cases hr
    · exact ⟨ask, List.reduceOption_mem_iff.1 hm, hr⟩
  · rintro ⟨ask, hm, hr⟩
    exact ⟨ask, List.mem_append_right _ (List.reduceOption_mem_iff.2 hm), hr⟩

theorem Args.latest_asks {f : NvsFieldId} (h : a.Runs now c t) (v : List UInt8) :
    latest (Ask.value air f) v (a.asks now) = (a.asked now (air.uptime .timeOffset) f).getD v := by
  have hsteps := latest_settings air h.steps (f := f) v
  rw [← latest_reduceOption, settings_eq h] at hsteps
  simpa [List.reduceOption] using hsteps

/-- A value that is asked for comes with a request. -/
theorem Args.value_of_asked {f : NvsFieldId} (h : a.Runs now c t)
    (hf : (a.asked now (air.uptime .timeOffset) f).isSome = true) :
    ∃ ask ∈ a.asks now, (ask.value air f).isSome = true := by
  by_contra hnone
  simp only [not_exists, not_and, Bool.not_eq_true, Option.isSome_eq_false_iff, Option.isNone_iff_eq_none] at hnone
  obtain ⟨v, hv⟩ := Option.isSome_iff_exists.1 hf
  -- whatever the field was before
  have hlatest : latest (Ask.value air f) (0 :: v) (a.asks now) =
      (a.asked now (air.uptime .timeOffset) f).getD (0 :: v) := latest_asks h (0 :: v)
  rw [latest_of_none hnone, hv, Option.getD_some] at hlatest
  exact absurd (congrArg List.length hlatest) (by simp)

theorem Args.flatMap_asks (a : Args) (now : Int) : (a.asks now).flatMap Ask.chunk = a.keyBytes := by
  have hothers : (a.others now).reduceOption.flatMap Ask.chunk = [] := by
    rw [List.flatMap_eq_nil_iff]
    intro ask hm
    rcases mem_others (List.reduceOption_mem_iff.1 hm) with rfl | ⟨ch, data, rfl, hch⟩
    · rfl
    · have hkey := hch.key
      cases ch <;> first | rfl | exact absurd rfl hkey
  have hchunks (chunks : List (List UInt8)) : (chunks.map (Ask.write .key)).flatMap Ask.chunk = chunks.flatten := by
    induction chunks with
    | nil => rfl
    | cons data chunks ih => rw [List.map_cons, List.flatMap_cons, ih, List.flatten_cons, Ask.chunk]
  rw [asks, List.flatMap_append, hothers, List.append_nil, hchunks, flatten_chunks]

/-- The time is read before it is written. -/
theorem Args.clock_asks (h : a.Runs now c t) {pre post : List Ask}
    (hsplit : [] ++ a.asks now = pre ++ Ask.readTime :: post) :
    (∀ ask ∈ pre, ask.value air .timeOffset = none) ∧ Displayable c t := by
  have hearly : ∀ ask ∈ a.chunks.map (Ask.write .key) ++ a.beforeRead.reduceOption,
      ∃ ch data, ask = .write ch data ∧ ch ≠ .timeOffset := by
    intro ask hm
    rcases List.mem_append.1 hm with hm | hm
    · obtain ⟨data, -, rfl⟩ := List.mem_map.1 hm
      exact ⟨_, data, rfl, by decide⟩
    · obtain ⟨ch, data, hw, -, hne⟩ := mem_beforeRead (List.reduceOption_mem_iff.1 hm)
      exact ⟨ch, data, hw, hne⟩
  have hlate : Ask.readTime ∉ (a.afterRead now).reduceOption := fun hm => by
    obtain ⟨ch, data, hw, -⟩ := mem_afterRead (List.reduceOption_mem_iff.1 hm)
    cases hw
  have hnot : Ask.readTime ∉ a.chunks.map (Ask.write .key) ++ a.beforeRead.reduceOption := fun hm => by
    obtain ⟨ch, data, hw, -⟩ := hearly _ hm
    cases hw
  rw [List.nil_append, asks, others, List.reduceOption_append, List.reduceOption_append] at hsplit
  by_cases hr : a.readtime = true
  · simp only [hr, if_true, ← List.append_assoc] at hsplit
    rw [List.append_assoc _ _ (List.reduceOption _)] at hsplit
    obtain ⟨rfl, -, -⟩ := (List.append_cons_inj_of_notMem hnot hlate).1 hsplit
    refine ⟨fun ask hm => ?_, h.clock hr⟩
    obtain ⟨ch, data, rfl, hne⟩ := hearly ask hm
    exact value_write_of_ne air (by cases ch <;> simp_all [Chrc.record]) data
  · have hmem : Ask.readTime ∈ pre ++ Ask.readTime :: post := by simp
    rw [← hsplit] at hmem
    simp only [hr, Bool.false_eq_true, if_false] at hmem
    rw [List.reduceOption_nil, List.append_nil, ← List.append_assoc] at hmem
    rcases List.mem_append.1 hmem with hm | hm
    · exact absurd hm hnot
    · exact absurd hm hlate

/-- A client that has authenticated. -/
def Device.admitted (d : Device) : Device :=
  { d.dialled with gatt := { d.dialled.gatt with allowedChange := true, authorizedGatt := true } }

theorem heard_admitted (air : Air) (hs : d₀.Sound) : Heard air d₀.admitted [] d₀.admitted := by
  have hsound : d₀.dialled.Sound := (hs.step .startSettingsAdv).step (.connected 0)
  exact .start ⟨rfl, rfl⟩ ⟨hsound.valid, hsound.keysReceived⟩ rfl rfl

theorem length_flatten_of {chunks : List (List UInt8)} {k : Nat} (h : ∀ data ∈ chunks, data.length = k) :
    chunks.flatten.length = k * chunks.length := by
  induction chunks with
  | nil => rfl
  | cons data chunks ih =>
    rw [List.flatten_cons, List.length_append, h data List.mem_cons_self,
      ih fun c hc => h c (List.mem_cons_of_mem _ hc), List.length_cons, Nat.mul_succ, Nat.add_comm]

/-- The ring goes to flash when the client leaves, if keys have come. -/
theorem disconnected_eq (d : Device) : d.step .disconnected =
    { d with
      settings := if d.gatt.updateKeysAtDisconnect then d.settings.save .key else d.settings
      gatt := { d.gatt with connectedGatt := false, authorizedGatt := false, allowedChange := false,
                            updateKeysAtDisconnect := false } } := by
  by_cases hu : d.gatt.updateKeysAtDisconnect = true
  · simp [Device.step, Device.handle, Device.disconnected, hu]
  · simp only [Bool.not_eq_true] at hu
    simp [Device.step, Device.handle, Device.disconnected, hu]

/-- A session with the right code does what its options say. -/
theorem applied_of_auth (hs : d₀.Sound) (hcode : a.auth = d₀.settings.config.authCode.toList)
    (h : a.Runs now d₀.settings.config air.readAt) :
    Applied a now (air.uptime .timeOffset) d₀ (d₀.connBeacon air a now) := by
  have hbytes : ((([] : List Ask) ++ a.asks now).flatMap Ask.chunk).length = 14 * a.chunks.length := by
    rw [List.nil_append, a.flatMap_asks, ← a.flatten_chunks, length_flatten_of (Args.length_of_mem_chunks h)]
  obtain ⟨hpair, hmost⟩ := Args.length_chunks h
  obtain ⟨d, hd, hfollow⟩ := (heard_admitted air hs).follow (Args.proper_asks h)
    (fun _ _ hs => Args.clock_asks h hs) (by omega)
    (Args.given a.newauth (fun code => some (.write .auth code)) ++
      if a.dfu then [Args.int32 .status (some 0xDFDF0001)] else [])
  rw [List.nil_append] at hd hbytes
  have hcount : d.gatt.keysReceived = a.chunks.length := by
    have := hd.ring.length
    omega
  have hadmitted : (d₀.dialled.chrcWriteAuth a.auth).2 = d₀.admitted := by
    have hpos : 0 < handleAuth d₀.dialled.settings a.auth := handleAuth_pos.2 hcode
    rw [Device.chrcWriteAuth, if_pos hpos]
    rfl
  obtain ⟨g, hend, hk, hu, hn⟩ := follow_end air a d
  have hsession : d₀.connBeacon air a now = ({ d with gatt := g } : Device).step .disconnected := by
    show (d₀.dialled.follow air (a.script now)).step .disconnected = _
    rw [follow_script, hadmitted, Args.rest, Args.settings_eq h, hfollow, hend]
  have hauth : d.settings.config.authCode.toList = a.auth := by
    have hfield := hd.field .auth (by decide)
    rw [Args.latest_asks h] at hfield
    exact hfield.trans hcode.symm
  have hkeys : g.updateKeysAtDisconnect = a.keyfile.isSome := by
    rw [hu, Bool.eq_iff_iff, hd.updateKeys, hcount, hpair]
  have hsettings : (d₀.connBeacon air a now).settings =
      if a.keyfile.isSome then d.settings.save .key else d.settings := by
    rw [hsession, disconnected_eq]
    simp only [hkeys]
  have hconfig : (d₀.connBeacon air a now).settings.config = d.settings.config := by
    rw [hsettings]
    split
    · rw [SettingsManager.save_config]
    · rfl
  have hfind {f : NvsFieldId} (hf : f ≠ .key) :
      (d₀.connBeacon air a now).settings.nvs.find f.id = d.settings.nvs.find f.id := by
    rw [hsettings]
    split
    · exact SettingsManager.find_save_of_ne hf
    · rfl
  refine ⟨fun f hf => ?_, fun f hf hm => ?_, fun f hf => ?_, ?_, ?_, ?_, ?_⟩
  · rw [hconfig, hd.field f hf, Args.latest_asks h]
    rfl
  · refine (hd.stored f hf ?_).congr (by rw [hconfig]) (hfind hf)
    exact hm.symm.imp_right (Args.value_of_asked h)
  · refine (hd.flash f hf).imp (fun hm => hm.congr (by rw [hconfig]) (hfind hf)) fun hr => ?_
    exact (hfind hf).trans hr
  · rw [hconfig, hd.ring.ring, a.flatMap_asks]
    rfl
  · rw [hconfig, hsettings]
    split
    · rw [SettingsManager.find_save, if_pos rfl]
      rfl
    · exact hd.record
  · have hreset : (d₀.connBeacon air a now).gatt.needsReset = g.needsReset := by
      rw [hsession, disconnected_eq]
    rw [hreset, hn, hd.needsReset, hauth, hcount, hpair, Args.restarts_asks h]
    rfl
  · rw [hsession, disconnected_eq]

/-- Without a session every request is refused. -/
theorem follow_closed (air : Air) {steps : List (Option Ask)} (hz : d.gatt.authorizedGatt = false)
    (ha : d.gatt.allowedChange = false) (hsteps : ∀ data, some (Ask.write .auth data) ∉ steps)
    (rest : List (Option Ask)) :
    d.follow air (steps ++ rest) = d ∨ d.follow air (steps ++ rest) = d.follow air rest := by
  induction steps with
  | nil => exact .inr rfl
  | cons step steps ih =>
    cases step with
    | none => exact .inl rfl
    | some ask =>
      have hstay : (d.answer air ask).2 = d := by
        cases ask with
        | readTime =>
          simp only [Device.answer, Device.chrcReadTimeOffset, ha]
          split <;> rfl
        | write ch data =>
          have hne : ch ≠ .auth := fun hch => hsteps data (by rw [hch]; exact List.mem_cons_self)
          have hrefused : d.writeAuthorize ch = false := by simp [Device.writeAuthorize, hz, hne]
          simp [Device.answer, Device.attWrite, hrefused]
      simp only [List.cons_append, Device.follow, hstay]
      split
      · exact .inl rfl
      · exact ih fun data hm => hsteps data (List.mem_cons_of_mem _ hm)

theorem Args.mem_upload {ask : Ask} (h : some ask ∈ a.upload) : ∃ data, ask = .write .key data := by
  unfold upload at h
  split at h
  · rename_i file _
    cases file with
    | nil => simp [uploadKeys] at h
    | cons n keys =>
      rcases List.mem_append.1 h with h | h
      · obtain ⟨i, -, hi⟩ := List.mem_map.1 h
        exact ⟨_, (Option.some.inj hi).symm⟩
      · split at h
        · exact ⟨zeroKey, by simpa using h⟩
        · cases h
  · cases h

theorem Args.auth_not_mem_settings (data : List UInt8) : some (Ask.write .auth data) ∉ a.settings now := by
  intro hm
  rcases List.mem_append.1 hm with hm | hm
  · obtain ⟨data', hw⟩ := mem_upload hm
    cases hw
  · rcases mem_others hm with hr | ⟨ch, data', hw, hch⟩
    · cases hr
    · cases hw
      exact hch.auth rfl

/-- A session with a wrong code changes no setting, whatever its options are. -/
theorem settings_of_wrong_auth (hcode : a.auth ≠ d₀.settings.config.authCode.toList) :
    (d₀.connBeacon air a now).settings = d₀.settings ∧
      (d₀.connBeacon air a now).accelThreshold = d₀.accelThreshold := by
  have hwrong : ¬ 0 < handleAuth d₀.dialled.settings a.auth := fun hpos => hcode (handleAuth_pos.1 hpos)
  obtain ⟨d, hd, hz, ha, hu⟩ : ∃ d, (d₀.dialled.chrcWriteAuth a.auth).2 = d ∧
      d.gatt.authorizedGatt = false ∧ d.gatt.allowedChange = false ∧
        d.gatt.updateKeysAtDisconnect = false := by
    rw [Device.chrcWriteAuth, if_neg hwrong]
    exact ⟨_, rfl, rfl, rfl, rfl⟩
  have hsettings : d.settings = d₀.settings ∧ d.accelThreshold = d₀.accelThreshold := by
    rw [← hd, Device.chrcWriteAuth, if_neg hwrong]
    exact ⟨rfl, rfl⟩
  have hfollow : ∃ g, d₀.dialled.follow air (a.script now) = { d with gatt := g } ∧
      g.updateKeysAtDisconnect = false := by
    rw [follow_script, hd, Args.rest]
    rcases follow_closed air hz ha Args.auth_not_mem_settings _ with h | h
    · exact ⟨d.gatt, h, hu⟩
    · obtain ⟨g, hend, -, hg, -⟩ := follow_end air a d
      exact ⟨g, h.trans hend, hg.trans hu⟩
  obtain ⟨g, hg, hu'⟩ := hfollow
  have hsession : d₀.connBeacon air a now = ({ d with gatt := g } : Device).step .disconnected :=
    congrArg (fun d : Device => d.step .disconnected) hg
  rw [hsession, disconnected_eq]
  simp only [hu', Bool.false_eq_true, if_false]
  exact hsettings

/-! ## The request for an upload -/

theorem Device.sent_subset {ask : Ask} {steps : List (Option Ask)} {d : Device} (h : ask ∈ d.sent air steps) :
    some ask ∈ steps := by
  induction steps generalizing d with
  | nil => cases h
  | cons step steps ih =>
    cases step with
    | none => cases h
    | some ask' =>
      simp only [sent, List.mem_cons] at h
      rcases h with rfl | h
      · exact List.mem_cons_self
      · split at h
        · cases h
        · exact List.mem_cons_of_mem _ (ih h)

/-- `struct.pack` does not take the word. -/
theorem int32_dfu : Args.int32 .status (some 0xDFDF0001) = none := rfl

/-- The only status words in the script are those of `--statusbyte`. -/
theorem Args.status_of_mem_script {data : List UInt8} (h : some (Ask.write .status data) ∈ a.script now) :
    ∃ word, a.statusbyte = some (some word) ∧ structPackI word = some data := by
  have hmap {ch : Chrc} {o : Option (List UInt8)} (ho : some (Ask.write .status data) = o.map (.write ch)) :
      ch = .status ∧ o = some data := by
    obtain ⟨data', hd, hw⟩ := Option.map_eq_some_iff.1 ho.symm
    cases hw
    exact ⟨rfl, hd⟩
  have hother {ch : Chrc} (hne : ch ≠ .status) {α : Type} {option : Option α} {act : α → Option (List UInt8)} :
      some (Ask.write .status data) ∉ given option fun x => (act x).map (.write ch) := fun hm => by
    obtain ⟨x, -, hx⟩ := mem_given hm
    exact hne (hmap hx).1
  simp only [script, settings, others, List.cons_append, List.mem_cons, List.mem_append] at h
  rcases h with h | ((hm | (hm | hm) | hm) | hm) | hm
  · cases h
  · obtain ⟨data', hw⟩ := mem_upload hm
    cases hw
  · simp only [beforeRead, List.mem_append] at hm
    rcases hm with (((hm | hm) | hm) | hm) | hm
    all_goals exact absurd hm (hother (by decide))
  · split at hm
    · simp at hm
    · cases hm
  · simp only [afterRead, List.mem_append] at hm
    rcases hm with (((hm | hm) | hm) | hm) | hm
    · split at hm
      · cases (hmap (List.mem_singleton.1 hm)).1
      · cases hm
    · obtain ⟨x, -, hx⟩ := mem_given hm
      cases (hmap hx).1
    · exact absurd hm (hother (by decide))
    · obtain ⟨word, hword, hw⟩ := mem_given hm
      obtain ⟨word, rfl, hpack⟩ := Option.bind_eq_some_iff.1 (hmap hw).2
      exact ⟨word, hword, hpack⟩
    · obtain ⟨mac, -, hm⟩ := mem_given hm
      obtain ⟨bytes, -, hw⟩ := Option.map_eq_some_iff.1 hm.symm
      cases hw
  · obtain ⟨code, -, hw⟩ := mem_given hm
    cases hw
  · split at hm
    · rw [int32_dfu] at hm
      simp at hm
    · cases hm

theorem follow_concat_none (steps : List (Option Ask)) (d : Device) :
    d.follow air (steps ++ [none]) = d.follow air steps ∧ d.sent air (steps ++ [none]) = d.sent air steps := by
  induction steps generalizing d with
  | nil => exact ⟨rfl, rfl⟩
  | cons step steps ih =>
    cases step with
    | none => exact ⟨rfl, rfl⟩
    | some ask =>
      obtain ⟨hfollow, hsent⟩ := ih (d.answer air ask).2
      simp only [List.cons_append, Device.follow, Device.sent, hfollow, hsent, and_self]

/-- With `--dfu` the script goes as far as without. -/
theorem connBeacon_dfu : d₀.connBeacon air a now = d₀.connBeacon air { a with dfu := false } now := by
  by_cases hdfu : a.dfu = true
  · have hscript : a.script now = { a with dfu := false }.script now ++ [none] := by
      simp only [Args.script, hdfu, if_true, int32_dfu, Bool.false_eq_true, if_false, List.append_nil]
      rfl
    exact congrArg (fun d : Device => d.step .disconnected) (hscript ▸ (follow_concat_none _ _).1)
  · have hsame : { a with dfu := false } = a := by
      cases a
      simp_all
    rw [hsame]

end Session

/-- `conn_beacon.py`, from the command line to flash.  With the right code, and no exception on the way, each
option sets its setting to the value given, in memory and for the next boot, or leaves it if the setting
cannot have that value; the keys of the file and the empty one lie over the ring; a restart is pending if an
option needs one, unless another code was sent.  With a wrong code no setting changes.  In no session does `--dfu`
send anything: the only status words that go out are those of `--statusbyte`. -/
theorem conn_beacon_session (d₀ : Device) (hs : d₀.Sound) (air : Air) (a : Args) (now : Int) :
    (a.auth = d₀.settings.config.authCode.toList → a.Runs now d₀.settings.config air.readAt →
      Applied a now (air.uptime .timeOffset) d₀ (d₀.connBeacon air a now)) ∧
    (a.auth ≠ d₀.settings.config.authCode.toList →
      (d₀.connBeacon air a now).settings = d₀.settings ∧
        (d₀.connBeacon air a now).accelThreshold = d₀.accelThreshold) ∧
    (∀ data, Ask.write .status data ∈ d₀.dialled.sent air (a.script now) →
      ∃ word, a.statusbyte = some (some word) ∧ structPackI word = some data) ∧
    d₀.connBeacon air a now = d₀.connBeacon air { a with dfu := false } now :=
  ⟨applied_of_auth hs, settings_of_wrong_auth, fun _ h => Args.status_of_mem_script (Device.sent_subset h),
    connBeacon_dfu⟩

/-- A read as it is documented. -/
def readAttr (value : List UInt8) (len offset : Nat) : Int × List UInt8 :=
  if value.length < offset then (-0x07, [])
  else (((value.drop offset).take len).length, (value.drop offset).take len)

theorem readAttr_documented : AttrRead.Documented readAttr where
  part value len offset h := by
    rw [readAttr, if_neg (Nat.not_lt.2 h)]
    exact ⟨rfl, rfl⟩
  past value len offset h := by
    rw [readAttr, if_pos h]
    exact ⟨by decide, rfl⟩

/-- A client at the uptime `t`. -/
def Air.atUptime (t : UInt32) : Air := ⟨fun _ => t, t, 22, le_refl 22, readAttr, readAttr_documented, true⟩

/-- The clock has run for two hours, and has been saved after the first.  A client uploads one key, switches the
AirTag on, asks for an interval that no device can have, sets the time and asks for a firmware upload. -/
theorem conn_beacon_session_one_key :
    let a : Args := { auth := defaultAuthCode.toList, keyfile := some (1 :: List.replicate 28 0x5A),
                      airtag := some "1", interval := some (some 20), writetime := true, dfu := true }
    let d₀ := (Device.boot .erased).storeTime 3600
    let d := d₀.connBeacon (.atUptime 7200) a 1700000000
    (load d.settings.nvs.read).fieldBytes .timeOffset = leBytes 8 1699992800 ∧
      d.settings.config.fieldBytes .changeInterval = intBytes 6000 ∧ d.gatt.needsReset = true ∧
      ∀ data, Ask.write .status data ∉ d₀.dialled.sent (.atUptime 7200) (a.script 1700000000) := by
  intro a d₀ d
  have hruns : a.Runs 1700000000 d₀.settings.config 7200 :=
    ⟨by decide, by nofun, fun n keys h => by cases h; decide⟩
  obtain ⟨happlied, -, hsent, -⟩ := conn_beacon_session d₀
    ⟨valid_load Nvs.erased.read, Nat.zero_le _⟩ (.atUptime 7200) a 1700000000
  have h := happlied rfl hruns
  refine ⟨?_, ?_, h.needsReset.2 ⟨by decide, .inr (.inl rfl)⟩, fun data hdata => ?_⟩
  · rw [h.stored .timeOffset (by decide) (.inl rfl), h.field .timeOffset (by decide)]
    decide
  · rw [h.field .changeInterval (by decide)]
    decide
  · obtain ⟨word, hword, -⟩ := hsent data hdata
    cases hword

end Everytag
