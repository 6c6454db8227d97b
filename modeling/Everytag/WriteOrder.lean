import Everytag.KeyCount
import Everytag.Ledger

/-!
# The order of writes

The settings of a device are registers, each of them written by the requests for one characteristic: its
field in memory with its record in flash (`setting_register`), the C global of the accelerometer, the ring
with its counters (`ring_register`).  A client may therefore send the requests for different characteristics
in any order, with the chunks of the keys scattered among them (`write_order_irrelevant`).  The one flag that
depends on the order is that of a firmware upload, which the requests after it take back
(`pauseUpload_run`).
-/

namespace Everytag

open Bytes BeaconConfig Registers

def Request.event (r : Request) : GattEvent := .write r.chrc r.uptime r.data

/-- What the device goes by: the payload, and for the time of day the uptime at which it arrives. -/
def Request.content (r : Request) : List UInt8 × Option UInt32 :=
  (r.data, if r.chrc = .timeOffset then some r.uptime else none)

/-- The characteristic that writes a field; `auth` where there is none. -/
def NvsFieldId.owner : NvsFieldId → Chrc
  | .fmdn => .fmdn
  | .airtag => .airtag
  | .period => .period
  | .changeInterval => .changeInterval
  | .key => .key
  | .power => .txPower
  | .fmdnKey => .fmdnKey
  | .timeOffset => .timeOffset
  | .settingsMac => .settingsMac
  | .status => .status
  | .accel => .accel
  | .auth | .turnedOn => .auth

theorem Chrc.owner_of_record {ch : Chrc} {f : NvsFieldId} (h : ch.record = some f) : f.owner = ch := by
  cases ch <;> cases h <;> rfl

theorem NvsFieldId.record_owner {f : NvsFieldId} (hkey : f ≠ .key) (h : f.owner ≠ .auth) :
    f.owner.record = some f := by
  cases f <;> first | rfl | exact absurd rfl hkey | exact absurd rfl h

/-- Settings that take effect after a restart. -/
def Chrc.restarts : Chrc → Bool
  | .period | .fmdn | .airtag | .changeInterval | .fmdnKey | .accel => true
  | .auth | .key | .txPower | .timeOffset | .settingsMac | .status => false

namespace Device

variable {d d' : Device} {r : Request} {ch : Chrc} {t : UInt32} {buf : List UInt8} {f : NvsFieldId}

/-- A request, unless it is an authentication. -/
def tell (d : Device) (r : Request) : Device :=
  if r.chrc = .auth then d else (d.attWrite r.chrc r.uptime r.data).2

theorem foldl_tell {rs : List Request} (h : ∀ r ∈ rs, r.chrc ≠ .auth) (d : Device) :
    d.run (rs.map Request.event) = rs.foldl tell d := by
  induction rs generalizing d with
  | nil => rfl
  | cons r rs ih =>
    have hr : d.step r.event = d.tell r := by
      rw [tell, if_neg (h r List.mem_cons_self)]
      rfl
    rw [List.map_cons, run_cons, hr, List.foldl_cons]
    exact ih (fun s hs => h s (List.mem_cons_of_mem _ hs)) _

/-- What lets requests through. -/
def session (d : Device) : Bool × Bool := (d.gatt.authorizedGatt, d.gatt.allowedChange)

theorem takes_of_session (h : d.session = d'.session) : d.Takes ch buf ↔ d'.Takes ch buf := by
  obtain ⟨h1, h2⟩ := Prod.mk.inj h
  rw [Takes, Takes, h1, h2]

/-- A request touches four flags, two of them only with a chunk. -/
theorem attWrite_gatt (hne : ch ≠ .auth) : ∃ n p k u,
    (d.attWrite ch t buf).2.gatt =
      { d.gatt with needsReset := n, pauseUpload := p, keysReceived := k, updateKeysAtDisconnect := u } ∧
    (ch ≠ .key → k = d.gatt.keysReceived ∧ u = d.gatt.updateKeysAtDisconnect) := by
  have hgated {restart : Bool} {fn : Device → List UInt8 → Device} (hfn : (fn d buf).gatt = d.gatt) :
      ∃ n p k u, (gatedWrite restart fn d buf).2.gatt =
          { d.gatt with needsReset := n, pauseUpload := p, keysReceived := k, updateKeysAtDisconnect := u } ∧
        (ch ≠ .key → k = d.gatt.keysReceived ∧ u = d.gatt.updateKeysAtDisconnect) := by
    unfold gatedWrite
    split
    · exact ⟨_, _, _, _, rfl, fun _ => ⟨rfl, rfl⟩⟩
    · simp only [hfn]
      exact ⟨_, _, _, _, rfl, fun _ => ⟨rfl, rfl⟩⟩
  unfold attWrite
  split
  · cases ch with
    | auth => exact absurd rfl hne
    | key =>
      simp only [chrcWrite, chrcWriteKey]
      split
      · exact ⟨_, _, _, _, rfl, fun h => absurd rfl h⟩
      · split
        · exact ⟨_, _, _, _, rfl, fun h => absurd rfl h⟩
        · split <;> exact ⟨_, _, _, _, rfl, fun h => absurd rfl h⟩
    | status =>
      simp only [chrcWrite, chrcWriteStatus]
      split
      · exact ⟨_, _, _, _, rfl, fun _ => ⟨rfl, rfl⟩⟩
      · split
        · exact ⟨_, _, _, _, rfl, fun _ => ⟨rfl, rfl⟩⟩
        · exact hgated rfl
    | accel => exact hgated (bridge_gatt : (d.bridge t buf .accel).gatt = d.gatt)
    | _ => exact hgated rfl
  · exact ⟨_, _, _, _, rfl, fun _ => ⟨rfl, rfl⟩⟩

theorem tell_gatt (d : Device) (r : Request) : ∃ n p k u,
    (d.tell r).gatt =
      { d.gatt with needsReset := n, pauseUpload := p, keysReceived := k, updateKeysAtDisconnect := u } ∧
    (r.chrc ≠ .key → k = d.gatt.keysReceived ∧ u = d.gatt.updateKeysAtDisconnect) := by
  unfold tell
  split
  · exact ⟨_, _, _, _, rfl, fun _ => ⟨rfl, rfl⟩⟩
  · exact attWrite_gatt ‹_›

theorem session_tell (d : Device) (r : Request) : (d.tell r).session = d.session := by
  obtain ⟨n, p, k, u, hg, -⟩ := d.tell_gatt r
  rw [session, hg]
  rfl

/-- What a request does to the settings. -/
theorem tell_eq (d : Device) (r : Request) : ∃ g,
    d.tell r = { (if d.Takes r.chrc r.data then d.bridge r.uptime r.data r.chrc else d) with gatt := g } := by
  by_cases ht : d.Takes r.chrc r.data
  · rw [tell, if_neg ht.2.2.1, if_pos ht]
    exact attWrite_of_takes ht
  · rw [if_neg ht]
    by_cases ha : r.chrc = .auth
    · exact ⟨d.gatt, by rw [tell, if_pos ha]⟩
    · rw [tell, if_neg ha]
      exact attWrite_of_not_takes ht

/-! ## The registers -/

/-- A field in memory and its record. -/
def setting (f : NvsFieldId) (d : Device) : (Bool × Bool) × List UInt8 × Option (List UInt8) :=
  (d.session, d.settings.config.fieldBytes f, d.settings.nvs.find f.id)

theorem setting_tell_own (hkey : f ≠ .key) (hr : r.chrc = f.owner) (h : d.setting f = d'.setting f) :
    (d.tell r).setting f = (d'.tell r).setting f := by
  obtain ⟨hsession, h⟩ := Prod.mk.inj h
  obtain ⟨hfield, hfind⟩ := Prod.mk.inj h
  obtain ⟨g, hg⟩ := d.tell_eq r
  obtain ⟨g', hg'⟩ := d'.tell_eq r
  have hs : (d.tell r).session = (d'.tell r).session := by rw [session_tell, session_tell, hsession]
  refine Prod.ext hs ?_
  by_cases ht : d.Takes r.chrc r.data
  · have ht' := (takes_of_session hsession).1 ht
    have hrec : r.chrc.record = some f := hr ▸ f.record_owner hkey (hr ▸ ht.2.2.1)
    have hown : (d.bridge r.uptime r.data r.chrc).settings.config.fieldBytes f =
        (d'.bridge r.uptime r.data r.chrc).settings.config.fieldBytes f := by
      rw [fieldBytes_bridge_own hrec, fieldBytes_bridge_own hrec, hfield]
    have hsaved (d : Device) := d.bridge_saves r.uptime r.data hrec
    simp only [hg, hg', if_pos ht, if_pos ht', setting]
    refine Prod.ext hown ?_
    by_cases hsave : r.chrc.Saves r.data
    · simp only [if_pos hsave] at hsaved
      obtain ⟨c, hc⟩ := hsaved d
      obtain ⟨c', hc'⟩ := hsaved d'
      rw [hc, hc', SettingsManager.save_config, SettingsManager.save_config] at hown
      simp only [hc, hc', SettingsManager.find_save, if_true, hown]
    · simp only [if_neg hsave] at hsaved
      simp only [hsaved, hfind]
  · have ht' := fun h => ht ((takes_of_session hsession).2 h)
    simp only [hg, hg', if_neg ht, if_neg ht', setting, hfield, hfind]

theorem setting_tell_other (hkey : f ≠ .key) (hr : r.chrc ≠ f.owner) : (d.tell r).setting f = d.setting f := by
  obtain ⟨g, hg⟩ := d.tell_eq r
  have hrec : r.chrc.record ≠ some f := fun h => hr (Chrc.owner_of_record h).symm
  refine Prod.ext (d.session_tell r) ?_
  simp only [hg, setting]
  split
  · rw [fieldBytes_bridge_other hrec fun _ => hkey, bridge_find hrec]
  · rfl

theorem setting_register (hkey : f ≠ .key) : Register tell Request.chrc f.owner (setting f) where
  own hr h := setting_tell_own hkey hr h
  other hr := setting_tell_other hkey hr

/-- The C global of the accelerometer. -/
def threshold (d : Device) : (Bool × Bool) × Int := (d.session, d.accelThreshold)

theorem threshold_register : Register tell Request.chrc .accel threshold where
  own := by
    intro d d' r hr h
    obtain ⟨hsession, h⟩ := Prod.mk.inj h
    obtain ⟨g, hg⟩ := d.tell_eq r
    obtain ⟨g', hg'⟩ := d'.tell_eq r
    have hs : (d.tell r).session = (d'.tell r).session := by rw [session_tell, session_tell, hsession]
    refine Prod.ext hs ?_
    simp only [hg, hg', threshold, takes_of_session hsession, hr]
    split
    · simp only [bridge, handleAccel]
      split
      · rfl
      · exact h
    · exact h
  other := by
    intro d r hr
    obtain ⟨g, hg⟩ := d.tell_eq r
    refine Prod.ext (d.session_tell r) ?_
    simp only [hg, threshold]
    split
    · cases hch : r.chrc <;> first | rfl | exact absurd hch hr
    · rfl

/-- The ring, its count and its record, with the counters of the chunks. -/
def ring (d : Device) :
    (Bool × Bool) × (KeyRing × UInt8) × Option (List UInt8) × Nat × Bool :=
  (d.session, (d.settings.config.keys, d.settings.config.numKeys), d.settings.nvs.find NvsFieldId.key.id,
    d.gatt.keysReceived, d.gatt.updateKeysAtDisconnect)

/-- A chunk sees no more of the configuration than the ring and its count. -/
theorem handleKey_ring {m m' : SettingsManager} {k : Nat}
    (h : (m.config.keys, m.config.numKeys) = (m'.config.keys, m'.config.numKeys)) :
    ((handleKey m k (some buf)).2.config.keys, (handleKey m k (some buf)).2.config.numKeys) =
      ((handleKey m' k (some buf)).2.config.keys, (handleKey m' k (some buf)).2.config.numKeys) := by
  obtain ⟨hk, hn⟩ := Prod.mk.inj h
  simp only [handleKey, setKeyChunk, setNumKeys]
  split_ifs <;> simp [hk, hn]

/-- A chunk either fills a half of the ring and is counted, or it does nothing. -/
theorem tell_key (hr : r.chrc = .key) : d.tell r =
    if d.Takes .key r.data ∧ r.data.length = 14 ∧ d.gatt.keysReceived < 2 * kMaxKeysInMemory then
      { d.bridge r.uptime r.data .key with gatt := countChunk d.gatt } else d := by
  rw [tell, if_neg (by rw [hr]; decide), hr]
  split
  · rename_i h
    obtain ⟨⟨hz, ha, -, -⟩, hlen, hk⟩ := h
    simp only [attWrite, writeAuthorize, hz, Bool.true_or, if_true, chrcWrite]
    exact chrcWriteKey_snd ha hlen hk
  · rename_i h
    by_cases hz : d.gatt.authorizedGatt = true
    · simp only [attWrite, writeAuthorize, hz, Bool.true_or, if_true, chrcWrite]
      by_cases ha : d.gatt.allowedChange = true
      · have hrefused : r.data.length ≠ 14 ∨ 2 * kMaxKeysInMemory ≤ d.gatt.keysReceived := by
          by_contra hacc
          simp only [not_or, not_le, not_not] at hacc
          exact h ⟨⟨hz, ha, by decide, fun hu => by cases hu.1⟩, hacc⟩
        simp [chrcWriteKey, ha, handleKey_refused hrefused]
      · simp [chrcWriteKey, ha]
    · simp [attWrite, writeAuthorize, hz]

theorem ring_tell_own (hr : r.chrc = .key) (h : d.ring = d'.ring) : (d.tell r).ring = (d'.tell r).ring := by
  obtain ⟨hsession, h'⟩ := Prod.mk.inj h
  obtain ⟨hkeys, h'⟩ := Prod.mk.inj h'
  obtain ⟨hfind, h'⟩ := Prod.mk.inj h'
  obtain ⟨hcount, hupdate⟩ := Prod.mk.inj h'
  have hs : (d.tell r).session = (d'.tell r).session := by rw [session_tell, session_tell, hsession]
  refine Prod.ext hs ?_
  have htakes : d.Takes .key r.data ∧ r.data.length = 14 ∧ d.gatt.keysReceived < 2 * kMaxKeysInMemory ↔
      d'.Takes .key r.data ∧ r.data.length = 14 ∧ d'.gatt.keysReceived < 2 * kMaxKeysInMemory := by
    rw [takes_of_session hsession, hcount]
  rw [tell_key hr, tell_key hr]
  by_cases ht : d.Takes .key r.data ∧ r.data.length = 14 ∧ d.gatt.keysReceived < 2 * kMaxKeysInMemory
  · rw [if_pos ht, if_pos (htakes.1 ht)]
    simp only [ring, bridge, handleKey_find, hfind, hcount, handleKey_ring hkeys, countChunk]
    split
    · rfl
    · simp only [hupdate]
  · rw [if_neg ht, if_neg fun h' => ht (htakes.2 h')]
    exact congrArg Prod.snd h

theorem ring_tell_other (hr : r.chrc ≠ .key) : (d.tell r).ring = d.ring := by
  obtain ⟨g, hg⟩ := d.tell_eq r
  obtain ⟨n, p, k, u, hflags, hkey⟩ := d.tell_gatt r
  obtain ⟨rfl, rfl⟩ := hkey hr
  refine Prod.ext (d.session_tell r) ?_
  simp only [ring, hflags]
  rw [hg]
  split
  · have hkeys : (d.bridge r.uptime r.data r.chrc).settings.config.keys = d.settings.config.keys :=
      bridge_config (P := fun c => c.keys = d.settings.config.keys) rfl
        fun c s hs hc => (keys_apply hs hr).trans hc
    have hnum : (d.bridge r.uptime r.data r.chrc).settings.config.numKeys = d.settings.config.numKeys :=
      bridge_config (P := fun c => c.numKeys = d.settings.config.numKeys) rfl
        fun c s hs hc => (numKeys_apply hs hr).trans hc
    have hrec : r.chrc.record ≠ some .key := by cases r.chrc <;> simp [Chrc.record]
    rw [hkeys, hnum, bridge_find hrec]
  · rfl

theorem ring_register : Register tell Request.chrc .key ring where
  own hr h := ring_tell_own hr h
  other hr := ring_tell_other hr

/-! ## The restart -/

/-- The request arms a restart: it is taken, for a setting that needs one or with the second half of a key. -/
def Arms (d : Device) (r : Request) : Prop :=
  d.Takes r.chrc r.data ∧ (r.chrc.restarts = true ∨
    r.chrc = .key ∧ r.data.length = 14 ∧ d.gatt.keysReceived < 2 * kMaxKeysInMemory ∧
      d.gatt.keysReceived % 2 = 1)

theorem needsReset_gatedWrite {restart : Bool} {fn : Device → List UInt8 → Device}
    (hfn : (fn d buf).gatt = d.gatt) : (gatedWrite restart fn d buf).2.gatt.needsReset = true ↔
      d.gatt.needsReset = true ∨ d.gatt.allowedChange = true ∧ restart = true := by
  unfold gatedWrite
  split
  · rename_i ha
    simp only [Bool.not_eq_true'] at ha
    simp [ha]
  · rename_i ha
    simp only [Bool.not_eq_true', Bool.not_eq_false] at ha
    simp [ha, hfn, or_comm]

theorem needsReset_attWrite (hne : ch ≠ .auth) (hkey : ch ≠ .key) :
    (d.attWrite ch t buf).2.gatt.needsReset = true ↔
      d.gatt.needsReset = true ∨ d.Takes ch buf ∧ ch.restarts = true := by
  by_cases hz : d.gatt.authorizedGatt = true
  · simp only [attWrite, writeAuthorize, hz, Bool.true_or, if_true, Takes, true_and]
    cases ch with
    | auth => exact absurd rfl hne
    | key => exact absurd rfl hkey
    | status =>
      simp only [chrcWrite, chrcWriteStatus, Chrc.restarts]
      split
      · simp
      · split
        · simp
        · refine (needsReset_gatedWrite rfl).trans ?_
          simp
    | accel =>
      simp only [chrcWrite]
      refine (needsReset_gatedWrite (bridge_gatt : (d.bridge t buf .accel).gatt = d.gatt)).trans ?_
      simp [Chrc.restarts]
    | _ =>
      simp only [chrcWrite]
      refine (needsReset_gatedWrite rfl).trans ?_
      simp [Chrc.restarts]
  · simp [attWrite, writeAuthorize, hz, hne, Takes]

theorem needsReset_tell (d : Device) (r : Request) :
    (d.tell r).gatt.needsReset = true ↔ d.gatt.needsReset = true ∨ d.Arms r := by
  by_cases hkey : r.chrc = .key
  · rw [tell_key hkey, Arms, hkey]
    split
    · rename_i h
      have hparity : (d.gatt.keysReceived + 1) % 2 = 0 ↔ d.gatt.keysReceived % 2 = 1 := by omega
      simp only [countChunk, hparity]
      split <;> simp [Chrc.restarts, *]
    · rename_i h
      simp only [Chrc.restarts]
      tauto
  · by_cases hne : r.chrc = .auth
    · simp [tell, hne, Arms, Takes]
    · rw [tell, if_neg hne, needsReset_attWrite hne hkey, Arms]
      simp [hkey]

/-- What arms it shows in the register of the characteristic. -/
theorem arms_congr (hs : d.session = d'.session) (hk : r.chrc = .key → d.gatt.keysReceived = d'.gatt.keysReceived) :
    d.Arms r ↔ d'.Arms r := by
  rw [Arms, Arms, takes_of_session hs]
  by_cases hkey : r.chrc = .key
  · rw [hk hkey]
  · simp [hkey]

theorem session_foldl (rs : List Request) (d : Device) : (rs.foldl tell d).session = d.session := by
  induction rs generalizing d with
  | nil => rfl
  | cons r rs ih => exact (ih (d.tell r)).trans (d.session_tell r)

/-- A request of the run arms the restart exactly if it does so among those for its own characteristic. -/
theorem needsReset_foldl (rs : List Request) (d : Device) :
    (rs.foldl tell d).gatt.needsReset = true ↔ d.gatt.needsReset = true ∨
      ∃ ch pre r post, rs.filter (fun r => r.chrc = ch) = pre ++ r :: post ∧ (pre.foldl tell d).Arms r := by
  induction rs using List.reverseRecOn with
  | nil => simp
  | append_singleton rs r ih =>
    have harms : (rs.foldl tell d).Arms r ↔ ((rs.filter fun s => s.chrc = r.chrc).foldl tell d).Arms r := by
      refine arms_congr (by rw [session_foldl, session_foldl]) fun hkey => ?_
      have hring := ring_register.get_foldl_filter rs (rfl : d.ring = d.ring)
      rw [hkey]
      exact (Prod.mk.inj (Prod.mk.inj (Prod.mk.inj (Prod.mk.inj hring).2).2).2).1
    rw [List.foldl_append, List.foldl_cons, List.foldl_nil, needsReset_tell, ih, harms, or_assoc]
    refine or_congr Iff.rfl ⟨?_, ?_⟩
    · rintro (⟨ch, pre, s, post, hpre, hs⟩ | hr)
      · by_cases hch : r.chrc = ch
        · exact ⟨ch, pre, s, post ++ [r], by simp [List.filter_append, hpre, hch], hs⟩
        · exact ⟨ch, pre, s, post, by simp [List.filter_append, hpre, hch], hs⟩
      · exact ⟨r.chrc, _, r, [], by simp [List.filter_append], hr⟩
    · rintro ⟨ch, pre, s, post, hpre, hs⟩
      by_cases hch : r.chrc = ch
      · rcases post.eq_nil_or_concat with rfl | ⟨post, x, rfl⟩
        · right
          rw [List.filter_append, List.filter_cons_of_pos (by simpa using hch), List.filter_nil] at hpre
          obtain ⟨rfl, hx⟩ := List.append_inj' hpre rfl
          cases hx
          rw [hch]
          exact hs
        · left
          refine ⟨ch, pre, s, post, ?_, hs⟩
          rw [List.filter_append, List.filter_cons_of_pos (by simpa using hch), List.filter_nil,
            List.concat_eq_append, ← List.cons_append, ← List.append_assoc] at hpre
          exact (List.append_inj' hpre rfl).1
      · exact .inl ⟨ch, pre, s, post, by simpa [List.filter_append, hch] using hpre, hs⟩

theorem connection_foldl (rs : List Request) (d : Device) :
    (rs.foldl tell d).gatt.connectedGatt = d.gatt.connectedGatt ∧
      (rs.foldl tell d).gatt.timeValue = d.gatt.timeValue := by
  induction rs generalizing d with
  | nil => exact ⟨rfl, rfl⟩
  | cons r rs ih =>
    obtain ⟨n, p, k, u, hg, -⟩ := d.tell_gatt r
    have := ih (d.tell r)
    rwa [hg] at this

/-! ## The upload -/

/-- The client asks for a firmware upload. -/
def AsksUpload (d : Device) (r : Request) : Prop :=
  (d.gatt.authorizedGatt = true ∧ d.gatt.allowedChange = true) ∧
    r.chrc = .status ∧ r.data.length = 4 ∧ readInt r.data = dfuWord

/-- The request takes back what was asked for: any that is taken, and the second half of a key. -/
def Cancels (d : Device) (r : Request) : Prop :=
  d.Takes r.chrc r.data ∧ (r.chrc = .key →
    r.data.length = 14 ∧ d.gatt.keysReceived < 2 * kMaxKeysInMemory ∧ d.gatt.keysReceived % 2 = 1)

/-- None of the requests does. -/
def LeavesUpload (d : Device) (rs : List Request) : Prop :=
  ∀ pre r post, rs = pre ++ r :: post → ¬ (d.run (pre.map Request.event)).Cancels r

theorem leavesUpload_nil (d : Device) : d.LeavesUpload [] := fun pre r post h => by simp at h

theorem leavesUpload_cons {rs : List Request} :
    d.LeavesUpload (r :: rs) ↔ ¬ d.Cancels r ∧ (d.step r.event).LeavesUpload rs := by
  refine ⟨fun h => ⟨h [] r rs rfl, fun pre s post hs => ?_⟩, fun ⟨hr, h⟩ pre s post hs => ?_⟩
  · exact h (r :: pre) s post (by rw [hs, List.cons_append])
  · cases pre with
    | nil =>
      cases hs
      exact hr
    | cons r' pre =>
      obtain ⟨rfl, hrs⟩ := List.cons.inj hs
      exact h pre s post hrs

theorem pauseUpload_gatedWrite {restart : Bool} {fn : Device → List UInt8 → Device}
    (ha : d.gatt.allowedChange = true) : (gatedWrite restart fn d buf).2.gatt.pauseUpload = false := by
  simp [gatedWrite, ha]

theorem pauseUpload_of_taken (h : r.chrc ≠ .auth) (hkey : r.chrc ≠ .key) (ht : d.Takes r.chrc r.data) :
    (d.step r.event).gatt.pauseUpload = false := by
  obtain ⟨hz, ha, -, hdfu⟩ := ht
  show (d.attWrite r.chrc r.uptime r.data).2.gatt.pauseUpload = false
  simp only [attWrite, writeAuthorize, hz, Bool.true_or, if_true]
  cases hch : r.chrc with
  | auth => exact absurd hch h
  | key => exact absurd hch hkey
  | status =>
    have hdfu' : ¬ (r.data.length = 4 ∧ readInt r.data = dfuWord) := fun hu => hdfu ⟨hch, hu⟩
    simp only [chrcWrite, chrcWriteStatus, ha, Bool.not_true, Bool.false_eq_true, if_false, hdfu']
    exact pauseUpload_gatedWrite ha
  | _ => exact pauseUpload_gatedWrite ha

theorem pauseUpload_of_refused (h : r.chrc ≠ .auth) (ht : ¬ d.Takes r.chrc r.data) (hu : ¬ d.AsksUpload r) :
    (d.step r.event).gatt.pauseUpload = d.gatt.pauseUpload := by
  show (d.attWrite r.chrc r.uptime r.data).2.gatt.pauseUpload = d.gatt.pauseUpload
  by_cases hz : d.gatt.authorizedGatt = true
  · have ha : d.gatt.allowedChange ≠ true := fun ha => ht ⟨hz, ha, h, fun hw => hu ⟨⟨hz, ha⟩, hw⟩⟩
    cases hch : r.chrc with
    | auth => exact absurd hch h
    | _ => simp [attWrite, writeAuthorize, hz, chrcWrite, chrcWriteKey, chrcWriteStatus, chrcWritePeriod,
        chrcWriteFmdn, chrcWriteAirtag, chrcWriteChangeInterval, chrcWriteTxPower, chrcWriteFmdnKey,
        chrcWriteTimeOffset, chrcWriteSettingsMac, chrcWriteAccel, gatedWrite, ha]
  · simp [attWrite, writeAuthorize, hz, h]

theorem pauseUpload_of_asked (hu : d.AsksUpload r) : (d.step r.event).gatt.pauseUpload = true := by
  obtain ⟨⟨hz, ha⟩, hch, hword⟩ := hu
  show (d.attWrite r.chrc r.uptime r.data).2.gatt.pauseUpload = true
  simp [attWrite, writeAuthorize, hz, hch, chrcWrite, chrcWriteStatus, ha, hword]

theorem pauseUpload_key (hkey : r.chrc = .key) (ht : d.Takes r.chrc r.data) :
    (d.step r.event).gatt.pauseUpload = true ↔ d.gatt.pauseUpload = true ∧ ¬ d.Cancels r := by
  have hne : r.chrc ≠ .auth := by rw [hkey]; decide
  rw [show (d.step r.event) = d.tell r from (if_neg hne).symm, tell_key hkey, Cancels]
  simp only [hkey] at ht ⊢
  simp only [ht, true_and, forall_const]
  split
  · rename_i hacc
    have hparity : (d.gatt.keysReceived + 1) % 2 = 0 ↔ d.gatt.keysReceived % 2 = 1 := by omega
    simp only [countChunk, hparity, hacc, true_and]
    split <;> simp [*]
  · rename_i hacc
    have hleft : ¬ (r.data.length = 14 ∧ d.gatt.keysReceived < 2 * kMaxKeysInMemory ∧
        d.gatt.keysReceived % 2 = 1) := fun hc => hacc ⟨hc.1, hc.2.1⟩
    simp [hleft]

/-- Of the requests that are taken only the first half of a key leaves the flag. -/
theorem pauseUpload_event (h : r.chrc ≠ .auth) : (d.step r.event).gatt.pauseUpload = true ↔
    d.AsksUpload r ∨ d.gatt.pauseUpload = true ∧ ¬ d.Cancels r := by
  by_cases ht : d.Takes r.chrc r.data
  · have hnot : ¬ d.AsksUpload r := fun hu => ht.2.2.2 hu.2
    by_cases hkey : r.chrc = .key
    · rw [pauseUpload_key hkey ht]
      simp [hnot]
    · have hcancels : d.Cancels r := ⟨ht, fun hk => absurd hk hkey⟩
      simp [pauseUpload_of_taken h hkey ht, hnot, hcancels]
  · have hcancels : ¬ d.Cancels r := fun hc => ht hc.1
    by_cases hu : d.AsksUpload r
    · simp [hu, pauseUpload_of_asked hu]
    · simp [hu, hcancels, pauseUpload_of_refused h ht hu]

/-- The upload that is pending after the requests was asked for and not taken back. -/
theorem pauseUpload_run {rs : List Request} (h : ∀ r ∈ rs, r.chrc ≠ .auth) (d : Device) :
    (d.run (rs.map Request.event)).gatt.pauseUpload = true ↔
      d.gatt.pauseUpload = true ∧ d.LeavesUpload rs ∨
      ∃ pre r post, rs = pre ++ r :: post ∧ (d.run (pre.map Request.event)).AsksUpload r ∧
        ((d.run (pre.map Request.event)).step r.event).LeavesUpload post := by
  induction rs generalizing d with
  | nil => simp [leavesUpload_nil]
  | cons r rs ih =>
    rw [List.map_cons, run_cons, ih (fun s hs => h s (List.mem_cons_of_mem _ hs)),
      pauseUpload_event (h r List.mem_cons_self), leavesUpload_cons]
    constructor
    · rintro (⟨hr | ⟨hp, hc⟩, hl⟩ | ⟨pre, s, post, rfl, hs, hl⟩)
      · exact .inr ⟨[], r, rs, rfl, hr, hl⟩
      · exact .inl ⟨hp, hc, hl⟩
      · exact .inr ⟨r :: pre, s, post, rfl, hs, hl⟩
    · rintro (⟨hp, hc, hl⟩ | ⟨pre, s, post, hrs, hs, hl⟩)
      · exact .inl ⟨.inr ⟨hp, hc⟩, hl⟩
      · cases pre with
        | nil =>
          cases hrs
          exact .inl ⟨.inl hs, hl⟩
        | cons r' pre =>
          obtain ⟨rfl, rfl⟩ := List.cons.inj hrs
          exact .inr ⟨pre, s, post, rfl, hs, hl⟩

/-! ## When a request arrives -/

/-- A request for `ch` of a given content. -/
def requestOf (ch : Chrc) (content : List UInt8 × Option UInt32) : Request := ⟨ch, content.2.getD 0, content.1⟩

/-- Only the clock looks at the uptime. -/
theorem step_content (d : Device) (r : Request) : d.step (requestOf r.chrc r.content).event = d.step r.event := by
  obtain ⟨ch, t, data⟩ := r
  cases ch <;> rfl

theorem run_content (d : Device) (rs : List Request) :
    d.run ((rs.map fun r => requestOf r.chrc r.content).map Request.event) = d.run (rs.map Request.event) := by
  induction rs generalizing d with
  | nil => rfl
  | cons r rs ih => rw [List.map_cons, List.map_cons, run_cons, step_content, ih, List.map_cons, run_cons]

theorem filter_content (rs : List Request) (ch : Chrc) :
    ((rs.map fun r => requestOf r.chrc r.content).filter fun r => r.chrc = ch) =
      ((rs.filter fun r => r.chrc = ch).map Request.content).map (requestOf ch) := by
  rw [List.filter_map, List.map_map]
  refine List.map_congr_left fun r hr => ?_
  have hch : r.chrc = ch := by simpa [requestOf] using (List.mem_filter.1 hr).2
  rw [Function.comp_apply, hch]

end Device

/-! ## Any order -/

theorem BeaconConfig.ext_fieldBytes {c c' : BeaconConfig} (h : ∀ f, c.fieldBytes f = c'.fieldBytes f)
    (hnum : c.numKeys = c'.numKeys) : c = c' := by
  have h8 {v w : UInt8} (h : v.toUInt32 = w.toUInt32) : v = w := by
    rw [← UInt8.toUInt8_toUInt32 v, h, UInt8.toUInt8_toUInt32]
  have hperiod := h8 (intBytes_injective (h .period))
  have hpower := h8 (intBytes_injective (h .power))
  have hinterval : c.changeInterval = c'.changeInterval := by
    have := intBytes_injective (h .changeInterval)
    rw [← UInt16.toUInt16_toUInt32 c.changeInterval, this, UInt16.toUInt16_toUInt32]
  have htime : c.timeOffset = c'.timeOffset := by
    have := congrArg readInt64 (h .timeOffset)
    simpa only [fieldBytes, readInt64_leBytes] using this
  have hfmdn := boolBytes_injective (h .fmdn)
  have hairtag := boolBytes_injective (h .airtag)
  have hon := boolBytes_injective (h .turnedOn)
  have hstatus := intBytes_injective (h .status)
  have haccel := accelThreshold_of_fieldBytes (h .accel)
  have hauth := Vector.toList_inj.1 (h .auth)
  have hmac := Vector.toList_inj.1 (h .settingsMac)
  have hkey := Vector.toList_inj.1 (h .fmdnKey)
  have hring := flat_injective (h .key)
  cases c
  cases c'
  simp_all

/-- Two devices that agree but for the flag of the upload and the order of the records on flash. -/
structure Alike (d d' : Device) : Prop where
  config : d.settings.config = d'.settings.config
  record : ∀ f : NvsFieldId, d.settings.nvs.find f.id = d'.settings.nvs.find f.id
  accelThreshold : d.accelThreshold = d'.accelThreshold
  gatt : { d.gatt with pauseUpload := false } = { d'.gatt with pauseUpload := false }

theorem load_of_records {n n' : Nvs} (h : ∀ f : NvsFieldId, n.find f.id = n'.find f.id) :
    load n.read = load n'.read := by
  have hstep (c : BeaconConfig) (f : NvsFieldId) : loadStep n.read c f = loadStep n'.read c f :=
    loadStep_congr fun len => by simp only [Nvs.read, h f]
  rw [load_eq_foldl, load_eq_foldl, funext fun c => funext (hstep c)]

open Device in
/-- The same requests in another order, which arrive at the same moments. -/
theorem alike_of_filter_eq (d : Device) {rs rs' : List Request} (hauth : ∀ r ∈ rs, r.chrc ≠ .auth)
    (hauth' : ∀ r ∈ rs', r.chrc ≠ .auth)
    (h : ∀ ch, (rs.filter fun r => r.chrc = ch) = rs'.filter fun r => r.chrc = ch) :
    Alike (d.run (rs.map Request.event)) (d.run (rs'.map Request.event)) := by
  rw [foldl_tell hauth, foldl_tell hauth']
  have hsetting (f : NvsFieldId) (hkey : f ≠ .key) :
      (rs.foldl tell d).setting f = (rs'.foldl tell d).setting f :=
    (setting_register hkey).get_foldl_eq (h _) rfl
  have hring : (rs.foldl tell d).ring = (rs'.foldl tell d).ring := ring_register.get_foldl_eq (h _) rfl
  have hthreshold : (rs.foldl tell d).threshold = (rs'.foldl tell d).threshold :=
    threshold_register.get_foldl_eq (h _) rfl
  have hneeds : (rs.foldl tell d).gatt.needsReset = (rs'.foldl tell d).gatt.needsReset := by
    rw [Bool.eq_iff_iff, needsReset_foldl, needsReset_foldl]
    simp only [h]
  obtain ⟨-, hring⟩ := Prod.mk.inj hring
  obtain ⟨hkeys, hring⟩ := Prod.mk.inj hring
  obtain ⟨hkeyRecord, hring⟩ := Prod.mk.inj hring
  obtain ⟨hcount, hupdate⟩ := Prod.mk.inj hring
  have hconfig : (rs.foldl tell d).settings.config = (rs'.foldl tell d).settings.config := by
    refine ext_fieldBytes (fun f => ?_) (Prod.mk.inj hkeys).2
    by_cases hkey : f = .key
    · subst hkey
      exact congrArg flat (Prod.mk.inj hkeys).1
    · exact (Prod.mk.inj (Prod.mk.inj (hsetting f hkey)).2).1
  have hrecord (f : NvsFieldId) :
      (rs.foldl tell d).settings.nvs.find f.id = (rs'.foldl tell d).settings.nvs.find f.id := by
    by_cases hkey : f = .key
    · subst hkey
      exact hkeyRecord
    · exact (Prod.mk.inj (Prod.mk.inj (hsetting f hkey)).2).2
  refine ⟨hconfig, hrecord, (Prod.mk.inj hthreshold).2, ?_⟩
  obtain ⟨hconn, htime⟩ := connection_foldl rs d
  obtain ⟨hconn', htime'⟩ := connection_foldl rs' d
  obtain ⟨hauthorized, hallowed⟩ := Prod.mk.inj ((session_foldl rs d).trans (session_foldl rs' d).symm)
  simp only [hneeds, hcount, hupdate, hauthorized, hallowed, hconn, hconn', htime, htime']

open Device in
/-- In any session, authorized or not, the requests for different characteristics can be sent in any order, as long
as none of them is an authentication, and at any moments, as long as those for the time of day arrive at the
same: settings, keys, counters and the pending restart are the same, and so is what the next boot loads.  A
firmware upload is pending if it was asked for and no later request was taken, first halves of keys apart. -/
theorem write_order_irrelevant (d : Device) {rs rs' : List Request} (hauth : ∀ r ∈ rs, r.chrc ≠ .auth)
    (h : ∀ ch, (rs.filter fun r => r.chrc = ch).map Request.content =
      (rs'.filter fun r => r.chrc = ch).map Request.content) :
    Alike (d.run (rs.map Request.event)) (d.run (rs'.map Request.event)) ∧
    load (d.run (rs.map Request.event)).settings.nvs.read =
      load (d.run (rs'.map Request.event)).settings.nvs.read ∧
    ((d.run (rs.map Request.event)).gatt.pauseUpload = true ↔
      d.gatt.pauseUpload = true ∧ d.LeavesUpload rs ∨
      ∃ pre r post, rs = pre ++ r :: post ∧ (d.run (pre.map Request.event)).AsksUpload r ∧
        ((d.run (pre.map Request.event)).step r.event).LeavesUpload post) := by
  have hcontent (rs : List Request) (hrs : ∀ r ∈ rs, r.chrc ≠ .auth) :
      ∀ r ∈ rs.map fun r => requestOf r.chrc r.content, r.chrc ≠ .auth := by
    intro r hr
    obtain ⟨s, hs, rfl⟩ := List.mem_map.1 hr
    exact hrs s hs
  have hauth' : ∀ r ∈ rs', r.chrc ≠ .auth := by
    intro r hr hch
    have hmem : r.content ∈ (rs'.filter fun r => r.chrc = .auth).map Request.content :=
      List.mem_map_of_mem (List.mem_filter.2 ⟨hr, by simpa using hch⟩)
    rw [← h] at hmem
    obtain ⟨s, hs, -⟩ := List.mem_map.1 hmem
    exact hauth s (List.mem_filter.1 hs).1 (by simpa using (List.mem_filter.1 hs).2)
  have halike : Alike (d.run (rs.map Request.event)) (d.run (rs'.map Request.event)) := by
    rw [← run_content d rs, ← run_content d rs']
    refine alike_of_filter_eq d (hcontent rs hauth) (hcontent rs' hauth') fun ch => ?_
    rw [filter_content, filter_content, h]
  exact ⟨halike, load_of_records halike.record, pauseUpload_run hauth d⟩

/-- A client may send its keys before or after the settings, and ask for an upload in between: the first half of a
key leaves it, the second takes it back. -/
theorem write_order_irrelevant_keys :
    let d := Device.defaultSession
    let period : Request := ⟨.period, 0, intBytes 8⟩
    let half (t : UInt32) : Request := ⟨.key, t, List.replicate 14 1⟩
    let upload : Request := ⟨.status, 5, intBytes Device.dfuWord⟩
    (d.run ([period, half 1, upload, half 2].map Request.event)).settings.config =
        (d.run ([half 3, { period with uptime := 4 }, half 5, upload].map Request.event)).settings.config ∧
      (d.run ([half 3, { period with uptime := 4 }, half 5, upload].map Request.event)).gatt.pauseUpload = true := by
  intro d period half upload
  refine ⟨(write_order_irrelevant d (by decide) fun ch => ?_).1.config, ?_⟩
  · cases ch <;> rfl
  · have hpending := (write_order_irrelevant d
      (by decide : ∀ r ∈ [half 3, { period with uptime := 4 }, half 5, upload], r.chrc ≠ .auth) fun _ => rfl).2.2
    refine hpending.2 (.inr ⟨[half 3, { period with uptime := 4 }, half 5], upload, [], rfl, ?_,
      Device.leavesUpload_nil _⟩)
    exact ⟨by decide +kernel, rfl, rfl, by decide⟩

end Everytag
