import Everytag.KeyStore
import Everytag.Records

/-!
# Halves of keys

Chunks go straight into the ring in RAM, one half of a slot each.  A disconnection after a completed key saves
the whole ring, and with it a slot of which only a half has arrived.  A slot is intact if no chunk for it has
arrived since the boot or the last two are its halves, received in one session (`IntactSlot`); as long as the
ring is saved with intact slots only, a load finds every slot as it was stored before or as it was
received whole (`keys_stored_whole`).
-/

namespace Everytag

open Bytes Interaction BeaconConfig StateMachine

/-- A chunk for slot `i` is accepted. -/
def ForSlot (i : Nat) (x : Device × GattEvent) : Prop := ∃ k buf, Accepted x k buf ∧ k / 2 = i

/-- The two halves of slot `i` are received one after the other, with no connection callback and no restart of
settings advertising in between; `post` is what comes after them. -/
def ReceivedWhole (past : History) (i : Nat) (first second : List UInt8) (post : History) : Prop :=
  ∃ pre x mid y, past = pre ++ x :: (mid ++ y :: post) ∧ Accepted x (2 * i) first ∧
    Accepted y (2 * i + 1) second ∧ ∀ z ∈ mid, ¬ z.2.resets

/-- Nothing has arrived for the slot, or both halves in one session and nothing after them. -/
def IntactSlot (past : History) (i : Nat) : Prop :=
  (∀ z ∈ past, ¬ ForSlot i z) ∨
    ∃ first second post, ReceivedWhole past i first second post ∧ ∀ z ∈ post, ¬ ForSlot i z

/-- The slot of `ring`, or two halves received for the slot in one session. -/
def WholeSlot (ring : KeyRing) (past : History) (i : Nat) (key : Key) : Prop :=
  ring[i]? = some key ∨
    ∃ first second post, ReceivedWhole past i first second post ∧ key.toList = first ++ second

section

variable {d₀ d : Device} {past pre post mid : History} {x y : Device × GattEvent} {i k : Nat}
  {buf first second : List UInt8}

theorem ReceivedWhole.append (h : ReceivedWhole past i first second post) (more : History) :
    ReceivedWhole (past ++ more) i first second (post ++ more) := by
  obtain ⟨pre, x, mid, y, rfl, hx, hy, hmid⟩ := h
  exact ⟨pre, x, mid, y, by simp, hx, hy, hmid⟩

theorem WholeSlot.append {ring : KeyRing} {key : Key} (h : WholeSlot ring past i key) (more : History) :
    WholeSlot ring (past ++ more) i key := by
  rcases h with h | ⟨first, second, post, h, hkey⟩
  · exact .inl h
  · exact .inr ⟨first, second, _, h.append more, hkey⟩

/-! ## The ring in RAM -/

theorem Accepted.keysReceived (h : Accepted x k buf) : (x.1.step x.2).gatt.keysReceived = k + 1 := by
  rw [h.gatt, Device.countChunk, ← h.count]
  split <;> rfl

/-- Between the chunks number `k` and `k + 1` of a session no other chunk is accepted. -/
theorem Ran.no_chunk_between (h : Ran (x.1.step x.2) mid y.1) (hx : Accepted x k buf)
    (hy : y.1.gatt.keysReceived = k + 1) (hmid : ∀ z ∈ mid, ¬ z.2.resets) :
    ∀ z ∈ mid, ∀ k' buf', ¬ Accepted z k' buf' := by
  intro z hz k' buf' hacc
  have hno (w : Device × GattEvent) (hw : w ∈ mid) : w.2 ≠ .startSettingsAdv := fun he =>
    hmid w hw (by rw [he]; trivial)
  obtain ⟨mid₁, mid₂, rfl⟩ := List.append_of_mem hz
  have hbefore : k + 1 ≤ k' := by
    rw [← hx.keysReceived, ← hacc.count]
    exact (h.split rfl).1.keysReceived_mono fun w hw => hno w (List.mem_append_left _ hw)
  have hafter : k' + 1 ≤ k + 1 := by
    rw [← hacc.keysReceived, ← hy]
    exact (h.split rfl).2.keysReceived_mono fun w hw => hno w (by simp [hw])
  omega

/-- Two chunks, one for each half, make a slot. -/
theorem toList_of_halves (h : Ran (x.1.step x.2) mid y.1) (hi : i < 40) (hx : Accepted x (2 * i) first)
    (hy : Accepted y (2 * i + 1) second) (hmid : ∀ z ∈ mid, ¬ z.2.resets) :
    ((y.1.step y.2).settings.config.keys[i]).toList = first ++ second := by
  have hkept : y.1.settings.config.keys[i] = (x.1.step x.2).settings.config.keys[i] :=
    h.slot_same hi fun z hz k buf hacc => absurd hacc (h.no_chunk_between hx hy.count hmid z hz k buf)
  have hl := hx.length
  have hr := hy.length
  apply List.ext_getElem
  · simp [hl, hr]
  · intro j h1 h2
    have hj : j < 28 := by simpa using h1
    rw [Vector.getElem_toList, hy.getElem hi hj, hkept, hx.getElem hi hj, List.getElem_append]
    by_cases hfirst : j < 14
    · have hmod : j % 14 = j := by omega
      rw [if_neg (by omega), if_pos (by omega), dif_pos (by omega), hmod,
        List.getElem?_eq_getElem (by omega), Option.getD_some]
    · have hmod : j % 14 = j - first.length := by omega
      rw [if_pos (by omega), dif_neg (by omega), hmod, List.getElem?_eq_getElem (by omega), Option.getD_some]

/-- An intact slot is as it was at the boot or as it was received whole. -/
theorem Ran.whole_of_intact (h : Ran d₀ past d) (hi : i < 40) (hslot : IntactSlot past i) :
    WholeSlot d₀.settings.config.keys past i d.settings.config.keys[i] := by
  rcases hslot with hnone | ⟨first, second, post, hrec, hpost⟩
  · left
    rw [Vector.getElem?_eq_getElem hi, h.slot_same hi fun z hz k buf hacc hk => hnone z hz ⟨k, buf, hacc, hk⟩]
  · refine .inr ⟨first, second, post, hrec, ?_⟩
    obtain ⟨pre, x, mid, y, hpast, hx, hy, hmid⟩ := hrec
    obtain ⟨hbetween, hafter⟩ := (h.split hpast).2.split rfl
    rw [hafter.slot_same hi fun z hz k buf hacc hk => hpost z hz ⟨k, buf, hacc, hk⟩]
    exact toList_of_halves hbetween hi hx hy hmid

/-! ## The record -/

/-- A load reads the ring from its own record alone. -/
theorem load_keys (rd : NvsRead) : (load rd).keys =
    overlayRows (Vector.replicate 40 (Vector.replicate 28 0)) (rd NvsFieldId.key.id 1120).2 := by
  obtain ⟨hperiod, hpower, hinterval, hstatus, haccel⟩ :=
    apply_integerReads (f := BeaconConfig.keys) (fun _ _ _ hs hne => Device.keys_apply hs hne) rd
  have hfmdn := apply_loadFmdnKey (f := BeaconConfig.keys) (fun _ _ => rfl) rd
  simp only [load, loadSteps, List.foldl_cons, List.foldl_nil, hfmdn, loadKeys_keys, apply_ite BeaconConfig.keys,
    ite_self, haccel, hstatus, hinterval, hpower, hperiod]

/-- The record of the ring is the one of the boot, or was saved by a disconnection. -/
def StoredRing (d₀ : Device) (w : Firmware) : Prop :=
  w.device.settings.nvs.find NvsFieldId.key.id = d₀.settings.nvs.find NvsFieldId.key.id ∨
    ∃ pre d post, w.past = pre ++ (d, .disconnected) :: post ∧ d.gatt.updateKeysAtDisconnect = true ∧
      w.device.settings.nvs.find NvsFieldId.key.id = some (flat d.settings.config.keys)

variable {w w' : Firmware} {more : History}

theorem StoredRing.mono (h : StoredRing d₀ w) (hpast : w'.past = w.past ++ more)
    (hfind : w'.device.settings.nvs.find NvsFieldId.key.id = w.device.settings.nvs.find NvsFieldId.key.id) :
    StoredRing d₀ w' := by
  rcases h with h | ⟨pre, d, post, hsplit, hflag, hrec⟩
  · exact .inl (hfind.trans h)
  · exact .inr ⟨pre, d, post ++ more, by rw [hpast, hsplit]; simp, hflag, hfind.trans hrec⟩

theorem StoredRing.move (h : StoredRing d₀ w) (hm : firmware.move w w') : StoredRing d₀ w' := by
  obtain ⟨e, rfl⟩ := hm
  by_cases hsave : e = .disconnected ∧ w.device.gatt.updateKeysAtDisconnect = true
  · obtain ⟨rfl, hflag⟩ := hsave
    refine .inr ⟨w.past, w.device, [], rfl, hflag, ?_⟩
    rw [Device.step_disconnected_settings hflag, SettingsManager.find_save, if_pos rfl]
    rfl
  · refine h.mono rfl (Device.step_find (fun ch _ _ _ => by cases ch <;> simp [Chrc.record]) fun _ he => ?_)
    simpa using fun hflag => hsave ⟨he, hflag⟩

theorem StoredRing.step {c : Call} {a : c.Ans} (h : StoredRing d₀ w) (hs : firmware.step w c a w') :
    StoredRing d₀ w' := by
  obtain ⟨more, hmore⟩ := firmware_past hs
  exact h.mono hmore (hs.1.find (by decide) (by simp))

theorem StoredRing.during {p : Main StateMachine}
    (h : During firmware (initializeMachine {}) mainLoop (· = ⟨d₀, []⟩) p w) : StoredRing d₀ w :=
  during_keeps (I := StoredRing d₀) (by rintro _ rfl; exact .inl rfl) (fun _ _ h hm => h.move hm)
    (fun _ _ _ _ h hs => h.step hs) h

/-- In every run in which the ring is saved with intact slots only, each slot that the next load finds is the one
stored before, or consists of two halves received for it in one session. -/
theorem keys_stored_whole {nvs : Nvs} {p : Main StateMachine}
    (h : During firmware (initializeMachine {}) mainLoop (· = ⟨Device.boot nvs, []⟩) p w)
    (hsaves : ∀ pre d post, w.past = pre ++ (d, .disconnected) :: post →
      d.gatt.updateKeysAtDisconnect = true → ∀ i < 40, IntactSlot pre i) (i : Nat) (hi : i < 40) :
    WholeSlot (load nvs.read).keys w.past i (load w.device.settings.nvs.read).keys[i] := by
  have hran : Ran (Device.boot nvs) w.past w.device := .during h
  rcases StoredRing.during h with hsame | ⟨pre, d, post, hpast, hflag, hfind⟩
  · have hread : w.device.settings.nvs.read NvsFieldId.key.id = nvs.read NvsFieldId.key.id := by
      funext len
      simp only [Nvs.read, hsame]
      rfl
    left
    rw [load_keys, load_keys, hread, Vector.getElem?_eq_getElem hi]
  · have hslot := (hran.split hpast).1.whole_of_intact hi (hsaves pre d post hpast hflag i hi)
    rw [(load_keys_of_find hfind).1, hpast]
    exact hslot.append _

end

/-! ## Two sessions -/

/-- The one disconnection of a history that ends with it. -/
theorem eq_of_disconnected_last {init pre post : History} {e : Device × GattEvent} {d : Device}
    (hinit : ∀ z ∈ init, z.2 ≠ .disconnected) (h : init ++ [e] = pre ++ (d, .disconnected) :: post) :
    pre = init := by
  rcases post.eq_nil_or_concat with rfl | ⟨post, z, rfl⟩
  · exact (List.append_inj' h rfl).1.symm
  · rw [List.concat_eq_append, ← List.cons_append, ← List.append_assoc] at h
    have hmem : (d, GattEvent.disconnected) ∈ init := by
      rw [(List.append_inj' h rfl).1]
      simp
    exact absurd rfl (hinit _ hmem)

/-- A client sends one key and leaves. -/
theorem keys_stored_whole_one_key :
    ∃ (p : Main StateMachine) (w : Firmware),
      During firmware (initializeMachine {}) mainLoop (· = ⟨Device.boot (turnedOnNvs []), []⟩) p w ∧
      ∀ (i : Nat) (hi : i < 40),
        WholeSlot (load (turnedOnNvs []).read).keys w.past i (load w.device.settings.nvs.read).keys[i] := by
  obtain ⟨r, hr, hpast⟩ : ∃ r ∈ settingsRun (Device.boot (turnedOnNvs [])) (uploadOneKey ++ [.disconnected]) [],
      r.2.past.map (fun z => (z.2, z.1.gatt.keysReceived, z.1.gatt.allowedChange && z.1.gatt.authorizedGatt)) =
        [(.startSettingsAdv, 0, false), (.connected 0, 0, false),
          (.write .auth 0 defaultAuthCode.toList, 0, false), (.write .key 0 (List.replicate 14 0x5A), 0, true),
          (.write .key 0 (List.replicate 14 0x5A), 1, true), (.disconnected, 2, true)] := by decide +kernel
  simp only [List.map_eq_cons_iff, List.map_eq_nil_iff, Prod.mk.injEq, Bool.and_eq_true] at hpast
  obtain ⟨a, _, hpast, ⟨ha, ha₀, -⟩, b, _, rfl, ⟨hb, hb₀, -⟩, c, _, rfl, ⟨hc, hc₀, -⟩, x, _, rfl,
    ⟨hx, hx₀, hxa, hxz⟩, y, _, rfl, ⟨hy, hy₁, hya, hyz⟩, e, _, rfl, ⟨he, -⟩, rfl⟩ := hpast
  have hfirst : Accepted x 0 (List.replicate 14 0x5A) := ⟨⟨0, hx⟩, hxa, hxz, rfl, hx₀, by decide⟩
  have hsecond : Accepted y 1 (List.replicate 14 0x5A) := ⟨⟨0, hy⟩, hya, hyz, rfl, hy₁, by decide⟩
  have hinit : ∀ z ∈ [a, b, c, x, y], z.2 ≠ .disconnected ∧ z.1.gatt.keysReceived ≤ 1 := by
    simp [ha, hb, hc, hx, hy, ha₀, hb₀, hc₀, hx₀, hy₁]
  refine ⟨_, _, during_settingsRun hr, keys_stored_whole (during_settingsRun hr) fun pre d post hsplit _ i _ => ?_⟩
  rw [hpast] at hsplit
  rw [eq_of_disconnected_last (fun z hz => (hinit z hz).1) (e := e) hsplit]
  by_cases hi : i = 0
  · subst hi
    exact .inr ⟨_, _, [], ⟨[a, b, c], x, [], y, rfl, hfirst, hsecond, by simp⟩, by simp⟩
  · refine .inl ?_
    intro z hz hfor
    obtain ⟨k, buf, hacc, hk⟩ := hfor
    have := (hinit z hz).2
    rw [hacc.count] at this
    omega

/-- Over a ring of forty keys a client sends a key and a half, and leaves: the second slot has the new first half
and the old second one. -/
theorem keys_stored_torn :
    ¬ ∀ (nvs : Nvs) (p : Main StateMachine) (w : Firmware),
      During firmware (initializeMachine {}) mainLoop (· = ⟨Device.boot nvs, []⟩) p w →
      ∀ (i : Nat) (hi : i < 40),
        WholeSlot (load nvs.read).keys w.past i (load w.device.settings.nvs.read).keys[i] := by
  let nvs : Nvs := turnedOnNvs [(NvsFieldId.key.id, List.replicate 1120 0x11)]
  obtain ⟨r, hr, hold, hsaved, hnew, hno⟩ : ∃ r ∈ settingsRun (Device.boot nvs)
      (uploadOneKey ++ [.write .key 0 (List.replicate 14 0x22), .disconnected]) [],
      (load nvs.read).keys[1][0] = 0x11 ∧
      (r.2.device.settings.nvs.find NvsFieldId.key.id).bind List.head? = some 0x5A ∧
      (∀ z ∈ r.2.past, z.2 = .disconnected → z.1.settings.config.keys[1][0] = 0x22) ∧
      ∀ z ∈ r.2.past, z.1.gatt.keysReceived = 3 → z.2 = .disconnected := by decide +kernel
  have hrun := during_settingsRun hr
  intro h
  rcases StoredRing.during hrun with hsame | ⟨pre, d, post, hpast, -, hfind⟩
  · rw [hsame, show (Device.boot nvs).settings.nvs.find NvsFieldId.key.id = some (List.replicate 1120 0x11) from rfl]
      at hsaved
    exact absurd hsaved (by decide)
  have hslot := h nvs _ _ hrun 1 (by decide)
  rw [(load_keys_of_find hfind).1] at hslot
  rcases hslot with hslot | ⟨first, second, post, ⟨pre, x, mid, y, hpast, -, hy, -⟩, -⟩
  · rw [Vector.getElem?_eq_getElem (by decide), Option.some.injEq] at hslot
    rw [hslot, hnew (d, .disconnected) (by rw [hpast]; simp) rfl] at hold
    exact absurd hold (by decide)
  · obtain ⟨t, he⟩ := hy.event
    have := hno y (by rw [hpast]; simp) hy.count
    rw [he] at this
    cases this

end Everytag
