import Everytag.Authorization
import Everytag.Upload

/-!
# From the ring to flash

An accepted chunk goes into the ring in RAM.  The second half of a key sets `updateKeysAtDisconnect`, and
the `disconnected` callback saves the ring if it finds the flag set.  `start_settings_adv`
clears the flag and the chunk counter: when it comes first, the callback saves nothing
(`completed_keys_saved_iff`).
-/

namespace Everytag

open Bytes Interaction BeaconConfig StateMachine

/-- The event is a chunk that is accepted as number `k`. -/
structure Accepted (x : Device × GattEvent) (k : Nat) (buf : List UInt8) : Prop where
  event : ∃ t, x.2 = .write .key t buf
  allowed : x.1.gatt.allowedChange = true
  authorized : x.1.gatt.authorizedGatt = true
  length : buf.length = 14
  count : x.1.gatt.keysReceived = k
  room : k < 2 * kMaxKeysInMemory

/-- The chunk is the second half of a key for slot `m`. -/
def CompletesKey (x : Device × GattEvent) (m : Nat) : Prop := ∃ buf, Accepted x (2 * m + 1) buf

namespace Device

variable {d d' : Device} {e : GattEvent} {ch : Chrc} {t : UInt32} {buf : List UInt8}

/-! ## One event -/

/-- What becomes of the counter and the flag where no chunk is accepted. -/
structure SameCount (g g' : Gatt) : Prop where
  keysReceived : g'.keysReceived = g.keysReceived
  updateKeys : g'.updateKeysAtDisconnect = g.updateKeysAtDisconnect

theorem gatedWrite_count {restart : Bool} {f : Device → List UInt8 → Device} (hf : (f d buf).gatt = d.gatt) :
    SameCount d.gatt (gatedWrite restart f d buf).2.gatt := by
  have hkeys : (f d buf).gatt.keysReceived = d.gatt.keysReceived := by rw [hf]
  have hflag : (f d buf).gatt.updateKeysAtDisconnect = d.gatt.updateKeysAtDisconnect := by rw [hf]
  unfold gatedWrite
  split
  · exact ⟨rfl, rfl⟩
  · exact ⟨hkeys, hflag⟩

theorem attWrite_count (h : ch ≠ .key) : SameCount d.gatt (d.attWrite ch t buf).2.gatt := by
  unfold attWrite
  split
  · cases ch with
    | key => exact absurd rfl h
    | auth =>
      simp only [chrcWrite, chrcWriteAuth]
      split <;> exact ⟨rfl, rfl⟩
    | status =>
      simp only [chrcWrite, chrcWriteStatus]
      split
      · exact ⟨rfl, rfl⟩
      · split
        · exact ⟨rfl, rfl⟩
        · exact gatedWrite_count rfl
    | accel => exact gatedWrite_count (@bridge_gatt d .accel t buf)
    | _ => exact gatedWrite_count rfl
  · exact ⟨rfl, rfl⟩

/-- The ring is the same. -/
def SameRing (d d' : Device) : Prop := d'.settings.config.keys = d.settings.config.keys

/-- What an event does to ring, counter and flag. -/
inductive RingStep (d : Device) : GattEvent → Device → Prop
  | chunk {e : GattEvent} {d' : Device} {k : Nat} {buf : List UInt8} : Accepted (d, e) k buf →
      d'.gatt = countChunk d.gatt → RingStep d e d'
  | restart {d' : Device} : SameRing d d' → d'.gatt.keysReceived = 0 →
      d'.gatt.updateKeysAtDisconnect = false → RingStep d .startSettingsAdv d'
  | disconnected {d' : Device} : SameRing d d' → d'.gatt.keysReceived = d.gatt.keysReceived →
      d'.gatt.updateKeysAtDisconnect = false → RingStep d .disconnected d'
  | other {e : GattEvent} {d' : Device} : (∀ k buf, ¬ Accepted (d, e) k buf) → e ≠ .startSettingsAdv →
      e ≠ .disconnected → SameRing d d' → SameCount d.gatt d'.gatt → RingStep d e d'

theorem sameRing_step (h : ∀ t buf, e ≠ .write .key t buf) : SameRing d (d.step e) := by
  rcases keys_step (d := d) (e := e) with hsame | ⟨-, t, buf, he, -⟩
  · exact hsame
  · exact absurd he (h t buf)

theorem ringStep : RingStep d e (d.step e) := by
  have hnot (h : ∀ t buf, e ≠ .write .key t buf) (k : Nat) (buf : List UInt8) : ¬ Accepted (d, e) k buf :=
    fun hacc => hacc.event.elim fun t he => h t buf he
  cases e with
  | startSettingsAdv => exact .restart rfl rfl rfl
  | disconnected =>
    refine .disconnected (sameRing_step (by simp)) ?_ ?_
    · simp only [step, handle, Device.disconnected]
      split <;> rfl
    · simp only [step, handle, Device.disconnected]
      split
      · rfl
      · rename_i hflag
        simpa using hflag
  | connected err =>
    refine .other (hnot (by simp)) (by simp) (by simp) (sameRing_step (by simp)) ?_
    simp only [step, handle, Device.connected]
    split <;> exact ⟨rfl, rfl⟩
  | recycled => exact .other (hnot (by simp)) (by simp) (by simp) rfl ⟨rfl, rfl⟩
  | readTime t len offset =>
    refine .other (hnot (by simp)) (by simp) (by simp) (sameRing_step (by simp)) ?_
    simp only [step, handle, chrcReadTimeOffset]
    split
    · exact ⟨rfl, rfl⟩
    · split <;> exact ⟨rfl, rfl⟩
  | write ch t buf =>
    by_cases hch : ch = .key
    · subst hch
      by_cases hacc : d.gatt.allowedChange = true ∧ d.gatt.authorizedGatt = true ∧
          buf.length = 14 ∧ d.gatt.keysReceived < 2 * kMaxKeysInMemory
      · obtain ⟨ha, hz, hlen, hk⟩ := hacc
        refine .chunk ⟨⟨t, rfl⟩, ha, hz, hlen, rfl, hk⟩ ?_
        rw [step_key ha hz hlen hk]
      · rw [step_key_refused hacc]
        refine .other (fun k buf' h => hacc ?_) (by simp) (by simp) rfl ⟨rfl, rfl⟩
        obtain ⟨t', he⟩ := h.event
        cases he
        exact ⟨h.allowed, h.authorized, h.length, h.count.symm ▸ h.room⟩
    · refine .other (hnot (by simp [hch])) (by simp) (by simp) (sameRing_step (by simp [hch])) ?_
      exact attWrite_count hch

/-- Only a restart of settings advertising takes the counter back. -/
theorem keysReceived_le_step (he : e ≠ .startSettingsAdv) :
    d.gatt.keysReceived ≤ (d.step e).gatt.keysReceived := by
  have hs := ringStep (d := d) (e := e)
  generalize d.step e = d' at hs ⊢
  cases hs with
  | chunk hacc hg =>
    rw [hg, countChunk]
    split <;> exact Nat.le_succ _
  | restart => exact absurd rfl he
  | disconnected _ hc => exact hc.ge
  | other _ _ _ _ hc => exact hc.keysReceived.ge

/-- Only the two callbacks of the end of a session clear the flag. -/
theorem updateKeys_step (hd : e ≠ .disconnected) (he : e ≠ .startSettingsAdv)
    (hflag : d.gatt.updateKeysAtDisconnect = true) : (d.step e).gatt.updateKeysAtDisconnect = true := by
  have hs := ringStep (d := d) (e := e)
  generalize d.step e = d' at hs ⊢
  cases hs with
  | chunk hacc hg =>
    rw [hg, countChunk]
    split
    · rfl
    · exact hflag
  | restart => exact absurd rfl he
  | disconnected => exact absurd rfl hd
  | other _ _ _ _ hc => exact hc.updateKeys.trans hflag

end Device

/-! ## Accepted chunks -/

section

variable {x : Device × GattEvent} {m k i j : Nat} {buf : List UInt8}

/-- A chunk lands in its half of its slot. -/
theorem Accepted.getElem (h : Accepted x k buf) (hi : i < 40) (hj : j < 28) :
    (x.1.step x.2).settings.config.keys[i][j] =
      if 2 * i + j / 14 = k then buf[j % 14]?.getD x.1.settings.config.keys[i][j]
      else x.1.settings.config.keys[i][j] := by
  obtain ⟨t, he⟩ := h.event
  have hk : x.1.gatt.keysReceived < 2 * kMaxKeysInMemory := h.count.symm ▸ h.room
  rw [he, Device.getElem_step_key h.allowed h.authorized h.length hk hi hj, h.count]

theorem Accepted.slot_of_ne (h : Accepted x k buf) (hi : i < 40) (hne : k / 2 ≠ i) :
    (x.1.step x.2).settings.config.keys[i] = x.1.settings.config.keys[i] := by
  ext j hj
  rw [h.getElem hi hj, if_neg (by omega)]

theorem Accepted.gatt (h : Accepted x k buf) : (x.1.step x.2).gatt = Device.countChunk x.1.gatt := by
  obtain ⟨t, he⟩ := h.event
  rw [he, Device.step_key h.allowed h.authorized h.length (h.count.symm ▸ h.room)]

/-- The second half of a key leaves the ring to be saved. -/
theorem CompletesKey.gatt (h : CompletesKey x m) : (x.1.step x.2).gatt.keysReceived = 2 * (m + 1) ∧
    (x.1.step x.2).gatt.updateKeysAtDisconnect = true := by
  obtain ⟨buf, hacc⟩ := h
  rw [hacc.gatt, Device.countChunk_of_odd hacc.count]
  exact ⟨rfl, rfl⟩

theorem CompletesKey.lt (h : CompletesKey x m) : m < 40 := by
  obtain ⟨buf, hacc⟩ := h
  have hroom := hacc.room
  simp only [kMaxKeysInMemory] at hroom
  omega

/-- An event leaves every slot alone that it has no chunk for. -/
theorem slot_step {d : Device} {e : GattEvent} (hm : m < 40) (he : ∀ k buf, Accepted (d, e) k buf → k / 2 ≠ m) :
    (d.step e).settings.config.keys[m] = d.settings.config.keys[m] := by
  have hs := Device.ringStep (d := d) (e := e)
  generalize hd' : d.step e = d' at hs ⊢
  cases hs with
  | chunk hacc =>
    subst hd'
    exact hacc.slot_of_ne hm (he _ _ hacc)
  | restart hk | disconnected hk | other _ _ _ hk => rw [hk]

/-- Only the second half of a key sets the flag. -/
theorem updateKeys_clear_step {d : Device} {e : GattEvent} (he : ∀ m, ¬ CompletesKey (d, e) m)
    (hflag : d.gatt.updateKeysAtDisconnect = false) : (d.step e).gatt.updateKeysAtDisconnect = false := by
  have hs := Device.ringStep (d := d) (e := e)
  generalize d.step e = d' at hs ⊢
  cases hs with
  | @chunk _ _ k buf hacc hg =>
    obtain ⟨m, rfl | rfl⟩ : ∃ m, k = 2 * m ∨ k = 2 * m + 1 := ⟨k / 2, by omega⟩
    · rw [hg, Device.countChunk_of_even hacc.count]
      exact hflag
    · exact absurd ⟨buf, hacc⟩ (he m)
  | restart _ _ hf | disconnected _ _ hf => exact hf
  | other _ _ _ _ hc => exact hc.updateKeys.trans hflag

end

/-! ## Runs -/

section

variable {d₀ d d₁ : Device} {past pre post : History} {x y z : Device × GattEvent} {m k : Nat}

/-- A run is the run up to one of its events and the run from there on. -/
theorem Ran.split (h : Ran d₀ past d) (hpast : past = pre ++ x :: post) :
    Ran d₀ pre x.1 ∧ Ran (x.1.step x.2) post d := by
  induction h generalizing post with
  | start => simp at hpast
  | @event past d e hr ih =>
    rcases post.eq_nil_or_concat with rfl | ⟨post, z, rfl⟩
    · obtain ⟨rfl, hx⟩ := List.append_inj' hpast rfl
      cases hx
      exact ⟨hr, .start⟩
    · rw [List.concat_eq_append, ← List.cons_append, ← List.append_assoc] at hpast
      obtain ⟨hpre, hz⟩ := List.append_inj' hpast rfl
      cases hz
      rw [List.concat_eq_append]
      exact ⟨(ih hpre).1, (ih hpre).2.event e⟩
  | call _ hs ih => exact ⟨(ih hpast).1, (ih hpast).2.call hs⟩

/-- What every event of a run keeps, and the calls in between. -/
theorem Ran.keeps {I : Device → Prop} {N : Device × GattEvent → Prop} (h : Ran d₀ past d)
    (hpast : ∀ z ∈ past, N z) (hevent : ∀ d e, N (d, e) → I d → I (d.step e))
    (hcall : ∀ d d', SameSession d d' → I d → I d') (h₀ : I d₀) : I d := by
  induction h with
  | start => exact h₀
  | event e _ ih =>
    rw [List.forall_mem_append, List.forall_mem_singleton] at hpast
    exact hevent _ _ hpast.2 (ih hpast.1)
  | call _ hs ih => exact hcall _ _ hs (ih hpast)

/-- Without a restart of settings advertising the counter does not go back. -/
theorem Ran.keysReceived_mono (h : Ran d₀ past d) (hpast : ∀ z ∈ past, z.2 ≠ .startSettingsAdv) :
    d₀.gatt.keysReceived ≤ d.gatt.keysReceived := by
  refine h.keeps (I := fun d => d₀.gatt.keysReceived ≤ d.gatt.keysReceived) hpast ?_ ?_ (le_refl _)
  · intro d e he hle
    exact hle.trans (Device.keysReceived_le_step he)
  · intro d d' hs hle
    rw [hs.gatt]
    exact hle

/-- A slot stays as it is while no chunk for it is accepted. -/
theorem Ran.slot_same (h : Ran d₀ past d) (hm : m < 40)
    (hpast : ∀ z ∈ past, ∀ k buf, Accepted z k buf → k / 2 ≠ m) :
    d.settings.config.keys[m] = d₀.settings.config.keys[m] := by
  refine h.keeps (I := fun d => d.settings.config.keys[m] = d₀.settings.config.keys[m]) hpast ?_ ?_ rfl
  · intro d e he hsame
    exact (slot_step hm he).trans hsame
  · intro d d' hs hsame
    exact (congrArg (·[m]) hs.keys).trans hsame

/-- The ring stays to be saved until a disconnection or a restart of settings advertising. -/
theorem Ran.updateKeys_kept (h : Ran d₀ past d) (h₀ : d₀.gatt.updateKeysAtDisconnect = true)
    (hpast : ∀ z ∈ past, z.2 ≠ .disconnected ∧ z.2 ≠ .startSettingsAdv) :
    d.gatt.updateKeysAtDisconnect = true := by
  refine h.keeps (I := fun d => d.gatt.updateKeysAtDisconnect = true) hpast ?_ ?_ h₀
  · intro d e he hflag
    exact Device.updateKeys_step he.1 he.2 hflag
  · intro d d' hs hflag
    rw [hs.gatt]
    exact hflag

/-- Only the second half of a key makes the ring one to be saved. -/
theorem Ran.updateKeys_clear (h : Ran d₀ past d) (h₀ : d₀.gatt.updateKeysAtDisconnect = false)
    (hpast : ∀ z ∈ past, ∀ m, ¬ CompletesKey z m) : d.gatt.updateKeysAtDisconnect = false := by
  refine h.keeps (I := fun d => d.gatt.updateKeysAtDisconnect = false) hpast ?_ ?_ h₀
  · intro d e he hflag
    exact updateKeys_clear_step he hflag
  · intro d d' hs hflag
    rw [hs.gatt]
    exact hflag

/-- After the second half of a key, up to a disconnection or a restart of settings advertising, the ring is to
be saved, with the keys up to this one as they are. -/
theorem Ran.pending (h : Ran d₀ past d) (hpast : past = pre ++ x :: post) (hx : CompletesKey x m)
    (hpost : ∀ z ∈ post, z.2 ≠ .disconnected ∧ z.2 ≠ .startSettingsAdv) :
    d.gatt.updateKeysAtDisconnect = true ∧ ∀ i ≤ m,
      d.settings.config.keys[i]? = (x.1.step x.2).settings.config.keys[i]? := by
  obtain ⟨-, hr⟩ := h.split hpast
  refine ⟨hr.updateKeys_kept hx.gatt.2 hpost, fun i hi => ?_⟩
  have hm : i < 40 := by
    have := hx.lt
    omega
  rw [Vector.getElem?_eq_getElem hm, Vector.getElem?_eq_getElem hm,
    hr.slot_same hm fun z hz k buf hacc => ?_]
  obtain ⟨mid, rest, rfl⟩ := List.append_of_mem hz
  have hcount : 2 * (m + 1) ≤ z.1.gatt.keysReceived := by
    rw [← hx.gatt.1]
    exact (hr.split rfl).1.keysReceived_mono fun y hy => (hpost y (List.mem_append_left _ hy)).2
  rw [hacc.count] at hcount
  omega

end

/-! ## The callback -/

/-- The callback saves the ring. -/
def SavesRing (d : Device) : Prop :=
  (d.step .disconnected).settings.nvs =
    (d.settings.nvs.write NvsFieldId.key.id (flat d.settings.config.keys)).2

theorem savesRing_iff {d : Device} : SavesRing d ↔ d.gatt.updateKeysAtDisconnect = true := by
  by_cases hflag : d.gatt.updateKeysAtDisconnect = true
  · have : SavesRing d := by
      rw [SavesRing, Device.step_disconnected_settings hflag]
      simp [SettingsManager.save, SettingsManager.saveField, fieldBytes]
    simp [this, hflag]
  · have hsame : (d.step .disconnected).settings.nvs = d.settings.nvs := by
      simp [Device.step, Device.handle, Device.disconnected, hflag]
    have : ¬ SavesRing d := fun h => by
      have hlog := congrArg Nvs.log (hsame.symm.trans h)
      simp [Nvs.write] at hlog
    simp [this, hflag]

/-- Before the device restarts, the next disconnection saves the ring, with the slots up to `m` as in `ring`. -/
def SavedAfter (ring : KeyRing) (m : Nat) (post : History) : Prop :=
  ∃ mid d post', post = mid ++ (d, .disconnected) :: post' ∧ (∀ z ∈ mid, z.2 ≠ .disconnected) ∧
    SavesRing d ∧ ∀ i ≤ m, d.settings.config.keys[i]? = ring[i]?

/-- Before the device restarts, the disconnection is delivered, and settings advertising has not been restarted
until then. -/
def DeliveredFirst (post : History) : Prop :=
  ∃ mid d post', post = mid ++ (d, .disconnected) :: post' ∧
    ∀ z ∈ mid, z.2 ≠ .disconnected ∧ z.2 ≠ .startSettingsAdv

/-- The events up to the next disconnection. -/
def untilDisconnected (post : History) : History := post.takeWhile fun z => decide (z.2 ≠ .disconnected)

theorem untilDisconnected_append {mid post : History} {d : Device} (h : ∀ z ∈ mid, z.2 ≠ .disconnected) :
    untilDisconnected (mid ++ (d, .disconnected) :: post) = mid := by
  rw [untilDisconnected, List.takeWhile_append_of_pos (by simpa using h)]
  simp

/-- In every run, the ring with the keys that a session completes is saved by its disconnection, before the device
restarts, exactly if that disconnection is delivered and settings advertising is not restarted first. -/
theorem completed_keys_saved_iff {d₀ : Device} {p : Main StateMachine} {w : Firmware}
    (h : During firmware (initializeMachine {}) mainLoop (· = ⟨d₀, []⟩) p w) {pre post : History}
    {x : Device × GattEvent} {m : Nat} (hpast : w.past = pre ++ x :: post) (hx : CompletesKey x m)
    (hlast : ∀ z ∈ untilDisconnected post, ∀ k, ¬ CompletesKey z k) :
    SavedAfter (x.1.step x.2).settings.config.keys m post ↔ DeliveredFirst post := by
  have hran : Ran d₀ w.past w.device := .during h
  constructor
  · rintro ⟨mid, d, post', rfl, hmid, hsaves, -⟩
    rw [untilDisconnected_append hmid] at hlast
    refine ⟨mid, d, post', rfl, fun z hz => ⟨hmid z hz, fun hrestart => ?_⟩⟩
    obtain ⟨mid₁, mid₂, rfl⟩ := List.append_of_mem hz
    have hsplit : w.past = (pre ++ x :: mid₁) ++ z :: (mid₂ ++ (d, .disconnected) :: post') := by
      rw [hpast]
      simp
    obtain ⟨-, hfrom⟩ := hran.split hsplit
    have hclear : (z.1.step z.2).gatt.updateKeysAtDisconnect = false := by
      rw [hrestart]
      rfl
    have hflag : d.gatt.updateKeysAtDisconnect = false :=
      (hfrom.split rfl).1.updateKeys_clear hclear fun y hy =>
        hlast y (List.mem_append_right _ (List.mem_cons_of_mem _ hy))
    exact absurd (savesRing_iff.1 hsaves) (by simp [hflag])
  · rintro ⟨mid, d, post', rfl, hmid⟩
    have hsplit : w.past = (pre ++ x :: mid) ++ (d, .disconnected) :: post' := by
      rw [hpast]
      simp
    obtain ⟨hat, -⟩ := hran.split hsplit
    obtain ⟨hflag, hring⟩ := hat.pending rfl hx hmid
    exact ⟨mid, d, post', rfl, fun z hz => (hmid z hz).1, savesRing_iff.2 hflag, hring⟩

/-! ## A session by hand -/

/-- Events arrive one after the other. -/
def Firmware.deliver (w : Firmware) (es : List GattEvent) : Firmware :=
  ⟨w.device.run es, w.past ++ w.device.history es⟩

theorem Firmware.moves_deliver (w : Firmware) (es : List GattEvent) : firmware.Moves w (w.deliver es) := by
  induction es generalizing w with
  | nil =>
    rw [show w.deliver [] = w by simp [deliver, Device.history]]
    exact .refl
  | cons e es ih =>
    have hnext := ih ⟨w.device.step e, w.past ++ [(w.device, e)]⟩
    rw [show w.deliver (e :: es) = Firmware.deliver ⟨w.device.step e, w.past ++ [(w.device, e)]⟩ es by
      simp [deliver, Device.history]]
    exact .head ⟨e, rfl⟩ hnext

/-- The answers at an uptime, where some events come before a call. -/
def Firmware.serve (now : UInt32) (before : Call → List GattEvent) (w : Firmware) (c : Call) :
    Option (c.Ans × Firmware) :=
  let w := w.deliver (before c)
  match c with
  | .glueSyncGattState => some (⟨w.device.gatt.connectedGatt, w.device.gatt.authorizedGatt,
      w.device.gatt.pauseUpload, w.device.gatt.needsReset⟩, w)
  | .startSettingsAdv => some ((), ⟨w.device.startSettingsAdv, w.past ++ [(w.device, .startSettingsAdv)]⟩)
  | .storeTime | .reboot => some ((), { w with device := w.device.storeTime now })
  | .configKey i => w.device.settings.config.keys[i.toNat]?.map fun key => (key, w)
  | .setTurnedOn _ | .updateTurnedOn _ => none
  | c => some (answers w.device.settings.config now 3000 c, w)

theorem firmware_step_serve {now : UInt32} {before : Call → List GattEvent} (w : Firmware) (c : Call)
    (x : c.Ans × Firmware) (hx : w.serve now before c = some x) :
    ∃ w₁, firmware.Moves w w₁ ∧ firmware.step w₁ c x.1 x.2 := by
  refine ⟨w.deliver (before c), w.moves_deliver _, ?_⟩
  cases c with
  | glueSyncGattState | config => cases hx; exact ⟨⟨rfl, rfl⟩, rfl⟩
  | startSettingsAdv => cases hx; exact ⟨rfl, rfl⟩
  | storeTime => cases hx; exact ⟨⟨now, rfl⟩, rfl⟩
  | reboot => cases hx; exact ⟨⟨[now], rfl⟩, rfl⟩
  | configKey i =>
    obtain ⟨key, hkey, rfl⟩ := Option.map_eq_some_iff.1 hx
    exact ⟨⟨hkey, rfl⟩, rfl⟩
  | setTurnedOn | updateTurnedOn => cases hx
  | _ => cases hx; exact ⟨rfl, rfl⟩

/-- The device boots, enters settings mode after a minute, receives `session`, and comes to the end of the settings
window, where `late` arrives before `disable_dfu`. -/
def settingsRun (d₀ : Device) (session late : List GattEvent) : Option (StateMachine × Firmware) :=
  let calls (c : Call) : List GattEvent :=
    match c with
    | .glueSyncGattState => session
    | .disableDfu => late
    | _ => []
  (((initializeMachine {}).play (Firmware.serve 0 fun _ => []) ⟨d₀, []⟩).bind fun x =>
    (mainLoop x.1).play (Firmware.serve 60 fun _ => []) x.2).bind fun x =>
      (mainLoop x.1).play (Firmware.serve 63 calls) x.2

theorem during_settingsRun {d₀ : Device} {session late : List GattEvent} {x : StateMachine × Firmware}
    (hx : settingsRun d₀ session late = some x) :
    During firmware (initializeMachine {}) mainLoop (· = ⟨d₀, []⟩) (.ret x.1) x.2 := by
  obtain ⟨⟨s₁, w₁⟩, hp, hlast⟩ := Option.bind_eq_some_iff.1 hx
  obtain ⟨⟨s₀, w₀⟩, hstart, hnext⟩ := Option.bind_eq_some_iff.1 hp
  exact .iter (.iter (.start rfl (reaches_of_play_moves firmware_step_serve hstart))
    (reaches_of_play_moves firmware_step_serve hnext)) (reaches_of_play_moves firmware_step_serve hlast)

/-- The flash of a device that is turned on, over other records. -/
def turnedOnNvs (records : List (UInt16 × List UInt8)) : Nvs := ⟨(NvsFieldId.turnedOn.id, intBytes 1) :: records⟩

/-- A client sends the default code and a key. -/
def uploadOneKey : List GattEvent :=
  [.connected 0, .write .auth 0 defaultAuthCode.toList] ++ Device.sendKey 0 (.replicate 28 0x5A)

theorem split_of_getElem? {α : Type} {l : List α} {n : Nat} {a : α} (h : l[n]? = some a) :
    l = l.take n ++ a :: l.drop (n + 1) := by
  obtain ⟨hn, rfl⟩ := List.getElem?_eq_some_iff.1 h
  rw [← List.drop_eq_getElem_cons hn, List.take_append_drop]

/-- The client leaves before the settings window ends. -/
theorem completed_keys_saved_one_key :
    ∃ (p : Main StateMachine) (w : Firmware) (x : Device × GattEvent) (post : History),
      During firmware (initializeMachine {}) mainLoop (· = ⟨Device.boot (turnedOnNvs []), []⟩) p w ∧
      (∃ pre, w.past = pre ++ x :: post) ∧ CompletesKey x 0 ∧
      SavedAfter (x.1.step x.2).settings.config.keys 0 post := by
  obtain ⟨r, hr, x, hx, ⟨he, ha, hz, hc⟩, y, hy, hdisc⟩ :
      ∃ r ∈ settingsRun (Device.boot (turnedOnNvs [])) (uploadOneKey ++ [.disconnected]) [], ∃ x ∈ r.2.past[4]?,
        (x.2 = .write .key 0 (List.replicate 14 0x5A) ∧ x.1.gatt.allowedChange = true ∧
          x.1.gatt.authorizedGatt = true ∧ x.1.gatt.keysReceived = 1) ∧
        ∃ y ∈ (r.2.past.drop 5)[0]?, y.2 = .disconnected := by decide +kernel
  have hpast := split_of_getElem? hx
  have hdone : CompletesKey x 0 := ⟨_, ⟨0, he⟩, ha, hz, rfl, hc, by decide⟩
  have hpost : r.2.past.drop 5 = (y.1, .disconnected) :: (r.2.past.drop 5).drop 1 := by
    rw [← hdisc]
    exact split_of_getElem? hy
  refine ⟨_, _, x, r.2.past.drop 5, during_settingsRun hr, ⟨_, hpast⟩, hdone, ?_⟩
  refine (completed_keys_saved_iff (during_settingsRun hr) hpast hdone ?_).2 ⟨[], y.1, _, hpost, by simp⟩
  rw [hpost]
  simp [untilDisconnected]

/-- A client sends a key and asks for the firmware upload: the exit tick restarts settings advertising before the
disconnection is delivered, and the key is not saved. -/
theorem completed_keys_lost :
    ¬ ∀ (d₀ : Device) (p : Main StateMachine) (w : Firmware),
      During firmware (initializeMachine {}) mainLoop (· = ⟨d₀, []⟩) p w →
      ∀ (pre post : History) (x : Device × GattEvent) (m : Nat), w.past = pre ++ x :: post → CompletesKey x m →
        (∃ y ∈ post, y.2 = .disconnected) → SavedAfter (x.1.step x.2).settings.config.keys m post := by
  obtain ⟨r, hr, x, hx, ⟨he, ha, hz, hc⟩, hdisc, hnot⟩ :
      ∃ r ∈ settingsRun (Device.boot (turnedOnNvs [])) (uploadOneKey ++ [.write .status 0 [1, 0, 0xDF, 0xDF]])
          [.disconnected],
        ∃ x ∈ r.2.past[4]?,
        (x.2 = .write .key 0 (List.replicate 14 0x5A) ∧ x.1.gatt.allowedChange = true ∧
          x.1.gatt.authorizedGatt = true ∧ x.1.gatt.keysReceived = 1) ∧
        (∃ y ∈ r.2.past.drop 5, y.2 = .disconnected) ∧
        ∀ y ∈ r.2.past.drop 5, y.2 = .disconnected → y.1.gatt.updateKeysAtDisconnect = false := by
    decide +kernel
  have hdone : CompletesKey x 0 := ⟨_, ⟨0, he⟩, ha, hz, rfl, hc, by decide⟩
  intro h
  obtain ⟨mid, d, post', hpost, -, hsaves, -⟩ :=
    h _ _ _ (during_settingsRun hr) _ _ x 0 (split_of_getElem? hx) hdone hdisc
  have hclear := hnot (d, .disconnected) (by rw [hpost]; simp) rfl
  exact absurd (savesRing_iff.1 hsaves) (by simp [show d.gatt.updateKeysAtDisconnect = false from hclear])

end Everytag
