import Everytag.Clock
import Everytag.ConnBeacon
import Everytag.Radio
import Everytag.Rotation

/-!
# From the key file to the finder

`conn_beacon.py` sends a file of keys and switches the AirTag on; the device restarts, loads what it has
stored, and shows the keys one after the other; a finder puts address and payload together again.  What it gets
are the keys of the file, the first forty if there are more, and as long as no client changes the settings it
is the key number `k` after `k` rotations, modulo their number.
-/

namespace Everytag

open Interaction StateMachine BeaconConfig Bytes

/-! ## The next boot -/

section Boot

variable {a : Args} {n : UInt8} {keys : List UInt8} {now : Int} {c : BeaconConfig} {t : UInt32} {ring : KeyRing}

theorem Args.keyBytes_eq (hfile : a.keyfile = some (n :: keys)) : a.keyBytes =
    keys.take (28 * min n.toNat 40) ++ if min n.toNat 40 < 40 then List.replicate 28 0 else [] := by
  rw [Args.keyBytes, hfile]

/-- The keys of the upload are those of the file. -/
theorem Args.keySent_keyBytes (h : a.Runs now c t) (hfile : a.keyfile = some (n :: keys)) {i : Nat}
    (hi : i < min n.toNat 40) :
    keySent a.keyBytes i = keySent keys i ∧ 28 * (i + 1) ≤ a.keyBytes.length := by
  have hlong := h.file n keys hfile
  have hend : 28 * i + 28 ≤ 28 * min n.toNat 40 := by omega
  rw [Args.keyBytes_eq hfile]
  constructor
  · have hlen : (keys.take (28 * min n.toNat 40)).length = 28 * min n.toNat 40 := by
      rw [List.length_take]
      omega
    rw [keySent, List.drop_append_of_le_length (by omega), List.take_append_of_le_length (by simp; omega),
      List.drop_take, List.take_take, keySent]
    congr 1
    omega
  · simp only [List.length_append, List.length_take]
    omega

/-- The ring holds as many keys as the file, if none of them is empty. -/
theorem countKeys_upload (h : a.Runs now c t) (hfile : a.keyfile = some (n :: keys))
    (hkeys : ∀ i < min n.toNat 40, (keySent keys i).all (· == 0) = false) :
    countKeys (overlayRows ring a.keyBytes) = min n.toNat 40 := by
  refine (countKeys_iff (Nat.min_le_right _ _)).2 ⟨fun i hi hlt => ?_, fun hlt => ?_⟩
  · obtain ⟨hsent, hlen⟩ := Args.keySent_keyBytes h hfile hlt
    rw [isKeyEmpty_overlayRows ring hi hlen, hsent]
    exact hkeys i hlt
  · -- the empty key behind the last one
    have hlong := h.file n keys hfile
    have hlen : (keys.take (28 * min n.toNat 40)).length = 28 * min n.toNat 40 := by
      rw [List.length_take]
      omega
    have hbytes := Args.keyBytes_eq hfile
    rw [if_pos hlt] at hbytes
    have hsent : keySent a.keyBytes (min n.toNat 40) = List.replicate 28 0 := by
      rw [hbytes, keySent, List.drop_left' hlen]
      rfl
    rw [isKeyEmpty_overlayRows ring hlt (by rw [hbytes, List.length_append, hlen, List.length_replicate]; omega),
      hsent]
    rfl

end Boot

/-! ## The run -/

/-- States at the ends of rounds of a device with the configuration `cfg`, what is on air then, and the number
of rotations so far. -/
inductive BroadcastRun (cfg : BeaconConfig) : StateMachine → Nat → Radio × Rotations → Prop
  | start {r : Radio} {s : StateMachine} {w : Radio × Rotations} : r.Off → r.cfg = cfg →
      Reaches ((radio True).both (rotating cfg)) (initializeMachine {}, r, {}) (.ret s, w) →
      BroadcastRun cfg s 0 (w.1, { w.2 with prepared := [] })
  | round {s s' : StateMachine} {k : Nat} {w w' : Radio × Rotations} : BroadcastRun cfg s k w →
      Reaches ((radio True).both (rotating cfg)) (mainLoop s, w) (.ret s', w') →
      BroadcastRun cfg s' (if s'.keysChanges = s.keysChanges then k else k + 1) w'

namespace BroadcastRun

variable {cfg : BeaconConfig} {s : StateMachine} {k : Nat} {w : Radio × Rotations}

theorem boundary (h : BroadcastRun cfg s k w) :
    Boundary (radio True) (initializeMachine {}) mainLoop (fun w => w.Off ∧ w.cfg = cfg) s w.1 := by
  induction h with
  | start hoff hcfg hr =>
    obtain ⟨_, hr', rfl⟩ := World.both_follows_left.reaches hr rfl
    exact .start ⟨hoff, hcfg⟩ hr'
  | round _ hr ih =>
    obtain ⟨_, hr', rfl⟩ := World.both_follows_left.reaches hr rfl
    exact .iter ih hr'

theorem rotations (h : BroadcastRun cfg s k w) : RotationRun cfg s k w.2 := by
  induction h with
  | start _ _ hr =>
    obtain ⟨_, hr', rfl⟩ := World.both_follows_right.reaches hr rfl
    exact .start hr'
  | round _ hr ih =>
    obtain ⟨_, hr', rfl⟩ := World.both_follows_right.reaches hr rfl
    exact .round ih hr'

end BroadcastRun

/-! ## End to end -/

section

variable {d₀ : Device} {air : Air} {a : Args} {now : Int} {n : UInt8} {keys : List UInt8} {v : String}

/-- What is loaded after the restart, whatever times it has stored. -/
theorem load_after_session (hs : d₀.Sound) (hcode : a.auth = d₀.settings.config.authCode.toList)
    (hruns : a.Runs now d₀.settings.config air.readAt) (hfile : a.keyfile = some (n :: keys))
    (hkeys : ∀ i < min n.toNat 40, (keySent keys i).all (· == 0) = false) (hair : a.airtag = some v)
    (hv : v ≠ "0") (times : List UInt32) :
    let cfg := load (times.foldl Device.storeTime (d₀.connBeacon air a now)).settings.nvs.read
    cfg.flagAirtag = true ∧ cfg.numKeys.toNat = min n.toNat 40 ∧
      ∀ (i : Nat) (hi : i < 40), i < min n.toNat 40 → cfg.keys[i].toList = keySent keys i := by
  let d := d₀.connBeacon air a now
  intro cfg
  have happlied : Applied a now (air.uptime .timeOffset) d₀ d := applied_of_auth hs hcode hruns
  have hasked : (a.asked now (air.uptime .timeOffset) .airtag).isSome = true := by rw [Args.asked, hair]; rfl
  have hfind {f : NvsFieldId} (hf : f ≠ .timeOffset) :
      (times.foldl Device.storeTime d).settings.nvs.find f.id = d.settings.nvs.find f.id :=
    Device.Serves.find (c := .reboot) (a := ()) ⟨times, rfl⟩ hf (by simp)
  have hring : cfg.keys = overlayRows d₀.settings.config.keys a.keyBytes ∧
      cfg.numKeys = UInt8.ofNat (countKeys (overlayRows d₀.settings.config.keys a.keyBytes)) := by
    refine load_keys_of_find ?_
    rw [hfind (by decide), happlied.record, hfile, happlied.keys]
    rfl
  refine ⟨?_, ?_, fun i hi hlt => ?_⟩
  · have hload : cfg.fieldBytes .airtag = d.settings.config.fieldBytes .airtag :=
      (fieldBytes_load_of_find_eq (hfind (by decide))).trans (happlied.stored .airtag (by decide) (.inl hasked))
    rw [happlied.field .airtag (by decide), Args.asked, hair] at hload
    exact (boolBytes_injective hload).trans (by simpa using hv)
  · rw [hring.2, toNat_ofNat_countKeys, countKeys_upload hruns hfile hkeys]
  · obtain ⟨hsent, hlen⟩ := Args.keySent_keyBytes hruns hfile hlt
    simp only [hring.1]
    rw [toList_overlayRows _ hi hlen, hsent]

/-! ## What is on air -/

variable {cfg : BeaconConfig}

theorem showing_of_during (ht : Tagged True cfg) {p : Main StateMachine} {w : Radio}
    (h : During (radio True) (initializeMachine {}) mainLoop (fun w => w.Off ∧ w.cfg = cfg) p w) : Showing cfg w := by
  refine during_keeps_of_allowed (E := radio True) (fun w hw => initializeMachine_radio hw.1)
    (fun s w h => mainLoop_radio h) (fun w hw => ⟨by rw [hw.2]; rfl, fun h => ?_⟩) (fun _ _ _ hm => hm.elim)
    (fun w c a w' hI hc hs => hI.step (hc.2 (hI.tagged ht)) hs) h
  rw [hw.1.onAir] at h
  cases h

/-- At the end of a round the AirTag on air shows the current key. -/
theorem BroadcastRun.tag {s : StateMachine} {k : Nat} {w : Radio × Rotations} (ht : Tagged True cfg)
    (h : BroadcastRun cfg s k w) (hon : w.1.onAir = .airtag) : Tag cfg s.currentKey w.1.mac w.1.payload := by
  have hb := h.boundary
  have hshowing : Showing cfg w.1 := by
    cases hb with
    | start hi hr => exact showing_of_during ht (.start hi hr)
    | iter hb hr => exact showing_of_during ht (.iter hb hr)
  rcases boundary_inv (fun w hw => initializeMachine_radio hw.1) (fun s w h => mainLoop_radio h) hb with hw | hw
  · obtain ⟨htag, hmac, -⟩ := hw.tag (hshowing.tagged ht)
    exact hmac ▸ htag.of_config hshowing.config
  · exact absurd (hon.symm.trans hw.onAir) (by decide)

/-- Whoever has the code sends a file of `n` keys, none of the first forty empty, with the AirTag on.  After the
restart the device has the first `min n 40` of them and no others.  In a run in which the configuration stays as
it was loaded, whenever the AirTag is on air, a finder puts one of these keys together; and between two rounds,
after `k` rotations, that is the key number `k` modulo `min n 40`. -/
theorem keys_on_air (hs : d₀.Sound) (hcode : a.auth = d₀.settings.config.authCode.toList)
    (hruns : a.Runs now d₀.settings.config air.readAt) (hfile : a.keyfile = some (n :: keys)) (hn : 0 < n)
    (hkeys : ∀ i < min n.toNat 40, (keySent keys i).all (· == 0) = false) (hair : a.airtag = some v)
    (hv : v ≠ "0") (times : List UInt32) :
    let cfg := load (times.foldl Device.storeTime (d₀.connBeacon air a now)).settings.nvs.read
    cfg.flagAirtag = true ∧ cfg.numKeys.toNat = min n.toNat 40 ∧
    (∀ p w, During (radio True) (initializeMachine {}) mainLoop (fun w => w.Off ∧ w.cfg = cfg) p w →
      w.onAir = .airtag → ∃ i < min n.toNat 40, ∀ tmpl,
        (reassemble w.mac (fillAdvTemplate w.payload tmpl)).toList = keySent keys i) ∧
    ∀ s k w, BroadcastRun cfg s k w → w.1.onAir = .airtag → ∀ tmpl,
      (reassemble w.1.mac (fillAdvTemplate w.1.payload tmpl)).toList = keySent keys (k % min n.toNat 40) := by
  intro cfg
  obtain ⟨hflag, hnum, hget⟩ := load_after_session hs hcode hruns hfile hkeys hair hv times
  have hpos : 0 < n.toNat := UInt8.lt_iff_toNat_lt.1 hn
  have hvalid : cfg.Valid := valid_load _
  have hnumKeys : 0 < cfg.numKeys := by
    rw [UInt8.lt_iff_toNat_lt, hnum]
    exact Nat.lt_min.2 ⟨hpos, by decide⟩
  have ht : Tagged True cfg := ⟨trivial, hflag, hnumKeys, Valid.numKeys hvalid⟩
  have hheard {i : UInt8} {mac : Mac} {key : Key} (htag : Tag cfg i mac key) (tmpl : OfflineFindingAdvTemplate) :
      i.toNat < min n.toNat 40 ∧ (reassemble mac (fillAdvTemplate key tmpl)).toList = keySent keys i.toNat := by
    have hlt : i.toNat < min n.toNat 40 := hnum ▸ UInt8.lt_iff_toNat_lt.1 htag.lt
    have h40 : i.toNat < 40 := Nat.lt_of_lt_of_le hlt (Nat.min_le_right _ _)
    have hkey : cfg.keys[i.toNat] = reassemble mac (fillAdvTemplate key tmpl) := by
      have h := htag.reassemble tmpl
      rw [Vector.getElem?_eq_getElem h40] at h
      exact Option.some.inj h
    exact ⟨hlt, hkey ▸ hget _ h40 hlt⟩
  refine ⟨hflag, hnum, fun p w h hon => ?_, fun s k w h hon tmpl => ?_⟩
  · obtain ⟨i, hi⟩ := (showing_of_during ht h).tag hon
    exact ⟨i.toNat, (hheard hi (.replicate 31 0)).1, fun tmpl => (hheard hi tmpl).2⟩
  · have hcurrent : s.currentKey.toNat = k % cfg.numKeys.toNat := (h.rotations.schedule hvalid hnumKeys).currentKey
    rw [(hheard (h.tag ht hon) tmpl).2, hcurrent, hnum]

/-- A device at rest with the configuration `cfg`, at the uptime `now`; nobody switches it. -/
def serveBoth (cfg : BeaconConfig) (now : UInt32) (w : Radio × Rotations) : (c : Call) →
    Option (c.Ans × Radio × Rotations)
  | .setTurnedOn _ => none
  | c => (w.1.after c).bind fun r => (w.2.serve cfg now c).map fun x => (x.1, r, x.2)

theorem both_step_serve {cfg : BeaconConfig} {now : UInt32} (hnow : now.toNat < 4294960096) (w : Radio × Rotations)
    (c : Call) (x : c.Ans × Radio × Rotations) (hw : w.1.cfg = cfg) (hx : serveBoth cfg now w c = some x) :
    (∃ w₁, ((radio True).both (rotating cfg)).Moves w w₁ ∧ ((radio True).both (rotating cfg)).step w₁ c x.1 x.2) ∧
      x.2.1.cfg = cfg := by
  have hserve : c ≠ .setTurnedOn true ∧ c ≠ .setTurnedOn false ∧
      (w.1.after c).bind (fun r => (w.2.serve cfg now c).map fun x => (x.1, r, x.2)) = some x := by
    cases c with
    | setTurnedOn v => cases hx
    | _ => exact ⟨by nofun, by nofun, hx⟩
  obtain ⟨hon, hoff, hx⟩ := hserve
  obtain ⟨r, hr, hx⟩ := Option.bind_eq_some_iff.1 hx
  obtain ⟨y, hy, rfl⟩ := Option.map_eq_some_iff.1 hx
  have hans : y.1 = answers w.1.cfg now 3000 c := by
    obtain ⟨-, hy⟩ := Option.ite_none_right_eq_some.1 hy
    cases hy
    rw [hw]
  refine ⟨⟨w, .refl, ?_, rotating_step_serve hnow w.2 c y hy⟩, ?_⟩
  · rw [hans]
    have hserve : w.1.serve now c = some (answers w.1.cfg now 3000 c, r) := Option.map_eq_some_iff.2 ⟨r, hr, rfl⟩
    exact radio_step_serve w.1 c _ hserve
  · rw [← hw]
    cases c with
    | setTurnedOn v => cases v <;> first | exact absurd rfl hon | exact absurd rfl hoff
    | reboot | powerOff => cases hr
    | _ =>
      cases hr
      rfl

/-- A device that is switched on. -/
def switchedOn : Device := .boot (Nvs.erased.write NvsFieldId.turnedOn.id (boolBytes true)).2

/-- Two keys, each for 32 seconds. -/
def twoKeys : Args where
  auth := defaultAuthCode.toList
  keyfile := some (2 :: (List.replicate 28 0x5A ++ List.replicate 28 0xA5))
  airtag := some "1"
  interval := some (some 32)

/-- What is loaded after a session with them, and one save of the time. -/
def twoKeysConfig : BeaconConfig where
  turnedOn := true
  flagAirtag := true
  changeInterval := 32
  timeOffset := 9
  numKeys := 2
  keys := overlayRows (.replicate 40 (.replicate 28 0)) twoKeys.keyBytes

theorem sound_switchedOn : switchedOn.Sound :=
  ⟨valid_load (Nvs.erased.write NvsFieldId.turnedOn.id (boolBytes true)).2.read, Nat.zero_le _⟩

theorem runs_twoKeys : twoKeys.Runs 1700000000 switchedOn.settings.config (Air.atUptime 0).readAt :=
  ⟨by decide, by nofun, fun n keys h => by cases h; decide⟩

theorem load_twoKeys :
    load (Device.storeTime (switchedOn.connBeacon (.atUptime 0) twoKeys 1700000000) 9).settings.nvs.read =
      twoKeysConfig := by
  have happlied : Applied twoKeys 1700000000 0 switchedOn
      (switchedOn.connBeacon (.atUptime 0) twoKeys 1700000000) :=
    applied_of_auth sound_switchedOn rfl runs_twoKeys
  generalize switchedOn.connBeacon (.atUptime 0) twoKeys 1700000000 = d at happlied
  have hfind {f : NvsFieldId} (hf : f ≠ .timeOffset) :
      (d.storeTime 9).settings.nvs.find f.id = d.settings.nvs.find f.id :=
    Device.find_storeTime 9 hf
  have hfield {f : NvsFieldId} (hf : f ≠ .key) (ht : f ≠ .timeOffset) :
      (load (d.storeTime 9).settings.nvs.read).fieldBytes f =
        (twoKeys.asked 1700000000 0 f).getD (switchedOn.settings.config.fieldBytes f) :=
    ((fieldBytes_load_of_find_eq (hfind ht)).trans (happlied.stored f hf (.inr rfl))).trans (happlied.field f hf)
  have hrecord : (d.storeTime 9).settings.nvs.find NvsFieldId.key.id = some (flat twoKeysConfig.keys) := by
    rw [hfind (by decide), happlied.record, happlied.keys]
    rfl
  have hring := load_keys_of_find hrecord
  have htime : (load (d.storeTime 9).settings.nvs.read).timeOffset = 9 := by
    have hoffset : d.settings.config.timeOffset = 0 := by
      rw [← readInt64_leBytes d.settings.config.timeOffset]
      exact congrArg readInt64 (happlied.field .timeOffset (by decide))
    refine SettingsManager.load_timeOffset ?_
    rw [Device.storeTime, SettingsManager.saveTime, getTime, hoffset]
    simp
  refine ext_fieldBytes (fun f => ?_) ?_
  · cases f with
    | key => exact congrArg flat hring.1
    | timeOffset => exact congrArg (fun t : Int64 => leBytes 8 t.toUInt64.toNat) htime
    | _ => exact hfield (by decide) (by decide)
  · refine hring.2.trans (congrArg UInt8.ofNat ?_)
    exact countKeys_upload runs_twoKeys rfl (by decide)

/-- In the second round, 40 seconds after the restart, the device goes on to the second key. -/
theorem keys_on_air_two_keys :
    let cfg := load (Device.storeTime (switchedOn.connBeacon (.atUptime 0) twoKeys 1700000000) 9).settings.nvs.read
    ∃ s w, BroadcastRun cfg s 1 w ∧ w.1.onAir = .airtag ∧ ∀ tmpl,
      (reassemble w.1.mac (fillAdvTemplate w.1.payload tmpl)).toList = List.replicate 28 0xA5 := by
  rw [load_twoKeys]
  obtain ⟨-, -, -, hheard⟩ :=
    keys_on_air (v := "1") sound_switchedOn rfl runs_twoKeys rfl (by decide) (by decide) rfl (by decide) [9]
  simp only [List.foldl_cons, List.foldl_nil, load_twoKeys] at hheard
  let off : Radio := ⟨false, .none, false, twoKeysConfig, .replicate 6 0, .replicate 6 0, .replicate 28 0⟩
  obtain ⟨⟨s₀, w₀⟩, h₀, ⟨s₁, w₁⟩, h₁, ⟨s₂, w₂⟩, h₂, hsame, hrotated, hon⟩ :
      ∃ x₀ ∈ (initializeMachine {}).play (serveBoth twoKeysConfig 0) (off, {}),
      ∃ x₁ ∈ (mainLoop x₀.1).play (serveBoth twoKeysConfig 1) (x₀.2.1, { x₀.2.2 with prepared := [] }),
      ∃ x₂ ∈ (mainLoop x₁.1).play (serveBoth twoKeysConfig 40) x₁.2,
        x₁.1.keysChanges = x₀.1.keysChanges ∧ ¬ x₂.1.keysChanges = x₁.1.keysChanges ∧
          x₂.2.1.onAir = .airtag := by decide +kernel
  obtain ⟨hr₀, hcfg₀⟩ := reaches_of_play_inv (J := fun w => w.1.cfg = twoKeysConfig)
    (both_step_serve (by decide)) rfl h₀
  have hstart : BroadcastRun twoKeysConfig s₀ 0 (w₀.1, { w₀.2 with prepared := [] }) :=
    .start ⟨rfl, rfl, rfl⟩ rfl hr₀
  obtain ⟨hr₁, hcfg₁⟩ := reaches_of_play_inv (J := fun w => w.1.cfg = twoKeysConfig)
    (both_step_serve (by decide)) hcfg₀ h₁
  have hround := hstart.round hr₁
  rw [if_pos hsame] at hround
  obtain ⟨hr₂, -⟩ := reaches_of_play_inv (J := fun w => w.1.cfg = twoKeysConfig)
    (both_step_serve (by decide)) hcfg₁ h₂
  have hrun := hround.round hr₂
  rw [if_neg hrotated] at hrun
  exact ⟨s₂, w₂, hrun, hon, hheard s₂ 1 w₂ hrun hon⟩

end

end Everytag
