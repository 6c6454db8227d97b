import Everytag.Duties
import Everytag.Lib.Spacing

/-!
# No duty is done too often

The counterpart of `no_duty_starved`, over whole runs.  In the world `timing` a duty is noted with the uptime
that was read last, and it may be done only if `n` seconds have passed since it was done before.  The
configuration may change between any two calls, within a set `K` of configurations whose intervals are at
least `n`.  The timer of the duty is the invariant: it is not behind any time that was noted (`Upto`).

A firmware upload, which nothing but a reset ends, stores the time and advertises as it likes.
-/

namespace Everytag

open Interaction StateMachine Spacing

instance (d : Duty) : DecidablePred d.DoneBy := fun c => by
  cases d
  case airtagSwitch =>
    cases c
    case prepareAirtag key => exact isTrue ⟨key, rfl⟩
    all_goals exact isFalse (by rintro ⟨key, h⟩; cases h)
  case status =>
    cases c
    case setStatusBytes airtagStatus fmdnStatus => exact isTrue ⟨airtagStatus, fmdnStatus, rfl⟩
    all_goals exact isFalse (by rintro ⟨airtagStatus, fmdnStatus, h⟩; cases h)
  all_goals exact inferInstanceAs (Decidable (_ = _))

structure Timetable where
  /-- the uptime read last -/
  latest : UInt32 := 0
  /-- when the duty was done -/
  done : List Nat := []
  upload : Bool := false
deriving DecidableEq, Repr

namespace Timetable

/-- Uptimes do not decrease, and stay clear of the end of their range. -/
@[simp] def Next (d : Duty) (w : Timetable) : (c : Call) → c.Ans → Timetable → Prop
  | .enableDfu, _, w' => w' = { w with upload := true }
  | .uptimeSeconds, now, w' => w.latest ≤ now ∧ now.toNat < 4294960096 ∧ w' = { w with latest := now }
  | c, _, w' => w' = if d.DoneBy c then { w with done := w.done ++ [w.latest.toNat] } else w

end Timetable

/-- The configurations that are read are in `K`. -/
@[simp] def Admits (K : BeaconConfig → Prop) : (c : Call) → c.Ans → Prop
  | .config, cfg => K cfg
  | _, _ => True

/-- A device on which `d` may be done every `n` seconds. -/
def timing (K : BeaconConfig → Prop) (n : Nat) (d : Duty) : World Call Call.Ans Timetable where
  allowed w c := d.DoneBy c → w.upload = false → ∀ t ∈ w.done, t + n ≤ w.latest.toNat
  step w c a w' := Admits K c a ∧ w.Next d c a w'
  move _ _ := False

/-- The configurations of a device on which the interval of `d` is at least `n`.  A configuration with the
highest power asks for it all the time. -/
structure Duty.Every (K : BeaconConfig → Prop) (n : Nat) (d : Duty) : Prop where
  some : ∃ cfg, K cfg
  valid : ∀ cfg, K cfg → cfg.Valid
  interval : ∀ cfg, K cfg → n ≤ (d.interval cfg).toNat
  burst : d = .maxPower → ∀ cfg, K cfg → cfg.txPower ≠ 2

section

variable {K : BeaconConfig → Prop} {n : Nat} {d : Duty} {s s' : StateMachine} {w w' : Timetable} {u : UInt32}

instance : (timing K n d).Sequential := ⟨fun _ _ h => h⟩

@[simp] theorem timing_allowed (c : Call) : (timing K n d).allowed w c ↔
    (d.DoneBy c → w.upload = false → ∀ t ∈ w.done, t + n ≤ w.latest.toNat) := Iff.rfl

@[simp] theorem timing_step (c : Call) (a : c.Ans) :
    (timing K n d).step w c a w' ↔ Admits K c a ∧ w.Next d c a w' := Iff.rfl

/-! ## Calls that are not the duty -/

/-- Neither the duty nor the way into an upload. -/
def Duty.Leaves (d : Duty) (c : Call) : Prop := ¬ d.DoneBy c ∧ c ≠ .enableDfu

/-- `w'` differs from `w` by a later uptime. -/
structure Timetable.Later (w w' : Timetable) : Prop where
  latest : w.latest ≤ w'.latest
  bound : w.latest.toNat < 4294960096 → w'.latest.toNat < 4294960096
  done : w'.done = w.done
  upload : w'.upload = w.upload

theorem Timetable.Later.refl (w : Timetable) : w.Later w := ⟨UInt32.le_refl _, id, rfl, rfl⟩

theorem Timetable.Later.trans {w₁ w₂ w₃ : Timetable} (h : w₁.Later w₂) (h' : w₂.Later w₃) : w₁.Later w₃ :=
  ⟨UInt32.le_trans h.1 h'.1, h'.2 ∘ h.2, h'.3.trans h.3, h'.4.trans h.4⟩

theorem Timetable.Next.later {c : Call} {a : c.Ans} (hc : d.Leaves c) (h : w.Next d c a w') : w.Later w' := by
  cases c with
  | uptimeSeconds =>
    obtain ⟨hle, hlt, rfl⟩ := h
    exact ⟨hle, fun _ => hlt, rfl, rfl⟩
  | enableDfu => exact absurd rfl hc.2
  | _ =>
    simp only [Timetable.Next, if_neg hc.1] at h
    rw [h]
    exact .refl w

/-- No upload has begun, and everything noted so far was done by the time `u`, which has passed. -/
structure Upto (u : UInt32) (w : Timetable) : Prop where
  upload : w.upload = false
  done : ∀ t ∈ w.done, t ≤ u.toNat
  passed : u ≤ w.latest
  bound : w.latest.toNat < 4294960096

theorem Upto.later (h : Upto u w) (hw : w.Later w') : Upto u w' :=
  ⟨hw.upload.trans h.upload, hw.done ▸ h.done, UInt32.le_trans h.passed hw.latest, hw.bound h.bound⟩

/-- Due by its timer, the duty keeps the distance. -/
theorem Upto.due (h : Upto u w) (hd : d.Every K n) {cfg : BeaconConfig} (hcfg : K cfg)
    (hdue : u + d.interval cfg ≤ w.latest) : ∀ t ∈ w.done, t + n ≤ w.latest.toNat := by
  intro t ht
  have hlast := h.done t ht
  have hpassed := UInt32.le_iff_toNat_le.1 h.passed
  have hbound := h.bound
  have hmin := hd.interval cfg hcfg
  have hmax := (d.interval_bounds (hd.valid cfg hcfg)).2
  rw [UInt32.le_iff_toNat_le, UInt32.toNat_add] at hdue
  omega

variable {v : Unit}

/-- The uptime has not been read yet; the duties of a start are noted at zero. -/
structure Unread (w : Timetable) : Prop where
  upto : Upto 0 w
  latest : w.latest = 0

theorem Unread.new : Unread {} := ⟨⟨rfl, by nofun, UInt32.le_refl _, by decide⟩, rfl⟩

variable {v : Unit}

end

/-- A device at rest, at the uptime `now`. -/
def Timetable.serve (cfg : BeaconConfig) (d : Duty) (now : UInt32) (w : Timetable) (c : Call) :
    Option (c.Ans × Timetable) :=
  if w.latest ≤ now then
    some (answers cfg now 3000 c,
      if c = .uptimeSeconds then { w with latest := now }
      else if c = .enableDfu then { w with upload := true }
      else if d.DoneBy c then { w with done := w.done ++ [w.latest.toNat] }
      else w)
  else none

end Everytag
