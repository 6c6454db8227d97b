import Everytag.StatusBytes
import Everytag.Tick

/-!
# The telemetry cycle

`update_status` is called at boot and by the battery check, each time after a reading of the battery, and each
call takes the next kind of value.  The world `reporting` keeps what was read last and the bytes set so far;
every other handler leaves both alone (`InCycle.keep`).  So all along a run each byte is of the kind that was
due, and can be decoded without knowing which one that is (`telemetry_self_describing`).
-/

namespace Everytag

open Interaction StateMachine

/-! ## The calls of a run -/

/-- The configuration and the values read last, and the bytes set so far. -/
structure Reporting where
  flags : StatusFlags := .unpack 0
  accel : UInt8 := 0
  temperature : Int16 := 0
  battery : Int := 0
  sent : List Report := []

namespace Reporting

/-- The bytes being set, with what was read for them. -/
def report (w : Reporting) (airtagStatus fmdnStatus : UInt8) : Report :=
  ⟨w.flags, w.accel, w.temperature, w.battery, airtagStatus, fmdnStatus⟩

/-- The tracker has been fed any batches, the sensor reports any temperature, and the battery stays below
6400 mV. -/
@[simp] def Next (w : Reporting) : (c : Call) → c.Ans → Reporting → Prop
  | .config, cfg, w' => w' = { w with flags := .unpack cfg.statusFlags }
  | .computeAccelByte, byte, w' =>
    (∃ run, byte = (MovementTracker.after run run.length).computeAccelByte) ∧ w' = { w with accel := byte }
  | .accelTemperature, t, w' => w' = { w with temperature := t }
  | .batteryVoltage, v, w' => v < 6400 ∧ w' = { w with battery := v }
  | .setStatusBytes airtagStatus fmdnStatus, _, w' =>
    w' = { w with sent := w.sent ++ [w.report airtagStatus fmdnStatus] }
  | _, _, w' => w' = w

/-- The kind that follows `n` updates. -/
def due (n : Nat) : WhatInStatus := WhatInStatus.next^[n] .voltage

/-- Each byte is of the kind that was due. -/
def Told (sent : List Report) : Prop := ∀ (j : Nat) (r : Report), sent[j]? = some r → r.Tells (due j)

end Reporting

def reporting : World Call Call.Ans Reporting where
  allowed w c := ∀ a f, c = .setStatusBytes a f → (w.report a f).Tells (Reporting.due w.sent.length)
  step w c a w' := w.Next c a w'
  move _ _ := False

/-- Programs that leave the status bytes alone. -/
abbrev silent : World Call Call.Ans Unit := free (fun c => ∀ a f, c ≠ .setStatusBytes a f) fun _ _ => True

section

variable {s s' : StateMachine} {w w' : Reporting} {u : Unit}

instance : reporting.Sequential := ⟨fun _ _ h => h⟩

@[simp] theorem reporting_allowed (c : Call) : reporting.allowed w c ↔
    ∀ a f, c = .setStatusBytes a f → (w.report a f).Tells (Reporting.due w.sent.length) := Iff.rfl

@[simp] theorem reporting_step (c : Call) (a : c.Ans) : reporting.step w c a w' ↔ w.Next c a w' := Iff.rfl

theorem Reporting.Next.sent {c : Call} {a : c.Ans} (hc : ∀ a f, c ≠ .setStatusBytes a f)
    (h : w.Next c a w') : w'.sent = w.sent := by
  cases c with
  | config | accelTemperature =>
    cases h
    rfl
  | computeAccelByte | batteryVoltage =>
    obtain ⟨-, rfl⟩ := h
    rfl
  | setStatusBytes airtagStatus fmdnStatus => exact absurd rfl (hc airtagStatus fmdnStatus)
  | _ =>
    cases h
    rfl

theorem wp_silent {α : Type} {p : Main α} {Q : α → Prop} (hp : wp silent p (fun a _ => Q a) ()) :
    wp reporting p (fun a w' => Q a ∧ w'.sent = w.sent) w := by
  refine wp_frame (E := reporting) hp (·.sent = w.sent) (fun _ _ _ h => h.elim) (fun w₁ c hc h₁ => ?_) rfl
  exact ⟨fun a f h => absurd h (hc a f), fun a w₂ hs => ⟨trivial, (hs.sent hc).trans h₁⟩⟩

/-! ## Handlers that leave the cycle alone -/

theorem broadcast_silent {Q : StateMachine → Unit → Prop}
    (hQ : ∀ b, Q { s with broadcastingAnything := b } u) : wp silent (broadcast s) Q u := by
  simp [broadcast, hQ]

theorem wakePeripherals_silent {Q : Unit → Unit → Prop} (hQ : Q () u) : wp silent wakePeripherals Q u := by
  simp [wakePeripherals, accelInitRetry, hQ]

theorem firmwareUpload_silent :
    wp silent (firmwareUpload s) (fun s' _ => s'.whatInStatus = s.whatInStatus) u := by
  refine wp_mono ?_ (firmwareUpload_free (by simp))
  rintro _ _ rfl
  rfl

theorem handleSettingsModeExit_silent :
    wp silent (handleSettingsModeExit s) (fun s' _ => s'.whatInStatus = s.whatInStatus) u := by
  have hleave (u : Unit) :
      wp silent (leaveSettings s) (fun s' _ => s'.whatInStatus = s.whatInStatus) u := by
    simp [leaveSettings, restoreMac, ibeaconFallback]
  simp [handleSettingsModeExit, hleave, firmwareUpload_silent]

theorem handleKeyRotation_silent :
    wp silent (handleKeyRotation s) (fun s' _ => s'.whatInStatus = s.whatInStatus) u := by
  simp [handleKeyRotation, setMacFromCurrentKey, broadcast_silent]

theorem handleButtonLongpress_silent :
    wp silent (handleButtonLongpress s) (fun r _ => r.2.whatInStatus = s.whatInStatus) u := by
  simp [handleButtonLongpress, waitButtonRelease_free]

/-! ## An update -/

/-- The machine and the bytes are at the same place of the cycle. -/
structure InCycle (s : StateMachine) (sent : List Report) : Prop where
  kind : s.whatInStatus.next = Reporting.due sent.length
  told : Reporting.Told sent

theorem InCycle.keep {α : Type} {p : Main α} {f : α → StateMachine} (h : InCycle s w.sent)
    (hp : wp silent p (fun a _ => (f a).whatInStatus = s.whatInStatus) ()) :
    wp reporting p (fun a w' => InCycle (f a) w'.sent) w := by
  refine wp_mono ?_ (wp_silent hp)
  rintro a w' ⟨hs, hsent⟩
  rw [hsent]
  exact ⟨by rw [hs, h.kind], h.told⟩

theorem Reporting.due_succ (n : Nat) : due (n + 1) = (due n).next :=
  Function.iterate_succ_apply' WhatInStatus.next n .voltage

theorem Reporting.Told.snoc {sent : List Report} {r : Report} (h : Told sent) (hr : r.Tells (due sent.length)) :
    Told (sent ++ [r]) := by
  intro j r' hj
  rcases Nat.lt_or_ge j sent.length with hlt | hge
  · exact h j r' (by rwa [List.getElem?_append_left hlt] at hj)
  · rw [List.getElem?_append_right hge, List.getElem?_singleton] at hj
    split at hj
    · have hlast : j = sent.length := by omega
      rw [hlast, ← Option.some.inj hj]
      exact hr
    · cases hj

/-- The voltage is the one read last. -/
structure FreshVoltage (s : StateMachine) (w : Reporting) : Prop extends InCycle s w.sent where
  stored : s.lastBatteryVoltage = storedVoltage w.battery
  below : w.battery < 6400

theorem updateBattery_fresh (h : InCycle s w.sent) : wp reporting (updateBattery s) FreshVoltage w := by
  simp only [updateBattery, issue, wp_bind, wp_issue, wp_pure, reporting_allowed, reporting_step, Reporting.Next,
    reduceCtorEq, IsEmpty.forall_iff, implies_true, true_and]
  rintro _ w rfl v _ ⟨hv, rfl⟩
  exact ⟨⟨h.kind, h.told⟩, rfl, hv⟩

/-- The bytes that are set are of the next kind. -/
theorem updateStatus_inCycle (h : FreshVoltage s w) :
    wp reporting (updateStatus s) (fun s' w' => InCycle s' w'.sent) w := by
  simp only [updateStatus, issue, wp_bind, wp_issue, wp_pure, reporting_allowed, reporting_step, Reporting.Next,
    reduceCtorEq, IsEmpty.forall_iff, implies_true, true_and]
  rintro cfg _ rfl byte _ ⟨⟨run, rfl⟩, rfl⟩ t _ rfl
  let i : StatusInput := {
    status := .unpack cfg.statusFlags
    batteryVoltage := s.lastBatteryVoltage
    keysChanges := s.keysChanges
    whatInStatus := s.whatInStatus.next.toUInt8
    accelByte := (MovementTracker.after run run.length).computeAccelByte
    temperature := t }
  have hnew : (i.report w.battery).Tells (Reporting.due w.sent.length) :=
    h.kind ▸ report_tells rfl (computeAccelByte_lt _) h.below h.stored
  constructor
  · rintro a f ⟨rfl, rfl⟩
    exact hnew
  · rintro _ _ rfl
    refine ⟨?_, h.told.snoc hnew⟩
    rw [List.length_append, List.length_singleton, Reporting.due_succ, ← h.kind]

theorem handleBatteryCheck_inCycle (h : InCycle s w.sent) :
    wp reporting (handleBatteryCheck s) (fun s' w' => InCycle s' w'.sent) w := by
  simp only [handleBatteryCheck, issue, wp_bind (p := Prog.issue _), wp_issue, wp_ite, wp_pure, reporting_allowed,
    reporting_step, Reporting.Next, reduceCtorEq, IsEmpty.forall_iff, implies_true, true_and]
  rintro now w rfl
  refine ⟨fun _ => h, fun _ => ?_⟩
  refine wp_seq (updateBattery_fresh ⟨h.kind, h.told⟩) ?_
  intro s₂ w₂ h₂
  refine wp_seq (updateStatus_inCycle h₂) ?_
  intro s₃ w₃ h₃
  exact h₃.keep (f := id) (by simp [broadcast_silent])

theorem cycle_rule : TickRule reporting (fun s w => InCycle s w.sent) (fun s w => InCycle s w.sent) where
  weaken h := h
  sync h := h.keep (f := id) (by simp [syncGattState])
  sleep h := h.keep (f := id) (by simp [tickSleep])
  exit h _ := h.keep (f := id) handleSettingsModeExit_silent
  timeSave h _ := h.keep (f := id) (by simp [handleTimeSave])
  batteryCheck h _ := handleBatteryCheck_inCycle h
  uvlo h _ := h.keep (by simp [handleUvloShutdown])
  nokeys h _ := h.keep (by simp [handleNokeysShutdown])
  uptime h _ := h.keep (f := fun _ => _) (by simp)
  entry h _ := h.keep (f := id) (by simp [handleSettingsModeEntry, useSettingsMac])
  burst h _ := h.keep (f := id) (by simp [handleMaxPowerBurst])
  rotation h _ := h.keep (f := id) handleKeyRotation_silent
  button h _ := h.keep handleButtonLongpress_silent
  accelerometer h _ := h.keep (f := id) (by simp [handleAccelerometer])
  broadcast h _ := h.keep (f := id)
    (by simp [tickBroadcast, handleInitialBroadcast, handleAirtagFmdnAlternation, broadcast_silent])

theorem startUp_inCycle (h : InCycle s w.sent) :
    wp reporting (startUp s) (fun s' w' => InCycle s' w'.sent) w := by
  refine wp_seq (h.keep (f := fun _ => s) (wakePeripherals_silent (Q := fun _ _ => _ = _) rfl)) ?_
  intro _ w₁ h₁
  refine wp_seq (h₁.keep (f := id) (by simp [prepareKeys, setMacFromCurrentKey])) ?_
  intro s₂ w₂ h₂
  refine wp_seq (h₂.keep (f := fun _ => s₂) (by simp [setInitialMac])) ?_
  intro _ w₃ h₃
  refine wp_seq (updateBattery_fresh ⟨h₃.kind, h₃.told⟩) ?_
  intro s₄ w₄ h₄
  refine wp_seq (updateStatus_inCycle h₄) ?_
  intro s₅ w₅ h₅
  exact h₅.keep (f := id) (by simp [startRadio, ibeaconFallback, waitButtonRelease_free])

theorem initializeMachine_inCycle (h : InCycle s w.sent) :
    wp reporting (initializeMachine s) (fun s' w' => InCycle s' w'.sent) w := by
  have hoff : InCycle { s with state := .shuttingDown } w.sent := ⟨h.kind, h.told⟩
  simp [initializeMachine, startUp_inCycle, h, hoff]

end

/-! ## Runs -/

/-- All along a run each byte is of the kind that was due. -/
theorem told_during {q : Main StateMachine} {w : Reporting}
    (h : During reporting (initializeMachine {}) mainLoop (· = {}) q w) : Reporting.Told w.sent := by
  refine during_keeps_of_allowed (J := fun w : Reporting => Reporting.Told w.sent)
    (I := fun s (w : Reporting) => InCycle s w.sent ∧ s.state ≠ .initializing) ?_ ?_ ?_ ?_ ?_ h
  · rintro _ rfl
    have hstart : InCycle {} [] := ⟨rfl, by simp [Reporting.Told]⟩
    exact wp_mode (initializeMachine_inCycle (w := {}) hstart) initializeMachine_started
  · rintro s w ⟨hcycle, hs⟩
    exact wp_mode (cycle_rule.mainLoop hcycle hs) (mainLoop_started hs)
  · rintro _ rfl
    simp [Reporting.Told]
  · exact fun _ _ _ hm => hm.elim
  · intro w c a w' htold hallowed hs
    by_cases hset : ∃ airtagStatus fmdnStatus, c = .setStatusBytes airtagStatus fmdnStatus
    · obtain ⟨airtagStatus, fmdnStatus, rfl⟩ := hset
      cases hs
      exact htold.snoc (hallowed _ _ rfl)
    · have hsent : w'.sent = w.sent := Reporting.Next.sent (fun a f hc => hset ⟨a, f, hc⟩) hs
      rw [hsent]
      exact htold

theorem perm_of_due : ∀ k : WhatInStatus, [k, k.next, k.next.next].Perm [.voltage, .accel, .temperature] := by
  rintro (_ | _ | _) <;> decide

/-- In telemetry mode every byte can be decoded by itself, and three updates in a row are of three kinds. -/
theorem telemetry_self_describing {q : Main StateMachine} {w : Reporting} (p : Protocol)
    (h : During reporting (initializeMachine {}) mainLoop (· = {}) q w) :
    (∀ r ∈ w.sent, p.mode r.flags = .telemetry → r.Decodes p) ∧
    ∀ rs, rs <:+: w.sent → rs.length = 3 → (∀ r ∈ rs, p.mode r.flags = .telemetry) →
      (rs.map (Report.kind p)).Perm [.voltage, .accel, .temperature] := by
  have htold := told_during h
  constructor
  · intro r hr hmode
    obtain ⟨j, hj⟩ := List.mem_iff_getElem?.1 hr
    exact (htold j r hj p hmode).2
  · rintro rs ⟨before, after, hsent⟩ hlen hmode
    match rs, hlen with
    | [r₀, r₁, r₂], _ =>
    have hkind (j : Nat) (r : Report) (hj : [r₀, r₁, r₂][j]? = some r) :
        r.kind p = Reporting.due (before.length + j) := by
      refine (htold (before.length + j) r ?_ p (hmode r (List.mem_of_getElem? hj))).1
      rw [← hsent, List.append_assoc, List.getElem?_append_right (by omega), Nat.add_sub_cancel_left]
      rwa [List.getElem?_append_left (List.getElem?_eq_some_iff.1 hj).1]
    rw [List.map_cons, List.map_cons, List.map_singleton, hkind 0 r₀ rfl, hkind 1 r₁ rfl, hkind 2 r₂ rfl,
      Reporting.due_succ (before.length + 1), Reporting.due_succ]
    exact perm_of_due _

/-- The answers at an uptime, with telemetry for both protocols and a tracker at rest. -/
def Reporting.serve (now : UInt32) (w : Reporting) (c : Call) : Option (c.Ans × Reporting) :=
  let cfg : BeaconConfig := { turnedOn := true, flagAirtag := true, numKeys := 1, statusFlags := 0x00550000 }
  match c with
  | .config => some (cfg, { w with flags := .unpack cfg.statusFlags })
  | .computeAccelByte => some ((0 : UInt8), { w with accel := 0 })
  | .accelTemperature => some ((210 : Int16), { w with temperature := 210 })
  | .batteryVoltage => some ((3000 : Int), { w with battery := 3000 })
  | .setStatusBytes a f => some ((), { w with sent := w.sent ++ [w.report a f] })
  | c => some (answers cfg now 3000 c, w)

theorem reporting_step_serve {now : UInt32} (w : Reporting) (c : Call) (x : c.Ans × Reporting)
    (hx : w.serve now c = some x) : reporting.step w c x.1 x.2 := by
  cases c with
  | computeAccelByte =>
    cases hx
    have hrest : (MovementTracker.after [] 0).computeAccelByte = 0 :=
      Moves.computeAccelByte_eq_zero.2 (by simp [MovementTracker.after])
    exact ⟨⟨[], hrest.symm⟩, rfl⟩
  | batteryVoltage => cases hx; exact ⟨by simp, rfl⟩
  | _ => cases hx; rfl

/-- Boot, the battery check a minute later, and the one after the settings window. -/
theorem telemetry_self_describing_boot : ∃ (q : Main StateMachine) (w : Reporting),
    During reporting (initializeMachine {}) mainLoop (· = {}) q w ∧ w.sent.length = 3 ∧
      (w.sent.map (Report.kind .airtag)).Perm [.voltage, .accel, .temperature] := by
  obtain ⟨x, hx, hsent⟩ : ∃ x ∈ ((((initializeMachine {}).play (Reporting.serve 0) {}).bind
      fun x => (mainLoop x.1).play (Reporting.serve 60) x.2).bind
        fun x => (mainLoop x.1).play (Reporting.serve 62) x.2).bind
          fun x => (mainLoop x.1).play (Reporting.serve 120) x.2,
      (x.2.sent.length == 3 && x.2.sent.all fun r => Protocol.airtag.mode r.flags == .telemetry) = true := by
    decide
  obtain ⟨⟨s₂, w₂⟩, h₂, hlast⟩ := Option.bind_eq_some_iff.1 hx
  obtain ⟨⟨s₁, w₁⟩, h₁, hexit⟩ := Option.bind_eq_some_iff.1 h₂
  obtain ⟨⟨s₀, w₀⟩, hstart, hcheck⟩ := Option.bind_eq_some_iff.1 h₁
  simp only [Bool.and_eq_true, beq_iff_eq, List.all_eq_true] at hsent
  have hrun : Boundary reporting (initializeMachine {}) mainLoop (· = {}) s₂ w₂ :=
    .iter (.iter (.start rfl (reaches_of_play reporting_step_serve hstart))
      (reaches_of_play reporting_step_serve hcheck)) (reaches_of_play reporting_step_serve hexit)
  have hduring : During reporting (initializeMachine {}) mainLoop (· = {}) (.ret x.1) x.2 :=
    .iter hrun (reaches_of_play reporting_step_serve hlast)
  have hcycle := (telemetry_self_describing .airtag hduring).2 x.2.sent List.infix_rfl hsent.1 hsent.2
  exact ⟨.ret x.1, x.2, hduring, hsent.1, hcycle⟩

end Everytag
