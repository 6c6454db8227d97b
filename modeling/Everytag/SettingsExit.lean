import Everytag.Tick
import Everytag.Firmware

/-!
# Leaving settings mode

The flags of the GATT side are copied before a tick, and a tick that leaves settings mode may sleep for seven
seconds while the callbacks go on.  In the world `waiting` they run during the sleeps of the tick, and each call
is noted with the flags as they are when it is issued.  `DecidesOnCurrent` compares what the tick does with
these; the code goes by the copies (`mainLoop_exits`), so the two agree as long as the callbacks leave the flags
that matter as they were copied (`settings_exit_iff`).
-/

namespace Everytag

open Interaction StateMachine

/-- What `glue_sync_gatt_state` copies. -/
def Device.flags (d : Device) : GattFlags :=
  ⟨d.gatt.connectedGatt, d.gatt.authorizedGatt, d.gatt.pauseUpload, d.gatt.needsReset⟩

/-! ## A tick with callbacks in its sleeps -/

/-- What a tick finds. -/
structure ExitTick where
  /-- when the flags are copied -/
  device : Device
  /-- the uptime when the window is checked -/
  now : UInt32
  /-- the events that reach the GATT side during the `n`-th sleep of the tick -/
  during : Nat → List GattEvent

structure ExitLog where
  device : Device
  /-- the sleeps so far -/
  slept : Nat := 0
  /-- the calls since the uptime was read, each with the flags when it was issued -/
  calls : List (Call × GattFlags) := []

def ExitLog.after (w : ExitLog) (c : Call) (d : Device) : ExitLog where
  device := d
  slept := if c matches .sleepMs _ then w.slept + 1 else w.slept
  calls := if c = .uptimeSeconds then [] else w.calls ++ [(c, w.device.flags)]

@[simp] def ExitTick.Effect (i : ExitTick) (w : ExitLog) : (c : Call) → c.Ans → Device → Prop
  | .uptimeSeconds, now, d => now = i.now ∧ d = w.device
  | .sleepMs _, _, d => d = w.device.run (i.during w.slept)
  | c, a, d => w.device.Serves c a d

/-- The flags as the machine has them. -/
def StateMachine.copied (s : StateMachine) : GattFlags :=
  ⟨s.connectedGatt, s.authorizedGatt, s.pauseUpload, s.needsReset⟩

/-- A device during a tick that finds `i`. -/
def waiting (i : ExitTick) : World Call Call.Ans ExitLog where
  allowed _ _ := True
  step w c a w' := ∃ d, i.Effect w c a d ∧ w' = w.after c d
  move _ _ := False

/-! ## Decisions -/

/-- The ways out of settings mode. -/
inductive Exit
  | firmwareUpload | reboot | broadcasting
deriving DecidableEq, Repr

/-- The way that the flags ask for. -/
def GattFlags.exit (f : GattFlags) : Exit :=
  if f.pauseUpload then .firmwareUpload else if f.needsReset then .reboot else .broadcasting

/-- The first call on either way out. -/
def Call.exits : Call → Bool
  | .enableDfu | .beaconAdvCancelSync => true
  | _ => false

/-- Where the wait of four seconds is granted, or passed over. -/
def grantAt (calls : List (Call × GattFlags)) : Option (Call × GattFlags) :=
  calls.find? fun x => x.1 == .sleepMs 4000 || x.1.exits

/-- Where the waits have ended. -/
def exitAt (calls : List (Call × GattFlags)) : Option (Call × GattFlags) := calls.find? fun x => x.1.exits

/-- The way that a tick took, from the state it left and its calls. -/
def Exit.Taken (s : StateMachine) (calls : List (Call × GattFlags)) : Exit → Prop
  | .firmwareUpload => s.state = .firmwareUpload
  | .reboot => s.state ≠ .firmwareUpload ∧ .reboot ∈ calls.map Prod.fst
  | .broadcasting => s.state = .broadcasting ∧ .reboot ∉ calls.map Prod.fst

/-- A tick decides on the flags as they are at the moment of the decision. -/
structure DecidesOnCurrent (s : StateMachine) (calls : List (Call × GattFlags)) : Prop where
  grant : ∀ c f, grantAt calls = some (c, f) → (c = .sleepMs 4000 ↔ f.authorized = true)
  exit : ∀ c f, exitAt calls = some (c, f) → f.exit.Taken s calls

namespace ExitTick

variable (i : ExitTick)

/-- The events before the wait of four seconds is granted: the first sleep of the tick, and two seconds if somebody
was connected. -/
def beforeGrant : List GattEvent :=
  i.during 0 ++ if i.device.gatt.connectedGatt || i.device.gatt.authorizedGatt then i.during 1 else []

/-- The events before the waits have ended. -/
def beforeExit : List GattEvent :=
  i.beforeGrant ++ if i.device.gatt.authorizedGatt then i.during 2 else []

/-- The events of the waits leave the session as it was copied, and the request for an upload, and without one
that for a restart. -/
structure Undisturbed : Prop where
  authorized : (i.device.run i.beforeGrant).gatt.authorizedGatt = i.device.gatt.authorizedGatt
  pauseUpload : (i.device.run i.beforeExit).gatt.pauseUpload = i.device.gatt.pauseUpload
  needsReset : i.device.gatt.pauseUpload = false →
    (i.device.run i.beforeExit).gatt.needsReset = i.device.gatt.needsReset

end ExitTick

theorem Device.run_rejected {d : Device} {es : List GattEvent} (hd : d.gatt.authorizedGatt = false)
    (hes : ∀ e ∈ es, ∃ ch t buf, e = .write ch t buf ∧ ch ≠ .auth) : d.run es = d := by
  induction es with
  | nil => rfl
  | cons e es ih =>
    obtain ⟨ch, t, buf, rfl, hch⟩ := hes e List.mem_cons_self
    have hstep : d.step (.write ch t buf) = d := by
      simp [Device.step, Device.handle, Device.attWrite, Device.writeAuthorize, hd, hch]
    rw [Device.run_cons, hstep]
    exact ih fun e he => hes e (List.mem_cons_of_mem _ he)

/-- Rejected writes disturb nothing. -/
theorem ExitTick.undisturbed_of_rejected {i : ExitTick} (hd : i.device.gatt.authorizedGatt = false)
    (hes : ∀ e ∈ i.beforeExit, ∃ ch t buf, e = .write ch t buf ∧ ch ≠ .auth) : i.Undisturbed := by
  have hexit : i.beforeExit = i.beforeGrant := by simp [beforeExit, hd]
  have hrun : i.device.run i.beforeGrant = i.device := Device.run_rejected hd (hexit ▸ hes)
  refine ⟨by rw [hrun], ?_, fun _ => ?_⟩
  · rw [hexit, hrun]
  · rw [hexit, hrun]

theorem Exit.Taken.unique {s : StateMachine} {calls : List (Call × GattFlags)} {e e' : Exit} (h : e.Taken s calls)
    (h' : e'.Taken s calls) : e = e' := by
  cases e <;> cases e' <;> simp_all [Exit.Taken]

theorem GattFlags.exit_eq_iff {f g : GattFlags} :
    f.exit = g.exit ↔ f.pauseUpload = g.pauseUpload ∧ (g.pauseUpload = false → f.needsReset = g.needsReset) := by
  obtain ⟨-, -, p, n⟩ := f
  obtain ⟨-, -, q, m⟩ := g
  cases p <;> cases q <;> cases n <;> cases m <;> simp [GattFlags.exit]

/-- Programs that neither restart the device nor read the uptime. -/
abbrev restartless : World Call Call.Ans Unit :=
  free (fun c => c ≠ .uptimeSeconds ∧ c ≠ .reboot) fun _ _ => True

section

variable {i : ExitTick} {s s' : StateMachine} {w w' : ExitLog}

instance : (waiting i).Sequential := ⟨fun _ _ h => h⟩

@[simp] theorem waiting_allowed (c : Call) : (waiting i).allowed w c ↔ True := Iff.rfl

@[simp] theorem waiting_step (c : Call) (a : c.Ans) :
    (waiting i).step w c a w' ↔ ∃ d, i.Effect w c a d ∧ w' = w.after c d := Iff.rfl

/-! ## Up to the check of the window -/

theorem syncGattState_waiting : wp (waiting i) (syncGattState s) (fun s' w' =>
    s'.copied = w.device.flags ∧ w'.device = w.device ∧ w'.slept = w.slept) w := by
  simp [syncGattState, Device.Serves, ExitLog.after, Device.flags, copied]

theorem tickSleep_waiting : wp (waiting i) (tickSleep s)
    (fun _ w' => w'.device = w.device.run (i.during w.slept) ∧ w'.slept = w.slept + 1) w := by
  simp [tickSleep, Device.Serves, ExitLog.after]

/-! ## The way out -/

theorem uploadWait_waiting (n : Nat) : wp (waiting i) (uploadWait n) (fun _ w' => w.calls <+: w'.calls) w := by
  induction n generalizing w with
  | zero => simp [uploadWait]
  | succ n ih =>
    simp only [uploadWait, issue, wp_bind, wp_issue, waiting_allowed, waiting_step, true_and]
    rintro _ w₁ ⟨d₁, -, rfl⟩ _ w₂ ⟨d₂, -, rfl⟩ _ w₃ ⟨d₃, -, rfl⟩
    refine wp_mono (fun _ w' h => ?_) ih
    exact List.IsPrefix.trans (by simp [ExitLog.after]) h

theorem firmwareUpload_waiting : wp (waiting i) (firmwareUpload s) (fun s' w' => s'.state = .firmwareUpload ∧
    w.calls ++ [(.enableDfu, w.device.flags)] <+: w'.calls) w := by
  simp only [firmwareUpload, issue, wp_bind, wp_issue, waiting_allowed, waiting_step, true_and]
  rintro _ w₁ ⟨d₁, -, rfl⟩ _ w₂ ⟨d₂, -, rfl⟩ _ w₃ ⟨d₃, -, rfl⟩ _ w₄ ⟨d₄, -, rfl⟩
  refine wp_mono (fun _ w₅ h => ?_) (uploadWait_waiting 15)
  refine wp_call _ trivial ?_
  rintro _ w₆ ⟨d₆, -, rfl⟩
  refine wp_call _ trivial ?_
  rintro _ w₇ ⟨d₇, -, rfl⟩
  refine (wp_pure _ _ _ _).2 ⟨rfl, ?_⟩
  refine List.IsPrefix.trans ?_ (h.trans ?_)
  · simp [ExitLog.after]
  · simp [ExitLog.after]

/-- The address and the iBeacon of `leaveSettings` restart nothing. -/
theorem wp_restartless {p : Main Unit} (hp : wp restartless p (fun _ _ => True) ()) :
    wp (waiting i) p (fun _ w' => ∃ rest, w'.calls = w.calls ++ rest ∧ .reboot ∉ rest.map Prod.fst) w := by
  refine wp_mono (fun _ _ h => h.2) (wp_frame (E := waiting i) hp
    (fun w' => ∃ rest, w'.calls = w.calls ++ rest ∧ .reboot ∉ rest.map Prod.fst) (fun _ _ _ h => h.elim)
    (fun w₁ c hc h₁ => ⟨trivial, fun a w₂ hs => ⟨trivial, ?_⟩⟩) ⟨[], by simp⟩)
  obtain ⟨rest, hrest, hnot⟩ := h₁
  obtain ⟨d, -, rfl⟩ := hs
  refine ⟨rest ++ [(c, w₁.device.flags)], ?_, ?_⟩
  · simp [ExitLog.after, hc.1, hrest]
  · simp [hnot, Ne.symm hc.2]

theorem leaveSettings_waiting (hs : s.state ≠ .firmwareUpload) (hw : .reboot ∉ w.calls.map Prod.fst) :
    wp (waiting i) (leaveSettings s) (fun s' w' =>
      w.calls ++ [(.beaconAdvCancelSync, w.device.flags)] <+: w'.calls ∧
      (if s.needsReset then Exit.reboot else .broadcasting).Taken s' w'.calls) w := by
  refine wp_call _ trivial ?_
  rintro _ w₁ ⟨d₁, -, rfl⟩
  refine wp_call _ trivial ?_
  rintro _ w₂ ⟨d₂, -, rfl⟩
  refine wp_call _ trivial ?_
  rintro _ w₃ ⟨d₃, -, rfl⟩
  refine wp_seq (wp_restartless (by simp [restoreMac])) ?_
  rintro _ w₄ ⟨mac, hmac, hmac'⟩
  refine wp_call _ trivial ?_
  rintro _ w₅ ⟨d₅, -, rfl⟩
  refine wp_call _ trivial ?_
  rintro cfg w₆ ⟨d₆, -, rfl⟩
  refine wp_call _ trivial ?_
  rintro _ w₇ ⟨d₇, -, rfl⟩
  cases hr : s.needsReset with
  | true =>
    refine wp_call _ trivial ?_
    rintro _ w₈ ⟨d₈, -, rfl⟩
    refine (wp_pure _ _ _ _).2 ⟨?_, hs, ?_⟩
    · simp [ExitLog.after, hmac]
    · simp [ExitLog.after]
  | false =>
    refine wp_seq (wp_restartless (by simp [ibeaconFallback])) ?_
    rintro _ w₈ ⟨fallback, hback, hback'⟩
    refine (wp_pure _ _ _ _).2 ⟨?_, rfl, ?_⟩
    · simp [hback, ExitLog.after, hmac]
    · simp [hback, ExitLog.after, hmac, hw, hmac', hback']

/-- The decision after the waits goes by the copies. -/
theorem decide_waiting (hs : s.state ≠ .firmwareUpload) (hw : .reboot ∉ w.calls.map Prod.fst) :
    wp (waiting i) (if s.pauseUpload then firmwareUpload s else leaveSettings s) (fun s' w' =>
      (∃ c, c.exits = true ∧ w.calls ++ [(c, w.device.flags)] <+: w'.calls) ∧ s.copied.exit.Taken s' w'.calls) w := by
  by_cases hp : s.pauseUpload = true
  · rw [if_pos hp]
    refine wp_mono (fun s' w' h => ⟨⟨.enableDfu, rfl, h.2⟩, ?_⟩) firmwareUpload_waiting
    simpa [GattFlags.exit, copied, hp, Exit.Taken] using h.1
  · rw [if_neg hp]
    refine wp_mono (fun s' w' h => ⟨⟨.beaconAdvCancelSync, rfl, h.1⟩, ?_⟩) (leaveSettings_waiting hs hw)
    simpa [GattFlags.exit, copied, hp] using h.2

/-- What a tick decides after its window has ended, and the flags of these moments. -/
structure Decided (i : ExitTick) (s' : StateMachine) (calls : List (Call × GattFlags)) : Prop where
  grant : ∃ c, grantAt calls = some (c, (i.device.run i.beforeGrant).flags) ∧
    (c = .sleepMs 4000 ↔ i.device.gatt.authorizedGatt = true)
  exit : ∃ c, exitAt calls = some (c, (i.device.run i.beforeExit).flags)
  taken : i.device.flags.exit.Taken s' calls

theorem find?_concat {α : Type} {p : α → Bool} {l : List α} {x : α} (h : ∀ y ∈ l, p y = false) (hx : p x = true) :
    (l ++ [x]).find? p = some x := by
  have hnone : l.find? p = none := List.find?_eq_none.2 fun y hy => by simp [h y hy]
  simp [List.find?_append, hnone, hx]

/-- Nothing but the wait of two seconds. -/
def Idle (calls : List (Call × GattFlags)) : Prop := ∀ x ∈ calls, x.1 = .sleepMs 2000 ∨ x.1 = .wdtFeed

theorem Idle.not_reboot {calls : List (Call × GattFlags)} (h : Idle calls) : .reboot ∉ calls.map Prod.fst := by
  rw [List.mem_map]
  rintro ⟨x, hx, heq⟩
  rcases h x hx with h | h
  · rw [h] at heq
    cases heq
  · rw [h] at heq
    cases heq

theorem Idle.not_exits {calls : List (Call × GattFlags)} (h : Idle calls) {x : Call × GattFlags} (hx : x ∈ calls) :
    x.1.exits = false := by
  rcases h x hx with h | h
  · rw [h]
    rfl
  · rw [h]
    rfl

theorem Idle.grantAt {calls : List (Call × GattFlags)} (h : Idle calls) {c : Call} {f : GattFlags}
    (hc : c = .sleepMs 4000 ∨ c.exits = true) : grantAt (calls ++ [(c, f)]) = some (c, f) := by
  refine find?_concat (fun x hx => ?_) (by simpa [or_iff_not_imp_left] using hc)
  have hne : x.1 ≠ .sleepMs 4000 := by
    rcases h x hx with h | h
    · rw [h]
      decide
    · rw [h]
      nofun
  simp [hne, h.not_exits hx]

/-- The decision, when the waits are over: `hgrant` says what they show of the wait of four seconds. -/
theorem decided_waiting (hs : s.state ≠ .firmwareUpload) (hcopied : s.copied = i.device.flags)
    (hdev : w.device = i.device.run i.beforeExit) (hreboot : .reboot ∉ w.calls.map Prod.fst)
    (hnot : ∀ x ∈ w.calls, x.1.exits = false)
    (hgrant : ∀ c, c.exits = true → ∃ c', (c' = .sleepMs 4000 ↔ i.device.gatt.authorizedGatt = true) ∧
      grantAt (w.calls ++ [(c, w.device.flags)]) = some (c', (i.device.run i.beforeGrant).flags)) :
    wp (waiting i) (if s.pauseUpload then firmwareUpload s else leaveSettings s)
      (fun s' w' => Decided i s' w'.calls) w := by
  refine wp_mono ?_ (decide_waiting hs hreboot)
  rintro s' w' ⟨⟨c, hc, hpre⟩, htaken⟩
  obtain ⟨c', hiff, hfound⟩ := hgrant c hc
  rw [hcopied] at htaken
  refine ⟨⟨c', hpre.find?_eq_some hfound, hiff⟩, ⟨c, ?_⟩, htaken⟩
  rw [← hdev]
  exact hpre.find?_eq_some (find?_concat hnot hc)

/-- The wait of four seconds is no way out. -/
theorem Idle.waited {calls : List (Call × GattFlags)} (h : Idle calls) (f g : GattFlags) :
    ∀ x ∈ calls ++ [(Call.sleepMs 4000, f), (Call.wdtFeed, g)], x.1.exits = false := by
  intro x hx
  rcases List.mem_append.1 hx with hx | hx
  · exact h.not_exits hx
  · simp only [List.mem_cons, List.not_mem_nil, or_false] at hx
    rcases hx with rfl | rfl
    · rfl
    · rfl

/-- The wait for a client that has authenticated, and the decision. -/
theorem authWait_waiting (hs : s.state ≠ .firmwareUpload) (hcopied : s.copied = i.device.flags)
    (hw : Idle w.calls) (hdev : w.device = i.device.run i.beforeGrant)
    (hslept : i.device.gatt.authorizedGatt = true → w.slept = 2) : wp (waiting i)
    (if s.authorizedGatt then do
      issue (.sleepMs 4000)
      issue .wdtFeed
      if s.pauseUpload then firmwareUpload s else leaveSettings s
    else if s.pauseUpload then firmwareUpload s else leaveSettings s)
    (fun s' w' => Decided i s' w'.calls) w := by
  have hauth : s.authorizedGatt = i.device.gatt.authorizedGatt := congrArg GattFlags.authorized hcopied
  rw [hauth]
  by_cases ha : i.device.gatt.authorizedGatt = true
  · rw [if_pos ha]
    refine wp_call _ trivial ?_
    rintro _ w₁ ⟨d₁, hd₁, hw₁⟩
    refine wp_call _ trivial ?_
    rintro _ w₂ ⟨d₂, hd₂, hw₂⟩
    have hcalls : w₂.calls = w.calls ++ [(.sleepMs 4000, w.device.flags), (.wdtFeed, w₁.device.flags)] := by
      simp [hw₂, hw₁, ExitLog.after]
    have hexit : w₂.device = i.device.run i.beforeExit := by
      rw [ExitTick.beforeExit, if_pos ha, Device.run_append, ← hdev, ← hslept ha, ← hd₁, hw₂, hd₂, hw₁]
      rfl
    have hreboot : .reboot ∉ w₂.calls.map Prod.fst := by
      simp [hcalls, hw.not_reboot]
    refine decided_waiting hs hcopied hexit hreboot (hcalls ▸ hw.waited _ _) fun c _ => ?_
    refine ⟨.sleepMs 4000, iff_of_true rfl ha, ?_⟩
    have hgranted : w.calls ++ [(.sleepMs 4000, w.device.flags)] <+: w₂.calls ++ [(c, w₂.device.flags)] := by
      simp [hcalls]
    rw [← hdev]
    exact hgranted.find?_eq_some (hw.grantAt (.inl rfl))
  · rw [if_neg ha]
    have hexit : i.beforeExit = i.beforeGrant := by simp [ExitTick.beforeExit, ha]
    refine decided_waiting hs hcopied (hexit ▸ hdev) hw.not_reboot (fun x hx => hw.not_exits hx) fun c hc => ?_
    have hne : c ≠ .sleepMs 4000 := by
      rintro rfl
      cases hc
    refine ⟨c, iff_of_false hne ha, ?_⟩
    rw [← hdev]
    exact hw.grantAt (.inr hc)

theorem handleSettingsModeExit_waiting (hs : s.state ≠ .firmwareUpload) (hcopied : s.copied = i.device.flags)
    (hdev : w.device = i.device.run (i.during 0)) (hslept : w.slept = 1) :
    wp (waiting i) (handleSettingsModeExit s) (fun s' w' =>
      if i.now < s.timers.endSettings then w'.calls = [] else Decided i s' w'.calls) w := by
  have hconn : s.connectedGatt = i.device.gatt.connectedGatt := congrArg GattFlags.connected hcopied
  have hauth : s.authorizedGatt = i.device.gatt.authorizedGatt := congrArg GattFlags.authorized hcopied
  refine wp_call _ trivial ?_
  rintro now w₁ ⟨d₁, ⟨rfl, rfl⟩, rfl⟩
  by_cases hlt : i.now < s.timers.endSettings
  · simp [hlt, ExitLog.after]
  simp only [if_neg hlt]
  by_cases hwait : (s.connectedGatt || s.authorizedGatt) = true
  · -- two seconds for a client that is connected
    rw [if_pos hwait]
    rw [hconn, hauth] at hwait
    refine wp_call _ trivial ?_
    rintro _ w₂ ⟨d₂, rfl, rfl⟩
    refine wp_call _ trivial ?_
    rintro _ w₃ ⟨d₃, rfl, rfl⟩
    refine authWait_waiting hs hcopied ?_ ?_ (fun _ => ?_)
    · simp [Idle, ExitLog.after]
    · show w.device.run (i.during w.slept) = _
      rw [hdev, hslept, ExitTick.beforeGrant, if_pos hwait, Device.run_append]
    · show w.slept + 1 = 2
      omega
  · rw [if_neg hwait]
    rw [hconn, hauth] at hwait
    refine authWait_waiting hs hcopied ?_ ?_ (fun ha => absurd ?_ hwait)
    · simp [Idle, ExitLog.after]
    · show w.device = _
      rw [hdev, ExitTick.beforeGrant, if_neg hwait, List.append_nil]
    · rw [ha, Bool.or_true]

/-! ## A tick -/

theorem mainLoop_exits (hrun : ¬ (s.state = .shuttingDown ∨ s.state = .firmwareUpload))
    (hmode : s.state = .settingsMode ∨ s.broadcastingSettings = true) : wp (waiting i) (mainLoop s) (fun s' w' =>
      if i.now < s.timers.endSettings then w'.calls = [] else Decided i s' w'.calls) { device := i.device } := by
  refine wp_seq (wp_mode syncGattState_waiting syncGattState_calls) ?_
  rintro s₁ w₁ ⟨⟨hcopied, hdev₁, hslept₁⟩, f, hs₁⟩
  have hrun₁ : ¬ (s₁.state = .shuttingDown ∨ s₁.state = .firmwareUpload) := by rw [hs₁]; exact hrun
  have hmode₁ : s₁.state = .settingsMode ∨ s₁.broadcastingSettings = true := by rw [hs₁]; exact hmode
  have htimers₁ : s₁.timers = s.timers := by rw [hs₁]
  rw [tick_of_running hrun₁]
  refine wp_seq (wp_mode tickSleep_waiting (tickSleep_calls Policy.any_sound)) ?_
  rintro s₂ w₂ ⟨⟨hdev₂, hslept₂⟩, n, -, rfl⟩
  rw [if_pos hmode₁, ← htimers₁]
  refine handleSettingsModeExit_waiting (fun h => hrun₁ (.inr h)) hcopied ?_ ?_
  · rw [hdev₂, hdev₁, hslept₁]
  · rw [hslept₂, hslept₁]

/-- What the code decides is what the flags of the moment ask for only if the callbacks have left them as they
were. -/
theorem Decided.current_iff {calls : List (Call × GattFlags)} (h : Decided i s' calls) :
    DecidesOnCurrent s' calls ↔ i.Undisturbed := by
  obtain ⟨⟨c, hgrant, hgranted⟩, ⟨c', hexit⟩, htaken⟩ := h
  constructor
  · intro hcur
    have hsame := hcur.grant _ _ hgrant
    have hflags := GattFlags.exit_eq_iff.1 ((hcur.exit _ _ hexit).unique htaken)
    exact ⟨Bool.eq_iff_iff.2 (hsame.symm.trans hgranted), hflags.1, hflags.2⟩
  · rintro ⟨hauth, hpause, hreset⟩
    refine ⟨fun d f hd => ?_, fun d f hd => ?_⟩
    · cases hgrant.symm.trans hd
      rw [hgranted, ← hauth]
      rfl
    · cases hexit.symm.trans hd
      have hsame : (i.device.run i.beforeExit).flags.exit = i.device.flags.exit :=
        GattFlags.exit_eq_iff.2 ⟨hpause, hreset⟩
      exact hsame ▸ htaken

/-- Before the window has ended there is nothing to decide. -/
theorem decidesOnCurrent_nil : DecidesOnCurrent s' [] := ⟨by nofun, by nofun⟩

/-- Whatever the callbacks do during the sleeps of a tick in settings mode, its decisions are those that the flags
ask for at the time exactly if the window has not ended, or the callbacks have left the flags that matter as they
were before the tick. -/
theorem settings_exit_iff (i : ExitTick) (s : StateMachine)
    (hrun : ¬ (s.state = .shuttingDown ∨ s.state = .firmwareUpload))
    (hmode : s.state = .settingsMode ∨ s.broadcastingSettings = true) (s' : StateMachine) (w' : ExitLog)
    (hr : Reaches (waiting i) (mainLoop s, { device := i.device }) (.ret s', w')) :
    DecidesOnCurrent s' w'.calls ↔ i.now < s.timers.endSettings ∨ i.Undisturbed := by
  have h := wp_value (wp_reaches (mainLoop_exits hrun hmode) hr)
  by_cases hlt : i.now < s.timers.endSettings
  · rw [if_pos hlt] at h
    rw [h]
    exact iff_of_true decidesOnCurrent_nil (.inl hlt)
  · rw [if_neg hlt] at h
    rw [h.current_iff, or_iff_right hlt]

end

/-! ## Played ticks -/

/-- A device at rest but for the callbacks. -/
def ExitTick.serve (i : ExitTick) (w : ExitLog) : (c : Call) → Option (c.Ans × ExitLog)
  | .uptimeSeconds => some (i.now, w.after .uptimeSeconds w.device)
  | .sleepMs ms => some ((), w.after (.sleepMs ms) (w.device.run (i.during w.slept)))
  | .glueSyncGattState => some (w.device.flags, w.after .glueSyncGattState w.device)
  | .configKey _ | .setTurnedOn _ | .updateTurnedOn _ | .storeTime | .startSettingsAdv => none
  | c => some (answers w.device.settings.config i.now 3000 c, w.after c w.device)

theorem waiting_step_serve {i : ExitTick} (w : ExitLog) (c : Call) (x : c.Ans × ExitLog) (hx : i.serve w c = some x) :
    (waiting i).step w c x.1 x.2 := by
  cases c with
  | configKey | setTurnedOn | updateTurnedOn | storeTime | startSettingsAdv => cases hx
  | uptimeSeconds | glueSyncGattState | config =>
    cases hx
    exact ⟨_, ⟨rfl, rfl⟩, rfl⟩
  | reboot =>
    cases hx
    exact ⟨_, ⟨[], rfl⟩, rfl⟩
  | _ =>
    cases hx
    exact ⟨_, rfl, rfl⟩

/-- The tick that finds the window ended, with a client that has sent its code, and `es` during the wait of two
seconds. -/
def lastTick (es : List GattEvent) : ExitTick where
  device := ((Device.boot .erased).setTurnedOn true).run
    [.startSettingsAdv, .connected 0, .write .auth 0 defaultAuthCode.toList]
  now := 62
  during n := if n = 1 then es else []

/-- The same tick with a client that has sent no code. -/
def guestTick (es : List GattEvent) : ExitTick :=
  { lastTick es with device := ((Device.boot .erased).setTurnedOn true).run [.startSettingsAdv, .connected 0] }

/-- A request for an upload that is refused for want of the code: the device goes back to broadcasting, after a wait of
two seconds. -/
theorem settings_exit_refused :
    let i := guestTick [.write .status 0 [0x01, 0x00, 0xDF, 0xDF]]
    ∃ s s' w', ¬ (s.state = .shuttingDown ∨ s.state = .firmwareUpload) ∧ s.state = .settingsMode ∧
      Reaches (waiting i) (mainLoop s, { device := i.device }) (.ret s', w') ∧ s'.state = .broadcasting ∧
      w'.slept = 2 ∧ DecidesOnCurrent s' w'.calls := by
  intro i
  obtain ⟨⟨s, u⟩, hstart, ⟨s₁, u₁⟩, hentry, ⟨s', w'⟩, htick, hmode, hback, hslept⟩ :
      ∃ x ∈ (initializeMachine {}).play (fun _ c => some (answers { turnedOn := true } 0 3000 c, ())) (),
      ∃ y ∈ (mainLoop x.1).play (fun _ c => some (answers { turnedOn := true } 60 3000 c, ())) (),
      ∃ z ∈ (mainLoop y.1).play i.serve { device := i.device },
        y.1.state = .settingsMode ∧ z.1.state = .broadcasting ∧ z.2.slept = 2 := by decide
  have hrun : ¬ (s₁.state = .shuttingDown ∨ s₁.state = .firmwareUpload) := by
    rw [hmode]
    decide
  have hundisturbed : i.Undisturbed := by
    refine ExitTick.undisturbed_of_rejected rfl fun e he => ?_
    obtain rfl : e = .write .status 0 [0x01, 0x00, 0xDF, 0xDF] := List.mem_singleton.1 he
    exact ⟨_, _, _, rfl, by decide⟩
  have hr := reaches_of_play waiting_step_serve htick
  refine ⟨s₁, s', w', hrun, hmode, hr, hback, hslept, ?_⟩
  exact (settings_exit_iff i s₁ hrun (.inl hmode) s' w' hr).2 (.inr hundisturbed)

/-- The request for an upload that an authenticated client writes during the wait of two seconds: the device goes
back to broadcasting. -/
theorem upload_request_missed :
    ¬ ∀ (i : ExitTick) (s : StateMachine), Reachable s → s.state = .settingsMode → ∀ s' w',
      Reaches (waiting i) (mainLoop s, { device := i.device }) (.ret s', w') → DecidesOnCurrent s' w'.calls := by
  intro h
  let i := lastTick [.write .status 0 [0x01, 0x00, 0xDF, 0xDF]]
  obtain ⟨⟨s, u⟩, hstart, ⟨s₁, u₁⟩, hentry, ⟨s', w'⟩, htick, hmode, hback, ⟨c, f⟩, hexit, hpause⟩ :
      ∃ x ∈ (initializeMachine {}).play (fun _ c => some (answers { turnedOn := true } 0 3000 c, ())) (),
      ∃ y ∈ (mainLoop x.1).play (fun _ c => some (answers { turnedOn := true } 60 3000 c, ())) (),
      ∃ z ∈ (mainLoop y.1).play i.serve { device := i.device },
        y.1.state = .settingsMode ∧ z.1.state = .broadcasting ∧
        ∃ x ∈ exitAt z.2.calls, x.2.pauseUpload = true := by decide
  have hreach : Reachable s₁ := (Reachable.of_play hstart).tick_of_play hentry
  have htaken := (h i s₁ hreach hmode s' w' (reaches_of_play waiting_step_serve htick)).exit c f hexit
  rw [GattFlags.exit, if_pos hpause] at htaken
  exact absurd (hback.symm.trans htaken) (by decide)

end Everytag
