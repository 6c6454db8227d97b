import Everytag.Lib.Prog
import Everytag.Lis2dw12

/-!
# The drivers on the I2C bus

`bq2512x.c` and `lis2dw12.c` as programs over the calls that they make to Zephyr: the power state of the
bus, its readiness, the transfers, and the CD line of the charger.  `printk` is left out.  What `accel_read`
returns and stores is what `Lis2dw12.accelRead` computes from the same transfers (`readOnBus_computes`).
-/

namespace Everytag

open Interaction

inductive PmAction
  | suspend | resume
deriving DecidableEq, Repr

/-- `GPIO_OUTPUT | GPIO_OUTPUT_ACTIVE` and `GPIO_DISCONNECTED` -/
inductive PinFlags
  | outputActive | disconnected
deriving DecidableEq, Repr

inductive I2cCall
  /-- `pm_device_action_run(i2c_dev, ..)` -/
  | pmAction (action : PmAction)
  | deviceIsReady
  /-- `i2c_reg_read_byte_dt` -/
  | regRead (reg : UInt8)
  /-- `i2c_reg_write_byte_dt` -/
  | regWrite (reg value : UInt8)
  /-- `i2c_burst_read_dt` of `LIS2DW12_REG_OUT_TEMP_L`, into `accTemp` -/
  | readTemp
  /-- `i2c_burst_read_dt` of `LIS2DW12_REG_OUT_X_L`, into `accSamples` from index 1 on -/
  | readFifo
  /-- `gpio_pin_configure_dt(&cdpin_spec, ..)` -/
  | configureCd (flags : PinFlags)
  /-- `k_sleep` -/
  | sleepMs (ms : Nat)
  | uptimeSeconds
deriving DecidableEq, Repr

/-- A transfer returns its code, and what it has read. -/
abbrev I2cCall.Ans : I2cCall → Type
  | .deviceIsReady => Bool
  | .readTemp => Int × Int16
  | .readFifo => Int × Vector Sample 32
  | .uptimeSeconds => UInt32
  | .pmAction _ | .configureCd _ | .regWrite .. => Int
  | .regRead _ => Int × UInt8
  | .sleepMs _ => Unit

/-- Code of the drivers. -/
abbrev I2c (α : Type) := Prog I2cCall I2cCall.Ans α

@[simp] def zephyr (c : I2cCall) : I2c c.Ans := Prog.issue c

/-- `bq2512x_suspend_i2c` and `lis2dw12_suspend_i2c`; an error is only printed. -/
def suspendI2c : I2c Unit := do
  let _ ← zephyr (.pmAction .suspend)

/-- `bq2512x_resume_i2c` and `lis2dw12_resume_i2c` -/
def resumeI2c : I2c Unit := do
  let _ ← zephyr (.pmAction .resume)

/-! ## The charger -/

namespace Bq2512x

def statusShipmodeReg : UInt8 := 0x00
def faultsFaultmasksReg : UInt8 := 0x01
def tscontrolStatusReg : UInt8 := 0x02
def fastchargeCtlReg : UInt8 := 0x03
def chargetermCtlReg : UInt8 := 0x04
def systemVoutCtlReg : UInt8 := 0x06
def loadswLdoCtlReg : UInt8 := 0x07
def ilimitUvloCtlReg : UInt8 := 0x09
def battVoltMonitorReg : UInt8 := 0x0a

/-- CD to high. -/
def activate : I2c Unit := do
  let _ ← zephyr (.configureCd .outputActive)

/-- CD is pulled down internally. -/
def deactivate : I2c Unit := do
  let _ ← zephyr (.configureCd .disconnected)

/-- The functions that set one register. -/
def setReg (reg value : UInt8) : I2c Unit := do
  let ready ← zephyr .deviceIsReady
  if ready then
    let _ ← zephyr (.regWrite reg value)

def setLdo (voltage : Int) : I2c Unit :=
  setReg loadswLdoCtlReg <|
    match voltage with
    | 2800 => 0xf0
    | 2700 => 0xec
    | 2500 => 0xe4
    | 2300 => 0xdc
    | 0 => 0
    | _ => 0xc8

def setSys (voltage : Int) : I2c Unit :=
  setReg systemVoutCtlReg <|
    match voltage with
    | 2800 => 0xbe
    | 2700 => 0xbc
    | 2500 => 0xb8
    | 2300 => 0xb4
    | _ => 0xaa

def setFchg (current : Int) : I2c Unit :=
  setReg fastchargeCtlReg <|
    match current with
    | 40 => 0x90
    | 20 => 0x50
    | 10 => 0x28
    | _ => 0x14

def setPchg (current : Int) : I2c Unit :=
  setReg chargetermCtlReg <|
    match current with
    | 20 => 0xba
    | 10 => 0x92
    | 5 => 0x2a
    | _ => 0x12

def setBuvlo (voltage : Int) : I2c Unit :=
  setReg ilimitUvloCtlReg <|
    match voltage with
    | 3000 => 0x12
    | 2800 => 0x13
    | 2600 => 0x14
    | _ => 0x15

/-- 0 if TS was disabled, 1 if it was enabled, -1 if the register could not be read or written.  The register is
read twice, and the second read counts. -/
def tsDisable : I2c Int := do
  let ready ← zephyr .deviceIsReady
  if !ready then return -1
  else
    let _ ← zephyr (.regRead tscontrolStatusReg)
    let (ret, data) ← zephyr (.regRead tscontrolStatusReg)
    if ret ≠ 0 then return -1
    else
      let ret ← zephyr (.regWrite tscontrolStatusReg 0x08)
      if ret ≠ 0 then return -1
      else return if data &&& 0x80 ≠ 0 then 1 else 0

/-- `bq2512x_status` and `bq2512x_faults`. -/
def readReg (reg : UInt8) : I2c Int := do
  let ready ← zephyr .deviceIsReady
  if !ready then return -1
  else
    let (ret, data) ← zephyr (.regRead reg)
    if ret ≠ 0 then return -1 else return (data.toNat : Int)

def status : I2c Int := readReg statusShipmodeReg

def faults : I2c Int := readReg faultsFaultmasksReg

/-- Percent of 4.2 V. -/
def gaugePercent (data : UInt8) : Int :=
  let range : Int := ((data &&& 0x60) >>> 5).toNat * 10 + 60
  let th : Int :=
    match (data &&& 0x1c) >>> 2 with
    | 7 => 9
    | 6 => 7
    | 3 => 5
    | 2 => 3
    | 1 => 1
    | _ => 0
  range + th

/-- The approximate voltage, or what the errors return. -/
def gauge : I2c Int := do
  let ready ← zephyr .deviceIsReady
  if !ready then return -1
  else
    let (ret, data) ← zephyr (.regRead battVoltMonitorReg)
    if ret ≠ 0 then return -1
    else
      let ret ← zephyr (.regWrite battVoltMonitorReg 0x80)
      if ret ≠ 0 then return 0 else return (4200 * gaugePercent data).tdiv 100

def shipmode : I2c Unit := do
  resumeI2c
  let ready ← zephyr .deviceIsReady
  if !ready then return ()
  else
    let status ← status
    if status > 0 ∧ Int32.ofInt status &&& 0xc0 ≠ 0 then return ()
    else
      activate
      zephyr (.sleepMs 2)
      let _ ← zephyr (.regWrite statusShipmodeReg 0x20)
      deactivate
      suspendI2c

/-- Attempts to disable TS while there are any left. -/
def tsDisableRetry : (nAttempts : Nat) → I2c Int
  | 0 => tsDisable
  | n + 1 => do
    let ret ← tsDisable
    if ret < 0 then
      zephyr (.sleepMs 10)
      tsDisableRetry n
    else return ret

/-- The first part of `bq2512x_reinit`: TS, with CD high if that fails. -/
def tsDisableOrActivate : I2c Int := do
  let ret ← tsDisable
  if ret < 0 then
    activate
    zephyr (.sleepMs 2)
    tsDisableRetry 3
  else return ret

/-- The parameters of the board. -/
def program (sysVoltage fastCharge preCharge : Int) : I2c Unit := do
  setBuvlo 2600
  setLdo 0
  setSys sysVoltage
  setFchg fastCharge
  setPchg preCharge
  let _ ← faults
  let _ ← status

/-- `bq2512x_reinit`; the result is `bq2512x_lastVoltage`. -/
def reinit (forceFlag sysVoltage fastCharge preCharge : Int) (lastVoltage : Int) : I2c Int := do
  resumeI2c
  let ret ← tsDisableOrActivate
  let voltage ← gauge
  let _ ← faults
  if ret ≠ 0 ∨ forceFlag ≠ 0 then
    program sysVoltage fastCharge preCharge
  deactivate
  suspendI2c
  return if voltage > 0 then voltage else lastVoltage

/-- 1 if charging. -/
def isCharging : I2c Int := do
  resumeI2c
  let ret ← tsDisable
  if ret < 0 then return 0
  else
    let status ← status
    if Int32.ofInt status &&& 0xc0 = 0x40 then return 1 else return 0

end Bq2512x

/-! ## The accelerometer -/

namespace Lis2dw12

def regWhoAmI : UInt8 := 0x0f
def regCtrlReg1 : UInt8 := 0x20
def regCtrlReg2 : UInt8 := 0x21
def regCtrlReg3 : UInt8 := 0x22
def regCtrlReg4 : UInt8 := 0x23
def regCtrlReg5 : UInt8 := 0x24
def regCtrlReg6 : UInt8 := 0x25
def regFifoCtrl : UInt8 := 0x2e
def regIntDur : UInt8 := 0x33
def regWakeUpThs : UInt8 := 0x34
def regWakeUpDur : UInt8 := 0x35
def regCtrlReg7 : UInt8 := 0x3f

/-- The registers as `accel_init` sets them up; nothing looks at the return codes. -/
def setUp : I2c Unit := do
  let _ ← zephyr (.regRead regWhoAmI)
  -- soft reset, and the trimming
  let _ ← zephyr (.regWrite regCtrlReg2 0x40)
  zephyr (.sleepMs 1)
  let _ ← zephyr (.regWrite regCtrlReg2 0x80)
  zephyr (.sleepMs 20)
  let _ ← zephyr (.regWrite regCtrlReg7 0x80)
  let _ ← zephyr (.regWrite regWakeUpThs 0)
  let _ ← zephyr (.regWrite regWakeUpDur 0)
  let _ ← zephyr (.regWrite regFifoCtrl 0xc0)
  let _ ← zephyr (.regWrite regIntDur 0)
  let _ ← zephyr (.regWrite regCtrlReg6 0x04)
  let _ ← zephyr (.regWrite regCtrlReg5 0)
  let _ ← zephyr (.regWrite regCtrlReg4 0)
  let _ ← zephyr (.regWrite regCtrlReg3 0)
  let _ ← zephyr (.regWrite regCtrlReg2 0x14)
  let _ ← zephyr (.regWrite regCtrlReg1 0x10)

/-- `accel_init` on the bus. -/
def initOnBus (d : Lis2dw12) : I2c (Int × Lis2dw12) := do
  resumeI2c
  let ready ← zephyr .deviceIsReady
  if !ready then return accelInit false d
  else
    setUp
    suspendI2c
    return accelInit true d

/-- `accel_powerdown` on the bus. -/
def powerdownOnBus (d : Lis2dw12) : I2c (Int × Lis2dw12) := do
  resumeI2c
  let ready ← zephyr .deviceIsReady
  if !ready then return accelPowerdown false d
  else
    let _ ← zephyr (.regWrite regCtrlReg1 0)
    suspendI2c
    return accelPowerdown true d

/-- `accSamples[0]` is there. -/
theorem firstSample_lt : 0 < 33 := by
  decide

/-- `accel_read` on the bus. -/
def readOnBus (accelThreshold : Int) (d : Lis2dw12) : I2c (Int × Lis2dw12) := do
  resumeI2c
  let ready ← zephyr .deviceIsReady
  if !ready then return (-1, d)
  else
    let (ret, accTemp) ← zephyr .readTemp
    if ret ≠ 0 then return (-1, d)
    else
      let d := { d with accelTemperature := temperatureOf accTemp }
      let (ret, fifo) ← zephyr .readFifo
      let d := { d with accSamples := fill d.accSamples fifo }
      if ret ≠ 0 then return (-1, d)
      else
        suspendI2c
        let now ← zephyr .uptimeSeconds
        let later ← if d.toMoves.shiftDue now then zephyr .uptimeSeconds else pure now
        return (0, { d with
          toMoves := d.toMoves.record (movements d.accSamples accelThreshold) now later
          accSamples := d.accSamples.set 0 d.accSamples[32]! firstSample_lt })

/-! What `readOnBus` comes to, against `accelRead`. -/

/-- What the transfers and the two readings of the uptime answer. -/
structure Transfers where
  ready : Bool
  temp : Int × Int16
  fifo : Int × Vector Sample 32
  now : UInt32
  later : UInt32

/-- The read that they make up. -/
def Transfers.bus (t : Transfers) : BusRead where
  ready := t.ready
  outTemp := if t.temp.1 = 0 then some t.temp.2 else none
  fifo := t.fifo.2
  fifoOk := t.fifo.1 == 0

@[simp] def Transfers.Answers (t : Transfers) (asked : Nat) : (c : I2cCall) → c.Ans → Prop
  | .deviceIsReady, ready => ready = t.ready
  | .readTemp, temp => temp = t.temp
  | .readFifo, fifo => fifo = t.fifo
  | .uptimeSeconds, now => now = if asked = 0 then t.now else t.later
  | _, _ => True

/-- A bus with these transfers, and the readings of the uptime so far. -/
def transferring (t : Transfers) : World I2cCall I2cCall.Ans Nat where
  allowed _ _ := True
  step asked c a asked' := t.Answers asked c a ∧ asked' = if c = .uptimeSeconds then asked + 1 else asked
  move _ _ := False

instance {t : Transfers} : (transferring t).Sequential := ⟨fun _ _ h => h⟩

@[simp] theorem transferring_allowed (t : Transfers) (asked : Nat) (c : I2cCall) :
    (transferring t).allowed asked c ↔ True := Iff.rfl

@[simp] theorem transferring_step (t : Transfers) (asked asked' : Nat) (c : I2cCall) (a : c.Ans) :
    (transferring t).step asked c a asked' ↔
      t.Answers asked c a ∧ asked' = if c = .uptimeSeconds then asked + 1 else asked := Iff.rfl

/-- Without a shift the second reading does not count. -/
theorem record_of_not_due {m : Moves} {count : Nat} {now : UInt32} (h : m.shiftDue now = false) (later : UInt32) :
    m.record count now later = m.record count now now := by
  simp [Moves.record, h]

/-- On the bus, a read comes to what `accelRead` makes of its transfers. -/
theorem readOnBus_computes (t : Transfers) (accelThreshold : Int) (d : Lis2dw12) :
    wp (transferring t) (readOnBus accelThreshold d)
      (fun r _ => r = accelRead t.bus accelThreshold t.now t.later d) 0 := by
  refine wp_seq (R := fun _ asked => asked = 0) (by simp [resumeI2c]) ?_
  rintro _ _ rfl
  refine wp_call _ trivial ?_
  rintro _ _ ⟨rfl, rfl⟩
  cases hready : t.ready with
  | false =>
    refine (wp_pure _ _ _ _).2 ?_
    simp [accelRead, Transfers.bus, hready]
  | true =>
    refine wp_call _ trivial ?_
    rintro _ _ ⟨rfl, rfl⟩
    by_cases htemp : t.temp.1 = 0
    · simp only [htemp, ne_eq, not_true_eq_false, if_false]
      refine wp_call _ trivial ?_
      rintro _ _ ⟨rfl, rfl⟩
      by_cases hfifo : t.fifo.1 = 0
      · simp only [hfifo, not_true_eq_false, if_false]
        refine wp_seq (R := fun _ asked => asked = 0) (by simp [suspendI2c]) ?_
        rintro _ _ rfl
        refine wp_call _ trivial ?_
        rintro _ _ ⟨rfl, rfl⟩
        cases hdue : d.toMoves.shiftDue t.now with
        | true =>
          simp [hdue, accelRead, Transfers.bus, hready, htemp, hfifo]
        | false =>
          simp [hdue, accelRead, Transfers.bus, hready, htemp, hfifo, record_of_not_due hdue t.later]
      · simp [hfifo, accelRead, Transfers.bus, hready, htemp]
    · simp [htemp, accelRead, Transfers.bus, hready]

end Lis2dw12

end Everytag
