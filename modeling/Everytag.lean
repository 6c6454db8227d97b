import Everytag.Lib.Prog
import Everytag.Lib.Bytes
import Everytag.Lib.Windowed
import Everytag.Lib.Registers
import Everytag.Nvs
import Everytag.Config
import Everytag.Gatt
import Everytag.Logic
import Everytag.StatusReference
import Everytag.Hardware
import Everytag.StateMachine
import Everytag.Footprint
import Everytag.Callbacks
import Everytag.Validity
import Everytag.Firmware
import Everytag.Records
import Everytag.Startup
import Everytag.Watchdog
import Everytag.Persistence
import Everytag.Clock
import Everytag.Upload
import Everytag.Session
import Everytag.Authorization
import Everytag.KeyStore
import Everytag.WholeKeys
import Everytag.Battery
import Everytag.Shutdown
import Everytag.Radio
import Everytag.Lifecycle
import Everytag.Movement
import Everytag.Lis2dw12
import Everytag.Telemetry
import Everytag.Client
import Everytag.AdvertData
import Everytag.Tick
import Everytag.Duties
import Everytag.Rotation
import Everytag.ChargeLock
import Everytag.Teardown
import Everytag.Keyless
import Everytag.BroadcastAddress
import Everytag.SettingsExit
import Everytag.SettingsAddress
import Everytag.Scalars
import Everytag.KeyCount
import Everytag.MovementByte
import Everytag.StatusBytes
import Everytag.TelemetryCycle
import Everytag.MacTiming
import Everytag.Alternation
import Everytag.TxPower
import Everytag.PowerState
import Everytag.TimeArithmetic
import Everytag.I2cDrivers
import Everytag.BusSleep
import Everytag.TimeSaved
import Everytag.Ledger
import Everytag.WriteOrder
import Everytag.ConnBeacon
import Everytag.Lib.Spacing
import Everytag.DutyRate
import Everytag.FlashWear
import Everytag.SettingsVisit
import Everytag.KeysOnAir
import Everytag.Packets
import Everytag.SaveAge
import Everytag.ClockLag
