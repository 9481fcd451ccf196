import ArduinoDriver.Firmware.Accounts
import ArduinoDriver.Firmware.AnalogRefresh
import ArduinoDriver.Firmware.ArmOrder
import ArduinoDriver.Firmware.BulkWriter
import ArduinoDriver.Firmware.Debounce
import ArduinoDriver.Firmware.EventCounts
import ArduinoDriver.Firmware.FreshArms
import ArduinoDriver.Firmware.FullCapacity
import ArduinoDriver.Firmware.GenuineEvents
import ArduinoDriver.Firmware.Numbering
import ArduinoDriver.Firmware.Rejection
import ArduinoDriver.Firmware.ResetQueue
import ArduinoDriver.Firmware.SampledPins
import ArduinoDriver.Firmware.SamplingSchedule
import ArduinoDriver.Firmware.Sequential
import ArduinoDriver.Firmware.ShortReads
import ArduinoDriver.Firmware.StreamSession
import ArduinoDriver.Firmware.Transports
import ArduinoDriver.Host.Agreement
import ArduinoDriver.Host.Bounds
import ArduinoDriver.Host.BulkRing
import ArduinoDriver.Host.DeviceTime
import ArduinoDriver.Host.Draining
import ArduinoDriver.Host.EarlierSession
import ArduinoDriver.Host.OneStream
import ArduinoDriver.Host.ReadBack
import ArduinoDriver.Host.Recipients
import ArduinoDriver.Host.RecordQueue
import ArduinoDriver.Host.RecordShape
import ArduinoDriver.Host.Reenumeration
import ArduinoDriver.Host.RejectedCalls
import ArduinoDriver.Host.StaleRecords
import ArduinoDriver.Host.Startup
import ArduinoDriver.Host.StreamLosses
import ArduinoDriver.Host.StreamReport
import ArduinoDriver.Host.StreamWorker
import ArduinoDriver.Host.Watchers
import ArduinoDriver.Host.Watching
import ArduinoDriver.Testing.FakeFollows
