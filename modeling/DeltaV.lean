import DeltaV.Lib.Binary32
import DeltaV.Lib.Runs
import DeltaV.Lib.Circular
import DeltaV.Lib.FirstWins
import DeltaV.Types
import DeltaV.Cobs
import DeltaV.Component
import DeltaV.Port
import DeltaV.MissionFsm
import DeltaV.TmrStore
import DeltaV.CommandHub.Model
import DeltaV.CommandHub.Contract
import DeltaV.Watchdog.Model
import DeltaV.Watchdog.Progress
import DeltaV.Watchdog.MissionState
import DeltaV.Watchdog.Battery
import DeltaV.Lib.SerialNumber
import DeltaV.Lib.BoundedQueue
import DeltaV.Hub.FanOut
import DeltaV.Hub.Telemetry
import DeltaV.Hub.Nominal
import DeltaV.Bridge.Model
import DeltaV.Bridge.Replay
import DeltaV.Bridge.Kiss
import DeltaV.SharedRing
import DeltaV.CommandHub.Input
import DeltaV.Ota.Model
import DeltaV.Ota.Verification
import DeltaV.Lib.LittleEndian
import DeltaV.Lib.Crc
import DeltaV.Serializer
import DeltaV.Ground.Model
import DeltaV.Bridge.Frame
import DeltaV.Bridge.Uplink
import DeltaV.Bridge.SerialLink
import DeltaV.Bridge.UdpLink
import DeltaV.Bridge.ReplayFile
import DeltaV.SpscRing
import DeltaV.Ground.Listener
import DeltaV.Bridge.Downlink
import DeltaV.Ground.Agreement
import DeltaV.Watchdog.Events
import DeltaV.Watchdog.Calm
import DeltaV.Ground.Tracking
import DeltaV.Lib.ReflectedCrc
import DeltaV.ParamDb.Model
import DeltaV.ParamDb.Integrity
import DeltaV.ParamDb.Threads
import DeltaV.Lib.SixDigits
import DeltaV.FloatText
import DeltaV.ParamDb.Persistence
import DeltaV.Tmr.Masking
import DeltaV.Topology.Model
import DeltaV.Topology.Render
import DeltaV.RateGroupExecutive
import DeltaV.Hub.Event
import DeltaV.Tmr.Registry
import DeltaV.Topology.Program
import DeltaV.Topology.Wiring
import DeltaV.Topology.Protection
import DeltaV.Topology.Installation
import DeltaV.Topology.Dictionary
import DeltaV.Topology.Delivery
import DeltaV.Topology.Verification
import DeltaV.Hub.Broadcast
import DeltaV.Watchdog.Restarts
import DeltaV.FloatWords
import DeltaV.Lib.Slots
import DeltaV.Reporter
import DeltaV.FileTransfer
import DeltaV.Cfdp
import DeltaV.ModeManager
import DeltaV.LimitChecker
import DeltaV.Lib.Logs
import DeltaV.CommandSequencer
import DeltaV.AtsRts
import DeltaV.CommandHub.Demand
import DeltaV.Lib.MaxRegister
import DeltaV.TimeService
import DeltaV.TimeSync
import DeltaV.CfdpChunks
import DeltaV.Conversions
import DeltaV.Lib.Lines
import DeltaV.Ota.Staging
import DeltaV.Ota.Verdict
import DeltaV.TimeRange
import DeltaV.Bridge.Escapes
import DeltaV.MemoryDwell
import DeltaV.Recorder.Logger
import DeltaV.Recorder.Scan
import DeltaV.Recorder.Playback
import DeltaV.Rates
import DeltaV.Ground.Bursts
import DeltaV.CobsFrames
import DeltaV.Lib.DenseTable
import DeltaV.Tmr.Table
import DeltaV.Registrations
import DeltaV.CommandHub.Reports
import DeltaV.PayloadMonitor
import DeltaV.Lib.Loops
import DeltaV.Topology.StandardApps
import DeltaV.Topology.StandardInstall
import DeltaV.Topology.StandardCommands
import DeltaV.Bridge.Session
import DeltaV.Executive.Mission
import DeltaV.Executive.Schedule
import DeltaV.Executive.Timing
import DeltaV.Hub.Starvation
import DeltaV.Executive.Discharge
import DeltaV.ParamDb.Boots
import DeltaV.ParamDb.TornSave
import DeltaV.Executive.Supervision
import DeltaV.Executive.EventBurst
import DeltaV.Executive.CommandPath
import DeltaV.Executive.Upload
import DeltaV.Executive.ChunkUpload
import DeltaV.Ground.Recording
