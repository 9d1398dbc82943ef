import BthEmul.Common.PacketRoundTrip
import BthEmul.Common.PacketSafety
import BthEmul.Common.PacketCaller
import BthEmul.Common.PacketRefinement
import BthEmul.Device.Session
import BthEmul.Device.ReadSafety
import BthEmul.Agent.CommandObject
import BthEmul.Agent.Delivery
import BthEmul.Agent.Initialization
import BthEmul.Agent.QuitRelease
import BthEmul.Agent.Watchdog
import BthEmul.Bridge.Shutdown
import BthEmul.Hci.SlotRuns
import BthEmul.Hci.CommandEncoding
import BthEmul.Hci.EventDecoding
import BthEmul.Hci.InquiryResult
import BthEmul.Hci.RoundTrip
import BthEmul.Hci.DiagnosticText
import BthEmul.Runtime.Reassembly
import BthEmul.Runtime.Resilience
import BthEmul.Runtime.SendCommand
import BthEmul.Runtime.LockLifetime
import BthEmul.Runtime.ListenerThreads
import BthEmul.Plugin.DeviceId
import BthEmul.Usb.RequestCompletion
import BthEmul.Usb.SuspendOwnership
import BthEmul.Usb.WaitWake
import BthEmul.Usb.QueueAgreement
import BthEmul.Usb.HeldRequests
import BthEmul.Usb.ExclusiveOpen
import BthEmul.Usb.InterfaceSelection
import BthEmul.Bridge.Inbound
import BthEmul.Usb.IdleTimer
import BthEmul.Usb.PowerCompletion
import BthEmul.Bridge.Outbound
import BthEmul.Usb.DeviceNames
import BthEmul.Runtime.DriverDevices
import BthEmul.Runtime.StaleHandlers
