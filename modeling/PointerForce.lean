import PointerForce.Daemon.DispatchOnce
import PointerForce.Daemon.EventLoop
import PointerForce.Daemon.Observers
import PointerForce.Daemon.EventStreams
import PointerForce.Bridge.ConcurrentWrites
import PointerForce.Bridge.ConcurrentEdits
import PointerForce.Bridge.DeviceEndpoints
import PointerForce.Bridge.HonouredConfigs
import PointerForce.Bridge.EditableConfigs
import PointerForce.Bridge.EditEffects
import PointerForce.Bridge.EventLines
import PointerForce.Bridge.EventResponse
import PointerForce.Bridge.ConfigStore
import PointerForce.Bridge.EventBacklog
import PointerForce.Bridge.EventFeed
import PointerForce.Bridge.EditForm
import PointerForce.Bridge.SocketAgreement
import PointerForce.Bridge.FlashedRow
import PointerForce.Bridge.AutomapWizard
import PointerForce.Daemon.FailedReload
import PointerForce.Daemon.Restart
import PointerForce.Daemon.ReloadDispatch
import PointerForce.Daemon.ConfigMeaning
import PointerForce.Daemon.BindingMap
import PointerForce.Daemon.ListedBindings
import PointerForce.Daemon.ClientSafety
import PointerForce.Daemon.RequestFraming
import PointerForce.Daemon.ControlPlane
import PointerForce.Daemon.ControlSocket
import PointerForce.Daemon.Disconnects
import PointerForce.Daemon.SingleInstance
import PointerForce.Daemon.PidOwnership
import PointerForce.Daemon.Shutdown
import PointerForce.Daemon.DeviceMatching
import PointerForce.Daemon.ReportedKeys
import PointerForce.Daemon.ReloadSignals
import PointerForce.Daemon.DeviceHandles
import PointerForce.Foundations.Runs
import PointerForce.Client.ControlCalls
import PointerForce.Client.Pfctl
import PointerForce.Client.PrintedEvents
import PointerForce.Bridge.CommandEndpoints
import PointerForce.Bridge.RowsFedBack
import PointerForce.Daemon.EventQueues
import PointerForce.Bridge.EventStreamThreads
import PointerForce.Daemon.OpenedEntries
import PointerForce.Daemon.StopReturns
import PointerForce.Bridge.SavedDocuments
