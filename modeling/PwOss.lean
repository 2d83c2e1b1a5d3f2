import PwOss.Node.Rebuild.State
import PwOss.Node.Rebuild.Threads
import PwOss.Node.Rebuild.Bookkeeping
import PwOss.Node.Rebuild.Fencing
import PwOss.Node.Rebuild.Quiescence
import PwOss.Node.Rebuild.Publication
import PwOss.Node.Rebuild.View
import PwOss.Node.Rebuild.Views
import PwOss.Node.Timing.Liveness
import PwOss.Backend.Playback
import PwOss.Backend.Xrun
import PwOss.Spa.Notifications
import PwOss.Monitor.Events
import PwOss.Lib.Proc
import PwOss.Oss.Buffer
import PwOss.Oss.Dsp
import PwOss.Oss.Stream
import PwOss.Oss.Silence
import PwOss.Oss.Boundary
import PwOss.Oss.Devices
import PwOss.Node.Format.Snap
import PwOss.Node.Format.Nearest
import PwOss.Oss.Channels
import PwOss.Oss.SilencePhase
import PwOss.Oss.RingPlan
import PwOss.Oss.CaptureStream
import PwOss.Backend.Capture
import PwOss.Node.Source.Ownership
import PwOss.Node.Sink.Port
import PwOss.Node.Sink.Process
import PwOss.Node.Sink.Delivery
import PwOss.Node.Sink.Shadow
import PwOss.Lib.Lists
import PwOss.Lib.Least
import PwOss.Lib.OrdMap
import PwOss.Node.Sink.Target
import PwOss.Node.Source.Level
import PwOss.Node.Source.Publish
import PwOss.Lib.Pace
import PwOss.Node.Timing.Rate
import PwOss.Node.Timing.Deposit
import PwOss.Sys.Kqueue
import PwOss.Oss.Wake
import PwOss.Oss.Detach
import PwOss.Oss.Hotplug
import PwOss.Lib.Sweep
import PwOss.Oss.Mixer
import PwOss.Oss.RouteController
import PwOss.Oss.Readback
import PwOss.Oss.Polling
import PwOss.Oss.Requests
import PwOss.Oss.Selection
import PwOss.Oss.Routes
import PwOss.Lib.Paging
import PwOss.Spa.Params
import PwOss.Device.Params
import PwOss.Lib.Debounce
import PwOss.Oss.Retunes
import PwOss.Node.Retune
import PwOss.Lib.Slot
import PwOss.Node.Rebuild.Handoff
import PwOss.Lib.Rounding
import PwOss.Oss.Configure
import PwOss.Lib.Ring
import PwOss.Spa.HookList
import PwOss.Spa.Traversal
import PwOss.Lib.Revalidation
import PwOss.Spa.Audience
import PwOss.Spa.Info
import PwOss.Spa.Pod
import PwOss.Device.Pods
import PwOss.Oss.Announced
import PwOss.Device.Control
import PwOss.Device.Steps
import PwOss.Device.Coherence
import PwOss.Device.Listeners
import PwOss.Oss.Names
import PwOss.Oss.Restored
import PwOss.Device.Restore
import PwOss.Spa.Props
import PwOss.Backend.Properties
import PwOss.Oss.Properties
import PwOss.Node.Params
import PwOss.Node.Coherence
import PwOss.Node.Listeners
import PwOss.Lib.Descriptors
import PwOss.Host.Sources
import PwOss.Host.Plugins
import PwOss.Oss.Units
import PwOss.Host.Handover
