import AvdeccProxy.TransitionRuns
import AvdeccProxy.TransitionViews
import AvdeccProxy.Turnstile
import AvdeccProxy.ResourcePool
import AvdeccProxy.HeaderLines
import AvdeccProxy.HttpMessage
import AvdeccProxy.HttpServer
import AvdeccProxy.HttpAnswers
import AvdeccProxy.HttpRouting
import AvdeccProxy.HttpFallback
import AvdeccProxy.HttpSite
import AvdeccProxy.ServiceState
import AvdeccProxy.ServiceModel
import AvdeccProxy.ServiceOutline
import AvdeccProxy.TickVisits
import AvdeccProxy.ClientPool
import AvdeccProxy.ServiceSound
import AvdeccProxy.ConnectionLife
import AvdeccProxy.HandlerReuse
import AvdeccProxy.CloseOnce
import AvdeccProxy.RecycledComponents
import AvdeccProxy.WriteLedger
import AvdeccProxy.CloseAnnounced
import AvdeccProxy.ClientAdmission
import AvdeccProxy.ClientMachine
import AvdeccProxy.ClientIsolation
import AvdeccProxy.RequestAnswers
import AvdeccProxy.ServiceStop
import AvdeccProxy.InterruptedCallbacks
import AvdeccProxy.ServiceLifecycle
import AvdeccProxy.LostConnections
import AvdeccProxy.HandleAborts
import AvdeccProxy.HandlerCallbacks
import AvdeccProxy.SlotRelease
import AvdeccProxy.ServiceDrain
import AvdeccProxy.OrderlyClients
import AvdeccProxy.CallbackOrder
import AvdeccProxy.LargerPool
