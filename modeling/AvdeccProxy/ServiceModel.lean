import AvdeccProxy.ServiceState
import AvdeccProxy.TransitionRuns

/-! The methods of `NetworkService` and `ApsClient`, and the callbacks libuv makes into them. A method
takes the state and returns the state it leaves; what the environment decides (the results of libuv
calls, the behaviour of the state machine, the requests its parser finds) is passed in. `step` runs one
callback, and `Legal` is what libuv promises about the callbacks it makes. -/

namespace AvdeccProxy

variable {M : Mcu}

/-- The responses the request event of a request sends. -/
def Mcu.responses (M : Mcu) (q : IncomingRequest) : List HttpResponse :=
  ((StateEventsWithWebServing.onIncomingHttpRequest M.toHttpLibrary M.site q.method q.request).get
    (M.siteDefined q)).2

namespace NetworkService

/-! ### libuv calls -/

/-- `uv_tcp_init` of the handler's `m_tcp`: the handle starts over, whatever it was. -/
def uvTcpInit (s : NetworkService M) (c : ClientPtr) : NetworkService M :=
  s.modifyClient c fun a =>
    { a with connections := .initialised a.connections.length :: a.connections }

/-- `uv_accept` into the handler's `m_tcp`, with its result. A success starts the history of a new
connection. -/
def uvAccept (s : NetworkService M) (c : ClientPtr) (result : Int) : NetworkService M :=
  let s := { s with waiting := false }
  if result = 0 then
    s.modifyClient c fun a =>
      { a.modifyCurrent fun k => { k with accepted := true } with notified := [] }
  else s

def uvReadStart (s : NetworkService M) (c : ClientPtr) : NetworkService M :=
  s.modifyClient c (·.modifyCurrent fun k => { k with reading := true })

/-- `uv_close` of the handler's `m_tcp`; libuv aborts when the handle is not open. -/
def uvClose (s : NetworkService M) (c : ClientPtr) (callback : Bool) : NetworkService M :=
  { s.modifyClient c (·.requestClose callback) with aborted := s.aborted || !s.isOpen c }

/-- A new `UvWriteContext` is given to `uv_write`. libuv takes the write, and owes its completion, only
when the handle is open; the code does not look at the result. -/
def uvWrite (s : NetworkService M) (c : ClientPtr) (data : List UInt8) (callback : WriteCallback)
    (accepted : Bool) : NetworkService M :=
  let context : UvWriteContext :=
    ⟨s.nextAddress, c, data, callback, s.currentNumber c, accepted && s.isOpen c⟩
  { s with
    heap := s.heap ++ [context]
    nextAddress := s.nextAddress + 1
    owed := if context.taken then s.owed ++ [context] else s.owed }

/-- `delete` of a context, its buffer and its `uv_write_t`. -/
def deleteContext (s : NetworkService M) (context : UvWriteContext) : NetworkService M :=
  { s with
    heap := s.heap.erase context
    deleted := s.deleted ++ [context.address] }

/-! ### Pool -/

/-- The first handler that is `client` moves to the back of the available list. -/
def removeApsClient (s : NetworkService M) (client : ClientPtr) : NetworkService M :=
  if client ∈ s.activeClientHandlers then
    { s with
      availableClientHandlers := s.availableClientHandlers ++ [client]
      activeClientHandlers := s.activeClientHandlers.erase client
      lives := s.lives ++ [s.notified client] }
  else s

end NetworkService

/-! ### Methods of `ApsClient` -/

namespace ApsClient

open NetworkService

def sendTcpData (s : NetworkService M) (self : ClientPtr) (data : List UInt8) (accepted : Bool) :
    NetworkService M :=
  s.uvWrite self data .onUvWrite accepted

def sendHttpResponse (s : NetworkService M) (self : ClientPtr) (response : HttpResponse)
    (accepted : Bool) : NetworkService M :=
  let s := { s with responded := s.responded ++ [(self, s.currentNumber self)] }
  s.uvWrite self (M.flatten response) .onUvWriteThenClose accepted

/-- The request event of the client's state machine: its response is sent through the client. -/
def onIncomingHttpRequest (s : NetworkService M) (self : ClientPtr) (q : IncomingRequest)
    (accepted : Bool) : NetworkService M :=
  (M.responses q).foldl (fun s response => sendHttpResponse s self response accepted) s

/-- The override has an empty body. -/
def closeTcpConnection (s : NetworkService M) (_self : ClientPtr) : NetworkService M := s

def call (s : NetworkService M) (self : ClientPtr) : Call → NetworkService M
  | .sendTcpData data accepted => sendTcpData s self data accepted
  | .onIncomingHttpRequest q accepted => onIncomingHttpRequest s self q accepted
  | .sendAvdeccToL2 _ => s
  | .closeTcpConnection => closeTcpConnection s self
  | .closeTcpServer => s

/-- A method of the state machine runs: its calls in order, then its effect on the members. -/
def perform (s : NetworkService M) (self : ClientPtr) (b : Behaviour M) : NetworkService M :=
  (b.calls.foldl (fun s request => call s self request) s).modifyClient self fun a =>
    { a with components := b.effect a.components }

/-- History: the state machine is told something. -/
def notify (s : NetworkService M) (self : ClientPtr) (n : Notification) : NetworkService M :=
  s.modifyClient self fun a => { a with notified := a.notified ++ [n] }

def run (s : NetworkService M) (self : ClientPtr) (b : Behaviour M) : NetworkService M :=
  perform s self b

def setup (s : NetworkService M) (self : ClientPtr) : NetworkService M :=
  (notify s self .setup).modifyClient self fun a => { a with components := M.setup a.components }

def onIncomingTcpConnection (s : NetworkService M) (self : ClientPtr) (b : Behaviour M) :
    NetworkService M :=
  perform (notify s self .onIncomingTcpConnection) self b

def onIncomingTcpData (s : NetworkService M) (self : ClientPtr) (returned : Int) (b : Behaviour M) :
    NetworkService M :=
  perform (notify s self (.onIncomingTcpData returned)) self b

def onTcpConnectionClosed (s : NetworkService M) (self : ClientPtr) (b : Behaviour M) :
    NetworkService M :=
  perform (notify s self .onTcpConnectionClosed) self b

/-- The behaviours of the state machine during `start`. -/
structure StartBehaviour (M : Mcu) where
  run : Behaviour M
  onIncomingTcpConnection : Behaviour M
  runAgain : Behaviour M

def start (s : NetworkService M) (self : ClientPtr) (b : StartBehaviour M) : NetworkService M :=
  let s := s.uvReadStart self
  let s := run s self b.run
  let s := onIncomingTcpConnection s self b.onIncomingTcpConnection
  run s self b.runAgain

def clear (s : NetworkService M) (self : ClientPtr) : NetworkService M :=
  s.modifyClient self (·.cleared)

def stop (s : NetworkService M) (self : ClientPtr) : NetworkService M :=
  (clear s self).removeApsClient self

/-- The behaviours of the state machine during a read callback. -/
structure ReadBehaviour (M : Mcu) where
  onIncomingTcpData : Behaviour M
  /-- What `onIncomingTcpData` returns. -/
  returned : Int
  onTcpConnectionClosed : Behaviour M
  run : Behaviour M

def ReadBehaviour.silent (M : Mcu) (returned : Int) : ReadBehaviour M :=
  ⟨.silent M, returned, .silent M, .silent M⟩

def onUvRead (s : NetworkService M) (self : ClientPtr) (nread : Int) (b : ReadBehaviour M) :
    NetworkService M :=
  if nread ≤ 0 then
    let s := onTcpConnectionClosed s self b.onTcpConnectionClosed
    let s := run s self b.run
    stop s self
  else
    let s := onIncomingTcpData s self b.returned b.onIncomingTcpData
    let s := if b.returned = 0 then onTcpConnectionClosed s self b.onTcpConnectionClosed else s
    run s self b.run

/-- Nothing runs after a call of `uv_close` that aborts. -/
def onUvWrite (s : NetworkService M) (context : UvWriteContext) (status : Int) (b : Behaviour M) :
    NetworkService M :=
  let self := context.apsclient
  let s := s.deleteContext context
  let s := if status < 0 then s.uvClose self true else s
  if s.aborted then s else run s self b

def onUvWriteThenClose (s : NetworkService M) (context : UvWriteContext) : NetworkService M :=
  let self := context.apsclient
  let s := s.deleteContext context
  s.uvClose self true

def onUvClose (s : NetworkService M) (self : ClientPtr) (b : Behaviour M) : NetworkService M :=
  let s := closeTcpConnection s self
  let s := run s self b
  stop s self

end ApsClient

/-! ### Methods of `NetworkService` -/

namespace NetworkService

open ApsClient

/-- The service with the handlers `0 … maxClients - 1`, all available. -/
def constructed (M : Mcu) (maxClients : Int) : NetworkService M where
  activeClientHandlers := []
  availableClientHandlers := List.range maxClients.toNat
  clients := fun _ => .constructed M
  tickTimerStopped := false
  tcpServerClosing := false
  waiting := false
  owed := []
  aborted := false
  destroyed := []
  heap := []
  nextAddress := 0
  deleted := []
  responded := []
  lives := []

/-- The behaviours of the state machine while a connection is taken. -/
structure AcceptBehaviour (M : Mcu) where
  start : StartBehaviour M
  run : Behaviour M

def AcceptBehaviour.silent (M : Mcu) : AcceptBehaviour M :=
  ⟨⟨.silent M, .silent M, .silent M⟩, .silent M⟩

/-- `onNewConnection` up to the call of `start`, when the accept has succeeded. -/
def acceptInto (s : NetworkService M) (aps : ClientPtr) : NetworkService M :=
  let s := s.uvTcpInit aps
  let s := s.uvAccept aps 0
  let s := { s with availableClientHandlers := s.availableClientHandlers.dropLast }
  setup s aps

/-- `result` is what `uv_accept` returns if it is called. -/
def onNewConnection (s : NetworkService M) (result : Int) (b : AcceptBehaviour M) :
    NetworkService M :=
  match s.availableClientHandlers.getLast? with
  | none => s
  | some aps =>
      if result = 0 then
        let s := s.acceptInto aps
        let s := start s aps b.start
        let s := { s with activeClientHandlers := s.activeClientHandlers ++ [aps] }
        run s aps b.run
      else
        let s := s.uvTcpInit aps
        let s := s.uvAccept aps result
        s.uvClose aps false

def listenHandler (s : NetworkService M) (status result : Int) (b : AcceptBehaviour M) :
    NetworkService M :=
  if status = 0 then s.onNewConnection result b else s

/-- A `shared_ptr` of the handler goes. If neither list holds the handler it was the last one, and the
handler is destroyed with its `m_tcp` as it is. -/
def dropReference (s : NetworkService M) (c : ClientPtr) : NetworkService M :=
  if c ∈ s.activeClientHandlers ∨ c ∈ s.availableClientHandlers then s
  else { s with destroyed := s.destroyed ++ [(c, s.connections c)] }

/-- `pop_back` of the active list: none on an empty vector. -/
def popActive (s : NetworkService M) : Option (NetworkService M) :=
  s.activeClientHandlers.getLast?.map fun popped =>
    ({ s with activeClientHandlers := s.activeClientHandlers.dropLast }).dropReference popped

/-- The body of the loop of `stop`, for the last active handler. -/
def stopLast (s : NetworkService M) (aps : ClientPtr) : Option (NetworkService M) :=
  let s := ApsClient.stop s aps
  let s := { s with availableClientHandlers := s.availableClientHandlers ++ [aps] }
  s.popActive

/-- The loop of `stop`, with the handlers it stops: none when `pop_back` is called on an empty vector. Each
iteration shortens the active list, so that its length is enough fuel. -/
def stopLoop : Nat → NetworkService M → Option (NetworkService M × List ClientPtr)
  | 0, s => some (s, [])
  | fuel + 1, s =>
      match s.activeClientHandlers.getLast? with
      | none => some (s, [])
      | some aps =>
          match s.stopLast aps with
          | none => none
          | some s => (stopLoop fuel s).map fun (s, stopped) => (s, aps :: stopped)

def stop (s : NetworkService M) : Option (NetworkService M × List ClientPtr) :=
  stopLoop s.activeClientHandlers.length { s with tickTimerStopped := true, tcpServerClosing := true }

/-- The behaviours of one state machine during a tick. -/
structure TickBehaviour (M : Mcu) where
  onTimeTick : Behaviour M
  run : Behaviour M

/-- What a tick calls on a handler. -/
inductive TickCall where
  | onTimeTick (client : ClientPtr) (timeInSeconds : UInt32)
  | run (client : ClientPtr)
  deriving DecidableEq, Repr

/-- The loop of `onTick` from the iterator's position on, with the calls it makes. The list is read anew
at every iteration. -/
def onTickFrom (b : ClientPtr → TickBehaviour M) (timeInSeconds : UInt32) :
    Nat → Nat → NetworkService M → NetworkService M × List TickCall
  | 0, _, s => (s, [])
  | fuel + 1, i, s =>
      match s.activeClientHandlers[i]? with
      | none => (s, [])
      | some c =>
          let s := perform s c (b c).onTimeTick
          let s := run s c (b c).run
          let (s, calls) := onTickFrom b timeInSeconds fuel (i + 1) s
          (s, .onTimeTick c timeInSeconds :: .run c :: calls)

/-- `timestamp` is the current time in microseconds. The raw networks are told the time as well, by a
method with an empty body. The header says that a tick polls the link status; the body has a TODO there. -/
def onTick (s : NetworkService M) (timestamp : Nat) (b : ClientPtr → TickBehaviour M) :
    NetworkService M × List TickCall :=
  onTickFrom b (UInt32.ofNat (timestamp / 1000000)) (s.activeClientHandlers.length + 1) 0 s

/-! ### Callbacks -/

/-- One callback of libuv. Writes are named by the address of their context, closes by the handler and
the number of the connection. `removeApsClient` is a direct call of the method. -/
inductive Event (M : Mcu) where
  | listen (status result : Int) (b : AcceptBehaviour M)
  | read (client : ClientPtr) (nread : Int) (b : ReadBehaviour M)
  | written (address : Nat) (status : Int) (b : Behaviour M)
  | closed (client : ClientPtr) (number : Nat) (b : Behaviour M)
  | tick (timestamp : Nat) (b : ClientPtr → TickBehaviour M)
  | removeApsClient (client : ClientPtr)

/-- libuv has closed the handle of the connection `number`. It finds a handle that was initialised anew not
to be closing, and aborts. -/
def uvClosed (s : NetworkService M) (c : ClientPtr) (number : Nat) : NetworkService M :=
  { s.modifyClient c (·.modifyNumber number fun k => { k with phase := .closed }) with
    aborted := s.aborted || s.reinitialised c number }

def writeCompleted (s : NetworkService M) (context : UvWriteContext) (status : Int)
    (b : Behaviour M) : NetworkService M :=
  let s := { s with owed := s.owed.erase context }
  match context.callback with
  | .onUvWrite => onUvWrite s context status b
  | .onUvWriteThenClose => onUvWriteThenClose s context

def closeCompleted (s : NetworkService M) (c : ClientPtr) (number : Nat) (b : Behaviour M) :
    NetworkService M :=
  if s.callsOnUvClose c number then onUvClose (s.uvClosed c number) c b else s.uvClosed c number

def step (s : NetworkService M) : Event M → NetworkService M
  | .listen status result b =>
      ({ s with waiting := s.waiting || decide (status = 0) }).listenHandler status result b
  | .read c nread b => onUvRead s c nread b
  | .written address status b =>
      match s.owed.find? (·.address == address) with
      | some context => s.writeCompleted context status b
      | none => s
  | .closed c number b => s.closeCompleted c number b
  | .tick timestamp b => (s.onTick timestamp b).1
  | .removeApsClient client => s.removeApsClient client

/-- What libuv promises. A connection is announced only when none is waiting. Read callbacks are made for
the current handle while it is open and read from. A write is completed once, with any status. A close
completes once, after all writes of its connection. There is no callback after an abort, and nobody calls
`removeApsClient` from outside. -/
def Legal (s : NetworkService M) : Event M → Prop
  | .listen status _ _ => s.aborted = false ∧ (status = 0 → s.waiting = false)
  | .read c _ _ => s.aborted = false ∧ s.isReadable c = true
  | .written address _ _ => s.aborted = false ∧ ∃ context ∈ s.owed, context.address = address
  | .closed c number _ =>
      s.aborted = false ∧ (∃ k ∈ s.connections c, k.number = number ∧ k.phase = .closing) ∧
        ∀ context ∈ s.owed, ¬ (context.apsclient = c ∧ context.connection = number)
  | .tick _ _ => s.aborted = false
  | .removeApsClient _ => False

instance decidableLegal (s : NetworkService M) : ∀ e, Decidable (Legal s e)
  | .listen _ _ _ => inferInstanceAs (Decidable (_ ∧ (_ → _)))
  | .read _ _ _ => inferInstanceAs (Decidable (_ ∧ _))
  | .written _ _ _ => inferInstanceAs (Decidable (_ ∧ _))
  | .closed _ _ _ => inferInstanceAs (Decidable (_ ∧ _ ∧ _))
  | .tick _ _ => inferInstanceAs (Decidable (_ = _))
  | .removeApsClient _ => .isFalse id

end NetworkService

/-- The proxy under libuv. -/
def service (M : Mcu) : Transition.Machine (NetworkService M) (NetworkService.Event M) where
  legal := NetworkService.Legal
  step := NetworkService.step

instance decidableLegalService (s : NetworkService M) (e : NetworkService.Event M) :
    Decidable ((service M).legal s e) :=
  NetworkService.decidableLegal s e

end AvdeccProxy
