import AvdeccProxy.ServiceModel
import AvdeccProxy.TransitionViews

/-! A handler on its own. All that happens to a handler is an event of the seven kinds below; what it does
on one of them depends on its own members and connections and on nothing else. The service is shown
elsewhere to be such handlers side by side. -/

namespace AvdeccProxy

variable {M : Mcu}

open Connection

/-- A write given to libuv, and whether libuv took it. -/
structure Write where
  data : List UInt8
  callback : WriteCallback
  connection : Nat
  taken : Bool
  deriving DecidableEq, Repr

/-- A context without where it lies and whose it is. -/
def UvWriteContext.write (x : UvWriteContext) : Write := ⟨x.data, x.callback, x.connection, x.taken⟩

/-- The writes a call makes on the handle that hosts the connections. -/
def Call.writes (M : Mcu) (connections : List Connection) : Call → List Write
  | .sendTcpData data accepted =>
      [⟨data, .onUvWrite, currentNumber connections, accepted && isOpen connections⟩]
  | .onIncomingHttpRequest q accepted => (M.responses q).map fun response =>
      ⟨M.flatten response, .onUvWriteThenClose, currentNumber connections,
        accepted && isOpen connections⟩
  | .sendAvdeccToL2 _ => []
  | .closeTcpConnection => []
  | .closeTcpServer => []

def Behaviour.writes (b : Behaviour M) (connections : List Connection) : List Write :=
  b.calls.flatMap (Call.writes M connections)

/-- What happens to a handler. -/
inductive ClientEvent (M : Mcu) where
  /-- `uv_accept` into the handler succeeds. -/
  | taken (b : NetworkService.AcceptBehaviour M)
  /-- `uv_accept` into the handler fails. -/
  | refused
  | read (nread : Int) (b : ApsClient.ReadBehaviour M)
  /-- A write of `sendTcpData` completes. -/
  | wrote (status : Int) (b : Behaviour M)
  /-- A write of `sendHttpResponse` completes. -/
  | responded
  | closed (number : Nat) (b : Behaviour M)
  | ticked (b : NetworkService.TickBehaviour M)

namespace ApsClient

def told (a : ApsClient M) (notifications : List Notification) : ApsClient M :=
  { a with notified := a.notified ++ notifications }

/-- The state machine's methods run one after another. -/
def performed (a : ApsClient M) (behaviours : List (Behaviour M)) : ApsClient M :=
  { a with components := behaviours.foldl (fun components b => b.effect components) a.components }

end ApsClient

namespace ClientEvent

/-- What the event does to the handler before, and apart from, calls of its state machine. -/
def change : ClientEvent M → ApsClient M → ApsClient M
  | taken _, a =>
      { components := M.setup a.components
        connections := ⟨a.connections.length, .opened, true, true, false, 0⟩ :: a.connections
        notified := [.setup, .onIncomingTcpConnection] }
  | refused, a =>
      { a with connections := ⟨a.connections.length, .closing, false, false, false, 1⟩ :: a.connections }
  | read nread b, a =>
      if nread ≤ 0 then a.told [.onTcpConnectionClosed]
      else if b.returned = 0 then a.told [.onIncomingTcpData 0, .onTcpConnectionClosed]
      else a.told [.onIncomingTcpData b.returned]
  | wrote status _, a => if status < 0 then a.requestClose true else a
  | responded, a => a.requestClose true
  | closed number _, a => a.modifyNumber number fun k => { k with phase := .closed }
  | ticked _, a => a

/-- The methods of the state machine the event calls. A write whose failure is found on a handle that is
not open aborts the process, and calls none. -/
def behaviours : ClientEvent M → ApsClient M → List (Behaviour M)
  | taken b, _ => [b.start.run, b.start.onIncomingTcpConnection, b.start.runAgain, b.run]
  | refused, _ => []
  | read nread b, _ =>
      if nread ≤ 0 then [b.onTcpConnectionClosed, b.run]
      else if b.returned = 0 then [b.onIncomingTcpData, b.onTcpConnectionClosed, b.run]
      else [b.onIncomingTcpData, b.run]
  | wrote status b, a => if status < 0 ∧ isOpen a.connections = false then [] else [b]
  | responded, _ => []
  | closed number b, a => if callsOnUvClose a.connections number then [b] else []
  | ticked b, _ => [b.onTimeTick, b.run]

/-- The event ends in the handler's `stop`. -/
def stops : ClientEvent M → ApsClient M → Bool
  | read nread _, _ => decide (nread ≤ 0)
  | closed number _, a => callsOnUvClose a.connections number
  | _, _ => false

/-- The handler after the event. -/
def after (e : ClientEvent M) (a : ApsClient M) : ApsClient M :=
  let called := (e.change a).performed (e.behaviours a)
  if e.stops a then called.cleared else called

/-- The writes the event makes, in order. -/
def writes (e : ClientEvent M) (a : ApsClient M) : List Write :=
  (e.behaviours a).flatMap (·.writes (e.change a).connections)

end ClientEvent

/-- A handler on its own. -/
def ApsClient.alone (M : Mcu) : Transition.Component (ApsClient M) (ClientEvent M) Write where
  react a e := (e.after a, e.writes a)

namespace NetworkService

/-- What an event of the service holds for the handler `c`. -/
def clientEvents (s : NetworkService M) (c : ClientPtr) : Event M → List (ClientEvent M)
  | .listen status result b =>
      if status = 0 ∧ s.availableClientHandlers.getLast? = some c then
        if result = 0 then [.taken b] else [.refused]
      else []
  | .read client nread b => if client = c then [.read nread b] else []
  | .written address status b =>
      match s.owed.find? (·.address == address) with
      | some x =>
          if x.apsclient = c then
            match x.callback with
            | .onUvWrite => [.wrote status b]
            | .onUvWriteThenClose => [.responded]
          else []
      | none => []
  | .closed client number b => if client = c then [.closed number b] else []
  | .tick _ b => if c ∈ s.activeClientHandlers then [.ticked (b c)] else []
  | .removeApsClient _ => []

/-- The writes of the handler `c` whose contexts lie from the address `first` on. -/
def writesFrom (s : NetworkService M) (first : Nat) (c : ClientPtr) : List Write :=
  (s.heap.filter fun x => decide (first ≤ x.address) && x.apsclient == c).map UvWriteContext.write

/-- The handler `c` as a part of the service. Its outputs are the contexts a callback makes for it. -/
def handler (M : Mcu) (c : ClientPtr) : Transition.View (service M) (ApsClient.alone M) where
  state s := s.clients c
  inputs s e := s.clientEvents c e
  outputs s e := (s.step e).writesFrom s.nextAddress c

end NetworkService

end AvdeccProxy
