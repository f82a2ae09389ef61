import AvdeccProxy.HttpRouting
import Mathlib.Logic.Function.Basic

/-! The state of the proxy: the two handler lists of `NetworkService`, its `ApsClient`s, and what libuv
holds for them. Handlers are pointers, here numbers. What libuv and the heap keep, and the history the
results speak about, stand beside the members of the source; each field says which it is. -/

namespace AvdeccProxy

/-- The types of `jdksavdecc-mcu` an `ApsClient` has members of. -/
structure McuTypes where
  ApsStateVariables : Type
  ApsStateActions : Type
  ApsStateEvents : Type
  ApsStates : Type
  HttpServerParserSimple : Type
  HttpServerRequest : Type

/-- The per-connection members of an `ApsClient`. -/
structure Components (T : McuTypes) where
  myVariables : T.ApsStateVariables
  myActions : T.ApsStateActions
  myEvents : T.ApsStateEvents
  myStates : T.ApsStates
  httpServerParser : T.HttpServerParserSimple
  httpServerRequest : T.HttpServerRequest

/-- What the proxy calls in `jdksavdecc-mcu` with a fixed effect, and the site it serves with it. The
methods of `ApsStateMachine` whose effect depends on the protocol are `Behaviour`s, chosen anew at every
call. -/
structure Mcu extends McuTypes, HttpLibrary where
  /-- The members as the constructor of `ApsClient` leaves them. -/
  constructed : Components toMcuTypes
  clearStates : ApsStates → ApsStates
  clearActions : ApsStateActions → ApsStateActions
  clearEvents : ApsStateEvents → ApsStateEvents
  setup : Components toMcuTypes → Components toMcuTypes
  /-- The files and the CGI handlers the service is constructed with. -/
  site : NetworkServiceHttp
  /-- No request asks a blob over a null vector pointer, or for octets behind a null pointer. -/
  siteDefined : ∀ q : IncomingRequest, (StateEventsWithWebServing.onIncomingHttpRequest toHttpLibrary
    site q.method q.request).isSome = true

/-- `clear()` brings a component back to its constructed value. -/
structure Mcu.ClearResets (M : Mcu) : Prop where
  states : ∀ states, M.clearStates states = M.constructed.myStates
  actions : ∀ actions, M.clearActions actions = M.constructed.myActions
  events : ∀ events, M.clearEvents events = M.constructed.myEvents

/-- Components that are counters, and a site of one page. -/
def Mcu.plain : Mcu where
  toMcuTypes := ⟨Nat, Nat, Nat, Nat, Nat, Nat⟩
  toHttpLibrary := .plain
  constructed := ⟨0, 0, 0, 0, 0, 0⟩
  clearStates := fun _ => 0
  clearActions := fun _ => 0
  clearEvents := fun _ => 0
  setup := id
  site := StateEventsWithWebServing.onePage
  siteDefined := fun q => StateEventsWithWebServing.onIncomingHttpRequest_isSome
    HttpLibrary.plain_documented StateEventsWithWebServing.onePage_hasContent q.method q.request

theorem Mcu.plain_clearResets : Mcu.plain.ClearResets :=
  ⟨fun _ => rfl, fun _ => rfl, fun _ => rfl⟩

abbrev ClientPtr := Nat

/-- A call of the state machine to a method that `ApsClient` overrides, or of its parser to the request
event of a request it has found. `accepted` is libuv's choice to take the write that is made when the
handle is open. -/
inductive Call where
  | sendTcpData (data : List UInt8) (accepted : Bool)
  | onIncomingHttpRequest (request : IncomingRequest) (accepted : Bool)
  | sendAvdeccToL2 (frame : List UInt8)
  | closeTcpConnection
  | closeTcpServer

/-- One call of an `ApsStateMachine` method: the calls it makes back, and what it does to the members. -/
structure Behaviour (M : Mcu) where
  calls : List Call
  effect : Components M.toMcuTypes → Components M.toMcuTypes

/-- A call that does nothing. -/
def Behaviour.silent (M : Mcu) : Behaviour M := ⟨[], id⟩

/-- What a state machine is told about its connection; data with the value the method returned. -/
inductive Notification where
  | setup
  | onIncomingTcpConnection
  | onIncomingTcpData (returned : Int)
  | onTcpConnectionClosed
  deriving DecidableEq, Repr

/-- A libuv handle from its initialisation on: active, `uv_close` requested, close completed. -/
inductive HandlePhase where
  | opened
  | closing
  | closed
  deriving DecidableEq, Repr

/-- One `uv_tcp_init` of a handler's `m_tcp`, and the life of the handle until the next. -/
structure Connection where
  number : Nat
  phase : HandlePhase
  /-- `uv_accept` into the handle succeeded. -/
  accepted : Bool
  /-- `uv_read_start` was called. -/
  reading : Bool
  /-- The close was requested with `onUvClose` as its callback, and not with 0. -/
  closeCallback : Bool
  /-- History: the calls of `uv_close`. -/
  closeCalls : Nat
  deriving DecidableEq, Repr

structure ApsClient (M : Mcu) where
  components : Components M.toMcuTypes
  /-- The connections hosted by `m_tcp`, the latest first; none while it was never initialised. -/
  connections : List Connection
  /-- History: what the state machine was told since the last `uv_accept` that succeeded. -/
  notified : List Notification

inductive WriteCallback where
  | onUvWrite
  | onUvWriteThenClose
  deriving DecidableEq, Repr

/-- A `UvWriteContext` with its buffer and its `uv_write_t`, which live and die together. -/
structure UvWriteContext where
  address : Nat
  apsclient : ClientPtr
  data : List UInt8
  callback : WriteCallback
  /-- History: the connection of the handler the write was made on. -/
  connection : Nat
  /-- History: libuv took the write. -/
  taken : Bool
  deriving DecidableEq, Repr

structure NetworkService (M : Mcu) where
  activeClientHandlers : List ClientPtr
  availableClientHandlers : List ClientPtr
  clients : ClientPtr → ApsClient M
  tickTimerStopped : Bool
  tcpServerClosing : Bool
  /-- libuv: a connection is announced and `uv_accept` was not called for it yet. -/
  waiting : Bool
  /-- libuv: the accepted writes whose completion is owed. -/
  owed : List UvWriteContext
  /-- libuv: an assertion failed and the process is gone. -/
  aborted : Bool
  /-- History: the handlers whose last `shared_ptr` went, with the connections `m_tcp` had hosted then. What
  the state says of such a handler is of memory that was freed. -/
  destroyed : List (ClientPtr × List Connection)
  /-- The contexts allocated and not deleted. -/
  heap : List UvWriteContext
  nextAddress : Nat
  /-- History: the addresses deleted. -/
  deleted : List Nat
  /-- History: the connections an HTTP response was passed to `uv_write` on. -/
  responded : List (ClientPtr × Nat)
  /-- History: for each release of a handler, what its state machine was told of the connection. -/
  lives : List (List Notification)

/-! ### One handle -/

namespace Connection

/-- A handle as `uv_tcp_init` leaves it. -/
def initialised (number : Nat) : Connection where
  number := number
  phase := .opened
  accepted := false
  reading := false
  closeCallback := false
  closeCalls := 0

/-- What a call of `uv_close` makes of the connection the handle hosts. -/
def closeRequested (callback : Bool) (k : Connection) : Connection :=
  if k.phase = .opened then
    { k with phase := .closing, closeCallback := callback, closeCalls := k.closeCalls + 1 }
  else { k with closeCalls := k.closeCalls + 1 }

/-- The handle is open. -/
def isOpen : List Connection → Bool
  | k :: _ => k.phase == .opened
  | [] => false

/-- The handle is read from: libuv may call `onUvRead` for it. -/
def isReadable : List Connection → Bool
  | k :: _ => k.phase == .opened && k.accepted && k.reading
  | [] => false

/-- The number of the connection the handle hosts now. -/
def currentNumber : List Connection → Nat
  | k :: _ => k.number
  | [] => 0

/-- The handle was initialised anew while the close of the connection `number` was on its way. -/
def reinitialised (connections : List Connection) (number : Nat) : Bool :=
  connections.tail.any fun k => k.number == number && k.phase == .closing

/-- The close of the connection `number` calls `onUvClose`; a repeated or stray callback does too. -/
def callsOnUvClose (connections : List Connection) (number : Nat) : Bool :=
  !reinitialised connections number &&
    match connections.find? (·.number == number) with
    | some k => k.closeCallback
    | none => true

end Connection

/-! ### One handler -/

namespace ApsClient

variable {M : Mcu}

def constructed (M : Mcu) : ApsClient M := ⟨M.constructed, [], []⟩

def modifyCurrent (a : ApsClient M) (f : Connection → Connection) : ApsClient M :=
  { a with connections := a.connections.modifyHead f }

def modifyNumber (a : ApsClient M) (number : Nat) (f : Connection → Connection) : ApsClient M :=
  { a with connections := a.connections.map fun k => if k.number = number then f k else k }

/-- `uv_close` of `m_tcp`. -/
def requestClose (a : ApsClient M) (callback : Bool) : ApsClient M :=
  a.modifyCurrent (.closeRequested callback)

/-- The members after the three calls of `clear()`. -/
def cleared (a : ApsClient M) : ApsClient M :=
  { a with components := { a.components with
    myStates := M.clearStates a.components.myStates
    myActions := M.clearActions a.components.myActions
    myEvents := M.clearEvents a.components.myEvents } }

end ApsClient

namespace NetworkService

variable {M : Mcu}

def connections (s : NetworkService M) (c : ClientPtr) : List Connection := (s.clients c).connections

def components (s : NetworkService M) (c : ClientPtr) : Components M.toMcuTypes :=
  (s.clients c).components

def notified (s : NetworkService M) (c : ClientPtr) : List Notification := (s.clients c).notified

def isOpen (s : NetworkService M) (c : ClientPtr) : Bool := Connection.isOpen (s.connections c)

def isReadable (s : NetworkService M) (c : ClientPtr) : Bool := Connection.isReadable (s.connections c)

def currentNumber (s : NetworkService M) (c : ClientPtr) : Nat :=
  Connection.currentNumber (s.connections c)

def reinitialised (s : NetworkService M) (c : ClientPtr) (number : Nat) : Bool :=
  Connection.reinitialised (s.connections c) number

def callsOnUvClose (s : NetworkService M) (c : ClientPtr) (number : Nat) : Bool :=
  Connection.callsOnUvClose (s.connections c) number

section handle

variable {s : NetworkService M} {c : ClientPtr}

theorem isOpen_iff :
    s.isOpen c = true ↔ ∃ k, (s.connections c).head? = some k ∧ k.phase = .opened := by
  unfold isOpen
  cases s.connections c with
  | nil => simp [Connection.isOpen]
  | cons k earlier => simp [Connection.isOpen]

theorem isReadable_iff :
    s.isReadable c = true ↔ ∃ k, (s.connections c).head? = some k ∧
      k.phase = .opened ∧ k.accepted = true ∧ k.reading = true := by
  unfold isReadable
  cases s.connections c with
  | nil => simp [Connection.isReadable]
  | cons k earlier => simp [Connection.isReadable, and_assoc]

theorem isOpen_of_isReadable (h : s.isReadable c = true) : s.isOpen c = true := by
  obtain ⟨k, hhead, hphase, -⟩ := isReadable_iff.mp h
  exact isOpen_iff.mpr ⟨k, hhead, hphase⟩

theorem currentNumber_of_head {k : Connection} {earlier : List Connection}
    (hconnections : s.connections c = k :: earlier) : s.currentNumber c = k.number := by
  unfold currentNumber
  rw [hconnections]
  rfl

theorem reinitialised_iff {number : Nat} : s.reinitialised c number = true ↔
    ∃ k ∈ (s.connections c).tail, k.number = number ∧ k.phase = .closing := by
  simp [reinitialised, Connection.reinitialised]

/-- The close of a handle that was initialised anew calls nothing any more. -/
theorem callsOnUvClose_of_reinitialised {number : Nat} (h : s.reinitialised c number = true) :
    s.callsOnUvClose c number = false := by
  have hconnections : Connection.reinitialised (s.connections c) number = true := h
  rw [callsOnUvClose, Connection.callsOnUvClose, hconnections, Bool.not_true, Bool.false_and]

theorem not_reinitialised {number : Nat} (h : s.callsOnUvClose c number = true) :
    s.reinitialised c number = false :=
  Bool.eq_false_iff.mpr fun hagain => by
    rw [callsOnUvClose_of_reinitialised hagain] at h
    cases h

end handle

def modifyClient (s : NetworkService M) (c : ClientPtr) (f : ApsClient M → ApsClient M) :
    NetworkService M :=
  { s with clients := Function.update s.clients c (f (s.clients c)) }

section modifyClient

variable (s : NetworkService M) (c : ClientPtr) (f : ApsClient M → ApsClient M)

@[simp] theorem connections_modifyClient_self :
    (s.modifyClient c f).connections c = (f (s.clients c)).connections := by
  simp only [connections, modifyClient, Function.update_self]

theorem connections_modifyClient_of_ne {d : ClientPtr} (h : d ≠ c) :
    (s.modifyClient c f).connections d = s.connections d := by
  simp only [connections, modifyClient, Function.update_of_ne h]

@[simp] theorem components_modifyClient_self :
    (s.modifyClient c f).components c = (f (s.clients c)).components := by
  simp only [components, modifyClient, Function.update_self]

theorem components_modifyClient_of_ne {d : ClientPtr} (h : d ≠ c) :
    (s.modifyClient c f).components d = s.components d := by
  simp only [components, modifyClient, Function.update_of_ne h]

@[simp] theorem notified_modifyClient_self :
    (s.modifyClient c f).notified c = (f (s.clients c)).notified := by
  simp only [notified, modifyClient, Function.update_self]

theorem notified_modifyClient_of_ne {d : ClientPtr} (h : d ≠ c) :
    (s.modifyClient c f).notified d = s.notified d := by
  simp only [notified, modifyClient, Function.update_of_ne h]

/-- A change that leaves the connections of the handler alone leaves all connections alone. -/
theorem connections_modifyClient_same
    (h : (f (s.clients c)).connections = (s.clients c).connections) (d : ClientPtr) :
    (s.modifyClient c f).connections d = s.connections d := by
  by_cases hd : d = c
  · subst hd
    rw [connections_modifyClient_self, h]
    rfl
  · exact connections_modifyClient_of_ne s c f hd

theorem notified_modifyClient_same
    (h : (f (s.clients c)).notified = (s.clients c).notified) (d : ClientPtr) :
    (s.modifyClient c f).notified d = s.notified d := by
  by_cases hd : d = c
  · subst hd
    rw [notified_modifyClient_self, h]
    rfl
  · exact notified_modifyClient_of_ne s c f hd

theorem components_modifyClient_same
    (h : (f (s.clients c)).components = (s.clients c).components) (d : ClientPtr) :
    (s.modifyClient c f).components d = s.components d := by
  by_cases hd : d = c
  · subst hd
    rw [components_modifyClient_self, h]
    rfl
  · exact components_modifyClient_of_ne s c f hd

end modifyClient

end NetworkService

end AvdeccProxy
