import AvdeccProxy.InterruptedCallbacks
import AvdeccProxy.HttpSite
import AvdeccProxy.TransitionViews

/-! From `main` to its end. The controller loads the site and starts the service; then the loop runs one
round of callbacks after another for as long as libuv has something to wait for. It always has: no
callback stops the tick timer or closes the server. So the service is stopped for an exception, and for
nothing else, unless libuv has killed the process before; and the destructor that stops it does not return
when the exception has left an odd number of clients. -/

namespace AvdeccProxy

open NetworkService

variable {M : Mcu}

structure Settings where
  listenHost : String
  listenPort : Int
  maxClients : Int

/-- What the start of the service uses of libuv. What a bind or a listen returns may depend on the addresses
the server's handle was to be bound to before. -/
structure UvNetwork where
  SockAddr : Type
  uvIp6Addr : String → Int → Int × SockAddr
  uvIp4Addr : String → Int → Int × SockAddr
  uvTcpBind : List SockAddr → SockAddr → Int
  uvListen : List SockAddr → (backlog : Int) → Int
  uvErrName : Int → String

/-- `uv_timer_start`, in milliseconds. -/
structure TickTimer where
  timeout : Nat
  interval : Nat
  deriving DecidableEq, Repr

/-! ### Starting -/

section start

variable (L : HttpLibrary) (uv : UvNetwork) (settings : Settings)

/-- The attempt with IPv6, and the addresses tried so far. -/
def UvNetwork.bindIp6 : Int × List uv.SockAddr :=
  let (r, addr) := uv.uvIp6Addr settings.listenHost settings.listenPort
  if r = 0 then (uv.uvTcpBind [] addr, [addr]) else (r, [])

def UvNetwork.bindIp4 (tried : List uv.SockAddr) : Int × List uv.SockAddr :=
  let (r, addr) := uv.uvIp4Addr settings.listenHost settings.listenPort
  if r = 0 then (uv.uvTcpBind tried addr, tried ++ [addr]) else (r, tried)

/-- The text of the exception. -/
def startError (r : Int) : String :=
  L.formstring ["NetworkService::startService() error listening to: ", settings.listenHost, ":",
    toString settings.listenPort, " : ", uv.uvErrName r]

/-- `start`, which calls itself `startService` when it throws. -/
def NetworkService.startService : Except String TickTimer :=
  let (r, tried) := uv.bindIp6 settings
  let (r, tried) := if r ≠ 0 then uv.bindIp4 settings tried else (r, tried)
  let r := if r = 0 then uv.uvListen tried 128 else r
  if r ≠ 0 then .error (startError L uv settings r) else .ok ⟨0, 250⟩

variable {L uv settings}

/-- What became of the server's handle: bound by IPv6, or by IPv4 after that has failed, or to nothing. -/
def UvNetwork.bind (uv : UvNetwork) (settings : Settings) : Int × List uv.SockAddr :=
  if (uv.bindIp6 settings).1 = 0 then uv.bindIp6 settings
  else uv.bindIp4 settings (uv.bindIp6 settings).2

theorem start_eq : NetworkService.startService L uv settings =
    if (uv.bind settings).1 ≠ 0 then .error (startError L uv settings (uv.bind settings).1)
    else if uv.uvListen (uv.bind settings).2 128 ≠ 0 then
      .error (startError L uv settings (uv.uvListen (uv.bind settings).2 128))
    else .ok ⟨0, 250⟩ := by
  unfold NetworkService.startService UvNetwork.bind
  by_cases h6 : (uv.bindIp6 settings).1 = 0
  · simp [h6]
  · by_cases h4 : (uv.bindIp4 settings (uv.bindIp6 settings).2).1 = 0
    · simp [h6, h4]
    · simp [h6, h4]

/-- The server's handle could be bound, and listens. -/
def UvNetwork.Listens (uv : UvNetwork) (settings : Settings) : Prop :=
  (uv.bind settings).1 = 0 ∧ uv.uvListen (uv.bind settings).2 128 = 0

theorem start_ok (h : uv.Listens settings) : NetworkService.startService L uv settings = .ok ⟨0, 250⟩ := by
  rw [start_eq, if_neg (not_not.mpr h.1), if_neg (not_not.mpr h.2)]

/-- Why the service does not start. What kept IPv6 from being bound is not told. -/
theorem start_error (h : ¬ uv.Listens settings) : ∃ r, r ≠ 0 ∧
    NetworkService.startService L uv settings = .error (startError L uv settings r) ∧
      ((uv.bindIp6 settings).1 ≠ 0 ∧ r = (uv.bindIp4 settings (uv.bindIp6 settings).2).1 ∨
        (uv.bind settings).1 = 0 ∧ r = uv.uvListen (uv.bind settings).2 128) := by
  rw [start_eq]
  by_cases hbind : (uv.bind settings).1 = 0
  · have hlisten : uv.uvListen (uv.bind settings).2 128 ≠ 0 := fun hlisten => h ⟨hbind, hlisten⟩
    rw [if_neg (not_not.mpr hbind), if_pos hlisten]
    exact ⟨_, hlisten, rfl, Or.inr ⟨hbind, rfl⟩⟩
  · rw [if_pos hbind]
    unfold UvNetwork.bind at hbind ⊢
    by_cases h6 : (uv.bindIp6 settings).1 = 0
    · rw [if_pos h6] at hbind
      exact absurd h6 hbind
    · rw [if_neg h6] at hbind ⊢
      exact ⟨_, hbind, rfl, Or.inl ⟨h6, rfl⟩⟩

end start

/-! ### Callbacks do not stop the service -/

namespace NetworkService

open ApsClient

variable {s t u : NetworkService M} {e : Event M}

/-- The tick timer and the server are in `t` as in `s`, and a dead process has not come alive. -/
structure StillServing (s t : NetworkService M) : Prop where
  timer : t.tickTimerStopped = s.tickTimerStopped
  server : t.tcpServerClosing = s.tcpServerClosing
  dead : s.aborted = true → t.aborted = true

namespace StillServing

theorem refl (s : NetworkService M) : StillServing s s := ⟨rfl, rfl, id⟩

theorem trans (h : StillServing s t) (h' : StillServing t u) : StillServing s u :=
  ⟨h'.timer.trans h.timer, h'.server.trans h.server, fun hdead => h'.dead (h.dead hdead)⟩

theorem removeApsClient (h : StillServing s t) (c : ClientPtr) :
    StillServing s (t.removeApsClient c) := by
  rw [removeApsClient_frame]
  exact ⟨h.timer, h.server, h.dead⟩

theorem uvClose (h : StillServing s t) (c : ClientPtr) (callback : Bool) :
    StillServing s (t.uvClose c callback) where
  timer := h.timer
  server := h.server
  dead := fun hdead => by
    rw [uvClose_aborted, h.dead hdead, Bool.true_or]

theorem uvClosed (s : NetworkService M) (c : ClientPtr) (number : Nat) :
    StillServing s (s.uvClosed c number) where
  timer := rfl
  server := rfl
  dead := fun hdead => by
    show (s.aborted || s.reinitialised c number) = true
    rw [hdead, Bool.true_or]

theorem outline (hu : Outline s e u) : StillServing s u := by
  have hnotify : ∀ (v : NetworkService M) c n, StillServing v (notify v c n) := fun _ _ _ =>
    ⟨rfl, rfl, id⟩
  cases hu with
  | listenFailed hstatus => exact refl s
  | exhausted hnone => exact ⟨rfl, rfl, id⟩
  | taken hlast => exact ⟨rfl, rfl, id⟩
  | @refused result b aps hlast hresult =>
      rw [refused_eq s aps hresult]
      exact uvClose (s := s) (t := { s.uvTcpInit aps with waiting := false }) ⟨rfl, rfl, id⟩ aps false
  | ended hnread => exact (hnotify s _ _).removeApsClient _
  | data hnread hreturned => exact hnotify s _ _
  | dataRefused hnread hreturned => exact (hnotify s _ _).trans (hnotify _ _ _)
  | wrote hfind hcallback hstatus => exact ⟨rfl, rfl, id⟩
  | @wroteThenClosed address status b x hfind hcloses =>
      exact uvClose (s := s) (t := s.completed x) ⟨rfl, rfl, id⟩ _ true
  | strayWritten hfind => exact refl s
  | closedOnly hcallback => exact uvClosed s _ _
  | closed hcallback => exact (uvClosed s _ _).removeApsClient _
  | ticked => exact refl s
  | removed => exact (refl s).removeApsClient _

theorem step (s : NetworkService M) (e : Event M) : StillServing s (s.step e) := by
  obtain ⟨u, hu, hsends⟩ := step_outline s e
  exact (outline hu).trans ⟨hsends.tickTimer, hsends.tcpServer, hsends.aborted.trans⟩

theorem run (s : NetworkService M) (events : List (Event M)) :
    StillServing s ((service M).run s events) := by
  induction events generalizing s with
  | nil => exact refl s
  | cons e events ih => exact (step s e).trans (ih (s.step e))

end StillServing

end NetworkService

/-! ### The controller and its loop -/

/-- What a callback can be left by. -/
inductive Exception where
  | runtimeError (what : String)
  | logicError (what : String)
  | exception (what : String)
  /-- Not a `std::exception`. -/
  | other
  deriving DecidableEq, Repr

/-- What is logged where the exception is caught. -/
def Exception.log : Exception → List String
  | runtimeError what => ["exception: runtime_error caught: ", what]
  | logicError what => ["exception: logic_error caught: ", what]
  | exception what => ["exception caught: ", what]
  | other => ["unknown exception caught"]

/-- An exception leaves a callback behind in one of the states it can. -/
structure Interruption (M : Mcu) where
  exception : Exception
  event : Event M
  position : Nat

/-- The state behind the exception; none when there is no such. -/
def Interruption.state (x : Interruption M) (s : NetworkService M) : Option (NetworkService M) :=
  (s.exceptionStates x.event)[x.position]?

/-- What `uv_run` with `UV_RUN_ONCE` does: some callbacks, and perhaps one more that is left by an
exception. -/
structure Round (M : Mcu) where
  events : List (Event M)
  thrown : Option (Interruption M)

structure ServiceController (M : Mcu) where
  serverContent : HttpServerFiles
  service : NetworkService M

/-- How `run` ends: it returns, an exception goes through it, or libuv has aborted. -/
inductive RunResult where
  | returned (again : Bool) (log : List String)
  | thrown (e : Exception)
  | killed
  deriving DecidableEq, Repr

/-- How far `main` has come. -/
inductive Outcome (M : Mcu) where
  | running (controller : ServiceController M)
  /-- The loop was left, and the destructor of the controller has stopped the service. -/
  | returned (log : List String) (service : NetworkService M) (stopped : List ClientPtr)
  /-- The destructor has called `pop_back` on an empty vector. -/
  | crashed (log : List String)
  /-- libuv has aborted. -/
  | killed
  /-- An exception has left `main`. -/
  | terminated (log : List String) (e : Exception)

namespace ServiceController

/-- The constructor; an exception of `start` goes through it, and no destructor runs. -/
def constructed (M : Mcu) (data : HttpServerContentData) (uv : UvNetwork) (settings : Settings) :
    Except String (ServiceController M) := do
  let serverContent := HttpServerContent.load data fun _ => none
  let service := NetworkService.constructed M settings.maxClients
  let _ ← startService M.toHttpLibrary uv settings
  return ⟨serverContent, service⟩

/-- `run`, with what it logs. `alive` is `uv_loop_alive`. -/
def run (alive : NetworkService M → Bool) (controller : ServiceController M) (round : Round M) :
    ServiceController M × RunResult :=
  let s := (AvdeccProxy.service M).run controller.service round.events
  if s.aborted then ({ controller with service := s }, .killed)
  else
    match round.thrown.bind fun x => (x.state s).map (x.exception, ·) with
    | none => ({ controller with service := s }, .returned (alive s) [])
    | some (.other, torn) => ({ controller with service := torn }, .thrown .other)
    | some (e, torn) => ({ controller with service := torn }, .returned false e.log)

/-- The destructor. -/
def destroy (controller : ServiceController M) (log : List String) : Outcome M :=
  match controller.service.stop with
  | some (s, stopped) => .returned log s stopped
  | none => .crashed log

end ServiceController

/-- The loop of `main`, as far as the rounds go. -/
def mainLoop (alive : NetworkService M → Bool) (controller : ServiceController M) :
    List (Round M) → Outcome M
  | [] => .running controller
  | round :: rounds =>
      match controller.run alive round with
      | (controller, .returned true _) => mainLoop alive controller rounds
      | (controller, .returned false log) => controller.destroy log
      | (_, .thrown e) => .terminated e.log e
      | (_, .killed) => .killed

/-- `main` behind the parsing of its options. The controller is constructed outside of its `try`. -/
def main (data : HttpServerContentData) (uv : UvNetwork) (settings : Settings)
    (alive : NetworkService M → Bool) (rounds : List (Round M)) : Outcome M :=
  match ServiceController.constructed M data uv settings with
  | .error message => .terminated [] (.runtimeError message)
  | .ok controller => mainLoop alive controller rounds

/-- A running timer keeps the loop alive. -/
def TimerKeepsAlive (alive : NetworkService M → Bool) : Prop :=
  ∀ s, s.tickTimerStopped = false → alive s = true

/-- How an exception ends `main`, by what it leaves behind. -/
inductive EndsBy (e : Exception) (torn : NetworkService M) : Outcome M → Prop where
  | foreign (he : e = .other) : EndsBy e torn (.terminated e.log e)
  | crashed (he : e ≠ .other) (hodd : Odd torn.activeClientHandlers.length) :
      EndsBy e torn (.crashed e.log)
  | returned (he : e ≠ .other) (heven : Even torn.activeClientHandlers.length) {s stopped}
      (hstop : torn.stop = some (s, stopped)) : EndsBy e torn (.returned e.log s stopped)

section main

variable {alive : NetworkService M → Bool} {controller : ServiceController M} {maxClients : Int}

/-- A round without an exception that the process survives. -/
theorem run_calm (halive : TimerKeepsAlive alive)
    (hticking : controller.service.tickTimerStopped = false) {round : Round M}
    (hround : round.thrown = none)
    (hlive : ((service M).run controller.service round.events).aborted = false) :
    controller.run alive round = (⟨controller.serverContent,
      (service M).run controller.service round.events⟩, .returned true []) := by
  have hstill := (StillServing.run controller.service round.events).timer.trans hticking
  simp only [ServiceController.run, hlive, hround, Option.bind_none, halive _ hstill]
  rfl

theorem run_killed {round : Round M}
    (hdead : ((service M).run controller.service round.events).aborted = true) :
    (controller.run alive round).2 = .killed := by
  simp only [ServiceController.run, hdead, if_true]

/-- Rounds without an exception are gone through, as long as the process is alive. -/
theorem mainLoop_calm (halive : TimerKeepsAlive alive)
    (hticking : controller.service.tickTimerStopped = false) (calm rounds : List (Round M))
    (hcalm : ∀ round ∈ calm, round.thrown = none)
    (hlive : ((service M).run controller.service (calm.flatMap (·.events))).aborted = false) :
    mainLoop alive controller (calm ++ rounds) =
      mainLoop alive ⟨controller.serverContent,
        (service M).run controller.service (calm.flatMap (·.events))⟩ rounds := by
  induction calm generalizing controller with
  | nil => rfl
  | cons round calm ih =>
      rw [List.flatMap_cons, Transition.Machine.run_append] at hlive ⊢
      have hstill := StillServing.run controller.service round.events
      have hlive' : ((service M).run controller.service round.events).aborted = false := by
        by_contra hdead
        have hlater := (StillServing.run _ (calm.flatMap (·.events))).dead (eq_true_of_ne_false hdead)
        rw [hlive] at hlater
        cases hlater
      rw [List.cons_append, mainLoop,
        run_calm halive hticking (hcalm round List.mem_cons_self) hlive']
      exact ih (hstill.timer.trans hticking) (fun round hmem => hcalm round (List.mem_cons_of_mem _ hmem))
        hlive

/-- When libuv aborts the process is gone. -/
theorem mainLoop_killed (halive : TimerKeepsAlive alive)
    (hticking : controller.service.tickTimerStopped = false)
    (hlive : controller.service.aborted = false) (calm rounds : List (Round M))
    (hcalm : ∀ round ∈ calm, round.thrown = none)
    (hdead : ((service M).run controller.service (calm.flatMap (·.events))).aborted = true) :
    mainLoop alive controller (calm ++ rounds) = .killed := by
  induction calm generalizing controller with
  | nil =>
      rw [show (service M).run controller.service _ = controller.service from rfl, hlive] at hdead
      cases hdead
  | cons round calm ih =>
      rw [List.flatMap_cons, Transition.Machine.run_append] at hdead
      rw [List.cons_append, mainLoop]
      cases hfirst : ((service M).run controller.service round.events).aborted with
      | true =>
          have hkilled : (controller.run alive round).2 = .killed := run_killed hfirst
          generalize controller.run alive round = result at hkilled
          obtain ⟨controller', result⟩ := result
          cases hkilled
          rfl
      | false =>
          rw [run_calm halive hticking (hcalm round List.mem_cons_self) hfirst]
          exact ih ((StillServing.run _ _).timer.trans hticking) hfirst
            (fun round hmem => hcalm round (List.mem_cons_of_mem _ hmem)) hdead

/-- The first exception is the end. -/
theorem mainLoop_thrown {round : Round M} {x : Interruption M} {torn : NetworkService M}
    (hlive : ((service M).run controller.service round.events).aborted = false)
    (hround : round.thrown = some x)
    (htorn : x.state ((service M).run controller.service round.events) = some torn)
    (haccounted : HandlersAccounted maxClients torn) (rounds : List (Round M)) :
    EndsBy x.exception torn (mainLoop alive controller (round :: rounds)) := by
  obtain ⟨hodd, heven⟩ := haccounted.stop_eq
  have hdestroyed : ∀ e : Exception, e ≠ .other →
      EndsBy e torn (ServiceController.destroy ⟨controller.serverContent, torn⟩ e.log) := by
    intro e he
    rcases Nat.even_or_odd torn.activeClientHandlers.length with hlength | hlength
    · obtain ⟨t, hstop, -⟩ := heven hlength
      rw [ServiceController.destroy, hstop]
      exact .returned he hlength hstop
    · rw [ServiceController.destroy, hodd hlength]
      exact .crashed he hlength
  have hresult : round.thrown.bind (fun x => (x.state
      ((service M).run controller.service round.events)).map (x.exception, ·)) =
        some (x.exception, torn) := by
    rw [hround, Option.bind_some, htorn]
    rfl
  rw [mainLoop, ServiceController.run, hlive, if_neg Bool.false_ne_true, hresult]
  cases hexception : x.exception with
  | runtimeError what => exact hdestroyed _ Exception.noConfusion
  | logicError what => exact hdestroyed _ Exception.noConfusion
  | exception what => exact hdestroyed _ Exception.noConfusion
  | other => exact .foreign rfl

/-- **The life of the server.** If the server's handle cannot be bound or does not listen, `main` is left by
an exception that names the error. Otherwise it goes on as long as libuv does not abort and no callback is left
by an exception, with the timer running and the server open. If libuv aborts the process is gone; the first
exception ends `main`, through the destructor unless it is of a foreign type. Every handler is active,
available or destroyed then, and the destructor returns exactly when the number of active ones is even. -/
theorem main_outcome (data : HttpServerContentData) (uv : UvNetwork) (settings : Settings)
    (alive : NetworkService M → Bool) (calm : List (Round M))
    (halive : TimerKeepsAlive alive) (hcalm : ∀ round ∈ calm, round.thrown = none) :
    let s := (service M).run (constructed M settings.maxClients) (calm.flatMap (·.events))
    (¬ uv.Listens settings → ∃ r, r ≠ 0 ∧ ∀ rounds, main data uv settings alive rounds =
        .terminated [] (.runtimeError (startError M.toHttpLibrary uv settings r))) ∧
      (uv.Listens settings →
        (s.aborted = true → ∀ more, main data uv settings alive (calm ++ more) = .killed) ∧
        (s.aborted = false →
          main data uv settings alive calm =
              .running ⟨HttpServerContent.load data fun _ => none, s⟩ ∧
            s.tickTimerStopped = false ∧ s.tcpServerClosing = false ∧
            ∀ round more x torn, ((service M).run s round.events).aborted = false →
              round.thrown = some x → x.state ((service M).run s round.events) = some torn →
                HandlersAccounted settings.maxClients torn ∧
                  EndsBy x.exception torn (main data uv settings alive (calm ++ round :: more)))) := by
  intro s
  constructor
  · intro hdeaf
    obtain ⟨r, hr, herror, -⟩ := start_error (L := M.toHttpLibrary) hdeaf
    refine ⟨r, hr, fun rounds => ?_⟩
    simp only [main, ServiceController.constructed, herror]
    rfl
  · intro hlistens
    have hmain (rounds : List (Round M)) : main data uv settings alive rounds = mainLoop alive
        ⟨HttpServerContent.load data fun _ => none, constructed M settings.maxClients⟩ rounds := by
      simp only [main, ServiceController.constructed, start_ok hlistens]
      rfl
    have hstill : StillServing (constructed M settings.maxClients) s := StillServing.run _ _
    refine ⟨fun hdead more => ?_, fun hlive => ?_⟩
    · rw [hmain]
      exact mainLoop_killed halive rfl rfl calm more hcalm hdead
    · have hrounds (rounds : List (Round M)) : main data uv settings alive (calm ++ rounds) =
          mainLoop alive ⟨HttpServerContent.load data fun _ => none, s⟩ rounds := by
        rw [hmain]
        exact mainLoop_calm halive rfl calm rounds hcalm hlive
      have hall := hrounds []
      rw [List.append_nil] at hall
      refine ⟨hall, hstill.timer, hstill.server, fun round more x torn hlive' hround htorn => ?_⟩
      have hreached : (service M).run s round.events = (service M).run
          (constructed M settings.maxClients) (calm.flatMap (·.events) ++ round.events) :=
        (Transition.Machine.run_append _ _ _ _).symm
      have haccounted : HandlersAccounted settings.maxClients torn := by
        have hmem : torn ∈ ((service M).run s round.events).exceptionStates x.event :=
          List.mem_of_getElem? htorn
        rw [hreached] at hmem
        exact accounted_exceptionStates (run_poolConserved settings.maxClients _).last
          (run_destroyed settings.maxClients _).last hmem
      rw [hrounds]
      exact ⟨haccounted, mainLoop_thrown hlive' hround htorn haccounted more⟩

/-- libuv binds and listens to whatever it is asked to. -/
def UvNetwork.willing : UvNetwork where
  SockAddr := Unit
  uvIp6Addr _ _ := (-22, ())
  uvIp4Addr _ _ := (0, ())
  uvTcpBind _ _ := 0
  uvListen _ _ := 0
  uvErrName _ := "EINVAL"

/-- A client is being started when its state machine throws. -/
def throwsAtStart : Interruption .plain :=
  ⟨.logicError "start", .listen 0 0 ⟨⟨.silent _, ⟨[.sendTcpData [1] true], id⟩, .silent _⟩, .silent _⟩, 4⟩

/-- One client is connected, and another one's start throws: its handler is destroyed. -/
theorem main_outcome_throwsAtStart :
    let s := (service .plain).run (constructed .plain 2) [.listen 0 0 (.silent _)]
    ∃ torn, throwsAtStart.state s = some torn ∧ torn.destroyed.map (·.1) = [0] ∧
      EndsBy (.logicError "start") torn (main (M := .plain) .plain .willing ⟨"127.0.0.1", 17221, 2⟩
        (fun s => !s.tickTimerStopped)
        ([⟨[.listen 0 0 (.silent _)], none⟩] ++ [⟨[], some throwsAtStart⟩])) := by
  intro s
  have hstate : (throwsAtStart.state s).map (fun torn => torn.destroyed.map (·.1)) = some [0] := by
    decide
  obtain ⟨torn, htorn, hdestroyed⟩ := Option.map_eq_some_iff.mp hstate
  have houtcome := (main_outcome (M := .plain) .plain .willing ⟨"127.0.0.1", 17221, 2⟩ (fun s => !s.tickTimerStopped)
    [⟨[.listen 0 0 (.silent _)], none⟩] (fun _ hticking => by simp [hticking]) (by simp)).2 ⟨rfl, rfl⟩
  exact ⟨torn, htorn, hdestroyed, ((houtcome.2 (by decide)).2.2.2 ⟨[], some throwsAtStart⟩ []
    throwsAtStart torn (by decide) rfl htorn).2⟩

end main

end AvdeccProxy
