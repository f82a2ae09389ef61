import AvdeccProxy.ServiceStop
import AvdeccProxy.TickVisits

/-! Callbacks that an exception leaves. It comes out of a method of a state machine, and what has been done
by then stays done. Unwinding lets go of one thing, the `shared_ptr` of `onNewConnection`: as long as the
client is being started neither list has its handler, so that an exception destroys it. -/

namespace AvdeccProxy

namespace NetworkService

open ResourcePool ApsClient

variable {M : Mcu} {s t u : NetworkService M} {e : Event M} {c aps : ClientPtr} {maxClients : Int}

/-! ### Where an exception can leave a callback -/

/-- The states in the course of the methods that `start` calls. -/
def startStates (s : NetworkService M) (self : ClientPtr) (b : StartBehaviour M) :
    List (NetworkService M) :=
  let s := s.uvReadStart self
  let ran := ApsClient.run s self b.run
  let connected := onIncomingTcpConnection ran self b.onIncomingTcpConnection
  performStates s self b.run ++
    performStates (notify ran self .onIncomingTcpConnection) self b.onIncomingTcpConnection ++
    performStates connected self b.runAgain

/-- The same for `onNewConnection`, once the connection is accepted. -/
def acceptStates (s : NetworkService M) (aps : ClientPtr) (b : AcceptBehaviour M) :
    List (NetworkService M) :=
  let started := start (s.acceptInto aps) aps b.start
  let s' := { started with activeClientHandlers := started.activeClientHandlers ++ [aps] }
  startStates (s.acceptInto aps) aps b.start ++ performStates s' aps b.run

def readStates (s : NetworkService M) (self : ClientPtr) (nread : Int) (b : ReadBehaviour M) :
    List (NetworkService M) :=
  let closedStates (s : NetworkService M) :=
    performStates (notify s self .onTcpConnectionClosed) self b.onTcpConnectionClosed ++
      performStates (onTcpConnectionClosed s self b.onTcpConnectionClosed) self b.run
  if nread ≤ 0 then closedStates s
  else
    let told := notify s self (.onIncomingTcpData b.returned)
    let s' := onIncomingTcpData s self b.returned b.onIncomingTcpData
    performStates told self b.onIncomingTcpData ++
      if b.returned = 0 then closedStates s' else performStates s' self b.run

/-- The states an exception can leave behind that a state machine throws during the callback. -/
def exceptionStates (s : NetworkService M) : Event M → List (NetworkService M)
  | .listen status result b =>
      let s := { s with waiting := s.waiting || decide (status = 0) }
      match s.availableClientHandlers.getLast? with
      | some aps =>
          if status = 0 ∧ result = 0 then (s.acceptStates aps b).map (·.dropReference aps) else []
      | none => []
  | .read client nread b => s.readStates client nread b
  | .written address status b =>
      match s.owed.find? (·.address == address) with
      | some x =>
          match x.callback with
          | .onUvWrite =>
              let s := s.writeChecked x status
              if s.aborted then [] else performStates s x.apsclient b
          | .onUvWriteThenClose => []
      | none => []
  | .closed client number b =>
      if s.callsOnUvClose client number then performStates (s.uvClosed client number) client b else []
  | .tick _ b => s.onTickStates b
  | .removeApsClient _ => []

/-! ### Where the handlers are -/

/-- The handlers are in `t` where they are in `s`. -/
structure SameHandlers (s t : NetworkService M) : Prop where
  active : t.activeClientHandlers = s.activeClientHandlers
  available : t.availableClientHandlers = s.availableClientHandlers
  destroyed : t.destroyed = s.destroyed

namespace SameHandlers

theorem refl (s : NetworkService M) : SameHandlers s s := ⟨rfl, rfl, rfl⟩

theorem sends {A : ClientPtr → Prop} (h : SameHandlers s t) (hsends : Sends A t u) : SameHandlers s u :=
  ⟨hsends.active.trans h.active, hsends.available.trans h.available,
    hsends.destroyed.trans h.destroyed⟩

theorem notify (h : SameHandlers s t) (c : ClientPtr) (n : Notification) :
    SameHandlers s (notify t c n) := ⟨h.active, h.available, h.destroyed⟩

theorem perform (h : SameHandlers s t) (c : ClientPtr) (b : Behaviour M) :
    SameHandlers s (perform t c b) := h.sends (perform_sends (A := fun _ => True) trivial b)

theorem of_mem_performStates (h : SameHandlers s t) {b : Behaviour M}
    (hu : u ∈ performStates t c b) : SameHandlers s u :=
  h.sends (sends_of_mem_performStates (A := fun _ => True) trivial hu)

theorem of_mem_startStates {b : StartBehaviour M} (hu : u ∈ startStates s c b) : SameHandlers s u := by
  have hreading : SameHandlers s (s.uvReadStart c) := ⟨rfl, rfl, rfl⟩
  have hran := hreading.perform c b.run
  have htold := hran.notify c .onIncomingTcpConnection
  rcases List.mem_append.mp hu with hu | hu
  · rcases List.mem_append.mp hu with hu | hu
    · exact hreading.of_mem_performStates hu
    · exact htold.of_mem_performStates hu
  · exact (htold.perform c b.onIncomingTcpConnection).of_mem_performStates hu

theorem start (s : NetworkService M) (c : ClientPtr) (b : StartBehaviour M) :
    SameHandlers s (ApsClient.start s c b) :=
  have hreading : SameHandlers s (s.uvReadStart c) := ⟨rfl, rfl, rfl⟩
  (((hreading.perform c b.run).notify c .onIncomingTcpConnection).perform c
    b.onIncomingTcpConnection).perform c b.runAgain

theorem of_mem_readStates {nread : Int} {b : ReadBehaviour M} (hu : u ∈ s.readStates c nread b) :
    SameHandlers s u := by
  have hclosed : ∀ {t : NetworkService M}, SameHandlers s t →
      u ∈ performStates (ApsClient.notify t c .onTcpConnectionClosed) c b.onTcpConnectionClosed ++
        performStates (onTcpConnectionClosed t c b.onTcpConnectionClosed) c b.run →
      SameHandlers s u := by
    intro t ht hu
    have htold := ht.notify c .onTcpConnectionClosed
    rcases List.mem_append.mp hu with hu | hu
    · exact htold.of_mem_performStates hu
    · exact (htold.perform c b.onTcpConnectionClosed).of_mem_performStates hu
  unfold readStates at hu
  by_cases hnread : nread ≤ 0
  · simp only [hnread, if_true] at hu
    exact hclosed (refl s) hu
  · simp only [hnread, if_false] at hu
    have htold := (refl s).notify c (.onIncomingTcpData b.returned)
    have hdata := htold.perform c b.onIncomingTcpData
    rcases List.mem_append.mp hu with hu | hu
    · exact htold.of_mem_performStates hu
    · by_cases hreturned : b.returned = 0
      · rw [if_pos hreturned] at hu
        exact hclosed hdata hu
      · rw [if_neg hreturned] at hu
        exact hdata.of_mem_performStates hu

end SameHandlers

theorem writeChecked_sameHandlers (s : NetworkService M) (x : UvWriteContext) (status : Int) :
    SameHandlers s (s.writeChecked x status) := by
  unfold writeChecked
  split
  · rw [uvClose_frame]
    exact ⟨rfl, rfl, rfl⟩
  · exact ⟨rfl, rfl, rfl⟩

/-- Only the start of a client moves handlers before an exception. -/
theorem sameHandlers_of_mem_exceptionStates (hu : u ∈ s.exceptionStates e)
    (hlisten : ∀ status result b, e ≠ .listen status result b) : SameHandlers s u := by
  cases e with
  | listen status result b => exact absurd rfl (hlisten status result b)
  | read client nread b => exact .of_mem_readStates hu
  | written address status b =>
      simp only [exceptionStates] at hu
      cases hfind : s.owed.find? (·.address == address) with
      | none =>
          rw [hfind] at hu
          cases hu
      | some x =>
          cases hcallback : x.callback with
          | onUvWriteThenClose =>
              simp only [hfind, hcallback] at hu
              cases hu
          | onUvWrite =>
              simp only [hfind, hcallback] at hu
              split at hu
              · cases hu
              · exact (writeChecked_sameHandlers s x status).of_mem_performStates hu
  | closed client number b =>
      simp only [exceptionStates] at hu
      split at hu
      · have hclosed : SameHandlers s (s.uvClosed client number) := ⟨rfl, rfl, rfl⟩
        exact hclosed.of_mem_performStates hu
      · cases hu
  | tick timestamp b =>
      exact (SameHandlers.refl s).sends
        (sends_of_mem_onTickFromStates (A := fun _ => True) b _ 0 (fun _ => trivial) hu)
  | removeApsClient client => cases hu

/-- Every handler of the constructor is active, available or destroyed, and only one of these. -/
def HandlersAccounted (maxClients : Int) (s : NetworkService M) : Prop :=
  Conserved (List.range maxClients.toNat) s.activeClientHandlers
    (s.availableClientHandlers ++ s.destroyed.map (·.1))

/-- A handler that no list has is destroyed when its last `shared_ptr` goes. -/
theorem accounted_starting (hpool : PoolConserved maxClients s)
    (hlast : s.availableClientHandlers.getLast? = some aps)
    (hactive : u.activeClientHandlers = s.activeClientHandlers)
    (havailable : u.availableClientHandlers = s.availableClientHandlers.dropLast)
    (hnone : u.destroyed = []) : HandlersAccounted maxClients (u.dropReference aps) := by
  have hfree : s.availableClientHandlers = s.availableClientHandlers.dropLast ++ [aps] := by
    obtain ⟨front, hfront⟩ := List.getLast?_eq_some_iff.mp hlast
    rw [hfront, List.dropLast_concat]
  have hnodup := hpool.nodup List.nodup_range
  rw [hfree] at hnodup
  have hgone : ¬ (aps ∈ u.activeClientHandlers ∨ aps ∈ u.availableClientHandlers) := by
    rw [hactive, havailable]
    have hlists := (List.nodup_append.mp (List.append_assoc _ _ _ ▸ hnodup)).2.2
    rintro (h | h)
    · exact hlists aps (List.mem_append_left _ h) aps (List.mem_singleton_self _) rfl
    · exact hlists aps (List.mem_append_right _ h) aps (List.mem_singleton_self _) rfl
  unfold HandlersAccounted
  rw [dropReference, if_neg hgone]
  show Conserved _ u.activeClientHandlers
    (u.availableClientHandlers ++ (u.destroyed ++ [(aps, u.connections aps)]).map (·.1))
  rw [hactive, havailable, hnone, List.nil_append, List.map_singleton, ← hfree]
  exact hpool

/-- A handler that is active already is not destroyed. -/
theorem accounted_started (hpool : PoolConserved maxClients s)
    (hlast : s.availableClientHandlers.getLast? = some aps)
    (hactive : u.activeClientHandlers = s.activeClientHandlers ++ [aps])
    (havailable : u.availableClientHandlers = s.availableClientHandlers.dropLast)
    (hnone : u.destroyed = []) : HandlersAccounted maxClients (u.dropReference aps) := by
  have hkept : aps ∈ u.activeClientHandlers := by
    rw [hactive]
    exact List.mem_append_right _ (List.mem_singleton_self _)
  unfold HandlersAccounted
  rw [dropReference, if_pos (Or.inl hkept), hactive, havailable, hnone, List.map_nil, List.append_nil]
  exact hpool.take hlast

/-- **Exceptions.** Whatever callback an exception leaves, every handler is accounted for. -/
theorem accounted_exceptionStates (hpool : PoolConserved maxClients s) (hdestroyed : s.destroyed = [])
    (hu : u ∈ s.exceptionStates e) : HandlersAccounted maxClients u := by
  by_cases hlisten : ∀ status result b, e ≠ .listen status result b
  · obtain ⟨hactive, havailable, hsame⟩ := sameHandlers_of_mem_exceptionStates hu hlisten
    unfold HandlersAccounted
    rw [hactive, havailable, hsame, hdestroyed, List.map_nil, List.append_nil]
    exact hpool
  · simp only [not_forall, not_not] at hlisten
    obtain ⟨status, result, b, rfl⟩ := hlisten
    simp only [exceptionStates] at hu
    cases hlast : s.availableClientHandlers.getLast? with
    | none =>
        rw [hlast] at hu
        cases hu
    | some aps =>
        simp only [hlast] at hu
        split at hu
        swap
        · cases hu
        obtain ⟨v, hv, rfl⟩ := List.mem_map.mp hu
        rcases List.mem_append.mp hv with hv | hv
        · have hsame := SameHandlers.of_mem_startStates hv
          exact accounted_starting hpool hlast hsame.active hsame.available
            (hsame.destroyed.trans hdestroyed)
        · have hstarted := SameHandlers.start
            (({ s with waiting := s.waiting || decide (status = 0) } : NetworkService M).acceptInto aps)
            aps b.start
          have hsame := (SameHandlers.refl _).of_mem_performStates hv
          refine accounted_started hpool hlast ?_ (hsame.available.trans hstarted.available)
            ((hsame.destroyed.trans hstarted.destroyed).trans hdestroyed)
          exact hsame.active.trans (congrArg (· ++ [aps]) hstarted.active)

/-- The destructor's `stop` on what an exception has left: it is defined for an even number of active
handlers. -/
theorem HandlersAccounted.stop_eq (h : HandlersAccounted maxClients s) :
    let stopped := everyOther s.activeClientHandlers.reverse
    let popped := everyOther s.activeClientHandlers.reverse.tail
    (Odd s.activeClientHandlers.length → s.stop = none) ∧
      (Even s.activeClientHandlers.length → ∃ t, s.stop = some (t, stopped) ∧
        Drained { s with tickTimerStopped := true, tcpServerClosing := true } t stopped popped) := by
  have hlists := List.nodup_append.mp (h.nodup List.nodup_range)
  exact NetworkService.stop_eq hlists.1 fun c hc havailable =>
    hlists.2.2 c hc c (List.mem_append_left _ havailable) rfl

end NetworkService

end AvdeccProxy
