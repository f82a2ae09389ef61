import AvdeccProxy.ServiceSound
import AvdeccProxy.TransitionViews
import Mathlib.Algebra.Ring.Nat

/-! The contexts of writes. A context is deleted by the completion of its write and by nothing else, and
the result of `uv_write` is not looked at: a write that libuv refuses is never completed and leaks. -/

namespace AvdeccProxy

variable {M : Mcu}

/-! ### Refused writes -/

/-- libuv does not take a write: it says so, or the handle is not open. -/
def refusal (opened accepted : Bool) : Nat := if accepted && opened then 0 else 1

/-- The writes of the call that libuv does not take. -/
def Call.refusals (M : Mcu) (opened : Bool) : Call → Nat
  | .sendTcpData _ accepted => refusal opened accepted
  | .onIncomingHttpRequest q accepted => (M.responses q).length * refusal opened accepted
  | .sendAvdeccToL2 _ => 0
  | .closeTcpConnection => 0
  | .closeTcpServer => 0

def Behaviour.refusals (opened : Bool) (b : Behaviour M) : Nat :=
  (b.calls.map (Call.refusals M opened)).sum

def ApsClient.StartBehaviour.refusals (opened : Bool) (b : ApsClient.StartBehaviour M) : Nat :=
  b.run.refusals opened + b.onIncomingTcpConnection.refusals opened + b.runAgain.refusals opened

def ApsClient.ReadBehaviour.refusals (opened : Bool) (nread : Int) (b : ApsClient.ReadBehaviour M) :
    Nat :=
  if nread ≤ 0 then b.onTcpConnectionClosed.refusals opened + b.run.refusals opened
  else if b.returned = 0 then
    b.onIncomingTcpData.refusals opened + b.onTcpConnectionClosed.refusals opened +
      b.run.refusals opened
  else b.onIncomingTcpData.refusals opened + b.run.refusals opened

namespace NetworkService

open ResourcePool ApsClient

variable {A : ClientPtr → Prop} {s t u : NetworkService M} {e : Event M} {c d : ClientPtr}
  {maxClients : Int} {n : Nat}

def TickBehaviour.refusals (opened : Bool) (b : TickBehaviour M) : Nat :=
  b.onTimeTick.refusals opened + b.run.refusals opened

/-- The writes libuv refuses during a callback. A handle is open while its connection is taken, and not
any more when the failure of a write has closed it. -/
def refusals (s : NetworkService M) : Event M → Nat
  | .listen status result b =>
      if status = 0 ∧ result = 0 ∧ s.availableClientHandlers ≠ [] then
        b.start.refusals true + b.run.refusals true
      else 0
  | .read client nread b => b.refusals (s.isOpen client) nread
  | .written address status b =>
      match s.owed.find? (·.address == address) with
      | none => 0
      | some x =>
          match x.callback with
          | .onUvWriteThenClose => 0
          | .onUvWrite =>
              if status < 0 then if s.isOpen x.apsclient then b.refusals false else 0
              else b.refusals (s.isOpen x.apsclient)
  | .closed client number b =>
      if s.callsOnUvClose client number then b.refusals (s.isOpen client) else 0
  | .tick _ b => s.activeClientHandlers.foldr (fun c m => (b c).refusals (s.isOpen c) + m) 0
  | .removeApsClient _ => 0

/-- So many contexts are on the heap beyond those whose completion is owed. -/
def Unaccounted (s : NetworkService M) (n : Nat) : Prop := s.heap.length = s.owed.length + n

theorem Unaccounted.uvWrite (h : Unaccounted s n) (data : List UInt8) (callback : WriteCallback)
    (accepted : Bool) :
    Unaccounted (s.uvWrite c data callback accepted) (n + refusal (s.isOpen c) accepted) := by
  unfold Unaccounted at h ⊢
  unfold NetworkService.uvWrite refusal
  cases accepted && s.isOpen c with
  | true =>
      simp only [if_true, List.length_append, List.length_singleton]
      omega
  | false =>
      simp only [List.length_append, List.length_singleton, Bool.false_eq_true, if_false]
      omega

/-- Pieces of sending one after another find the same handle. -/
theorem Unaccounted.foldl {α : Type*} {f : NetworkService M → α → NetworkService M}
    {w : Bool → α → Nat} (hsends : ∀ s x, Sends (fun _ => True) s (f s x))
    (hf : ∀ {s n} x, Unaccounted s n → Unaccounted (f s x) (n + w (s.isOpen c) x))
    (l : List α) (h : Unaccounted s n) :
    Unaccounted (l.foldl f s) (n + (l.map (w (s.isOpen c))).sum) := by
  induction l generalizing s n with
  | nil => exact h
  | cons x l ih =>
      have hrest := ih (hf x h)
      rw [(hsends s x).isOpen] at hrest
      rw [List.map_cons, List.sum_cons, ← Nat.add_assoc]
      exact hrest

theorem Unaccounted.onIncomingHttpRequest (h : Unaccounted s n) (q : IncomingRequest) (accepted : Bool) :
    Unaccounted (onIncomingHttpRequest s c q accepted)
      (n + (M.responses q).length * refusal (s.isOpen c) accepted) := by
  have hsent := Unaccounted.foldl (c := c) (w := fun opened _ => refusal opened accepted)
    (fun s response => sendHttpResponse_sends (s := s) trivial response accepted)
    (fun {s n} response h => Unaccounted.uvWrite
      (s := { s with responded := s.responded ++ [(c, s.currentNumber c)] }) (c := c) h
      (M.flatten response) .onUvWriteThenClose accepted) (M.responses q) h
  rw [List.map_const', List.sum_replicate_nat] at hsent
  exact hsent

theorem Unaccounted.call (h : Unaccounted s n) (request : Call) :
    Unaccounted (call s c request) (n + request.refusals M (s.isOpen c)) := by
  cases request with
  | sendTcpData data accepted => exact h.uvWrite data .onUvWrite accepted
  | onIncomingHttpRequest q accepted => exact h.onIncomingHttpRequest q accepted
  | sendAvdeccToL2 frame => exact h
  | closeTcpConnection => exact h
  | closeTcpServer => exact h

theorem Unaccounted.calls (h : Unaccounted s n) (requests : List Call) :
    Unaccounted (requests.foldl (fun s request => ApsClient.call s c request) s)
      (n + (requests.map (Call.refusals M (s.isOpen c))).sum) :=
  Unaccounted.foldl (w := Call.refusals M) (fun _ request => call_sends trivial request)
    (fun request h => h.call request) requests h

theorem Unaccounted.perform (h : Unaccounted s n) (b : Behaviour M) :
    Unaccounted (perform s c b) (n + b.refusals (s.isOpen c)) := h.calls b.calls

/-- Two calls after one another see the same handle. -/
theorem Unaccounted.performTwice (h : Unaccounted s n) (b b' : Behaviour M) :
    Unaccounted (ApsClient.perform (ApsClient.perform s c b) c b')
      (n + (b.refusals (s.isOpen c) + b'.refusals (s.isOpen c))) := by
  have hboth := (h.perform (c := c) b).perform (c := c) b'
  rw [isOpen_perform] at hboth
  rw [← Nat.add_assoc]
  exact hboth

theorem Unaccounted.notify (h : Unaccounted s n) (k : Notification) :
    Unaccounted (notify s c k) n := h

theorem Unaccounted.removeApsClient (h : Unaccounted s n) (c : ClientPtr) :
    Unaccounted (s.removeApsClient c) n := by
  unfold Unaccounted
  rw [removeApsClient_heap, removeApsClient_owed]
  exact h

theorem Unaccounted.uvClose (h : Unaccounted s n) (callback : Bool) :
    Unaccounted (s.uvClose c callback) n := by
  unfold Unaccounted
  rw [uvClose_heap, uvClose_owed]
  exact h

theorem Unaccounted.stop (h : Unaccounted s n) : Unaccounted (ApsClient.stop s c) n :=
  Unaccounted.removeApsClient (s := clear s c) h c

theorem Unaccounted.completed (h : Unaccounted s n) (hsub : s.owed.Sublist s.heap)
    {x : UvWriteContext} (hx : x ∈ s.owed) : Unaccounted (s.completed x) n := by
  have howed := List.length_erase_of_mem hx
  have hheap := List.length_erase_of_mem (hsub.subset hx)
  have hpos := List.length_pos_of_mem hx
  unfold Unaccounted at h ⊢
  show (s.heap.erase x).length = (s.owed.erase x).length + n
  omega

/-! ### Refusals of a callback -/

theorem Unaccounted.start (h : Unaccounted s n) (hopen : (s.uvReadStart c).isOpen c = true)
    (b : StartBehaviour M) : Unaccounted (start s c b) (n + b.refusals true) := by
  have hrun : Unaccounted (ApsClient.run (s.uvReadStart c) c b.run) (n + b.run.refusals true) := by
    rw [← hopen]
    exact Unaccounted.perform (s := s.uvReadStart c) h b.run
  have hopen' : (ApsClient.notify (ApsClient.run (s.uvReadStart c) c b.run) c
      .onIncomingTcpConnection).isOpen c = true := by
    rw [isOpen_congr (connections_notify _ c)]
    exact (isOpen_perform c b.run c).trans hopen
  have hrest := (hrun.notify (c := c) .onIncomingTcpConnection).performTwice (c := c)
    b.onIncomingTcpConnection b.runAgain
  rw [hopen'] at hrest
  unfold StartBehaviour.refusals
  rw [Nat.add_assoc, ← Nat.add_assoc n]
  exact hrest

theorem isOpen_accepting (s : NetworkService M) (aps : ClientPtr) :
    ((s.acceptInto aps).uvReadStart aps).isOpen aps = true := by
  have hconnections : ((s.acceptInto aps).uvReadStart aps).connections aps =
      ⟨(s.connections aps).length, .opened, true, true, false, 0⟩ :: s.connections aps := by
    rw [← connections_taken_self]
    exact (connections_notify (s := (s.acceptInto aps).uvReadStart aps) (c := aps)
      .onIncomingTcpConnection aps).symm
  refine isOpen_iff.mpr ⟨⟨(s.connections aps).length, .opened, true, true, false, 0⟩, ?_, rfl⟩
  rw [hconnections]
  rfl

theorem Unaccounted.onNewConnection (h : Unaccounted s n) {aps : ClientPtr}
    (hlast : s.availableClientHandlers.getLast? = some aps) (b : AcceptBehaviour M) :
    Unaccounted (s.onNewConnection 0 b) (n + (b.start.refusals true + b.run.refusals true)) := by
  have hstart : Unaccounted (ApsClient.start (s.acceptInto aps) aps b.start)
      (n + b.start.refusals true) :=
    Unaccounted.start (s := s.acceptInto aps) h (isOpen_accepting s aps) b.start
  have hopen : (ApsClient.start (s.acceptInto aps) aps b.start).isOpen aps = true := by
    rw [(start_sends (A := fun _ => True) trivial b.start).isOpen,
      isOpen_congr (connections_notify _ aps)]
    exact isOpen_accepting s aps
  simp only [NetworkService.onNewConnection, hlast, if_true]
  rw [← Nat.add_assoc, ← hopen]
  refine Unaccounted.perform (s := { ApsClient.start (s.acceptInto aps) aps b.start with
    activeClientHandlers := _ }) ?_ b.run
  rw [hopen]
  exact hstart

theorem Unaccounted.onUvRead (h : Unaccounted s n) (nread : Int) (b : ReadBehaviour M) :
    Unaccounted (onUvRead s c nread b) (n + b.refusals (s.isOpen c) nread) := by
  have hopen : ∀ k, (ApsClient.notify s c k).isOpen c = s.isOpen c := fun k =>
    isOpen_congr (connections_notify k c)
  unfold ReadBehaviour.refusals
  by_cases hnread : nread ≤ 0
  · simp only [ApsClient.onUvRead, if_pos hnread]
    have hcalls := (h.notify (c := c) .onTcpConnectionClosed).performTwice (c := c)
      b.onTcpConnectionClosed b.run
    rw [hopen] at hcalls
    exact hcalls.stop
  · by_cases hreturned : b.returned = 0
    · simp only [ApsClient.onUvRead, if_neg hnread, if_pos hreturned]
      have hdata := (h.notify (c := c) (.onIncomingTcpData b.returned)).perform (c := c)
        b.onIncomingTcpData
      have hcalls := (hdata.notify (c := c) .onTcpConnectionClosed).performTwice (c := c)
        b.onTcpConnectionClosed b.run
      have hopen' : (ApsClient.notify (ApsClient.perform
          (ApsClient.notify s c (.onIncomingTcpData b.returned)) c b.onIncomingTcpData) c
          .onTcpConnectionClosed).isOpen c = s.isOpen c := by
        rw [isOpen_congr (connections_notify _ c), isOpen_perform, hopen]
      rw [hopen', hopen] at hcalls
      rw [Nat.add_assoc (b.onIncomingTcpData.refusals _), ← Nat.add_assoc n]
      exact hcalls
    · simp only [ApsClient.onUvRead, if_neg hnread, if_neg hreturned]
      have hcalls := (h.notify (c := c) (.onIncomingTcpData b.returned)).performTwice (c := c)
        b.onIncomingTcpData b.run
      rw [hopen] at hcalls
      exact hcalls

theorem Unaccounted.onTickFrom (h : Unaccounted s n) (b : ClientPtr → TickBehaviour M)
    (time : UInt32) (fuel i : Nat) (hfuel : s.activeClientHandlers.length ≤ i + fuel) :
    Unaccounted (onTickFrom b time fuel i s).1
      (n + (s.activeClientHandlers.drop i).foldr (fun c m => (b c).refusals (s.isOpen c) + m) 0) := by
  induction fuel generalizing i s n with
  | zero =>
      rw [List.drop_eq_nil_of_le (by omega)]
      exact h
  | succ fuel ih =>
      unfold NetworkService.onTickFrom
      cases hc : s.activeClientHandlers[i]? with
      | none =>
          rw [List.drop_eq_nil_of_le (List.getElem?_eq_none_iff.mp hc)]
          exact h
      | some c =>
          obtain ⟨hi, hget⟩ := List.getElem?_eq_some_iff.mp hc
          have hboth : Sends (fun _ => True) s
              (ApsClient.perform (ApsClient.perform s c (b c).onTimeTick) c (b c).run) :=
            (perform_sends trivial (b c).onTimeTick).trans (perform_sends trivial (b c).run)
          have hrest := ih (h.performTwice (c := c) (b c).onTimeTick (b c).run) (i + 1)
            (by rw [hboth.active]; omega)
          rw [hboth.active] at hrest
          simp only [hboth.isOpen] at hrest
          rw [List.drop_eq_getElem_cons hi, hget, List.foldr_cons, ← Nat.add_assoc]
          exact hrest

/-- A close that completes is of a handle that was not open. -/
theorem isOpen_uvClosed (hsound : Sound maxClients s) {number : Nat}
    (hclosing : ∃ k ∈ s.connections c, k.number = number ∧ k.phase = .closing) :
    (s.uvClosed c number).isOpen c = s.isOpen c := by
  obtain ⟨k, hk, hnumber, hphase⟩ := hclosing
  unfold isOpen
  rw [connections_uvClosed_self]
  cases hconnections : s.connections c with
  | nil => rfl
  | cons k' earlier =>
      show ((closedAs number k').phase == .opened) = (k'.phase == .opened)
      unfold closedAs
      by_cases hsame : k'.number = number
      · have hmem : k' ∈ s.connections c := by
          rw [hconnections]
          exact List.mem_cons_self
        rw [hsound.eq_of_number hmem hk (hsame.trans hnumber.symm), if_pos hnumber, hphase]
        rfl
      · rw [if_neg hsame]

theorem isOpen_writeChecked (s : NetworkService M) (x : UvWriteContext) (status : Int) :
    (s.writeChecked x status).isOpen x.apsclient =
      if status < 0 then false else s.isOpen x.apsclient := by
  unfold writeChecked
  split
  · exact isOpen_uvClose_self _ _ _
  · exact isOpen_congr (connections_completed s x _)

theorem Unaccounted.writeChecked (h : Unaccounted s n) (hsub : s.owed.Sublist s.heap)
    {x : UvWriteContext} (hx : x ∈ s.owed) (status : Int) :
    Unaccounted (s.writeChecked x status) n := by
  unfold NetworkService.writeChecked
  split
  · exact (h.completed hsub hx).uvClose true
  · exact h.completed hsub hx

theorem Unaccounted.written (h : Unaccounted s n) (hsound : Sound maxClients s)
    (hlive : s.aborted = false) (address : Nat) (status : Int) (b : Behaviour M) :
    Unaccounted (s.step (.written address status b)) (n + s.refusals (.written address status b)) := by
  cases hfind : s.owed.find? (·.address == address) with
  | none =>
      rw [step_written_stray hfind]
      simp only [refusals, hfind]
      exact h
  | some x =>
      have hx : x ∈ s.owed := List.mem_of_find?_eq_some hfind
      cases hcallback : x.callback with
      | onUvWriteThenClose =>
          rw [step_written_thenClose hfind hcallback]
          simp only [refusals, hfind, hcallback]
          exact (h.completed hsound.owed_heap hx).uvClose true
      | onUvWrite =>
          rw [step_written_tcp hfind hcallback]
          simp only [refusals, hfind, hcallback]
          have hchecked := h.writeChecked hsound.owed_heap hx status
          have hrun := hchecked.perform (c := x.apsclient) b
          rw [isOpen_writeChecked] at hrun
          have hchecks := writeChecked_live s x status
          by_cases hopen : status < 0 → s.isOpen x.apsclient = true
          · rw [hchecks.mpr ⟨hlive, hopen⟩, if_neg Bool.false_ne_true]
            by_cases hstatus : status < 0
            · simp only [if_pos hstatus, hopen hstatus, if_true] at hrun ⊢
              exact hrun
            · simp only [if_neg hstatus] at hrun ⊢
              exact hrun
          · -- the close aborts, and `run` is not called
            have haborted : (s.writeChecked x status).aborted = true := by
              rw [← Bool.not_eq_false, hchecks]
              exact fun h => hopen h.2
            obtain ⟨hstatus, hshut⟩ := Classical.not_imp.mp hopen
            simp only [haborted, if_true, if_pos hstatus, hshut]
            exact hchecked

/-- **Leaks.** A legal callback leaks one context for each write libuv refuses. -/
theorem Unaccounted.step (h : Unaccounted s n) (hsound : Sound maxClients s) (hlegal : Legal s e) :
    Unaccounted (s.step e) (n + s.refusals e) := by
  cases e with
  | listen status result b =>
      by_cases hstatus : status = 0
      swap
      · simp only [NetworkService.step, listenHandler, refusals, hstatus, if_false, false_and]
        exact h
      subst hstatus
      cases hlast : s.availableClientHandlers.getLast? with
      | none =>
          have hnone := List.getLast?_eq_none_iff.mp hlast
          simp only [NetworkService.step, listenHandler, NetworkService.onNewConnection, refusals,
            if_true, hnone, ne_eq, not_true_eq_false, and_false, if_false]
          exact h
      | some aps =>
          have hsome : s.availableClientHandlers ≠ [] := List.ne_nil_of_mem (List.mem_of_getLast? hlast)
          by_cases hresult : result = 0
          · subst hresult
            simp only [NetworkService.step, listenHandler, refusals, if_true, true_and, hsome, ne_eq,
              not_false_eq_true]
            exact Unaccounted.onNewConnection (s := { s with waiting := s.waiting || decide ((0 : Int) = 0) })
              h hlast b
          · simp only [NetworkService.step, listenHandler, NetworkService.onNewConnection, refusals,
              if_true, hlast, hresult, if_false, true_and, false_and, uvAccept]
            refine Unaccounted.uvClose ?_ false
            exact h
  | read client nread b => exact h.onUvRead nread b
  | written address status b => exact h.written hsound hlegal.1 address status b
  | closed client number b =>
      simp only [NetworkService.step, closeCompleted, refusals]
      cases hcallback : s.callsOnUvClose client number with
      | false => exact h
      | true =>
          have hrun := Unaccounted.perform (s := s.uvClosed client number) (c := client) h b
          rw [isOpen_uvClosed hsound hlegal.2.1] at hrun
          exact hrun.stop
  | tick timestamp b =>
      exact h.onTickFrom b _ (s.activeClientHandlers.length + 1) 0 (by omega)
  | removeApsClient client => exact h.removeApsClient client

/-! ### Responses -/

/-- An HTTP response is in flight on the connection. -/
def ResponseInFlight (s : NetworkService M) (c : ClientPtr) (number : Nat) : Prop :=
  ∃ x ∈ s.owed, x.callback = .onUvWriteThenClose ∧ x.apsclient = c ∧ x.connection = number

/-- The connection is closing or closed. -/
def Over (s : NetworkService M) (c : ClientPtr) (number : Nat) : Prop :=
  ∀ k ∈ s.connections c, k.number = number → k.phase ≠ .opened

/-- The contexts allocated are those owed, each address is on the heap or was deleted, once, and a
connection whose response is not in flight any more is over. -/
structure WritesAccounted (s : NetworkService M) : Prop where
  allocated : ∀ x, x ∈ s.heap ↔ x ∈ s.owed
  deletedOnce : Conserved (List.range s.nextAddress) (s.heap.map (·.address)) s.deleted
  answered : ∀ r ∈ s.responded, ¬ ResponseInFlight s r.1 r.2 → Over s r.1 r.2

/-- The completion of a response finds its connection current, over already, or with another response in
flight. -/
def ClosesItsOwn (s : NetworkService M) : Event M → Prop
  | .written address _ _ =>
      ∀ x, s.owed.find? (·.address == address) = some x → x.callback = .onUvWriteThenClose →
        x.connection = s.currentNumber x.apsclient ∨ Over s x.apsclient x.connection ∨
          ∃ y ∈ s.owed.erase x, y.callback = .onUvWriteThenClose ∧ y.apsclient = x.apsclient ∧
            y.connection = x.connection
  | _ => True

/-- Responses that are on the current connections close their own. -/
theorem closesItsOwn_of_current (h : ∀ x ∈ s.owed, x.connection = s.currentNumber x.apsclient) :
    ClosesItsOwn s e := by
  cases e with
  | written address status b =>
      exact fun x hfind _ => Or.inl (h x (List.mem_of_find?_eq_some hfind))
  | listen status result b => trivial
  | read client nread b => trivial
  | closed client number b => trivial
  | tick timestamp b => trivial
  | removeApsClient client => trivial

theorem Over.congr {number : Nat} (h : Over s c number)
    (hconnections : t.connections c = s.connections c) : Over t c number := by
  unfold Over
  rw [hconnections]
  exact h

theorem Over.uvClose {number : Nat} (h : Over s d number) (callback : Bool) :
    Over (s.uvClose c callback) d number := by
  by_cases hd : d = c
  swap
  · exact h.congr (connections_uvClose_of_ne s c callback hd)
  intro k hk hnumber
  rw [hd, connections_uvClose_self] at hk
  rw [hd] at h
  unfold Over at h
  cases hconnections : s.connections c with
  | nil =>
      rw [hconnections] at hk
      cases hk
  | cons k' earlier =>
      rw [hconnections] at hk h
      rw [List.modifyHead_cons] at hk
      rcases List.mem_cons.mp hk with rfl | hk
      · exact closeRequested_phase callback k'
      · exact h k (List.mem_cons_of_mem _ hk) hnumber

theorem Over.uvClosed {number closed : Nat} (h : Over s d number) :
    Over (s.uvClosed c closed) d number := by
  by_cases hd : d = c
  swap
  · exact h.congr (connections_uvClosed_of_ne s c closed hd)
  intro k hk hnumber
  rw [hd, connections_uvClosed_self] at hk
  obtain ⟨k', hk', rfl⟩ := List.mem_map.mp hk
  rw [closedAs_number] at hnumber
  rcases closedAs_phase closed k' with hclosed | ⟨-, hphase⟩
  · rw [hclosed]
    exact nofun
  · rw [hphase]
    exact h k' (hd ▸ hk') hnumber

/-- A connection that is over stays over. -/
theorem Over.outline {number : Nat} (h : Over s d number)
    (hnumber : number < (s.connections d).length) (hu : Outline s e u) : Over u d number := by
  cases hu with
  | listenFailed hstatus => exact h
  | exhausted hnone => exact h
  | @taken b aps hlast =>
      by_cases hda : d = aps
      swap
      · exact h.congr (connections_taken_of_ne s aps hda)
      intro k hk hkn
      rw [hda, connections_taken_self] at hk
      rcases List.mem_cons.mp hk with rfl | hk
      · -- the new connection has a new number
        rw [hda, ← hkn] at hnumber
        exact absurd hnumber (Nat.lt_irrefl _)
      · exact h k (hda ▸ hk) hkn
  | @refused result b aps hlast hresult =>
      by_cases hda : d = aps
      swap
      · exact h.congr (connections_refused_of_ne s aps hresult hda)
      intro k hk hkn
      rw [hda, connections_refused_self s aps hresult] at hk
      rcases List.mem_cons.mp hk with rfl | hk
      · exact nofun
      · exact h k (hda ▸ hk) hkn
  | ended hnread =>
      apply h.congr
      rw [connections_removeApsClient, connections_notify]
  | data hnread hreturned => exact h.congr (connections_notify _ d)
  | dataRefused hnread hreturned =>
      apply h.congr
      rw [connections_notify, connections_notify]
  | @wrote address status b x hfind hcallback hstatus =>
      exact h.congr (connections_completed s x d)
  | @wroteThenClosed address status b x hfind hcloses =>
      exact (h.congr (connections_completed s x d)).uvClose true
  | strayWritten hfind => exact h
  | closedOnly hcallback => exact h.uvClosed
  | @closed client number b hcallback =>
      exact h.uvClosed.congr (connections_removeApsClient _ client d)
  | ticked => exact h
  | @removed client => exact h.congr (connections_removeApsClient s client d)

theorem Outline.responded_eq (hu : Outline s e u) : u.responded = s.responded := by
  cases hu with
  | refused hlast hresult => exact refused_responded s _ hresult
  | ended hnread =>
      rw [removeApsClient_responded]
      rfl
  | wroteThenClosed hfind hcloses =>
      rw [uvClose_responded]
      rfl
  | closed hcallback =>
      rw [removeApsClient_responded]
      rfl
  | removed => exact removeApsClient_responded s _
  | _ => rfl

/-- No response leaves the flight but by its completion. -/
theorem ResponseInFlight.outline {number : Nat} (h : ResponseInFlight s d number)
    (hother : ∀ address status b x, e = .written address status b →
      s.owed.find? (·.address == address) = some x → x.callback = .onUvWrite)
    (hu : Outline s e u) : ResponseInFlight u d number := by
  obtain ⟨y, hy, hcallback, hclient⟩ := h
  have herase : ∀ {x}, x.callback = .onUvWrite → y ∈ s.owed.erase x := by
    intro x hx
    refine (List.mem_erase_of_ne fun hyx => ?_).mpr hy
    rw [hyx, hx] at hcallback
    cases hcallback
  refine ⟨y, ?_, hcallback, hclient⟩
  cases hu with
  | refused hlast hresult =>
      rw [refused_owed s _ hresult]
      exact hy
  | ended hnread =>
      rw [removeApsClient_owed]
      exact hy
  | wrote hfind hwrite hstatus => exact herase hwrite
  | wroteThenClosed hfind hcloses =>
      rw [uvClose_owed]
      exact herase (hother _ _ _ _ rfl hfind)
  | closed hclosed =>
      rw [removeApsClient_owed]
      exact hy
  | removed =>
      rw [removeApsClient_owed]
      exact hy
  | _ => exact hy

/-- Responses passed to libuv by the state machines are in flight when none was refused. -/
theorem answered_sends (hsends : Sends A u t) (hallocated : ∀ x ∈ t.heap, x ∈ t.owed)
    (h : ∀ r ∈ u.responded, ¬ ResponseInFlight u r.1 r.2 → Over u r.1 r.2) :
    ∀ r ∈ t.responded, ¬ ResponseInFlight t r.1 r.2 → Over t r.1 r.2 := by
  intro r hr hdone
  obtain ⟨answered, hresponded, hanswered⟩ := hsends.responded
  rw [hresponded] at hr
  rcases List.mem_append.mp hr with hr | hr
  · refine (h r hr fun hflight => hdone ?_).congr (hsends.connections r.1)
    obtain ⟨x, hx, hcontext⟩ := hflight
    exact ⟨x, hsends.mem_owed hx, hcontext⟩
  · obtain ⟨-, -, x, hx, hcontext⟩ := hanswered r hr
    exact absurd ⟨x, hallocated x hx, hcontext⟩ hdone

theorem answered_outline (hsound : Sound maxClients s) (h : WritesAccounted s)
    (hother : ∀ address status b x, e = .written address status b →
      s.owed.find? (·.address == address) = some x → x.callback = .onUvWrite)
    (hu : Outline s e u) :
    ∀ r ∈ u.responded, ¬ ResponseInFlight u r.1 r.2 → Over u r.1 r.2 := by
  intro r hr hdone
  rw [hu.responded_eq] at hr
  exact (h.answered r hr fun hflight => hdone (hflight.outline hother hu)).outline
    (hsound.responded r hr) hu

/-- Closing the current connection makes it over. -/
theorem over_uvClose_current (hsound : Sound maxClients s) (callback : Bool) :
    Over (s.uvClose c callback) c (s.currentNumber c) := by
  intro k hk hnumber
  rw [connections_uvClose_self] at hk
  cases hconnections : s.connections c with
  | nil =>
      rw [hconnections] at hk
      cases hk
  | cons k' earlier =>
      rw [hconnections, List.modifyHead_cons] at hk
      rcases List.mem_cons.mp hk with rfl | hk
      · exact closeRequested_phase callback k'
      · have hlt := hsound.earlier_number_lt hconnections hk
        omega

/-- What the completion of a response does to the connections answered. -/
theorem answered_thenClose (hsound : Sound maxClients s) (h : WritesAccounted s)
    {x : UvWriteContext} (hx : x ∈ s.owed) (hcallback : x.callback = .onUvWriteThenClose) :
    (∀ r ∈ ((s.completed x).uvClose x.apsclient true).responded,
      ¬ ResponseInFlight ((s.completed x).uvClose x.apsclient true) r.1 r.2 →
        Over ((s.completed x).uvClose x.apsclient true) r.1 r.2) ↔
      x.connection = s.currentNumber x.apsclient ∨ Over s x.apsclient x.connection ∨
        ∃ y ∈ s.owed.erase x, y.callback = .onUvWriteThenClose ∧ y.apsclient = x.apsclient ∧
          y.connection = x.connection := by
  have howed : ((s.completed x).uvClose x.apsclient true).owed = s.owed.erase x :=
    uvClose_owed _ _ _
  have hresponded : ((s.completed x).uvClose x.apsclient true).responded = s.responded :=
    uvClose_responded _ _ _
  have hconnections : (s.completed x).connections x.apsclient = s.connections x.apsclient := rfl
  rw [hresponded]
  unfold ResponseInFlight
  rw [howed]
  constructor
  · intro hafter
    by_cases hcurrent : x.connection = s.currentNumber x.apsclient
    · exact Or.inl hcurrent
    by_cases hmore : ∃ y ∈ s.owed.erase x, y.callback = .onUvWriteThenClose ∧
        y.apsclient = x.apsclient ∧ y.connection = x.connection
    · exact Or.inr (Or.inr hmore)
    -- the connection is not the current one, so that the close has not touched it
    have hover := hafter (x.apsclient, x.connection) (hsound.recorded x hx hcallback) hmore
    refine Or.inr (Or.inl fun k hk hnumber => ?_)
    unfold Over at hover
    rw [connections_uvClose_self, hconnections] at hover
    cases hlist : s.connections x.apsclient with
    | nil =>
        rw [hlist] at hk
        cases hk
    | cons k' earlier =>
        rw [hlist] at hk hover
        rcases List.mem_cons.mp hk with rfl | hk
        · rw [currentNumber_of_head hlist] at hcurrent
          exact absurd hnumber.symm hcurrent
        · exact hover k (List.mem_cons_of_mem _ hk) hnumber
  · intro hcases r hr hdone
    have hearlier : Over s r.1 r.2 → Over ((s.completed x).uvClose x.apsclient true) r.1 r.2 :=
      fun hover => (hover.congr (connections_completed s x r.1)).uvClose true
    by_cases hflight : ResponseInFlight s r.1 r.2
    swap
    · exact hearlier (h.answered r hr hflight)
    -- the response that was in flight is the one completed
    obtain ⟨y, hy, hycallback, hyclient, hynumber⟩ := hflight
    have hyx : y = x := by
      by_contra hne
      exact hdone ⟨y, (List.mem_erase_of_ne hne).mpr hy, hycallback, hyclient, hynumber⟩
    subst hyx
    rw [← hyclient, ← hynumber] at hdone hearlier ⊢
    rcases hcases with hcurrent | hover | hmore
    · rw [hcurrent]
      exact over_uvClose_current (hsound.completed hx) true
    · exact hearlier hover
    · exact absurd hmore hdone

/-! ### Every callback, every run -/

/-- All contexts on the heap are owed exactly when none is there beyond them. -/
theorem allocated_iff (hsound : Sound maxClients s) :
    (∀ x, x ∈ s.heap ↔ x ∈ s.owed) ↔ Unaccounted s 0 := by
  unfold Unaccounted
  constructor
  · intro hmem
    have hperm := (List.perm_ext_iff_of_nodup (List.Nodup.of_map _ hsound.nodup_heap)
      (List.Nodup.of_map _ hsound.nodup_owed)).mpr hmem
    exact hperm.length_eq
  · intro hlength x
    rw [hsound.owed_heap.eq_of_length hlength.symm]

theorem Unaccounted.unique {m : Nat} (h : Unaccounted s n) (h' : Unaccounted s m) : n = m := by
  unfold Unaccounted at h h'
  omega

theorem writesAccounted_step (hsound : Sound maxClients s) (h : WritesAccounted s)
    (hlegal : Legal s e) :
    WritesAccounted (s.step e) ↔ s.refusals e = 0 ∧ ClosesItsOwn s e := by
  have hsound' : Sound maxClients (s.step e) := hsound.step hlegal
  have hrefusals : Unaccounted (s.step e) (s.refusals e) := by
    have hstep := ((allocated_iff hsound).mp h.allocated).step hsound hlegal
    rw [Nat.zero_add] at hstep
    exact hstep
  have hallocated : (∀ x, x ∈ (s.step e).heap ↔ x ∈ (s.step e).owed) ↔ s.refusals e = 0 := by
    rw [allocated_iff hsound']
    constructor
    · exact fun hnone => hrefusals.unique hnone
    · exact fun hnone => hnone ▸ hrefusals
  by_cases hresponse : ∃ address status b x, e = .written address status b ∧
      s.owed.find? (·.address == address) = some x ∧ x.callback = .onUvWriteThenClose
  · obtain ⟨address, status, b, x, rfl, hfind, hcallback⟩ := hresponse
    have hx : x ∈ s.owed := List.mem_of_find?_eq_some hfind
    have hanswered := answered_thenClose hsound h hx hcallback
    rw [← step_written_thenClose (b := b) hfind hcallback] at hanswered
    constructor
    · intro hafter
      refine ⟨hallocated.mp hafter.allocated, fun y hy _ => ?_⟩
      obtain rfl := Option.some.inj (hfind.symm.trans hy)
      exact hanswered.mp hafter.answered
    · rintro ⟨hnone, hcloses⟩
      exact ⟨hallocated.mpr hnone, hsound'.ledger, hanswered.mpr (hcloses x hfind hcallback)⟩
  · have hother : ∀ address status b x, e = .written address status b →
        s.owed.find? (·.address == address) = some x → x.callback = .onUvWrite := by
      intro address status b x he hfind
      cases hcallback : x.callback with
      | onUvWrite => rfl
      | onUvWriteThenClose => exact absurd ⟨address, status, b, x, he, hfind, hcallback⟩ hresponse
    constructor
    · intro hafter
      refine ⟨hallocated.mp hafter.allocated, ?_⟩
      cases e with
      | written address status b =>
          intro x hfind hcallback
          rw [hother address status b x rfl hfind] at hcallback
          cases hcallback
      | listen status result b => trivial
      | read client nread b => trivial
      | closed client number b => trivial
      | tick timestamp b => trivial
      | removeApsClient client => trivial
    · rintro ⟨hnone, -⟩
      have hall := hallocated.mpr hnone
      obtain ⟨u, hu, hsends⟩ := step_outline s e
      exact ⟨hall, hsound'.ledger, answered_sends hsends (fun x hx => (hall x).mp hx)
        (answered_outline hsound h hother hu)⟩

/-- Two clients ask for a page each, the second of them sends data as well, and the completions come across
one another. -/
def twoServed : List (Event .plain) :=
  [.listen 0 0 (.silent _), .listen 0 0 (.silent _),
    .read 0 18 ⟨⟨[.onIncomingHttpRequest ⟨.get, ⟨"/index.html"⟩⟩ true], id⟩, 18, .silent _, .silent _⟩,
    .read 1 20 ⟨⟨[.sendTcpData [1] true, .onIncomingHttpRequest ⟨.post, ⟨"/"⟩⟩ true], id⟩, 20, .silent _,
      .silent _⟩,
    .written 1 0 (.silent _), .written 0 0 (.silent _), .written 2 0 (.silent _),
    .closed 0 0 (.silent _), .closed 1 0 (.silent _)]

/-- libuv refuses the write of an answer. -/
def refusedWrite : List (Event .plain) :=
  [.listen 0 0 (.silent _),
    .read 0 18 ⟨⟨[.sendTcpData [1] false], id⟩, 18, .silent _, .silent _⟩]

/-- The contexts of the writes that libuv did not take. -/
def refusedContexts (s : NetworkService M) : List UvWriteContext := s.heap.filter (!·.taken)

/-- The address of the write that completes. -/
def Event.completion : Event M → Option Nat
  | .written address _ _ => some address
  | _ => none

/-- A callback deletes the context of the write it completes, and nothing else. -/
theorem Outline.books (hsound : Sound maxClients s) (hlegal : Legal s e) (hu : Outline s e u) :
    e.completion = none ∧ u.heap = s.heap ∧ u.deleted = s.deleted ∨
      ∃ x ∈ s.owed, e.completion = some x.address ∧ u.heap = s.heap.erase x ∧
        u.deleted = s.deleted ++ [x.address] := by
  cases hu with
  | listenFailed hstatus => exact Or.inl ⟨rfl, rfl, rfl⟩
  | exhausted hnone => exact Or.inl ⟨rfl, rfl, rfl⟩
  | taken hlast => exact Or.inl ⟨rfl, rfl, rfl⟩
  | refused hlast hresult =>
      exact Or.inl ⟨rfl, refused_heap s _ hresult, refused_deleted s _ hresult⟩
  | ended hnread => exact Or.inl ⟨rfl, removeApsClient_heap _ _, removeApsClient_deleted _ _⟩
  | data hnread hreturned => exact Or.inl ⟨rfl, rfl, rfl⟩
  | dataRefused hnread hreturned => exact Or.inl ⟨rfl, rfl, rfl⟩
  | @wrote address status b x hfind hcallback hstatus =>
      have haddress : x.address = address := by simpa using List.find?_some hfind
      exact Or.inr ⟨x, List.mem_of_find?_eq_some hfind, congrArg some haddress.symm, rfl, rfl⟩
  | @wroteThenClosed address status b x hfind hcloses =>
      have haddress : x.address = address := by simpa using List.find?_some hfind
      exact Or.inr ⟨x, List.mem_of_find?_eq_some hfind, congrArg some haddress.symm,
        uvClose_heap _ _ _, uvClose_deleted _ _ _⟩
  | strayWritten hfind =>
      obtain ⟨x, hx, haddress⟩ := hlegal.2
      rw [← haddress, hsound.find_owed hx] at hfind
      cases hfind
  | closedOnly hcallback => exact Or.inl ⟨rfl, rfl, rfl⟩
  | closed hcallback => exact Or.inl ⟨rfl, removeApsClient_heap _ _, removeApsClient_deleted _ _⟩
  | ticked => exact Or.inl ⟨rfl, rfl, rfl⟩
  | removed => exact Or.inl ⟨rfl, removeApsClient_heap _ _, removeApsClient_deleted _ _⟩

theorem deleted_step (hsound : Sound maxClients s) (hlegal : Legal s e) :
    (s.step e).deleted = s.deleted ++ e.completion.toList := by
  obtain ⟨u, hu, hsends⟩ := step_outline s e
  rw [hsends.deleted]
  rcases hu.books hsound hlegal with ⟨hnone, -, hdeleted⟩ | ⟨x, -, hsome, -, hdeleted⟩
  · rw [hnone, hdeleted]
    exact (List.append_nil _).symm
  · rw [hsome, hdeleted]
    rfl

/-- The context of a write that was not taken is nobody's to delete. -/
theorem mem_refusedContexts_step (hsound : Sound maxClients s) (hlegal : Legal s e) {x : UvWriteContext}
    (hx : x ∈ s.refusedContexts) : x ∈ (s.step e).refusedContexts := by
  obtain ⟨hheap, hrefused⟩ := List.mem_filter.mp hx
  obtain ⟨u, hu, hsends⟩ := step_outline s e
  obtain ⟨written, hwritten, -⟩ := hsends.heap
  refine List.mem_filter.mpr ⟨?_, hrefused⟩
  rw [hwritten]
  refine List.mem_append_left _ ?_
  rcases hu.books hsound hlegal with ⟨-, hsame, -⟩ | ⟨y, hy, -, herased, -⟩
  · rw [hsame]
    exact hheap
  · rw [herased]
    refine (List.mem_erase_of_ne ?_).mpr hheap
    rintro rfl
    rw [hsound.owedTaken] at hy
    rw [(List.mem_filter.mp hy).2] at hrefused
    cases hrefused

theorem deleted_run {events : List (Event M)} (hlegal : (service M).Legal s events)
    (hsound : (service M).Visits (Sound maxClients) s events) :
    ((service M).run s events).deleted = s.deleted ++ events.filterMap Event.completion := by
  induction events generalizing s with
  | nil => exact (List.append_nil _).symm
  | cons e events ih =>
      have hfirst : ((service M).step s e).deleted = s.deleted ++ e.completion.toList :=
        deleted_step hsound.1 hlegal.1
      calc ((service M).run s (e :: events)).deleted
          = ((service M).step s e).deleted ++ events.filterMap Event.completion :=
            ih hlegal.2 hsound.2
        _ = s.deleted ++ (e.completion.toList ++ events.filterMap Event.completion) := by
            rw [hfirst, List.append_assoc]
        _ = s.deleted ++ (e :: events).filterMap Event.completion := by
            rw [List.filterMap_cons]
            cases e.completion <;> rfl

/-- **Balance.** After a legal run the heap holds the contexts of the writes libuv owes and those of the
writes it has refused; each address was allocated once, and is on the heap or was deleted by the completion
of its write; there are as many contexts of the second kind as refusals in the run; and they stay. -/
theorem writes_balance (maxClients : Int) (events more : List (Event M))
    (hlegal : (service M).Legal (constructed M maxClients) (events ++ more)) :
    let s := (service M).run (constructed M maxClients) events
    s.heap.Perm (s.owed ++ s.refusedContexts) ∧
      (List.range s.nextAddress).Perm (s.heap.map (·.address) ++ s.deleted) ∧
      s.deleted = events.filterMap Event.completion ∧
      s.refusedContexts.length = (service M).total refusals (constructed M maxClients) events ∧
      ∀ x ∈ s.refusedContexts,
        x ∈ ((service M).run s more).heap ∧ x ∉ ((service M).run s more).owed := by
  intro s
  obtain ⟨hevents, hmore⟩ := Transition.Machine.steps_append.mp hlegal
  have hsounds := run_sound hevents
  have hsound : Sound maxClients s := hsounds.last
  have hperm : s.heap.Perm (s.owed ++ s.refusedContexts) := by
    rw [hsound.owedTaken]
    exact (List.filter_append_perm (·.taken) s.heap).symm
  have hleaked : Unaccounted s (0 + (service M).total refusals (constructed M maxClients) events) :=
    Transition.Machine.run_total (P := Unaccounted)
      (fun _ _ _ hsound hl h => Unaccounted.step h hsound hl) hsounds hevents rfl
  have hlast : (service M).Visits (fun t => Sound maxClients t ∧ ∀ x ∈ s.refusedContexts,
      x ∈ t.refusedContexts) s more :=
    Transition.Machine.visits_of_preserved (fun t e h hl =>
      ⟨h.1.step hl, fun x hx => mem_refusedContexts_step h.1 hl (h.2 x hx)⟩) ⟨hsound, fun _ hx => hx⟩ hmore
  obtain ⟨hsound', hstay⟩ := hlast.last
  refine ⟨hperm, hsound.ledger.symm, deleted_run hevents hsounds, ?_, fun x hx => ?_⟩
  · have hlength := hperm.length_eq
    rw [List.length_append, hleaked, Nat.zero_add] at hlength
    omega
  · obtain ⟨hheap, hrefused⟩ := List.mem_filter.mp (hstay x hx)
    refine ⟨hheap, fun howed => ?_⟩
    rw [hsound'.owedTaken] at howed
    rw [(List.mem_filter.mp howed).2] at hrefused
    cases hrefused

/-- The context of the refused write outlives the disconnection of its client. -/
theorem writes_balance_refusedWrite :
    ((service .plain).run (constructed .plain 1) refusedWrite).refusedContexts.length = 1 ∧
      ∀ x ∈ ((service .plain).run (constructed .plain 1) refusedWrite).refusedContexts,
        x ∈ ((service .plain).run ((service .plain).run (constructed .plain 1) refusedWrite)
          [.read 0 (-4095) (.silent _ 0)]).heap ∧
        x ∉ ((service .plain).run ((service .plain).run (constructed .plain 1) refusedWrite)
          [.read 0 (-4095) (.silent _ 0)]).owed :=
  (writes_balance 1 refusedWrite [.read 0 (-4095) (.silent _ 0)] (by decide)).2.2.2

end NetworkService

end AvdeccProxy
