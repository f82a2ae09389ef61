import AvdeccProxy.ServiceSound
import AvdeccProxy.TransitionViews

/-! Connections nobody can close. A handler goes back to the pool with its handle as it is, and
`uv_tcp_init` makes the handle of the next connection out of it. If it was still open, its connection is
open for good: `uv_close` only ever reaches the handle as it is now. -/

namespace AvdeccProxy

namespace NetworkService

open ApsClient Transition

variable {M : Mcu} {s t u : NetworkService M} {e : Event M} {c : ClientPtr} {n : Nat}
  {maxClients : Int}

/-- The connection is open, and its handle was initialised anew. -/
def Lost (s : NetworkService M) (c : ClientPtr) (n : Nat) : Prop :=
  ∃ k ∈ (s.connections c).tail, k.number = n ∧ k.phase = .opened

/-- A connection is announced, and the handler that is picked still hosts the open connection `n`. -/
def Replaces (c : ClientPtr) (n : Nat) (s : NetworkService M) : Event M → Prop
  | .listen status _ _ => status = 0 ∧ s.availableClientHandlers.getLast? = some c ∧
      s.isOpen c = true ∧ s.currentNumber c = n
  | _ => False

/-! ### One callback -/

theorem lost_congr (h : (t.connections c).tail = (s.connections c).tail) :
    Lost t c n ↔ Lost s c n := by
  unfold Lost
  rw [h]

/-- A handler that hosts one more connection loses the one it has, if that is open. -/
theorem lost_host {k : Connection} (h : t.connections c = k :: s.connections c) :
    Lost t c n ↔ Lost s c n ∨ s.isOpen c = true ∧ s.currentNumber c = n := by
  unfold Lost isOpen currentNumber
  rw [h, List.tail_cons]
  cases s.connections c with
  | nil => simp [Connection.isOpen]
  | cons k earlier =>
      simp only [List.mem_cons, exists_eq_or_imp, Connection.isOpen, Connection.currentNumber,
        List.tail_cons, beq_iff_eq]
      exact or_comm.trans (or_congr_right and_comm)

/-- The close that completes is not the close of an open connection. -/
theorem lost_uvClosed (hsound : Sound maxClients s) {client : ClientPtr} {number : Nat}
    (hclosing : ∃ k ∈ s.connections client, k.number = number ∧ k.phase = .closing) :
    Lost (s.uvClosed client number) c n ↔ Lost s c n := by
  by_cases hc : c = client
  swap
  · exact lost_congr (by rw [connections_uvClosed_of_ne s client number hc])
  subst hc
  obtain ⟨k, hk, hnumber, hphase⟩ := hclosing
  have hsame : ∀ k' ∈ s.connections c, k'.phase = .opened → closedAs number k' = k' := by
    intro k' hk' hopen
    refine if_neg fun heq => ?_
    rw [hsound.eq_of_number hk' hk (heq.trans hnumber.symm), hphase] at hopen
    cases hopen
  unfold Lost
  rw [connections_uvClosed_self, ← List.map_tail]
  constructor
  · rintro ⟨k', hk', hn, hopen⟩
    obtain ⟨k'', hk'', rfl⟩ := List.mem_map.mp hk'
    rcases closedAs_phase number k'' with hclosed | ⟨-, hkept⟩
    · rw [hclosed] at hopen
      cases hopen
    · exact ⟨k'', hk'', (closedAs_number number k'').symm.trans hn, hkept.symm.trans hopen⟩
  · rintro ⟨k', hk', hn, hopen⟩
    have hkept := hsame k' (List.mem_of_mem_tail hk') hopen
    exact ⟨k', List.mem_map.mpr ⟨k', hk', hkept⟩, hn, hopen⟩

theorem lost_outline (hsound : Sound maxClients s) (hlegal : Legal s e) (hu : Outline s e u) :
    Lost u c n ↔ Lost s c n ∨ Replaces c n s e := by
  cases hu with
  | listenFailed hstatus => exact (or_iff_left fun h => hstatus h.1).symm
  | exhausted hnone =>
      refine (or_iff_left fun h => ?_).symm
      have hlast := h.2.1
      rw [hnone] at hlast
      cases hlast
  | @taken b aps hlast =>
      by_cases hc : c = aps
      · subst hc
        refine (lost_host (connections_taken_self s c)).trans (or_congr_right ?_)
        exact ⟨fun h => ⟨rfl, hlast, h⟩, fun h => h.2.2⟩
      · have hsame := congrArg List.tail (connections_taken_of_ne s aps hc)
        refine (lost_congr hsame).trans (or_iff_left ?_).symm
        rintro ⟨-, hlast', -⟩
        exact hc (Option.some.inj (hlast'.symm.trans hlast))
  | @refused result b aps hlast hresult =>
      by_cases hc : c = aps
      · subst hc
        refine (lost_host (connections_refused_self s c hresult)).trans (or_congr_right ?_)
        exact ⟨fun h => ⟨rfl, hlast, h⟩, fun h => h.2.2⟩
      · have hsame := congrArg List.tail (connections_refused_of_ne s aps hresult hc)
        refine (lost_congr hsame).trans (or_iff_left ?_).symm
        rintro ⟨-, hlast', -⟩
        exact hc (Option.some.inj (hlast'.symm.trans hlast))
  | ended hnread =>
      exact (lost_congr (by rw [connections_removeApsClient, connections_notify])).trans
        (or_iff_left id).symm
  | data hnread hreturned =>
      exact (lost_congr (by rw [connections_notify])).trans (or_iff_left id).symm
  | dataRefused hnread hreturned =>
      exact (lost_congr (by rw [connections_notify, connections_notify])).trans (or_iff_left id).symm
  | wrote hfind hcallback hstatus => exact (or_iff_left id).symm
  | @wroteThenClosed address status b x hfind hcloses =>
      exact (lost_congr (tail_uvClose (s.completed x) _ _ c)).trans (or_iff_left id).symm
  | strayWritten hfind => exact (or_iff_left id).symm
  | closedOnly hcallback => exact (lost_uvClosed hsound hlegal.2.1).trans (or_iff_left id).symm
  | @closed client number b hcallback =>
      exact (lost_congr (by rw [connections_removeApsClient])).trans
        ((lost_uvClosed hsound hlegal.2.1).trans (or_iff_left id).symm)
  | ticked => exact (or_iff_left id).symm
  | removed =>
      exact (lost_congr (by rw [connections_removeApsClient])).trans (or_iff_left id).symm

theorem lost_step (hsound : Sound maxClients s) (hlegal : Legal s e) :
    Lost (s.step e) c n ↔ Lost s c n ∨ Replaces c n s e := by
  obtain ⟨u, hu, hsends⟩ := step_outline s e
  rw [← lost_outline hsound hlegal hu]
  exact lost_congr (by rw [hsends.connections])

/-! ### Runs -/

/-- **Lost connections.** After a legal run a connection is open behind a handle that hosts another one
exactly when, at some step, a connection was announced and the handler picked for it still hosted the
first one open. -/
theorem lost_iff (maxClients : Int) (events : List (Event M)) (c : ClientPtr) (n : Nat)
    (hlegal : (service M).Legal (constructed M maxClients) events) :
    Lost ((service M).run (constructed M maxClients) events) c n ↔
      (service M).Sometime (Replaces c n) (constructed M maxClients) events := by
  have hnew : ¬ Lost (constructed M maxClients) c n := by
    rintro ⟨k, hk, -⟩
    cases hk
  exact (Machine.lasting_iff (P := (Lost · c n)) (fun _ _ => lost_step) (run_sound hlegal) hlegal).trans
    (or_iff_right hnew)

/-- A client comes and goes, and another one comes. -/
def comeGoCome : List (Event .plain) :=
  [.listen 0 0 (.silent _), .read 0 0 (.silent _ 0), .listen 0 0 (.silent _)]

theorem lost_iff_comeGoCome : Lost ((service .plain).run (constructed .plain 1) comeGoCome) 0 0 :=
  (lost_iff 1 comeGoCome 0 0 (by decide)).mpr
    (Or.inr (Or.inr (Or.inl ⟨rfl, by decide, by decide, by decide⟩)))

/-! ### No bound -/

/-- The handler has hosted `n` connections, all of them open, and nothing is in the way of the next. -/
structure AllOpen (s : NetworkService M) (c : ClientPtr) (n : Nat) : Prop where
  live : s.aborted = false
  waiting : s.waiting = false
  opened : ∀ k ∈ s.connections c, k.phase = .opened
  length : (s.connections c).length = n

/-- No client is connected, and `c` is the next handler. -/
structure Idle (s : NetworkService M) (c : ClientPtr) (n : Nat) : Prop extends AllOpen s c n where
  active : s.activeClientHandlers = []
  last : s.availableClientHandlers.getLast? = some c

/-- The client of `c` is the only one connected. -/
structure Busy (s : NetworkService M) (c : ClientPtr) (n : Nat) : Prop extends AllOpen s c n where
  active : s.activeClientHandlers = [c]
  readable : s.isReadable c = true

theorem Idle.come (h : Idle s c n) :
    Legal s (.listen 0 0 (.silent M)) ∧ Busy (s.step (.listen 0 0 (.silent M))) c (n + 1) := by
  have htaken := step_taken (b := .silent M) h.last
  have hconnections := (htaken.connections c).trans (connections_taken_self s c)
  refine ⟨⟨h.live, fun _ => h.waiting⟩, ⟨htaken.aborted.trans h.live, htaken.waiting, ?_, ?_⟩, ?_, ?_⟩
  · rw [hconnections]
    exact List.forall_mem_cons.mpr ⟨rfl, h.opened⟩
  · rw [hconnections, List.length_cons, h.length]
  · rw [htaken.active]
    exact congrArg (· ++ [c]) h.active
  · rw [isReadable_iff, hconnections]
    exact ⟨_, rfl, rfl, rfl, rfl⟩

/-- The connection of a client that goes stays with the handler, open. -/
theorem Busy.go (h : Busy s c n) :
    Legal s (.read c 0 (.silent M 0)) ∧ Idle (s.step (.read c 0 (.silent M 0))) c n := by
  have hended := step_ended (s := s) (c := c) (b := .silent M 0) (Int.le_refl 0)
  have hmem : c ∈ (notify s c .onTcpConnectionClosed).activeClientHandlers := by
    show c ∈ s.activeClientHandlers
    rw [h.active]
    exact List.mem_singleton_self c
  have hconnections := hended.connections c
  rw [connections_removeApsClient, connections_notify] at hconnections
  rw [removeApsClient_of_mem hmem] at hended
  refine ⟨⟨h.live, h.readable⟩, ⟨hended.aborted.trans h.live, hended.waiting.trans h.waiting, ?_, ?_⟩,
    ?_, ?_⟩
  · rw [hconnections]
    exact h.opened
  · rw [hconnections, h.length]
  · rw [hended.active]
    show s.activeClientHandlers.erase c = []
    rw [h.active, List.erase_cons_head]
  · rw [hended.available]
    exact List.getLast?_concat

/-- `n` clients come and go, one after another. -/
def comeAndGo (M : Mcu) (c : ClientPtr) : Nat → List (Event M)
  | 0 => []
  | n + 1 => comeAndGo M c n ++ [.listen 0 0 (.silent M), .read c 0 (.silent M 0)]

theorem idle_comeAndGo (h : Idle s c 0) (n : Nat) :
    (service M).Legal s (comeAndGo M c n) ∧ Idle ((service M).run s (comeAndGo M c n)) c n := by
  induction n with
  | zero => exact ⟨trivial, h⟩
  | succ n ih =>
      obtain ⟨hlegal, hidle⟩ := ih
      obtain ⟨hcome, hbusy⟩ := hidle.come
      obtain ⟨hgo, hidle'⟩ := hbusy.go
      rw [comeAndGo, Machine.run_append]
      exact ⟨Machine.steps_append.mpr ⟨hlegal, hcome, hgo, trivial⟩, hidle'⟩

/-- **No bound.** However few handlers there are, any number of connections can be left open with no client
connected any more. -/
theorem lost_unbounded (M : Mcu) (maxClients : Int) (hpool : 0 < maxClients) (n : Nat) :
    ∃ events c, (service M).Legal (constructed M maxClients) events ∧
      ((service M).run (constructed M maxClients) events).activeClientHandlers = [] ∧
      (((service M).run (constructed M maxClients) events).connections c).length = n ∧
      ∀ k ∈ ((service M).run (constructed M maxClients) events).connections c,
        k.phase = .opened := by
  have hne : List.range maxClients.toNat ≠ [] := by
    rw [Ne, List.range_eq_nil]
    omega
  have hidle : Idle (constructed M maxClients) ((List.range maxClients.toNat).getLast hne) 0 :=
    ⟨⟨rfl, rfl, nofun, rfl⟩, rfl, List.getLast?_eq_some_getLast hne⟩
  obtain ⟨hlegal, hend⟩ := idle_comeAndGo hidle n
  exact ⟨_, _, hlegal, hend.active, hend.length, hend.opened⟩

theorem lost_unbounded_two :
    ∃ events c, (service .plain).Legal (constructed .plain 1) events ∧
      ((service .plain).run (constructed .plain 1) events).activeClientHandlers = [] ∧
      (((service .plain).run (constructed .plain 1) events).connections c).length = 2 ∧
      ∀ k ∈ ((service .plain).run (constructed .plain 1) events).connections c,
        k.phase = .opened :=
  lost_unbounded .plain 1 (by decide) 2

end NetworkService

end AvdeccProxy
