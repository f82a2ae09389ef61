import AvdeccProxy.ClientPool
import AvdeccProxy.TransitionViews
import AvdeccProxy.Turnstile

/-! Who is let in. Seen from the listening handle the service is a turnstile with room for the handlers
of the constructor: `uv_accept` is called when a connection is announced and at no other time, so that
the first connection announced with no handler free is the last one libuv announces. -/

namespace AvdeccProxy

namespace NetworkService

open Transition Turnstile

variable {M : Mcu} {A : ClientPtr → Prop} {s t u : NetworkService M} {e : Event M} {c : ClientPtr}
  {maxClients : Int}

/-- The service as a turnstile: the active handlers are inside. -/
def turnstile (s : NetworkService M) : Turnstile.State ClientPtr where
  inside := s.activeClientHandlers.toFinset
  waiting := s.waiting

/-- A connection is announced only while a handler is free. -/
def AnnouncedInTime (s : NetworkService M) : Event M → Prop
  | .listen status _ _ => status = 0 → s.availableClientHandlers ≠ []
  | _ => True

/-! ### The service as a turnstile -/

theorem turnstile_congr (hactive : t.activeClientHandlers = s.activeClientHandlers)
    (hwaiting : t.waiting = s.waiting) : t.turnstile = s.turnstile := by
  unfold turnstile
  rw [hactive, hwaiting]

theorem PoolConserved.card_inside (h : PoolConserved maxClients s) :
    s.turnstile.inside.card + s.availableClientHandlers.length = maxClients.toNat := by
  have hlength := List.Perm.length_eq h
  rw [List.length_append, List.length_range] at hlength
  rw [turnstile, List.toFinset_card_of_nodup h.nodup_active]
  exact hlength

theorem removeApsClient_move (hnodup : s.activeClientHandlers.Nodup) (c : ClientPtr) :
    Move maxClients.toNat s.turnstile (s.removeApsClient c).turnstile := by
  by_cases hc : c ∈ s.activeClientHandlers
  · have hinside : (s.removeApsClient c).turnstile =
        { s.turnstile with inside := s.turnstile.inside.erase c } := by
      rw [removeApsClient_of_mem hc]
      unfold turnstile
      congr 1
      ext d
      rw [List.mem_toFinset, hnodup.mem_erase_iff, Finset.mem_erase, List.mem_toFinset]
    rw [hinside]
    exact .leave
  · rw [removeApsClient_of_not_mem hc]
    exact .idle

theorem taken_move (hpool : PoolConserved maxClients s) (hgate : s.waiting = false)
    {aps : ClientPtr} (hlast : s.availableClientHandlers.getLast? = some aps) :
    Move maxClients.toNat s.turnstile (s.taken aps).turnstile := by
  have hmem : aps ∈ s.availableClientHandlers := List.mem_of_getLast? hlast
  have hinside : (s.taken aps).turnstile =
      { s.turnstile with inside := insert aps s.turnstile.inside } := by
    show Turnstile.State.mk (s.activeClientHandlers ++ [aps]).toFinset false = _
    rw [List.toFinset_append, Finset.union_comm, turnstile, hgate]
    rfl
  rw [hinside]
  refine .enter hgate (fun hin => ?_) ?_
  · exact hpool.not_mem_available (List.mem_toFinset.mp hin) hmem
  · have hcard := hpool.card_inside
    have hpos := List.length_pos_of_mem hmem
    omega

theorem outline_move (hpool : PoolConserved maxClients s) (hlegal : Legal s e)
    (hu : Outline s e u) : Move maxClients.toNat s.turnstile u.turnstile := by
  cases hu with
  | listenFailed hstatus => exact .idle
  | exhausted hnone =>
      refine .turnAway (hlegal.2 rfl) ?_
      have hcard := hpool.card_inside
      rw [hnone] at hcard
      exact hcard
  | taken hlast => exact taken_move hpool (hlegal.2 rfl) hlast
  | refused hlast hresult =>
      rw [turnstile_congr (refused_active s _ hresult)
        ((refused_waiting s _ hresult).trans (hlegal.2 rfl).symm)]
      exact .idle
  | ended hnread => exact removeApsClient_move (s := ApsClient.notify s _ _) hpool.nodup_active _
  | data hnread hreturned => exact .idle
  | dataRefused hnread hreturned => exact .idle
  | wrote hfind hcallback hstatus => exact .idle
  | @wroteThenClosed address status b x hfind hcloses =>
      rw [turnstile_congr (s := s.completed x) (uvClose_active _ _ _) (uvClose_waiting _ _ _)]
      exact .idle
  | strayWritten hfind => exact .idle
  | closedOnly hcallback => exact .idle
  | closed hcallback => exact removeApsClient_move (s := s.uvClosed _ _) hpool.nodup_active _
  | ticked => exact .idle
  | removed => exact removeApsClient_move hpool.nodup_active _

theorem step_move (hpool : PoolConserved maxClients s) (hlegal : Legal s e) :
    Move maxClients.toNat s.turnstile (s.step e).turnstile := by
  obtain ⟨u, hu, hsends⟩ := step_outline s e
  rw [turnstile_congr hsends.active hsends.waiting]
  exact outline_move hpool hlegal hu

/-- **Admission.** The states of a legal run are a path of the turnstile. -/
theorem run_refines_turnstile (maxClients : Int) (events : List (Event M))
    (hlegal : (service M).Legal (constructed M maxClients) events) :
    (((service M).path (constructed M maxClients) events).map turnstile).IsChain
      (Move maxClients.toNat) :=
  Machine.isChain_path (fun _ _ h => step_move h.1 h.2)
    (Machine.Steps.and_visits hlegal (run_poolConserved maxClients events))

/-- Two clients for one handler. -/
def oneTooMany : List (Event .plain) := [.listen 0 0 (.silent _), .listen 0 0 (.silent _)]

theorem run_refines_turnstile_oneTooMany :
    (((service .plain).path (constructed .plain 1) oneTooMany).map turnstile).IsChain (Move 1) :=
  run_refines_turnstile 1 oneTooMany (by decide)

/-! ### The last connection -/

/-- No connection was taken since `s`: one still waits, and no handler is newly active or has got another
connection. -/
structure NothingTaken (s t : NetworkService M) : Prop where
  waiting : t.waiting = true
  active : t.activeClientHandlers ⊆ s.activeClientHandlers
  connections : ∀ c, (t.connections c).length = (s.connections c).length

theorem length_connections_outline (hwaiting : s.waiting = true) (hlegal : Legal s e)
    (hu : Outline s e u) (c : ClientPtr) : (u.connections c).length = (s.connections c).length := by
  have hgate : ∀ {status result b}, e = .listen status result b → status ≠ 0 := by
    rintro status result b rfl rfl
    have := hlegal.2 rfl
    rw [hwaiting] at this
    cases this
  cases hu with
  | listenFailed hstatus => rfl
  | exhausted hnone => exact absurd rfl (hgate rfl)
  | taken hlast => exact absurd rfl (hgate rfl)
  | refused hlast hresult => exact absurd rfl (hgate rfl)
  | ended hnread => rw [connections_removeApsClient, connections_notify]
  | data hnread hreturned => rw [connections_notify]
  | dataRefused hnread hreturned => rw [connections_notify, connections_notify]
  | wrote hfind hcallback hstatus => rfl
  | @wroteThenClosed address status b x hfind hcloses =>
      by_cases hc : c = x.apsclient
      · rw [hc, connections_uvClose_self, connections_completed, List.length_modifyHead]
      · rw [connections_uvClose_of_ne _ _ _ hc, connections_completed]
  | strayWritten hfind => rfl
  | @closedOnly client number b hcallback =>
      by_cases hc : c = client
      · rw [hc, connections_uvClosed_self, List.length_map]
      · rw [connections_uvClosed_of_ne s client number hc]
  | @closed client number b hcallback =>
      rw [connections_removeApsClient]
      by_cases hc : c = client
      · rw [hc, connections_uvClosed_self, List.length_map]
      · rw [connections_uvClosed_of_ne s client number hc]
  | ticked => rfl
  | removed => rw [connections_removeApsClient]

theorem length_connections_step (hwaiting : s.waiting = true) (hlegal : Legal s e) (c : ClientPtr) :
    ((s.step e).connections c).length = (s.connections c).length := by
  obtain ⟨u, hu, hsends⟩ := step_outline s e
  rw [hsends.connections, length_connections_outline hwaiting hlegal hu]

/-- A legal run takes nothing while a connection waits. -/
theorem visits_nothingTaken {more : List (Event M)} (hpool : PoolConserved maxClients s)
    (hwaiting : s.waiting = true) (hlegal : (service M).Legal s more) :
    (service M).Visits (NothingTaken s) s more := by
  have hpools : (service M).Visits (PoolConserved maxClients) s more :=
    Machine.visits_of_preserved (fun _ e h _ => h.step e) hpool hlegal
  have hpath : (((service M).path s more).map turnstile).IsChain (Move maxClients.toNat) :=
    Machine.isChain_path (fun _ _ h => step_move h.1 h.2) (Machine.Steps.and_visits hlegal hpools)
  rw [Machine.path_eq_cons, List.map_cons] at hpath
  have hclosed : ∀ t ∈ (service M).path s more,
      t.waiting = true ∧ t.turnstile.inside ⊆ s.turnstile.inside := by
    intro t ht
    apply waiting_of_isChain hpath hwaiting t.turnstile
    rw [← List.map_cons, ← Machine.path_eq_cons]
    exact List.mem_map_of_mem ht
  have hlength : (service M).Visits (fun t => ∀ c, (t.connections c).length =
      (s.connections c).length) s more := by
    refine Machine.visits_of_preserved (fun t e h hl c => ?_) (fun _ => rfl)
      (Machine.Steps.and_visits hlegal (Machine.visits_iff_path.mpr fun t ht => (hclosed t ht).1))
    rw [← h c]
    exact length_connections_step hl.1 hl.2 c
  refine Machine.visits_iff_path.mpr fun t ht => ⟨(hclosed t ht).1, fun c hc => ?_,
    Machine.visits_iff_path.mp hlength t ht⟩
  exact List.mem_toFinset.mp ((hclosed t ht).2 (List.mem_toFinset.mpr hc))

/-- A connection is left waiting exactly when it is announced with no handler free. -/
theorem waiting_step (hfree : s.waiting = false) (e : Event M) :
    (s.step e).waiting = false ↔ AnnouncedInTime s e := by
  obtain ⟨u, hu, hsends⟩ := step_outline s e
  rw [hsends.waiting]
  cases hu with
  | listenFailed hstatus => exact iff_of_true hfree fun h => absurd h hstatus
  | exhausted hnone => exact iff_of_false (fun h => nomatch h) fun h => h rfl hnone
  | taken hlast =>
      refine iff_of_true rfl fun _ hnone => ?_
      rw [hnone] at hlast
      cases hlast
  | refused hlast hresult =>
      refine iff_of_true (refused_waiting s _ hresult) fun _ hnone => ?_
      rw [hnone] at hlast
      cases hlast
  | ended hnread =>
      refine iff_of_true ?_ trivial
      rw [removeApsClient_frame]
      exact hfree
  | data hnread hreturned => exact iff_of_true hfree trivial
  | dataRefused hnread hreturned => exact iff_of_true hfree trivial
  | wrote hfind hcallback hstatus => exact iff_of_true hfree trivial
  | wroteThenClosed hfind hcloses =>
      refine iff_of_true ?_ trivial
      rw [uvClose_waiting]
      exact hfree
  | strayWritten hfind => exact iff_of_true hfree trivial
  | closedOnly hcallback => exact iff_of_true hfree trivial
  | closed hcallback =>
      refine iff_of_true ?_ trivial
      rw [removeApsClient_frame]
      exact hfree
  | ticked => exact iff_of_true hfree trivial
  | removed =>
      refine iff_of_true ?_ trivial
      rw [removeApsClient_frame]
      exact hfree

theorem visits_not_waiting_iff (maxClients : Int) (events : List (Event M)) :
    (service M).Visits (·.waiting = false) (constructed M maxClients) events ↔
      (service M).Steps AnnouncedInTime (constructed M maxClients) events :=
  Machine.visits_iff_steps (I := fun _ => True) (fun _ e _ hfree _ => waiting_step hfree e)
    (fun _ _ _ _ _ _ => trivial) trivial rfl (Machine.steps_true _ events)

/-- **The last connection.** As long as connections are announced in time none waits. After the first that
is not, whatever callbacks libuv makes, no connection is taken any more. -/
theorem lastConnection (maxClients : Int) (events more : List (Event M))
    (hlegal : (service M).Legal (constructed M maxClients) (events ++ more)) :
    ((service M).Visits (·.waiting = false) (constructed M maxClients) events ↔
        (service M).Steps AnnouncedInTime (constructed M maxClients) events) ∧
      (((service M).run (constructed M maxClients) events).waiting = true →
        (service M).Visits (NothingTaken ((service M).run (constructed M maxClients) events))
          ((service M).run (constructed M maxClients) events) more) := by
  refine ⟨visits_not_waiting_iff maxClients events, fun hwaiting => ?_⟩
  have hpool := (run_poolConserved (M := M) maxClients events).last
  exact visits_nothingTaken hpool hwaiting (Machine.steps_append.mp hlegal).2

/-- The client that was let in leaves; the next one waits, and so does everybody else. -/
theorem lastConnection_oneTooMany :
    (service .plain).Visits
      (NothingTaken ((service .plain).run (constructed .plain 1) oneTooMany))
      ((service .plain).run (constructed .plain 1) oneTooMany) [.read 0 (-4095) (.silent _ 0)] :=
  (lastConnection 1 oneTooMany [.read 0 (-4095) (.silent _ 0)] (by decide)).2 (by decide)

end NetworkService

end AvdeccProxy
