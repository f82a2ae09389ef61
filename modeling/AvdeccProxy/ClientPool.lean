import AvdeccProxy.ResourcePool
import AvdeccProxy.ServiceOutline

/-! The two handler lists. Over any callbacks whatever, legal or not, they hold the handlers of the
constructor between them; a connection is left waiting beside a free handler exactly when a handler is
released while one waits; and `stop` returns the pool only when there is nothing to stop. -/

namespace AvdeccProxy

namespace NetworkService

open ResourcePool

variable {M : Mcu} {A : ClientPtr → Prop} {s t u : NetworkService M} {e : Event M}
  {maxClients : Int}

/-- The two lists hold exactly the handlers made by the constructor. -/
def PoolConserved (maxClients : Int) (s : NetworkService M) : Prop :=
  Conserved (List.range maxClients.toNat) s.activeClientHandlers s.availableClientHandlers

/-- The callback moves `c` out of the active list. -/
def Releases (s : NetworkService M) : Event M → ClientPtr → Prop
  | .listen _ _ _, _ => False
  | .read client nread _, c => c = client ∧ nread ≤ 0 ∧ c ∈ s.activeClientHandlers
  | .written _ _ _, _ => False
  | .closed client number _, c =>
      c = client ∧ s.callsOnUvClose client number = true ∧ c ∈ s.activeClientHandlers
  | .tick _ _, _ => False
  | .removeApsClient client, c => c = client ∧ c ∈ s.activeClientHandlers

/-! ### Conservation -/

theorem PoolConserved.sends (h : PoolConserved maxClients s) (hsends : Sends A s t) :
    PoolConserved maxClients t := by
  unfold PoolConserved
  rw [hsends.active, hsends.available]
  exact h

theorem PoolConserved.removeApsClient (h : PoolConserved maxClients s) (c : ClientPtr) :
    PoolConserved maxClients (s.removeApsClient c) := by
  by_cases hc : c ∈ s.activeClientHandlers
  · rw [removeApsClient_of_mem hc]
    exact h.give hc
  · rw [removeApsClient_of_not_mem hc]
    exact h

theorem PoolConserved.outline (h : PoolConserved maxClients s) (hu : Outline s e u) :
    PoolConserved maxClients u := by
  cases hu with
  | listenFailed hstatus => exact h
  | exhausted hnone => exact h
  | taken hlast => exact h.take hlast
  | refused hlast hresult =>
      unfold PoolConserved
      rw [refused_active s _ hresult, refused_available s _ hresult]
      exact h
  | ended hnread =>
      apply PoolConserved.removeApsClient
      exact h
  | data hnread hreturned => exact h
  | dataRefused hnread hreturned => exact h
  | wrote hfind hcallback hstatus => exact h
  | wroteThenClosed hfind hcloses =>
      unfold PoolConserved
      rw [uvClose_active, uvClose_available]
      exact h
  | strayWritten hfind => exact h
  | closedOnly hcallback => exact h
  | closed hcallback =>
      apply PoolConserved.removeApsClient
      exact h
  | ticked => exact h
  | removed => exact h.removeApsClient _

theorem PoolConserved.step (h : PoolConserved maxClients s) (e : Event M) :
    PoolConserved maxClients (s.step e) := by
  obtain ⟨u, hu, hsends⟩ := step_outline s e
  exact (h.outline hu).sends hsends

theorem constructed_poolConserved (maxClients : Int) :
    PoolConserved maxClients (constructed M maxClients) := List.Perm.refl _

theorem run_poolConserved (maxClients : Int) (events : List (Event M)) :
    (service M).Visits (PoolConserved maxClients) (constructed M maxClients) events :=
  Transition.Machine.visits_of_preserved (fun _ e h _ => h.step e)
    (constructed_poolConserved maxClients) (Transition.Machine.steps_true _ events)

theorem PoolConserved.nodup_active (h : PoolConserved maxClients s) :
    s.activeClientHandlers.Nodup := Conserved.used_nodup h List.nodup_range

theorem PoolConserved.not_mem_available (h : PoolConserved maxClients s) {c : ClientPtr}
    (hc : c ∈ s.activeClientHandlers) : c ∉ s.availableClientHandlers :=
  Conserved.not_mem_free h List.nodup_range hc

/-- **The pool is conserved.** No handler is lost, none is twice in a list or in both, and no more are
active than were made. -/
theorem clientPool_conserved (maxClients : Int) (events : List (Event M)) :
    (service M).Visits
      (fun s =>
        (s.activeClientHandlers ++ s.availableClientHandlers).Perm (List.range maxClients.toNat) ∧
        (s.activeClientHandlers ++ s.availableClientHandlers).Nodup ∧
        (s.activeClientHandlers.length : Int) ≤ max 0 maxClients)
      (constructed M maxClients) events := by
  refine (run_poolConserved maxClients events).mono fun s hpool => ?_
  refine ⟨hpool, Conserved.nodup hpool List.nodup_range, ?_⟩
  have hlength := Conserved.length_used_le hpool
  rw [List.length_range] at hlength
  omega

/-- A service made for fewer than no clients has none, which is more. -/
theorem clientPool_negative :
    ¬ (((service .plain).run (constructed .plain (-1)) []).activeClientHandlers.length : Int) ≤ -1 := by
  decide

/-! ### Waiting connections -/

/-- A connection that was announced and never tried waits only while no handler is free. -/
def NoConnectionStranded (s : NetworkService M) : Prop :=
  s.waiting = true → s.availableClientHandlers = []

theorem noConnectionStranded_removeApsClient (c : ClientPtr) (h : NoConnectionStranded s) :
    NoConnectionStranded (s.removeApsClient c) ↔
      (s.waiting = true → c ∉ s.activeClientHandlers) := by
  by_cases hc : c ∈ s.activeClientHandlers
  · rw [removeApsClient_of_mem hc]
    simp [NoConnectionStranded, hc]
  · rw [removeApsClient_of_not_mem hc]
    exact iff_of_true h fun _ => hc

theorem noConnectionStranded_outline (h : NoConnectionStranded s) (hu : Outline s e u) :
    NoConnectionStranded u ↔ (s.waiting = true → ∀ c, ¬ Releases s e c) := by
  cases hu with
  | listenFailed hstatus => exact iff_of_true h fun _ _ => id
  | exhausted hnone => exact iff_of_true (fun _ => hnone) fun _ _ => id
  | taken hlast => exact iff_of_true (fun hwaiting => nomatch hwaiting) fun _ _ => id
  | refused hlast hresult =>
      refine iff_of_true (fun hwaiting => ?_) fun _ _ => id
      rw [refused_waiting s _ hresult] at hwaiting
      cases hwaiting
  | @ended client nread b hnread =>
      have hremoved : NoConnectionStranded _ ↔
          (s.waiting = true → client ∉ s.activeClientHandlers) :=
        noConnectionStranded_removeApsClient
          (s := ApsClient.notify s client .onTcpConnectionClosed) client h
      refine hremoved.trans ?_
      simp [Releases, hnread]
  | data hnread hreturned =>
      refine iff_of_true h fun _ c hreleases => ?_
      exact absurd hreleases.2.1 (Int.not_le.mpr hnread)
  | dataRefused hnread hreturned =>
      refine iff_of_true h fun _ c hreleases => ?_
      exact absurd hreleases.2.1 (Int.not_le.mpr hnread)
  | wrote hfind hcallback hstatus => exact iff_of_true h fun _ _ => id
  | wroteThenClosed hfind hcloses =>
      refine iff_of_true ?_ fun _ _ => id
      unfold NoConnectionStranded
      rw [uvClose_waiting, uvClose_available]
      exact h
  | strayWritten hfind => exact iff_of_true h fun _ _ => id
  | closedOnly hcallback => exact iff_of_true h fun _ c hreleases => by simp_all [Releases]
  | @closed client number b hcallback =>
      have hremoved : NoConnectionStranded _ ↔
          (s.waiting = true → client ∉ s.activeClientHandlers) :=
        noConnectionStranded_removeApsClient (s := s.uvClosed client number) client h
      refine hremoved.trans ?_
      simp [Releases, hcallback]
  | ticked => exact iff_of_true h fun _ _ => id
  | removed =>
      refine (noConnectionStranded_removeApsClient _ h).trans ?_
      simp [Releases]

theorem noConnectionStranded_step (h : NoConnectionStranded s) (e : Event M) :
    NoConnectionStranded (s.step e) ↔ (s.waiting = true → ∀ c, ¬ Releases s e c) := by
  obtain ⟨u, hu, hsends⟩ := step_outline s e
  refine Iff.trans ?_ (noConnectionStranded_outline h hu)
  unfold NoConnectionStranded
  rw [hsends.waiting, hsends.available]

/-- **Stranded connections.** A run keeps free handlers and waiting connections apart exactly when none
of its callbacks releases a handler while a connection waits: nothing goes back to the listening handle. -/
theorem noConnectionStranded_iff (maxClients : Int) (events : List (Event M)) :
    (service M).Visits NoConnectionStranded (constructed M maxClients) events ↔
      (service M).Steps (fun s e => s.waiting = true → ∀ c, ¬ Releases s e c)
        (constructed M maxClients) events :=
  Transition.Machine.visits_iff_steps (I := fun _ => True)
    (fun _ e _ hP _ => noConnectionStranded_step hP e) (fun _ _ _ _ _ _ => trivial) trivial
    (fun hwaiting => nomatch hwaiting) (Transition.Machine.steps_true _ events)

/-- One handler: a client connects, a second is announced, the first disconnects. -/
def fullThenFreed : List (Event .plain) :=
  [.listen 0 0 (.silent _), .listen 0 0 (.silent _), .read 0 (-4095) (.silent _ 0)]

/-- The second connection waits beside the free handler. -/
theorem fullThenFreed_stranded :
    (service .plain).Legal (constructed .plain 1) fullThenFreed ∧
      ¬ NoConnectionStranded ((service .plain).run (constructed .plain 1) fullThenFreed) := by
  refine ⟨by decide, fun h => ?_⟩
  exact absurd (h (by decide)) (by decide)

/-! ### Stop -/

/-- `stop` ends, has stopped each active handler once, and leaves every handler available once. -/
def StopReturnsPool (maxClients : Int) (s : NetworkService M) : Prop :=
  ∃ t stopped, s.stop = some (t, stopped) ∧ t.activeClientHandlers = [] ∧
    stopped.Perm s.activeClientHandlers ∧
    t.availableClientHandlers.Perm (List.range maxClients.toNat)

/-- A handler's own `stop` moves it to the available list already. -/
theorem stop_lists {aps : ClientPtr} (hmem : aps ∈ s.activeClientHandlers) :
    (ApsClient.stop s aps).activeClientHandlers = s.activeClientHandlers.erase aps ∧
      (ApsClient.stop s aps).availableClientHandlers = s.availableClientHandlers ++ [aps] := by
  have hsends := stop_sends (s := s) (A := (· = aps)) rfl
  rw [removeApsClient_of_mem hmem] at hsends
  exact ⟨hsends.active, hsends.available⟩

/-- Only the history sees a handler destroyed. -/
theorem dropReference_frame (s : NetworkService M) (c : ClientPtr) :
    s.dropReference c = { s with destroyed := (s.dropReference c).destroyed } := by
  unfold dropReference
  split <;> rfl

/-- A `pop_back` that is defined shortens the active list. -/
theorem popActive_lists (h : s.popActive = some t) :
    t.activeClientHandlers = s.activeClientHandlers.dropLast ∧
      t.availableClientHandlers = s.availableClientHandlers := by
  obtain ⟨popped, -, rfl⟩ := Option.map_eq_some_iff.mp h
  rw [dropReference_frame]
  exact ⟨rfl, rfl⟩

/-- One iteration returns the handler twice. -/
theorem stopLast_available {aps : ClientPtr} (hmem : aps ∈ s.activeClientHandlers)
    (h : s.stopLast aps = some t) :
    t.availableClientHandlers = s.availableClientHandlers ++ [aps] ++ [aps] := by
  rw [(popActive_lists h).2, ← (stop_lists hmem).2]

/-- A loop that ends was at its end, or has ended an iteration before. -/
theorem stopLoop_succ {fuel : Nat} {stopped : List ClientPtr}
    (h : stopLoop (fuel + 1) s = some (t, stopped)) :
    t = s ∧ s.activeClientHandlers = [] ∨
      ∃ aps s' stopped', s.activeClientHandlers.getLast? = some aps ∧ s.stopLast aps = some s' ∧
        stopLoop fuel s' = some (t, stopped') := by
  unfold stopLoop at h
  cases hlast : s.activeClientHandlers.getLast? with
  | none =>
      simp only [hlast] at h
      cases h
      exact Or.inl ⟨rfl, List.getLast?_eq_none_iff.mp hlast⟩
  | some aps =>
      simp only [hlast] at h
      cases hbody : s.stopLast aps with
      | none =>
          simp only [hbody] at h
          cases h
      | some s' =>
          simp only [hbody] at h
          obtain ⟨⟨t', stopped'⟩, hloop, heq⟩ := Option.map_eq_some_iff.mp h
          cases heq
          exact Or.inr ⟨aps, s', stopped', rfl, hbody, hloop⟩

/-- What was pushed on the available list stays there. -/
theorem stopLoop_available (fuel : Nat) {stopped : List ClientPtr}
    (h : stopLoop fuel s = some (t, stopped)) :
    s.availableClientHandlers.Sublist t.availableClientHandlers := by
  induction fuel generalizing s stopped with
  | zero =>
      cases h
      exact List.Sublist.refl _
  | succ fuel ih =>
      rcases stopLoop_succ h with ⟨rfl, -⟩ | ⟨aps, s', stopped', hlast, hbody, hloop⟩
      · exact List.Sublist.refl _
      · have hrest := ih hloop
        rw [stopLast_available (List.mem_of_getLast? hlast) hbody, List.append_assoc] at hrest
        exact (List.sublist_append_left _ _).trans hrest

/-- The first handler stopped ends in the available list twice, if the loop gets past it. -/
theorem stopLoop_twice (fuel : Nat) {aps : ClientPtr} {stopped : List ClientPtr}
    (hlast : s.activeClientHandlers.getLast? = some aps)
    (h : stopLoop (fuel + 1) s = some (t, stopped)) :
    2 ≤ t.availableClientHandlers.count aps := by
  rcases stopLoop_succ h with ⟨-, hnil⟩ | ⟨aps', s', stopped', hlast', hbody, hloop⟩
  · rw [hnil] at hlast
    cases hlast
  · obtain rfl := Option.some.inj (hlast.symm.trans hlast')
    have hcount := (stopLoop_available fuel hloop).count_le aps
    rw [stopLast_available (List.mem_of_getLast? hlast) hbody] at hcount
    simp only [List.count_append, List.count_singleton_self] at hcount
    omega

theorem not_stopReturnsPool (hactive : s.activeClientHandlers ≠ []) :
    ¬ StopReturnsPool maxClients s := by
  rintro ⟨t, stopped, hstop, -, -, havailable⟩
  obtain ⟨aps, hlast⟩ := Option.ne_none_iff_exists'.mp
    (mt List.getLast?_eq_none_iff.mp hactive)
  have hlength : s.activeClientHandlers.length = s.activeClientHandlers.length - 1 + 1 := by
    have := List.length_pos_iff.mpr hactive
    omega
  unfold stop at hstop
  rw [hlength] at hstop
  have htwice := stopLoop_twice
    (s := { s with tickTimerStopped := true, tcpServerClosing := true }) _ hlast hstop
  have hconserved : Conserved (List.range maxClients.toNat) [] t.availableClientHandlers := havailable
  exact Conserved.not_of_two_le_count List.nodup_range htwice hconserved

/-- **Stopping.** In every state the service can reach, `stop` returns the pool if and only if there is
no active handler: otherwise it calls `pop_back` on an empty vector or drops a handler and doubles one. -/
theorem stopReturnsPool_iff (maxClients : Int) (events : List (Event M)) :
    StopReturnsPool maxClients ((service M).run (constructed M maxClients) events) ↔
      ((service M).run (constructed M maxClients) events).activeClientHandlers = [] := by
  have hpool := (run_poolConserved (M := M) maxClients events).last
  generalize (service M).run (constructed M maxClients) events = s at hpool ⊢
  constructor
  · intro hstop
    by_contra hactive
    exact not_stopReturnsPool hactive hstop
  · intro hactive
    refine ⟨{ s with tickTimerStopped := true, tcpServerClosing := true }, [], ?_, hactive, ?_, ?_⟩
    · unfold stop
      rw [hactive]
      rfl
    · rw [hactive]
    · unfold PoolConserved Conserved at hpool
      rw [hactive] at hpool
      exact hpool

/-- With one client connected `stop` calls `pop_back` on an empty vector. -/
theorem stop_oneActive :
    (service .plain).Legal (constructed .plain 1) [.listen 0 0 (.silent _)] ∧
      ¬ StopReturnsPool 1
        ((service .plain).run (constructed .plain 1) [.listen 0 0 (.silent _)]) := by
  refine ⟨by decide, ?_⟩
  rintro ⟨t, stopped, hstop, -⟩
  have hnone : (((service .plain).run (constructed .plain 1)
      [.listen 0 0 (.silent _)]).stop).isNone = true := by decide
  rw [hstop] at hnone
  cases hnone

end NetworkService

end AvdeccProxy
