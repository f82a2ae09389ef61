import AvdeccProxy.ClientPool
import Mathlib.Algebra.Ring.Parity

/-! What `stop` does. A handler's own `stop` takes it out of the active list, so that the `pop_back` behind
it hits the next one: the loop stops every second handler, from the last on, and returns each of them twice.
The others lose their last `shared_ptr` and are destroyed, with their handles as they are. An odd one out is
followed by a `pop_back` of nothing. No connection is closed on the way. -/

namespace AvdeccProxy

/-- The first, third, fifth … element. -/
def everyOther {α : Type*} : List α → List α
  | [] => []
  | [x] => [x]
  | x :: _ :: rest => x :: everyOther rest

section everyOther

variable {α : Type*}

theorem everyOther_cons (x : α) (l : List α) : everyOther (x :: l) = x :: everyOther l.tail := by
  cases l with
  | nil => rfl
  | cons y rest => rfl

/-- Every other element, and every other one from the second on. -/
theorem everyOther_perm (l : List α) : (everyOther l ++ everyOther l.tail).Perm l := by
  induction l using everyOther.induct with
  | case1 => exact List.Perm.refl _
  | case2 x => exact List.Perm.refl _
  | case3 x y rest ih =>
      rw [everyOther, List.tail_cons, everyOther_cons, List.cons_append]
      exact (List.perm_middle.trans (ih.cons y)).cons x

end everyOther

namespace NetworkService

open ApsClient

variable {M : Mcu} {s t u : NetworkService M} {e : Event M} {c aps next : ClientPtr}
  {front : List ClientPtr} {maxClients : Int}

/-- `t` is `s` with the handlers in `stopped` stopped and those in `popped` destroyed: the first were cleared
and pushed back twice, the second are gone with the connections they had, no handler is active, and
everything else is as it was. -/
structure Drained (s t : NetworkService M) (stopped popped : List ClientPtr) : Prop where
  active : t.activeClientHandlers = []
  available : t.availableClientHandlers =
    s.availableClientHandlers ++ stopped.flatMap fun c => [c, c]
  destroyed : t.destroyed = s.destroyed ++ popped.map fun c => (c, s.connections c)
  cleared : ∀ c ∈ stopped, t.clients c = (s.clients c).cleared
  others : ∀ c, c ∉ stopped → c ∉ popped → t.clients c = s.clients c
  owed : t.owed = s.owed
  heap : t.heap = s.heap
  aborted : t.aborted = s.aborted
  tickTimerStopped : t.tickTimerStopped = s.tickTimerStopped
  tcpServerClosing : t.tcpServerClosing = s.tcpServerClosing

theorem Drained.connections {stopped popped : List ClientPtr} (h : Drained s t stopped popped)
    (hc : c ∉ popped) : t.connections c = s.connections c := by
  by_cases hstopped : c ∈ stopped
  · exact (congrArg ApsClient.connections (h.cleared c hstopped)).trans rfl
  · exact congrArg ApsClient.connections (h.others c hstopped hc)

/-- A handler that was destroyed is in neither list. -/
theorem Drained.not_mem_available {stopped popped : List ClientPtr} (h : Drained s t stopped popped)
    (hc : c ∉ s.availableClientHandlers) (hnot : c ∉ stopped) : c ∉ t.availableClientHandlers := by
  intro havailable
  rw [h.available] at havailable
  rcases List.mem_append.mp havailable with hfree | hpushed
  · exact hc hfree
  · obtain ⟨d, hd, hcd⟩ := List.mem_flatMap.mp hpushed
    have heq : c = d := by simpa using hcd
    exact hnot (heq ▸ hd)

/-! ### One iteration -/

/-- The state behind an iteration that stops `aps` and drops `next`. -/
def lastStopped (s : NetworkService M) (aps next : ClientPtr) (front : List ClientPtr) :
    NetworkService M :=
  { clear s aps with
    activeClientHandlers := front
    availableClientHandlers := s.availableClientHandlers ++ [aps] ++ [aps]
    destroyed := s.destroyed ++ [(next, s.connections next)]
    lives := s.lives ++ [s.notified aps] }

theorem connections_lastStopped (c : ClientPtr) :
    (s.lastStopped aps next front).connections c = s.connections c :=
  (clear_sends (A := fun _ => True) trivial).connections c

theorem clients_lastStopped_of_ne (h : c ≠ aps) :
    (s.lastStopped aps next front).clients c = s.clients c :=
  Function.update_of_ne h _ _

/-- A handler on its own leaves nothing behind for the `pop_back`. -/
theorem stopLast_of_singleton (hs : s.activeClientHandlers = [aps]) : s.stopLast aps = none := by
  have hmem : aps ∈ s.activeClientHandlers := hs ▸ List.mem_singleton_self aps
  have hempty : (ApsClient.stop s aps).activeClientHandlers = [] := by
    rw [(stop_lists hmem).1, hs]
    exact List.erase_cons_head aps []
  unfold stopLast popActive
  simp only [hempty]
  rfl

/-- Of the last two handlers one is stopped, and the `pop_back` destroys the other. -/
theorem stopLast_of_concat (hs : s.activeClientHandlers = front ++ [next] ++ [aps])
    (hnodup : s.activeClientHandlers.Nodup)
    (hfree : ∀ c ∈ s.activeClientHandlers, c ∉ s.availableClientHandlers) :
    s.stopLast aps = some (s.lastStopped aps next front) := by
  have hmem : aps ∈ (clear s aps).activeClientHandlers := by
    show aps ∈ s.activeClientHandlers
    rw [hs]
    exact List.mem_append_right _ (List.mem_singleton_self _)
  have hnext : next ∉ s.availableClientHandlers := by
    refine hfree next ?_
    rw [hs]
    exact List.mem_append_left _ (List.mem_append_right _ (List.mem_singleton_self _))
  rw [hs] at hnodup
  obtain ⟨hbefore, -, hlast⟩ := List.nodup_append.mp hnodup
  have hnot : aps ∉ front ++ [next] := fun h => hlast aps h aps (List.mem_singleton_self _) rfl
  have herase : (clear s aps).activeClientHandlers.erase aps = front ++ [next] := by
    show s.activeClientHandlers.erase aps = front ++ [next]
    rw [hs, List.erase_append_right _ hnot, List.erase_cons_head, List.append_nil]
  have hgone : ¬ (next ∈ front ∨ next ∈ s.availableClientHandlers ++ [aps] ++ [aps]) := by
    rintro (h | h)
    · exact (List.nodup_append.mp hbefore).2.2 next h next (List.mem_singleton_self _) rfl
    · simp only [List.mem_append, List.mem_singleton, hnext, false_or, or_self] at h
      exact hnot (h ▸ List.mem_append_right _ (List.mem_singleton_self _))
  have hnotified : (clear s aps).notified aps = s.notified aps :=
    (clear_sends (A := fun _ => True) trivial).notified aps
  unfold stopLast popActive ApsClient.stop
  simp only [removeApsClient_of_mem hmem, herase, List.getLast?_concat, Option.map_some,
    List.dropLast_concat, hnotified]
  refine congrArg some ((if_neg hgone).trans ?_)
  unfold lastStopped
  rw [← (clear_sends (s := s) (c := aps) (A := fun _ => True) trivial).connections next]
  rfl

/-- What the rest of the loop drains after an iteration. -/
theorem Drained.lastStopped {stopped popped : List ClientPtr} (hstopped : aps ∉ stopped)
    (hpopped : aps ∉ popped) (h : Drained (s.lastStopped aps next front) t stopped popped) :
    Drained s t (aps :: stopped) (next :: popped) where
  active := h.active
  available := by
    rw [h.available]
    show s.availableClientHandlers ++ [aps] ++ [aps] ++ _ = _
    simp only [List.flatMap_cons, List.append_assoc, List.cons_append, List.nil_append]
  destroyed := by
    rw [h.destroyed]
    show s.destroyed ++ [(next, s.connections next)] ++ _ = _
    simp only [connections_lastStopped, List.map_cons, List.append_assoc, List.cons_append,
      List.nil_append]
  cleared := fun c hc => by
    by_cases hca : c = aps
    · rw [hca, h.others aps hstopped hpopped]
      exact clients_clear_self s aps
    · rw [h.cleared c ((List.mem_cons.mp hc).resolve_left hca), clients_lastStopped_of_ne hca]
  others := fun c hc hc' => by
    rw [h.others c (List.not_mem_of_not_mem_cons hc) (List.not_mem_of_not_mem_cons hc'),
      clients_lastStopped_of_ne (List.ne_of_not_mem_cons hc)]
  owed := h.owed
  heap := h.heap
  aborted := h.aborted
  tickTimerStopped := h.tickTimerStopped
  tcpServerClosing := h.tcpServerClosing

/-! ### The loop -/

theorem stopLoop_of_nil (fuel : Nat) (hs : s.activeClientHandlers = []) :
    stopLoop fuel s = some (s, []) := by
  cases fuel with
  | zero => rfl
  | succ fuel =>
      unfold stopLoop
      rw [hs]
      rfl

/-- The loop, by the active handlers from the last on. -/
theorem stopLoop_eq (fuel : Nat) (handlers : List ClientPtr)
    (hs : s.activeClientHandlers = handlers.reverse) (hnodup : handlers.Nodup)
    (hfree : ∀ c ∈ handlers, c ∉ s.availableClientHandlers) (hfuel : handlers.length ≤ fuel) :
    (Odd handlers.length → stopLoop fuel s = none) ∧
      (Even handlers.length → ∃ t, stopLoop fuel s = some (t, everyOther handlers) ∧
        Drained s t (everyOther handlers) (everyOther handlers.tail)) := by
  induction handlers using everyOther.induct generalizing s fuel with
  | case1 =>
      refine ⟨fun hodd => absurd hodd (by simp), fun _ => ⟨s, stopLoop_of_nil fuel hs, ?_⟩⟩
      exact ⟨hs, (List.append_nil _).symm, (List.append_nil _).symm,
        fun _ hc => absurd hc List.not_mem_nil, fun _ _ _ => rfl, rfl, rfl, rfl, rfl, rfl⟩
  | case2 x =>
      have hpos : 1 ≤ fuel := hfuel
      obtain ⟨fuel, rfl⟩ := Nat.exists_eq_add_of_le' hpos
      refine ⟨fun _ => ?_, fun heven => absurd heven (by simp)⟩
      have hlast : s.activeClientHandlers.getLast? = some x := by
        rw [hs]
        rfl
      unfold stopLoop
      simp only [hlast, stopLast_of_singleton hs]
  | case3 x y rest ih =>
      have hpos : 1 ≤ fuel := Nat.le_trans (Nat.succ_le_succ (Nat.zero_le _)) hfuel
      obtain ⟨fuel, rfl⟩ := Nat.exists_eq_add_of_le' hpos
      have hs' : s.activeClientHandlers = rest.reverse ++ [y] ++ [x] := by
        rw [hs, List.reverse_cons, List.reverse_cons]
      have hlast : s.activeClientHandlers.getLast? = some x := by
        rw [hs']
        exact List.getLast?_concat
      obtain ⟨hx, hrest⟩ := List.nodup_cons.mp hnodup
      have hbody := stopLast_of_concat hs' (hs ▸ List.nodup_reverse.mpr hnodup) fun c hc =>
        hfree c (List.mem_reverse.mp (hs ▸ hc))
      have hloop : stopLoop (fuel + 1) s =
          (stopLoop fuel (s.lastStopped x y rest.reverse)).map (Prod.map id (x :: ·)) := by
        rw [stopLoop]
        simp only [hlast, hbody]
        rfl
      have hfree' : ∀ c ∈ rest, c ∉ (s.lastStopped x y rest.reverse).availableClientHandlers := by
        intro c hc havailable
        have hcx : c ≠ x := by
          rintro rfl
          exact hx (List.mem_cons_of_mem y hc)
        have hnot := hfree c (List.mem_cons_of_mem x (List.mem_cons_of_mem y hc))
        simp only [NetworkService.lastStopped, List.mem_append, List.mem_singleton, hnot, hcx,
          or_self] at havailable
      have hsub : ∀ c ∈ everyOther rest ++ everyOther rest.tail, c ≠ x := by
        rintro c hc rfl
        exact hx (List.mem_cons_of_mem y ((everyOther_perm rest).subset hc))
      obtain ⟨hodd, heven⟩ := ih fuel (s := s.lastStopped x y rest.reverse) rfl
        (List.nodup_cons.mp hrest).2 hfree' (by simp only [List.length_cons] at hfuel; omega)
      rw [hloop]
      constructor
      · intro hlength
        rw [hodd (by simp only [List.length_cons, Nat.odd_iff] at hlength ⊢; omega)]
        rfl
      · intro hlength
        obtain ⟨t, hrun, hdrained⟩ :=
          heven (by simp only [List.length_cons, Nat.even_iff] at hlength ⊢; omega)
        refine ⟨t, by rw [hrun]; rfl, ?_⟩
        rw [everyOther, List.tail_cons, everyOther_cons]
        exact hdrained.lastStopped (fun h => hsub x (List.mem_append_left _ h) rfl)
          fun h => hsub x (List.mem_append_right _ h) rfl

/-- `stop`, whenever each handler is in one list at most, and once. -/
theorem stop_eq (hnodup : s.activeClientHandlers.Nodup)
    (hfree : ∀ c ∈ s.activeClientHandlers, c ∉ s.availableClientHandlers) :
    let stopped := everyOther s.activeClientHandlers.reverse
    let popped := everyOther s.activeClientHandlers.reverse.tail
    (Odd s.activeClientHandlers.length → s.stop = none) ∧
      (Even s.activeClientHandlers.length → ∃ t, s.stop = some (t, stopped) ∧
        Drained { s with tickTimerStopped := true, tcpServerClosing := true } t stopped popped) := by
  intro stopped popped
  have hloop := stopLoop_eq (s := { s with tickTimerStopped := true, tcpServerClosing := true })
    s.activeClientHandlers.length s.activeClientHandlers.reverse (List.reverse_reverse _).symm
    (List.nodup_reverse.mpr hnodup) (fun c hc => hfree c (List.mem_reverse.mp hc))
    (Nat.le_of_eq List.length_reverse)
  rw [List.length_reverse] at hloop
  exact hloop

/-! ### No callback destroys a handler -/

theorem destroyed_outline (hu : Outline s e u) : u.destroyed = s.destroyed := by
  have hremoved : ∀ (v : NetworkService M) c, (v.removeApsClient c).destroyed = v.destroyed :=
    fun v c => by rw [removeApsClient_frame]
  cases hu with
  | listenFailed hstatus => rfl
  | exhausted hnone => rfl
  | taken hlast => rfl
  | refused hlast hresult => rw [refused_frame s _ hresult]
  | ended hnread => exact hremoved _ _
  | data hnread hreturned => rfl
  | dataRefused hnread hreturned => rfl
  | wrote hfind hcallback hstatus => rfl
  | wroteThenClosed hfind hcloses => rfl
  | strayWritten hfind => rfl
  | closedOnly hcallback => rfl
  | closed hcallback => exact hremoved _ _
  | ticked => rfl
  | removed => exact hremoved _ _

theorem run_destroyed (maxClients : Int) (events : List (Event M)) :
    (service M).Visits (·.destroyed = []) (constructed M maxClients) events := by
  refine Transition.Machine.visits_of_preserved (fun s e h _ => ?_) rfl
    (Transition.Machine.steps_true _ events)
  obtain ⟨u, hu, hsends⟩ := step_outline s e
  exact (hsends.destroyed.trans (destroyed_outline hu)).trans h

/-- **What `stop` does.** In every state the service can reach: with an odd number of active handlers it
pops an empty vector. With an even number it stops every second one from the last on and returns it twice;
the others are destroyed, the first handlers to be, with the connections they had, and are in neither list
any more. Whatever is left stays as it is: no connection is closed, and libuv owes what it owed. -/
theorem stop_exact (maxClients : Int) (events : List (Event M)) :
    let s := (service M).run (constructed M maxClients) events
    let stopped := everyOther s.activeClientHandlers.reverse
    let popped := everyOther s.activeClientHandlers.reverse.tail
    (s.stop = none ↔ Odd s.activeClientHandlers.length) ∧
      (stopped ++ popped).Perm s.activeClientHandlers ∧ s.destroyed = [] ∧
      ∀ t stopped', s.stop = some (t, stopped') → stopped' = stopped ∧
        Drained { s with tickTimerStopped := true, tcpServerClosing := true } t stopped popped ∧
        (∀ c ∈ popped, c ∉ t.availableClientHandlers) ∧
        ∀ c, c ∉ popped → t.connections c = s.connections c := by
  intro s stopped popped
  have hpool : PoolConserved maxClients s := (run_poolConserved (M := M) maxClients events).last
  have hsplit : (stopped ++ popped).Perm s.activeClientHandlers :=
    (everyOther_perm _).trans (List.reverse_perm _)
  obtain ⟨hodd, heven⟩ := stop_eq hpool.nodup_active fun _ => hpool.not_mem_available
  refine ⟨⟨fun hnone => ?_, hodd⟩, hsplit, (run_destroyed maxClients events).last, ?_⟩
  · by_contra hnot
    obtain ⟨t, hrun, -⟩ := heven (Nat.not_odd_iff_even.mp hnot)
    rw [hrun] at hnone
    cases hnone
  · intro t stopped' hstop
    have hlength : Even s.activeClientHandlers.length := by
      rw [← Nat.not_odd_iff_even]
      intro hlength
      rw [hodd hlength] at hstop
      cases hstop
    obtain ⟨t', hrun, hdrained⟩ := heven hlength
    rw [hrun] at hstop
    cases hstop
    have hnodup : (stopped ++ popped).Nodup := hsplit.nodup_iff.mpr hpool.nodup_active
    refine ⟨rfl, hdrained, fun c hc => ?_, fun c hc => hdrained.connections hc⟩
    refine hdrained.not_mem_available ?_ fun h => (List.nodup_append.mp hnodup).2.2 c h c hc rfl
    exact hpool.not_mem_available (hsplit.subset (List.mem_append_right _ hc))

/-- Of two active handlers one is returned twice and the other is destroyed with its handle open. -/
example :
    (((service .plain).run (constructed .plain 2)
        [.listen 0 0 (.silent _), .listen 0 0 (.silent _)]).stop.map fun (t, stopped) =>
      (stopped, t.activeClientHandlers, t.availableClientHandlers, t.destroyed)) =
      some ([0], [], [0, 0], [(1, [⟨0, .opened, true, true, false, 0⟩])]) :=
  rfl

end NetworkService

end AvdeccProxy
