import AvdeccProxy.ServiceSound

/-! What a state machine is told of a connection, from the accept to the release of its handler. Of the
ways a connection can end only two tell it so exactly once: the end of a stream whose data was never
refused, and a requested close after data was refused. -/

namespace AvdeccProxy

/-- A connection that was set up, announced and given data, and is not over. -/
def OpenLife (log : List Notification) : Prop :=
  ∃ data : List Int,
    log = [.setup, .onIncomingTcpConnection] ++ data.map .onIncomingTcpData

/-- The whole life of a connection: it is over, once, at the end. -/
def WellFormedLife (log : List Notification) : Prop :=
  ∃ data : List Int,
    log = [.setup, .onIncomingTcpConnection] ++ data.map .onIncomingTcpData ++
      [.onTcpConnectionClosed]

/-- A well-formed life so far. -/
def WellFormedSoFar (log : List Notification) : Prop := OpenLife log ∨ WellFormedLife log

section lives

variable {log : List Notification}

theorem OpenLife.not_closed (h : OpenLife log) : .onTcpConnectionClosed ∉ log := by
  obtain ⟨data, rfl⟩ := h
  simp

theorem WellFormedLife.closed (h : WellFormedLife log) : .onTcpConnectionClosed ∈ log := by
  obtain ⟨data, rfl⟩ := h
  simp

theorem OpenLife.append_data (h : OpenLife log) (returned : Int) :
    OpenLife (log ++ [.onIncomingTcpData returned]) := by
  obtain ⟨data, rfl⟩ := h
  exact ⟨data ++ [returned], by simp⟩

theorem wellFormedLife_append_closed :
    WellFormedLife (log ++ [.onTcpConnectionClosed]) ↔ OpenLife log := by
  constructor
  · rintro ⟨data, heq⟩
    exact ⟨data, List.append_cancel_right heq⟩
  · rintro ⟨data, rfl⟩
    exact ⟨data, rfl⟩

/-- Nothing may follow the end. -/
theorem WellFormedLife.not_append (h : WellFormedLife log) (n : Notification) :
    ¬ WellFormedSoFar (log ++ [n]) := by
  have hclosed : .onTcpConnectionClosed ∈ log ++ [n] := List.mem_append_left _ h.closed
  rintro (hopen | ⟨data, heq⟩)
  · exact hopen.not_closed hclosed
  · have hlog := (List.append_inj' heq rfl).1
    have hopen : OpenLife log := ⟨data, hlog⟩
    exact hopen.not_closed h.closed

end lives

namespace NetworkService

open ApsClient

variable {M : Mcu} {A : ClientPtr → Prop} {s t u : NetworkService M} {e : Event M}
  {c d : ClientPtr} {maxClients : Int}

/-- Every release came at the end of a well-formed life, and every active handler is in one. -/
def LivesWellFormed (s : NetworkService M) : Prop :=
  (∀ log ∈ s.lives, WellFormedLife log) ∧
    ∀ c ∈ s.activeClientHandlers, WellFormedSoFar (s.notified c)

/-- `onIncomingTcpData` has returned 0 for the connection of the handler. -/
def DataRefused (s : NetworkService M) (c : ClientPtr) : Prop :=
  .onIncomingTcpData 0 ∈ s.notified c

/-- An active handler is read from only while its data was not refused, and is released by a close, or
from outside, only when it was. -/
def EndsOnce (s : NetworkService M) : Event M → Prop
  | .listen _ _ _ => True
  | .read client _ _ => client ∈ s.activeClientHandlers → ¬ DataRefused s client
  | .written _ _ _ => True
  | .closed client number _ =>
      s.callsOnUvClose client number = true → client ∈ s.activeClientHandlers →
        DataRefused s client
  | .tick _ _ => True
  | .removeApsClient client => client ∈ s.activeClientHandlers → DataRefused s client

/-- The state machine of an active handler was told of the end exactly when data was refused. -/
def RefusedIsClosed (s : NetworkService M) : Prop :=
  ∀ c ∈ s.activeClientHandlers, .onTcpConnectionClosed ∈ s.notified c ↔ DataRefused s c

/-! ### One notification, one release -/

theorem livesWellFormed_notify (hlives : LivesWellFormed s) (hc : c ∈ s.activeClientHandlers)
    (n : Notification) :
    LivesWellFormed (notify s c n) ↔ WellFormedSoFar (s.notified c ++ [n]) := by
  constructor
  · intro h
    rw [← notified_notify_self]
    exact h.2 c hc
  · intro h
    refine ⟨hlives.1, fun d hd => ?_⟩
    by_cases hdc : d = c
    · rw [hdc, notified_notify_self]
      exact h
    · rw [notified_notify_of_ne n hdc]
      exact hlives.2 d hd

theorem LivesWellFormed.notify_inactive (hlives : LivesWellFormed s)
    (hc : c ∉ s.activeClientHandlers) (n : Notification) : LivesWellFormed (notify s c n) := by
  refine ⟨hlives.1, fun d hd => ?_⟩
  have hdc : d ≠ c := fun heq => hc (heq ▸ hd)
  rw [notified_notify_of_ne n hdc]
  exact hlives.2 d hd

/-- A release is judged by the life of the handler it releases. -/
theorem livesWellFormed_removeApsClient (hnodup : s.activeClientHandlers.Nodup)
    (hc : c ∈ s.activeClientHandlers) (hdone : ∀ log ∈ s.lives, WellFormedLife log)
    (hothers : ∀ d ∈ s.activeClientHandlers, d ≠ c → WellFormedSoFar (s.notified d)) :
    LivesWellFormed (s.removeApsClient c) ↔ WellFormedLife (s.notified c) := by
  rw [removeApsClient_of_mem hc]
  constructor
  · intro h
    exact h.1 _ (List.mem_append_right _ (List.mem_singleton_self _))
  · intro h
    refine ⟨fun log hlog => ?_, fun d hd => ?_⟩
    · rcases List.mem_append.mp hlog with hlog | hlog
      · exact hdone log hlog
      · rw [List.mem_singleton.mp hlog]
        exact h
    · obtain ⟨hdc, hd⟩ := (List.Nodup.mem_erase_iff hnodup).mp hd
      exact hothers d hd hdc

/-- The life of an active handler is open exactly when its data was not refused. -/
theorem openLife_or_refused (hlives : LivesWellFormed s) (hrefused : RefusedIsClosed s)
    (hc : c ∈ s.activeClientHandlers) :
    (OpenLife (s.notified c) ∧ ¬ DataRefused s c) ∨
      (WellFormedLife (s.notified c) ∧ DataRefused s c) := by
  rcases hlives.2 c hc with hopen | hover
  · exact Or.inl ⟨hopen, fun h => hopen.not_closed ((hrefused c hc).mpr h)⟩
  · exact Or.inr ⟨hover, (hrefused c hc).mp hover.closed⟩

/-! ### One callback -/

theorem livesWellFormed_ended (hpool : PoolConserved maxClients s) (hlives : LivesWellFormed s)
    (hrefused : RefusedIsClosed s) :
    LivesWellFormed ((notify s c .onTcpConnectionClosed).removeApsClient c) ↔
      (c ∈ s.activeClientHandlers → ¬ DataRefused s c) := by
  by_cases hc : c ∈ s.activeClientHandlers
  swap
  · rw [removeApsClient_of_not_mem (s := notify s c _) hc]
    exact iff_of_true (hlives.notify_inactive hc _) fun h => absurd h hc
  rw [livesWellFormed_removeApsClient (s := notify s c _) hpool.nodup_active hc hlives.1
    fun d hd hdc => by rw [notified_notify_of_ne _ hdc]; exact hlives.2 d hd,
    notified_notify_self, wellFormedLife_append_closed]
  rcases openLife_or_refused hlives hrefused hc with ⟨hopen, hnot⟩ | ⟨hover, hdata⟩
  · exact iff_of_true hopen fun _ => hnot
  · exact iff_of_false (fun hopen => hopen.not_closed hover.closed) fun h => h hc hdata

theorem livesWellFormed_released (hpool : PoolConserved maxClients s) (hlives : LivesWellFormed s)
    (hrefused : RefusedIsClosed s) :
    LivesWellFormed (s.removeApsClient c) ↔
      (c ∈ s.activeClientHandlers → DataRefused s c) := by
  by_cases hc : c ∈ s.activeClientHandlers
  swap
  · rw [removeApsClient_of_not_mem hc]
    exact iff_of_true hlives fun h => absurd h hc
  rw [livesWellFormed_removeApsClient hpool.nodup_active hc hlives.1 fun d hd _ => hlives.2 d hd]
  rcases openLife_or_refused hlives hrefused hc with ⟨hopen, hnot⟩ | ⟨hover, hdata⟩
  · exact iff_of_false (fun hover => hopen.not_closed hover.closed) fun h => hnot (h hc)
  · exact iff_of_true hover fun _ => hdata

theorem livesWellFormed_data (hlives : LivesWellFormed s) (hrefused : RefusedIsClosed s)
    (returned : Int) :
    LivesWellFormed (notify s c (.onIncomingTcpData returned)) ↔
      (c ∈ s.activeClientHandlers → ¬ DataRefused s c) := by
  by_cases hc : c ∈ s.activeClientHandlers
  swap
  · exact iff_of_true (hlives.notify_inactive hc _) fun h => absurd h hc
  rw [livesWellFormed_notify hlives hc]
  rcases openLife_or_refused hlives hrefused hc with ⟨hopen, hnot⟩ | ⟨hover, hdata⟩
  · exact iff_of_true (Or.inl (hopen.append_data returned)) fun _ => hnot
  · exact iff_of_false (hover.not_append _) fun h => h hc hdata

theorem livesWellFormed_dataRefused (hlives : LivesWellFormed s) (hrefused : RefusedIsClosed s) :
    LivesWellFormed (notify (notify s c (.onIncomingTcpData 0)) c .onTcpConnectionClosed) ↔
      (c ∈ s.activeClientHandlers → ¬ DataRefused s c) := by
  by_cases hc : c ∈ s.activeClientHandlers
  swap
  · refine iff_of_true ?_ fun h => absurd h hc
    exact LivesWellFormed.notify_inactive (hlives.notify_inactive hc _) hc _
  rcases openLife_or_refused hlives hrefused hc with ⟨hopen, hnot⟩ | ⟨hover, hdata⟩
  · have hdata : LivesWellFormed (notify s c (.onIncomingTcpData 0)) :=
      (livesWellFormed_data hlives hrefused 0).mpr fun _ => hnot
    refine iff_of_true ?_ fun _ => hnot
    rw [livesWellFormed_notify hdata hc, notified_notify_self]
    exact Or.inr (wellFormedLife_append_closed.mpr (hopen.append_data 0))
  · refine iff_of_false (fun h => ?_) fun h => h hc hdata
    have hlog := h.2 c hc
    rw [notified_notify_self, notified_notify_self] at hlog
    have hclosed := List.mem_append_left [Notification.onIncomingTcpData 0] hover.closed
    rcases hlog with hlog | hlog
    · exact hlog.not_closed (List.mem_append_left _ hclosed)
    · exact (wellFormedLife_append_closed.mp hlog).not_closed hclosed

theorem livesWellFormed_taken {aps : ClientPtr} (hlives : LivesWellFormed s) :
    LivesWellFormed (s.taken aps) := by
  refine ⟨hlives.1, fun d hd => ?_⟩
  by_cases hda : d = aps
  · rw [hda, notified_taken_self]
    exact Or.inl ⟨[], rfl⟩
  · rw [notified_taken_of_ne s aps hda]
    rcases List.mem_append.mp hd with hd | hd
    · exact hlives.2 d hd
    · exact absurd (List.mem_singleton.mp hd) hda

/-- Only what the handlers were told and which are active or released matters. -/
theorem livesWellFormed_congr (hlives : t.lives = s.lives)
    (hactive : t.activeClientHandlers = s.activeClientHandlers)
    (hnotified : ∀ c, t.notified c = s.notified c) : LivesWellFormed t ↔ LivesWellFormed s := by
  unfold LivesWellFormed
  rw [hlives, hactive]
  simp only [hnotified]

theorem livesWellFormed_outline (hpool : PoolConserved maxClients s) (hlives : LivesWellFormed s)
    (hrefused : RefusedIsClosed s) (hu : Outline s e u) : LivesWellFormed u ↔ EndsOnce s e := by
  cases hu with
  | listenFailed hstatus => exact iff_of_true hlives trivial
  | exhausted hnone => exact iff_of_true hlives trivial
  | taken hlast => exact iff_of_true (livesWellFormed_taken hlives) trivial
  | refused hlast hresult =>
      exact iff_of_true ((livesWellFormed_congr (refused_lives s _ hresult)
        (refused_active s _ hresult) (notified_refused s _ hresult)).mpr hlives) trivial
  | ended hnread => exact livesWellFormed_ended hpool hlives hrefused
  | data hnread hreturned => exact livesWellFormed_data hlives hrefused _
  | dataRefused hnread hreturned => exact livesWellFormed_dataRefused hlives hrefused
  | wrote hfind hcallback hstatus => exact iff_of_true hlives trivial
  | wroteThenClosed hfind hcloses =>
      refine iff_of_true ?_ trivial
      exact (livesWellFormed_congr (uvClose_lives _ _ _) (uvClose_active _ _ _)
        (notified_uvClose _ _ _)).mpr hlives
  | strayWritten hfind => exact iff_of_true hlives trivial
  | @closedOnly client number b hcallback =>
      refine iff_of_true ?_ fun h => ?_
      · exact (livesWellFormed_congr (s := s) (t := s.uvClosed client number) rfl rfl
          (notified_uvClosed s _ _)).mpr hlives
      · rw [hcallback] at h
        cases h
  | @closed client number b hcallback =>
      have hnotified := notified_uvClosed s client number
      have hlives' : LivesWellFormed (s.uvClosed client number) :=
        (livesWellFormed_congr (s := s) (t := s.uvClosed client number) rfl rfl hnotified).mpr
          hlives
      have hrefused' : RefusedIsClosed (s.uvClosed client number) := by
        intro c hc
        unfold DataRefused
        rw [hnotified]
        exact hrefused c hc
      have hpool' : PoolConserved maxClients (s.uvClosed client number) := hpool
      refine (livesWellFormed_released hpool' hlives' hrefused').trans ?_
      unfold DataRefused
      rw [hnotified]
      exact ⟨fun h _ => h, fun h => h hcallback⟩
  | ticked => exact iff_of_true hlives trivial
  | removed => exact livesWellFormed_released hpool hlives hrefused

/-! ### Refusal and end stay together -/

theorem RefusedIsClosed.congr (hrefused : RefusedIsClosed s)
    (hactive : ∀ c ∈ t.activeClientHandlers, c ∈ s.activeClientHandlers)
    (hnotified : ∀ c, t.notified c = s.notified c) : RefusedIsClosed t := by
  intro c hc
  unfold DataRefused
  rw [hnotified]
  exact hrefused c (hactive c hc)

theorem RefusedIsClosed.notify (hrefused : RefusedIsClosed s) {n : Notification}
    (hn : n ≠ .onTcpConnectionClosed) (hn' : n ≠ .onIncomingTcpData 0) :
    RefusedIsClosed (notify s c n) := by
  intro d hd
  unfold DataRefused
  by_cases hdc : d = c
  · rw [hdc, notified_notify_self, List.mem_append, List.mem_append, List.mem_singleton,
      List.mem_singleton, or_iff_left hn.symm, or_iff_left hn'.symm]
    exact hrefused c (hdc ▸ hd)
  · rw [notified_notify_of_ne n hdc]
    exact hrefused d hd

theorem RefusedIsClosed.outline (hpool : PoolConserved maxClients s)
    (hrefused : RefusedIsClosed s) (hu : Outline s e u) : RefusedIsClosed u := by
  cases hu with
  | listenFailed hstatus => exact hrefused
  | exhausted hnone => exact hrefused
  | @taken b aps hlast =>
      intro d hd
      unfold DataRefused
      by_cases hda : d = aps
      · rw [hda, notified_taken_self]
        simp
      · rw [notified_taken_of_ne s aps hda]
        refine hrefused d ((List.mem_append.mp hd).resolve_right fun h => ?_)
        exact hda (List.mem_singleton.mp h)
  | refused hlast hresult =>
      refine hrefused.congr (fun d hd => ?_) (notified_refused s _ hresult)
      rw [refused_active s _ hresult] at hd
      exact hd
  | @ended client nread b hnread =>
      intro d hd
      unfold DataRefused
      rw [notified_removeApsClient]
      by_cases hc : client ∈ s.activeClientHandlers
      · rw [removeApsClient_of_mem (s := ApsClient.notify s client _) hc] at hd
        obtain ⟨hdc, hd⟩ := (List.Nodup.mem_erase_iff hpool.nodup_active).mp hd
        rw [notified_notify_of_ne _ hdc]
        exact hrefused d hd
      · rw [removeApsClient_of_not_mem (s := ApsClient.notify s client _) hc] at hd
        have hdc : d ≠ client := fun heq => hc (heq ▸ hd)
        rw [notified_notify_of_ne _ hdc]
        exact hrefused d hd
  | data hnread hreturned =>
      refine hrefused.notify (by simp) ?_
      simpa using hreturned
  | @dataRefused client nread b hnread hreturned =>
      intro d hd
      unfold DataRefused
      by_cases hdc : d = client
      · rw [hdc, notified_notify_self, notified_notify_self]
        simp
      · rw [notified_notify_of_ne _ hdc, notified_notify_of_ne _ hdc]
        exact hrefused d hd
  | wrote hfind hcallback hstatus => exact hrefused
  | wroteThenClosed hfind hcloses =>
      refine hrefused.congr (fun d hd => ?_) (notified_uvClose _ _ _)
      rw [uvClose_active] at hd
      exact hd
  | strayWritten hfind => exact hrefused
  | closedOnly hcallback => exact hrefused.congr (fun _ hd => hd) (notified_uvClosed s _ _)
  | closed hcallback =>
      refine hrefused.congr (fun d hd => ?_) fun d => ?_
      · have hactive := mem_of_mem_removeApsClient _ _ hd
        exact hactive
      · rw [notified_removeApsClient, notified_uvClosed]
  | ticked => exact hrefused
  | removed =>
      refine hrefused.congr (fun d hd => mem_of_mem_removeApsClient _ _ hd) fun d => ?_
      rw [notified_removeApsClient]

/-! ### Every callback, every run -/

theorem livesWellFormed_step (hpool : PoolConserved maxClients s) (hlives : LivesWellFormed s)
    (hrefused : RefusedIsClosed s) (e : Event M) : LivesWellFormed (s.step e) ↔ EndsOnce s e := by
  obtain ⟨u, hu, hsends⟩ := step_outline s e
  refine Iff.trans ?_ (livesWellFormed_outline hpool hlives hrefused hu)
  exact livesWellFormed_congr hsends.lives hsends.active hsends.notified

theorem RefusedIsClosed.step (hpool : PoolConserved maxClients s) (hrefused : RefusedIsClosed s)
    (e : Event M) : RefusedIsClosed (s.step e) := by
  obtain ⟨u, hu, hsends⟩ := step_outline s e
  refine (hrefused.outline hpool hu).congr (fun d hd => ?_) hsends.notified
  rw [hsends.active] at hd
  exact hd

/-- **Connection lives.** All state machines are told well-formed lives in a run exactly when each of its
callbacks ends lives once: no read follows refused data, and no close releases a handler without it. -/
theorem livesWellFormed_iff (maxClients : Int) (events : List (Event M)) :
    (service M).Visits LivesWellFormed (constructed M maxClients) events ↔
      (service M).Steps EndsOnce (constructed M maxClients) events := by
  refine Transition.Machine.visits_iff_steps
    (I := fun s => PoolConserved maxClients s ∧ RefusedIsClosed s)
    (fun s e hI hlives _ => livesWellFormed_step hI.1 hlives hI.2 e)
    (fun s e hI _ _ _ => ⟨hI.1.step e, hI.2.step hI.1 e⟩)
    ⟨constructed_poolConserved maxClients, ?_⟩ ?_ (Transition.Machine.steps_true _ events)
  · intro c hc
    cases hc
  · constructor
    · intro log hlog
      cases hlog
    · intro c hc
      cases hc

/-- The state machine of a client that got its page is never told that the connection is over. -/
theorem onePageServed_notTold :
    (service .plain).Legal (constructed .plain 1) onePageServed ∧
      ((service .plain).run (constructed .plain 1) onePageServed).lives =
        [[.setup, .onIncomingTcpConnection, .onIncomingTcpData 18]] ∧
      ¬ LivesWellFormed ((service .plain).run (constructed .plain 1) onePageServed) := by
  have hlives : ((service .plain).run (constructed .plain 1) onePageServed).lives =
      [[.setup, .onIncomingTcpConnection, .onIncomingTcpData 18]] := by decide
  refine ⟨onePageServed_legal, hlives, fun h => ?_⟩
  have hclosed := (h.1 [.setup, .onIncomingTcpConnection, .onIncomingTcpData 18]
    (by rw [hlives]; exact List.mem_singleton_self _)).closed
  exact absurd hclosed (by decide)

end NetworkService

end AvdeccProxy
