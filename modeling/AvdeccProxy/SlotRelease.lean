import AvdeccProxy.HandlerCallbacks

/-! No handler is active for nothing. The connection of an active handler is open, so that its end may be
read, or its close is on the way to `onUvClose` and waits for writes that may complete; either callback
takes the handler back to the pool. Only an HTTP response in flight on a connection being closed is in the
way for good: libuv aborts when it completes. -/

namespace AvdeccProxy

namespace NetworkService

open ApsClient Connection Transition

variable {M : Mcu} {s t u : NetworkService M} {e : Event M} {c d : ClientPtr} {maxClients : Int}

/-- The connection was accepted, is read from, and is open or closing with `onUvClose`. -/
structure Serving (k : Connection) : Prop where
  accepted : k.accepted = true
  reading : k.reading = true
  phase : k.phase = .opened ∨ k.phase = .closing ∧ k.closeCallback = true

def ActiveServing (s : NetworkService M) : Prop :=
  ∀ c ∈ s.activeClientHandlers, ∃ k, (s.connections c).head? = some k ∧ Serving k

theorem Serving.closeRequested {k : Connection} (h : Serving k) : Serving (k.closeRequested true) := by
  unfold Connection.closeRequested
  by_cases hopen : k.phase = .opened
  · rw [if_pos hopen]
    exact ⟨h.accepted, h.reading, Or.inr ⟨rfl, rfl⟩⟩
  · rw [if_neg hopen]
    exact ⟨h.accepted, h.reading, h.phase⟩

/-! ### One callback -/

theorem ActiveServing.congr (h : ActiveServing s)
    (hactive : ∀ c ∈ t.activeClientHandlers, c ∈ s.activeClientHandlers)
    (hconnections : ∀ c ∈ t.activeClientHandlers, t.connections c = s.connections c) :
    ActiveServing t := fun c hc => by
  rw [hconnections c hc]
  exact h c (hactive c hc)

/-- A handler taken out of the list is not in it any more. -/
theorem ne_of_mem_removeApsClient (hnodup : s.activeClientHandlers.Nodup)
    (hd : d ∈ (s.removeApsClient c).activeClientHandlers) : d ≠ c := by
  by_cases hc : c ∈ s.activeClientHandlers
  · rw [removeApsClient_of_mem hc] at hd
    exact (hnodup.mem_erase_iff.mp hd).1
  · rw [removeApsClient_of_not_mem hc] at hd
    rintro rfl
    exact hc hd

theorem mem_removeApsClient_of_ne (hne : c ≠ d) (hc : c ∈ s.activeClientHandlers) :
    c ∈ (s.removeApsClient d).activeClientHandlers := by
  by_cases hd : d ∈ s.activeClientHandlers
  · rw [removeApsClient_of_mem hd]
    exact (List.mem_erase_of_ne hne).mpr hc
  · rw [removeApsClient_of_not_mem hd]
    exact hc

theorem callsOnUvClose_head (hsound : Sound maxClients s) {k : Connection}
    (hhead : (s.connections c).head? = some k) : s.callsOnUvClose c k.number = k.closeCallback := by
  obtain ⟨earlier, hconnections⟩ := List.head?_eq_some_iff.mp hhead
  have hlatest : Connection.reinitialised (k :: earlier) k.number = false := by
    refine List.any_eq_false.mpr fun k' hk' h => ?_
    have hnumber : k'.number = k.number := by simpa using (Bool.and_eq_true_iff.mp h).1
    have hlt := hsound.earlier_number_lt hconnections hk'
    rw [currentNumber_of_head hconnections, hnumber] at hlt
    exact lt_irrefl _ hlt
  have hfind : (k :: earlier).find? (·.number == k.number) = some k :=
    List.find?_cons_of_pos (beq_self_eq_true k.number)
  rw [NetworkService.callsOnUvClose, hconnections, Connection.callsOnUvClose, hlatest, hfind,
    Bool.not_false, Bool.true_and]

/-- A close that does not call `onUvClose` is not that of the connection of an active handler. -/
theorem ActiveServing.closedOnly (hsound : Sound maxClients s) (h : ActiveServing s) {number : Nat}
    (hclosing : ∃ k ∈ s.connections d, k.number = number ∧ k.phase = .closing)
    (hcallback : s.callsOnUvClose d number = false) : ActiveServing (s.uvClosed d number) := by
  intro c hc
  by_cases hcd : c = d
  swap
  · rw [connections_uvClosed_of_ne s d number hcd]
    exact h c hc
  subst hcd
  obtain ⟨k, hhead, hserving⟩ := h c hc
  have hother : k.number ≠ number := by
    rintro rfl
    obtain ⟨k', hk', hnumber, hphase⟩ := hclosing
    obtain rfl := hsound.eq_of_number hk' (List.mem_of_head? hhead) hnumber
    rw [callsOnUvClose_head hsound hhead] at hcallback
    rcases hserving.phase with hopen | ⟨-, hcalls⟩
    · rw [hphase] at hopen
      cases hopen
    · rw [hcallback] at hcalls
      cases hcalls
  refine ⟨k, ?_, hserving⟩
  rw [connections_uvClosed_self, List.head?_map, hhead]
  exact congrArg some (if_neg hother)

theorem ActiveServing.closed (hnodup : s.activeClientHandlers.Nodup) (h : ActiveServing s)
    (number : Nat) : ActiveServing ((s.uvClosed d number).removeApsClient d) := by
  refine h.congr (fun c hc => mem_of_mem_removeApsClient (s.uvClosed d number) d hc) fun c hc => ?_
  have hcd : c ≠ d := ne_of_mem_removeApsClient (s := s.uvClosed d number) hnodup hc
  rw [connections_removeApsClient, connections_uvClosed_of_ne s d number hcd]

theorem ActiveServing.outline (hsound : Sound maxClients s) (hlegal : Legal s e)
    (h : ActiveServing s) (hu : Outline s e u) : ActiveServing u := by
  cases hu with
  | listenFailed hstatus => exact h
  | exhausted hnone => exact h
  | @taken b aps hlast =>
      intro c hc
      by_cases hca : c = aps
      · rw [hca, connections_taken_self]
        exact ⟨_, rfl, rfl, rfl, Or.inl rfl⟩
      · rw [connections_taken_of_ne s aps hca]
        rcases List.mem_append.mp hc with hc | hc
        · exact h c hc
        · exact absurd (List.mem_singleton.mp hc) hca
  | @refused result b aps hlast hresult =>
      have hactive := refused_active s aps hresult
      refine h.congr (fun c hc => hactive ▸ hc) fun c hc => ?_
      refine connections_refused_of_ne s aps hresult ?_
      rintro rfl
      rw [hactive] at hc
      exact hsound.pool.not_mem_available hc (List.mem_of_getLast? hlast)
  | @ended client nread b hnread =>
      refine h.congr (fun c hc => mem_of_mem_removeApsClient (notify s client _) client hc)
        fun c _ => ?_
      rw [connections_removeApsClient, connections_notify]
  | data hnread hreturned =>
      exact h.congr (fun _ hc => hc) fun _ _ => connections_notify _ _
  | dataRefused hnread hreturned =>
      refine h.congr (fun _ hc => hc) fun _ _ => ?_
      rw [connections_notify, connections_notify]
  | wrote hfind hcallback hstatus => exact h
  | @wroteThenClosed address status b x hfind hcloses =>
      intro c hc
      rw [uvClose_active] at hc
      by_cases hcx : c = x.apsclient
      · obtain ⟨k, hhead, hserving⟩ := h c hc
        rw [hcx] at hhead ⊢
        exact ⟨_, by rw [head_uvClose, connections_completed, hhead]; rfl, hserving.closeRequested⟩
      · rw [connections_uvClose_of_ne (s.completed x) _ _ hcx]
        exact h c hc
  | strayWritten hfind => exact h
  | closedOnly hcallback => exact h.closedOnly hsound hlegal.2.1 hcallback
  | closed hcallback => exact h.closed hsound.pool.nodup_active _
  | ticked => exact h
  | @removed client =>
      refine h.congr (fun c hc => mem_of_mem_removeApsClient s client hc) fun c _ => ?_
      rw [connections_removeApsClient]

theorem ActiveServing.step (hsound : Sound maxClients s) (hlegal : Legal s e) (h : ActiveServing s) :
    ActiveServing (s.step e) := by
  obtain ⟨u, hu, hsends⟩ := step_outline s e
  refine (h.outline hsound hlegal hu).congr (fun c hc => ?_) fun c _ => hsends.connections c
  rw [hsends.active] at hc
  exact hc

theorem run_activeServing {events : List (Event M)}
    (hlegal : (service M).Legal (constructed M maxClients) events) :
    (service M).Visits ActiveServing (constructed M maxClients) events :=
  Machine.visits_of_preserved (fun _ _ h hl => h.step hl.1 hl.2) (fun _ hc => nomatch hc)
    (Machine.Steps.and_visits hlegal (run_sound hlegal))

/-! ### The way back to the pool -/

/-- The handle is closing with a response in flight, whose completion is going to close it again. -/
def Stuck (s : NetworkService M) (c : ClientPtr) : Prop :=
  ∃ k, (s.connections c).head? = some k ∧ k.phase = .closing ∧
    ∃ x ∈ s.owed, x.apsclient = c ∧ x.connection = k.number ∧ x.callback = .onUvWriteThenClose

/-- Callbacks about the handler alone take it back to the pool, and leave the process alive and not
doomed. -/
def Returns (s : NetworkService M) (c : ClientPtr) (more : List (Event M)) : Prop :=
  (service M).Legal s more ∧ (service M).Steps (Concerns c) s more ∧
    ((service M).run s more).aborted = false ∧ ¬ Doomed ((service M).run s more) ∧
    c ∉ ((service M).run s more).activeClientHandlers

theorem Returns.cons {more : List (Event M)} (hlegal : Legal s e) (hconcerns : Concerns c s e)
    (h : Returns (s.step e) c more) : Returns s c (e :: more) :=
  ⟨⟨hlegal, h.1⟩, ⟨hconcerns, h.2.1⟩, h.2.2⟩

/-- One callback that releases the handler. -/
theorem returns_of_releases (hnodup : s.activeClientHandlers.Nodup) (hlegal : Legal s e)
    (hconcerns : Concerns c s e) (hreleases : Releases s e c)
    (hdead : ¬ (ClosesShut s e ∨ ClosesReinitialised s e)) (hdoomed : ¬ (Doomed s ∨ InitialisesClosing s e)) :
    Returns s c [e] := by
  refine ⟨⟨hlegal, trivial⟩, ⟨hconcerns, trivial⟩, ?_, ?_, ?_⟩
  · exact Bool.eq_false_iff.mpr fun h => hdead ((aborted_step hlegal).mp h)
  · exact fun h => hdoomed ((doomed_step fun h => hdead (Or.inr h)).mp h)
  · show c ∉ (s.step e).activeClientHandlers
    rw [hconcerns.active_of_releases hreleases]
    exact hnodup.not_mem_erase

/-- The end of an open connection takes its handler back. -/
theorem returns_of_open (hsound : Sound maxClients s) (hlive : s.aborted = false)
    (hdoomed : ¬ Doomed s) (hc : c ∈ s.activeClientHandlers) {k : Connection}
    (hhead : (s.connections c).head? = some k) (hserving : Serving k) (hopen : k.phase = .opened) :
    Returns s c [.read c 0 (.silent M 0)] := by
  have hreadable := isReadable_iff.mpr ⟨k, hhead, hopen, hserving.accepted, hserving.reading⟩
  exact returns_of_releases hsound.pool.nodup_active ⟨hlive, hreadable⟩ .read
    ⟨rfl, Int.le_refl 0, hc⟩ (not_or.mpr ⟨id, id⟩) (not_or.mpr ⟨hdoomed, id⟩)

/-- So does the completion of its close, when no write is in the way. -/
theorem returns_of_drained (hsound : Sound maxClients s) (hlive : s.aborted = false)
    (hdoomed : ¬ Doomed s) (hc : c ∈ s.activeClientHandlers) {k : Connection}
    (hhead : (s.connections c).head? = some k) (hclosing : k.phase = .closing)
    (hcallback : k.closeCallback = true)
    (hnone : ∀ x ∈ s.owed, ¬ (x.apsclient = c ∧ x.connection = k.number)) :
    Returns s c [.closed c k.number (.silent M)] := by
  have hcalls : s.callsOnUvClose c k.number = true := (callsOnUvClose_head hsound hhead).trans hcallback
  refine returns_of_releases hsound.pool.nodup_active
    ⟨hlive, ⟨k, List.mem_of_head? hhead, rfl, hclosing⟩, hnone⟩ .closed ⟨rfl, hcalls, hc⟩
    (not_or.mpr ⟨id, fun hagain => ?_⟩) (not_or.mpr ⟨hdoomed, id⟩)
  have hagain : s.reinitialised c k.number = true := hagain
  rw [not_reinitialised hcalls] at hagain
  cases hagain

/-- A piece of data that was sent completes before the close does. -/
theorem step_wrote {x : UvWriteContext} (hfind : s.owed.find? (·.address == x.address) = some x)
    (hdata : x.callback = .onUvWrite) (hlive : s.aborted = false) :
    s.step (.written x.address 0 (.silent M)) = ApsClient.run (s.completed x) x.apsclient (.silent M) := by
  have hwritten : s.writeChecked x 0 = s.completed x := if_neg (Int.lt_irrefl 0)
  have hlive' : (s.completed x).aborted = false := hlive
  rw [step_written_tcp hfind hdata, hwritten, hlive', if_neg Bool.false_ne_true]

/-- The writes in flight complete one after another, and then the close. -/
theorem exists_returns_of_closing (hsound : Sound maxClients s) (hlive : s.aborted = false)
    (hdoomed : ¬ Doomed s) (hc : c ∈ s.activeClientHandlers) {k : Connection}
    (hhead : (s.connections c).head? = some k) (hclosing : k.phase = .closing)
    (hcallback : k.closeCallback = true)
    (hdata : ∀ x ∈ s.owed, x.apsclient = c → x.connection = k.number → x.callback = .onUvWrite) :
    ∃ more, Returns s c more := by
  induction hlength : s.owed.length generalizing s with
  | zero =>
      refine ⟨_, returns_of_drained hsound hlive hdoomed hc hhead hclosing hcallback fun x hx => ?_⟩
      rw [List.length_eq_zero_iff.mp hlength] at hx
      cases hx
  | succ n ih =>
      by_cases hwrite : ∃ x ∈ s.owed, x.apsclient = c ∧ x.connection = k.number
      swap
      · refine ⟨_, returns_of_drained hsound hlive hdoomed hc hhead hclosing hcallback fun x hx h => ?_⟩
        exact hwrite ⟨x, hx, h⟩
      obtain ⟨x, hx, hclient, hnumber⟩ := hwrite
      have hstep := step_wrote (hsound.find_owed hx) (hdata x hx hclient hnumber) hlive
      have hlegal : Legal s (.written x.address 0 (.silent M)) := ⟨hlive, x, hx, rfl⟩
      have howed : (s.step (.written x.address 0 (.silent M))).owed = s.owed.erase x := by
        rw [hstep]
        rfl
      have hconnections (d : ClientPtr) :
          (s.step (.written x.address 0 (.silent M))).connections d = s.connections d := by
        rw [hstep]
        exact (perform_sends (A := fun _ => True) trivial _).connections d
      obtain ⟨more, hmore⟩ := ih (hsound.step hlegal) (by rw [hstep]; exact hlive)
        (fun h => hdoomed ((doomed_congr fun d => congrArg List.tail (hconnections d)).mp h))
        (by rw [hstep]; exact hc) ((hconnections c).symm ▸ hhead)
        (fun y hy => hdata y (List.mem_of_mem_erase (howed ▸ hy)))
        (by rw [howed, List.length_erase_of_mem hx, hlength, Nat.add_sub_cancel])
      exact ⟨_, .cons hlegal (.written hx hclient) hmore⟩

/-- An active handler that is not stuck can come back. -/
theorem exists_returns (hsound : Sound maxClients s) (hserving : ActiveServing s)
    (hlive : s.aborted = false) (hdoomed : ¬ Doomed s) (hc : c ∈ s.activeClientHandlers)
    (hfree : ¬ Stuck s c) : ∃ more, Returns s c more := by
  obtain ⟨k, hhead, hk⟩ := hserving c hc
  rcases hk.phase with hopen | ⟨hclosing, hcallback⟩
  · exact ⟨_, returns_of_open hsound hlive hdoomed hc hhead hk hopen⟩
  · refine exists_returns_of_closing hsound hlive hdoomed hc hhead hclosing hcallback
      fun x hx hclient hnumber => ?_
    cases hresponse : x.callback with
    | onUvWrite => rfl
    | onUvWriteThenClose => exact absurd ⟨k, hhead, hclosing, x, hx, hclient, hnumber, hresponse⟩ hfree

/-! ### Stuck for good -/

theorem not_stuck_of_data (h : ∀ x ∈ s.owed, x.callback = .onUvWrite) : ¬ Stuck s c := by
  rintro ⟨k, -, -, x, hx, -, -, hresponse⟩
  rw [h x hx] at hresponse
  cases hresponse

theorem Stuck.not_isOpen (h : Stuck s c) : s.isOpen c = false := by
  obtain ⟨k, hhead, hclosing, -⟩ := h
  rw [Bool.eq_false_iff]
  intro hopen
  obtain ⟨k', hhead', hphase⟩ := isOpen_iff.mp hopen
  cases hhead.symm.trans hhead'
  rw [hclosing] at hphase
  cases hphase

theorem Stuck.congr (h : Stuck s c) (hconnections : t.connections c = s.connections c)
    (howed : ∀ x ∈ s.owed, x.apsclient = c → x.callback = .onUvWriteThenClose → x ∈ t.owed) :
    Stuck t c := by
  obtain ⟨k, hhead, hclosing, x, hx, hclient, hnumber, hresponse⟩ := h
  exact ⟨k, hconnections.symm ▸ hhead, hclosing, x, howed x hx hclient hresponse, hclient, hnumber,
    hresponse⟩

/-- The close waits for the response, so that a close that completes is that of an earlier connection. -/
theorem Stuck.reinitialised (h : Stuck s c) {number : Nat} {b : Behaviour M}
    (hlegal : Legal s (.closed c number b)) : s.reinitialised c number = true := by
  obtain ⟨k, hhead, -, x, hx, hclient, hnumber, -⟩ := h
  obtain ⟨-, ⟨k', hk', rfl, hclosing'⟩, hdrained⟩ := hlegal
  obtain ⟨earlier, hconnections⟩ := List.head?_eq_some_iff.mp hhead
  refine reinitialised_iff.mpr ⟨k', ?_, rfl, hclosing'⟩
  rw [hconnections] at hk' ⊢
  refine (List.mem_cons.mp hk').resolve_left ?_
  rintro rfl
  exact hdrained x hx ⟨hclient, hnumber⟩

/-- A stuck handler is active and stuck after the next callback, or the process is gone. -/
theorem Stuck.outline (hsound : Sound maxClients s) (hlegal : Legal s e) (hc : c ∈ s.activeClientHandlers)
    (h : Stuck s c) (hu : Outline s e u) :
    u.aborted = true ∨ c ∈ u.activeClientHandlers ∧ Stuck u c := by
  have hsame : ∀ {v : NetworkService M}, v.connections c = s.connections c → v.owed = s.owed →
      Stuck v c := fun hconnections howed => h.congr hconnections fun x hx _ _ => howed ▸ hx
  have hpicked : ∀ {aps}, s.availableClientHandlers.getLast? = some aps → c ≠ aps := by
    rintro aps hlast rfl
    exact hsound.pool.not_mem_available hc (List.mem_of_getLast? hlast)
  cases hu with
  | listenFailed hstatus => exact Or.inr ⟨hc, h⟩
  | exhausted hnone => exact Or.inr ⟨hc, hsame rfl rfl⟩
  | @taken b aps hlast =>
      exact Or.inr ⟨List.mem_append_left _ hc,
        hsame (connections_taken_of_ne s aps (hpicked hlast)) rfl⟩
  | @refused result b aps hlast hresult =>
      exact Or.inr ⟨(refused_active s aps hresult).symm ▸ hc,
        hsame (connections_refused_of_ne s aps hresult (hpicked hlast)) (refused_owed s aps hresult)⟩
  | @ended client nread b hnread =>
      have hne : c ≠ client := by
        rintro rfl
        have hopen := isOpen_of_isReadable hlegal.2
        rw [h.not_isOpen] at hopen
        cases hopen
      refine Or.inr ⟨mem_removeApsClient_of_ne (s := notify s client _) hne hc, hsame ?_ ?_⟩
      · rw [connections_removeApsClient, connections_notify]
      · rw [removeApsClient_owed]
        rfl
  | data hnread hreturned => exact Or.inr ⟨hc, hsame (connections_notify _ _) rfl⟩
  | dataRefused hnread hreturned =>
      exact Or.inr ⟨hc, hsame (by rw [connections_notify, connections_notify]) rfl⟩
  | @wrote address status b x hfind hdata hstatus =>
      refine Or.inr ⟨hc, h.congr rfl fun y hy _ hresponse => (List.mem_erase_of_ne ?_).mpr hy⟩
      rintro rfl
      rw [hdata] at hresponse
      cases hresponse
  | @wroteThenClosed address status b x hfind hcloses =>
      by_cases hx : x.apsclient = c
      · left
        rw [uvClose_aborted, hx, isOpen_congr (connections_completed s x c), h.not_isOpen, Bool.not_false,
          Bool.or_true]
      · right
        rw [uvClose_active]
        refine ⟨hc, h.congr (connections_uvClose_of_ne (s.completed x) _ _ (Ne.symm hx)) ?_⟩
        intro y hy hclient _
        rw [uvClose_owed]
        refine (List.mem_erase_of_ne ?_).mpr hy
        rintro rfl
        exact hx hclient
  | strayWritten hfind => exact Or.inr ⟨hc, h⟩
  | @closedOnly client number b hcalls =>
      by_cases hclient : c = client
      · subst hclient
        left
        show (s.aborted || s.reinitialised c number) = true
        rw [h.reinitialised hlegal, Bool.or_true]
      · exact Or.inr ⟨hc, hsame (connections_uvClosed_of_ne s client number hclient) rfl⟩
  | @closed client number b hcalls =>
      have hne : c ≠ client := by
        rintro rfl
        rw [callsOnUvClose_of_reinitialised (h.reinitialised hlegal)] at hcalls
        cases hcalls
      refine Or.inr ⟨mem_removeApsClient_of_ne (s := s.uvClosed client number) hne hc, hsame ?_ ?_⟩
      · rw [connections_removeApsClient, connections_uvClosed_of_ne s client number hne]
      · rw [removeApsClient_owed]
        rfl
  | ticked => exact Or.inr ⟨hc, h⟩
  | removed => exact hlegal.elim

theorem Stuck.step (hsound : Sound maxClients s) (hlegal : Legal s e) (hc : c ∈ s.activeClientHandlers)
    (h : Stuck s c) :
    (s.step e).aborted = true ∨ c ∈ (s.step e).activeClientHandlers ∧ Stuck (s.step e) c := by
  obtain ⟨u, hu, hsends⟩ := step_outline s e
  rw [hsends.aborted, hsends.active]
  refine (h.outline hsound hlegal hc hu).imp_right fun ⟨hc, hstuck⟩ => ⟨hc, ?_⟩
  exact hstuck.congr (hsends.connections c) fun x hx _ _ => hsends.mem_owed hx

/-- A stuck handler is never given back. -/
theorem Stuck.run (hsound : Sound maxClients s) {more : List (Event M)}
    (hlegal : (service M).Legal s more) (hc : c ∈ s.activeClientHandlers) (h : Stuck s c) :
    ((service M).run s more).aborted = true ∨ c ∈ ((service M).run s more).activeClientHandlers := by
  have hvisits : (service M).Visits (fun s => Sound maxClients s ∧
      (s.aborted = true ∨ c ∈ s.activeClientHandlers ∧ Stuck s c)) s more := by
    refine Machine.visits_of_preserved (fun s e hs hlegal => ?_) ⟨hsound, Or.inr ⟨hc, h⟩⟩ hlegal
    obtain ⟨hsound, haborted | ⟨hc, hstuck⟩⟩ := hs
    · rw [hlegal.live] at haborted
      cases haborted
    · exact ⟨hsound.step hlegal, hstuck.step hsound hlegal hc⟩
  exact hvisits.last.2.imp_right And.left

/-- A doomed process stays so until libuv aborts. -/
theorem Doomed.run {more : List (Event M)} (hlegal : (service M).Legal s more) (h : Doomed s) :
    ((service M).run s more).aborted = true ∨ Doomed ((service M).run s more) := by
  have hvisits : (service M).Visits (fun s => s.aborted = true ∨ Doomed s) s more := by
    refine Machine.visits_of_preserved (fun s e hs hlegal => ?_) (Or.inr h) hlegal
    rw [hlegal.live, or_iff_right Bool.false_ne_true] at hs
    exact (dead_or_doomed_step hlegal).mpr (Or.inl hs)
  exact hvisits.last

/-! ### The result -/

/-- A client gets two pieces of data, and the first cannot be delivered. -/
def undelivered : List (Event .plain) :=
  [.listen 0 0 (.silent _),
    .read 0 5 ⟨⟨[.sendTcpData [1] true, .sendTcpData [2] true], id⟩, 5, .silent _, .silent _⟩,
    .written 0 (-32) (.silent _)]

/-- A client asks for two pages at once, and gets the first. -/
def halfServed : List (Event .plain) :=
  [.listen 0 0 (.silent _),
    .read 0 36 ⟨⟨[.onIncomingHttpRequest ⟨.get, ⟨"/index.html"⟩⟩ true,
      .onIncomingHttpRequest ⟨.get, ⟨"/index.html"⟩⟩ true], id⟩, 36, .silent _, .silent _⟩,
    .written 0 0 (.silent _)]

theorem undelivered_not_doomed : ¬ Doomed ((service .plain).run (constructed .plain 1) undelivered) := by
  have hsound : Sound 1 ((service .plain).run (constructed .plain 1) undelivered) :=
    (run_sound (by decide)).last
  rw [doomed_iff_pool hsound]
  decide

theorem undelivered_not_stuck : ¬ Stuck ((service .plain).run (constructed .plain 1) undelivered) 0 :=
  not_stuck_of_data (by decide)

theorem halfServed_stuck : Stuck ((service .plain).run (constructed .plain 1) halfServed) 0 := by
  refine ⟨⟨0, .closing, true, true, true, 1⟩, by decide +kernel, rfl, ?_⟩
  decide +kernel

end NetworkService

end AvdeccProxy
