import AvdeccProxy.ClientMachine
import AvdeccProxy.ServiceSound
import AvdeccProxy.TickVisits

/-! The handlers of the service side by side. Each callback does to a handler what its own events do to it
alone, and to the others nothing: the proxy carries nothing from one client to another. Where the state
machines share something themselves, as the ids they assign, it is in what they do when they are called,
and so in the events. -/

namespace AvdeccProxy

namespace NetworkService

open ApsClient Connection Transition

variable {M : Mcu} {s t u v : NetworkService M} {e : Event M} {c d : ClientPtr} {maxClients : Int}
  {f g : ApsClient M → ApsClient M} {made made' : List Write}

/-! ### What a handler sees of a piece of a callback -/

/-- From `s` to `t` the handler `d` changes by `f` without its handle, and the writes `made` are made for
it. -/
structure Seen (d : ClientPtr) (s t : NetworkService M) (f : ApsClient M → ApsClient M)
    (made : List Write) : Prop where
  state : t.clients d = f (s.clients d)
  handle : t.connections d = s.connections d
  writes : ∀ first ≤ s.nextAddress, t.writesFrom first d = s.writesFrom first d ++ made
  nextAddress : s.nextAddress ≤ t.nextAddress

theorem Seen.refl (d : ClientPtr) (s : NetworkService M) : Seen d s s id [] where
  state := rfl
  handle := rfl
  writes := fun _ _ => (List.append_nil _).symm
  nextAddress := Nat.le_refl _

theorem Seen.trans (h : Seen d s t f made) (h' : Seen d t u g made') :
    Seen d s u (g ∘ f) (made ++ made') where
  state := by rw [h'.state, h.state]; rfl
  handle := h'.handle.trans h.handle
  writes := fun first hfirst => by
    rw [h'.writes first (hfirst.trans h.nextAddress), h.writes first hfirst, List.append_assoc]
  nextAddress := h.nextAddress.trans h'.nextAddress

/-- Nothing is written and the handler changes without its handle. -/
theorem Seen.of_clients (hstate : t.clients d = f (s.clients d))
    (hhandle : (f (s.clients d)).connections = (s.clients d).connections) (hheap : t.heap = s.heap)
    (hnext : t.nextAddress = s.nextAddress) : Seen d s t f [] where
  state := hstate
  handle := (congrArg ApsClient.connections hstate).trans hhandle
  writes := fun first _ => by
    unfold writesFrom
    rw [hheap, List.append_nil]
  nextAddress := Nat.le_of_eq hnext.symm

theorem writesFrom_append {written : List UvWriteContext} (hheap : t.heap = s.heap ++ written)
    (first : Nat) (c : ClientPtr) :
    t.writesFrom first c = s.writesFrom first c ++
      (written.filter fun x => decide (first ≤ x.address) && x.apsclient == c).map
        UvWriteContext.write := by
  unfold writesFrom
  rw [hheap, List.filter_append, List.map_append]

theorem uvWrite_seen_self (data : List UInt8) (callback : WriteCallback) (accepted : Bool) :
    Seen c s (s.uvWrite c data callback accepted) id
      [⟨data, callback, s.currentNumber c, accepted && s.isOpen c⟩] where
  state := rfl
  handle := rfl
  writes := fun first hfirst => by
    rw [writesFrom_append (s := s) rfl]
    simp [hfirst, UvWriteContext.write]
  nextAddress := Nat.le_succ _

theorem uvWrite_seen_of_ne (hd : d ≠ c) (data : List UInt8) (callback : WriteCallback)
    (accepted : Bool) : Seen d s (s.uvWrite c data callback accepted) id [] where
  state := rfl
  handle := rfl
  writes := fun first _ => by
    rw [writesFrom_append (s := s) rfl]
    simp [hd.symm]
  nextAddress := Nat.le_succ _

/-- The history of the responses is not the handler's. -/
theorem sendHttpResponse_seen (response : HttpResponse) (accepted : Bool)
    (h : Seen d { s with responded := s.responded ++ [(c, s.currentNumber c)] }
      (sendHttpResponse s c response accepted) f made) :
    Seen d s (sendHttpResponse s c response accepted) f made :=
  ⟨h.state, h.handle, h.writes, h.nextAddress⟩

/-- One piece after another that leaves the handler as it is. -/
theorem foldl_seen {α : Type*} {g : NetworkService M → α → NetworkService M}
    (made : List Connection → α → List Write)
    (hg : ∀ s x, Seen d s (g s x) id (made (s.connections d) x)) (l : List α) :
    Seen d s (l.foldl g s) id (l.flatMap (made (s.connections d))) := by
  induction l generalizing s with
  | nil => exact Seen.refl d s
  | cons x l ih =>
      have hrest := ih (s := g s x)
      rw [(hg s x).handle] at hrest
      exact (hg s x).trans hrest

theorem responses_seen_self (responses : List HttpResponse) (accepted : Bool) :
    Seen c s (responses.foldl (fun s response => sendHttpResponse s c response accepted) s) id
      (responses.map fun response => ⟨M.flatten response, .onUvWriteThenClose, s.currentNumber c,
        accepted && s.isOpen c⟩) := by
  have hall := foldl_seen (d := c) (s := s)
    (g := fun s response => sendHttpResponse s c response accepted)
    (fun connections response => [⟨M.flatten response, .onUvWriteThenClose,
      Connection.currentNumber connections, accepted && Connection.isOpen connections⟩])
    (fun s response => sendHttpResponse_seen response accepted (uvWrite_seen_self _ _ _)) responses
  rw [← List.map_eq_flatMap] at hall
  exact hall

theorem responses_seen_of_ne (hd : d ≠ c) (responses : List HttpResponse) (accepted : Bool) :
    Seen d s (responses.foldl (fun s response => sendHttpResponse s c response accepted) s) id [] := by
  have hall := foldl_seen (d := d) (s := s)
    (g := fun s response => sendHttpResponse s c response accepted) (fun _ _ => [])
    (fun s response => sendHttpResponse_seen response accepted (uvWrite_seen_of_ne hd _ _ _)) responses
  rw [List.flatMap_eq_nil_iff.mpr fun _ _ => rfl] at hall
  exact hall

theorem call_seen_self (request : Call) :
    Seen c s (call s c request) id (request.writes M (s.connections c)) := by
  cases request with
  | sendTcpData data accepted => exact uvWrite_seen_self data .onUvWrite accepted
  | onIncomingHttpRequest q accepted => exact responses_seen_self (M.responses q) accepted
  | sendAvdeccToL2 frame => exact Seen.refl c s
  | closeTcpConnection => exact Seen.refl c s
  | closeTcpServer => exact Seen.refl c s

theorem call_seen_of_ne (hd : d ≠ c) (request : Call) : Seen d s (call s c request) id [] := by
  cases request with
  | sendTcpData data accepted => exact uvWrite_seen_of_ne hd data .onUvWrite accepted
  | onIncomingHttpRequest q accepted => exact responses_seen_of_ne hd (M.responses q) accepted
  | sendAvdeccToL2 frame => exact Seen.refl d s
  | closeTcpConnection => exact Seen.refl d s
  | closeTcpServer => exact Seen.refl d s

theorem calls_seen_self (requests : List Call) :
    Seen c s (requests.foldl (fun s request => call s c request) s) id
      (requests.flatMap (Call.writes M (s.connections c))) :=
  foldl_seen (Call.writes M) (fun _ request => call_seen_self request) requests

theorem calls_seen_of_ne (hd : d ≠ c) (requests : List Call) :
    Seen d s (requests.foldl (fun s request => call s c request) s) id [] := by
  induction requests generalizing s with
  | nil => exact Seen.refl d s
  | cons request requests ih => exact (call_seen_of_ne hd request).trans ih

theorem perform_seen_self (b : Behaviour M) :
    Seen c s (perform s c b) (·.performed [b]) (b.writes (s.connections c)) := by
  have hcalls := calls_seen_self (s := s) (c := c) b.calls
  have heffect : Seen c _ (perform s c b) (·.performed [b]) [] :=
    .of_clients (Function.update_self c _ _) rfl rfl rfl
  have hboth := hcalls.trans heffect
  rw [List.append_nil] at hboth
  exact hboth

theorem perform_seen_of_ne (hd : d ≠ c) (b : Behaviour M) : Seen d s (perform s c b) id [] := by
  have hcalls := calls_seen_of_ne (s := s) hd b.calls
  have heffect : Seen d _ (perform s c b) id [] :=
    .of_clients (Function.update_of_ne hd _ _) rfl rfl rfl
  exact hcalls.trans heffect

theorem notify_seen_self (n : Notification) : Seen c s (notify s c n) (·.told [n]) [] :=
  .of_clients (Function.update_self c _ _) rfl rfl rfl

theorem notify_seen_of_ne (hd : d ≠ c) (n : Notification) : Seen d s (notify s c n) id [] :=
  .of_clients (Function.update_of_ne hd _ _) rfl rfl rfl

theorem stop_seen_self : Seen c s (ApsClient.stop s c) ApsClient.cleared [] := by
  refine .of_clients ?_ rfl ?_ ?_
  · rw [ApsClient.stop, removeApsClient_clients]
    exact clients_clear_self s c
  · exact removeApsClient_heap (clear s c) c
  · exact removeApsClient_nextAddress (clear s c) c

theorem stop_seen_of_ne (hd : d ≠ c) : Seen d s (ApsClient.stop s c) id [] := by
  refine .of_clients ?_ rfl ?_ ?_
  · rw [ApsClient.stop, removeApsClient_clients]
    exact Function.update_of_ne hd _ _
  · exact removeApsClient_heap (clear s c) c
  · exact removeApsClient_nextAddress (clear s c) c

/-- Two calls after one another. -/
theorem perform_perform_seen_self (b b' : Behaviour M) :
    Seen c s (perform (perform s c b) c b') (·.performed [b, b'])
      (b.writes (s.connections c) ++ b'.writes (s.connections c)) := by
  have hfirst := perform_seen_self (s := s) (c := c) b
  have hsecond := perform_seen_self (s := perform s c b) (c := c) b'
  rw [hfirst.handle] at hsecond
  exact hfirst.trans hsecond

theorem perform_perform_seen_of_ne (hd : d ≠ c) (b b' : Behaviour M) :
    Seen d s (perform (perform s c b) c b') id [] :=
  (perform_seen_of_ne hd b).trans (perform_seen_of_ne hd b')

/-! ### The callbacks -/

theorem start_seen_self (b : StartBehaviour M) :
    Seen c (s.uvReadStart c) (start s c b)
      (fun a => (a.performed [b.run]).told [.onIncomingTcpConnection] |>.performed
        [b.onIncomingTcpConnection, b.runAgain])
      (b.run.writes ((s.uvReadStart c).connections c) ++
        (b.onIncomingTcpConnection.writes ((s.uvReadStart c).connections c) ++
          b.runAgain.writes ((s.uvReadStart c).connections c))) := by
  have hrun := perform_seen_self (s := s.uvReadStart c) (c := c) b.run
  have htold := hrun.trans (notify_seen_self (c := c) .onIncomingTcpConnection)
  have hrest := perform_perform_seen_self (c := c)
    (s := notify (perform (s.uvReadStart c) c b.run) c .onIncomingTcpConnection)
    b.onIncomingTcpConnection b.runAgain
  rw [htold.handle] at hrest
  have hall := htold.trans hrest
  rw [List.append_nil] at hall
  exact hall

theorem start_seen_of_ne (hd : d ≠ c) (b : StartBehaviour M) :
    Seen d (s.uvReadStart c) (start s c b) id [] := by
  have hrun := perform_seen_of_ne (s := s.uvReadStart c) hd b.run
  have htold := hrun.trans (notify_seen_of_ne hd .onIncomingTcpConnection)
  exact htold.trans (perform_perform_seen_of_ne hd b.onIncomingTcpConnection b.runAgain)

/-! ### The tick -/

theorem onTickFrom_seen_of_not_mem (b : ClientPtr → TickBehaviour M) (time : UInt32) (fuel i : Nat)
    (hd : d ∉ s.activeClientHandlers.drop i) : Seen d s (onTickFrom b time fuel i s).1 id [] := by
  induction fuel generalizing i s with
  | zero => exact Seen.refl d s
  | succ fuel ih =>
      unfold onTickFrom
      cases hc : s.activeClientHandlers[i]? with
      | none => exact Seen.refl d s
      | some c =>
          obtain ⟨hi, hget⟩ := List.getElem?_eq_some_iff.mp hc
          rw [List.drop_eq_getElem_cons hi, hget, List.mem_cons, not_or] at hd
          have hlists := (sameLists_perform s c (b c).onTimeTick).trans
            (sameLists_perform _ c (b c).run)
          have hvisit := perform_perform_seen_of_ne (s := s) hd.1 (b c).onTimeTick (b c).run
          have hrest := ih (s := ApsClient.run (perform s c (b c).onTimeTick) c (b c).run) (i + 1)
            (by rw [ApsClient.run, hlists.1]; exact hd.2)
          exact hvisit.trans hrest

/-- The handler is visited where it stands in the list, and not again. -/
theorem onTickFrom_seen (b : ClientPtr → TickBehaviour M) (time : UInt32) (fuel i : Nat)
    (hfuel : s.activeClientHandlers.length ≤ i + fuel) (hnodup : s.activeClientHandlers.Nodup)
    (hd : d ∈ s.activeClientHandlers.drop i) :
    Seen d s (onTickFrom b time fuel i s).1 (·.performed [(b d).onTimeTick, (b d).run])
      ((b d).onTimeTick.writes (s.connections d) ++ (b d).run.writes (s.connections d)) := by
  induction fuel generalizing i s with
  | zero =>
      rw [List.drop_eq_nil_of_le (by omega)] at hd
      cases hd
  | succ fuel ih =>
      unfold onTickFrom
      cases hc : s.activeClientHandlers[i]? with
      | none =>
          rw [List.drop_eq_nil_of_le (List.getElem?_eq_none_iff.mp hc)] at hd
          cases hd
      | some c =>
          obtain ⟨hi, hget⟩ := List.getElem?_eq_some_iff.mp hc
          have hdrop : s.activeClientHandlers.drop i = c :: s.activeClientHandlers.drop (i + 1) := by
            rw [List.drop_eq_getElem_cons hi, hget]
          have hlists := (sameLists_perform s c (b c).onTimeTick).trans
            (sameLists_perform _ c (b c).run)
          have hfresh : c ∉ s.activeClientHandlers.drop (i + 1) := by
            have hrest := hnodup.sublist (List.drop_sublist i _)
            rw [hdrop] at hrest
            exact (List.nodup_cons.mp hrest).1
          by_cases hdc : d = c
          · subst hdc
            have hrest := onTickFrom_seen_of_not_mem (d := d) b time fuel (i + 1)
              (s := ApsClient.run (perform s d (b d).onTimeTick) d (b d).run)
              (by rw [ApsClient.run, hlists.1]; exact hfresh)
            have hvisit := (perform_perform_seen_self (s := s) (b d).onTimeTick (b d).run).trans hrest
            rw [List.append_nil] at hvisit
            exact hvisit
          · have hvisit := perform_perform_seen_of_ne (s := s) hdc (b c).onTimeTick (b c).run
            have hrest := ih (s := ApsClient.run (perform s c (b c).onTimeTick) c (b c).run) (i + 1)
              (by rw [ApsClient.run, hlists.1]; omega) (by rw [ApsClient.run, hlists.1]; exact hnodup)
              (by
                rw [hdrop] at hd
                rw [ApsClient.run, hlists.1]
                exact (List.mem_cons.mp hd).resolve_left hdc)
            rw [ApsClient.run, hvisit.handle] at hrest
            exact hvisit.trans hrest

/-! ### One callback -/

attribute [ext] ApsClient

theorem clients_refused_self (s : NetworkService M) (aps : ClientPtr) {result : Int}
    (hresult : result ≠ 0) :
    (s.refused aps result).clients aps = ClientEvent.change .refused (s.clients aps) :=
  ApsClient.ext (components_refused s aps hresult aps) (connections_refused_self s aps hresult)
    (notified_refused s aps hresult aps)

theorem clients_refused_of_ne (s : NetworkService M) (aps : ClientPtr) {result : Int}
    (hresult : result ≠ 0) (hd : d ≠ aps) : (s.refused aps result).clients d = s.clients d :=
  ApsClient.ext (components_refused s aps hresult d) (connections_refused_of_ne s aps hresult hd)
    (notified_refused s aps hresult d)

theorem writesFrom_of_subset (hsound : Sound maxClients s) (hheap : u.heap ⊆ s.heap)
    (c : ClientPtr) : u.writesFrom s.nextAddress c = [] := by
  have hold : ∀ x ∈ s.heap, x.address < s.nextAddress := fun x hx =>
    List.mem_range.mp (hsound.ledger.mem_all.mpr (Or.inl (List.mem_map_of_mem hx)))
  unfold writesFrom
  rw [List.filter_eq_nil_iff.mpr, List.map_nil]
  intro x hx
  simp [Nat.not_le.mpr (hold x (hheap hx))]

/-- A callback that leads from `s` to `u` without a write, and from there on is seen as `f` and `made`. -/
theorem Seen.faithful (hseen : Seen c u t f made) (hstep : s.step e = t)
    (hsound : Sound maxClients s) (hheap : u.heap ⊆ s.heap) (hnext : u.nextAddress = s.nextAddress)
    (hreacts : (ApsClient.alone M).reacts (s.clients c) (s.clientEvents c e) =
      (f (u.clients c), made)) : (handler M c).Faithful s e := by
  have hwrites : t.writesFrom s.nextAddress c = made := by
    rw [hseen.writes s.nextAddress (Nat.le_of_eq hnext.symm), writesFrom_of_subset hsound hheap,
      List.nil_append]
  show (ApsClient.alone M).reacts (s.clients c) (s.clientEvents c e) =
    ((s.step e).clients c, (s.step e).writesFrom s.nextAddress c)
  rw [hreacts, hstep, hseen.state, hwrites]

/-- The callback is none of the handler's. -/
theorem Seen.faithful_none (hseen : Seen c u t id []) (hstep : s.step e = t)
    (hsound : Sound maxClients s) (hheap : u.heap ⊆ s.heap) (hnext : u.nextAddress = s.nextAddress)
    (hclients : u.clients c = s.clients c) (hevents : s.clientEvents c e = []) :
    (handler M c).Faithful s e := by
  refine hseen.faithful hstep hsound hheap hnext ?_
  rw [hevents, hclients]
  rfl

/-- The callback is one event of the handler. -/
theorem Seen.faithful_one {i : ClientEvent M} (hseen : Seen c u t f made) (hstep : s.step e = t)
    (hsound : Sound maxClients s) (hheap : u.heap ⊆ s.heap) (hnext : u.nextAddress = s.nextAddress)
    (hevents : s.clientEvents c e = [i]) (hafter : f (u.clients c) = i.after (s.clients c))
    (hmade : made = i.writes (s.clients c)) : (handler M c).Faithful s e := by
  refine hseen.faithful hstep hsound hheap hnext ?_
  rw [hevents, Transition.Component.reacts_singleton, hafter, hmade]
  rfl

theorem clients_reading_self (s : NetworkService M) (aps : ClientPtr) :
    ((s.acceptInto aps).uvReadStart aps).clients aps =
      { components := M.setup (s.components aps)
        connections := ⟨(s.connections aps).length, .opened, true, true, false, 0⟩ ::
          s.connections aps
        notified := [.setup] } := by
  simp only [acceptInto, uvAccept, if_true, uvTcpInit, setup, uvReadStart, notify, modifyClient,
    Function.update_self]
  rfl

theorem clients_reading_of_ne (s : NetworkService M) {aps : ClientPtr} (hd : d ≠ aps) :
    ((s.acceptInto aps).uvReadStart aps).clients d = s.clients d := by
  simp only [acceptInto, uvAccept, if_true, uvTcpInit, setup, uvReadStart, notify, modifyClient,
    Function.update_of_ne hd]

theorem onNewConnection_seen_self {aps : ClientPtr}
    (hlast : s.availableClientHandlers.getLast? = some aps) (b : AcceptBehaviour M) :
    Seen aps ((s.acceptInto aps).uvReadStart aps) (s.onNewConnection 0 b)
      (fun a => ((a.performed [b.start.run]).told [.onIncomingTcpConnection]).performed
        [b.start.onIncomingTcpConnection, b.start.runAgain, b.run])
      (ClientEvent.writes (.taken b) (s.clients aps)) := by
  have hstart := start_seen_self (s := s.acceptInto aps) (c := aps) b.start
  have hactive : Seen aps (start (s.acceptInto aps) aps b.start)
      { start (s.acceptInto aps) aps b.start with activeClientHandlers :=
        (start (s.acceptInto aps) aps b.start).activeClientHandlers ++ [aps] } id [] :=
    .of_clients rfl rfl rfl rfl
  have hrun := (hstart.trans hactive).trans (perform_seen_self b.run)
  simp only [onNewConnection, hlast, if_true]
  refine ⟨hrun.state, hrun.handle, fun first hfirst => ?_, hrun.nextAddress⟩
  have hhandle : ((s.acceptInto aps).uvReadStart aps).connections aps =
      (ClientEvent.change (.taken b) (s.clients aps)).connections := by
    rw [NetworkService.connections, clients_reading_self]
    rfl
  refine (hrun.writes first hfirst).trans ?_
  rw [(hstart.trans hactive).handle, hhandle, List.append_nil, List.append_assoc, List.append_assoc]
  simp only [ClientEvent.writes, ClientEvent.behaviours, List.flatMap_cons, List.flatMap_nil,
    List.append_nil]

theorem onNewConnection_seen_of_ne {aps : ClientPtr}
    (hlast : s.availableClientHandlers.getLast? = some aps) (hd : d ≠ aps) (b : AcceptBehaviour M) :
    Seen d ((s.acceptInto aps).uvReadStart aps) (s.onNewConnection 0 b) id [] := by
  have hstart := start_seen_of_ne (s := s.acceptInto aps) hd b.start
  have hactive : Seen d (start (s.acceptInto aps) aps b.start)
      { start (s.acceptInto aps) aps b.start with activeClientHandlers :=
        (start (s.acceptInto aps) aps b.start).activeClientHandlers ++ [aps] } id [] :=
    .of_clients rfl rfl rfl rfl
  have hrun := (hstart.trans hactive).trans (perform_seen_of_ne hd b.run)
  simp only [onNewConnection, hlast, if_true]
  exact hrun

/-! ### Listening -/

theorem faithful_listenFailed (hsound : Sound maxClients s) {status : Int} (hstatus : status ≠ 0)
    (result : Int) (b : AcceptBehaviour M) :
    (handler M c).Faithful s (.listen status result b) := by
  have hstep : s.step (.listen status result b) = s := by
    simp only [step, listenHandler, hstatus, if_false, decide_false, Bool.or_false]
  refine (Seen.refl c s).faithful_none hstep hsound (fun _ hx => hx) rfl rfl ?_
  simp only [clientEvents, hstatus, false_and, if_false]

theorem step_listen (s : NetworkService M) (result : Int) (b : AcceptBehaviour M) :
    s.step (.listen 0 result b) =
      ({ s with waiting := true } : NetworkService M).onNewConnection result b := by
  simp only [step, listenHandler, if_true, decide_true, Bool.or_true]

theorem faithful_exhausted (hsound : Sound maxClients s)
    (hnone : s.availableClientHandlers.getLast? = none) (result : Int) (b : AcceptBehaviour M) :
    (handler M c).Faithful s (.listen 0 result b) := by
  have hstep : s.step (.listen 0 result b) = { s with waiting := true } := by
    rw [step_listen]
    simp only [onNewConnection, hnone]
  refine (Seen.refl c _).faithful_none hstep hsound (fun _ hx => hx) rfl rfl ?_
  simp [clientEvents, hnone]

theorem faithful_taken (hsound : Sound maxClients s) {aps : ClientPtr}
    (hlast : s.availableClientHandlers.getLast? = some aps) (b : AcceptBehaviour M) :
    (handler M c).Faithful s (.listen 0 0 b) := by
  have hwaiting : ({ s with waiting := true } : NetworkService M).availableClientHandlers.getLast? =
    some aps := hlast
  by_cases hc : c = aps
  · subst hc
    refine (onNewConnection_seen_self hwaiting b).faithful_one (step_listen s 0 b) hsound
      (fun _ hx => hx) rfl ?_ ?_ rfl
    · simp [clientEvents, hlast]
    · rw [clients_reading_self]
      rfl
  · refine (onNewConnection_seen_of_ne hwaiting hc b).faithful_none (step_listen s 0 b) hsound
      (fun _ hx => hx) rfl ?_ ?_
    · exact clients_reading_of_ne { s with waiting := true } hc
    · simp [clientEvents, hlast, Ne.symm hc]

theorem faithful_refused (hsound : Sound maxClients s) {aps : ClientPtr}
    (hlast : s.availableClientHandlers.getLast? = some aps) {result : Int} (hresult : result ≠ 0)
    (b : AcceptBehaviour M) : (handler M c).Faithful s (.listen 0 result b) := by
  have hstep : s.step (.listen 0 result b) =
      ({ s with waiting := true } : NetworkService M).refused aps result := by
    rw [step_listen]
    simp only [onNewConnection, hlast, hresult, if_false]
    rfl
  have hheap : (({ s with waiting := true } : NetworkService M).refused aps result).heap = s.heap :=
    refused_heap _ aps hresult
  have hnext : (({ s with waiting := true } : NetworkService M).refused aps result).nextAddress =
    s.nextAddress := refused_nextAddress _ aps hresult
  by_cases hc : c = aps
  · subst hc
    refine (Seen.refl c _).faithful_one hstep hsound (fun _ hx => hheap ▸ hx) hnext
      (i := .refused) ?_ ?_ rfl
    · simp [clientEvents, hlast, hresult]
    · exact clients_refused_self { s with waiting := true } c hresult
  · refine (Seen.refl c _).faithful_none hstep hsound (fun _ hx => hheap ▸ hx) hnext ?_ ?_
    · exact clients_refused_of_ne { s with waiting := true } aps hresult hc
    · simp [clientEvents, hlast, Ne.symm hc]

/-! ### Reading -/

theorem onUvRead_seen_of_ne (hd : d ≠ c) (nread : Int) (b : ReadBehaviour M) :
    Seen d s (onUvRead s c nread b) id [] := by
  by_cases hnread : nread ≤ 0
  · have hclosed := (notify_seen_of_ne (s := s) hd .onTcpConnectionClosed).trans
      (perform_perform_seen_of_ne hd b.onTcpConnectionClosed b.run)
    simp only [onUvRead, hnread, if_true]
    exact hclosed.trans (stop_seen_of_ne hd)
  · have hdata := (notify_seen_of_ne (s := s) hd (.onIncomingTcpData b.returned)).trans
      (perform_seen_of_ne hd b.onIncomingTcpData)
    by_cases hreturned : b.returned = 0
    · simp only [onUvRead, hnread, if_false, hreturned, if_true]
      rw [hreturned] at hdata
      exact (hdata.trans (notify_seen_of_ne hd .onTcpConnectionClosed)).trans
        (perform_perform_seen_of_ne hd b.onTcpConnectionClosed b.run)
    · simp only [onUvRead, hnread, if_false, hreturned]
      exact hdata.trans (perform_seen_of_ne hd b.run)

theorem onUvRead_seen_ended {nread : Int} (hnread : nread ≤ 0) (b : ReadBehaviour M) :
    Seen c s (onUvRead s c nread b)
      (fun a => ((a.told [.onTcpConnectionClosed]).performed
        [b.onTcpConnectionClosed, b.run]).cleared)
      (b.onTcpConnectionClosed.writes (s.connections c) ++ b.run.writes (s.connections c)) := by
  have htold := notify_seen_self (s := s) (c := c) .onTcpConnectionClosed
  have hcalls := perform_perform_seen_self (s := notify s c .onTcpConnectionClosed) (c := c)
    b.onTcpConnectionClosed b.run
  have hstop := (htold.trans hcalls).trans stop_seen_self
  rw [htold.handle, List.append_nil] at hstop
  simp only [onUvRead, hnread, if_true]
  exact hstop

theorem onUvRead_seen_data {nread : Int} (hnread : ¬ nread ≤ 0) (b : ReadBehaviour M)
    (hreturned : b.returned ≠ 0) :
    Seen c s (onUvRead s c nread b)
      (fun a => (a.told [.onIncomingTcpData b.returned]).performed [b.onIncomingTcpData, b.run])
      (b.onIncomingTcpData.writes (s.connections c) ++ b.run.writes (s.connections c)) := by
  have htold := notify_seen_self (s := s) (c := c) (.onIncomingTcpData b.returned)
  have hcalls := perform_perform_seen_self (s := notify s c (.onIncomingTcpData b.returned)) (c := c)
    b.onIncomingTcpData b.run
  rw [htold.handle] at hcalls
  simp only [onUvRead, hnread, if_false, hreturned]
  exact htold.trans hcalls

theorem onUvRead_seen_dataRefused {nread : Int} (hnread : ¬ nread ≤ 0) (b : ReadBehaviour M)
    (hreturned : b.returned = 0) :
    Seen c s (onUvRead s c nread b)
      (fun a => (((a.told [.onIncomingTcpData 0]).performed [b.onIncomingTcpData]).told
        [.onTcpConnectionClosed]).performed [b.onTcpConnectionClosed, b.run])
      (b.onIncomingTcpData.writes (s.connections c) ++
        (b.onTcpConnectionClosed.writes (s.connections c) ++
          b.run.writes (s.connections c))) := by
  have htold := notify_seen_self (s := s) (c := c) (.onIncomingTcpData 0)
  have hdata := perform_seen_self (s := notify s c (.onIncomingTcpData 0)) (c := c)
    b.onIncomingTcpData
  rw [htold.handle] at hdata
  have hclosed := (htold.trans hdata).trans
    (notify_seen_self (c := c) (s := onIncomingTcpData s c 0 b.onIncomingTcpData)
      .onTcpConnectionClosed)
  have hcalls := perform_perform_seen_self (c := c)
    (s := notify (onIncomingTcpData s c 0 b.onIncomingTcpData) c .onTcpConnectionClosed)
    b.onTcpConnectionClosed b.run
  rw [hclosed.handle] at hcalls
  have hall := hclosed.trans hcalls
  rw [List.append_nil] at hall
  simp only [onUvRead, hnread, if_false, hreturned, if_true]
  exact hall

theorem faithful_read (hsound : Sound maxClients s) (client : ClientPtr) (nread : Int)
    (b : ReadBehaviour M) : (handler M c).Faithful s (.read client nread b) := by
  by_cases hc : c = client
  swap
  · refine (onUvRead_seen_of_ne hc nread b).faithful_none rfl hsound (fun _ hx => hx) rfl rfl ?_
    exact if_neg (Ne.symm hc)
  subst hc
  have hevents : s.clientEvents c (.read c nread b) = [.read nread b] := if_pos rfl
  by_cases hnread : nread ≤ 0
  · refine (onUvRead_seen_ended hnread b).faithful_one rfl hsound (fun _ hx => hx) rfl hevents ?_ ?_
    · simp [ClientEvent.after, ClientEvent.change, ClientEvent.behaviours, ClientEvent.stops, hnread]
    · simp only [ClientEvent.writes, ClientEvent.change, ClientEvent.behaviours, hnread, if_true,
        List.flatMap_cons, List.flatMap_nil, List.append_nil]
      rfl
  · by_cases hreturned : b.returned = 0
    · refine (onUvRead_seen_dataRefused hnread b hreturned).faithful_one rfl hsound
        (fun _ hx => hx) rfl hevents ?_ ?_
      · simp [ClientEvent.after, ClientEvent.change, ClientEvent.behaviours, ClientEvent.stops,
          hnread, hreturned, ApsClient.told, ApsClient.performed]
      · simp only [ClientEvent.writes, ClientEvent.change, ClientEvent.behaviours, hnread, if_false,
          hreturned, if_true, List.flatMap_cons, List.flatMap_nil, List.append_nil]
        rfl
    · refine (onUvRead_seen_data hnread b hreturned).faithful_one rfl hsound (fun _ hx => hx) rfl
        hevents ?_ ?_
      · simp [ClientEvent.after, ClientEvent.change, ClientEvent.behaviours, ClientEvent.stops,
          hnread, hreturned]
      · simp only [ClientEvent.writes, ClientEvent.change, ClientEvent.behaviours, hnread, if_false,
          hreturned, List.flatMap_cons, List.flatMap_nil, List.append_nil]
        rfl

/-! ### Writing -/

theorem writeChecked_heap (s : NetworkService M) (x : UvWriteContext) (status : Int) :
    (s.writeChecked x status).heap = s.heap.erase x := by
  unfold writeChecked
  split
  · exact uvClose_heap _ _ _
  · rfl

theorem writeChecked_nextAddress (s : NetworkService M) (x : UvWriteContext) (status : Int) :
    (s.writeChecked x status).nextAddress = s.nextAddress := by
  unfold writeChecked
  split
  · exact uvClose_nextAddress _ _ _
  · rfl

theorem clients_writeChecked_self (s : NetworkService M) (x : UvWriteContext) (status : Int)
    (b : Behaviour M) : (s.writeChecked x status).clients x.apsclient =
      ClientEvent.change (.wrote status b) (s.clients x.apsclient) := by
  unfold writeChecked
  by_cases hstatus : status < 0
  · rw [if_pos hstatus, clients_uvClose_self]
    simp only [ClientEvent.change, hstatus, if_true]
    rfl
  · rw [if_neg hstatus]
    simp only [ClientEvent.change, hstatus, if_false]
    rfl

theorem clients_writeChecked_of_ne (s : NetworkService M) {x : UvWriteContext} (status : Int)
    (hd : d ≠ x.apsclient) : (s.writeChecked x status).clients d = s.clients d := by
  unfold writeChecked
  split
  · exact clients_uvClose_of_ne _ _ _ hd
  · rfl

theorem connections_writeChecked (s : NetworkService M) (x : UvWriteContext) (status : Int)
    (b : Behaviour M) : (s.writeChecked x status).connections x.apsclient =
      (ClientEvent.change (.wrote status b) (s.clients x.apsclient)).connections :=
  congrArg ApsClient.connections (clients_writeChecked_self s x status b)

/-- When the handle of a failed write is not open the process is gone, and `run` is not called. -/
theorem faithful_wrote (hsound : Sound maxClients s) (hlive : s.aborted = false)
    {address : Nat} {x : UvWriteContext}
    (hfind : s.owed.find? (·.address == address) = some x) (hcallback : x.callback = .onUvWrite)
    (status : Int) (b : Behaviour M) : (handler M c).Faithful s (.written address status b) := by
  have hstep : s.step (.written address status b) =
      if (s.writeChecked x status).aborted then s.writeChecked x status
      else ApsClient.run (s.writeChecked x status) x.apsclient b :=
    step_written_tcp hfind hcallback
  have hheap : (s.writeChecked x status).heap ⊆ s.heap := fun y hy => by
    rw [writeChecked_heap] at hy
    exact List.mem_of_mem_erase hy
  have hnext := writeChecked_nextAddress s x status
  have hothers : c ≠ x.apsclient → s.clientEvents c (.written address status b) = [] := fun hc => by
    simp [clientEvents, hfind, Ne.symm hc]
  have hself : c = x.apsclient → s.clientEvents c (.written address status b) = [.wrote status b] :=
    fun hc => by simp [clientEvents, hfind, hcallback, hc]
  have hlives := writeChecked_live s x status
  by_cases hshut : status < 0 ∧ s.isOpen x.apsclient = false
  · have habort : (s.writeChecked x status).aborted = true := by
      by_contra hnot
      have hopen := (hlives.mp (Bool.eq_false_iff.mpr hnot)).2 hshut.1
      rw [hshut.2] at hopen
      cases hopen
    have hbehaviours : ClientEvent.behaviours (.wrote status b) (s.clients x.apsclient) = [] :=
      if_pos hshut
    rw [if_pos habort] at hstep
    by_cases hc : c = x.apsclient
    · refine (Seen.refl c _).faithful_one hstep hsound hheap hnext (hself hc) ?_ ?_
      · rw [hc, clients_writeChecked_self s x status b]
        simp only [ClientEvent.after, hbehaviours]
        rfl
      · rw [hc]
        simp only [ClientEvent.writes, hbehaviours]
        rfl
    · exact (Seen.refl c _).faithful_none hstep hsound hheap hnext
        (clients_writeChecked_of_ne s status hc) (hothers hc)
  · have hlive' : (s.writeChecked x status).aborted = false :=
      hlives.mpr ⟨hlive, fun hstatus => by
        by_contra hnot
        exact hshut ⟨hstatus, Bool.eq_false_iff.mpr hnot⟩⟩
    have hbehaviours : ClientEvent.behaviours (.wrote status b) (s.clients x.apsclient) = [b] :=
      if_neg hshut
    rw [hlive'] at hstep
    by_cases hc : c = x.apsclient
    · have hrun := perform_seen_self (s := s.writeChecked x status) (c := x.apsclient) b
      rw [← hc] at hrun
      refine hrun.faithful_one (hc ▸ hstep) hsound hheap hnext (hself hc) ?_ ?_
      · rw [hc, clients_writeChecked_self s x status b]
        simp only [ClientEvent.after, hbehaviours]
        rfl
      · rw [hc, connections_writeChecked s x status b]
        simp only [ClientEvent.writes, hbehaviours, List.flatMap_cons, List.flatMap_nil,
          List.append_nil]
    · exact (perform_seen_of_ne hc b).faithful_none hstep hsound hheap hnext
        (clients_writeChecked_of_ne s status hc) (hothers hc)

theorem faithful_responded (hsound : Sound maxClients s) {address : Nat} {x : UvWriteContext}
    (hfind : s.owed.find? (·.address == address) = some x)
    (hcallback : x.callback = .onUvWriteThenClose) (status : Int) (b : Behaviour M) :
    (handler M c).Faithful s (.written address status b) := by
  have hstep : s.step (.written address status b) = (s.completed x).uvClose x.apsclient true :=
    step_written_thenClose hfind hcallback
  have hheap : ((s.completed x).uvClose x.apsclient true).heap ⊆ s.heap := fun y hy => by
    rw [uvClose_heap] at hy
    exact List.mem_of_mem_erase hy
  have hnext : ((s.completed x).uvClose x.apsclient true).nextAddress = s.nextAddress :=
    uvClose_nextAddress _ _ _
  by_cases hc : c = x.apsclient
  · refine (Seen.refl c _).faithful_one (i := .responded) hstep hsound hheap hnext ?_ ?_ rfl
    · simp [clientEvents, hfind, hcallback, hc]
    · rw [hc]
      exact clients_uvClose_self (s.completed x) x.apsclient true
  · refine (Seen.refl c _).faithful_none hstep hsound hheap hnext
      (clients_uvClose_of_ne (s.completed x) _ _ hc) ?_
    simp [clientEvents, hfind, Ne.symm hc]

theorem faithful_written (hsound : Sound maxClients s) (hlive : s.aborted = false) (address : Nat)
    (status : Int) (b : Behaviour M) : (handler M c).Faithful s (.written address status b) := by
  cases hfind : s.owed.find? (·.address == address) with
  | none =>
      refine (Seen.refl c s).faithful_none (step_written_stray hfind) hsound (fun _ hx => hx) rfl
        rfl ?_
      simp [clientEvents, hfind]
  | some x =>
      cases hcallback : x.callback with
      | onUvWrite => exact faithful_wrote hsound hlive hfind hcallback status b
      | onUvWriteThenClose => exact faithful_responded hsound hfind hcallback status b

/-! ### Closing, ticks -/

theorem faithful_closed (hsound : Sound maxClients s) (client : ClientPtr) (number : Nat)
    (b : Behaviour M) : (handler M c).Faithful s (.closed client number b) := by
  have hcallback : s.callsOnUvClose client number =
      Connection.callsOnUvClose (s.clients client).connections number := rfl
  have hevent : c ≠ client → s.clientEvents c (.closed client number b) = [] := fun hc =>
    if_neg (Ne.symm hc)
  have hothers : c ≠ client → (s.uvClosed client number).clients c = s.clients c := fun hc =>
    Function.update_of_ne hc _ _
  have hself : (s.uvClosed client number).clients client =
      ClientEvent.change (.closed number b) (s.clients client) := Function.update_self client _ _
  cases hcloses : Connection.callsOnUvClose (s.clients client).connections number with
  | false =>
      have hstep : s.step (.closed client number b) = s.uvClosed client number := by
        simp only [step, closeCompleted, hcallback, hcloses]
        rfl
      by_cases hc : c = client
      · subst hc
        refine (Seen.refl c _).faithful_one hstep hsound (fun _ hx => hx) rfl (if_pos rfl) ?_ ?_
        · rw [hself]
          simp only [ClientEvent.after, ClientEvent.behaviours, ClientEvent.stops, hcloses]
          rfl
        · simp only [ClientEvent.writes, ClientEvent.behaviours, hcloses]
          rfl
      · exact (Seen.refl c _).faithful_none hstep hsound (fun _ hx => hx) rfl (hothers hc) (hevent hc)
  | true =>
      have hstep : s.step (.closed client number b) = onUvClose (s.uvClosed client number) client b := by
        simp only [step, closeCompleted, hcallback, hcloses, if_true]
      by_cases hc : c = client
      · subst hc
        have hrun := (perform_seen_self (s := s.uvClosed c number) (c := c) b).trans stop_seen_self
        refine hrun.faithful_one hstep hsound (fun _ hx => hx) rfl (if_pos rfl) ?_ ?_
        · rw [hself]
          simp only [ClientEvent.after, ClientEvent.behaviours, ClientEvent.stops, hcloses, if_true]
          rfl
        · rw [NetworkService.connections, hself]
          simp only [ClientEvent.writes, ClientEvent.behaviours, hcloses, if_true,
            List.flatMap_cons, List.flatMap_nil]
      · exact ((perform_seen_of_ne hc b).trans (stop_seen_of_ne hc)).faithful_none hstep hsound
          (fun _ hx => hx) rfl (hothers hc) (hevent hc)

theorem faithful_tick (hsound : Sound maxClients s) (timestamp : Nat)
    (b : ClientPtr → TickBehaviour M) : (handler M c).Faithful s (.tick timestamp b) := by
  by_cases hc : c ∈ s.activeClientHandlers
  · have hseen := onTickFrom_seen (d := c) b (UInt32.ofNat (timestamp / 1000000))
      (s.activeClientHandlers.length + 1) 0 (by omega) hsound.pool.nodup_active hc
    refine hseen.faithful_one (i := .ticked (b c)) rfl hsound (fun _ hx => hx) rfl (if_pos hc)
      rfl ?_
    simp only [ClientEvent.writes, ClientEvent.behaviours, List.flatMap_cons, List.flatMap_nil,
      List.append_nil]
    rfl
  · exact (onTickFrom_seen_of_not_mem (d := c) b _ _ 0 hc).faithful_none rfl hsound
      (fun _ hx => hx) rfl rfl (if_neg hc)

/-- Every legal callback does to a handler what its own events do. -/
theorem faithful_step (hsound : Sound maxClients s) (hlegal : Legal s e) :
    (handler M c).Faithful s e := by
  cases e with
  | listen status result b =>
      by_cases hstatus : status = 0
      swap
      · exact faithful_listenFailed hsound hstatus result b
      subst hstatus
      cases hlast : s.availableClientHandlers.getLast? with
      | none => exact faithful_exhausted hsound hlast result b
      | some aps =>
          by_cases hresult : result = 0
          · subst hresult
            exact faithful_taken hsound hlast b
          · exact faithful_refused hsound hlast hresult b
  | read client nread b => exact faithful_read hsound client nread b
  | written address status b => exact faithful_written hsound hlegal.1 address status b
  | closed client number b => exact faithful_closed hsound client number b
  | tick timestamp b => exact faithful_tick hsound timestamp b
  | removeApsClient client => exact hlegal.elim

/-! ### Runs -/

theorem run_faithful {events : List (Event M)} (c : ClientPtr)
    (hlegal : (service M).Legal (constructed M maxClients) events) :
    (service M).Steps (handler M c).Faithful (constructed M maxClients) events :=
  Transition.Machine.steps_of_invariant (fun _ _ => faithful_step) (run_sound hlegal) hlegal

/-- **Isolation.** Whatever the other clients of two services do, and however many there may be: when the
same happens to a handler in both, and its state machine does the same, it is in the same state, and the
same writes were made for it. -/
theorem isolation (maxClients maxClients' : Int) (events events' : List (Event M)) (c : ClientPtr)
    (hlegal : (service M).Legal (constructed M maxClients) events)
    (hlegal' : (service M).Legal (constructed M maxClients') events')
    (hinputs : (handler M c).runInputs (constructed M maxClients) events =
      (handler M c).runInputs (constructed M maxClients') events') :
    ((service M).run (constructed M maxClients) events).clients c =
        ((service M).run (constructed M maxClients') events').clients c ∧
      (handler M c).runOutputs (constructed M maxClients) events =
        (handler M c).runOutputs (constructed M maxClients') events' :=
  View.noninterference (run_faithful c hlegal) (run_faithful c hlegal') rfl hinputs

/-- A client asks for a page next to one that sends nonsense and leaves. -/
def pageInACrowd : List (Event .plain) :=
  [.listen 0 0 (.silent _), .listen 0 0 (.silent _), .read 1 5 (.silent _ 0),
    .read 0 18 ⟨⟨[.onIncomingHttpRequest ⟨.get, ⟨"/index.html"⟩⟩ true], id⟩, 18, .silent _,
      .silent _⟩,
    .read 1 0 (.silent _ 0)]

/-- The same client on its own. -/
def pageAlone : List (Event .plain) :=
  [.listen 0 0 (.silent _),
    .read 0 18 ⟨⟨[.onIncomingHttpRequest ⟨.get, ⟨"/index.html"⟩⟩ true], id⟩, 18, .silent _,
      .silent _⟩]

theorem isolation_page :
    ((service .plain).run (constructed .plain 2) pageInACrowd).clients 0 =
        ((service .plain).run (constructed .plain 1) pageAlone).clients 0 ∧
      (handler .plain 0).runOutputs (constructed .plain 2) pageInACrowd =
        (handler .plain 0).runOutputs (constructed .plain 1) pageAlone :=
  isolation 2 1 pageInACrowd pageAlone 0 (by decide +kernel) (by decide +kernel) rfl

end NetworkService

end AvdeccProxy
