import AvdeccProxy.ClientPool

/-! What a recycled handler still knows. `stop` clears the states, actions and events of a handler; its
variables, parser and request stay as the last connection left them, and a callback that comes after the
release may change any of the six again. -/

namespace AvdeccProxy

/-- The members that `stop` does not clear are as the constructor left them. -/
def Components.CleanUpToClear {M : Mcu} (members : Components M.toMcuTypes) : Prop :=
  members.myVariables = M.constructed.myVariables ∧
    members.httpServerParser = M.constructed.httpServerParser ∧
    members.httpServerRequest = M.constructed.httpServerRequest

namespace NetworkService

open ApsClient

variable {M : Mcu} {A : ClientPtr → Prop} {s t u : NetworkService M} {e : Event M}
  {c d : ClientPtr} {maxClients : Int}

/-- When a connection is accepted and `start` is about to be called, the handler is as a new one. -/
def AcceptsClean (s : NetworkService M) : Event M → Prop
  | .listen status result _ =>
      status = 0 → result = 0 → ∀ aps, s.availableClientHandlers.getLast? = some aps →
        (s.acceptInto aps).components aps = M.setup M.constructed
  | _ => True

/-- Every available handler is as the constructor left it. -/
def PoolClean (s : NetworkService M) : Prop :=
  ∀ c ∈ s.availableClientHandlers, s.components c = M.constructed

/-- A callback that stops its handler leaves the uncleared members as constructed, and any other callback
leaves a handler that is available already as constructed altogether. -/
def LeavesClean (s : NetworkService M) : Event M → Prop
  | .listen _ _ _ => True
  | .read client nread b =>
      if nread ≤ 0 then
        client ∈ s.activeClientHandlers ∨ client ∈ s.availableClientHandlers →
          (b.run.effect (b.onTcpConnectionClosed.effect (s.components client))).CleanUpToClear
      else if b.returned = 0 then
        client ∈ s.availableClientHandlers →
          b.run.effect (b.onTcpConnectionClosed.effect
            (b.onIncomingTcpData.effect (s.components client))) = M.constructed
      else
        client ∈ s.availableClientHandlers →
          b.run.effect (b.onIncomingTcpData.effect (s.components client)) = M.constructed
  | .written address status b =>
      ∀ x, s.owed.find? (·.address == address) = some x → x.callback = .onUvWrite →
        s.aborted = false → (status < 0 → s.isOpen x.apsclient = true) →
          x.apsclient ∈ s.availableClientHandlers →
            b.effect (s.components x.apsclient) = M.constructed
  | .closed client number b =>
      s.callsOnUvClose client number = true →
        client ∈ s.activeClientHandlers ∨ client ∈ s.availableClientHandlers →
          (b.effect (s.components client)).CleanUpToClear
  | .tick _ _ => True
  | .removeApsClient client =>
      client ∈ s.activeClientHandlers → s.components client = M.constructed

/-! ### Members after a call -/

theorem onIncomingHttpRequest_clients (s : NetworkService M) (c : ClientPtr) (q : IncomingRequest)
    (accepted : Bool) : (onIncomingHttpRequest s c q accepted).clients = s.clients :=
  List.foldlRecOn (motive := fun t : NetworkService M => t.clients = s.clients) _ _ rfl
    fun _ ht _ _ => ht

theorem call_clients (s : NetworkService M) (c : ClientPtr) (request : Call) :
    (call s c request).clients = s.clients := by
  cases request with
  | sendTcpData data accepted => rfl
  | onIncomingHttpRequest q accepted => exact onIncomingHttpRequest_clients s c q accepted
  | sendAvdeccToL2 frame => rfl
  | closeTcpConnection => rfl
  | closeTcpServer => rfl

theorem calls_clients (s : NetworkService M) (c : ClientPtr) (requests : List Call) :
    (requests.foldl (fun s request => call s c request) s).clients = s.clients :=
  List.foldlRecOn (motive := fun t : NetworkService M => t.clients = s.clients) _ _ rfl
    fun t ht request _ => (call_clients t c request).trans ht

theorem components_perform_self (s : NetworkService M) (c : ClientPtr) (b : Behaviour M) :
    (perform s c b).components c = b.effect (s.components c) := by
  unfold perform
  rw [components_modifyClient_self, calls_clients]
  rfl

theorem components_stop_self (hclear : M.ClearResets) (s : NetworkService M) (c : ClientPtr) :
    (ApsClient.stop s c).components c = { M.constructed with
      myVariables := (s.components c).myVariables
      httpServerParser := (s.components c).httpServerParser
      httpServerRequest := (s.components c).httpServerRequest } := by
  unfold ApsClient.stop ApsClient.clear
  rw [components_removeApsClient, components_modifyClient_self, cleared, hclear.states, hclear.actions,
    hclear.events]
  rfl

/-- A stopped handler is as new exactly when the uncleared members were. -/
theorem components_stop_eq (hclear : M.ClearResets) (s : NetworkService M) (c : ClientPtr) :
    (ApsClient.stop s c).components c = M.constructed ↔ (s.components c).CleanUpToClear := by
  rw [components_stop_self hclear]
  constructor
  · intro h
    have hvariables := congrArg Components.myVariables h
    have hparser := congrArg Components.httpServerParser h
    have hrequest := congrArg Components.httpServerRequest h
    exact ⟨hvariables, hparser, hrequest⟩
  · rintro ⟨hvariables, hparser, hrequest⟩
    rw [hvariables, hparser, hrequest]

theorem components_acceptInto_self (s : NetworkService M) (aps : ClientPtr) :
    (s.acceptInto aps).components aps = M.setup (s.components aps) := by
  simp only [acceptInto, uvAccept, if_true, uvTcpInit, setup, notify, components, modifyClient,
    Function.update_self]
  rfl

theorem components_taken_of_ne {aps : ClientPtr} (h : d ≠ aps) :
    (s.taken aps).components d = s.components d :=
  congrArg ApsClient.components (clients_taken_of_ne s aps h)

/-- A callback leaves the members of the handlers it does not call alone. -/
theorem components_step_of_not_callers (hd : ¬ s.callers e d) :
    (s.step e).components d = s.components d := by
  obtain ⟨u, hu, hsends⟩ := step_outline s e
  rw [hsends.components d hd]
  cases hu with
  | listenFailed hstatus => rfl
  | exhausted hnone => rfl
  | @taken b aps hlast =>
      refine components_taken_of_ne fun hda => hd ?_
      rw [hda]
      exact ⟨rfl, rfl, hlast⟩
  | refused hlast hresult => exact components_refused s _ hresult d
  | ended hnread => rw [components_removeApsClient, components_notify]
  | data hnread hreturned => rw [components_notify]
  | dataRefused hnread hreturned => rw [components_notify, components_notify]
  | wrote hfind hcallback hstatus => rfl
  | wroteThenClosed hfind hcloses => exact components_uvClose _ _ _ d
  | strayWritten hfind => rfl
  | closedOnly hcallback => exact components_uvClosed s _ _ d
  | closed hcallback => rw [components_removeApsClient, components_uvClosed]
  | ticked => rfl
  | removed => exact components_removeApsClient s _ d

/-! ### One callback -/

theorem mem_available_removeApsClient :
    d ∈ (s.removeApsClient c).availableClientHandlers ↔
      d ∈ s.availableClientHandlers ∨ d = c ∧ c ∈ s.activeClientHandlers := by
  by_cases hc : c ∈ s.activeClientHandlers
  · rw [removeApsClient_of_mem hc, List.mem_append, List.mem_singleton, and_iff_left hc]
  · rw [removeApsClient_of_not_mem hc]
    exact (or_iff_left fun h => hc h.2).symm

/-- A callback about one handler keeps the pool clean when it leaves that handler clean. -/
theorem poolClean_iff_of_client (h : PoolClean s)
    (hothers : ∀ d, d ≠ c → t.components d = s.components d)
    (havailable : ∀ d, d ≠ c → d ∈ t.availableClientHandlers → d ∈ s.availableClientHandlers) :
    PoolClean t ↔ (c ∈ t.availableClientHandlers → t.components c = M.constructed) := by
  constructor
  · exact fun hclean => hclean c
  · intro hc d hd
    by_cases hdc : d = c
    · rw [hdc] at hd ⊢
      exact hc hd
    · rw [hothers d hdc]
      exact h d (havailable d hdc hd)

theorem poolClean_congr (havailable : t.availableClientHandlers = s.availableClientHandlers)
    (hcomponents : ∀ c ∈ s.availableClientHandlers, t.components c = s.components c)
    (h : PoolClean s) : PoolClean t := by
  intro c hc
  rw [havailable] at hc
  rw [hcomponents c hc]
  exact h c hc

theorem poolClean_read (hclear : M.ClearResets) (h : PoolClean s) (client : ClientPtr)
    (nread : Int) (b : ReadBehaviour M) :
    PoolClean (s.step (.read client nread b)) ↔ LeavesClean s (.read client nread b) := by
  have hothers : ∀ d, d ≠ client →
      (s.step (.read client nread b)).components d = s.components d := fun d hd =>
    components_step_of_not_callers hd
  by_cases hnread : nread ≤ 0
  · have hsends := onUvRead_ended (s := s) (A := (· = client)) rfl hnread b
    have havailable : ∀ d, d ∈ (s.step (.read client nread b)).availableClientHandlers ↔
        d ∈ s.availableClientHandlers ∨ d = client ∧ client ∈ s.activeClientHandlers := by
      intro d
      show d ∈ (onUvRead s client nread b).availableClientHandlers ↔ _
      rw [hsends.available]
      exact mem_available_removeApsClient
    have hmembers : (s.step (.read client nread b)).components client = M.constructed ↔
        (b.run.effect (b.onTcpConnectionClosed.effect (s.components client))).CleanUpToClear := by
      simp only [step, onUvRead, if_pos hnread]
      rw [components_stop_eq hclear]
      unfold ApsClient.run onTcpConnectionClosed
      rw [components_perform_self, components_perform_self, components_notify]
    refine (poolClean_iff_of_client h hothers fun d hdc hd =>
      ((havailable d).mp hd).resolve_right fun h => hdc h.1).trans ?_
    simp only [LeavesClean, if_pos hnread, havailable, hmembers, true_and]
    exact imp_congr_left or_comm
  · have hpos := Int.not_le.mp hnread
    have hsame : (s.step (.read client nread b)).availableClientHandlers =
        s.availableClientHandlers := by
      by_cases hreturned : b.returned = 0
      · exact (onUvRead_dataRefused (s := s) (A := (· = client)) rfl hpos b hreturned).available
      · exact (onUvRead_data (s := s) (A := (· = client)) rfl hpos b hreturned).available
    refine (poolClean_iff_of_client h hothers fun d _ hd => hsame ▸ hd).trans ?_
    rw [hsame]
    by_cases hreturned : b.returned = 0
    · simp only [LeavesClean, if_neg hnread, if_pos hreturned, step, onUvRead]
      unfold ApsClient.run onTcpConnectionClosed onIncomingTcpData
      rw [components_perform_self, components_perform_self, components_notify,
        components_perform_self, components_notify]
    · simp only [LeavesClean, if_neg hnread, if_neg hreturned, step, onUvRead]
      unfold ApsClient.run onIncomingTcpData
      rw [components_perform_self, components_perform_self, components_notify]

theorem poolClean_closed (hclear : M.ClearResets) (h : PoolClean s) (client : ClientPtr)
    (number : Nat) (b : Behaviour M) :
    PoolClean (s.step (.closed client number b)) ↔ LeavesClean s (.closed client number b) := by
  cases hcallback : s.callsOnUvClose client number with
  | false =>
      refine iff_of_true ?_ fun hcalls => ?_
      · have hstep : s.step (.closed client number b) = s.uvClosed client number := by
          simp only [step, closeCompleted, hcallback]
          rfl
        rw [hstep]
        exact poolClean_congr (s := s) (t := s.uvClosed client number) rfl
          (fun d _ => components_uvClosed s client number d) h
      · rw [hcallback] at hcalls
        cases hcalls
  | true =>
      have hothers : ∀ d, d ≠ client →
          (s.step (.closed client number b)).components d = s.components d := fun d hd =>
        components_step_of_not_callers hd
      have hstep : s.step (.closed client number b) = onUvClose (s.uvClosed client number) client b := by
        simp only [step, closeCompleted, hcallback, if_true]
      have hsends := onUvClose_sends (s := s.uvClosed client number) (A := (· = client)) rfl b
      have havailable : ∀ d, d ∈ (s.step (.closed client number b)).availableClientHandlers ↔
          d ∈ s.availableClientHandlers ∨ d = client ∧ client ∈ s.activeClientHandlers := by
        intro d
        rw [hstep, hsends.available]
        exact mem_available_removeApsClient
      have hmembers : (s.step (.closed client number b)).components client = M.constructed ↔
          (b.effect (s.components client)).CleanUpToClear := by
        rw [hstep]
        unfold onUvClose
        rw [components_stop_eq hclear]
        unfold ApsClient.run closeTcpConnection
        rw [components_perform_self, components_uvClosed]
      refine (poolClean_iff_of_client h hothers fun d hdc hd =>
        ((havailable d).mp hd).resolve_right fun h => hdc h.1).trans ?_
      simp only [LeavesClean, hcallback, forall_const, havailable, hmembers, true_and]
      exact imp_congr_left or_comm

theorem poolClean_written (h : PoolClean s) (address : Nat) (status : Int) (b : Behaviour M) :
    PoolClean (s.step (.written address status b)) ↔ LeavesClean s (.written address status b) := by
  cases hfind : s.owed.find? (·.address == address) with
  | none =>
      rw [step_written_stray hfind]
      refine iff_of_true h fun x hx => ?_
      rw [hfind] at hx
      cases hx
  | some x =>
      cases hcallback : x.callback with
      | onUvWriteThenClose =>
          rw [step_written_thenClose hfind hcallback]
          refine iff_of_true ?_ fun y hy hcalls => ?_
          · refine poolClean_congr ?_ (fun d _ => ?_) h
            · rw [uvClose_available]
              rfl
            · rw [components_uvClose]
              rfl
          · obtain rfl := Option.some.inj (hfind.symm.trans hy)
            rw [hcallback] at hcalls
            cases hcalls
      | onUvWrite =>
          rw [step_written_tcp hfind hcallback]
          by_cases hlive : (s.writeChecked x status).aborted = false
          · have hrun := perform_sends (s := s.writeChecked x status) (A := (· = x.apsclient)) rfl b
            have hsame : (perform (s.writeChecked x status) x.apsclient b).availableClientHandlers =
                s.availableClientHandlers := by
              rw [hrun.available, writeChecked_available]
            rw [hlive, if_neg Bool.false_ne_true]
            unfold ApsClient.run
            refine (poolClean_iff_of_client (c := x.apsclient) h (fun d hd => ?_)
              fun d _ hd => hsame ▸ hd).trans ?_
            · rw [hrun.components d hd, components_writeChecked]
            · rw [hsame, components_perform_self, components_writeChecked]
              obtain ⟨haborted, hopen⟩ := (writeChecked_live s x status).mp hlive
              constructor
              · intro hclean y hy _ _ _
                obtain rfl := Option.some.inj (hfind.symm.trans hy)
                exact hclean
              · exact fun hclean => hclean x hfind hcallback haborted hopen
          · rw [Bool.not_eq_false] at hlive
            rw [hlive, if_pos rfl]
            refine iff_of_true ?_ fun y hy _ haborted hopen => ?_
            · exact poolClean_congr (writeChecked_available s x status)
                (fun d _ => components_writeChecked s x status d) h
            · obtain rfl := Option.some.inj (hfind.symm.trans hy)
              rw [(writeChecked_live s x status).mpr ⟨haborted, hopen⟩] at hlive
              cases hlive

theorem poolClean_step (hclear : M.ClearResets) (hpool : PoolConserved maxClients s)
    (h : PoolClean s) (e : Event M) : PoolClean (s.step e) ↔ LeavesClean s e := by
  cases e with
  | listen status result b =>
      refine iff_of_true ?_ trivial
      obtain ⟨u, hu, hsends⟩ := step_outline s (.listen status result b)
      intro d hd
      rw [hsends.available] at hd
      -- whichever handler is taken is available no more
      have hmem : d ∈ s.availableClientHandlers ∧ ¬ s.callers (.listen status result b) d := by
        cases hu with
        | listenFailed hstatus => exact ⟨hd, fun hcalls => hstatus hcalls.1⟩
        | exhausted hnone =>
            rw [hnone] at hd
            cases hd
        | taken hlast =>
            refine ⟨List.dropLast_subset _ hd, fun hcalls => ?_⟩
            have hpool' : PoolConserved maxClients (s.taken d) :=
              ResourcePool.Conserved.take hpool hcalls.2.2
            exact hpool'.not_mem_available
              (List.mem_append_right _ (List.mem_singleton_self d)) hd
        | refused hlast hresult =>
            rw [refused_available s _ hresult] at hd
            exact ⟨hd, fun hcalls => hresult hcalls.2.1⟩
      rw [components_step_of_not_callers hmem.2]
      exact h d hmem.1
  | read client nread b => exact poolClean_read hclear h client nread b
  | written address status b => exact poolClean_written h address status b
  | closed client number b => exact poolClean_closed hclear h client number b
  | tick timestamp b =>
      refine iff_of_true ?_ trivial
      refine poolClean_congr (onTick_sends timestamp b).available (fun d hd => ?_) h
      exact components_step_of_not_callers (e := .tick timestamp b) fun hactive =>
        hpool.not_mem_available hactive hd
  | removeApsClient client =>
      refine (poolClean_iff_of_client (c := client) h
        (fun d _ => components_removeApsClient s client d) fun d hdc hd => ?_).trans ?_
      · exact (mem_available_removeApsClient.mp hd).resolve_right fun h => hdc h.1
      · show (client ∈ (s.removeApsClient client).availableClientHandlers →
          (s.removeApsClient client).components client = M.constructed) ↔ _
        rw [mem_available_removeApsClient, components_removeApsClient]
        constructor
        · exact fun hclean hactive => hclean (Or.inr ⟨rfl, hactive⟩)
        · rintro hclean (havailable | ⟨-, hactive⟩)
          · exact h client havailable
          · exact hclean hactive

/-- The pool stays clean in a run exactly when every callback leaves it clean. -/
theorem poolClean_run (hclear : M.ClearResets) (maxClients : Int) (events : List (Event M)) :
    (service M).Visits PoolClean (constructed M maxClients) events ↔
      (service M).Steps LeavesClean (constructed M maxClients) events :=
  Transition.Machine.visits_iff_steps (I := PoolConserved maxClients)
    (fun _ e hpool h _ => poolClean_step hclear hpool h e) (fun _ e hpool _ _ _ => hpool.step e)
    (constructed_poolConserved maxClients) (fun _ _ => rfl) (Transition.Machine.steps_true _ events)

/-- A handler of a clean pool is accepted into as a new one. -/
theorem PoolClean.acceptsClean (h : PoolClean s) (e : Event M) : AcceptsClean s e := by
  cases e with
  | listen status result b =>
      intro _ _ aps hlast
      rw [components_acceptInto_self, h aps (List.mem_of_getLast? hlast)]
  | read client nread b => trivial
  | written address status b => trivial
  | closed client number b => trivial
  | tick timestamp b => trivial
  | removeApsClient client => trivial

/-- **Recycling.** When every callback of a run leaves the pool clean, every connection is accepted into a
handler that is as a new one. -/
theorem acceptsClean_of_leavesClean (hclear : M.ClearResets) (maxClients : Int)
    (events : List (Event M))
    (hok : (service M).Steps LeavesClean (constructed M maxClients) events) :
    (service M).Steps AcceptsClean (constructed M maxClients) events :=
  Transition.Machine.steps_of_invariant (fun _ e h _ => h.acceptsClean e)
    ((poolClean_run hclear maxClients events).mpr hok) hok

/-- A client connects, sends data and disconnects, and its state machine goes through states, actions and
events meanwhile; then the next connects. -/
def twoForgettable : List (Event .plain) :=
  [.listen 0 0 ⟨⟨⟨[], fun members => { members with myStates := (1 : Nat) }⟩, .silent _, .silent _⟩,
      .silent _⟩,
    .read 0 5 ⟨⟨[], fun members => { members with myActions := (2 : Nat), myEvents := (3 : Nat) }⟩, 5,
      .silent _, .silent _⟩,
    .read 0 (-4095) ⟨.silent _, 0, ⟨[], fun members => { members with myStates := (4 : Nat) }⟩, .silent _⟩,
    .listen 0 0 (.silent _)]

/-- Before it is stopped the first handler is not as a new one. -/
theorem acceptsClean_of_leavesClean_twoForgettable :
    ((service .plain).run (constructed .plain 1) (twoForgettable.take 2)).components 0 =
        (⟨(0 : Nat), (2 : Nat), (3 : Nat), (1 : Nat), (0 : Nat), (0 : Nat)⟩ : Components Mcu.plain.toMcuTypes) ∧
      (service .plain).Steps AcceptsClean (constructed .plain 1) twoForgettable :=
  ⟨rfl, acceptsClean_of_leavesClean Mcu.plain_clearResets 1 twoForgettable
    ⟨trivial, fun hmem => absurd hmem (by decide), fun _ => ⟨rfl, rfl, rfl⟩, trivial, trivial⟩⟩

/-- The first client's data is remembered in a variable. -/
def remembered : List (Event .plain) :=
  [.listen 0 0 (.silent _),
    .read 0 5 ⟨⟨[], fun members => { members with myVariables := (5 : Nat) }⟩, 5, .silent _, .silent _⟩,
    .read 0 (-4095) (.silent _ 0), .listen 0 0 (.silent _)]

/-- The second client finds it there. -/
theorem remembered_notClean :
    (service .plain).Legal (constructed .plain 1) remembered ∧
      ¬ (service .plain).Steps AcceptsClean (constructed .plain 1) remembered := by
  refine ⟨by decide, fun h => ?_⟩
  have haccepted := h.2.2.2.1 rfl rfl 0 (by decide)
  have hvariables : (5 : Nat) = 0 := congrArg Components.myVariables haccepted
  cases hvariables

end NetworkService

end AvdeccProxy
