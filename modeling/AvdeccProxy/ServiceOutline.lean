import AvdeccProxy.ServiceModel

/-! What one callback can do, said once. A state machine called back by the proxy can only add writes
and change its own members; `Sends` is that relation. `Outline` is what a callback does besides, with
the guards of each branch, and `step_outline` splits every step into the two. The results about the
service are proved from the outline and never look into a callback again. -/

namespace AvdeccProxy

namespace NetworkService

open ApsClient Connection

variable {M : Mcu} {A B : ClientPtr → Prop} {s t u : NetworkService M} {c d : ClientPtr}

theorem isOpen_congr (h : t.connections c = s.connections c) : t.isOpen c = s.isOpen c := by
  unfold isOpen
  rw [h]

theorem isReadable_congr (h : t.connections c = s.connections c) :
    t.isReadable c = s.isReadable c := by
  unfold isReadable
  rw [h]

theorem currentNumber_congr (h : t.connections c = s.connections c) :
    t.currentNumber c = s.currentNumber c := by
  unfold currentNumber
  rw [h]

theorem callsOnUvClose_congr (h : t.connections c = s.connections c) (number : Nat) :
    t.callsOnUvClose c number = s.callsOnUvClose c number := by
  unfold callsOnUvClose
  rw [h]

/-- libuv owes the completion of exactly the contexts whose write it took. -/
def OwedTaken (s : NetworkService M) : Prop := s.owed = s.heap.filter (·.taken)

/-- The history has an entry for every HTTP response in flight. -/
def ResponsesRecorded (s : NetworkService M) : Prop :=
  ∀ x ∈ s.owed, x.callback = .onUvWriteThenClose → (x.apsclient, x.connection) ∈ s.responded

/-- `t` is `s` after the state machines of the handlers in `A` made some calls. -/
structure Sends (A : ClientPtr → Prop) (s t : NetworkService M) : Prop where
  active : t.activeClientHandlers = s.activeClientHandlers
  available : t.availableClientHandlers = s.availableClientHandlers
  tickTimer : t.tickTimerStopped = s.tickTimerStopped
  tcpServer : t.tcpServerClosing = s.tcpServerClosing
  waiting : t.waiting = s.waiting
  aborted : t.aborted = s.aborted
  destroyed : t.destroyed = s.destroyed
  deleted : t.deleted = s.deleted
  lives : t.lives = s.lives
  connections : ∀ c, t.connections c = s.connections c
  notified : ∀ c, t.notified c = s.notified c
  components : ∀ c, ¬ A c → t.components c = s.components c
  owed : ∃ taken, t.owed = s.owed ++ taken ∧ ∀ x ∈ taken,
    A x.apsclient ∧ x.connection = s.currentNumber x.apsclient ∧ s.isOpen x.apsclient = true
  heap : ∃ written, t.heap = s.heap ++ written ∧
    written.map (·.address) = List.range' s.nextAddress written.length ∧
    t.nextAddress = s.nextAddress + written.length
  owedTaken : OwedTaken s → OwedTaken t
  responded : ∃ answered, t.responded = s.responded ++ answered ∧ ∀ r ∈ answered,
    A r.1 ∧ r.2 = s.currentNumber r.1 ∧
      ∃ x ∈ t.heap, x.callback = .onUvWriteThenClose ∧ x.apsclient = r.1 ∧ x.connection = r.2
  recorded : ResponsesRecorded s → ResponsesRecorded t

namespace Sends

@[refl] theorem refl (A : ClientPtr → Prop) (s : NetworkService M) : Sends A s s where
  active := rfl
  available := rfl
  tickTimer := rfl
  tcpServer := rfl
  waiting := rfl
  aborted := rfl
  destroyed := rfl
  deleted := rfl
  lives := rfl
  connections := fun _ => rfl
  notified := fun _ => rfl
  components := fun _ _ => rfl
  owed := ⟨[], by simp⟩
  heap := ⟨[], by simp⟩
  owedTaken := id
  responded := ⟨[], by simp⟩
  recorded := id

theorem isOpen (h : Sends A s t) (c : ClientPtr) : t.isOpen c = s.isOpen c :=
  isOpen_congr (h.connections c)

theorem currentNumber (h : Sends A s t) (c : ClientPtr) : t.currentNumber c = s.currentNumber c :=
  currentNumber_congr (h.connections c)

theorem trans (h : Sends A s t) (h' : Sends A t u) : Sends A s u where
  active := h'.active.trans h.active
  available := h'.available.trans h.available
  tickTimer := h'.tickTimer.trans h.tickTimer
  tcpServer := h'.tcpServer.trans h.tcpServer
  waiting := h'.waiting.trans h.waiting
  aborted := h'.aborted.trans h.aborted
  destroyed := h'.destroyed.trans h.destroyed
  deleted := h'.deleted.trans h.deleted
  lives := h'.lives.trans h.lives
  connections := fun c => (h'.connections c).trans (h.connections c)
  notified := fun c => (h'.notified c).trans (h.notified c)
  components := fun c hc => (h'.components c hc).trans (h.components c hc)
  owed := by
    obtain ⟨taken, howed, htaken⟩ := h.owed
    obtain ⟨taken', howed', htaken'⟩ := h'.owed
    refine ⟨taken ++ taken', by rw [howed', howed, List.append_assoc], fun x hx => ?_⟩
    rcases List.mem_append.mp hx with hx | hx
    · exact htaken x hx
    · rw [← h.currentNumber, ← h.isOpen]
      exact htaken' x hx
  heap := by
    obtain ⟨written, hheap, haddress, hnext⟩ := h.heap
    obtain ⟨written', hheap', haddress', hnext'⟩ := h'.heap
    refine ⟨written ++ written', by rw [hheap', hheap, List.append_assoc], ?_, ?_⟩
    · rw [List.map_append, haddress, haddress', hnext, List.length_append, List.range'_append_1]
    · rw [hnext', hnext, List.length_append]
      omega
  owedTaken := fun howed => h'.owedTaken (h.owedTaken howed)
  responded := by
    obtain ⟨answered, hresponded, hanswered⟩ := h.responded
    obtain ⟨answered', hresponded', hanswered'⟩ := h'.responded
    obtain ⟨written, hheap, -⟩ := h'.heap
    refine ⟨answered ++ answered', by rw [hresponded', hresponded, List.append_assoc], ?_⟩
    intro r hr
    rcases List.mem_append.mp hr with hr | hr
    · obtain ⟨hA, hnumber, x, hx, hcontext⟩ := hanswered r hr
      refine ⟨hA, hnumber, x, ?_, hcontext⟩
      rw [hheap]
      exact List.mem_append_left _ hx
    · rw [← h.currentNumber]
      exact hanswered' r hr
  recorded := fun hrecorded => h'.recorded (h.recorded hrecorded)

/-- One piece of sending after another. -/
theorem foldl {α : Type*} {f : NetworkService M → α → NetworkService M}
    (hf : ∀ s x, Sends A s (f s x)) (l : List α) (s : NetworkService M) : Sends A s (l.foldl f s) := by
  induction l generalizing s with
  | nil => exact refl A s
  | cons x l ih => exact (hf s x).trans (ih (f s x))

/-- What is owed is still owed. -/
theorem mem_owed (h : Sends A s t) {x : UvWriteContext} (hx : x ∈ s.owed) : x ∈ t.owed := by
  obtain ⟨taken, howed, -⟩ := h.owed
  rw [howed]
  exact List.mem_append_left _ hx

theorem of_mem_owed (h : Sends A s t) {x : UvWriteContext} (hx : x ∈ t.owed) :
    x ∈ s.owed ∨ A x.apsclient ∧ x.connection = s.currentNumber x.apsclient ∧
      s.isOpen x.apsclient = true := by
  obtain ⟨taken, howed, htaken⟩ := h.owed
  rw [howed] at hx
  rcases List.mem_append.mp hx with hx | hx
  · exact Or.inl hx
  · exact Or.inr (htaken x hx)

end Sends

/-! ### What the state machine does -/

/-- A change of the members of a handler. -/
theorem modifyComponents_sends (hA : A c)
    (f : Components M.toMcuTypes → Components M.toMcuTypes) :
    Sends A s (s.modifyClient c fun a => { a with components := f a.components }) :=
  { Sends.refl A s with
    connections := connections_modifyClient_same s c _ rfl
    notified := notified_modifyClient_same s c _ rfl
    components := fun _ hd => components_modifyClient_of_ne s c _ fun h => hd (h ▸ hA) }

theorem uvWrite_sends (hA : A c) (data : List UInt8) {callback : WriteCallback} (accepted : Bool)
    (hrecorded : callback = .onUvWriteThenClose → (c, s.currentNumber c) ∈ s.responded) :
    Sends A s (s.uvWrite c data callback accepted) := by
  have howed : (s.uvWrite c data callback accepted).owed = s.owed ++
      [(⟨s.nextAddress, c, data, callback, s.currentNumber c, accepted && s.isOpen c⟩ :
        UvWriteContext)].filter (·.taken) := by
    cases htaken : accepted && s.isOpen c with
    | true => simp [uvWrite, htaken]
    | false => simp [uvWrite, htaken]
  exact { Sends.refl A s with
    owed := by
      refine ⟨_, howed, fun x hx => ?_⟩
      obtain ⟨hx, htaken⟩ := List.mem_filter.mp hx
      obtain rfl := List.mem_singleton.mp hx
      exact ⟨hA, rfl, (Bool.and_eq_true_iff.mp htaken).2⟩
    heap := ⟨[⟨s.nextAddress, c, data, callback, s.currentNumber c, accepted && s.isOpen c⟩],
      rfl, rfl, rfl⟩
    owedTaken := by
      intro hall
      unfold OwedTaken at hall ⊢
      rw [howed, hall]
      exact (List.filter_append _ _).symm
    responded := ⟨[], (List.append_nil _).symm, by simp⟩
    recorded := by
      intro hall x hx hcallback
      rw [howed] at hx
      rcases List.mem_append.mp hx with hx | hx
      · exact hall x hx hcallback
      · obtain rfl := List.mem_singleton.mp (List.mem_filter.mp hx).1
        exact hrecorded hcallback }

theorem sendHttpResponse_sends (hA : A c) (response : HttpResponse) (accepted : Bool) :
    Sends A s (sendHttpResponse s c response accepted) := by
  have hself : (c, s.currentNumber c) ∈ s.responded ++ [(c, s.currentNumber c)] :=
    List.mem_append_right _ (List.mem_singleton_self _)
  have hwrite := uvWrite_sends (s := { s with responded := s.responded ++ [(c, s.currentNumber c)] })
    hA (M.flatten response) accepted fun _ : WriteCallback.onUvWriteThenClose = _ => hself
  exact { hwrite with
    responded := by
      refine ⟨[(c, s.currentNumber c)], rfl, fun r hr => ?_⟩
      rw [List.mem_singleton.mp hr]
      exact ⟨hA, rfl, _, List.mem_append_right _ (List.mem_singleton_self _), rfl, rfl, rfl⟩
    recorded := fun hall => hwrite.recorded fun x hx hcallback =>
      List.mem_append_left _ (hall x hx hcallback) }

theorem onIncomingHttpRequest_sends (hA : A c) (q : IncomingRequest) (accepted : Bool) :
    Sends A s (onIncomingHttpRequest s c q accepted) :=
  Sends.foldl (fun _ response => sendHttpResponse_sends hA response accepted) _ s

theorem call_sends (hA : A c) (request : Call) : Sends A s (call s c request) := by
  cases request with
  | sendTcpData data accepted => exact uvWrite_sends hA data accepted nofun
  | onIncomingHttpRequest q accepted => exact onIncomingHttpRequest_sends hA q accepted
  | sendAvdeccToL2 frame => exact Sends.refl A s
  | closeTcpConnection => exact Sends.refl A s
  | closeTcpServer => exact Sends.refl A s

theorem calls_sends (hA : A c) (requests : List Call) :
    Sends A s (requests.foldl (fun s request => call s c request) s) :=
  Sends.foldl (fun _ request => call_sends hA request) requests s

theorem perform_sends (hA : A c) (b : Behaviour M) : Sends A s (perform s c b) :=
  (calls_sends hA b.calls).trans (modifyComponents_sends hA b.effect)

/-- The state machine cannot open or close the handle. -/
theorem isOpen_perform (c : ClientPtr) (b : Behaviour M) (d : ClientPtr) :
    (perform s c b).isOpen d = s.isOpen d :=
  (perform_sends (A := fun _ => True) trivial b).isOpen d

theorem clear_sends (hA : A c) : Sends A s (clear s c) :=
  modifyComponents_sends hA fun components => { components with
    myStates := M.clearStates components.myStates
    myActions := M.clearActions components.myActions
    myEvents := M.clearEvents components.myEvents }

theorem clients_clear_self (s : NetworkService M) (c : ClientPtr) :
    (clear s c).clients c = (s.clients c).cleared := Function.update_self c _ _

theorem onTickFrom_sends (b : ClientPtr → TickBehaviour M) (time : UInt32) (fuel i : Nat)
    (hA : ∀ c ∈ s.activeClientHandlers, A c) : Sends A s (onTickFrom b time fuel i s).1 := by
  induction fuel generalizing i s with
  | zero => exact Sends.refl A s
  | succ fuel ih =>
      unfold onTickFrom
      cases hc : s.activeClientHandlers[i]? with
      | none => exact Sends.refl A s
      | some c =>
          have hAc : A c := hA c (List.mem_of_getElem? hc)
          have hboth := (perform_sends (s := s) hAc (b c).onTimeTick).trans
            (perform_sends hAc (b c).run)
          refine hboth.trans (ih (i + 1) ?_)
          intro d hd
          exact hA d (hboth.active ▸ hd)

theorem onTick_sends (timestamp : Nat) (b : ClientPtr → TickBehaviour M) :
    Sends (· ∈ s.activeClientHandlers) s (s.onTick timestamp b).1 :=
  onTickFrom_sends b _ _ 0 fun _ hc => hc

/-! ### Sending before another part of the callback -/

@[simp] theorem connections_notify (n : Notification) (d : ClientPtr) :
    (notify s c n).connections d = s.connections d :=
  connections_modifyClient_same s c _ rfl d

@[simp] theorem components_notify (n : Notification) (d : ClientPtr) :
    (notify s c n).components d = s.components d :=
  components_modifyClient_same s c _ rfl d

@[simp] theorem notified_notify_self (n : Notification) :
    (notify s c n).notified c = s.notified c ++ [n] :=
  notified_modifyClient_self s c _

theorem notified_notify_of_ne (n : Notification) (h : d ≠ c) :
    (notify s c n).notified d = s.notified d :=
  notified_modifyClient_of_ne s c _ h

theorem removeApsClient_of_mem (h : c ∈ s.activeClientHandlers) :
    s.removeApsClient c = { s with
      availableClientHandlers := s.availableClientHandlers ++ [c]
      activeClientHandlers := s.activeClientHandlers.erase c
      lives := s.lives ++ [s.notified c] } := if_pos h

theorem removeApsClient_of_not_mem (h : c ∉ s.activeClientHandlers) : s.removeApsClient c = s :=
  if_neg h

namespace Sends

theorem notify (h : Sends A s t) (c : ClientPtr) (n : Notification) :
    Sends A (notify s c n) (notify t c n) :=
  { h with
    connections := fun d => by rw [connections_notify, connections_notify, h.connections]
    notified := by
      intro d
      by_cases hd : d = c
      · rw [hd, notified_notify_self, notified_notify_self, h.notified]
      · rw [notified_notify_of_ne n hd, notified_notify_of_ne n hd, h.notified]
    components := fun d hd => by rw [components_notify, components_notify, h.components d hd]
    owed := by
      obtain ⟨taken, howed, htaken⟩ := h.owed
      refine ⟨taken, howed, fun x hx => ?_⟩
      rw [isOpen_congr (connections_notify n _), currentNumber_congr (connections_notify n _)]
      exact htaken x hx
    responded := by
      obtain ⟨answered, hresponded, hanswered⟩ := h.responded
      refine ⟨answered, hresponded, fun r hr => ?_⟩
      rw [currentNumber_congr (connections_notify n _)]
      exact hanswered r hr }

theorem setActive (h : Sends A s t) (handlers : List ClientPtr) :
    Sends A { s with activeClientHandlers := handlers } { t with activeClientHandlers := handlers } :=
  { h with active := rfl }

theorem removeApsClient (h : Sends A s t) (c : ClientPtr) :
    Sends A (s.removeApsClient c) (t.removeApsClient c) := by
  by_cases hc : c ∈ s.activeClientHandlers
  · rw [removeApsClient_of_mem hc, removeApsClient_of_mem (h.active ▸ hc)]
    exact { h with
      active := congrArg (·.erase c) h.active
      available := congrArg (· ++ [c]) h.available
      lives := by rw [h.lives, h.notified] }
  · rw [removeApsClient_of_not_mem hc, removeApsClient_of_not_mem (h.active ▸ hc)]
    exact h

end Sends

/-! ### What a callback does besides -/

/-- The completion of a write has come and its context is deleted. -/
def completed (s : NetworkService M) (x : UvWriteContext) : NetworkService M :=
  { s with owed := s.owed.erase x }.deleteContext x

/-- A connection is accepted into `aps`, read from, told to the state machine and active. -/
def taken (s : NetworkService M) (aps : ClientPtr) : NetworkService M :=
  { notify ((s.acceptInto aps).uvReadStart aps) aps .onIncomingTcpConnection with
    activeClientHandlers := s.activeClientHandlers ++ [aps] }

/-- The accept failed after `m_tcp` was initialised. -/
def refused (s : NetworkService M) (aps : ClientPtr) (result : Int) : NetworkService M :=
  ((s.uvTcpInit aps).uvAccept aps result).uvClose aps false

/-! ### Their fields -/

@[simp] theorem connections_completed (s : NetworkService M) (x : UvWriteContext) (c : ClientPtr) :
    (s.completed x).connections c = s.connections c := rfl

section closeRequested

variable (callback : Bool) (k : Connection)

theorem closeRequested_number : (k.closeRequested callback).number = k.number := by
  unfold closeRequested
  split <;> rfl

theorem closeRequested_accepted : (k.closeRequested callback).accepted = k.accepted := by
  unfold closeRequested
  split <;> rfl

theorem closeRequested_closeCalls : (k.closeRequested callback).closeCalls = k.closeCalls + 1 := by
  unfold closeRequested
  split <;> rfl

theorem closeRequested_phase : (k.closeRequested callback).phase ≠ .opened := by
  unfold closeRequested
  split
  · exact nofun
  · assumption

end closeRequested

section uvClose

variable (s : NetworkService M) (c : ClientPtr) (callback : Bool)

theorem clients_uvClose_self :
    (s.uvClose c callback).clients c = (s.clients c).requestClose callback :=
  Function.update_self c _ _

theorem clients_uvClose_of_ne (h : d ≠ c) : (s.uvClose c callback).clients d = s.clients d :=
  Function.update_of_ne h _ _

theorem connections_uvClose_self :
    (s.uvClose c callback).connections c =
      (s.connections c).modifyHead (closeRequested callback) :=
  congrArg ApsClient.connections (clients_uvClose_self s c callback)

theorem connections_uvClose_of_ne (h : d ≠ c) :
    (s.uvClose c callback).connections d = s.connections d :=
  congrArg ApsClient.connections (clients_uvClose_of_ne s c callback h)

theorem head_uvClose :
    ((s.uvClose c callback).connections c).head? =
      (s.connections c).head?.map (closeRequested callback) := by
  rw [connections_uvClose_self]
  cases s.connections c with
  | nil => rfl
  | cons k earlier => rfl

theorem tail_uvClose (d : ClientPtr) :
    ((s.uvClose c callback).connections d).tail = (s.connections d).tail := by
  by_cases hd : d = c
  · rw [hd, connections_uvClose_self]
    cases s.connections c with
    | nil => rfl
    | cons k earlier => rfl
  · rw [connections_uvClose_of_ne s c callback hd]

theorem currentNumber_uvClose (d : ClientPtr) :
    (s.uvClose c callback).currentNumber d = s.currentNumber d := by
  by_cases hd : d = c
  · unfold currentNumber
    rw [hd, connections_uvClose_self]
    cases s.connections c with
    | nil => rfl
    | cons k earlier => exact closeRequested_number callback k
  · exact currentNumber_congr (connections_uvClose_of_ne s c callback hd)

theorem isOpen_uvClose_self : (s.uvClose c callback).isOpen c = false := by
  rw [Bool.eq_false_iff]
  intro hopen
  obtain ⟨k, hhead, hphase⟩ := isOpen_iff.mp hopen
  rw [head_uvClose] at hhead
  obtain ⟨k', -, rfl⟩ := Option.map_eq_some_iff.mp hhead
  exact closeRequested_phase callback k' hphase

@[simp] theorem notified_uvClose (d : ClientPtr) :
    (s.uvClose c callback).notified d = s.notified d :=
  notified_modifyClient_same s c (·.requestClose callback) rfl d

@[simp] theorem components_uvClose (d : ClientPtr) :
    (s.uvClose c callback).components d = s.components d :=
  components_modifyClient_same s c (·.requestClose callback) rfl d

/-- A close touches the clients and may abort. -/
theorem uvClose_frame :
    s.uvClose c callback = { s with
      clients := (s.uvClose c callback).clients
      aborted := s.aborted || !s.isOpen c } := rfl

@[simp] theorem uvClose_active :
    (s.uvClose c callback).activeClientHandlers = s.activeClientHandlers := by
  rw [uvClose_frame]

@[simp] theorem uvClose_available :
    (s.uvClose c callback).availableClientHandlers = s.availableClientHandlers := by
  rw [uvClose_frame]

@[simp] theorem uvClose_waiting : (s.uvClose c callback).waiting = s.waiting := by
  rw [uvClose_frame]

@[simp] theorem uvClose_owed : (s.uvClose c callback).owed = s.owed := by
  rw [uvClose_frame]

@[simp] theorem uvClose_heap : (s.uvClose c callback).heap = s.heap := by
  rw [uvClose_frame]

@[simp] theorem uvClose_nextAddress : (s.uvClose c callback).nextAddress = s.nextAddress := by
  rw [uvClose_frame]

@[simp] theorem uvClose_deleted : (s.uvClose c callback).deleted = s.deleted := by
  rw [uvClose_frame]

@[simp] theorem uvClose_responded : (s.uvClose c callback).responded = s.responded := by
  rw [uvClose_frame]

@[simp] theorem uvClose_lives : (s.uvClose c callback).lives = s.lives := by
  rw [uvClose_frame]

theorem uvClose_aborted : (s.uvClose c callback).aborted = (s.aborted || !s.isOpen c) := rfl

end uvClose

/-- The close of the connection `number` is complete. -/
def closedAs (number : Nat) (k : Connection) : Connection :=
  if k.number = number then { k with phase := .closed } else k

section closedAs

variable (number : Nat) (k : Connection)

theorem closedAs_number : (closedAs number k).number = k.number := by
  unfold closedAs
  split <;> rfl

theorem closedAs_accepted : (closedAs number k).accepted = k.accepted := by
  unfold closedAs
  split <;> rfl

theorem closedAs_closeCalls : (closedAs number k).closeCalls = k.closeCalls := by
  unfold closedAs
  split <;> rfl

theorem closedAs_phase :
    (closedAs number k).phase = .closed ∨
      k.number ≠ number ∧ (closedAs number k).phase = k.phase := by
  unfold closedAs
  by_cases hnumber : k.number = number
  · rw [if_pos hnumber]
    exact Or.inl rfl
  · rw [if_neg hnumber]
    exact Or.inr ⟨hnumber, rfl⟩

end closedAs

section uvClosed

variable (s : NetworkService M) (c : ClientPtr) (number : Nat)

theorem connections_uvClosed_self :
    (s.uvClosed c number).connections c = (s.connections c).map (closedAs number) :=
  connections_modifyClient_self s c (·.modifyNumber number fun k => { k with phase := .closed })

theorem connections_uvClosed_of_ne (h : d ≠ c) :
    (s.uvClosed c number).connections d = s.connections d :=
  connections_modifyClient_of_ne s c (·.modifyNumber number fun k => { k with phase := .closed }) h

theorem currentNumber_uvClosed (d : ClientPtr) :
    (s.uvClosed c number).currentNumber d = s.currentNumber d := by
  by_cases hd : d = c
  · unfold currentNumber
    rw [hd, connections_uvClosed_self]
    cases s.connections c with
    | nil => rfl
    | cons k earlier => exact closedAs_number number k
  · exact currentNumber_congr (connections_uvClosed_of_ne s c number hd)

@[simp] theorem notified_uvClosed (d : ClientPtr) :
    (s.uvClosed c number).notified d = s.notified d :=
  notified_modifyClient_same s c (·.modifyNumber number fun k => { k with phase := .closed }) rfl d

@[simp] theorem components_uvClosed (d : ClientPtr) :
    (s.uvClosed c number).components d = s.components d :=
  components_modifyClient_same s c (·.modifyNumber number fun k => { k with phase := .closed }) rfl d

/-- The completion of a close that calls `onUvClose` does not abort. -/
theorem uvClosed_aborted (h : s.callsOnUvClose c number = true) :
    (s.uvClosed c number).aborted = s.aborted := by
  show (s.aborted || s.reinitialised c number) = s.aborted
  rw [not_reinitialised h, Bool.or_false]

end uvClosed

section removeApsClient

variable (s : NetworkService M) (c : ClientPtr)

theorem mem_of_mem_removeApsClient (h : d ∈ (s.removeApsClient c).activeClientHandlers) :
    d ∈ s.activeClientHandlers := by
  by_cases hc : c ∈ s.activeClientHandlers
  · rw [removeApsClient_of_mem hc] at h
    exact List.mem_of_mem_erase h
  · rw [removeApsClient_of_not_mem hc] at h
    exact h

/-- A removal touches the lists of handlers, and the history. -/
theorem removeApsClient_frame :
    s.removeApsClient c = { s with
      activeClientHandlers := (s.removeApsClient c).activeClientHandlers
      availableClientHandlers := (s.removeApsClient c).availableClientHandlers
      lives := (s.removeApsClient c).lives } := by
  unfold removeApsClient
  split <;> rfl

@[simp] theorem removeApsClient_clients : (s.removeApsClient c).clients = s.clients := by
  rw [removeApsClient_frame]

@[simp] theorem removeApsClient_owed : (s.removeApsClient c).owed = s.owed := by
  rw [removeApsClient_frame]

@[simp] theorem removeApsClient_heap : (s.removeApsClient c).heap = s.heap := by
  rw [removeApsClient_frame]

@[simp] theorem removeApsClient_nextAddress : (s.removeApsClient c).nextAddress = s.nextAddress := by
  rw [removeApsClient_frame]

@[simp] theorem removeApsClient_deleted : (s.removeApsClient c).deleted = s.deleted := by
  rw [removeApsClient_frame]

@[simp] theorem removeApsClient_responded : (s.removeApsClient c).responded = s.responded := by
  rw [removeApsClient_frame]

@[simp] theorem connections_removeApsClient (d : ClientPtr) :
    (s.removeApsClient c).connections d = s.connections d :=
  congrArg (fun clients => (clients d).connections) (removeApsClient_clients s c)

@[simp] theorem notified_removeApsClient (d : ClientPtr) :
    (s.removeApsClient c).notified d = s.notified d :=
  congrArg (fun clients => (clients d).notified) (removeApsClient_clients s c)

@[simp] theorem components_removeApsClient (d : ClientPtr) :
    (s.removeApsClient c).components d = s.components d :=
  congrArg (fun clients => (clients d).components) (removeApsClient_clients s c)

end removeApsClient

section taken

variable (s : NetworkService M) (aps : ClientPtr)

theorem clients_taken_self :
    (s.taken aps).clients aps =
      { components := M.setup (s.components aps)
        connections := ⟨(s.connections aps).length, .opened, true, true, false, 0⟩ ::
          s.connections aps
        notified := [.setup, .onIncomingTcpConnection] } := by
  simp only [taken, acceptInto, uvAccept, if_true, uvTcpInit, setup, uvReadStart, notify,
    modifyClient, Function.update_self]
  rfl

theorem clients_taken_of_ne (h : d ≠ aps) : (s.taken aps).clients d = s.clients d := by
  simp only [taken, acceptInto, uvAccept, if_true, uvTcpInit, setup, uvReadStart, notify,
    modifyClient, Function.update_of_ne h]

theorem connections_taken_self :
    (s.taken aps).connections aps =
      ⟨(s.connections aps).length, .opened, true, true, false, 0⟩ :: s.connections aps :=
  congrArg ApsClient.connections (clients_taken_self s aps)

theorem connections_taken_of_ne (h : d ≠ aps) :
    (s.taken aps).connections d = s.connections d :=
  congrArg ApsClient.connections (clients_taken_of_ne s aps h)

@[simp] theorem notified_taken_self :
    (s.taken aps).notified aps = [.setup, .onIncomingTcpConnection] :=
  congrArg ApsClient.notified (clients_taken_self s aps)

theorem notified_taken_of_ne (h : d ≠ aps) : (s.taken aps).notified d = s.notified d :=
  congrArg ApsClient.notified (clients_taken_of_ne s aps h)

end taken

section refused

theorem clients_uvTcpInit_self (s : NetworkService M) (aps : ClientPtr) :
    (s.uvTcpInit aps).clients aps = { s.clients aps with
      connections := .initialised (s.connections aps).length :: s.connections aps } :=
  Function.update_self aps _ _

theorem clients_uvTcpInit_of_ne (s : NetworkService M) {aps : ClientPtr} (h : d ≠ aps) :
    (s.uvTcpInit aps).clients d = s.clients d :=
  Function.update_of_ne h _ _

variable (s : NetworkService M) (aps : ClientPtr) {result : Int} (hresult : result ≠ 0)

include hresult

theorem refused_eq :
    s.refused aps result = ({ s.uvTcpInit aps with waiting := false }).uvClose aps false := by
  simp only [refused, uvAccept, hresult, if_false]

theorem connections_refused_self :
    (s.refused aps result).connections aps =
      ⟨(s.connections aps).length, .closing, false, false, false, 1⟩ :: s.connections aps := by
  rw [refused_eq s aps hresult, connections_uvClose_self]
  have hinit : ({ s.uvTcpInit aps with waiting := false } : NetworkService M).connections aps =
      .initialised (s.connections aps).length :: s.connections aps :=
    congrArg ApsClient.connections (clients_uvTcpInit_self s aps)
  rw [hinit]
  rfl

theorem connections_refused_of_ne (h : d ≠ aps) :
    (s.refused aps result).connections d = s.connections d := by
  rw [refused_eq s aps hresult, connections_uvClose_of_ne _ _ _ h]
  exact congrArg ApsClient.connections (clients_uvTcpInit_of_ne s h)

theorem notified_refused (d : ClientPtr) :
    (s.refused aps result).notified d = s.notified d := by
  rw [refused_eq s aps hresult, notified_uvClose]
  show ((s.uvTcpInit aps).clients d).notified = (s.clients d).notified
  by_cases hd : d = aps
  · rw [hd, clients_uvTcpInit_self]
  · rw [clients_uvTcpInit_of_ne s hd]

theorem components_refused (d : ClientPtr) :
    (s.refused aps result).components d = s.components d := by
  rw [refused_eq s aps hresult, components_uvClose]
  show ((s.uvTcpInit aps).clients d).components = (s.clients d).components
  by_cases hd : d = aps
  · rw [hd, clients_uvTcpInit_self]
  · rw [clients_uvTcpInit_of_ne s hd]

/-- A refused accept touches the clients, is not waited for any more, and may abort. -/
theorem refused_frame :
    s.refused aps result = { s with
      clients := (s.refused aps result).clients
      waiting := false
      aborted := (s.refused aps result).aborted } := by
  rw [refused_eq s aps hresult, uvClose_frame]
  rfl

theorem refused_active : (s.refused aps result).activeClientHandlers = s.activeClientHandlers := by
  rw [refused_frame s aps hresult]

theorem refused_available :
    (s.refused aps result).availableClientHandlers = s.availableClientHandlers := by
  rw [refused_frame s aps hresult]

theorem refused_owed : (s.refused aps result).owed = s.owed := by
  rw [refused_frame s aps hresult]

theorem refused_heap : (s.refused aps result).heap = s.heap := by
  rw [refused_frame s aps hresult]

theorem refused_nextAddress : (s.refused aps result).nextAddress = s.nextAddress := by
  rw [refused_frame s aps hresult]

theorem refused_deleted : (s.refused aps result).deleted = s.deleted := by
  rw [refused_frame s aps hresult]

theorem refused_responded : (s.refused aps result).responded = s.responded := by
  rw [refused_frame s aps hresult]

theorem refused_lives : (s.refused aps result).lives = s.lives := by
  rw [refused_frame s aps hresult]

theorem refused_waiting : (s.refused aps result).waiting = false := by
  rw [refused_frame s aps hresult]

end refused

/-- The state `onUvWrite` calls `run` in, unless the process is gone. -/
def writeChecked (s : NetworkService M) (x : UvWriteContext) (status : Int) : NetworkService M :=
  if status < 0 then (s.completed x).uvClose x.apsclient true else s.completed x

theorem writeChecked_available (s : NetworkService M) (x : UvWriteContext) (status : Int) :
    (s.writeChecked x status).availableClientHandlers = s.availableClientHandlers := by
  unfold writeChecked
  split
  · exact uvClose_available _ _ _
  · rfl

theorem components_writeChecked (s : NetworkService M) (x : UvWriteContext) (status : Int)
    (d : ClientPtr) : (s.writeChecked x status).components d = s.components d := by
  unfold writeChecked
  split
  · exact components_uvClose _ _ _ d
  · rfl

theorem writeChecked_live (s : NetworkService M) (x : UvWriteContext) (status : Int) :
    (s.writeChecked x status).aborted = false ↔
      s.aborted = false ∧ (status < 0 → s.isOpen x.apsclient = true) := by
  unfold writeChecked
  by_cases hstatus : status < 0
  · rw [if_pos hstatus, uvClose_aborted, isOpen_congr (connections_completed s x _),
      Bool.or_eq_false_iff, Bool.not_eq_false']
    exact and_congr_right fun _ => ⟨fun h _ => h, fun h => h hstatus⟩
  · rw [if_neg hstatus]
    exact (and_iff_left fun h => absurd h hstatus).symm

section written

variable {address : Nat} {status : Int} {b : Behaviour M} {x : UvWriteContext}

theorem step_written_stray (hfind : s.owed.find? (·.address == address) = none) :
    s.step (.written address status b) = s := by
  simp only [step, hfind]

theorem step_written_thenClose (hfind : s.owed.find? (·.address == address) = some x)
    (hcallback : x.callback = .onUvWriteThenClose) :
    s.step (.written address status b) = (s.completed x).uvClose x.apsclient true := by
  simp only [step, hfind, writeCompleted, hcallback]
  rfl

theorem step_written_tcp (hfind : s.owed.find? (·.address == address) = some x)
    (hcallback : x.callback = .onUvWrite) :
    s.step (.written address status b) =
      if (s.writeChecked x status).aborted then s.writeChecked x status
      else ApsClient.run (s.writeChecked x status) x.apsclient b := by
  simp only [step, hfind, writeCompleted, hcallback]
  rfl

end written

/-! ### The outline -/

/-- What a callback does to the state, apart from the calls of the state machine. -/
inductive Outline (s : NetworkService M) : Event M → NetworkService M → Prop where
  | listenFailed {status result b} (hstatus : status ≠ 0) : Outline s (.listen status result b) s
  | exhausted {result b} (hnone : s.availableClientHandlers = []) :
      Outline s (.listen 0 result b) { s with waiting := true }
  | taken {b aps} (hlast : s.availableClientHandlers.getLast? = some aps) :
      Outline s (.listen 0 0 b) (s.taken aps)
  | refused {result b aps} (hlast : s.availableClientHandlers.getLast? = some aps)
      (hresult : result ≠ 0) : Outline s (.listen 0 result b) (s.refused aps result)
  | ended {client nread b} (hnread : nread ≤ 0) :
      Outline s (.read client nread b) ((notify s client .onTcpConnectionClosed).removeApsClient client)
  | data {client nread b} (hnread : 0 < nread) (hreturned : b.returned ≠ 0) :
      Outline s (.read client nread b) (notify s client (.onIncomingTcpData b.returned))
  | dataRefused {client nread b} (hnread : 0 < nread) (hreturned : b.returned = 0) :
      Outline s (.read client nread b)
        (notify (notify s client (.onIncomingTcpData 0)) client .onTcpConnectionClosed)
  | wrote {address status b x} (hfind : s.owed.find? (·.address == address) = some x)
      (hcallback : x.callback = .onUvWrite) (hstatus : 0 ≤ status) :
      Outline s (.written address status b) (s.completed x)
  | wroteThenClosed {address status b x} (hfind : s.owed.find? (·.address == address) = some x)
      (hcloses : x.callback = .onUvWriteThenClose ∨ status < 0) :
      Outline s (.written address status b) ((s.completed x).uvClose x.apsclient true)
  | strayWritten {address status b} (hfind : s.owed.find? (·.address == address) = none) :
      Outline s (.written address status b) s
  | closedOnly {client number b} (hcallback : s.callsOnUvClose client number = false) :
      Outline s (.closed client number b) (s.uvClosed client number)
  | closed {client number b} (hcallback : s.callsOnUvClose client number = true) :
      Outline s (.closed client number b) ((s.uvClosed client number).removeApsClient client)
  | ticked {timestamp b} : Outline s (.tick timestamp b) s
  | removed {client} : Outline s (.removeApsClient client) (s.removeApsClient client)

/-- The handlers a callback calls the state machine of. -/
def callers (s : NetworkService M) : Event M → ClientPtr → Prop
  | .listen status result _, c =>
      status = 0 ∧ result = 0 ∧ s.availableClientHandlers.getLast? = some c
  | .read client _ _, c => c = client
  | .written address _ _, c => ∃ x ∈ s.owed, x.address = address ∧ x.apsclient = c
  | .closed client _ _, c => c = client
  | .tick _ _, c => c ∈ s.activeClientHandlers
  | .removeApsClient _, _ => False

theorem stop_sends (hA : A c) : Sends A (s.removeApsClient c) (ApsClient.stop s c) :=
  (clear_sends hA).removeApsClient c

theorem start_sends (hA : A c) (b : StartBehaviour M) :
    Sends A (notify (s.uvReadStart c) c .onIncomingTcpConnection) (start s c b) := by
  have hrun : Sends A (s.uvReadStart c) (ApsClient.run (s.uvReadStart c) c b.run) :=
    perform_sends hA b.run
  have hconnection := (hrun.notify c .onIncomingTcpConnection).trans
    (perform_sends hA b.onIncomingTcpConnection)
  exact hconnection.trans (perform_sends hA b.runAgain)

theorem onNewConnection_taken {aps : ClientPtr} (hA : A aps)
    (hlast : s.availableClientHandlers.getLast? = some aps) (b : AcceptBehaviour M) :
    Sends A (s.taken aps) (s.onNewConnection 0 b) := by
  have hstart : Sends A (notify ((s.acceptInto aps).uvReadStart aps) aps .onIncomingTcpConnection)
      (start (s.acceptInto aps) aps b.start) := start_sends hA b.start
  have hactive : (start (s.acceptInto aps) aps b.start).activeClientHandlers =
      s.activeClientHandlers := hstart.active
  have hboth := (hstart.setActive (s.activeClientHandlers ++ [aps])).trans
    (perform_sends hA b.run)
  simp only [onNewConnection, hlast, if_true, hactive]
  exact hboth

theorem onUvRead_ended (hA : A c) {nread : Int} (hnread : nread ≤ 0) (b : ReadBehaviour M) :
    Sends A ((notify s c .onTcpConnectionClosed).removeApsClient c) (onUvRead s c nread b) := by
  have hcalls : Sends A (notify s c .onTcpConnectionClosed)
      (ApsClient.run (onTcpConnectionClosed s c b.onTcpConnectionClosed) c b.run) :=
    (perform_sends hA b.onTcpConnectionClosed).trans (perform_sends hA b.run)
  simp only [onUvRead, hnread, if_true]
  exact (hcalls.removeApsClient c).trans (stop_sends hA)

theorem onUvRead_data (hA : A c) {nread : Int} (hnread : 0 < nread) (b : ReadBehaviour M)
    (hreturned : b.returned ≠ 0) :
    Sends A (notify s c (.onIncomingTcpData b.returned)) (onUvRead s c nread b) := by
  simp only [onUvRead, Int.not_le.mpr hnread, if_false, hreturned]
  exact (perform_sends hA b.onIncomingTcpData).trans (perform_sends hA b.run)

theorem onUvRead_dataRefused (hA : A c) {nread : Int} (hnread : 0 < nread) (b : ReadBehaviour M)
    (hreturned : b.returned = 0) :
    Sends A (notify (notify s c (.onIncomingTcpData 0)) c .onTcpConnectionClosed)
      (onUvRead s c nread b) := by
  have hdata : Sends A (notify s c (.onIncomingTcpData 0))
      (onIncomingTcpData s c 0 b.onIncomingTcpData) := perform_sends hA b.onIncomingTcpData
  have hclosed := (hdata.notify c .onTcpConnectionClosed).trans
    (perform_sends hA b.onTcpConnectionClosed)
  simp only [onUvRead, Int.not_le.mpr hnread, if_false, hreturned, if_true]
  exact hclosed.trans (perform_sends hA b.run)

theorem onUvWrite_sends {x : UvWriteContext} (hA : A x.apsclient) (status : Int)
    (b : Behaviour M) :
    Sends A (if status < 0 then (s.deleteContext x).uvClose x.apsclient true else s.deleteContext x)
      (onUvWrite s x status b) := by
  simp only [onUvWrite]
  generalize (if status < 0 then (s.deleteContext x).uvClose x.apsclient true
    else s.deleteContext x) = u
  by_cases habort : u.aborted = true
  · rw [if_pos habort]
  · rw [if_neg habort]
    exact perform_sends hA b

theorem onUvClose_sends (hA : A c) (b : Behaviour M) :
    Sends A (s.removeApsClient c) (onUvClose s c b) := by
  have hrun : Sends A s (ApsClient.run (closeTcpConnection s c) c b) := perform_sends hA b
  exact (hrun.removeApsClient c).trans (stop_sends hA)

theorem listen_outline (status result : Int) (b : AcceptBehaviour M) :
    ∃ u, Outline s (.listen status result b) u ∧
      Sends (s.callers (.listen status result b)) u (s.step (.listen status result b)) := by
  by_cases hstatus : status = 0
  swap
  · refine ⟨s, .listenFailed hstatus, ?_⟩
    simp only [step, listenHandler, hstatus, if_false, decide_false, Bool.or_false]
    exact Sends.refl _ s
  subst hstatus
  simp only [step, listenHandler, if_true, decide_true, Bool.or_true]
  cases hlast : s.availableClientHandlers.getLast? with
  | none =>
      refine ⟨_, .exhausted (List.getLast?_eq_none_iff.mp hlast), ?_⟩
      simp only [onNewConnection, hlast]
      exact Sends.refl _ _
  | some aps =>
      by_cases hresult : result = 0
      · subst hresult
        have hA : s.callers (.listen 0 0 b) aps := ⟨rfl, rfl, hlast⟩
        exact ⟨_, .taken hlast,
          onNewConnection_taken (s := { s with waiting := true }) hA hlast b⟩
      · refine ⟨_, .refused hlast hresult, ?_⟩
        simp only [onNewConnection, hlast, hresult, if_false]
        exact Sends.refl _ _

theorem written_outline (address : Nat) (status : Int) (b : Behaviour M) :
    ∃ u, Outline s (.written address status b) u ∧
      Sends (s.callers (.written address status b)) u (s.step (.written address status b)) := by
  cases hfind : s.owed.find? (·.address == address) with
  | none =>
      refine ⟨s, .strayWritten hfind, ?_⟩
      simp only [step, hfind]
      exact Sends.refl _ s
  | some x =>
      have hA : s.callers (.written address status b) x.apsclient :=
        ⟨x, List.mem_of_find?_eq_some hfind, by simpa using List.find?_some hfind, rfl⟩
      simp only [step, hfind, writeCompleted]
      cases hcallback : x.callback with
      | onUvWriteThenClose =>
          exact ⟨_, .wroteThenClosed hfind (Or.inl hcallback), Sends.refl _ _⟩
      | onUvWrite =>
          have hsends := onUvWrite_sends (s := { s with owed := s.owed.erase x }) hA status b
          by_cases hstatus : status < 0
          · rw [if_pos hstatus] at hsends
            exact ⟨_, .wroteThenClosed hfind (Or.inr hstatus), hsends⟩
          · rw [if_neg hstatus] at hsends
            exact ⟨_, .wrote hfind hcallback (Int.not_lt.mp hstatus), hsends⟩

/-- **One callback.** Every step is its outline followed by calls of the state machines concerned. -/
theorem step_outline (s : NetworkService M) (e : Event M) :
    ∃ u, Outline s e u ∧ Sends (s.callers e) u (s.step e) := by
  cases e with
  | listen status result b => exact listen_outline status result b
  | read c nread b =>
      have hA : s.callers (.read c nread b) c := rfl
      by_cases hnread : nread ≤ 0
      · exact ⟨_, .ended hnread, onUvRead_ended hA hnread b⟩
      · by_cases hreturned : b.returned = 0
        · exact ⟨_, .dataRefused (Int.not_le.mp hnread) hreturned,
            onUvRead_dataRefused hA (Int.not_le.mp hnread) b hreturned⟩
        · exact ⟨_, .data (Int.not_le.mp hnread) hreturned,
            onUvRead_data hA (Int.not_le.mp hnread) b hreturned⟩
  | written address status b => exact written_outline address status b
  | closed c number b =>
      have hA : s.callers (.closed c number b) c := rfl
      cases hcallback : s.callsOnUvClose c number with
      | false =>
          refine ⟨_, .closedOnly hcallback, ?_⟩
          simp only [step, closeCompleted, hcallback]
          exact Sends.refl _ _
      | true =>
          refine ⟨_, .closed hcallback, ?_⟩
          simp only [step, closeCompleted, hcallback, if_true]
          exact onUvClose_sends hA b
  | tick timestamp b => exact ⟨s, .ticked, onTick_sends timestamp b⟩
  | removeApsClient c => exact ⟨_, .removed, Sends.refl _ _⟩

/-! ### Callbacks with one outline -/

theorem step_taken {b : AcceptBehaviour M} (hlast : s.availableClientHandlers.getLast? = some c) :
    Sends (s.callers (.listen 0 0 b)) (s.taken c) (s.step (.listen 0 0 b)) := by
  obtain ⟨u, hu, hsends⟩ := step_outline s (.listen 0 0 b)
  cases hu with
  | listenFailed hstatus => exact absurd rfl hstatus
  | exhausted hnone =>
      rw [hnone] at hlast
      cases hlast
  | taken hlast' =>
      cases hlast.symm.trans hlast'
      exact hsends
  | refused hlast' hresult => exact absurd rfl hresult

theorem step_ended {nread : Int} {b : ReadBehaviour M} (hnread : nread ≤ 0) :
    Sends (s.callers (.read c nread b)) ((notify s c .onTcpConnectionClosed).removeApsClient c)
      (s.step (.read c nread b)) := by
  obtain ⟨u, hu, hsends⟩ := step_outline s (.read c nread b)
  cases hu with
  | ended hnread' => exact hsends
  | data hnread' hreturned => exact absurd hnread (Int.not_le.mpr hnread')
  | dataRefused hnread' hreturned => exact absurd hnread (Int.not_le.mpr hnread')

end NetworkService

end AvdeccProxy
