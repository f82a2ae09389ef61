import AvdeccProxy.ClientAdmission
import Mathlib.Data.List.Basic

/-! More handlers. `m_max_clients` says how many clients fit and nothing else: what a pool of handlers does
while nobody waits, a larger one does too, with the same handlers under other names and the new ones idle
in front of the others. -/

namespace AvdeccProxy

variable {M : Mcu}

def UvWriteContext.widen (k : Nat) (x : UvWriteContext) : UvWriteContext :=
  { x with apsclient := x.apsclient + k }

theorem UvWriteContext.widen_injective (k : Nat) : Function.Injective (UvWriteContext.widen k) := by
  rintro ⟨address, apsclient, data, callback, connection, taken⟩
    ⟨address', apsclient', data', callback', connection', taken'⟩ h
  simpa [UvWriteContext.widen] using h

namespace NetworkService

open ApsClient Transition

variable {s t : NetworkService M} {e : Event M} {c : ClientPtr} {k : Nat}

/-- The same service with `k` more handlers, which were never used and are the last to be taken. -/
def widen (k : Nat) (s : NetworkService M) : NetworkService M :=
  { s with
    activeClientHandlers := s.activeClientHandlers.map (· + k)
    availableClientHandlers := List.range k ++ s.availableClientHandlers.map (· + k)
    clients := fun d => if d < k then .constructed M else s.clients (d - k)
    owed := s.owed.map (·.widen k)
    destroyed := s.destroyed.map fun d => (d.1 + k, d.2)
    heap := s.heap.map (·.widen k)
    responded := s.responded.map fun r => (r.1 + k, r.2) }

/-- The same callback, with the handlers under their new names. -/
def Event.widen (k : Nat) : Event M → Event M
  | .listen status result b => .listen status result b
  | .read client nread b => .read (client + k) nread b
  | .written address status b => .written address status b
  | .closed client number b => .closed (client + k) number b
  | .tick timestamp b => .tick timestamp fun d => b (d - k)
  | .removeApsClient client => .removeApsClient (client + k)

/-! ### What the handlers have -/

section handlers

variable (k : Nat) (s : NetworkService M) (c : ClientPtr)

@[simp] theorem clients_widen : (s.widen k).clients (c + k) = s.clients c := by
  simp [widen]

@[simp] theorem connections_widen : (s.widen k).connections (c + k) = s.connections c :=
  congrArg ApsClient.connections (clients_widen k s c)

@[simp] theorem isOpen_widen : (s.widen k).isOpen (c + k) = s.isOpen c := by
  unfold isOpen
  rw [connections_widen]

@[simp] theorem isReadable_widen : (s.widen k).isReadable (c + k) = s.isReadable c := by
  unfold isReadable
  rw [connections_widen]

@[simp] theorem currentNumber_widen : (s.widen k).currentNumber (c + k) = s.currentNumber c := by
  unfold currentNumber
  rw [connections_widen]

@[simp] theorem callsOnUvClose_widen (number : Nat) :
    (s.widen k).callsOnUvClose (c + k) number = s.callsOnUvClose c number := by
  unfold callsOnUvClose
  rw [connections_widen]

@[simp] theorem reinitialised_widen (number : Nat) :
    (s.widen k).reinitialised (c + k) number = s.reinitialised c number := by
  unfold reinitialised
  rw [connections_widen]

theorem lt_or_sub_ne {k c d : Nat} (h : d ≠ c + k) : d < k ∨ d - k ≠ c := by omega

theorem widen_modifyClient (f : ApsClient M → ApsClient M) :
    (s.modifyClient c f).widen k = (s.widen k).modifyClient (c + k) f := by
  have hclients : ((s.modifyClient c f).widen k).clients =
      ((s.widen k).modifyClient (c + k) f).clients := by
    funext d
    by_cases hd : d = c + k
    · subst hd
      rw [clients_widen]
      simp only [modifyClient, Function.update_self, clients_widen]
    · have hd' := lt_or_sub_ne hd
      simp only [modifyClient, widen, Function.update_of_ne hd]
      rcases hd' with hd' | hd'
      · rw [if_pos hd', if_pos hd']
      · rw [Function.update_of_ne hd']
  unfold modifyClient widen at hclients ⊢
  simp only at hclients
  simp only [hclients]

end handlers

/-! ### Methods -/

section methods

variable (k : Nat) (s : NetworkService M) (c : ClientPtr)

theorem widen_uvTcpInit : (s.uvTcpInit c).widen k = (s.widen k).uvTcpInit (c + k) :=
  widen_modifyClient k s c _

theorem widen_uvReadStart : (s.uvReadStart c).widen k = (s.widen k).uvReadStart (c + k) :=
  widen_modifyClient k s c _

theorem widen_uvAccept (result : Int) :
    (s.uvAccept c result).widen k = (s.widen k).uvAccept (c + k) result := by
  unfold uvAccept
  by_cases hresult : result = 0
  · simp only [hresult, if_true]
    exact widen_modifyClient k { s with waiting := false } c _
  · simp only [hresult, if_false]
    rfl

theorem widen_uvClose (callback : Bool) :
    (s.uvClose c callback).widen k = (s.widen k).uvClose (c + k) callback := by
  unfold uvClose
  rw [isOpen_widen, ← widen_modifyClient]
  rfl

theorem widen_uvWrite (data : List UInt8) (callback : WriteCallback) (accepted : Bool) :
    (s.uvWrite c data callback accepted).widen k =
      (s.widen k).uvWrite (c + k) data callback accepted := by
  unfold uvWrite
  rw [isOpen_widen, currentNumber_widen]
  cases htaken : accepted && s.isOpen c with
  | true =>
      simp only [if_true, widen, List.map_append]
      rfl
  | false =>
      simp only [widen, List.map_append]
      rfl

theorem widen_removeApsClient :
    (s.removeApsClient c).widen k = (s.widen k).removeApsClient (c + k) := by
  have hinjective : Function.Injective fun d : Nat => d + k := fun _ _ => Nat.add_right_cancel
  have hmem : c + k ∈ (s.widen k).activeClientHandlers ↔ c ∈ s.activeClientHandlers :=
    List.mem_map_of_injective hinjective
  by_cases hc : c ∈ s.activeClientHandlers
  · rw [removeApsClient_of_mem hc, removeApsClient_of_mem (hmem.mpr hc)]
    have hnotified : (s.widen k).notified (c + k) = s.notified c :=
      congrArg ApsClient.notified (clients_widen k s c)
    rw [hnotified]
    simp only [widen, List.map_append, List.append_assoc, List.map_erase hinjective]
    rfl
  · rw [removeApsClient_of_not_mem hc, removeApsClient_of_not_mem fun h => hc (hmem.mp h)]

theorem widen_sendHttpResponse (response : HttpResponse) (accepted : Bool) :
    (sendHttpResponse s c response accepted).widen k =
      sendHttpResponse (s.widen k) (c + k) response accepted := by
  refine (widen_uvWrite k { s with responded := s.responded ++ [(c, s.currentNumber c)] } c _ _
    accepted).trans ?_
  show uvWrite _ (c + k) _ _ accepted = uvWrite _ (c + k) _ _ accepted
  rw [currentNumber_widen]
  simp only [widen, List.map_append]
  rfl

theorem widen_onIncomingHttpRequest (q : IncomingRequest) (accepted : Bool) :
    (onIncomingHttpRequest s c q accepted).widen k =
      onIncomingHttpRequest (s.widen k) (c + k) q accepted := by
  unfold onIncomingHttpRequest
  induction M.responses q generalizing s with
  | nil => rfl
  | cons response responses ih =>
      rw [List.foldl_cons, List.foldl_cons, ih, widen_sendHttpResponse]

theorem widen_call (request : Call) : (call s c request).widen k = call (s.widen k) (c + k) request := by
  cases request with
  | sendTcpData data accepted => exact widen_uvWrite k s c data .onUvWrite accepted
  | onIncomingHttpRequest q accepted => exact widen_onIncomingHttpRequest k s c q accepted
  | sendAvdeccToL2 frame => rfl
  | closeTcpConnection => rfl
  | closeTcpServer => rfl

theorem widen_calls (requests : List Call) :
    (requests.foldl (fun s request => call s c request) s).widen k =
      requests.foldl (fun s request => call s (c + k) request) (s.widen k) := by
  induction requests generalizing s with
  | nil => rfl
  | cons request requests ih =>
      rw [List.foldl_cons, List.foldl_cons, ih, widen_call]

theorem widen_perform (b : Behaviour M) :
    (perform s c b).widen k = perform (s.widen k) (c + k) b := by
  unfold perform
  rw [widen_modifyClient, widen_calls]

theorem widen_notify (n : Notification) : (notify s c n).widen k = notify (s.widen k) (c + k) n :=
  widen_modifyClient k s c _

theorem widen_setup : (setup s c).widen k = setup (s.widen k) (c + k) := by
  unfold setup
  rw [widen_modifyClient, widen_notify]

theorem widen_start (b : StartBehaviour M) : (start s c b).widen k = start (s.widen k) (c + k) b := by
  unfold start ApsClient.run onIncomingTcpConnection
  rw [widen_perform, widen_perform, widen_notify, widen_perform, widen_uvReadStart]

theorem widen_stop : (ApsClient.stop s c).widen k = ApsClient.stop (s.widen k) (c + k) := by
  unfold ApsClient.stop
  rw [widen_removeApsClient]
  exact congrArg (removeApsClient · (c + k)) (widen_modifyClient k s c _)

theorem widen_onUvRead (nread : Int) (b : ReadBehaviour M) :
    (onUvRead s c nread b).widen k = onUvRead (s.widen k) (c + k) nread b := by
  unfold onUvRead ApsClient.run onIncomingTcpData onTcpConnectionClosed
  by_cases hnread : nread ≤ 0
  · simp only [hnread, if_true]
    rw [widen_stop, widen_perform, widen_perform, widen_notify]
  · by_cases hreturned : b.returned = 0
    · simp only [hnread, if_false, hreturned, if_true]
      rw [widen_perform, widen_perform, widen_notify, widen_perform, widen_notify]
    · simp only [hnread, if_false, hreturned]
      rw [widen_perform, widen_perform, widen_notify]

theorem widen_onUvClose (b : Behaviour M) :
    (onUvClose s c b).widen k = onUvClose (s.widen k) (c + k) b := by
  unfold onUvClose ApsClient.run closeTcpConnection
  rw [widen_stop, widen_perform]

theorem widen_uvClosed (number : Nat) :
    (s.uvClosed c number).widen k = (s.widen k).uvClosed (c + k) number := by
  unfold uvClosed
  rw [reinitialised_widen, ← widen_modifyClient]
  rfl

theorem widen_deleteContext (x : UvWriteContext) :
    (s.deleteContext x).widen k = (s.widen k).deleteContext (x.widen k) := by
  simp only [deleteContext, widen, List.map_erase (UvWriteContext.widen_injective k)]
  rfl

theorem widen_onUvWrite (x : UvWriteContext) (status : Int) (b : Behaviour M) :
    (onUvWrite s x status b).widen k = onUvWrite (s.widen k) (x.widen k) status b := by
  have hdeleted := widen_deleteContext k s x
  have hclosed : ((s.deleteContext x).uvClose x.apsclient true).widen k =
      ((s.widen k).deleteContext (x.widen k)).uvClose (x.apsclient + k) true := by
    rw [widen_uvClose, hdeleted]
  unfold onUvWrite ApsClient.run
  by_cases hstatus : status < 0
  · simp only [hstatus, if_true]
    rw [show (x.widen k).apsclient = x.apsclient + k from rfl, ← hclosed]
    show (if _ then _ else _ : NetworkService M).widen k =
      if ((s.deleteContext x).uvClose x.apsclient true).aborted = true then _ else _
    split
    · rfl
    · exact widen_perform k _ _ b
  · simp only [hstatus, if_false]
    rw [show (x.widen k).apsclient = x.apsclient + k from rfl, ← hdeleted]
    show (if _ then _ else _ : NetworkService M).widen k =
      if (s.deleteContext x).aborted = true then _ else _
    split
    · rfl
    · exact widen_perform k _ _ b

theorem widen_onUvWriteThenClose (x : UvWriteContext) :
    (onUvWriteThenClose s x).widen k = onUvWriteThenClose (s.widen k) (x.widen k) := by
  unfold onUvWriteThenClose
  rw [← widen_deleteContext]
  exact widen_uvClose k _ _ true

theorem widen_writeCompleted (x : UvWriteContext) (status : Int) (b : Behaviour M) :
    (s.writeCompleted x status b).widen k = (s.widen k).writeCompleted (x.widen k) status b := by
  have howed : ({ s with owed := s.owed.erase x } : NetworkService M).widen k =
      { s.widen k with owed := (s.widen k).owed.erase (x.widen k) } := by
    simp only [widen, List.map_erase (UvWriteContext.widen_injective k)]
  unfold writeCompleted
  rw [← howed, show (x.widen k).callback = x.callback from rfl]
  cases x.callback with
  | onUvWrite => exact widen_onUvWrite k _ x status b
  | onUvWriteThenClose => exact widen_onUvWriteThenClose k _ x

theorem widen_closeCompleted (number : Nat) (b : Behaviour M) :
    (s.closeCompleted c number b).widen k = (s.widen k).closeCompleted (c + k) number b := by
  unfold closeCompleted
  rw [callsOnUvClose_widen, ← widen_uvClosed]
  split
  · exact widen_onUvClose k _ c b
  · rfl

theorem widen_dropLast (hroom : s.availableClientHandlers ≠ []) :
    ({ s with availableClientHandlers := s.availableClientHandlers.dropLast } :
      NetworkService M).widen k =
      { s.widen k with availableClientHandlers := (s.widen k).availableClientHandlers.dropLast } := by
  have hmap : s.availableClientHandlers.map (· + k) ≠ [] := fun h => hroom (List.map_eq_nil_iff.mp h)
  simp only [widen, List.dropLast_append_of_ne_nil hmap, List.map_dropLast]

theorem widen_acceptInto (hroom : s.availableClientHandlers ≠ []) :
    (s.acceptInto c).widen k = (s.widen k).acceptInto (c + k) := by
  have haccepted : ((s.uvTcpInit c).uvAccept c 0).widen k =
      ((s.widen k).uvTcpInit (c + k)).uvAccept (c + k) 0 := by
    rw [widen_uvAccept, widen_uvTcpInit]
  unfold acceptInto
  rw [widen_setup]
  refine congrArg (setup · (c + k)) ((widen_dropLast k ((s.uvTcpInit c).uvAccept c 0) hroom).trans ?_)
  rw [haccepted]

theorem getLast?_widen (hlast : s.availableClientHandlers.getLast? = some c) :
    (s.widen k).availableClientHandlers.getLast? = some (c + k) := by
  show (List.range k ++ s.availableClientHandlers.map (· + k)).getLast? = some (c + k)
  rw [List.getLast?_append, List.getLast?_map, hlast]
  rfl

theorem widen_onNewConnection (hroom : s.availableClientHandlers ≠ []) (result : Int)
    (b : AcceptBehaviour M) :
    (s.onNewConnection result b).widen k = (s.widen k).onNewConnection result b := by
  unfold onNewConnection
  cases hlast : s.availableClientHandlers.getLast? with
  | none => exact absurd (List.getLast?_eq_none_iff.mp hlast) hroom
  | some aps =>
      simp only [getLast?_widen k s aps hlast]
      by_cases hresult : result = 0
      · have hactive : ∀ v : NetworkService M,
            ({ v with activeClientHandlers := v.activeClientHandlers ++ [aps] } :
              NetworkService M).widen k =
              { v.widen k with
                activeClientHandlers := (v.widen k).activeClientHandlers ++ [aps + k] } := fun v => by
          simp only [widen, List.map_append]
          rfl
        simp only [hresult, if_true]
        unfold ApsClient.run
        rw [widen_perform, hactive, widen_start, widen_acceptInto k s aps hroom]
      · simp only [hresult, if_false]
        rw [widen_uvClose, widen_uvAccept, widen_uvTcpInit]

theorem widen_onTickFrom (b : ClientPtr → TickBehaviour M) (time : UInt32) (fuel i : Nat) :
    (onTickFrom b time fuel i s).1.widen k =
      (onTickFrom (fun d => b (d - k)) time fuel i (s.widen k)).1 := by
  induction fuel generalizing i s with
  | zero => rfl
  | succ fuel ih =>
      have hget : (s.widen k).activeClientHandlers[i]? =
          s.activeClientHandlers[i]?.map (· + k) := List.getElem?_map
      unfold onTickFrom
      rw [hget]
      cases s.activeClientHandlers[i]? with
      | none => rfl
      | some d =>
          simp only [Option.map_some, Nat.add_sub_cancel]
          rw [ih]
          unfold ApsClient.run
          rw [widen_perform, widen_perform]

end methods

/-! ### Callbacks -/

/-- As long as a connection finds a handler, more handlers change nothing. -/
theorem widen_step (k : Nat) (hroom : AnnouncedInTime s e) :
    (s.step e).widen k = (s.widen k).step (e.widen k) := by
  cases e with
  | listen status result b =>
      by_cases hstatus : status = 0
      · simp only [NetworkService.step, Event.widen, listenHandler, hstatus, if_true]
        exact widen_onNewConnection k { s with waiting := s.waiting || decide ((0 : Int) = 0) }
          (hroom hstatus) result b
      · simp only [NetworkService.step, Event.widen, listenHandler, hstatus, if_false]
        rfl
  | read client nread b => exact widen_onUvRead k s client nread b
  | written address status b =>
      have hfind : (s.widen k).owed.find? (·.address == address) =
          (s.owed.find? (·.address == address)).map (·.widen k) := List.find?_map
      simp only [NetworkService.step, Event.widen, hfind]
      cases s.owed.find? (·.address == address) with
      | none => rfl
      | some x => exact widen_writeCompleted k s x status b
  | closed client number b => exact widen_closeCompleted k s client number b
  | tick timestamp b =>
      have hlength : (s.widen k).activeClientHandlers.length = s.activeClientHandlers.length :=
        List.length_map _
      simp only [NetworkService.step, Event.widen, onTick, hlength]
      exact widen_onTickFrom k s b _ _ 0
  | removeApsClient client => exact widen_removeApsClient k s client

theorem widen_legal (k : Nat) (hlegal : Legal s e) : Legal (s.widen k) (e.widen k) := by
  have howed : ∀ {x}, x ∈ (s.widen k).owed → ∃ y ∈ s.owed, y.widen k = x := List.mem_map.mp
  cases e with
  | listen status result b => exact hlegal
  | read client nread b =>
      refine ⟨hlegal.1, ?_⟩
      rw [isReadable_widen]
      exact hlegal.2
  | written address status b =>
      obtain ⟨hlive, x, hx, haddress⟩ := hlegal
      exact ⟨hlive, x.widen k, List.mem_map_of_mem hx, haddress⟩
  | closed client number b =>
      obtain ⟨hlive, hclosing, hdrained⟩ := hlegal
      refine ⟨hlive, ?_, fun y hy h => ?_⟩
      · rw [connections_widen]
        exact hclosing
      · obtain ⟨z, hz, rfl⟩ := howed hy
        exact hdrained z hz ⟨Nat.add_right_cancel h.1, h.2⟩
  | tick timestamp b => exact hlegal
  | removeApsClient client => exact hlegal

/-! ### Runs -/

theorem constructed_widen {maxClients maxClients' : Int} (hle : maxClients ≤ maxClients') :
    (constructed M maxClients).widen (maxClients'.toNat - maxClients.toNat) =
      constructed M maxClients' := by
  have hrange : List.range (maxClients'.toNat - maxClients.toNat) ++
      (List.range maxClients.toNat).map (· + (maxClients'.toNat - maxClients.toNat)) =
        List.range maxClients'.toNat := by
    calc _ = List.range (maxClients'.toNat - maxClients.toNat) ++
          (List.range maxClients.toNat).map (maxClients'.toNat - maxClients.toNat + ·) := by
          simp only [Nat.add_comm]
      _ = List.range (maxClients'.toNat - maxClients.toNat + maxClients.toNat) := List.range_add.symm
      _ = List.range maxClients'.toNat := by
          congr 1
          omega
  have hclients : (fun d => if d < maxClients'.toNat - maxClients.toNat then ApsClient.constructed M
      else .constructed M) = fun _ => .constructed M := funext fun d => ite_self _
  unfold constructed widen
  simp only [hclients, hrange, List.map_nil]

/-- **A larger pool.** A legal run that announces every connection in time is a legal run of any larger
pool too, with the handlers under their new names, and ends in the same state, the new handlers idle. -/
theorem larger_pool (maxClients maxClients' : Int) (events : List (Event M))
    (hle : maxClients ≤ maxClients') (hlegal : (service M).Legal (constructed M maxClients) events)
    (hroom : (service M).Steps AnnouncedInTime (constructed M maxClients) events) :
    let k := maxClients'.toNat - maxClients.toNat
    (service M).Legal (constructed M maxClients') (events.map (.widen k)) ∧
      (service M).run (constructed M maxClients') (events.map (.widen k)) =
        ((service M).run (constructed M maxClients) events).widen k := by
  intro k
  rw [← constructed_widen hle]
  exact ⟨Machine.steps_map (fun _ _ => widen_step k) hroom (fun _ _ => widen_legal k) hlegal,
    (Machine.run_map (fun _ _ => widen_step k) hroom).symm⟩

/-- Two clients, one after the other, for one handler out of three. -/
theorem larger_pool_servedTwice :
    (service .plain).run (constructed .plain 3)
        [.listen 0 0 (.silent _), .read 2 0 (.silent _ 0), .listen 0 0 (.silent _)] =
      ((service .plain).run (constructed .plain 1)
        [.listen 0 0 (.silent _), .read 0 0 (.silent _ 0), .listen 0 0 (.silent _)]).widen 2 :=
  (larger_pool 1 3 [.listen 0 0 (.silent _), .read 0 0 (.silent _ 0), .listen 0 0 (.silent _)]
    (by decide) (by decide) ⟨fun _ => by decide, trivial, fun _ => by decide, trivial⟩).2

end NetworkService

end AvdeccProxy
