import AvdeccProxy.HandlerCallbacks
import AvdeccProxy.OrderlyClients

/-! The order of callbacks. Two callbacks that may be made now, for different handlers, may be made one
after the other in either order. As long as the state machines do the same, either order leaves every
handler in the same state and has made the same writes for it: which of the callbacks libuv makes first
decides about the addresses of contexts and the order of the free handlers, and about nothing else in the
proxy. What the state machines share behind its back, the ids they assign, may make them behave differently. -/

namespace AvdeccProxy

namespace NetworkService

open ApsClient Transition

variable {M : Mcu} {s t u : NetworkService M} {e e' : Event M} {c d : ClientPtr} {maxClients : Int}
  {x : UvWriteContext}

namespace Concerns

theorem clientEvents_of_ne (hsound : Sound maxClients s) (h : Concerns c s e) (hd : d ≠ c) :
    s.clientEvents d e = [] := by
  cases h with
  | read => exact if_neg (Ne.symm hd)
  | written hx hclient =>
      simp only [clientEvents, hsound.find_owed hx, hclient, if_neg (Ne.symm hd)]
  | closed => exact if_neg (Ne.symm hd)

/-! ### The other callback -/

theorem step (hsound : Sound maxClients s) (h : Concerns c s e) (h' : Concerns d s e') (hd : d ≠ c) :
    Concerns d (s.step e) e' := by
  cases h' with
  | read => exact .read
  | written hx hclient => exact .written ((h.owed_of_ne hsound (hclient ▸ hd)).mpr hx) hclient
  | closed => exact .closed

/-- The other callback is the same event for its handler, before and after. -/
theorem clientEvents_step (hsound : Sound maxClients s) (hlegal : Legal s e) (h : Concerns c s e)
    (h' : Concerns d s e') (hd : d ≠ c) : (s.step e).clientEvents d e' = s.clientEvents d e' := by
  cases h' with
  | read => rfl
  | written hx hclient =>
      have hkept := (h.owed_of_ne hsound (hclient ▸ hd)).mpr hx
      simp only [clientEvents, hsound.find_owed hx, (hsound.step hlegal).find_owed hkept]
  | closed => rfl

theorem legal_step (hsound : Sound maxClients s) (h : Concerns c s e) (h' : Concerns d s e')
    (hd : d ≠ c) (hlegal' : Legal s e') (hlive : (s.step e).aborted = false) :
    Legal (s.step e) e' := by
  have hconnections := h.connections_of_ne hsound hd
  cases h' with
  | read => exact ⟨hlive, (isReadable_congr hconnections).trans hlegal'.2⟩
  | written hx hclient => exact ⟨hlive, _, (h.owed_of_ne hsound (hclient ▸ hd)).mpr hx, rfl⟩
  | closed =>
      refine ⟨hlive, ?_, fun z hz hwrite => ?_⟩
      · rw [hconnections]
        exact hlegal'.2.1
      · exact hlegal'.2.2 z ((h.owed_of_ne hsound (hwrite.1 ▸ hd)).mp hz) hwrite

/-! ### The lists of handlers -/

theorem releases_step (hsound : Sound maxClients s) (h : Concerns c s e) (h' : Concerns d s e')
    (hd : d ≠ c) : Releases (s.step e) e' d ↔ Releases s e' d := by
  have hmem := h.mem_active_of_ne hd
  cases h' with
  | read => exact and_congr_right fun _ => and_congr_right fun _ => hmem
  | written hx hclient => exact Iff.rfl
  | @closed number b =>
      have hcalls := callsOnUvClose_congr (h.connections_of_ne hsound hd) number
      exact and_congr_right fun _ => and_congr (by rw [hcalls]) hmem

theorem active_comm (hsound : Sound maxClients s) (h : Concerns c s e) (h' : Concerns d s e')
    (hd : d ≠ c) :
    ((s.step e).step e').activeClientHandlers = ((s.step e').step e).activeClientHandlers := by
  have hafter := h.step hsound h' hd
  have hbefore := h'.step hsound h (Ne.symm hd)
  have hreleases := h.releases_step hsound h' hd
  have hreleases' := h'.releases_step hsound h (Ne.symm hd)
  by_cases hc : Releases s e c
  · by_cases hd' : Releases s e' d
    · rw [hafter.active_of_releases (hreleases.mpr hd'), h.active_of_releases hc,
        hbefore.active_of_releases (hreleases'.mpr hc), h'.active_of_releases hd', List.erase_comm]
    · rw [hafter.active_of_not_releases (mt hreleases.mp hd'), h.active_of_releases hc,
        hbefore.active_of_releases (hreleases'.mpr hc), h'.active_of_not_releases hd']
  · by_cases hd' : Releases s e' d
    · rw [hafter.active_of_releases (hreleases.mpr hd'), h.active_of_not_releases hc,
        hbefore.active_of_not_releases (mt hreleases'.mp hc), h'.active_of_releases hd']
    · rw [hafter.active_of_not_releases (mt hreleases.mp hd'), h.active_of_not_releases hc,
        hbefore.active_of_not_releases (mt hreleases'.mp hc), h'.active_of_not_releases hd']

/-- What the two callbacks hold for a handler does not depend on their order. -/
theorem runInputs_comm (hsound : Sound maxClients s) (hlegal : Legal s e) (hlegal' : Legal s e')
    (h : Concerns c s e) (h' : Concerns d s e') (hd : d ≠ c) (a : ClientPtr) :
    (handler M a).runInputs s [e, e'] = (handler M a).runInputs s [e', e] := by
  have hafter := h.step hsound h' hd
  have hbefore := h'.step hsound h (Ne.symm hd)
  show s.clientEvents a e ++ ((s.step e).clientEvents a e' ++ []) =
    s.clientEvents a e' ++ ((s.step e').clientEvents a e ++ [])
  by_cases hac : a = c
  · subst hac
    rw [hafter.clientEvents_of_ne (hsound.step hlegal) (Ne.symm hd),
      h'.clientEvents_of_ne hsound (Ne.symm hd), h'.clientEvents_step hsound hlegal' h (Ne.symm hd),
      List.append_nil, List.append_nil, List.nil_append]
  · rw [h.clientEvents_of_ne hsound hac, hbefore.clientEvents_of_ne (hsound.step hlegal') hac,
      List.append_nil, List.append_nil, List.append_nil, List.nil_append]
    by_cases had : a = d
    · subst had
      exact h.clientEvents_step hsound hlegal h' hac
    · rw [hafter.clientEvents_of_ne (hsound.step hlegal) had, h'.clientEvents_of_ne hsound had]

end Concerns

open scoped List in
/-- **The order of callbacks.** Take two callbacks that libuv may make next, for different handlers, that
the process survives, with the behaviour of each state machine. Each may be made after the other, and if the
state machines still behave as they did the order decides neither about the state of any handler, nor about
the writes made for it, nor about which handlers are active and which are free. -/
theorem callbacks_commute (maxClients : Int) (events : List (Event M)) (e e' : Event M)
    (c d : ClientPtr) (hlegal : (service M).Legal (constructed M maxClients) events) :
    let s := (service M).run (constructed M maxClients) events
    d ≠ c → Concerns c s e → Concerns d s e' → Legal s e → Legal s e' →
      (s.step e).aborted = false → (s.step e').aborted = false →
        Legal (s.step e) e' ∧ Legal (s.step e') e ∧
          (∀ a, ((s.step e).step e').clients a = ((s.step e').step e).clients a ∧
            (handler M a).runOutputs s [e, e'] = (handler M a).runOutputs s [e', e]) ∧
          ((s.step e).step e').activeClientHandlers = ((s.step e').step e).activeClientHandlers ∧
          ((s.step e).step e').availableClientHandlers ~
            ((s.step e').step e).availableClientHandlers := by
  intro s hd h h' hfirst hsecond hlive hlive'
  have hsound : Sound maxClients s := (run_sound hlegal).last
  have hthen := h.legal_step hsound h' hd hsecond hlive
  have hthen' := h'.legal_step hsound h (Ne.symm hd) hfirst hlive'
  have hactive := h.active_comm hsound h' hd
  refine ⟨hthen, hthen', fun a => ?_, hactive, ?_⟩
  · have hfaithful : (service M).Steps (handler M a).Faithful s [e, e'] :=
      ⟨faithful_step hsound hfirst, faithful_step (hsound.step hfirst) hthen, trivial⟩
    have hfaithful' : (service M).Steps (handler M a).Faithful s [e', e] :=
      ⟨faithful_step hsound hsecond, faithful_step (hsound.step hsecond) hthen', trivial⟩
    exact View.noninterference hfaithful hfaithful' rfl
      (h.runInputs_comm hsound hfirst hsecond h' hd a)
  · have hpool := ((hsound.step hfirst).step hthen).pool
    have hpool' := ((hsound.step hsecond).step hthen').pool
    unfold PoolConserved ResourcePool.Conserved at hpool hpool'
    rw [hactive] at hpool
    exact (List.perm_append_left_iff _).mp (hpool.trans hpool'.symm)

/-- Two clients are connected, and the response to one of them is in flight. -/
def oneAnswered : List (Event .plain) :=
  [.listen 0 0 (.silent _), .listen 0 0 (.silent _),
    .read 0 18 ⟨⟨[.onIncomingHttpRequest ⟨.get, ⟨"/index.html"⟩⟩ true], id⟩, 18, .silent _, .silent _⟩]

/-- The other one leaves, and its state machine counts and writes on the way. -/
def leave : Event .plain :=
  .read 1 0 ⟨.silent _, 0, ⟨[.sendTcpData [1] true], fun m => { m with myVariables := Nat.succ m.myVariables }⟩,
    .silent _⟩

theorem callbacks_commute_leave_answered :
    let s := (service .plain).run (constructed .plain 2) oneAnswered
    Legal (s.step leave) (.written 0 0 (.silent _)) ∧
      ((s.step leave).step (.written 0 0 (.silent _))).clients 1 =
        ((s.step (.written 0 0 (.silent _))).step leave).clients 1 :=
  have h := callbacks_commute 2 oneAnswered leave (.written 0 0 (.silent _)) 1 0
    (by decide +kernel) (by decide) .read
    (.written (x := ⟨0, 0, (Mcu.plain.responses ⟨.get, ⟨"/index.html"⟩⟩).flatMap Mcu.plain.flatten,
      .onUvWriteThenClose, 0, true⟩)
      (by decide +kernel) rfl)
    (by decide +kernel) (by decide +kernel) (by decide +kernel) (by decide +kernel)
  ⟨h.1, (h.2.2.1 1).1⟩

end NetworkService

end AvdeccProxy
