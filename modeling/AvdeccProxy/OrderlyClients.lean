import AvdeccProxy.ClientIsolation
import AvdeccProxy.SlotRelease

/-! What each client must keep to for the whole proxy to be safe. Four standings say all there is to know
about the handle of a handler, and every event of the handler moves from one to the next or is refused.
The proxy keeps its handles apart and survives exactly when no handler, looked at on its own, meets an
event it refuses; how the clients are interleaved does not matter. -/

namespace AvdeccProxy

variable {M : Mcu}

/-- What a handler's handle is up to. -/
inductive Standing where
  /-- In the pool, and every handle it had is closed. -/
  | free
  /-- In the pool, with the handle of a failed accept being closed. -/
  | refusing
  | serving
  | closing
  deriving DecidableEq, Repr

namespace Standing

/-- The standing after an event; none when the event finds the handle in the wrong state, or leaves it so.
The end of the input does, since it takes the handler back and does not close its handle. -/
def next (p : Standing) : ClientEvent M → Option Standing
  | .taken _ => if p = free then some serving else none
  | .refused => if p = free then some refusing else none
  | .read nread _ => if nread ≤ 0 then none else some p
  | .wrote status _ =>
      if status < 0 then
        if p = serving then some closing else none
      else some p
  | .responded => if p = serving then some closing else none
  | .closed _ _ => if p = closing ∨ p = refusing then some free else none
  | .ticked _ => some p

/-- The handler is not in the pool. -/
def Active (p : Standing) : Prop := p = serving ∨ p = closing

/-- The phase of the handle, when it is not closed. -/
def current : Standing → List HandlePhase
  | free => []
  | refusing => [.closing]
  | serving => [.opened]
  | closing => [.closing]

/-- Apart from the current one all handles are closed. -/
def Fits (p : Standing) (connections : List Connection) : Prop :=
  ∃ n, connections.map (·.phase) = p.current ++ List.replicate n .closed

variable {p p' : Standing} {connections earlier : List Connection} {k : Connection}

theorem fits_cons {phase : HandlePhase} (hp : p.current = [phase]) :
    p.Fits (k :: earlier) ↔ k.phase = phase ∧ free.Fits earlier := by
  unfold Fits
  rw [hp]
  constructor
  · rintro ⟨n, h⟩
    exact ⟨(List.cons.inj h).1, n, (List.cons.inj h).2⟩
  · rintro ⟨hphase, n, h⟩
    exact ⟨n, congrArg₂ List.cons hphase h⟩

theorem fits_free : free.Fits connections ↔ ∀ k ∈ connections, k.phase = .closed := by
  unfold Fits current
  constructor
  · rintro ⟨n, h⟩ k hk
    have hmem : k.phase ∈ connections.map (·.phase) := List.mem_map_of_mem hk
    rw [h, List.nil_append] at hmem
    exact List.eq_of_mem_replicate hmem
  · intro h
    refine ⟨connections.length, ?_⟩
    rw [List.nil_append, List.eq_replicate_iff, List.length_map]
    exact ⟨rfl, List.forall_mem_map.mpr h⟩

/-- A standing with a handle has a connection for it. -/
theorem Fits.cons {phase : HandlePhase} (hp : p.current = [phase]) (h : p.Fits connections) :
    ∃ k earlier, connections = k :: earlier ∧ k.phase = phase ∧ free.Fits earlier := by
  cases connections with
  | nil =>
      obtain ⟨n, h⟩ := h
      rw [hp] at h
      cases h
  | cons k earlier => exact ⟨k, earlier, rfl, (fits_cons hp).mp h⟩

theorem eq_free_or_current (p : Standing) :
    p = free ∨ ∃ phase, p.current = [phase] ∧ phase ≠ .closed := by
  cases p with
  | free => exact Or.inl rfl
  | refusing => exact Or.inr ⟨.closing, rfl, HandlePhase.noConfusion⟩
  | serving => exact Or.inr ⟨.opened, rfl, HandlePhase.noConfusion⟩
  | closing => exact Or.inr ⟨.closing, rfl, HandlePhase.noConfusion⟩

theorem eq_serving (h : p.current = [.opened]) : p = serving := by
  cases p with
  | serving => rfl
  | free => cases h
  | refusing => cases h
  | closing => cases h

theorem Fits.tail (h : p.Fits connections) : ∀ k ∈ connections.tail, k.phase = .closed := by
  rcases p.eq_free_or_current with rfl | ⟨phase, hp, -⟩
  · exact fun k hk => fits_free.mp h k (List.mem_of_mem_tail hk)
  · obtain ⟨k, earlier, rfl, -, hearlier⟩ := h.cons hp
    exact fits_free.mp hearlier

theorem Fits.eq_free (h : p.Fits connections) (hclosed : ∀ k ∈ connections, k.phase = .closed) :
    p = free := by
  rcases p.eq_free_or_current with hfree | ⟨phase, hp, hphase⟩
  · exact hfree
  · obtain ⟨k, earlier, rfl, hk, -⟩ := h.cons hp
    exact absurd (hk.symm.trans (hclosed k (List.mem_cons_self ..))) hphase

/-- A handle that is not closed is the current one. -/
theorem Fits.current_eq (h : p.Fits connections) (hk : k ∈ connections) (hphase : k.phase ≠ .closed) :
    p.current = [k.phase] := by
  rcases p.eq_free_or_current with rfl | ⟨phase, hp, -⟩
  · exact absurd (fits_free.mp h k hk) hphase
  · obtain ⟨k', earlier, rfl, rfl, hearlier⟩ := h.cons hp
    rcases List.mem_cons.mp hk with rfl | hk
    · exact hp
    · exact absurd (fits_free.mp hearlier k hk) hphase

end Standing

/-! ### One event -/

namespace ClientEvent

variable {a : ApsClient M} {i : ClientEvent M}

/-- A close that completes was requested. -/
def Possible (a : ApsClient M) : ClientEvent M → Prop
  | .closed number _ => ∃ k ∈ a.connections, k.number = number ∧ k.phase = .closing
  | _ => True

/-- Calls of the state machine leave the handle alone. -/
theorem connections_after (i : ClientEvent M) (a : ApsClient M) :
    (i.after a).connections = (i.change a).connections := by
  unfold ClientEvent.after
  split <;> rfl

end ClientEvent

namespace Standing

variable {p p' : Standing} {i : ClientEvent M} {a : ApsClient M}

/-- `uv_close` of the handle of a handler that serves. -/
theorem Fits.requestClose (h : serving.Fits a.connections) (callback : Bool) :
    closing.Fits (a.requestClose callback).connections := by
  obtain ⟨k, earlier, hconnections, hphase, hearlier⟩ := h.cons rfl
  unfold ApsClient.requestClose ApsClient.modifyCurrent
  rw [hconnections, List.modifyHead_cons, Connection.closeRequested, if_pos hphase]
  exact (fits_cons rfl).mpr ⟨rfl, hearlier⟩

/-- The one close on the way is that of the current handle. -/
theorem Fits.modifyNumber (hp : p.current = [.closing]) (h : p.Fits a.connections) {number : Nat}
    (hclosing : ∃ k ∈ a.connections, k.number = number ∧ k.phase = .closing) :
    free.Fits (a.modifyNumber number fun k => { k with phase := .closed }).connections := by
  obtain ⟨k, earlier, hconnections, -, hearlier⟩ := h.cons hp
  rw [fits_free] at hearlier ⊢
  obtain ⟨k', hk', hnumber, hphase⟩ := hclosing
  have hk : k' = k := by
    rw [hconnections] at hk'
    rcases List.mem_cons.mp hk' with hk' | hk'
    · exact hk'
    · rw [hearlier k' hk'] at hphase
      cases hphase
  unfold ApsClient.modifyNumber
  rw [hconnections, List.forall_mem_map, List.forall_mem_cons, if_pos (hk ▸ hnumber)]
  refine ⟨rfl, fun x hx => ?_⟩
  split
  · rfl
  · exact hearlier x hx

/-- **One event.** A standing that fits moves on to one that fits. -/
theorem Fits.next (h : p.Fits a.connections) (hpossible : i.Possible a)
    (hnext : p.next i = some p') : p'.Fits (i.after a).connections := by
  rw [ClientEvent.connections_after]
  cases i with
  | taken b =>
      obtain ⟨rfl, hp'⟩ := Option.ite_none_right_eq_some.mp hnext
      cases hp'
      exact (fits_cons rfl).mpr ⟨rfl, h⟩
  | refused =>
      obtain ⟨rfl, hp'⟩ := Option.ite_none_right_eq_some.mp hnext
      cases hp'
      exact (fits_cons rfl).mpr ⟨rfl, h⟩
  | read nread b =>
      obtain ⟨hnread, hp'⟩ := Option.ite_none_left_eq_some.mp hnext
      cases hp'
      simp only [ClientEvent.change, if_neg hnread]
      split
      · exact h
      · exact h
  | wrote status b =>
      by_cases hstatus : status < 0
      · simp only [Standing.next, if_pos hstatus] at hnext
        obtain ⟨rfl, hp'⟩ := Option.ite_none_right_eq_some.mp hnext
        cases hp'
        simp only [ClientEvent.change, if_pos hstatus]
        exact h.requestClose true
      · simp only [Standing.next, if_neg hstatus] at hnext
        cases hnext
        simp only [ClientEvent.change, if_neg hstatus]
        exact h
  | responded =>
      obtain ⟨rfl, hp'⟩ := Option.ite_none_right_eq_some.mp hnext
      cases hp'
      exact h.requestClose true
  | closed number b =>
      obtain ⟨rfl | rfl, hp'⟩ := Option.ite_none_right_eq_some.mp hnext
      · cases hp'
        exact h.modifyNumber rfl hpossible
      · cases hp'
        exact h.modifyNumber rfl hpossible
  | ticked b =>
      cases hnext
      exact h

/-- A handler leaves the pool by being taken. -/
theorem taken_of_active (hnext : p.next i = some p') (hp : ¬ p.Active) (hp' : p'.Active) :
    ∃ b, i = .taken b := by
  have hkept : p' ≠ p := fun h => hp (h ▸ hp')
  have hfree : p' ≠ free := fun h => by
    rw [h] at hp'
    rcases hp' with hp' | hp' <;> cases hp'
  cases i with
  | taken b => exact ⟨b, rfl⟩
  | refused =>
      obtain ⟨-, h⟩ := Option.ite_none_right_eq_some.mp hnext
      cases h
      rcases hp' with hp' | hp' <;> cases hp'
  | read nread b =>
      obtain ⟨-, h⟩ := Option.ite_none_left_eq_some.mp hnext
      exact absurd (Option.some.inj h).symm hkept
  | wrote status b =>
      simp only [Standing.next] at hnext
      split at hnext
      · exact absurd (Or.inl (Option.ite_none_right_eq_some.mp hnext).1) hp
      · exact absurd (Option.some.inj hnext).symm hkept
  | responded => exact absurd (Or.inl (Option.ite_none_right_eq_some.mp hnext).1) hp
  | closed number b =>
      obtain ⟨-, h⟩ := Option.ite_none_right_eq_some.mp hnext
      exact absurd (Option.some.inj h).symm hfree
  | ticked b => exact absurd (Option.some.inj hnext).symm hkept

end Standing

namespace NetworkService

open ApsClient Transition Standing

variable {s t : NetworkService M} {e : Event M} {c d : ClientPtr} {maxClients : Int}
  {p p' : Standing}

/-- The process runs, no handler of the pool has an open handle, and no handle was initialised anew before
its close had completed. -/
structure Safe (s : NetworkService M) : Prop where
  live : s.aborted = false
  returned : ∀ c ∈ s.availableClientHandlers, ∀ k ∈ s.connections c, k.phase ≠ .opened
  earlier : ∀ c, ∀ k ∈ (s.connections c).tail, k.phase = .closed

/-! ### One callback -/

/-- What a callback holds for a handler: one event at most. -/
inductive Delivered (s : NetworkService M) (c : ClientPtr) :
    Event M → List (ClientEvent M) → Prop where
  | taken {b} (hlast : s.availableClientHandlers.getLast? = some c) :
      Delivered s c (.listen 0 0 b) [.taken b]
  | refused {result b} (hlast : s.availableClientHandlers.getLast? = some c) (hresult : result ≠ 0) :
      Delivered s c (.listen 0 result b) [.refused]
  | read {nread b} : Delivered s c (.read c nread b) [.read nread b]
  | wrote {address status b x} (hfind : s.owed.find? (·.address == address) = some x)
      (hclient : x.apsclient = c) : Delivered s c (.written address status b) [.wrote status b]
  | responded {address status b x} (hfind : s.owed.find? (·.address == address) = some x)
      (hclient : x.apsclient = c) (hcallback : x.callback = .onUvWriteThenClose) :
      Delivered s c (.written address status b) [.responded]
  | closed {number b} : Delivered s c (.closed c number b) [.closed number b]
  | ticked {timestamp b} : Delivered s c (.tick timestamp b) [.ticked (b c)]
  | nothing (e : Event M) : Delivered s c e []

theorem delivered_written (s : NetworkService M) (c : ClientPtr) (address : Nat) (status : Int)
    (b : Behaviour M) :
    Delivered s c (.written address status b) (s.clientEvents c (.written address status b)) := by
  cases hfind : s.owed.find? (·.address == address) with
  | none =>
      simp only [clientEvents, hfind]
      exact .nothing _
  | some x =>
      by_cases hc : x.apsclient = c
      · cases hcallback : x.callback with
        | onUvWrite =>
            simp only [clientEvents, hfind, hc, if_true, hcallback]
            exact .wrote hfind hc
        | onUvWriteThenClose =>
            simp only [clientEvents, hfind, hc, if_true, hcallback]
            exact .responded hfind hc hcallback
      · simp only [clientEvents, hfind, hc, if_false]
        exact .nothing _

theorem delivered_listen (s : NetworkService M) (c : ClientPtr) (status result : Int)
    (b : AcceptBehaviour M) :
    Delivered s c (.listen status result b) (s.clientEvents c (.listen status result b)) := by
  unfold clientEvents
  by_cases hc : status = 0 ∧ s.availableClientHandlers.getLast? = some c
  · obtain ⟨rfl, hlast⟩ := hc
    simp only [hlast, and_self, if_true]
    by_cases hresult : result = 0
    · subst hresult
      exact .taken hlast
    · rw [if_neg hresult]
      exact .refused hlast hresult
  · simp only [if_neg hc]
    exact .nothing _

theorem delivered (s : NetworkService M) (c : ClientPtr) (e : Event M) :
    Delivered s c e (s.clientEvents c e) := by
  cases e with
  | listen status result b => exact delivered_listen s c status result b
  | read client nread b =>
      by_cases hc : client = c
      · subst hc
        simp only [clientEvents, if_true]
        exact .read
      · simp only [clientEvents, if_neg hc]
        exact .nothing _
  | written address status b => exact delivered_written s c address status b
  | closed client number b =>
      by_cases hc : client = c
      · subst hc
        simp only [clientEvents, if_true]
        exact .closed
      · simp only [clientEvents, if_neg hc]
        exact .nothing _
  | tick timestamp b =>
      by_cases hc : c ∈ s.activeClientHandlers
      · simp only [clientEvents, if_pos hc]
        exact .ticked
      · simp only [clientEvents, if_neg hc]
        exact .nothing _
  | removeApsClient client => exact .nothing _

/-- Only the end of its input and the completion of its close take a handler back. -/
theorem active_step (hlegal : Legal s e) (hc : c ∈ s.activeClientHandlers) :
    c ∈ (s.step e).activeClientHandlers ∨ (∃ nread b, e = .read c nread b ∧ nread ≤ 0) ∨
      ∃ number b, e = .closed c number b := by
  obtain ⟨u, hu, hsends⟩ := step_outline s e
  rw [hsends.active]
  cases hu with
  | taken hlast => exact Or.inl (List.mem_append_left _ hc)
  | refused hlast hresult => exact Or.inl ((refused_active s _ hresult).symm ▸ hc)
  | @ended client nread b hnread =>
      by_cases hclient : c = client
      · exact Or.inr (Or.inl ⟨nread, b, by rw [hclient], hnread⟩)
      · exact Or.inl (mem_removeApsClient_of_ne hclient hc)
  | wroteThenClosed hfind hcloses => exact Or.inl ((uvClose_active _ _ _).symm ▸ hc)
  | @closed client number b hcallback =>
      by_cases hclient : c = client
      · exact Or.inr (Or.inr ⟨number, b, by rw [hclient]⟩)
      · exact Or.inl (mem_removeApsClient_of_ne hclient hc)
  | removed => exact hlegal.elim
  | listenFailed hstatus => exact Or.inl hc
  | exhausted hnone => exact Or.inl hc
  | data hnread hreturned => exact Or.inl hc
  | dataRefused hnread hreturned => exact Or.inl hc
  | wrote hfind hcallback hstatus => exact Or.inl hc
  | strayWritten hfind => exact Or.inl hc
  | closedOnly hcallback => exact Or.inl hc
  | ticked => exact Or.inl hc

/-! ### All handlers -/

/-- The standings are those of the handlers of the pool. -/
structure Orderly (maxClients : Int) (s : NetworkService M)
    (standing : Fin maxClients.toNat → Standing) : Prop where
  sound : Sound maxClients s
  live : s.aborted = false
  fits : ∀ c, (standing c).Fits (s.connections c)
  active : ∀ c, (standing c).Active → (c : ClientPtr) ∈ s.activeClientHandlers

variable {standing standing' : Fin maxClients.toNat → Standing}

theorem foldlM_one (p : Standing) (i : ClientEvent M) : [i].foldlM Standing.next p = p.next i :=
  bind_pure _

/-- The handle of a handler is open exactly while it serves. -/
theorem isOpen_iff_serving (h : p.Fits (s.connections c)) : s.isOpen c = true ↔ p = serving := by
  rw [isOpen_iff]
  constructor
  · rintro ⟨k, hhead, hphase⟩
    have hcurrent := h.current_eq (List.mem_of_head? hhead) (by rw [hphase]; decide)
    rw [hphase] at hcurrent
    exact eq_serving hcurrent
  · rintro rfl
    obtain ⟨k, earlier, hconnections, hphase, -⟩ := h.cons rfl
    exact ⟨k, by rw [hconnections]; rfl, hphase⟩

theorem Orderly.safe (h : Orderly maxClients s standing) : Safe s where
  live := h.live
  returned := fun c hc k hk hopen => by
    have hlt : c < maxClients.toNat :=
      List.mem_range.mp (h.sound.pool.mem_all.mpr (Or.inr hc))
    have hcurrent := (h.fits ⟨c, hlt⟩).current_eq hk (by rw [hopen]; decide)
    rw [hopen] at hcurrent
    have hactive := h.active ⟨c, hlt⟩ (Or.inl (eq_serving hcurrent))
    exact h.sound.pool.not_mem_available hactive hc
  earlier := fun c k hk => by
    have hmem := h.sound.hosted c fun hnil => by
      rw [hnil] at hk
      cases hk
    exact (h.fits ⟨c, List.mem_range.mp hmem⟩).tail k hk

/-- A safe process is not doomed. -/
theorem Safe.not_doomed (h : Safe s) : ¬ Doomed s := by
  rintro ⟨c, k, hk, hclosing⟩
  rw [h.earlier c k hk] at hclosing
  cases hclosing

/-- The handler of a write is one of the pool. -/
theorem Sound.lt_of_owed (hsound : Sound maxClients s) {x : UvWriteContext} (hx : x ∈ s.owed) :
    x.apsclient < maxClients.toNat := by
  refine List.mem_range.mp (hsound.hosted _ fun hnil => ?_)
  have hmade := hsound.made x hx
  rw [hnil] at hmade
  cases hmade

/-- What the one event of a callback for a handler does to it is all the callback does to it. -/
theorem clients_step (hsound : Sound maxClients s) (hlegal : Legal s e) :
    (s.step e).clients c = ((ApsClient.alone M).reacts (s.clients c) (s.clientEvents c e)).1 :=
  (congrArg Prod.fst (faithful_step (c := c) hsound hlegal)).symm

theorem fits_delivered {inputs : List (ClientEvent M)} (hlegal : Legal s e)
    (h : p.Fits (s.connections c)) (hdelivered : Delivered s c e inputs)
    (hnext : inputs.foldlM Standing.next p = some p') :
    p'.Fits ((ApsClient.alone M).reacts (s.clients c) inputs).1.connections := by
  have hone : ∀ i : ClientEvent M, i.Possible (s.clients c) →
      [i].foldlM Standing.next p = some p' →
        p'.Fits ((ApsClient.alone M).reacts (s.clients c) [i]).1.connections := by
    intro i hpossible hnext
    rw [foldlM_one] at hnext
    exact h.next hpossible hnext
  cases hdelivered with
  | closed => exact hone _ hlegal.2.1 hnext
  | nothing =>
      cases hnext
      exact h
  | taken hlast => exact hone _ trivial hnext
  | refused hlast hresult => exact hone _ trivial hnext
  | read => exact hone _ trivial hnext
  | wrote hfind hclient => exact hone _ trivial hnext
  | responded hfind hclient hcallback => exact hone _ trivial hnext
  | ticked => exact hone _ trivial hnext

theorem active_of_next (hlegal : Legal s e) (hactive : p.Active → c ∈ s.activeClientHandlers)
    (hnext : (s.clientEvents c e).foldlM Standing.next p = some p') (hp' : p'.Active) :
    c ∈ (s.step e).activeClientHandlers := by
  by_cases hp : p.Active
  · rcases active_step hlegal (hactive hp) with hc | ⟨nread, b, rfl, hnread⟩ | ⟨number, b, rfl⟩
    · exact hc
    · rw [show s.clientEvents c (.read c nread b) = [.read nread b] from if_pos rfl, foldlM_one,
        Standing.next, if_pos hnread] at hnext
      cases hnext
    · rw [show s.clientEvents c (.closed c number b) = [.closed number b] from if_pos rfl,
        foldlM_one] at hnext
      obtain ⟨-, h⟩ := Option.ite_none_right_eq_some.mp hnext
      cases h
      rcases hp' with hp' | hp' <;> cases hp'
  · have hdelivered := delivered s c e
    generalize s.clientEvents c e = inputs at hdelivered hnext
    have hone : ∀ i : ClientEvent M, [i].foldlM Standing.next p = some p' → ∃ b, i = .taken b :=
      fun i h => taken_of_active (foldlM_one p i ▸ h) hp hp'
    cases hdelivered with
    | taken hlast =>
        rw [(step_taken hlast).active]
        exact List.mem_append_right _ (List.mem_singleton_self c)
    | nothing =>
        cases hnext
        exact absurd hp' hp
    | refused hlast hresult => exact nomatch hone _ hnext
    | read => exact nomatch hone _ hnext
    | wrote hfind hclient => exact nomatch hone _ hnext
    | responded hfind hclient hcallback => exact nomatch hone _ hnext
    | closed => exact nomatch hone _ hnext
    | ticked => exact nomatch hone _ hnext

/-- What closes a handle that is not open, is an event its handler refuses. -/
theorem refused_of_closesShut (hcloses : ClosesShut s e) :
    ∃ x ∈ s.owed, s.isOpen x.apsclient = false ∧
      ∀ p : Standing, p ≠ serving → (s.clientEvents x.apsclient e).foldlM Standing.next p = none := by
  cases e with
  | written address status b =>
      obtain ⟨x, hfind, hkind, hshut⟩ := hcloses
      refine ⟨x, List.mem_of_find?_eq_some hfind, hshut, fun p hp => ?_⟩
      cases hcallback : x.callback with
      | onUvWrite =>
          have hstatus : status < 0 := hkind.resolve_left (by rw [hcallback]; decide)
          simp only [clientEvents, hfind, if_true, hcallback, foldlM_one, Standing.next, hstatus, hp,
            if_false]
      | onUvWriteThenClose =>
          simp only [clientEvents, hfind, if_true, hcallback, foldlM_one, Standing.next, hp, if_false]
  | listen status result b => exact hcloses.elim
  | read client nread b => exact hcloses.elim
  | closed client number b => exact hcloses.elim
  | tick timestamp b => exact hcloses.elim
  | removeApsClient client => exact hcloses.elim

theorem Orderly.step (h : Orderly maxClients s standing) (hlegal : Legal s e)
    (hnext : ∀ c : Fin maxClients.toNat,
      (s.clientEvents c e).foldlM Standing.next (standing c) = some (standing' c)) :
    Orderly maxClients (s.step e) standing' where
  sound := h.sound.step hlegal
  live := by
    by_contra hdead
    have haborted := (aborted_step hlegal).mp (eq_true_of_ne_false hdead)
    obtain ⟨x, hx, hshut, hrefused⟩ := refused_of_closesShut
      (haborted.resolve_right fun hagain => h.safe.not_doomed hagain.doomed)
    let c : Fin maxClients.toNat := ⟨x.apsclient, h.sound.lt_of_owed hx⟩
    have hserving : standing c ≠ serving := fun hserving => by
      have hopen := (isOpen_iff_serving (h.fits c)).mpr hserving
      rw [hshut] at hopen
      cases hopen
    cases (hrefused _ hserving).symm.trans (hnext c)
  fits := fun c => by
    unfold connections
    rw [clients_step h.sound hlegal]
    exact fits_delivered hlegal (h.fits c) (delivered s c e) (hnext c)
  active := fun c hp' => active_of_next hlegal (h.active c) (hnext c) hp'

/-! ### Refused events -/

/-- A handler that hosts one more connection was free, if its earlier handles are closed now. -/
theorem eq_free_of_hosts (h : p.Fits (s.connections c)) {k : Connection}
    (hconnections : t.connections c = k :: s.connections c) (hsafe : Safe t) : p = free := by
  have hearlier := hsafe.earlier c
  rw [hconnections, List.tail_cons] at hearlier
  exact h.eq_free hearlier

/-- Without an open handle there is nothing to close. -/
theorem serving_of_survives (hlegal : Legal s e) (h : p.Fits (s.connections c))
    (hcloses : s.isOpen c = false → ClosesShut s e) (hsafe : Safe (s.step e)) : p = serving := by
  by_contra hp
  have hshut : s.isOpen c = false := by
    rw [Bool.eq_false_iff]
    exact fun hopen => hp ((isOpen_iff_serving h).mp hopen)
  have haborted := (aborted_step hlegal).mpr (Or.inl (hcloses hshut))
  rw [hsafe.live] at haborted
  cases haborted

/-- At the end of its input the handler goes back with its handle open. -/
theorem not_safe_ended {nread : Int} {b : ReadBehaviour M} (hlegal : Legal s (.read c nread b)) (hnread : nread ≤ 0)
    (hactive : c ∈ s.activeClientHandlers) : ¬ Safe (s.step (.read c nread b)) := by
  intro hsafe
  obtain ⟨k, hhead, hphase⟩ := isOpen_iff.mp (isOpen_of_isReadable hlegal.2)
  have hended := step_ended (s := s) (c := c) (b := b) hnread
  have hconnections := hended.connections c
  rw [connections_removeApsClient, connections_notify] at hconnections
  rw [removeApsClient_of_mem (s := notify s c _) hactive] at hended
  refine hsafe.returned c ?_ k ?_ hphase
  · rw [hended.available]
    exact List.mem_append_right _ (List.mem_singleton_self c)
  · rw [hconnections]
    exact List.mem_of_head? hhead

theorem Orderly.allowed (h : Orderly maxClients s standing) (hlegal : Legal s e)
    (hsafe : Safe (s.step e)) (c : Fin maxClients.toNat) :
    ((s.clientEvents c e).foldlM Standing.next (standing c)).isSome = true := by
  have hfits := h.fits c
  have hdelivered := delivered s c e
  have hstate := clients_step (c := c) h.sound hlegal
  generalize s.clientEvents c e = inputs at hdelivered hstate ⊢
  have hhosts := congrArg ApsClient.connections hstate
  cases hdelivered with
  | taken hlast =>
      rw [foldlM_one, Standing.next, if_pos (eq_free_of_hosts hfits hhosts hsafe)]
      rfl
  | refused hlast hresult =>
      rw [foldlM_one, Standing.next, if_pos (eq_free_of_hosts hfits hhosts hsafe)]
      rfl
  | @read nread b =>
      have hserving := (isOpen_iff_serving hfits).mp (isOpen_of_isReadable hlegal.2)
      have hnread : ¬ nread ≤ 0 := fun hnread =>
        not_safe_ended hlegal hnread (h.active c (Or.inl hserving)) hsafe
      rw [foldlM_one, Standing.next, if_neg hnread]
      rfl
  | @wrote address status b x hfind hclient =>
      rw [foldlM_one, Standing.next]
      split
      · rename_i hstatus
        rw [if_pos (serving_of_survives hlegal hfits (fun hshut => ?_) hsafe)]
        · rfl
        · exact ⟨x, hfind, Or.inr hstatus, hclient ▸ hshut⟩
      · rfl
  | @responded address status b x hfind hclient hcallback =>
      rw [foldlM_one, Standing.next,
        if_pos (serving_of_survives hlegal hfits (fun hshut => ?_) hsafe)]
      · rfl
      · exact ⟨x, hfind, Or.inl hcallback, hclient ▸ hshut⟩
  | closed =>
      obtain ⟨k, hk, -, hphase⟩ := hlegal.2.1
      have hcurrent := hfits.current_eq hk (by rw [hphase]; decide)
      rw [hphase] at hcurrent
      rw [foldlM_one, Standing.next, if_pos]
      · rfl
      · cases hstanding : standing c with
        | closing => exact Or.inl rfl
        | refusing => exact Or.inr rfl
        | free => rw [hstanding] at hcurrent; cases hcurrent
        | serving => rw [hstanding] at hcurrent; cases hcurrent
  | ticked => rfl
  | nothing => rfl

/-! ### Runs -/

theorem constructed_orderly (maxClients : Int) :
    Orderly maxClients (constructed M maxClients) fun _ => free where
  sound := constructed_sound maxClients
  live := rfl
  fits := fun _ => ⟨0, rfl⟩
  active := fun _ h => by
    rcases h with h | h <;> cases h

/-- **One client at a time.** In every state of a legal run the process survives, the handlers of the pool
have no open handle and no handle is used anew before it is closed, exactly when each handler on its own
meets no event its standing refuses. -/
theorem safe_iff (maxClients : Int) (events : List (Event M))
    (hlegal : (service M).Legal (constructed M maxClients) events) :
    (service M).Visits Safe (constructed M maxClients) events ↔
      ∀ c : Fin maxClients.toNat,
        (((handler M c).runInputs (constructed M maxClients) events).foldlM Standing.next free).isSome =
          true := by
  refine View.visits_iff_monitored (V := fun c : Fin maxClients.toNat => handler M c)
    (J := Orderly maxClients) (fun s standing h => h.safe) ?_ ?_ (constructed_orderly maxClients) hlegal
  · exact fun s e standing standing' h hlegal hnext => h.step hlegal hnext
  · exact fun s e standing h hlegal hsafe => h.allowed hlegal hsafe

/-- Two clients at once; the response of one completes, the data of the other cannot be delivered. -/
def twoClients : List (Event .plain) :=
  [.listen 0 0 (.silent _), .listen 0 0 (.silent _),
    .read 1 18 ⟨⟨[.onIncomingHttpRequest ⟨.get, ⟨"/index.html"⟩⟩ true], id⟩, 18, .silent _, .silent _⟩,
    .read 0 5 ⟨⟨[.sendTcpData [1] true], id⟩, 5, .silent _, .silent _⟩,
    .written 1 (-32) (.silent _), .written 0 0 (.silent _), .closed 0 0 (.silent _),
    .closed 1 0 (.silent _)]

theorem safe_iff_twoClients :
    (service .plain).Visits Safe (constructed .plain 2) twoClients :=
  (safe_iff 2 twoClients (by decide +kernel)).mpr (by decide +kernel)

end NetworkService

end AvdeccProxy
