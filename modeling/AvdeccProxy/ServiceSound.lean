import AvdeccProxy.ClientPool

/-! What holds in every state the service can reach under libuv's promises, whether or not the code
keeps its own: connections are numbered, only handlers of the pool host them, a handle is open until its
first `uv_close`, and the contexts made are the ones on the heap and the ones deleted. -/

namespace AvdeccProxy

namespace NetworkService

open ResourcePool ApsClient

variable {M : Mcu} {A : ClientPtr → Prop} {s t u : NetworkService M} {e : Event M}
  {c d : ClientPtr} {maxClients : Int}

structure Sound (maxClients : Int) (s : NetworkService M) : Prop where
  pool : PoolConserved maxClients s
  /-- The connections of a handler are numbered in the order they came, the latest first. -/
  numbered : ∀ c, (s.connections c).map (·.number) = (List.range (s.connections c).length).reverse
  /-- Only the handlers of the pool host connections. -/
  hosted : ∀ c, s.connections c ≠ [] → c ∈ List.range maxClients.toNat
  served : ∀ c ∈ s.activeClientHandlers, s.connections c ≠ []
  opened : ∀ c, ∀ k ∈ s.connections c, k.phase = .opened ↔ k.closeCalls = 0
  owedTaken : OwedTaken s
  /-- Every address was allocated once, and is on the heap or was deleted, once. -/
  ledger : Conserved (List.range s.nextAddress) (s.heap.map (·.address)) s.deleted
  made : ∀ x ∈ s.owed, x.connection < (s.connections x.apsclient).length
  responded : ∀ r ∈ s.responded, r.2 < (s.connections r.1).length
  recorded : ResponsesRecorded s

namespace Sound

/-! ### Consequences -/

theorem nodup_numbers (h : Sound maxClients s) (c : ClientPtr) :
    ((s.connections c).map (·.number)).Nodup := by
  rw [h.numbered, List.nodup_reverse]
  exact List.nodup_range

theorem eq_of_number (h : Sound maxClients s) {k k' : Connection} (hk : k ∈ s.connections c)
    (hk' : k' ∈ s.connections c) (heq : k.number = k'.number) : k = k' :=
  List.inj_on_of_nodup_map (h.nodup_numbers c) hk hk' heq

theorem head_number (h : Sound maxClients s) {k : Connection} {earlier : List Connection}
    (hconnections : s.connections c = k :: earlier) : k.number = earlier.length := by
  have hnumbered := h.numbered c
  rw [hconnections, List.length_cons, List.range_succ, List.reverse_append] at hnumbered
  exact (List.cons.inj hnumbered).1

theorem currentNumber_lt (h : Sound maxClients s) (hc : s.connections c ≠ []) :
    s.currentNumber c < (s.connections c).length := by
  cases hconnections : s.connections c with
  | nil => exact absurd hconnections hc
  | cons k earlier =>
      rw [currentNumber_of_head hconnections, h.head_number hconnections]
      exact Nat.lt_succ_self _

theorem earlier_number_lt (h : Sound maxClients s) {k k' : Connection} {earlier : List Connection}
    (hconnections : s.connections c = k :: earlier) (hk' : k' ∈ earlier) :
    k'.number < s.currentNumber c := by
  have hnumbered := h.numbered c
  rw [hconnections, List.length_cons, List.range_succ, List.reverse_append] at hnumbered
  have hmem : k'.number ∈ earlier.map (·.number) := List.mem_map_of_mem hk'
  have hearlier : earlier.map (·.number) = (List.range earlier.length).reverse :=
    (List.cons.inj hnumbered).2
  rw [hearlier, List.mem_reverse, List.mem_range] at hmem
  rw [currentNumber_of_head hconnections, h.head_number hconnections]
  exact hmem

theorem nodup_heap (h : Sound maxClients s) : (s.heap.map (·.address)).Nodup :=
  h.ledger.used_nodup List.nodup_range

theorem owed_heap (h : Sound maxClients s) : s.owed.Sublist s.heap := by
  rw [h.owedTaken]
  exact List.filter_sublist

theorem nodup_owed (h : Sound maxClients s) : (s.owed.map (·.address)).Nodup :=
  h.nodup_heap.sublist (h.owed_heap.map _)

/-- Addresses tell the writes owed apart. -/
theorem find_owed (h : Sound maxClients s) {x : UvWriteContext} (hx : x ∈ s.owed) :
    s.owed.find? (·.address == x.address) = some x := by
  cases hfind : s.owed.find? (·.address == x.address) with
  | none =>
      have hnone := List.find?_eq_none.mp hfind x hx
      simp at hnone
  | some y =>
      have hy : y ∈ s.owed := List.mem_of_find?_eq_some hfind
      have haddress : y.address = x.address := by simpa using List.find?_some hfind
      rw [List.inj_on_of_nodup_map h.nodup_owed hy hx haddress]

theorem mem_pool (h : Sound maxClients s) (hc : s.connections c ≠ []) :
    c ∈ s.activeClientHandlers ∨ c ∈ s.availableClientHandlers :=
  h.pool.mem_all.mp (h.hosted c hc)

/-! ### What keeps it -/

/-- A change of handles that keeps their numbers. -/
theorem relabel (h : Sound maxClients s) (hpool : PoolConserved maxClients t)
    (hactive : ∀ c ∈ t.activeClientHandlers, c ∈ s.activeClientHandlers)
    (howed : t.owed = s.owed) (hheap : t.heap = s.heap) (hnext : t.nextAddress = s.nextAddress)
    (hdeleted : t.deleted = s.deleted) (hresponded : t.responded = s.responded)
    (hnumber : ∀ c, (t.connections c).map (·.number) = (s.connections c).map (·.number))
    (hopened : ∀ c, ∀ k ∈ t.connections c, k.phase = .opened ↔ k.closeCalls = 0) :
    Sound maxClients t := by
  have hlength : ∀ c, (t.connections c).length = (s.connections c).length := fun c => by
    have := congrArg List.length (hnumber c)
    rwa [List.length_map, List.length_map] at this
  have hempty : ∀ c, t.connections c = [] ↔ s.connections c = [] := fun c => by
    rw [← List.length_eq_zero_iff, hlength, List.length_eq_zero_iff]
  exact {
    pool := hpool
    numbered := fun c => by rw [hnumber, hlength]; exact h.numbered c
    hosted := fun c hc => h.hosted c fun hnil => hc ((hempty c).mpr hnil)
    served := fun c hc hnil => h.served c (hactive c hc) ((hempty c).mp hnil)
    opened := hopened
    owedTaken := by unfold OwedTaken; rw [howed, hheap]; exact h.owedTaken
    ledger := by rw [hnext, hheap, hdeleted]; exact h.ledger
    made := fun x hx => by rw [hlength]; exact h.made x (howed ▸ hx)
    responded := fun r hr => by rw [hlength]; exact h.responded r (hresponded ▸ hr)
    recorded := by unfold ResponsesRecorded; rw [howed, hresponded]; exact h.recorded }

theorem notify (h : Sound maxClients s) (c : ClientPtr) (n : Notification) :
    Sound maxClients (notify s c n) :=
  h.relabel h.pool (fun _ hc => hc) rfl rfl rfl rfl rfl
    (fun d => by rw [connections_notify]) fun d => by rw [connections_notify]; exact h.opened d

theorem removeApsClient (h : Sound maxClients s) (c : ClientPtr) :
    Sound maxClients (s.removeApsClient c) := by
  exact h.relabel (h.pool.removeApsClient c) (fun _ hd => mem_of_mem_removeApsClient s c hd)
    (by simp) (by simp) (by simp) (by simp) (by simp) (fun d => by simp)
    fun d => by simpa using h.opened d

theorem uvClose (h : Sound maxClients s) (c : ClientPtr) (callback : Bool) :
    Sound maxClients (s.uvClose c callback) := by
  refine h.relabel ?_ ?_ (by simp) (by simp) (by simp) (by simp) (by simp) (fun d => ?_) fun d => ?_
  · unfold PoolConserved
    rw [uvClose_active, uvClose_available]
    exact h.pool
  · intro d hd
    rw [uvClose_active] at hd
    exact hd
  · by_cases hd : d = c
    · rw [hd, connections_uvClose_self]
      cases s.connections c with
      | nil => rfl
      | cons k earlier =>
          rw [List.modifyHead_cons, List.map_cons, List.map_cons, closeRequested_number]
    · rw [connections_uvClose_of_ne s c callback hd]
  · by_cases hd : d = c
    · rw [hd, connections_uvClose_self]
      have hopened := h.opened c
      cases hconnections : s.connections c with
      | nil => simp
      | cons k earlier =>
          rw [hconnections] at hopened
          rw [List.modifyHead_cons]
          intro k' hk'
          rcases List.mem_cons.mp hk' with rfl | hk'
          · rw [closeRequested_closeCalls]
            exact iff_of_false (closeRequested_phase callback k) (Nat.succ_ne_zero _)
          · exact hopened k' (List.mem_cons_of_mem k hk')
    · rw [connections_uvClose_of_ne s c callback hd]
      exact h.opened d

/-- libuv closes a handle whose close was requested. -/
theorem uvClosed (h : Sound maxClients s) {number : Nat}
    (hclosing : ∃ k ∈ s.connections c, k.number = number ∧ k.phase = .closing) :
    Sound maxClients (s.uvClosed c number) := by
  obtain ⟨k, hk, hnumber, hphase⟩ := hclosing
  refine h.relabel h.pool (fun _ hd => hd) rfl rfl rfl rfl rfl (fun d => ?_) fun d => ?_
  · by_cases hd : d = c
    · rw [hd, connections_uvClosed_self, List.map_map]
      exact List.map_congr_left fun k _ => closedAs_number number k
    · rw [connections_uvClosed_of_ne s c number hd]
  · by_cases hd : d = c
    swap
    · rw [connections_uvClosed_of_ne s c number hd]
      exact h.opened d
    rw [hd, connections_uvClosed_self]
    intro k' hk'
    obtain ⟨k'', hk'', rfl⟩ := List.mem_map.mp hk'
    unfold closedAs
    by_cases hsame : k''.number = number
    · have heq : k'' = k := h.eq_of_number hk'' hk (hsame.trans hnumber.symm)
      have hcalls : ¬ k''.closeCalls = 0 := by
        rw [← h.opened c k'' hk'', heq, hphase]
        simp
      rw [if_pos hsame]
      simp [hcalls]
    · rw [if_neg hsame]
      exact h.opened c k'' hk''

theorem completed (h : Sound maxClients s) {x : UvWriteContext} (hx : x ∈ s.owed) :
    Sound maxClients (s.completed x) :=
  { h with
    pool := h.pool
    owedTaken := by
      show s.owed.erase x = (s.heap.erase x).filter (·.taken)
      rw [h.owedTaken, List.erase_filter]
    ledger := by
      have hheap : (s.heap.map (·.address)).Perm (x.address :: (s.heap.erase x).map (·.address)) :=
        (List.perm_cons_erase (h.owed_heap.subset hx)).map _
      exact h.ledger.give_of_perm hheap
    made := fun y hy => h.made y (List.mem_of_mem_erase hy)
    recorded := fun y hy => h.recorded y (List.mem_of_mem_erase hy) }

/-- A handler of the pool hosts one more connection. -/
theorem host (h : Sound maxClients s) {aps : ClientPtr} {k : Connection}
    (haps : aps ∈ List.range maxClients.toNat) (hpool : PoolConserved maxClients t)
    (hactive : ∀ c ∈ t.activeClientHandlers, c ∈ s.activeClientHandlers ∨ c = aps)
    (howed : t.owed = s.owed) (hheap : t.heap = s.heap) (hnext : t.nextAddress = s.nextAddress)
    (hdeleted : t.deleted = s.deleted) (hresponded : t.responded = s.responded)
    (hself : t.connections aps = k :: s.connections aps)
    (hothers : ∀ d, d ≠ aps → t.connections d = s.connections d)
    (hnumber : k.number = (s.connections aps).length)
    (hopened : k.phase = .opened ↔ k.closeCalls = 0) : Sound maxClients t := by
  have hlength : ∀ c, (s.connections c).length ≤ (t.connections c).length := fun c => by
    by_cases hc : c = aps
    · rw [hc, hself]
      exact Nat.le_succ _
    · exact Nat.le_of_eq (congrArg List.length (hothers c hc).symm)
  exact {
    pool := hpool
    numbered := fun c => by
      by_cases hc : c = aps
      · rw [hc, hself, List.map_cons, h.numbered, hnumber, List.length_cons, List.range_succ,
          List.reverse_append]
        rfl
      · rw [hothers c hc]
        exact h.numbered c
    hosted := fun c hconnections => by
      by_cases hc : c = aps
      · rw [hc]
        exact haps
      · rw [hothers c hc] at hconnections
        exact h.hosted c hconnections
    served := fun c hc => by
      by_cases heq : c = aps
      · rw [heq, hself]
        exact List.cons_ne_nil _ _
      · rw [hothers c heq]
        exact h.served c ((hactive c hc).resolve_right heq)
    opened := fun c => by
      by_cases hc : c = aps
      · rw [hc, hself]
        exact List.forall_mem_cons.mpr ⟨hopened, h.opened aps⟩
      · rw [hothers c hc]
        exact h.opened c
    owedTaken := by unfold OwedTaken; rw [howed, hheap]; exact h.owedTaken
    ledger := by rw [hnext, hheap, hdeleted]; exact h.ledger
    made := fun x hx => Nat.lt_of_lt_of_le (h.made x (howed ▸ hx)) (hlength _)
    responded := fun r hr => Nat.lt_of_lt_of_le (h.responded r (hresponded ▸ hr)) (hlength _)
    recorded := by unfold ResponsesRecorded; rw [howed, hresponded]; exact h.recorded }

/-- Writes made for handlers that host a connection. -/
theorem sends (h : Sound maxClients s) (hsends : Sends A s t)
    (hA : ∀ c, A c → s.connections c ≠ []) : Sound maxClients t where
  pool := h.pool.sends hsends
  numbered := fun c => by rw [hsends.connections]; exact h.numbered c
  hosted := fun c hc => h.hosted c (hsends.connections c ▸ hc)
  served := fun c hc => by rw [hsends.connections]; exact h.served c (hsends.active ▸ hc)
  opened := fun c => by rw [hsends.connections]; exact h.opened c
  owedTaken := hsends.owedTaken h.owedTaken
  ledger := by
    obtain ⟨written, hheap, haddress, hnext⟩ := hsends.heap
    rw [hheap, hnext, hsends.deleted, List.map_append, haddress, List.range_eq_range',
      ← List.range'_append_1, ← List.range_eq_range', Nat.zero_add]
    exact h.ledger.grow _
  made := fun x hx => by
    rw [hsends.connections]
    rcases hsends.of_mem_owed hx with hx | ⟨hx, hnumber, -⟩
    · exact h.made x hx
    · rw [hnumber]
      exact h.currentNumber_lt (hA _ hx)
  responded := fun r hr => by
    obtain ⟨answered, hresponded, hanswered⟩ := hsends.responded
    rw [hresponded] at hr
    rw [hsends.connections]
    rcases List.mem_append.mp hr with hr | hr
    · exact h.responded r hr
    · obtain ⟨hr, hnumber, -⟩ := hanswered r hr
      rw [hnumber]
      exact h.currentNumber_lt (hA _ hr)
  recorded := hsends.recorded h.recorded

end Sound

/-! ### Every legal step -/

theorem connections_ne_nil_of_isReadable (h : s.isReadable c = true) : s.connections c ≠ [] := by
  obtain ⟨k, hhead, -⟩ := isReadable_iff.mp h
  exact List.ne_nil_of_mem (List.mem_of_head? hhead)

theorem Sound.outline (h : Sound maxClients s) (hlegal : Legal s e) (hu : Outline s e u) :
    Sound maxClients u := by
  have haps : ∀ {aps}, s.availableClientHandlers.getLast? = some aps →
      aps ∈ List.range maxClients.toNat := fun hlast =>
    h.pool.mem_all.mpr (Or.inr (List.mem_of_getLast? hlast))
  cases hu with
  | listenFailed hstatus => exact h
  | exhausted hnone =>
      exact h.relabel h.pool (fun _ hc => hc) rfl rfl rfl rfl rfl (fun _ => rfl) h.opened
  | @taken b aps hlast =>
      refine h.host (haps hlast) (h.pool.outline (.taken (b := b) hlast)) (fun c hc => ?_)
        rfl rfl rfl rfl rfl (connections_taken_self s aps)
        (fun d hd => connections_taken_of_ne s aps hd) rfl (by simp)
      rcases List.mem_append.mp hc with hc | hc
      · exact Or.inl hc
      · exact Or.inr (List.mem_singleton.mp hc)
  | @refused result b aps hlast hresult =>
      refine h.host (haps hlast) (h.pool.outline (.refused (b := b) hlast hresult)) (fun c hc => ?_)
        (refused_owed s aps hresult) (refused_heap s aps hresult) (refused_nextAddress s aps hresult)
        (refused_deleted s aps hresult) (refused_responded s aps hresult)
        (connections_refused_self s aps hresult)
        (fun d hd => connections_refused_of_ne s aps hresult hd) rfl (by simp)
      rw [refused_active s aps hresult] at hc
      exact Or.inl hc
  | ended hnread => exact (h.notify _ _).removeApsClient _
  | data hnread hreturned => exact h.notify _ _
  | dataRefused hnread hreturned => exact (h.notify _ _).notify _ _
  | wrote hfind hcallback hstatus => exact h.completed (List.mem_of_find?_eq_some hfind)
  | wroteThenClosed hfind hcloses =>
      exact (h.completed (List.mem_of_find?_eq_some hfind)).uvClose _ _
  | strayWritten hfind => exact h
  | closedOnly hcallback => exact h.uvClosed hlegal.2.1
  | closed hcallback => exact (h.uvClosed hlegal.2.1).removeApsClient _
  | ticked => exact h
  | removed => exact h.removeApsClient _

/-- Connections do not go away. -/
theorem Outline.connections_ne_nil (hu : Outline s e u) (hd : s.connections d ≠ []) :
    u.connections d ≠ [] := by
  cases hu with
  | listenFailed hstatus => exact hd
  | exhausted hnone => exact hd
  | @taken b aps hlast =>
      by_cases hda : d = aps
      · rw [hda, connections_taken_self]
        exact List.cons_ne_nil _ _
      · rw [connections_taken_of_ne s aps hda]
        exact hd
  | @refused result b aps hlast hresult =>
      by_cases hda : d = aps
      · rw [hda, connections_refused_self s aps hresult]
        exact List.cons_ne_nil _ _
      · rw [connections_refused_of_ne s aps hresult hda]
        exact hd
  | ended hnread =>
      rw [connections_removeApsClient, connections_notify]
      exact hd
  | data hnread hreturned =>
      rw [connections_notify]
      exact hd
  | dataRefused hnread hreturned =>
      rw [connections_notify, connections_notify]
      exact hd
  | wrote hfind hcallback hstatus => exact hd
  | @wroteThenClosed address status b x hfind hcloses =>
      by_cases hdx : d = x.apsclient
      · rw [hdx, connections_uvClose_self]
        simpa [hdx] using hd
      · rw [connections_uvClose_of_ne _ _ _ hdx]
        exact hd
  | strayWritten hfind => exact hd
  | @closedOnly client number b hcallback =>
      by_cases hdc : d = client
      · rw [hdc, connections_uvClosed_self]
        simpa [hdc] using hd
      · rw [connections_uvClosed_of_ne s client number hdc]
        exact hd
  | @closed client number b hcallback =>
      rw [connections_removeApsClient]
      by_cases hdc : d = client
      · rw [hdc, connections_uvClosed_self]
        simpa [hdc] using hd
      · rw [connections_uvClosed_of_ne s client number hdc]
        exact hd
  | ticked => exact hd
  | removed =>
      rw [connections_removeApsClient]
      exact hd

/-- The state machines a callback calls have a connection. -/
theorem Sound.callers_connections (h : Sound maxClients s) (hlegal : Legal s e)
    (hu : Outline s e u) (hc : s.callers e c) : u.connections c ≠ [] := by
  cases e with
  | listen status result b =>
      obtain ⟨rfl, rfl, hlast⟩ := hc
      cases hu with
      | listenFailed hstatus => exact absurd rfl hstatus
      | exhausted hnone =>
          rw [hnone] at hlast
          cases hlast
      | taken hlast' =>
          obtain rfl := Option.some.inj (hlast.symm.trans hlast')
          rw [connections_taken_self]
          exact List.cons_ne_nil _ _
      | refused hlast' hresult => exact absurd rfl hresult
  | read client nread b =>
      obtain rfl : c = client := hc
      exact hu.connections_ne_nil (connections_ne_nil_of_isReadable hlegal.2)
  | written address status b =>
      obtain ⟨x, hx, -, rfl⟩ := hc
      exact hu.connections_ne_nil (List.ne_nil_of_length_pos (Nat.zero_lt_of_lt (h.made x hx)))
  | closed client number b =>
      obtain rfl : c = client := hc
      obtain ⟨k, hk, -⟩ := hlegal.2.1
      exact hu.connections_ne_nil (List.ne_nil_of_mem hk)
  | tick timestamp b => exact hu.connections_ne_nil (h.served c hc)
  | removeApsClient client => exact hc.elim

theorem Sound.step (h : Sound maxClients s) (hlegal : Legal s e) :
    Sound maxClients (s.step e) := by
  obtain ⟨u, hu, hsends⟩ := step_outline s e
  exact (h.outline hlegal hu).sends hsends fun _ hc => h.callers_connections hlegal hu hc

theorem constructed_sound (maxClients : Int) : Sound maxClients (constructed M maxClients) where
  pool := constructed_poolConserved maxClients
  numbered := fun _ => rfl
  hosted := fun _ hc => absurd rfl hc
  served := fun _ hc => nomatch hc
  opened := fun _ _ hk => nomatch hk
  owedTaken := rfl
  ledger := List.Perm.refl _
  made := fun _ hx => nomatch hx
  responded := fun _ hr => nomatch hr
  recorded := fun _ hx => nomatch hx

/-- **Soundness.** Every state of a legal run is sound. -/
theorem run_sound {events : List (Event M)}
    (hlegal : (service M).Legal (constructed M maxClients) events) :
    (service M).Visits (Sound maxClients) (constructed M maxClients) events :=
  Transition.Machine.visits_of_preserved (fun _ _ h hlegal => h.step hlegal)
    (constructed_sound maxClients) hlegal

/-- A client asks for a page and gets it, and the proxy closes the connection. -/
def onePageServed : List (Event .plain) :=
  [.listen 0 0 (.silent _),
    .read 0 18 ⟨⟨[.onIncomingHttpRequest ⟨.get, ⟨"/index.html"⟩⟩ true], id⟩, 18, .silent _, .silent _⟩,
    .written 0 0 (.silent _), .closed 0 0 (.silent _)]

theorem onePageServed_legal : (service .plain).Legal (constructed .plain 1) onePageServed := by
  decide +kernel

end NetworkService

end AvdeccProxy
