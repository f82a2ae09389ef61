import AvdeccProxy.ServiceSound

/-! The reuse of handlers. A handler is safe to take again when libuv is done with its old connection. A
close that was asked for always leaves it so; the end of a stream and a refused accept never do. -/

namespace AvdeccProxy

namespace NetworkService

open ResourcePool ApsClient

variable {M : Mcu} {A : ClientPtr → Prop} {s t u : NetworkService M} {e : Event M}
  {c d : ClientPtr} {maxClients : Int}

/-- The handle of the handler was never initialised or is closed, and libuv owes no callback for it. -/
structure HandlerQuiet (s : NetworkService M) (c : ClientPtr) : Prop where
  handle : ∀ k ∈ (s.connections c).head?, k.phase = .closed
  reads : s.isReadable c = false
  writes : ∀ x ∈ s.owed, x.apsclient ≠ c
  closes : ∀ k ∈ s.connections c, k.phase ≠ .closing

def HandlersQuiet (s : NetworkService M) : Prop :=
  ∀ c ∈ s.availableClientHandlers, HandlerQuiet s c

/-- Every write and close callback libuv owes is about the connection its handler hosts now. -/
def CallbacksCurrent (s : NetworkService M) : Prop :=
  (∀ x ∈ s.owed, x.connection = s.currentNumber x.apsclient) ∧
    ∀ c, ∀ k ∈ (s.connections c).tail, k.phase ≠ .closing

def ReuseSafe (s : NetworkService M) : Prop := HandlersQuiet s ∧ CallbacksCurrent s

/-- No accept is refused with a handler at hand, and no stream ends or fails. -/
def ClosedBeforeRelease (s : NetworkService M) : Event M → Prop
  | .listen status result _ => status = 0 → result ≠ 0 → s.availableClientHandlers = []
  | .read _ nread _ => 0 < nread
  | _ => True

/-- The connections before the current one are closed. -/
def EarlierClosed (s : NetworkService M) : Prop :=
  ∀ c, ∀ k ∈ (s.connections c).tail, k.phase = .closed

/-! ### Handles -/

theorem HandlerQuiet.not_isOpen (h : HandlerQuiet s c) : s.isOpen c = false := by
  rw [Bool.eq_false_iff]
  intro hopen
  obtain ⟨k, hhead, hphase⟩ := isOpen_iff.mp hopen
  rw [h.handle k hhead] at hphase
  cases hphase

theorem isReadable_of_closed (h : ∀ k ∈ (s.connections c).head?, k.phase = .closed) :
    s.isReadable c = false := by
  rw [Bool.eq_false_iff]
  intro hreadable
  obtain ⟨k, hhead, hphase⟩ := isOpen_iff.mp (isOpen_of_isReadable hreadable)
  rw [h k hhead] at hphase
  cases hphase

/-- A handler none of whose connections changes stays quiet as long as nothing is sent. -/
theorem HandlerQuiet.congr (h : HandlerQuiet s c) (hconnections : t.connections c = s.connections c)
    (howed : ∀ x ∈ t.owed, x.apsclient = c → x ∈ s.owed) : HandlerQuiet t c where
  handle := by rw [hconnections]; exact h.handle
  reads := by rw [isReadable_congr hconnections]; exact h.reads
  writes := fun x hx hc => h.writes x (howed x hx hc) hc
  closes := by rw [hconnections]; exact h.closes

/-- What a completed close leaves is closed, or as it was and another connection. -/
theorem phase_of_mem_uvClosed {number : Nat} {k : Connection}
    (hk : k ∈ (s.uvClosed c number).connections d) :
    k.phase = .closed ∨
      ∃ k' ∈ s.connections d, (d = c → k'.number ≠ number) ∧ k.phase = k'.phase := by
  by_cases hd : d = c
  · rw [hd, connections_uvClosed_self] at hk
    obtain ⟨k', hk', rfl⟩ := List.mem_map.mp hk
    rcases closedAs_phase number k' with hclosed | ⟨hnumber, hphase⟩
    · exact Or.inl hclosed
    · exact Or.inr ⟨k', hd ▸ hk', fun _ => hnumber, hphase⟩
  · rw [connections_uvClosed_of_ne s c number hd] at hk
    exact Or.inr ⟨k, hk, fun h => absurd h hd, rfl⟩

/-! ### One callback -/

theorem reuseSafe_sends (hsends : Sends A u t) : ReuseSafe t ↔ ReuseSafe u := by
  constructor
  · rintro ⟨hquiet, howed, hclosing⟩
    refine ⟨fun c hc => ?_, fun x hx => ?_, fun c => ?_⟩
    · exact (hquiet c (hsends.available ▸ hc)).congr (hsends.connections c).symm
        fun x hx _ => hsends.mem_owed hx
    · rw [← hsends.currentNumber]
      exact howed x (hsends.mem_owed hx)
    · rw [← hsends.connections]
      exact hclosing c
  · rintro ⟨hquiet, howed, hclosing⟩
    refine ⟨fun c hc => ?_, fun x hx => ?_, fun c => ?_⟩
    · have hc' := hquiet c (hsends.available ▸ hc)
      refine hc'.congr (hsends.connections c) fun x hx hxc => ?_
      -- a write is taken for an open handle only, and that of `c` is not
      refine (hsends.of_mem_owed hx).resolve_right fun hnew => ?_
      rw [hxc, hc'.not_isOpen] at hnew
      exact Bool.false_ne_true hnew.2.2
    · rw [hsends.currentNumber]
      rcases hsends.of_mem_owed hx with hx | ⟨-, hnumber, -⟩
      · exact howed x hx
      · exact hnumber
    · rw [hsends.connections]
      exact hclosing c

/-- Fewer writes owed and fewer handlers available are as safe. -/
theorem ReuseSafe.shrink (h : ReuseSafe s) (hconnections : ∀ c, t.connections c = s.connections c)
    (havailable : ∀ c ∈ t.availableClientHandlers, c ∈ s.availableClientHandlers)
    (howed : ∀ x ∈ t.owed, x ∈ s.owed) : ReuseSafe t := by
  obtain ⟨hquiet, hnumber, hclosing⟩ := h
  refine ⟨fun c hc => ?_, fun x hx => ?_, fun c => ?_⟩
  · exact (hquiet c (havailable c hc)).congr (hconnections c) fun x hx _ => howed x hx
  · rw [currentNumber_congr (hconnections _)]
    exact hnumber x (howed x hx)
  · rw [hconnections]
    exact hclosing c

theorem ReuseSafe.taken {aps : ClientPtr} (hpool : PoolConserved maxClients s) (h : ReuseSafe s)
    (hlast : s.availableClientHandlers.getLast? = some aps) : ReuseSafe (s.taken aps) := by
  obtain ⟨hquiet, hnumber, hclosing⟩ := h
  have hmem : aps ∈ s.availableClientHandlers := List.mem_of_getLast? hlast
  have hpool' : PoolConserved maxClients (s.taken aps) := Conserved.take hpool hlast
  have haps : aps ∉ (s.taken aps).availableClientHandlers :=
    hpool'.not_mem_available (List.mem_append_right _ (List.mem_singleton_self _))
  refine ⟨fun c hc => ?_, fun x hx => ?_, fun c => ?_⟩
  · have hca : c ≠ aps := fun heq => haps (heq ▸ hc)
    exact (hquiet c (List.dropLast_subset _ hc)).congr (connections_taken_of_ne s aps hca)
      fun x hx _ => hx
  · have hxa : x.apsclient ≠ aps := (hquiet aps hmem).writes x hx
    rw [currentNumber_congr (connections_taken_of_ne s aps hxa)]
    exact hnumber x hx
  · by_cases hca : c = aps
    · rw [hca, connections_taken_self]
      exact (hquiet aps hmem).closes
    · rw [connections_taken_of_ne s aps hca]
      exact hclosing c

theorem not_reuseSafe_refused {aps : ClientPtr} {result : Int} (hresult : result ≠ 0)
    (hlast : s.availableClientHandlers.getLast? = some aps) : ¬ ReuseSafe (s.refused aps result) := by
  intro h
  have hmem : aps ∈ (s.refused aps result).availableClientHandlers := by
    rw [refused_available s aps hresult]
    exact List.mem_of_getLast? hlast
  refine (h.1 aps hmem).closes ⟨(s.connections aps).length, .closing, false, false, false, 1⟩ ?_ rfl
  rw [connections_refused_self s aps hresult]
  exact List.mem_cons_self

/-- A handler released while its handle is open is not quiet. -/
theorem not_reuseSafe_ended (hsound : Sound maxClients s) (h : ReuseSafe s)
    (hreadable : s.isReadable c = true) :
    ¬ ReuseSafe ((notify s c .onTcpConnectionClosed).removeApsClient c) := by
  intro hafter
  have hactive : c ∈ s.activeClientHandlers := by
    refine (hsound.mem_pool (connections_ne_nil_of_isReadable hreadable)).resolve_right fun hc => ?_
    rw [(h.1 c hc).reads] at hreadable
    cases hreadable
  have hquiet : HandlerQuiet ((notify s c .onTcpConnectionClosed).removeApsClient c) c := by
    apply hafter.1 c
    rw [removeApsClient_of_mem (s := notify s c _) hactive]
    exact List.mem_append_right _ (List.mem_singleton_self _)
  have hreads := hquiet.reads
  have hconnections : ((notify s c .onTcpConnectionClosed).removeApsClient c).connections c =
      s.connections c := by rw [connections_removeApsClient, connections_notify]
  rw [isReadable_congr hconnections, hreadable] at hreads
  cases hreads

theorem ReuseSafe.wroteThenClosed (h : ReuseSafe s) {x : UvWriteContext} (hx : x ∈ s.owed) :
    ReuseSafe ((s.completed x).uvClose x.apsclient true) := by
  obtain ⟨hquiet, hnumber, hclosing⟩ := h
  have howed : ∀ y ∈ ((s.completed x).uvClose x.apsclient true).owed, y ∈ s.owed := by
    intro y hy
    rw [uvClose_owed] at hy
    exact List.mem_of_mem_erase hy
  refine ⟨fun c hc => ?_, fun y hy => ?_, fun c => ?_⟩
  · rw [uvClose_available] at hc
    have hcx : c ≠ x.apsclient := fun heq => (hquiet c hc).writes x hx heq.symm
    exact (hquiet c hc).congr (connections_uvClose_of_ne (s.completed x) _ _ hcx)
      fun y hy _ => howed y hy
  · rw [currentNumber_uvClose]
    exact hnumber y (howed y hy)
  · rw [tail_uvClose]
    exact hclosing c

theorem ReuseSafe.uvClosed (h : ReuseSafe s) (c : ClientPtr) (number : Nat) :
    ReuseSafe (s.uvClosed c number) := by
  obtain ⟨hquiet, hnumber, hclosing⟩ := h
  refine ⟨fun d hd => ?_, fun x hx => ?_, fun d k hk => ?_⟩
  · have hd' := hquiet d hd
    have hhandle : ∀ k ∈ ((s.uvClosed c number).connections d).head?, k.phase = .closed := by
      by_cases hdc : d = c
      swap
      · rw [connections_uvClosed_of_ne s c number hdc]
        exact hd'.handle
      rw [hdc, connections_uvClosed_self, List.head?_map]
      intro k hk
      obtain ⟨k', hk', rfl⟩ := Option.map_eq_some_iff.mp hk
      rcases closedAs_phase number k' with hclosed | ⟨-, hphase⟩
      · exact hclosed
      · rw [hphase]
        exact hd'.handle k' (hdc ▸ hk')
    refine ⟨hhandle, isReadable_of_closed hhandle, hd'.writes, fun k hk => ?_⟩
    rcases phase_of_mem_uvClosed hk with hclosed | ⟨k', hk', -, hphase⟩
    · rw [hclosed]
      exact nofun
    · rw [hphase]
      exact hd'.closes k' hk'
  · rw [currentNumber_uvClosed]
    exact hnumber x hx
  · by_cases hdc : d = c
    swap
    · rw [connections_uvClosed_of_ne s c number hdc] at hk
      exact hclosing d k hk
    rw [hdc, connections_uvClosed_self, ← List.map_tail] at hk
    obtain ⟨k', hk', rfl⟩ := List.mem_map.mp hk
    rcases closedAs_phase number k' with hclosed | ⟨-, hphase⟩
    · rw [hclosed]
      exact nofun
    · rw [hphase]
      exact hclosing c k' hk'

/-- A close that calls `onUvClose` releases a handler that is quiet by then. -/
theorem ReuseSafe.closed (hearlier : EarlierClosed s) (h : ReuseSafe s) {number : Nat}
    (hclosing : ∃ k ∈ s.connections c, k.number = number ∧ k.phase = .closing)
    (hwritten : ∀ x ∈ s.owed, ¬ (x.apsclient = c ∧ x.connection = number)) :
    ReuseSafe ((s.uvClosed c number).removeApsClient c) := by
  obtain ⟨k, hk, hnumber, hphase⟩ := hclosing
  -- the closing connection is the current one: the earlier ones are closed
  obtain ⟨earlier, hconnections⟩ : ∃ earlier, s.connections c = k :: earlier := by
    cases hconnections : s.connections c with
    | nil =>
        rw [hconnections] at hk
        cases hk
    | cons k' earlier =>
        rw [hconnections] at hk
        rcases List.mem_cons.mp hk with rfl | hk
        · exact ⟨earlier, rfl⟩
        · have hclosed := hearlier c k (by rw [hconnections]; exact hk)
          rw [hclosed] at hphase
          cases hphase
  have hcurrent : s.currentNumber c = number := by
    rw [currentNumber_of_head hconnections, hnumber]
  have hquiet : HandlerQuiet (s.uvClosed c number) c := by
    have hhandle : ∀ k ∈ ((s.uvClosed c number).connections c).head?, k.phase = .closed := by
      rw [connections_uvClosed_self, hconnections]
      intro k' hk'
      obtain rfl : closedAs number k = k' := Option.some.inj hk'
      exact (closedAs_phase number k).resolve_right fun h => h.1 hnumber
    refine ⟨hhandle, isReadable_of_closed hhandle, fun x hx hxc => ?_, fun k' hk' => ?_⟩
    · refine hwritten x hx ⟨hxc, ?_⟩
      rw [h.2.1 x hx, hxc, hcurrent]
    · rcases phase_of_mem_uvClosed hk' with hclosed | ⟨k'', hk'', hother, hsame⟩
      · rw [hclosed]
        exact nofun
      · rw [hconnections] at hk''
        rcases List.mem_cons.mp hk'' with rfl | hk''
        · exact absurd hnumber (hother rfl)
        · rw [hsame, hearlier c k'' (by rw [hconnections]; exact hk'')]
          exact nofun
  have hsafe := h.uvClosed c number
  by_cases hc : c ∈ s.activeClientHandlers
  swap
  · rw [removeApsClient_of_not_mem (s := s.uvClosed c number) hc]
    exact hsafe
  refine ⟨fun d hd => ?_, fun x hx => ?_, fun d => ?_⟩
  · have hd' : HandlerQuiet (s.uvClosed c number) d := by
      rw [removeApsClient_of_mem (s := s.uvClosed c number) hc] at hd
      rcases List.mem_append.mp hd with hd | hd
      · exact hsafe.1 d hd
      · rw [List.mem_singleton.mp hd]
        exact hquiet
    refine hd'.congr (connections_removeApsClient _ c d) fun x hx _ => ?_
    rw [removeApsClient_owed] at hx
    exact hx
  · rw [removeApsClient_owed] at hx
    rw [currentNumber_congr (connections_removeApsClient (s.uvClosed c number) c x.apsclient)]
    exact hsafe.2.1 x hx
  · rw [connections_removeApsClient]
    exact hsafe.2.2 d

theorem reuseSafe_outline (hsound : Sound maxClients s) (hearlier : EarlierClosed s)
    (h : ReuseSafe s) (hlegal : Legal s e) (hu : Outline s e u) :
    ReuseSafe u ↔ ClosedBeforeRelease s e := by
  cases hu with
  | listenFailed hstatus => exact iff_of_true h fun hzero => absurd hzero hstatus
  | exhausted hnone =>
      refine iff_of_true ?_ fun _ _ => hnone
      exact h.shrink (fun _ => rfl) (fun _ hc => hc) fun _ hx => hx
  | taken hlast => exact iff_of_true (h.taken hsound.pool hlast) fun _ hresult => absurd rfl hresult
  | refused hlast hresult =>
      refine iff_of_false (not_reuseSafe_refused hresult hlast) fun hok => ?_
      rw [hok rfl hresult] at hlast
      cases hlast
  | ended hnread =>
      exact iff_of_false (not_reuseSafe_ended hsound h hlegal.2) (Int.not_lt.mpr hnread)
  | data hnread hreturned =>
      refine iff_of_true ?_ hnread
      exact h.shrink (fun c => connections_notify _ c) (fun _ hc => hc) fun _ hx => hx
  | dataRefused hnread hreturned =>
      refine iff_of_true ?_ hnread
      refine h.shrink (fun c => ?_) (fun _ hc => hc) fun _ hx => hx
      rw [connections_notify, connections_notify]
  | wrote hfind hcallback hstatus =>
      refine iff_of_true ?_ trivial
      exact h.shrink (fun _ => rfl) (fun _ hc => hc) fun _ hx => List.mem_of_mem_erase hx
  | wroteThenClosed hfind hcloses =>
      exact iff_of_true (h.wroteThenClosed (List.mem_of_find?_eq_some hfind)) trivial
  | strayWritten hfind => exact iff_of_true h trivial
  | closedOnly hcallback => exact iff_of_true (h.uvClosed _ _) trivial
  | closed hcallback => exact iff_of_true (h.closed hearlier hlegal.2.1 hlegal.2.2) trivial
  | ticked => exact iff_of_true h trivial
  | removed => exact hlegal.elim

theorem EarlierClosed.congr (h : EarlierClosed s)
    (hconnections : ∀ c, (t.connections c).tail = (s.connections c).tail) : EarlierClosed t := by
  intro c
  rw [hconnections]
  exact h c

theorem EarlierClosed.uvClosed (h : EarlierClosed s) (c : ClientPtr) (number : Nat) :
    EarlierClosed (s.uvClosed c number) := by
  intro d k hk
  by_cases hdc : d = c
  swap
  · rw [connections_uvClosed_of_ne s c number hdc] at hk
    exact h d k hk
  rw [hdc, connections_uvClosed_self, ← List.map_tail] at hk
  obtain ⟨k', hk', rfl⟩ := List.mem_map.mp hk
  rcases closedAs_phase number k' with hclosed | ⟨-, hphase⟩
  · exact hclosed
  · rw [hphase]
    exact h c k' hk'

theorem EarlierClosed.outline (hearlier : EarlierClosed s) (h : ReuseSafe s)
    (hok : ClosedBeforeRelease s e) (hu : Outline s e u) : EarlierClosed u := by
  cases hu with
  | listenFailed hstatus => exact hearlier
  | exhausted hnone => exact hearlier
  | @taken b aps hlast =>
      have hquiet := h.1 aps (List.mem_of_getLast? hlast)
      intro c k hk
      by_cases hca : c = aps
      swap
      · rw [connections_taken_of_ne s aps hca] at hk
        exact hearlier c k hk
      rw [hca, connections_taken_self, List.tail_cons] at hk
      cases hconnections : s.connections aps with
      | nil =>
          rw [hconnections] at hk
          cases hk
      | cons k' earlier =>
          have hhead := hquiet.handle
          have htail := hearlier aps
          rw [hconnections] at hk hhead htail
          rcases List.mem_cons.mp hk with rfl | hk
          · exact hhead k rfl
          · exact htail k hk
  | refused hlast hresult =>
      rw [hok rfl hresult] at hlast
      cases hlast
  | ended hnread =>
      apply hearlier.congr
      intro c
      rw [connections_removeApsClient, connections_notify]
  | data hnread hreturned =>
      apply hearlier.congr
      intro c
      rw [connections_notify]
  | dataRefused hnread hreturned =>
      apply hearlier.congr
      intro c
      rw [connections_notify, connections_notify]
  | wrote hfind hcallback hstatus => exact hearlier
  | wroteThenClosed hfind hcloses =>
      apply hearlier.congr
      intro c
      rw [tail_uvClose, connections_completed]
  | strayWritten hfind => exact hearlier
  | closedOnly hcallback => exact hearlier.uvClosed _ _
  | @closed client number b hcallback =>
      apply (hearlier.uvClosed client number).congr
      intro c
      rw [connections_removeApsClient]
  | ticked => exact hearlier
  | removed =>
      apply hearlier.congr
      intro c
      rw [connections_removeApsClient]

/-! ### Every run -/

theorem reuseSafe_step (hsound : Sound maxClients s) (hearlier : EarlierClosed s)
    (h : ReuseSafe s) (hlegal : Legal s e) :
    ReuseSafe (s.step e) ↔ ClosedBeforeRelease s e := by
  obtain ⟨u, hu, hsends⟩ := step_outline s e
  exact (reuseSafe_sends hsends).trans (reuseSafe_outline hsound hearlier h hlegal hu)

theorem EarlierClosed.step (hearlier : EarlierClosed s) (h : ReuseSafe s)
    (hok : ClosedBeforeRelease s e) : EarlierClosed (s.step e) := by
  obtain ⟨u, hu, hsends⟩ := step_outline s e
  apply (hearlier.outline h hok hu).congr
  intro c
  rw [hsends.connections]

/-- **Reuse.** In a legal run the handlers at hand are quiet, and no callback owed is about an earlier
connection, exactly when no accept is refused with a handler at hand and no stream ends or fails. -/
theorem reuseSafe_iff (maxClients : Int) (events : List (Event M))
    (hlegal : (service M).Legal (constructed M maxClients) events) :
    (service M).Visits ReuseSafe (constructed M maxClients) events ↔
      (service M).Steps ClosedBeforeRelease (constructed M maxClients) events := by
  refine Transition.Machine.visits_iff_steps
    (I := fun s => Sound maxClients s ∧ EarlierClosed s)
    (fun s e hI h hl => reuseSafe_step hI.1 hI.2 h hl)
    (fun s e hI h hl hok => ⟨hI.1.step hl, hI.2.step h hok⟩)
    ⟨constructed_sound maxClients, fun c k hk => nomatch hk⟩ ⟨fun c hc => ?_, ?_⟩ hlegal
  · exact ⟨nofun, rfl, nofun, nofun⟩
  · exact ⟨nofun, nofun⟩

/-- A client connects, gets a page and is closed; the next one connects. -/
def servedTwice : List (Event .plain) := onePageServed ++ [.listen 0 0 (.silent _)]

theorem reuseSafe_iff_servedTwice :
    (service .plain).Legal (constructed .plain 1) servedTwice ∧
      (service .plain).Visits ReuseSafe (constructed .plain 1) servedTwice :=
  have hlegal : (service .plain).Legal (constructed .plain 1) servedTwice := by decide +kernel
  ⟨hlegal, (reuseSafe_iff 1 servedTwice hlegal).mpr
    ⟨fun _ h => absurd rfl h, (by decide : (0 : Int) < 18), trivial, trivial, fun _ h => absurd rfl h, trivial⟩⟩

/-- A client connects and disconnects. -/
def connectedThenEnded : List (Event .plain) :=
  [.listen 0 0 (.silent _), .read 0 (-4095) (.silent _ 0)]

/-- Its handler is at hand while the handle is still open. -/
theorem connectedThenEnded_open :
    (service .plain).Legal (constructed .plain 1) connectedThenEnded ∧
      ¬ ReuseSafe ((service .plain).run (constructed .plain 1) connectedThenEnded) := by
  refine ⟨by decide, fun h => ?_⟩
  have hreads := (h.1 0 (by decide)).reads
  exact absurd hreads (by decide)

end NetworkService

end AvdeccProxy
