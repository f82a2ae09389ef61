import AvdeccProxy.ServiceSound

/-! How often a connection is closed. The completion of an HTTP response and the failure of any write both
call `uv_close`, and the close itself fails the writes still in flight: two writes outstanding are enough
to close twice, and nothing less is. -/

namespace AvdeccProxy

namespace NetworkService

open ApsClient Connection

variable {M : Mcu} {A : ClientPtr → Prop} {s t u : NetworkService M} {e : Event M}
  {c d : ClientPtr} {maxClients : Int}

/-- No accepted connection was closed more than once. -/
def ClosedOnce (s : NetworkService M) : Prop :=
  ∀ c, ∀ k ∈ s.connections c, k.accepted = true → k.closeCalls ≤ 1

/-- A write still in flight on a connection whose close was requested is cancelled. -/
def PendingCancelled (s : NetworkService M) : Event M → Prop
  | .written address status _ =>
      ∀ x ∈ s.owed, x.address = address → ∀ k ∈ s.connections x.apsclient, k.number = x.connection →
        k.phase = .closing → status < 0
  | _ => True

/-- No accepted connection was closed more than once, or is by the next callback, whichever it is, if libuv
cancels the writes of closing connections. -/
def ClosedOnceNext (s : NetworkService M) : Prop :=
  ClosedOnce s ∧ ∀ e, Legal s e → PendingCancelled s e → ClosedOnce (s.step e)

/-- The current connection of the handler is an accepted one. -/
def HostsAccepted (s : NetworkService M) (c : ClientPtr) : Prop :=
  ∃ k, (s.connections c).head? = some k ∧ k.accepted = true

/-- A write whose completion closes an accepted connection is the last one its handler has in flight. -/
def LastWriteCloses (s : NetworkService M) : Event M → Prop
  | .written address status _ =>
      ∀ x, s.owed.find? (·.address == address) = some x →
        (x.callback = .onUvWriteThenClose ∨ status < 0) → HostsAccepted s x.apsclient →
          ∀ y ∈ s.owed.erase x, y.apsclient ≠ x.apsclient
  | _ => True

/-- An accepted connection that was closed has no write in flight. -/
def ClosedIsDrained (s : NetworkService M) : Prop :=
  ∀ c k, (s.connections c).head? = some k → k.accepted = true → k.closeCalls ≠ 0 →
    ∀ x ∈ s.owed, x.apsclient ≠ c

/-- The completion of a piece of data closes nothing. -/
theorem lastWriteCloses_of_data {address : Nat} {status : Int} {b : Behaviour M}
    (hdata : (s.owed.find? (·.address == address)).map (·.callback) = some .onUvWrite)
    (hstatus : 0 ≤ status) : LastWriteCloses s (.written address status b) := by
  intro x hfind hcloses
  rw [hfind] at hdata
  obtain hcallback : x.callback = .onUvWrite := Option.some.inj hdata
  rcases hcloses with hcloses | hcloses
  · rw [hcallback] at hcloses
    cases hcloses
  · exact absurd hstatus (Int.not_le.mpr hcloses)

/-- A single write in flight is the last one. -/
theorem lastWriteCloses_of_length_le_one (h : s.owed.length ≤ 1) : LastWriteCloses s e := by
  cases e with
  | written address status b =>
      intro x hfind _ _ y hy
      have hlength := List.length_erase_of_mem (List.mem_of_find?_eq_some hfind)
      have hpos := List.length_pos_of_mem hy
      omega
  | listen status result b => trivial
  | read client nread b => trivial
  | closed client number b => trivial
  | tick timestamp b => trivial
  | removeApsClient client => trivial

/-! ### Counting closes -/

theorem closedOnce_congr (hconnections : ∀ c, t.connections c = s.connections c) :
    ClosedOnce t ↔ ClosedOnce s := by
  unfold ClosedOnce
  simp only [hconnections]

theorem ClosedOnce.uvClosed (h : ClosedOnce s) (c : ClientPtr) (number : Nat) :
    ClosedOnce (s.uvClosed c number) := by
  intro d k hk haccepted
  by_cases hd : d = c
  · rw [hd, connections_uvClosed_self] at hk
    obtain ⟨k', hk', rfl⟩ := List.mem_map.mp hk
    rw [closedAs_accepted] at haccepted
    rw [closedAs_closeCalls]
    exact h c k' hk' haccepted
  · rw [connections_uvClosed_of_ne s c number hd] at hk
    exact h d k hk haccepted

/-- A first close of the current connection. -/
theorem ClosedOnce.uvClose (h : ClosedOnce s) (callback : Bool)
    (hfirst : ∀ k, (s.connections c).head? = some k → k.accepted = true → k.closeCalls = 0) :
    ClosedOnce (s.uvClose c callback) := by
  intro d k hk haccepted
  by_cases hd : d = c
  swap
  · rw [connections_uvClose_of_ne s c callback hd] at hk
    exact h d k hk haccepted
  rw [hd, connections_uvClose_self] at hk
  have hc := h c
  cases hconnections : s.connections c with
  | nil =>
      rw [hconnections] at hk
      cases hk
  | cons k' earlier =>
      rw [hconnections] at hk hfirst hc
      rw [List.modifyHead_cons] at hk
      rcases List.mem_cons.mp hk with rfl | hk
      · rw [closeRequested_accepted] at haccepted
        exact Nat.le_of_eq (by rw [closeRequested_closeCalls, hfirst k' rfl haccepted])
      · exact hc k (List.mem_cons_of_mem _ hk) haccepted

/-! ### The next callback -/

theorem ClosedOnce.outline (h : ClosedOnce s) (hdrained : ClosedIsDrained s)
    (hu : Outline s e u) : ClosedOnce u := by
  cases hu with
  | listenFailed hstatus => exact h
  | exhausted hnone => exact h
  | @taken b aps hlast =>
      intro c k hk haccepted
      by_cases hca : c = aps
      · rw [hca, connections_taken_self] at hk
        rcases List.mem_cons.mp hk with rfl | hk
        · exact Nat.zero_le 1
        · exact h aps k hk haccepted
      · rw [connections_taken_of_ne s aps hca] at hk
        exact h c k hk haccepted
  | @refused result b aps hlast hresult =>
      intro c k hk haccepted
      by_cases hca : c = aps
      · rw [hca, connections_refused_self s aps hresult] at hk
        rcases List.mem_cons.mp hk with rfl | hk
        · cases haccepted
        · exact h aps k hk haccepted
      · rw [connections_refused_of_ne s aps hresult hca] at hk
        exact h c k hk haccepted
  | ended hnread =>
      refine (closedOnce_congr fun c => ?_).mpr h
      rw [connections_removeApsClient, connections_notify]
  | data hnread hreturned =>
      refine (closedOnce_congr fun c => ?_).mpr h
      rw [connections_notify]
  | dataRefused hnread hreturned =>
      refine (closedOnce_congr fun c => ?_).mpr h
      rw [connections_notify, connections_notify]
  | wrote hfind hcallback hstatus => exact h
  | @wroteThenClosed address status b x hfind hcloses =>
      have hx : x ∈ s.owed := List.mem_of_find?_eq_some hfind
      refine ClosedOnce.uvClose (s := s.completed x) h true fun k hhead haccepted => ?_
      by_contra hcalls
      exact hdrained x.apsclient k hhead haccepted hcalls x hx rfl
  | strayWritten hfind => exact h
  | closedOnly hcallback => exact h.uvClosed _ _
  | @closed client number b hcallback =>
      refine (closedOnce_congr fun c => ?_).mpr (h.uvClosed client number)
      rw [connections_removeApsClient]
  | ticked => exact h
  | removed =>
      refine (closedOnce_congr fun c => ?_).mpr h
      rw [connections_removeApsClient]

/-- While closed connections are drained, no callback can close one again. -/
theorem ClosedOnce.step (h : ClosedOnce s) (hdrained : ClosedIsDrained s) (e : Event M) :
    ClosedOnce (s.step e) := by
  obtain ⟨u, hu, hsends⟩ := step_outline s e
  exact (closedOnce_congr hsends.connections).mpr (h.outline hdrained hu)

theorem ClosedIsDrained.sends (hdrained : ClosedIsDrained u) (hsound : Sound maxClients u)
    (hsends : Sends A u t) : ClosedIsDrained t := by
  intro c k hhead haccepted hcalls x hx hxc
  rw [hsends.connections] at hhead
  rcases hsends.of_mem_owed hx with hx | ⟨-, -, hopen⟩
  · exact hdrained c k hhead haccepted hcalls x hx hxc
  · -- the write was taken, so that the handle is open and was never closed
    rw [hxc] at hopen
    obtain ⟨k', hhead', hphase⟩ := isOpen_iff.mp hopen
    obtain rfl := Option.some.inj (hhead.symm.trans hhead')
    exact hcalls ((hsound.opened c k (List.mem_of_head? hhead)).mp hphase)

theorem ClosedIsDrained.congr (hdrained : ClosedIsDrained s)
    (hconnections : ∀ c, t.connections c = s.connections c) (howed : ∀ x ∈ t.owed, x ∈ s.owed) :
    ClosedIsDrained t := by
  intro c k hhead haccepted hcalls x hx
  rw [hconnections] at hhead
  exact hdrained c k hhead haccepted hcalls x (howed x hx)

theorem ClosedIsDrained.uvClosed (hdrained : ClosedIsDrained s) (c : ClientPtr) (number : Nat) :
    ClosedIsDrained (s.uvClosed c number) := by
  intro d k hhead haccepted hcalls x hx
  by_cases hd : d = c
  · rw [hd, connections_uvClosed_self, List.head?_map] at hhead
    obtain ⟨k', hk', rfl⟩ := Option.map_eq_some_iff.mp hhead
    rw [closedAs_accepted] at haccepted
    rw [closedAs_closeCalls] at hcalls
    rw [hd]
    exact hdrained c k' hk' haccepted hcalls x hx
  · rw [connections_uvClosed_of_ne s c number hd] at hhead
    exact hdrained d k hhead haccepted hcalls x hx

theorem ClosedIsDrained.outline (hdrained : ClosedIsDrained s) (hok : LastWriteCloses s e)
    (hu : Outline s e u) : ClosedIsDrained u := by
  cases hu with
  | listenFailed hstatus => exact hdrained
  | exhausted hnone => exact hdrained.congr (fun _ => rfl) fun _ hx => hx
  | @taken b aps hlast =>
      intro c k hhead haccepted hcalls x hx
      by_cases hca : c = aps
      · rw [hca, connections_taken_self] at hhead
        obtain rfl := Option.some.inj hhead
        exact absurd rfl hcalls
      · rw [connections_taken_of_ne s aps hca] at hhead
        exact hdrained c k hhead haccepted hcalls x hx
  | @refused result b aps hlast hresult =>
      intro c k hhead haccepted hcalls x hx
      rw [refused_owed s aps hresult] at hx
      by_cases hca : c = aps
      · rw [hca, connections_refused_self s aps hresult] at hhead
        obtain rfl := Option.some.inj hhead
        cases haccepted
      · rw [connections_refused_of_ne s aps hresult hca] at hhead
        exact hdrained c k hhead haccepted hcalls x hx
  | ended hnread =>
      refine hdrained.congr (fun c => ?_) fun x hx => ?_
      · rw [connections_removeApsClient, connections_notify]
      · rw [removeApsClient_owed] at hx
        exact hx
  | data hnread hreturned =>
      exact hdrained.congr (fun c => connections_notify _ c) fun _ hx => hx
  | dataRefused hnread hreturned =>
      refine hdrained.congr (fun c => ?_) fun _ hx => hx
      rw [connections_notify, connections_notify]
  | wrote hfind hcallback hstatus =>
      exact hdrained.congr (fun _ => rfl) fun _ hx => List.mem_of_mem_erase hx
  | @wroteThenClosed address status b x hfind hcloses =>
      intro c k hhead haccepted hcalls y hy
      rw [uvClose_owed] at hy
      by_cases hcx : c = x.apsclient
      · rw [hcx, head_uvClose, connections_completed] at hhead
        obtain ⟨k', hk', rfl⟩ := Option.map_eq_some_iff.mp hhead
        rw [closeRequested_accepted] at haccepted
        rw [hcx]
        exact hok x hfind hcloses ⟨k', hk', haccepted⟩ y hy
      · rw [connections_uvClose_of_ne _ _ _ hcx, connections_completed] at hhead
        exact hdrained c k hhead haccepted hcalls y (List.mem_of_mem_erase hy)
  | strayWritten hfind => exact hdrained
  | closedOnly hcallback => exact hdrained.uvClosed _ _
  | @closed client number b hcallback =>
      refine (hdrained.uvClosed client number).congr (fun c => ?_) fun x hx => ?_
      · rw [connections_removeApsClient]
      · rw [removeApsClient_owed] at hx
        exact hx
  | ticked => exact hdrained
  | removed =>
      refine hdrained.congr (fun c => ?_) fun x hx => ?_
      · rw [connections_removeApsClient]
      · rw [removeApsClient_owed] at hx
        exact hx

theorem ClosedIsDrained.step (hdrained : ClosedIsDrained s) (hsound : Sound maxClients s)
    (hlegal : Legal s e) (hok : LastWriteCloses s e) : ClosedIsDrained (s.step e) := by
  obtain ⟨u, hu, hsends⟩ := step_outline s e
  exact (hdrained.outline hok hu).sends (hsound.outline hlegal hu) hsends

/-! ### Closing twice -/

/-- A completion that closes does only that, apart from calls of the state machine. -/
theorem step_wroteThenClosed {address : Nat} {status : Int} {b : Behaviour M} {x : UvWriteContext}
    (hfind : s.owed.find? (·.address == address) = some x)
    (hcloses : x.callback = .onUvWriteThenClose ∨ status < 0) :
    Sends (s.callers (.written address status b)) ((s.completed x).uvClose x.apsclient true)
      (s.step (.written address status b)) := by
  obtain ⟨u, hu, hsends⟩ := step_outline s (.written address status b)
  cases hu with
  | wrote hfind' hcallback hstatus =>
      obtain rfl := Option.some.inj (hfind.symm.trans hfind')
      rcases hcloses with hcloses | hcloses
      · rw [hcallback] at hcloses
        cases hcloses
      · exact absurd hstatus (Int.not_le.mpr hcloses)
  | wroteThenClosed hfind' hcloses' =>
      obtain rfl := Option.some.inj (hfind.symm.trans hfind')
      exact hsends
  | strayWritten hnone =>
      rw [hfind] at hnone
      cases hnone

/-- With another write in flight, a completion that closes can be followed by one that closes again. -/
theorem not_closedOnceNext (hsound : Sound maxClients s) (hdrained : ClosedIsDrained s)
    {address : Nat} {status : Int} {b : Behaviour M} {x y : UvWriteContext}
    (hlegal : Legal s (.written address status b))
    (hfind : s.owed.find? (·.address == address) = some x)
    (hcloses : x.callback = .onUvWriteThenClose ∨ status < 0) (hhosts : HostsAccepted s x.apsclient)
    (hy : y ∈ s.owed.erase x) (hyx : y.apsclient = x.apsclient) :
    ¬ ClosedOnceNext (s.step (.written address status b)) := by
  obtain ⟨k, hhead, haccepted⟩ := hhosts
  have hx : x ∈ s.owed := List.mem_of_find?_eq_some hfind
  have hcalls : k.closeCalls = 0 := by
    by_contra hcalls
    exact hdrained x.apsclient k hhead haccepted hcalls x hx rfl
  have hphase : k.phase = .opened :=
    (hsound.opened x.apsclient k (List.mem_of_head? hhead)).mpr hcalls
  have hopen : s.isOpen x.apsclient = true := isOpen_iff.mpr ⟨k, hhead, hphase⟩
  have hsends := step_wroteThenClosed (b := b) hfind hcloses
  have hsound' : Sound maxClients (s.step (.written address status b)) := hsound.step hlegal
  generalize s.step (.written address status b) = t at hsends hsound'
  have hlive : t.aborted = false := by
    rw [hsends.aborted, uvClose_aborted, isOpen_congr (connections_completed s x _), hopen]
    exact (Bool.or_false _).trans hlegal.1
  have howed : y ∈ t.owed := by
    apply hsends.mem_owed
    rw [uvClose_owed]
    exact hy
  have hhead' : (t.connections x.apsclient).head? = some (k.closeRequested true) := by
    rw [hsends.connections, head_uvClose, connections_completed, hhead]
    rfl
  intro hnext
  have honce := hnext.2 (.written y.address (-1) (.silent M)) ⟨hlive, ⟨y, howed, rfl⟩⟩
    fun _ _ _ _ _ _ _ => by decide
  have hsends' := step_wroteThenClosed (b := Behaviour.silent M) (hsound'.find_owed howed)
    (Or.inr (show (-1 : Int) < 0 by decide))
  have hhead'' : (((t.completed y).uvClose y.apsclient true).connections x.apsclient).head? =
      some ((k.closeRequested true).closeRequested true) := by
    rw [hyx, head_uvClose, connections_completed, hhead']
    rfl
  have hmem := List.mem_of_head? hhead''
  rw [← hsends'.connections] at hmem
  have htwice := honce x.apsclient _ hmem
    (by rw [closeRequested_accepted, closeRequested_accepted]; exact haccepted)
  rw [closeRequested_closeCalls, closeRequested_closeCalls] at htwice
  omega

/-- **One close.** In a legal run no accepted connection is closed twice, nor can be by the next callback,
exactly when every completion that closes one is of the last write its handler has in flight. -/
theorem closedOnceNext_iff (maxClients : Int) (events : List (Event M))
    (hlegal : (service M).Legal (constructed M maxClients) events) :
    (service M).Visits ClosedOnceNext (constructed M maxClients) events ↔
      (service M).Steps LastWriteCloses (constructed M maxClients) events := by
  have hinitial : ClosedOnce (constructed M maxClients) := fun c k hk => nomatch hk
  have hdrained : ClosedIsDrained (constructed M maxClients) := fun c k hhead => nomatch hhead
  refine Transition.Machine.visits_iff_steps
    (I := fun s => Sound maxClients s ∧ ClosedIsDrained s) (fun s e hI h hl => ⟨fun hafter => ?_, fun hok => ?_⟩)
    (fun s e hI _ hl hok => ⟨hI.1.step hl, hI.2.step hI.1 hl hok⟩)
    ⟨constructed_sound maxClients, hdrained⟩ ⟨hinitial, fun e _ _ => hinitial.step hdrained e⟩ hlegal
  · cases e with
    | written address status b =>
        intro x hfind hcloses hhosts y hy hyx
        exact not_closedOnceNext hI.1 hI.2 hl hfind hcloses hhosts hy hyx hafter
    | listen status result b => trivial
    | read client nread b => trivial
    | closed client number b => trivial
    | tick timestamp b => trivial
    | removeApsClient client => trivial
  · have honce : ClosedOnce (s.step e) := h.1.step hI.2 e
    exact ⟨honce, fun e' _ _ => honce.step (hI.2.step hI.1 hl hok) e'⟩

/-- No accepted connection is closed twice in a legal run every close of which is that of the last write its
handler has in flight. -/
theorem closedOnce_of_lastWriteCloses (maxClients : Int) (events : List (Event M))
    (hlegal : (service M).Legal (constructed M maxClients) events)
    (hok : (service M).Steps LastWriteCloses (constructed M maxClients) events) :
    (service M).Visits ClosedOnce (constructed M maxClients) events := by
  have hvisits : (service M).Visits
      (fun s => Sound maxClients s ∧ ClosedIsDrained s ∧ ClosedOnce s) (constructed M maxClients)
      events := by
    refine Transition.Machine.visits_of_preserved (fun s e h hstep => ?_)
      ⟨constructed_sound maxClients, ?_, ?_⟩ (Transition.Machine.Steps.and hlegal hok)
    · obtain ⟨hsound, hdrained, honce⟩ := h
      exact ⟨hsound.step hstep.1, hdrained.step hsound hstep.1 hstep.2, honce.step hdrained e⟩
    · exact fun c k hhead => nomatch hhead
    · exact fun c k hk => nomatch hk
  exact hvisits.mono fun _ h => h.2.2

/-- A client sends two pieces of data and asks for a page: the page is the last write to complete. -/
def dataThenPage : List (Event .plain) :=
  [.listen 0 0 (.silent _),
    .read 0 30 ⟨⟨[.sendTcpData [1, 2] true, .onIncomingHttpRequest ⟨.get, ⟨"/index.html"⟩⟩ true,
      .sendTcpData [3] true], id⟩, 30, .silent _, .silent _⟩,
    .written 0 0 (.silent _), .written 2 0 (.silent _), .written 1 0 (.silent _),
    .closed 0 0 (.silent _)]

theorem dataThenPage_lastWriteCloses :
    (service .plain).Steps LastWriteCloses (constructed .plain 1) dataThenPage :=
  ⟨trivial, trivial, lastWriteCloses_of_data (by decide +kernel) (by decide),
    lastWriteCloses_of_data (by decide +kernel) (by decide),
    lastWriteCloses_of_length_le_one (by decide +kernel), trivial, trivial⟩

theorem closedOnceNext_iff_dataThenPage :
    (service .plain).Legal (constructed .plain 1) dataThenPage ∧
      (service .plain).Visits ClosedOnceNext (constructed .plain 1) dataThenPage :=
  have hlegal : (service .plain).Legal (constructed .plain 1) dataThenPage := by decide +kernel
  ⟨hlegal, (closedOnceNext_iff 1 dataThenPage hlegal).mpr dataThenPage_lastWriteCloses⟩

/-- A client asks for two pages at once. -/
def twoPagesAtOnce : List (Event .plain) :=
  [.listen 0 0 (.silent _),
    .read 0 36 ⟨⟨[.onIncomingHttpRequest ⟨.get, ⟨"/index.html"⟩⟩ true,
      .onIncomingHttpRequest ⟨.get, ⟨"/index.html"⟩⟩ true], id⟩, 36, .silent _, .silent _⟩,
    .written 0 0 (.silent _), .written 1 (-125) (.silent _)]

/-- The second response fails because the first has closed the connection, and closes it again. -/
theorem twoPagesAtOnce_closedTwice :
    (service .plain).Legal (constructed .plain 1) twoPagesAtOnce ∧
      ¬ ClosedOnce ((service .plain).run (constructed .plain 1) twoPagesAtOnce) ∧
      ((service .plain).run (constructed .plain 1) twoPagesAtOnce).aborted = true := by
  refine ⟨by decide +kernel, fun h => ?_, by decide +kernel⟩
  have htwice := h 0 ⟨0, .closing, true, true, true, 2⟩ (by decide +kernel) rfl
  exact absurd htwice (by decide)

end NetworkService

end AvdeccProxy
