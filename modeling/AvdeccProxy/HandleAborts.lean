import AvdeccProxy.ServiceSound
import AvdeccProxy.TransitionViews

/-! When the process dies. libuv asserts that a handle is open when `uv_close` is called for it, and that it
is closing when its close completes. The completion of a write breaks the first, for a handle that is not
open any more; an accept into a handler whose handle is closing breaks the second, and from then on the
process is doomed. -/

namespace AvdeccProxy

namespace NetworkService

open ApsClient Transition

variable {M : Mcu} {s t u : NetworkService M} {e : Event M} {c d : ClientPtr} {maxClients : Int}

/-- A handle was initialised for another connection while it was closing. -/
def Doomed (s : NetworkService M) : Prop := ∃ c, ∃ k ∈ (s.connections c).tail, k.phase = .closing

/-- A response completes, or a write fails, for a handler whose handle is not open. -/
def ClosesShut (s : NetworkService M) : Event M → Prop
  | .written address status _ => ∃ x, s.owed.find? (·.address == address) = some x ∧
      (x.callback = .onUvWriteThenClose ∨ status < 0) ∧ s.isOpen x.apsclient = false
  | _ => False

/-- The close of a handle completes that was initialised anew. -/
def ClosesReinitialised (s : NetworkService M) : Event M → Prop
  | .closed client number _ => s.reinitialised client number = true
  | _ => False

/-- A connection is announced, and the handle of the handler that is picked for it is closing. -/
def InitialisesClosing (s : NetworkService M) : Event M → Prop
  | .listen status _ _ => status = 0 ∧ ∃ c k, s.availableClientHandlers.getLast? = some c ∧
      (s.connections c).head? = some k ∧ k.phase = .closing
  | _ => False

theorem ClosesReinitialised.doomed (h : ClosesReinitialised s e) : Doomed s := by
  cases e with
  | closed client number b =>
      obtain ⟨k, hk, -, hclosing⟩ := reinitialised_iff.mp h
      exact ⟨client, k, hk, hclosing⟩
  | listen status result b => exact h.elim
  | read client nread b => exact h.elim
  | written address status b => exact h.elim
  | tick timestamp b => exact h.elim
  | removeApsClient client => exact h.elim

theorem Legal.live (hlegal : Legal s e) : s.aborted = false := by
  cases e with
  | listen status result b => exact hlegal.1
  | read client nread b => exact hlegal.1
  | written address status b => exact hlegal.1
  | closed client number b => exact hlegal.1
  | tick timestamp b => exact hlegal
  | removeApsClient client => exact hlegal.elim

/-! ### Handles initialised anew -/

theorem doomed_congr (h : ∀ c, (t.connections c).tail = (s.connections c).tail) :
    Doomed t ↔ Doomed s := by
  unfold Doomed
  simp only [h]

/-- Only the handles of the pool are looked at. -/
theorem doomed_iff_pool (hsound : Sound maxClients s) :
    Doomed s ↔ ∃ c ∈ List.range maxClients.toNat, ∃ k ∈ (s.connections c).tail, k.phase = .closing := by
  constructor
  · rintro ⟨c, k, hk, hclosing⟩
    exact ⟨c, hsound.hosted c (List.ne_nil_of_mem (List.mem_of_mem_tail hk)), k, hk, hclosing⟩
  · rintro ⟨c, -, k, hk, hclosing⟩
    exact ⟨c, k, hk, hclosing⟩

/-- A handler that hosts one more connection is reinitialised, and that matters if its handle is closing. -/
theorem doomed_host {aps : ClientPtr} {k : Connection} (hself : t.connections aps = k :: s.connections aps)
    (hothers : ∀ d, d ≠ aps → t.connections d = s.connections d) :
    Doomed t ↔ Doomed s ∨ ∃ k, (s.connections aps).head? = some k ∧ k.phase = .closing := by
  constructor
  · rintro ⟨c, k', hk', hclosing⟩
    by_cases hc : c = aps
    swap
    · rw [hothers c hc] at hk'
      exact Or.inl ⟨c, k', hk', hclosing⟩
    rw [hc, hself, List.tail_cons] at hk'
    cases hconnections : s.connections aps with
    | nil =>
        rw [hconnections] at hk'
        cases hk'
    | cons head earlier =>
        rw [hconnections] at hk'
        rcases List.mem_cons.mp hk' with rfl | hk'
        · exact Or.inr ⟨k', rfl, hclosing⟩
        · exact Or.inl ⟨aps, k', by rw [hconnections]; exact hk', hclosing⟩
  · rintro (⟨c, k', hk', hclosing⟩ | ⟨k', hhead, hclosing⟩)
    · by_cases hc : c = aps
      · refine ⟨aps, k', ?_, hclosing⟩
        rw [hself]
        exact List.mem_of_mem_tail (hc ▸ hk')
      · exact ⟨c, k', by rw [hothers c hc]; exact hk', hclosing⟩
    · refine ⟨aps, k', ?_, hclosing⟩
      rw [hself]
      exact List.mem_of_head? hhead

/-- The close that completes is not that of a handle initialised anew. -/
theorem doomed_uvClosed {number : Nat} (h : s.reinitialised c number = false) :
    Doomed (s.uvClosed c number) ↔ Doomed s := by
  have hother : ∀ k ∈ (s.connections c).tail, k.phase = .closing → k.number ≠ number := by
    rintro k hk hclosing rfl
    rw [reinitialised_iff.mpr ⟨k, hk, rfl, hclosing⟩] at h
    cases h
  constructor
  · rintro ⟨d, k, hk, hclosing⟩
    by_cases hd : d = c
    swap
    · rw [connections_uvClosed_of_ne s c number hd] at hk
      exact ⟨d, k, hk, hclosing⟩
    rw [hd, connections_uvClosed_self, ← List.map_tail] at hk
    obtain ⟨k', hk', rfl⟩ := List.mem_map.mp hk
    rcases closedAs_phase number k' with hclosed | ⟨-, hphase⟩
    · rw [hclosed] at hclosing
      cases hclosing
    · exact ⟨c, k', hk', hphase.symm.trans hclosing⟩
  · rintro ⟨d, k, hk, hclosing⟩
    refine ⟨d, k, ?_, hclosing⟩
    by_cases hd : d = c
    · subst hd
      rw [connections_uvClosed_self, ← List.map_tail]
      exact List.mem_map.mpr ⟨k, hk, if_neg (hother k hk hclosing)⟩
    · rw [connections_uvClosed_of_ne s c number hd]
      exact hk

/-! ### One callback -/

/-- The close behind a failed accept finds the handle just initialised. -/
theorem refused_aborted (s : NetworkService M) (aps : ClientPtr) {result : Int}
    (hresult : result ≠ 0) : (s.refused aps result).aborted = s.aborted := by
  have hopen : ({ s.uvTcpInit aps with waiting := false } : NetworkService M).isOpen aps = true := by
    rw [isOpen_iff]
    refine ⟨.initialised (s.connections aps).length, ?_, rfl⟩
    show ((s.uvTcpInit aps).clients aps).connections.head? = _
    rw [clients_uvTcpInit_self]
    rfl
  rw [refused_eq s aps hresult, uvClose_aborted, hopen, Bool.not_true, Bool.or_false]
  rfl

theorem aborted_outline (hlive : s.aborted = false) (hu : Outline s e u) :
    u.aborted = true ↔ ClosesShut s e ∨ ClosesReinitialised s e := by
  have hkept : u.aborted = s.aborted → ¬ ClosesShut s e → ¬ ClosesReinitialised s e →
      (u.aborted = true ↔ ClosesShut s e ∨ ClosesReinitialised s e) := fun hsame hshut hagain =>
    iff_of_false (by rw [hsame, hlive]; exact Bool.false_ne_true) (not_or.mpr ⟨hshut, hagain⟩)
  have hremoved : ∀ (v : NetworkService M) c, (v.removeApsClient c).aborted = v.aborted :=
    fun v c => by rw [removeApsClient_frame]
  cases hu with
  | listenFailed hstatus => exact hkept rfl id id
  | exhausted hnone => exact hkept rfl id id
  | taken hlast => exact hkept rfl id id
  | refused hlast hresult => exact hkept (refused_aborted s _ hresult) id id
  | ended hnread => exact hkept (hremoved _ _) id id
  | data hnread hreturned => exact hkept rfl id id
  | dataRefused hnread hreturned => exact hkept rfl id id
  | wrote hfind hcallback hstatus =>
      refine hkept rfl ?_ id
      rintro ⟨x, hx, hcloses, -⟩
      cases hfind.symm.trans hx
      rcases hcloses with hresponse | hfailed
      · rw [hcallback] at hresponse
        cases hresponse
      · exact absurd hfailed (Int.not_lt.mpr hstatus)
  | @wroteThenClosed address status b x hfind hcloses =>
      rw [uvClose_aborted, isOpen_congr (connections_completed s x _)]
      show (s.aborted || !s.isOpen x.apsclient) = true ↔ _
      rw [hlive, Bool.false_or, Bool.not_eq_true']
      refine Iff.trans ?_ (or_iff_left id).symm
      constructor
      · exact fun hshut => ⟨x, hfind, hcloses, hshut⟩
      · rintro ⟨y, hy, -, hshut⟩
        cases hfind.symm.trans hy
        exact hshut
  | strayWritten hfind =>
      refine hkept rfl ?_ id
      rintro ⟨x, hx, -⟩
      rw [hfind] at hx
      cases hx
  | @closedOnly client number b hcallback =>
      show (s.aborted || s.reinitialised client number) = true ↔ _
      rw [hlive, Bool.false_or]
      exact (or_iff_right id).symm
  | @closed client number b hcallback =>
      refine hkept ((hremoved _ _).trans (uvClosed_aborted s client number hcallback)) id fun hagain => ?_
      have hnot : s.reinitialised client number = false := not_reinitialised hcallback
      rw [show s.reinitialised client number = true from hagain] at hnot
      cases hnot
  | ticked => exact hkept rfl id id
  | removed => exact hkept (hremoved _ _) id id

/-- The handle that is initialised is that of the handler that is picked. -/
theorem doomed_outline (hnot : ¬ ClosesReinitialised s e) (hu : Outline s e u) :
    Doomed u ↔ Doomed s ∨ InitialisesClosing s e := by
  have hpicked : ∀ {result b aps}, s.availableClientHandlers.getLast? = some aps →
      ((∃ k, (s.connections aps).head? = some k ∧ k.phase = .closing) ↔
        InitialisesClosing s (.listen 0 result b)) := by
    intro result b aps hlast
    constructor
    · rintro ⟨k, hhead, hclosing⟩
      exact ⟨rfl, aps, k, hlast, hhead, hclosing⟩
    · rintro ⟨-, aps', k, hlast', hhead, hclosing⟩
      cases hlast.symm.trans hlast'
      exact ⟨k, hhead, hclosing⟩
  cases hu with
  | listenFailed hstatus => exact (or_iff_left fun h => hstatus h.1).symm
  | exhausted hnone =>
      refine (or_iff_left ?_).symm
      rintro ⟨-, aps, k, hlast, -⟩
      rw [hnone] at hlast
      cases hlast
  | @taken b aps hlast =>
      rw [← hpicked hlast]
      exact doomed_host (connections_taken_self s aps) fun d hd => connections_taken_of_ne s aps hd
  | @refused result b aps hlast hresult =>
      rw [← hpicked hlast]
      exact doomed_host (connections_refused_self s aps hresult) fun d hd =>
        connections_refused_of_ne s aps hresult hd
  | ended hnread =>
      refine (doomed_congr fun c => ?_).trans (or_iff_left id).symm
      rw [connections_removeApsClient, connections_notify]
  | data hnread hreturned =>
      refine (doomed_congr fun c => ?_).trans (or_iff_left id).symm
      rw [connections_notify]
  | dataRefused hnread hreturned =>
      refine (doomed_congr fun c => ?_).trans (or_iff_left id).symm
      rw [connections_notify, connections_notify]
  | wrote hfind hcallback hstatus => exact (or_iff_left id).symm
  | @wroteThenClosed address status b x hfind hcloses =>
      exact (doomed_congr (tail_uvClose (s.completed x) _ _)).trans (or_iff_left id).symm
  | strayWritten hfind => exact (or_iff_left id).symm
  | closedOnly hcallback =>
      exact (doomed_uvClosed (Bool.eq_false_iff.mpr hnot)).trans (or_iff_left id).symm
  | @closed client number b hcallback =>
      calc Doomed ((s.uvClosed client number).removeApsClient client)
          ↔ Doomed (s.uvClosed client number) := doomed_congr fun c => by
            rw [connections_removeApsClient]
        _ ↔ Doomed s := doomed_uvClosed (Bool.eq_false_iff.mpr hnot)
        _ ↔ Doomed s ∨ InitialisesClosing s (.closed client number b) := (or_iff_left id).symm
  | ticked => exact (or_iff_left id).symm
  | removed =>
      refine (doomed_congr fun c => ?_).trans (or_iff_left id).symm
      rw [connections_removeApsClient]

theorem aborted_step (hlegal : Legal s e) :
    (s.step e).aborted = true ↔ ClosesShut s e ∨ ClosesReinitialised s e := by
  obtain ⟨u, hu, hsends⟩ := step_outline s e
  rw [hsends.aborted]
  exact aborted_outline hlegal.live hu

theorem doomed_step (hnot : ¬ ClosesReinitialised s e) :
    Doomed (s.step e) ↔ Doomed s ∨ InitialisesClosing s e := by
  obtain ⟨u, hu, hsends⟩ := step_outline s e
  rw [← doomed_outline hnot hu]
  exact doomed_congr fun c => congrArg List.tail (hsends.connections c)

/-- The process is dead or doomed after a callback if it was doomed before or the callback does it. -/
theorem dead_or_doomed_step (hlegal : Legal s e) :
    (s.step e).aborted = true ∨ Doomed (s.step e) ↔
      Doomed s ∨ ClosesShut s e ∨ InitialisesClosing s e := by
  rw [aborted_step hlegal]
  by_cases hagain : ClosesReinitialised s e
  · exact iff_of_true (Or.inl (Or.inr hagain)) (Or.inl hagain.doomed)
  · rw [doomed_step hagain, or_iff_left hagain]
    exact or_left_comm

/-- Two pieces of data, and neither can be delivered: the second failure finds the handle closing. -/
def undeliveredTwice : List (Event .plain) :=
  [.listen 0 0 (.silent _),
    .read 0 5 ⟨⟨[.sendTcpData [1] true, .sendTcpData [2] true], id⟩, 5, .silent _, .silent _⟩,
    .written 0 (-32) (.silent _), .written 1 (-125) (.silent _)]

/-- An accept fails, and the next one comes before the handle is closed. -/
def refusedThenTaken : List (Event .plain) := [.listen 0 (-24) (.silent _), .listen 0 0 (.silent _)]

end NetworkService

end AvdeccProxy
