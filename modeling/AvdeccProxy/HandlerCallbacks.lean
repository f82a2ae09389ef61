import AvdeccProxy.HandleAborts

/-! The callbacks about one handler: reads, completed writes and completed closes. Whatever such a callback
does to its own handler, the connections of the others, their writes in flight and their places in the
active list stay as they are. -/

namespace AvdeccProxy

namespace NetworkService

open ApsClient Transition

variable {M : Mcu} {s t u : NetworkService M} {e e' : Event M} {c d : ClientPtr} {maxClients : Int}
  {x : UvWriteContext}

/-- The callback is about the connections or the writes of the handler. -/
inductive Concerns (c : ClientPtr) (s : NetworkService M) : Event M → Prop where
  | read {nread b} : Concerns c s (.read c nread b)
  | written {x status b} (hx : x ∈ s.owed) (hclient : x.apsclient = c) :
      Concerns c s (.written x.address status b)
  | closed {number b} : Concerns c s (.closed c number b)

theorem active_removeApsClient (hc : c ∈ s.activeClientHandlers) :
    (s.removeApsClient c).activeClientHandlers = s.activeClientHandlers.erase c := by
  rw [removeApsClient_of_mem hc]

namespace Concerns

/-! ### What the callback leaves alone -/

theorem eq_of_callers (hsound : Sound maxClients s) (h : Concerns c s e) (hd : s.callers e d) :
    d = c := by
  cases h with
  | read => exact hd
  | written hx hclient =>
      obtain ⟨y, hy, haddress, rfl⟩ := hd
      have hfind := hsound.find_owed hy
      rw [haddress, hsound.find_owed hx] at hfind
      cases hfind
      exact hclient
  | closed => exact hd

theorem connections_outline (hsound : Sound maxClients s) (h : Concerns c s e) (hu : Outline s e u)
    (hd : d ≠ c) : u.connections d = s.connections d := by
  cases h with
  | read =>
      cases hu with
      | ended hnread => rw [connections_removeApsClient, connections_notify]
      | data hnread hreturned => rw [connections_notify]
      | dataRefused hnread hreturned => rw [connections_notify, connections_notify]
  | @written x status b hx hclient =>
      cases hu with
      | wrote hfind hcallback hstatus => rfl
      | wroteThenClosed hfind hcloses =>
          cases (hsound.find_owed hx).symm.trans hfind
          exact connections_uvClose_of_ne (s.completed x) _ _ (hclient ▸ hd)
      | strayWritten hfind => rfl
  | closed =>
      cases hu with
      | closedOnly hcallback => exact connections_uvClosed_of_ne s c _ hd
      | closed hcallback => rw [connections_removeApsClient, connections_uvClosed_of_ne s c _ hd]

theorem connections_of_ne (hsound : Sound maxClients s) (h : Concerns c s e) (hd : d ≠ c) :
    (s.step e).connections d = s.connections d := by
  obtain ⟨u, hu, hsends⟩ := step_outline s e
  rw [hsends.connections, h.connections_outline hsound hu hd]

theorem owed_outline (hsound : Sound maxClients s) (h : Concerns c s e) (hu : Outline s e u)
    (hx : x.apsclient ≠ c) : x ∈ u.owed ↔ x ∈ s.owed := by
  cases h with
  | read =>
      cases hu with
      | ended hnread =>
          rw [removeApsClient_owed]
          exact Iff.rfl
      | data hnread hreturned => exact Iff.rfl
      | dataRefused hnread hreturned => exact Iff.rfl
  | @written y status b hy hclient =>
      have hne : x ≠ y := by
        rintro rfl
        exact hx hclient
      cases hu with
      | wrote hfind hcallback hstatus =>
          cases (hsound.find_owed hy).symm.trans hfind
          exact List.mem_erase_of_ne hne
      | wroteThenClosed hfind hcloses =>
          cases (hsound.find_owed hy).symm.trans hfind
          rw [uvClose_owed]
          exact List.mem_erase_of_ne hne
      | strayWritten hfind => exact Iff.rfl
  | closed =>
      cases hu with
      | closedOnly hcallback => exact Iff.rfl
      | closed hcallback =>
          rw [removeApsClient_owed]
          exact Iff.rfl

/-- The writes in flight of the other handlers. -/
theorem owed_of_ne (hsound : Sound maxClients s) (h : Concerns c s e) (hx : x.apsclient ≠ c) :
    x ∈ (s.step e).owed ↔ x ∈ s.owed := by
  obtain ⟨u, hu, hsends⟩ := step_outline s e
  rw [← h.owed_outline hsound hu hx]
  refine ⟨fun hmem => ?_, hsends.mem_owed⟩
  exact (hsends.of_mem_owed hmem).resolve_right fun hnew => hx (h.eq_of_callers hsound hnew.1)

/-! ### The active list -/

theorem active_of_releases (h : Concerns c s e) (hreleases : Releases s e c) :
    (s.step e).activeClientHandlers = s.activeClientHandlers.erase c := by
  obtain ⟨u, hu, hsends⟩ := step_outline s e
  rw [hsends.active]
  cases h with
  | read =>
      cases hu with
      | ended hnread => exact active_removeApsClient (s := notify s c _) hreleases.2.2
      | data hnread hreturned => exact absurd hreleases.2.1 (Int.not_le.mpr hnread)
      | dataRefused hnread hreturned => exact absurd hreleases.2.1 (Int.not_le.mpr hnread)
  | written hx hclient => exact hreleases.elim
  | closed =>
      cases hu with
      | closedOnly hcallback =>
          rw [hreleases.2.1] at hcallback
          cases hcallback
      | closed hcallback => exact active_removeApsClient (s := s.uvClosed c _) hreleases.2.2

theorem active_of_not_releases (h : Concerns c s e) (hreleases : ¬ Releases s e c) :
    (s.step e).activeClientHandlers = s.activeClientHandlers := by
  obtain ⟨u, hu, hsends⟩ := step_outline s e
  rw [hsends.active]
  cases h with
  | read =>
      cases hu with
      | ended hnread =>
          have hc : c ∉ s.activeClientHandlers := fun hc => hreleases ⟨rfl, hnread, hc⟩
          rw [removeApsClient_of_not_mem (s := notify s c _) hc]
          rfl
      | data hnread hreturned => rfl
      | dataRefused hnread hreturned => rfl
  | written hx hclient =>
      cases hu with
      | wrote hfind hcallback hstatus => rfl
      | wroteThenClosed hfind hcloses => exact uvClose_active _ _ _
      | strayWritten hfind => rfl
  | closed =>
      cases hu with
      | closedOnly hcallback => rfl
      | closed hcallback =>
          have hc : c ∉ s.activeClientHandlers := fun hc => hreleases ⟨rfl, hcallback, hc⟩
          rw [removeApsClient_of_not_mem (s := s.uvClosed c _) hc]
          rfl

theorem mem_active_of_ne (h : Concerns c s e) (hd : d ≠ c) :
    d ∈ (s.step e).activeClientHandlers ↔ d ∈ s.activeClientHandlers := by
  by_cases hreleases : Releases s e c
  · rw [h.active_of_releases hreleases, List.mem_erase_of_ne hd]
  · rw [h.active_of_not_releases hreleases]

end Concerns

/-! ### Runs -/

/-- From `s` to `t` nothing has happened to the handlers but `c`. -/
structure OthersKept (c : ClientPtr) (s t : NetworkService M) : Prop where
  connections : ∀ d, d ≠ c → t.connections d = s.connections d
  owed : ∀ x : UvWriteContext, x.apsclient ≠ c → (x ∈ t.owed ↔ x ∈ s.owed)
  active : ∀ d, d ≠ c → (d ∈ t.activeClientHandlers ↔ d ∈ s.activeClientHandlers)

theorem Concerns.othersKept (hsound : Sound maxClients s) (h : Concerns c s e) :
    OthersKept c s (s.step e) where
  connections := fun _ hd => h.connections_of_ne hsound hd
  owed := fun _ hx => h.owed_of_ne hsound hx
  active := fun _ hd => h.mem_active_of_ne hd

theorem OthersKept.trans (h : OthersKept c s t) (h' : OthersKept c t u) : OthersKept c s u where
  connections := fun d hd => (h'.connections d hd).trans (h.connections d hd)
  owed := fun x hx => (h'.owed x hx).trans (h.owed x hx)
  active := fun d hd => (h'.active d hd).trans (h.active d hd)

/-- A run of callbacks about one handler. -/
theorem othersKept_run {more : List (Event M)} (hsound : Sound maxClients s)
    (hlegal : (service M).Legal s more) (h : (service M).Steps (Concerns c) s more) :
    OthersKept c s ((service M).run s more) := by
  induction more generalizing s with
  | nil => exact ⟨fun _ _ => rfl, fun _ _ => Iff.rfl, fun _ _ => Iff.rfl⟩
  | cons e more ih =>
      exact (h.1.othersKept hsound).trans (ih (hsound.step hlegal.1) hlegal.2 h.2)

end NetworkService

end AvdeccProxy
