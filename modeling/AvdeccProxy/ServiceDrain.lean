import AvdeccProxy.SlotRelease

/-! Whether the proxy can come to rest. It can as long as the process is not doomed and no active handler is
stuck: the handlers come back one after another, and none of them is in the way of the next. A stuck handler
is active for the rest of the run. -/

namespace AvdeccProxy

namespace NetworkService

open ApsClient Transition

variable {M : Mcu} {s t u : NetworkService M} {e : Event M} {c d : ClientPtr} {maxClients : Int}

/-- No client is active, and the process is alive and not doomed. -/
structure AtRest (s : NetworkService M) : Prop where
  live : s.aborted = false
  notDoomed : ¬ Doomed s
  inactive : s.activeClientHandlers = []

/-- What happens to one handler does not make another one stuck. -/
theorem OthersKept.stuck (h : OthersKept c s t) (hd : d ≠ c) (hstuck : Stuck t d) : Stuck s d := by
  obtain ⟨k, hhead, hclosing, x, hx, hclient, hnumber, hresponse⟩ := hstuck
  have hother : x.apsclient ≠ c := by
    rw [hclient]
    exact hd
  exact ⟨k, h.connections d hd ▸ hhead, hclosing, x, (h.owed x hother).mp hx, hclient, hnumber,
    hresponse⟩

theorem activeServing_run {more : List (Event M)} (hsound : Sound maxClients s)
    (hserving : ActiveServing s) (hlegal : (service M).Legal s more) :
    Sound maxClients ((service M).run s more) ∧ ActiveServing ((service M).run s more) :=
  (Machine.visits_of_preserved (M := service M) (I := fun s => Sound maxClients s ∧ ActiveServing s)
    (fun _ _ h hl => ⟨h.1.step hl, h.2.step h.1 hl⟩) ⟨hsound, hserving⟩ hlegal).last

/-- The active handlers, all of them on the list, come back in its order. -/
theorem exists_drain (clients : List ClientPtr) (hsound : Sound maxClients s)
    (hserving : ActiveServing s) (hlive : s.aborted = false) (hdoomed : ¬ Doomed s)
    (hlisted : ∀ c ∈ s.activeClientHandlers, c ∈ clients)
    (hfree : ∀ c ∈ s.activeClientHandlers, ¬ Stuck s c) :
    ∃ more, (service M).Legal s more ∧ AtRest ((service M).run s more) := by
  induction clients generalizing s with
  | nil => exact ⟨[], trivial, hlive, hdoomed, List.eq_nil_iff_forall_not_mem.mpr fun c hc =>
      nomatch hlisted c hc⟩
  | cons c clients ih =>
      by_cases hc : c ∈ s.activeClientHandlers
      swap
      · refine ih hsound hserving hlive hdoomed (fun d hd => ?_) hfree
        refine (List.mem_cons.mp (hlisted d hd)).resolve_left ?_
        rintro rfl
        exact hc hd
      obtain ⟨first, hlegal, hconcerns, hlive', hdoomed', hback⟩ :=
        exists_returns hsound hserving hlive hdoomed hc (hfree c hc)
      have hkept := othersKept_run hsound hlegal hconcerns
      have hne : ∀ d ∈ ((service M).run s first).activeClientHandlers, d ≠ c := by
        rintro d hd rfl
        exact hback hd
      have hbefore : ∀ d ∈ ((service M).run s first).activeClientHandlers, d ∈ s.activeClientHandlers :=
        fun d hd => (hkept.active d (hne d hd)).mp hd
      obtain ⟨hsound', hserving'⟩ := activeServing_run hsound hserving hlegal
      obtain ⟨more, hmore, hrest⟩ := ih hsound' hserving' hlive' hdoomed'
        (fun d hd => (List.mem_cons.mp (hlisted d (hbefore d hd))).resolve_left (hne d hd))
        fun d hd hstuck => hfree d (hbefore d hd) (hkept.stuck (hne d hd) hstuck)
      refine ⟨first ++ more, Machine.steps_append.mpr ⟨hlegal, hmore⟩, ?_⟩
      rw [Machine.run_append]
      exact hrest

/-- Two clients get data; one connection is open, the other is closing with a piece in flight. -/
def openAndClosing : List (Event .plain) :=
  [.listen 0 0 (.silent _), .listen 0 0 (.silent _),
    .read 0 5 ⟨⟨[.sendTcpData [1] true], id⟩, 5, .silent _, .silent _⟩,
    .read 1 5 ⟨⟨[.sendTcpData [2] true, .sendTcpData [3] true], id⟩, 5, .silent _, .silent _⟩,
    .written 1 (-32) (.silent _)]

theorem openAndClosing_not_doomed :
    ¬ Doomed ((service .plain).run (constructed .plain 2) openAndClosing) := by
  have hsound : Sound 2 ((service .plain).run (constructed .plain 2) openAndClosing) :=
    (run_sound (by decide)).last
  rw [doomed_iff_pool hsound]
  decide

end NetworkService

end AvdeccProxy
