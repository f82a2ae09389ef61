import AvdeccProxy.ServiceOutline

/-! The tick. The loop of `onTick` walks the active list while the state machines it calls run, and the
iterator stays good because nothing they can call touches the list: every state in the course of a tick
has the lists the tick began with. -/

namespace AvdeccProxy

namespace NetworkService

open ApsClient

variable {M : Mcu} {A : ClientPtr → Prop} {s t u : NetworkService M} {c : ClientPtr}

/-- The two handler lists are the same. -/
def SameLists (s t : NetworkService M) : Prop :=
  t.activeClientHandlers = s.activeClientHandlers ∧
    t.availableClientHandlers = s.availableClientHandlers

theorem SameLists.trans (h : SameLists s t) (h' : SameLists t u) : SameLists s u :=
  ⟨h'.1.trans h.1, h'.2.trans h.2⟩

theorem Sends.sameLists (h : Sends A s t) : SameLists s t := ⟨h.active, h.available⟩

/-! ### The course of a tick -/

/-- The states before, between and after the calls of a state machine. -/
def callStates (c : ClientPtr) : List Call → NetworkService M → List (NetworkService M)
  | [], s => [s]
  | request :: requests, s => s :: callStates c requests (call s c request)

/-- The states in the course of a method of a state machine. -/
def performStates (s : NetworkService M) (c : ClientPtr) (b : Behaviour M) :
    List (NetworkService M) :=
  callStates c b.calls s ++ [perform s c b]

/-- The states in the course of the loop of `onTick` from the iterator's position on. -/
def onTickFromStates (b : ClientPtr → TickBehaviour M) :
    Nat → Nat → NetworkService M → List (NetworkService M)
  | 0, _, s => [s]
  | fuel + 1, i, s =>
      match s.activeClientHandlers[i]? with
      | none => [s]
      | some c =>
          let ticked := perform s c (b c).onTimeTick
          performStates s c (b c).onTimeTick ++ performStates ticked c (b c).run ++
            onTickFromStates b fuel (i + 1) (ApsClient.run ticked c (b c).run)

def onTickStates (s : NetworkService M) (b : ClientPtr → TickBehaviour M) :
    List (NetworkService M) :=
  onTickFromStates b (s.activeClientHandlers.length + 1) 0 s

/-- The course of the loop ends where the loop ends. -/
theorem getLast?_onTickFromStates (b : ClientPtr → TickBehaviour M) (time : UInt32) (fuel i : Nat)
    (s : NetworkService M) :
    (onTickFromStates b fuel i s).getLast? = some (onTickFrom b time fuel i s).1 := by
  induction fuel generalizing i s with
  | zero => rfl
  | succ fuel ih =>
      unfold onTickFromStates onTickFrom
      cases hc : s.activeClientHandlers[i]? with
      | none => rfl
      | some c =>
          have hrest := ih (i + 1) (ApsClient.run (perform s c (b c).onTimeTick) c (b c).run)
          simp only [List.getLast?_append, hrest, Option.some_or]

/-! ### No call touches the lists -/

theorem sends_of_mem_callStates (hA : A c) (requests : List Call)
    (hu : u ∈ callStates c requests s) : Sends A s u := by
  induction requests generalizing s with
  | nil =>
      rw [List.mem_singleton.mp hu]
  | cons request requests ih =>
      rcases List.mem_cons.mp hu with rfl | hu
      · exact Sends.refl A _
      · exact (call_sends hA request).trans (ih hu)

/-- All that happens in the course of a method is that some of its calls are made. -/
theorem sends_of_mem_performStates (hA : A c) {b : Behaviour M} (hu : u ∈ performStates s c b) :
    Sends A s u := by
  rcases List.mem_append.mp hu with hu | hu
  · exact sends_of_mem_callStates hA b.calls hu
  · rw [List.mem_singleton.mp hu]
    exact perform_sends hA b

theorem sameLists_perform (s : NetworkService M) (c : ClientPtr) (b : Behaviour M) :
    SameLists s (perform s c b) := (perform_sends (A := fun _ => True) trivial b).sameLists

theorem sends_of_mem_onTickFromStates (b : ClientPtr → TickBehaviour M) (fuel i : Nat)
    (hA : ∀ c, A c) (hu : u ∈ onTickFromStates b fuel i s) : Sends A s u := by
  induction fuel generalizing i s with
  | zero =>
      rw [List.mem_singleton.mp hu]
  | succ fuel ih =>
      unfold onTickFromStates at hu
      cases hc : s.activeClientHandlers[i]? with
      | none =>
          simp only [hc] at hu
          rw [List.mem_singleton.mp hu]
      | some c =>
          simp only [hc] at hu
          have hticked : Sends A s (perform s c (b c).onTimeTick) := perform_sends (hA c) _
          rcases List.mem_append.mp hu with hu | hu
          · rcases List.mem_append.mp hu with hu | hu
            · exact sends_of_mem_performStates (hA c) hu
            · exact hticked.trans (sends_of_mem_performStates (hA c) hu)
          · exact (hticked.trans (perform_sends (hA c) (b c).run)).trans (ih (i + 1) hu)

/-! ### Every handler is visited -/

/-- What a tick calls on one handler. -/
def visit (timeInSeconds : UInt32) (c : ClientPtr) : List TickCall :=
  [.onTimeTick c timeInSeconds, .run c]

/-- From the iterator's position on, the handlers left in the list are visited in order. -/
theorem onTickFrom_visits (b : ClientPtr → TickBehaviour M) (time : UInt32) (fuel i : Nat)
    (hfuel : s.activeClientHandlers.length ≤ i + fuel) :
    (onTickFrom b time fuel i s).2 = (s.activeClientHandlers.drop i).flatMap (visit time) := by
  induction fuel generalizing i s with
  | zero =>
      rw [List.drop_eq_nil_of_le (by omega)]
      rfl
  | succ fuel ih =>
      unfold onTickFrom
      cases hc : s.activeClientHandlers[i]? with
      | none =>
          rw [List.drop_eq_nil_of_le (List.getElem?_eq_none_iff.mp hc)]
          rfl
      | some c =>
          obtain ⟨hi, hget⟩ := List.getElem?_eq_some_iff.mp hc
          have hrun := (sameLists_perform s c (b c).onTimeTick).trans
            (sameLists_perform _ c (b c).run)
          have hrest := ih (s := ApsClient.run (perform s c (b c).onTimeTick) c (b c).run) (i + 1)
            (by rw [ApsClient.run, hrun.1]; omega)
          rw [ApsClient.run, hrun.1] at hrest
          rw [List.drop_eq_getElem_cons hi, hget, List.flatMap_cons, ← hrest]
          rfl

/-- **Ticks.** A tick calls `onTimeTick` and then `run` once for each handler of the active list, in its
order and with one time, and the two lists are as the tick found them in every state on the way. -/
theorem onTick_visits (s : NetworkService M) (timestamp : Nat) (b : ClientPtr → TickBehaviour M) :
    (s.onTick timestamp b).2 =
        s.activeClientHandlers.flatMap (visit (UInt32.ofNat (timestamp / 1000000))) ∧
      SameLists s (s.onTick timestamp b).1 ∧
      (s.onTickStates b).getLast? = some (s.onTick timestamp b).1 ∧
      ∀ u ∈ s.onTickStates b, SameLists s u := by
  have hlast : (s.onTickStates b).getLast? = some (s.onTick timestamp b).1 :=
    getLast?_onTickFromStates b _ _ 0 s
  have hstates : ∀ u ∈ s.onTickStates b, SameLists s u := fun u hu =>
    (sends_of_mem_onTickFromStates (A := fun _ => True) b _ 0 (fun _ => trivial) hu).sameLists
  refine ⟨?_, hstates _ (List.mem_of_getLast? hlast), hlast, hstates⟩
  exact onTickFrom_visits b _ _ 0 (by omega)

end NetworkService

end AvdeccProxy
