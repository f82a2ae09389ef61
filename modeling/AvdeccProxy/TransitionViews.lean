import AvdeccProxy.TransitionRuns
import Mathlib.Data.List.Chain

/-! Two ways to look at a machine from outside. Through an abstraction, its runs are paths of a smaller
system. Through a view of one of its parts, its runs are those of a component that is given the inputs
meant for it and nothing else; what two runs do not tell the component apart by, it cannot tell apart. -/

namespace Transition

universe u v w x y

namespace Machine

variable {σ : Type u} {ε : Type v} {τ : Type w} (M : Machine σ ε)

theorem run_append (s : σ) (events more : List ε) :
    M.run s (events ++ more) = M.run (M.run s events) more := List.foldl_append

variable {M}

theorem steps_append {ok : σ → ε → Prop} {s : σ} {events more : List ε} :
    M.Steps ok s (events ++ more) ↔ M.Steps ok s events ∧ M.Steps ok (M.run s events) more := by
  induction events generalizing s with
  | nil => exact (and_iff_right trivial).symm
  | cons e events ih => exact (and_congr_right fun _ => ih).trans and_assoc.symm

/-- The guard of each step with what the run's states satisfy. -/
theorem Steps.and_visits {ok : σ → ε → Prop} {I : σ → Prop} {s : σ} {events : List ε}
    (hok : M.Steps ok s events) (hI : M.Visits I s events) :
    M.Steps (fun s e => I s ∧ ok s e) s events :=
  steps_of_invariant (fun _ _ h hok => ⟨h, hok⟩) hI hok

/-! ### Abstractions -/

variable (M)

/-- The states of a run, from the first on. -/
def path (s : σ) : List ε → List σ
  | [] => [s]
  | e :: events => s :: path (M.step s e) events

variable {M}

theorem visits_iff_path {P : σ → Prop} {s : σ} {events : List ε} :
    M.Visits P s events ↔ ∀ u ∈ M.path s events, P u := by
  induction events generalizing s with
  | nil =>
      show P s ↔ ∀ u ∈ [s], P u
      rw [List.forall_mem_singleton]
  | cons e events ih =>
      show P s ∧ M.Visits P (M.step s e) events ↔ ∀ u ∈ s :: M.path (M.step s e) events, P u
      rw [List.forall_mem_cons, ih]

theorem path_eq_cons (s : σ) (events : List ε) : M.path s events = s :: (M.path s events).tail := by
  cases events with
  | nil => rfl
  | cons e events => rfl

/-- **Abstraction.** When every step is one of an abstract system, the states of a run are a path there. -/
theorem isChain_path {ok : σ → ε → Prop} {R : τ → τ → Prop} {abstract : σ → τ}
    (hstep : ∀ s e, ok s e → R (abstract s) (abstract (M.step s e))) {s : σ} {events : List ε}
    (hok : M.Steps ok s events) : ((M.path s events).map abstract).IsChain R := by
  induction events generalizing s with
  | nil => exact List.isChain_singleton _
  | cons e events ih =>
      have hrest := ih hok.2
      have hfirst := hstep s e hok.1
      cases events with
      | nil => exact List.isChain_pair.mpr hfirst
      | cons e' events => exact List.isChain_cons_cons.mpr ⟨hfirst, hrest⟩

/-! ### Images -/

variable {σ' : Type w} {ε' : Type x} {M' : Machine σ' ε'} {f : σ → σ'} {g : ε → ε'} {ok : σ → ε → Prop}

/-- **Images.** A map of states and events that commutes with the steps takes a run to a run. -/
theorem run_map (hstep : ∀ s e, ok s e → f (M.step s e) = M'.step (f s) (g e)) {s : σ}
    {events : List ε} (hok : M.Steps ok s events) :
    f (M.run s events) = M'.run (f s) (events.map g) := by
  induction events generalizing s with
  | nil => rfl
  | cons e events ih =>
      show f (M.run (M.step s e) events) = M'.run (M'.step (f s) (g e)) (events.map g)
      rw [ih hok.2, hstep s e hok.1]

theorem steps_map {before : σ → ε → Prop} {after : σ' → ε' → Prop}
    (hstep : ∀ s e, ok s e → f (M.step s e) = M'.step (f s) (g e)) {s : σ} {events : List ε}
    (hok : M.Steps ok s events) (hguard : ∀ s e, before s e → after (f s) (g e))
    (hbefore : M.Steps before s events) : M'.Steps after (f s) (events.map g) := by
  induction events generalizing s with
  | nil => trivial
  | cons e events ih =>
      refine ⟨hguard s e hbefore.1, ?_⟩
      rw [← hstep s e hok.1]
      exact ih hok.2 hbefore.2

end Machine

/-! ### Components -/

/-- A component answers each input with its next state and its outputs. -/
structure Component (τ : Type w) (δ : Type x) (ω : Type y) where
  react : τ → δ → τ × List ω

namespace Component

variable {τ : Type w} {δ : Type x} {ω : Type y} (N : Component τ δ ω)

/-- The state a list of inputs leads to, and all outputs on the way. -/
def reacts (t : τ) : List δ → τ × List ω
  | [] => (t, [])
  | input :: inputs =>
      let (t', outputs) := N.react t input
      let (last, more) := reacts t' inputs
      (last, outputs ++ more)

theorem reacts_singleton (t : τ) (input : δ) : N.reacts t [input] = N.react t input := by
  show ((N.react t input).1, (N.react t input).2 ++ []) = N.react t input
  rw [List.append_nil]

theorem reacts_append (t : τ) (inputs more : List δ) :
    N.reacts t (inputs ++ more) = ((N.reacts (N.reacts t inputs).1 more).1,
      (N.reacts t inputs).2 ++ (N.reacts (N.reacts t inputs).1 more).2) := by
  induction inputs generalizing t with
  | nil => rfl
  | cons input inputs ih =>
      have hrest := ih (N.react t input).1
      simp only [List.cons_append, reacts, hrest, List.append_assoc]

/-- The inputs, each with the state it finds. -/
def course (t : τ) : List δ → List (τ × δ)
  | [] => []
  | input :: inputs => (t, input) :: course (N.react t input).1 inputs

theorem outputs_eq_course (t : τ) (inputs : List δ) :
    (N.reacts t inputs).2 = (N.course t inputs).flatMap fun p => (N.react p.1 p.2).2 := by
  induction inputs generalizing t with
  | nil => rfl
  | cons input inputs ih =>
      rw [course, List.flatMap_cons, ← ih]
      rfl

end Component

/-- A part of a machine, with the inputs an event holds for it and the outputs a step makes of it. -/
structure View {σ : Type u} {ε : Type v} {τ : Type w} {δ : Type x} {ω : Type y} (M : Machine σ ε)
    (N : Component τ δ ω) where
  state : σ → τ
  inputs : σ → ε → List δ
  outputs : σ → ε → List ω

namespace View

variable {σ : Type u} {ε : Type v} {τ : Type w} {δ : Type x} {ω : Type y} {M M' : Machine σ ε}
  {N : Component τ δ ω} (V : View M N) (V' : View M' N)

/-- The step does to the part what its inputs do to the component. -/
def Faithful (s : σ) (e : ε) : Prop :=
  N.reacts (V.state s) (V.inputs s e) = (V.state (M.step s e), V.outputs s e)

/-- What a run holds for the part. -/
def runInputs (s : σ) : List ε → List δ
  | [] => []
  | e :: events => V.inputs s e ++ runInputs (M.step s e) events

def runOutputs (s : σ) : List ε → List ω
  | [] => []
  | e :: events => V.outputs s e ++ runOutputs (M.step s e) events

variable {V V'}

/-- **Components.** A part viewed faithfully goes through a run as the component goes through its inputs. -/
theorem reacts_run {s : σ} {events : List ε} (h : M.Steps V.Faithful s events) :
    N.reacts (V.state s) (V.runInputs s events) =
      (V.state (M.run s events), V.runOutputs s events) := by
  induction events generalizing s with
  | nil => rfl
  | cons e events ih =>
      have hfirst : N.reacts (V.state s) (V.inputs s e) =
          (V.state (M.step s e), V.outputs s e) := h.1
      rw [runInputs, Component.reacts_append, hfirst, ih h.2]
      rfl

/-- **Noninterference.** Two runs that start a part alike and hold the same inputs for it leave it alike,
with the same outputs. -/
theorem noninterference {s s' : σ} {events events' : List ε} (h : M.Steps V.Faithful s events)
    (h' : M'.Steps V'.Faithful s' events') (hstart : V.state s = V'.state s')
    (hinputs : V.runInputs s events = V'.runInputs s' events') :
    V.state (M.run s events) = V'.state (M'.run s' events') ∧
      V.runOutputs s events = V'.runOutputs s' events' := by
  have hrun := reacts_run h
  rw [hstart, hinputs, reacts_run h'] at hrun
  exact ⟨(congrArg Prod.fst hrun).symm, (congrArg Prod.snd hrun).symm⟩

/-- **Monitors.** Every part has a monitor that moves with its inputs or refuses them. When the invariant `J`
ties the monitors to the state, and a step that leads to a state satisfying `P` is never refused, a run
stays in `P` exactly when no monitor refuses what the run holds for its own part. -/
theorem visits_iff_monitored {ι : Type*} {π : Type*} {V : ι → View M N} {next : π → δ → Option π}
    {guard : σ → ε → Prop} {J : σ → (ι → π) → Prop} {P : σ → Prop} (hsafe : ∀ s p, J s p → P s)
    (hstep : ∀ s e p p', J s p → guard s e →
      (∀ i, ((V i).inputs s e).foldlM next (p i) = some (p' i)) → J (M.step s e) p')
    (hrefused : ∀ s e p, J s p → guard s e → P (M.step s e) →
      ∀ i, (((V i).inputs s e).foldlM next (p i)).isSome = true)
    {s : σ} {p : ι → π} {events : List ε} (hJ : J s p) (hguard : M.Steps guard s events) :
    M.Visits P s events ↔
      ∀ i, (((V i).runInputs s events).foldlM next (p i)).isSome = true := by
  induction events generalizing s p with
  | nil => exact iff_of_true (hsafe s p hJ) fun _ => rfl
  | cons e events ih =>
      have hcons (i : ι) : ((V i).runInputs s (e :: events)).foldlM next (p i) =
          (((V i).inputs s e).foldlM next (p i)).bind
            (((V i).runInputs (M.step s e) events).foldlM next) := List.foldlM_append
      have hfirst : (∀ i, (((V i).inputs s e).foldlM next (p i)).isSome = true) →
          ∃ p', J (M.step s e) p' ∧
            ∀ i, ((V i).inputs s e).foldlM next (p i) = some (p' i) := fun h =>
        have hmoved := fun i => (Option.some_get (h i)).symm
        ⟨_, hstep s e p _ hJ hguard.1 hmoved, hmoved⟩
      constructor
      · intro h i
        obtain ⟨p', hJ', hmoved⟩ := hfirst (hrefused s e p hJ hguard.1 h.2.head)
        rw [hcons, hmoved]
        exact (ih hJ' hguard.2).mp h.2 i
      · intro h
        have hallowed (i : ι) : (((V i).inputs s e).foldlM next (p i)).isSome = true :=
          Option.isSome_of_isSome_bind (hcons i ▸ h i)
        obtain ⟨p', hJ', hmoved⟩ := hfirst hallowed
        refine ⟨hsafe s p hJ, (ih hJ' hguard.2).mpr fun i => ?_⟩
        have hrun := h i
        rw [hcons, hmoved] at hrun
        exact hrun

end View

end Transition
