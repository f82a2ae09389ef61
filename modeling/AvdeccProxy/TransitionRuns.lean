import Mathlib.Logic.Basic

/-! Runs of a machine that is driven by the events of its environment. The environment chooses the
next event among the legal ones and the machine answers with its next state; every choice the
environment has, a system call's result included, is part of the event, so that a run is the list of
its events. -/

namespace Transition

universe u v

/-- A machine over states `σ` and environment events `ε`. -/
structure Machine (σ : Type u) (ε : Type v) where
  legal : σ → ε → Prop
  step : σ → ε → σ

namespace Machine

variable {σ : Type u} {ε : Type v} (M : Machine σ ε)

/-- The state a list of events leads to. -/
def run (s : σ) (events : List ε) : σ := events.foldl M.step s

/-- Every step of the run meets `ok`, which sees the state before the step and its event. -/
def Steps (ok : σ → ε → Prop) : σ → List ε → Prop
  | _, [] => True
  | s, e :: events => ok s e ∧ Steps ok (M.step s e) events

/-- Every state the run visits, the first and the last included, satisfies `P`. -/
def Visits (P : σ → Prop) : σ → List ε → Prop
  | s, [] => P s
  | s, e :: events => P s ∧ Visits P (M.step s e) events

/-- The environment keeps to its contract at every step. -/
def Legal (s : σ) (events : List ε) : Prop := M.Steps M.legal s events

/-- Some step of the run meets `p`, which sees the state before the step and its event. -/
def Sometime (p : σ → ε → Prop) : σ → List ε → Prop
  | _, [] => False
  | s, e :: events => p s e ∨ Sometime p (M.step s e) events

/-- What the steps of the run weigh together. -/
def total (weight : σ → ε → Nat) : σ → List ε → Nat
  | _, [] => 0
  | s, e :: events => weight s e + total weight (M.step s e) events

instance decidableSteps (ok : σ → ε → Prop) [∀ s e, Decidable (ok s e)] :
    ∀ s events, Decidable (M.Steps ok s events)
  | _, [] => .isTrue trivial
  | s, e :: events =>
      have := decidableSteps ok (M.step s e) events
      inferInstanceAs (Decidable (ok s e ∧ M.Steps ok (M.step s e) events))

instance decidableLegal [∀ s e, Decidable (M.legal s e)] (s : σ) (events : List ε) :
    Decidable (M.Legal s events) := inferInstanceAs (Decidable (M.Steps M.legal s events))

variable {M}

theorem steps_true (s : σ) (events : List ε) : M.Steps (fun _ _ => True) s events := by
  induction events generalizing s with
  | nil => trivial
  | cons e events ih => exact ⟨trivial, ih (M.step s e)⟩

theorem Steps.and {ok ok' : σ → ε → Prop} {s : σ} {events : List ε} (h : M.Steps ok s events)
    (h' : M.Steps ok' s events) : M.Steps (fun s e => ok s e ∧ ok' s e) s events := by
  induction events generalizing s with
  | nil => trivial
  | cons e events ih => exact ⟨⟨h.1, h'.1⟩, ih h.2 h'.2⟩

theorem Visits.head {P : σ → Prop} {s : σ} {events : List ε} (h : M.Visits P s events) : P s := by
  cases events with
  | nil => exact h
  | cons e events => exact h.1

theorem Visits.last {P : σ → Prop} {s : σ} {events : List ε} (h : M.Visits P s events) :
    P (M.run s events) := by
  induction events generalizing s with
  | nil => exact h
  | cons e events ih => exact ih h.2

theorem Visits.mono {P Q : σ → Prop} (hPQ : ∀ s, P s → Q s) {s : σ} {events : List ε}
    (h : M.Visits P s events) : M.Visits Q s events := by
  induction events generalizing s with
  | nil => exact hPQ s h
  | cons e events ih => exact ⟨hPQ s h.1, ih h.2⟩

/-- **Invariants.** What the first state satisfies and every step meeting `ok` preserves holds in every
state of a run whose steps all meet `ok`. -/
theorem visits_of_preserved {ok : σ → ε → Prop} {I : σ → Prop}
    (hstep : ∀ s e, I s → ok s e → I (M.step s e)) {s : σ} {events : List ε} (hI : I s)
    (hok : M.Steps ok s events) : M.Visits I s events := by
  induction events generalizing s with
  | nil => exact hI
  | cons e events ih => exact ⟨hI, ih (hstep s e hI hok.1) hok.2⟩

/-- A property of steps that an invariant of the states implies holds of every step of the run. -/
theorem steps_of_invariant {ok Q : σ → ε → Prop} {I : σ → Prop}
    (hQ : ∀ s e, I s → ok s e → Q s e) {s : σ} {events : List ε} (hI : M.Visits I s events)
    (hok : M.Steps ok s events) : M.Steps Q s events := by
  induction events generalizing s with
  | nil => trivial
  | cons e events ih => exact ⟨hQ s e hI.1 hok.1, ih hI.2 hok.2⟩

/-- **Exact conditions.** When a step from a sound state keeps `P` if and only if it meets `ok`, a run
stays in `P` if and only if all its steps meet `ok`. The soundness invariant `I` may rely on `P`; `guard`
is what is assumed of every step. -/
theorem visits_iff_steps {guard ok : σ → ε → Prop} {I P : σ → Prop}
    (hexact : ∀ s e, I s → P s → guard s e → (P (M.step s e) ↔ ok s e))
    (hsound : ∀ s e, I s → P s → guard s e → ok s e → I (M.step s e))
    {s : σ} {events : List ε} (hI : I s) (hP : P s) (hguard : M.Steps guard s events) :
    M.Visits P s events ↔ M.Steps ok s events := by
  induction events generalizing s with
  | nil => exact iff_of_true hP trivial
  | cons e events ih =>
      obtain ⟨hg, hrest⟩ := hguard
      constructor
      · intro h
        have hok := (hexact s e hI hP hg).mp h.2.head
        exact ⟨hok, (ih (hsound s e hI hP hg hok) h.2.head hrest).mp h.2⟩
      · intro h
        have hP' := (hexact s e hI hP hg).mpr h.1
        exact ⟨hP, (ih (hsound s e hI hP hg h.1) hP' hrest).mpr h.2⟩

/-- **Balances.** What holds with a number that every step raises by its weight holds at the end of a run
with the weight of the run. -/
theorem run_total {ok : σ → ε → Prop} {I : σ → Prop} {weight : σ → ε → Nat} {P : σ → Nat → Prop}
    (hstep : ∀ s e n, I s → ok s e → P s n → P (M.step s e) (n + weight s e)) {s : σ}
    {events : List ε} (hI : M.Visits I s events) (hok : M.Steps ok s events) {n : Nat} (h : P s n) :
    P (M.run s events) (n + M.total weight s events) := by
  induction events generalizing s n with
  | nil => exact h
  | cons e events ih =>
      rw [total, ← Nat.add_assoc]
      exact ih hI.2 hok.2 (hstep s e n hI.1 hok.1 h)

/-- **Lasting properties.** What steps bring about by meeting `makes`, and never undo, holds at the end of a
run exactly when it held at the beginning or some step of the run has met `makes`. -/
theorem lasting_iff {guard makes : σ → ε → Prop} {I P : σ → Prop}
    (hstep : ∀ s e, I s → guard s e → (P (M.step s e) ↔ P s ∨ makes s e)) {s : σ}
    {events : List ε} (hI : M.Visits I s events) (hguard : M.Steps guard s events) :
    P (M.run s events) ↔ P s ∨ M.Sometime makes s events := by
  induction events generalizing s with
  | nil => exact (or_iff_left id).symm
  | cons e events ih =>
      calc P (M.run (M.step s e) events)
          ↔ P (M.step s e) ∨ M.Sometime makes (M.step s e) events := ih hI.2 hguard.2
        _ ↔ (P s ∨ makes s e) ∨ M.Sometime makes (M.step s e) events :=
          or_congr_left (hstep s e hI.1 hguard.1)
        _ ↔ P s ∨ M.Sometime makes s (e :: events) := or_assoc

end Machine

end Transition
