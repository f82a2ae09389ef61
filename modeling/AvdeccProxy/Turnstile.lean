import Mathlib.Data.Finset.Card
import Mathlib.Data.List.Chain

/-! A turnstile. It lets visitors in while there is room, and nobody may come to the gate while somebody
stands there. Whoever comes when it is full stays at the gate: nothing calls them in when a visitor
leaves. So the first visitor it cannot let in is the last it sees. -/

namespace Turnstile

variable {α : Type*} [DecidableEq α]

structure State (α : Type*) where
  inside : Finset α
  /-- Somebody stands at the gate. -/
  waiting : Bool

/-- The moves of a turnstile with room for `capacity` visitors. -/
inductive Move (capacity : Nat) : State α → State α → Prop where
  | idle {t} : Move capacity t t
  | enter {t x} (hgate : t.waiting = false) (hx : x ∉ t.inside)
      (hroom : t.inside.card < capacity) :
      Move capacity t { t with inside := insert x t.inside }
  | turnAway {t} (hgate : t.waiting = false) (hfull : t.inside.card = capacity) :
      Move capacity t { t with waiting := true }
  | leave {t x} : Move capacity t { t with inside := t.inside.erase x }

variable {capacity : Nat} {t u : State α} {path : List (State α)}

/-- With somebody at the gate, visitors only leave. -/
theorem Move.waiting (h : Move capacity t u) (hwaiting : t.waiting = true) :
    u.waiting = true ∧ u.inside ⊆ t.inside := by
  cases h with
  | idle => exact ⟨hwaiting, subset_rfl⟩
  | enter hgate hx hroom =>
      rw [hwaiting] at hgate
      cases hgate
  | turnAway hgate hfull =>
      rw [hwaiting] at hgate
      cases hgate
  | leave => exact ⟨hwaiting, Finset.erase_subset _ _⟩

/-- **The last visitor.** On a path from a state with somebody at the gate nobody comes in. -/
theorem waiting_of_isChain (hpath : (t :: path).IsChain (Move capacity))
    (hwaiting : t.waiting = true) : ∀ u ∈ t :: path, u.waiting = true ∧ u.inside ⊆ t.inside := by
  induction path generalizing t with
  | nil =>
      intro u hu
      rw [List.mem_singleton.mp hu]
      exact ⟨hwaiting, subset_rfl⟩
  | cons next path ih =>
      obtain ⟨hmove, hrest⟩ := List.isChain_cons_cons.mp hpath
      obtain ⟨hnext, hsub⟩ := hmove.waiting hwaiting
      intro u hu
      rcases List.mem_cons.mp hu with rfl | hu
      · exact ⟨hwaiting, subset_rfl⟩
      · obtain ⟨hu, hsub'⟩ := ih hrest hnext u hu
        exact ⟨hu, hsub'.trans hsub⟩

end Turnstile
