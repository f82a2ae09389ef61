import Mathlib.Data.List.Perm.Basic
import Mathlib.Data.List.Nodup

/-! Resources that are handed out and taken back. The pool keeps two lists, the resources in use and
the free ones; it hands out the most recently freed resource and frees a resource by moving it from
one list to the other. What is conserved is the multiset of the two lists together. -/

namespace ResourcePool
open scoped List

variable {α : Type*}

/-- The two lists together hold exactly the resources of `all`. -/
def Conserved (all used free : List α) : Prop := used ++ free ~ all

namespace Conserved

variable {all used free : List α} {x : α}

theorem take (h : Conserved all used free) (hx : free.getLast? = some x) :
    Conserved all (used ++ [x]) free.dropLast := by
  have hfree : free = free.dropLast ++ [x] := by
    rw [List.getLast?_eq_some_iff] at hx
    obtain ⟨front, rfl⟩ := hx
    rw [List.dropLast_concat]
  have hmove : used ++ [x] ++ free.dropLast ~ used ++ (free.dropLast ++ [x]) := by
    rw [List.append_assoc]
    exact List.Perm.append_left used List.perm_append_comm
  rw [← hfree] at hmove
  exact hmove.trans h

theorem give_of_perm {rest : List α} (h : Conserved all used free) (hx : used ~ x :: rest) :
    Conserved all rest (free ++ [x]) := by
  calc
    rest ++ (free ++ [x]) ~ rest ++ ([x] ++ free) :=
      List.Perm.append_left _ List.perm_append_comm
    _ = rest ++ [x] ++ free := by rw [List.append_assoc]
    _ ~ x :: rest ++ free :=
      List.Perm.append_right _ (List.perm_append_singleton _ _)
    _ ~ used ++ free := List.Perm.append_right _ hx.symm
    _ ~ all := h

theorem give [DecidableEq α] (h : Conserved all used free) (hx : x ∈ used) :
    Conserved all (used.erase x) (free ++ [x]) :=
  h.give_of_perm (List.perm_cons_erase hx)

/-- New resources come into the world in use. -/
theorem grow (h : Conserved all used free) (new : List α) :
    Conserved (all ++ new) (used ++ new) free := by
  calc
    used ++ new ++ free ~ used ++ (free ++ new) := by
      rw [List.append_assoc]
      exact List.Perm.append_left used List.perm_append_comm
    _ = used ++ free ++ new := by rw [List.append_assoc]
    _ ~ all ++ new := List.Perm.append_right new h

theorem nodup (h : Conserved all used free) (hall : all.Nodup) : (used ++ free).Nodup :=
  h.nodup_iff.mpr hall

theorem used_nodup (h : Conserved all used free) (hall : all.Nodup) : used.Nodup :=
  (List.nodup_append.mp (h.nodup hall)).1

theorem not_mem_free (h : Conserved all used free) (hall : all.Nodup) (hx : x ∈ used) :
    x ∉ free := fun hfree => (List.nodup_append.mp (h.nodup hall)).2.2 x hx x hfree rfl

theorem mem_all (h : Conserved all used free) : x ∈ all ↔ x ∈ used ∨ x ∈ free := by
  rw [← List.Perm.mem_iff h, List.mem_append]

theorem length_used_le (h : Conserved all used free) : used.length ≤ all.length := by
  have hlength := h.length_eq
  rw [List.length_append] at hlength
  omega

/-- A resource freed twice breaks conservation: it is in the list of free resources two times. -/
theorem not_of_two_le_count [DecidableEq α] (hall : all.Nodup) (hx : 2 ≤ free.count x) :
    ¬ Conserved all used free := by
  intro h
  have hle : (used ++ free).count x ≤ 1 := List.nodup_iff_count_le_one.mp (h.nodup hall) x
  rw [List.count_append] at hle
  omega

end Conserved

end ResourcePool
