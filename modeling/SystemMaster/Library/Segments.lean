import Mathlib.Algebra.Order.BigOperators.Group.List
import Mathlib.Algebra.GroupWithZero.Nat
import Mathlib.Algebra.Order.Group.Nat

/-!
# A sequence cut in segments

A sequence is cut in two ways. When the segments of one cut are as long, in
order, as some segments of the other, the two cuts are the same.
-/

namespace SystemMaster.Segments

variable {α : Type*} {xss yss : List (List α)} {ks ls : List Nat}

theorem eq_of_sum_eq (hsub : ks.Sublist ls) (hpos : ∀ l ∈ ls, 0 < l) (hsum : ks.sum = ls.sum) :
    ks = ls := by
  induction hsub with
  | slnil => rfl
  | @cons ks ls l hsub ih =>
    have hle : ks.sum ≤ ls.sum := hsub.sum_le_sum fun _ _ => Nat.zero_le _
    have hl : 0 < l := hpos l List.mem_cons_self
    rw [List.sum_cons] at hsum
    omega
  | @cons_cons ks ls l hsub ih =>
    rw [List.sum_cons, List.sum_cons] at hsum
    rw [ih (fun l' hl' => hpos l' (List.mem_cons_of_mem _ hl')) (by omega)]

theorem eq_of_lengths (hjoin : xss.flatten = yss.flatten) (hne : ∀ xs ∈ xss, xs ≠ [])
    (hsub : (yss.map List.length).Sublist (xss.map List.length)) : xss = yss := by
  have hsum : (yss.map List.length).sum = (xss.map List.length).sum := by
    rw [← List.length_flatten, ← List.length_flatten, hjoin]
  refine List.eq_iff_flatten_eq.mpr ⟨hjoin, (eq_of_sum_eq hsub ?_ hsum).symm⟩
  intro l hl
  obtain ⟨xs, hxs, rfl⟩ := List.mem_map.mp hl
  exact List.length_pos_iff.mpr (hne xs hxs)

end SystemMaster.Segments
