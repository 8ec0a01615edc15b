import Mathlib.Data.Nat.Count
import Mathlib.Data.Nat.ModEq

/-!
# Counters that wrap

A counter goes up by one until it reaches its last value and then starts again at
zero, so that it has one value more than the number of its last one. How often it
is at most some value is counted over windows of consecutive ticks.
-/

namespace SystemMaster.Cycles

/-- The value after `c` of a counter whose last value is `last`. -/
def next (last c : Nat) : Nat := if c < last then c + 1 else 0

/-- The values of a counter, tick by tick. -/
def Counts (last : Nat) (c : Nat → Nat) : Prop := ∀ k, c (k + 1) = next last (c k)

variable {last a i : Nat} {c : Nat → Nat}

theorem next_le : next last a ≤ last := by
  unfold next
  split <;> omega

theorem Counts.le (h : Counts last c) (hi : c i ≤ last) (k : Nat) : c (i + k) ≤ last := by
  cases k with
  | zero => exact hi
  | succ k =>
    rw [← Nat.add_assoc, h]
    exact next_le

theorem Counts.eq_mod (h : Counts last c) (hi : c i ≤ last) (k : Nat) :
    c (i + k) = (c i + k) % (last + 1) := by
  induction k with
  | zero => exact (Nat.mod_eq_of_lt (Nat.lt_succ_of_le hi)).symm
  | succ k ih =>
    have hle := h.le hi k
    rw [← Nat.add_assoc, h, next, ← Nat.add_assoc, Nat.add_mod, ← ih]
    by_cases hlast : c (i + k) < last
    · have hone : 1 % (last + 1) = 1 := Nat.mod_eq_of_lt (by omega)
      rw [if_pos hlast, hone, Nat.mod_eq_of_lt (by omega)]
    · have heq : c (i + k) = last := by omega
      rw [if_neg hlast, heq, Nat.add_mod_mod, Nat.mod_self]

theorem count_of_periodic {p : Nat → Prop} [DecidablePred p] {n : Nat}
    (hp : ∀ k, p (n + k) ↔ p k) (start : Nat) :
    Nat.count (fun k => p (start + k)) n = Nat.count p n := by
  have hleft := Nat.count_add p start n
  have hright := Nat.count_add p n start
  have hback : Nat.count (fun k => p (n + k)) start = Nat.count p start := by simp only [hp]
  rw [Nat.add_comm start n, hright, hback] at hleft
  omega

theorem count_mod_le (ha : a ≤ last) (start : Nat) :
    Nat.count (fun k => (start + k) % (last + 1) ≤ a) (last + 1) = a + 1 := by
  have hperiodic : ∀ k, (last + 1 + k) % (last + 1) ≤ a ↔ k % (last + 1) ≤ a :=
    fun k => by rw [Nat.add_mod_left]
  rw [count_of_periodic (p := fun k => k % (last + 1) ≤ a) hperiodic]
  have hlow : Nat.count (fun k => k % (last + 1) ≤ a) (a + 1) = a + 1 := by
    refine Nat.count_iff_forall.mpr fun k hk => ?_
    rw [Nat.mod_eq_of_lt (by omega)]
    omega
  have hhigh : Nat.count (fun k => (a + 1 + k) % (last + 1) ≤ a) (last - a) = 0 := by
    refine Nat.count_iff_forall_not.mpr fun k hk => ?_
    rw [Nat.mod_eq_of_lt (by omega)]
    omega
  calc Nat.count (fun k => k % (last + 1) ≤ a) (last + 1)
      = Nat.count (fun k => k % (last + 1) ≤ a) (a + 1 + (last - a)) := by congr 1; omega
    _ = a + 1 := by rw [Nat.count_add, hlow, hhigh]

theorem Counts.count_period (h : Counts last c) (hi : c i ≤ last) (ha : a ≤ last) :
    Nat.count (fun k => c (i + k) ≤ a) (last + 1) = a + 1 := by
  simp only [h.eq_mod hi]
  exact count_mod_le ha (c i)

theorem Counts.count_last (h : Counts last c) (hi : c i ≤ last) (ha : a ≤ last) :
    Nat.count (fun k => c (i + k) ≤ a) last = a ↔ c (i + last) ≤ a := by
  have hperiod := h.count_period hi ha
  rw [Nat.count_succ] at hperiod
  by_cases hon : c (i + last) ≤ a
  · rw [if_pos hon] at hperiod
    exact iff_of_true (by omega) hon
  · rw [if_neg hon] at hperiod
    exact iff_of_false (by omega) hon

theorem Counts.exists_last (h : Counts last c) (hi : c i ≤ last) (m : Nat) :
    ∃ k, m ≤ k ∧ c (i + k) = last := by
  refine ⟨(last + 1) * (m + 1) - 1 - c i, ?_, ?_⟩
  · have hmul : (last + 1) * (m + 1) = last * m + last + m + 1 := by
      rw [Nat.add_mul, Nat.mul_add, Nat.mul_one, Nat.one_mul]
      omega
    have hnonneg := Nat.zero_le (last * m)
    omega
  · have hle : c i + 1 ≤ (last + 1) * (m + 1) :=
      (Nat.succ_le_succ hi).trans (Nat.le_mul_of_pos_right _ (Nat.succ_pos m))
    have hsum : c i + ((last + 1) * (m + 1) - 1 - c i) = last + (last + 1) * m := by
      rw [Nat.mul_add, Nat.mul_one] at hle ⊢
      omega
    rw [h.eq_mod hi, hsum, Nat.add_mul_mod_self_left, Nat.mod_eq_of_lt (Nat.lt_succ_self last)]

end SystemMaster.Cycles
