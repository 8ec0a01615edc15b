import Mathlib.Algebra.Order.Ring.Nat
import Mathlib.Logic.Function.Iterate
import Mathlib.Tactic.Linarith
import Mathlib.Tactic.Ring

/-!
# A low-pass filter over the integers

The average is weighted `k` times against each sample and rounded down. It comes to where
the samples are, from below only up to the `k` that the rounding loses.
-/

namespace SystemMaster.LowPass

variable {k a b c x lo hi n d : Nat} {xs : List Nat}

def step (k a x : Nat) : Nat := (x + k * a) / (k + 1)

def filter (k a : Nat) (xs : List Nat) : Nat := xs.foldl (step k) a

/-- How far the average is from the samples between `lo` and `hi`, of which it may stay `k` short. -/
def distance (k lo hi a : Nat) : Nat := max (lo - k - a) (a - hi)

def shrink (k d : Nat) : Nat := k * d / (k + 1)

@[simp] theorem filter_cons : filter k a (x :: xs) = filter k (step k a x) xs := rfl

@[simp] theorem shrink_zero : shrink k 0 = 0 := by simp [shrink]

theorem shrink_mono (h : c ≤ d) : shrink k c ≤ shrink k d :=
  Nat.div_le_div_right (Nat.mul_le_mul_left k h)

theorem distance_eq_zero : distance k lo hi a = 0 ↔ lo ≤ a + k ∧ a ≤ hi := by
  rw [distance, Nat.max_eq_zero_iff]
  omega

theorem step_mono (ha : a ≤ b) (hx : x ≤ c) : step k a x ≤ step k b c :=
  Nat.div_le_div_right (Nat.add_le_add hx (Nat.mul_le_mul_left k ha))

theorem step_stalls (h : a ≤ c) (h' : c ≤ a + k) : step k a c = a := by
  obtain ⟨j, rfl⟩ := Nat.exists_eq_add_of_le h
  have hsum : a + j + k * a = j + (k + 1) * a := by ring
  rw [step, hsum, Nat.add_mul_div_left _ _ (by omega), Nat.div_eq_of_lt (by omega), Nat.zero_add]

theorem step_le (ha : a ≤ b) (hx : x ≤ b) : step k a x ≤ b :=
  (step_mono ha hx).trans (step_stalls le_rfl (Nat.le_add_right b k)).le

theorem step_above (hx : x ≤ hi) : step k a x - hi ≤ shrink k (a - hi) := by
  rcases Nat.le_total a hi with h | h
  · rw [Nat.sub_eq_zero_of_le (step_le h hx)]
    exact Nat.zero_le _
  · obtain ⟨e, rfl⟩ := Nat.exists_eq_add_of_le h
    have hsum : hi + k * (hi + e) = k * e + (k + 1) * hi := by ring
    have hle : step k (hi + e) x ≤ shrink k e + hi :=
      calc step k (hi + e) x ≤ step k (hi + e) hi := step_mono le_rfl hx
        _ = shrink k e + hi := by
          rw [step, shrink, hsum, Nat.add_mul_div_left _ _ (by omega)]
    rw [Nat.add_sub_cancel_left]
    exact Nat.sub_le_iff_le_add.mpr hle

theorem le_parts (k d : Nat) : d ≤ (k + d) / (k + 1) + shrink k d := by
  have hup : k + d < (k + 1) * ((k + d) / (k + 1) + 1) := Nat.lt_mul_div_succ _ (by omega)
  have hdown : k * d < (k + 1) * (shrink k d + 1) := Nat.lt_mul_div_succ _ (by omega)
  by_contra hlt
  have hmul : (k + 1) * ((k + d) / (k + 1) + shrink k d + 1) ≤ (k + 1) * d :=
    Nat.mul_le_mul_left (k + 1) (by omega)
  nlinarith

theorem step_below (hx : lo ≤ x) : lo - k - step k a x ≤ shrink k (lo - k - a) := by
  have hmono : step k a lo ≤ step k a x := step_mono le_rfl hx
  refine (Nat.sub_le_sub_left hmono _).trans ?_
  rcases Nat.le_total (lo - k) a with h | h
  · have hsmall : (lo - k) * (k + 1) ≤ lo + k * a := by
      have hmul : k * (lo - k) ≤ k * a := Nat.mul_le_mul_left k h
      calc (lo - k) * (k + 1) = k * (lo - k) + (lo - k) := by ring
        _ ≤ k * a + lo := Nat.add_le_add hmul (Nat.sub_le lo k)
        _ = lo + k * a := Nat.add_comm _ _
    have hstep : lo - k ≤ step k a lo := (Nat.le_div_iff_mul_le (by omega)).mpr hsmall
    omega
  · obtain ⟨d, hd⟩ := Nat.exists_eq_add_of_le h
    rcases Nat.eq_zero_or_pos d with rfl | hpos
    · have hstep : a ≤ step k a lo := (step_stalls le_rfl (Nat.le_add_right a k)).ge.trans
        (step_mono le_rfl (by omega))
      omega
    · obtain rfl : lo = k + a + d := by omega
      have hsum : k + a + d + k * a = k + d + (k + 1) * a := by ring
      have hparts := le_parts k d
      rw [step, hsum, Nat.add_mul_div_left _ _ (by omega), hd, Nat.add_sub_cancel_left]
      omega

theorem step_distance (hx : lo ≤ x) (hx' : x ≤ hi) :
    distance k lo hi (step k a x) ≤ shrink k (distance k lo hi a) := by
  exact max_le ((step_below hx).trans (shrink_mono (le_max_left _ _)))
    ((step_above hx').trans (shrink_mono (le_max_right _ _)))

theorem filter_distance (hxs : ∀ x ∈ xs, lo ≤ x ∧ x ≤ hi) :
    distance k lo hi (filter k a xs) ≤ (shrink k)^[xs.length] (distance k lo hi a) := by
  induction xs generalizing a with
  | nil => exact le_rfl
  | cons x xs ih =>
    obtain ⟨⟨hlo, hhi⟩, hrest⟩ := List.forall_mem_cons.mp hxs
    refine (ih hrest).trans ?_
    exact (Monotone.iterate (fun _ _ => shrink_mono) xs.length) (step_distance hlo hhi)

theorem shrink_iterate_le : (shrink k)^[n] d * (k + 1) ^ n ≤ d * k ^ n := by
  induction n generalizing d with
  | zero => simp
  | succ n ih =>
    calc (shrink k)^[n] (shrink k d) * (k + 1) ^ (n + 1)
        = (shrink k)^[n] (shrink k d) * (k + 1) ^ n * (k + 1) := by ring
      _ ≤ shrink k d * k ^ n * (k + 1) := Nat.mul_le_mul_right _ ih
      _ = shrink k d * (k + 1) * k ^ n := by ring
      _ ≤ k * d * k ^ n := Nat.mul_le_mul_right _ (Nat.div_mul_le_self _ _)
      _ = d * k ^ (n + 1) := by ring

theorem filter_settles (hxs : ∀ x ∈ xs, lo ≤ x ∧ x ≤ hi)
    (henough : distance k lo hi a * k ^ xs.length < (k + 1) ^ xs.length) :
    lo ≤ filter k a xs + k ∧ filter k a xs ≤ hi := by
  rw [← distance_eq_zero]
  have hzero : (shrink k)^[xs.length] (distance k lo hi a) = 0 := by
    by_contra hne
    have hle : 1 * (k + 1) ^ xs.length ≤ (shrink k)^[xs.length] (distance k lo hi a) *
        (k + 1) ^ xs.length := Nat.mul_le_mul_right _ (Nat.pos_of_ne_zero hne)
    have hfalls : (shrink k)^[xs.length] (distance k lo hi a) * (k + 1) ^ xs.length ≤
        distance k lo hi a * k ^ xs.length := shrink_iterate_le
    omega
  exact Nat.le_zero.mp (hzero ▸ filter_distance hxs)

theorem filter_le (ha : a ≤ b) (hxs : ∀ x ∈ xs, x ≤ b) : filter k a xs ≤ b := by
  induction xs generalizing a with
  | nil => exact ha
  | cons x xs ih =>
    obtain ⟨hx, hrest⟩ := List.forall_mem_cons.mp hxs
    exact ih (step_le ha hx) hrest

theorem filter_stalls (h : a ≤ c) (h' : c ≤ a + k) (hxs : ∀ x ∈ xs, x = c) : filter k a xs = a := by
  induction xs with
  | nil => rfl
  | cons x xs ih =>
    obtain ⟨rfl, hrest⟩ := List.forall_mem_cons.mp hxs
    rw [filter_cons, step_stalls h h', ih hrest]

end SystemMaster.LowPass
