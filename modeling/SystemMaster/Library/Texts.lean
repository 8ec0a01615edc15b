import SystemMaster.Library.Memory
import Mathlib.Data.List.TakeWhile

/-!
# Texts

A text in memory ends before the first of a letter, in C the zero. The tokens of a text
are its longest parts without the separator.
-/

namespace SystemMaster.Texts

-- ---------------------------------------------------------------------------
-- Texts in memory
-- ---------------------------------------------------------------------------

section Memory

variable {α : Type*} {m m' : Memory α} {z : α} {p : Nat} {t : List α}

/-- From `p` on the memory holds `t`, and behind it the letter `z` that ends texts. -/
def TextAt (z : α) (m : Memory α) : Nat → List α → Prop
  | p, [] => m p = z
  | p, c :: t => m p = c ∧ c ≠ z ∧ TextAt z m (p + 1) t

theorem TextAt.congr_within (h : TextAt z m p t)
    (hm : ∀ a, p ≤ a → a ≤ p + t.length → m' a = m a) : TextAt z m' p t := by
  induction t generalizing p with
  | nil => exact (hm p le_rfl le_rfl).trans h
  | cons c t ih =>
    obtain ⟨hc, hne, ht⟩ := h
    rw [List.length_cons] at hm
    exact ⟨(hm p le_rfl (by omega)).trans hc, hne, ih ht fun a _ _ => hm a (by omega) (by omega)⟩

theorem TextAt.congr (h : TextAt z m p t) (hm : ∀ a, p ≤ a → m' a = m a) : TextAt z m' p t :=
  h.congr_within fun a ha _ => hm a ha

theorem TextAt.write_behind (h : TextAt z m p t) {off : Nat} {xs : List α}
    (hoff : p + t.length < off) : TextAt z (m.write off xs) p t :=
  h.congr_within fun _ _ ha => Memory.write_of_lt (by omega)

theorem TextAt.write (h : TextAt z m p t) {off : Nat} {xs : List α} (hoff : off + xs.length ≤ p) :
    TextAt z (m.write off xs) p t :=
  h.congr fun _ ha => Memory.write_of_ge (hoff.trans ha)

theorem textAt_takeWhile [DecidableEq α] {xs : List α} (h : m.read p xs.length = xs)
    (hend : m (p + xs.length) = z) : TextAt z m p (xs.takeWhile (· ≠ z)) := by
  induction xs generalizing p with
  | nil => exact hend
  | cons x xs ih =>
    rw [List.length_cons, Nat.add_comm xs.length 1, Memory.read_append] at h
    obtain ⟨hx, hxs⟩ := List.cons.inj h
    by_cases hz : x = z
    · rw [List.takeWhile_cons_of_neg (by simpa using hz)]
      exact hx.trans hz
    · rw [List.takeWhile_cons_of_pos (by simpa using hz)]
      refine ⟨hx, hz, ih hxs ?_⟩
      rw [← hend, List.length_cons]
      congr 1
      omega

variable {u v : List α} {n : Nat}

theorem TextAt.append (h : TextAt z m p (u ++ v)) : TextAt z m (p + u.length) v := by
  induction u generalizing p with
  | nil => exact h
  | cons c u ih =>
    have hv := ih h.2.2
    rwa [Nat.add_assoc, Nat.add_comm 1] at hv

theorem TextAt.drop (h : TextAt z m p t) (hn : n ≤ t.length) : TextAt z m (p + n) (t.drop n) := by
  rw [← List.take_append_drop n t] at h
  have hdrop := h.append
  rwa [List.length_take, Nat.min_eq_left hn] at hdrop

theorem TextAt.cut (h : TextAt z m p (u ++ v)) : TextAt z (m.write (p + u.length) [z]) p u := by
  induction u generalizing p with
  | nil => exact Memory.write_at
  | cons c u ih =>
    obtain ⟨hc, hne, ht⟩ := h
    refine ⟨?_, hne, ?_⟩
    · rw [Memory.write_of_lt (by simp), hc]
    · have hu := ih ht
      rwa [Nat.add_assoc, Nat.add_comm 1] at hu

theorem textAt_write (h : z ∉ t) : TextAt z (m.write p (t ++ [z])) p t := by
  induction t generalizing m p with
  | nil => exact Memory.write_at
  | cons c t ih =>
    obtain ⟨hc, ht⟩ := List.ne_and_not_mem_of_not_mem_cons h
    rw [List.cons_append, Memory.write_cons]
    refine ⟨?_, hc.symm, ih ht⟩
    rw [Memory.write_of_lt (Nat.lt_succ_self p), Memory.write_at]

variable [DecidableEq α]

/-- The text at `p`, as far as it ends within `n` letters. -/
def textFrom (z : α) (m : Memory α) (n p : Nat) : List α := (m.read p n).takeWhile (· ≠ z)

theorem TextAt.textFrom_take (h : TextAt z m p t) : textFrom z m n p = t.take n := by
  induction t generalizing p n with
  | nil =>
    cases n with
    | zero => rfl
    | succ n =>
      have hz : m p = z := h
      rw [List.take_nil, textFrom, Nat.add_comm n 1, Memory.read_append]
      exact List.takeWhile_cons_of_neg (by simpa using hz)
  | cons c t ih =>
    cases n with
    | zero => rfl
    | succ n =>
      obtain ⟨hc, hne, ht⟩ := h
      rw [textFrom, Nat.add_comm n 1, Memory.read_append]
      refine (List.takeWhile_cons_of_pos (by simpa [hc] using hne)).trans ?_
      rw [Nat.add_comm 1, List.take_succ_cons]
      exact congrArg₂ List.cons hc (ih ht)

theorem TextAt.textFrom_eq (h : TextAt z m p t) (hn : t.length ≤ n) : textFrom z m n p = t := by
  rw [h.textFrom_take, List.take_of_length_le hn]

theorem TextAt.textFrom_eq_iff (h : TextAt z m p t) (hn : u.length < n) :
    textFrom z m n p = u.take n ↔ t = u := by
  rw [h.textFrom_take, List.take_of_length_le hn.le]
  constructor
  · intro htake
    have hlength := congrArg List.length htake
    rw [List.length_take] at hlength
    rw [← htake, List.take_of_length_le (by omega)]
  · rintro rfl
    exact List.take_of_length_le hn.le

end Memory

-- ---------------------------------------------------------------------------
-- Tokens
-- ---------------------------------------------------------------------------

section Tokens

variable {α : Type*} [DecidableEq α] {a c : α} {t u : List α}

def tokens (a : α) (t : List α) : List (List α) := (t.splitOn a).filter (· ≠ [])

@[simp] theorem tokens_nil : tokens a [] = [] := rfl

@[simp] theorem tokens_cons_self : tokens a (a :: t) = tokens a t := by
  simp [tokens, List.splitOn_cons_eq_if_modifyHead]

theorem tokens_dropWhile : tokens a (t.dropWhile (· = a)) = tokens a t := by
  induction t with
  | nil => rfl
  | cons c t ih =>
    by_cases h : c = a
    · rw [List.dropWhile_cons_of_pos (by simpa using h), ih, h, tokens_cons_self]
    · rw [List.dropWhile_cons_of_neg (by simpa using h)]

theorem ne_nil_of_mem_tokens (h : u ∈ tokens a t) : u ≠ [] := by
  simpa using (List.mem_filter.mp h).2

theorem tokens_of_notMem (h : a ∉ u) (hu : u ≠ []) : tokens a u = [u] := by
  simp [tokens, List.splitOn_eq_singleton h, hu]

theorem eq_of_dropWhile_eq_cons (h : t.dropWhile (· ≠ a) = c :: u) : c = a := by
  have hc := List.head?_dropWhile_not (· ≠ a) t
  rw [h] at hc
  simpa using hc

theorem tokens_cons_of_ne (h : c ≠ a) :
    tokens a (c :: t) = (c :: t.takeWhile (· ≠ a)) :: tokens a (t.dropWhile (· ≠ a)) := by
  have hhead : a ∉ c :: t.takeWhile (· ≠ a) := by
    refine List.not_mem_cons_of_ne_of_not_mem h.symm fun hmem => ?_
    simpa using List.mem_takeWhile_imp hmem
  have hsplit : c :: t = (c :: t.takeWhile (· ≠ a)) ++ t.dropWhile (· ≠ a) := by
    rw [List.cons_append, List.takeWhile_append_dropWhile]
  cases hrest : t.dropWhile (· ≠ a) with
  | nil =>
    rw [hrest, List.append_nil] at hsplit
    rw [hsplit, tokens_of_notMem hhead (List.cons_ne_nil _ _)]
    rfl
  | cons b rest =>
    obtain rfl : b = a := eq_of_dropWhile_eq_cons hrest
    rw [hrest] at hsplit
    rw [hsplit, tokens, List.splitOn_append_cons_self, List.filter_append, tokens_cons_self,
      ← tokens, ← tokens, tokens_of_notMem hhead (List.cons_ne_nil _ _)]
    rfl

theorem tokens_eq_ite :
    tokens a t =
      if (t.dropWhile (· = a)).takeWhile (· ≠ a) = [] then []
      else (t.dropWhile (· = a)).takeWhile (· ≠ a) ::
        tokens a ((t.dropWhile (· = a)).dropWhile (· ≠ a)) := by
  rw [← tokens_dropWhile]
  cases hrest : t.dropWhile (· = a) with
  | nil => rfl
  | cons c v =>
    have hc : c ≠ a := by
      have hc := List.head?_dropWhile_not (· = a) t
      rw [hrest] at hc
      simpa using hc
    rw [List.takeWhile_cons_of_pos (by simpa using hc), if_neg (List.cons_ne_nil _ _),
      List.dropWhile_cons_of_pos (by simpa using hc), tokens_cons_of_ne hc]

end Tokens

end SystemMaster.Texts
