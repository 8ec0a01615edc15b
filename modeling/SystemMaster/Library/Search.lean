import Mathlib.Data.List.Infix

/-!
# First and last occurrences

`find pat s` is the position of the first occurrence of `pat` in `s`. The
laws say where the occurrence is, how it behaves under cutting the text at
either end, and how far a search may skip. A fold may keep the last letter of a kind.
-/

namespace SystemMaster.Search

variable {α : Type*} [DecidableEq α] {pat s t : List α} {i j n : Nat}

def find (pat : List α) : List α → Option Nat
  | [] => if pat <+: [] then some 0 else none
  | a :: s => if pat <+: a :: s then some 0 else (find pat s).map (· + 1)

/-- The last occurrence: the first one of the texts turned round. -/
def rfind (pat s : List α) : Option Nat :=
  (find pat.reverse s.reverse).map fun i => s.length - pat.length - i

theorem find_of_start (h : pat <+: s) : find pat s = some 0 := by
  cases s with
  | nil => simp only [find, if_pos h]
  | cons a s => simp only [find, if_pos h]

theorem find_cons_of_miss {a : α} (h : ¬pat <+: a :: s) :
    find pat (a :: s) = (find pat s).map (· + 1) := by
  simp only [find, if_neg h]

/-- The search answers with the least position at which the pattern starts. -/
theorem find_eq_some_iff :
    find pat s = some i ↔ i ≤ s.length ∧ pat <+: s.drop i ∧ ∀ j < i, ¬pat <+: s.drop j := by
  induction s generalizing i with
  | nil =>
    by_cases h : pat <+: []
    · rw [find_of_start h]
      constructor
      · rintro ⟨⟩
        exact ⟨by simp, by simpa using h, by simp⟩
      · rintro ⟨hi, _, _⟩
        simp only [List.length_nil, Nat.le_zero] at hi
        rw [hi]
    · simp only [find, if_neg h, List.drop_nil]
      simp [h]
  | cons a s ih =>
    by_cases h : pat <+: a :: s
    · rw [find_of_start h]
      constructor
      · rintro ⟨⟩
        exact ⟨by simp, by simpa using h, by simp⟩
      · rintro ⟨_, _, hmin⟩
        cases i with
        | zero => rfl
        | succ i => exact absurd (by simpa using h) (hmin 0 (by omega))
    · rw [find_cons_of_miss h]
      cases i with
      | zero => simp [h]
      | succ i =>
        simp only [Option.map_eq_some_iff, Nat.add_right_cancel_iff, exists_eq_right, ih,
          List.length_cons, Nat.add_le_add_iff_right, List.drop_succ_cons]
        refine and_congr_right fun _ => and_congr_right fun _ => ?_
        constructor
        · intro hmin j hj
          cases j with
          | zero => simpa using h
          | succ j => simpa using hmin j (by omega)
        · intro hmin j hj
          simpa using hmin (j + 1) (by omega)

theorem find_eq_none_iff : find pat s = none ↔ ∀ j ≤ s.length, ¬pat <+: s.drop j := by
  induction s with
  | nil => by_cases h : pat <+: [] <;> simp_all [find]
  | cons a s ih =>
    by_cases h : pat <+: a :: s
    · rw [find_of_start h]
      simp only [reduceCtorEq, false_iff]
      exact fun hall => hall 0 (by omega) (by simpa using h)
    · rw [find_cons_of_miss h, Option.map_eq_none_iff, ih]
      constructor
      · intro hall j hj
        cases j with
        | zero => simpa using h
        | succ j => simpa using hall j (by simpa using hj)
      · intro hall j hj
        simpa using hall (j + 1) (by simpa using hj)

theorem find_eq_none_iff_absent : find pat s = none ↔ ¬pat <:+: s := by
  rw [find_eq_none_iff]
  constructor
  · rintro hall ⟨u, v, rfl⟩
    exact hall u.length (by simp) (by simp)
  · rintro hinf j _ ⟨v, hv⟩
    exact hinf ⟨s.take j, v, by rw [List.append_assoc, hv, List.take_append_drop]⟩

theorem le_of_find (h : find pat s = some i) : i + pat.length ≤ s.length := by
  obtain ⟨hi, hp, _⟩ := find_eq_some_iff.mp h
  have := hp.length_le
  rw [List.length_drop] at this
  omega

theorem prefix_of_find (h : find pat s = some i) : pat <+: s.drop i :=
  (find_eq_some_iff.mp h).2.1

theorem drop_of_find (h : find pat s = some i) :
    s.drop i = pat ++ s.drop (i + pat.length) := by
  obtain ⟨v, hv⟩ := prefix_of_find h
  rw [← List.drop_drop, ← hv, List.drop_left]

/-- A text read only up to `n` shows the occurrences that end by `n`. -/
theorem find_take (hpat : pat ≠ []) :
    find pat (s.take n) = some i ↔ find pat s = some i ∧ i + pat.length ≤ n := by
  have hpos : 0 < pat.length := List.length_pos_iff.mpr hpat
  have hpre : ∀ j, pat <+: (s.take n).drop j ↔ pat <+: s.drop j ∧ (j + pat.length ≤ n) := by
    intro j
    rw [List.drop_take, List.prefix_take_iff]
    exact and_congr_right fun _ => by omega
  constructor
  · intro h
    obtain ⟨hi, hp, hmin⟩ := find_eq_some_iff.mp h
    obtain ⟨hp, hle⟩ := (hpre i).mp hp
    refine ⟨find_eq_some_iff.mpr ⟨?_, hp, ?_⟩, hle⟩
    · exact hi.trans (List.length_take_le' n s)
    · intro j hj hpj
      exact hmin j hj ((hpre j).mpr ⟨hpj, by omega⟩)
  · rintro ⟨h, hle⟩
    obtain ⟨hi, hp, hmin⟩ := find_eq_some_iff.mp h
    have hlen := le_of_find h
    refine find_eq_some_iff.mpr ⟨by simp; omega, (hpre i).mpr ⟨hp, hle⟩, ?_⟩
    intro j hj hpj
    exact hmin j hj ((hpre j).mp hpj).1

theorem find_append_iff (hpat : pat ≠ []) :
    find pat (s ++ (pat ++ t)) = some s.length ↔ find pat (s ++ pat) = some s.length := by
  have htake : (s ++ (pat ++ t)).take (s.length + pat.length) = s ++ pat := by
    rw [← List.append_assoc, ← List.length_append, List.take_left]
  rw [← htake, find_take hpat, and_iff_left le_rfl]

theorem find_of_drop (hn : n ≤ s.length) (hmin : ∀ j < n, ¬pat <+: s.drop j) :
    find pat s = (find pat (s.drop n)).map (· + n) := by
  induction n generalizing s with
  | zero => simp
  | succ n ih =>
    cases s with
    | nil => simp at hn
    | cons a s =>
      rw [find_cons_of_miss (by simpa using hmin 0 (by omega)),
        ih (by simpa using hn) fun j hj => by simpa using hmin (j + 1) (by omega),
        Option.map_map, List.drop_succ_cons]
      rfl

theorem find_drop (h : find pat s = some i) (hn : n ≤ i) : find pat (s.drop n) = some (i - n) := by
  obtain ⟨hi, _, hmin⟩ := find_eq_some_iff.mp h
  rw [find_of_drop (n := n) (by omega) fun j hj => hmin j (by omega)] at h
  obtain ⟨k, hk, hki⟩ := Option.map_eq_some_iff.mp h
  rw [hk, ← hki, Nat.add_sub_cancel]

theorem find_window {k : Nat} (hpat : pat ≠ []) (h : find pat s = some k) (hi : i ≤ k) :
    find pat ((s.take n).drop i) = if k + pat.length ≤ n then some (k - i) else none := by
  have hcut : ∀ j, find pat ((s.drop i).take (n - i)) = some j ↔
      k - i = j ∧ j + pat.length ≤ n - i := by
    intro j
    rw [find_take hpat, find_drop h hi, Option.some.injEq]
  rw [List.drop_take]
  have hpos : 0 < pat.length := List.length_pos_iff.mpr hpat
  split
  case isTrue hle => exact (hcut _).mpr ⟨rfl, by omega⟩
  case isFalse hle =>
    refine Option.eq_none_iff_forall_ne_some.mpr fun j hj => ?_
    have := (hcut j).mp hj
    omega

theorem rfind_eq_none_iff : rfind pat s = none ↔ ¬pat <:+: s := by
  rw [rfind, Option.map_eq_none_iff, find_eq_none_iff_absent, List.reverse_infix]

omit [DecidableEq α] in
theorem reverse_prefix_drop (hn : n ≤ s.length) :
    pat.reverse <+: s.reverse.drop n ↔
      pat.length + n ≤ s.length ∧ pat <+: s.drop (s.length - pat.length - n) := by
  rw [List.drop_reverse, List.reverse_prefix]
  constructor
  · rintro ⟨u, hu⟩
    have hlength := congrArg List.length hu
    rw [List.length_append, List.length_take] at hlength
    refine ⟨by omega, s.drop (s.length - n), ?_⟩
    have hsplit : u ++ (pat ++ s.drop (s.length - n)) = s := by
      rw [← List.append_assoc, hu, List.take_append_drop]
    have hcut : s.length - pat.length - n = u.length := by omega
    rw [hcut]
    conv_rhs => rw [← hsplit, List.drop_left]
  · rintro ⟨hle, v, hv⟩
    refine ⟨s.take (s.length - pat.length - n), ?_⟩
    have hsplit : s.length - n = s.length - pat.length - n + pat.length := by omega
    rw [hsplit, List.take_add, ← hv, List.take_left]

theorem prefix_of_rfind (h : rfind pat s = some i) : pat <+: s.drop i := by
  obtain ⟨n, hn, rfl⟩ := Option.map_eq_some_iff.mp h
  obtain ⟨hle, hpat, -⟩ := find_eq_some_iff.mp hn
  rw [List.length_reverse] at hle
  exact ((reverse_prefix_drop hle).mp hpat).2

theorem not_prefix_of_rfind (h : rfind pat s = some i) (hpat : pat ≠ []) (hj : i < j) :
    ¬pat <+: s.drop j := by
  intro hlater
  obtain ⟨n, hn, rfl⟩ := Option.map_eq_some_iff.mp h
  obtain ⟨hle, hfirst, hmin⟩ := find_eq_some_iff.mp hn
  rw [List.length_reverse] at hle
  have hpos : 0 < pat.length := List.length_pos_iff.mpr hpat
  have hfit := hlater.length_le
  rw [List.length_drop] at hfit
  have hfirst := ((reverse_prefix_drop hle).mp hfirst).1
  have hback : s.length - pat.length - (s.length - pat.length - j) = j := by omega
  refine hmin (s.length - pat.length - j) (by omega) ((reverse_prefix_drop (by omega)).mpr ⟨by omega, ?_⟩)
  rwa [hback]

omit [DecidableEq α] in
theorem foldl_last {p : α → Prop} [DecidablePred p] {found : Option α} :
    s.foldl (fun found a => if p a then some a else found) found =
      (s.reverse.find? (fun a => p a)).or found := by
  induction s generalizing found with
  | nil => rfl
  | cons a s ih =>
    rw [List.foldl_cons, ih, List.reverse_cons, List.find?_append, List.find?_singleton,
      Option.or_assoc]
    by_cases h : p a <;> simp [h]

theorem find_singleton_eq_none_iff {a : α} : find [a] s = none ↔ a ∉ s := by
  rw [find_eq_none_iff_absent, List.singleton_infix_iff]

theorem find_singleton_split {a : α} (h : find [a] s = some i) :
    a ∉ s.take i ∧ s = s.take i ++ a :: s.drop (i + 1) := by
  constructor
  · rw [← find_singleton_eq_none_iff]
    refine Option.eq_none_iff_forall_ne_some.mpr fun j hj => ?_
    obtain ⟨hj, hle⟩ := (find_take (List.cons_ne_nil a [])).mp hj
    rw [h, Option.some.injEq] at hj
    rw [List.length_singleton] at hle
    omega
  · have hdrop := drop_of_find h
    rw [List.length_singleton, List.singleton_append] at hdrop
    rw [← hdrop, List.take_append_drop]

theorem find_singleton_append {a : α} (h : a ∉ s) : find [a] (s ++ a :: t) = some s.length := by
  refine find_eq_some_iff.mpr ⟨by simp, by simp, fun j hj hp => h ?_⟩
  rw [List.drop_append_of_le_length (by omega), List.drop_eq_getElem_cons hj] at hp
  rw [(List.cons_prefix_cons.mp hp).1]
  exact List.getElem_mem hj

end SystemMaster.Search
