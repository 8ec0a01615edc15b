import Mathlib.Data.List.Basic
import Mathlib.Data.List.Range
import Mathlib.Logic.Function.Basic

/-!
# Addressed cells

A memory maps addresses to cells. Reading a span gives a list; writing one
changes exactly the cells of the span, so that a span away from it reads back
unchanged.
-/

namespace SystemMaster

abbrev Memory (α : Type*) := Nat → α

namespace Memory

variable {α : Type*} {m : Memory α} {xs ys : List α} {off off' n k : Nat}

def read (m : Memory α) (off n : Nat) : List α :=
  (List.range n).map fun i => m (off + i)

def write (m : Memory α) (off : Nat) (xs : List α) : Memory α := fun a =>
  if off ≤ a then xs[a - off]?.getD (m a) else m a

/-- A cell at an offset that may lie in front of the memory, and is no cell of it then. -/
def put (m : Memory α) (i : Int) (x : α) : Memory α :=
  match i with
  | .ofNat i => m.write i [x]
  | .negSucc _ => m

def writeAt (m : Memory α) (i : Int) (xs : List α) : Memory α :=
  match i with
  | .ofNat i => m.write i xs
  | .negSucc n => m.write 0 (xs.drop (n + 1))

@[simp] theorem put_natCast {i : Nat} {x : α} : m.put i x = m.write i [x] := rfl

theorem ext {m m' : Memory α} (h : ∀ a, m a = m' a) : m = m' := funext h

@[simp] theorem read_length (m : Memory α) (off n : Nat) : (m.read off n).length = n := by
  simp [read]

@[simp] theorem read_zero : m.read off 0 = [] := rfl

theorem read_getElem? (i : Nat) :
    (m.read off n)[i]? = if i < n then some (m (off + i)) else none := by
  by_cases h : i < n <;> simp [read, h]

theorem read_append : m.read off (n + k) = m.read off n ++ m.read (off + n) k := by
  simp only [read, List.range_add, List.map_append, List.map_map]
  congr 1
  exact List.map_congr_left fun i _ => by simp [Nat.add_assoc]

theorem read_succ : m.read off (n + 1) = m.read off n ++ [m (off + n)] := by
  rw [read_append]
  simp [read]

theorem read_take (h : k ≤ n) : (m.read off n).take k = m.read off k := by
  obtain ⟨j, rfl⟩ := Nat.exists_eq_add_of_le h
  rw [read_append, List.take_left' (read_length m off k)]

theorem read_drop (h : k ≤ n) : (m.read off n).drop k = m.read (off + k) (n - k) := by
  obtain ⟨j, rfl⟩ := Nat.exists_eq_add_of_le h
  rw [read_append, List.drop_left' (read_length m off k), Nat.add_sub_cancel_left]

theorem read_part (xs ys zs : List α) (h : m.read off n = xs ++ ys ++ zs) :
    m.read (off + xs.length) ys.length = ys := by
  have hn : n = xs.length + ys.length + zs.length := by
    rw [← read_length m off n, h, List.length_append, List.length_append]
  have hdrop : m.read (off + xs.length) (n - xs.length) = ys ++ zs := by
    rw [← read_drop (by omega), h, List.append_assoc, List.drop_left]
  rw [← read_take (n := n - xs.length) (by omega), hdrop, List.take_left]

theorem read_congr {m' : Memory α} (h : ∀ i < n, m (off + i) = m' (off + i)) :
    m.read off n = m'.read off n :=
  List.map_congr_left fun i hi => h i (List.mem_range.mp hi)

theorem read_eq_iff {m' : Memory α} :
    m.read off n = m'.read off n ↔ ∀ i < n, m (off + i) = m' (off + i) := by
  refine ⟨fun h i hi => ?_, read_congr⟩
  have hg : (m.read off n)[i]? = (m'.read off n)[i]? := by rw [h]
  rwa [read_getElem?, read_getElem?, if_pos hi, if_pos hi, Option.some.injEq] at hg

@[simp] theorem write_nil : m.write off [] = m := ext fun a => by simp [write]

theorem write_of_lt {a : Nat} (h : a < off) : m.write off xs a = m a := by
  simp [write, Nat.not_le.mpr h]

theorem write_of_ge {a : Nat} (h : off + xs.length ≤ a) : m.write off xs a = m a := by
  have hnone : xs[a - off]? = none := List.getElem?_eq_none (by omega)
  simp [write, hnone]

theorem write_in {i : Nat} (h : i < xs.length) : m.write off xs (off + i) = xs[i] := by
  simp [write, h]

theorem write_set {i : Nat} {x : α} (h : i < xs.length) :
    m.write off (xs.set i x) = Function.update (m.write off xs) (off + i) x := by
  refine ext fun a => ?_
  by_cases ha : a = off + i
  · subst ha
    rw [Function.update_self, write_in (by rwa [List.length_set]), List.getElem_set_self]
  · rw [Function.update_of_ne ha]
    simp only [write]
    split
    case isTrue hle => rw [List.getElem?_set_ne (by omega)]
    case isFalse => rfl

theorem write_read {m' : Memory α} {a : Nat} :
    m.write off (m'.read off n) a = if off ≤ a ∧ a < off + n then m' a else m a := by
  split
  case isTrue h =>
    obtain ⟨i, rfl⟩ : ∃ i, a = off + i := ⟨a - off, by omega⟩
    have hi : i < (m'.read off n).length := by rw [read_length]; omega
    rw [write_in hi]
    simp [read]
  case isFalse h =>
    by_cases hlt : a < off
    · exact write_of_lt hlt
    · refine write_of_ge ?_
      rw [read_length]
      omega

@[simp] theorem write_at {x : α} : m.write off [x] off = x := by simp [write]

theorem write_cons {x : α} : m.write off (x :: xs) = (m.write off [x]).write (off + 1) xs := by
  refine ext fun a => ?_
  rcases Nat.lt_trichotomy a off with h | rfl | h
  · rw [write_of_lt h, write_of_lt (by omega), write_of_lt h]
  · rw [write_of_lt (Nat.lt_succ_self a), write_at]
    simp [write]
  · have hsub : a - off = a - (off + 1) + 1 := by omega
    have hone : m.write off [x] a = m a := write_of_ge (Nat.succ_le_of_lt h)
    simp only [write] at hone ⊢
    rw [if_pos (Nat.le_of_lt h), if_pos (Nat.succ_le_of_lt h), hone, hsub,
      List.getElem?_cons_succ]

theorem write_append : m.write off (xs ++ ys) = (m.write off xs).write (off + xs.length) ys := by
  induction xs generalizing m off with
  | nil => simp
  | cons x xs ih =>
    rw [List.cons_append, write_cons, ih, ← write_cons, List.length_cons]
    congr 1
    omega

theorem write_append_last : m.write off (xs ++ ys) = (m.write (off + xs.length) ys).write off xs := by
  refine ext fun a => ?_
  rw [write_append]
  by_cases h : off ≤ a ∧ a < off + xs.length
  · obtain ⟨i, rfl⟩ := Nat.exists_eq_add_of_le h.1
    have hi : i < xs.length := by omega
    rw [write_of_lt h.2, write_in hi, write_in hi]
  · have hout : ∀ m' : Memory α, m'.write off xs a = m' a := by
      intro m'
      rcases (by omega : a < off ∨ off + xs.length ≤ a) with hlt | hge
      · exact write_of_lt hlt
      · exact write_of_ge hge
    rw [hout]
    simp only [write] at hout ⊢
    rw [hout]

@[simp] theorem read_write (m : Memory α) (off : Nat) (xs : List α) :
    (m.write off xs).read off xs.length = xs := by
  refine List.ext_getElem (by simp) fun i hi _ => ?_
  have h : i < xs.length := by simpa using hi
  simp [read, write_in h]

theorem read_write_take (h : k ≤ xs.length) : (m.write off xs).read off k = xs.take k := by
  rw [← read_take h, read_write]

theorem eq_write {m' : Memory α} (hin : m.read off xs.length = xs)
    (hout : ∀ a, a < off ∨ off + xs.length ≤ a → m a = m' a) : m = m'.write off xs := by
  refine ext fun a => ?_
  by_cases h : off ≤ a ∧ a < off + xs.length
  · obtain ⟨i, rfl⟩ := Nat.exists_eq_add_of_le h.1
    have hread : m.read off xs.length = (m'.write off xs).read off xs.length := by
      rw [hin, read_write]
    exact read_eq_iff.mp hread i (by omega)
  · rw [hout a (by omega)]
    rcases (by omega : a < off ∨ off + xs.length ≤ a) with h | h
    · exact (write_of_lt h).symm
    · exact (write_of_ge h).symm

theorem read_write_of_disjoint (h : off' + n ≤ off ∨ off + xs.length ≤ off') :
    (m.write off xs).read off' n = m.read off' n := by
  refine read_congr fun i hi => ?_
  rcases h with h | h
  · exact write_of_lt (by omega)
  · exact write_of_ge (by omega)

theorem read_write_append : (m.write (off + n) xs).read off (n + xs.length) = m.read off n ++ xs := by
  rw [read_append, read_write, read_write_of_disjoint (.inl le_rfl)]

theorem read_write_within {m' : Memory α} (h : off ≤ off') (h' : off' + n ≤ off + xs.length) :
    (m.write off xs).read off' n = (m'.write off xs).read off' n := by
  obtain ⟨k, rfl⟩ := Nat.exists_eq_add_of_le h
  refine read_congr fun i hi => ?_
  rw [Nat.add_assoc, write_in (by omega), write_in (by omega)]

theorem read_write_read {m' : Memory α} (h : off ≤ off') (h' : off' + k ≤ off + n) :
    (m.write off (m'.read off n)).read off' k = m'.read off' k := by
  have hcopy : m' = m'.write off (m'.read off n) := eq_write (by simp) fun _ _ => rfl
  rw [read_write_within h (by simpa using h'), ← hcopy]

theorem read_write_succ (m : Memory α) (off n : Nat) (x : α) :
    (m.write (off + n) [x]).read off (n + 1) = m.read off n ++ [x] := by
  rw [read_succ, read_write_of_disjoint (by simp), write_at]

end SystemMaster.Memory
