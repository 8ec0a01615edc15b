import Mathlib.Data.List.Basic

/-!
# Lines of a text

A text is cut at a separator into the lines that have ended and a last one that
has not.
-/

namespace SystemMaster.Lines

variable {α : Type*} [DecidableEq α] {a : α} {t u v x : List α}

def lines (a : α) (t : List α) : List (List α) := (t.splitOn a).dropLast

def lastLine (a : α) (t : List α) : List α := (t.splitOn a).getLast (List.splitOn_ne_nil a t)

theorem lines_append_lastLine : lines a t ++ [lastLine a t] = t.splitOn a :=
  List.dropLast_append_getLast (List.splitOn_ne_nil a t)

theorem lines_of_notMem (h : a ∉ t) : lines a t = [] := by
  rw [lines, List.splitOn_eq_singleton h, List.dropLast_singleton]

theorem lastLine_of_notMem (h : a ∉ t) : lastLine a t = t := by
  simp only [lastLine, List.splitOn_eq_singleton h, List.getLast_singleton]

theorem lines_append_cons : lines a (u ++ a :: v) = lines a u ++ lastLine a u :: lines a v := by
  rw [lines, List.splitOn_append_cons_self, List.dropLast_append_of_ne_nil (List.splitOn_ne_nil a v),
    ← lines_append_lastLine, List.append_assoc]
  rfl

theorem lastLine_append_cons : lastLine a (u ++ a :: v) = lastLine a v := by
  simp only [lastLine, List.splitOn_append_cons_self]
  exact List.getLast_append_of_ne_nil _ (List.splitOn_ne_nil a v)

@[elab_as_elim]
theorem line_induction {P : List α → Prop} (last : ∀ t, a ∉ t → P t)
    (next : ∀ u v, a ∉ u → P v → P (u ++ a :: v)) (t : List α) : P t := by
  induction hn : t.length using Nat.strongRecOn generalizing t with
  | ind n ih =>
    by_cases h : a ∈ t
    · obtain ⟨u, v, rfl, hu⟩ := List.eq_append_cons_of_mem h
      refine next u v hu (ih v.length ?_ v rfl)
      rw [← hn, List.length_append, List.length_cons]
      omega
    · exact last t h

theorem lastLine_suffix : lastLine a t <:+ t := by
  induction t using line_induction (a := a) with
  | last t h => simp [lastLine_of_notMem h]
  | next u v _ ih =>
    rw [lastLine_append_cons]
    exact (ih.trans (List.suffix_cons a v)).trans (List.suffix_append u _)

theorem lastLine_append (h : a ∉ v) : lastLine a (u ++ v) = lastLine a u ++ v := by
  induction u using line_induction (a := a) with
  | last u hu => rw [lastLine_of_notMem hu, lastLine_of_notMem (by simp [hu, h])]
  | next u w _ ih =>
    rw [List.append_assoc, List.cons_append, lastLine_append_cons, ih, lastLine_append_cons]

theorem mem_lines (h : x ∈ lines a t) : a ∉ x ∧ ∃ u v, t = u ++ x ++ a :: v := by
  induction t using line_induction (a := a) with
  | last t hlast =>
    rw [lines_of_notMem hlast] at h
    exact absurd h List.not_mem_nil
  | next u v hu ih =>
    rw [lines_append_cons, lines_of_notMem hu, lastLine_of_notMem hu, List.nil_append,
      List.mem_cons] at h
    rcases h with rfl | h
    · exact ⟨hu, [], v, rfl⟩
    · obtain ⟨hx, p, q, rfl⟩ := ih h
      exact ⟨hx, u ++ a :: p, q, by simp only [List.append_assoc, List.cons_append]⟩

end SystemMaster.Lines
