import Mathlib.Data.List.Nodup
import Mathlib.Logic.Function.Basic

/-!
# Linked queues

A queue linked through its own elements: each has a link to the next one and to
the one before, and the header closes the ring. The elements are named by `ι`,
the header is `none`.
-/

namespace SystemMaster.LinkedQueue

structure Elem (ι : Type*) where
  next : Option ι
  prev : Option ι

/-- The links of the header and of every element, in a queue or not. -/
abbrev Links (ι : Type*) := Option ι → Elem ι

variable {ι : Type*} {m m' : Links ι} {a x : Option ι} {b : ι} {l : List ι}

/-- From `a` on, the links go through `l` and back to the header. -/
def Path (m : Links ι) : Option ι → List ι → Prop
  | a, [] => (m a).next = none ∧ (m none).prev = a
  | a, b :: l => (m a).next = some b ∧ (m (some b)).prev = a ∧ Path m (some b) l

/-- The queue holds the elements of `l`, each once and in this order. -/
structure Linked (m : Links ι) (l : List ι) : Prop where
  nodup : l.Nodup
  path : Path m none l

-- ---------------------------------------------------------------------------
-- Following the links
-- ---------------------------------------------------------------------------

theorem Path.last_mem (h : Path m a l) : (m none).prev ∈ a :: l.map some := by
  induction l generalizing a with
  | nil => simp [h.2]
  | cons b l ih => exact List.mem_cons_of_mem _ (ih h.2.2)

theorem Path.next_mem (h : Path m a l) (hx : x ∈ a :: l.map some) (hb : (m x).next = some b) :
    b ∈ l := by
  induction l generalizing a with
  | nil =>
    obtain rfl := List.mem_singleton.mp hx
    rw [h.1] at hb
    cases hb
  | cons c l ih =>
    rcases List.mem_cons.mp hx with rfl | hx
    · obtain rfl : c = b := Option.some.inj (h.1.symm.trans hb)
      exact List.mem_cons_self
    · exact List.mem_cons_of_mem _ (ih h.2.2 hx)

theorem Path.exists_before (h : Path m a l) (hl : (a :: l.map some).Nodup) (hb : b ∈ l) :
    ∃ x ∈ a :: l.map some, x ≠ some b ∧ (m x).next = some b := by
  induction l generalizing a with
  | nil => cases hb
  | cons c l ih =>
    obtain ⟨ha, hl⟩ := List.nodup_cons.mp hl
    rcases List.mem_cons.mp hb with rfl | hb
    · exact ⟨a, List.mem_cons_self, fun heq => ha (heq ▸ List.mem_cons_self), h.1⟩
    · obtain ⟨x, hx, hne, hnext⟩ := ih h.2.2 hl hb
      exact ⟨x, List.mem_cons_of_mem _ hx, hne, hnext⟩

theorem Path.congr (h : Path m a l) (hheader : m' none = m none)
    (hsame : ∀ x ∈ a :: l.map some, m' x = m x) : Path m' a l := by
  induction l generalizing a with
  | nil =>
    rw [Path, hheader, hsame a List.mem_cons_self]
    exact h
  | cons b l ih =>
    have hb : m' (some b) = m (some b) := hsame _ (by simp)
    rw [Path, hsame a List.mem_cons_self, hb]
    exact ⟨h.1, h.2.1, ih h.2.2 fun x hx => hsame x (List.mem_cons_of_mem _ hx)⟩

theorem nodup_map_some (h : l.Nodup) : (none :: l.map some).Nodup :=
  List.nodup_cons.mpr ⟨by simp, h.map fun _ _ heq => Option.some.inj heq⟩

variable [DecidableEq ι]

theorem Linked.update (h : Linked m l) (hb : b ∉ l) (e : Elem ι) :
    Linked (Function.update m (some b) e) l where
  nodup := h.nodup
  path := by
    refine h.path.congr (Function.update_of_ne (Option.some_ne_none b).symm ..) fun x hx => ?_
    refine Function.update_of_ne ?_ ..
    rintro rfl
    exact hb (by simpa using hx)

theorem Linked.not_erase (h : Linked m l) (hb : b ∈ l) (e : Elem ι) :
    ¬Linked (Function.update m (some b) e) (l.erase b) := by
  intro h'
  obtain ⟨x, hx, hne, hnext⟩ := h.path.exists_before (nodup_map_some h.nodup) hb
  have hx' : x ∈ none :: (l.erase b).map some := by
    cases x with
    | none => exact List.mem_cons_self
    | some c =>
      have hc : c ≠ b := fun heq => hne (heq ▸ rfl)
      simpa [List.mem_erase_of_ne hc] using hx
  have hlink : (Function.update m (some b) e x).next = some b := by
    rw [Function.update_of_ne hne]
    exact hnext
  exact h.nodup.not_mem_erase (h'.path.next_mem hx' hlink)

-- ---------------------------------------------------------------------------
-- Linking in
-- ---------------------------------------------------------------------------

def setNext (m : Links ι) (a v : Option ι) : Links ι := Function.update m a { m a with next := v }

def setPrev (m : Links ι) (a v : Option ι) : Links ι := Function.update m a { m a with prev := v }

/-- Links an element in as the last one. -/
def put (m : Links ι) (b : ι) : Links ι :=
  let last := (m none).prev
  let m := Function.update m (some b) ⟨none, last⟩
  let m := setNext m last (some b)
  setPrev m none (some b)

theorem setNext_next {v : Option ι} :
    (setNext m a v x).next = if x = a then v else (m x).next := by
  simp only [setNext, Function.update_apply]
  split <;> rfl

@[simp] theorem setNext_prev {v : Option ι} : (setNext m a v x).prev = (m x).prev := by
  simp only [setNext, Function.update_apply]
  split
  · subst x
    rfl
  · rfl

@[simp] theorem setPrev_next {v : Option ι} : (setPrev m a v x).next = (m x).next := by
  simp only [setPrev, Function.update_apply]
  split
  · subst x
    rfl
  · rfl

theorem setPrev_prev {v : Option ι} :
    (setPrev m a v x).prev = if x = a then v else (m x).prev := by
  simp only [setPrev, Function.update_apply]
  split <;> rfl

theorem put_next (hx : x ≠ some b) :
    (put m b x).next = if x = (m none).prev then some b else (m x).next := by
  rw [put, setPrev_next, setNext_next, Function.update_of_ne hx]

theorem put_prev (hx : x ≠ some b) :
    (put m b x).prev = if x = none then some b else (m x).prev := by
  rw [put, setPrev_prev, setNext_prev, Function.update_of_ne hx]

theorem put_self_next (hlast : (m none).prev ≠ some b) : (put m b (some b)).next = none := by
  rw [put, setPrev_next, setNext_next, if_neg hlast.symm, Function.update_self]

theorem put_self_prev : (put m b (some b)).prev = (m none).prev := by
  rw [put, setPrev_prev, if_neg (Option.some_ne_none b), setNext_prev, Function.update_self]

theorem Path.put (h : Path m a l) (hl : (a :: l.map some).Nodup) (ha : a ≠ some b) (hb : b ∉ l)
    (hnone : none ∉ l.map some) : Path (put m b) a (l ++ [b]) := by
  have hlast : (m none).prev ≠ some b := by
    intro heq
    rcases List.mem_cons.mp (heq ▸ h.last_mem) with heq | hmem
    · exact ha heq.symm
    · exact hb (by simpa using hmem)
  induction l generalizing a with
  | nil =>
    refine ⟨?_, ?_, ?_, ?_⟩
    · rw [put_next ha, if_pos h.2.symm]
    · rw [put_self_prev]
      exact h.2
    · exact put_self_next hlast
    · rw [put_prev (Option.some_ne_none b).symm, if_pos rfl]
  | cons c l ih =>
    obtain ⟨hac, hl⟩ := List.nodup_cons.mp hl
    obtain ⟨hcb, hb⟩ := not_or.mp (List.mem_cons.not.mp hb)
    have hc : some c ≠ some b := fun heq => hcb (Option.some.inj heq).symm
    have ha' : a ≠ (m none).prev := fun heq => hac (heq ▸ h.2.2.last_mem)
    refine ⟨?_, ?_, ih h.2.2 hl hc hb (fun hmem => hnone (List.mem_cons_of_mem _ hmem))⟩
    · rw [put_next ha, if_neg ha']
      exact h.1
    · rw [put_prev hc, if_neg (Option.some_ne_none c)]
      exact h.2.1

theorem Linked.put (h : Linked m l) (hb : b ∉ l) : Linked (put m b) (l ++ [b]) where
  nodup := List.nodup_append_comm.mp (List.nodup_cons.mpr ⟨hb, h.nodup⟩)
  path := h.path.put (nodup_map_some h.nodup) (Option.some_ne_none b).symm hb (by simp)

end SystemMaster.LinkedQueue
