import SystemMaster.Library.Memory
import Mathlib.Order.MinMax

/-!
# Accesses to a buffer

A routine that is handed a buffer reads and writes its cells. The state keeps
how far the routine has read: a bound on it says that no cell from there on was
looked at.
-/

namespace SystemMaster

structure Access (α : Type) where
  buffer : Memory α
  reach : Nat

namespace Access

abbrev Routine (α β : Type) := StateM (Access α) β

variable {α β γ : Type} {p : Routine α β} {f : β → Routine α γ} {s : Access α} {xs : List α}
  {m n off k fuel : Nat}

def cell (off : Nat) : Routine α α := fun s =>
  (s.buffer off, { s with reach := max s.reach (off + 1) })

def read (off n : Nat) : Routine α (List α) := fun s =>
  (s.buffer.read off n, { s with reach := max s.reach (off + n) })

/-- A read of cells on which no later access depends. -/
def touch (off n : Nat) : Routine α Unit := fun s =>
  ((), { s with reach := max s.reach (off + n) })

def write (off : Nat) (xs : List α) : Routine α Unit := fun s =>
  ((), { s with buffer := s.buffer.write off xs })

variable [DecidableEq α]

/-- The cells before the first `stop`, which is read too. -/
def readUntil (stop : α) (off : Nat) : Nat → Routine α (List α)
  | 0 => pure []
  | fuel + 1 => do
    let x ← cell off
    if x = stop then
      return []
    else
      let xs ← readUntil stop (off + 1) fuel
      return x :: xs

/-- Whether a text stands at a cell. The comparison ends where they differ. -/
def startsWith (off : Nat) : List α → Routine α Bool
  | [] => pure true
  | x :: xs => do
    let y ← cell off
    if y = x then startsWith (off + 1) xs else return false

-- ---------------------------------------------------------------------------
-- How far a routine reads
-- ---------------------------------------------------------------------------

/-- Run here, the routine reads no cell from `n` on. -/
def Below (n : Nat) (p : Routine α β) (s : Access α) : Prop := (p s).2.reach ≤ max s.reach n

omit [DecidableEq α]

theorem Below.mono (h : Below m p s) (hmn : m ≤ n) : Below n p s :=
  h.trans (max_le_max (le_refl _) hmn)

theorem below_pure {b : β} : Below n (pure b : Routine α β) s := le_max_left _ _

theorem below_bind (hp : Below n p s) (hf : Below n (f (p s).1) (p s).2) :
    Below n (p >>= f) s := by
  have h : (p s).2.reach ≤ max s.reach n := hp
  exact hf.trans (max_le h (le_max_right _ _))

theorem below_cell (h : off + 1 ≤ n) : Below n (cell off) s := max_le_max (le_refl _) h

theorem below_read (h : off + k ≤ n) : Below n (read off k) s := max_le_max (le_refl _) h

theorem below_touch (h : off + k ≤ n) : Below n (touch off k) s := max_le_max (le_refl _) h

theorem below_write : Below n (write off xs) s := le_max_left _ _

theorem below_ite {q : Routine α β} {c : Prop} [Decidable c] (hp : c → Below n p s)
    (hq : ¬c → Below n q s) : Below n (if c then p else q) s := by
  split
  next h => exact hp h
  next h => exact hq h

@[simp] theorem cell_buffer : ((cell off : Routine α α) s).2.buffer = s.buffer := rfl

@[simp] theorem cell_value : ((cell off : Routine α α) s).1 = s.buffer off := rfl

@[simp] theorem read_buffer : ((read off n : Routine α (List α)) s).2.buffer = s.buffer := rfl

@[simp] theorem read_value : ((read off n : Routine α (List α)) s).1 = s.buffer.read off n := rfl

@[simp] theorem write_buffer : (write off xs s).2.buffer = s.buffer.write off xs := rfl

variable [DecidableEq α]

theorem below_readUntil {stop : α} (hstop : s.buffer (off + k) = stop) (h : off + k + 1 ≤ n) :
    Below n (readUntil stop off fuel) s := by
  induction fuel generalizing off k s with
  | zero => exact below_pure
  | succ fuel ih =>
    refine below_bind (below_cell (by omega)) ?_
    refine below_ite (fun _ => below_pure) fun hne => ?_
    refine below_bind ?_ below_pure
    cases k with
    | zero => exact absurd hstop hne
    | succ k =>
      refine ih (k := k) ?_ (by omega)
      rw [cell_buffer, ← hstop, Nat.add_assoc, Nat.add_comm 1 k]

theorem below_startsWith (h : off + xs.length ≤ n) : Below n (startsWith off xs) s := by
  induction xs generalizing off s with
  | nil => exact below_pure
  | cons x xs ih =>
    rw [List.length_cons] at h
    refine below_bind (below_cell (by omega)) ?_
    exact below_ite (fun _ => ih (by omega)) fun _ => below_pure

@[simp] theorem startsWith_buffer : (startsWith off xs s).2.buffer = s.buffer := by
  induction xs generalizing off s with
  | nil => rfl
  | cons x xs ih =>
    change ((if s.buffer off = x then startsWith (off + 1) xs else pure false : Routine α Bool)
      (cell off s).2).2.buffer = s.buffer
    split
    · exact ih
    · rfl

end SystemMaster.Access
