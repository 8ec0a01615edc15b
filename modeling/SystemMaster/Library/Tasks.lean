import SystemMaster.Library.Runs
import Mathlib.Algebra.BigOperators.Group.Multiset.Basic
import Mathlib.Algebra.GroupWithZero.Nat

/-!
# Tasks over a shared state

Tasks take turns over one shared state, one action at a time and in any order,
and new ones arrive from outside. An action leaves a number of tasks in place
of the one that took it: itself further on, none if it has ended, and those it
has created.
-/

namespace SystemMaster.Tasks

open Runs

variable {σ τ α ε : Type*}

structure System (σ τ : Type*) where
  shared : σ
  tasks : Multiset τ

inductive Event (τ α ε : Type*)
  | arrive (e : ε)
  | act (t : τ) (a : α)

/-- What an arrival starts, and what the next action of a task does on an
answer of the world; `none` when the task cannot take it now. -/
structure Program (σ τ α ε : Type*) where
  arrive : σ → ε → Multiset τ
  act : σ → τ → α → Option (σ × Multiset τ)

namespace Program

inductive Step (p : Program σ τ α ε) : System σ τ → Event τ α ε → System σ τ → Prop
  | arrive {sh ts} (e : ε) : Step p ⟨sh, ts⟩ (.arrive e) ⟨sh, p.arrive sh e + ts⟩
  | act {sh sh' ts ts' t a} (h : p.act sh t a = some (sh', ts')) :
      Step p ⟨sh, t ::ₘ ts⟩ (.act t a) ⟨sh', ts' + ts⟩

variable {p : Program σ τ α ε} {s s' : System σ τ} {e : Event τ α ε} {es : List (Event τ α ε)}

/-- The run with the given events, when there is one whose steps pass the guard. -/
def replay [DecidableEq τ] (p : Program σ τ α ε) (guard : System σ τ → Event τ α ε → Bool) :
    System σ τ → List (Event τ α ε) → Option (System σ τ)
  | s, [] => some s
  | s, .arrive e :: es =>
    if guard s (.arrive e) then p.replay guard ⟨s.shared, p.arrive s.shared e + s.tasks⟩ es
    else none
  | s, .act t a :: es =>
    if guard s (.act t a) ∧ t ∈ s.tasks then
      match p.act s.shared t a with
      | some (sh', ts') => p.replay guard ⟨sh', ts' + s.tasks.erase t⟩ es
      | none => none
    else none

theorem runWith_of_replay [DecidableEq τ] {guard : System σ τ → Event τ α ε → Bool}
    (h : p.replay guard s es = some s') : RunWith p.Step (fun s e => guard s e = true) s es s' := by
  induction es generalizing s with
  | nil =>
    cases h
    exact .refl
  | cons e es ih =>
    cases e with
    | arrive e =>
      simp only [replay] at h
      split at h
      case isTrue hguard => exact .next hguard (.arrive e) (ih h)
      case isFalse => cases h
    | act t a =>
      simp only [replay] at h
      split at h
      case isFalse => cases h
      case isTrue ht =>
        split at h
        case h_2 => cases h
        case h_1 sh' ts' hact =>
          have hstep : p.Step ⟨s.shared, t ::ₘ s.tasks.erase t⟩ (.act t a)
              ⟨sh', ts' + s.tasks.erase t⟩ := .act hact
          rw [Multiset.cons_erase ht.2] at hstep
          exact .next ht.1 hstep (ih h)

theorem run_of_replay [DecidableEq τ] (h : p.replay (fun _ _ => true) s es = some s') :
    Run p.Step s es s' :=
  (runWith_of_replay h).run

/-- Every task satisfies `A` in the shared state as it is. -/
def Holds (A : σ → τ → Prop) (s : System σ τ) : Prop := ∀ t ∈ s.tasks, A s.shared t

theorem Holds.add {A : σ → τ → Prop} {sh : σ} {us ts : Multiset τ} (hus : ∀ u ∈ us, A sh u)
    (hts : ∀ t ∈ ts, A sh t) : Holds A ⟨sh, us + ts⟩ := by
  intro t ht
  rcases Multiset.mem_add.mp ht with ht | ht
  · exact hus t ht
  · exact hts t ht

theorem Step.holds {A : σ → τ → Prop} (h : p.Step s e s') (hs : Holds A s)
    (harrive : ∀ sh e, ∀ t ∈ p.arrive sh e, A sh t)
    (hact : ∀ sh t ts a sh' ts', s = ⟨sh, t ::ₘ ts⟩ → e = .act t a → A sh t →
      p.act sh t a = some (sh', ts') →
        (∀ u ∈ ts', A sh' u) ∧ ∀ u ∈ ts, A sh u → A sh' u) :
    Holds A s' := by
  cases h with
  | arrive e => exact .add (harrive _ e) hs
  | @act sh sh' ts ts' t a hstep =>
    obtain ⟨hnew, hother⟩ :=
      hact sh t ts a sh' ts' rfl rfl (hs t (Multiset.mem_cons_self t ts)) hstep
    exact .add hnew fun u hu => hother u hu (hs u (Multiset.mem_cons_of_mem hu))

-- ---------------------------------------------------------------------------
-- Tokens
-- ---------------------------------------------------------------------------

/-- The tokens in the shared state and those the tasks hold. -/
def tokens (m : σ → Nat) (w : τ → Nat) (s : System σ τ) : Nat := m s.shared + (s.tasks.map w).sum

variable {m : σ → Nat} {w : τ → Nat} {k : Nat}

theorem le_tokens {sh : σ} {t : τ} {ts : Multiset τ} : m sh + w t ≤ tokens m w ⟨sh, t ::ₘ ts⟩ := by
  rw [tokens, Multiset.map_cons, Multiset.sum_cons]
  exact Nat.add_le_add_left (Nat.le_add_right _ _) _

theorem Step.tokens_change (m : σ → Nat) (w : τ → Nat) (gain loss : Event τ α ε → Nat)
    (h : p.Step s e s')
    (harrive : ∀ sh e, ((p.arrive sh e).map w).sum + loss (.arrive e) = gain (.arrive e))
    (hact : ∀ sh t ts a sh' ts', s = ⟨sh, t ::ₘ ts⟩ → p.act sh t a = some (sh', ts') →
      m sh' + (ts'.map w).sum + loss (.act t a) = m sh + w t + gain (.act t a)) :
    tokens m w s' + loss e = tokens m w s + gain e := by
  cases h with
  | @arrive sh ts e =>
    have hlocal := harrive sh e
    simp only [tokens, Multiset.map_add, Multiset.sum_add]
    omega
  | @act sh sh' ts ts' t a hstep =>
    have hlocal := hact sh t ts a sh' ts' rfl hstep
    simp only [tokens, Multiset.map_add, Multiset.sum_add, Multiset.map_cons, Multiset.sum_cons]
    omega

theorem Step.tokens_eq (h : p.Step s e s') (hk : tokens m w s = k)
    (harrive : ∀ sh e, ∀ t ∈ p.arrive sh e, w t = 0)
    (hact : ∀ sh t ts a sh' ts', s = ⟨sh, t ::ₘ ts⟩ → p.act sh t a = some (sh', ts') →
      m sh + w t ≤ k → m sh' + (ts'.map w).sum = m sh + w t) :
    tokens m w s' = k := by
  refine (h.tokens_change m w (fun _ => 0) (fun _ => 0) (fun sh e => ?_) ?_).trans hk
  · refine Multiset.sum_eq_zero fun n hn => ?_
    obtain ⟨t, ht, rfl⟩ := Multiset.mem_map.mp hn
    exact harrive sh e t ht
  · intro sh t ts a sh' ts' hs hstep
    exact hact sh t ts a sh' ts' hs hstep (hk ▸ hs ▸ le_tokens)

theorem exists_of_sum {ts : Multiset τ} (h : (ts.map w).sum ≠ 0) : ∃ t ∈ ts, w t ≠ 0 := by
  by_contra hnone
  refine h (Multiset.sum_eq_zero fun n hn => ?_)
  obtain ⟨t, ht, rfl⟩ := Multiset.mem_map.mp hn
  exact of_not_not fun hne => hnone ⟨t, ht, hne⟩

theorem exists_holder (h : tokens (fun _ => 0) w s = 1) : ∃ t ∈ s.tasks, w t ≠ 0 := by
  rw [tokens, Nat.zero_add] at h
  exact exists_of_sum (h.trans_ne Nat.one_ne_zero)

theorem holder_unique {sh : σ} {t u : τ} {ts : Multiset τ}
    (h : tokens (fun _ => 0) w ⟨sh, t ::ₘ ts⟩ = 1) (ht : w t ≠ 0) (hu : u ∈ ts) : w u = 0 := by
  obtain ⟨ts, rfl⟩ := Multiset.exists_cons_of_mem hu
  simp only [tokens, Multiset.map_cons, Multiset.sum_cons] at h
  omega

theorem toCome_succ {i n : Nat} :
    k + (if i < n + 1 then 0 else 1) + (if n = i then 1 else 0) = k + if i < n then 0 else 1 := by
  rcases Nat.lt_trichotomy i n with h | rfl | h
  · rw [if_pos (by omega), if_neg (by omega), if_pos h]
  · rw [if_pos (by omega), if_pos rfl, if_neg (by omega)]
  · rw [if_neg (by omega), if_neg (by omega), if_neg (by omega)]

theorem run_tokens (m : σ → Nat) (w : τ → Nat) (gain loss : Event τ α ε → Nat)
    (h : Run p.Step s es s')
    (harrive : ∀ sh e, ((p.arrive sh e).map w).sum + loss (.arrive e) = gain (.arrive e))
    (hact : ∀ sh t a sh' ts', p.act sh t a = some (sh', ts') →
      m sh' + (ts'.map w).sum + loss (.act t a) = m sh + w t + gain (.act t a)) :
    tokens m w s' + (es.map loss).sum = tokens m w s + (es.map gain).sum := by
  induction h with
  | refl => rfl
  | next hstep _ ih =>
    have hone := hstep.tokens_change m w gain loss harrive
      fun sh t _ a sh' ts' _ => hact sh t a sh' ts'
    simp only [List.map_cons, List.sum_cons]
    omega

@[simp] theorem tokens_quiet {sh : σ} : tokens m w ⟨sh, 0⟩ = m sh := by simp [tokens]

end Program

end SystemMaster.Tasks
