import Mathlib.Data.List.Forall2
import Mathlib.Logic.Function.Basic
import SystemMaster.Library.Runs

/-!
# Stations

Requests wait in queues at their stations, which serve them one after the other, beside what
they do of their own accord. The answers of all stations go through one queue and are handed
out from there.
-/

namespace SystemMaster.Stations

open Runs

/-- The queues, with what each station has done and how, for a request or for none, and what has
been handed out. -/
structure State (ι α ε β η : Type*) where
  waiting : ι → List α
  done : ι → List (Option α × ε)
  returning : List (ι × β)
  handed : List (ι × β × η)

inductive Label (ι α ε β η : Type*) where
  /-- A request to each station that there is one for. -/
  | post (requests : ι → Option α)
  | serve (i : ι) (e : ε)
  /-- What a station does of its own accord. -/
  | own (i : ι) (e : ε)
  /-- An answer that no request was for. -/
  | bring (i : ι) (b : β)
  | hand (h : η)

def start {ι α ε β η : Type*} : State ι α ε β η := ⟨fun _ => [], fun _ => [], [], []⟩

section Steps

variable {ι α ε β η : Type*} [DecidableEq ι]

def step (answers : ι → α → ε → List β) (s : State ι α ε β η) :
    Label ι α ε β η → State ι α ε β η
  | .post requests => { s with waiting := fun i => s.waiting i ++ (requests i).toList }
  | .serve i e =>
    match s.waiting i with
    | [] => s
    | a :: rest =>
      { s with
        waiting := Function.update s.waiting i rest
        done := Function.update s.done i (s.done i ++ [(some a, e)])
        returning := s.returning ++ (answers i a e).map (i, ·) }
  | .own i e => { s with done := Function.update s.done i (s.done i ++ [(none, e)]) }
  | .bring i b => { s with returning := s.returning ++ [(i, b)] }
  | .hand h =>
    match s.returning with
    | [] => s
    | (i, b) :: rest => { s with returning := rest, handed := s.handed ++ [(i, b, h)] }

/-- The part of a list that is of one station. -/
def ofStation {γ : Type*} (i : ι) (xs : List (ι × γ)) : List γ :=
  xs.filterMap fun x => if x.1 = i then some x.2 else none

def Label.posted (i : ι) : Label ι α ε β η → Option α
  | .post requests => requests i
  | .serve _ _ | .own _ _ | .bring _ _ | .hand _ => none

def Label.Brings (i : ι) : Label ι α ε β η → Prop
  | .bring j _ => j = i
  | .post _ | .serve _ _ | .own _ _ | .hand _ => False

def State.served (s : State ι α ε β η) (i : ι) : List (α × ε) :=
  (s.done i).filterMap fun x => x.1.map (·, x.2)

def owed (answers : ι → α → ε → List β) (s : State ι α ε β η) (i : ι) : List β :=
  (s.served i).flatMap fun x => answers i x.1 x.2

variable {answers : ι → α → ε → List β} {s : State ι α ε β η} {l : Label ι α ε β η}
  {ls : List (Label ι α ε β η)} {i : ι}

@[simp] theorem ofStation_nil {γ : Type*} : ofStation i ([] : List (ι × γ)) = [] := rfl

@[simp] theorem ofStation_append {γ : Type*} {xs ys : List (ι × γ)} :
    ofStation i (xs ++ ys) = ofStation i xs ++ ofStation i ys := List.filterMap_append

theorem ofStation_cons_self {γ : Type*} {x : γ} {xs : List (ι × γ)} :
    ofStation i ((i, x) :: xs) = x :: ofStation i xs :=
  List.filterMap_cons_some (if_pos rfl)

theorem ofStation_cons_of_ne {γ : Type*} {j : ι} {x : γ} {xs : List (ι × γ)} (h : j ≠ i) :
    ofStation i ((j, x) :: xs) = ofStation i xs :=
  List.filterMap_cons_none (if_neg h)

theorem ofStation_map_self {γ : Type*} {xs : List γ} : ofStation i (xs.map (i, ·)) = xs := by
  induction xs with
  | nil => rfl
  | cons x xs ih => rw [List.map_cons, ofStation_cons_self, ih]

theorem ofStation_map_of_ne {γ : Type*} {j : ι} {xs : List γ} (h : j ≠ i) :
    ofStation i (xs.map (j, ·)) = [] := by
  induction xs with
  | nil => rfl
  | cons x xs ih => rw [List.map_cons, ofStation_cons_of_ne h, ih]

theorem served_serve {a : α} {rest : List α} {e : ε} (hwaiting : s.waiting i = a :: rest) :
    (step answers s (.serve i e)).served i = s.served i ++ [(a, e)] := by
  simp only [step, hwaiting, State.served, Function.update_self, List.filterMap_append]
  rfl

theorem served_serve_of_ne {j : ι} {e : ε} (h : i ≠ j) :
    (step answers s (.serve j e)).served i = s.served i := by
  rw [State.served, step]
  split
  · rfl
  · simp only [Function.update_of_ne h, State.served]

theorem served_own {j : ι} {e : ε} : (step answers s (.own j e)).served i = s.served i := by
  by_cases hj : i = j
  · subst hj
    simp only [step, State.served, Function.update_self, List.filterMap_append]
    exact List.append_nil _
  · simp only [step, State.served, Function.update_of_ne hj]

theorem served_hand {k : η} : (step answers s (.hand k)).served i = s.served i := by
  rw [step]
  split <;> rfl

/-- The answers of a station are handed out or on their way, in the order of the requests. -/
def Returned (answers : ι → α → ε → List β) (i : ι) (s : State ι α ε β η) : Prop :=
  (ofStation i s.handed).map Prod.fst ++ ofStation i s.returning = owed answers s i

theorem Returned.step (h : Returned answers i s) (hl : ¬l.Brings i) :
    Returned answers i (step answers s l) := by
  unfold Returned owed at h ⊢
  cases l with
  | post requests => exact h
  | serve j e =>
    by_cases hj : i = j
    · subst hj
      cases hwaiting : s.waiting i with
      | nil => simpa only [Stations.step, hwaiting] using h
      | cons a rest =>
        rw [served_serve hwaiting, List.flatMap_append, List.flatMap_singleton, ← h, Stations.step,
          hwaiting]
        dsimp only
        rw [ofStation_append, ofStation_map_self, List.append_assoc]
    · rw [served_serve_of_ne hj, Stations.step]
      split
      case h_1 => exact h
      case h_2 =>
        dsimp only
        rw [ofStation_append, ofStation_map_of_ne (Ne.symm hj), List.append_nil, h]
  | own j e =>
    rw [served_own]
    exact h
  | bring j b =>
    rw [Stations.step, ofStation_append, ofStation_cons_of_ne hl, ofStation_nil, List.append_nil]
    exact h
  | hand k =>
    rw [served_hand, Stations.step]
    split
    case h_1 => exact h
    case h_2 j b rest hreturning =>
      rw [hreturning] at h
      by_cases hj : j = i
      · subst hj
        rw [ofStation_cons_self] at h
        rw [ofStation_append, ofStation_cons_self, ← h]
        simp
      · rw [ofStation_cons_of_ne hj] at h
        rw [ofStation_append, ofStation_cons_of_ne hj, ofStation_nil, List.append_nil, h]

end Steps

end SystemMaster.Stations
