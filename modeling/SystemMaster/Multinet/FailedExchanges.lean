import SystemMaster.Multinet.RelayController

/-!
# Inputs of failed exchanges

A worker frees the messages of a frame before the exchange and does not look at
how it ended. The inputs it takes from its queue are acknowledged or still held
exactly when the box acknowledges every frame that carries some.
-/

namespace SystemMaster.Multinet

open Alto Runs

def Worker.held (w : Worker) : List Msg :=
  match w.point with
  | .drain packed _ | .send packed _ | .receive packed _ => packed
  | _ => []

def lastState (ms : List Msg) (v : Fin 32) : Option Bool :=
  ((ms.filter (·.input.inputAddress = v)).map (·.input.value)).getLast?

/-- Every input taken is acknowledged or held, in order, and with nothing queued or
held the box has for each virtual input the state last routed to it. -/
structure Kept (D : Address) (s : System) : Prop where
  kept : (s.worker D).taken = (s.worker D).acked ++ (s.worker D).held
  latest : (s.worker D).queue = [] → (s.worker D).held = [] →
    ∀ v state, lastState (s.worker D).taken v = some state → (s.worker D).box v = state

/-- An exchange of `D` that carries inputs ends with `ALTO_AckNak_GoodStatus`. -/
def Acknowledged (D : Address) (s : System) : System.Label → Prop
  | .register _ _ => True
  | .step S a =>
    S = D → D ∈ s.hControllersList →
      match (s.worker D).point with
      | .receive packed _ => packed = [] ∨ a.isGoodAck
      | _ => True

variable {D S : Address} {w : Worker} {s : System} {a : Answer} {ms ms' : List Msg}
  {labels : List System.Label} {label : System.Label} {v : Fin 32}

theorem lastState_append : lastState (ms ++ ms') v = (lastState ms' v).or (lastState ms v) := by
  simp [lastState, List.getLast?_append]

theorem applyInputs_apply (box : Fin 32 → Bool) :
    applyInputs box ms v = (lastState ms v).getD (box v) := by
  induction ms using List.reverseRecOn with
  | nil => rfl
  | append_singleton ms m ih =>
    rw [applyInputs, List.foldl_append, List.foldl_cons, List.foldl_nil, lastState_append]
    by_cases hm : m.input.inputAddress = v
    · subst hm
      simp [lastState]
    · have hne : v ≠ m.input.inputAddress := fun h => hm h.symm
      rw [Function.update_of_ne hne]
      have hnone : lastState [m] v = none := by simp [lastState, hm]
      rw [hnone, Option.none_or]
      exact ih

/-- The box has what was acknowledged last. -/
def Worker.Agrees (w : Worker) : Prop :=
  ∀ v state, lastState w.acked v = some state → w.box v = state

theorem Worker.Agrees.applied (h : w.Agrees) :
    ∀ v state, lastState (w.acked ++ ms) v = some state → applyInputs w.box ms v = state := by
  intro v state hstate
  rw [lastState_append] at hstate
  rw [applyInputs_apply]
  cases hms : lastState ms v with
  | some last =>
    rw [hms] at hstate
    exact Option.some.inj hstate
  | none =>
    rw [hms, Option.none_or] at hstate
    exact h v state hstate

def Worker.Whole (w : Worker) : Prop := w.taken = w.acked ++ w.held

def Worker.AckedBy (w : Worker) (a : Answer) : Prop :=
  match w.point with
  | .receive packed _ => packed = [] ∨ a.isGoodAck
  | _ => True

theorem Worker.Whole.step_iff (h : w.Whole) : (w.step D a).Whole ↔ w.AckedBy a := by
  rw [Whole] at h
  rw [step, AckedBy]
  split
  case h_4 packed next hp =>
    rw [hp]
    rw [held, hp] at h
    by_cases hack : a.isGoodAck
    · simp [Whole, answered, held, hack, h]
    · simp [Whole, answered, held, hack, h]
  case h_1 hp =>
    rw [held, hp] at h
    simp [Whole, prepare, held, hp, h]
  case h_2 packed isSent hp =>
    rw [held, hp] at h
    split
    case h_1 m queue hqueue =>
      rw [pack]
      split <;> simp [Whole, held, hp, h]
    case h_2 hqueue =>
      rw [finish]
      by_cases hpacked : packed = []
      · cases isSent <;> simp [Whole, held, hp, h, hpacked]
      · simp [Whole, held, hp, h, hpacked]
  case h_3 packed next hp =>
    rw [held, hp] at h
    simp [Whole, held, hp, h]
  case h_5 next hp =>
    rw [held, hp] at h
    cases next <;> simp [Whole, Next.point, held, hp, h]
  case h_6 e entries next hp =>
    rw [held, hp] at h
    simp [Whole, held, hp, h]
  case h_7 hp =>
    rw [held, hp] at h
    simp [Whole, held, hp, h]

theorem Worker.Agrees.step (h : w.Agrees) (hacked : w.AckedBy a) : (w.step D a).Agrees := by
  rw [AckedBy] at hacked
  rw [Worker.step]
  split
  case h_1 => exact h
  case h_2 packed isSent hp =>
    split
    case h_1 =>
      rw [pack]
      split <;> exact h
    case h_2 =>
      rw [finish]
      by_cases hpacked : packed = []
      · cases isSent <;> simpa [Agrees, hpacked] using h
      · simpa [Agrees, hpacked] using h
  case h_3 => exact h
  case h_4 packed next hp =>
    rw [hp] at hacked
    by_cases hack : a.isGoodAck
    · have happlied : ∀ v state, lastState (w.acked ++ packed) v = some state →
          applyInputs w.box packed v = state := h.applied
      simpa [answered, Agrees, hack] using happlied
    · obtain rfl : packed = [] := hacked.resolve_right hack
      simpa [answered, Agrees, hack, applyInputs] using h
  case h_5 => exact h
  case h_6 => exact h
  case h_7 => exact h

theorem Worker.init_agrees (box : Fin 32 → Bool) : (Worker.init box).Agrees := by
  rintro v state ⟨⟩

-- ---------------------------------------------------------------------------
-- The system
-- ---------------------------------------------------------------------------

theorem Acknowledged.agrees (hacked : Acknowledged D s label) (h : (s.worker D).Agrees) :
    ((s.step label).worker D).Agrees := by
  obtain ⟨w, hw, hown⟩ := s.step_worker label D
  have hqueue : ((s.step label).worker D).Agrees ↔ w.Agrees := by
    obtain hw | ⟨m, hw⟩ := hw
    · rw [hw]
    · rw [hw]
      rfl
  rw [hqueue]
  obtain ⟨a, rfl, hl, rfl⟩ | ⟨_, rfl | ⟨box, rfl⟩⟩ := hown
  · exact h.step (hacked rfl hl)
  · exact h
  · exact Worker.init_agrees box

end SystemMaster.Multinet
