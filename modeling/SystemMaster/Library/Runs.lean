import Mathlib.Data.List.Basic

/-!
# Runs

Runs of a step function, and of a step relation, over lists of labels. The
rules turn facts about one step into facts about every state a run reaches.
-/

namespace SystemMaster.Runs

-- ---------------------------------------------------------------------------
-- Functions
-- ---------------------------------------------------------------------------

section Functions

variable {σ ℓ : Type*} {step : σ → ℓ → σ} {R I : σ → Prop} {P : σ → ℓ → Prop} {s : σ}
  {ls ks : List ℓ}

def exec (step : σ → ℓ → σ) (s : σ) (ls : List ℓ) : σ := ls.foldl step s

/-- `P` holds at each step of the run, of the state before it and its label. -/
def Along (step : σ → ℓ → σ) (P : σ → ℓ → Prop) : σ → List ℓ → Prop
  | _, [] => True
  | s, l :: ls => P s l ∧ Along step P (step s l) ls

instance decidableAlong [∀ s l, Decidable (P s l)] : ∀ s ls, Decidable (Along step P s ls)
  | _, [] => .isTrue trivial
  | s, l :: ls =>
    haveI := decidableAlong (step s l) ls
    inferInstanceAs (Decidable (P s l ∧ Along step P (step s l) ls))

/-- `R` holds of every state the run reaches. -/
def Always (step : σ → ℓ → σ) (R : σ → Prop) (s : σ) (ls : List ℓ) : Prop :=
  ∀ ks, ks <+: ls → R (exec step s ks)

@[simp] theorem exec_nil : exec step s [] = s := rfl

@[simp] theorem exec_cons {l : ℓ} : exec step s (l :: ls) = exec step (step s l) ls := rfl

theorem exec_concat {l : ℓ} : exec step s (ls ++ [l]) = step (exec step s ls) l :=
  List.foldl_concat ..

theorem exec_map {τ : Type*} {step' : τ → ℓ → τ} {f : σ → τ}
    (h : ∀ s l, step' (f s) l = f (step s l)) : exec step' (f s) ls = f (exec step s ls) :=
  List.foldl_hom f h

/-- The labels of another system's run that goes along with this one. -/
def labels {κ : Type*} (step : σ → ℓ → σ) (label : σ → ℓ → κ) : σ → List ℓ → List κ
  | _, [] => []
  | s, l :: ls => label s l :: labels step label (step s l) ls

/-- Matching steps keep two systems related. -/
theorem exec_related {τ κ : Type*} {step' : τ → κ → τ} {label : σ → ℓ → κ} {Rel : σ → τ → Prop}
    {t : τ} (h : Rel s t) (hstep : ∀ s t l, Rel s t → Rel (step s l) (step' t (label s l))) :
    Rel (exec step s ls) (exec step' t (labels step label s ls)) := by
  induction ls generalizing s t with
  | nil => exact h
  | cons l ls ih => exact ih (hstep s t l h)

/-- What every step keeps holds at the end of a run. -/
theorem exec_inv (hI : I s) (hstep : ∀ s l, I s → I (step s l)) : I (exec step s ls) :=
  ls.foldlRecOn step hI fun s hs l _ => hstep s l hs

/-- While a run goes on its steps lower a measure: it has ended after as many steps. -/
theorem exec_ended {E : σ → Prop} {m : σ → Nat} (hI : I s) (hinv : ∀ s l, I s → I (step s l))
    (hstay : ∀ s l, E s → E (step s l))
    (hlt : ∀ s, I s → ∀ l ∈ ls, E (step s l) ∨ m (step s l) < m s) (hm : m s < ls.length) :
    E (exec step s ls) := by
  induction ls generalizing s with
  | nil => exact absurd hm (Nat.not_lt_zero _)
  | cons l ls ih =>
    rw [exec_cons]
    rcases hlt s hI l List.mem_cons_self with hended | hlower
    · exact exec_inv hended hstay
    · refine ih (hinv s l hI) (fun s hs k hk => hlt s hs k (List.mem_cons_of_mem l hk)) ?_
      rw [List.length_cons] at hm
      omega

theorem exec_field {β : Type*} (field : σ → β) {sets : ℓ → Option β}
    (h : ∀ s l, field (step s l) = (sets l).getD (field s)) :
    field (exec step s ls) = (ls.filterMap sets).getLastD (field s) := by
  induction ls generalizing s with
  | nil => rfl
  | cons l ls ih =>
    rw [exec_cons, ih, h, List.filterMap_cons]
    cases sets l with
    | none => rfl
    | some b => simp only [Option.getD_some, List.getLastD_cons]

theorem exec_of_notMem {β : Type*} {k : ℓ} (part : σ → β)
    (hother : ∀ s l, l ≠ k → part (step s l) = part s) (hk : k ∉ ls) :
    part (exec step s ls) = part s := by
  induction ls generalizing s with
  | nil => rfl
  | cons l ls ih =>
    obtain ⟨hne, hrest⟩ := List.ne_and_not_mem_of_not_mem_cons hk
    rw [exec_cons, ih hrest, hother s l hne.symm]

theorem exec_of_mem {β : Type*} {k : ℓ} {b : β} (part : σ → β) (hI : I s)
    (hinv : ∀ s l, I s → I (step s l)) (hother : ∀ s l, l ≠ k → part (step s l) = part s)
    (hown : ∀ s, I s → part (step s k) = b) (hk : k ∈ ls) : part (exec step s ls) = b := by
  induction ls generalizing s with
  | nil => exact absurd hk List.not_mem_nil
  | cons l ls ih =>
    rw [exec_cons]
    by_cases hmem : k ∈ ls
    · exact ih (hinv s l hI) hmem
    · obtain rfl : k = l := (List.mem_cons.mp hk).resolve_right hmem
      rw [exec_of_notMem part hother hmem, hown s hI]

/-- A log that a step leaves or adds its entry to has the entries of these steps in order. -/
theorem exec_log {β : Type*} (log : σ → List β) {p : ℓ → Bool} {entry : ℓ → β}
    (h : ∀ s l, log (step s l) = if p l then log s ++ [entry l] else log s) :
    log (exec step s ls) = log s ++ (ls.filter p).map entry := by
  induction ls generalizing s with
  | nil => exact (List.append_nil _).symm
  | cons l ls ih =>
    rw [exec_cons, ih, h, List.filter_cons]
    cases p l with
    | true => simp
    | false => rfl

theorem always_nil : Always step R s [] ↔ R s := by
  constructor
  · exact fun h => h [] List.nil_prefix
  · rintro h ks hks
    rw [List.prefix_nil.mp hks]
    exact h

theorem always_cons {l : ℓ} : Always step R s (l :: ls) ↔ R s ∧ Always step R (step s l) ls := by
  constructor
  · intro h
    refine ⟨h [] List.nil_prefix, fun ks hks => ?_⟩
    exact h (l :: ks) (List.cons_prefix_cons.mpr ⟨rfl, hks⟩)
  · rintro ⟨h, hrest⟩ ks hks
    cases ks with
    | nil => exact h
    | cons k ks =>
      obtain ⟨rfl, hks'⟩ := List.cons_prefix_cons.mp hks
      exact hrest ks hks'

theorem Always.imp {R' : σ → Prop} (h : Always step R s ls) (himp : ∀ s, R s → R' s) :
    Always step R' s ls :=
  fun ks hks => himp _ (h ks hks)

theorem Along.imp {Q : σ → ℓ → Prop} (h : Along step P s ls) (hI : I s)
    (hstep : ∀ s l, I s → P s l → I (step s l) ∧ Q s l) : Along step Q s ls := by
  induction ls generalizing s with
  | nil => trivial
  | cons l ls ih =>
    obtain ⟨hp, hps⟩ := h
    obtain ⟨hnext, hq⟩ := hstep s l hI hp
    exact ⟨hq, ih hps hnext⟩

theorem always_iff_along_of_inv (hI : I s) (hinv : ∀ s l, I s → I (step s l)) (hs : R s)
    (hstep : ∀ s l, I s → R s → (R (step s l) ↔ P s l)) :
    Always step R s ls ↔ Along step P s ls := by
  induction ls generalizing s with
  | nil => simpa [always_nil, Along] using hs
  | cons l ls ih =>
    rw [always_cons, Along, and_iff_right hs]
    constructor
    · intro h
      have hnext := always_nil.mp fun ks hks => h ks (hks.trans List.nil_prefix)
      exact ⟨(hstep s l hI hs).mp hnext, (ih (hinv s l hI) hnext).mp h⟩
    · rintro ⟨hp, hrest⟩
      exact (ih (hinv s l hI) ((hstep s l hI hs).mpr hp)).mpr hrest

theorem always_and_along_iff {Q : σ → ℓ → Prop} (hI : I s)
    (hinv : ∀ s l, I s → P s l → I (step s l)) (hR : ∀ s, I s → R s)
    (hstep : ∀ s l, I s → (R (step s l) ∧ Q s l ↔ P s l)) :
    Always step R s ls ∧ Along step Q s ls ↔ Along step P s ls := by
  induction ls generalizing s with
  | nil => simpa [always_nil, Along] using hR s hI
  | cons l ls ih =>
    rw [always_cons, Along, Along]
    constructor
    · rintro ⟨⟨_, hrest⟩, hq, hqs⟩
      have hp := (hstep s l hI).mp ⟨hrest [] List.nil_prefix, hq⟩
      exact ⟨hp, (ih (hinv s l hI hp)).mp ⟨hrest, hqs⟩⟩
    · rintro ⟨hp, hps⟩
      obtain ⟨hrest, hqs⟩ := (ih (hinv s l hI hp)).mpr hps
      exact ⟨⟨hR s hI, hrest⟩, ((hstep s l hI).mpr hp).2, hqs⟩

theorem along_map {τ : Type*} {step' : τ → ℓ → τ} {f : σ → τ} {P : τ → ℓ → Prop}
    (h : ∀ s l, step' (f s) l = f (step s l)) :
    Along step (fun s l => P (f s) l) s ls ↔ Along step' P (f s) ls := by
  induction ls generalizing s with
  | nil => exact Iff.rfl
  | cons l ls ih => rw [Along, Along, ih, h]

theorem along_concat {l : ℓ} :
    Along step P s (ls ++ [l]) ↔ Along step P s ls ∧ P (exec step s ls) l := by
  induction ls generalizing s with
  | nil => simp [Along]
  | cons k ls ih => rw [List.cons_append, Along, Along, ih, exec_cons, and_assoc]

theorem along_true : Along step (fun _ _ => True) s ls := by
  induction ls generalizing s with
  | nil => trivial
  | cons l ls ih => exact ⟨trivial, ih⟩

theorem always_iff_along (hI : I s) (hinv : ∀ s l, I s → P s l → I (step s l))
    (hR : ∀ s, I s → R s) (hstep : ∀ s l, I s → (R (step s l) ↔ P s l)) :
    Always step R s ls ↔ Along step P s ls := by
  have h : Always step R s ls ∧ Along step (fun _ _ => True) s ls ↔ Along step P s ls :=
    always_and_along_iff hI hinv hR fun s l hs => by rw [and_true, hstep s l hs]
  rwa [and_iff_left along_true] at h

theorem exec_range_succ {label : Nat → ℓ} {n : Nat} :
    exec step s ((List.range (n + 1)).map label) =
      step (exec step s ((List.range n).map label)) (label n) := by
  rw [List.range_succ, List.map_append, List.map_singleton, exec_concat]

theorem forall_exec_iff {label : Nat → ℓ} (hs : R s)
    (hstep : ∀ s l, R s → (R (step s l) ↔ P s l)) :
    (∀ n, R (exec step s ((List.range n).map label))) ↔
      ∀ n, P (exec step s ((List.range n).map label)) (label n) := by
  constructor
  · intro h n
    have hnext := h (n + 1)
    rw [exec_range_succ] at hnext
    exact (hstep _ _ (h n)).mp hnext
  · intro h n
    induction n with
    | zero => exact hs
    | succ n ih =>
      rw [exec_range_succ]
      exact (hstep _ _ ih).mpr (h n)

end Functions

-- ---------------------------------------------------------------------------
-- Relations
-- ---------------------------------------------------------------------------

section Relations

variable {σ ℓ : Type*}

inductive Run (Step : σ → ℓ → σ → Prop) : σ → List ℓ → σ → Prop
  | refl {s} : Run Step s [] s
  | next {s s' s'' l ls} : Step s l s' → Run Step s' ls s'' → Run Step s (l :: ls) s''

/-- Every step of the run, seen from the state before it, satisfies `P`. -/
inductive RunWith (Step : σ → ℓ → σ → Prop) (P : σ → ℓ → Prop) : σ → List ℓ → σ → Prop
  | refl {s} : RunWith Step P s [] s
  | next {s s' s'' l ls} : P s l → Step s l s' → RunWith Step P s' ls s'' →
      RunWith Step P s (l :: ls) s''

variable {Step : σ → ℓ → σ → Prop} {I : σ → Prop} {P : σ → ℓ → Prop} {s s' : σ} {ls : List ℓ}

theorem Run.inv (h : Run Step s ls s') (hs : I s)
    (hstep : ∀ s l s', I s → Step s l s' → I s') : I s' := by
  induction h with
  | refl => exact hs
  | next hl _ ih => exact ih (hstep _ _ _ hs hl)

theorem Run.append {s'' : σ} {ls' : List ℓ} (h : Run Step s ls s') (h' : Run Step s' ls' s'') :
    Run Step s (ls ++ ls') s'' := by
  induction h with
  | refl => exact h'
  | next hl _ ih => exact .next hl (ih h')

theorem RunWith.inv (h : RunWith Step P s ls s') (hs : I s)
    (hstep : ∀ s l s', I s → P s l → Step s l s' → I s') : I s' := by
  induction h with
  | refl => exact hs
  | next hp hl _ ih => exact ih (hstep _ _ _ hs hp hl)

theorem RunWith.imp {Q : σ → ℓ → Prop} (h : RunWith Step P s ls s')
    (himp : ∀ s l, P s l → Q s l) : RunWith Step Q s ls s' := by
  induction h with
  | refl => exact .refl
  | next hp hl _ ih => exact .next (himp _ _ hp) hl ih

theorem RunWith.run (h : RunWith Step P s ls s') : Run Step s ls s' := by
  induction h with
  | refl => exact .refl
  | next _ hl _ ih => exact .next hl ih

theorem Run.runWith (h : Run Step s ls s') (hP : ∀ l ∈ ls, ∀ s, P s l) :
    RunWith Step P s ls s' := by
  induction h with
  | refl => exact .refl
  | @next s₁ _ _ l _ hl _ ih =>
    exact .next (hP l List.mem_cons_self s₁) hl (ih fun k hk => hP k (List.mem_cons_of_mem _ hk))

end Relations

end SystemMaster.Runs
