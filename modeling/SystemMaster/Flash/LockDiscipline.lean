import SystemMaster.Flash.Storage

/-!
# Lock discipline of the flash file system

Whenever no operation is in progress on an initialized storage, nothing is
held. On a storage that is not initialized the first operation that waits for
it takes the semaphore for good.
-/

namespace SystemMaster.Flash

open Tasks Runs Program

variable {s s' : Storage} {c : Call} {o : Operation} {point point' : Point} {outcome : Outcome}
  {a : Answers} {configured : Bool}

-- ---------------------------------------------------------------------------
-- One action
-- ---------------------------------------------------------------------------

theorem storageFFSMount_eq (mounted : Bool) :
    (storageFFSMount a mounted).2 = (storageFFSMount a mounted).1 := by
  simp only [storageFFSMount]
  split
  case isTrue hmounted => exact hmounted
  case isFalse => split_ifs <;> rfl

theorem storageFFSUnmount_eq (mounted : Bool) : (storageFFSUnmount mounted).2 = false := by
  cases mounted <;> rfl

theorem withMount_unmounted {mounted mounted' : Bool} {work : Option Reply} {reply : Reply}
    (h : withMount a mounted work = some (mounted', reply)) : mounted' = false := by
  have hmount := storageFFSMount_eq (a := a) mounted
  rw [withMount] at h
  split at h
  case h_1 =>
    obtain ⟨_, _, heq⟩ := Option.map_eq_some_iff.mp h
    rw [← (Prod.mk.inj heq).1, storageFFSUnmount_eq]
  case h_2 hfailed =>
    rw [hfailed] at hmount
    rw [← (Prod.mk.inj (Option.some.inj h)).1]
    exact hmount

theorem Op.access_unmounted {op : Op} {mounted mounted' : Bool} {reply : Reply}
    (h : op.access a mounted = some (mounted', reply)) : mounted' = false := by
  cases op with
  | getStatus | format => exact (Prod.mk.inj (Option.some.inj h)).1.symm
  | _ => exact withMount_unmounted h

inductive Acts (s : Storage) : Point → Storage → Outcome → Prop
  | acquire {n} (h : s.semInitialized = n + 1) :
    Acts s .pendInitialized { s with semInitialized := n } (.continues .enterMount)
  | giveUp {reply} (h : s.semInitialized = 0) : Acts s .pendInitialized s (.returns reply)
  | enterMount (h : s.gateMount = false) :
    Acts s .enterMount { s with gateMount := true } (.continues .access)
  | access {reply} : Acts s .access { s with mounted := false } (.continues (.leaveMount reply))
  | leaveMount {reply} :
    Acts s (.leaveMount reply) { s with gateMount := false } (.continues (.post reply))
  | post {reply} : Acts s (.post reply) { s with semInitialized := 1 } (.returns reply)
  | enterWait (h : s.gateWait = false) :
    Acts s .enterWait { s with gateWait := true }
      (.continues (if s.initialized then .leaveWait else .pendWait))
  | takeWait {n} (h : s.semInitialized = n + 1) :
    Acts s .pendWait { s with semInitialized := n } (.continues .leaveWait)
  | giveUpWait (h : s.semInitialized = 0) : Acts s .pendWait s (.continues .leaveWait)
  | leaveWait {reply} : Acts s .leaveWait { s with gateWait := false } (.returns reply)

theorem semaphorePend_cases {count timeout count' : Nat} {acquired : Bool}
    (h : semaphorePend count timeout = some (acquired, count')) :
    (acquired = true ∧ count = count' + 1) ∨ (acquired = false ∧ count = 0 ∧ count' = 0) := by
  rw [semaphorePend] at h
  split at h
  · cases h
    exact .inl ⟨rfl, by omega⟩
  · split at h
    · cases h
    · cases h
      exact .inr ⟨rfl, by omega, by omega⟩

theorem Operation.action_acts (h : o.action s a = some (s', outcome)) :
    Acts s o.point s' outcome := by
  obtain ⟨call, point⟩ := o
  cases point with
  | pendInitialized =>
    obtain ⟨⟨acquired, count⟩, hpend, heq⟩ := Option.map_eq_some_iff.mp h
    obtain ⟨rfl, rfl⟩ := Prod.mk.inj heq
    rcases semaphorePend_cases hpend with ⟨rfl, hcount⟩ | ⟨rfl, hcount, rfl⟩
    · exact .acquire hcount
    · have hs : s = { s with semInitialized := 0 } := by rw [← hcount]
      rw [← hs]
      exact .giveUp hcount
  | enterMount =>
    simp only [action] at h
    split at h
    case isTrue => cases h
    case isFalse hgate =>
      obtain ⟨rfl, rfl⟩ := Prod.mk.inj (Option.some.inj h)
      exact .enterMount (Bool.eq_false_iff.mpr hgate)
  | access =>
    obtain ⟨⟨mounted, reply⟩, haccess, heq⟩ := Option.map_eq_some_iff.mp h
    obtain ⟨rfl, rfl⟩ := Prod.mk.inj heq
    rw [Op.access_unmounted haccess]
    exact .access
  | leaveMount reply =>
    obtain ⟨rfl, rfl⟩ := Prod.mk.inj (Option.some.inj h)
    exact .leaveMount
  | post reply =>
    obtain ⟨rfl, rfl⟩ := Prod.mk.inj (Option.some.inj h)
    exact .post
  | enterWait =>
    simp only [action] at h
    split at h
    case isTrue => cases h
    case isFalse hgate =>
      obtain ⟨rfl, rfl⟩ := Prod.mk.inj (Option.some.inj h)
      exact .enterWait (Bool.eq_false_iff.mpr hgate)
  | pendWait =>
    obtain ⟨⟨acquired, count⟩, hpend, heq⟩ := Option.map_eq_some_iff.mp h
    obtain ⟨rfl, rfl⟩ := Prod.mk.inj heq
    rcases semaphorePend_cases hpend with ⟨_, hcount⟩ | ⟨_, hcount, rfl⟩
    · exact .takeWait hcount
    · have hs : s = { s with semInitialized := 0 } := by rw [← hcount]
      rw [← hs]
      exact .giveUpWait hcount
  | leaveWait =>
    obtain ⟨rfl, rfl⟩ := Prod.mk.inj (Option.some.inj h)
    exact .leaveWait

-- ---------------------------------------------------------------------------
-- Invariants
-- ---------------------------------------------------------------------------

def Point.waits : Point → Bool
  | .enterWait | .pendWait | .leaveWait => true
  | _ => false

def Point.holdsSemaphore : Point → Nat
  | .enterMount | .access | .leaveMount _ | .post _ => 1
  | _ => 0

def Point.holdsGateMount : Point → Nat
  | .access | .leaveMount _ => 1
  | _ => 0

def Point.holdsGateWait : Point → Nat
  | .pendWait | .leaveWait => 1
  | _ => 0

def free (gate : Bool) : Nat := if gate then 0 else 1

def Outcome.weight (w : Point → Nat) : Outcome → Nat
  | .continues point => w point
  | .returns _ => 0

theorem Outcome.sum_tasks (w : Point → Nat) :
    ((outcome.tasks c).map fun o => w o.point).sum = outcome.weight w := by
  cases outcome <;> simp [tasks, weight]

theorem Acts.gateWait (h : Acts s point s' outcome)
    (hone : free s.gateWait + point.holdsGateWait ≤ 1) :
    free s'.gateWait + outcome.weight Point.holdsGateWait =
      free s.gateWait + point.holdsGateWait := by
  cases h with
  | enterWait hfree =>
    rw [hfree]
    change 0 + Point.holdsGateWait _ = 1 + 0
    split <;> rfl
  | leaveWait => simp_all [free, Outcome.weight, Point.holdsGateWait]
  | _ => rfl

theorem Acts.gateMount (h : Acts s point s' outcome)
    (hone : free s.gateMount + point.holdsGateMount ≤ 1) :
    free s'.gateMount + outcome.weight Point.holdsGateMount =
      free s.gateMount + point.holdsGateMount := by
  cases h with
  | enterMount hfree =>
    rw [hfree]
    rfl
  | leaveMount => simp_all [free, Outcome.weight, Point.holdsGateMount]
  | enterWait =>
    change free s.gateMount + Point.holdsGateMount _ = free s.gateMount + 0
    split <;> rfl
  | _ => rfl

theorem Acts.semaphore (h : Acts s point s' outcome) (hwaits : point.waits = false)
    (hone : s.semInitialized + point.holdsSemaphore ≤ 1) :
    s'.semInitialized + outcome.weight Point.holdsSemaphore =
      s.semInitialized + point.holdsSemaphore := by
  cases h with
  | acquire hcount =>
    rw [hcount]
    rfl
  | post =>
    have hzero : s.semInitialized = 0 := by
      change _ + 1 ≤ 1 at hone
      omega
    rw [hzero]
    rfl
  | enterWait | takeWait | giveUpWait | leaveWait => cases hwaits
  | _ => rfl

theorem Acts.waits (h : Acts s point s' outcome) :
    outcome = .continues point' → point'.waits = point.waits := by
  cases h with
  | enterWait =>
    rintro ⟨⟩
    split <;> rfl
  | _ => rintro ⟨⟩ <;> rfl

theorem Acts.shared (h : Acts s point s' outcome) :
    s'.initialized = s.initialized ∧ (s.mounted = false → s'.mounted = false) ∧
      (s.semInitialized ≤ 1 → s'.semInitialized ≤ 1) := by
  cases h <;> simp_all

-- ---------------------------------------------------------------------------
-- Runs
-- ---------------------------------------------------------------------------

variable {st st' : System Storage Operation} {e : Event Operation Answers Call}
  {es : List (Event Operation Answers Call)} {ts : Multiset Operation}

def opened (configured : Bool) : System Storage Operation := ⟨.opened configured, 0⟩

def calls (es : List (Event Operation Answers Call)) : List Call :=
  es.filterMap fun
    | .arrive c => some c
    | .act _ _ => none

theorem act_acts (h : program.act s o a = some (s', ts)) :
    ∃ outcome, Acts s o.point s' outcome ∧ ts = outcome.tasks o.call := by
  obtain ⟨⟨_, outcome⟩, haction, heq⟩ := Option.map_eq_some_iff.mp h
  obtain ⟨rfl, rfl⟩ := Prod.mk.inj heq
  exact ⟨outcome, Operation.action_acts haction, rfl⟩

theorem begin_eq_of_mem (h : o ∈ s.begin c) :
    c.stopped = false ∧ o = ⟨c, if s.initialized then .pendInitialized else .enterWait⟩ := by
  rw [Storage.begin] at h
  split at h
  case isTrue => exact absurd h (Multiset.notMem_zero o)
  case isFalse hstopped => exact ⟨Bool.eq_false_iff.mpr hstopped, Multiset.mem_singleton.mp h⟩

/-- What holds in every state. On an initialized storage the semaphore is with
the storage or with one operation. -/
structure Disciplined (configured : Bool) (st : System Storage Operation) : Prop where
  initialized : st.shared.initialized = configured
  mounted : st.shared.mounted = false
  semaphore_le : st.shared.semInitialized ≤ 1
  waits : Holds (fun s o => o.point.waits = !s.initialized) st
  gateWait : tokens (fun s => free s.gateWait) (fun o => o.point.holdsGateWait) st = 1
  gateMount : tokens (fun s => free s.gateMount) (fun o => o.point.holdsGateMount) st = 1
  semaphore : configured = true →
    tokens Storage.semInitialized (fun o => o.point.holdsSemaphore) st = 1

theorem opened_disciplined : Disciplined configured (opened configured) where
  initialized := rfl
  mounted := rfl
  semaphore_le := le_rfl
  waits := fun _ h => absurd h (Multiset.notMem_zero _)
  gateWait := rfl
  gateMount := rfl
  semaphore := fun _ => rfl

theorem tokens_step {m : Storage → Nat} {w : Point → Nat} (h : program.Step st e st')
    (hone : tokens m (fun o => o.point |> w) st = 1)
    (harrive : w .pendInitialized = 0 ∧ w .enterWait = 0)
    (hacts : ∀ s o s' outcome, o ∈ st.tasks → s = st.shared → Acts s o.point s' outcome →
      m s + w o.point ≤ 1 → m s' + outcome.weight w = m s + w o.point) :
    tokens m (fun o => o.point |> w) st' = 1 := by
  refine h.tokens_eq hone (fun sh c o ho => ?_) fun sh o ts a sh' ts' hst hact hle => ?_
  · rw [(begin_eq_of_mem ho).2]
    dsimp only
    split
    · exact harrive.1
    · exact harrive.2
  · obtain ⟨outcome, hacts', rfl⟩ := act_acts hact
    rw [Outcome.sum_tasks]
    exact hacts _ _ _ _ (by rw [hst]; exact Multiset.mem_cons_self o ts) (by rw [hst]) hacts' hle

theorem Disciplined.step (h : Disciplined configured st) (hstep : program.Step st e st') :
    Disciplined configured st' := by
  have hshared : st'.shared.initialized = configured ∧ st'.shared.mounted = false ∧
      st'.shared.semInitialized ≤ 1 := by
    cases hstep with
    | arrive => exact ⟨h.initialized, h.mounted, h.semaphore_le⟩
    | act hact =>
      obtain ⟨_, hacts, _⟩ := act_acts hact
      obtain ⟨hinit, hmounted, hle⟩ := hacts.shared
      exact ⟨hinit.trans h.initialized, hmounted h.mounted, hle h.semaphore_le⟩
  refine ⟨hshared.1, hshared.2.1, hshared.2.2, ?_, ?_, ?_, fun hinit => ?_⟩
  · refine hstep.holds h.waits (fun s c o ho => ?_) fun s o ts a s' ts' _ _ ho hact => ?_
    · rw [(begin_eq_of_mem ho).2]
      cases s.initialized <;> rfl
    · obtain ⟨outcome, hacts, rfl⟩ := act_acts hact
      rw [hacts.shared.1]
      refine ⟨fun o' ho' => ?_, fun _ _ hu => hu⟩
      cases outcome with
      | continues point' =>
        rw [Multiset.mem_singleton.mp ho']
        exact (hacts.waits rfl).trans ho
      | returns reply => exact absurd ho' (Multiset.notMem_zero o')
  · exact tokens_step hstep h.gateWait ⟨rfl, rfl⟩ fun _ _ _ _ _ _ hacts => hacts.gateWait
  · exact tokens_step hstep h.gateMount ⟨rfl, rfl⟩ fun _ _ _ _ _ _ hacts => hacts.gateMount
  · refine tokens_step hstep (h.semaphore hinit) ⟨rfl, rfl⟩ fun s o _ _ ho hs hacts => ?_
    refine hacts.semaphore ?_
    rw [h.waits o ho, h.initialized, hinit]
    rfl

/-- The semaphore is gone, or an operation is about to wait for it. -/
def Taken (st : System Storage Operation) : Prop :=
  st.shared.semInitialized = 0 ∨ ∃ o ∈ st.tasks, o.point = .enterWait ∨ o.point = .pendWait

theorem Acts.semaphore_zero (h : Acts s point s' outcome) (hwaits : point.waits = true)
    (hzero : s.semInitialized = 0) : s'.semInitialized = 0 := by
  cases h with
  | takeWait hcount => exact absurd (hcount.symm.trans hzero) (Nat.succ_ne_zero _)
  | enterWait | giveUpWait | leaveWait => exact hzero
  | _ => cases hwaits

/-- On a storage that is not initialized, a semaphore taken is never given back. -/
theorem Taken.step (h : Taken st) (hd : Disciplined false st) (hstep : program.Step st e st') :
    Taken st' := by
  cases hstep with
  | arrive c =>
    rcases h with hzero | ⟨o, ho, hpoint⟩
    · exact .inl hzero
    · exact .inr ⟨o, Multiset.mem_add.mpr (.inr ho), hpoint⟩
  | @act s s' ts _ t _ hact =>
    obtain ⟨outcome, hacts, rfl⟩ := act_acts hact
    have hwaits : t.point.waits = true := by
      rw [hd.waits t (Multiset.mem_cons_self t ts), hd.initialized]
      rfl
    rcases h with hzero | ⟨o, ho, hpoint⟩
    · exact .inl (hacts.semaphore_zero hwaits hzero)
    rcases Multiset.mem_cons.mp ho with rfl | ho
    · generalize o.point = point at hacts hpoint
      cases hacts with
      | enterWait =>
        refine .inr ⟨⟨o.call, .pendWait⟩, Multiset.mem_add.mpr (.inl ?_), .inr rfl⟩
        rw [hd.initialized]
        exact Multiset.mem_singleton_self _
      | @takeWait n hcount =>
        have hle := hd.semaphore_le
        refine .inl (?_ : n = 0)
        dsimp only at hle
        omega
      | giveUpWait hcount => exact .inl hcount
      | _ => rcases hpoint with hpoint | hpoint <;> cases hpoint
    · exact .inr ⟨o, Multiset.mem_add.mpr (.inr ho), hpoint⟩

theorem Taken.of_arrive (hd : Disciplined false st) (hstopped : c.stopped = false)
    (hstep : program.Step st (.arrive c) st') : Taken st' := by
  cases hstep with
  | @arrive s ts =>
    refine .inr ⟨⟨c, .enterWait⟩, Multiset.mem_add.mpr (.inl ?_), .inl rfl⟩
    have hinit : s.initialized = false := hd.initialized
    change _ ∈ s.begin c
    rw [Storage.begin, hstopped, hinit]
    exact Multiset.mem_singleton_self _

theorem taken_of_run (hrun : Run program.Step st es st') (hd : Disciplined false st)
    (h : Taken st ∨ ∃ c ∈ calls es, c.stopped = false) : Taken st' := by
  induction hrun with
  | refl => simpa [calls] using h
  | @next st₁ st₂ st₃ e es hstep _ ih =>
    refine ih (hd.step hstep) ?_
    rcases h with h | ⟨c, hc, hstopped⟩
    · exact .inl (h.step hd hstep)
    cases e with
    | act t a => exact .inr ⟨c, hc, hstopped⟩
    | arrive c' =>
      rcases List.mem_cons.mp hc with rfl | hc
      · exact .inl (.of_arrive hd hstopped hstep)
      · exact .inr ⟨c, hc, hstopped⟩

theorem Disciplined.idle (h : Disciplined true ⟨s, 0⟩) : s.Idle where
  semInitialized := tokens_quiet.symm.trans (h.semaphore rfl)
  gateWait := by
    have hfree : free s.gateWait = 1 := tokens_quiet.symm.trans h.gateWait
    cases hgate : s.gateWait <;> simp_all [free]
  gateMount := by
    have hfree : free s.gateMount = 1 := tokens_quiet.symm.trans h.gateMount
    cases hgate : s.gateMount <;> simp_all [free]
  mounted := h.mounted

theorem run_of_stopped (hrun : Run program.Step st es st') (hquiet : st.tasks = 0)
    (h : ∀ c ∈ calls es, c.stopped = true) : st' = st := by
  induction hrun with
  | refl => rfl
  | next hstep _ ih =>
    cases hstep with
    | @arrive s ts c =>
      have hbegin : program.arrive s c = 0 := by
        change s.begin c = 0
        rw [Storage.begin, h c List.mem_cons_self]
        rfl
      rw [hbegin, zero_add] at ih
      exact ih hquiet fun c hc => h c (List.mem_cons_of_mem _ hc)
    | act => exact absurd hquiet (Multiset.cons_ne_zero)

/-- Every operation that looks at the storage gets its semaphore at once. -/
def Storage.Enters (s : Storage) : Prop :=
  ∀ c a, ((⟨c, .pendInitialized⟩ : Operation).action s a).map Prod.snd =
    some (.continues .enterMount)

theorem Storage.Idle.enters (h : s.Idle) : s.Enters := fun c a => by
  have hpend : semaphorePend s.semInitialized c.timeout = some (true, 0) := by
    rw [h.semInitialized]
    rfl
  simp [Operation.action, hpend]

/-- Whenever no operation is in progress, nothing is held and every operation
can enter exactly when the storage is initialized, or every call so far has
returned on its own checks. -/
theorem idle_iff (configured : Bool) (es : List (Event Operation Answers Call)) (s : Storage)
    (hrun : Run program.Step (opened configured) es ⟨s, 0⟩) :
    s.Idle ∧ s.Enters ↔ configured = true ∨ ∀ c ∈ calls es, c.stopped = true := by
  rw [and_iff_left_of_imp Storage.Idle.enters]
  constructor
  · intro hidle
    by_contra hnot
    obtain ⟨hconfigured, hcalls⟩ := not_or.mp hnot
    obtain ⟨c, hc⟩ := not_forall.mp hcalls
    obtain ⟨hc, hstopped⟩ := Classical.not_imp.mp hc
    rw [Bool.not_eq_true] at hconfigured hstopped
    subst hconfigured
    rcases taken_of_run hrun opened_disciplined (.inr ⟨c, hc, hstopped⟩) with hzero | ⟨o, ho, _⟩
    · exact absurd (hzero.symm.trans hidle.semInitialized) Nat.zero_ne_one
    · exact absurd ho (Multiset.notMem_zero o)
  · rintro (rfl | hcalls)
    · exact (hrun.inv opened_disciplined fun _ _ _ h hstep => h.step hstep).idle
    · have hsame := congrArg System.shared (run_of_stopped hrun rfl hcalls)
      rw [show s = .opened configured from hsame]
      exact ⟨rfl, rfl, rfl, rfl⟩

def failing : Answers where
  mount := -1
  notAFS := false
  remount := -1
  openFd := -1
  transferred := -1
  stat := -1
  size := 0
  allocated := false
  dirents := []
  reads := []
  recvs := []
  uninit := 0

def statusCall : Call := ⟨.getStatus, true, waitForever⟩

theorem idle_after_failed_mount : (Storage.opened true).Idle ∧ (Storage.opened true).Enters :=
  (idle_iff true [.arrive statusCall, .act ⟨statusCall, .pendInitialized⟩ failing,
      .act ⟨statusCall, .enterMount⟩ failing, .act ⟨statusCall, .access⟩ failing,
      .act ⟨statusCall, .leaveMount (.value (-1))⟩ failing,
      .act ⟨statusCall, .post (.value (-1))⟩ failing] _
    (run_of_replay (by rfl))).mpr (.inl rfl)

/-- The status of a storage that is not initialized is asked for once, and the
semaphore is gone. -/
theorem semaphore_lost :
    ∃ es s, Run program.Step (opened false) es ⟨s, 0⟩ ∧ ¬(s.Idle ∧ s.Enters) :=
  ⟨[.arrive statusCall, .act ⟨statusCall, .enterWait⟩ failing,
      .act ⟨statusCall, .pendWait⟩ failing, .act ⟨statusCall, .leaveWait⟩ failing],
    { Storage.opened false with semInitialized := 0 },
    run_of_replay (by rfl), fun h => absurd h.1.semInitialized Nat.zero_ne_one⟩

end SystemMaster.Flash
