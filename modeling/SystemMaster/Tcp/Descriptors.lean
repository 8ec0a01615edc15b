import SystemMaster.Tcp.Connections

/-!
# The descriptors of the TCP binary server

A worker closes the descriptor of its connection, and so does its socket-timeout
task. Only where that task could not be created is the descriptor closed once.
-/

namespace SystemMaster.Tcp

open Tasks Runs Program

variable {n n' : Net} {t u : Task} {a : Answer} {ts ts' : Multiset Task} {s s' : System Net Task}
  {e : Event Task Answer Empty} {es : List (Event Task Answer Empty)} {c d : Conn} {i : Nat}

def Task.closing : Task → Option Conn
  | .server (.create c) => some c
  | .server _ => none
  | .worker _ .semPost => none
  | .worker c _ => some c
  | .timeout _ .delete => none
  | .timeout c _ => some c

def Task.conn : Task → Option Conn
  | .server (.create c) | .worker c _ | .timeout c _ => some c
  | .server _ => none

def closesOf (n : Net) (i : Nat) : Nat := n.closes.countP fun x => x.1 = i

def Finished (i : Nat) (s : System Net Task) : Prop :=
  i < s.shared.accepted ∧ ∀ t ∈ s.tasks, ∀ c, t.conn = some c → c.id ≠ i

/-- Every connection is closed once, by tasks of its own and while it has the
descriptor; no post comes too late, and no wakeup after a worker's exit goes on. -/
structure CloseOnce (s : System Net Task) : Prop where
  le_one : ∀ i, closesOf s.shared i ≤ 1
  once : ∀ i, Finished i s → closesOf s.shared i = 1
  own : ∀ x ∈ s.shared.closes, x.2 = some x.1
  noLatePost : s.shared.latePosts = []
  noMissedKill : s.shared.missedKills = []

def timeoutCreated (i : Nat) : Event Task Answer Empty → Nat
  | .act (.worker c .start) (.taskCreated true) => if c.id = i then 1 else 0
  | _ => 0

-- ---------------------------------------------------------------------------
-- How often a connection is closed
-- ---------------------------------------------------------------------------

def Task.toClose (i : Nat) (t : Task) : Nat :=
  match t.closing with
  | some c => if c.id = i then 1 else 0
  | none => 0

/-- The closes of a connection, and one for a connection that is yet to come. -/
def closed (i : Nat) (n : Net) : Nat := closesOf n i + if i < n.accepted then 0 else 1

theorem closesOf_close : closesOf (n.close c) i = closesOf n i + if c.id = i then 1 else 0 := by
  simp [closesOf, Net.close, List.countP_append, List.countP_cons]

@[simp] theorem wakeup_closes : (n.wakeup c).1.closes = n.closes := by
  rw [Net.wakeup]
  split <;> rfl

@[simp] theorem wakeup_accepted : (n.wakeup c).1.accepted = n.accepted := by
  rw [Net.wakeup]
  split <;> rfl

theorem closed_accept {fd : Nat} :
    closed i (n.accept fd) + (if n.accepted = i then 1 else 0) = closed i n :=
  toCome_succ

theorem closed_close : closed i (n.close c) = closed i n + if c.id = i then 1 else 0 := by
  rw [closed, closed, closesOf_close, Nat.add_right_comm]
  rfl

@[simp] theorem closed_wakeup : closed i (n.wakeup c).1 = closed i n := by
  rw [closed, closed, closesOf, closesOf, wakeup_closes, wakeup_accepted]

theorem wakeup_closing : (Task.timeout c (n.wakeup c).2).closing = some c := by
  rw [Net.wakeup]
  split <;> rfl

theorem Acts.closed (h : Acts n t a n' ts) :
    closed i n' + (ts.map (Task.toClose i)).sum =
      closed i n + t.toClose i + timeoutCreated i (.act t a) := by
  cases h with
  | accept => exact closed_accept
  | acceptFailed hpoint => rcases hpoint with rfl | rfl <;> rfl
  | createFailed | workerClose | timeoutClose =>
    rw [closed_close]
    rfl
  | recv hpoint => rcases hpoint with rfl | rfl <;> rfl
  | wakeup =>
    rw [closed_wakeup, Multiset.map_singleton, Multiset.sum_singleton, Task.toClose, wakeup_closing]
    rfl
  | start =>
    simp [Task.toClose, Task.closing, timeoutCreated, Nat.add_assoc]
  | _ => rfl

theorem Task.conn_of_closing (h : t.closing = some c) : t.conn = some c := by
  cases t with
  | server point =>
    cases point <;> cases h
    rfl
  | worker c point => cases point <;> cases h <;> rfl
  | timeout c point => cases point <;> cases h <;> rfl

theorem closesOf_of_finished (hrun : Run program.Step started es s) (h : Finished i s) :
    closesOf s.shared i = 1 + (es.map (timeoutCreated i)).sum := by
  have htokens := run_tokens (Tcp.closed i) (Task.toClose i) (timeoutCreated i)
    (fun _ => 0) hrun (fun _ e => e.elim)
    fun _ _ _ _ _ hact => (act_acts hact).closed
  have hnone : (s.tasks.map (Task.toClose i)).sum = 0 :=
    Multiset.sum_eq_zero fun k hk => by
      obtain ⟨t, ht, rfl⟩ := Multiset.mem_map.mp hk
      rw [Task.toClose]
      split
      case h_1 c hc => exact if_neg (h.2 t ht c (Task.conn_of_closing hc))
      case h_2 => rfl
  have hstart : tokens (Tcp.closed i) (Task.toClose i) started = 1 := rfl
  have hzero : (es.map fun _ => 0).sum = 0 := List.sum_map_zero
  rw [hzero, tokens, hnone, Tcp.closed, if_pos h.1, hstart] at htokens
  exact htokens

-- ---------------------------------------------------------------------------
-- Runs without timeout tasks
-- ---------------------------------------------------------------------------

def alone : Event Task Answer Empty → Bool
  | .act (.worker _ .start) (.taskCreated created) => !created
  | _ => true

theorem timeoutCreated_of_alone (h : alone e = true) : timeoutCreated i e = 0 := by
  rw [timeoutCreated.eq_def]
  split
  case h_1 => cases h
  case h_2 => rfl

def Task.isTimeout : Task → Bool
  | .timeout _ _ => true
  | _ => false

/-- What holds in every state of a run without timeout tasks: each task that is
yet to close a connection is the only one, and the connection has its descriptor. -/
structure Sole (s : System Net Task) : Prop where
  tokens : ∀ i, Program.tokens (Tcp.closed i) (Task.toClose i) s = 1
  owner : Holds (fun n t => ∀ c, t.closing = some c → n.owner c.fd = some c.id) s
  noTimeout : ∀ t ∈ s.tasks, t.isTimeout = false
  own : ∀ x ∈ s.shared.closes, x.2 = some x.1
  noDelete : ∀ i, (s.shared.events i).deleted = false
  noLatePost : s.shared.latePosts = []
  noMissedKill : s.shared.missedKills = []

/-- What an action does to the descriptors: it opens one that was not open, or
closes one it was to close, or changes none. -/
inductive Touches (n : Net) (t : Task) (n' : Net) (ts : Multiset Task) : Prop
  | opens (c : Conn) (hfree : n.owner c.fd = none)
    (howner : n'.owner = Function.update n.owner c.fd (some c.id)) (hcloses : n'.closes = n.closes)
    (hclosing : ∀ u ∈ ts, u.closing = some c)
  | closes (c : Conn) (ht : t.closing = some c)
    (howner : n'.owner = Function.update n.owner c.fd none)
    (hcloses : n'.closes = n.closes ++ [(c.id, n.owner c.fd)])
    (hclosing : ∀ u ∈ ts, u.closing = none)
  | neither (howner : n'.owner = n.owner) (hcloses : n'.closes = n.closes)
    (hclosing : ∀ u ∈ ts, u.closing = none ∨ u.closing = t.closing)

@[simp] theorem wakeup_owner : (n.wakeup c).1.owner = n.owner := by
  rw [Net.wakeup]
  split <;> rfl

theorem Acts.touches (h : Acts n t a n' ts) : Touches n t n' ts := by
  cases h with
  | @accept fd hfree =>
    exact .opens ⟨n.accepted, fd⟩ hfree rfl rfl (by simp [Task.closing])
  | createFailed | workerClose | timeoutClose =>
    exact .closes _ rfl rfl rfl (by simp [Task.closing])
  | acceptFailed hpoint =>
    refine .neither rfl rfl ?_
    rcases hpoint with rfl | rfl <;> simp [Task.closing]
  | recv hpoint =>
    refine .neither rfl rfl ?_
    rcases hpoint with rfl | rfl <;> simp [Task.closing]
  | wakeup =>
    refine .neither wakeup_owner wakeup_closes fun u hu => .inr ?_
    rw [Multiset.mem_singleton.mp hu]
    exact wakeup_closing
  | _ => exact .neither rfl rfl (by simp [Task.closing])

theorem Touches.owner (h : Touches n t n' ts)
    (howner : ∀ c, t.closing = some c → n.owner c.fd = some c.id) :
    ∀ u ∈ ts, ∀ d, u.closing = some d → n'.owner d.fd = some d.id := by
  intro u hu d hd
  cases h with
  | opens c _ howner' _ hclosing =>
    obtain rfl : c = d := Option.some.inj ((hclosing u hu).symm.trans hd)
    simp [howner']
  | closes _ _ _ _ hclosing => exact absurd ((hclosing u hu).symm.trans hd) (by simp)
  | neither howner' _ hclosing =>
    rw [howner']
    rcases hclosing u hu with hnone | hsame
    · exact absurd (hnone.symm.trans hd) (by simp)
    · exact howner d (hsame.symm.trans hd)

theorem Touches.owner_other (h : Touches n t n' ts)
    (howner : ∀ c, t.closing = some c → n.owner c.fd = some c.id)
    (hother : n.owner d.fd = some d.id) (hne : ∀ c, t.closing = some c → c.id ≠ d.id) :
    n'.owner d.fd = some d.id := by
  cases h with
  | opens c hfree howner' _ _ =>
    have hfd : d.fd ≠ c.fd := fun heq => by simp [← heq, hother] at hfree
    simpa [howner', Function.update_of_ne hfd] using hother
  | closes c htc howner' _ _ =>
    have hfd : d.fd ≠ c.fd := fun heq => by
      have hid := (howner c htc).symm.trans (heq ▸ hother)
      exact hne c htc (Option.some.inj hid)
    simpa [howner', Function.update_of_ne hfd] using hother
  | neither howner' _ _ =>
    rw [howner']
    exact hother

theorem Touches.own (h : Touches n t n' ts)
    (howner : ∀ c, t.closing = some c → n.owner c.fd = some c.id)
    (hown : ∀ x ∈ n.closes, x.2 = some x.1) : ∀ x ∈ n'.closes, x.2 = some x.1 := by
  cases h with
  | opens _ _ _ hcloses _ | neither _ hcloses _ =>
    rw [hcloses]
    exact hown
  | closes c htc _ hcloses _ =>
    rw [hcloses]
    exact List.forall_mem_append.mpr ⟨hown, List.forall_mem_singleton.mpr (howner c htc)⟩

theorem Acts.noTimeout (h : Acts n t a n' ts) (ht : t.isTimeout = false)
    (halone : alone (.act t a) = true) : ∀ u ∈ ts, u.isTimeout = false := by
  cases h with
  | start => cases halone
  | wakeup | timeoutClose | delete => cases ht
  | _ => simp [Task.isTimeout]

theorem Acts.events (h : Acts n t a n' ts) (ht : t.isTimeout = false)
    (hdelete : ∀ i, (n.events i).deleted = false) :
    (∀ i, (n'.events i).deleted = false) ∧ n'.latePosts = n.latePosts ∧
      n'.missedKills = n.missedKills := by
  have hpost : ∀ (c : Conn) (set : EventObject → EventObject),
      (∀ e, (set e).deleted = e.deleted) →
      (∀ i, ((n.post c set).events i).deleted = false) ∧ (n.post c set).latePosts = n.latePosts ∧
        (n.post c set).missedKills = n.missedKills := by
    intro c set hset
    refine ⟨fun i => ?_, ?_, rfl⟩
    · by_cases hi : i = c.id
      · subst hi
        simp [Net.post, hset, hdelete]
      · simp [Net.post, Function.update_of_ne hi, hdelete]
    · simp [Net.post, hdelete]
  cases h with
  | postPeriodic => exact hpost _ _ fun _ => rfl
  | postKill => exact hpost _ _ fun _ => rfl
  | wakeup | timeoutClose | delete => cases ht
  | _ => exact ⟨hdelete, rfl, rfl⟩

theorem started_sole : Sole started where
  tokens _ := rfl
  owner := by simp [Holds, started, Task.closing]
  noTimeout := by simp [started, Task.isTimeout]
  own := by simp [started, Net.start]
  noDelete _ := rfl
  noLatePost := rfl
  noMissedKill := rfl

theorem Sole.id_ne (h : Sole ⟨n, t ::ₘ ts⟩) (hu : u ∈ ts) (ht : t.closing = some c)
    (hud : u.closing = some d) : c.id ≠ d.id := by
  intro hid
  obtain ⟨ts, rfl⟩ := Multiset.exists_cons_of_mem hu
  have htokens := h.tokens d.id
  have htc : t.toClose d.id = 1 := by rw [Task.toClose, ht]; exact if_pos hid
  have huc : u.toClose d.id = 1 := by rw [Task.toClose, hud]; exact if_pos rfl
  rw [Program.tokens, Multiset.map_cons, Multiset.map_cons, Multiset.sum_cons, Multiset.sum_cons,
    htc, huc] at htokens
  omega

theorem Sole.step (h : Sole s) (halone : alone e = true) (hstep : program.Step s e s') :
    Sole s' := by
  have htokens : ∀ i, Program.tokens (Tcp.closed i) (Task.toClose i) s' = 1 := fun i => by
    have hchange := hstep.tokens_change (Tcp.closed i) (Task.toClose i) (timeoutCreated i)
      (fun _ => 0) (fun _ e => e.elim)
      fun _ _ _ _ _ _ _ hact => (act_acts hact).closed
    rw [timeoutCreated_of_alone halone] at hchange
    exact hchange.trans (h.tokens i)
  cases hstep with
  | arrive e => exact e.elim
  | @act n n' ts ts' t a hact =>
    have hacts := act_acts hact
    have ht := h.noTimeout t (Multiset.mem_cons_self t ts)
    have howner := h.owner t (Multiset.mem_cons_self t ts)
    obtain ⟨hdelete, hlate, hmissed⟩ := hacts.events ht h.noDelete
    refine ⟨htokens, ?_, ?_, ?_, hdelete, hlate.trans h.noLatePost, hmissed.trans h.noMissedKill⟩
    · intro u hu d hd
      rcases Multiset.mem_add.mp hu with hu | hu
      · exact hacts.touches.owner howner u hu d hd
      · exact hacts.touches.owner_other howner (h.owner u (Multiset.mem_cons_of_mem hu) d hd)
          fun c hc => h.id_ne hu hc hd
    · intro u hu
      rcases Multiset.mem_add.mp hu with hu | hu
      · exact hacts.noTimeout ht halone u hu
      · exact h.noTimeout u (Multiset.mem_cons_of_mem hu)
    · exact hacts.touches.own howner h.own

theorem Sole.closeOnce (h : Sole s)
    (hfinished : ∀ i, Finished i s → closesOf s.shared i = 1) : CloseOnce s where
  le_one i := by
    have htokens := h.tokens i
    rw [Program.tokens, Tcp.closed] at htokens
    omega
  once := hfinished
  own := h.own
  noLatePost := h.noLatePost
  noMissedKill := h.noMissedKill

/-- Without timeout tasks every connection is closed once, by its worker or by
the server; and a connection whose tasks have ended has been closed once only if
no timeout task was created for it. -/
theorem closed_once (es : List (Event Task Answer Empty)) (s : System Net Task)
    (hrun : Run program.Step started es s) :
    ((∀ e ∈ es, alone e = true) → CloseOnce s) ∧
      ∀ i, Finished i s → (closesOf s.shared i = 1 ↔ ∀ e ∈ es, timeoutCreated i e = 0) := by
  have hexact : ∀ i, Finished i s →
      (closesOf s.shared i = 1 ↔ ∀ e ∈ es, timeoutCreated i e = 0) := fun i hi => by
    rw [closesOf_of_finished hrun hi, Nat.add_eq_left, List.sum_eq_zero_iff_forall_eq_nat,
      List.forall_mem_map]
  refine ⟨fun halone => ?_, hexact⟩
  have hsole : Sole s := (hrun.runWith fun e he _ => halone e he).inv started_sole
    fun _ _ _ h he hstep => h.step he hstep
  exact hsole.closeOnce fun i hi =>
    (hexact i hi).mpr fun e he => timeoutCreated_of_alone (halone e he)

theorem closed_once_client : ∃ s, CloseOnce s ∧ closesOf s.shared 0 = 1 := by
  have hreplay : (program.replay (fun _ _ => true) started
      [.act (.server .accept) (.accepted 3), .act (.server (.create ⟨0, 3⟩)) (.taskCreated true),
        .act (.worker ⟨0, 3⟩ .start) (.taskCreated false),
        .act (.worker ⟨0, 3⟩ .recv) (.received 0), .act (.worker ⟨0, 3⟩ .postKill) .proceed,
        .act (.worker ⟨0, 3⟩ .close) .proceed]).map (fun s => closesOf s.shared 0) = some 1 := by
    decide +kernel
  obtain ⟨s, hs, hvalue⟩ := Option.map_eq_some_iff.mp hreplay
  exact ⟨s, (closed_once _ s (run_of_replay hs)).1 (by decide), hvalue⟩

/-- A client is silent for too long, its timeout task closes the descriptor and
the stack gives its number to the next client. The worker then posts to the
deleted event object and closes the descriptor of that client. -/
theorem closed_descriptor_of_other : ∃ es s, Run program.Step started es s ∧ ¬CloseOnce s := by
  have hreplay : (program.replay (fun _ _ => true) started
      [.act (.server .accept) (.accepted 3), .act (.server (.create ⟨0, 3⟩)) (.taskCreated true),
        .act (.server .pend) .proceed, .act (.worker ⟨0, 3⟩ .start) (.taskCreated true),
        .act (.timeout ⟨0, 3⟩ .pend) .proceed, .act (.timeout ⟨0, 3⟩ .close) .proceed,
        .act (.timeout ⟨0, 3⟩ .delete) .proceed, .act (.server .accept) (.accepted 3),
        .act (.worker ⟨0, 3⟩ .recv) (.received (-1)), .act (.worker ⟨0, 3⟩ .postKill) .proceed,
        .act (.worker ⟨0, 3⟩ .close) .proceed]).map
      (fun s => (s.shared.closes, s.shared.latePosts)) =
        some ([(0, some 0), (0, some 1)], [0]) := by decide +kernel
  obtain ⟨s, hs, hvalue⟩ := Option.map_eq_some_iff.mp hreplay
  refine ⟨_, s, run_of_replay hs, fun h => ?_⟩
  have hown := h.own (0, some 1)
  rw [(Prod.mk.inj hvalue).1] at hown
  exact absurd (hown (by simp)) (by decide)

end SystemMaster.Tcp
