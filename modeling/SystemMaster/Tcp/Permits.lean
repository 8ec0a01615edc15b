import SystemMaster.Tcp.Connections
import Mathlib.Algebra.Order.BigOperators.Group.Multiset
import Mathlib.Algebra.Order.Group.Nat

/-!
# The permits of the TCP binary server

Each worker holds a permit of the server's semaphore, and the server one
between two connections: 15 in all. A worker that could not be created loses
the permit the server waits for in its place, and a connection for which no
permit is left gets its worker first.
-/

namespace SystemMaster.Tcp

open Tasks Runs Program

variable {n n' : Net} {t : Task} {a : Answer} {ts ts' : Multiset Task} {s s' : System Net Task}
  {e : Event Task Answer Empty} {es : List (Event Task Answer Empty)} {c : Conn}

def Task.isServer : Task → Nat
  | .server _ => 1
  | _ => 0

def Task.isWorker : Task → Nat
  | .worker _ _ => 1
  | _ => 0

/-- The server's permit: it has none from the creation of a worker to the pend. -/
def Task.serverPermit : Task → Nat
  | .server .pend => 0
  | .server _ => 1
  | _ => 0

def live (s : System Net Task) : Nat := (s.tasks.map Task.isWorker).sum

/-- The worker is created, and while a permit is left. -/
def careful (s : System Net Task) : Event Task Answer Empty → Bool
  | .act (.server (.create _)) (.taskCreated created) => created && 0 < s.shared.count
  | _ => true

/-- At the server's `accept` the count and the live workers make up the initial
count; the workers are never more; and a server that waits for a permit gets
one when no worker is live. -/
structure Conserved (s : System Net Task) : Prop where
  accept : .server .accept ∈ s.tasks → s.shared.count + live s = maxSockets - 1
  live_le : live s ≤ maxSockets - 1
  pend : .server .pend ∈ s.tasks → live s = 0 → (act s.shared (.server .pend) .proceed).isSome

theorem Acts.isServer (h : Acts n t a n' ts) : (ts.map Task.isServer).sum = t.isServer := by
  cases h <;> rfl

def lost : Event Task Answer Empty → Nat
  | .act (.server (.create _)) (.taskCreated false) => 1
  | _ => 0

theorem Acts.permits (h : Acts n t a n' ts) :
    n'.count + (ts.map fun t => t.isWorker + t.serverPermit).sum + lost (.act t a) =
      n.count + (t.isWorker + t.serverPermit) := by
  cases h with
  | acceptFailed hpoint => rcases hpoint with rfl | rfl <;> rfl
  | pend hcount =>
    rw [hcount]
    rfl
  | wakeup =>
    rw [Net.wakeup_count]
    rfl
  | _ => rfl

theorem Acts.count_le (h : Acts n t a n' ts) (hserver : t.isServer = 0) : n.count ≤ n'.count := by
  cases h with
  | semPost => exact Nat.le_succ _
  | accept | acceptFailed | create | createFailed | pend => cases hserver
  | wakeup => rw [Net.wakeup_count]
  | _ => exact Nat.le_refl _

theorem lost_of_careful (h : careful s e = true) : lost e = 0 := by
  rw [lost.eq_def]
  split
  case h_1 => cases h
  case h_2 => rfl

def Task.needsPermit : Task → Bool
  | .server .pend => true
  | _ => false

theorem Task.isServer_of_needsPermit (h : t.needsPermit = true) : t.isServer = 1 := by
  rw [needsPermit.eq_def] at h
  split at h
  case h_1 => rfl
  case h_2 => cases h

theorem Acts.ready (h : Acts n t a n' ts) (hc : careful ⟨n, t ::ₘ ts'⟩ (.act t a) = true) :
    ∀ u ∈ ts, u.needsPermit = true → 0 < n'.count := by
  intro u hu hneeds
  cases h with
  | create => exact of_decide_eq_true hc
  | createFailed => cases hc
  | semPost => exact absurd hu (Multiset.notMem_zero u)
  | delete => exact absurd hu (Multiset.notMem_zero u)
  | acceptFailed hpoint =>
    rw [Multiset.mem_singleton.mp hu] at hneeds
    rcases hpoint with rfl | rfl <;> cases hneeds
  | start =>
    rcases Multiset.mem_cons.mp hu with rfl | hu
    · cases hneeds
    · rw [Multiset.mem_singleton.mp hu] at hneeds
      cases hneeds
  | _ =>
    rw [Multiset.mem_singleton.mp hu] at hneeds
    cases hneeds

/-- What holds in every state of a careful run. -/
structure Balanced (s : System Net Task) : Prop where
  server : tokens (fun _ => 0) Task.isServer s = 1
  permits : tokens Net.count (fun t => t.isWorker + t.serverPermit) s = maxSockets
  ready : Holds (fun n t => t.needsPermit = true → 0 < n.count) s

theorem started_balanced : Balanced started where
  server := rfl
  permits := rfl
  ready := by
    intro t ht h
    rw [Multiset.mem_singleton.mp ht] at h
    cases h

theorem Balanced.step (h : Balanced s) (hc : careful s e = true) (hstep : program.Step s e s') :
    Balanced s' where
  server := hstep.tokens_eq h.server (fun _ e => e.elim) fun _ _ _ _ _ _ _ hact _ => by
    rw [Nat.zero_add, Nat.zero_add]
    exact (act_acts hact).isServer
  permits := by
    have hchange := hstep.tokens_change Net.count (fun t => t.isWorker + t.serverPermit)
      (fun _ => 0) lost (fun _ e => e.elim) fun _ _ _ _ _ _ _ hact => (act_acts hact).permits
    rw [lost_of_careful hc] at hchange
    exact hchange.trans h.permits
  ready := by
    cases hstep with
    | arrive e => exact e.elim
    | @act n n' ts ts' t a hact =>
      have hacts := act_acts hact
      intro u hu hneeds
      rcases Multiset.mem_add.mp hu with hu | hu
      · exact hacts.ready hc u hu hneeds
      · -- the task that needs the permit is the server, so the one that acts is not
        have hserver := h.server
        obtain ⟨ts, rfl⟩ := Multiset.exists_cons_of_mem hu
        simp only [tokens, Multiset.map_cons, Multiset.sum_cons,
          Task.isServer_of_needsPermit hneeds] at hserver
        have hcount := hacts.count_le (by omega)
        exact Nat.lt_of_lt_of_le (h.ready u (Multiset.mem_cons_of_mem hu) hneeds) hcount

-- ---------------------------------------------------------------------------
-- Every state
-- ---------------------------------------------------------------------------

theorem Task.serverPermit_le (t : Task) : t.serverPermit ≤ t.isServer := by
  rw [serverPermit.eq_def]
  split
  case h_2 => exact Nat.le_refl _
  all_goals exact Nat.zero_le _

theorem tokens_permits (h : tokens (fun _ => 0) Task.isServer s = 1) (ht : t ∈ s.tasks)
    (hserver : t.isServer = 1) :
    tokens Net.count (fun t => t.isWorker + t.serverPermit) s =
      s.shared.count + live s + t.serverPermit := by
  obtain ⟨ts, hts⟩ := Multiset.exists_cons_of_mem ht
  rw [tokens, hts, Multiset.map_cons, Multiset.sum_cons, hserver] at h
  have hle : (ts.map Task.serverPermit).sum ≤ (ts.map Task.isServer).sum :=
    Multiset.sum_map_le_sum_map _ _ fun t _ => t.serverPermit_le
  have hlive : live s = t.isWorker + (ts.map Task.isWorker).sum := by
    rw [live, hts, Multiset.map_cons, Multiset.sum_cons]
  rw [tokens, hts, Multiset.map_cons, Multiset.sum_cons, Multiset.sum_map_add, hlive]
  omega

theorem Balanced.conserved (h : Balanced s) : Conserved s where
  accept ht := by
    have htokens := (tokens_permits h.server ht rfl).symm.trans h.permits
    exact Nat.succ.inj htokens
  live_le := by
    obtain ⟨t, ht, hserver⟩ := exists_holder h.server
    have hready := h.ready t ht
    change _ ≤ 14
    cases t with
    | server point =>
      have htokens := (tokens_permits h.server ht rfl).symm.trans h.permits
      change _ = 15 at htokens
      cases point with
      | pend =>
        have := hready rfl
        omega
      | _ =>
        change _ + _ + 1 = 15 at htokens
        omega
    | _ => exact absurd rfl hserver
  pend ht hlive := by
    have htokens := (tokens_permits h.server ht rfl).symm.trans h.permits
    have hpos : 0 < s.shared.count := by
      rw [hlive] at htokens
      change _ = 15 at htokens
      change _ + 0 + 0 = _ at htokens
      omega
    simp [act, hpos]

/-- In every run in which all workers are created, each while a permit is left,
the permits are conserved. -/
theorem permits_conserved (es : List (Event Task Answer Empty)) (s : System Net Task)
    (hrun : RunWith program.Step (fun s e => careful s e = true) started es s) : Conserved s :=
  (hrun.inv started_balanced fun _ _ _ h hc hstep => h.step hc hstep).conserved

theorem Balanced.live_of_create (h : Balanced ⟨n, .server (.create c) ::ₘ ts⟩) (hn : n.count = 0) :
    live ⟨n, {.worker c .start, .server .pend} + ts⟩ = maxSockets := by
  have htokens := (tokens_permits h.server (Multiset.mem_cons_self _ _) rfl).symm.trans h.permits
  rw [← htokens, hn]
  simp [live, Task.isWorker, Task.serverPermit, Nat.add_comm]

/-- In any run, each worker that is not created costs a permit for good. -/
theorem permits_lost (hrun : Run program.Step started es s) (ht : .server .accept ∈ s.tasks) :
    s.shared.count + live s + (es.map lost).sum = maxSockets - 1 := by
  have hserver := run_tokens (fun _ => 0) Task.isServer (fun _ => 0) (fun _ => 0) hrun
    (fun _ e => e.elim) fun _ _ _ _ _ hact => by
      simpa using (act_acts hact).isServer
  have hpermits := run_tokens Net.count (fun t => t.isWorker + t.serverPermit) (fun _ => 0) lost
    hrun (fun _ e => e.elim)
    fun _ _ _ _ _ hact => (act_acts hact).permits
  have hzero : (es.map fun _ => 0).sum = 0 := List.sum_map_zero
  rw [hzero] at hserver hpermits
  rw [tokens_permits hserver ht rfl] at hpermits
  change _ + _ + 1 + _ = 15 at hpermits
  change _ = 14
  omega

theorem step_to {u : Task} (h : act n t a = some (n', {u})) :
    program.Step ⟨n, t ::ₘ ts⟩ (.act t a) ⟨n', u ::ₘ ts⟩ := by
  have hstep : program.Step ⟨n, t ::ₘ ts⟩ (.act t a) ⟨n', {u} + ts⟩ := .act h
  rwa [Multiset.singleton_add] at hstep

/-- There is a run in which only this worker acts, until it has ended and given its permit back. -/
def CanEnd (n : Net) (c : Conn) (point : WorkerPoint) (ts : Multiset Task) : Prop :=
  ∃ es n', Run program.Step ⟨n, .worker c point ::ₘ ts⟩ es ⟨n', ts⟩ ∧ n'.count = n.count + 1

theorem CanEnd.before {point next : WorkerPoint} (a : Answer)
    (h : act n (.worker c point) a = some (n', {.worker c next})) (hcount : n'.count = n.count)
    (hends : CanEnd n' c next ts) : CanEnd n c point ts := by
  obtain ⟨es, n'', hrun, hafter⟩ := hends
  exact ⟨_, n'', .next (step_to h) hrun, hcount ▸ hafter⟩

theorem canEnd (n : Net) (c : Conn) (point : WorkerPoint) (ts : Multiset Task) :
    CanEnd n c point ts := by
  have hpost (n : Net) : CanEnd n c .semPost ts := by
    have hstep : program.Step ⟨n, .worker c .semPost ::ₘ ts⟩ (.act (.worker c .semPost) .proceed)
        ⟨{ n with count := n.count + 1 }, 0 + ts⟩ := .act rfl
    rw [zero_add] at hstep
    exact ⟨_, _, .next hstep .refl, rfl⟩
  have hclose (n : Net) : CanEnd n c .close ts := .before .proceed rfl rfl (hpost (n.close c))
  have hkill (n : Net) : CanEnd n c .postKill ts :=
    .before .proceed rfl rfl (hclose (n.postKill c))
  have hrecv (n : Net) : CanEnd n c .recv ts := .before (.received 0) rfl rfl (hkill n)
  cases point with
  | start => exact .before (.taskCreated false) rfl rfl (hrecv n)
  | recv => exact hrecv n
  | postPeriodic => exact .before .proceed rfl rfl (hrecv (n.postPeriodic c))
  | postKill => exact hkill n
  | close => exact hclose n
  | semPost => exact hpost n

theorem pend_accepts (h : 0 < n.count ∨ 0 < live ⟨n, ts⟩) :
    ∃ es s, Run program.Step ⟨n, .server .pend ::ₘ ts⟩ es s ∧ .server .accept ∈ s.tasks := by
  have hpend (n : Net) (ts : Multiset Task) (hcount : 0 < n.count) :
      program.Step ⟨n, .server .pend ::ₘ ts⟩ (.act (.server .pend) .proceed)
        ⟨{ n with count := n.count - 1 }, .server .accept ::ₘ ts⟩ := step_to (if_pos hcount)
  rcases h with hcount | hlive
  · exact ⟨_, _, .next (hpend n ts hcount) .refl, Multiset.mem_cons_self _ _⟩
  · obtain ⟨t, ht, hworker⟩ := exists_of_sum hlive.ne'
    cases t with
    | worker c point =>
      obtain ⟨ts, rfl⟩ := Multiset.exists_cons_of_mem ht
      obtain ⟨es, n', hrun, hcount⟩ := canEnd n c point (.server .pend ::ₘ ts)
      rw [Multiset.cons_swap]
      exact ⟨_, _, hrun.append (.next (hpend n' ts (by omega)) .refl), Multiset.mem_cons_self _ _⟩
    | server | timeout => exact absurd rfl hworker

/-- The first step of a run that is not careful leads to where the permits are not conserved. -/
theorem careless_not_conserved
    (hrun : RunWith program.Step (fun s e => careful s e = true) started es s)
    (hcareless : careful s e = false) (hstep : program.Step s e s') :
    ∃ es' s'', Run program.Step s' es' s'' ∧ ¬Conserved s'' := by
  have hbalanced := hrun.inv started_balanced fun _ _ _ h hc hstep => h.step hc hstep
  cases hstep with
  | arrive e => exact e.elim
  | @act n n' ts ts' t a hact =>
    have hwhole (es' : List (Event Task Answer Empty)) (s'' : System Net Task)
        (hrest : Run program.Step ⟨n', ts' + ts⟩ es' s'') :=
      permits_lost (hrun.run.append (.next (.act hact) hrest))
    cases act_acts hact with
    | @create c =>
      have hcount : n.count = 0 := by
        simpa [careful] using hcareless
      refine ⟨[], _, .refl, fun h => ?_⟩
      have hle := h.live_le
      rw [hbalanced.live_of_create hcount] at hle
      exact absurd hle (by decide)
    | @createFailed c =>
      have htokens := (tokens_permits hbalanced.server (Multiset.mem_cons_self _ _) rfl).symm.trans
        hbalanced.permits
      rw [live, Multiset.map_cons, Multiset.sum_cons] at htokens
      change n.count + (0 + live ⟨n, ts⟩) + 1 = 15 at htokens
      have hleft : 0 < (n.close c).count ∨ 0 < live ⟨n.close c, ts⟩ := by
        change 0 < n.count ∨ 0 < live ⟨n, ts⟩
        omega
      obtain ⟨es', s'', hrest, haccept⟩ := pend_accepts hleft
      rw [← Multiset.singleton_add] at hrest
      refine ⟨es', s'', hrest, fun h => ?_⟩
      have hlost := hwhole es' s'' hrest haccept
      rw [h.accept haccept, List.map_append, List.map_cons, List.sum_append, List.sum_cons] at hlost
      change 14 + (_ + (1 + _)) = 14 at hlost
      omega
    | _ => cases hcareless

theorem permits_conserved_client :
    ∃ s, Conserved s ∧ s.shared.count = maxSockets - 1 ∧ live s = 0 := by
  have hreplay : (program.replay careful started
      [.act (.server .accept) (.accepted 3), .act (.server (.create ⟨0, 3⟩)) (.taskCreated true),
        .act (.worker ⟨0, 3⟩ .start) (.taskCreated true), .act (.server .pend) .proceed,
        .act (.worker ⟨0, 3⟩ .recv) (.received 12), .act (.worker ⟨0, 3⟩ .postPeriodic) .proceed,
        .act (.worker ⟨0, 3⟩ .recv) (.received 0), .act (.worker ⟨0, 3⟩ .postKill) .proceed,
        .act (.worker ⟨0, 3⟩ .close) .proceed, .act (.worker ⟨0, 3⟩ .semPost) .proceed]).map
      (fun s => (s.shared.count, live s)) = some (14, 0) := by decide +kernel
  obtain ⟨s, hs, hvalue⟩ := Option.map_eq_some_iff.mp hreplay
  obtain ⟨hcount, hlive⟩ := Prod.mk.inj hvalue
  exact ⟨s, permits_conserved _ s (runWith_of_replay hs), hcount, hlive⟩

/-- A worker that cannot be created: at the next `accept` a permit is gone. -/
theorem permit_lost :
    ∃ es s, Run program.Step started es s ∧ ¬Conserved s := by
  have hreplay : (program.replay (fun _ _ => true) started
      [.act (.server .accept) (.accepted 3), .act (.server (.create ⟨0, 3⟩)) (.taskCreated false),
        .act (.server .pend) .proceed]).map
      (fun s => (decide (.server .accept ∈ s.tasks), s.shared.count, live s)) =
        some (true, 13, 0) := by decide +kernel
  obtain ⟨s, hs, hvalue⟩ := Option.map_eq_some_iff.mp hreplay
  simp only [Prod.mk.injEq, decide_eq_true_eq] at hvalue
  refine ⟨_, s, run_of_replay hs, fun h => ?_⟩
  have haccept := h.accept hvalue.1
  rw [hvalue.2.1, hvalue.2.2] at haccept
  exact absurd haccept (by decide)

end SystemMaster.Tcp
