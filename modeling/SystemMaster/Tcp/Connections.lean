import SystemMaster.Library.Tasks

/-!
# The tasks of the TCP binary server

The server accepts connections and creates a worker for each, the worker
creates a socket-timeout task, and all three may close the connection's
descriptor. They share a counting semaphore of permits, the descriptors of the
stack and an event object a connection. A descriptor number that is not open
may be handed out again.
-/

namespace SystemMaster.Tcp

open Tasks

def maxSockets : Nat := 15

/-- A connection as the tasks know it. The number tells it from the others; the
code has only the descriptor. -/
structure Conn where
  id : Nat
  fd : Nat
  deriving DecidableEq

inductive ServerPoint where
  | accept
  | create (conn : Conn)
  | pend
  | closed
  deriving DecidableEq

inductive WorkerPoint where
  | start
  | recv
  | postPeriodic
  | postKill
  | close
  | semPost
  deriving DecidableEq

inductive TimeoutPoint where
  | pend
  | close
  | delete
  deriving DecidableEq

inductive Task where
  | server (point : ServerPoint)
  | worker (conn : Conn) (point : WorkerPoint)
  | timeout (conn : Conn) (point : TimeoutPoint)
  deriving DecidableEq

/-- The event object of a connection, with the events posted and not yet taken. -/
structure EventObject where
  periodic : Bool
  kill : Bool
  deleted : Bool
  deriving DecidableEq

/-- The shared state. The last three fields are a record of what happened that
no task reads: who closed a descriptor and whose it was, posts to deleted
objects, and wakeups that took a `DEVICE_APP_KILL_EVT` and went on. -/
structure Net where
  count : Nat
  errorCounter : Nat
  accepted : Nat
  owner : Nat → Option Nat
  events : Nat → EventObject
  closes : List (Nat × Option Nat)
  latePosts : List Nat
  missedKills : List Nat

def Net.start : Net where
  count := maxSockets - 1
  errorCounter := 0
  accepted := 0
  owner := fun _ => none
  events := fun _ => ⟨false, false, false⟩
  closes := []
  latePosts := []
  missedKills := []

/-- What the stack and the kernel answer to an action. -/
inductive Answer where
  | accepted (fd : Nat)
  | acceptFailed
  | taskCreated (created : Bool)
  | received (bytesRcvd : Int)
  | proceed
  deriving DecidableEq

def Net.accept (n : Net) (fd : Nat) : Net :=
  { n with
    errorCounter := 0
    accepted := n.accepted + 1
    owner := Function.update n.owner fd (some n.accepted) }

def Net.close (n : Net) (c : Conn) : Net :=
  { n with
    owner := Function.update n.owner c.fd none
    closes := n.closes ++ [(c.id, n.owner c.fd)] }

def Net.post (n : Net) (c : Conn) (set : EventObject → EventObject) : Net :=
  { n with
    events := Function.update n.events c.id (set (n.events c.id))
    latePosts := n.latePosts ++ if (n.events c.id).deleted then [c.id] else [] }

def Net.postPeriodic (n : Net) (c : Conn) : Net := n.post c fun e => { e with periodic := true }

def Net.postKill (n : Net) (c : Conn) : Net := n.post c fun e => { e with kill := true }

/-- `Event_pend` of the timeout task takes all events, or none when its time is
up. The task goes on whenever `DEVICE_PERIODIC_EVT` is among them. -/
def Net.wakeup (n : Net) (c : Conn) : Net × TimeoutPoint :=
  let e := n.events c.id
  let n := { n with
    events := Function.update n.events c.id { e with periodic := false, kill := false } }
  if e.periodic then
    ({ n with missedKills := n.missedKills ++ if e.kill then [c.id] else [] }, .pend)
  else (n, .close)

def Net.deleteEvent (n : Net) (c : Conn) : Net :=
  { n with events := Function.update n.events c.id { n.events c.id with deleted := true } }

/-- The next action of a task: the state and the tasks it leaves. The worker
decodes what it has received between its post and its next `recv`. -/
def act (n : Net) : Task → Answer → Option (Net × Multiset Task)
  | .server .accept, .accepted fd =>
    if n.owner fd = none then some (n.accept fd, {.server (.create ⟨n.accepted, fd⟩)}) else none
  | .server .accept, .acceptFailed =>
    let errorCounter := n.errorCounter + 1
    some ({ n with errorCounter := errorCounter },
      {.server (if errorCounter < 5 then .accept else .closed)})
  | .server (.create c), .taskCreated created =>
    if created then some (n, {.worker c .start, .server .pend})
    else some (n.close c, {.server .pend})
  | .server .pend, .proceed =>
    if 0 < n.count then some ({ n with count := n.count - 1 }, {.server .accept}) else none
  | .worker c .start, .taskCreated created =>
    if created then some (n, {.worker c .recv, .timeout c .pend}) else some (n, {.worker c .recv})
  | .worker c .recv, .received bytesRcvd =>
    some (n, {.worker c (if bytesRcvd > 0 then .postPeriodic else .postKill)})
  | .worker c .postPeriodic, .proceed => some (n.postPeriodic c, {.worker c .recv})
  | .worker c .postKill, .proceed => some (n.postKill c, {.worker c .close})
  | .worker c .close, .proceed => some (n.close c, {.worker c .semPost})
  | .worker _ .semPost, .proceed => some ({ n with count := n.count + 1 }, 0)
  | .timeout c .pend, .proceed => some ((n.wakeup c).1, {.timeout c (n.wakeup c).2})
  | .timeout c .close, .proceed => some (n.close c, {.timeout c .delete})
  | .timeout c .delete, .proceed => some (n.deleteEvent c, 0)
  | _, _ => none

def program : Program Net Task Answer Empty where
  arrive _ e := e.elim
  act := act

def started : System Net Task := ⟨.start, {.server .accept}⟩

inductive Acts (n : Net) : Task → Answer → Net → Multiset Task → Prop
  | accept {fd} (h : n.owner fd = none) :
    Acts n (.server .accept) (.accepted fd) (n.accept fd) {.server (.create ⟨n.accepted, fd⟩)}
  | acceptFailed {point} (h : point = .accept ∨ point = .closed) :
    Acts n (.server .accept) .acceptFailed { n with errorCounter := n.errorCounter + 1 }
      {.server point}
  | create {c} :
    Acts n (.server (.create c)) (.taskCreated true) n {.worker c .start, .server .pend}
  | createFailed {c} :
    Acts n (.server (.create c)) (.taskCreated false) (n.close c) {.server .pend}
  | pend {k} (h : n.count = k + 1) :
    Acts n (.server .pend) .proceed { n with count := k } {.server .accept}
  | start {c} :
    Acts n (.worker c .start) (.taskCreated true) n {.worker c .recv, .timeout c .pend}
  | startAlone {c} : Acts n (.worker c .start) (.taskCreated false) n {.worker c .recv}
  | recv {c bytesRcvd point} (h : point = .postPeriodic ∨ point = .postKill) :
    Acts n (.worker c .recv) (.received bytesRcvd) n {.worker c point}
  | postPeriodic {c} :
    Acts n (.worker c .postPeriodic) .proceed (n.postPeriodic c) {.worker c .recv}
  | postKill {c} : Acts n (.worker c .postKill) .proceed (n.postKill c) {.worker c .close}
  | workerClose {c} : Acts n (.worker c .close) .proceed (n.close c) {.worker c .semPost}
  | semPost {c} : Acts n (.worker c .semPost) .proceed { n with count := n.count + 1 } 0
  | wakeup {c} :
    Acts n (.timeout c .pend) .proceed (n.wakeup c).1 {.timeout c (n.wakeup c).2}
  | timeoutClose {c} : Acts n (.timeout c .close) .proceed (n.close c) {.timeout c .delete}
  | delete {c} : Acts n (.timeout c .delete) .proceed (n.deleteEvent c) 0

@[simp] theorem Net.wakeup_count (n : Net) (c : Conn) : (n.wakeup c).1.count = n.count := by
  rw [wakeup]
  split <;> rfl

theorem act_acts {n n' : Net} {t : Task} {a : Answer} {ts : Multiset Task}
    (h : act n t a = some (n', ts)) : Acts n t a n' ts := by
  rw [act.eq_def] at h
  split at h
  case h_1 =>
    split at h
    case isTrue hfree =>
      cases h
      exact .accept hfree
    case isFalse => cases h
  case h_2 =>
    cases h
    exact .acceptFailed (by split <;> simp)
  case h_3 created =>
    cases created <;> cases h
    · exact .createFailed
    · exact .create
  case h_4 =>
    split at h
    case isTrue hpos =>
      cases h
      exact .pend (Nat.sub_add_cancel hpos).symm
    case isFalse => cases h
  case h_5 created =>
    cases created <;> cases h
    · exact .startAlone
    · exact .start
  case h_6 =>
    cases h
    exact .recv (by split <;> simp)
  case h_7 =>
    cases h
    exact .postPeriodic
  case h_8 =>
    cases h
    exact .postKill
  case h_9 =>
    cases h
    exact .workerClose
  case h_10 =>
    cases h
    exact .semPost
  case h_11 =>
    cases h
    exact .wakeup
  case h_12 =>
    cases h
    exact .timeoutClose
  case h_13 =>
    cases h
    exact .delete
  case h_14 => cases h

end SystemMaster.Tcp
