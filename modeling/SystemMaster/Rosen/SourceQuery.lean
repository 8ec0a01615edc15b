import SystemMaster.Library.Memory
import SystemMaster.Library.Tasks

/-!
# The source query of a Rosen player

The handler sends a datagram, creates a mailbox and a receive task, and waits for
a message until its time is up. Then it deletes the mailbox and closes the socket,
whatever the receive task is at; that posts what it has read of a datagram, and
closes the socket as well.
-/

namespace SystemMaster.Rosen

open Tasks Runs Program

def cmdLineMaxArgs : Nat := 4
def numMsgs : Nat := 2

structure Datagram where
  address : UInt32
  bytes : List UInt8
  deriving DecidableEq

/-- `xRosenDevice_udpCmdLineProcessTCP`: of each argument the first character, `none`
when there are too many. -/
def udpCmdLineProcess : Bool → List UInt8 → List UInt8 → Option (List UInt8)
  | _, argv, [] => some argv
  | findArg, argv, c :: text =>
    if c = 0 then some argv
    else if c = ' '.toUInt8 then udpCmdLineProcess true argv text
    else if findArg then
      if argv.length < cmdLineMaxArgs then udpCmdLineProcess false (argv ++ [c]) text else none
    else udpCmdLineProcess findArg argv text

/-- `RosenUDPDevice_MsgObj`, with the query whose socket the value was read from, if it
was read from a datagram at all. -/
structure MsgObj where
  id : UInt32
  val : UInt8
  source : Option Nat
  deriving DecidableEq

/-- What the receive task makes of a datagram. It looks at the fourth argument when there
are three; where there is no fourth the pointer is a stray one. -/
def message (socket : Nat) (stray : UInt8) (d : Datagram) : Option MsgObj :=
  match udpCmdLineProcess true [] (d.bytes.take 64) with
  | some argv =>
    if argv.length > 2 then
      some ⟨d.address, argv[3]?.getD stray - '0'.toUInt8,
        if 3 < argv.length then some socket else none⟩
    else none
  | none => none

/-- A mailbox: its messages lie in the slots of one buffer that all mailboxes have in
common. `creator` is the query it was created for. -/
structure Mailbox where
  creator : Nat
  free : List Nat
  queued : List Nat
  deriving DecidableEq

/-- Where the handler of a query is, before the call of this name. -/
inductive HandlerPoint where
  | mailboxCreate
  | taskCreate (h : Nat)
  | pend (h : Nat)
  | sendMsg (h : Nat) (msg : MsgObj)
  | delete (h : Nat)
  | close
  | stuck
  deriving DecidableEq

inductive RxPoint where
  | start
  | recvfrom
  | waiting (socket : Nat)
  | post (msg : MsgObj)
  | close
  deriving DecidableEq

/-- A query has the number of its socket; the code has only the descriptor. -/
structure Query where
  id : Nat
  fd : Nat
  deriving DecidableEq

inductive Task where
  | network
  | socket
  | handler (q : Query) (point : HandlerPoint)
  | rx (q : Query) (h : Nat) (point : RxPoint)
  deriving DecidableEq

/-- The shared state. The last three fields are a record that no task reads: who
closed a descriptor and whose it was, who posted and whose mailbox it was, and for each
value reported the query and where it was read. -/
structure Shared where
  next : Nat
  owner : Nat → Option Nat
  inbox : Nat → List Datagram
  boxes : Nat → Option Mailbox
  mailboxBuffer : Nat → MsgObj
  closes : List (Nat × Option Nat)
  posts : List (Nat × Option Nat)
  reports : List (Nat × Option Nat)

def Shared.start : Shared where
  next := 0
  owner _ := none
  inbox _ := []
  boxes _ := none
  mailboxBuffer _ := ⟨0, 0, none⟩
  closes := []
  posts := []
  reports := []

inductive Answer where
  | datagram (fd : Nat) (d : Datagram)
  | created (n : Nat)
  | failed
  | taskCreated (created : Bool)
  | received (stray : UInt8)
  | timedOut
  | proceed
  deriving DecidableEq

def Shared.arrive (s : Shared) (socket : Nat) (d : Datagram) : Shared :=
  { s with inbox := Function.update s.inbox socket (s.inbox socket ++ [d]) }

def Shared.socket (s : Shared) (fd : Nat) : Shared :=
  { s with next := s.next + 1, owner := Function.update s.owner fd (some s.next) }

def Shared.mailboxCreate (s : Shared) (q : Query) (h : Nat) : Shared :=
  { s with boxes := Function.update s.boxes h (some ⟨q.id, List.range numMsgs, []⟩) }

/-- `Mailbox_post` without waiting: into the first free slot, if there is one. Of a handle
that has been deleted it is not known what it does. -/
def Shared.post (s : Shared) (q : Query) (h : Nat) (msg : MsgObj) : Shared :=
  let s := { s with posts := s.posts ++ [(q.id, (s.boxes h).map Mailbox.creator)] }
  match s.boxes h with
  | some ⟨creator, slot :: free, queued⟩ =>
    { s with
      boxes := Function.update s.boxes h (some ⟨creator, free, queued ++ [slot]⟩)
      mailboxBuffer := Function.update s.mailboxBuffer slot msg }
  | _ => s

def Shared.report (s : Shared) (q : Query) (msg : MsgObj) : Shared :=
  { s with reports := s.reports ++ [(q.id, msg.source)] }

def Shared.delete (s : Shared) (h : Nat) : Shared :=
  { s with boxes := Function.update s.boxes h none }

def Shared.close (s : Shared) (q : Query) : Shared :=
  { s with
    owner := Function.update s.owner q.fd none
    closes := s.closes ++ [(q.id, s.owner q.fd)] }

/-- The next action of a task. Without memory for its mailbox the handler waits at a
`NULL` handle. A receive task takes descriptor 0 for none. Its `recvfrom` waits for a
datagram at the socket that it was called on, or until that is closed. -/
def act (s : Shared) : Task → Answer → Option (Shared × Multiset Task)
  | .network, .datagram fd d => (s.owner fd).map fun socket => (s.arrive socket d, {.network})
  | .socket, .created fd =>
    if s.owner fd = none then some (s.socket fd, {.handler ⟨s.next, fd⟩ .mailboxCreate}) else none
  | .socket, .failed => some (s, 0)
  | .handler q .mailboxCreate, .created h =>
    if s.boxes h = none then some (s.mailboxCreate q h, {.handler q (.taskCreate h)}) else none
  | .handler q .mailboxCreate, .failed => some (s, {.handler q .stuck})
  | .handler q (.taskCreate h), .taskCreated created =>
    if created then some (s, {.handler q (.pend h), .rx q h .start})
    else some (s, {.handler q (.pend h)})
  | .handler q (.pend h), .proceed =>
    match s.boxes h with
    | some ⟨creator, free, slot :: queued⟩ =>
      some ({ s with boxes := Function.update s.boxes h (some ⟨creator, free ++ [slot], queued⟩) },
        {.handler q (.sendMsg h (s.mailboxBuffer slot))})
    | _ => none
  | .handler q (.pend h), .timedOut =>
    match s.boxes h with
    | some ⟨_, _, []⟩ => some (s, {.handler q (.delete h)})
    | _ => none
  | .handler q (.sendMsg h msg), .proceed => some (s.report q msg, {.handler q (.delete h)})
  | .handler q (.delete h), .proceed => some (s.delete h, {.handler q .close})
  | .handler q .close, .proceed => some (s.close q, 0)
  | .rx q h .start, .proceed => if q.fd = 0 then some (s, 0) else some (s, {.rx q h .recvfrom})
  | .rx q h .recvfrom, .proceed =>
    match s.owner q.fd with
    | some socket => some (s, {.rx q h (.waiting socket)})
    | none => some (s, {.rx q h .close})
  | .rx q h (.waiting socket), .received stray =>
    if s.owner q.fd = some socket then
      match s.inbox socket with
      | [] => none
      | d :: rest =>
        some ({ s with inbox := Function.update s.inbox socket rest },
          {.rx q h (match message socket stray d with | some msg => .post msg | none => .close)})
    else some (s, {.rx q h .close})
  | .rx q h (.post msg), .proceed => some (s.post q h msg, {.rx q h .close})
  | .rx q _ .close, .proceed => some (s.close q, 0)
  | _, _ => none

def program : Program Shared Task Answer Unit where
  arrive _ _ := {.socket}
  act := act

def started : System Shared Task := ⟨.start, {.network}⟩

def Task.query : Task → Option Nat
  | .handler q _ | .rx q _ _ => some q.id
  | _ => none

def closesOf (s : Shared) (i : Nat) : Nat := s.closes.countP fun x => x.1 = i

def Over (i : Nat) (z : System Shared Task) : Prop :=
  i < z.shared.next ∧ ∀ t ∈ z.tasks, t.query ≠ some i

/-- A message is posted only to the mailbox of its own query, while there is one; every
socket is closed once, and no handler hangs with its socket open; no receive task goes on
without its socket; and a value that is reported was read from a datagram at the query's own
socket. -/
structure Contract (z : System Shared Task) : Prop where
  posts : ∀ x ∈ z.shared.posts, x.2 = some x.1
  closed : ∀ i, closesOf z.shared i ≤ 1
  once : ∀ i, Over i z → closesOf z.shared i = 1
  hangs : ∀ q, .handler q .stuck ∉ z.tasks
  socket : ∀ q h point, .rx q h point ∈ z.tasks → q.fd ≠ 0 → z.shared.owner q.fd = some q.id
  reports : ∀ x ∈ z.shared.reports, x.2 = some x.1

def rxStarted (i : Nat) : Event Task Answer Unit → Nat
  | .act (.handler q (.taskCreate _)) (.taskCreated true) => if q.id = i ∧ q.fd ≠ 0 then 1 else 0
  | _ => 0

def mailboxFails : Event Task Answer Unit → Nat
  | .act (.handler _ .mailboxCreate) .failed => 1
  | _ => 0

/-- No receive task gets going, and every mailbox is created. -/
def Sound (es : List (Event Task Answer Unit)) : Prop :=
  ∀ e ∈ es, (∀ i, rxStarted i e = 0) ∧ mailboxFails e = 0

/-- Every task of a query has ended, or it hangs. -/
def Quiet (z : System Shared Task) : Prop :=
  ∀ t ∈ z.tasks, t.query = none ∨ ∃ q, t = .handler q .stuck

inductive Acts (s : Shared) : Task → Answer → Shared → Multiset Task → Prop
  | arrive {fd d socket} : Acts s .network (.datagram fd d) (s.arrive socket d) {.network}
  | socket {fd} (h : s.owner fd = none) :
    Acts s .socket (.created fd) (s.socket fd) {.handler ⟨s.next, fd⟩ .mailboxCreate}
  | socketFailed : Acts s .socket .failed s 0
  | mailbox {q h} (hfree : s.boxes h = none) :
    Acts s (.handler q .mailboxCreate) (.created h) (s.mailboxCreate q h)
      {.handler q (.taskCreate h)}
  | mailboxFailed {q} : Acts s (.handler q .mailboxCreate) .failed s {.handler q .stuck}
  | task {q h} :
    Acts s (.handler q (.taskCreate h)) (.taskCreated true) s {.handler q (.pend h), .rx q h .start}
  | taskFailed {q h} :
    Acts s (.handler q (.taskCreate h)) (.taskCreated false) s {.handler q (.pend h)}
  | pend {q h creator free slot queued} (hbox : s.boxes h = some ⟨creator, free, slot :: queued⟩) :
    Acts s (.handler q (.pend h)) .proceed
      { s with boxes := Function.update s.boxes h (some ⟨creator, free ++ [slot], queued⟩) }
      {.handler q (.sendMsg h (s.mailboxBuffer slot))}
  | timedOut {q h} : Acts s (.handler q (.pend h)) .timedOut s {.handler q (.delete h)}
  | report {q h msg} :
    Acts s (.handler q (.sendMsg h msg)) .proceed (s.report q msg) {.handler q (.delete h)}
  | delete {q h} : Acts s (.handler q (.delete h)) .proceed (s.delete h) {.handler q .close}
  | close {q} : Acts s (.handler q .close) .proceed (s.close q) 0
  | rxReturn {q h} (hfd : q.fd = 0) : Acts s (.rx q h .start) .proceed s 0
  | rxStart {q h} (hfd : q.fd ≠ 0) : Acts s (.rx q h .start) .proceed s {.rx q h .recvfrom}
  | recvfrom {q h point} (hpoint : point ≠ .start) :
    Acts s (.rx q h .recvfrom) .proceed s {.rx q h point}
  | received {q h socket stray inbox point} (hpoint : point ≠ .start) :
    Acts s (.rx q h (.waiting socket)) (.received stray) { s with inbox := inbox } {.rx q h point}
  | post {q h msg} : Acts s (.rx q h (.post msg)) .proceed (s.post q h msg) {.rx q h .close}
  | rxClose {q h} : Acts s (.rx q h .close) .proceed (s.close q) 0

variable {s s' : Shared} {t : Task} {a : Answer} {ts : Multiset Task} {z z' : System Shared Task}
  {e : Event Task Answer Unit} {es : List (Event Task Answer Unit)} {q : Query} {i : Nat}

theorem act_acts (h : act s t a = some (s', ts)) : Acts s t a s' ts := by
  rw [act.eq_def] at h
  split at h
  case h_1 =>
    obtain ⟨socket, -, heq⟩ := Option.map_eq_some_iff.mp h
    cases heq
    exact .arrive
  case h_2 =>
    split at h
    case isTrue hfree =>
      cases h
      exact .socket hfree
    case isFalse => cases h
  case h_3 =>
    cases h
    exact .socketFailed
  case h_4 =>
    split at h
    case isTrue hfree =>
      cases h
      exact .mailbox hfree
    case isFalse => cases h
  case h_5 =>
    cases h
    exact .mailboxFailed
  case h_6 created =>
    cases created <;> cases h
    · exact .taskFailed
    · exact .task
  case h_7 =>
    split at h
    case h_1 hbox =>
      cases h
      exact .pend hbox
    case h_2 => cases h
  case h_8 =>
    split at h
    · cases h
      exact .timedOut
    · cases h
  case h_9 =>
    cases h
    exact .report
  case h_10 =>
    cases h
    exact .delete
  case h_11 =>
    cases h
    exact .close
  case h_12 =>
    split at h
    case isTrue hfd =>
      cases h
      exact .rxReturn hfd
    case isFalse hfd =>
      cases h
      exact .rxStart hfd
  case h_13 =>
    split at h <;> cases h <;> exact .recvfrom (by simp)
  case h_14 =>
    split at h
    · split at h
      · cases h
      · cases h
        exact .received (by split <;> simp)
    · cases h
      exact .received (by simp)
  case h_15 =>
    cases h
    exact .post
  case h_16 =>
    cases h
    exact .rxClose
  case h_17 => cases h

-- ---------------------------------------------------------------------------
-- How often a socket is closed
-- ---------------------------------------------------------------------------

def Task.toClose (i : Nat) : Task → Nat
  | .handler q _ => if q.id = i then 1 else 0
  | .rx q _ .start => if q.id = i ∧ q.fd ≠ 0 then 1 else 0
  | .rx q _ _ => if q.id = i then 1 else 0
  | _ => 0

/-- The closes of a socket, and one for a socket that is yet to be opened. -/
def closed (i : Nat) (s : Shared) : Nat := closesOf s i + if i < s.next then 0 else 1

theorem toClose_rx {h : Nat} {point : RxPoint} (hpoint : point ≠ .start) :
    (Task.rx q h point).toClose i = if q.id = i then 1 else 0 := by
  cases point with
  | start => exact absurd rfl hpoint
  | _ => rfl

theorem closed_close : closed i (s.close q) = closed i s + if q.id = i then 1 else 0 := by
  have hcloses : closesOf (s.close q) i = closesOf s i + if q.id = i then 1 else 0 := by
    simp [closesOf, Shared.close, List.countP_append, List.countP_cons]
  rw [closed, closed, hcloses, Nat.add_right_comm]
  rfl

theorem closed_socket {fd : Nat} :
    closed i (s.socket fd) + (if s.next = i then 1 else 0) = closed i s :=
  toCome_succ

theorem closed_post {h : Nat} {msg : MsgObj} : closed i (s.post q h msg) = closed i s := by
  unfold Shared.post
  dsimp only
  split <;> rfl

theorem Acts.closed (h : Acts s t a s' ts) :
    closed i s' + (ts.map (Task.toClose i)).sum =
      closed i s + t.toClose i + rxStarted i (.act t a) := by
  cases h with
  | socket => exact closed_socket
  | task =>
    simp [Task.toClose, rxStarted, Nat.add_assoc]
  | close | rxClose =>
    rw [closed_close]
    rfl
  | rxReturn hfd => simp [Task.toClose, rxStarted, hfd]
  | rxStart hfd => simp [Task.toClose, rxStarted, hfd]
  | recvfrom hpoint | received hpoint =>
    rw [Multiset.map_singleton, Multiset.sum_singleton, toClose_rx hpoint]
    rfl
  | post =>
    rw [closed_post]
    rfl
  | _ => rfl

def Task.hung : Task → Nat
  | .handler _ .stuck => 1
  | _ => 0

theorem Acts.hung (h : Acts s t a s' ts) :
    (ts.map Task.hung).sum = t.hung + mailboxFails (.act t a) := by
  cases h with
  | _ => rfl

theorem hung_of_mailboxFails (hrun : Run program.Step started es z) (he : e ∈ es)
    (hfails : mailboxFails e ≠ 0) : ∃ q, .handler q .stuck ∈ z.tasks := by
  have htokens := run_tokens (fun _ => 0) Task.hung mailboxFails (fun _ => 0) hrun
    (fun _ _ => rfl) fun _ _ _ _ _ hact => by
      simpa using (act_acts hact).hung
  have hsum : 0 < (es.map mailboxFails).sum :=
    List.sum_pos_iff_exists_pos_nat.mpr ⟨_, List.mem_map_of_mem he, Nat.pos_of_ne_zero hfails⟩
  have hzero : (es.map fun _ => 0).sum = 0 := List.sum_map_zero
  have hstart : tokens (fun _ => 0) Task.hung started = 0 := rfl
  rw [hzero, hstart, tokens] at htokens
  by_contra hnone
  have hcalm : (z.tasks.map Task.hung).sum = 0 := by
    refine Multiset.sum_eq_zero fun n hn => ?_
    obtain ⟨t, ht, rfl⟩ := Multiset.mem_map.mp hn
    cases t with
    | handler q point =>
      cases point with
      | stuck => exact absurd ⟨q, ht⟩ hnone
      | _ => rfl
    | _ => rfl
  omega

/-- Tasks work on queries that have begun, and have closed no socket of another. -/
structure Known (z : System Shared Task) : Prop where
  tasks : Holds (fun s t => ∀ i, t.query = some i → i < s.next) z
  closes : ∀ x ∈ z.shared.closes, x.1 < z.shared.next

theorem Acts.next_le (h : Acts s t a s' ts) : s.next ≤ s'.next := by
  cases h with
  | socket => exact Nat.le_succ _
  | post =>
    unfold Shared.post
    dsimp only
    split <;> exact le_rfl
  | _ => exact le_rfl

theorem Acts.query (h : Acts s t a s' ts) :
    ∀ u ∈ ts, ∀ i, u.query = some i → t.query = some i ∨ i < s'.next := by
  cases h with
  | socket =>
    intro u hu i hi
    cases Multiset.mem_singleton.mp hu
    cases hi
    exact .inr (Nat.lt_succ_self _)
  | _ => simp +contextual [Task.query]

theorem Acts.closes (h : Acts s t a s' ts) :
    ∀ x ∈ s'.closes, x ∈ s.closes ∨ t.query = some x.1 := by
  have hclose : ∀ q : Query, ∀ x ∈ (s.close q).closes, x ∈ s.closes ∨ some q.id = some x.1 := by
    intro q x hx
    rcases List.mem_append.mp hx with hx | hx
    · exact .inl hx
    · rw [List.mem_singleton.mp hx]
      exact .inr rfl
  cases h with
  | close | rxClose => exact hclose _
  | post =>
    unfold Shared.post
    dsimp only
    split <;> exact fun x hx => .inl hx
  | _ => exact fun x hx => .inl hx

theorem Known.step (h : Known z) (hstep : program.Step z e z') : Known z' := by
  cases hstep with
  | arrive e =>
    refine ⟨.add (fun u hu i hi => ?_) h.tasks, h.closes⟩
    cases Multiset.mem_singleton.mp hu
    cases hi
  | @act s s' ts us t a hact =>
    have hacts := act_acts hact
    have hlater : ∀ i, i < s.next → i < s'.next := fun i hi => Nat.lt_of_lt_of_le hi hacts.next_le
    have ht := h.tasks t (Multiset.mem_cons_self t ts)
    refine ⟨.add (fun u hu i hi => ?_) fun u hu i hi => ?_, fun x hx => ?_⟩
    · rcases hacts.query u hu i hi with hsame | hnew
      · exact hlater i (ht i hsame)
      · exact hnew
    · exact hlater i (h.tasks u (Multiset.mem_cons_of_mem hu) i hi)
    · rcases hacts.closes x hx with hold | hsame
      · exact hlater _ (h.closes x hold)
      · exact hlater _ (ht _ hsame)

theorem started_known : Known started where
  tasks t ht i hi := by
    cases Multiset.mem_singleton.mp ht
    cases hi
  closes x hx := absurd hx List.not_mem_nil

theorem toClose_of_query_ne (h : t.query ≠ some i) : t.toClose i = 0 := by
  have hne : ∀ q : Query, some q.id ≠ some i → ¬q.id = i := fun q hq heq => hq (by rw [heq])
  cases t with
  | network | socket => rfl
  | handler q point => exact if_neg (hne q h)
  | rx q h' point =>
    cases point with
    | start => exact if_neg fun hand => hne q h hand.1
    | _ => exact if_neg (hne q h)

theorem sum_toClose (h : ∀ t ∈ z.tasks, t.query ≠ some i) :
    (z.tasks.map (Task.toClose i)).sum = 0 := by
  refine Multiset.sum_eq_zero fun k hk => ?_
  obtain ⟨t, ht, rfl⟩ := Multiset.mem_map.mp hk
  exact toClose_of_query_ne (h t ht)

/-- When all tasks have ended, each receive task has closed a socket once more. -/
theorem closesOf_of_quiet (hrun : Run program.Step started es z)
    (hquiet : ∀ t ∈ z.tasks, t.query = none) (hi : rxStarted i e ≠ 0) (he : e ∈ es) :
    1 < closesOf z.shared i := by
  have htokens := run_tokens (closed i) (Task.toClose i) (rxStarted i) (fun _ => 0) hrun
    (fun _ _ => rfl) fun _ _ _ _ _ hact => (act_acts hact).closed
  have hzero : (es.map fun _ => 0).sum = 0 := List.sum_map_zero
  have hstart : tokens (closed i) (Task.toClose i) started = 1 := rfl
  have hnone : (z.tasks.map (Task.toClose i)).sum = 0 :=
    sum_toClose fun t ht heq => by simp [hquiet t ht] at heq
  have hsum : 0 < (es.map (rxStarted i)).sum :=
    List.sum_pos_iff_exists_pos_nat.mpr
      ⟨_, List.mem_map_of_mem he, Nat.pos_of_ne_zero hi⟩
  rw [tokens, hnone, hzero, hstart, closed] at htokens
  have hknown := hrun.inv started_known fun _ _ _ h hstep => h.step hstep
  by_cases hnext : i < z.shared.next
  · rw [if_pos hnext] at htokens
    omega
  · have hunknown : closesOf z.shared i = 0 := by
      refine List.countP_eq_zero.mpr fun x hx heq => hnext ?_
      rw [← of_decide_eq_true heq]
      exact hknown.closes x hx
    rw [if_neg hnext] at htokens
    omega

-- ---------------------------------------------------------------------------
-- Runs without a receive task
-- ---------------------------------------------------------------------------

/-- No receive task but one that returns at once, no value to report and no handler that
hangs. -/
def Task.Calm : Task → Prop
  | .rx q _ point => point = .start ∧ q.fd = 0
  | .handler _ (.sendMsg _ _) | .handler _ .stuck => False
  | _ => True

structure Calm (z : System Shared Task) : Prop where
  tokens : ∀ i, Program.tokens (Rosen.closed i) (Task.toClose i) z = 1
  tasks : Holds (fun _ t => t.Calm) z
  boxes : ∀ h box, z.shared.boxes h = some box → box.queued = []
  posts : z.shared.posts = []
  reports : z.shared.reports = []

theorem started_calm : Calm started where
  tokens _ := rfl
  tasks t ht := by
    cases Multiset.mem_singleton.mp ht
    trivial
  boxes _ _ hbox := by cases hbox
  posts := rfl
  reports := rfl

theorem Acts.calm (h : Acts s t a s' ts) (ht : t.Calm) (hrx : ∀ i, rxStarted i (.act t a) = 0)
    (hmailbox : mailboxFails (.act t a) = 0)
    (hboxes : ∀ h box, s.boxes h = some box → box.queued = []) :
    (∀ u ∈ ts, u.Calm) ∧ (∀ h box, s'.boxes h = some box → box.queued = []) ∧
      s'.posts = s.posts ∧ s'.reports = s.reports := by
  cases h with
  | @mailbox q h hfree =>
    refine ⟨by simp [Task.Calm], fun h' box hbox => ?_, rfl, rfl⟩
    simp only [Shared.mailboxCreate, Function.update_apply] at hbox
    split at hbox
    · cases hbox
      rfl
    · exact hboxes h' box hbox
  | @delete q h =>
    refine ⟨by simp [Task.Calm], fun h' box hbox => ?_, rfl, rfl⟩
    simp only [Shared.delete, Function.update_apply] at hbox
    split at hbox
    · cases hbox
    · exact hboxes h' box hbox
  | @task q h =>
    have hfd : q.fd = 0 := by simpa [rxStarted] using hrx q.id
    exact ⟨by simp [Task.Calm, hfd], hboxes, rfl, rfl⟩
  | pend hbox => exact absurd (hboxes _ _ hbox) (List.cons_ne_nil _ _)
  | mailboxFailed => exact absurd hmailbox Nat.one_ne_zero
  | report => exact ht.elim
  | rxStart hfd => exact absurd ht.2 hfd
  | recvfrom | received | post | rxClose => exact absurd ht.1 (by simp)
  | _ => exact ⟨by simp [Task.Calm], hboxes, rfl, rfl⟩

theorem Calm.step (h : Calm z) (hrx : ∀ i, rxStarted i e = 0) (hmailbox : mailboxFails e = 0)
    (hstep : program.Step z e z') : Calm z' := by
  have htokens : ∀ i, Program.tokens (Rosen.closed i) (Task.toClose i) z' = 1 := fun i => by
    have hchange := hstep.tokens_change (Rosen.closed i) (Task.toClose i) (rxStarted i)
      (fun _ => 0) (fun _ _ => rfl) fun _ _ _ _ _ _ _ hact => (act_acts hact).closed
    rw [hrx i] at hchange
    exact hchange.trans (h.tokens i)
  cases hstep with
  | arrive e =>
    refine ⟨htokens, .add (fun u hu => ?_) h.tasks, h.boxes,
      h.posts, h.reports⟩
    cases Multiset.mem_singleton.mp hu
    trivial
  | @act s s' ts us t a hact =>
    obtain ⟨htasks, hboxes, hposts, hreports⟩ :=
      (act_acts hact).calm (h.tasks t (Multiset.mem_cons_self t ts)) hrx hmailbox h.boxes
    have hothers : ∀ u ∈ ts, u.Calm := fun u hu => h.tasks u (Multiset.mem_cons_of_mem hu)
    exact ⟨htokens, .add htasks hothers, hboxes, hposts.trans h.posts, hreports.trans h.reports⟩

theorem Calm.contract (h : Calm z) : Contract z where
  posts x hx := by
    rw [h.posts] at hx
    exact absurd hx List.not_mem_nil
  closed i := by
    have htokens := h.tokens i
    rw [Program.tokens, Rosen.closed] at htokens
    omega
  once i hover := by
    have htokens := h.tokens i
    rw [Program.tokens, sum_toClose hover.2, Rosen.closed, if_pos hover.1] at htokens
    exact htokens
  hangs q ht := h.tasks _ ht
  socket q h' point ht hfd := absurd (h.tasks _ ht).2 hfd
  reports x hx := by
    rw [h.reports] at hx
    exact absurd hx List.not_mem_nil

/-- Without receive tasks and failed mailboxes the contract holds in every state of a run.
Where all tasks have ended or hang, it holds only then. -/
theorem contract_iff_sound (es : List (Event Task Answer Unit)) (z : System Shared Task)
    (hrun : Run program.Step started es z) :
    (Sound es → Contract z) ∧ (Quiet z → (Contract z ↔ Sound es)) := by
  have henough : Sound es → Contract z := by
    intro hsound
    have hwith : RunWith program.Step (fun _ e => (∀ i, rxStarted i e = 0) ∧ mailboxFails e = 0)
        started es z := hrun.runWith fun e he _ => hsound e he
    exact (hwith.inv started_calm fun _ _ _ h he hstep => h.step he.1 he.2 hstep).contract
  refine ⟨henough, fun hquiet => ⟨fun hcontract e he => ?_, henough⟩⟩
  have hended : ∀ t ∈ z.tasks, t.query = none := fun t ht => by
    rcases hquiet t ht with hnone | ⟨q, rfl⟩
    · exact hnone
    · exact absurd ht (hcontract.hangs q)
  constructor
  · intro i
    by_contra hstarted
    exact absurd (hcontract.closed i) (Nat.not_le.mpr (closesOf_of_quiet hrun hended hstarted he))
  · by_contra hfails
    obtain ⟨q, hq⟩ := hung_of_mailboxFails hrun he hfails
    exact hcontract.hangs q hq

/-- A query whose receive task cannot be created: it times out. -/
theorem contract_iff_sound_failed :
    ∃ z, Contract z ∧ closesOf z.shared 0 = 1 := by
  have hreplay : (program.replay (fun _ _ => true) started
      [.arrive (), .act .socket (.created 5), .act (.handler ⟨0, 5⟩ .mailboxCreate) (.created 9),
        .act (.handler ⟨0, 5⟩ (.taskCreate 9)) (.taskCreated false),
        .act (.handler ⟨0, 5⟩ (.pend 9)) .timedOut, .act (.handler ⟨0, 5⟩ (.delete 9)) .proceed,
        .act (.handler ⟨0, 5⟩ .close) .proceed]).map (fun z => closesOf z.shared 0) = some 1 := by
    decide +kernel
  obtain ⟨z, hz, hcloses⟩ := Option.map_eq_some_iff.mp hreplay
  exact ⟨z, (contract_iff_sound _ z (run_of_replay hz)).1 (by simp [Sound, rxStarted, mailboxFails]),
    hcloses⟩

/-- The datagram has come when the time is up. The next query has the same mailbox handle
and descriptor before it is posted: it gets the value, and loses its socket. -/
theorem late_datagram_reported :
    ∃ es z, Run program.Step started es z ∧ z.shared.posts = [(0, some 1)] ∧
      z.shared.closes = [(0, some 0), (0, some 1)] ∧ z.shared.reports = [(1, some 0)] ∧
      ¬Contract z := by
  have hreplay : (program.replay (fun _ _ => true) started
      [.arrive (), .act .socket (.created 5), .act (.handler ⟨0, 5⟩ .mailboxCreate) (.created 9),
        .act (.handler ⟨0, 5⟩ (.taskCreate 9)) (.taskCreated true),
        .act (.rx ⟨0, 5⟩ 9 .start) .proceed, .act (.rx ⟨0, 5⟩ 9 .recvfrom) .proceed,
        .act .network (.datagram 5 ⟨0xC0A8032A, [79, 32, 103, 32, 118, 32, 49]⟩),
        .act (.rx ⟨0, 5⟩ 9 (.waiting 0)) (.received 0),
        .act (.handler ⟨0, 5⟩ (.pend 9)) .timedOut, .act (.handler ⟨0, 5⟩ (.delete 9)) .proceed,
        .act (.handler ⟨0, 5⟩ .close) .proceed,
        .arrive (), .act .socket (.created 5), .act (.handler ⟨1, 5⟩ .mailboxCreate) (.created 9),
        .act (.handler ⟨1, 5⟩ (.taskCreate 9)) (.taskCreated true),
        .act (.rx ⟨0, 5⟩ 9 (.post ⟨0xC0A8032A, 1, some 0⟩)) .proceed,
        .act (.rx ⟨0, 5⟩ 9 .close) .proceed,
        .act (.handler ⟨1, 5⟩ (.pend 9)) .proceed,
        .act (.handler ⟨1, 5⟩ (.sendMsg 9 ⟨0xC0A8032A, 1, some 0⟩)) .proceed]).map
      (fun z => (z.shared.posts, z.shared.closes, z.shared.reports)) =
        some ([(0, some 1)], [(0, some 0), (0, some 1)], [(1, some 0)]) := by decide +kernel
  obtain ⟨z, hz, hvalue⟩ := Option.map_eq_some_iff.mp hreplay
  simp only [Prod.mk.injEq] at hvalue
  obtain ⟨hposts, hcloses, hreports⟩ := hvalue
  refine ⟨_, z, run_of_replay hz, hposts, hcloses, hreports, fun h => ?_⟩
  have hone := h.reports (1, some 0) (by rw [hreports]; exact List.mem_cons_self)
  exact absurd hone (by decide)

end SystemMaster.Rosen
