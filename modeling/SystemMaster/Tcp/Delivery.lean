import Mathlib.Data.Multiset.Range
import SystemMaster.Tcp.Descriptors
import SystemMaster.Tcp.Replies

/-!
# Whose reply it is

A request goes to a device with the number of its connection's descriptor, and
the answer comes back with it. By then the connection may be closed and its number
given to another. Here the tasks of the devices run beside those of the server, and
every request bears the connection that it came from, which no task reads.
-/

namespace SystemMaster.Tcp

open Tasks Runs Program

/-- The arguments of a call of `vDevice_enqueueCharDataMsg`, and the connection whose
request they are for. -/
structure Letter where
  origin : Nat
  type : Device.MsgType
  connHandle : Int
  serviceUUID : UInt16
  paramID : UInt8
  retDeviceID : UInt32
  retServiceUUID : UInt16
  retParamID : UInt8
  value : List UInt8
  deriving DecidableEq

def Letter.msg (l : Letter) (heap : Memory UInt8) : Device.Msg :=
  Device.charDataMsg heap l.type l.connHandle l.serviceUUID l.paramID l.retDeviceID
    l.retServiceUUID l.retParamID l.value

/-- What a device posts back on a request: to the service and with the descriptor that
the request came with. -/
def Letter.answer (l : Letter) (deviceID : UInt32) (a : Device.Answer) : Letter where
  origin := l.origin
  type := a.type
  connHandle := l.connHandle
  serviceUUID := l.retServiceUUID
  paramID := l.retParamID
  retDeviceID := deviceID
  retServiceUUID := l.serviceUUID
  retParamID := l.paramID
  value := a.value

/-- The connections with the queues of the devices, by their place in the list of
devices. `sends` is a record that no task reads: for each frame the connection whose
request it is for, and the one that had the descriptor. -/
structure Service where
  net : Net
  queues : Nat → List Letter
  sends : List (Nat × Option Nat)

/-- A task of the server, a worker with what it has received, and the task of a device,
with the message it is at. -/
inductive Actor where
  | net (t : Task)
  | posting (c : Conn) (origin : Nat)
  | decoding (c : Conn) (origin : Nat)
  | device (i : Nat) (current : Option Letter)
  deriving DecidableEq

inductive Input where
  | net (a : Answer)
  | command (deviceID : UInt32) (request : Device.Request) (value : List UInt8) (alloc : Nat → Bool)
  | reply
  | decoded
  | get
  | answer (a : Device.Answer) (alloc : Nat → Bool)
  | processed
  | message (heap : Memory UInt8) (alloc : Device.Alloc)

def tcpRCBinDeviceID : UInt32 := 2

def Service.send (s : Service) (origin : Nat) (clientfd : Int) : Service :=
  { s with sends := s.sends ++ [(origin, s.net.owner clientfd.toNat)] }

/-- `xDevice_sendCharDataMsg`: every device with the id gets the message, where there is
memory for it. -/
def Service.enqueue (s : Service) (devices : List UInt32) (alloc : Nat → Bool) (deviceID : UInt32)
    (l : Letter) : Service :=
  { s with
    queues := fun i =>
      if devices[i]? = some deviceID ∧ alloc i then s.queues i ++ [l] else s.queues i }

def Service.command (s : Service) (devices : List UInt32) (c : Conn) (origin : Nat)
    (deviceID : UInt32) (r : Device.Request) (value : List UInt8) (alloc : Nat → Bool) : Service :=
  if deviceID ∈ devices then
    s.enqueue devices alloc deviceID
      ⟨origin, .serviceWrite, c.fd, r.svcUUID, r.paramID, tcpRCBinDeviceID, r.retSvcUUID,
        r.retParamID, value⟩
  else s.send origin c.fd

/-- The next action of a task. The bytes that a worker receives are those of the
connection that has its descriptor. A device answers as often as it likes; the
controller's task sends what `vTCPRCBin_processApplicationMessage` makes of a message. -/
def deliver (devices : List UInt32) (s : Service) :
    Actor → Input → Option (Service × Multiset Actor)
  | .net (.worker c .recv), .net (.received bytesRcvd) =>
    if bytesRcvd > 0 then (s.net.owner c.fd).map fun origin => (s, {.posting c origin})
    else some (s, {.net (.worker c .postKill)})
  | .net t, .net a => (act s.net t a).map fun (net, ts) => ({ s with net := net }, ts.map .net)
  | .posting c origin, .net .proceed =>
    some ({ s with net := s.net.postPeriodic c }, {.decoding c origin})
  | .decoding c origin, .command deviceID r value alloc =>
    some (s.command devices c origin deviceID r value alloc, {.decoding c origin})
  | .decoding c origin, .reply => some (s.send origin c.fd, {.decoding c origin})
  | .decoding c _, .decoded => some (s, {.net (.worker c .recv)})
  | .device i none, .get =>
    match s.queues i with
    | [] => none
    | l :: rest =>
      some ({ s with queues := Function.update s.queues i rest }, {.device i (some l)})
  | .device i (some l), .answer a alloc =>
    match devices[i]? with
    | some deviceID =>
      if deviceID = tcpRCBinDeviceID then none
      else some (s.enqueue devices alloc l.retDeviceID (l.answer deviceID a), {.device i (some l)})
    | none => none
  | .device i (some _), .processed =>
    if devices[i]? = some tcpRCBinDeviceID then none else some (s, {.device i none})
  | .device i (some l), .message heap alloc =>
    if devices[i]? = some tcpRCBinDeviceID then
      match Device.processApplicationMessage alloc (l.msg heap) with
      | some sent => some (s.send l.origin sent.clientfd, {.device i none})
      | none => some (s, {.device i none})
    else none
  | _, _ => none

def delivery (devices : List UInt32) : Program Service Actor Input Empty where
  arrive _ e := e.elim
  act := deliver devices

def Service.start : Service := ⟨.start, fun _ => [], []⟩

def Actor.pending : Actor → Option (Nat × Int)
  | .posting c origin | .decoding c origin => some (origin, c.fd)
  | .device _ (some l) => some (l.origin, l.connHandle)
  | _ => none

/-- No frame has gone to another connection than the one whose request it is for. -/
def ToAsker (s : System Service Actor) : Prop := ∀ x ∈ s.shared.sends, x.2 = none ∨ x.2 = some x.1

/-- No number is given to a new connection that a request or an answer on its way names. -/
def Unnamed (s : System Service Actor) : Event Actor Input Empty → Prop
  | .act (.net (.server .accept)) (.net (.accepted fd)) =>
    (∀ t ∈ s.tasks, ∀ origin clientfd, t.pending = some (origin, clientfd) → clientfd.toNat ≠ fd) ∧
      ∀ i, ∀ l ∈ s.shared.queues i, l.connHandle.toNat ≠ fd
  | _ => True

variable {devices : List UInt32} {s s' : Service} {n n' : Net} {t u : Actor} {a : Input}
  {ts ts' : Multiset Actor} {z z' : System Service Actor} {e : Event Actor Input Empty}
  {es : List (Event Actor Input Empty)}

-- ---------------------------------------------------------------------------
-- The controller's frames
-- ---------------------------------------------------------------------------

namespace Device

variable {m : CharData} {x : Option Sent} {sent : Sent} {alloc : Alloc}

theorem CharData.sendAll_clientfd {response : UInt32} (h : m.sendAll alloc response = some sent) :
    sent.clientfd = m.connHandle := by
  unfold sendAll at h
  split at h
  · cases h
    rfl
  · cases h

theorem CharData.altoVolumeReturnService_clientfd (h : m.altoVolumeReturnService = some sent) :
    sent.clientfd = m.connHandle := by
  unfold altoVolumeReturnService at h
  repeat' split at h
  all_goals
    cases h
    try rfl

theorem CharData.altoMultinetReturnService_clientfd (h : m.altoMultinetReturnService = some sent) :
    sent.clientfd = m.connHandle := by
  unfold altoMultinetReturnService at h
  repeat' split at h
  all_goals
    cases h
    try rfl

theorem CharData.avdsService_clientfd (h : m.avdsService alloc = some sent) :
    sent.clientfd = m.connHandle := by
  unfold avdsService avdsDirectCommand at h
  split at h
  case h_3 => cases h
  all_goals
    rw [Option.ite_none_right_eq_some, Option.ite_none_right_eq_some] at h
    exact sendAll_clientfd h.2.2

theorem CharData.avdsSerialService_clientfd (h : m.avdsSerialService alloc = some sent) :
    sent.clientfd = m.connHandle := by
  unfold avdsSerialService avdsSerialSteveCommand at h
  split at h
  case h_13 => cases h
  all_goals
    rw [Option.ite_none_right_eq_some, Option.ite_none_right_eq_some] at h
    exact sendAll_clientfd h.2.2

theorem CharData.rosenService_clientfd (h : m.rosenService alloc = some sent) :
    sent.clientfd = m.connHandle := by
  unfold rosenService rosenDirectCommand rosenUDPSM at h
  split at h
  case h_12 => cases h
  all_goals
    rw [Option.ite_none_right_eq_some, Option.ite_none_right_eq_some] at h
    exact sendAll_clientfd h.2.2

theorem processApplicationMessage_clientfd {msg : Msg}
    (h : processApplicationMessage alloc msg = some sent) : sent.clientfd = msg.pdu.connHandle := by
  unfold processApplicationMessage at h
  split at h
  · split at h
    · exact CharData.altoVolumeReturnService_clientfd h
    · exact CharData.altoMultinetReturnService_clientfd h
    · exact CharData.sendAll_clientfd h
    · exact CharData.avdsService_clientfd h
    · exact CharData.avdsSerialService_clientfd h
    · exact CharData.rosenService_clientfd h
    · cases h
  · split at h
    · cases h
      rfl
    · cases h
      rfl
    · cases h

end Device

/-- What an action does: a task of the server takes one of its own, or a task that works
for a connection passes its descriptor on, sends on it, or is done with it. -/
inductive Serves (devices : List UInt32) (s : Service) :
    Actor → Input → Service → Multiset Actor → Prop
  | net {task answer net us} (h : Acts s.net task answer net us) :
    Serves devices s (.net task) (.net answer) { s with net := net } (us.map .net)
  | recv {c origin bytesRcvd} (h : s.net.owner c.fd = some origin) :
    Serves devices s (.net (.worker c .recv)) (.net (.received bytesRcvd)) s {.posting c origin}
  | post {c origin} :
    Serves devices s (.posting c origin) (.net .proceed)
      { s with net := s.net.postPeriodic c } {.decoding c origin}
  | enqueue {v b alloc deviceID l} (h : Actor.pending v = some (l.origin, l.connHandle)) :
    Serves devices s v b (s.enqueue devices alloc deviceID l) {v}
  | send {v b vs origin clientfd} (h : Actor.pending v = some (origin, clientfd))
    (hvs : ∀ w ∈ vs, Actor.pending w = none ∨ w.pending = v.pending) :
    Serves devices s v b (s.send origin clientfd) vs
  | get {i l rest} (h : s.queues i = l :: rest) :
    Serves devices s (.device i none) .get
      { s with queues := Function.update s.queues i rest } {.device i (some l)}
  | done {v b vs} (hvs : ∀ w ∈ vs, Actor.pending w = none) : Serves devices s v b s vs

theorem deliver_serves (h : deliver devices s t a = some (s', ts)) :
    Serves devices s t a s' ts := by
  rw [deliver.eq_def] at h
  split at h
  case h_1 c bytesRcvd =>
    split at h
    · obtain ⟨origin, howner, heq⟩ := Option.map_eq_some_iff.mp h
      cases heq
      exact .recv howner
    · cases h
      exact .done (by simp [Actor.pending])
  case h_2 =>
    obtain ⟨⟨n, us⟩, hact, heq⟩ := Option.map_eq_some_iff.mp h
    cases heq
    exact .net (act_acts hact)
  case h_3 =>
    cases h
    exact .post
  case h_4 =>
    cases h
    unfold Service.command
    split
    · exact .enqueue rfl
    · exact .send rfl (by simp)
  case h_5 =>
    cases h
    exact .send rfl (by simp)
  case h_6 =>
    cases h
    exact .done (by simp [Actor.pending])
  case h_7 =>
    split at h
    · cases h
    · cases h
      exact .get ‹_›
  case h_8 =>
    split at h
    · split at h
      · cases h
      · cases h
        exact .enqueue rfl
    · cases h
  case h_9 =>
    split at h
    · cases h
    · cases h
      exact .done (by simp [Actor.pending])
  case h_10 i l heap alloc =>
    split at h
    case isFalse => cases h
    case isTrue =>
      split at h
      case h_1 sent hsent =>
        cases h
        have hclient : sent.clientfd = l.connHandle :=
          Device.processApplicationMessage_clientfd hsent
        rw [hclient]
        exact .send rfl (by simp [Actor.pending])
      case h_2 =>
        cases h
        exact .done (by simp [Actor.pending])
  case h_11 => cases h

-- ---------------------------------------------------------------------------
-- Whose a descriptor is
-- ---------------------------------------------------------------------------

def Own (n : Net) (origin : Nat) (clientfd : Int) : Prop :=
  n.owner clientfd.toNat = none ∨ n.owner clientfd.toNat = some origin

/-- Everything on its way names a descriptor of its own connection, or a closed one. -/
structure Addressed (z : System Service Actor) : Prop where
  tasks : Holds (fun s t => ∀ x, t.pending = some x → Own s.net x.1 x.2) z
  queues : ∀ i, ∀ l ∈ z.shared.queues i, Own z.shared.net l.origin l.connHandle
  toAsker : ToAsker z

theorem Acts.owner_cases {t : Task} {a : Answer} {us : Multiset Task} (h : Acts n t a n' us) :
    (∃ fd, t = .server .accept ∧ a = .accepted fd ∧ n' = n.accept fd) ∨
      ∀ fd, n'.owner fd = none ∨ n'.owner fd = n.owner fd := by
  cases h with
  | accept => exact .inl ⟨_, rfl, rfl, rfl⟩
  | @createFailed c | @workerClose c | @timeoutClose c =>
    refine .inr fun fd => ?_
    by_cases hfd : fd = c.fd
    · exact .inl (by rw [hfd]; exact Function.update_self _ _ _)
    · exact .inr (Function.update_of_ne hfd _ _)
  | wakeup =>
    refine .inr fun fd => .inr ?_
    rw [wakeup_owner]
  | _ => exact .inr fun fd => .inr rfl

theorem Own.of_closes {origin : Nat} {clientfd : Int} (h : Own n origin clientfd)
    (hcloses : ∀ fd, n'.owner fd = none ∨ n'.owner fd = n.owner fd) : Own n' origin clientfd := by
  rcases hcloses clientfd.toNat with hnone | hsame
  · exact .inl hnone
  · unfold Own
    rwa [hsame]

theorem Own.of_accept {origin fd : Nat} {clientfd : Int} (h : Own n origin clientfd)
    (hne : clientfd.toNat ≠ fd) : Own (n.accept fd) origin clientfd := by
  have howner : (n.accept fd).owner clientfd.toNat = n.owner clientfd.toNat :=
    Function.update_of_ne hne _ _
  unfold Own
  rwa [howner]

theorem Addressed.step (h : Addressed z) (hunnamed : Unnamed z e)
    (hstep : (delivery devices).Step z e z') : Addressed z' := by
  cases hstep with
  | arrive e => exact e.elim
  | @act s s' ts us t a hact =>
    have ht := h.tasks t (Multiset.mem_cons_self t ts)
    have hothers : ∀ u ∈ ts, ∀ x, u.pending = some x → Own s.net x.1 x.2 :=
      fun u hu => h.tasks u (Multiset.mem_cons_of_mem hu)
    cases deliver_serves hact with
    | @net task answer net us hacts =>
      have hnone : ∀ u ∈ us.map .net, ∀ x, Actor.pending u = some x → Own net x.1 x.2 := by
        intro u hu x hx
        obtain ⟨task', -, rfl⟩ := Multiset.mem_map.mp hu
        cases hx
      rcases hacts.owner_cases with ⟨fd, rfl, rfl, rfl⟩ | hcloses
      · refine ⟨.add hnone fun u hu x hx => ?_, fun i l hl => ?_, h.toAsker⟩
        · exact (hothers u hu x hx).of_accept
            (hunnamed.1 u (Multiset.mem_cons_of_mem hu) x.1 x.2 hx)
        · exact (h.queues i l hl).of_accept (hunnamed.2 i l hl)
      · refine ⟨.add hnone fun u hu x hx => ?_, fun i l hl => ?_, h.toAsker⟩
        · exact (hothers u hu x hx).of_closes hcloses
        · exact (h.queues i l hl).of_closes hcloses
    | @recv c origin bytesRcvd howner =>
      refine ⟨.add (fun u hu x hx => ?_) hothers, h.queues, h.toAsker⟩
      cases Multiset.mem_singleton.mp hu
      cases hx
      exact .inr howner
    | post =>
      refine ⟨.add (fun u hu x hx => ?_) hothers, h.queues, h.toAsker⟩
      cases Multiset.mem_singleton.mp hu
      exact ht x hx
    | @enqueue _ _ alloc deviceID l hpending =>
      refine ⟨.add (fun u hu x hx => ?_) hothers, fun i l' hl' => ?_, h.toAsker⟩
      · cases Multiset.mem_singleton.mp hu
        exact ht x hx
      · simp only [Service.enqueue] at hl'
        split at hl'
        · rcases List.mem_append.mp hl' with hl' | hl'
          · exact h.queues i l' hl'
          · cases List.mem_singleton.mp hl'
            exact ht _ hpending
        · exact h.queues i l' hl'
    | @send _ _ _ origin clientfd hpending hus =>
      refine ⟨.add (fun u hu x hx => ?_) hothers, h.queues,
        List.forall_mem_append.mpr ⟨h.toAsker, List.forall_mem_singleton.mpr (ht _ hpending)⟩⟩
      rcases hus u hu with hnone | hsame
      · exact absurd (hnone.symm.trans hx) (by simp)
      · exact ht x (hsame.symm.trans hx)
    | @get i l rest hqueue =>
      refine ⟨.add (fun u hu x hx => ?_) hothers, fun j l' hl' => ?_, h.toAsker⟩
      · cases Multiset.mem_singleton.mp hu
        cases hx
        exact h.queues i l (by rw [hqueue]; exact List.mem_cons_self)
      · dsimp only at hl'
        by_cases hj : j = i
        · subst hj
          rw [Function.update_self] at hl'
          exact h.queues j l' (by rw [hqueue]; exact List.mem_cons_of_mem l hl')
        · rw [Function.update_of_ne hj] at hl'
          exact h.queues j l' hl'
    | done hus =>
      refine ⟨.add (fun u hu x hx => ?_) hothers, h.queues, h.toAsker⟩
      exact absurd ((hus u hu).symm.trans hx) (by simp)

end SystemMaster.Tcp
