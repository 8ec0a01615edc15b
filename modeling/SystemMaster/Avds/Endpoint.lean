import Mathlib.Data.Multiset.Basic
import SystemMaster.Library.Codec
import SystemMaster.Library.Tasks

/-!
# The endpoint of the AVDS manager

The manager announces its address and port in datagrams. The finder stores the pair
under a gate, and a clock invalidates it when no announcement follows. A command looks
at the flag, the port and the address, each under the gate, but not all under one.
-/

namespace SystemMaster.Avds

open Codec Tasks Runs Program

/-- `UDPPACKETSIZE`, and the timeout of the clock in ticks. -/
def udpPacketSize : Nat := 1472
def clockTimeout : Nat := 5000

/-- `tsAVDSInfoMsg` as it lies in the datagram, without the entries after it. -/
structure InfoMsg where
  ipAddress : UInt32
  portNumber : UInt16
  systemStatus : UInt8
  numPAStateEntries : UInt8
  deriving DecidableEq

def infoMsg : Codec InfoMsg :=
  (u32.prod (u16.prod (u8.prod u8))).map (fun (ip, port, status, n) => ⟨ip, port, status, n⟩)
    (fun x => (x.ipAddress, x.portNumber, x.systemStatus, x.numPAStateEntries)) fun _ => rfl

def ntohl : UInt32 → UInt32 := u32.swap
def ntohs : UInt16 → UInt16 := u16.swap
def htonl : UInt32 → UInt32 := u32.swap
def htons : UInt16 → UInt16 := u16.swap

structure ConnectionInfo where
  ipAddress : UInt32
  portNumber : UInt16
  isValid : Bool
  deriving DecidableEq

structure SockAddr where
  addr : UInt32
  port : UInt16
  deriving DecidableEq

def sockAddr (ipAddress : UInt32) (portNumber : UInt16) : SockAddr where
  addr := htonl ipAddress
  port := htons portNumber

def ConnectionInfo.servaddr (x : ConnectionInfo) : SockAddr := sockAddr x.ipAddress x.portNumber

def announced (d : List UInt8) : SockAddr where
  addr := (infoMsg.decode (d.take infoMsg.size)).ipAddress
  port := (infoMsg.decode (d.take infoMsg.size)).portNumber

inductive Gate where
  | absent
  | free
  | taken
  deriving DecidableEq

/-- Where the finder is, before the call or the assignment of this name. It bears the
datagram that it is at, of which the code has only what lies in the buffer. -/
inductive FinderPoint where
  | start
  | recvfrom
  | clockStop (d : List UInt8)
  | enter (d : List UInt8)
  | ipAddress (d : List UInt8)
  | portNumber (d : List UInt8)
  | isValid (d : List UInt8)
  | leave (d : List UInt8)
  | clockStart
  | returned
  deriving DecidableEq

/-- A value that the endpoint has while the gate is free, and the datagram that was
last stored. -/
structure Moment where
  info : ConnectionInfo
  datagram : Option (List UInt8)
  deriving DecidableEq

/-- A datagram that was stored, and the endpoint before and after it. -/
structure Store where
  datagram : List UInt8
  before : ConnectionInfo
  after : ConnectionInfo
  deriving DecidableEq

/-- The address that a command connects to, with the moments before it began and those
before it connects. -/
structure Connect where
  began : Nat
  ended : Nat
  servaddr : SockAddr
  deriving DecidableEq

/-- The shared state. There is one finder, and its place is part of it; `buffer` is a
local variable of the finder. The last four fields are a record that no task reads: the
endpoint as it was when the gate was last free, all the values of it, what was stored and
where commands have connected to. -/
structure Shared where
  finder : FinderPoint
  gate : Gate
  clock : Option Nat
  buffer : Memory UInt8
  info : ConnectionInfo
  visible : Moment
  history : List Moment
  stores : List Store
  connects : List Connect

/-- The buffer is not initialized. -/
def Shared.start (buffer : Memory UInt8) : Shared where
  finder := .start
  gate := .absent
  clock := none
  buffer := buffer
  info := ⟨0, 0, false⟩
  visible := ⟨⟨0, 0, false⟩, none⟩
  history := [⟨⟨0, 0, false⟩, none⟩]
  stores := []
  connects := []

/-- Where a command is, before the call of this name, with the moment that it began at. -/
inductive CommandPoint where
  | isIPValid
  | socket (began : Nat)
  | getPortNumber (began : Nat)
  | getIPAddress (began : Nat) (port : UInt16)
  | connect (began : Nat) (servaddr : SockAddr)
  deriving DecidableEq

inductive Task where
  | finder
  | clock
  | command (point : CommandPoint)
  deriving DecidableEq

inductive Answer where
  | created
  | failed
  | datagram (d : List UInt8)
  | tick
  | proceed
  deriving DecidableEq

def Shared.infoMsg (s : Shared) : InfoMsg := Avds.infoMsg.load s.buffer 0

def Shared.reveal (s : Shared) (m : Moment) : Shared :=
  { s with visible := m, history := s.history ++ [m] }

def Shared.leave (s : Shared) (d : List UInt8) : Shared :=
  { s.reveal ⟨s.info, some d⟩ with
    finder := .clockStart
    gate := .free
    stores := s.stores ++ [⟨d, s.visible.info, s.info⟩] }

/-- `pvUDPAVDSFinder_taskFxn`. It fails to start, or `select` fails, and it returns; where
the clock or the gate cannot be created the system stops. A datagram leaves what it does
not reach of the buffer as it was. -/
def finderTaskFxn (s : Shared) (a : Answer) : Option Shared :=
  match s.finder, a with
  | .start, .created => some { s with finder := .recvfrom, gate := .free }
  | .start, .failed => some { s with finder := .returned }
  | .recvfrom, .datagram d =>
    some { s with
      finder := if d = [] then .recvfrom else .clockStop d
      buffer := s.buffer.write 0 (d.take udpPacketSize) }
  | .recvfrom, .failed => some { s with finder := .returned }
  | .clockStop d, .proceed => some { s with finder := .enter d, clock := none }
  | .enter d, .proceed =>
    if s.gate = .free then some { s with finder := .ipAddress d, gate := .taken } else none
  | .ipAddress d, .proceed =>
    some { s with
      finder := .portNumber d
      info := { s.info with ipAddress := ntohl s.infoMsg.ipAddress } }
  | .portNumber d, .proceed =>
    some { s with
      finder := .isValid d
      info := { s.info with portNumber := ntohs s.infoMsg.portNumber } }
  | .isValid d, .proceed =>
    some { s with finder := .leave d, info := { s.info with isValid := true } }
  | .leave d, .proceed => some (s.leave d)
  | .clockStart, .proceed => some { s with finder := .recvfrom, clock := some clockTimeout }
  | _, _ => none

/-- `vAVDSUDP_clockHandlerFxn`, which does not look at the gate. -/
def Shared.clockHandlerFxn (s : Shared) : Shared :=
  { s with clock := none, info := { s.info with isValid := false } }.reveal
    ⟨{ s.info with isValid := false }, s.visible.datagram⟩

def Shared.tick (s : Shared) : Shared :=
  match s.clock with
  | none => s
  | some n => if n ≤ 1 then s.clockHandlerFxn else { s with clock := some (n - 1) }

/-- `vAVDSDevice_ALTOEmulatorClassService_ValueChangeHandler` to its `connect`. The getters
wait for the gate, and when there is none yet it is not known what they do. -/
def valueChangeHandler (s : Shared) : CommandPoint → Answer → Option (Shared × Multiset Task)
  | .isIPValid, .proceed =>
    if s.gate = .free then
      some (s, if s.info.isValid then {.command (.socket (s.history.length - 1))} else 0)
    else none
  | .socket began, .created => some (s, {.command (.getPortNumber began)})
  | .socket _, .failed => some (s, 0)
  | .getPortNumber began, .proceed =>
    if s.gate = .free then some (s, {.command (.getIPAddress began s.info.portNumber)}) else none
  | .getIPAddress began port, .proceed =>
    if s.gate = .free then
      some (s, {.command (.connect began (sockAddr s.info.ipAddress port))})
    else none
  | .connect began servaddr, .proceed =>
    some ({ s with connects := s.connects ++ [⟨began, s.history.length, servaddr⟩] }, 0)
  | _, _ => none

def act (s : Shared) : Task → Answer → Option (Shared × Multiset Task)
  | .finder, a => (finderTaskFxn s a).map (·, {.finder})
  | .clock, .tick => some (s.tick, {.clock})
  | .clock, _ => none
  | .command point, a => valueChangeHandler s point a

def program : Program Shared Task Answer Unit where
  arrive _ _ := {.command .isIPValid}
  act := act

def started (buffer : Memory UInt8) : System Shared Task := ⟨.start buffer, {.finder, .clock}⟩

/-- Of these moments since `began` there is one at which the endpoint is valid with this
address, as a datagram with room for the record announces it. -/
def Shown (history : List Moment) (began : Nat) (servaddr : SockAddr) : Prop :=
  ∃ m ∈ history.drop began, m.info.isValid = true ∧ m.info.servaddr = servaddr ∧
    ∃ d, m.datagram = some d ∧ infoMsg.size ≤ d.length ∧ announced d = servaddr

/-- Commands connect to what was announced and valid at one moment since they began, and
a datagram that is too short changes nothing. -/
structure Contract (s : Shared) : Prop where
  snapshot : ∀ c ∈ s.connects, Shown (s.history.take c.ended) c.began c.servaddr
  short : ∀ x ∈ s.stores, x.datagram.length < infoMsg.size → x.after = x.before

/-- A task that is not between its reads, or is and finds the address of the announcement
with the port of it, or the address that it would have found before. -/
def Task.Whole (s : Shared) : Task → Prop
  | .command (.getIPAddress _ port) =>
    ntohl s.infoMsg.ipAddress = s.info.ipAddress ∨ ntohs s.infoMsg.portNumber = port
  | _ => True

instance (s : Shared) : DecidablePred (Task.Whole s)
  | .command (.getIPAddress _ _) => inferInstanceAs (Decidable (_ ∨ _))
  | .command .isIPValid | .command (.socket _) | .command (.getPortNumber _)
  | .command (.connect _ _) | .finder | .clock => inferInstanceAs (Decidable True)

/-- A datagram that is not empty has room for the record, and when an announcement is
stored, no command has read the port of another one and is to find its address. -/
def Steady (z : System Shared Task) : Event Task Answer Unit → Prop
  | .act .finder (.datagram d) => d = [] ∨ infoMsg.size ≤ d.length
  | .act .finder .proceed =>
    match z.shared.finder with
    | .ipAddress _ => ∀ t ∈ z.tasks, t.Whole z.shared
    | _ => True
  | _ => True

instance (z : System Shared Task) : DecidablePred (Steady z) := fun e => by
  unfold Steady
  split
  · infer_instance
  · split <;> infer_instance
  · infer_instance

inductive Moves (s : Shared) : Answer → Shared → Prop
  | created (h : s.finder = .start) : Moves s .created { s with finder := .recvfrom, gate := .free }
  | failed (h : s.finder = .start ∨ s.finder = .recvfrom) :
    Moves s .failed { s with finder := .returned }
  | recvfrom {d} (h : s.finder = .recvfrom) :
    Moves s (.datagram d)
      { s with
        finder := if d = [] then .recvfrom else .clockStop d
        buffer := s.buffer.write 0 (d.take udpPacketSize) }
  | clockStop {d} (h : s.finder = .clockStop d) :
    Moves s .proceed { s with finder := .enter d, clock := none }
  | enter {d} (h : s.finder = .enter d) :
    Moves s .proceed { s with finder := .ipAddress d, gate := .taken }
  | ipAddress {d} (h : s.finder = .ipAddress d) :
    Moves s .proceed
      { s with
        finder := .portNumber d
        info := { s.info with ipAddress := ntohl s.infoMsg.ipAddress } }
  | portNumber {d} (h : s.finder = .portNumber d) :
    Moves s .proceed
      { s with
        finder := .isValid d
        info := { s.info with portNumber := ntohs s.infoMsg.portNumber } }
  | isValid {d} (h : s.finder = .isValid d) :
    Moves s .proceed { s with finder := .leave d, info := { s.info with isValid := true } }
  | leave {d} (h : s.finder = .leave d) : Moves s .proceed (s.leave d)
  | clockStart (h : s.finder = .clockStart) :
    Moves s .proceed { s with finder := .recvfrom, clock := some clockTimeout }

/-- What an action does. The steps of a command change only the record of it. -/
inductive Acts (s : Shared) : Task → Answer → Shared → Multiset Task → Prop
  | finder {a s'} (h : Moves s a s') : Acts s .finder a s' {.finder}
  | still (h : s.clock = none) : Acts s .clock .tick s {.clock}
  | tick {n} (h : s.clock ≠ none) : Acts s .clock .tick { s with clock := some n } {.clock}
  | expire (h : s.clock ≠ none) : Acts s .clock .tick s.clockHandlerFxn {.clock}
  | invalid : Acts s (.command .isIPValid) .proceed s 0
  | valid (hgate : s.gate = .free) (hvalid : s.info.isValid = true) :
    Acts s (.command .isIPValid) .proceed s {.command (.socket (s.history.length - 1))}
  | created {began} :
    Acts s (.command (.socket began)) .created s {.command (.getPortNumber began)}
  | failed {began} : Acts s (.command (.socket began)) .failed s 0
  | getPortNumber {began} (hgate : s.gate = .free) :
    Acts s (.command (.getPortNumber began)) .proceed s
      {.command (.getIPAddress began s.info.portNumber)}
  | getIPAddress {began port} (hgate : s.gate = .free) :
    Acts s (.command (.getIPAddress began port)) .proceed s
      {.command (.connect began (sockAddr s.info.ipAddress port))}
  | connect {began servaddr} :
    Acts s (.command (.connect began servaddr)) .proceed
      { s with connects := s.connects ++ [⟨began, s.history.length, servaddr⟩] } 0

variable {s s' : Shared} {t : Task} {a : Answer} {ts : Multiset Task} {z z' : System Shared Task}
  {e : Event Task Answer Unit} {es : List (Event Task Answer Unit)} {d : List UInt8} {began : Nat}
  {x : SockAddr} {m : Moment} {history : List Moment}

theorem finderTaskFxn_moves (h : finderTaskFxn s a = some s') : Moves s a s' := by
  unfold finderTaskFxn at h
  split at h
  case h_1 hpoint =>
    cases h
    exact .created hpoint
  case h_2 hpoint =>
    cases h
    exact .failed (.inl hpoint)
  case h_3 hpoint =>
    cases h
    exact .recvfrom hpoint
  case h_4 hpoint =>
    cases h
    exact .failed (.inr hpoint)
  case h_5 hpoint =>
    cases h
    exact .clockStop hpoint
  case h_6 hpoint =>
    split at h
    case isTrue =>
      cases h
      exact .enter hpoint
    case isFalse => cases h
  case h_7 hpoint =>
    cases h
    exact .ipAddress hpoint
  case h_8 hpoint =>
    cases h
    exact .portNumber hpoint
  case h_9 hpoint =>
    cases h
    exact .isValid hpoint
  case h_10 hpoint =>
    cases h
    exact .leave hpoint
  case h_11 hpoint =>
    cases h
    exact .clockStart hpoint
  case h_12 => cases h

theorem tick_acts : Acts s .clock .tick s.tick {.clock} := by
  unfold Shared.tick
  split
  case h_1 hclock => exact .still hclock
  case h_2 n hclock =>
    have hne : s.clock ≠ none := by simp [hclock]
    split
    · exact .expire hne
    · exact .tick hne

theorem valueChangeHandler_acts {point : CommandPoint}
    (h : valueChangeHandler s point a = some (s', ts)) : Acts s (.command point) a s' ts := by
  unfold valueChangeHandler at h
  split at h
  case h_1 =>
    split at h
    case isFalse => cases h
    case isTrue hgate =>
      cases h
      split
      case isTrue hvalid => exact .valid hgate hvalid
      case isFalse => exact .invalid
  case h_2 =>
    cases h
    exact .created
  case h_3 =>
    cases h
    exact .failed
  case h_4 =>
    split at h
    case isTrue hgate =>
      cases h
      exact .getPortNumber hgate
    case isFalse => cases h
  case h_5 =>
    split at h
    case isTrue hgate =>
      cases h
      exact .getIPAddress hgate
    case isFalse => cases h
  case h_6 =>
    cases h
    exact .connect
  case h_7 => cases h

theorem act_acts (h : act s t a = some (s', ts)) : Acts s t a s' ts := by
  unfold act at h
  split at h
  case h_1 =>
    obtain ⟨next, hnext, heq⟩ := Option.map_eq_some_iff.mp h
    cases heq
    exact .finder (finderTaskFxn_moves hnext)
  case h_2 =>
    cases h
    exact tick_acts
  case h_3 => cases h
  case h_4 => exact valueChangeHandler_acts h

@[simp] theorem htonl_ntohl (w : UInt32) : htonl (ntohl w) = w := u32_onto.swap_swap w

@[simp] theorem htons_ntohs (w : UInt16) : htons (ntohs w) = w := u16_onto.swap_swap w

structure Received (buffer : Memory UInt8) (d : List UInt8) : Prop where
  room : infoMsg.size ≤ d.length
  record : infoMsg.load buffer 0 = infoMsg.decode (d.take infoMsg.size)

theorem received_write {buffer : Memory UInt8} (h : infoMsg.size ≤ d.length) :
    Received (buffer.write 0 (d.take udpPacketSize)) d where
  room := h
  record := by
    have hsize : infoMsg.size ≤ udpPacketSize := by decide
    have hlen : infoMsg.size ≤ (d.take udpPacketSize).length := by
      rw [List.length_take]
      exact Nat.le_min.mpr ⟨hsize, h⟩
    rw [load, Memory.read_write_take hlen, List.take_take, Nat.min_eq_left hsize]

theorem Received.sockAddr_eq (h : Received s.buffer d) :
    sockAddr (ntohl s.infoMsg.ipAddress) (ntohs s.infoMsg.portNumber) = announced d := by
  rw [sockAddr, htonl_ntohl, htons_ntohs, Shared.infoMsg, h.record]
  rfl

/-- What the finder knows at each point. The clock is stopped from before the gate is
taken, and elsewhere the endpoint is as a reader sees it. -/
def AtFinder (s : Shared) : Prop :=
  match s.finder with
  | .clockStop d => Received s.buffer d ∧ s.info = s.visible.info
  | .enter d => Received s.buffer d ∧ s.clock = none ∧ s.info = s.visible.info
  | .ipAddress d =>
    Received s.buffer d ∧ s.clock = none ∧ s.gate = .taken ∧ s.info = s.visible.info
  | .portNumber d =>
    Received s.buffer d ∧ s.clock = none ∧ s.gate = .taken ∧
      s.info.ipAddress = ntohl s.infoMsg.ipAddress
  | .isValid d =>
    Received s.buffer d ∧ s.clock = none ∧ s.gate = .taken ∧
      s.info.ipAddress = ntohl s.infoMsg.ipAddress ∧
        s.info.portNumber = ntohs s.infoMsg.portNumber
  | .leave d =>
    Received s.buffer d ∧ s.clock = none ∧ s.gate = .taken ∧
      s.info = ⟨ntohl s.infoMsg.ipAddress, ntohs s.infoMsg.portNumber, true⟩
  | _ => s.info = s.visible.info

/-- The finder has stored the address of an announcement and is yet to leave the gate. -/
def Shared.Storing (s : Shared) : Prop :=
  match s.finder with
  | .portNumber _ | .isValid _ | .leave _ => True
  | _ => False

theorem AtFinder.settled (h : AtFinder s) (hopen : s.clock ≠ none ∨ s.gate = .free) :
    s.info = s.visible.info ∧ ¬s.Storing := by
  unfold AtFinder at h
  unfold Shared.Storing
  split at h <;> simp_all

theorem Moves.atFinder (h : Moves s a s') (hs : AtFinder s)
    (hroom : ∀ d, a = .datagram d → d = [] ∨ infoMsg.size ≤ d.length) : AtFinder s' := by
  unfold AtFinder at hs
  cases h with
  | created h | clockStart h =>
    rw [h] at hs
    exact hs
  | failed h =>
    rcases h with h | h <;>
    · rw [h] at hs
      exact hs
  | @recvfrom d h =>
    rw [h] at hs
    unfold AtFinder
    by_cases hd : d = []
    · rw [if_pos hd]
      exact hs
    · rw [if_neg hd]
      exact ⟨received_write ((hroom d rfl).resolve_left hd), hs⟩
  | clockStop h =>
    rw [h] at hs
    exact ⟨hs.1, rfl, hs.2⟩
  | enter h =>
    rw [h] at hs
    obtain ⟨hreceived, hclock, hinfo⟩ := hs
    exact ⟨hreceived, hclock, rfl, hinfo⟩
  | ipAddress h =>
    rw [h] at hs
    obtain ⟨hreceived, hclock, hgate, -⟩ := hs
    exact ⟨hreceived, hclock, hgate, rfl⟩
  | portNumber h =>
    rw [h] at hs
    obtain ⟨hreceived, hclock, hgate, hip⟩ := hs
    exact ⟨hreceived, hclock, hgate, hip, rfl⟩
  | isValid h =>
    rw [h] at hs
    obtain ⟨hreceived, hclock, hgate, hip, hport⟩ := hs
    exact ⟨hreceived, hclock, hgate, congrArg₂ (ConnectionInfo.mk · · true) hip hport⟩
  | leave h => rfl

-- ---------------------------------------------------------------------------
-- What a command has seen
-- ---------------------------------------------------------------------------

/-- While an announcement is being stored, a command that is between its reads has the
port of it, or finds the address that it would have found before. -/
def Task.Seen (s : Shared) : Task → Prop
  | .command (.socket began) | .command (.getPortNumber began) =>
    Shown s.history began s.visible.info.servaddr
  | .command (.getIPAddress began port) =>
    Shown s.history began (sockAddr s.visible.info.ipAddress port) ∧
      (s.Storing →
        s.info.ipAddress = s.visible.info.ipAddress ∨ ntohs s.infoMsg.portNumber = port)
  | .command (.connect began servaddr) => Shown s.history began servaddr
  | _ => True

theorem Shown.concat (h : Shown history began x) : Shown (history ++ [m]) began x := by
  obtain ⟨k, hk, hshown⟩ := h
  refine ⟨k, ?_, hshown⟩
  rw [List.drop_append]
  exact List.mem_append_left _ hk

theorem Shown.began_le (h : Shown history began x) : began ≤ history.length := by
  obtain ⟨k, hk, -⟩ := h
  have hpos : 0 < (history.drop began).length := List.length_pos_of_mem hk
  rw [List.length_drop] at hpos
  omega

theorem mem_drop_concat (h : began ≤ history.length) : m ∈ (history ++ [m]).drop began := by
  rw [List.drop_append_of_le_length h]
  exact List.mem_append_right _ (List.mem_singleton_self m)

theorem mem_drop_last : m ∈ (history ++ [m]).drop ((history ++ [m]).length - 1) := by
  refine mem_drop_concat ?_
  rw [List.length_append, List.length_singleton]
  exact le_rfl

structure Connected (history : List Moment) (c : Connect) : Prop where
  ended : c.ended ≤ history.length
  shown : Shown (history.take c.ended) c.began c.servaddr

theorem Connected.concat {c : Connect} (h : Connected history c) : Connected (history ++ [m]) c where
  ended := by
    rw [List.length_append]
    exact Nat.le_trans h.ended (Nat.le_add_right _ _)
  shown := by
    rw [List.take_append_of_le_length h.ended]
    exact h.shown

theorem AtFinder.leave (hs : AtFinder s) (h : s.finder = .leave d) :
    s.info.isValid = true ∧ infoMsg.size ≤ d.length ∧ announced d = s.info.servaddr := by
  unfold AtFinder at hs
  rw [h] at hs
  obtain ⟨hreceived, -, -, hinfo⟩ := hs
  refine ⟨by rw [hinfo], hreceived.room, ?_⟩
  rw [hinfo, ← hreceived.sockAddr_eq]
  rfl

theorem AtFinder.shown_leave (hs : AtFinder s) (h : s.finder = .leave d)
    (hbegan : began ≤ s.history.length) : Shown (s.leave d).history began s.info.servaddr := by
  obtain ⟨hvalid, hroom, hannounced⟩ := hs.leave h
  exact ⟨⟨s.info, some d⟩, mem_drop_concat hbegan, hvalid, rfl, d, rfl, hroom, hannounced⟩

/-- A reader sees the same endpoint, valid or not. -/
theorem Task.Seen.frame (ht : t.Seen s)
    (hshown : ∀ began x, Shown s.history began x → Shown s'.history began x)
    (hip : s'.visible.info.ipAddress = s.visible.info.ipAddress)
    (hport : s'.visible.info.portNumber = s.visible.info.portNumber)
    (hstoring : ∀ began port, t = .command (.getIPAddress began port) → s'.Storing →
      s'.info.ipAddress = s.visible.info.ipAddress ∨ ntohs s'.infoMsg.portNumber = port) :
    t.Seen s' := by
  have hservaddr : s'.visible.info.servaddr = s.visible.info.servaddr := by
    rw [ConnectionInfo.servaddr, hip, hport]
    rfl
  cases t with
  | finder | clock => trivial
  | command point =>
    cases point with
    | isIPValid => trivial
    | socket began | getPortNumber began =>
      change Shown s'.history began _
      rw [hservaddr]
      exact hshown _ _ ht
    | getIPAddress began port =>
      refine ⟨?_, ?_⟩
      · rw [hip]
        exact hshown _ _ ht.1
      · rw [hip]
        exact hstoring began port rfl
    | connect began servaddr => exact hshown _ _ ht

theorem Moves.seen (h : Moves s a s') (hs : AtFinder s) (ht : t.Seen s)
    (hwhole : ∀ d, a = .proceed → s.finder = .ipAddress d → t.Whole s) : t.Seen s' := by
  cases h with
  | created | failed | clockStop | enter | clockStart =>
    exact ht.frame (fun _ _ h => h) rfl rfl fun _ _ _ hstoring => hstoring.elim
  | @recvfrom d h =>
    refine ht.frame (fun _ _ h => h) rfl rfl fun _ _ _ hstoring => ?_
    unfold Shared.Storing at hstoring
    by_cases hd : d = []
    · rw [if_pos hd] at hstoring
      exact hstoring.elim
    · rw [if_neg hd] at hstoring
      exact hstoring.elim
  | @ipAddress d h =>
    refine ht.frame (fun _ _ h => h) rfl rfl fun began port heq _ => ?_
    have hinfo : s.info = s.visible.info := by
      unfold AtFinder at hs
      rw [h] at hs
      exact hs.2.2.2
    subst heq
    rw [← hinfo]
    exact hwhole d rfl h
  | portNumber h | isValid h =>
    refine ht.frame (fun _ _ h => h) rfl rfl fun began port heq _ => ?_
    subst heq
    refine ht.2 ?_
    unfold Shared.Storing
    rw [h]
    trivial
  | @leave d h =>
    cases t with
    | finder | clock => trivial
    | command point =>
      cases point with
      | isIPValid => trivial
      | socket began | getPortNumber began => exact hs.shown_leave h (Shown.began_le ht)
      | getIPAddress began port =>
        refine ⟨?_, fun hstoring => hstoring.elim⟩
        have hstoring : s.Storing := by
          unfold Shared.Storing
          rw [h]
          trivial
        rcases ht.2 hstoring with hsame | hport
        · have hkept : Shown (s.leave d).history began (sockAddr s.visible.info.ipAddress port) :=
            Shown.concat ht.1
          rwa [← hsame] at hkept
        · have hnew := hs.shown_leave h (Shown.began_le ht.1)
          unfold AtFinder at hs
          rw [h] at hs
          have hinfo : s.info.portNumber = port := by rw [hs.2.2.2, ← hport]
          rwa [ConnectionInfo.servaddr, hinfo] at hnew
      | connect began servaddr => exact Shown.concat ht

-- ---------------------------------------------------------------------------
-- Runs
-- ---------------------------------------------------------------------------

structure Sound (s : Shared) : Prop where
  finder : AtFinder s
  last : s.visible ∈ s.history.drop (s.history.length - 1)
  announced : s.visible.info.isValid = true → ∃ d, s.visible.datagram = some d ∧
    infoMsg.size ≤ d.length ∧ announced d = s.visible.info.servaddr
  connects : ∀ c ∈ s.connects, Connected s.history c
  stores : ∀ x ∈ s.stores, infoMsg.size ≤ x.datagram.length

theorem Sound.shown (h : Sound s) (hgate : s.gate = .free) (hvalid : s.info.isValid = true) :
    Shown s.history (s.history.length - 1) s.visible.info.servaddr := by
  obtain ⟨hinfo, -⟩ := h.finder.settled (.inr hgate)
  rw [hinfo] at hvalid
  exact ⟨s.visible, h.last, hvalid, rfl, h.announced hvalid⟩

theorem Moves.sound (h : Moves s a s') (hs : Sound s)
    (hroom : ∀ d, a = .datagram d → d = [] ∨ infoMsg.size ≤ d.length) : Sound s' := by
  have hfinder := h.atFinder hs.finder hroom
  cases h with
  | @leave d h =>
    obtain ⟨hvalid, hlong, hannounced⟩ := hs.finder.leave h
    exact ⟨hfinder, mem_drop_last, fun _ => ⟨d, rfl, hlong, hannounced⟩,
      fun c hc => (hs.connects c hc).concat,
      List.forall_mem_append.mpr ⟨hs.stores, List.forall_mem_singleton.mpr hlong⟩⟩
  | _ => exact ⟨hfinder, hs.last, hs.announced, hs.connects, hs.stores⟩

theorem AtFinder.running (h : AtFinder s) (hclock : s.clock ≠ none)
    (hfinder : s'.finder = s.finder) (hbuffer : s'.buffer = s.buffer)
    (hinfo : s'.info = s'.visible.info) : AtFinder s' := by
  unfold AtFinder at h ⊢
  rw [hfinder, hbuffer]
  split at h
  case h_1 => exact ⟨h.1, hinfo⟩
  case h_7 => exact hinfo
  all_goals exact absurd h.2.1 hclock

theorem Acts.sound (h : Acts s t a s' ts) (hs : Sound s) (ht : t.Seen s)
    (hroom : ∀ d, t = .finder → a = .datagram d → d = [] ∨ infoMsg.size ≤ d.length) :
    Sound s' := by
  cases h with
  | finder h => exact h.sound hs fun d => hroom d rfl
  | tick hclock =>
    obtain ⟨hinfo, -⟩ := hs.finder.settled (.inl hclock)
    exact ⟨hs.finder.running hclock rfl rfl hinfo, hs.last, hs.announced, hs.connects, hs.stores⟩
  | expire hclock =>
    refine ⟨hs.finder.running hclock rfl rfl rfl, mem_drop_last, ?_, fun c hc => ?_, hs.stores⟩
    · rintro ⟨⟩
    · exact (hs.connects c hc).concat
  | @connect began servaddr =>
    have hnew : Connected s.history ⟨began, s.history.length, servaddr⟩ :=
      ⟨le_rfl, by rw [List.take_length]; exact ht⟩
    exact ⟨hs.finder, hs.last, hs.announced,
      List.forall_mem_append.mpr ⟨hs.connects, List.forall_mem_singleton.mpr hnew⟩, hs.stores⟩
  | _ => exact hs

theorem Acts.seen (h : Acts s t a s' ts) (hs : Sound s) {u : Task} (hu : u.Seen s)
    (hwhole : ∀ d, t = .finder → a = .proceed → s.finder = .ipAddress d → u.Whole s) :
    u.Seen s' := by
  cases h with
  | finder h => exact h.seen hs.finder hu fun d => hwhole d rfl
  | expire hclock =>
    obtain ⟨hinfo, hstoring⟩ := hs.finder.settled (.inl hclock)
    have hip : s.info.ipAddress = s.visible.info.ipAddress := by rw [hinfo]
    have hport : s.info.portNumber = s.visible.info.portNumber := by rw [hinfo]
    exact hu.frame (fun _ _ h => h.concat) hip hport fun _ _ _ h => absurd h hstoring
  | _ => exact hu

theorem Acts.seen_self (h : Acts s t a s' ts) (hs : Sound s) (ht : t.Seen s) :
    ∀ u ∈ ts, u.Seen s' := by
  have hread : s.gate = .free → s.visible.info = s.info ∧ ¬s.Storing := fun hgate => by
    obtain ⟨hinfo, hstoring⟩ := hs.finder.settled (.inr hgate)
    exact ⟨hinfo.symm, hstoring⟩
  cases h with
  | invalid | failed | connect => exact fun u hu => absurd hu (Multiset.notMem_zero u)
  | finder | still | tick | expire | created =>
    intro u hu
    cases Multiset.mem_singleton.mp hu
    exact ht
  | valid hgate hvalid =>
    intro u hu
    cases Multiset.mem_singleton.mp hu
    exact hs.shown hgate hvalid
  | getPortNumber hgate =>
    intro u hu
    cases Multiset.mem_singleton.mp hu
    obtain ⟨hinfo, hstoring⟩ := hread hgate
    refine ⟨?_, fun h => absurd h hstoring⟩
    rw [← hinfo]
    exact ht
  | getIPAddress hgate =>
    intro u hu
    cases Multiset.mem_singleton.mp hu
    obtain ⟨hinfo, -⟩ := hread hgate
    rw [← hinfo]
    exact ht.1

structure Inv (z : System Shared Task) : Prop where
  shared : Sound z.shared
  tasks : Holds Task.Seen z

theorem started_inv (buffer : Memory UInt8) : Inv (started buffer) where
  shared := ⟨rfl, List.mem_cons_self, nofun, nofun, nofun⟩
  tasks := by
    intro t ht
    have hmem : t = .finder ∨ t ∈ ({.clock} : Multiset Task) := Multiset.mem_cons.mp ht
    rcases hmem with rfl | hmem
    · trivial
    · cases Multiset.mem_singleton.mp hmem
      trivial

theorem Inv.step (h : Inv z) (hsteady : Steady z e) (hstep : program.Step z e z') : Inv z' := by
  have hroom : ∀ d, e = .act .finder (.datagram d) → d = [] ∨ infoMsg.size ≤ d.length := by
    rintro d rfl
    exact hsteady
  have hwhole : ∀ d, e = .act .finder .proceed → z.shared.finder = .ipAddress d →
      ∀ t ∈ z.tasks, t.Whole z.shared := by
    rintro d rfl hd
    unfold Steady at hsteady
    dsimp only at hsteady
    rwa [hd] at hsteady
  have htasks : Holds Task.Seen z' := by
    refine hstep.holds h.tasks (fun sh _ t ht => ?_) fun sh t ts a sh' ts' hz he ht hact => ?_
    · cases Multiset.mem_singleton.mp ht
      trivial
    · subst hz he
      have hacts := act_acts hact
      refine ⟨hacts.seen_self h.shared ht, fun u hu hseen => hacts.seen h.shared hseen ?_⟩
      rintro d rfl rfl hd
      exact hwhole d rfl hd u (Multiset.mem_cons_of_mem hu)
  cases hstep with
  | arrive => exact ⟨h.shared, htasks⟩
  | @act s s' ts us t a hact =>
    refine ⟨(act_acts hact).sound h.shared (h.tasks t (Multiset.mem_cons_self t ts)) ?_, htasks⟩
    rintro d rfl rfl
    exact hroom d rfl

/-- When datagrams have room for the record and no announcement comes between the reads
of a command, every command connects to what was announced and valid at one moment. -/
theorem connects_to_announced (buffer : Memory UInt8) (es : List (Event Task Answer Unit))
    (z : System Shared Task) (hrun : RunWith program.Step Steady (started buffer) es z) :
    Contract z.shared := by
  have hinv := hrun.inv (started_inv buffer) fun _ _ _ h hsteady hstep => h.step hsteady hstep
  exact {
    snapshot := fun c hc => (hinv.shared.connects c hc).shown
    short := fun x hx hshort => absurd (hinv.shared.stores x hx) (Nat.not_le.mpr hshort) }

def find (d : List UInt8) : List (Event Task Answer Unit) :=
  .act .finder (.datagram d) :: List.replicate 7 (.act .finder .proceed)

def portRead : List (Event Task Answer Unit) :=
  .act .finder .created :: find [10, 2, 3, 5, 7, 0xD1, 0, 0] ++
    [.arrive (), .act (.command .isIPValid) .proceed, .act (.command (.socket 1)) .created,
      .act (.command (.getPortNumber 1)) .proceed]

/-- The manager announces itself once more while the command is between its reads. -/
theorem connects_to_announced_again :
    ∃ z : System Shared Task,
      z.shared.connects = [⟨1, 3, sockAddr 0x0A020305 2001⟩] ∧ Contract z.shared := by
  have hreplay : (program.replay (fun z e => decide (Steady z e)) (started fun _ => 0)
      (portRead ++ find [10, 2, 3, 5, 7, 0xD1, 0, 0] ++
        [.act (.command (.getIPAddress 1 2001)) .proceed,
          .act (.command (.connect 1 (sockAddr 0x0A020305 2001))) .proceed])).map
      (fun z => z.shared.connects) = some [⟨1, 3, sockAddr 0x0A020305 2001⟩] := by decide +kernel
  obtain ⟨z, hz, hconnects⟩ := Option.map_eq_some_iff.mp hreplay
  exact ⟨z, hconnects, connects_to_announced _ _ z
    ((runWith_of_replay hz).imp fun _ _ => of_decide_eq_true)⟩

/-- Another node announces itself there: the command connects to the port of the one at the
address of the other. After it one byte is enough to change the endpoint. -/
theorem port_of_another_announcement :
    ∃ es z, Run program.Step (started fun _ => 0) es z ∧
      z.shared.connects = [⟨1, 3, sockAddr 0x0A020306 2001⟩] ∧
      ⟨[11], ⟨0x0A020306, 2002, true⟩, ⟨0x0B020306, 2002, true⟩⟩ ∈ z.shared.stores ∧
      ¬Contract z.shared := by
  have hreplay : (program.replay (fun _ _ => true) (started fun _ => 0)
      (portRead ++ find [10, 2, 3, 6, 7, 0xD2, 0, 0] ++
        [.act (.command (.getIPAddress 1 2001)) .proceed,
          .act (.command (.connect 1 (sockAddr 0x0A020306 2001))) .proceed] ++ find [11])).map
      (fun z => (z.shared.connects, z.shared.stores.getLast?,
        decide (∀ m ∈ z.shared.history, m.info.servaddr ≠ sockAddr 0x0A020306 2001))) =
      some ([⟨1, 3, sockAddr 0x0A020306 2001⟩],
        some ⟨[11], ⟨0x0A020306, 2002, true⟩, ⟨0x0B020306, 2002, true⟩⟩, true) := by
    decide +kernel
  obtain ⟨z, hz, hvalue⟩ := Option.map_eq_some_iff.mp hreplay
  simp only [Prod.mk.injEq, decide_eq_true_eq] at hvalue
  obtain ⟨hconnects, hstores, hhistory⟩ := hvalue
  refine ⟨_, z, run_of_replay hz, hconnects, List.mem_of_getLast? hstores, fun h => ?_⟩
  have hone : ⟨1, 3, sockAddr 0x0A020306 2001⟩ ∈ z.shared.connects := by
    rw [hconnects]
    exact List.mem_cons_self
  obtain ⟨m, hm, -, haddr, -⟩ := h.snapshot _ hone
  exact hhistory m (List.mem_of_mem_take (List.mem_of_mem_drop hm)) haddr

end SystemMaster.Avds
