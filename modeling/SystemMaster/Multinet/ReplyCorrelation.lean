import SystemMaster.Library.LittleEndian
import SystemMaster.Multinet.RelayController

/-!
# Replies of boxes

The device task, the discovery and the workers talk to the boxes over one serial
port, one exchange at a time. A caller looks at the checksum of a reply and at its
operation, not at the box or the function it comes from, and what keeps the
replies of two exchanges apart is that the receive buffer is emptied in between.
-/

namespace SystemMaster.Multinet

open Alto Runs

def classDiagnostic : UInt8 := 0x01
def functionDeviceDetailedStatus : UInt8 := 0x10
def functionManufacturingInformation : UInt8 := 0x70
def functionCluBitMap : UInt8 := 0x44
def functionCluPinVinGate : UInt8 := 0x50

-- ---------------------------------------------------------------------------
-- Callers
-- ---------------------------------------------------------------------------

inductive StatusParam where
  | detailedStatus
  | statusRelay (relayBitPosition : UInt8)
  | detailedPot

inductive Caller where
  | readGateFrom (multinetAddress : Address)
  | setGateAt (multinetAddress : Address) (inputAddress : Fin 32) (value : Bool)
  | setVirtualRemoteAt (multinetAddress : Address) (inputAddress : Fin 32) (value : Bool)
  | getDetailedStatus (multinetAddress : Address) (paramID : StatusParam)
  | transferRemote (multinetAddress : Address) (operationID length : UInt8)
    (data : Vector UInt8 dataPayloadSize)
  | discovery (unitType : Fin 8) (address : Fin 32)

def multinetAddressOf (unitType : Fin 8) (address : Fin 32) : Address :=
  (UInt8.ofNat unitType <<< 5) ||| UInt8.ofNat address

def unitTypeOf (multinetAddress : Address) : Nat := (multinetAddress >>> 5).toNat

def requestFrame (classID operationID functionID : UInt8) (multinetAddress : Address)
    (data : List UInt8) : Frame where
  classID := classID
  operationID := operationID
  functionID := functionID
  sequence := multinetAddress
  length := UInt8.ofNat data.length
  data := Vector.ofFn fun i => data.getD i 0
  bcc := 0

/-- `ALTOMultinetDeviceRelay_CluPinVinGate_inputSpecifier` of a single unit. -/
def inputSpecifier (inputAddress : Fin 32) (value : Bool) : UInt8 :=
  (if value then 1 else 0 : UInt8) ||| (UInt8.ofNat inputAddress <<< 1)

def Caller.tFrameTx : Caller → Frame
  | readGateFrom multinetAddress =>
    bccFill (requestFrame classClu operationGet functionCluBitMap multinetAddress [])
  | setGateAt multinetAddress inputAddress value =>
    bccFill (requestFrame classClu operationSet functionCluPinVinGate multinetAddress
      [inputSpecifier inputAddress value])
  | setVirtualRemoteAt multinetAddress inputAddress value =>
    bccFill (requestFrame classClu operationSet functionCluLocalRemoteVin multinetAddress
      [(⟨value, inputAddress⟩ : ORTInput).byte])
  | getDetailedStatus multinetAddress _ =>
    bccFill (requestFrame classDiagnostic operationGet functionDeviceDetailedStatus
      multinetAddress [])
  | transferRemote multinetAddress operationID length data =>
    bccFill { frameInit with
      sequence := multinetAddress, operationID := operationID, length := length, data := data }
  | discovery unitType address =>
    bccFill (requestFrame classDiagnostic operationGet functionManufacturingInformation
      (multinetAddressOf unitType address) [])

/-- What a caller takes from a reply. A relay state is not set for a unit of another type. -/
inductive Outcome where
  | gate (retVal : Int)
  | acknowledged (retVal : UInt8)
  | detailedStatus (bytes : List UInt8)
  | relayState (state : Option Bool)
  | pots (steps : List UInt8)
  | routings (entries : List ORTRouting)
  | box (multinetAddress versionMajor versionMinor : UInt8)

def isRelayBox (multinetAddress : Address) : Bool := unitTypeOf multinetAddress = relayBox
def isTemperatureBox (multinetAddress : Address) : Bool :=
  unitTypeOf multinetAddress = temperatureBox

def field (f : Frame) (off size : Nat) : Nat :=
  LittleEndian.ofBytes ((f.data.toList.drop off).take size)

def relayState (f : Frame) (multinetAddress : Address) (relayBitPosition : Nat) : Option Bool :=
  if isRelayBox multinetAddress then
    if relayBitPosition < 8 then some ((field f 14 1).testBit relayBitPosition)
    else some ((field f 15 1).testBit (relayBitPosition - 8))
  else if isTemperatureBox multinetAddress then
    if relayBitPosition < 8 then some ((field f 8 1).testBit relayBitPosition)
    else some ((field f 9 2 + 2 ^ 24 * field f 11 1).testBit (relayBitPosition - 8))
  else none

def Caller.outcome (c : Caller) (f : Frame) : Option Outcome :=
  if bccCheck f ≠ 0 then none
  else
    match c with
    | readGateFrom _ =>
      if f.operationID = operationACKNAK then some (.gate (-1))
      else if f.operationID = operationResponse then
        some (.gate (BitVec.ofNat 32 (field f 18 4)).toInt)
      else none
    | setGateAt .. | setVirtualRemoteAt .. =>
      if f.operationID = operationACKNAK ∧ firstByte f = ackNakGoodStatus then
        some (.acknowledged (firstByte f))
      else none
    | getDetailedStatus multinetAddress paramID =>
      if f.operationID = operationResponse then
        match paramID with
        | .detailedStatus => some (.detailedStatus (f.data.toList.take 24))
        | .statusRelay relayBitPosition =>
          some (.relayState (relayState f multinetAddress relayBitPosition.toNat))
        | .detailedPot =>
          if isTemperatureBox multinetAddress then some (.pots ((f.data.toList.drop 18).take 5))
          else none
      else none
    | transferRemote .. =>
      if f.classID = classClu ∧ f.operationID = operationResponse then
        let k := f.length.toNat / 2
        some (.routings (ortRoutings k
          (ortConvertDataFromBigEndianToLittleEndian k f.data.toList)))
      else none
    | discovery unitType _ =>
      if unitType = relayBox then some (.box f.sequence (firstByte f) f.data[1]) else none

-- ---------------------------------------------------------------------------
-- The port
-- ---------------------------------------------------------------------------

/-- A text that a box sent for a request; `none` when it is not of the size of a frame. -/
structure Arrival where
  request : Frame
  frame : Option Frame

/-- Where a task is in `bIFUART_transfer`. -/
inductive TransferPoint where
  | idle
  | enter (c : Caller)
  | flush (c : Caller)
  | send (c : Caller)
  | receive (c : Caller) (isSent : Bool)
  | leave (c : Caller) (result : Option Arrival)

structure Taken where
  caller : Caller
  arrival : Arrival
  outcome : Outcome

/-- The port with what the UART has received. The last three fields are records: whose
request was written last, the requests the boxes still have to answer, and what the
callers have taken as answers. -/
structure Port where
  gateTransfer : Option Nat
  rx : List Arrival
  task : Nat → TransferPoint
  asked : Option Caller
  pending : List Frame
  taken : List Taken

/-- How a statement turns out: whether `xIFUART_RXflush` gets its memory, whether all
bytes are sent, how many frames the receiver's poll finds, and whether it times out. -/
structure Turn where
  flushed : Bool
  isSent : Bool
  found : Nat
  timesOut : Bool

/-- A box answers a request, a task begins an exchange, or goes on with it. -/
inductive PortLabel where
  | arrive (i : Nat) (frame : Option Frame)
  | transfer (t : Nat) (c : Caller)
  | next (t : Nat) (turn : Turn)

namespace Port

def goto (s : Port) (t : Nat) (p : TransferPoint) : Port :=
  { s with task := Function.update s.task t p }

/-- A poll of `xIFUART_receiveALTOFrame`: of the frames it finds the last one counts. -/
def receive (s : Port) (t : Nat) (c : Caller) (isSent : Bool) (turn : Turn) : Port :=
  match (s.rx.take turn.found).getLast? with
  | some a =>
    { s with rx := s.rx.drop turn.found }.goto t (.leave c (if isSent then some a else none))
  | none => if turn.timesOut then s.goto t (.leave c none) else s

def leave (s : Port) (t : Nat) (c : Caller) (result : Option Arrival) : Port :=
  let s := { s with gateTransfer := none }.goto t .idle
  match result with
  | some a =>
    match a.frame.bind c.outcome with
    | some outcome => { s with taken := s.taken ++ [⟨c, a, outcome⟩] }
    | none => s
  | none => s

def next (s : Port) (t : Nat) (turn : Turn) : Port :=
  match s.task t with
  | .idle => s
  | .enter c =>
    match s.gateTransfer with
    | some _ => s
    | none => { s.goto t (.flush c) with gateTransfer := some t }
  | .flush c => { s.goto t (.send c) with rx := if turn.flushed then [] else s.rx }
  | .send c =>
    { s.goto t (.receive c turn.isSent) with
      asked := if turn.isSent then some c else s.asked
      pending := if turn.isSent then s.pending ++ [c.tFrameTx] else s.pending }
  | .receive c isSent => s.receive t c isSent turn
  | .leave c result => s.leave t c result

def step (s : Port) : PortLabel → Port
  | .arrive i frame =>
    match s.pending[i]? with
    | some request => { s with rx := s.rx ++ [⟨request, frame⟩], pending := s.pending.eraseIdx i }
    | none => s
  | .transfer t c =>
    match s.task t with
    | .idle => s.goto t (.enter c)
    | _ => s
  | .next t turn => s.next t turn

def start : Port := ⟨none, [], fun _ => .idle, none, [], []⟩

end Port

-- ---------------------------------------------------------------------------
-- Whose reply is taken
-- ---------------------------------------------------------------------------

/-- The replies that each exchange is over with: the checksum is right, and the operation
(for a routing transfer the class too) is one that answers such a request. -/
def Caller.Accepts (c : Caller) (f : Frame) : Prop :=
  bccCheck f = 0 ∧
    match c with
    | readGateFrom _ => f.operationID = operationACKNAK ∨ f.operationID = operationResponse
    | setGateAt .. | setVirtualRemoteAt .. =>
      f.operationID = operationACKNAK ∧ firstByte f = ackNakGoodStatus
    | getDetailedStatus _ (.detailedStatus) | getDetailedStatus _ (.statusRelay _) =>
      f.operationID = operationResponse
    | getDetailedStatus multinetAddress .detailedPot =>
      f.operationID = operationResponse ∧ unitTypeOf multinetAddress = temperatureBox
    | transferRemote .. => f.classID = classClu ∧ f.operationID = operationResponse
    | discovery unitType _ => unitType = relayBox

/-- The text came for a request to the same box and for the same function. -/
def Arrival.AnswerTo (a : Arrival) (c : Caller) : Prop :=
  a.request.sequence = c.tFrameTx.sequence ∧ a.request.classID = c.tFrameTx.classID ∧
    a.request.functionID = c.tFrameTx.functionID

/-- The text came for what the caller asked, or is no reply it accepts. -/
def Arrival.Fits (a : Arrival) (c : Caller) : Prop :=
  ∀ f, a.frame = some f → c.Accepts f → a.AnswerTo c

/-- Every reply taken as an answer, or about to be, came for what its caller asked. -/
structure Port.Correlated (s : Port) : Prop where
  taken : ∀ x ∈ s.taken, x.arrival.AnswerTo x.caller
  inHand : ∀ t c a, s.task t = .leave c (some a) → (a.frame.bind c.outcome).isSome → a.AnswerTo c

/-- The last text that a poll finds came for the request that was written last, or that
request's caller does not accept it. -/
def Port.Timely (s : Port) : PortLabel → Prop
  | .next t turn => (∃ c, s.task t = .receive c true) →
      ∀ c a, s.asked = some c → (s.rx.take turn.found).getLast? = some a → a.Fits c
  | _ => True

def Port.waiting (s : Port) (t : Nat) : Option Caller :=
  match s.task t with
  | .send c | .receive c _ => some c
  | _ => none

/-- Nothing that its caller would take for an answer to something else arrives while an
exchange waits, or is left over from before. -/
def Port.Punctual (s : Port) : PortLabel → Prop
  | .arrive i frame => ∀ request, s.pending[i]? = some request →
      ∀ t c, s.waiting t = some c → Arrival.Fits ⟨request, frame⟩ c
  | .next t turn => ∀ c, s.task t = .flush c → turn.flushed = true ∨ ∀ a ∈ s.rx, a.Fits c
  | _ => True

variable {s : Port} {t : Nat} {c : Caller} {turn : Turn} {label : PortLabel} {p : TransferPoint}

theorem Caller.outcome_isSome_iff {f : Frame} : (c.outcome f).isSome ↔ c.Accepts f := by
  rw [outcome.eq_def, Accepts.eq_def]
  by_cases hbcc : bccCheck f = 0
  swap
  · simp [hbcc]
  rw [if_neg (not_not.mpr hbcc)]
  cases c with
  | readGateFrom multinetAddress => grind
  | setGateAt multinetAddress inputAddress value => grind
  | setVirtualRemoteAt multinetAddress inputAddress value => grind
  | getDetailedStatus multinetAddress paramID =>
    cases paramID with
    | detailedStatus => grind
    | statusRelay relayBitPosition => grind
    | detailedPot => grind [isTemperatureBox]
  | transferRemote multinetAddress operationID length data => grind
  | discovery unitType address => grind

theorem Arrival.fits_iff {a : Arrival} :
    a.Fits c ↔ ((a.frame.bind c.outcome).isSome → a.AnswerTo c) := by
  rw [Fits]
  cases a.frame with
  | none => simp
  | some f => simp [Caller.outcome_isSome_iff]

namespace Port

@[simp] theorem goto_task : (s.goto t p).task = Function.update s.task t p := rfl

-- ---------------------------------------------------------------------------
-- One exchange at a time
-- ---------------------------------------------------------------------------

def Inside (s : Port) (t : Nat) : Prop :=
  match s.task t with
  | .idle | .enter _ => False
  | _ => True

/-- Only the task that holds the gate is in an exchange, so what it waits for was
written last. -/
structure Gated (s : Port) : Prop where
  gate : ∀ t, s.Inside t → s.gateTransfer = some t
  asked : ∀ t c, s.task t = .receive c true → s.asked = some c

theorem Inside.of_receive {isSent : Bool} (ht : s.task t = .receive c isSent) : s.Inside t := by
  rw [Inside, ht]
  trivial

theorem Gated.others (h : s.Gated) (ht : s.Inside t) {u : Nat} (hu : u ≠ t) : ¬s.Inside u := by
  intro hinside
  have hgate := (h.gate u hinside).symm.trans (h.gate t ht)
  exact hu (Option.some.inj hgate)

/-- A task goes on while the others are out, or leaves the gate alone. -/
theorem Gated.goto {s' : Port} (h : s.Gated) (htask : s'.task = Function.update s.task t p)
    (hothers : ∀ u, u ≠ t → s.Inside u → s'.gateTransfer = s.gateTransfer ∧ s'.asked = s.asked)
    (hgate : s'.Inside t → s'.gateTransfer = some t)
    (hasked : ∀ c, p = .receive c true → s'.asked = some c) : s'.Gated := by
  have hsame : ∀ u, u ≠ t → s'.task u = s.task u := by
    intro u hu
    rw [htask, Function.update_of_ne hu]
  constructor
  · intro u hinside
    by_cases hu : u = t
    · rw [hu] at hinside ⊢
      exact hgate hinside
    · have hbefore : s.Inside u := by
        rw [Inside, ← hsame u hu]
        exact hinside
      rw [(hothers u hu hbefore).1, h.gate u hbefore]
  · intro u d hd
    by_cases hu : u = t
    · refine hasked d ?_
      rw [← hd, hu, htask, Function.update_self]
    · rw [hsame u hu] at hd
      rw [(hothers u hu (.of_receive hd)).2, h.asked u d hd]

theorem leave_rx {result : Option Arrival} : (s.leave t c result).rx = s.rx := by
  rw [Port.leave.eq_def]
  repeat' split
  all_goals rfl

theorem leave_task {result : Option Arrival} :
    (s.leave t c result).task = Function.update s.task t .idle := by
  rw [Port.leave.eq_def]
  repeat' split
  all_goals rfl

theorem Gated.next (h : s.Gated) : (s.next t turn).Gated := by
  rw [Port.next]
  cases ht : s.task t with
  | idle => exact h
  | enter c =>
    cases hgate : s.gateTransfer with
    | some u => exact h
    | none =>
      refine h.goto rfl ?_ (fun _ => rfl) (by rintro _ ⟨⟩)
      intro u _ hu
      exact absurd ((h.gate u hu).symm.trans hgate) (by simp)
  | flush c =>
    have hin : s.Inside t := by rw [Inside, ht]; trivial
    exact h.goto rfl (fun _ _ _ => ⟨rfl, rfl⟩) (fun _ => h.gate t hin) (by rintro _ ⟨⟩)
  | send c =>
    have hin : s.Inside t := by rw [Inside, ht]; trivial
    refine h.goto rfl (fun u hu hinside => absurd hinside (h.others hin hu))
      (fun _ => h.gate t hin) ?_
    intro d hd
    obtain ⟨rfl, hsent⟩ : c = d ∧ turn.isSent = true := by simpa using hd
    exact if_pos hsent
  | receive c isSent =>
    have hin : s.Inside t := .of_receive ht
    dsimp only
    rw [Port.receive]
    split
    · exact h.goto rfl (fun _ _ _ => ⟨rfl, rfl⟩) (fun _ => h.gate t hin) (by rintro _ ⟨⟩)
    · split
      · exact h.goto rfl (fun _ _ _ => ⟨rfl, rfl⟩) (fun _ => h.gate t hin) (by rintro _ ⟨⟩)
      · exact h
  | leave c result =>
    have hin : s.Inside t := by rw [Inside, ht]; trivial
    refine h.goto leave_task (fun u hu hinside => absurd hinside (h.others hin hu)) ?_
      (by rintro _ ⟨⟩)
    intro hout
    rw [Inside, leave_task, Function.update_self] at hout
    exact hout.elim

theorem Gated.step (h : s.Gated) : (s.step label).Gated := by
  cases label with
  | arrive i frame =>
    rw [Port.step]
    split
    · exact ⟨h.gate, h.asked⟩
    · exact h
  | transfer t c =>
    rw [Port.step]
    split
    · refine h.goto rfl (fun _ _ _ => ⟨rfl, rfl⟩) ?_ (by rintro _ ⟨⟩)
      intro hin
      rw [Inside, goto_task, Function.update_self] at hin
      exact hin.elim
    · exact h
  | next t turn => exact h.next

theorem Correlated.goto (h : s.Correlated)
    (hp : ∀ c a, p = .leave c (some a) → (a.frame.bind c.outcome).isSome → a.AnswerTo c) :
    (s.goto t p).Correlated where
  taken := h.taken
  inHand := by
    refine (Function.forall_update_iff s.task fun _ p =>
      ∀ c a, p = .leave c (some a) → (a.frame.bind c.outcome).isSome → a.AnswerTo c).mpr ⟨hp, ?_⟩
    intro u _
    exact h.inHand u

theorem Correlated.receive_iff {isSent : Bool} (h : s.Correlated) :
    (s.receive t c isSent turn).Correlated ↔
      (isSent = true → ∀ a, (s.rx.take turn.found).getLast? = some a → a.Fits c) := by
  rw [Port.receive]
  cases hlast : (s.rx.take turn.found).getLast? with
  | none =>
    refine iff_of_true ?_ (by rintro _ _ ⟨⟩)
    dsimp only
    split
    · exact h.goto (by rintro _ _ ⟨⟩)
    · exact h
  | some a =>
    constructor
    · rintro hnext rfl b ⟨⟩
      refine Arrival.fits_iff.mpr (hnext.inHand t c a ?_)
      simp [Port.goto]
    · intro hfits
      have hrx : Correlated { s with rx := s.rx.drop turn.found } := ⟨h.taken, h.inHand⟩
      refine hrx.goto ?_
      cases isSent with
      | true =>
        rintro _ _ ⟨⟩
        exact Arrival.fits_iff.mp (hfits rfl a rfl)
      | false => rintro _ _ ⟨⟩

theorem Correlated.leave {result : Option Arrival} (h : s.Correlated)
    (ht : s.task t = .leave c result) : (s.leave t c result).Correlated := by
  have hleft : Correlated ({ s with gateTransfer := none }.goto t .idle) :=
    Correlated.goto ⟨h.taken, h.inHand⟩ (by rintro _ _ ⟨⟩)
  cases result with
  | none => exact hleft
  | some a =>
    rw [Port.leave]
    cases houtcome : a.frame.bind c.outcome with
    | none => exact hleft
    | some outcome =>
      have hvalid := h.inHand t c a ht (by rw [houtcome]; rfl)
      exact ⟨List.forall_mem_append.mpr ⟨h.taken, List.forall_mem_singleton.mpr hvalid⟩,
        hleft.inHand⟩

theorem timely_of_ne (h : ∀ c, s.task t ≠ .receive c true) : s.Timely (.next t turn) := by
  rintro ⟨c, hc⟩
  exact absurd hc (h c)

theorem Correlated.step_iff (h : s.Correlated) (hgated : s.Gated) :
    (s.step label).Correlated ↔ s.Timely label := by
  cases label with
  | arrive i frame =>
    refine iff_of_true ?_ trivial
    rw [step]
    split
    · exact ⟨h.taken, h.inHand⟩
    · exact h
  | transfer t c =>
    refine iff_of_true ?_ trivial
    rw [step]
    split
    · exact h.goto (by rintro _ _ ⟨⟩)
    · exact h
  | next t turn =>
    rw [step, next]
    cases ht : s.task t with
    | receive c isSent =>
      rw [h.receive_iff]
      constructor
      · rintro hfits ⟨d, hd⟩ e a he
        obtain ⟨rfl, rfl⟩ : c = d ∧ isSent = true := by simpa [ht] using hd
        obtain rfl : c = e := Option.some.inj ((hgated.asked t c ht).symm.trans he)
        exact hfits rfl a
      · rintro htimely rfl a
        exact htimely ⟨c, ht⟩ c a (hgated.asked t c ht)
    | idle => exact iff_of_true h (timely_of_ne (by simp [ht]))
    | enter c =>
      refine iff_of_true ?_ (timely_of_ne (by simp [ht]))
      dsimp only
      split
      · exact h
      · have hgoto : (s.goto t (.flush c)).Correlated := h.goto (by rintro _ _ ⟨⟩)
        exact ⟨hgoto.taken, hgoto.inHand⟩
    | flush c =>
      have hgoto : (s.goto t (.send c)).Correlated := h.goto (by rintro _ _ ⟨⟩)
      exact iff_of_true ⟨hgoto.taken, hgoto.inHand⟩ (timely_of_ne (by simp [ht]))
    | send c =>
      have hgoto : (s.goto t (.receive c turn.isSent)).Correlated := h.goto (by rintro _ _ ⟨⟩)
      exact iff_of_true ⟨hgoto.taken, hgoto.inHand⟩ (timely_of_ne (by simp [ht]))
    | leave c result =>
      exact iff_of_true (h.leave ht) (timely_of_ne (by simp [ht]))

-- ---------------------------------------------------------------------------
-- What arrives while an exchange waits
-- ---------------------------------------------------------------------------

def Clear (s : Port) : Prop := ∀ t c, s.waiting t = some c → ∀ a ∈ s.rx, a.Fits c

theorem Clear.goto {s' : Port} (h : s.Clear) (htask : s'.task = Function.update s.task t p)
    (hrx : ∀ a ∈ s'.rx, a ∈ s.rx) (hp : ∀ c, s'.waiting t = some c → ∀ a ∈ s'.rx, a.Fits c) :
    s'.Clear := by
  intro u c hu a ha
  by_cases hut : u = t
  · subst hut
    exact hp c hu a ha
  · refine h u c ?_ a (hrx a ha)
    rw [waiting, htask, Function.update_of_ne hut] at hu
    exact hu

theorem Clear.next (h : s.Clear) (hpunctual : s.Punctual (.next t turn)) :
    (s.next t turn).Clear := by
  rw [Port.next]
  cases ht : s.task t with
  | idle => exact h
  | enter c =>
    dsimp only
    split
    · exact h
    · exact h.goto rfl (fun _ ha => ha) (by simp [waiting])
  | flush c =>
    have hrx : ∀ a ∈ (if turn.flushed then [] else s.rx), a ∈ s.rx := by
      intro a ha
      split at ha
      · cases ha
      · exact ha
    refine h.goto rfl hrx ?_
    intro d hd a ha
    obtain rfl : c = d := by simpa [waiting] using hd
    rcases hpunctual c ht with hflushed | hfits
    · rw [hflushed] at ha
      cases ha
    · exact hfits a (hrx a ha)
  | send c =>
    refine h.goto rfl (fun _ ha => ha) ?_
    intro d hd
    obtain rfl : c = d := by simpa [waiting] using hd
    exact h t c (by rw [waiting, ht])
  | receive c isSent =>
    dsimp only
    rw [Port.receive]
    split
    · exact h.goto rfl (fun _ ha => List.mem_of_mem_drop ha) (by simp [waiting])
    · split
      · exact h.goto rfl (fun _ ha => ha) (by simp [waiting])
      · exact h
  | leave c result =>
    refine h.goto leave_task (fun a ha => leave_rx ▸ ha) ?_
    rw [waiting, leave_task, Function.update_self]
    rintro _ ⟨⟩

theorem Clear.step (h : s.Clear) (hgated : s.Gated) (hpunctual : s.Punctual label) :
    (s.step label).Clear ∧ s.Timely label := by
  cases label with
  | arrive i frame =>
    refine ⟨?_, trivial⟩
    rw [Port.step]
    split
    case h_1 request hrequest =>
      intro t c ht a ha
      rcases List.mem_append.mp ha with ha | ha
      · exact h t c ht a ha
      · obtain rfl := List.mem_singleton.mp ha
        exact hpunctual request hrequest t c ht
    case h_2 => exact h
  | transfer t c =>
    refine ⟨?_, trivial⟩
    rw [Port.step]
    split
    · exact h.goto rfl (fun _ ha => ha) (by simp [waiting])
    · exact h
  | next t turn =>
    refine ⟨h.next hpunctual, ?_⟩
    rintro ⟨c, ht⟩ d a hd ha
    obtain rfl : c = d := Option.some.inj ((hgated.asked t c ht).symm.trans hd)
    exact h t c (by rw [waiting, ht]) a (List.mem_of_mem_take (List.mem_of_getLast? ha))

end Port

theorem Port.gated_start : Port.Gated .start := ⟨fun _ h => h.elim, by rintro _ _ ⟨⟩⟩

/-- In every run, every reply that is taken as an answer came for the box and the function
its caller asked exactly when, of what each poll finds, the last text came for the request
written last or is no reply to it; and it did if nothing else arrives for the caller to take
while it waits. -/
theorem replies_correlated_iff (labels : List PortLabel) :
    (Always Port.step Port.Correlated .start labels ↔
        Along Port.step Port.Timely .start labels) ∧
      (Along Port.step Port.Punctual .start labels →
        Along Port.step Port.Timely .start labels) := by
  constructor
  · exact always_iff_along_of_inv Port.gated_start (fun _ _ h => h.step)
      ⟨by rintro _ ⟨⟩, by rintro _ _ _ ⟨⟩⟩ fun _ _ hgated h => h.step_iff hgated
  · refine fun h => h.imp (I := fun s => s.Clear ∧ s.Gated)
      ⟨by rintro _ _ ⟨⟩, Port.gated_start⟩ ?_
    rintro s label ⟨hclear, hgated⟩ hpunctual
    obtain ⟨hnext, htimely⟩ := hclear.step hgated hpunctual
    exact ⟨⟨hnext, hgated.step⟩, htimely⟩

/-- Box 0x41 sends its gate bitmap after the exchange with it has timed out, while box
0x42 is asked for its own. -/
def lateRun : List PortLabel :=
  let next (found : Nat) : PortLabel := .next 0 ⟨true, true, found, true⟩
  let bitmap := bccFill (requestFrame classClu operationResponse functionCluBitMap 0x41
    (List.replicate 22 0xFF))
  [.transfer 0 (.readGateFrom 0x41), next 0, next 0, next 0, next 0, next 0,
    .transfer 0 (.readGateFrom 0x42), next 0, next 0, next 0, .arrive 0 (some bitmap), next 1,
    next 0]

theorem late_reply_taken :
    ¬∀ labels : List PortLabel, Always Port.step Port.Correlated .start labels := by
  intro h
  have htaken := (h lateRun lateRun (List.prefix_refl _)).taken
  have hforeign : ∃ x ∈ (exec Port.step .start lateRun).taken,
      x.arrival.request.sequence ≠ x.caller.tFrameTx.sequence := by decide
  obtain ⟨x, hx, hne⟩ := hforeign
  exact hne (htaken x hx).1

end SystemMaster.Multinet
