import SystemMaster.Forte.MessageQueue
import SystemMaster.Interfaces.ReadErrors
import SystemMaster.Alto.Corruption
import SystemMaster.Multinet.ReplyCorrelation

/-!
# Forwarding of the Forte manager

A frame of the Forte Manager goes out on the serial port of an amplifier or of the
Multinet boxes, and what comes back is sent to the port of the Forte Manager. A single
reply is decoded and written again as text; for the tuning database up to three messages
are sent as they have been read.
-/

namespace SystemMaster.Forte

open Runs Alto Interfaces
open Multinet (classDiagnostic unitTypeOf isRelayBox isTemperatureBox)

def ifMultinet : Nat := 6
def altoNetAmp : Nat := 1
def functionTuningDatabaseInfo : UInt8 := 0x74
def functionTuningDBRecordInfo : UInt8 := 0x75

/-- The sizes of `rxbuff`, `txbuff` and `rxbuff3`. -/
def buffSize : Nat := 70
def rxbuff3Size : Nat := 3 * 70

inductive Reply where
  | altoNet
  | altoMultinet
  | threeMessages
  deriving DecidableEq, Repr

def Reply.transaction : Reply → Transaction
  | .altoNet =>
    { transferType := .other, rxProtocol := .altoNet, writeCount := 70, readCount := 64,
      readTimeout := 50 }
  | .altoMultinet =>
    { transferType := .other, rxProtocol := .altoMultinet, writeCount := 70, readCount := 64,
      readTimeout := 50 }
  | .threeMessages =>
    { transferType := .other, rxProtocol := .alto3Messages, writeCount := 70, readCount := 210,
      readTimeout := 200 }

structure Request where
  interface : Nat
  writeBuf : List UInt8
  reply : Reply

def asksForTuning (f : Frame) : Bool :=
  f.classID = classDiagnostic &&
    (f.functionID = functionTuningDatabaseInfo || f.functionID = functionTuningDBRecordInfo)

/-- The request that a frame of the Forte Manager makes; `ifIndex` is its own port. -/
def requestOf (ifIndex : Nat) (f : Frame) : Option Request :=
  if bccCheck f = 0 then
    if unitTypeOf f.sequence = altoNetAmp then
      let port := (f.sequence &&& 0x1F).toNat
      if port < ifCount ∧ port ≠ ifIndex then
        some ⟨port, createASCII f, if asksForTuning f then .threeMessages else .altoNet⟩
      else none
    else if isRelayBox f.sequence || isTemperatureBox f.sequence then
      if ifMultinet < ifCount ∧ ifMultinet ≠ ifIndex then
        some ⟨ifMultinet, createASCII f, .altoMultinet⟩
      else none
    else none
  else none

/-- An exchange: how much `xIFUART_sendData` has written, and what the receive routine
finds. -/
structure Exchange where
  written : UInt32
  port : Port
  turns : List Turn

def Exchange.transfer (e : Exchange) (reply : Reply) : Transfer :=
  exec Transfer.step (.start reply.transaction e.written e.port) e.turns

/-- A call of `xIFUART_sendData` for the port of the Forte Manager, with the size of the
buffer it is given. -/
structure Send where
  buffer : Memory UInt8
  size : Nat
  length : Nat

def Send.bytes (d : Send) : List UInt8 := d.buffer.read 0 d.length

def replyText (uninit : Nat → UInt8) (rxbuff : Memory UInt8) : List UInt8 :=
  createASCII (convertASCIIToBinary uninit rxbuff).2

/-- What is sent when the transfer is over. The three messages are sent whatever the
transfer has returned. -/
def forwarded (uninit : Nat → UInt8) (txbuff : Memory UInt8) (reply : Reply) (s : Transfer) :
    Option Send :=
  if s.running then none
  else
    match reply with
    | .threeMessages => some ⟨s.readBuf, rxbuff3Size, s.readCount⟩
    | .altoNet | .altoMultinet =>
      if s.ret then some ⟨txbuff.write 0 (replyText uninit s.readBuf), buffSize, buffSize⟩
      else none

/-- `vForteManagerDevice_processAppRXMsgEvent`, as far as it has got in the exchange.
`uninitTx` and `uninitRx` hold the stray locals of its two conversions. -/
def processAppRXMsgEvent (ifIndex : Nat) (uninitTx uninitRx : Nat → UInt8)
    (txbuff pdu : Memory UInt8) (e : Exchange) : Option Send :=
  match requestOf ifIndex (convertASCIIToBinary uninitTx pdu).2 with
  | some r => forwarded uninitRx txbuff r.reply (e.transfer r.reply)
  | none => none

-- ---------------------------------------------------------------------------
-- What should be sent
-- ---------------------------------------------------------------------------

def Exchange.received (e : Exchange) (reply : Reply) : List UInt8 :=
  match (Transfer.start reply.transaction e.written e.port).call with
  | some c => c.received e.turns
  | none => []

/-- A single reply is sent where the transfer has succeeded: the text of the frame that it
has found in what was read. -/
def ExactSingle (s : Transfer) (received : List UInt8) (sent : Option Send) : Prop :=
  if s.ret then
    ∃ d body, sent = some d ∧ s.readBuf.read 0 serialFrameSize = body ∧
      startFrame ++ body ++ [cr] <:+: received.map toCapital ∧
      d.bytes = startFrame ++ body ++ [cr, lf] ∧ d.length ≤ d.size
  else sent = none

/-- Of three messages all is sent that was read. -/
def ExactThree (received : List UInt8) (sent : Option Send) : Prop :=
  ∃ d, sent = some d ∧ d.bytes = received ∧ d.length ≤ d.size

/-- What should have been sent back, which is nothing while the exchange goes on. -/
def Exact (e : Exchange) (reply : Reply) (sent : Option Send) : Prop :=
  if (e.transfer reply).running then sent = none
  else
    match reply with
    | .threeMessages => ExactThree (e.received reply) sent
    | .altoNet | .altoMultinet => ExactSingle (e.transfer reply) (e.received reply) sent

def ExactFor (e : Exchange) (r : Option Request) (sent : Option Send) : Prop :=
  match r with
  | some r => Exact e r.reply sent
  | none => sent = none

def IsDigit (c : UInt8) : Prop :=
  '0'.toUInt8 ≤ c ∧ c ≤ '9'.toUInt8 ∨ 'A'.toUInt8 ≤ c ∧ c ≤ 'F'.toUInt8

/-- The frame of a single reply has digits only, and the three messages are read without
an error. -/
def Sound (e : Exchange) (reply : Reply) : Prop :=
  match reply with
  | .threeMessages => e.port.ready = true → ∀ t ∈ e.turns.head?, t.uartRead rxbuff3Size ≠ none
  | .altoNet | .altoMultinet =>
    (e.transfer reply).running = false → (e.transfer reply).ret = true →
      ∀ c ∈ (e.transfer reply).readBuf.read 0 serialFrameSize, IsDigit c

instance : DecidablePred IsDigit := fun _ => inferInstanceAs (Decidable (_ ∨ _))

variable {m : Memory UInt8} {uninit : Nat → UInt8} {hi lo u v : UInt8} {e : Exchange}
  {reply : Reply} {c : Call} {t : Turn} {turns : List Turn} {txbuff : Memory UInt8}

theorem digit_nibble :
    ∀ c : UInt8, IsDigit c → asciiToChar 0 c < 16 ∧ hex2Ascii (asciiToChar 0 c) = c :=
  forall_byte (by decide +kernel)

theorem byteASCII_of_digits (hhi : IsDigit hi) (hlo : IsDigit lo) :
    byteASCII (asciiToChar u lo ||| (asciiToChar v hi <<< 4)) = [hi, lo] := by
  obtain ⟨hlt, hlow⟩ := digit_nibble lo hlo
  obtain ⟨hlt', hhigh⟩ := digit_nibble hi hhi
  obtain ⟨hand, hshift⟩ := nibbles_or hlt hlt'
  rw [asciiToChar_of_digit u hlo, asciiToChar_of_digit v hhi, byteASCII, hshift, hand, hlow, hhigh]

theorem read_pairs (m : Memory UInt8) (n : Nat) :
    m.read 0 (2 * n) = (List.range n).flatMap fun k => [m (2 * k), m (2 * k + 1)] := by
  induction n with
  | zero => rfl
  | succ n ih =>
    rw [Nat.mul_succ, Memory.read_succ, Memory.read_succ, ih, List.range_succ, List.flatMap_append]
    simp

theorem bodyASCII_converted_iff :
    bodyASCII (convertASCIIToBinary uninit m).2 = m.read 0 serialFrameSize ↔
      ∀ c ∈ m.read 0 serialFrameSize, IsDigit c := by
  constructor
  · intro h c hc
    rw [← h] at hc
    exact bodyASCII_digit hc
  · intro h
    have hread : m.read 0 serialFrameSize = _ := read_pairs m 32
    rw [bodyASCII, bytes_convertASCIIToBinary, List.flatMap_map, hread]
    refine List.flatMap_congr fun k hk => ?_
    have hdigit : ∀ i < 2, IsDigit (m (2 * k + i)) := fun i hi => by
      refine h _ (List.mem_map.mpr ⟨2 * k + i, ?_, by rw [Nat.zero_add]⟩)
      have hlt := List.mem_range.mp hk
      rw [List.mem_range, serialFrameSize]
      omega
    exact byteASCII_of_digits (hdigit 0 Nat.two_pos) (hdigit 1 Nat.one_lt_two)

theorem run_of_ended (h : c.running = false) (turns : List Turn) :
    exec Call.step c turns = c ∧ c.received turns = [] := by
  induction turns with
  | nil => exact ⟨rfl, rfl⟩
  | cons t turns ih =>
    rw [exec_cons, Call.received, Call.step_of_ended h, Call.taken_of_ended h]
    exact ih

def Reply.call (reply : Reply) (port : Port) : Call :=
  match reply with
  | .threeMessages => .simple (.start port 210)
  | .altoNet | .altoMultinet => .alto (.start port 50)

theorem start_call : (Transfer.start reply.transaction e.written e.port).call =
    some (reply.call e.port) := by
  cases reply <;> rfl

theorem transfer_eq : e.transfer reply =
    ⟨reply.transaction, e.written, e.port, some (exec Call.step (reply.call e.port) e.turns)⟩ := by
  have hstart : Transfer.start reply.transaction e.written e.port =
      ⟨reply.transaction, e.written, e.port, some (reply.call e.port)⟩ :=
    congrArg (Transfer.mk reply.transaction e.written e.port) start_call
  rw [Exchange.transfer, hstart]
  exact exec_map (f := fun c => Transfer.mk reply.transaction e.written e.port (some c))
    fun _ _ => rfl

theorem received_eq : e.received reply = (reply.call e.port).received e.turns := by
  rw [Exchange.received, start_call]

theorem honest_run {s : AltoRead} {p64Buffer : Memory UInt8} {seen : List UInt8}
    (hbounded : s.reception.Bounded) (hhonest : s.reception.Honest p64Buffer seen)
    (turns : List Turn) :
    (exec AltoRead.step s turns).reception.Honest p64Buffer
      (seen ++ ((Call.alto s).received turns).map toCapital) := by
  induction turns generalizing s seen with
  | nil =>
    rw [Call.received, List.map_nil, List.append_nil]
    exact hhonest
  | cons t turns ih =>
    obtain ⟨hbounded', hhonest'⟩ := AltoRead.honest_step (t := t) hbounded hhonest
    rw [exec_cons, Call.received, List.map_append, ← List.append_assoc]
    exact ih hbounded' hhonest'

-- ---------------------------------------------------------------------------
-- Replies
-- ---------------------------------------------------------------------------

theorem run_of_step_ended (h : (c.step t).running = false) (turns : List Turn) :
    exec Call.step c (t :: turns) = c.step t ∧ c.received (t :: turns) = c.taken t := by
  obtain ⟨hexec, hreceived⟩ := run_of_ended h turns
  rw [exec_cons, Call.received, hexec, hreceived, List.append_nil]
  exact ⟨rfl, rfl⟩

theorem exactThree_iff {s : Transfer} {xs : List UInt8} :
    ExactThree xs (some ⟨s.readBuf, rxbuff3Size, s.readCount⟩) ↔
      s.readBuf.read 0 s.readCount = xs ∧ s.readCount ≤ rxbuff3Size := by
  constructor
  · rintro ⟨d, hsent, hbytes, hsize⟩
    obtain rfl := Option.some.inj hsent
    exact ⟨hbytes, hsize⟩
  · exact fun h => ⟨_, rfl, h⟩

theorem three_step (hready : e.port.ready = true) :
    (Reply.threeMessages.call e.port).step t = .simple (SimpleRead.mk 210
        (status (t.uartRead 210)) (ReadBuf.take ⟨e.port.readBuf, 0⟩ 0 (t.uartRead 210)) false
        .start) ∧
      (Reply.threeMessages.call e.port).taken t = (t.uartRead 210).getD [] := by
  constructor
  · exact congrArg Call.simple (if_pos hready)
  · have hreads : (Reply.threeMessages.call e.port).reads t.dataAvailable = some 210 :=
      if_pos hready
    rw [Call.taken, hreads]
    rfl

theorem read_sent_iff {s : Transfer} (hcall : s.call = some (.simple (SimpleRead.mk 210
      (status (t.uartRead 210)) (ReadBuf.take ⟨m, 0⟩ 0 (t.uartRead 210)) false .start))) :
    s.readBuf.read 0 s.readCount = (t.uartRead 210).getD [] ∧ s.readCount ≤ rxbuff3Size ↔
      t.uartRead 210 ≠ none := by
  rw [Transfer.readBuf, Transfer.readCount, hcall]
  simp only [Call.readBuf, Call.result, rxbuff3Size]
  cases hread : t.uartRead 210 with
  | none => exact iff_of_false (fun h => absurd h.2 (by decide)) fun h => h rfl
  | some xs =>
    have hfits := t.fits _ _ hread
    have hcount : toUnsigned (status (some xs)) = xs.length := toUnsigned_natCast (by omega)
    rw [hcount]
    exact iff_of_true ⟨Memory.read_write m 0 xs, hfits⟩ (Option.some_ne_none xs)

/-- Three messages are one read, whose error becomes the length that is sent. -/
theorem three_exact_iff :
    Exact e .threeMessages (forwarded uninit txbuff .threeMessages (e.transfer .threeMessages)) ↔
      Sound e .threeMessages := by
  rw [Exact, forwarded, Sound, transfer_eq, received_eq]
  cases hready : e.port.ready with
  | false =>
    have hended : (Reply.threeMessages.call e.port).running = false := hready
    obtain ⟨hexec, hreceived⟩ := run_of_ended hended e.turns
    rw [hexec, hreceived, Transfer.running, Option.any_some, hended]
    refine iff_of_true ?_ fun h => by cases h
    exact exactThree_iff.mpr ⟨rfl, Nat.zero_le _⟩
  | true =>
    cases e.turns with
    | nil =>
      have hrun : (Reply.threeMessages.call e.port).running = true := hready
      rw [exec_nil, Transfer.running, Option.any_some, hrun]
      exact iff_of_true rfl fun _ _ h => absurd h (Option.not_mem_none _)
    | cons t turns =>
      obtain ⟨hstep, htaken⟩ := three_step (t := t) hready
      have hended : ((Reply.threeMessages.call e.port).step t).running = false := by
        rw [hstep]
        rfl
      obtain ⟨hexec, hreceived⟩ := run_of_step_ended hended turns
      rw [hexec, hreceived, Transfer.running, Option.any_some, hended, htaken, hstep]
      refine exactThree_iff.trans ((read_sent_iff rfl).trans ?_)
      simp [rxbuff3Size]

/-- A transfer for a single reply that succeeds has found a frame in what was read. -/
theorem single_found (hcall : reply.call e.port = .alto (.start e.port 50))
    (hcount : reply.transaction.readCount = 64) (hret : (e.transfer reply).ret = true) :
    startFrame ++ (e.transfer reply).readBuf.read 0 serialFrameSize ++ [cr] <:+:
      (e.received reply).map toCapital := by
  have hexec : exec Call.step (reply.call e.port) e.turns =
      .alto (exec AltoRead.step (.start e.port 50) e.turns) := by
    rw [hcall]
    exact exec_map fun _ _ => rfl
  have hhonest := honest_run (s := .start e.port 50) .start .start e.turns
  rw [← hcall, List.nil_append, ← received_eq] at hhonest
  rw [transfer_eq, hexec] at hret ⊢
  generalize exec AltoRead.step (.start e.port 50) e.turns = s at hhonest hret ⊢
  have hle := hhonest.retValue_le
  have hsize : serialFrameSize = 64 := rfl
  have hvalue : s.reception.retValue = serialFrameSize := by
    have hread := Transfer.readCount_of_ret rfl hret
    have hresult : toUnsigned s.reception.retValue = s.reception.retValue :=
      toUnsigned_natCast (by omega)
    exact hresult.symm.trans (hread.trans (congrArg UInt32.toNat hcount))
  have hframe : s.reception.isFrame = true := by
    by_contra hnone
    have hzero := hhonest.silent (Bool.eq_false_iff.mpr hnone)
    omega
  obtain ⟨body, _, hin, hbody⟩ := hhonest.delivers hframe
  rw [hvalue] at hbody
  exact hbody ▸ hin

theorem createASCII_inj_iff {f : Frame} {body : List UInt8} :
    createASCII f = startFrame ++ body ++ [cr, lf] ↔ bodyASCII f = body := by
  rw [createASCII, List.append_left_inj, List.append_right_inj]

/-- A single reply is sent as it was received where it has digits only. -/
theorem single_exact_iff {s : Transfer} {received : List UInt8}
    (hfound : s.ret = true →
      startFrame ++ s.readBuf.read 0 serialFrameSize ++ [cr] <:+: received.map toCapital) :
    ExactSingle s received
        (if s.ret then some ⟨txbuff.write 0 (replyText uninit s.readBuf), buffSize, buffSize⟩
        else none) ↔
      (s.ret = true → ∀ c ∈ s.readBuf.read 0 serialFrameSize, IsDigit c) := by
  rw [ExactSingle]
  cases hret : s.ret with
  | false => exact iff_of_true rfl fun h => by cases h
  | true =>
    rw [if_pos rfl, if_pos rfl]
    have hlength : (replyText uninit s.readBuf).length = buffSize := by
      simp [replyText, createASCII, startFrame, buffSize]
    have hread : (txbuff.write 0 (replyText uninit s.readBuf)).read 0 buffSize =
        replyText uninit s.readBuf := hlength ▸ Memory.read_write txbuff 0 _
    refine Iff.trans ?_ (forall_prop_of_true rfl).symm
    rw [← @bodyASCII_converted_iff s.readBuf uninit, ← createASCII_inj_iff]
    constructor
    · rintro ⟨d, body, hsent, rfl, _, hbytes, _⟩
      obtain rfl := Option.some.inj hsent
      exact hread.symm.trans hbytes
    · exact fun htext => ⟨_, _, rfl, rfl, hfound hret, hread.trans htext, le_rfl⟩

theorem reply_exact_iff :
    Exact e reply (forwarded uninit txbuff reply (e.transfer reply)) ↔ Sound e reply := by
  cases reply with
  | threeMessages => exact three_exact_iff
  | altoNet | altoMultinet =>
    rw [Exact, forwarded, Sound]
    split
    case isTrue hrun => exact iff_of_true rfl fun hended => absurd (hrun.symm.trans hended) (by simp)
    case isFalse hrun =>
      refine Iff.trans ?_ (forall_prop_of_true (Bool.eq_false_iff.mpr hrun)).symm
      exact single_exact_iff (single_found rfl rfl)

/-- What is sent back to the Forte Manager is what the device has sent, unless a single
reply has a character that is no digit or the read of three messages fails. -/
theorem forwarding_exact_iff (ifIndex : Nat) (uninitTx uninitRx : Nat → UInt8)
    (txbuff pdu : Memory UInt8) (e : Exchange) :
    ExactFor e (requestOf ifIndex (convertASCIIToBinary uninitTx pdu).2)
        (processAppRXMsgEvent ifIndex uninitTx uninitRx txbuff pdu e) ↔
      ∀ r ∈ requestOf ifIndex (convertASCIIToBinary uninitTx pdu).2, Sound e r.reply := by
  rw [processAppRXMsgEvent]
  cases requestOf ifIndex (convertASCIIToBinary uninitTx pdu).2 with
  | none => exact iff_of_true rfl fun r h => absurd h (Option.not_mem_none r)
  | some r =>
    simp only [Option.mem_some_iff, forall_eq']
    exact reply_exact_iff

def tuningFrame : Frame :=
  bccFill ⟨classDiagnostic, 0x01, functionTuningDatabaseInfo, 0x20, 0,
    Vector.replicate dataPayloadSize 0, 0⟩

/-- The −1 of a failed read becomes the length that is sent. -/
theorem failed_read_sent :
    ¬∀ ifIndex uninitTx uninitRx txbuff pdu e,
      ExactFor e (requestOf ifIndex (convertASCIIToBinary uninitTx pdu).2)
        (processAppRXMsgEvent ifIndex uninitTx uninitRx txbuff pdu e) := by
  intro h
  let failing : Turn := ⟨⟨0, fun _ => none⟩, by simp⟩
  let port : Port := ⟨true, true, fun _ => none, fun _ => 0, 0, 0⟩
  have hexact := h 7 (fun _ => 0) (fun _ => 0) (fun _ => 0)
    (Memory.write (fun _ => 0) 0 (bodyASCII tuningFrame)) ⟨70, port, [failing]⟩
  have hrequest : requestOf 7 tuningFrame =
      some ⟨0, createASCII tuningFrame, .threeMessages⟩ := rfl
  rw [processAppRXMsgEvent, convertASCIIToBinary_bodyASCII, hrequest] at hexact
  exact three_exact_iff.mp hexact rfl failing rfl rfl

end SystemMaster.Forte
