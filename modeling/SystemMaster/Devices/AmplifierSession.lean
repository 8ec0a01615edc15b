import SystemMaster.Alto.FirstFrame
import SystemMaster.Alto.RoundTrip
import SystemMaster.Alto.Safety
import SystemMaster.Devices.AltoRequests
import SystemMaster.Library.Stations
import SystemMaster.Tcp.Commands
import SystemMaster.Tcp.Delivery

/-!
# Clients and their amplifiers

The workers of the clients post commands to the amplifiers, each of which has a task that takes
them from its queue, asks the unit over its serial port and posts an answer to the controller.
The controller's task sends the client a frame for it. All of these run side by side.
-/

namespace SystemMaster.Devices

open Alto LittleEndian Runs Search Stations Tcp.Device
open Multinet hiding Answer Msg Sent

-- ---------------------------------------------------------------------------
-- Commands
-- ---------------------------------------------------------------------------

/-- The commands of the client that an amplifier is asked by. -/
inductive AmpCommand where
  | amplifier (f : AmplifierFunction) (op : Operation)
  | headphone (f : HeadphoneFunction) (op : Operation)
  | directCommand1
  deriving DecidableEq

def amplifierFunctionID : AmplifierFunction → UInt8
  | .inputSelect => functionInputSelect
  | .volume => functionVolume
  | .bass => functionBass
  | .treble => functionTreble
  | .mute => functionMute
  | .compressor => functionCompressor
  | .loudness => functionLoudness

def headphoneFunctionID : HeadphoneFunction → UInt8
  | .inputSelect => functionInputSelect
  | .volume => functionVolume
  | .mute => functionMute

namespace AmpCommand

def command : AmpCommand → Command
  | .amplifier f op => .altoAmp f op
  | .headphone f op => .altoAmpHP f op
  | .directCommand1 => .altoAmpDirectCommand1

def dataSize : AmpCommand → Nat
  | .amplifier _ .get => 0
  | .amplifier _ .set => Tcp.zoneVolumeDataSize
  | .headphone _ .get => 1
  | .headphone _ .set => Tcp.headphoneDataSize
  | .directCommand1 => Tcp.directCommandDataSize

def frame (data : List UInt8) : AmpCommand → Frame
  | .amplifier f .get => ampFrame classAmplifier operationGet (amplifierFunctionID f) []
  | .amplifier f .set => ampFrame classAmplifier operationSet (amplifierFunctionID f) data
  | .headphone f .get => ampFrame classHeadphone operationGet (headphoneFunctionID f) data
  | .headphone f .set => ampFrame classHeadphone operationSet (headphoneFunctionID f) data
  | .directCommand1 => directCommandFrame (Memory.write (fun _ => 0) 0 data)

def reply (f : Frame) : AmpCommand → List UInt8
  | .amplifier _ .get | .headphone _ .get => f.data.toList.take 2
  | .amplifier _ .set | .headphone _ .set => f.data.toList.take 1
  | .directCommand1 => f.bytes

end AmpCommand

/-- A command that was posted to an amplifier: the arguments of `vDevice_enqueueCharDataMsg`
that come from the client, and the memory of the message. -/
structure Ask where
  command : AmpCommand
  clientfd : Int
  data : List UInt8
  heap : Memory UInt8
  length_eq : data.length = command.dataSize

def Ask.msg (a : Ask) : Msg :=
  charDataMsg a.heap .serviceWrite a.clientfd a.command.command.request.svcUUID
    a.command.command.request.paramID Tcp.tcpRCBinDeviceID a.command.command.request.retSvcUUID
    a.command.command.request.retParamID a.data

def Ask.frame (a : Ask) : Frame := a.command.frame a.data

/-- `TCPBin_ALTOAmpInputSelectGet` and the other builders of the table: the message for the
device whose id the payload begins with. -/
def AmpCommand.ask (c : AmpCommand) (clientfd : Int) (payload heap : Memory UInt8) : Ask where
  command := c
  clientfd := clientfd
  data := payload.read 4 c.dataSize
  heap := heap
  length_eq := Memory.read_length ..

-- ---------------------------------------------------------------------------
-- Exchanges
-- ---------------------------------------------------------------------------

/-- `readTimeout` and `writeCount` of the amplifier's transactions. -/
def ampReadTimeout : Nat := 30
def ampWriteCount : UInt32 := 70

/-- `xIFUART_sendData`: the bytes that go out on the line, and what it returns. `UART_write`
takes so many of the bytes, or answers -1. -/
def sendData (opened pend : Bool) (uartWrite : Option Nat) (pStr : List UInt8) :
    List UInt8 × UInt32 :=
  if opened ∧ pend then
    match uartWrite with
    | some n => (pStr.take n, UInt32.ofNat (pStr.take n).length)
    | none => ([], -1)
  else ([], 0)

/-- An exchange over the serial port: the port and what `UART_write` answers when the text is
to be sent; then the port again, the stray locals of the conversion, and the polls until the
receiver returns. -/
structure Exchange where
  sendOpened : Bool
  sendPend : Bool
  uartWrite : Option Nat
  opened : Bool
  pend : Bool
  rxbuff : Memory UInt8
  uninit : Nat → UInt8
  polls : List Poll
  reception : Reception
  exact : ∀ poll ∈ polls, poll.Exact
  returned : receiveALTOFrame opened pend rxbuff ampReadTimeout polls = some (.ok reception)

def Exchange.sendData (e : Exchange) (tFrameTx : Frame) : List UInt8 × UInt32 :=
  Devices.sendData e.sendOpened e.sendPend e.uartWrite (createASCII tFrameTx)

def Exchange.transfer (e : Exchange) : Transfer := fun tFrameTx =>
  if (e.sendData tFrameTx).2 = ampWriteCount ∧ e.reception.retValue = serialFrameSize then
    some (convertASCIIToBinary e.uninit e.reception.p64Buffer).2
  else none

/-- The port is open and takes all of a text. -/
structure Exchange.Takes (e : Exchange) : Prop where
  ready : e.sendOpened ∧ e.sendPend
  room : ∃ n, e.uartWrite = some n ∧ 70 ≤ n

/-- The port takes the text for the unit, and the unit's comes after noise that has no prefix,
in time. -/
structure Exchange.Brings (e : Exchange) (f : Frame) : Prop where
  takes : e.Takes
  ready : e.opened ∧ e.pend
  noise : ∃ noise, delivered e.polls = noise ++ createASCII (bccFill f) ∧
    find startFrame ((delivered e.polls).map toCapital) = some noise.length
  lasts : Lasts ampReadTimeout e.polls

/-- A frame with its checksum right comes as a text of 64 characters between a prefix and a
carriage return. -/
def Exchange.Hears (e : Exchange) (f : Frame) : Prop :=
  bccCheck f = 0 ∧ ∃ body, body.length = serialFrameSize ∧ cr ∉ body ∧
    startFrame ++ body ++ [cr] <:+: (delivered e.polls).map toCapital ∧
    f = (convertASCIIToBinary e.uninit (e.rxbuff.write 0 body)).2

-- ---------------------------------------------------------------------------
-- The tasks
-- ---------------------------------------------------------------------------

structure Turn where
  exchange : Exchange
  heap : Memory UInt8
  alloc : Bool

def CharDataMsg.msg (m : CharDataMsg) (heap : Memory UInt8) : Msg :=
  charDataMsg heap m.answer.type m.connHandle m.serviceUUID m.paramID m.retDeviceID
    m.retServiceUUID m.retParamID m.answer.value

def functionManufacturingInformation : UInt8 := 0x70

/-- What the device asks the unit for at `DEVICE_PERIODIC_EVT`. It drops what comes back. -/
def periodicFrame : Frame :=
  ampFrame classDiagnostic operationGet functionManufacturingInformation []

def processed (id : UInt32) (a : Ask) (t : Turn) : Handled :=
  altoAmpProcessApplicationMessage t.exchange.transfer a.msg id

def posts (id : UInt32) (a : Ask) (t : Turn) : List Msg :=
  if t.alloc then
    ((processed id a t).msgs.filter fun m => m.deviceID = Tcp.tcpRCBinDeviceID).map (·.msg t.heap)
  else []

/-- A worker handles a command, where `alloc` tells the devices there is memory for; an
amplifier takes its next message, or its clock has run; another device posts to the controller;
the controller takes its next message. -/
inductive Event where
  | command (c : AmpCommand) (clientfd : Int) (payload : Memory UInt8) (heap : Nat → Memory UInt8)
      (alloc : Nat → Bool)
  | exchange (i : Nat) (t : Turn)
  | periodic (i : Nat) (t : Turn)
  | other (msg : Msg)
  | controller (alloc : Alloc)

abbrev Bus := State (Option Nat) Ask Turn Msg Alloc

variable (devices : List UInt32)

/-- `xDevice_sendCharDataMsg`: every device with the id gets the message. -/
def posted (c : AmpCommand) (clientfd : Int) (payload : Memory UInt8) (heap : Nat → Memory UInt8)
    (alloc : Nat → Bool) (i : Nat) : Option Ask :=
  if devices[i]? = some (word payload 0) ∧ alloc i then some (c.ask clientfd payload (heap i))
  else none

def Event.label : Event → Stations.Label (Option Nat) Ask Turn Msg Alloc
  | .command c clientfd payload heap alloc =>
    .post fun station => station.bind (posted devices c clientfd payload heap alloc)
  | .exchange i t => .serve (some i) t
  | .periodic i t => .own (some i) t
  | .other msg => .bring none msg
  | .controller alloc => .hand alloc

def answers (station : Option Nat) (a : Ask) (t : Turn) : List Msg :=
  match station.bind (devices[·]?) with
  | some id => posts id a t
  | none => []

def Bus.step (s : Bus) (event : Event) : Bus :=
  Stations.step (answers devices) s (event.label devices)

def asked (i : Nat) (events : List Event) : List Ask :=
  events.filterMap fun
    | .command c clientfd payload heap alloc => posted devices c clientfd payload heap alloc i
    | _ => none

/-- What went out on the line of a device, exchange by exchange. -/
def Bus.line (s : Bus) (i : Nat) (id : UInt32) : List (List UInt8) :=
  (s.done (some i)).flatMap fun
    | (some a, t) => (processed id a t).tFrameTx.toList.map fun f => (t.exchange.sendData f).1
    | (none, t) => [(t.exchange.sendData periodicFrame).1]

def Bus.sent (s : Bus) (i : Nat) : List Sent :=
  (ofStation (some i) s.handed).filterMap fun (msg, alloc) => processApplicationMessage alloc msg

/-- What is written in an exchange: the text of the frame that its command asks for, or of the
periodic one, as far as the port takes it. -/
structure Writes (x : Option Ask × Turn) (text : List UInt8) : Prop where
  part : text <+: createASCII (x.1.elim periodicFrame Ask.frame)
  closed : x.2.exchange.sendOpened = false → text = []
  whole : x.2.exchange.Takes → text = createASCII (x.1.elim periodicFrame Ask.frame)

/-- The frame of the controller for a command and the exchange that it led to. Data of the unit
are in it only if the whole text of the command went out. -/
structure Answers (id : UInt32) (x : Ask × Turn) (sent : Sent) : Prop where
  client : sent.clientfd = x.1.clientfd
  device : sent.frame.retDeviceID = id
  brought : ∀ f, x.2.exchange.Brings f →
    sent.frame.type = x.1.command.command.response ||| mark ∧
      sent.frame.payload = x.1.command.reply (bccFill f)
  honest : ((x.2.exchange.sendData x.1.frame).1 = createASCII x.1.frame ∧
      ∃ f, x.2.exchange.Hears f ∧
      sent.frame.type = x.1.command.command.response ||| mark ∧
      sent.frame.payload = x.1.command.reply f) ∨
    sent.frame.type = 1 ||| mark ∧
      (sent.frame.errorDescription = wordBytes errorTransferFailed ∨
        sent.frame.errorDescription = wordBytes errorCRC)

variable {devices} {a : Ask} {t : Turn} {id myDeviceID : UInt32} {transfer : Transfer}
  {pCharData : CharData} {functionID : UInt8} {data : List UInt8} {c : AmpCommand}

-- ---------------------------------------------------------------------------
-- One message
-- ---------------------------------------------------------------------------

theorem AmpCommand.dataSize_lt (c : AmpCommand) : c.dataSize < 65536 := by
  cases c with
  | amplifier f op | headphone f op => cases op <;> exact Nat.le_of_ble_eq_true rfl
  | directCommand1 => exact Nat.le_of_ble_eq_true rfl

theorem Ask.data_eq (a : Ask) : a.msg.pdu.data = a.heap.write 0 a.data := by
  have hlength : (UInt16.ofNat a.data.length).toNat = a.data.length := by
    rw [UInt16.toNat_ofNat', a.length_eq]
    exact Nat.mod_eq_of_lt a.command.dataSize_lt
  change a.heap.write 0 (a.data.take (UInt16.ofNat a.data.length).toNat) = _
  rw [hlength, List.take_length]

variable {e : Exchange} {f : Frame}

theorem sendData_prefix (opened pend : Bool) (uartWrite : Option Nat) (pStr : List UInt8) :
    (sendData opened pend uartWrite pStr).1 <+: pStr := by
  unfold sendData
  split
  case isTrue =>
    cases uartWrite with
    | some n => exact List.take_prefix n pStr
    | none => exact List.nil_prefix
  case isFalse => exact List.nil_prefix

theorem createASCII_length (f : Frame) : (createASCII f).length = 70 := by
  simp [createASCII, startFrame]

theorem Exchange.sendData_of_takes (h : e.Takes) :
    e.sendData f = (createASCII f, ampWriteCount) := by
  obtain ⟨n, hwrite, hroom⟩ := h.room
  have htake : (createASCII f).take n = createASCII f :=
    List.take_of_length_le (by rw [createASCII_length]; exact hroom)
  rw [sendData, Devices.sendData.eq_def, if_pos h.ready, hwrite]
  dsimp only
  rw [htake, createASCII_length]
  rfl

/-- The routine returns the length of the text only if all of it went out. -/
theorem Exchange.whole_of_sendData (h : (e.sendData f).2 = ampWriteCount) :
    (e.sendData f).1 = createASCII f := by
  rw [sendData, Devices.sendData.eq_def] at h ⊢
  split at h
  case isFalse => exact absurd h (by decide)
  case isTrue hready =>
    cases hwrite : e.uartWrite with
    | none =>
      rw [hwrite] at h
      exact absurd (show (-1 : UInt32) = ampWriteCount from h) (by decide)
    | some n =>
      rw [hwrite] at h
      rw [if_pos hready]
      dsimp only at h ⊢
      have hle := List.length_take_le' n (createASCII f)
      rw [createASCII_length] at hle
      have hlength : ((createASCII f).take n).length = 70 := by
        have hnat := congrArg UInt32.toNat h
        rw [UInt32.toNat_ofNat', Nat.mod_eq_of_lt (by omega)] at hnat
        exact hnat
      refine (List.take_prefix n _).eq_of_length ?_
      rw [hlength, createASCII_length]

theorem Exchange.writes (e : Exchange) (ask : Option Ask) (heap : Memory UInt8) (alloc : Bool) :
    Writes (ask, ⟨e, heap, alloc⟩) (e.sendData (ask.elim periodicFrame Ask.frame)).1 where
  part := sendData_prefix ..
  closed := fun h => by
    dsimp only at h
    rw [sendData, Devices.sendData.eq_def, h, if_neg (by simp)]
  whole := fun h => congrArg Prod.fst (sendData_of_takes h)

theorem Exchange.transfer_of_brings (h : e.Brings f) (tFrameTx : Frame) :
    e.transfer tFrameTx = some (bccFill f) := by
  obtain ⟨noise, hdelivered, hfirst⟩ := h.noise
  obtain ⟨hopened, hpend⟩ := h.ready
  rw [hdelivered] at hfirst
  have hstart : (Reception.start ampReadTimeout e.rxbuff).Waiting
      ((noise ++ createASCII (bccFill f)).map toCapital) noise.length 0 :=
    ⟨rfl, 0, Nat.zero_le _, le_rfl, by simp [Reception.start]⟩
  obtain ⟨r, hloop, hret, hbuffer⟩ := loop_waiting (frameText hfirst) hstart (by omega)
    (by rw [hdelivered, List.drop_zero]) e.exact h.lasts
  have hreturned := e.returned
  rw [receiveALTOFrame, if_pos ⟨hopened, hpend⟩, hloop] at hreturned
  obtain rfl : r = e.reception := by
    injection hreturned with hok
    injection hok
  have hsent : (e.sendData tFrameTx).2 = ampWriteCount :=
    congrArg Prod.snd (sendData_of_takes h.takes)
  rw [transfer, if_pos ⟨hsent, hret⟩, hbuffer]
  exact congrArg (fun x => some x.2) (convertASCIIToBinary_bodyASCII e.uninit e.rxbuff)

theorem Exchange.reception_honest (e : Exchange) :
    ∃ n, e.reception.Honest e.rxbuff ((delivered (e.polls.take n)).map toCapital) := by
  have hreturned := e.returned
  rw [receiveALTOFrame] at hreturned
  split at hreturned
  case isFalse =>
    have hstart : Reception.start ampReadTimeout e.rxbuff = e.reception := by
      injection hreturned with hok
      injection hok
    rw [← hstart]
    exact ⟨0, .start⟩
  case isTrue =>
    obtain ⟨-, hsafe⟩ := loopStd_eq (r := .start ampReadTimeout e.rxbuff) .start .start e.exact
    obtain ⟨r, n, hok, hhonest⟩ := hsafe _ hreturned
    cases hok
    exact ⟨n, hhonest⟩

theorem Exchange.sent_of_transfer {tFrameTx : Frame} (h : e.transfer tFrameTx = some f) :
    (e.sendData tFrameTx).1 = createASCII tFrameTx := by
  unfold transfer at h
  split at h
  case isTrue hfull => exact whole_of_sendData hfull.1
  case isFalse => cases h

theorem Exchange.hears_of_transfer {tFrameTx : Frame} (h : e.transfer tFrameTx = some f)
    (hbcc : bccCheck f = 0) : e.Hears f := by
  obtain ⟨n, hhonest⟩ := e.reception_honest
  unfold transfer at h
  split at h
  case isFalse => cases h
  case isTrue hfull =>
    cases h
    have hframe : e.reception.isFrame = true := by
      by_contra hnone
      have hzero := hhonest.silent (Bool.eq_false_iff.mpr hnone)
      exact absurd (hfull.2.symm.trans hzero) (by decide)
    obtain ⟨body, hcr, hin, hread⟩ := hhonest.delivers hframe
    rw [hfull.2] at hread
    have hlength : body.length = serialFrameSize := by rw [← hread, Memory.read_length]
    refine ⟨hbcc, body, hlength, hcr, hin.trans (List.IsPrefix.isInfix ?_), ?_⟩
    · refine List.IsPrefix.map toCapital ?_
      conv_rhs => rw [← List.take_append_drop n e.polls, delivered, List.flatMap_append]
      exact List.prefix_append _ _
    · have hbuffer : e.reception.p64Buffer = e.rxbuff.write 0 body := by
        refine Memory.eq_write (by rw [hlength, hread]) fun a ha => hhonest.unchanged a ?_
        omega
      rw [hbuffer]

-- ---------------------------------------------------------------------------
-- One answer
-- ---------------------------------------------------------------------------

def Ask.post (a : Ask) (id : UInt32) (t : Turn) (alloc : Alloc) : Post where
  command := a.command.command
  clientfd := a.clientfd
  deviceID := id
  answer := transferAnswer (fun f => a.command.reply f) (t.exchange.transfer a.frame)
  memory := t.heap
  alloc := alloc

theorem Ask.frame_bccCheck (a : Ask) : bccCheck a.frame = 0 := by
  obtain ⟨c, clientfd, data, heap, hlength⟩ := a
  cases c with
  | amplifier f op | headphone f op => cases op <;> exact bccCheck_bccFill _
  | directCommand1 => exact bccCheck_bccFill _

theorem AmpCommand.mem_cmdTable (c : AmpCommand) (sdk : Tcp.Sdk) :
    (c.command.type.toNat, Tcp.Handler.toDevice c.dataSize) ∈ Tcp.cmdTable sdk := by
  cases c with
  | amplifier f op =>
    refine List.mem_of_getElem? (i := (f.type.toNat + op.offset.toNat - 96) / 2) ?_
    cases f <;> cases op <;> rfl
  | headphone f op =>
    refine List.mem_of_getElem? (i := (f.type.toNat + op.offset.toNat - 96) / 2) ?_
    cases f <;> cases op <;> rfl
  | directCommand1 => exact List.mem_of_getElem? (i := 22) rfl

theorem Route.sent_retDeviceID {alloc : Alloc} {r : Route} {sent : Sent}
    (h : r.sent alloc pCharData = some sent) : sent.frame.retDeviceID = pCharData.retDeviceID := by
  unfold Route.sent at h
  split at h
  case h_1 =>
    obtain ⟨-, heq⟩ := Option.ite_none_right_eq_some.mp h
    cases heq
    rfl
  case h_2 =>
    obtain ⟨-, hall⟩ := Option.ite_none_right_eq_some.mp h
    obtain ⟨-, heq⟩ := Option.ite_none_right_eq_some.mp hall
    cases heq
    rfl
  case h_3 => cases h

theorem Post.sent_retDeviceID {p : Post} {sent : Sent} (h : p.sent = some sent) :
    sent.frame.retDeviceID = p.deviceID := by
  cases ha : p.answer with
  | reply bytes => exact Route.sent_retDeviceID ((Post.sent_route ha).symm.trans h)
  | error code =>
    rw [Post.sent_error ha] at h
    obtain ⟨-, heq⟩ := Option.ite_none_right_eq_some.mp h
    cases heq
    rfl

theorem AmpCommand.fits (alloc : Alloc) : c.command.Fits alloc (c.reply f) := by
  cases c with
  | amplifier g op | headphone g op =>
    cases op <;>
    · refine List.length_take.trans ?_
      rw [Vector.length_toList]
      rfl
  | directCommand1 => exact f.bytes_length

theorem AmpCommand.errorsHandled : c.command.errorsHandled = true := by cases c <;> rfl

theorem Ask.post_cases {alloc : Alloc} :
    ((t.exchange.sendData a.frame).1 = createASCII a.frame ∧
      ∃ f, t.exchange.Hears f ∧ (a.post id t alloc).answer = .reply (a.command.reply f)) ∨
      (a.post id t alloc).answer = .error errorTransferFailed ∨
      (a.post id t alloc).answer = .error errorCRC := by
  unfold post
  cases htransfer : t.exchange.transfer a.frame with
  | none => exact .inr (.inl rfl)
  | some f =>
    by_cases hbcc : bccCheck f = 0
    · exact .inl ⟨Exchange.sent_of_transfer htransfer, f,
        Exchange.hears_of_transfer htransfer hbcc, if_pos hbcc⟩
    · exact .inr (.inr (if_neg hbcc))

theorem Ask.post_returned {alloc : Alloc} : (a.post id t alloc).Returned := by
  rw [Post.Returned]
  rcases a.post_cases with ⟨-, f, -, hanswer⟩ | hanswer | hanswer
  · rw [hanswer]
    exact AmpCommand.fits alloc
  · rw [hanswer]
    exact AmpCommand.errorsHandled
  · rw [hanswer]
    exact AmpCommand.errorsHandled

theorem Ask.answered (a : Ask) (id : UInt32) (t : Turn) (alloc : Alloc) :
    ∃ sent, (a.post id t alloc).sent = some sent ∧ Answers id (a, t) sent := by
  obtain ⟨sent, hsent, hclient, hcarried⟩ := (Post.answered_iff _).mpr a.post_returned
  refine ⟨sent, hsent, hclient, Post.sent_retDeviceID hsent, fun f hbrings => ?_, ?_⟩
  · have hanswer : (a.post id t alloc).answer = .reply (a.command.reply (bccFill f)) := by
      rw [post, Exchange.transfer_of_brings hbrings]
      exact if_pos (bccCheck_bccFill f)
    rw [hanswer] at hcarried
    exact hcarried
  · rcases a.post_cases with ⟨hwhole, f, hhears, hanswer⟩ | hanswer | hanswer
    · rw [hanswer] at hcarried
      exact .inl ⟨hwhole, f, hhears, hcarried⟩
    · rw [hanswer] at hcarried
      exact .inr ⟨hcarried.1, .inl hcarried.2⟩
    · rw [hanswer] at hcarried
      exact .inr ⟨hcarried.1, .inr hcarried.2⟩

-- ---------------------------------------------------------------------------
-- All exchanges
-- ---------------------------------------------------------------------------

variable {events : List Event} {i : Nat} {s : Bus}

theorem asked_eq : (events.map (Event.label devices)).filterMap (Stations.Label.posted (some i)) =
    asked devices i events := by
  rw [List.filterMap_map]
  refine congrFun (congrArg List.filterMap ?_) events
  funext event
  cases event <;> rfl

end SystemMaster.Devices
