import Mathlib.Data.List.Forall2
import SystemMaster.Tcp.DeviceCommands

/-!
# Answers back to the client

The controller takes the answers of the devices out of its queue and sends the
client a frame for each. Which frame is decided by the return service, then by the
return characteristic, then by the ids of the device.
-/

namespace SystemMaster.Tcp.Device

open LittleEndian

structure RetFrame where
  type : UInt32
  retDeviceID : UInt32
  retSvcUUID : UInt16
  retParamID : UInt16
  payload : List UInt8
  deriving DecidableEq, Repr

def RetFrame.headerSize : Nat := 12

structure Sent where
  clientfd : Int
  frame : RetFrame
  deriving DecidableEq, Repr

def mark : UInt32 := 0x80000000

/-- What `Memory_alloc` answers a request of so many bytes. -/
abbrev Alloc := Nat → Bool

namespace CharData

/-- The frame all handlers send, with the type and the payload of each. -/
def send (m : CharData) (response : UInt32) (payload : List UInt8) : Sent where
  clientfd := m.connHandle
  frame.type := response ||| mark
  frame.retDeviceID := m.retDeviceID
  frame.retSvcUUID := m.retSvcUUID
  frame.retParamID := m.retParamID
  frame.payload := payload

/-- The handlers that answer from a buffer of their own, with a structure of `size` bytes
read where the data is. -/
def sendStruct (m : CharData) (response : UInt32) (size : Nat) : Sent :=
  m.send response (m.data.read 0 size)

/-- The handlers that allocate a buffer and copy the data. -/
def sendAll (m : CharData) (alloc : Alloc) (response : UInt32) : Option Sent :=
  if alloc (RetFrame.headerSize + m.dataLen.toNat) then
    some (m.send response (m.data.read 0 m.dataLen.toNat))
  else none

-- ---------------------------------------------------------------------------
-- Amplifier
-- ---------------------------------------------------------------------------

def volumeDataSize : Nat := 2
def headphoneDataSize : Nat := 2
def frameSize : Nat := 32

def altoAmpAmplifierClassGet (m : CharData) : Sent :=
  m.sendStruct
    (match m.retSvcUUID with
      | altoAmpInputSelect => 101
      | altoAmpVolume => 105
      | altoAmpBass => 109
      | altoAmpTreble => 113
      | altoAmpMute => 117
      | altoAmpCompressor => 121
      | altoAmpLoudness => 125
      | _ => 0)
    volumeDataSize

def altoAmpAmplifierClassSet (m : CharData) : Sent :=
  m.sendStruct
    (match m.retSvcUUID with
      | altoAmpInputSelect => 103
      | altoAmpVolume => 107
      | altoAmpBass => 111
      | altoAmpTreble => 115
      | altoAmpMute => 119
      | altoAmpCompressor => 123
      | altoAmpLoudness => 127
      | _ => 0)
    1

def altoAmpHeadPhoneClassGet (m : CharData) : Sent :=
  m.sendStruct
    (match m.retSvcUUID with
      | altoAmpHPInputSelect => 129
      | altoAmpHPVolume => 133
      | altoAmpHPMute => 137
      | _ => 0)
    headphoneDataSize

def altoAmpHeadPhoneClassSet (m : CharData) : Sent :=
  m.sendStruct
    (match m.retSvcUUID with
      | altoAmpHPInputSelect => 131
      | altoAmpHPVolume => 135
      | altoAmpHPMute => 139
      | _ => 0)
    1

def altoAmpDirectCommandClass (m : CharData) : Sent :=
  m.sendStruct
    (match m.retSvcUUID with
      | altoAmpDirectCommand =>
        match m.retParamID with
        | 1 => 501
        | 2 => 503
        | _ => 0
      | _ => 0)
    frameSize

def altoVolumeReturnService (m : CharData) : Option Sent :=
  match m.paramID with
  | amplifierClass =>
    if m.dataLen ≠ 0 then
      match m.retParamID with
      | 1 => some m.altoAmpAmplifierClassGet
      | 2 => some m.altoAmpAmplifierClassSet
      | _ => none
    else none
  | headphoneClass =>
    if m.dataLen ≠ 0 then
      match m.retParamID with
      | 1 => some m.altoAmpHeadPhoneClassGet
      | 2 => some m.altoAmpHeadPhoneClassSet
      | _ => none
    else none
  | directCommandClass =>
    if m.dataLen ≠ 0 then
      match m.retParamID with
      | 1 | 2 => some m.altoAmpDirectCommandClass
      | _ => none
    else none
  | _ => none

def errorALTOCommunication : UInt32 := 5

def altoAmplifierErrorHandler (m : CharData) : Sent :=
  m.send 1 (wordBytes errorALTOCommunication ++ m.data.read 0 4)

-- ---------------------------------------------------------------------------
-- Multinet
-- ---------------------------------------------------------------------------

def getStatusRelayResponseSize : Nat := 3
def getDetailedStatusPotResponseSize : Nat := 6
def setSwitchOnOffResponseSize : Nat := 3

def altoMultinetRemoteGetRelay (m : CharData) : Sent :=
  m.sendStruct
    (match m.retSvcUUID with
      | altoMultinetDetailedStatus => 151
      | _ => 0)
    getStatusRelayResponseSize

def altoMultinetRemoteGetPot (m : CharData) : Sent :=
  m.sendStruct
    (match m.retSvcUUID with
      | altoMultinetDetailedStatus => 181
      | _ => 0)
    getDetailedStatusPotResponseSize

/-- `vTCPRCBin_ALTOMultinet_remoteSetInput`. It does not look at the characteristic. -/
def altoMultinetRemoteSetInput (m : CharData) : Sent :=
  m.sendStruct
    (match m.retSvcUUID with
      | altoMultinetLocalRemote => 161
      | _ => 0)
    setSwitchOnOffResponseSize

/-- `vTCPRCBin_ALTOMultinetGetDetailedStatusReturnService_ValueChangeHandler`. -/
def altoMultinetReturnService (m : CharData) : Option Sent :=
  match m.paramID with
  | 1 =>
    if m.dataLen ≠ 0 then
      match m.retParamID with
      | 2 => some m.altoMultinetRemoteGetRelay
      | 3 => some m.altoMultinetRemoteGetPot
      | _ => none
    else none
  | 3 => some m.altoMultinetRemoteSetInput
  | _ => none

-- ---------------------------------------------------------------------------
-- Raw characteristic data, AVDS and Rosen
-- ---------------------------------------------------------------------------

def rawCharacteristicDataReturnMsg (m : CharData) (alloc : Alloc) : Option Sent :=
  m.sendAll alloc 3

def avdsMaximumPacketDataLength : Nat := 64

def avdsDirectCommand (m : CharData) (alloc : Alloc) : Option Sent :=
  if m.dataLen.toNat < avdsMaximumPacketDataLength then
    m.sendAll alloc
      (match m.retSvcUUID with
        | avdsAltoEmulator =>
          match m.paramID with
          | 1 => 701
          | 2 => 703
          | _ => 0
        | _ => 0)
  else none

def avdsService (m : CharData) (alloc : Alloc) : Option Sent :=
  match m.paramID with
  | 1 | 2 => if m.dataLen ≠ 0 then m.avdsDirectCommand alloc else none
  | _ => none

def avdsSerialSteveCommand (m : CharData) (alloc : Alloc) : Option Sent :=
  if m.dataLen.toNat < avdsMaximumPacketDataLength then
    m.sendAll alloc
      (match m.retSvcUUID with
        | avdsRS485SteveCommands =>
          match m.paramID with
          | 1 => 705
          | 2 => 725
          | 3 => 707
          | 4 => 727
          | 5 => 709
          | 6 => 711
          | 7 => 713
          | 8 => 715
          | 9 => 717
          | 10 => 719
          | 11 => 721
          | 12 => 723
          | _ => 0
        | _ => 0)
  else none

def avdsSerialService (m : CharData) (alloc : Alloc) : Option Sent :=
  match m.paramID with
  | 1 | 2 | 3 | 4 | 5 | 6 | 7 | 8 | 9 | 10 | 11 | 12 =>
    if m.dataLen ≠ 0 then m.avdsSerialSteveCommand alloc else none
  | _ => none

def steveCommandReturn1DataSize : Nat := 2
def rosenUDPSteveCommandDataSize : Nat := 8

def rosenDirectCommand (m : CharData) (alloc : Alloc) : Option Sent :=
  if m.dataLen.toNat ≤ steveCommandReturn1DataSize then
    m.sendAll alloc
      (match m.retSvcUUID with
        | rosenRS485SteveCommands =>
          match m.paramID with
          | 1 => 801
          | 2 => 803
          | 3 => 805
          | 4 => 807
          | 5 => 809
          | 6 => 811
          | 7 => 813
          | 8 => 815
          | 9 => 817
          | 10 => 819
          | _ => 0
        | _ => 0)
  else none

def rosenUDPSM (m : CharData) (alloc : Alloc) : Option Sent :=
  if m.dataLen.toNat ≤ rosenUDPSteveCommandDataSize then
    m.sendAll alloc
      (match m.retSvcUUID with
        | rosenUDPSteveCommands =>
          match m.paramID with
          | 12 => 823
          | _ => 0
        | _ => 0)
  else none

/-- `vTCPRCBin_ROSENService_ValueChangeHandler`. Of the two source commands it knows only
the getter. -/
def rosenService (m : CharData) (alloc : Alloc) : Option Sent :=
  match m.paramID with
  | 1 | 2 | 3 | 4 | 5 | 6 | 7 | 8 | 9 | 10 =>
    if m.dataLen ≠ 0 then m.rosenDirectCommand alloc else none
  | 12 => if m.dataLen ≠ 0 then m.rosenUDPSM alloc else none
  | _ => none

end CharData

def processApplicationMessage (alloc : Alloc) (msg : Msg) : Option Sent :=
  match msg.type with
  | .serviceWrite =>
    match msg.pdu.svcUUID with
    | amplifierClassReturn => msg.pdu.altoVolumeReturnService
    | altoMultinetClassReturn => msg.pdu.altoMultinetReturnService
    | rawCharacteristicDataClassReturn => msg.pdu.rawCharacteristicDataReturnMsg alloc
    | avdsClassReturn => msg.pdu.avdsService alloc
    | avdsSerialClassReturn => msg.pdu.avdsSerialService alloc
    | rosenServiceReturn => msg.pdu.rosenService alloc
    | _ => none
  | .errorHandler =>
    match msg.pdu.svcUUID with
    | amplifierClassReturn | altoMultinetClassReturn => some msg.pdu.altoAmplifierErrorHandler
    | _ => none

/-- The loop of the controller's task over its queue. The heap answers each message anew. -/
def processQueue (queue : List (Alloc × Msg)) : List Sent :=
  queue.filterMap fun (alloc, msg) => processApplicationMessage alloc msg

-- ---------------------------------------------------------------------------
-- What the client is owed
-- ---------------------------------------------------------------------------

/-- An answer in the controller's queue: the command it is to and the client that issued
it, and the memory the message lies in. -/
structure Post where
  command : Command
  clientfd : Int
  deviceID : UInt32
  answer : Answer
  memory : Memory UInt8
  alloc : Alloc

def Post.message (p : Post) : Msg :=
  p.answer.message p.memory p.command.request p.clientfd p.deviceID

def Post.sent (p : Post) : Option Sent := processApplicationMessage p.alloc p.message

def RetFrame.errorDescription (f : RetFrame) : List UInt8 := f.payload.drop 4

/-- The frame belongs to the command and has the device's bytes, or it is an error and has
the posted code. -/
def Answer.Carried (c : Command) (f : RetFrame) : Answer → Prop
  | .reply bytes => f.type = c.response ||| mark ∧ f.payload = bytes
  | .error code => f.type = 1 ||| mark ∧ f.errorDescription = wordBytes code

def Post.AnsweredBy (p : Post) (s : Sent) : Prop :=
  s.clientfd = p.clientfd ∧ p.answer.Carried p.command s.frame

/-- There is a frame for the answer, and it is the right one. -/
def Post.Answered (p : Post) : Prop := ∃ s, p.sent = some s ∧ p.AnsweredBy s

/-- When the bytes of a reply fit the structure, or the buffer, its return service has for
them. The commands at the end are never answered right. -/
def Command.Fits (alloc : Alloc) (bytes : List UInt8) : Command → Prop
  | .altoAmp _ .get => bytes.length = 2
  | .altoAmp _ .set => bytes.length = 1
  | .altoAmpHP _ .get => bytes.length = 2
  | .altoAmpHP _ .set => bytes.length = 1
  | .altoAmpDirectCommand1 => bytes.length = 32
  | .altoMultinetGetRelay => bytes.length = 3
  | .altoMultinetSetInput => bytes.length = 3
  | .altoMultinetGetPot => bytes.length = 6
  | .rawCharDataMsg => bytes.length < 65536 ∧ alloc (12 + bytes.length)
  | .avdsSerialSteve _ _ => 0 < bytes.length ∧ bytes.length < 64 ∧ alloc (12 + bytes.length)
  | .rosen _ => 0 < bytes.length ∧ bytes.length ≤ 2 ∧ alloc (12 + bytes.length)
  | .rosenUDPSMSourceGet => 0 < bytes.length ∧ bytes.length ≤ 8 ∧ alloc (12 + bytes.length)
  | .altoAmpDirectCommand2 | .altoAmpExtended _ _ => False
  | .altoMultinetTriggerLocalRemote | .altoMultinetGetGate | .altoMultinetSetGate => False
  | .avdsDirectCommand1 | .avdsDirectCommand2 => False
  | .rosenDirectCommand1 | .rosenDirectCommand2 | .rosenUDPSMSourceSet => False

def Command.errorsHandled : Command → Bool
  | .altoAmp _ _ | .altoAmpHP _ _ | .altoAmpDirectCommand1 | .altoAmpDirectCommand2
  | .altoAmpExtended _ _ | .avdsDirectCommand1 | .avdsDirectCommand2
  | .altoMultinetGetRelay | .altoMultinetSetInput | .altoMultinetTriggerLocalRemote
  | .altoMultinetGetGate | .altoMultinetSetGate | .altoMultinetGetPot => true
  | .rawCharDataMsg | .avdsSerialSteve _ _ | .rosenDirectCommand1 | .rosenDirectCommand2
  | .rosen _ | .rosenUDPSMSourceSet | .rosenUDPSMSourceGet => false

/-- When an answer reaches its client as it should. -/
def Post.Returned (p : Post) : Prop :=
  match p.answer with
  | .reply bytes => p.command.Fits p.alloc bytes
  | .error _ => p.command.errorsHandled

/-- What the switches come to for the replies to one command: a frame with a structure of
a size, a frame with all the bytes, or none. The reply has `least` bytes at least. -/
inductive Route where
  | struct (response : UInt32) (least size : Nat)
  | buffer (response : UInt32) (least most : Nat)
  | dropped
  deriving DecidableEq, Repr

def Route.sent (alloc : Alloc) (m : CharData) : Route → Option Sent
  | .struct response least size =>
    if least ≤ m.dataLen.toNat then some (m.sendStruct response size) else none
  | .buffer response least most =>
    if least ≤ m.dataLen.toNat ∧ m.dataLen.toNat ≤ most then m.sendAll alloc response else none
  | .dropped => none

def Command.route : Command → Route
  | .altoAmp f op => .struct (f.type + op.offset + 1) 1 (match op with | .get => 2 | .set => 1)
  | .altoAmpHP f op => .struct (f.type + op.offset + 1) 1 (match op with | .get => 2 | .set => 1)
  | .altoAmpDirectCommand1 => .struct 501 1 32
  | .altoAmpDirectCommand2 => .struct 501 1 32
  | .altoAmpExtended _ _ => .struct 501 1 32
  | .altoMultinetGetRelay => .struct 151 1 3
  | .altoMultinetSetInput => .struct 161 0 3
  | .altoMultinetTriggerLocalRemote => .struct 161 0 3
  | .altoMultinetGetGate => .struct 161 0 3
  | .altoMultinetSetGate => .struct 161 0 3
  | .altoMultinetGetPot => .struct 181 1 6
  | .rawCharDataMsg => .buffer 3 0 65535
  -- The amplifier's service takes the ids of the AVDS for a getter of its own.
  | .avdsDirectCommand1 => .struct 0 1 2
  | .avdsDirectCommand2 => .struct 0 1 2
  | .avdsSerialSteve f op => .buffer (f.type op + 1) 1 63
  | .rosenDirectCommand1 => .buffer 0 1 2
  | .rosenDirectCommand2 => .buffer 0 1 2
  | .rosen f => .buffer (f.type + 1) 1 2
  | .rosenUDPSMSourceSet => .dropped
  | .rosenUDPSMSourceGet => .buffer 823 1 8

section Guards

variable {m : CharData} {x : Option Sent} {n : Nat} {bound : Prop} [Decidable bound]

theorem ite_dataLen : (if m.dataLen ≠ 0 then x else none) =
    if 1 ≤ m.dataLen.toNat then x else none := by
  refine if_congr ?_ rfl rfl
  rw [ne_eq, ← UInt16.toNat_inj]
  exact Nat.pos_iff_ne_zero.symm

theorem ite_dataLen_bound (h : bound ↔ m.dataLen.toNat ≤ n) :
    (if m.dataLen ≠ 0 then if bound then x else none else none) =
      if 1 ≤ m.dataLen.toNat ∧ m.dataLen.toNat ≤ n then x else none := by
  rw [ite_dataLen, ite_and]
  simp only [h]

theorem ite_all : x = if 0 ≤ m.dataLen.toNat ∧ m.dataLen.toNat ≤ 65535 then x else none :=
  (if_pos ⟨Nat.zero_le _, Nat.le_of_lt_succ m.dataLen.toNat_lt⟩).symm

end Guards

-- ---------------------------------------------------------------------------
-- Replies
-- ---------------------------------------------------------------------------

section Reply

variable {bytes : List UInt8} {p : Post} {n : Nat} {response : UInt32} {payload : List UInt8}
  {guard : Prop} [Decidable guard]

theorem Post.sent_route (ha : p.answer = .reply bytes) :
    p.sent = p.command.route.sent p.alloc p.message.pdu := by
  obtain ⟨c, clientfd, deviceID, answer, memory, alloc⟩ := p
  cases ha
  cases c with
  | rawCharDataMsg => exact ite_all
  | altoAmp f op | altoAmpHP f op => cases f <;> cases op <;> exact ite_dataLen
  | altoAmpDirectCommand1 | altoAmpDirectCommand2 | altoAmpExtended | altoMultinetGetRelay
  | altoMultinetGetPot | avdsDirectCommand1 | avdsDirectCommand2 =>
    exact ite_dataLen
  | altoMultinetSetInput | altoMultinetTriggerLocalRemote | altoMultinetGetGate
  | altoMultinetSetGate | rosenUDPSMSourceSet =>
    rfl
  | avdsSerialSteve f op =>
    cases f <;> cases op <;> exact ite_dataLen_bound Nat.lt_succ_iff
  | rosenDirectCommand1 | rosenDirectCommand2 | rosenUDPSMSourceGet =>
    exact ite_dataLen_bound Iff.rfl
  | rosen f => cases f <;> exact ite_dataLen_bound Iff.rfl

theorem Post.dataLen_toNat (ha : p.answer = .reply bytes) :
    p.message.pdu.dataLen.toNat = bytes.length % 65536 := by
  simp [message, Answer.message, ha, charDataMsg, Answer.value]

theorem Post.data_eq (ha : p.answer = .reply bytes) :
    p.message.pdu.data = p.memory.write 0 (bytes.take (bytes.length % 65536)) := by
  simp [message, Answer.message, ha, charDataMsg, Answer.value]

theorem Post.read_struct_iff (ha : p.answer = .reply bytes) (hn : n < 65536) :
    p.message.pdu.data.read 0 n = bytes ↔ bytes.length = n := by
  rw [data_eq ha]
  constructor
  · intro h
    rw [← h, Memory.read_length]
  · rintro rfl
    rw [Nat.mod_eq_of_lt hn, List.take_length, Memory.read_write]

theorem Post.read_all_iff (ha : p.answer = .reply bytes) :
    p.message.pdu.data.read 0 p.message.pdu.dataLen.toNat = bytes ↔ bytes.length < 65536 := by
  have hlen : p.message.pdu.dataLen.toNat < 65536 := p.message.pdu.dataLen.toNat_lt
  rw [read_struct_iff ha hlen, dataLen_toNat ha]
  omega

theorem Post.answered_iff_of_sent (ha : p.answer = .reply bytes)
    (hs : p.sent = if guard then some (p.message.pdu.send response payload) else none) :
    p.Answered ↔
      guard ∧ response ||| mark = p.command.response ||| mark ∧ payload = bytes := by
  have hclient : p.message.pdu.connHandle = p.clientfd := rfl
  simp [Answered, AnsweredBy, Answer.Carried, hs, ha, CharData.send, hclient]

/-- When a route takes a reply to the client as the response to its command. -/
def Route.Carries (alloc : Alloc) (c : Command) (bytes : List UInt8) : Route → Prop
  | .struct response least size =>
    response ||| mark = c.response ||| mark ∧ least ≤ size ∧ bytes.length = size
  | .buffer response least most =>
    response ||| mark = c.response ||| mark ∧ least ≤ bytes.length ∧ bytes.length ≤ most ∧
      alloc (12 + bytes.length)
  | .dropped => False

/-- No structure and no buffer is longer than a message's data can be. -/
def Route.Small : Route → Prop
  | .struct _ _ size => size < 65536
  | .buffer _ _ most => most < 65536
  | .dropped => True

theorem Command.route_small (c : Command) : c.route.Small := by
  cases c with
  | altoAmp f op => cases op <;> simp [route, Route.Small]
  | altoAmpHP f op => cases op <;> simp [route, Route.Small]
  | _ => simp [route, Route.Small]

theorem Post.answered_iff_carries {r : Route} (ha : p.answer = .reply bytes)
    (hs : p.sent = r.sent p.alloc p.message.pdu) (hr : r.Small) :
    p.Answered ↔ r.Carries p.alloc p.command bytes := by
  have hlen := dataLen_toNat ha
  cases r with
  | struct response least size =>
    have hsize : size < 65536 := hr
    rw [answered_iff_of_sent ha hs, read_struct_iff ha hsize, hlen]
    simp only [Route.Carries]
    constructor
    · rintro ⟨hleast, htype, hbytes⟩
      refine ⟨htype, ?_, hbytes⟩
      rwa [hbytes, Nat.mod_eq_of_lt hsize] at hleast
    · rintro ⟨htype, hleast, hbytes⟩
      refine ⟨?_, htype, hbytes⟩
      rwa [hbytes, Nat.mod_eq_of_lt hsize]
  | buffer response least most =>
    have hmost : most < 65536 := hr
    simp only [Route.sent, CharData.sendAll, ← ite_and] at hs
    rw [answered_iff_of_sent ha hs, read_all_iff ha, hlen]
    simp only [Route.Carries]
    constructor
    · rintro ⟨⟨⟨hleast, hmax⟩, halloc⟩, htype, hbytes⟩
      rw [Nat.mod_eq_of_lt hbytes] at hleast hmax halloc
      exact ⟨htype, hleast, hmax, halloc⟩
    · rintro ⟨htype, hleast, hmax, halloc⟩
      have hbytes : bytes.length < 65536 := Nat.lt_of_le_of_lt hmax hmost
      rw [Nat.mod_eq_of_lt hbytes]
      exact ⟨⟨⟨hleast, hmax⟩, halloc⟩, htype, hbytes⟩
  | dropped => simp [Answered, hs, Route.sent, Route.Carries]

/-- The routes that fit no reply give the frame another type, or drop it. -/
theorem Command.route_carries_iff (c : Command) (alloc : Alloc) :
    c.route.Carries alloc c bytes ↔ c.Fits alloc bytes := by
  cases c with
  | rawCharDataMsg =>
    refine (and_iff_right rfl).trans ((and_iff_right (Nat.zero_le _)).trans ?_)
    exact and_congr_left fun _ => Nat.lt_succ_iff.symm
  | altoAmp f op | altoAmpHP f op =>
    cases op <;> simp [route, Route.Carries, Fits, response, type]
  | altoAmpDirectCommand1 | altoMultinetGetRelay | altoMultinetSetInput | altoMultinetGetPot =>
    simp [route, Route.Carries, Fits, response, type]
  | altoAmpExtended f op =>
    refine iff_of_false (fun h => absurd h.1 ?_) id
    cases f <;> cases op <;> decide
  | altoAmpDirectCommand2 | altoMultinetTriggerLocalRemote | altoMultinetGetGate
  | altoMultinetSetGate | avdsDirectCommand1 | avdsDirectCommand2 | rosenDirectCommand1
  | rosenDirectCommand2 =>
    exact iff_of_false (fun h => absurd h.1 (by decide)) id
  | avdsSerialSteve f op =>
    refine (and_iff_right rfl).trans (and_congr_right fun _ => ?_)
    rw [Nat.lt_succ_iff]
  | rosen f => exact and_iff_right rfl
  | rosenUDPSMSourceSet => exact Iff.rfl
  | rosenUDPSMSourceGet => exact and_iff_right rfl

theorem Post.answered_reply_iff (ha : p.answer = .reply bytes) :
    p.Answered ↔ p.command.Fits p.alloc bytes :=
  (answered_iff_carries ha (sent_route ha) p.command.route_small).trans
    (p.command.route_carries_iff p.alloc)

end Reply

section Error

variable {p : Post} {code : UInt32}

theorem Post.sent_error (ha : p.answer = .error code) :
    p.sent = if p.command.errorsHandled then some p.message.pdu.altoAmplifierErrorHandler
      else none := by
  obtain ⟨c, clientfd, deviceID, answer, memory, alloc⟩ := p
  cases ha
  cases c <;> rfl

theorem Post.data_error (ha : p.answer = .error code) :
    p.message.pdu.data.read 0 4 = wordBytes code := by
  have hlen : (wordBytes code).length = 4 := toBytes_length
  simp only [message, Answer.message, ha, charDataMsg, Answer.value, hlen]
  rw [List.take_of_length_le (by rw [hlen]; decide), ← hlen, Memory.read_write]

theorem Post.answered_error_iff (ha : p.answer = .error code) :
    p.Answered ↔ p.command.errorsHandled := by
  have hclient : p.message.pdu.connHandle = p.clientfd := rfl
  have hdrop : (wordBytes CharData.errorALTOCommunication ++ wordBytes code).drop 4 =
      wordBytes code := List.drop_left' rfl
  simp [Answered, AnsweredBy, Answer.Carried, sent_error ha, ha, CharData.altoAmplifierErrorHandler,
    CharData.send, hclient, RetFrame.errorDescription, data_error ha, hdrop]

end Error

theorem Post.answered_iff (p : Post) : p.Answered ↔ p.Returned := by
  cases ha : p.answer with
  | reply bytes => simpa only [Returned, ha] using answered_reply_iff ha
  | error code => simpa only [Returned, ha] using answered_error_iff ha

theorem forall₂_filterMap_iff {α β : Type*} {R : α → β → Prop} {f : α → Option β} (xs : List α) :
    List.Forall₂ R xs (xs.filterMap f) ↔ ∀ x ∈ xs, ∃ y, f x = some y ∧ R x y := by
  induction xs with
  | nil => simp
  | cons x xs ih =>
    rw [List.forall_mem_cons, ← ih]
    cases hx : f x with
    | none =>
      rw [List.filterMap_cons_none hx]
      simp only [reduceCtorEq, false_and, exists_false, iff_false]
      intro h
      have hlen := h.length_eq
      have hle := List.length_filterMap_le f xs
      rw [List.length_cons] at hlen
      omega
    | some y =>
      rw [List.filterMap_cons_some hx, List.forall₂_cons]
      simp

/-- The clients of any answers that come in get one frame for each, the right one, exactly
when each answer is one that is returned. -/
theorem answers_returned_iff (ps : List Post) :
    List.Forall₂ Post.AnsweredBy ps (processQueue (ps.map fun p => (p.alloc, p.message))) ↔
      ∀ p ∈ ps, p.Returned := by
  have hqueue : processQueue (ps.map fun p => (p.alloc, p.message)) = ps.filterMap Post.sent := by
    rw [processQueue, List.filterMap_map]
    rfl
  rw [hqueue, forall₂_filterMap_iff]
  exact forall₂_congr fun p _ => p.answered_iff

/-- The AVDS answers a direct command with five bytes. Two of them reach the client, in a
frame that belongs to no command. -/
theorem avds_reply_mistyped :
    ∃ p : Post, p.command = .avdsDirectCommand1 ∧
      p.answer = .reply [0x11, 0x00, 0x01, 0x00, 0x02] ∧ (∀ n, p.alloc n = true) ∧
      processQueue [(p.alloc, p.message)] =
        [⟨7, ⟨0x80000000, 5, avdsAltoEmulator, 1, [0x11, 0x00]⟩⟩] ∧
      ¬List.Forall₂ Post.AnsweredBy [p] (processQueue [(p.alloc, p.message)]) := by
  have hsent : processQueue [(fun _ => true, Answer.message (fun _ => 0)
      Request.avdsGenericDirectCommand1 7 5 (.reply [0x11, 0x00, 0x01, 0x00, 0x02]))] =
      [⟨7, ⟨0x80000000, 5, avdsAltoEmulator, 1, [0x11, 0x00]⟩⟩] := by decide
  refine ⟨⟨.avdsDirectCommand1, 7, 5, .reply [0x11, 0x00, 0x01, 0x00, 0x02], fun _ => 0,
    fun _ => true⟩, rfl, rfl, fun _ => rfl, hsent, ?_⟩
  intro h
  obtain ⟨-, htype, -⟩ := (List.forall₂_cons.mp (hsent ▸ h)).1
  exact absurd htype (by decide)

end SystemMaster.Tcp.Device
