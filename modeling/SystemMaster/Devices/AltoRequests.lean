import SystemMaster.Multinet.DetailedStatus

/-!
# Requests to ALTO devices

The amplifier and the Multinet device ask their unit over the serial port and answer the
request with what comes back. Some of their branches send nothing: the message of the request
is freed then, and the client waits.
-/

namespace SystemMaster.Devices

open Alto Tcp.Device
open Multinet hiding Answer Msg

-- `ALTOClassesIDName`, `ALTOOperationsIDName`, `ALTOFunctionsIDName`
def classHeadphone : UInt8 := 0x07
def classAmplifier : UInt8 := 0x08
def operationVolumeInc : UInt8 := 0x03
def operationVolumeDec : UInt8 := 0x04
@[match_pattern] def functionInputSelect : UInt8 := 0x09
@[match_pattern] def functionVolume : UInt8 := 0x11
@[match_pattern] def functionBass : UInt8 := 0x12
@[match_pattern] def functionTreble : UInt8 := 0x13
@[match_pattern] def functionMute : UInt8 := 0x14
@[match_pattern] def functionCompressor : UInt8 := 0x20
@[match_pattern] def functionLoudness : UInt8 := 0x21

structure Handled where
  tFrameTx : Option Frame
  msgs : List CharDataMsg

/-- `bIF_transfer`: the frame that comes back for one, if the transfer succeeds. -/
abbrev Transfer := Frame → Option Frame

-- ---------------------------------------------------------------------------
-- The amplifier
-- ---------------------------------------------------------------------------

def ampFrame (classID operationID functionID : UInt8) (data : List UInt8) : Frame :=
  bccFill (requestFrame classID operationID functionID 0x20 data)

/-- `g_ALTOAmpDevice_getVolumeRetrunUUIDMapTable`. -/
def getVolumeReturnUUID : UInt8 → UInt16
  | functionInputSelect => altoAmpInputSelect
  | functionVolume => altoAmpVolume
  | functionBass => altoAmpBass
  | functionTreble => altoAmpTreble
  | functionMute => altoAmpMute
  | functionCompressor => altoAmpCompressor
  | functionLoudness => altoAmpLoudness
  | _ => 0

/-- `g_ALTOAmpDevice_getHeadPhoneRetrunUUIDMapTable`. -/
def getHeadPhoneReturnUUID : UInt8 → UInt16
  | functionInputSelect => altoAmpHPInputSelect
  | functionVolume => altoAmpHPVolume
  | functionMute => altoAmpHPMute
  | _ => 0

/-- The branches behind a transfer: `reply` has the bytes that a good frame is answered with. -/
def transferAnswer (reply : Frame → List UInt8) : Option Frame → Answer
  | some f => if bccCheck f = 0 then .reply (reply f) else .error errorCRC
  | none => .error errorTransferFailed

def transferred (transfer : Transfer) (pCharData : CharData) (myDeviceID : UInt32)
    (serviceUUID : UInt16) (paramID : UInt8) (tFrameTx : Frame) (reply : Frame → List UInt8) :
    Handled where
  tFrameTx := some tFrameTx
  msgs := [answerTo pCharData myDeviceID serviceUUID paramID
    (transferAnswer reply (transfer tFrameTx))]

def amplifierClassService (transfer : Transfer) (pCharData : CharData) (myDeviceID : UInt32)
    (functionID : UInt8) : Handled :=
  match pCharData.paramID with
  | 1 =>
    transferred transfer pCharData myDeviceID (getVolumeReturnUUID functionID) 1
      (ampFrame classAmplifier operationGet functionID []) fun f => f.data.toList.take 2
  | 2 =>
    if pCharData.dataLen = 3 then
      transferred transfer pCharData myDeviceID (getVolumeReturnUUID functionID) 2
        (ampFrame classAmplifier operationSet functionID (pCharData.data.read 0 3))
        fun f => f.data.toList.take 1
    else ⟨none, []⟩
  | 3 => ⟨some (ampFrame classAmplifier operationVolumeInc functionID [0x02]), []⟩
  | 4 => ⟨some (ampFrame classAmplifier operationVolumeDec functionID [0x01]), []⟩
  | _ => ⟨none, []⟩

def hpClassService (transfer : Transfer) (pCharData : CharData) (myDeviceID : UInt32)
    (functionID : UInt8) : Handled :=
  match pCharData.paramID with
  | 1 =>
    if pCharData.dataLen = 1 then
      transferred transfer pCharData myDeviceID (getHeadPhoneReturnUUID functionID) 1
        (ampFrame classHeadphone operationGet functionID (pCharData.data.read 0 1))
        fun f => f.data.toList.take 2
    else ⟨none, []⟩
  | 2 =>
    if pCharData.dataLen = 2 then
      transferred transfer pCharData myDeviceID (getHeadPhoneReturnUUID functionID) 2
        (ampFrame classHeadphone operationSet functionID (pCharData.data.read 0 2))
        fun f => f.data.toList.take 1
    else ⟨none, []⟩
  | 3 => ⟨some (ampFrame classHeadphone operationVolumeInc functionID [0x02]), []⟩
  | 4 => ⟨some (ampFrame classHeadphone operationVolumeDec functionID [0x01]), []⟩
  | _ => ⟨none, []⟩

/-- The frame of `ALTOAmp_directCommandData_t`, with as much of its data as there is room for. -/
def directCommandFrame (data : Memory UInt8) : Frame :=
  let length := data 4
  bccFill
    { classID := data 0
      operationID := data 1
      functionID := data 2
      sequence := data 3
      length := length
      data := Vector.ofFn fun i =>
        (data.read 5 (min length.toNat dataPayloadSize)).getD i 0
      bcc := 0 }

def directCommandService (transfer : Transfer) (pCharData : CharData) (myDeviceID : UInt32) :
    Handled :=
  match pCharData.paramID with
  | 1 =>
    transferred transfer pCharData myDeviceID altoAmpDirectCommand 1
      (directCommandFrame pCharData.data) Frame.bytes
  | 2 =>
    transferred transfer pCharData myDeviceID altoAmpDirectCommand 2
      (directCommandFrame pCharData.data) Frame.bytes
  | _ => ⟨none, []⟩

def altoAmpProcessApplicationMessage (transfer : Transfer) (pMsg : Msg) (myDeviceID : UInt32) :
    Handled :=
  match pMsg.type with
  | .serviceWrite =>
    match pMsg.pdu.svcUUID with
    | altoAmpInputSelect => amplifierClassService transfer pMsg.pdu myDeviceID functionInputSelect
    | altoAmpVolume => amplifierClassService transfer pMsg.pdu myDeviceID functionVolume
    | altoAmpBass => amplifierClassService transfer pMsg.pdu myDeviceID functionBass
    | altoAmpTreble => amplifierClassService transfer pMsg.pdu myDeviceID functionTreble
    | altoAmpMute => amplifierClassService transfer pMsg.pdu myDeviceID functionMute
    | altoAmpCompressor => amplifierClassService transfer pMsg.pdu myDeviceID functionCompressor
    | altoAmpLoudness => amplifierClassService transfer pMsg.pdu myDeviceID functionLoudness
    | altoAmpHPInputSelect => hpClassService transfer pMsg.pdu myDeviceID functionInputSelect
    | altoAmpHPVolume => hpClassService transfer pMsg.pdu myDeviceID functionVolume
    | altoAmpHPMute => hpClassService transfer pMsg.pdu myDeviceID functionMute
    | altoAmpDirectCommand => directCommandService transfer pMsg.pdu myDeviceID
    | _ => ⟨none, []⟩
  | .errorHandler => ⟨none, []⟩

/-- `CHARACTERISTIC_ALTO_MULTINET_LOCALREMOTE_SET_ID` to `_SET_GATE_ID`. -/
def localRemoteParam : UInt16 → Option LocalRemoteParam
  | 1 => some .set
  | 2 => some .trigger
  | 3 => some .getGate
  | 4 => some .setGate
  | _ => none

/-- `vALTOMultinet_LocalRemoteService_ValueChangeHandler` with the message it sends. -/
def localRemoteService (pCharData : CharData) (myDeviceID : UInt32) :
    StateM Line (List CharDataMsg) := do
  match localRemoteParam pCharData.paramID with
  | some paramID =>
    let response ← localRemoteValueChange paramID
      ⟨pCharData.data 0, ORTInput.ofByte (pCharData.data 1)⟩
    return [answerTo pCharData myDeviceID altoMultinetLocalRemote pCharData.paramID.toUInt8
      (.reply (pCharData.data.read 0 2 ++ [UInt8.ofInt response.acknak]))]
  | none => return []

def altoMultinetProcessApplicationMessage (stray : UInt8) (pMsg : Msg) (myDeviceID : UInt32) :
    StateM Line (List CharDataMsg) :=
  match pMsg.type with
  | .serviceWrite =>
    match pMsg.pdu.svcUUID with
    | altoMultinetDetailedStatus => getDetailedStatusService stray pMsg.pdu myDeviceID
    | altoMultinetLocalRemote => localRemoteService pMsg.pdu myDeviceID
    | _ => return []
  | .errorHandler => return []

-- ---------------------------------------------------------------------------
-- The requests that are answered
-- ---------------------------------------------------------------------------

/-- A service of an amplifier by the class of its functions. -/
inductive AmpService where
  | amplifier
  | headphone
  | directCommand

def ampService : UInt16 → Option AmpService
  | altoAmpInputSelect | altoAmpVolume | altoAmpBass | altoAmpTreble | altoAmpMute
  | altoAmpCompressor | altoAmpLoudness => some .amplifier
  | altoAmpHPInputSelect | altoAmpHPVolume | altoAmpHPMute => some .headphone
  | altoAmpDirectCommand => some .directCommand
  | _ => none

/-- The amplifier knows the service, gets or sets, and has as many bytes as it wants. -/
def AltoAmpAnswers (pCharData : CharData) : Prop :=
  match ampService pCharData.svcUUID with
  | some .amplifier => pCharData.paramID = 1 ∨ pCharData.paramID = 2 ∧ pCharData.dataLen = 3
  | some .headphone =>
    pCharData.paramID = 1 ∧ pCharData.dataLen = 1 ∨ pCharData.paramID = 2 ∧ pCharData.dataLen = 2
  | some .directCommand => pCharData.paramID = 1 ∨ pCharData.paramID = 2
  | none => False

def GoodResponse (reply : Option Frame) : Prop :=
  ∃ f, reply = some f ∧ bccCheck f = 0 ∧ f.operationID = operationResponse

/-- The Multinet device knows the service and the characteristic, and the box has given the
status that was asked for; only a temperature box has pots. -/
def AltoMultinetAnswers (reply : Option Frame) (pCharData : CharData) : Prop :=
  match pCharData.svcUUID with
  | altoMultinetDetailedStatus =>
    GoodResponse reply ∧ (pCharData.paramID = 1 ∨ pCharData.paramID = 2 ∨
      pCharData.paramID = 3 ∧ isTemperatureBox (pCharData.data 0))
  | altoMultinetLocalRemote => (localRemoteParam pCharData.paramID).isSome
  | _ => False

variable {transfer : Transfer} {pCharData : CharData} {myDeviceID : UInt32}
  {serviceUUID : UInt16} {paramID functionID stray : UInt8} {tFrameTx : Frame}
  {reply : Frame → List UInt8} {s : Line}

theorem transferred_answeredOnce :
    AnsweredOnce pCharData
      (transferred transfer pCharData myDeviceID serviceUUID paramID tFrameTx reply).msgs :=
  answeredOnce_answerTo

theorem guarded_answered {p : Prop} [Decidable p] :
    AnsweredOnce pCharData (if p then
      transferred transfer pCharData myDeviceID serviceUUID paramID tFrameTx reply
      else ⟨none, []⟩ : Handled).msgs ↔ p := by
  split
  case isTrue hp => exact iff_of_true transferred_answeredOnce hp
  case isFalse hp => exact iff_of_false not_answeredOnce_nil hp

theorem amplifierClassService_answered :
    AnsweredOnce pCharData (amplifierClassService transfer pCharData myDeviceID functionID).msgs ↔
      pCharData.paramID = 1 ∨ pCharData.paramID = 2 ∧ pCharData.dataLen = 3 := by
  unfold amplifierClassService
  split
  case h_1 hparam => exact iff_of_true transferred_answeredOnce (.inl hparam)
  case h_2 hparam => exact guarded_answered.trans (by simp [hparam])
  case h_3 hparam | h_4 hparam => exact iff_of_false not_answeredOnce_nil (by simp [hparam])
  case h_5 hget hset _ _ =>
    refine iff_of_false not_answeredOnce_nil ?_
    rintro (hparam | ⟨hparam, _⟩)
    · exact hget hparam
    · exact hset hparam

theorem hpClassService_answered :
    AnsweredOnce pCharData (hpClassService transfer pCharData myDeviceID functionID).msgs ↔
      pCharData.paramID = 1 ∧ pCharData.dataLen = 1 ∨
        pCharData.paramID = 2 ∧ pCharData.dataLen = 2 := by
  unfold hpClassService
  split
  case h_1 hparam => exact guarded_answered.trans (by simp [hparam])
  case h_2 hparam => exact guarded_answered.trans (by simp [hparam])
  case h_3 hparam | h_4 hparam => exact iff_of_false not_answeredOnce_nil (by simp [hparam])
  case h_5 hget hset _ _ =>
    refine iff_of_false not_answeredOnce_nil ?_
    rintro (⟨hparam, _⟩ | ⟨hparam, _⟩)
    · exact hget hparam
    · exact hset hparam

theorem directCommandService_answered :
    AnsweredOnce pCharData (directCommandService transfer pCharData myDeviceID).msgs ↔
      pCharData.paramID = 1 ∨ pCharData.paramID = 2 := by
  unfold directCommandService
  split
  case h_1 hparam => exact iff_of_true transferred_answeredOnce (.inl hparam)
  case h_2 hparam => exact iff_of_true transferred_answeredOnce (.inr hparam)
  case h_3 hfirst hsecond =>
    refine iff_of_false not_answeredOnce_nil ?_
    rintro (hparam | hparam)
    · exact hfirst hparam
    · exact hsecond hparam

theorem altoAmp_answered_iff :
    AnsweredOnce pCharData
        (altoAmpProcessApplicationMessage transfer ⟨.serviceWrite, pCharData⟩ myDeviceID).msgs ↔
      AltoAmpAnswers pCharData := by
  unfold altoAmpProcessApplicationMessage AltoAmpAnswers ampService
  dsimp only
  split <;> first
    | exact amplifierClassService_answered
    | exact hpClassService_answered
    | exact directCommandService_answered
    | exact iff_of_false not_answeredOnce_nil id

theorem detailedStatusAnswers_some {f : Frame} (hbcc : bccCheck f = 0)
    (hresponse : f.operationID = operationResponse) :
    AnsweredOnce pCharData (detailedStatusAnswers stray pCharData myDeviceID (some f)) ↔
      (detailedStatusBytes stray pCharData f).isSome := by
  simp only [detailedStatusAnswers, hbcc, hresponse, and_self, if_true]
  cases detailedStatusBytes stray pCharData f with
  | none => exact iff_of_false not_answeredOnce_nil (by simp)
  | some bytes => exact iff_of_true answeredOnce_answerTo rfl

theorem detailedStatusBytes_isSome {f : Frame} :
    (detailedStatusBytes stray pCharData f).isSome ↔
      pCharData.paramID = 1 ∨ pCharData.paramID = 2 ∨
        pCharData.paramID = 3 ∧ isTemperatureBox (pCharData.data 0) := by
  unfold detailedStatusBytes
  split
  case h_1 hparam => exact iff_of_true rfl (.inl hparam)
  case h_2 hparam => exact iff_of_true rfl (.inr (.inl hparam))
  case h_3 hparam =>
    simp only [hparam]
    split <;> simp [*]
  case h_4 hall hrelay hpot =>
    refine iff_of_false (by simp) ?_
    rintro (hparam | hparam | ⟨hparam, _⟩)
    · exact hall hparam
    · exact hrelay hparam
    · exact hpot hparam

theorem detailedStatus_answered :
    AnsweredOnce pCharData ((getDetailedStatusService stray pCharData myDeviceID).run s).1 ↔
      GoodResponse s.reply ∧ (pCharData.paramID = 1 ∨ pCharData.paramID = 2 ∨
        pCharData.paramID = 3 ∧ isTemperatureBox (pCharData.data 0)) := by
  rw [getDetailedStatusService_run]
  by_cases hgood : GoodResponse s.reply
  · obtain ⟨f, hreply, hbcc, hresponse⟩ := id hgood
    rw [hreply, detailedStatusAnswers_some hbcc hresponse, detailedStatusBytes_isSome, ← hreply]
    exact (and_iff_right hgood).symm
  · refine iff_of_false ?_ fun h => hgood h.1
    cases hreply : s.reply with
    | none => exact not_answeredOnce_nil
    | some f =>
      rw [detailedStatusAnswers, if_neg fun h => hgood ⟨f, hreply, h⟩]
      exact not_answeredOnce_nil

theorem localRemoteService_answered :
    AnsweredOnce pCharData ((localRemoteService pCharData myDeviceID).run s).1 ↔
      (localRemoteParam pCharData.paramID).isSome := by
  unfold localRemoteService
  cases localRemoteParam pCharData.paramID with
  | none => exact iff_of_false not_answeredOnce_nil (by simp)
  | some paramID => exact iff_of_true answeredOnce_answerTo rfl

theorem altoMultinet_answered_iff :
    AnsweredOnce pCharData ((altoMultinetProcessApplicationMessage stray ⟨.serviceWrite, pCharData⟩
        myDeviceID).run s).1 ↔
      AltoMultinetAnswers s.reply pCharData := by
  unfold altoMultinetProcessApplicationMessage AltoMultinetAnswers
  dsimp only
  split
  case h_1 => exact detailedStatus_answered
  case h_2 => exact localRemoteService_answered
  case h_3 => exact iff_of_false not_answeredOnce_nil id

/-- A request to an amplifier or to a Multinet device is answered by one message exactly when
it is one of those that the devices answer, and for a status the box has given it. -/
theorem requests_answered_iff (transfer : Transfer) (s : Line) (stray : UInt8)
    (pCharData : CharData) (myDeviceID : UInt32) :
    (AnsweredOnce pCharData
        (altoAmpProcessApplicationMessage transfer ⟨.serviceWrite, pCharData⟩ myDeviceID).msgs ↔
      AltoAmpAnswers pCharData) ∧
    (AnsweredOnce pCharData ((altoMultinetProcessApplicationMessage stray ⟨.serviceWrite, pCharData⟩
        myDeviceID).run s).1 ↔
      AltoMultinetAnswers s.reply pCharData) :=
  ⟨altoAmp_answered_iff, altoMultinet_answered_iff⟩

/-- The box does not answer, and nor does the device. -/
theorem timed_out_status_unanswered :
    ¬∀ (transfer : Transfer) (s : Line) (stray : UInt8) (pCharData : CharData)
      (myDeviceID : UInt32),
        AnsweredOnce pCharData (altoAmpProcessApplicationMessage transfer
          ⟨.serviceWrite, pCharData⟩ myDeviceID).msgs ∧
        AnsweredOnce pCharData ((altoMultinetProcessApplicationMessage stray
          ⟨.serviceWrite, pCharData⟩ myDeviceID).run s).1 := by
  intro h
  obtain ⟨_, hanswered⟩ := h (fun _ => none) ⟨oneVirtual 3, [], []⟩ 0 (statusRelayRequest 0x41 3) 6
  exact not_answeredOnce_nil hanswered

end SystemMaster.Devices
