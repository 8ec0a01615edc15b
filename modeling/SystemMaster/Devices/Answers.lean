import SystemMaster.Tcp.DeviceCommands

/-!
# Answers of devices

A device answers a request by a message to the device the request came from. The message
goes to the service and characteristic that the request gives for it.
-/

namespace SystemMaster.Devices

open Tcp.Device

structure CharDataMsg where
  deviceID : UInt32
  connHandle : Int
  serviceUUID : UInt16
  paramID : UInt8
  retDeviceID : UInt32
  retServiceUUID : UInt16
  retParamID : UInt8
  answer : Answer
  deriving DecidableEq

def errorTransferFailed : UInt32 := 1
def errorCRC : UInt32 := 2

/-- An answer of the device `myDeviceID` to `pCharData`, from one of its characteristics. -/
def answerTo (pCharData : CharData) (myDeviceID : UInt32) (serviceUUID : UInt16) (paramID : UInt8)
    (answer : Answer) : CharDataMsg where
  deviceID := pCharData.retDeviceID
  connHandle := pCharData.connHandle
  serviceUUID := pCharData.retSvcUUID
  paramID := pCharData.retParamID.toUInt8
  retDeviceID := myDeviceID
  retServiceUUID := serviceUUID
  retParamID := paramID
  answer := answer

structure CharDataMsg.Answers (msg : CharDataMsg) (pCharData : CharData) : Prop where
  device : msg.deviceID = pCharData.retDeviceID
  connection : msg.connHandle = pCharData.connHandle
  service : msg.serviceUUID = pCharData.retSvcUUID
  param : msg.paramID = pCharData.retParamID.toUInt8

def AnsweredOnce (pCharData : CharData) (msgs : List CharDataMsg) : Prop :=
  ∃ msg, msgs = [msg] ∧ msg.Answers pCharData

variable {pCharData : CharData} {myDeviceID : UInt32} {serviceUUID : UInt16} {paramID : UInt8}
  {answer : Answer}

theorem answerTo_answers :
    (answerTo pCharData myDeviceID serviceUUID paramID answer).Answers pCharData :=
  ⟨rfl, rfl, rfl, rfl⟩

theorem answeredOnce_answerTo :
    AnsweredOnce pCharData [answerTo pCharData myDeviceID serviceUUID paramID answer] :=
  ⟨_, rfl, answerTo_answers⟩

theorem not_answeredOnce_nil : ¬AnsweredOnce pCharData [] := by
  rintro ⟨msg, hmsgs, _⟩
  cases hmsgs

end SystemMaster.Devices
