import SystemMaster.Library.Access
import SystemMaster.Eeprom.Layout

/-!
# The handlers of the binary commands

Every command of the TCP protocol has a handler, called with the payload in the
worker's packet buffer and the size received. A handler is modelled by its
accesses to that buffer: which bytes it reads, on what that depends, and what it
overwrites. What the devices, the pins and the file system then do is left to
their own modules.
-/

namespace SystemMaster.Tcp

open Access LittleEndian

def packetSize : Nat := 256

structure Sdk where
  /-- `SPIFFS_OBJ_NAME_LEN`. -/
  objNameLen : Nat
  /-- `GPIO_CFG_IO_MASK`. -/
  gpioCfgIOMask : UInt32
  /-- `GPIO_CFG_IN_NOPULL`, `GPIO_CFG_IN_PU` and `GPIO_CFG_IN_PD`. -/
  gpioCfgInputs : List UInt32
  /-- `GPIO_CFG_OUT_STD`, `GPIO_CFG_OUT_OD_NOPULL`, `_OD_PU` and `_OD_PD`. -/
  gpioCfgOutputs : List UInt32
  /-- The folder of the device files fits in a name. -/
  folder_fits : 8 ≤ objNameLen

/-- What the rest of the system answers while a handler runs. -/
structure Env where
  /-- A device of this ID is listed and there is memory for its message. -/
  accepts : UInt32 → Bool
  /-- The file system is initialised and could be locked and mounted. -/
  mounted : Bool
  /-- The file was opened. -/
  opened : Bool

/-- A handler, with the part of a payload that it goes by: of a payload that has
all of it, nothing behind the payload is read. -/
structure Handler where
  payloadSize : List UInt8 → Nat
  body : Env → Int → Routine UInt8 Unit
  within : ∀ env size s payload, s.buffer.read 0 payload.length = payload →
    payloadSize payload ≤ payload.length → Below payload.length (body env size) s

-- ---------------------------------------------------------------------------
-- Families
-- ---------------------------------------------------------------------------

namespace Handler

variable {m n off : Nat} {s : Access UInt8} {payload : List UInt8}

def word (off : Nat) : Routine UInt8 UInt32 := do
  let bs ← read off 4
  return UInt32.ofNat (ofBytes bs)

theorem below_word (h : off + 4 ≤ n) : Below n (word off) s :=
  below_bind (below_read h) below_pure

@[simp] theorem word_buffer : (word off s).2.buffer = s.buffer := rfl

@[simp] theorem word_value : (word off s).1 = LittleEndian.word s.buffer off := rfl

theorem word_of_payload (hp : s.buffer.read 0 payload.length = payload)
    (h : off + 4 ≤ payload.length) :
    LittleEndian.word s.buffer off = UInt32.ofNat (ofBytes ((payload.drop off).take 4)) := by
  have hread : s.buffer.read off 4 = (payload.drop off).take 4 := by
    conv_rhs => rw [← hp]
    rw [Memory.read_drop (by omega), Memory.read_take (by omega), Nat.zero_add]
  rw [LittleEndian.word, hread]

def fixed (n : Nat) (body : Env → Int → Routine UInt8 Unit)
    (h : ∀ env size s, Below n (body env size) s) : Handler where
  payloadSize _ := n
  body := body
  within env size s _ _ hn := (h env size s).mono hn

def ignorePayload : Handler := fixed 0 (fun _ _ => pure ()) fun _ _ _ => below_pure

def wordPayload : Handler := fixed 4 (fun _ _ => touch 0 4) fun _ _ _ => below_touch (by omega)

/-- `xDevice_sendCharDataMsg` of the data behind the device ID. They are copied
for a device that is there to get them. -/
def toDevice (len : Nat) : Handler :=
  fixed (4 + len)
    (fun env _ => do
      let deviceID ← word 0
      if env.accepts deviceID then touch 4 len)
    fun _ _ _ => below_bind (below_word (by omega)) <|
      below_ite (fun _ => below_touch (le_refl _)) fun _ => below_pure

end Handler

open Handler

-- ---------------------------------------------------------------------------
-- ALTO amplifier, Multinet, raw characteristic data
-- ---------------------------------------------------------------------------

-- The sizes of `ALTOAmp_zoneVolumeData_t` and `ALTOAmp_headphoneData_t`.
def zoneVolumeDataSize : Nat := 3
def headphoneDataSize : Nat := 2

def directCommandDataSize : Nat := 5 + 26

-- The sizes of `ALTOMultinetDeviceRelay_getStatusRelay`, `…_setSwitchOnOff` and
-- `ALTOMultinetDevice_multinetAddress`.
def getStatusRelaySize : Nat := 2
def setSwitchOnOffSize : Nat := 2
def multinetAddressSize : Nat := 1

def altoAmpInputSelectGet : Handler := toDevice 0
def altoAmpInputSelectSet : Handler := toDevice zoneVolumeDataSize
def altoAmpVolumeGet : Handler := toDevice 0
def altoAmpVolumeSet : Handler := toDevice zoneVolumeDataSize
def altoAmpBassGet : Handler := toDevice 0
def altoAmpBassSet : Handler := toDevice zoneVolumeDataSize
def altoAmpTrebleGet : Handler := toDevice 0
def altoAmpTrebleSet : Handler := toDevice zoneVolumeDataSize
def altoAmpMuteGet : Handler := toDevice 0
def altoAmpMuteSet : Handler := toDevice zoneVolumeDataSize
def altoAmpCompressorGet : Handler := toDevice 0
def altoAmpCompressorSet : Handler := toDevice zoneVolumeDataSize
def altoAmpLoudnessGet : Handler := toDevice 0
def altoAmpLoudnessSet : Handler := toDevice zoneVolumeDataSize
def altoAmpHPInputSelectGet : Handler := toDevice 1
def altoAmpHPInputSelectSet : Handler := toDevice headphoneDataSize
def altoAmpHPVolumeGet : Handler := toDevice 1
def altoAmpHPVolumeSet : Handler := toDevice headphoneDataSize
def altoAmpHPMuteGet : Handler := toDevice 1
def altoAmpHPMuteSet : Handler := toDevice headphoneDataSize
def altoAmpDirectCommand1 : Handler := toDevice directCommandDataSize

def altoMultinetRelayGet : Handler := toDevice getStatusRelaySize
def altoMultinetSetSwitchOnOff : Handler := toDevice setSwitchOnOffSize
def altoMultinetTriggerLocalRemote : Handler := toDevice setSwitchOnOffSize
def altoMultinetGetGate : Handler := toDevice setSwitchOnOffSize
def altoMultinetSetGate : Handler := toDevice setSwitchOnOffSize
def altoMultinetPotGet : Handler := toDevice multinetAddressSize

def rawCharacteristicData : Handler := toDevice setSwitchOnOffSize

-- ---------------------------------------------------------------------------
-- AVDS and Rosen
-- ---------------------------------------------------------------------------

/-- `TCP_CMD_AVDS_genericCommand_payload_t` says itself how long its data are.
The length is cut to the 16 bits of the message's. -/
def avdsGenericDirectCommand : Handler where
  payloadSize payload := 8 + (UInt32.ofNat (ofBytes ((payload.drop 4).take 4))).toNat % 2 ^ 16
  body env _ := do
    let deviceID ← word 0
    let dataLen ← word 4
    if env.accepts deviceID then touch 8 (dataLen.toNat % 2 ^ 16)
  within env size s payload hp hn := by
    refine below_bind (below_word (by omega)) (below_bind (below_word (by omega)) ?_)
    refine below_ite (fun _ => below_touch ?_) fun _ => below_pure
    rwa [word_value, word_buffer, word_of_payload hp (by omega)]

def avdsGenericDirectCommand1 : Handler := avdsGenericDirectCommand
def avdsGenericDirectCommand2 : Handler := avdsGenericDirectCommand

-- The sizes of `AVDS485Device_serviceSteveCommand_charSetChannel_data` and its siblings.
def charSetChannelDataSize : Nat := 5
def charGetChannelDataSize : Nat := 1
def charSetPropertyDataSize : Nat := 5
def charGetPropertyDataSize : Nat := 1

def avdsSerialSteveChannelSet : Handler := toDevice charSetChannelDataSize
def avdsSerialSteveVideoChannelSet : Handler := toDevice charSetChannelDataSize
def avdsSerialSteveChannelGet : Handler := toDevice charGetChannelDataSize
def avdsSerialSteveVideoChannelGet : Handler := toDevice charGetChannelDataSize
def avdsSerialSteveVolumeSet : Handler := toDevice charSetPropertyDataSize
def avdsSerialSteveVolumeGet : Handler := toDevice charGetPropertyDataSize
def avdsSerialSteveMuteSet : Handler := toDevice charSetPropertyDataSize
def avdsSerialSteveMuteGet : Handler := toDevice charGetPropertyDataSize
def avdsSerialSteveBassSet : Handler := toDevice charSetPropertyDataSize
def avdsSerialSteveBassGet : Handler := toDevice charGetPropertyDataSize
def avdsSerialSteveTrebleSet : Handler := toDevice charSetPropertyDataSize
def avdsSerialSteveTrebleGet : Handler := toDevice charGetPropertyDataSize

-- The sizes of `Rosen485Device_directCommandData_t` and `Rosen485Device_SteveCommandData_t`.
def rosenDirectCommandDataSize : Nat := 3
def rosenSteveCommandDataSize : Nat := 2

def rosenUDPSteveCommandDataSize : Nat := 8

def rosenGenericDirectCommand1 : Handler := toDevice rosenDirectCommandDataSize
def rosenGenericDirectCommand2 : Handler := toDevice rosenDirectCommandDataSize
def rosenPowerSetCommand : Handler := toDevice rosenSteveCommandDataSize
def rosenPowerGetCommand : Handler := toDevice rosenSteveCommandDataSize
def rosenSourceSetCommand : Handler := toDevice rosenSteveCommandDataSize
def rosenSourceGetCommand : Handler := toDevice rosenSteveCommandDataSize
def rosenDVDControlSetCommand : Handler := toDevice rosenSteveCommandDataSize
def rosenDVDPowerGetCommand : Handler := toDevice rosenSteveCommandDataSize
def rosenDVDLoadedGetCommand : Handler := toDevice rosenSteveCommandDataSize
def rosenDVDPlayingGetCommand : Handler := toDevice rosenSteveCommandDataSize
def rosenUDPSMSourceSetCommand : Handler := toDevice rosenUDPSteveCommandDataSize
def rosenUDPSMSourceGetCommand : Handler := toDevice rosenUDPSteveCommandDataSize

-- ---------------------------------------------------------------------------
-- System control
-- ---------------------------------------------------------------------------

def devicesFolder : List UInt8 := [0x64, 0x65, 0x76, 0x69, 0x63, 0x65, 0x73, 0x2F]

def deviceInfoFileSize : Nat := 36 + 64

def getHeartBeat : Handler := ignorePayload
def getOverAllStatus : Handler := ignorePayload
def getCompiledTime : Handler := ignorePayload
def getRAMDeviceList : Handler := ignorePayload
def getFlashDeviceList : Handler := ignorePayload
def getManufacturerInformationData : Handler := ignorePayload
def getConfigurationFile : Handler := ignorePayload
def reboot : Handler := ignorePayload

/-- The payload is a name. The handler ends it with a NUL in the packet. -/
def getFlashDataForFileName (sdk : Sdk) : Handler :=
  fixed sdk.objNameLen
    (fun env _ => do
      write (sdk.objNameLen - 1) [0]
      if env.mounted then
        let _fileName ← readUntil 0 0 packetSize
        return ())
    fun env _ s => by
      have hlen := sdk.folder_fits
      refine below_bind below_write (below_ite (fun _ => ?_) fun _ => below_pure)
      refine below_bind (below_readUntil (k := sdk.objNameLen - 1) ?_ (by omega)) below_pure
      rw [write_buffer, Nat.zero_add, Memory.write_at]

def endFileName (sdk : Sdk) : Routine UInt8 Unit := write (4 + sdk.objNameLen - 1) [0]

theorem below_fileName {sdk : Sdk} {n : Nat} {s s' : Access UInt8}
    (hs : s'.buffer = (endFileName sdk s).2.buffer) (hn : 4 + sdk.objNameLen ≤ n) :
    Below n (readUntil 0 4 packetSize) s' := by
  have hlen := sdk.folder_fits
  refine below_readUntil (k := sdk.objNameLen - 1) ?_ (by omega)
  rw [hs, endFileName, write_buffer, ← Nat.add_sub_assoc (by omega), Memory.write_at]

def setFlashDataForFileName (sdk : Sdk) : Handler where
  payloadSize payload :=
    4 + sdk.objNameLen + (UInt32.ofNat (ofBytes ((payload.drop 0).take 4))).toNat
  body env _ := do
    endFileName sdk
    let fileSize ← word 0
    if deviceInfoFileSize ≤ fileSize.toNat then
      let inFolder ← startsWith 4 devicesFolder
      if inFolder ∧ env.mounted then
        let _fileName ← readUntil 0 4 packetSize
        if env.opened then touch (4 + sdk.objNameLen) deviceInfoFileSize
  within env size s payload hp hn := by
    have hlen := sdk.folder_fits
    -- The NUL is behind the size, which is still that of the payload.
    have hsize : LittleEndian.word (endFileName sdk s).2.buffer 0 =
        UInt32.ofNat (ofBytes ((payload.drop 0).take 4)) := by
      rw [← word_of_payload hp (by omega), LittleEndian.word, LittleEndian.word, endFileName,
        write_buffer, Memory.read_write_of_disjoint (by omega)]
    refine below_bind below_write (below_bind (below_word (by omega)) ?_)
    refine below_ite (fun hfile => ?_) fun _ => below_pure
    rw [word_value, hsize] at hfile
    refine below_bind (below_startsWith (by change 4 + 8 ≤ _; omega)) ?_
    refine below_ite (fun _ => ?_) fun _ => below_pure
    have hname : 4 + sdk.objNameLen ≤ payload.length := by omega
    refine below_bind (below_fileName (s := s) ?_ hname) ?_
    · rw [startsWith_buffer, word_buffer]
    · exact below_ite (fun _ => below_touch (by omega)) fun _ => below_pure

def deleteFlashDataForFileName (sdk : Sdk) : Handler :=
  fixed (4 + sdk.objNameLen)
    (fun env _ => do
      endFileName sdk
      let fileSize ← word 0
      if fileSize = 0 then
        let inFolder ← startsWith 4 devicesFolder
        if inFolder ∧ env.mounted then
          let _fileName ← readUntil 0 4 packetSize
          return ())
    fun env _ s => by
      have hlen := sdk.folder_fits
      refine below_bind below_write (below_bind (below_word (by omega)) ?_)
      refine below_ite (fun _ => ?_) fun _ => below_pure
      refine below_bind (below_startsWith (by change 4 + 8 ≤ _; omega)) ?_
      refine below_ite (fun _ => ?_) fun _ => below_pure
      refine below_bind (below_fileName (s := s) ?_ (le_refl _)) below_pure
      rw [startsWith_buffer, word_buffer]

/-- The one handler that asks for the size received. It marks the block, in the
packet, before it is saved. -/
def setManufacturerInformationData : Handler :=
  fixed Eeprom.EepromData.codec.size
    (fun _ size => do
      if size = Eeprom.EepromData.codec.size then
        write 48 (toBytes 2 Eeprom.eepromCheckMarker.toNat)
        touch 0 Eeprom.EepromData.codec.size)
    fun _ _ _ => below_ite (fun _ => below_bind below_write (below_touch (by omega)))
      fun _ => below_pure

-- ---------------------------------------------------------------------------
-- Discrete channels and the analog output
-- ---------------------------------------------------------------------------

def dioIndexCount : Nat := 6

def get5VOutputPowerStatus : Handler := ignorePayload
def turnOn5VOutputPower : Handler := ignorePayload
def turnOff5VOutputPower : Handler := ignorePayload
def set5VOutputPower : Handler := ignorePayload

def getDIOConfiguration : Handler :=
  fixed 1 (fun _ _ => touch 0 1) fun _ _ _ => below_touch (by omega)

/-- The index is cut to a byte before it is checked. -/
def setDIODirection : Handler :=
  fixed 8
    (fun _ _ => do
      let index ← word 0
      if index.toUInt8.toNat < dioIndexCount then touch 4 4)
    fun _ _ _ => below_bind (below_word (by omega)) <|
      below_ite (fun _ => below_touch (by omega)) fun _ => below_pure

/-- All fields of `TCPBin_CMD_DIConfig_payload_t` but `DIIn`. -/
def setDIConfiguration (sdk : Sdk) : Handler :=
  fixed 28
    (fun _ _ => do
      let index ← word 0
      if index.toUInt8.toNat < dioIndexCount then
        let pinConfig ← word 4
        if pinConfig &&& sdk.gpioCfgIOMask ∈ sdk.gpioCfgInputs then
          touch 8 16
          touch 25 3)
    fun _ _ _ => by
      refine below_bind (below_word (by omega)) (below_ite (fun _ => ?_) fun _ => below_pure)
      refine below_bind (below_word (by omega)) (below_ite (fun _ => ?_) fun _ => below_pure)
      exact below_bind (below_touch (by omega)) (below_touch (by omega))

/-- All fields of `TCPBin_CMD_DOConfig_payload_t` but `DOOut` and `DOCtrl`. -/
def setDOConfiguration (sdk : Sdk) : Handler :=
  fixed 31
    (fun _ _ => do
      let index ← word 0
      if index.toUInt8.toNat < dioIndexCount then
        let pinConfig ← word 4
        if pinConfig &&& sdk.gpioCfgIOMask &&& 0x00f70000 ∈ sdk.gpioCfgOutputs then
          touch 8 16
          touch 26 5)
    fun _ _ _ => by
      refine below_bind (below_word (by omega)) (below_ite (fun _ => ?_) fun _ => below_pure)
      refine below_bind (below_word (by omega)) (below_ite (fun _ => ?_) fun _ => below_pure)
      exact below_bind (below_touch (by omega)) (below_touch (by omega))

def setDOValue : Handler :=
  fixed 8
    (fun _ _ => do
      let index ← word 0
      if index.toNat < dioIndexCount then touch 4 4)
    fun _ _ _ => below_bind (below_word (by omega)) <|
      below_ite (fun _ => below_touch (by omega)) fun _ => below_pure

def setDOToggle : Handler := wordPayload

def setVoltageValue : Handler := wordPayload

-- ---------------------------------------------------------------------------
-- Production test and flash memory
-- ---------------------------------------------------------------------------

def resetCounters : Handler := ignorePayload
def getCounters : Handler := ignorePayload
def setGPIOAsInput : Handler := ignorePayload
def setGPIOAsOutput : Handler := ignorePayload
def setGPIOOutputValue : Handler := wordPayload
def getGPIOInputValue : Handler := ignorePayload
def memoryTestEEPROM : Handler := ignorePayload
def memoryTestInternalFlash : Handler := ignorePayload
def memoryTestExternalFlash : Handler := ignorePayload
def setIROutputValue : Handler := wordPayload
def getIRInputValue : Handler := ignorePayload

def getInternalFlashStatus : Handler := ignorePayload
def formatInternalFlashStatus : Handler := ignorePayload
def getExternalFlashStatus : Handler := ignorePayload
def formatExternalFlashStatus : Handler := ignorePayload

end SystemMaster.Tcp
