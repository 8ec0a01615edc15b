import SystemMaster.Library.LittleEndian

/-!
# Commands to a device

A command of the client that names a device is handed on to it as a message. The
request says to which service and characteristic of the device it goes, and to
which service and characteristic of the controller the answer is to come back.
The ids of the families overlap.
-/

namespace SystemMaster.Tcp.Device

open LittleEndian

@[match_pattern] def amplifierClassReturn : UInt16 := 1
@[match_pattern] def altoMultinetClassReturn : UInt16 := 2
@[match_pattern] def rawCharacteristicDataClassReturn : UInt16 := 3
@[match_pattern] def avdsClassReturn : UInt16 := 6
@[match_pattern] def avdsSerialClassReturn : UInt16 := 7
@[match_pattern] def rosenServiceReturn : UInt16 := 8

@[match_pattern] def altoAmpInputSelect : UInt16 := 0x0809
@[match_pattern] def altoAmpVolume : UInt16 := 0x0811
@[match_pattern] def altoAmpBass : UInt16 := 0x0812
@[match_pattern] def altoAmpTreble : UInt16 := 0x0813
@[match_pattern] def altoAmpMute : UInt16 := 0x0814
@[match_pattern] def altoAmpCompressor : UInt16 := 0x0820
@[match_pattern] def altoAmpLoudness : UInt16 := 0x0821
@[match_pattern] def altoAmpHPInputSelect : UInt16 := 0x0709
@[match_pattern] def altoAmpHPVolume : UInt16 := 0x0711
@[match_pattern] def altoAmpHPMute : UInt16 := 0x0714
@[match_pattern] def altoAmpDirectCommand : UInt16 := 0xFFFF
@[match_pattern] def altoMultinetDetailedStatus : UInt16 := 0x0110
@[match_pattern] def altoMultinetLocalRemote : UInt16 := 0x0B51
@[match_pattern] def avdsAltoEmulator : UInt16 := 0x0001
@[match_pattern] def avdsRS485SteveCommands : UInt16 := 0x0202
@[match_pattern] def rosenRS485AltoEmulator : UInt16 := 0x0001
@[match_pattern] def rosenRS485SteveCommands : UInt16 := 0x0008
@[match_pattern] def rosenUDPSteveCommands : UInt16 := 0x0103

/-- A request as its builder hands it to `xDevice_sendCharDataMsg`. The service and
the characteristic of the device come first, then those of the controller. -/
structure Request where
  svcUUID : UInt16
  paramID : UInt8
  retSvcUUID : UInt16
  retParamID : UInt8
  deriving DecidableEq, Repr

inductive Operation where
  | get
  | set
  deriving DecidableEq, Repr

def Operation.paramID : Operation → UInt8
  | .get => 1
  | .set => 2

inductive AmplifierFunction where
  | inputSelect
  | volume
  | bass
  | treble
  | mute
  | compressor
  | loudness
  deriving DecidableEq, Repr

def AmplifierFunction.service : AmplifierFunction → UInt16
  | .inputSelect => altoAmpInputSelect
  | .volume => altoAmpVolume
  | .bass => altoAmpBass
  | .treble => altoAmpTreble
  | .mute => altoAmpMute
  | .compressor => altoAmpCompressor
  | .loudness => altoAmpLoudness

inductive HeadphoneFunction where
  | inputSelect
  | volume
  | mute
  deriving DecidableEq, Repr

def HeadphoneFunction.service : HeadphoneFunction → UInt16
  | .inputSelect => altoAmpHPInputSelect
  | .volume => altoAmpHPVolume
  | .mute => altoAmpHPMute

inductive ExtendedFunction where
  | activeConfigDatabase
  | softChangeConfigDatabase
  | analogSelectAB1
  | analogSelectAB2
  | audioFormat
  | surroundEnable
  | dspRegisterRW
  deriving DecidableEq, Repr

inductive SerialFunction where
  | channel
  | videoChannel
  | volume
  | mute
  | bass
  | treble
  deriving DecidableEq, Repr

inductive RosenFunction where
  | powerSet
  | powerGet
  | sourceSet
  | sourceGet
  | dvdControlSet
  | dvdPowerGet
  | dvdLoadedGet
  | dvdPlayingGet
  deriving DecidableEq, Repr

inductive Command where
  | rawCharDataMsg
  | altoAmp (f : AmplifierFunction) (op : Operation)
  | altoAmpHP (f : HeadphoneFunction) (op : Operation)
  | altoAmpDirectCommand1
  | altoAmpDirectCommand2
  | altoAmpExtended (f : ExtendedFunction) (op : Operation)
  | altoMultinetGetRelay
  | altoMultinetSetInput
  | altoMultinetTriggerLocalRemote
  | altoMultinetGetGate
  | altoMultinetSetGate
  | altoMultinetGetPot
  | avdsDirectCommand1
  | avdsDirectCommand2
  | avdsSerialSteve (f : SerialFunction) (op : Operation)
  | rosenDirectCommand1
  | rosenDirectCommand2
  | rosen (f : RosenFunction)
  | rosenUDPSMSourceSet
  | rosenUDPSMSourceGet
  deriving DecidableEq, Repr

/-- The getters come before the setters, except in the serial family. -/
def Operation.offset : Operation → UInt32
  | .get => 0
  | .set => 2

def AmplifierFunction.type : AmplifierFunction → UInt32
  | .inputSelect => 100
  | .volume => 104
  | .bass => 108
  | .treble => 112
  | .mute => 116
  | .compressor => 120
  | .loudness => 124

def HeadphoneFunction.type : HeadphoneFunction → UInt32
  | .inputSelect => 128
  | .volume => 132
  | .mute => 136

def ExtendedFunction.type : ExtendedFunction → UInt32
  | .activeConfigDatabase => 504
  | .softChangeConfigDatabase => 508
  | .analogSelectAB1 => 512
  | .analogSelectAB2 => 516
  | .audioFormat => 520
  | .surroundEnable => 524
  | .dspRegisterRW => 528

def SerialFunction.type : SerialFunction → Operation → UInt32
  | .channel, .set => 704
  | .channel, .get => 706
  | .volume, .set => 708
  | .volume, .get => 710
  | .mute, .set => 712
  | .mute, .get => 714
  | .bass, .set => 716
  | .bass, .get => 718
  | .treble, .set => 720
  | .treble, .get => 722
  | .videoChannel, .set => 724
  | .videoChannel, .get => 726

def RosenFunction.type : RosenFunction → UInt32
  | .powerSet => 804
  | .powerGet => 806
  | .sourceSet => 808
  | .sourceGet => 810
  | .dvdControlSet => 812
  | .dvdPowerGet => 814
  | .dvdLoadedGet => 816
  | .dvdPlayingGet => 818

def Command.type : Command → UInt32
  | .rawCharDataMsg => 2
  | .altoAmp f op => f.type + op.offset
  | .altoAmpHP f op => f.type + op.offset
  | .altoMultinetGetRelay => 150
  | .altoMultinetSetInput => 160
  | .altoMultinetTriggerLocalRemote => 162
  | .altoMultinetGetGate => 164
  | .altoMultinetSetGate => 166
  | .altoMultinetGetPot => 180
  | .altoAmpDirectCommand1 => 500
  | .altoAmpDirectCommand2 => 502
  | .altoAmpExtended f op => f.type + op.offset
  | .avdsDirectCommand1 => 700
  | .avdsDirectCommand2 => 702
  | .avdsSerialSteve f op => f.type op
  | .rosenDirectCommand1 => 800
  | .rosenDirectCommand2 => 802
  | .rosen f => f.type
  | .rosenUDPSMSourceSet => 820
  | .rosenUDPSMSourceGet => 822

/-- The enumeration has each command's response right behind it. -/
def Command.response (c : Command) : UInt32 := c.type + 1

-- ---------------------------------------------------------------------------
-- Request builders
-- ---------------------------------------------------------------------------

@[match_pattern] def amplifierClass : UInt16 := 1
@[match_pattern] def headphoneClass : UInt16 := 2
@[match_pattern] def directCommandClass : UInt16 := 3

namespace Request

def altoAmp (f : AmplifierFunction) (op : Operation) : Request :=
  ⟨f.service, op.paramID, amplifierClassReturn, 1⟩

def altoAmpHP (f : HeadphoneFunction) (op : Operation) : Request :=
  ⟨f.service, op.paramID, amplifierClassReturn, 2⟩

def altoAmpDirectCommand1 : Request := ⟨altoAmpDirectCommand, 1, amplifierClassReturn, 3⟩

def altoMultinetRelayGet : Request :=
  ⟨altoMultinetDetailedStatus, 2, altoMultinetClassReturn, 1⟩
def altoMultinetSetSwitchOnOff : Request :=
  ⟨altoMultinetLocalRemote, 1, altoMultinetClassReturn, 3⟩
def altoMultinetTriggerLocalRemote : Request :=
  ⟨altoMultinetLocalRemote, 2, altoMultinetClassReturn, 3⟩
def altoMultinetGetGate : Request :=
  ⟨altoMultinetLocalRemote, 3, altoMultinetClassReturn, 3⟩
def altoMultinetSetGate : Request :=
  ⟨altoMultinetLocalRemote, 4, altoMultinetClassReturn, 3⟩
def altoMultinetPotGet : Request :=
  ⟨altoMultinetDetailedStatus, 3, altoMultinetClassReturn, 1⟩

def rawCharacteristicData : Request :=
  ⟨altoMultinetLocalRemote, 4, rawCharacteristicDataClassReturn, 1⟩

-- Both come back to the amplifier's service, not to `avdsClassReturn`.
def avdsGenericDirectCommand1 : Request := ⟨avdsAltoEmulator, 1, amplifierClassReturn, 1⟩
def avdsGenericDirectCommand2 : Request := ⟨avdsAltoEmulator, 1, amplifierClassReturn, 2⟩

/-- `CHARACTERISTIC_SERVICE_AVDSRS485DEVICE_STEVE_COMMAND_SERIAL_*`. The video channel
goes to the characteristic of the channel. -/
def serialParamID : SerialFunction → Operation → UInt8
  | .channel, .set => 1
  | .videoChannel, .set => 1
  | .channel, .get => 2
  | .videoChannel, .get => 2
  | .volume, .set => 3
  | .volume, .get => 4
  | .mute, .set => 5
  | .mute, .get => 6
  | .bass, .set => 7
  | .bass, .get => 8
  | .treble, .set => 9
  | .treble, .get => 10

def serialRetParamID : SerialFunction → Operation → UInt8
  | .channel, .set => 1
  | .videoChannel, .set => 2
  | .channel, .get => 3
  | .videoChannel, .get => 4
  | .volume, .set => 5
  | .volume, .get => 6
  | .mute, .set => 7
  | .mute, .get => 8
  | .bass, .set => 9
  | .bass, .get => 10
  | .treble, .set => 11
  | .treble, .get => 12

def avdsSerialSteve (f : SerialFunction) (op : Operation) : Request :=
  ⟨avdsRS485SteveCommands, serialParamID f op, avdsSerialClassReturn,
    serialRetParamID f op⟩

def rosenGenericDirectCommand1 : Request := ⟨rosenRS485AltoEmulator, 1, rosenServiceReturn, 1⟩
def rosenGenericDirectCommand2 : Request := ⟨rosenRS485AltoEmulator, 2, rosenServiceReturn, 2⟩

def rosenParamID : RosenFunction → UInt8
  | .powerSet => 1
  | .powerGet => 2
  | .sourceSet => 3
  | .sourceGet => 4
  | .dvdControlSet => 5
  | .dvdPowerGet => 6
  | .dvdLoadedGet => 7
  | .dvdPlayingGet => 8

/-- `TCPBin_ROSENPowerSetCommand` to `TCPBin_ROSENDVDPlayingGetCommand`. The two direct
commands come before these in the enumeration. -/
def rosen (f : RosenFunction) : Request :=
  ⟨rosenRS485SteveCommands, rosenParamID f, rosenServiceReturn, rosenParamID f + 2⟩

def rosenUDPSMSourceSet : Request := ⟨rosenUDPSteveCommands, 1, rosenServiceReturn, 11⟩
def rosenUDPSMSourceGet : Request := ⟨rosenUDPSteveCommands, 2, rosenServiceReturn, 12⟩

end Request

def Command.request : Command → Request
  | .rawCharDataMsg => .rawCharacteristicData
  | .altoAmp f op => .altoAmp f op
  | .altoAmpHP f op => .altoAmpHP f op
  | .altoAmpDirectCommand1 => .altoAmpDirectCommand1
  -- The table has the first direct command's builder here, too.
  | .altoAmpDirectCommand2 => .altoAmpDirectCommand1
  | .altoAmpExtended _ _ => .altoAmpDirectCommand1
  | .altoMultinetGetRelay => .altoMultinetRelayGet
  | .altoMultinetSetInput => .altoMultinetSetSwitchOnOff
  | .altoMultinetTriggerLocalRemote => .altoMultinetTriggerLocalRemote
  | .altoMultinetGetGate => .altoMultinetGetGate
  | .altoMultinetSetGate => .altoMultinetSetGate
  | .altoMultinetGetPot => .altoMultinetPotGet
  | .avdsDirectCommand1 => .avdsGenericDirectCommand1
  | .avdsDirectCommand2 => .avdsGenericDirectCommand2
  | .avdsSerialSteve f op => .avdsSerialSteve f op
  | .rosenDirectCommand1 => .rosenGenericDirectCommand1
  | .rosenDirectCommand2 => .rosenGenericDirectCommand2
  | .rosen f => .rosen f
  | .rosenUDPSMSourceSet => .rosenUDPSMSourceSet
  | .rosenUDPSMSourceGet => .rosenUDPSMSourceGet

-- ---------------------------------------------------------------------------
-- Messages
-- ---------------------------------------------------------------------------

inductive MsgType where
  | serviceWrite
  | errorHandler
  deriving DecidableEq, Repr

/-- `char_data_t`. Behind the `dataLen` bytes of `data` lies whatever the heap holds. -/
structure CharData where
  connHandle : Int
  retDeviceID : UInt32
  svcUUID : UInt16
  retSvcUUID : UInt16
  dataLen : UInt16
  paramID : UInt16
  retParamID : UInt16
  data : Memory UInt8

structure Msg where
  type : MsgType
  pdu : CharData

/-- `vDevice_enqueueCharDataMsg`, the message it puts in the queue. The length is passed
as a `uint16_t`. -/
def charDataMsg (heap : Memory UInt8) (type : MsgType) (connHandle : Int) (serviceUUID : UInt16)
    (paramID : UInt8) (retDeviceID : UInt32) (retServiceUUID : UInt16) (retParamID : UInt8)
    (value : List UInt8) : Msg where
  type := type
  pdu.connHandle := connHandle
  pdu.retDeviceID := retDeviceID
  pdu.svcUUID := serviceUUID
  pdu.retSvcUUID := retServiceUUID
  pdu.dataLen := UInt16.ofNat value.length
  pdu.paramID := paramID.toUInt16
  pdu.retParamID := retParamID.toUInt16
  pdu.data := heap.write 0 (value.take (UInt16.ofNat value.length).toNat)

/-- What a device posts back on a request: bytes, by `vDevice_sendCharDataMsg`, or an
error, by `xDevice_sendErrorMsg`. -/
inductive Answer where
  | reply (bytes : List UInt8)
  | error (code : UInt32)
  deriving DecidableEq, Repr

namespace Answer

def type : Answer → MsgType
  | .reply _ => .serviceWrite
  | .error _ => .errorHandler

def value : Answer → List UInt8
  | .reply bytes => bytes
  | .error code => wordBytes code

def message (heap : Memory UInt8) (r : Request) (clientfd : Int) (deviceID : UInt32)
    (a : Answer) : Msg :=
  charDataMsg heap a.type clientfd r.retSvcUUID r.retParamID deviceID r.svcUUID r.paramID a.value

end Answer

end SystemMaster.Tcp.Device
