import SystemMaster.Library.Codec

/-!
# The configuration blocks of the EEPROM

Five structures live at hand-chosen addresses, and the memory test writes a
word at a sixth. The layouts follow the structures of `EEPROMStorage.h`, with
the padding the compiler puts after them.
-/

namespace SystemMaster.Eeprom

open Codec

structure EepromData where
  unitSerialNumber : UInt32
  udpUnitNumber : UInt32
  serialBaudRate : Vector UInt32 8
  canBaudRate : Vector UInt32 2
  eepromCheck : UInt16
  boardHardwareVersion : UInt8
  unitSubTypeCode : UInt8
  aircraftMFGCode : UInt8
  aircraftModelCode : UInt8
  aircraftLayoutCode : UInt8
  configVersion : UInt8
  mpRevision : UInt8
  deriving DecidableEq

structure DIConfigData where
  diDebounceDly : UInt32
  diRptStartDly : UInt32
  diRptDly : UInt32
  diBypassEn : UInt8
  diModeSel : UInt8
  diDebounceEn : UInt8
  deriving DecidableEq

structure DOConfigData where
  doA : UInt32
  doB : UInt32
  doBCtr : UInt32
  doBypassEn : UInt8
  doModeSel : UInt8
  doBlinkEnSel : UInt8
  doInv : UInt8
  deriving DecidableEq

structure DIOCfgData where
  dioCfg : Vector UInt32 6
  doSyncCtrMax : UInt32
  diConfig : Vector DIConfigData 6
  di5VOutStatus : DIConfigData
  diInternal5VSwStatus : DIConfigData
  diIRDARx : DIConfigData
  diTempAlert : DIConfigData
  doConfig : Vector DOConfigData 6
  do5VOutEn : DOConfigData
  doPWRPeripheralEn : DOConfigData
  doUARTDebug : DOConfigData
  doSerial5En : DOConfigData
  doLEDD6 : DOConfigData
  doLEDD20 : DOConfigData
  doUSB0EPEn : DOConfigData
  deriving DecidableEq

structure IpConfigData where
  isIPAuto : UInt32
  ipAddr : UInt32
  ipMask : UInt32
  ipGateAddr : UInt32
  domain : Vector UInt8 64
  deriving DecidableEq

structure MacConfigData where
  macReg0 : UInt32
  macReg1 : UInt32
  deriving DecidableEq

structure DebugCfgData where
  sysLogDisplay : UInt32
  deriving DecidableEq

def EepromData.codec : Codec EepromData :=
  pad 3 <| (u32.prod <| u32.prod <| (u32.vector 8).prod <| (u32.vector 2).prod <| u16.prod <|
    u8.prod <| u8.prod <| u8.prod <| u8.prod <| u8.prod <| u8.prod u8).map
    (fun (a, b, c, d, e, f, g, h, i, j, k, l) => ⟨a, b, c, d, e, f, g, h, i, j, k, l⟩)
    (fun v => (v.unitSerialNumber, v.udpUnitNumber, v.serialBaudRate, v.canBaudRate,
      v.eepromCheck, v.boardHardwareVersion, v.unitSubTypeCode, v.aircraftMFGCode,
      v.aircraftModelCode, v.aircraftLayoutCode, v.configVersion, v.mpRevision))
    fun _ => rfl

def DIConfigData.codec : Codec DIConfigData :=
  pad 1 <| (u32.prod <| u32.prod <| u32.prod <| u8.prod <| u8.prod u8).map
    (fun (a, b, c, d, e, f) => ⟨a, b, c, d, e, f⟩)
    (fun v => (v.diDebounceDly, v.diRptStartDly, v.diRptDly, v.diBypassEn, v.diModeSel,
      v.diDebounceEn))
    fun _ => rfl

def DOConfigData.codec : Codec DOConfigData :=
  (u32.prod <| u32.prod <| u32.prod <| u8.prod <| u8.prod <| u8.prod u8).map
    (fun (a, b, c, d, e, f, g) => ⟨a, b, c, d, e, f, g⟩)
    (fun v => (v.doA, v.doB, v.doBCtr, v.doBypassEn, v.doModeSel, v.doBlinkEnSel, v.doInv))
    fun _ => rfl

def DIOCfgData.codec : Codec DIOCfgData :=
  ((u32.vector 6).prod <| u32.prod <| (DIConfigData.codec.vector 6).prod <|
    DIConfigData.codec.prod <| DIConfigData.codec.prod <| DIConfigData.codec.prod <|
    DIConfigData.codec.prod <| (DOConfigData.codec.vector 6).prod <| DOConfigData.codec.prod <|
    DOConfigData.codec.prod <| DOConfigData.codec.prod <| DOConfigData.codec.prod <|
    DOConfigData.codec.prod <| DOConfigData.codec.prod DOConfigData.codec).map
    (fun (a, b, c, d, e, f, g, h, i, j, k, l, m, n, o) =>
      ⟨a, b, c, d, e, f, g, h, i, j, k, l, m, n, o⟩)
    (fun v => (v.dioCfg, v.doSyncCtrMax, v.diConfig, v.di5VOutStatus, v.diInternal5VSwStatus,
      v.diIRDARx, v.diTempAlert, v.doConfig, v.do5VOutEn, v.doPWRPeripheralEn, v.doUARTDebug,
      v.doSerial5En, v.doLEDD6, v.doLEDD20, v.doUSB0EPEn))
    fun _ => rfl

def IpConfigData.codec : Codec IpConfigData :=
  (u32.prod <| u32.prod <| u32.prod <| u32.prod <| u8.vector 64).map
    (fun (a, b, c, d, e) => ⟨a, b, c, d, e⟩)
    (fun v => (v.isIPAuto, v.ipAddr, v.ipMask, v.ipGateAddr, v.domain))
    fun _ => rfl

def MacConfigData.codec : Codec MacConfigData :=
  (u32.prod u32).map (fun (a, b) => ⟨a, b⟩) (fun v => (v.macReg0, v.macReg1)) fun _ => rfl

def DebugCfgData.codec : Codec DebugCfgData :=
  u32.map (fun a => ⟨a⟩) (fun v => v.sysLogDisplay) fun _ => rfl

-- ---------------------------------------------------------------------------
-- Blocks and their addresses
-- ---------------------------------------------------------------------------

inductive Block where
  | data
  | dio
  | mac
  | ip
  | debug
  deriving DecidableEq, Repr

abbrev Block.Value : Block → Type
  | .data => EepromData
  | .dio => DIOCfgData
  | .mac => MacConfigData
  | .ip => IpConfigData
  | .debug => DebugCfgData

def Block.codec : (b : Block) → Codec b.Value
  | .data => EepromData.codec
  | .dio => DIOCfgData.codec
  | .mac => MacConfigData.codec
  | .ip => IpConfigData.codec
  | .debug => DebugCfgData.codec

def Block.address : Block → Nat
  | .data => 0x000
  | .dio => 0x080
  | .mac => 0x290
  | .ip => 0x300
  | .debug => 0x400

def memTestAddress : Nat := 0x200

def Block.order : List Block := [.data, .dio, .mac, .ip, .debug]

theorem Block.size_eq (b : Block) : b.codec.size =
    match b with
    | .data => 60
    | .dio => 396
    | .mac => 8
    | .ip => 80
    | .debug => 4 := by
  cases b <;> rfl

theorem Block.disjoint {b b' : Block} (h : b ≠ b') :
    b.address + b.codec.size ≤ b'.address ∨ b'.address + b'.codec.size ≤ b.address := by
  rw [Block.size_eq, Block.size_eq]
  cases b <;> cases b' <;> first | exact absurd rfl h | decide

theorem Block.disjoint_memTest {b : Block} (h : b ≠ .dio) :
    b.address + b.codec.size ≤ memTestAddress ∨ memTestAddress + u32.size ≤ b.address := by
  rw [Block.size_eq]
  cases b <;> first | exact absurd rfl h | decide

theorem doB_doUSB0EPEn (m : Memory UInt8) :
    (DIOCfgData.codec.load m Block.dio.address).doUSB0EPEn.doB = u32.load m memTestAddress := by
  simp only [DIOCfgData.codec, DOConfigData.codec, load_map, load_prod]
  rfl

-- ---------------------------------------------------------------------------
-- Defaults
-- ---------------------------------------------------------------------------

/-- `DEFAULT_EEPROM_CHECK`. -/
def eepromCheckMarker : UInt16 := 0xAA55

def defaultEepromData : EepromData where
  unitSerialNumber := 123456
  udpUnitNumber := 1
  serialBaudRate := Vector.replicate 8 115200
  canBaudRate := Vector.replicate 2 500000
  eepromCheck := eepromCheckMarker
  boardHardwareVersion := 1
  unitSubTypeCode := 1
  aircraftMFGCode := 1
  aircraftModelCode := 1
  aircraftLayoutCode := 1
  configVersion := 0
  mpRevision := 1

def diModeDirect : UInt8 := 2
def diModeInv : UInt8 := 3
def doModeDirect : UInt8 := 2
def doBlinkEnNormal : UInt8 := 1

def defaultDIConfig (diModeSel : UInt8) : DIConfigData where
  diDebounceDly := 50
  diRptStartDly := 500
  diRptDly := 200
  diBypassEn := 0
  diModeSel := diModeSel
  diDebounceEn := 0

def defaultDOConfig (doInv : UInt8) : DOConfigData where
  doA := 500
  doB := 1000
  doBCtr := 0
  doBypassEn := 0
  doModeSel := doModeDirect
  doBlinkEnSel := doBlinkEnNormal
  doInv := doInv

/-- `gpioCfg` is `GPIO_CFG_IN_PU | GPIO_CFG_IN_INT_BOTH_EDGES`. -/
def defaultDIOCfgData (gpioCfg : UInt32) : DIOCfgData where
  dioCfg := Vector.replicate 6 gpioCfg
  doSyncCtrMax := 1000
  diConfig := Vector.replicate 6 (defaultDIConfig diModeDirect)
  di5VOutStatus := defaultDIConfig diModeInv
  diInternal5VSwStatus := defaultDIConfig diModeInv
  diIRDARx := defaultDIConfig diModeDirect
  diTempAlert := defaultDIConfig diModeDirect
  doConfig := Vector.replicate 6 (defaultDOConfig 0)
  do5VOutEn := defaultDOConfig 0
  doPWRPeripheralEn := defaultDOConfig 1
  doUARTDebug := defaultDOConfig 1
  doSerial5En := defaultDOConfig 1
  doLEDD6 := defaultDOConfig 1
  doLEDD20 := defaultDOConfig 1
  doUSB0EPEn := defaultDOConfig 0

def defaultIpConfigData : IpConfigData where
  isIPAuto := 1
  ipAddr := 0x0201A8C0
  ipMask := 0x00FFFFFF
  ipGateAddr := 0x0101A8C0
  domain := Vector.ofFn fun i =>
    (['A', 'L', 'T', 'O', '.', 'n', 'e', 't'].map Char.toUInt8).getD i 0

def defaultMacConfigData : MacConfigData where
  macReg0 := 0x00B61A00
  macReg1 := 0x0055BF03

def defaultDebugCfgData : DebugCfgData where
  sysLogDisplay := 0

def defaults (gpioCfg : UInt32) : (b : Block) → b.Value
  | .data => defaultEepromData
  | .dio => defaultDIOCfgData gpioCfg
  | .mac => defaultMacConfigData
  | .ip => defaultIpConfigData
  | .debug => defaultDebugCfgData

end SystemMaster.Eeprom
