import SystemMaster.Dio.Channels
import SystemMaster.Eeprom.Storage

/-!
# Commands that configure the channels

The three set commands of the TCP protocol change the tables and the block of
the EEPROM; a start fills the tables from the block. The pin configurations are
constants of the driver library, given by its header.
-/

namespace SystemMaster.Dio

open Eeprom

/-- The `GPIO_CFG_…` constants. -/
structure GpioCfg where
  inNoPull : UInt32
  inPU : UInt32
  inPD : UInt32
  outStd : UInt32
  outODNoPull : UInt32
  outODPU : UInt32
  outODPD : UInt32
  inIntBothEdges : UInt32
  outStrLow : UInt32
  outLow : UInt32
  ioMask : UInt32
  input : UInt32

namespace GpioCfg

def asInput (g : GpioCfg) : UInt32 := g.inPU ||| g.inIntBothEdges

def asOutput (g : GpioCfg) : UInt32 := g.outODPU ||| g.outStrLow ||| g.outLow

def isInput (g : GpioCfg) (pinConfig : UInt32) : Bool := pinConfig &&& g.input ≠ 0

def inTypes (g : GpioCfg) : List UInt32 := [g.inNoPull, g.inPU, g.inPD]

def outTypes (g : GpioCfg) : List UInt32 := [g.outStd, g.outODNoPull, g.outODPU, g.outODPD]

/-- Input configurations have the input bit, and output configurations do not. -/
structure Documented (g : GpioCfg) : Prop where
  input : g.isInput g.asInput = true
  output : g.isInput g.asOutput = false

end GpioCfg

variable (g : GpioCfg)

def dioIndexCount : Nat := 6

def dioIndex (index : UInt32) : Option (Fin 6) :=
  if h : index.toUInt8.toNat < dioIndexCount then some ⟨index.toUInt8.toNat, h⟩ else none

structure DIODirection where
  index : UInt32
  pinConfig : UInt32

structure DIConfiguration where
  index : UInt32
  pinConfig : UInt32
  diVal : UInt32
  diDebounceDly : UInt32
  diRptStartDly : UInt32
  diRptDly : UInt32
  diBypassEn : UInt8
  diModeSel : UInt8
  diDebounceEn : UInt8

structure DOConfiguration where
  index : UInt32
  pinConfig : UInt32
  doA : UInt32
  doB : UInt32
  doBCtr : UInt32
  doSyncCtrMax : UInt32
  doBypass : UInt8
  doBypassEn : UInt8
  doModeSel : UInt8
  doBlinkEnSel : UInt8
  doInv : UInt8

structure Device where
  eeprom : Eeprom.State
  live : Live

/-- `g_sEEPROMDIOCfgData`. -/
def Device.info (d : Device) : DIOCfgData := d.eeprom.ram .dio

-- ---------------------------------------------------------------------------
-- Handlers
-- ---------------------------------------------------------------------------

/-- Where `setDIODirection` looks for the direction. -/
def directionMask : UInt32 := 0x00f70000

/-- The configuration a direction command sets, when its own is one of the switch. -/
def DIODirection.asType (pConfg : DIODirection) : Option UInt32 :=
  let type := pConfg.pinConfig &&& g.ioMask &&& directionMask
  if type ∈ g.inTypes then some g.asInput
  else if type ∈ g.outTypes then some g.asOutput
  else none

/-- `vTCPRCBin_DiscreteIO_setDIODirection`; the block is programmed in any case. -/
def setDIODirection (d : Device) (pConfg : DIODirection) : Device :=
  match dioIndex pConfg.index with
  | none => d
  | some i =>
    match pConfg.asType g with
    | some pinConfig =>
      { eeprom := eepDIOConfgSet d.eeprom { d.info with dioCfg := d.info.dioCfg.set i pinConfig }
        live := d.live.gpioSetConfig i pinConfig }
    | none => { d with eeprom := eepDIOConfgSet d.eeprom d.info }

def DIConfiguration.record (pConfg : DIConfiguration) : DIConfigData where
  diDebounceDly := pConfg.diDebounceDly
  diRptStartDly := pConfg.diRptStartDly
  diRptDly := pConfg.diRptDly
  diBypassEn := pConfg.diBypassEn
  diModeSel := pConfg.diModeSel
  diDebounceEn := pConfg.diDebounceEn

def DIConfiguration.configure (pConfg : DIConfiguration) (i : Fin 6) (l : Live) : Live :=
  let l := l.diCfgMode (.gpi i) pConfg.diModeSel
  let l := l.diSetBypassEn (.gpi i) (pConfg.diBypassEn ≠ 0)
  let l := l.diSetBypass (.gpi i) pConfg.diVal
  let l := l.diCfgDebounce (.gpi i) pConfg.diDebounceDly pConfg.diRptStartDly pConfg.diRptDly
  l.diSetDebounceEn (.gpi i) (pConfg.diDebounceEn ≠ 0)

def DIConfiguration.accepted (pConfg : DIConfiguration) : Bool :=
  pConfg.pinConfig &&& g.ioMask ∈ g.inTypes

def setDIConfiguration (d : Device) (pConfg : DIConfiguration) : Device :=
  match dioIndex pConfg.index with
  | none => d
  | some i =>
    if pConfg.accepted g then
      { eeprom := eepDIOConfgSet d.eeprom
          { d.info with
            dioCfg := d.info.dioCfg.set i pConfg.pinConfig
            diConfig := d.info.diConfig.set i pConfg.record }
        live := pConfg.configure i (d.live.gpioSetConfig i pConfg.pinConfig) }
    else d

def DOConfiguration.record (pConfg : DOConfiguration) : DOConfigData where
  doA := pConfg.doA
  doB := pConfg.doB
  doBCtr := pConfg.doBCtr
  doBypassEn := pConfg.doBypassEn
  doModeSel := pConfg.doModeSel
  doBlinkEnSel := pConfg.doBlinkEnSel
  doInv := pConfg.doInv

/-- The bypass is set before it is enabled. -/
def DOConfiguration.configure (pConfg : DOConfiguration) (i : Fin 6) (l : Live) : Live :=
  let l := l.doCfgMode (.gpo i) pConfg.doModeSel (pConfg.doInv ≠ 0)
  let l := l.doSetBypass (.gpo i) (pConfg.doBypass ≠ 0)
  let l := l.doSetBypassEn (.gpo i) (pConfg.doBypassEn ≠ 0)
  let l := l.doCfgBlink (.gpo i) pConfg.doBlinkEnSel pConfg.doA pConfg.doB
  l.doSetSyncCtrMax pConfg.doSyncCtrMax

def DOConfiguration.accepted (pConfg : DOConfiguration) : Bool :=
  pConfg.pinConfig &&& g.ioMask &&& directionMask ∈ g.outTypes

def setDOConfiguration (d : Device) (pConfg : DOConfiguration) : Device :=
  match dioIndex pConfg.index with
  | none => d
  | some i =>
    if pConfg.accepted g then
      { eeprom := eepDIOConfgSet d.eeprom
          { d.info with
            dioCfg := d.info.dioCfg.set i pConfg.pinConfig
            doConfig := d.info.doConfig.set i pConfg.record
            doSyncCtrMax := pConfg.doSyncCtrMax }
        live := pConfg.configure i (d.live.gpioSetConfig i pConfg.pinConfig) }
    else d

-- ---------------------------------------------------------------------------
-- Starts
-- ---------------------------------------------------------------------------

/-- `DIO_init`, with the other fields as they are before the program runs. -/
def dioInit : Live where
  diTbl _ :=
    { diIn := false
      diVal := 0
      diPrev := false
      diBypassEn := false
      diModeSel := diModeDirect
      diDebounceEn := false
      diDebounceDly := 3
      diRptStartDly := 50
      diRptDly := 10 }
  doTbl _ :=
    { doOut := false
      doCtrl := false
      doBypass := false
      doBypassEn := false
      doModeSel := doModeDirect
      doBlinkEnSel := doBlinkEnNormal
      doInv := false
      doA := 1
      doB := 2
      doBCtr := 2 }
  doSyncCtr := 0
  doSyncCtrMax := 72 / dioTaskDlyTicks
  pinConfig _ := 0

def eachChannel (f : Live → Fin 6 → Live) (l : Live) : Live := (List.finRange 6).foldl f l

def discreteIOInit (info : DIOCfgData) : Live :=
  let l := dioInit
  let l := l.diCfgMode .fiveVOutStat info.di5VOutStatus.diModeSel
  let l := l.diCfgMode .internal5VSwStatus info.diInternal5VSwStatus.diModeSel
  let l := l.diCfgMode .irdaRx info.diIRDARx.diModeSel
  let l := l.diCfgMode .tempAlert info.diTempAlert.diModeSel
  let l := eachChannel (fun l i => l.diCfgDebounce (.gpi i) info.diConfig[i].diDebounceDly
    info.diConfig[i].diRptStartDly info.diConfig[i].diRptDly) l
  let l := eachChannel (fun l i =>
    l.diSetDebounceEn (.gpi i) (info.diConfig[i].diDebounceEn ≠ 0)) l
  let l := eachChannel (fun l i => l.diCfgMode (.gpi i) info.diConfig[i].diModeSel) l
  let l := l.doSetSyncCtrMax info.doSyncCtrMax
  let l := l.doCfgMode .fiveVOutEn info.do5VOutEn.doModeSel (info.do5VOutEn.doInv ≠ 0)
  let l := l.doCfgMode .pwrPeripheralEn info.doPWRPeripheralEn.doModeSel
    (info.doPWRPeripheralEn.doInv ≠ 0)
  let l := l.doCfgMode .uartDebug info.doUARTDebug.doModeSel (info.doUARTDebug.doInv ≠ 0)
  let l := l.doCfgMode .serial5En info.doSerial5En.doModeSel (info.doSerial5En.doInv ≠ 0)
  let l := l.doCfgMode .ledD6 info.doLEDD6.doModeSel (info.doLEDD6.doInv ≠ 0)
  let l := l.doCfgMode .ledD20 info.doLEDD20.doModeSel (info.doLEDD20.doInv ≠ 0)
  let l := l.doCfgMode .usb0EPEn info.doUSB0EPEn.doModeSel (info.doUSB0EPEn.doInv ≠ 0)
  let l := eachChannel (fun l i => l.doCfgBlink (.gpo i) info.doConfig[i].doBlinkEnSel
    info.doConfig[i].doA info.doConfig[i].doB) l
  let l := eachChannel (fun l i =>
    l.doCfgMode (.gpo i) info.doConfig[i].doModeSel (info.doConfig[i].doInv ≠ 0)) l
  let l := eachChannel (fun l i =>
    l.gpioSetConfig i (if g.isInput info.dioCfg[i] then g.asInput else g.asOutput)) l
  let l := l.doCfgMode .irdaTx doModeDirect false
  let l := l.doSet .fiveVOutEn true
  let l := l.doSet .pwrPeripheralEn true
  l.doSet .uartDebug true

/-- A start: `INFO_init`, then `vDiscreteIO_init`. -/
def start (boot : Boot) (eeprom : Memory UInt8) : Device :=
  let s := infoInit g.asInput boot (powerUp eeprom)
  ⟨s, discreteIOInit g (s.ram .dio)⟩

inductive Event where
  | setDIODirection (pConfg : DIODirection)
  | setDIConfiguration (pConfg : DIConfiguration)
  | setDOConfiguration (pConfg : DOConfiguration)
  | turn (inputs : InputMap → Bool)

def Device.step (d : Device) : Event → Device
  | .setDIODirection pConfg => Dio.setDIODirection g d pConfg
  | .setDIConfiguration pConfg => Dio.setDIConfiguration g d pConfg
  | .setDOConfiguration pConfg => Dio.setDOConfiguration g d pConfg
  | .turn inputs => { d with live := d.live.turn inputs }

def Device.reboot (boot : Boot) (d : Device) : Device := start g boot d.eeprom.eeprom

@[ext] structure Config where
  direction : Fin 6 → Bool
  inputs : InputMap → DIConfig
  outputs : OutputMap → DOConfig
  syncCtrMax : UInt32

def Live.config (g : GpioCfg) (l : Live) : Config where
  direction i := g.isInput (l.pinConfig i)
  inputs n := (l.diTbl n).config
  outputs n := (l.doTbl n).config
  syncCtrMax := l.doSyncCtrMax

def restoredDI (c : DIConfigData) : DIConfig where
  mode := c.diModeSel
  bypass := none
  debounceEn := c.diDebounceEn ≠ 0
  debounceDly := c.diDebounceDly / dioTaskDlyTicks
  rptStartDly := c.diRptStartDly / dioTaskDlyTicks
  rptDly := c.diRptDly / dioTaskDlyTicks

def restoredDO (c : DOConfigData) : DOConfig where
  mode := c.doModeSel
  inv := c.doInv ≠ 0
  bypass := none
  blinkEn := c.doBlinkEnSel
  a := c.doA / dioTaskDlyTicks
  b := c.doB / dioTaskDlyTicks

def restored (g : GpioCfg) (info : DIOCfgData) : Config where
  direction i := g.isInput info.dioCfg[i]
  inputs n :=
    let fixed (mode : UInt8) : DIConfig := ⟨mode, none, false, 3, 50, 10⟩
    match n with
    | .fiveVOutStat => fixed info.di5VOutStatus.diModeSel
    | .internal5VSwStatus => fixed info.diInternal5VSwStatus.diModeSel
    | .irdaRx => fixed info.diIRDARx.diModeSel
    | .tempAlert => fixed info.diTempAlert.diModeSel
    | .gpi i => restoredDI info.diConfig[i]
    | .adcSstrb => fixed diModeDirect
  outputs n :=
    let fixed (c : DOConfigData) : DOConfig :=
      ⟨c.doModeSel, c.doInv ≠ 0, none, doBlinkEnNormal, 1, 2⟩
    match n with
    | .uartDebug => fixed info.doUARTDebug
    | .serial5En => fixed info.doSerial5En
    | .ledD6 => fixed info.doLEDD6
    | .ledD20 => fixed info.doLEDD20
    | .usb0EPEn => fixed info.doUSB0EPEn
    | .fiveVOutEn => fixed info.do5VOutEn
    | .pwrPeripheralEn => fixed info.doPWRPeripheralEn
    | .gpo i => restoredDO info.doConfig[i]
    | .irdaTx => ⟨doModeDirect, false, none, doBlinkEnNormal, 1, 2⟩
  syncCtrMax := info.doSyncCtrMax / dioTaskDlyTicks

theorem isInput_set {g : GpioCfg} {l : Live} {pinConfig : UInt32} {dioCfg : Vector UInt32 6}
    (h : ∀ j, g.isInput (l.pinConfig j) = g.isInput dioCfg[j]) (i j : Fin 6) :
    g.isInput ((l.gpioSetConfig i pinConfig).pinConfig j) =
      g.isInput (dioCfg.set i pinConfig)[j] := by
  by_cases hj : j = i
  · subst hj
    simp [Live.gpioSetConfig]
  · have hne : (i : Nat) ≠ j := fun heq => hj (Fin.ext heq.symm)
    simp [Live.gpioSetConfig, hj, Vector.getElem_set_ne, hne, h j]

end SystemMaster.Dio
