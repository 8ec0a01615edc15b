import SystemMaster.Eeprom.Layout
import Mathlib.Logic.Function.Basic

/-!
# Discrete input and output channels

The tables `DITbl` and `DOTbl` with the functions that configure a channel, and
the turns of the task that reads the inputs and drives the outputs. A turn is given
the inputs that `DIRd` arrives at.
-/

namespace SystemMaster.Dio

inductive InputMap where
  | fiveVOutStat
  | internal5VSwStatus
  | irdaRx
  | tempAlert
  | gpi (n : Fin 6)
  | adcSstrb
  deriving DecidableEq

inductive OutputMap where
  | uartDebug
  | serial5En
  | ledD6
  | ledD20
  | usb0EPEn
  | fiveVOutEn
  | pwrPeripheralEn
  | gpo (n : Fin 6)
  | irdaTx
  deriving DecidableEq

structure DI where
  diIn : Bool
  diVal : UInt32
  diPrev : Bool
  diBypassEn : Bool
  diModeSel : UInt8
  diDebounceEn : Bool
  diDebounceDly : UInt32
  diRptStartDly : UInt32
  diRptDly : UInt32

structure DO where
  doOut : Bool
  doCtrl : Bool
  doBypass : Bool
  doBypassEn : Bool
  doModeSel : UInt8
  doBlinkEnSel : UInt8
  doInv : Bool
  doA : UInt32
  doB : UInt32
  doBCtr : UInt32

/-- The tables, the counter of the synchronous blink mode, and the pin
configurations `GPIO_setConfig` has set. -/
structure Live where
  diTbl : InputMap → DI
  doTbl : OutputMap → DO
  doSyncCtr : UInt32
  doSyncCtrMax : UInt32
  pinConfig : Fin 6 → UInt32

def dioTaskDlyTicks : UInt32 := 1

def doModeBlinkSync : UInt8 := 3
def doModeBlinkAsync : UInt8 := 4

-- ---------------------------------------------------------------------------
-- Configuration functions
-- ---------------------------------------------------------------------------

namespace Live

def modifyDI (l : Live) (n : InputMap) (f : DI → DI) : Live :=
  { l with diTbl := Function.update l.diTbl n (f (l.diTbl n)) }

def modifyDO (l : Live) (n : OutputMap) (f : DO → DO) : Live :=
  { l with doTbl := Function.update l.doTbl n (f (l.doTbl n)) }

def diCfgMode (l : Live) (n : InputMap) (mode : UInt8) : Live :=
  l.modifyDI n fun di => { di with diModeSel := mode }

/-- The value is taken only while the bypass is enabled. -/
def diSetBypass (l : Live) (n : InputMap) (val : UInt32) : Live :=
  l.modifyDI n fun di => if di.diBypassEn then { di with diVal := val } else di

def diSetBypassEn (l : Live) (n : InputMap) (state : Bool) : Live :=
  l.modifyDI n fun di => { di with diBypassEn := state }

def diSetDebounceEn (l : Live) (n : InputMap) (state : Bool) : Live :=
  l.modifyDI n fun di => { di with diDebounceEn := state }

def diCfgDebounce (l : Live) (n : InputMap) (debDly rpStartDly rpDly : UInt32) : Live :=
  l.modifyDI n fun di =>
    { di with
      diDebounceDly := debDly / dioTaskDlyTicks
      diRptStartDly := rpStartDly / dioTaskDlyTicks
      diRptDly := rpDly / dioTaskDlyTicks }

def doCfgMode (l : Live) (n : OutputMap) (mode : UInt8) (inv : Bool) : Live :=
  l.modifyDO n fun d => { d with doModeSel := mode, doInv := inv }

def doCfgBlink (l : Live) (n : OutputMap) (mode : UInt8) (a b : UInt32) : Live :=
  l.modifyDO n fun d =>
    { d with doBlinkEnSel := mode, doA := a / dioTaskDlyTicks, doB := b / dioTaskDlyTicks }

def doSet (l : Live) (n : OutputMap) (state : Bool) : Live :=
  l.modifyDO n fun d => { d with doCtrl := state }

def doSetBypass (l : Live) (n : OutputMap) (state : Bool) : Live :=
  l.modifyDO n fun d => if d.doBypassEn then { d with doBypass := state } else d

def doSetBypassEn (l : Live) (n : OutputMap) (state : Bool) : Live :=
  l.modifyDO n fun d => { d with doBypassEn := state }

def doSetSyncCtrMax (l : Live) (val : UInt32) : Live :=
  { l with doSyncCtrMax := val / dioTaskDlyTicks }

def gpioSetConfig (l : Live) (n : Fin 6) (pinConfig : UInt32) : Live :=
  { l with pinConfig := Function.update l.pinConfig n pinConfig }

end Live

def DI.isTrig (di : DI) : DI :=
  let trig :=
    match di.diModeSel with
    | 4 => di.diPrev && !di.diIn
    | 5 => !di.diPrev && di.diIn
    | 6 => di.diPrev != di.diIn
    | _ => false
  { di with
    diVal := if trig && di.diVal < 0xFFFFFFFF then di.diVal + 1 else di.diVal
    diPrev := di.diIn }

def DI.update (di : DI) : DI :=
  if di.diBypassEn then di
  else
    match di.diModeSel with
    | 0 => { di with diVal := 0 }
    | 1 => { di with diVal := 1 }
    | 2 => { di with diVal := if di.diIn then 1 else 0 }
    | 3 => { di with diVal := if di.diIn then 0 else 1 }
    | 4 | 5 | 6 => di.isTrig
    | 7 =>
      { di with
        diVal := if di.diPrev && !di.diIn then (if di.diVal = 0 then 1 else 0) else di.diVal
        diPrev := di.diIn }
    | 8 =>
      { di with
        diVal := if !di.diPrev && di.diIn then (if di.diVal = 0 then 1 else 0) else di.diVal
        diPrev := di.diIn }
    | _ => di

def DO.isBlinkEn (d : DO) : Bool :=
  match d.doBlinkEnSel with
  | 0 => true
  | 1 => d.doBypass
  | 2 => !d.doBypass
  | _ => false

def DO.update (doSyncCtr : UInt32) (d : DO) : DO :=
  let d := if d.doBypassEn then d else { d with doBypass := d.doCtrl }
  let out :=
    match d.doModeSel with
    | 1 => true
    | 2 => d.doBypass
    | 3 => d.isBlinkEn && doSyncCtr ≤ d.doA
    | 4 => d.isBlinkEn && d.doBCtr ≤ d.doA
    | _ => false
  let doBCtr :=
    if d.doModeSel = 4 then (if d.doBCtr < d.doB then d.doBCtr + 1 else 0) else d.doBCtr
  { d with doBCtr := doBCtr, doOut := if d.doInv then !out else out }

def Live.turn (l : Live) (inputs : InputMap → Bool) : Live :=
  { l with
    diTbl := fun n => { l.diTbl n with diIn := inputs n }.update
    doTbl := fun n => (l.doTbl n).update l.doSyncCtr
    doSyncCtr := if l.doSyncCtr < l.doSyncCtrMax then l.doSyncCtr + 1 else 0 }

-- ---------------------------------------------------------------------------
-- The configuration of a channel
-- ---------------------------------------------------------------------------

/-- The fields of an input that configure it; a bypass has a value while it is enabled. -/
structure DIConfig where
  mode : UInt8
  bypass : Option UInt32
  debounceEn : Bool
  debounceDly : UInt32
  rptStartDly : UInt32
  rptDly : UInt32

structure DOConfig where
  mode : UInt8
  inv : Bool
  bypass : Option Bool
  blinkEn : UInt8
  a : UInt32
  b : UInt32

def DI.config (di : DI) : DIConfig where
  mode := di.diModeSel
  bypass := if di.diBypassEn then some di.diVal else none
  debounceEn := di.diDebounceEn
  debounceDly := di.diDebounceDly
  rptStartDly := di.diRptStartDly
  rptDly := di.diRptDly

def DO.config (d : DO) : DOConfig where
  mode := d.doModeSel
  inv := d.doInv
  bypass := if d.doBypassEn then some d.doBypass else none
  blinkEn := d.doBlinkEnSel
  a := d.doA
  b := d.doB

variable {l : Live} {n : InputMap} {m : OutputMap}

theorem DI.config_bypass_isSome (di : DI) : di.config.bypass.isSome = di.diBypassEn := by
  cases h : di.diBypassEn <;> simp [DI.config, h]

theorem DO.config_bypass_isSome (d : DO) : d.config.bypass.isSome = d.doBypassEn := by
  cases h : d.doBypassEn <;> simp [DO.config, h]

theorem DI.config_isTrig (di : DI) (hen : di.diBypassEn = false) :
    di.isTrig.config = di.config := by
  simp [DI.isTrig, DI.config, hen]

@[simp] theorem DI.config_update (di : DI) : di.update.config = di.config := by
  unfold DI.update
  split
  case isTrue => rfl
  case isFalse hen =>
    have hen : di.diBypassEn = false := by simpa using hen
    split
    case h_5 | h_6 | h_7 => exact di.config_isTrig hen
    all_goals simp [DI.config, hen]

@[simp] theorem DO.config_update (d : DO) (doSyncCtr : UInt32) :
    (d.update doSyncCtr).config = d.config := by
  by_cases hen : d.doBypassEn = true
  · simp [DO.update, DO.config, hen]
  · simp [DO.update, DO.config, hen]

@[simp] theorem DI.update_diIn (di : DI) : di.update.diIn = di.diIn := by
  unfold DI.update
  split
  case isTrue => rfl
  case isFalse => split <;> rfl

@[simp] theorem DI.config_withIn (di : DI) (input : Bool) :
    ({ di with diIn := input } : DI).config = di.config := rfl

theorem Live.turn_diConfig (inputs : InputMap → Bool) :
    ((l.turn inputs).diTbl n).config = (l.diTbl n).config := by
  simp [Live.turn]

theorem Live.turn_doConfig (inputs : InputMap → Bool) :
    ((l.turn inputs).doTbl m).config = (l.doTbl m).config := by
  simp [Live.turn]

theorem Live.turn_diBypassEn (inputs : InputMap → Bool) :
    ((l.turn inputs).diTbl n).diBypassEn = (l.diTbl n).diBypassEn := by
  rw [← DI.config_bypass_isSome, turn_diConfig, DI.config_bypass_isSome]

theorem Live.turn_doBypassEn (inputs : InputMap → Bool) :
    ((l.turn inputs).doTbl m).doBypassEn = (l.doTbl m).doBypassEn := by
  rw [← DO.config_bypass_isSome, turn_doConfig, DO.config_bypass_isSome]

end SystemMaster.Dio
