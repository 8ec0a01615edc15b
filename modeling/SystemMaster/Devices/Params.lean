import SystemMaster.Library.Codec
import Mathlib.Logic.Function.Basic

/-!
# Parameters of devices

The parameter blocks that `xDevice_add` takes, the functions that fill them,
and what the open function of each driver takes from them.
-/

namespace SystemMaster.Devices

inductive DeviceType where
  | test
  | altoAmp
  | altoMultinet
  | altoForteManager
  | tcpRemoteControllerBinary
  | tcpRemoteControllerAscii
  | generic
  | tfUartTest
  | dutUartTest
  | avds
  | avds485
  | rosen
  | rosen485
  | usbRemoteControlBinary
  | usbRemoteControlConsole
  deriving DecidableEq

/-- A word below `DEVICE_TYPE_COUNT` that is one of the enumeration. -/
def DeviceType.ofWord (w : UInt32) : Option DeviceType :=
  match w.toNat with
  | 1 => some test
  | 2 => some altoAmp
  | 3 => some altoMultinet
  | 4 => some altoForteManager
  | 5 => some tcpRemoteControllerBinary
  | 6 => some tcpRemoteControllerAscii
  | 7 => some generic
  | 8 => some tfUartTest
  | 9 => some dutUartTest
  | 10 => some avds
  | 11 => some avds485
  | 12 => some rosen
  | 13 => some rosen485
  | 14 => some usbRemoteControlBinary
  | 15 => some usbRemoteControlConsole
  | _ => none

/-- The function tables, each by its driver. -/
inductive FxnTable where
  | altoAmpDevice
  | altoMultinetDevice
  | geneticDevice
  | avdsDevice
  | avds485Device
  | rosenDevice
  | rosen485Device
  deriving DecidableEq

inductive HookFxn where
  | forteManagerDeviceSetup
  | forteManagerDevicePeriodicEvent
  | forteManagerDeviceAppMsgEvent
  | forteManagerDeviceAppRXMsgEvent
  | tfUartTestDevicePeriodicEvent
  | tfUartTestDeviceAppMsgEvent
  | dutUartTestDeviceSetup
  | dutUartTestDeviceAppMsgEvent
  deriving DecidableEq

structure HookParams where
  andMask : UInt32
  orMask : UInt32
  timeout : UInt32
  setupFxn : Option HookFxn
  setupArg0 : UInt32
  eventFxns : Fin 32 → Option HookFxn
  eventFxnArg0 : Fin 32 → UInt32

/-- `Device_Params`; pointers are words. -/
structure DeviceParams where
  deviceID : UInt32
  deviceType : DeviceType
  arg0 : UInt32
  arg1 : UInt32
  period : UInt32
  timeout : UInt32
  priority : UInt32
  stackSize : UInt32
  fxnTablePtr : FxnTable

-- ---------------------------------------------------------------------------
-- Hooks
-- ---------------------------------------------------------------------------

def devicePeriodicEvt : UInt32 := 0x00000004
def deviceAppMsgEvt : UInt32 := 0x00000008
def forteManagerAppRXMsgEvt : UInt32 := 0x00000010
def deviceAllEvents : UInt32 := 0x4000020F

def geneticDeviceHooksInit : HookParams where
  andMask := 0
  orMask := deviceAllEvents
  timeout := 0xFFFFFFFF
  setupFxn := none
  setupArg0 := 0
  eventFxns _ := none
  eventFxnArg0 _ := 0

namespace HookParams

def registerHookFunctionForEventId (hooks : HookParams) (eventId : UInt32) (hookFxn : HookFxn)
    (arg0 : UInt32) : HookParams :=
  let selected (index : Fin 32) : Bool := eventId.toNat.testBit index
  { hooks with
    eventFxns := fun index => if selected index then some hookFxn else hooks.eventFxns index
    eventFxnArg0 := fun index => if selected index then arg0 else hooks.eventFxnArg0 index }

def registerHookFunctionForSetUp (hooks : HookParams) (hookFxn : HookFxn) (arg0 : UInt32) :
    HookParams :=
  { hooks with setupFxn := some hookFxn, setupArg0 := arg0 }

end HookParams

def forteManagerDeviceHooks (ifIndex : UInt32) : HookParams :=
  let hooks := geneticDeviceHooksInit.registerHookFunctionForSetUp .forteManagerDeviceSetup 0
  let hooks := hooks.registerHookFunctionForEventId devicePeriodicEvt
    .forteManagerDevicePeriodicEvent 0
  let hooks := { hooks with orMask := hooks.orMask ||| devicePeriodicEvt }
  let hooks := hooks.registerHookFunctionForEventId deviceAppMsgEvt .forteManagerDeviceAppMsgEvent 0
  let hooks := { hooks with orMask := hooks.orMask ||| deviceAppMsgEvt }
  let hooks := hooks.registerHookFunctionForEventId forteManagerAppRXMsgEvt
    .forteManagerDeviceAppRXMsgEvent ifIndex
  { hooks with orMask := hooks.orMask ||| forteManagerAppRXMsgEvt }

def tfUartTestDeviceHooks (ifIndex : UInt32) : HookParams :=
  let hooks := geneticDeviceHooksInit.registerHookFunctionForEventId devicePeriodicEvt
    .tfUartTestDevicePeriodicEvent ifIndex
  hooks.registerHookFunctionForEventId deviceAppMsgEvt .tfUartTestDeviceAppMsgEvent ifIndex

def dutUartTestDeviceHooks (ifIndex : UInt32) : HookParams :=
  let hooks := geneticDeviceHooksInit.registerHookFunctionForSetUp .dutUartTestDeviceSetup ifIndex
  hooks.registerHookFunctionForEventId deviceAppMsgEvt .dutUartTestDeviceAppMsgEvent ifIndex

-- ---------------------------------------------------------------------------
-- The functions that fill a block
-- ---------------------------------------------------------------------------

/-- What the `Params_init` functions of the drivers with a table of their own do. -/
def DeviceParams.init (params : DeviceParams) (deviceType : DeviceType) (fxnTablePtr : FxnTable)
    (address : UInt32) : DeviceParams :=
  { params with
    deviceID := address
    deviceType := deviceType
    arg0 := 0
    arg1 := 0
    fxnTablePtr := fxnTablePtr }

def altoAmpDeviceParamsInit (params : DeviceParams) (address : UInt32) : DeviceParams :=
  params.init .altoAmp .altoAmpDevice address

def altoMultinetDeviceParamsInit (params : DeviceParams) (address : UInt32) : DeviceParams :=
  params.init .altoMultinet .altoMultinetDevice address

def avdsDeviceParamsInit (params : DeviceParams) (address : UInt32) : DeviceParams :=
  params.init .avds .avdsDevice address

def avds485DeviceParamsInit (params : DeviceParams) (address : UInt32) : DeviceParams :=
  params.init .avds485 .avds485Device address

def rosenDeviceParamsInit (params : DeviceParams) (address : UInt32) : DeviceParams :=
  params.init .rosen .rosenDevice address

def rosen485DeviceParamsInit (params : DeviceParams) (address : UInt32) : DeviceParams :=
  params.init .rosen485 .rosen485Device address

def geneticDeviceParamsInit (address hooks : UInt32) : DeviceParams where
  deviceID := address
  deviceType := .generic
  arg0 := hooks
  arg1 := 0
  period := 100
  timeout := 100
  priority := 2
  stackSize := 2048
  fxnTablePtr := .geneticDevice

structure Blocks where
  params : DeviceParams
  hooks : UInt32 → HookParams

/-- The part the three drivers on the generic device share: a block for the hooks,
at `pHooks`, and nothing at all without one. -/
def Blocks.init (b : Blocks) (pHooks : UInt32) (hooks : HookParams) (params : DeviceParams) :
    Blocks :=
  if pHooks ≠ 0 then ⟨params, Function.update b.hooks pHooks hooks⟩ else b

def forteManagerDeviceParamsInit (b : Blocks) (pHooks address ifIndex : UInt32) : Blocks :=
  b.init pHooks (forteManagerDeviceHooks ifIndex)
    { geneticDeviceParamsInit address pHooks with arg1 := ifIndex, priority := 7 }

def tfUartTestDeviceParamsInit (b : Blocks) (pHooks address ifIndex : UInt32) : Blocks :=
  b.init pHooks (tfUartTestDeviceHooks ifIndex)
    { geneticDeviceParamsInit address pHooks with
      arg1 := ifIndex
      deviceType := .tfUartTest
      period := 100
      timeout := 100
      priority := 6
      stackSize := 2048 }

def dutUartTestDeviceParamsInit (b : Blocks) (pHooks address ifIndex : UInt32) : Blocks :=
  b.init pHooks (dutUartTestDeviceHooks ifIndex)
    { geneticDeviceParamsInit address pHooks with
      arg1 := ifIndex
      deviceType := .dutUartTest
      period := 100
      timeout := 100
      priority := 6
      stackSize := 2048 }

structure Settings where
  clockPeriod : UInt32
  clockTimeout : UInt32
  priority : UInt32
  stackSize : UInt32
  deriving DecidableEq

/-- The settings a driver has of its own; the generic device takes its parameters'. -/
def FxnTable.settings : FxnTable → Option Settings
  | .altoAmpDevice => some ⟨1000, 10, 5, 2048⟩
  | .altoMultinetDevice => some ⟨10000, 10, 6, 2048⟩
  | .geneticDevice => none
  | .avdsDevice => some ⟨100, 1000, 2, 2048⟩
  | .avds485Device => some ⟨1000, 1000, 2, 2048⟩
  | .rosenDevice => some ⟨1000, 1000, 2, 2048⟩
  | .rosen485Device => some ⟨1000, 1000, 2, 2048⟩

def DeviceParams.settings (params : DeviceParams) : Settings where
  clockPeriod := params.period
  clockTimeout := params.timeout
  priority := params.priority
  stackSize := params.stackSize

end SystemMaster.Devices
