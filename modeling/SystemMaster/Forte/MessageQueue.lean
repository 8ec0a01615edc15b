import SystemMaster.Library.Tasks
import SystemMaster.Devices.Params
import Mathlib.Data.Finset.Basic

/-!
# The message queue of a Forte manager

A generic device task waits for events and runs the hook of each, with the argument
that it is registered with. The hook for application messages frees those in the
queue, but it is registered with no argument and then returns at once. The hook for
received frames is registered with the interface; it processes the raw messages and
stops at any other, which it puts back at the end. Senders put a message in the
queue and then post its event.
-/

namespace SystemMaster.Forte

open Tasks Devices

def ifCount : Nat := 8

inductive MsgType where
  | serviceWrite
  | serviceCfg
  | updateCharval
  | gapStateChange
  | sendPasscode
  | errorHandler
  | raw
  deriving DecidableEq

structure Msg where
  type : MsgType
  pdu : List UInt8
  deriving DecidableEq

def Msg.isRaw (m : Msg) : Bool := m.type = .raw

-- The events, by the number of their bit.
def periodicEvt : Nat := 2
def appMsgEvt : Nat := 3
def appRxMsgEvt : Nat := 4
def appKillEvt : Nat := 9

/-- `DEVICE_ALL_EVENTS` and the events of the registered hooks. -/
def orMask : Finset Nat := {0, 1, periodicEvt, appMsgEvt, appRxMsgEvt, appKillEvt, 30}

/-- The queue and the posted events. The last four fields are a record of the
messages enqueued, processed, given to the application handler and freed. The
call of the application handler is commented out in the hook, so that no
function adds to `delivered`. -/
structure Device where
  queue : List Msg
  events : Finset Nat
  arrived : List Msg
  processed : List Msg
  delivered : List Msg
  freed : List Msg

def Device.opened : Device := ⟨[], ∅, [], [], [], []⟩

/-- Where `vGeneticDeviceFxn` is, with the events it has taken and not yet
handled. -/
inductive DevicePoint where
  | pend
  | dispatch (index : Nat) (events : Finset Nat)
  | appMsgHook (events : Finset Nat)
  | appRxMsgHook (events : Finset Nat)
  | free (msg : Msg) (events : Finset Nat)
  | flush
  | ended
  deriving DecidableEq

inductive Task where
  | device (point : DevicePoint)
  | enqueue (msg : Msg) (event : Nat)
  | post (event : Nat) (sends : Bool)
  deriving DecidableEq

/-- What may come from other tasks: a frame of the receiving task, a message by
one of the other two functions that enqueue, the clock, and the close. -/
inductive Arrival where
  | rxFrame (rxbuff : List UInt8)
  | charDataMsg (type : MsgType) (charData : List UInt8)
  | rawAppMsg (type : MsgType) (data : List UInt8)
  | clock
  | close

/-- `vDevice_enqueueRawAppMsgAndEvent`, once it has its memory. -/
def enqueueRawAppMsgAndEvent (type : MsgType) (data : List UInt8) (event : Nat) : Task :=
  .enqueue ⟨type, data⟩ event

def enqueueRawAppMsg (type : MsgType) (data : List UInt8) : Task := .enqueue ⟨type, data⟩ appMsgEvt

def enqueueCharDataMsg (type : MsgType) (charData : List UInt8) : Task :=
  .enqueue ⟨type, charData⟩ appMsgEvt

def Arrival.task : Arrival → Task
  | .rxFrame rxbuff => enqueueRawAppMsgAndEvent .raw rxbuff appRxMsgEvt
  | .charDataMsg type charData => enqueueCharDataMsg type charData
  | .rawAppMsg type data => enqueueRawAppMsg type data
  | .clock => .post periodicEvt false
  | .close => .post appKillEvt false

def Device.enqueue (d : Device) (msg : Msg) : Device :=
  { d with queue := d.queue ++ [msg], arrived := d.arrived ++ [msg] }

def dispatch (index : Nat) (events : Finset Nat) : DevicePoint :=
  if index < 32 then
    if index ∈ events then
      if index = appMsgEvt then .appMsgHook (events.erase index)
      else if index = appRxMsgEvt then .appRxMsgHook (events.erase index)
      -- `vForteManagerDevice_periodicEventHook` does nothing, and no other hook is registered
      else .dispatch (index + 1) (events.erase index)
    else .dispatch (index + 1) events
  else .pend

/-- `vForteManagerDevice_appMsgEventHook` returns when its argument is NULL. -/
def appMsgHookArg0 (ifIndex : UInt32) : UInt32 :=
  (forteManagerDeviceHooks ifIndex).eventFxnArg0 ⟨appMsgEvt, by decide⟩

def appRxMsgHookArg0 (ifIndex : UInt32) : UInt32 :=
  (forteManagerDeviceHooks ifIndex).eventFxnArg0 ⟨appRxMsgEvt, by decide⟩

@[simp] theorem appMsgHookArg0_eq (ifIndex : UInt32) : appMsgHookArg0 ifIndex = 0 := rfl

@[simp] theorem appRxMsgHookArg0_eq (ifIndex : UInt32) : appRxMsgHookArg0 ifIndex = ifIndex := rfl

def deviceAct (ifIndex : UInt32) (d : Device) : DevicePoint → Option (Device × DevicePoint)
  | .pend =>
    let events := d.events ∩ orMask
    if events = ∅ then none
    else some ({ d with events := d.events \ events },
      if appKillEvt ∈ events then .flush else .dispatch 0 events)
  | .dispatch index events => some (d, dispatch index events)
  | .appMsgHook events =>
    if appMsgHookArg0 ifIndex = 0 then some (d, .dispatch (appMsgEvt + 1) events)
    else
      match d.queue with
      | [] => some (d, .dispatch (appMsgEvt + 1) events)
      | msg :: queue =>
        some ({ d with queue := queue, freed := d.freed ++ [msg] }, .appMsgHook events)
  | .appRxMsgHook events =>
    if (appRxMsgHookArg0 ifIndex).toNat < ifCount then
      match d.queue with
      | [] => some (d, .dispatch (appRxMsgEvt + 1) events)
      | msg :: queue =>
        if msg.type = .raw then
          some ({ d with queue := queue, processed := d.processed ++ [msg] }, .free msg events)
        else some ({ d with queue := queue ++ [msg] }, .dispatch (appRxMsgEvt + 1) events)
    else some (d, .dispatch (appRxMsgEvt + 1) events)
  | .free msg events => some ({ d with freed := d.freed ++ [msg] }, .appRxMsgHook events)
  | .flush =>
    match d.queue with
    | [] => some (d, .ended)
    | msg :: queue => some ({ d with queue := queue, freed := d.freed ++ [msg] }, .flush)
  | .ended => none

def act (ifIndex : UInt32) (d : Device) : Task → Option (Device × Multiset Task)
  | .device point => (deviceAct ifIndex d point).map fun (d, point) => (d, {.device point})
  | .enqueue msg event => some (d.enqueue msg, {.post event true})
  | .post event _ => some ({ d with events := insert event d.events }, 0)

def program (ifIndex : UInt32) : Program Device Task Unit Arrival where
  arrive _ a := {a.task}
  act d t _ := act ifIndex d t

def opened : System Device Task := ⟨.opened, {.device .pend}⟩

end SystemMaster.Forte
