import SystemMaster.Library.Memory
import Mathlib.Data.List.ReduceOption

/-!
# The USB frame receiver

`xUSBRCBinary_receiveFrameData` reads the remote-control port one byte at a
time through eight states: four for the preamble, one for the payload, three
for the partly seen terminator. A poll is one call of `USBCDCD_receiveData`
and brings a byte or nothing. The worker calls the receiver again and again
on one buffer.
-/

namespace SystemMaster.Usb

inductive FrameState where
  | header1
  | header2
  | header3
  | header4
  | payload
  | endOfFrame1
  | endOfFrame2
  | endOfFrame3
  deriving DecidableEq, Repr

def frameHeader1 : UInt8 := 'A'.toUInt8
def frameHeader2 : UInt8 := 'L'.toUInt8
def frameHeader3 : UInt8 := 'T'.toUInt8
def frameHeader4 : UInt8 := 'O'.toUInt8
def frameEndOfFrame1 : UInt8 := '\r'.toUInt8
def frameEndOfFrame2 : UInt8 := '\n'.toUInt8
def frameEndOfFrame3 : UInt8 := '\r'.toUInt8
def frameEndOfFrame4 : UInt8 := '\n'.toUInt8

def waitForever : Nat := 0xFFFFFFFF

abbrev Poll := Option UInt8

structure Receiver where
  state : FrameState
  dataReceived : Nat
  counterRead : Nat
  countDown : Nat
  isError : Bool
  isFinish : Bool
  pStr : Memory UInt8

def Receiver.start (timeout : Nat) (pStr : Memory UInt8) : Receiver where
  state := .header1
  dataReceived := 0
  counterRead := 0
  countDown := timeout
  isError := false
  isFinish := false
  pStr := pStr

/-- Nothing came: a tick of sleep, and the call is given up once the countdown
has run out. -/
def Receiver.idle (r : Receiver) : Receiver :=
  let r := { r with dataReceived := 0, countDown := r.countDown - 1 }
  if r.countDown = 0 then { r with isFinish := true, isError := true } else r

/-- The states that look for the second to fourth preamble byte. An `A` in the
wrong place starts the preamble again. -/
def Receiver.header (r : Receiver) (expected : UInt8) (index : Nat) (next : FrameState)
    (byte : UInt8) : Receiver :=
  let r := { r with dataReceived := 1 }
  if byte = expected then
    { r with pStr := r.pStr.write index [byte], counterRead := index + 1, state := next }
  else if byte = frameHeader1 then
    { r with pStr := r.pStr.write 0 [byte], counterRead := 1, state := .header2 }
  else { r with counterRead := 0, state := .header1 }

def FrameState.isBody : FrameState → Bool
  | .payload | .endOfFrame1 | .endOfFrame2 | .endOfFrame3 => true
  | _ => false

/-- The state after a stored byte. `endOfFrame3` answers a carriage return with
`payload`, where `endOfFrame1` stays. -/
def FrameState.next : FrameState → UInt8 → FrameState
  | .payload, byte => if byte = frameEndOfFrame1 then .endOfFrame1 else .payload
  | .endOfFrame1, byte =>
    if byte = frameEndOfFrame1 then .endOfFrame1
    else if byte = frameEndOfFrame2 then .endOfFrame2
    else .payload
  | .endOfFrame2, byte => if byte = frameEndOfFrame3 then .endOfFrame3 else .payload
  | .endOfFrame3, byte => if byte = frameEndOfFrame4 then .endOfFrame3 else .payload
  | state, _ => state

def FrameState.finishes (state : FrameState) (byte : UInt8) : Bool :=
  state = .endOfFrame3 ∧ byte = frameEndOfFrame4

def Receiver.body (r : Receiver) (byte : UInt8) : Receiver :=
  { r with
    pStr := r.pStr.write r.counterRead [byte]
    state := r.state.next byte
    isFinish := r.isFinish || r.state.finishes byte
    dataReceived := 1
    counterRead := r.counterRead + 1 }

def Receiver.iteration (timeout : Nat) (r : Receiver) : Poll → Receiver
  | none =>
    if r.state = .header1 ∧ r.idle.countDown = 0 then { r.idle with counterRead := 0 } else r.idle
  | some byte =>
    match r.state with
    | .header1 =>
      if byte = frameHeader1 then
        { r with
          dataReceived := 1
          pStr := r.pStr.write 0 [byte]
          counterRead := 1
          countDown := timeout
          state := .header2 }
      else { r with dataReceived := 1 }
    | .header2 => r.header frameHeader2 1 .header3 byte
    | .header3 => r.header frameHeader3 2 .header4 byte
    | .header4 => r.header frameHeader4 3 .payload byte
    | .payload | .endOfFrame1 | .endOfFrame2 | .endOfFrame3 => r.body byte

/-- The payload states read only while `sizeof(int)` bytes of the buffer are left. -/
def Receiver.full (length : Nat) (r : Receiver) : Bool :=
  r.state.isBody && length - r.counterRead < 4

def Receiver.overflow (r : Receiver) : Receiver :=
  { r with isError := true, isFinish := true, counterRead := r.counterRead + r.dataReceived }

/-- The `do … while (timeout && !isFinish)` loop, with the polls it leaves;
`none` while it waits for more of them. -/
def Receiver.loop (length timeout : Nat) (r : Receiver) : List Poll → Option (Receiver × List Poll)
  | [] => if r.full length then some (r.overflow, []) else none
  | poll :: polls =>
    if r.full length then some (r.overflow, poll :: polls)
    else
      let r := r.iteration timeout poll
      if timeout ≠ 0 ∧ r.isFinish = false then r.loop length timeout polls else some (r, polls)

/-- A return of `xUSBRCBinary_receiveFrameData`: the returned value, whether it
was marked as an error, the buffer and the polls not yet made. -/
structure Returned where
  retValue : Nat
  isError : Bool
  pStr : Memory UInt8
  rest : List Poll

def Receiver.returned (r : Receiver) (rest : List Poll) : Returned where
  retValue := if r.isError then r.counterRead ||| 1 else r.counterRead
  isError := r.isError
  pStr := r.pStr
  rest := rest

def receiveFrameData (length timeout : Nat) (pStr : Memory UInt8) (polls : List Poll) :
    Option Returned :=
  if 16 ≤ length then
    ((Receiver.start timeout pStr).loop length timeout polls).map fun (r, rest) => r.returned rest
  else some ((Receiver.start timeout pStr).returned polls)

def bufferSize : Nat := 128

/-- The calls `vUSBRCBinaryWorkerFxn` makes on its one buffer, in order, at
most `calls` of them. -/
def workerFxn : Nat → Memory UInt8 → List Poll → List Returned
  | 0, _, _ => []
  | calls + 1, buffer, polls =>
    match receiveFrameData bufferSize waitForever buffer polls with
    | none => []
    | some ret => ret :: workerFxn calls ret.pStr ret.rest

def bytes (polls : List Poll) : List UInt8 := polls.reduceOption

def idles (polls : List Poll) : Nat := polls.count none

@[simp] theorem bytes_nil : bytes [] = [] := rfl

@[simp] theorem bytes_none (polls : List Poll) : bytes (none :: polls) = bytes polls := rfl

@[simp] theorem bytes_some (byte : UInt8) (polls : List Poll) :
    bytes (some byte :: polls) = byte :: bytes polls := rfl

@[simp] theorem bytes_map_some (s : List UInt8) : bytes (s.map some) = s := by
  induction s with
  | nil => rfl
  | cons byte s ih => rw [List.map_cons, bytes_some, ih]

@[simp] theorem idles_nil : idles [] = 0 := rfl

@[simp] theorem idles_none (polls : List Poll) : idles (none :: polls) = idles polls + 1 := by
  simp [idles]

@[simp] theorem idles_some (byte : UInt8) (polls : List Poll) :
    idles (some byte :: polls) = idles polls := by
  simp [idles]

@[simp] theorem idles_map_some (s : List UInt8) : idles (s.map some) = 0 := by
  induction s with
  | nil => rfl
  | cons byte s ih => rw [List.map_cons, idles_some, ih]

end SystemMaster.Usb
