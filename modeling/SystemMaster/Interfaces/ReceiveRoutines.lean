import SystemMaster.Alto.Receiver
import SystemMaster.Avds.SerialReceiver

/-!
# The receive routines of a serial port

`bIFUART_transfer` calls one of four routines. Each of them adds what `UART_read` returns,
which is −1 for an error, to its counters and pointers, or makes a length of it. The
routines keep a record, which nothing reads, of what they do with these results. The
results are signed numbers of 32 bits, and the counts of a transaction unsigned ones.
-/

namespace SystemMaster.Interfaces

open Avds (RxState rxPreamble1 rxPreamble2 rxMaxPayloadSize)
open Avds.Receiver (lengthField)

/-- What a turn of a loop finds: the count that `UART_control` gives, and what `UART_read`
answers, which is never more than it was asked for. -/
structure Turn extends Alto.Poll where
  fits : ∀ n xs, uartRead n = some xs → xs.length ≤ n

/-- What `UART_read` returns; −1 is `UART_STATUS_ERROR`. -/
def status : Option (List UInt8) → Int
  | some xs => xs.length
  | none => -1

def toUnsigned (x : Int) : Nat := (x % 2 ^ 32).toNat

/-- What a routine does with the results: how far they move its pointers and counters, the
lengths of the strings it builds and the blocks it copies, and whether it has interpreted
a byte that was not read. -/
structure Trace where
  moves : List Int
  blocks : List Int
  unread : Bool

namespace Trace

def start : Trace := ⟨[], [], false⟩

def move (t : Trace) (x : Int) : Trace := { t with moves := t.moves ++ [x] }

def block (t : Trace) (n : Int) : Trace := { t with blocks := t.blocks ++ [n] }

def interpret (t : Trace) (n : Nat) (xs : List UInt8) : Trace :=
  { t with unread := t.unread || decide (xs.length < n) }

end Trace

/-- The caller's buffer; `stored` tells how far the last write has filled it. -/
structure ReadBuf where
  bytes : Memory UInt8
  stored : Nat

namespace ReadBuf

def put (b : ReadBuf) (off : Int) (xs : List UInt8) : ReadBuf where
  bytes := b.bytes.writeAt off xs
  stored := (off + xs.length).toNat

def take (b : ReadBuf) (off : Int) : Option (List UInt8) → ReadBuf
  | some xs => b.put off xs
  | none => b

end ReadBuf

/-- What a call finds: the state of the port, the answer of `Semaphore_pend` and those of
`Memory_alloc`, the buffer, and what the uninitialised variables of the routine for AVDS
hold. -/
structure Port where
  opened : Bool
  pend : Bool
  memoryAlloc : Nat → Option (Memory UInt8)
  readBuf : Memory UInt8
  preamble : UInt8
  packetLength : Nat

def Port.ready (port : Port) : Bool := port.opened && port.pend

structure SimpleRead where
  length : UInt32
  retValue : Int
  buf : ReadBuf
  running : Bool
  trace : Trace

namespace SimpleRead

def start (port : Port) (length : UInt32) : SimpleRead where
  length := length
  retValue := 0
  buf := ⟨port.readBuf, 0⟩
  running := port.ready
  trace := .start

def step (s : SimpleRead) (turn : Turn) : SimpleRead :=
  if s.running then
    let answer := turn.uartRead s.length.toNat
    { s with retValue := status answer, buf := s.buf.take 0 answer, running := false }
  else s

end SimpleRead

/-- `xIFUART_receiveData`; `pStr` is where the pointer is in the caller's buffer. -/
structure DataRead where
  length : UInt32
  timeout : Nat
  retValue : Int
  counterRead : Int
  pStr : Int
  buf : ReadBuf
  running : Bool
  trace : Trace

namespace DataRead

def start (port : Port) (length : UInt32) (timeout : Nat) : DataRead where
  length := length
  timeout := timeout
  retValue := 0
  counterRead := 0
  pStr := 0
  buf := ⟨port.readBuf, 0⟩
  running := port.ready
  trace := .start

def asked (s : DataRead) (dataAvailable : Nat) : Nat :=
  if toUnsigned (s.length.toNat - s.counterRead) > dataAvailable then dataAvailable
  else toUnsigned (s.length.toNat - s.counterRead)

def turn (s : DataRead) (t : Turn) : DataRead :=
  if t.dataAvailable ≠ 0 then
    let answer := t.uartRead (s.asked t.dataAvailable)
    { s with
      retValue := status answer
      buf := s.buf.take s.pStr answer
      pStr := s.pStr + status answer
      counterRead := s.counterRead + status answer
      trace := s.trace.move (status answer) }
  else { s with timeout := s.timeout - 1 }

def step (s : DataRead) (t : Turn) : DataRead :=
  if s.running then
    let s := s.turn t
    { s with
      running := s.timeout ≠ 0 && decide (toUnsigned s.counterRead < s.length.toNat) }
  else s

def result (s : DataRead) : Int := if s.counterRead ≠ 0 then s.counterRead else s.retValue

end DataRead

-- ---------------------------------------------------------------------------
-- Frames of ALTO
-- ---------------------------------------------------------------------------

section Alto

open Alto Search

def drainStepCopy (r : Reception) : Option (List UInt8) :=
  match find startFrame r.receivedPacket with
  | some indexHeader =>
    let packet := r.receivedPacket.drop (indexHeader + startFrame.length)
    match find [cr] packet with
    | some indexEOF =>
      let str := packet.take indexEOF
      if str.length ≤ serialFrameSize then some str else none
    | none => none
  | none => none

def drainCopies : Nat → Reception → List (List UInt8)
  | 0, _ => []
  | fuel + 1, r =>
    match find [cr] r.receivedPacket with
    | some indexEOF => (drainStepCopy r).toList ++ drainCopies fuel (r.drainStep indexEOF)
    | none => []

/-- What the receiver copies to the buffer when these bytes have been read. -/
def receiveCopies (r : Reception) (data : List UInt8) : List (List UInt8) :=
  let packet := r.receivedPacket ++ data.map toCapital
  match find startFrame packet with
  | some indexHeader =>
    let packet := packet.drop indexHeader
    drainCopies packet.length { r with receivedPacket := packet }
  | none => []

/-- `xIFUART_receiveALTOFrame`, with what it has last copied to the buffer. -/
structure AltoRead where
  reception : Reception
  stored : Nat
  running : Bool
  trace : Trace

namespace AltoRead

def start (port : Port) (timeout : Nat) : AltoRead where
  reception := .start timeout port.readBuf
  stored := 0
  running := port.ready
  trace := .start

/-- The string is built of so many characters as the result says, and what is found in it
is copied. -/
def traced (s : AltoRead) (t : Turn) : AltoRead :=
  if t.dataAvailable ≠ 0 then
    let answer := t.uartRead (askedBytes t.dataAvailable)
    let copies := (answer.map (receiveCopies s.reception)).getD []
    { s with
      stored := (copies.getLast?.map List.length).getD s.stored
      trace := copies.foldl (fun t str => t.block str.length) (s.trace.block (status answer)) }
  else s

/-- An exception of `std::string` ends the routine, too. -/
def step (s : AltoRead) (t : Turn) : AltoRead :=
  if s.running then
    match s.reception.iteration t.toPoll with
    | .ok r => { s.traced t with reception := r, running := r.timeout ≠ 0 && !r.isFrame }
    | .error _ => { s.traced t with running := false }
  else s

end AltoRead

end Alto

-- ---------------------------------------------------------------------------
-- Frames of AVDS
-- ---------------------------------------------------------------------------

/-- `xIFUART_receiveAVDSFrameData`; `payloadRx` is where the pointer is in the payload. -/
structure AvdsRead where
  length : UInt32
  memoryAlloc : Nat → Option (Memory UInt8)
  state : RxState
  timeout : Nat
  retValue : Int
  counterRead : Int
  preamble : UInt8
  packetLength : Nat
  payloadLength : Nat
  payloadRx : Int
  pPayload : Option (Memory UInt8)
  isFinish : Bool
  buf : ReadBuf
  running : Bool
  trace : Trace

namespace AvdsRead

def start (port : Port) (length : UInt32) (timeout : Nat) : AvdsRead where
  length := length
  memoryAlloc := port.memoryAlloc
  state := .preamble1
  timeout := timeout
  retValue := 0
  counterRead := 0
  preamble := port.preamble
  packetLength := port.packetLength
  payloadLength := 0
  payloadRx := 0
  pPayload := none
  isFinish := false
  buf := ⟨port.readBuf, 0⟩
  running := decide (6 ≤ length.toNat) && port.ready
  trace := .start

def sleep (s : AvdsRead) : AvdsRead := { s with timeout := s.timeout - 1 }

def idle (s : AvdsRead) : AvdsRead := { s.sleep with pPayload := none }

/-- A byte of the preamble; a read of no bytes leaves the one before in its place. -/
def takePreamble (s : AvdsRead) (xs : List UInt8) : AvdsRead :=
  { s with preamble := xs.headD s.preamble, trace := s.trace.interpret 1 xs }

def matchPreamble1 (s : AvdsRead) (byte : UInt8) : AvdsRead :=
  if byte = rxPreamble1 then
    { s with buf := s.buf.put 0 [byte], counterRead := 1, state := .preamble2 }
  else s

def matchPreamble2 (s : AvdsRead) (byte : UInt8) : AvdsRead :=
  if byte = rxPreamble2 then
    { s with buf := s.buf.put 1 [byte], counterRead := 2, state := .packetLength }
  else
    -- an assignment: no result moves the counter here
    { s with counterRead := 0, state := .preamble1 }

def preamble1 (s : AvdsRead) (t : Turn) : AvdsRead :=
  if t.dataAvailable ≠ 0 then
    let s := { s with retValue := status (t.uartRead 1) }
    match t.uartRead 1 with
    | some xs => (s.takePreamble xs).matchPreamble1 (s.takePreamble xs).preamble
    | none => s
  else s.idle

def preamble2 (s : AvdsRead) (t : Turn) : AvdsRead :=
  if t.dataAvailable ≠ 0 then
    let s := { s with retValue := status (t.uartRead 1) }
    match t.uartRead 1 with
    | some xs => (s.takePreamble xs).matchPreamble2 (s.takePreamble xs).preamble
    | none => s
  else s.idle

def takeField (s : AvdsRead) (hi lo : UInt8) : AvdsRead :=
  if lengthField hi lo < rxMaxPayloadSize then
    -- with the CRC of 16 bits
    let s := { s with
      counterRead := 4, packetLength := lengthField hi lo + 2, buf := s.buf.put 2 [hi, lo] }
    match s.memoryAlloc s.packetLength with
    | some payload =>
      { s with pPayload := some payload, payloadLength := 0, payloadRx := 0, state := .payload }
    | none => { s with isFinish := true }
  else { s with counterRead := 4, packetLength := lengthField hi lo, isFinish := true }

/-- The bytes that were not read are still those of the variable. -/
def takeLength (s : AvdsRead) (xs : List UInt8) : AvdsRead :=
  { s with trace := s.trace.interpret 2 xs }.takeField
    (xs[0]?.getD (UInt8.ofNat s.packetLength)) (xs[1]?.getD (UInt8.ofNat (s.packetLength / 256)))

def lengthState (s : AvdsRead) (t : Turn) : AvdsRead :=
  if t.dataAvailable ≠ 0 then
    if t.dataAvailable ≥ 2 then
      let s := { s with retValue := status (t.uartRead 2) }
      match t.uartRead 2 with
      | some xs => s.takeLength xs
      | none => s
    else s.sleep
  else
    let s := s.sleep
    if s.timeout = 0 then { s with pPayload := none } else s

def copyPayload (s : AvdsRead) : AvdsRead :=
  { s with
    buf := s.buf.put 4 ((s.pPayload.getD fun _ => 0).read 0 s.payloadLength)
    trace := s.trace.block s.payloadLength }

def copyWithin (s : AvdsRead) (n : Nat) : AvdsRead :=
  if s.length.toNat ≥ n + 4 then s.copyPayload else s

def readPayload (s : AvdsRead) (t : Turn) (n : Nat) : AvdsRead :=
  let answer := t.uartRead n
  { s with
    retValue := status answer
    pPayload := s.pPayload.map fun m => (answer.map (m.writeAt s.payloadRx)).getD m
    payloadLength := ((s.payloadLength + status answer) % 2 ^ 16).toNat
    counterRead := s.counterRead + status answer
    payloadRx := s.payloadRx + status answer
    trace := s.trace.move (status answer) }

def asked (s : AvdsRead) (dataAvailable : Nat) : Nat :=
  if (s.packetLength - s.payloadLength : Int) > dataAvailable then
    if s.payloadRx < s.packetLength then dataAvailable
    else toUnsigned (s.packetLength - s.payloadRx)
  else toUnsigned (s.packetLength - s.payloadLength)

def payloadState (s : AvdsRead) (t : Turn) : AvdsRead :=
  if t.dataAvailable ≠ 0 then
    if (s.packetLength - s.payloadLength : Int) > t.dataAvailable ∧ s.payloadRx < s.packetLength
    then s.readPayload t (s.asked t.dataAvailable)
    else { s.readPayload t (s.asked t.dataAvailable) with state := .finish }
  else
    let s := s.sleep
    if s.pPayload.isSome && s.timeout = 0 then
      { s.copyWithin s.payloadLength with pPayload := none }
    else s

def finishState (s : AvdsRead) : AvdsRead :=
  { s.copyWithin s.packetLength with isFinish := true }

def reads (s : AvdsRead) (dataAvailable : Nat) : Option Nat :=
  match s.state with
  | .preamble1 | .preamble2 => if dataAvailable ≠ 0 then some 1 else none
  | .packetLength => if dataAvailable ≥ 2 then some 2 else none
  | .payload => if dataAvailable ≠ 0 then some (s.asked dataAvailable) else none
  | .finish => none

def turn (s : AvdsRead) (t : Turn) : AvdsRead :=
  match s.state with
  | .preamble1 => s.preamble1 t
  | .preamble2 => s.preamble2 t
  | .packetLength => s.lengthState t
  | .payload => s.payloadState t
  | .finish => s.finishState

def step (s : AvdsRead) (t : Turn) : AvdsRead :=
  if s.running then
    let s := s.turn t
    { s with running := s.timeout ≠ 0 && !s.isFinish }
  else s

def result (s : AvdsRead) : Int := if s.counterRead ≠ 0 then s.counterRead else s.retValue

end AvdsRead

end SystemMaster.Interfaces
