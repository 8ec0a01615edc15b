import SystemMaster.Library.Memory
import SystemMaster.Library.Runs

/-!
# The receiver of AVDS frames

`xIFUART_receiveAVDSFrameData` matches the preamble byte by byte, takes a buffer for the
payload once it has the length, and copies the payload to the caller's buffer at the end
or when the time is up. A turn of its loop finds some newly arrived bytes. The receiver
keeps a record, which nothing reads, of what it does to memory and of the bytes taken.
-/

namespace SystemMaster.Avds

open Runs

inductive RxState where
  | preamble1
  | preamble2
  | packetLength
  | payload
  | finish
  deriving DecidableEq, Repr

def rxPreamble1 : UInt8 := 0xAA
def rxPreamble2 : UInt8 := 0x55
def rxMaxPayloadSize : Nat := 64

/-- `Memory_alloc`, `Memory_free`, and the writes to the caller's buffer and the payload. -/
inductive MemoryOp where
  | alloc (size : Nat)
  | free (size : Nat)
  | toStr (off size : Nat)
  | toPayload (off size : Nat)
  deriving DecidableEq, Repr

/-- The locals, with the caller's buffer and its length and the bytes the UART holds.
`memoryAlloc` is what `Memory_alloc` answers: a block with some contents, or `NULL`. -/
structure Receiver where
  length : Nat
  memoryAlloc : Nat → Option (Memory UInt8)
  uart : List UInt8
  state : RxState
  timeout : Nat
  retValue : Nat
  counterRead : Nat
  packetLength : Nat
  payloadLength : Nat
  payloadRx : Nat
  pPayload : Option (Memory UInt8)
  pStr : Memory UInt8
  isError : Bool
  isFinish : Bool
  running : Bool
  ops : List MemoryOp
  taken : List UInt8

namespace Receiver

def start (opened pend : Bool) (memoryAlloc : Nat → Option (Memory UInt8)) (pStr : Memory UInt8)
    (length timeout : Nat) : Receiver where
  length := length
  memoryAlloc := memoryAlloc
  uart := []
  state := .preamble1
  timeout := timeout
  retValue := 0
  counterRead := 0
  packetLength := 0
  payloadLength := 0
  payloadRx := 0
  pPayload := none
  pStr := pStr
  isError := false
  isFinish := false
  running := 6 ≤ length && opened && pend
  ops := []
  taken := []

-- ---------------------------------------------------------------------------
-- The loop
-- ---------------------------------------------------------------------------

def uartRead (r : Receiver) (n : Nat) : Receiver :=
  { r with uart := r.uart.drop n, taken := r.taken ++ r.uart.take n, retValue := n }

def writeStr (r : Receiver) (off : Nat) (xs : List UInt8) : Receiver :=
  { r with pStr := r.pStr.write off xs, ops := r.ops ++ [.toStr off xs.length] }

def sleep (r : Receiver) : Receiver := { r with timeout := r.timeout - 1 }

def freePayload (r : Receiver) : Receiver :=
  { r with pPayload := none, ops := r.ops ++ [.free r.packetLength] }

def copyPayload (r : Receiver) : Receiver :=
  match r.pPayload with
  | some payload => r.writeStr 4 (payload.read 0 r.payloadLength)
  | none => r

def readPayload (r : Receiver) (n : Nat) : Receiver :=
  { r.uartRead n with
    pPayload := r.pPayload.map (·.write r.payloadRx (r.uart.take n))
    payloadLength := r.payloadLength + n
    counterRead := r.counterRead + n
    payloadRx := r.payloadRx + n
    ops := r.ops ++ [.toPayload r.payloadRx n] }

def idle (r : Receiver) : Receiver :=
  let r := r.sleep
  if r.pPayload.isSome then r.freePayload else r

def preamble1 (r : Receiver) : Receiver :=
  match r.uart with
  | byte :: _ =>
    let r := r.uartRead 1
    if byte = rxPreamble1 then
      { r.writeStr 0 [byte] with counterRead := 1, state := .preamble2 }
    else r
  | [] => r.idle

def preamble2 (r : Receiver) : Receiver :=
  match r.uart with
  | byte :: _ =>
    let r := r.uartRead 1
    if byte = rxPreamble2 then
      { r.writeStr 1 [byte] with counterRead := 2, state := .packetLength }
    else { r with counterRead := 0, state := .preamble1 }
  | [] => r.idle

/-- The length is in network order. -/
def lengthField (hi lo : UInt8) : Nat := 256 * hi.toNat + lo.toNat

def takeLength (r : Receiver) (hi lo : UInt8) : Receiver :=
  let packetLength := lengthField hi lo
  if packetLength < rxMaxPayloadSize then
    let r := (r.writeStr 3 [lo]).writeStr 2 [hi]
    -- with the CRC of 16 bits
    let r := { r with counterRead := 4, packetLength := packetLength + 2 }
    match r.memoryAlloc r.packetLength with
    | some payload =>
      { r with
        pPayload := some payload
        payloadLength := 0
        payloadRx := 0
        state := .payload
        ops := r.ops ++ [.alloc r.packetLength] }
    | none => { r with isError := true, isFinish := true }
  else
    { r with counterRead := 4, packetLength := packetLength, isError := true, isFinish := true }

def lengthState (r : Receiver) : Receiver :=
  match r.uart with
  | hi :: lo :: _ => (r.uartRead 2).takeLength hi lo
  | [_] => r.sleep
  | [] =>
    let r := r.sleep
    if r.pPayload.isSome && r.timeout = 0 then r.freePayload else r

def payloadState (r : Receiver) : Receiver :=
  let dataAvailable := r.uart.length
  if dataAvailable ≠ 0 then
    if r.packetLength - r.payloadLength > dataAvailable then
      if r.payloadRx < r.packetLength then r.readPayload dataAvailable
      else
        { r.readPayload (r.packetLength - r.payloadRx) with isError := true, state := .finish }
    else { r.readPayload (r.packetLength - r.payloadLength) with state := .finish }
  else
    let r := r.sleep
    if r.pPayload.isSome && r.timeout = 0 then
      let r := if r.length ≥ r.payloadLength + 4 then r.copyPayload else r
      r.freePayload
    else r

def finishState (r : Receiver) : Receiver :=
  let r := if r.length ≥ r.packetLength + 4 then r.copyPayload else r
  { r with ops := r.ops ++ [.free r.packetLength], isFinish := true }

def turn (r : Receiver) : Receiver :=
  match r.state with
  | .preamble1 => r.preamble1
  | .preamble2 => r.preamble2
  | .packetLength => r.lengthState
  | .payload => r.payloadState
  | .finish => r.finishState

def arrive (r : Receiver) (chunk : List UInt8) : Receiver := { r with uart := r.uart ++ chunk }

/-- A turn of the loop, before which some bytes have arrived, and its condition. -/
def step (r : Receiver) (chunk : List UInt8) : Receiver :=
  let r := r.arrive chunk
  if r.running then
    let r := r.turn
    { r with running := r.timeout ≠ 0 && !r.isFinish }
  else r

/-- What `xIFUART_receiveAVDSFrameData` returns. -/
def result (r : Receiver) : Nat := if r.counterRead ≠ 0 then r.counterRead else r.retValue

/-- What `bIFUART_transfer` makes of it in its branch for AVDS; `sent` tells that the
request was sent in full. -/
def transferred (sent : Bool) (readCount : Nat) (r : Receiver) : Bool :=
  sent && (5 < readCount && r.result = readCount)

end Receiver

end SystemMaster.Avds
