import SystemMaster.Interfaces.ReceiveRoutines

/-!
# Transfers

`bIFUART_transfer` writes what the transaction has to write and calls the receive routine
of its protocol. What the routine returns becomes the `readCount` of the transaction.
-/

namespace SystemMaster.Interfaces

inductive Routine where
  | receiveDataSimple
  | receiveData
  | receiveALTOFrame
  | receiveAVDSFrameData
  deriving DecidableEq, Repr

inductive Call where
  | simple (s : SimpleRead)
  | data (s : DataRead)
  | alto (s : AltoRead)
  | avds (s : AvdsRead)

namespace Call

def step : Call → Turn → Call
  | .simple s, t => .simple (s.step t)
  | .data s, t => .data (s.step t)
  | .alto s, t => .alto (s.step t)
  | .avds s, t => .avds (s.step t)

def running : Call → Bool
  | .simple s => s.running
  | .data s => s.running
  | .alto s => s.running
  | .avds s => s.running

def result : Call → Int
  | .simple s => s.retValue
  | .data s => s.result
  | .alto s => s.reception.retValue
  | .avds s => s.result

def stored : Call → Nat
  | .simple s => s.buf.stored
  | .data s => s.buf.stored
  | .alto s => s.stored
  | .avds s => s.buf.stored

def readBuf : Call → Memory UInt8
  | .simple s => s.buf.bytes
  | .data s => s.buf.bytes
  | .alto s => s.reception.p64Buffer
  | .avds s => s.buf.bytes

def trace : Call → Trace
  | .simple s => s.trace
  | .data s => s.trace
  | .alto s => s.trace
  | .avds s => s.trace

def reads (c : Call) (dataAvailable : Nat) : Option Nat :=
  if c.running then
    match c with
    | .simple s => some s.length.toNat
    | .data s => if dataAvailable ≠ 0 then some (s.asked dataAvailable) else none
    | .alto _ => if dataAvailable ≠ 0 then some (Alto.askedBytes dataAvailable) else none
    | .avds s => s.reads dataAvailable
  else none

def taken (c : Call) (t : Turn) : List UInt8 :=
  ((c.reads t.dataAvailable).bind t.uartRead).getD []

def received : Call → List Turn → List UInt8
  | _, [] => []
  | c, t :: turns => c.taken t ++ received (c.step t) turns

end Call

def Routine.call (routine : Routine) (port : Port) (length : UInt32) (timeout : Nat) : Call :=
  match routine with
  | .receiveDataSimple => .simple (.start port length)
  | .receiveData => .data (.start port length timeout)
  | .receiveALTOFrame => .alto (.start port timeout)
  | .receiveAVDSFrameData => .avds (.start port length timeout)

/-- `IF_TRANSFER_TYPE_ALTO_FORTE_MANAGER`, or any other type. -/
inductive TransferType where
  | altoForteManager
  | other
  deriving DecidableEq, Repr

/-- `IF_TRANSACTION_RX_PROTOCOL_NONE` and those after it, and what is none of them. -/
inductive RxProtocol where
  | none
  | altoMultinet
  | altoNet
  | alto3Messages
  | rosen485
  | avds485
  | other
  deriving DecidableEq, Repr

structure Transaction where
  transferType : TransferType
  rxProtocol : RxProtocol
  writeCount : UInt32
  readCount : UInt32
  readTimeout : Nat

namespace Transaction

/-- Something is to be received. The Forte Manager receives frames of ALTO only. -/
def receives (t : Transaction) : Bool :=
  match t.transferType with
  | .altoForteManager => t.rxProtocol == .altoMultinet || t.rxProtocol == .altoNet
  | .other => t.readCount ≠ 0 && t.rxProtocol != .other

/-- The routine that is called for the protocol, where the buffer is large enough. -/
def routine (t : Transaction) : Option Routine :=
  if t.receives then
    match t.rxProtocol with
    | .none | .alto3Messages => some .receiveDataSimple
    | .altoMultinet | .altoNet =>
      if t.readCount.toNat ≥ Alto.serialFrameSize then some .receiveALTOFrame else none
    | .rosen485 => if t.readCount.toNat ≥ 2 then some .receiveData else none
    | .avds485 => if t.readCount.toNat > 5 then some .receiveAVDSFrameData else none
    | .other => none
  else none

end Transaction

/-- A transfer, whose write has given `written`. -/
structure Transfer where
  transaction : Transaction
  written : UInt32
  port : Port
  call : Option Call

namespace Transfer

def start (transaction : Transaction) (written : UInt32) (port : Port) : Transfer where
  transaction := transaction
  written := written
  port := port
  call := transaction.routine.map (·.call port transaction.readCount transaction.readTimeout)

def step (s : Transfer) (t : Turn) : Transfer := { s with call := s.call.map (·.step t) }

def running (s : Transfer) : Bool := s.call.any Call.running

def readCount (s : Transfer) : Nat :=
  match s.call with
  | some c => toUnsigned c.result
  | none => s.transaction.readCount.toNat

def stored (s : Transfer) : Nat :=
  match s.call with
  | some c => c.stored
  | none => 0

def readBuf (s : Transfer) : Memory UInt8 :=
  match s.call with
  | some c => c.readBuf
  | none => s.port.readBuf

def trace (s : Transfer) : Trace :=
  match s.call with
  | some c => c.trace
  | none => .start

/-- Everything was written; the Forte Manager writes nothing. -/
def sent (s : Transfer) : Bool :=
  match s.transaction.transferType with
  | .altoForteManager => true
  | .other => s.transaction.writeCount = 0 || s.written = s.transaction.writeCount

/-- What `bIFUART_transfer` returns. -/
def ret (s : Transfer) : Bool :=
  if s.transaction.writeCount = 0 ∧ s.transaction.readCount = 0 then false
  else
    s.sent &&
      match s.call with
      | some _ => s.readCount = s.transaction.readCount.toNat
      | none => !s.transaction.receives

end Transfer

end SystemMaster.Interfaces
