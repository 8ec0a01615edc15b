import SystemMaster.Library.Runs
import Mathlib.Logic.Function.Basic

/-!
# CDC endpoints of the composite device

Tasks receive from and send to an endpoint while the USB stack connects it,
takes data from the host and disconnects it. The calls run interleaved, up to
single statements; the buffers are those of the USB library.
-/

namespace SystemMaster.Usb.Composite

open Runs

/-- The functions of the library on a `tUSBBuffer` with state in `β`. `receive` and
`transmit` are what its interrupt handler does with the host. -/
structure USBBuffer (β : Type) where
  usbBufferInit : β → β
  usbBufferDataAvailable : β → Nat
  usbBufferSpaceAvailable : β → Nat
  usbBufferRead : β → Nat → List UInt8 × β
  usbBufferWrite : β → List UInt8 → Nat × β
  receive : β → List UInt8 → β
  transmit : β → β

/-- What the library says of a receive buffer: a queue of the bytes `contents`. -/
structure USBBuffer.IsQueue {β : Type} (lib : USBBuffer β) (contents : β → List UInt8) : Prop where
  init : ∀ b, contents (lib.usbBufferInit b) = []
  available : ∀ b, lib.usbBufferDataAvailable b = (contents b).length
  read : ∀ b n, (lib.usbBufferRead b n).1 = (contents b).take n
  rest : ∀ b n, contents (lib.usbBufferRead b n).2 = (contents b).drop n
  receive : ∀ b packet, packet.length ≤ lib.usbBufferSpaceAvailable b →
    contents (lib.receive b packet) = contents b ++ packet

-- ---------------------------------------------------------------------------
-- Endpoints
-- ---------------------------------------------------------------------------

inductive USBState where
  | idle
  | init
  | unconfigured
  deriving DecidableEq

inductive Result where
  | received (pStr : List UInt8)
  | sent (bufferedCount : Nat)

/-- Where a call is. `receive` and `send` come to their `switch`; the points after a
`lock` hold the mutex up to the `unlock`. -/
inductive Point where
  | returned (r : Result)
  | waitForConnect (r : Result)
  | waitCheck (r : Result)
  | waitPend (r : Result)
  | waitUnlock (r : Result)
  | receive (length : Nat)
  | receiveInit (length : Nat)
  | receiveInitTx (length : Nat)
  | receiveInitRx (length : Nat)
  | receiveIdle (length : Nat)
  | receiveLock (length : Nat)
  | rxData (length : Nat)
  | rxPend (length : Nat)
  | rxRead (length : Nat)
  | receiveUnlock (pStr : List UInt8)
  | send (pStr : List UInt8)
  | sendInit (pStr : List UInt8)
  | sendInitTx (pStr : List UInt8)
  | sendInitRx (pStr : List UInt8)
  | sendIdle (pStr : List UInt8)
  | sendLock (pStr : List UInt8)
  | txData (rest : List UInt8) (bufferedCount : Nat)
  | txPend (rest : List UInt8) (bufferedCount : Nat)
  | sendUnlock (bufferedCount : Nat)

def Point.bytes : Point → List UInt8
  | .returned (.received pStr) => pStr
  | _ => []

/-- What a statement that takes a call from `p` to `q` gives the caller. -/
def Point.given (p q : Point) : List UInt8 :=
  match p with
  | .returned _ => []
  | _ => q.bytes

/-- A record for the proofs: whether the host is connected and, once `receiveData` has
initialised the receive buffer since, the bytes delivered and those its callers got. -/
inductive Connection where
  | disconnected
  | connected
  | initialised (delivered returned : List UInt8)

namespace Connection

def connect : Connection → Connection
  | disconnected => connected
  | c => c

def initialise : Connection → Connection
  | connected => initialised [] []
  | c => c

def isInitialised : Connection → Bool
  | initialised _ _ => true
  | _ => false

def deliver (packet : List UInt8) : Connection → Connection
  | initialised delivered returned => initialised (delivered ++ packet) returned
  | c => c

def give (bytes : List UInt8) : Connection → Connection
  | initialised delivered returned => initialised delivered (returned ++ bytes)
  | c => c

end Connection

/-- `USBCDCD_Object` of an index with its two buffers and the calls for it. `disturbed`
is a record too: a `sendData` has initialised the receive buffer after a `receiveData`
in the same connection, or with bytes in it. -/
structure Endpoint (β : Type) where
  state : USBState
  stateTx : USBState
  mutexTxSerial : Option Nat
  mutexRxSerial : Option Nat
  mutexUSBWait : Option Nat
  semTxSerial : Bool
  semRxSerial : Bool
  semUSBConnected : Bool
  rxBuffer : β
  txBuffer : β
  call : Nat → Point
  connection : Connection
  disturbed : Bool

/-- What happens at an endpoint: events of the USB stack, a task's call of
`USBCDCD_receiveData` or `USBCDCD_sendData`, and the next statement of a call. A call
that pends may time out. -/
inductive Event where
  | connected
  | disconnected
  | rxAvailable (packet : List UInt8)
  | txComplete
  | receiveData (c : Nat) (length : Nat)
  | sendData (c : Nat) (pStr : List UInt8)
  | next (c : Nat) (timesOut : Bool)

namespace Endpoint

variable {β : Type}

def goto (e : Endpoint β) (c : Nat) (p : Point) : Endpoint β :=
  { e with call := Function.update e.call c p }

/-- After `SemaphoreP_pend`: the semaphore was posted, the call times out or it waits. -/
def pend (e : Endpoint β) (posted timesOut : Bool) (taken timeout : Endpoint β) : Endpoint β :=
  if posted then taken else if timesOut then timeout else e

def lock (e : Endpoint β) (mutex : Option Nat) (locked : Endpoint β) : Endpoint β :=
  match mutex with
  | none => locked
  | some _ => e

def receive (e : Endpoint β) (c : Nat) (length : Nat) : Endpoint β :=
  match e.state with
  | .unconfigured => e.goto c (.waitForConnect (.received []))
  | .init => e.goto c (.receiveInit length)
  | .idle => e.goto c (.receiveLock length)

def send (e : Endpoint β) (c : Nat) (pStr : List UInt8) : Endpoint β :=
  match e.stateTx with
  | .unconfigured => e.goto c (.waitForConnect (.sent 0))
  | .init => e.goto c (.sendInit pStr)
  | .idle => e.goto c (.sendLock pStr)

/-- The next statement of `USBCDCD_waitForConnect`, `USBCDCD_receiveData` and `rxData`,
or `USBCDCD_sendData` and `txData`. -/
def next (lib : USBBuffer β) (e : Endpoint β) (c : Nat) (timesOut : Bool) : Endpoint β :=
  match e.call c with
  | .returned _ => e
  | .waitForConnect r => e.lock e.mutexUSBWait { e.goto c (.waitCheck r) with mutexUSBWait := some c }
  | .waitCheck r =>
    match e.state with
    | .unconfigured => e.goto c (.waitPend r)
    | _ => e.goto c (.waitUnlock r)
  | .waitPend r =>
    e.pend e.semUSBConnected timesOut { e.goto c (.waitUnlock r) with semUSBConnected := false }
      (e.goto c (.waitUnlock r))
  | .waitUnlock r => { e.goto c (.returned r) with mutexUSBWait := none }
  | .receive length => e.receive c length
  | .receiveInit length =>
    e.lock e.mutexRxSerial { e.goto c (.receiveInitTx length) with mutexRxSerial := some c }
  | .receiveInitTx length =>
    { e.goto c (.receiveInitRx length) with txBuffer := lib.usbBufferInit e.txBuffer }
  | .receiveInitRx length =>
    { e.goto c (.receiveIdle length) with
      rxBuffer := lib.usbBufferInit e.rxBuffer
      connection := e.connection.initialise }
  | .receiveIdle length => { e.goto c (.rxData length) with state := .idle }
  | .receiveLock length =>
    e.lock e.mutexRxSerial { e.goto c (.rxData length) with mutexRxSerial := some c }
  | .rxData length =>
    if lib.usbBufferDataAvailable e.rxBuffer = 0 then e.goto c (.rxPend length)
    else e.goto c (.rxRead length)
  | .rxPend length =>
    e.pend e.semRxSerial timesOut { e.goto c (.rxRead length) with semRxSerial := false }
      (e.goto c (.receiveUnlock []))
  | .rxRead length =>
    let (bytes, rxBuffer) := lib.usbBufferRead e.rxBuffer length
    { e.goto c (.receiveUnlock bytes) with rxBuffer := rxBuffer }
  | .receiveUnlock pStr => { e.goto c (.returned (.received pStr)) with mutexRxSerial := none }
  | .send pStr => e.send c pStr
  | .sendInit pStr =>
    e.lock e.mutexTxSerial { e.goto c (.sendInitTx pStr) with mutexTxSerial := some c }
  | .sendInitTx pStr =>
    { e.goto c (.sendInitRx pStr) with txBuffer := lib.usbBufferInit e.txBuffer }
  | .sendInitRx pStr =>
    { e.goto c (.sendIdle pStr) with
      rxBuffer := lib.usbBufferInit e.rxBuffer
      disturbed := e.disturbed || e.connection.isInitialised ||
        lib.usbBufferDataAvailable e.rxBuffer ≠ 0 }
  | .sendIdle pStr => { e.goto c (.txData pStr 0) with stateTx := .idle }
  | .sendLock pStr =>
    e.lock e.mutexTxSerial { e.goto c (.txData pStr 0) with mutexTxSerial := some c }
  | .txData [] bufferedCount => e.goto c (.sendUnlock bufferedCount)
  | .txData rest bufferedCount =>
    let sendCount := min rest.length (lib.usbBufferSpaceAvailable e.txBuffer)
    let (written, txBuffer) := lib.usbBufferWrite e.txBuffer (rest.take sendCount)
    { e.goto c (.txPend (rest.drop written) (bufferedCount + written)) with txBuffer := txBuffer }
  | .txPend rest bufferedCount =>
    e.pend e.semTxSerial timesOut { e.goto c (.txData rest bufferedCount) with semTxSerial := false }
      (e.goto c (.sendUnlock bufferedCount))
  | .sendUnlock bufferedCount =>
    { e.goto c (.returned (.sent bufferedCount)) with mutexTxSerial := none }

def start (e : Endpoint β) (c : Nat) (p : Point) : Endpoint β :=
  match e.call c with
  | .returned _ => e.goto c p
  | _ => e

def give (e : Endpoint β) (bytes : List UInt8) : Endpoint β :=
  { e with connection := e.connection.give bytes }

/-- `cbSerialHandler`, `cbRxHandler`, `cbTxHandler` and the calls. A packet that does not
fit in the buffer stays with the controller. -/
def step (lib : USBBuffer β) (e : Endpoint β) : Event → Endpoint β
  | .connected =>
    { e with
      state := .init
      stateTx := .init
      semUSBConnected := true
      connection := e.connection.connect }
  | .disconnected =>
    { e with state := .unconfigured, stateTx := .unconfigured, connection := .disconnected }
  | .rxAvailable packet =>
    if packet.length ≤ lib.usbBufferSpaceAvailable e.rxBuffer then
      { e with
        rxBuffer := lib.receive e.rxBuffer packet
        semRxSerial := true
        connection := e.connection.deliver packet }
    else e
  | .txComplete => { e with txBuffer := lib.transmit e.txBuffer, semTxSerial := true }
  | .receiveData c length => e.start c (.receive length)
  | .sendData c pStr => e.start c (.send pStr)
  | .next c timesOut =>
    let e' := e.next lib c timesOut
    e'.give ((e.call c).given (e'.call c))

def initial (rxBuffer txBuffer : β) : Endpoint β where
  state := .unconfigured
  stateTx := .idle
  mutexTxSerial := none
  mutexRxSerial := none
  mutexUSBWait := none
  semTxSerial := false
  semRxSerial := false
  semUSBConnected := false
  rxBuffer := rxBuffer
  txBuffer := txBuffer
  call := fun _ => .returned (.received [])
  connection := .disconnected
  disturbed := false

end Endpoint

inductive Index where
  | remoteControl
  | console
  | forteVerifier
  deriving DecidableEq

/-- `g_USBCDCDObjects`: an event is of one index and leaves the others alone. -/
def step {β : Type} (lib : USBBuffer β) (objects : Index → Endpoint β) (event : Index × Event) :
    Index → Endpoint β :=
  Function.update objects event.1 ((objects event.1).step lib event.2)

section
variable {β : Type} {lib : USBBuffer β} {contents : β → List UInt8} {e : Endpoint β}
  {c : Nat} {timesOut : Bool} {event : Event} {objects : Index → Endpoint β} {index : Index}

def Point.inHand : Point → List UInt8
  | .receiveUnlock pStr => pStr
  | _ => []

def Endpoint.inHand (e : Endpoint β) : List UInt8 :=
  match e.mutexRxSerial with
  | some c => (e.call c).inHand
  | none => []

/-- Since `receiveData` has initialised the buffer, what the host delivered is what its
callers got, then what one of them is about to get and what is in the buffer; and
`sendData` has left the buffer alone. -/
structure Endpoint.Kept (contents : β → List UInt8) (e : Endpoint β) : Prop where
  kept : ∀ delivered returned, e.connection = .initialised delivered returned →
    delivered = returned ++ e.inHand ++ contents e.rxBuffer
  undisturbed : e.disturbed = false

/-- Where a call initialises the receive buffer, it is empty or, for `receiveData`, not
initialised yet in this connection; for `sendData` it is both. -/
def Endpoint.Spares (contents : β → List UInt8) (e : Endpoint β) : Event → Prop
  | .next c _ =>
    match e.call c with
    | .receiveInitRx _ => e.connection.isInitialised → contents e.rxBuffer = []
    | .sendInitRx _ => e.connection.isInitialised = false ∧ contents e.rxBuffer = []
    | _ => True
  | _ => True

namespace Endpoint

-- ---------------------------------------------------------------------------
-- Who has the receive side's mutex
-- ---------------------------------------------------------------------------

def InReceive : Point → Prop
  | .receiveInitTx _ | .receiveInitRx _ | .receiveIdle _ | .rxData _ | .rxPend _ | .rxRead _
  | .receiveUnlock _ => True
  | _ => False

def Empty : Point → Prop
  | .waitForConnect r | .waitCheck r | .waitPend r | .waitUnlock r => Point.bytes (.returned r) = []
  | _ => True

structure Calls (e : Endpoint β) : Prop where
  locked : ∀ c, InReceive (e.call c) → e.mutexRxSerial = some c
  empty : ∀ c, Empty (e.call c)

theorem calls_initial {rxBuffer txBuffer : β} : (initial rxBuffer txBuffer).Calls :=
  ⟨fun _ h => h.elim, fun _ => trivial⟩

theorem Calls.goto {e' : Endpoint β} {p : Point} (h : e.Calls)
    (hcall : e'.call = Function.update e.call c p) (hlocked : InReceive p → e'.mutexRxSerial = some c)
    (hothers : ∀ d, d ≠ c → e.mutexRxSerial = some d → e'.mutexRxSerial = some d)
    (hempty : Empty p) : e'.Calls := by
  constructor
  · intro d hd
    rw [hcall] at hd
    by_cases hdc : d = c
    · subst hdc
      rw [Function.update_self] at hd
      exact hlocked hd
    · rw [Function.update_of_ne hdc] at hd
      exact hothers d hdc (h.locked d hd)
  · rw [hcall]
    exact (Function.forall_update_iff e.call fun _ p => Empty p).mpr ⟨hempty, fun d _ => h.empty d⟩

theorem Calls.move {e' : Endpoint β} {p : Point} (h : e.Calls)
    (hcall : e'.call = Function.update e.call c p) (hmutex : e'.mutexRxSerial = e.mutexRxSerial)
    (hin : InReceive p → InReceive (e.call c)) (hempty : Empty p) : e'.Calls := by
  refine h.goto hcall ?_ ?_ hempty
  · intro hp
    rw [hmutex]
    exact h.locked c (hin hp)
  · intro d _ hd
    rw [hmutex]
    exact hd

theorem Calls.pend {posted : Bool} {taken timeout : Endpoint β} (h : e.Calls) (ht : taken.Calls)
    (ho : timeout.Calls) : (e.pend posted timesOut taken timeout).Calls := by
  rw [Endpoint.pend]
  split
  · exact ht
  · split
    · exact ho
    · exact h

theorem Calls.lock {mutex : Option Nat} {locked : Endpoint β} (h : e.Calls)
    (hlocked : mutex = none → locked.Calls) : (e.lock mutex locked).Calls := by
  cases mutex with
  | none => exact hlocked rfl
  | some => exact h

theorem Calls.lockRx {p : Point} (h : e.Calls) (hempty : Empty p) :
    (e.lock e.mutexRxSerial { e.goto c p with mutexRxSerial := some c }).Calls := by
  refine h.lock fun hfree => h.goto (c := c) rfl (fun _ => rfl) ?_ hempty
  intro d _ hd
  rw [hfree] at hd
  cases hd

theorem Calls.receive (h : e.Calls) {length : Nat} : (e.receive c length).Calls := by
  rw [Endpoint.receive]
  split <;> exact h.move (c := c) rfl rfl (fun hp => hp.elim) (by trivial)

theorem Calls.send (h : e.Calls) {pStr : List UInt8} : (e.send c pStr).Calls := by
  rw [Endpoint.send]
  split <;> exact h.move (c := c) rfl rfl (fun hp => hp.elim) (by trivial)

theorem Calls.next (h : e.Calls) : (e.next lib c timesOut).Calls := by
  have hlocked := h.locked c
  have hempty := h.empty c
  cases hp : e.call c with
  | returned r =>
    simp only [Endpoint.next, hp]
    exact h
  | waitForConnect r =>
    rw [hp] at hempty
    simp only [Endpoint.next, hp]
    exact h.lock fun _ => h.move (c := c) rfl rfl (fun hin => hin.elim) hempty
  | waitCheck r =>
    rw [hp] at hempty
    simp only [Endpoint.next, hp]
    split <;> exact h.move (c := c) rfl rfl (fun hin => hin.elim) hempty
  | waitPend r =>
    rw [hp] at hempty
    simp only [Endpoint.next, hp]
    exact h.pend (h.move (c := c) rfl rfl (fun hin => hin.elim) hempty)
      (h.move (c := c) rfl rfl (fun hin => hin.elim) hempty)
  | receive length =>
    simp only [Endpoint.next, hp]
    exact h.receive
  | send pStr =>
    simp only [Endpoint.next, hp]
    exact h.send
  | receiveInit | receiveLock =>
    simp only [Endpoint.next, hp]
    exact h.lockRx trivial
  | sendInit | sendLock =>
    simp only [Endpoint.next, hp]
    exact h.lock fun _ => h.move (c := c) rfl rfl (fun hin => hin.elim) trivial
  | rxData length =>
    simp only [Endpoint.next, hp]
    split <;> exact h.move (c := c) rfl rfl (fun _ => by rw [hp]; trivial) trivial
  | rxPend length =>
    simp only [Endpoint.next, hp]
    exact h.pend (h.move (c := c) rfl rfl (fun _ => by rw [hp]; trivial) trivial)
      (h.move (c := c) rfl rfl (fun _ => by rw [hp]; trivial) trivial)
  | receiveInitTx | receiveInitRx | receiveIdle | rxRead =>
    simp only [Endpoint.next, hp]
    exact h.move (c := c) rfl rfl (fun _ => by rw [hp]; trivial) trivial
  | receiveUnlock pStr =>
    rw [hp] at hlocked
    simp only [Endpoint.next, hp]
    refine h.goto (c := c) rfl (fun hin => hin.elim) ?_ trivial
    intro d hd hmutex
    exact absurd (Option.some.inj (hmutex.symm.trans (hlocked trivial))) hd
  | txData rest =>
    simp only [Endpoint.next, hp]
    cases rest <;> exact h.move (c := c) rfl rfl (fun hin => hin.elim) trivial
  | txPend =>
    simp only [Endpoint.next, hp]
    exact h.pend (h.move (c := c) rfl rfl (fun hin => hin.elim) trivial)
      (h.move (c := c) rfl rfl (fun hin => hin.elim) trivial)
  | waitUnlock | sendInitTx | sendInitRx | sendIdle | sendUnlock =>
    simp only [Endpoint.next, hp]
    exact h.move (c := c) rfl rfl (fun hin => hin.elim) trivial

theorem Calls.start (h : e.Calls) {p : Point} (hin : ¬InReceive p) (hempty : Empty p) :
    (e.start c p).Calls := by
  rw [Endpoint.start]
  split
  · exact h.move (c := c) rfl rfl (fun hp => absurd hp hin) hempty
  · exact h

theorem Calls.step (h : e.Calls) : (e.step lib event).Calls := by
  cases event with
  | connected | disconnected | txComplete => exact ⟨h.locked, h.empty⟩
  | rxAvailable packet =>
    rw [Endpoint.step]
    split
    · exact ⟨h.locked, h.empty⟩
    · exact h
  | receiveData c length => exact h.start id trivial
  | sendData c pStr => exact h.start id trivial
  | next c timesOut =>
    have hnext : (e.next lib c timesOut).Calls := h.next
    exact ⟨hnext.locked, hnext.empty⟩

-- ---------------------------------------------------------------------------
-- Statements that leave the bytes alone
-- ---------------------------------------------------------------------------

/-- A statement that touches neither the bytes nor the records. -/
structure Aside (c : Nat) (e e' : Endpoint β) : Prop where
  rxBuffer : e'.rxBuffer = e.rxBuffer
  connection : e'.connection = e.connection
  disturbed : e'.disturbed = e.disturbed
  inHand : e'.inHand = e.inHand
  given : (e.call c).given (e'.call c) = []

theorem given_of_bytes {p q : Point} (h : q.bytes = []) : p.given q = [] := by
  cases p with
  | returned => rfl
  | _ => exact h

theorem given_self {p : Point} : p.given p = [] := by
  cases p <;> rfl

theorem give_nil : e.give [] = e := by
  rw [give]
  cases hc : e.connection <;> simp [Connection.give, ← hc]

theorem Aside.refl : Aside c e e := ⟨rfl, rfl, rfl, rfl, given_self⟩

/-- A call that has nothing in hand goes on. -/
theorem aside_goto {e' : Endpoint β} {p : Point} (hcall : e'.call = Function.update e.call c p)
    (hmutex : e'.mutexRxSerial = e.mutexRxSerial) (hbefore : (e.call c).inHand = [])
    (hafter : p.inHand = []) (hbytes : p.bytes = []) (hrxBuffer : e'.rxBuffer = e.rxBuffer)
    (hconnection : e'.connection = e.connection) (hdisturbed : e'.disturbed = e.disturbed) :
    Aside c e e' where
  rxBuffer := hrxBuffer
  connection := hconnection
  disturbed := hdisturbed
  inHand := by
    rw [inHand, inHand, hmutex, hcall]
    cases e.mutexRxSerial with
    | none => rfl
    | some d =>
      by_cases hd : d = c
      · subst hd
        simp only [Function.update_self, hbefore, hafter]
      · simp only [Function.update_of_ne hd]
  given := by
    rw [hcall, Function.update_self]
    exact given_of_bytes hbytes

theorem aside_lockRx {p : Point} (hafter : p.inHand = []) (hbytes : p.bytes = []) :
    Aside c e (e.lock e.mutexRxSerial { e.goto c p with mutexRxSerial := some c }) := by
  cases hmutex : e.mutexRxSerial with
  | none =>
    refine ⟨rfl, rfl, rfl, ?_, ?_⟩
    · simp only [lock, inHand, hmutex, goto, Function.update_self, hafter]
    · simp only [lock, goto, Function.update_self]
      exact given_of_bytes hbytes
  | some d => exact .refl

theorem Aside.pend {posted : Bool} {taken timeout : Endpoint β} (ht : Aside c e taken)
    (ho : Aside c e timeout) : Aside c e (e.pend posted timesOut taken timeout) := by
  rw [Endpoint.pend]
  split
  · exact ht
  · split
    · exact ho
    · exact .refl

theorem Aside.lock {mutex : Option Nat} {locked : Endpoint β} (h : Aside c e locked) :
    Aside c e (e.lock mutex locked) := by
  cases mutex with
  | none => exact h
  | some => exact .refl

theorem Aside.kept {e' : Endpoint β} (ha : Aside c e e') (h : e.Kept contents) :
    (e'.give ((e.call c).given (e'.call c))).Kept contents := by
  rw [ha.given, give_nil]
  constructor
  · rw [ha.rxBuffer, ha.connection, ha.inHand]
    exact h.kept
  · rw [ha.disturbed]
    exact h.undisturbed

/-- Only reading the buffer, initialising it and returning are not aside. -/
theorem next_aside (hcalls : e.Calls) (hread : ∀ length, e.call c ≠ .rxRead length)
    (hreceive : ∀ length, e.call c ≠ .receiveInitRx length)
    (hsend : ∀ pStr, e.call c ≠ .sendInitRx pStr)
    (hunlock : ∀ pStr, e.call c ≠ .receiveUnlock pStr) : Aside c e (e.next lib c timesOut) := by
  have hempty := hcalls.empty c
  cases hp : e.call c with
  | rxRead length => exact absurd hp (hread length)
  | receiveInitRx length => exact absurd hp (hreceive length)
  | sendInitRx pStr => exact absurd hp (hsend pStr)
  | receiveUnlock pStr => exact absurd hp (hunlock pStr)
  | returned =>
    simp only [next, hp]
    exact .refl
  | receiveInit | receiveLock =>
    simp only [next, hp]
    exact aside_lockRx rfl rfl
  | waitForConnect | sendInit | sendLock =>
    simp only [next, hp]
    exact .lock (aside_goto rfl rfl (by rw [hp]; rfl) rfl rfl rfl rfl rfl)
  | waitPend | rxPend | txPend =>
    simp only [next, hp]
    exact .pend (aside_goto rfl rfl (by rw [hp]; rfl) rfl rfl rfl rfl rfl)
      (aside_goto rfl rfl (by rw [hp]; rfl) rfl rfl rfl rfl rfl)
  | waitCheck | rxData =>
    simp only [next, hp]
    split <;> exact aside_goto rfl rfl (by rw [hp]; rfl) rfl rfl rfl rfl rfl
  | receive =>
    simp only [next, hp]
    rw [receive]
    split <;> exact aside_goto rfl rfl (by rw [hp]; rfl) rfl rfl rfl rfl rfl
  | send =>
    simp only [next, hp]
    rw [send]
    split <;> exact aside_goto rfl rfl (by rw [hp]; rfl) rfl rfl rfl rfl rfl
  | txData rest =>
    simp only [next, hp]
    cases rest <;> exact aside_goto rfl rfl (by rw [hp]; rfl) rfl rfl rfl rfl rfl
  | waitUnlock r =>
    rw [hp] at hempty
    simp only [next, hp]
    exact aside_goto rfl rfl (by rw [hp]; rfl) rfl hempty rfl rfl rfl
  | receiveInitTx | receiveIdle | sendInitTx | sendIdle | sendUnlock =>
    simp only [next, hp]
    exact aside_goto rfl rfl (by rw [hp]; rfl) rfl rfl rfl rfl rfl

-- ---------------------------------------------------------------------------
-- Steps that touch the bytes
-- ---------------------------------------------------------------------------

theorem Kept.deliver (hlib : lib.IsQueue contents) (h : e.Kept contents) {packet : List UInt8} :
    (e.step lib (.rxAvailable packet)).Kept contents := by
  rw [step]
  split
  case isFalse => exact h
  case isTrue hfits =>
    refine ⟨?_, h.undisturbed⟩
    rintro delivered returned heq
    cases hc : e.connection with
    | initialised delivered₀ returned₀ =>
      simp only [hc, Connection.deliver] at heq
      cases heq
      rw [hlib.receive _ _ hfits, h.kept _ _ hc, List.append_assoc]
      rfl
    | _ => simp [hc, Connection.deliver] at heq

theorem Kept.read (hlib : lib.IsQueue contents) (hcalls : e.Calls) (h : e.Kept contents)
    {length : Nat} (hp : e.call c = .rxRead length) :
    (e.step lib (.next c timesOut)).Kept contents := by
  have hmutex : e.mutexRxSerial = some c := hcalls.locked c (by rw [hp]; trivial)
  have hbefore : e.inHand = [] := by simp only [inHand, hmutex, hp, Point.inHand]
  rw [step]
  simp only [next, hp, goto, Function.update_self]
  rw [given_of_bytes rfl, give_nil]
  refine ⟨?_, h.undisturbed⟩
  rintro delivered returned heq
  have hkept := h.kept delivered returned heq
  rw [hbefore, List.append_nil] at hkept
  simp only [inHand, hmutex, Function.update_self, Point.inHand, hlib.read, hlib.rest]
  rw [hkept, List.append_assoc, List.take_append_drop]

theorem Kept.unlock (hcalls : e.Calls) (h : e.Kept contents) {pStr : List UInt8}
    (hp : e.call c = .receiveUnlock pStr) : (e.step lib (.next c timesOut)).Kept contents := by
  have hmutex : e.mutexRxSerial = some c := hcalls.locked c (by rw [hp]; trivial)
  have hbefore : e.inHand = pStr := by simp only [inHand, hmutex, hp, Point.inHand]
  rw [step]
  simp only [next, hp, goto, Function.update_self]
  have hgiven : (Point.receiveUnlock pStr).given (.returned (.received pStr)) = pStr := rfl
  rw [hgiven]
  refine ⟨?_, h.undisturbed⟩
  rintro delivered returned heq
  cases hc : e.connection with
  | initialised delivered₀ returned₀ =>
    simp only [give, hc, Connection.give] at heq
    cases heq
    have hkept := h.kept _ _ hc
    rw [hbefore] at hkept
    rw [hkept]
    simp only [give, inHand, List.append_nil]
  | _ => simp [give, hc, Connection.give] at heq

theorem Kept.receiveInit_iff (hlib : lib.IsQueue contents) (hcalls : e.Calls)
    (h : e.Kept contents) {length : Nat} (hp : e.call c = .receiveInitRx length) :
    (e.step lib (.next c timesOut)).Kept contents ↔ e.Spares contents (.next c timesOut) := by
  have hmutex : e.mutexRxSerial = some c := hcalls.locked c (by rw [hp]; trivial)
  have hbefore : e.inHand = [] := by simp only [inHand, hmutex, hp, Point.inHand]
  rw [step]
  simp only [next, hp, goto, Function.update_self, Spares]
  rw [given_of_bytes rfl, give_nil]
  constructor
  · intro hnext hinit
    cases hc : e.connection with
    | initialised delivered returned =>
      have hkept := hnext.kept delivered returned (by simp [hc, Connection.initialise])
      simp only [inHand, hmutex, Function.update_self, Point.inHand, hlib.init,
        List.append_nil] at hkept
      have hfull := h.kept _ _ hc
      rw [hbefore, hkept, List.append_nil] at hfull
      exact List.append_cancel_left (hfull.symm.trans (List.append_nil _).symm)
    | _ => simp [hc, Connection.isInitialised] at hinit
  · intro hempty
    refine ⟨?_, h.undisturbed⟩
    rintro delivered returned heq
    simp only [inHand, hmutex, Function.update_self, Point.inHand, hlib.init, List.append_nil]
    cases hc : e.connection with
    | initialised delivered₀ returned₀ =>
      simp only [hc, Connection.initialise] at heq
      cases heq
      rw [h.kept _ _ hc, hbefore, hempty (by simp [hc, Connection.isInitialised]),
        List.append_nil, List.append_nil]
    | connected =>
      simp only [hc, Connection.initialise] at heq
      cases heq
      rfl
    | disconnected => simp [hc, Connection.initialise] at heq

theorem Kept.sendInit_iff (hlib : lib.IsQueue contents) (h : e.Kept contents) {pStr : List UInt8}
    (hp : e.call c = .sendInitRx pStr) :
    (e.step lib (.next c timesOut)).Kept contents ↔ e.Spares contents (.next c timesOut) := by
  have hdisturbed : (e.disturbed || e.connection.isInitialised ||
      lib.usbBufferDataAvailable e.rxBuffer ≠ 0) = false ↔
        e.connection.isInitialised = false ∧ contents e.rxBuffer = [] := by
    simp [h.undisturbed, hlib.available]
  rw [step]
  simp only [next, hp, goto, Function.update_self, Spares]
  rw [given_of_bytes rfl, give_nil, ← hdisturbed]
  constructor
  · exact fun hnext => hnext.undisturbed
  · intro hflag
    refine ⟨?_, hflag⟩
    rintro delivered returned heq
    simp [show e.connection = _ from heq, Connection.isInitialised] at hflag

theorem Kept.connect (h : e.Kept contents) : (e.step lib .connected).Kept contents := by
  refine ⟨?_, h.undisturbed⟩
  rintro delivered returned heq
  cases hc : e.connection with
  | initialised =>
    simp only [step, hc, Connection.connect] at heq
    exact h.kept _ _ (hc.trans heq)
  | _ => simp [step, hc, Connection.connect] at heq

theorem Kept.start (h : e.Kept contents) {p : Point} (hp : p.inHand = []) (hbytes : p.bytes = []) :
    (e.start c p).Kept contents := by
  rw [Endpoint.start]
  split
  case h_1 r hr =>
    have haside : Aside c e (e.goto c p) :=
      aside_goto rfl rfl (by rw [hr]; rfl) hp hbytes rfl rfl rfl
    constructor
    · rw [haside.rxBuffer, haside.connection, haside.inHand]
      exact h.kept
    · exact h.undisturbed
  case h_2 => exact h

theorem kept_step_iff (hlib : lib.IsQueue contents) (hcalls : e.Calls) (h : e.Kept contents) :
    (e.step lib event).Kept contents ↔ e.Spares contents event := by
  cases event with
  | connected => exact iff_of_true h.connect trivial
  | disconnected => exact iff_of_true ⟨by rintro _ _ ⟨⟩, h.undisturbed⟩ trivial
  | rxAvailable packet => exact iff_of_true (h.deliver hlib) trivial
  | txComplete => exact iff_of_true ⟨h.kept, h.undisturbed⟩ trivial
  | receiveData c length => exact iff_of_true (h.start rfl rfl) trivial
  | sendData c pStr => exact iff_of_true (h.start rfl rfl) trivial
  | next c timesOut =>
    by_cases hread : ∃ length, e.call c = .rxRead length
    · obtain ⟨length, hp⟩ := hread
      exact iff_of_true (h.read hlib hcalls hp) (by simp [Spares, hp])
    by_cases hunlock : ∃ pStr, e.call c = .receiveUnlock pStr
    · obtain ⟨pStr, hp⟩ := hunlock
      exact iff_of_true (h.unlock hcalls hp) (by simp [Spares, hp])
    by_cases hreceive : ∃ length, e.call c = .receiveInitRx length
    · obtain ⟨length, hp⟩ := hreceive
      exact h.receiveInit_iff hlib hcalls hp
    by_cases hsend : ∃ pStr, e.call c = .sendInitRx pStr
    · obtain ⟨pStr, hp⟩ := hsend
      exact h.sendInit_iff hlib hp
    rw [not_exists] at hread hreceive hsend hunlock
    refine iff_of_true ((next_aside hcalls hread hreceive hsend hunlock).kept h) ?_
    rw [Spares]
    split
    · exact absurd ‹_› (hreceive _)
    · exact absurd ‹_› (hsend _)
    · trivial

end Endpoint

/-- In every run of events and calls, the bytes the host delivers once `receiveData` has
initialised the receive buffer reach its callers once and in order up to the next disconnect,
and no `sendData` initialises that buffer again or empties it, exactly when no call
initialises it out of turn. -/
theorem delivered_returned_iff (hlib : lib.IsQueue contents) (index : Index)
    (rxBuffer txBuffer : Index → β) (events : List (Index × Event)) :
    Always (step lib) (fun objects => (objects index).Kept contents)
        (fun i => .initial (rxBuffer i) (txBuffer i)) events ↔
      Along (step lib)
        (fun objects event => event.1 = index → (objects index).Spares contents event.2)
        (fun i => .initial (rxBuffer i) (txBuffer i)) events := by
  refine always_iff_along_of_inv (I := fun objects => (objects index).Calls)
    Endpoint.calls_initial (fun objects event hcalls => ?_) ⟨by rintro _ _ ⟨⟩, rfl⟩
    fun objects event hcalls hkept => ?_
  · obtain ⟨i, event⟩ := event
    by_cases hi : i = index
    · subst hi
      simp only [step, Function.update_self]
      exact hcalls.step
    · have hne : index ≠ i := fun h => hi h.symm
      simpa [step, hne] using hcalls
  · obtain ⟨i, event⟩ := event
    by_cases hi : i = index
    · subst hi
      simp only [step, Function.update_self, forall_const]
      exact Endpoint.kept_step_iff hlib hcalls hkept
    · have hne : index ≠ i := fun h => hi h.symm
      simp [step, hi, hne, hkept]

def byteBuffer : USBBuffer (List UInt8) where
  usbBufferInit := fun _ => []
  usbBufferDataAvailable := List.length
  usbBufferSpaceAvailable := fun b => 512 - b.length
  usbBufferRead := fun b n => (b.take n, b.drop n)
  usbBufferWrite := fun b bytes =>
    let written := bytes.take (512 - b.length)
    (written.length, b ++ written)
  receive := List.append
  transmit := fun _ => []

theorem byteBuffer_isQueue : byteBuffer.IsQueue id where
  init := fun _ => rfl
  available := fun _ => rfl
  read := fun _ _ => rfl
  rest := fun _ _ => rfl
  receive := fun _ _ _ => rfl

/-- A task waits for a byte, the host delivers it, and before the task reads it another
one sends for the first time. -/
def lossyRun : List (Index × Event) :=
  let at0 (event : Event) : Index × Event := (.remoteControl, event)
  [.connected, .receiveData 0 1, .next 0 false, .next 0 false, .next 0 false, .next 0 false,
    .next 0 false, .next 0 false, .rxAvailable [0x55], .sendData 1 [0x06], .next 1 false,
    .next 1 false, .next 1 false, .next 1 false].map at0

end

theorem transmission_loses_byte :
    ¬∀ (index : Index) (events : List (Index × Event)),
      Always (step byteBuffer) (fun objects => (objects index).Kept id)
        (fun _ => .initial [] []) events := by
  intro h
  have hkept := (h .remoteControl lossyRun lossyRun (List.prefix_refl _)).kept [0x55] [] rfl
  revert hkept
  decide

/-- The same run without the transmission: the task returns with the byte. -/
theorem reception_keeps_byte :
    Always (step byteBuffer) (fun objects => (objects Index.remoteControl).Kept id)
      (fun _ => .initial [] [])
      (lossyRun.take 9 ++ List.replicate 3 (Index.remoteControl, Event.next 0 false)) := by
  refine (delivered_returned_iff byteBuffer_isQueue .remoteControl (fun _ => []) (fun _ => [])
    _).mpr ?_
  exact ⟨fun _ => trivial, fun _ => trivial, fun _ => trivial, fun _ => trivial, fun _ => trivial,
    fun _ _ => rfl, fun _ => trivial, fun _ => trivial, fun _ => trivial, fun _ => trivial,
    fun _ => trivial, fun _ => trivial, trivial⟩

end SystemMaster.Usb.Composite
