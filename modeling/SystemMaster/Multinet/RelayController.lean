import SystemMaster.Alto.Frame
import SystemMaster.Multinet.Wire
import SystemMaster.Library.Runs
import SystemMaster.Library.Search
import Mathlib.Logic.Function.Basic

/-!
# Relay controller workers

A worker asks its box for remote inputs over the serial port and puts those of
the reply in the queues of the workers of their destinations. It sends its own
box the inputs of its queue, up to 26 in a frame. Workers run interleaved, and
the discovery adds new ones. Allocations succeed; an exchange may fail.
-/

namespace SystemMaster.Multinet

open Alto Runs

abbrev Address := UInt8

-- `ALTOClassesIDName`, `ALTOOperationsIDName`, `ALTOFunctionsIDName`, `ALTOAckNakIDName`
def classClu : UInt8 := 0x0B
def operationSet : UInt8 := 0x00
def operationGet : UInt8 := 0x01
def operationResponse : UInt8 := 0x06
def operationACKNAK : UInt8 := 0x07
def functionCluLocalRemoteVin : UInt8 := 0x51
def ackNakGoodStatus : UInt8 := 0x00

-- ---------------------------------------------------------------------------
-- Inputs
-- ---------------------------------------------------------------------------

/-- `tALTOORTInput`, but for the reserved bits, which are zero. -/
structure ORTInput where
  value : Bool
  inputAddress : Fin 32
  deriving DecidableEq

def ORTInput.byte (i : ORTInput) : UInt8 :=
  (if i.value then 0x01 else 0x00 : UInt8) ||| (UInt8.ofNat i.inputAddress <<< 1)

structure ORTRouting where
  inputState : Bool
  destinationVirtualInput : Fin 32
  destinationAddress : Fin 32
  destinationType : Fin 8
  deriving DecidableEq

def ORTRouting.ofWord (w : Nat) : ORTRouting where
  inputState := w.testBit 0
  destinationVirtualInput := ⟨w / 2 % 32, Nat.mod_lt _ (by decide)⟩
  destinationAddress := ⟨w / 64 % 32, Nat.mod_lt _ (by decide)⟩
  destinationType := ⟨w / 2048 % 8, Nat.mod_lt _ (by decide)⟩

def ORTRouting.input (e : ORTRouting) : ORTInput := ⟨e.inputState, e.destinationVirtualInput⟩

/-- `ALTO_Multinet_RelayBox` and `ALTO_Multinet_TemperatureBox`. -/
def relayBox : Fin 8 := 2
def temperatureBox : Fin 8 := 3

def ORTRouting.destination (e : ORTRouting) : Option Address :=
  if e.destinationType = relayBox ∨ e.destinationType = temperatureBox then
    some (((UInt8.ofNat e.destinationType &&& 0x07) <<< 5) |||
      (UInt8.ofNat e.destinationAddress &&& 0x1F))
  else none

/-- The bytes of the first words changed over. -/
def ortConvertDataFromBigEndianToLittleEndian : Nat → List UInt8 → List UInt8
  | k + 1, high :: low :: data => low :: high :: ortConvertDataFromBigEndianToLittleEndian k data
  | _, data => data

/-- The words of the data as entries, low byte first. -/
def ortRoutings : Nat → List UInt8 → List ORTRouting
  | k + 1, low :: high :: data => .ofWord (low.toNat + 256 * high.toNat) :: ortRoutings k data
  | _, _ => []

def firstByte (f : Frame) : UInt8 := f.data[0]

/-- A frame that came whole and with its checksum right. The length of a CLU response
counts bytes that the frame has. -/
structure Reply where
  frame : Frame
  fits : frame.classID = classClu → frame.operationID = operationResponse →
    frame.length.toNat ≤ dataPayloadSize

namespace Reply

def isResponse (r : Reply) : Bool :=
  r.frame.classID = classClu && r.frame.operationID = operationResponse

def entries (r : Reply) : List ORTRouting :=
  if r.isResponse then
    let k := r.frame.length.toNat / 2
    ortRoutings k (ortConvertDataFromBigEndianToLittleEndian k r.frame.data.toList)
  else []

def words (r : Reply) : List (BitVec 16) :=
  if r.frame.classID = classClu ∧ r.frame.operationID = operationResponse then
    Wire.words (r.frame.data.toList.take r.frame.length.toNat)
  else []

def isGoodAck (r : Reply) : Bool :=
  r.frame.classID = classClu && r.frame.operationID = operationACKNAK && r.frame.length ≠ 0 &&
    firstByte r.frame = ackNakGoodStatus

end Reply

-- ---------------------------------------------------------------------------
-- Workers
-- ---------------------------------------------------------------------------

/-- An input in a queue, and the box whose reply it came in, which is a record
for the proofs. -/
structure Msg where
  source : Address
  input : ORTInput
  deriving DecidableEq

/-- Where the loop goes on after an exchange: in the queue, or at its end. -/
inductive Next where
  | drain
  | sleep

/-- Where a worker is, with the inputs packed so far: `i32Index` is their number. -/
inductive Point where
  | top
  | drain (packed : List Msg) (isSent : Bool)
  | send (packed : List Msg) (next : Next)
  | receive (packed : List Msg) (next : Next)
  | route (entries : List ORTRouting) (next : Next)
  | sleep

structure Sent where
  frame : Frame
  msgs : List Msg

/-- A worker with its queue and its frame. The last four fields are records: the
frames written to the box, the inputs taken from the queue, those of acknowledged
frames, and the virtual inputs of the box. -/
structure Worker where
  queue : List Msg
  tFrameTx : Frame
  point : Point
  sent : List Sent
  taken : List Msg
  acked : List Msg
  box : Fin 32 → Bool

/-- `vALTOFrame_Params_init`, and what the worker sets once. -/
def frameInit : Frame where
  classID := classClu
  operationID := 0
  functionID := functionCluLocalRemoteVin
  sequence := 0
  length := 0
  data := Vector.replicate dataPayloadSize 0
  bcc := 0

def Worker.init (box : Fin 32 → Bool) : Worker := ⟨[], frameInit, .top, [], [], [], box⟩

def Next.point : Next → Point
  | .drain => .drain [] true
  | .sleep => .sleep

def applyInputs (box : Fin 32 → Bool) (msgs : List Msg) : Fin 32 → Bool :=
  msgs.foldl (fun box m => Function.update box m.input.inputAddress m.input.value) box

/-- How an exchange ends: with a reply or none, and whether a box that did not
acknowledge the frame has taken it all the same. -/
structure Answer where
  reply : Option Reply
  applied : Bool

def Answer.isGoodAck (a : Answer) : Bool := a.reply.any Reply.isGoodAck

def Answer.entries (a : Answer) : List ORTRouting := (a.reply.map Reply.entries).getD []

def Answer.words (a : Answer) : List (BitVec 16) := (a.reply.map Reply.words).getD []

namespace Worker

/-- `ui8MultinetAddress` of the box's frame, and an empty Get. -/
def prepare (w : Worker) (address : Address) : Worker :=
  { w with
    tFrameTx := bccFill
      { w.tFrameTx with sequence := address, operationID := operationGet, length := 0 }
    point := .drain [] false }

def pack (w : Worker) (m : Msg) (queue packed : List Msg) (isSent : Bool) : Worker :=
  let packed' := packed ++ [m]
  let tFrameTx :=
    { w.tFrameTx with data := w.tFrameTx.data.setIfInBounds packed.length m.input.byte }
  let w := { w with queue := queue, taken := w.taken ++ [m] }
  if dataPayloadSize ≤ packed'.length then
    { w with
      tFrameTx := bccFill
        { tFrameTx with operationID := operationSet, length := UInt8.ofNat packed'.length }
      point := .send packed' .drain }
  else { w with tFrameTx := tFrameTx, point := .drain packed' isSent }

/-- The queue is empty: the rest is sent, or a Get when nothing was. -/
def finish (w : Worker) (packed : List Msg) (isSent : Bool) : Worker :=
  let (operationID, isSent) :=
    if packed = [] then (operationGet, isSent) else (operationSet, false)
  let tFrameTx := { w.tFrameTx with operationID := operationID }
  if isSent then { w with tFrameTx := tFrameTx, point := .sleep }
  else
    { w with
      tFrameTx := bccFill { tFrameTx with length := UInt8.ofNat packed.length }
      point := .send packed .sleep }

def answered (w : Worker) (packed : List Msg) (next : Next) (a : Answer) : Worker :=
  { w with
    point := .route a.entries next
    acked := if a.isGoodAck then w.acked ++ packed else w.acked
    box := if a.isGoodAck || a.applied then applyInputs w.box packed else w.box }

/-- A step of the worker's own; routing is left to the system. -/
def step (w : Worker) (address : Address) (a : Answer) : Worker :=
  match w.point with
  | .top => w.prepare address
  | .drain packed isSent =>
    match w.queue with
    | m :: queue => w.pack m queue packed isSent
    | [] => w.finish packed isSent
  | .send packed next =>
    { w with sent := w.sent ++ [⟨w.tFrameTx, packed⟩], point := .receive packed next }
  | .receive packed next => w.answered packed next a
  | .route [] next => { w with point := next.point }
  | .route (_ :: entries) next => { w with point := .route entries next }
  | .sleep => { w with point := .top }

def inHand (w : Worker) : List ORTRouting :=
  match w.point with
  | .route entries _ => entries
  | _ => []

def packing (w : Worker) : List Msg :=
  match w.point with
  | .drain packed _ | .send packed _ => packed
  | _ => []

end Worker

-- ---------------------------------------------------------------------------
-- The system
-- ---------------------------------------------------------------------------

/-- The workers by address, those in the list in its order. The last two fields are
records: the words of all CLU responses that came from a box, and how many of those
from `S` had been looked up when `D` was put in the list. -/
structure System where
  hControllersList : List Address
  worker : Address → Worker
  heard : Address → List (BitVec 16)
  since : Address → Address → Nat

/-- `ptALTOMultinet_findControllerWorkerInList`; the last match counts. -/
def findControllerWorkerInList (hControllersList : List Address) (address : Address) :
    Option Address :=
  hControllersList.foldl (fun found a => if a = address then some a else found) none

namespace System

def setWorker (s : System) (address : Address) (w : Worker) : System :=
  { s with worker := Function.update s.worker address w }

def sendMsgToControllerWorker (s : System) (address : Address) (m : Msg) : System :=
  match findControllerWorkerInList s.hControllersList address with
  | some D => s.setWorker D { s.worker D with queue := (s.worker D).queue ++ [m] }
  | none => s

def route (s : System) (S : Address) (e : ORTRouting) : System :=
  match e.destination with
  | some address => s.sendMsgToControllerWorker address ⟨S, e.input⟩
  | none => s

/-- The discovery has found a box; it adds a worker unless there is one. -/
def register (s : System) (D : Address) (box : Fin 32 → Bool) : System :=
  match findControllerWorkerInList s.hControllersList D with
  | some _ => s
  | none =>
    { hControllersList := s.hControllersList ++ [D]
      worker := Function.update s.worker D (.init box)
      heard := s.heard
      since := fun S D' =>
        if D' = D then (s.heard S).length - (s.worker S).inHand.length else s.since S D' }

inductive Label where
  | register (address : Address) (box : Fin 32 → Bool)
  | step (address : Address) (answer : Answer)

def step (s : System) : Label → System
  | .register address box => s.register address box
  | .step S a =>
    if S ∈ s.hControllersList then
      let w := s.worker S
      let s' := s.setWorker S (w.step S a)
      match w.point with
      | .receive _ _ =>
        { s' with heard := Function.update s.heard S (s.heard S ++ a.words) }
      | .route (e :: _) _ => s'.route S e
      | _ => s'
    else s

def start : System := ⟨[], fun _ => .init fun _ => false, fun _ => [], fun _ _ => 0⟩

end System

variable {S D : Address} {s : System} {a : Answer} {e : ORTRouting} {label : System.Label}

-- ---------------------------------------------------------------------------
-- What a step does to each worker
-- ---------------------------------------------------------------------------

theorem findControllerWorkerInList_eq (l : List Address) :
    findControllerWorkerInList l D = if D ∈ l then some D else none := by
  rw [findControllerWorkerInList, Search.foldl_last, Option.or_none]
  cases hfind : l.reverse.find? (fun a => a = D) with
  | none =>
    have hne : ∀ a ∈ l, a ≠ D := by simpa using List.find?_eq_none.mp hfind
    rw [if_neg fun hD => hne D hD rfl]
  | some a =>
    obtain rfl : a = D := by simpa using List.find?_some hfind
    rw [if_pos (List.mem_reverse.mp (List.mem_of_find?_eq_some hfind))]

def Worker.enqueue (w : Worker) (m : Msg) : Worker := { w with queue := w.queue ++ [m] }

/-- An entry reaches the worker of its destination, if there is one, and no other. -/
theorem System.route_worker :
    (s.route S e).worker D =
      if e.destination = some D ∧ D ∈ s.hControllersList then (s.worker D).enqueue ⟨S, e.input⟩
      else s.worker D := by
  unfold route
  cases hdest : e.destination with
  | none => simp
  | some address =>
    simp only [sendMsgToControllerWorker, findControllerWorkerInList_eq]
    by_cases hl : address ∈ s.hControllersList
    · rw [if_pos hl]
      by_cases hD : address = D
      · subst hD
        simp [setWorker, hl, Worker.enqueue]
      · have hne : D ≠ address := fun h => hD h.symm
        simp [setWorker, hD, hne]
    · rw [if_neg hl]
      by_cases hD : address = D
      · subst hD
        simp [hl]
      · simp [hD]

theorem System.route_hControllersList : (s.route S e).hControllersList = s.hControllersList := by
  simp only [route, sendMsgToControllerWorker]
  split
  · split <;> rfl
  · rfl

theorem System.route_heard : (s.route S e).heard = s.heard := by
  simp only [route, sendMsgToControllerWorker]
  split
  · split <;> rfl
  · rfl

theorem System.route_since : (s.route S e).since = s.since := by
  simp only [route, sendMsgToControllerWorker]
  split
  · split <;> rfl
  · rfl

structure Advanced (s s' : System) (S : Address) (a : Answer) : Prop where
  hControllersList : s'.hControllersList = s.hControllersList
  heard : s'.heard = s.heard
  since : s'.since = s.since
  self : s'.worker S = (s.worker S).step S a
  other : ∀ D ≠ S, s'.worker D = s.worker D

theorem advanced_setWorker : Advanced s (s.setWorker S ((s.worker S).step S a)) S a where
  hControllersList := rfl
  heard := rfl
  since := rfl
  self := Function.update_self ..
  other := fun _ hD => Function.update_of_ne hD ..

/-- A worker is left as it is, does its own step or is new, and may get a message. -/
theorem System.step_worker (s : System) (label : System.Label) (D : Address) :
    ∃ w, ((s.step label).worker D = w ∨ ∃ m, (s.step label).worker D = w.enqueue m) ∧
      ((∃ a, label = .step D a ∧ D ∈ s.hControllersList ∧ w = (s.worker D).step D a) ∨
        (∀ a, label = .step D a → D ∉ s.hControllersList) ∧
          (w = s.worker D ∨ ∃ box, w = .init box)) := by
  cases label with
  | register D' box =>
    have hother : ∀ a, Label.register D' box = .step D a → D ∉ s.hControllersList := by
      rintro a ⟨⟩
    rw [step, register, findControllerWorkerInList_eq]
    by_cases hl : D' ∈ s.hControllersList
    · simp only [if_pos hl]
      exact ⟨_, .inl rfl, .inr ⟨hother, .inl rfl⟩⟩
    · simp only [if_neg hl]
      by_cases hD : D = D'
      · subst hD
        exact ⟨.init box, .inl (Function.update_self ..), .inr ⟨hother, .inr ⟨box, rfl⟩⟩⟩
      · exact ⟨_, .inl (Function.update_of_ne hD ..), .inr ⟨hother, .inl rfl⟩⟩
  | step S a =>
    by_cases hl : S ∈ s.hControllersList
    · refine ⟨(s.setWorker S ((s.worker S).step S a)).worker D, ?_, ?_⟩
      · rw [step, if_pos hl]
        cases hp : (s.worker S).point with
        | route entries next =>
          cases entries with
          | nil => simp [hp]
          | cons e es =>
            simp only [hp, route_worker]
            by_cases hdest : e.destination = some D ∧
              D ∈ (s.setWorker S ((s.worker S).step S a)).hControllersList
            · exact .inr ⟨_, if_pos hdest⟩
            · exact .inl (if_neg hdest)
        | _ => simp [hp]
      · by_cases hD : D = S
        · subst hD
          exact .inl ⟨a, rfl, hl, advanced_setWorker.self⟩
        · refine .inr ⟨?_, .inl (advanced_setWorker.other D hD)⟩
          rintro a ⟨⟩
          exact absurd rfl hD
    · refine ⟨s.worker D, .inl (by rw [step, if_neg hl]), .inr ⟨?_, .inl rfl⟩⟩
      rintro a ⟨⟩
      exact hl

end SystemMaster.Multinet
