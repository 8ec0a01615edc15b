import SystemMaster.Library.Search
import SystemMaster.Alto.Frame

/-!
# The UART receiver of ALTO frames

`xIFUART_receiveALTOFrame` appends what the UART has to a string and looks for
the prefix `AA55` and a carriage return in it. A poll is one turn of its loop:
the count the UART reports and what a read of so many bytes answers.
-/

namespace SystemMaster.Alto

open Search

def serialFrameSize : Nat := 64

def cmdBuffSize : Nat := 128

def waitForever : Nat := 0xFFFFFFFF

/-- What `std::string` throws. -/
inductive Fault where
  | lengthError
  | outOfRange
  deriving DecidableEq, Repr

/-- `UART_read` answers the bytes it read, or an error (`none`). -/
structure Poll where
  dataAvailable : Nat
  uartRead : Nat → Option (List UInt8)

/-- The locals of `xIFUART_receiveALTOFrame`, with its buffer. -/
structure Reception where
  receivedPacket : List UInt8
  p64Buffer : Memory UInt8
  retValue : Nat
  isFrame : Bool
  timeout : Nat

def Reception.start (timeout : Nat) (p64Buffer : Memory UInt8) : Reception where
  receivedPacket := []
  p64Buffer := p64Buffer
  retValue := 0
  isFrame := false
  timeout := timeout

def askedBytes (dataAvailable : Nat) : Nat :=
  if cmdBuffSize > dataAvailable then dataAvailable else cmdBuffSize

def toCapital (c : UInt8) : UInt8 :=
  if 'a'.toUInt8 ≤ c ∧ c ≤ 'z'.toUInt8 then c + ('A'.toUInt8 - 'a'.toUInt8) else c

/-- One turn of the loop over the carriage returns of the packet. Where no
carriage return follows the prefix the search has answered `npos`, and the cut
at `npos + 1`, which is 0, keeps the packet. -/
def Reception.drainStep (r : Reception) (indexEOF : Nat) : Reception :=
  match find startFrame r.receivedPacket with
  | some indexHeader =>
    let packet := r.receivedPacket.drop (indexHeader + startFrame.length)
    match find [cr] packet with
    | some indexEOF =>
      let str := packet.take indexEOF
      let r := { r with receivedPacket := packet.drop (indexEOF + 1) }
      if str.length ≤ serialFrameSize then
        { r with p64Buffer := r.p64Buffer.write 0 str, retValue := str.length, isFrame := true }
      else r
    | none => { r with receivedPacket := packet }
  | none => { r with receivedPacket := r.receivedPacket.drop (indexEOF + 1) }

def drain : Nat → Reception → Reception
  | 0, r => r
  | fuel + 1, r =>
    match find [cr] r.receivedPacket with
    | some indexEOF => drain fuel (r.drainStep indexEOF)
    | none => r

def lastBytes (packet : List UInt8) : List UInt8 := packet.drop (packet.length - startFrame.length)

/-- A packet of more than 256 characters is cut at its last prefix. Without
one, `rfind` answers `npos` and the cut throws. -/
def Reception.trim (r : Reception) : Except Fault Reception :=
  if r.receivedPacket.length > 256 then
    match rfind startFrame r.receivedPacket with
    | none => .error .outOfRange
    | some 0 => .ok { r with receivedPacket := lastBytes r.receivedPacket }
    | some indexHeader => .ok { r with receivedPacket := r.receivedPacket.drop indexHeader }
  else .ok r

def Reception.receive (r : Reception) (data : List UInt8) : Except Fault Reception :=
  let packet := r.receivedPacket ++ data.map toCapital
  match find startFrame packet with
  | some indexHeader =>
    let packet := packet.drop indexHeader
    (drain packet.length { r with receivedPacket := packet }).trim
  | none =>
    .ok { r with
      receivedPacket := if packet.length > startFrame.length then lastBytes packet else packet }

/-- One turn of the loop over the polls. A failed read makes a string of
length −1, which throws. -/
def Reception.iteration (r : Reception) (poll : Poll) : Except Fault Reception :=
  if poll.dataAvailable = 0 then
    .ok (if r.timeout ≠ 0 ∧ r.timeout ≠ waitForever then { r with timeout := r.timeout - 1 } else r)
  else
    match poll.uartRead (askedBytes poll.dataAvailable) with
    | some data => r.receive data
    | none => .error .lengthError

def loop : Reception → List Poll → Option (Except Fault Reception)
  | _, [] => none
  | r, poll :: polls =>
    match r.iteration poll with
    | .ok r => if r.timeout ≠ 0 ∧ ¬r.isFrame then loop r polls else some (.ok r)
    | .error fault => some (.error fault)

/-- `xIFUART_receiveALTOFrame`: `opened` is the state of the port and `pend`
the answer of `Semaphore_pend` on the receiver's semaphore. -/
def receiveALTOFrame (opened pend : Bool) (p64Buffer : Memory UInt8) (timeout : Nat)
    (polls : List Poll) : Option (Except Fault Reception) :=
  if opened ∧ pend then loop (.start timeout p64Buffer) polls
  else some (.ok (.start timeout p64Buffer))

variable {r : Reception} {body rest : List UInt8} {indexEOF fuel : Nat}

theorem Reception.drainStep_length (h : find [cr] r.receivedPacket = some indexEOF) :
    (r.drainStep indexEOF).receivedPacket.length < r.receivedPacket.length := by
  have hEOF : indexEOF + 1 ≤ r.receivedPacket.length := le_of_find h
  rw [drainStep]
  cases hheader : find startFrame r.receivedPacket with
  | none =>
    simp only [List.length_drop]
    omega
  | some indexHeader =>
    have hfit := le_of_find hheader
    have hpos : 0 < startFrame.length := by decide
    dsimp only
    split
    · split <;> simp only [List.length_drop] <;> omega
    · simp only [List.length_drop]
      omega

theorem cr_notMem_drain (h : r.receivedPacket.length ≤ fuel) :
    cr ∉ (drain fuel r).receivedPacket := by
  induction fuel generalizing r with
  | zero =>
    rw [drain, List.length_eq_zero_iff.mp (Nat.le_zero.mp h)]
    exact List.not_mem_nil
  | succ fuel ih =>
    rw [drain]
    cases hEOF : find [cr] r.receivedPacket with
    | none => exact find_singleton_eq_none_iff.mp hEOF
    | some indexEOF => exact ih (by have := r.drainStep_length hEOF; omega)

theorem drain_of_cr_notMem (h : cr ∉ r.receivedPacket) : drain fuel r = r := by
  cases fuel with
  | zero => rfl
  | succ fuel => rw [drain, find_singleton_eq_none_iff.mpr h]

theorem Reception.drainStep_frame (hpacket : r.receivedPacket = startFrame ++ body ++ cr :: rest)
    (hcr : cr ∉ body) (hbody : body.length ≤ serialFrameSize) :
    r.drainStep indexEOF = { r with
      receivedPacket := rest
      p64Buffer := r.p64Buffer.write 0 body
      retValue := body.length
      isFrame := true } := by
  have hheader : find startFrame r.receivedPacket = some 0 := by
    rw [hpacket, List.append_assoc]
    exact find_of_start (List.prefix_append _ _)
  have hafter : r.receivedPacket.drop (0 + startFrame.length) = body ++ cr :: rest := by
    rw [hpacket, Nat.zero_add, List.append_assoc, List.drop_left]
  have htake : (body ++ cr :: rest).take body.length = body := List.take_left
  have hdrop : (body ++ cr :: rest).drop (body.length + 1) = rest := by
    rw [← List.drop_drop, List.drop_left]
    rfl
  simp only [drainStep, hheader, hafter, find_singleton_append hcr, htake, hdrop, if_pos hbody]

end SystemMaster.Alto
