import SystemMaster.Avds.SerialReceiver

/-!
# Where the receiver of AVDS frames is

Each stage of `xIFUART_receiveAVDSFrameData` says what has been matched and stored, from
which bytes, and what the heap holds. A turn of the loop takes a stage to a stage.
-/

namespace SystemMaster.Avds

/-- What an operation makes of the block on the heap, given by its size: it must not
allocate a second one, must free the block there is with its size, and must write within
it or the caller's buffer. -/
def MemoryOp.account (length : Nat) (block : Option Nat) : MemoryOp → Option (Option Nat)
  | .alloc size => if block = none then some (some size) else none
  | .free size => if block = some size then some none else none
  | .toStr off size => if off + size ≤ length then some block else none
  | .toPayload off size => if ∃ n ∈ block, off + size ≤ n then some block else none

namespace Receiver

def block (r : Receiver) : Option (Option Nat) := r.ops.foldlM (MemoryOp.account r.length) none

/-- A part of a frame has been matched, at the end of what was taken, and stored. -/
structure Matched (head : List UInt8) (r : Receiver) : Prop where
  stored : r.pStr.read 0 head.length = head
  taken : head <:+ r.taken
  counted : r.counterRead = head.length

def header (hi lo : UInt8) : List UInt8 := [rxPreamble1, rxPreamble2, hi, lo]

structure Capturing (hi lo : UInt8) (payload : Memory UInt8) (r : Receiver) : Prop where
  small : lengthField hi lo < rxMaxPayloadSize
  packetLength : r.packetLength = lengthField hi lo + 2
  pPayload : r.pPayload = some payload
  payloadRx : r.payloadRx = r.payloadLength
  stored : r.pStr.read 0 4 = header hi lo
  taken : header hi lo ++ payload.read 0 r.payloadLength <:+ r.taken
  counted : r.counterRead = 4 + r.payloadLength
  unfinished : r.isFinish = false
  block : r.block = some (some r.packetLength)

structure Copied (hi lo : UInt8) (body : List UInt8) (r : Receiver) : Prop where
  small : lengthField hi lo < rxMaxPayloadSize
  stored : r.pStr.read 0 4 = header hi lo
  copied : 4 + body.length ≤ r.length →
    r.pStr.read 0 (4 + body.length) = header hi lo ++ body
  taken : header hi lo ++ body <:+ r.taken
  counted : r.counterRead = 4 + body.length

inductive Stage (r : Receiver) : Prop
  | preamble1 (hstate : r.state = .preamble1) (hnull : r.pPayload = none)
    (hcount : r.counterRead = 0) (hret : r.retValue ≤ 1) (hblock : r.block = some none)
  | preamble2 (hstate : r.state = .preamble2) (hnull : r.pPayload = none)
    (hmatched : Matched [rxPreamble1] r) (hblock : r.block = some none)
  | packetLength (hstate : r.state = .packetLength) (hnull : r.pPayload = none)
    (hmatched : Matched [rxPreamble1, rxPreamble2] r) (hblock : r.block = some none)
  | payload (hstate : r.state = .payload) (htimeout : r.timeout ≠ 0) {hi lo payload}
    (hcapturing : Capturing hi lo payload r) (hpart : r.payloadLength < r.packetLength)
  | finish (hstate : r.state = .finish) (htimeout : r.timeout ≠ 0) {hi lo payload}
    (hcapturing : Capturing hi lo payload r) (hwhole : r.payloadLength = r.packetLength)
  | timedOut (hstate : r.state = .payload) (htimeout : r.timeout = 0) {hi lo body}
    (hcopied : Copied hi lo body r) (hpart : body.length < lengthField hi lo + 2)
    (hblock : r.block = some none)
  | refused (hstate : r.state = .packetLength) (hfinish : r.isFinish = true)
    (hcount : r.counterRead = 4) (hblock : r.block = some none)
  | finished (hstate : r.state = .finish) (hfinish : r.isFinish = true) {hi lo body}
    (hcopied : Copied hi lo body r) (hwhole : body.length = lengthField hi lo + 2)
    (hblock : r.block = some none)

structure SameCall (r r' : Receiver) : Prop where
  length : r'.length = r.length
  memoryAlloc : r'.memoryAlloc = r.memoryAlloc

structure Reached (r : Receiver) : Prop where
  stage : Stage r
  isFinish : r.running = true → r.isFinish = false
  timeout : r.running = true → r.timeout = 0 → r.state = .preamble1
  ended : r.running = false → r.timeout = 0 ∨ r.isFinish = true ∨ r.state = .preamble1
  length : r.running = true → 6 ≤ r.length

variable {r : Receiver} {hi lo byte : UInt8} {head xs chunk : List UInt8} {payload : Memory UInt8}
  {off n : Nat} {op : MemoryOp} {b : Option Nat}

theorem block_concat {r' : Receiver} (hops : r'.ops = r.ops ++ [op])
    (hlength : r'.length = r.length) (hblock : r.block = some b) :
    r'.block = op.account r.length b := by
  have h : r.ops.foldlM (MemoryOp.account r.length) none = some b := hblock
  rw [block, hops, hlength, List.foldlM_append, h]
  simp

theorem writeStr_block (hfits : off + xs.length ≤ r.length) (hblock : r.block = some b) :
    (r.writeStr off xs).block = some b :=
  (block_concat (rfl : (r.writeStr off xs).ops = _) rfl hblock).trans (if_pos hfits)

theorem alloc_block {r' : Receiver} (hops : r'.ops = r.ops ++ [.alloc n])
    (hlength : r'.length = r.length) (hblock : r.block = some none) : r'.block = some (some n) :=
  block_concat hops hlength hblock

theorem free_block {r' : Receiver} (hops : r'.ops = r.ops ++ [.free n])
    (hlength : r'.length = r.length) (hblock : r.block = some (some n)) : r'.block = some none :=
  (block_concat hops hlength hblock).trans (if_pos rfl)

theorem freePayload_block (hblock : r.block = some (some r.packetLength)) :
    r.freePayload.block = some none :=
  free_block rfl rfl hblock

theorem readPayload_block (hblock : r.block = some (some r.packetLength))
    (hfits : r.payloadRx + n ≤ r.packetLength) :
    (r.readPayload n).block = some (some r.packetLength) :=
  (block_concat (rfl : (r.readPayload n).ops = _) rfl hblock).trans
    (if_pos ⟨_, rfl, hfits⟩)

theorem preamble1_cases (hnull : r.pPayload = none) :
    r.uart = [] ∧ r.preamble1 = r.sleep ∨
      (∃ xs, r.uart = rxPreamble1 :: xs ∧
        r.preamble1 = { (r.uartRead 1).writeStr 0 [rxPreamble1] with
          counterRead := 1, state := .preamble2 }) ∨
      ∃ byte xs, byte ≠ rxPreamble1 ∧ r.uart = byte :: xs ∧ r.preamble1 = r.uartRead 1 := by
  cases huart : r.uart with
  | nil => exact .inl ⟨rfl, by simp [preamble1, huart, idle, sleep, hnull]⟩
  | cons byte xs =>
    by_cases hbyte : byte = rxPreamble1
    · subst hbyte
      exact .inr (.inl ⟨xs, rfl, by simp [preamble1, huart]⟩)
    · exact .inr (.inr ⟨byte, xs, hbyte, rfl, by simp [preamble1, huart, hbyte]⟩)

theorem preamble2_cases (hnull : r.pPayload = none) :
    r.uart = [] ∧ r.preamble2 = r.sleep ∨
      (∃ xs, r.uart = rxPreamble2 :: xs ∧
        r.preamble2 = { (r.uartRead 1).writeStr 1 [rxPreamble2] with
          counterRead := 2, state := .packetLength }) ∨
      ∃ byte xs, byte ≠ rxPreamble2 ∧ r.uart = byte :: xs ∧
        r.preamble2 = { r.uartRead 1 with counterRead := 0, state := .preamble1 } := by
  cases huart : r.uart with
  | nil => exact .inl ⟨rfl, by simp [preamble2, huart, idle, sleep, hnull]⟩
  | cons byte xs =>
    by_cases hbyte : byte = rxPreamble2
    · subst hbyte
      exact .inr (.inl ⟨xs, rfl, by simp [preamble2, huart]⟩)
    · exact .inr (.inr ⟨byte, xs, hbyte, rfl, by simp [preamble2, huart, hbyte]⟩)

theorem lengthState_cases (hnull : r.pPayload = none) :
    r.uart.length < 2 ∧ r.lengthState = r.sleep ∨
      ∃ hi lo xs, r.uart = hi :: lo :: xs ∧
        r.lengthState = (r.uartRead 2).takeLength hi lo := by
  rcases huart : r.uart with _ | ⟨hi, _ | ⟨lo, xs⟩⟩
  · exact .inl ⟨Nat.two_pos, by simp [lengthState, huart, sleep, hnull]⟩
  · exact .inl ⟨Nat.one_lt_two, by simp [lengthState, huart]⟩
  · exact .inr ⟨hi, lo, xs, rfl, by simp [lengthState, huart]⟩

/-- A turn of a receiver that has not ended, by its state. -/
theorem Reached.turn_cases {P : Receiver → Prop} (h : Reached r) (hrun : r.running = true)
    (preamble1 : r.state = .preamble1 → r.pPayload = none → r.counterRead = 0 → r.retValue ≤ 1 →
      r.block = some none → P r.preamble1)
    (preamble2 : r.state = .preamble2 → r.pPayload = none → Matched [rxPreamble1] r →
      r.block = some none → P r.preamble2)
    (packetLength : r.state = .packetLength → r.pPayload = none →
      Matched [rxPreamble1, rxPreamble2] r → r.timeout ≠ 0 → r.block = some none →
        P r.lengthState)
    (payload : ∀ hi lo payload, r.state = .payload → r.timeout ≠ 0 →
      Capturing hi lo payload r → r.payloadLength < r.packetLength → P r.payloadState)
    (finish : ∀ hi lo payload, r.state = .finish → Capturing hi lo payload r →
      r.payloadLength = r.packetLength → P r.finishState) : P r.turn := by
  have hfinish := h.isFinish hrun
  have htime : r.state ≠ .preamble1 → r.timeout ≠ 0 := fun hne hzero => hne (h.timeout hrun hzero)
  unfold turn
  cases h.stage with
  | preamble1 hstate hnull hcount hret hblock =>
    rw [hstate]
    exact preamble1 hstate hnull hcount hret hblock
  | preamble2 hstate hnull hmatched hblock =>
    rw [hstate]
    exact preamble2 hstate hnull hmatched hblock
  | packetLength hstate hnull hmatched hblock =>
    rw [hstate]
    exact packetLength hstate hnull hmatched (htime (by simp [hstate])) hblock
  | payload hstate htimeout hcapturing hpart =>
    rw [hstate]
    exact payload _ _ _ hstate htimeout hcapturing hpart
  | finish hstate _ hcapturing hwhole =>
    rw [hstate]
    exact finish _ _ _ hstate hcapturing hwhole
  | timedOut hstate htimeout => exact absurd htimeout (htime (by simp [hstate]))
  | refused _ hfinish' | finished _ hfinish' => simp [hfinish'] at hfinish

theorem Matched.concat (h : Matched head r) (huart : r.uart = byte :: xs) (state : RxState) :
    Matched (head ++ [byte])
      { (r.uartRead 1).writeStr head.length [byte] with
        counterRead := head.length + 1, state := state } where
  stored := by
    have hread := Memory.read_write_succ r.pStr 0 head.length byte
    rw [h.stored, Nat.zero_add] at hread
    rw [List.length_append]
    exact hread
  taken := by
    obtain ⟨pre, hpre⟩ := h.taken
    refine ⟨pre, ?_⟩
    simp [writeStr, uartRead, huart, ← hpre]
  counted := by simp

theorem matched_nil (hcount : r.counterRead = 0) : Matched [] r :=
  ⟨rfl, List.nil_suffix, hcount⟩

theorem preamble1_stage (hlength : 6 ≤ r.length) (hstate : r.state = .preamble1)
    (hnull : r.pPayload = none) (hcount : r.counterRead = 0) (hret : r.retValue ≤ 1)
    (hblock : r.block = some none) : Stage r.preamble1 := by
  obtain ⟨_, hnext⟩ | ⟨xs, huart, hnext⟩ | ⟨byte, xs, _, _, hnext⟩ := preamble1_cases hnull
  · rw [hnext]
    exact .preamble1 hstate hnull hcount hret hblock
  · have hmatched := (matched_nil hcount).concat huart .preamble2
    rw [hnext]
    exact .preamble2 rfl hnull hmatched (writeStr_block (by simp; omega) hblock)
  · rw [hnext]
    exact .preamble1 hstate hnull hcount le_rfl hblock

theorem preamble2_stage (hlength : 6 ≤ r.length) (hstate : r.state = .preamble2)
    (hnull : r.pPayload = none) (hmatched : Matched [rxPreamble1] r)
    (hblock : r.block = some none) : Stage r.preamble2 := by
  obtain ⟨_, hnext⟩ | ⟨xs, huart, hnext⟩ | ⟨byte, xs, _, _, hnext⟩ := preamble2_cases hnull
  · rw [hnext]
    exact .preamble2 hstate hnull ⟨hmatched.stored, hmatched.taken, hmatched.counted⟩ hblock
  · have hboth := hmatched.concat huart .packetLength
    rw [hnext]
    exact .packetLength rfl hnull hboth (writeStr_block (by simp; omega) hblock)
  · rw [hnext]
    exact .preamble1 rfl hnull rfl le_rfl hblock

-- ---------------------------------------------------------------------------
-- The length
-- ---------------------------------------------------------------------------

theorem header_stored (h : r.pStr.read 0 2 = [rxPreamble1, rxPreamble2]) :
    ((r.pStr.write 3 [lo]).write 2 [hi]).read 0 4 = header hi lo := by
  have hboth : r.pStr.write 2 ([hi] ++ [lo]) = (r.pStr.write 3 [lo]).write 2 [hi] :=
    Memory.write_append_last
  have hread : (r.pStr.write (0 + 2) [hi, lo]).read 0 (2 + 2) = r.pStr.read 0 2 ++ [hi, lo] :=
    Memory.read_write_append
  rw [← hboth]
  exact hread.trans (congrArg (· ++ [hi, lo]) h)

theorem takeLength_eq (r : Receiver) (hi lo : UInt8) :
    (r.takeLength hi lo).uart = r.uart ∧ (r.takeLength hi lo).taken = r.taken ∧
      (r.takeLength hi lo).timeout = r.timeout := by
  unfold takeLength
  dsimp only
  split
  · split
    · exact ⟨rfl, rfl, rfl⟩
    · exact ⟨rfl, rfl, rfl⟩
  · exact ⟨rfl, rfl, rfl⟩

theorem takeLength_sameCall (r : Receiver) (hi lo : UInt8) : SameCall r (r.takeLength hi lo) := by
  unfold takeLength
  dsimp only
  split
  · split
    · exact ⟨rfl, rfl⟩
    · exact ⟨rfl, rfl⟩
  · exact ⟨rfl, rfl⟩

theorem takeLength_counterRead (r : Receiver) (hi lo : UInt8) :
    (r.takeLength hi lo).counterRead = 4 := by
  unfold takeLength
  dsimp only
  split
  · split
    · rfl
    · rfl
  · rfl

theorem takeLength_block (hlength : 6 ≤ r.length) (hblock : r.block = some none) :
    ((r.writeStr 3 [lo]).writeStr 2 [hi]).block = some none := by
  have hlow : (r.writeStr 3 [lo]).block = some none := writeStr_block (by simp; omega) hblock
  exact writeStr_block (by simp [writeStr]; omega) hlow

/-- A length that is taken, with a block for the payload. -/
theorem takeLength_capturing (hlength : 6 ≤ r.length)
    (hstored : r.pStr.read 0 2 = [rxPreamble1, rxPreamble2]) (htaken : header hi lo <:+ r.taken)
    (hfinish : r.isFinish = false) (hblock : r.block = some none)
    (hsmall : lengthField hi lo < rxMaxPayloadSize)
    (halloc : r.memoryAlloc (lengthField hi lo + 2) = some payload) :
    Capturing hi lo payload (r.takeLength hi lo) ∧ (r.takeLength hi lo).state = .payload ∧
      (r.takeLength hi lo).payloadLength = 0 := by
  have halloc' : ((r.writeStr 3 [lo]).writeStr 2 [hi]).memoryAlloc (lengthField hi lo + 2) =
      some payload := halloc
  simp only [takeLength, if_pos hsmall, halloc']
  refine ⟨?_, trivial, trivial⟩
  exact {
    small := hsmall
    packetLength := rfl
    pPayload := rfl
    payloadRx := rfl
    stored := header_stored hstored
    taken := by simpa [writeStr] using htaken
    counted := rfl
    unfinished := hfinish
    block := alloc_block rfl rfl (takeLength_block hlength hblock) }

theorem takeLength_stage (hlength : 6 ≤ r.length) (hstate : r.state = .packetLength)
    (hstored : r.pStr.read 0 2 = [rxPreamble1, rxPreamble2]) (htaken : header hi lo <:+ r.taken)
    (htimeout : r.timeout ≠ 0) (hfinish : r.isFinish = false) (hblock : r.block = some none) :
    Stage (r.takeLength hi lo) := by
  by_cases hsmall : lengthField hi lo < rxMaxPayloadSize
  · cases halloc : r.memoryAlloc (lengthField hi lo + 2) with
    | some payload =>
      obtain ⟨hcapturing, hstate', hnone⟩ :=
        takeLength_capturing hlength hstored htaken hfinish hblock hsmall halloc
      refine .payload hstate' ?_ hcapturing ?_
      · rw [(takeLength_eq r hi lo).2.2]
        exact htimeout
      · rw [hnone, hcapturing.packetLength]
        exact Nat.succ_pos _
    | none =>
      have halloc' : ((r.writeStr 3 [lo]).writeStr 2 [hi]).memoryAlloc (lengthField hi lo + 2) =
          none := halloc
      simp only [takeLength, if_pos hsmall, halloc']
      exact .refused hstate rfl rfl (takeLength_block hlength hblock)
  · simp only [takeLength, if_neg hsmall]
    exact .refused hstate rfl rfl hblock

theorem lengthState_stage (hlength : 6 ≤ r.length) (hstate : r.state = .packetLength)
    (hnull : r.pPayload = none) (hmatched : Matched [rxPreamble1, rxPreamble2] r)
    (htimeout : r.timeout ≠ 0) (hfinish : r.isFinish = false) (hblock : r.block = some none) :
    Stage r.lengthState := by
  obtain ⟨_, hnext⟩ | ⟨hi, lo, xs, huart, hnext⟩ := lengthState_cases hnull
  · rw [hnext]
    exact .packetLength hstate hnull ⟨hmatched.stored, hmatched.taken, hmatched.counted⟩ hblock
  · rw [hnext]
    refine takeLength_stage hlength hstate hmatched.stored ?_ htimeout hfinish hblock
    obtain ⟨pre, hpre⟩ := hmatched.taken
    exact ⟨pre, by simp [header, uartRead, huart, ← hpre]⟩

-- ---------------------------------------------------------------------------
-- The payload
-- ---------------------------------------------------------------------------

theorem readPayload_read (h : Capturing hi lo payload r) (huart : n ≤ r.uart.length) :
    (payload.write r.payloadRx (r.uart.take n)).read 0 (r.payloadLength + n) =
      payload.read 0 r.payloadLength ++ r.uart.take n := by
  have hlen : (r.uart.take n).length = n := by simp [huart]
  have hread : (payload.write (0 + r.payloadLength) (r.uart.take n)).read 0
      (r.payloadLength + (r.uart.take n).length) =
        payload.read 0 r.payloadLength ++ r.uart.take n := Memory.read_write_append
  rw [hlen, Nat.zero_add] at hread
  rw [h.payloadRx, hread]

theorem Capturing.readPayload (h : Capturing hi lo payload r) (huart : n ≤ r.uart.length)
    (hfits : r.payloadLength + n ≤ r.packetLength) :
    Capturing hi lo (payload.write r.payloadRx (r.uart.take n)) (r.readPayload n) where
  small := h.small
  packetLength := h.packetLength
  pPayload := by simp [Receiver.readPayload, h.pPayload]
  payloadRx := by simp [Receiver.readPayload, h.payloadRx]
  stored := h.stored
  taken := by
    obtain ⟨pre, hpre⟩ := h.taken
    refine ⟨pre, ?_⟩
    simp only [Receiver.readPayload, uartRead]
    rw [readPayload_read h huart, ← hpre]
    simp
  counted := by simp [Receiver.readPayload, h.counted, Nat.add_assoc]
  unfinished := h.unfinished
  block := readPayload_block h.block (by rw [h.payloadRx]; exact hfits)

theorem Capturing.with_state (h : Capturing hi lo payload r) (state : RxState) :
    Capturing hi lo payload { r with state := state } :=
  ⟨h.small, h.packetLength, h.pPayload, h.payloadRx, h.stored, h.taken, h.counted, h.unfinished,
    h.block⟩

theorem Capturing.with_uart (h : Capturing hi lo payload r) (uart : List UInt8)
    (running : Bool) : Capturing hi lo payload { r with uart := uart, running := running } :=
  ⟨h.small, h.packetLength, h.pPayload, h.payloadRx, h.stored, h.taken, h.counted, h.unfinished,
    h.block⟩

theorem Capturing.sleep (h : Capturing hi lo payload r) : Capturing hi lo payload r.sleep :=
  ⟨h.small, h.packetLength, h.pPayload, h.payloadRx, h.stored, h.taken, h.counted, h.unfinished,
    h.block⟩

def copyIfFits (r : Receiver) : Receiver :=
  if r.length ≥ r.payloadLength + 4 then r.copyPayload else r

theorem copyIfFits_stored (h : Capturing hi lo payload r) :
    r.copyIfFits.pStr.read 0 4 = header hi lo := by
  unfold copyIfFits
  split
  · simp only [copyPayload, h.pPayload, writeStr]
    rw [Memory.read_write_of_disjoint (.inl (by omega)), h.stored]
  · exact h.stored

theorem copyIfFits_copied (h : Capturing hi lo payload r) (hfits : 4 + r.payloadLength ≤ r.length) :
    r.copyIfFits.pStr.read 0 (4 + r.payloadLength) =
      header hi lo ++ payload.read 0 r.payloadLength := by
  have hread : (r.pStr.write (0 + 4) (payload.read 0 r.payloadLength)).read 0
      (4 + (payload.read 0 r.payloadLength).length) =
        r.pStr.read 0 4 ++ payload.read 0 r.payloadLength := Memory.read_write_append
  rw [Memory.read_length, h.stored] at hread
  have hroom : r.length ≥ r.payloadLength + 4 := by omega
  simp only [copyIfFits, if_pos hroom, copyPayload, h.pPayload]
  exact hread

theorem copyIfFits_block (h : Capturing hi lo payload r) :
    r.copyIfFits.block = some (some r.packetLength) := by
  unfold copyIfFits
  split
  case isTrue hroom =>
    simp only [copyPayload, h.pPayload]
    refine writeStr_block ?_ h.block
    rw [Memory.read_length]
    omega
  case isFalse => exact h.block

theorem copyIfFits_eq (r : Receiver) :
    r.copyIfFits = { r with pStr := r.copyIfFits.pStr, ops := r.copyIfFits.ops } := by
  unfold copyIfFits copyPayload
  split
  · split <;> rfl
  · rfl

theorem Capturing.copied (h : Capturing hi lo payload r) {r' : Receiver}
    (hstr : r'.pStr = r.copyIfFits.pStr) (hlength : r'.length = r.length)
    (htaken : r'.taken = r.taken) (hcount : r'.counterRead = r.counterRead) :
    Copied hi lo (payload.read 0 r.payloadLength) r' where
  small := h.small
  stored := by rw [hstr, copyIfFits_stored h]
  copied := by
    rw [Memory.read_length, hstr, hlength]
    exact copyIfFits_copied h
  taken := by
    rw [htaken]
    exact h.taken
  counted := by rw [hcount, h.counted, Memory.read_length]

theorem payloadState_silent (h : Capturing hi lo payload r) (huart : r.uart = []) :
    r.payloadState =
      if r.sleep.timeout = 0 then r.sleep.copyIfFits.freePayload else r.sleep := by
  have hsome : r.sleep.pPayload.isSome = true := by simp [sleep, h.pPayload]
  simp only [payloadState, huart, List.length_nil, ne_eq, not_true_eq_false, if_false, hsome,
    Bool.true_and, decide_eq_true_eq]
  rfl

theorem payloadState_some (h : Capturing hi lo payload r)
    (hpart : r.payloadLength < r.packetLength) (huart : r.uart ≠ []) :
    r.payloadState =
      if r.packetLength - r.payloadLength > r.uart.length then r.readPayload r.uart.length
      else { r.readPayload (r.packetLength - r.payloadLength) with state := .finish } := by
  have hsome : r.uart.length ≠ 0 := fun hzero => huart (List.length_eq_zero_iff.mp hzero)
  have hroom : r.payloadRx < r.packetLength := by rw [h.payloadRx]; exact hpart
  simp only [payloadState, hsome, ne_eq, not_false_eq_true, if_true, hroom]

theorem payloadState_stage (hstate : r.state = .payload) (htimeout : r.timeout ≠ 0)
    (h : Capturing hi lo payload r) (hpart : r.payloadLength < r.packetLength) :
    Stage r.payloadState := by
  by_cases huart : r.uart = []
  · rw [payloadState_silent h huart]
    by_cases hup : r.sleep.timeout = 0
    · rw [if_pos hup]
      have hcopy := copyIfFits_eq r.sleep
      refine .timedOut ?_ ?_ (?_ : Copied hi lo (payload.read 0 r.payloadLength) _) ?_ ?_
      · rw [hcopy]
        exact hstate
      · rw [hcopy]
        exact hup
      · apply h.sleep.copied
        · rfl
        all_goals
          rw [hcopy]
          rfl
      · rw [Memory.read_length, ← h.packetLength]
        exact hpart
      · apply freePayload_block
        have hblock := copyIfFits_block h.sleep
        rw [hcopy] at hblock ⊢
        exact hblock
    · rw [if_neg hup]
      exact .payload hstate hup h.sleep hpart
  · rw [payloadState_some h hpart huart]
    split
    case isTrue hmore =>
      refine .payload hstate htimeout (h.readPayload le_rfl (by omega)) ?_
      simp only [readPayload, uartRead]
      omega
    case isFalse hall =>
      refine .finish rfl htimeout ((h.readPayload (by omega) (by omega)).with_state _) ?_
      simp only [readPayload, uartRead]
      omega

theorem finishState_eq (h : Capturing hi lo payload r) (hwhole : r.payloadLength = r.packetLength) :
    r.finishState =
      { r.copyIfFits with
        ops := r.copyIfFits.ops ++ [.free r.packetLength], isFinish := true } := by
  unfold finishState copyIfFits copyPayload
  rw [hwhole]
  split
  · rw [h.pPayload]
    rfl
  · rfl

theorem finishState_copied (h : Capturing hi lo payload r)
    (hwhole : r.payloadLength = r.packetLength) :
    Copied hi lo (payload.read 0 r.payloadLength) r.finishState := by
  have hcopy := copyIfFits_eq r
  rw [finishState_eq h hwhole]
  apply h.copied
  · rfl
  all_goals rw [hcopy]

theorem finishState_stage (hstate : r.state = .finish) (h : Capturing hi lo payload r)
    (hwhole : r.payloadLength = r.packetLength) : Stage r.finishState := by
  have hcopied := finishState_copied h hwhole
  have hbody : (payload.read 0 r.payloadLength).length = lengthField hi lo + 2 := by
    rw [Memory.read_length, hwhole, h.packetLength]
  rw [finishState_eq h hwhole] at hcopied ⊢
  refine .finished ?_ rfl hcopied hbody (free_block rfl rfl (copyIfFits_block h))
  rw [copyIfFits_eq]
  exact hstate

-- ---------------------------------------------------------------------------
-- Runs of the loop
-- ---------------------------------------------------------------------------

theorem Stage.with_uart (h : Stage r) (uart : List UInt8) (running : Bool) :
    Stage { r with uart := uart, running := running } := by
  cases h with
  | preamble1 hstate hnull hcount hret hblock => exact .preamble1 hstate hnull hcount hret hblock
  | preamble2 hstate hnull hmatched hblock =>
    exact .preamble2 hstate hnull ⟨hmatched.stored, hmatched.taken, hmatched.counted⟩ hblock
  | packetLength hstate hnull hmatched hblock =>
    exact .packetLength hstate hnull ⟨hmatched.stored, hmatched.taken, hmatched.counted⟩ hblock
  | payload hstate htimeout h hpart =>
    exact .payload hstate htimeout (h.with_uart uart running) hpart
  | finish hstate htimeout h hwhole =>
    exact .finish hstate htimeout (h.with_uart uart running) hwhole
  | timedOut hstate htimeout h hpart hblock =>
    exact .timedOut hstate htimeout ⟨h.small, h.stored, h.copied, h.taken, h.counted⟩ hpart hblock
  | refused hstate hfinish hcount hblock => exact .refused hstate hfinish hcount hblock
  | finished hstate hfinish h hwhole hblock =>
    exact .finished hstate hfinish ⟨h.small, h.stored, h.copied, h.taken, h.counted⟩ hwhole hblock

theorem turn_stage (h : Reached r) (hrun : r.running = true) : Stage r.turn := by
  have hlength := h.length hrun
  have hfinish := h.isFinish hrun
  refine h.turn_cases hrun ?_ ?_ ?_ ?_ ?_
  · exact preamble1_stage hlength
  · exact preamble2_stage hlength
  · intro hstate hnull hmatched htimeout
    exact lengthState_stage hlength hstate hnull hmatched htimeout hfinish
  · intro hi lo payload hstate htimeout hcapturing hpart
    exact payloadState_stage hstate htimeout hcapturing hpart
  · intro hi lo payload hstate hcapturing hwhole
    exact finishState_stage hstate hcapturing hwhole

/-- What a turn does to the bytes and the time: it takes some bytes, sleeps, or is the
last one. -/
inductive Turned (r r' : Receiver) : Prop
  | took {n : Nat} (hpos : 0 < n) (hle : n ≤ r.uart.length) (hcall : SameCall r r')
    (huart : r'.uart = r.uart.drop n) (htaken : r'.taken = r.taken ++ r.uart.take n)
    (htimeout : r'.timeout = r.timeout)
  | slept (hcall : SameCall r r') (huart : r'.uart = r.uart) (htaken : r'.taken = r.taken)
    (htimeout : r'.timeout = r.timeout - 1)
  | last (hcall : SameCall r r') (huart : r'.uart = r.uart) (htaken : r'.taken = r.taken)
    (htimeout : r'.timeout = r.timeout) (hfinish : r'.isFinish = true)

theorem Turned.sameCall {r' : Receiver} (h : Turned r r') : SameCall r r' := by
  cases h with
  | took _ _ hcall | slept hcall | last hcall => exact hcall

theorem uartRead_turned (hpos : 0 < n) (hle : n ≤ r.uart.length) {r' : Receiver}
    (hcall : SameCall r r') (huart : r'.uart = (r.uartRead n).uart)
    (htaken : r'.taken = (r.uartRead n).taken) (htimeout : r'.timeout = r.timeout) : Turned r r' :=
  .took hpos hle hcall huart htaken htimeout

theorem preamble1_turned (hnull : r.pPayload = none) : Turned r r.preamble1 := by
  obtain ⟨_, hnext⟩ | ⟨xs, huart, hnext⟩ | ⟨byte, xs, _, huart, hnext⟩ := preamble1_cases hnull
  · rw [hnext]
    exact .slept ⟨rfl, rfl⟩ rfl rfl rfl
  · rw [hnext]
    exact uartRead_turned Nat.one_pos (by simp [huart]) ⟨rfl, rfl⟩ rfl rfl rfl
  · rw [hnext]
    exact uartRead_turned Nat.one_pos (by simp [huart]) ⟨rfl, rfl⟩ rfl rfl rfl

theorem preamble2_turned (hnull : r.pPayload = none) : Turned r r.preamble2 := by
  obtain ⟨_, hnext⟩ | ⟨xs, huart, hnext⟩ | ⟨byte, xs, _, huart, hnext⟩ := preamble2_cases hnull
  · rw [hnext]
    exact .slept ⟨rfl, rfl⟩ rfl rfl rfl
  · rw [hnext]
    exact uartRead_turned Nat.one_pos (by simp [huart]) ⟨rfl, rfl⟩ rfl rfl rfl
  · rw [hnext]
    exact uartRead_turned Nat.one_pos (by simp [huart]) ⟨rfl, rfl⟩ rfl rfl rfl

theorem lengthState_turned (hnull : r.pPayload = none) : Turned r r.lengthState := by
  obtain ⟨_, hnext⟩ | ⟨hi, lo, xs, huart, hnext⟩ := lengthState_cases hnull
  · rw [hnext]
    exact .slept ⟨rfl, rfl⟩ rfl rfl rfl
  · obtain ⟨huart', htaken, htimeout⟩ := takeLength_eq (r.uartRead 2) hi lo
    obtain ⟨hlength, hmemory⟩ := takeLength_sameCall (r.uartRead 2) hi lo
    rw [hnext]
    exact uartRead_turned Nat.two_pos (by simp [huart]) ⟨hlength, hmemory⟩ huart' htaken htimeout

theorem payloadState_turned (h : Capturing hi lo payload r)
    (hpart : r.payloadLength < r.packetLength) : Turned r r.payloadState := by
  by_cases huart : r.uart = []
  · rw [payloadState_silent h huart]
    split
    · rw [copyIfFits_eq]
      exact .slept ⟨rfl, rfl⟩ rfl rfl rfl
    · exact .slept ⟨rfl, rfl⟩ rfl rfl rfl
  · have hsome : r.uart.length ≠ 0 := fun hzero => huart (List.length_eq_zero_iff.mp hzero)
    rw [payloadState_some h hpart huart]
    split
    · exact uartRead_turned (Nat.pos_of_ne_zero hsome) le_rfl ⟨rfl, rfl⟩ rfl rfl rfl
    · exact uartRead_turned (by omega) (by omega) ⟨rfl, rfl⟩ rfl rfl rfl

theorem finishState_turned (h : Capturing hi lo payload r)
    (hwhole : r.payloadLength = r.packetLength) : Turned r r.finishState := by
  rw [finishState_eq h hwhole, copyIfFits_eq]
  exact .last ⟨rfl, rfl⟩ rfl rfl rfl rfl

theorem turn_turned (h : Reached r) (hrun : r.running = true) : Turned r r.turn := by
  refine h.turn_cases hrun ?_ ?_ ?_ ?_ ?_
  · intro _ hnull _ _ _
    exact preamble1_turned hnull
  · intro _ hnull _ _
    exact preamble2_turned hnull
  · intro _ hnull _ _ _
    exact lengthState_turned hnull
  · intro hi lo payload _ _ hcapturing hpart
    exact payloadState_turned hcapturing hpart
  · intro hi lo payload _ hcapturing hwhole
    exact finishState_turned hcapturing hwhole

theorem Reached.start {opened pend : Bool} {memoryAlloc : Nat → Option (Memory UInt8)}
    {pStr : Memory UInt8} {length timeout : Nat} :
    Reached (start opened pend memoryAlloc pStr length timeout) where
  stage := .preamble1 rfl rfl rfl (Nat.zero_le 1) rfl
  isFinish _ := rfl
  timeout _ _ := rfl
  ended _ := .inr (.inr rfl)
  length h := by
    simp only [Receiver.start, Bool.and_eq_true, decide_eq_true_eq] at h
    exact h.1.1

theorem Reached.arrive (h : Reached r) (chunk : List UInt8) : Reached (r.arrive chunk) where
  stage := h.stage.with_uart _ _
  isFinish := h.isFinish
  timeout := h.timeout
  ended := h.ended
  length := h.length

theorem step_of_ended (hrun : r.running = false) : r.step chunk = r.arrive chunk := by
  simp [step, Receiver.arrive, hrun]

theorem step_of_running (hrun : r.running = true) :
    r.step chunk =
      { (r.arrive chunk).turn with
        running := (r.arrive chunk).turn.timeout ≠ 0 && !(r.arrive chunk).turn.isFinish } := by
  simp [step, Receiver.arrive, hrun]

theorem Reached.step_sameCall (h : Reached r) (chunk : List UInt8) :
    SameCall r (r.step chunk) := by
  cases hrun : r.running with
  | false =>
    rw [step_of_ended hrun]
    exact ⟨rfl, rfl⟩
  | true =>
    rw [step_of_running hrun]
    obtain ⟨hlength, hmemory⟩ := (turn_turned (h.arrive chunk) hrun).sameCall
    exact ⟨hlength, hmemory⟩

theorem Reached.step (h : Reached r) (chunk : List UInt8) : Reached (r.step chunk) := by
  have harrive := h.arrive chunk
  cases hrun : r.running with
  | false =>
    rw [step_of_ended hrun]
    exact harrive
  | true =>
    rw [step_of_running hrun]
    refine ⟨(turn_stage harrive hrun).with_uart _ _, fun h => ?_, fun h ht => ?_, fun h => ?_,
      fun _ => ?_⟩
    · simp only [Bool.and_eq_true, Bool.not_eq_true'] at h
      exact h.2
    · simp only [Bool.and_eq_true, decide_eq_true_eq] at h
      exact absurd ht h.1
    · simp only [Bool.and_eq_false_iff, decide_eq_false_iff_not, not_not, Bool.not_eq_false'] at h
      exact h.imp_right .inl
    · rw [(turn_turned harrive hrun).sameCall.length]
      exact h.length hrun

end Receiver

end SystemMaster.Avds
