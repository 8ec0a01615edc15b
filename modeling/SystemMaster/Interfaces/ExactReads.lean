import SystemMaster.Avds.ReceiverSafety
import SystemMaster.Interfaces.ReadErrors

/-!
# Reads that give all they are asked for

Where `UART_read` gives all the bytes it is asked for, the routine for AVDS is the receiver
of AVDS frames turn by turn, and a transfer reports what the receiver has.
-/

namespace SystemMaster.Interfaces

open Avds (Receiver rxPreamble1 rxPreamble2)
open Avds.Receiver (lengthField Reached Capturing)
open Runs

/-- A turn that finds these bytes at the UART. -/
def Turn.exact (uart : List UInt8) : Turn where
  dataAvailable := uart.length
  uartRead n := some (uart.take n)
  fits n xs h := by
    obtain rfl := Option.some.inj h
    exact List.length_take_le n uart

namespace AvdsRead

/-- The locals hold the same. The lengths are looked at in the payload only. -/
structure Follows (s : AvdsRead) (r : Receiver) : Prop where
  length : s.length.toNat = r.length
  memoryAlloc : s.memoryAlloc = r.memoryAlloc
  state : s.state = r.state
  timeout : s.timeout = r.timeout
  retValue : s.retValue = r.retValue
  counterRead : s.counterRead = r.counterRead
  lengths : r.state = .payload ∨ r.state = .finish → s.packetLength = r.packetLength ∧
    s.payloadLength = r.payloadLength ∧ s.payloadRx = r.payloadRx
  pPayload : s.pPayload = r.pPayload
  isFinish : s.isFinish = r.isFinish
  readBuf : s.buf.bytes = r.pStr
  running : s.running = r.running

variable {s : AvdsRead} {r : Receiver} {hi lo byte : UInt8} {payload : Memory UInt8} {n : Nat}

theorem Follows.sleep (h : s.Follows r) : s.sleep.Follows r.sleep where
  __ := h
  timeout := congrArg (· - 1) h.timeout

theorem Follows.arrive (h : s.Follows r) (chunk : List UInt8) : s.Follows (r.arrive chunk) where
  __ := h

theorem Follows.clear (h : s.Follows r) (hnull : r.pPayload = none) :
    { s with pPayload := none }.Follows r where
  __ := h
  pPayload := hnull.symm

theorem Follows.free (h : s.Follows r) (ops : List Avds.MemoryOp) :
    { s with pPayload := none }.Follows { r with pPayload := none, ops := ops } where
  __ := h
  pPayload := rfl

theorem status_exact (hn : n ≤ r.uart.length) :
    status ((Turn.exact r.uart).uartRead n) = n := by
  simp [Turn.exact, status, hn]

theorem Follows.uartRead (h : s.Follows r) (hn : n ≤ r.uart.length) :
    { s with retValue := status ((Turn.exact r.uart).uartRead n) }.Follows (r.uartRead n) where
  __ := h
  retValue := status_exact hn

theorem Follows.idle (h : s.Follows r) : s.idle.Follows r.idle := by
  rw [AvdsRead.idle, Receiver.idle]
  cases hpayload : r.sleep.pPayload with
  | none => exact h.sleep.clear hpayload
  | some payload => exact h.sleep.free _

theorem Follows.takePreamble (h : s.Follows r) {xs : List UInt8} :
    (s.takePreamble xs).Follows r where
  __ := h

theorem Follows.matchPreamble1 (h : s.Follows r) :
    (s.matchPreamble1 byte).Follows
      (if byte = rxPreamble1 then
        { r.writeStr 0 [byte] with counterRead := 1, state := .preamble2 }
      else r) := by
  rw [AvdsRead.matchPreamble1]
  split
  case isTrue =>
    exact { h with
      state := rfl
      counterRead := rfl
      lengths := by simp
      readBuf := congrArg (Memory.write · 0 [byte]) h.readBuf }
  case isFalse => exact h

theorem Follows.matchPreamble2 (h : s.Follows r) :
    (s.matchPreamble2 byte).Follows
      (if byte = rxPreamble2 then
        { r.writeStr 1 [byte] with counterRead := 2, state := .packetLength }
      else { r with counterRead := 0, state := .preamble1 }) := by
  rw [AvdsRead.matchPreamble2]
  split
  case isTrue =>
    exact { h with
      state := rfl
      counterRead := rfl
      lengths := by simp
      readBuf := congrArg (Memory.write · 1 [byte]) h.readBuf }
  case isFalse =>
    exact { h with state := rfl, counterRead := rfl, lengths := by simp }

theorem Follows.preamble1 (h : s.Follows r) : (s.preamble1 (.exact r.uart)).Follows r.preamble1 := by
  cases huart : r.uart with
  | nil =>
    simp only [AvdsRead.preamble1, Receiver.preamble1, huart]
    exact h.idle
  | cons byte xs =>
    have hread := h.uartRead (n := 1) (by simp [huart])
    simp only [AvdsRead.preamble1, Receiver.preamble1, huart]
    rw [huart] at hread
    exact hread.takePreamble.matchPreamble1

theorem Follows.preamble2 (h : s.Follows r) : (s.preamble2 (.exact r.uart)).Follows r.preamble2 := by
  cases huart : r.uart with
  | nil =>
    simp only [AvdsRead.preamble2, Receiver.preamble2, huart]
    exact h.idle
  | cons byte xs =>
    have hread := h.uartRead (n := 1) (by simp [huart])
    simp only [AvdsRead.preamble2, Receiver.preamble2, huart]
    rw [huart] at hread
    exact hread.takePreamble.matchPreamble2

theorem Follows.lengthBuf (h : s.Follows r) (hi lo : UInt8) :
    (s.buf.put 2 [hi, lo]).bytes = ((r.writeStr 3 [lo]).writeStr 2 [hi]).pStr := by
  have hboth : r.pStr.write 2 ([hi] ++ [lo]) = (r.pStr.write 3 [lo]).write 2 [hi] :=
    Memory.write_append_last
  exact (congrArg (Memory.write · 2 [hi, lo]) h.readBuf).trans hboth

theorem Follows.takeField (h : s.Follows r) (hstate : r.state = .packetLength) :
    (s.takeField hi lo).Follows (r.takeLength hi lo) := by
  simp only [AvdsRead.takeField, Receiver.takeLength, h.memoryAlloc]
  split
  case isTrue =>
    have hstored := h.lengthBuf hi lo
    cases hmemory : r.memoryAlloc (lengthField hi lo + 2) with
    | some payload =>
      simp only [Receiver.writeStr, hmemory]
      exact { h with
        memoryAlloc := rfl
        state := rfl
        counterRead := rfl
        lengths := fun _ => ⟨rfl, rfl, rfl⟩
        pPayload := rfl
        readBuf := hstored }
    | none =>
      simp only [Receiver.writeStr, hmemory]
      exact { h with
        memoryAlloc := rfl
        counterRead := rfl
        lengths := by simp [hstate]
        isFinish := rfl
        readBuf := hstored }
  case isFalse =>
    exact { h with
      memoryAlloc := rfl
      counterRead := rfl
      lengths := by simp [hstate]
      isFinish := rfl }

theorem Follows.takeLength (h : s.Follows r) (hstate : r.state = .packetLength) :
    (s.takeLength [hi, lo]).Follows (r.takeLength hi lo) :=
  Follows.takeField { h with } hstate

theorem Follows.lengthState (h : s.Follows r) (hstate : r.state = .packetLength)
    (hnull : r.pPayload = none) : (s.lengthState (.exact r.uart)).Follows r.lengthState := by
  have hsleep := h.sleep
  rcases huart : r.uart with _ | ⟨hi, _ | ⟨lo, xs⟩⟩
  · have hsilent : s.lengthState (.exact []) =
        if s.sleep.timeout = 0 then { s.sleep with pPayload := none } else s.sleep := rfl
    have hnull' : r.sleep.pPayload = none := hnull
    simp only [hsilent, Receiver.lengthState, huart, hnull', Option.isSome_none,
      Bool.false_and, Bool.false_eq_true, if_false]
    split
    case isTrue => exact hsleep.clear hnull'
    case isFalse => exact hsleep
  · simp only [AvdsRead.lengthState, Receiver.lengthState, huart]
    exact hsleep
  · have hread := h.uartRead (n := 2) (by simp [huart])
    simp only [AvdsRead.lengthState, Receiver.lengthState, huart]
    rw [huart] at hread
    exact hread.takeLength hstate

-- ---------------------------------------------------------------------------
-- The payload
-- ---------------------------------------------------------------------------

theorem packetLength_lt (h : Capturing hi lo payload r) : r.packetLength < 66 := by
  have hsmall : lengthField hi lo < 64 := h.small
  rw [h.packetLength]
  omega

theorem Follows.readPayload (h : s.Follows r) (hstate : r.state = .payload)
    (hcapturing : Capturing hi lo payload r) (hn : n ≤ r.uart.length)
    (hfits : r.payloadLength + n ≤ r.packetLength) :
    (s.readPayload (.exact r.uart) n).Follows (r.readPayload n) := by
  obtain ⟨hpacket, hpayload, hpointer⟩ := h.lengths (.inl hstate)
  have hsmall := packetLength_lt hcapturing
  refine { h with retValue := status_exact hn, counterRead := ?_, lengths := ?_, pPayload := ?_ }
  · simp only [AvdsRead.readPayload, Receiver.readPayload, status_exact hn, h.counterRead]
    rfl
  · intro _
    simp only [AvdsRead.readPayload, Receiver.readPayload, status_exact hn, hpayload, hpointer]
    exact ⟨hpacket, by omega, rfl⟩
  · simp only [AvdsRead.readPayload, Receiver.readPayload, h.pPayload, hpointer]
    rfl

theorem Follows.finish (h : s.Follows r) (hstate : r.state = .payload) :
    { s with state := .finish }.Follows { r with state := .finish } where
  __ := h
  state := rfl
  lengths _ := h.lengths (.inl hstate)

theorem Follows.copyIfFits (h : s.Follows r) (hstate : r.state = .payload ∨ r.state = .finish)
    (hpayload : r.pPayload = some payload) :
    (s.copyWithin r.payloadLength).Follows r.copyIfFits := by
  rw [copyWithin, Receiver.copyIfFits, h.length]
  split
  case isTrue =>
    rw [Receiver.copyPayload, hpayload]
    refine { h with lengths := ?_, pPayload := ?_, readBuf := ?_ }
    · exact h.lengths
    · exact h.pPayload
    · simp only [copyPayload, h.pPayload, hpayload, (h.lengths hstate).2.1]
      exact congrArg (Memory.write · 4 _) h.readBuf
  case isFalse => exact h

theorem Follows.payloadState_silent (h : s.Follows r) (hstate : r.state = .payload)
    (hcapturing : Capturing hi lo payload r) (huart : r.uart = []) :
    (s.payloadState (.exact r.uart)).Follows r.payloadState := by
  have hsleep := h.sleep
  have hlength : s.payloadLength = r.payloadLength := (h.lengths (.inl hstate)).2.1
  have hsome : s.sleep.pPayload = some payload := h.pPayload.trans hcapturing.pPayload
  have hsilent : s.payloadState (.exact []) =
      if s.sleep.pPayload.isSome && s.sleep.timeout = 0 then
        { s.sleep.copyWithin s.payloadLength with pPayload := none }
      else s.sleep := rfl
  rw [Receiver.payloadState_silent hcapturing huart, huart, hsilent, hsome, hsleep.timeout]
  simp only [Option.isSome_some, Bool.true_and, decide_eq_true_eq]
  split
  case isTrue =>
    have hcopy := hsleep.copyIfFits (.inl hstate) hcapturing.pPayload
    rw [hlength]
    exact hcopy.free _
  case isFalse => exact hsleep

/-- Some bytes have arrived in the payload. -/
theorem Follows.payloadState_some (h : s.Follows r) (hstate : r.state = .payload)
    (hcapturing : Capturing hi lo payload r) (hpart : r.payloadLength < r.packetLength)
    (huart : r.uart ≠ []) : (s.payloadState (.exact r.uart)).Follows r.payloadState := by
  obtain ⟨hpacket, hlength, hpointer⟩ := h.lengths (.inl hstate)
  have havailable : (Turn.exact r.uart).dataAvailable = r.uart.length := rfl
  have hdata : (Turn.exact r.uart).dataAvailable ≠ 0 :=
    fun hzero => huart (List.length_eq_zero_iff.mp hzero)
  have hpointer' : s.payloadRx = s.payloadLength := by
    rw [hpointer, hlength, hcapturing.payloadRx]
  have hpart' : s.payloadLength < s.packetLength := by rwa [hlength, hpacket]
  have hsmall : s.packetLength < 66 := by
    rw [hpacket]
    exact packetLength_lt hcapturing
  rw [Receiver.payloadState_some hcapturing hpart huart, payloadState_data hpointer' hpart' hdata,
    asked_eq hpointer' hpart' hsmall, hpacket, hlength, havailable]
  split
  case isTrue hmore =>
    rw [Nat.min_eq_left hmore.le]
    exact h.readPayload hstate hcapturing le_rfl (by omega)
  case isFalse hall =>
    rw [Nat.min_eq_right (Nat.not_lt.mp hall)]
    exact (h.readPayload hstate hcapturing (Nat.not_lt.mp hall) (by omega)).finish hstate

theorem Follows.payloadState (h : s.Follows r) (hstate : r.state = .payload)
    (hcapturing : Capturing hi lo payload r) (hpart : r.payloadLength < r.packetLength) :
    (s.payloadState (.exact r.uart)).Follows r.payloadState := by
  by_cases huart : r.uart = []
  · exact h.payloadState_silent hstate hcapturing huart
  · exact h.payloadState_some hstate hcapturing hpart huart

theorem Follows.finishState (h : s.Follows r) (hstate : r.state = .finish)
    (hcapturing : Capturing hi lo payload r) (hwhole : r.payloadLength = r.packetLength) :
    s.finishState.Follows r.finishState := by
  have hcopy := h.copyIfFits (.inr hstate) hcapturing.pPayload
  rw [Receiver.finishState_eq hcapturing hwhole, AvdsRead.finishState,
    (h.lengths (.inr hstate)).1, ← hwhole]
  exact { hcopy with isFinish := rfl }

theorem Follows.turn (h : s.Follows r) (hreached : Reached r) (hrun : r.running = true) :
    (s.turn (.exact r.uart)).Follows r.turn := by
  rw [AvdsRead.turn, h.state]
  refine hreached.turn_cases hrun (P := fun r' => Follows _ r') ?_ ?_ ?_ ?_ ?_
  · intro hstate _ _ _ _
    rw [hstate]
    exact h.preamble1
  · intro hstate _ _ _
    rw [hstate]
    exact h.preamble2
  · intro hstate hnull _ _ _
    rw [hstate]
    exact h.lengthState hstate hnull
  · intro hi lo payload hstate _ hcapturing hpart
    rw [hstate]
    exact h.payloadState hstate hcapturing hpart
  · intro hi lo payload hstate hcapturing hwhole
    rw [hstate]
    exact h.finishState hstate hcapturing hwhole

theorem Follows.step (h : s.Follows r) (hreached : Reached r) (chunk : List UInt8) :
    (s.step (.exact (r.arrive chunk).uart)).Follows (r.step chunk) := by
  have harrive := h.arrive chunk
  rw [AvdsRead.step, h.running]
  cases hrun : r.running with
  | false =>
    rw [Receiver.step_of_ended hrun, if_neg Bool.false_ne_true]
    exact harrive
  | true =>
    have hturn := harrive.turn (hreached.arrive chunk) hrun
    rw [Receiver.step_of_running hrun, if_pos rfl]
    refine { hturn with running := ?_ }
    simp only [hturn.timeout, hturn.isFinish]

theorem Follows.start {port : Port} {length : UInt32} {timeout : Nat} :
    (start port length timeout).Follows
      (.start port.opened port.pend port.memoryAlloc port.readBuf length.toNat timeout) where
  length := rfl
  memoryAlloc := rfl
  state := rfl
  timeout := rfl
  retValue := rfl
  counterRead := rfl
  lengths := by simp [Receiver.start]
  pPayload := rfl
  isFinish := rfl
  readBuf := rfl
  running := (Bool.and_assoc ..).symm

theorem Follows.result (h : s.Follows r) : s.result = r.result := by
  rw [AvdsRead.result, Receiver.result, h.counterRead, h.retValue, Nat.cast_ite]
  exact if_congr (not_congr Int.natCast_eq_zero) rfl rfl

theorem counterRead_lt (h : Reached r) : r.counterRead < 70 := by
  cases h.stage with
  | preamble1 _ _ hcount | refused _ _ hcount => omega
  | preamble2 _ _ hmatched | packetLength _ _ hmatched =>
    rw [hmatched.counted]
    decide
  | payload _ _ hcapturing hpart | finish _ _ hcapturing hpart =>
    have hcount := hcapturing.counted
    have hsmall := packetLength_lt hcapturing
    omega
  | timedOut _ _ hcopied hpart | finished _ _ hcopied hpart =>
    have hcount := hcopied.counted
    have hsmall : lengthField _ _ < 64 := hcopied.small
    omega

end AvdsRead

-- ---------------------------------------------------------------------------
-- Transfers
-- ---------------------------------------------------------------------------

structure Transfer.Follows (transaction : Transaction) (r : Receiver) (s : Transfer) : Prop where
  transaction : s.transaction = transaction
  reached : Reached r
  call : ∃ a : AvdsRead, s.call = some (.avds a) ∧ a.Follows r

def Transaction.receiver (t : Transaction) (port : Port) : Receiver :=
  .start port.opened port.pend port.memoryAlloc port.readBuf t.readCount.toNat t.readTimeout

def exactTurns (r : Receiver) (chunks : List (List UInt8)) : List Turn :=
  labels Receiver.step (fun r chunk => .exact (r.arrive chunk).uart) r chunks

variable {transaction : Transaction} {written : UInt32} {port : Port} {s : Transfer} {r : Receiver}

theorem Transfer.Follows.start (hroutine : transaction.routine = some .receiveAVDSFrameData) :
    (Transfer.start transaction written port).Follows transaction (transaction.receiver port) where
  transaction := rfl
  reached := .start
  call := by
    rw [Transfer.start, hroutine]
    exact ⟨_, rfl, AvdsRead.Follows.start⟩

theorem Transfer.Follows.step (h : s.Follows transaction r) (chunk : List UInt8) :
    (s.step (.exact (r.arrive chunk).uart)).Follows transaction (r.step chunk) where
  transaction := h.transaction
  reached := h.reached.step chunk
  call := by
    obtain ⟨a, hcall, hfollows⟩ := h.call
    rw [Transfer.step, hcall]
    exact ⟨_, rfl, hfollows.step h.reached chunk⟩

theorem avds_readCount (h : transaction.routine = some .receiveAVDSFrameData) :
    5 < transaction.readCount.toNat := by
  rw [Transaction.routine] at h
  split at h
  · split at h
    any_goals simp at h
    exact h
  · simp at h

theorem Transfer.Follows.ret (h : s.Follows transaction r) (hroom : 5 < transaction.readCount.toNat) :
    s.ret = r.transferred s.sent transaction.readCount.toNat := by
  obtain ⟨rfl, hreached, a, hcall, hfollows⟩ := h
  have hasked : ¬(s.transaction.writeCount = 0 ∧ s.transaction.readCount = 0) := by
    rintro ⟨_, hzero⟩
    rw [hzero] at hroom
    exact absurd hroom (by decide)
  have hresult : (Call.avds a).result = r.result := hfollows.result
  have hcount : s.readCount = r.result := by
    have hlt := AvdsRead.counterRead_lt hreached
    have hle := hreached.result_le
    rw [Transfer.readCount, hcall]
    simp only [hresult]
    exact toUnsigned_natCast (by omega)
  rw [Transfer.ret, if_neg hasked, hcall, hcount, Receiver.transferred, decide_eq_true hroom,
    Bool.true_and]

theorem transfer_exact (hroutine : transaction.routine = some .receiveAVDSFrameData)
    {chunks : List (List UInt8)} (hr : r = exec Receiver.step (transaction.receiver port) chunks)
    (hs : s = exec Transfer.step (.start transaction written port)
      (exactTurns (transaction.receiver port) chunks)) :
    s.running = r.running ∧ s.readBuf = r.pStr ∧
      s.ret = r.transferred s.sent transaction.readCount.toNat := by
  have hstep : ∀ (r : Receiver) (s : Transfer) chunk, s.Follows transaction r →
      (s.step (.exact (r.arrive chunk).uart)).Follows transaction (r.step chunk) :=
    fun _ _ chunk h => h.step chunk
  have hend : s.Follows transaction r := by
    rw [hr, hs]
    exact exec_related (Transfer.Follows.start hroutine) hstep
  obtain ⟨a, hcall, hfollows⟩ := hend.call
  refine ⟨?_, ?_, hend.ret (avds_readCount hroutine)⟩
  · rw [Transfer.running, hcall]
    exact hfollows.running
  · rw [Transfer.readBuf, hcall]
    exact hfollows.readBuf

end SystemMaster.Interfaces
