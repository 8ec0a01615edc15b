import SystemMaster.Interfaces.Transfer
import SystemMaster.Alto.Safety

/-!
# Errors of the UART

Where a routine adds the −1 of a failed read to a pointer or makes a length of it, and
where a transfer reports other bytes than the buffer has.
-/

namespace SystemMaster.Interfaces

open Runs
open Avds (rxPreamble1 rxPreamble2 rxMaxPayloadSize)
open Avds.Receiver (lengthField)

/-- Nothing goes backwards, has a negative length or is taken for read. -/
structure Trace.Harmless (t : Trace) : Prop where
  forwards : ∀ x ∈ t.moves, 0 ≤ x
  lengths : ∀ n ∈ t.blocks, 0 ≤ n
  read : t.unread = false

/-- The routine has done no harm, and the count it returns is that of the buffer. -/
structure Call.Right (c : Call) : Prop where
  harmless : c.trace.Harmless
  stored : c.running = false → toUnsigned c.result = c.stored

/-- What the transfer leaves in the transaction is what the buffer has. -/
structure Transfer.Right (s : Transfer) : Prop where
  harmless : s.trace.Harmless
  stored : s.running = false → s.readCount = s.stored
  success : s.running = false → s.ret = true → s.readCount = s.transaction.readCount.toNat

-- ---------------------------------------------------------------------------
-- Turns that do no harm
-- ---------------------------------------------------------------------------

def SimpleRead.Good (s : SimpleRead) (t : Turn) : Prop :=
  s.running = true → t.uartRead s.length.toNat ≠ none

def DataRead.Good (s : DataRead) (t : Turn) : Prop :=
  s.running = true → t.dataAvailable ≠ 0 → t.uartRead (s.asked t.dataAvailable) ≠ none

def AltoRead.Good (s : AltoRead) (t : Turn) : Prop :=
  s.running = true → t.dataAvailable ≠ 0 →
    t.uartRead (Alto.askedBytes t.dataAvailable) ≠ none

/-- In the first state the time does not run out after a byte that was not stored. -/
def AvdsRead.Preamble1Good (s : AvdsRead) (t : Turn) : Prop :=
  if t.dataAvailable ≠ 0 then
    t.uartRead 1 ≠ some [] ∧ (s.timeout = 0 → t.uartRead 1 = some [rxPreamble1])
  else s.timeout ≤ 1 → s.retValue = s.buf.stored

def AvdsRead.Preamble2Good (t : Turn) : Prop := t.dataAvailable ≠ 0 → t.uartRead 1 ≠ some []

/-- A length comes whole and is no greater than the payload may be. -/
def AvdsRead.LengthGood (t : Turn) : Prop :=
  2 ≤ t.dataAvailable → ∀ xs, t.uartRead 2 = some xs →
    ∃ hi lo, xs = [hi, lo] ∧ lengthField hi lo < rxMaxPayloadSize

/-- What has come of a payload when the time runs out fits. -/
def AvdsRead.PayloadGood (s : AvdsRead) (t : Turn) : Prop :=
  if t.dataAvailable ≠ 0 then
    t.uartRead (s.asked t.dataAvailable) ≠ none
  else s.timeout = 1 → s.payloadLength = 0 ∨ s.payloadLength + 4 ≤ s.length.toNat

def AvdsRead.FinishGood (s : AvdsRead) : Prop :=
  s.payloadLength = 0 ∨ s.packetLength + 4 ≤ s.length.toNat

def AvdsRead.Good (s : AvdsRead) (t : Turn) : Prop :=
  s.running = true →
    match s.state with
    | .preamble1 => s.Preamble1Good t
    | .preamble2 => Preamble2Good t
    | .packetLength => LengthGood t
    | .payload => s.PayloadGood t
    | .finish => s.FinishGood

def Call.Good : Call → Turn → Prop
  | .simple s, t => s.Good t
  | .data s, t => s.Good t
  | .alto s, t => s.Good t
  | .avds s, t => s.Good t

def Transfer.Good (s : Transfer) (t : Turn) : Prop := ∀ c ∈ s.call, c.Good t

variable {t : Turn} {tr : Trace} {x n : Int} {k : Nat} {xs : List UInt8}
  {answer : Option (List UInt8)} {port : Port} {turns : List Turn}

-- ---------------------------------------------------------------------------
-- Results and records
-- ---------------------------------------------------------------------------

theorem status_nonneg_iff : 0 ≤ status answer ↔ answer ≠ none := by
  cases answer with
  | some xs => simp [status]
  | none => simp [status]

theorem toUnsigned_natCast (h : k < 2 ^ 32) : toUnsigned k = k := by
  rw [toUnsigned]
  omega

namespace Trace

theorem harmless_start : start.Harmless :=
  ⟨fun _ h => absurd h List.not_mem_nil, fun _ h => absurd h List.not_mem_nil, rfl⟩

@[simp] theorem harmless_move : (tr.move x).Harmless ↔ tr.Harmless ∧ 0 ≤ x := by
  constructor
  · intro h
    refine ⟨⟨fun y hy => ?_, h.lengths, h.read⟩, ?_⟩
    · exact h.forwards y (List.mem_append_left _ hy)
    · exact h.forwards x (List.mem_append_right _ List.mem_cons_self)
  · rintro ⟨h, hx⟩
    refine ⟨fun y hy => ?_, h.lengths, h.read⟩
    rcases List.mem_append.mp hy with hold | hnew
    · exact h.forwards y hold
    · rwa [List.mem_singleton.mp hnew]

@[simp] theorem harmless_block : (tr.block n).Harmless ↔ tr.Harmless ∧ 0 ≤ n := by
  constructor
  · intro h
    refine ⟨⟨h.forwards, fun y hy => ?_, h.read⟩, ?_⟩
    · exact h.lengths y (List.mem_append_left _ hy)
    · exact h.lengths n (List.mem_append_right _ List.mem_cons_self)
  · rintro ⟨h, hn⟩
    refine ⟨h.forwards, fun y hy => ?_, h.read⟩
    rcases List.mem_append.mp hy with hold | hnew
    · exact h.lengths y hold
    · rwa [List.mem_singleton.mp hnew]

@[simp] theorem harmless_interpret :
    (tr.interpret k xs).Harmless ↔ tr.Harmless ∧ k ≤ xs.length := by
  constructor
  · intro h
    have hread := h.read
    simp only [interpret, Bool.or_eq_false_iff, decide_eq_false_iff_not, Nat.not_lt] at hread
    exact ⟨⟨h.forwards, h.lengths, hread.1⟩, hread.2⟩
  · rintro ⟨h, hk⟩
    refine ⟨h.forwards, h.lengths, ?_⟩
    simp only [interpret, Bool.or_eq_false_iff, decide_eq_false_iff_not, Nat.not_lt]
    exact ⟨h.read, hk⟩

theorem harmless_blocks {copies : List (List UInt8)} (h : tr.Harmless) :
    (copies.foldl (fun t str => t.block str.length) tr).Harmless :=
  copies.foldlRecOn _ h fun _ h _ _ => harmless_block.mpr ⟨h, Int.natCast_nonneg _⟩

end Trace

theorem Call.step_of_ended {c : Call} (h : c.running = false) : c.step t = c := by
  cases c with
  | simple s => exact congrArg Call.simple (if_neg (Bool.eq_false_iff.mp h))
  | data s => exact congrArg Call.data (if_neg (Bool.eq_false_iff.mp h))
  | alto s => exact congrArg Call.alto (if_neg (Bool.eq_false_iff.mp h))
  | avds s => exact congrArg Call.avds (if_neg (Bool.eq_false_iff.mp h))

theorem Call.taken_of_ended {c : Call} (h : c.running = false) : c.taken t = [] := by
  have hnone : c.reads t.dataAvailable = none := if_neg (Bool.eq_false_iff.mp h)
  rw [taken, hnone]
  rfl

namespace SimpleRead

variable {s : SimpleRead}

/-- A read that fails leaves the buffer empty, and −1 is returned for it. -/
theorem right_step_iff (h : (Call.simple s).Right) (hempty : s.running = true → s.buf.stored = 0) :
    (Call.simple (s.step t)).Right ↔ s.Good t := by
  rw [step, Good]
  cases hrun : s.running with
  | false => simpa using h
  | true =>
    have hlt := s.length.toNat_lt
    rw [if_pos rfl]
    simp only [forall_const]
    cases hread : t.uartRead s.length.toNat with
    | some xs =>
      have hfits := t.fits _ _ hread
      refine iff_of_true ⟨h.harmless, fun _ => ?_⟩ (Option.some_ne_none xs)
      have hstored : ((0 : Int) + xs.length).toNat = xs.length := by omega
      exact (toUnsigned_natCast (by omega)).trans hstored.symm
    | none =>
      refine iff_of_false (fun hright => ?_) (not_not.mpr rfl)
      have hstored : toUnsigned (-1) = s.buf.stored := hright.stored rfl
      rw [hempty hrun] at hstored
      cases hstored

end SimpleRead

namespace DataRead

variable {s : DataRead}

/-- The pointer and the counter are where the buffer is filled to. -/
structure Inv (s : DataRead) : Prop where
  harmless : s.trace.Harmless
  counter : s.counterRead = s.buf.stored
  pointer : s.pStr = s.buf.stored
  fits : s.buf.stored ≤ s.length.toNat
  silent : s.buf.stored = 0 → s.retValue = 0

theorem Inv.start {length : UInt32} {timeout : Nat} : (start port length timeout).Inv :=
  ⟨Trace.harmless_start, rfl, rfl, Nat.zero_le _, fun _ => rfl⟩

theorem Inv.right (h : s.Inv) : (Call.data s).Right := by
  have hlt := s.length.toNat_lt
  have hfits := h.fits
  refine ⟨h.harmless, fun _ => ?_⟩
  have hresult : s.result = s.buf.stored := by
    rw [result, h.counter]
    split
    · rfl
    · have hzero : s.buf.stored = 0 := by omega
      rw [h.silent hzero, hzero]
      rfl
  exact (congrArg toUnsigned hresult).trans (toUnsigned_natCast (by omega))

theorem Inv.asked_le (h : s.Inv) (dataAvailable : Nat) :
    s.buf.stored + s.asked dataAvailable ≤ s.length.toNat := by
  have hlt := s.length.toNat_lt
  have hfits := h.fits
  have hrest : toUnsigned (s.length.toNat - s.counterRead) = s.length.toNat - s.buf.stored := by
    rw [h.counter, toUnsigned]
    omega
  rw [asked, hrest]
  split <;> omega

theorem Inv.step (h : s.Inv) (hgood : s.Good t) : (s.step t).Inv := by
  rw [DataRead.step]
  split
  case isFalse => exact h
  case isTrue hrun =>
    rw [turn]
    by_cases hdata : t.dataAvailable = 0
    · rw [if_neg (not_not.mpr hdata)]
      exact ⟨h.harmless, h.counter, h.pointer, h.fits, h.silent⟩
    · rw [if_pos hdata]
      obtain ⟨xs, hread⟩ := Option.ne_none_iff_exists'.mp (hgood hrun hdata)
      have hlength := t.fits _ _ hread
      have hfits := h.asked_le t.dataAvailable
      have hstored : (s.pStr + xs.length).toNat = s.buf.stored + xs.length := by
        rw [h.pointer]
        omega
      rw [hread]
      refine ⟨Trace.harmless_move.mpr ⟨h.harmless, Int.natCast_nonneg _⟩, ?_, ?_, ?_, ?_⟩
      all_goals simp only [status, ReadBuf.take, ReadBuf.put, hstored]
      · rw [h.counter, Int.natCast_add]
      · rw [h.pointer, Int.natCast_add]
      · omega
      · omega

theorem good_of_right (hright : (Call.data (s.step t)).Right) : s.Good t := by
  intro hrun hdata hnone
  have hharmless : (s.step t).trace.Harmless := hright.harmless
  rw [DataRead.step, if_pos hrun, turn, if_pos hdata] at hharmless
  have hback := (Trace.harmless_move.mp hharmless).2
  rw [status_nonneg_iff] at hback
  exact hback hnone

end DataRead

-- ---------------------------------------------------------------------------
-- Frames of ALTO
-- ---------------------------------------------------------------------------

section Alto

open Alto Search

variable {r : Reception} {data : List UInt8} {fuel indexEOF : Nat}

def lastLength (copies : List (List UInt8)) (n : Nat) : Nat :=
  (copies.getLast?.map List.length).getD n

theorem drainStep_copied :
    (r.drainStep indexEOF).retValue = lastLength (drainStepCopy r).toList r.retValue := by
  rw [Reception.drainStep, drainStepCopy]
  cases find startFrame r.receivedPacket with
  | none => rfl
  | some indexHeader =>
    dsimp only
    cases find [cr] (r.receivedPacket.drop (indexHeader + startFrame.length)) with
    | none => rfl
    | some indexEOF =>
      dsimp only
      split <;> rfl

theorem lastLength_append {copies copies' : List (List UInt8)} {n : Nat} :
    lastLength (copies ++ copies') n = lastLength copies' (lastLength copies n) := by
  rw [lastLength, lastLength, lastLength, List.getLast?_append]
  cases copies'.getLast? <;> rfl

theorem drain_copied : (drain fuel r).retValue = lastLength (drainCopies fuel r) r.retValue := by
  induction fuel generalizing r with
  | zero => rfl
  | succ fuel ih =>
    rw [drain, drainCopies]
    cases find [cr] r.receivedPacket with
    | none => rfl
    | some indexEOF => exact ih.trans (by rw [drainStep_copied, lastLength_append])

theorem receive_copied {r' : Reception} (h : r.receive data = .ok r') :
    r'.retValue = lastLength (receiveCopies r data) r.retValue := by
  rw [Reception.receive] at h
  rw [receiveCopies]
  cases hheader : find startFrame (r.receivedPacket ++ data.map toCapital) with
  | none =>
    rw [hheader] at h
    obtain rfl := Except.ok.inj h
    rfl
  | some indexHeader =>
    rw [hheader] at h
    dsimp only at h ⊢
    rw [← drain_copied]
    rw [Reception.trim] at h
    split at h
    · split at h
      · cases h
      all_goals
        obtain rfl := Except.ok.inj h
        rfl
    · obtain rfl := Except.ok.inj h
      rfl

namespace AltoRead

variable {s : AltoRead}

structure Inv (s : AltoRead) : Prop where
  harmless : s.trace.Harmless
  bounded : s.reception.Bounded
  honest : ∃ p64Buffer seen, s.reception.Honest p64Buffer seen
  copied : s.reception.retValue = s.stored

theorem Inv.start {timeout : Nat} : (start port timeout).Inv :=
  ⟨Trace.harmless_start, .start, ⟨_, _, .start⟩, rfl⟩

theorem Inv.right (h : s.Inv) : (Call.alto s).Right := by
  obtain ⟨_, _, hhonest⟩ := h.honest
  have hle := hhonest.retValue_le
  have hsize : serialFrameSize = 64 := rfl
  exact ⟨h.harmless, fun _ => (toUnsigned_natCast (by omega)).trans h.copied⟩

theorem reads_of_running (hrun : s.running = true) :
    (Call.alto s).reads t.dataAvailable =
      if t.dataAvailable ≠ 0 then some (askedBytes t.dataAvailable) else none :=
  if_pos hrun

theorem traced_reception : (s.traced t).reception = s.reception := by
  rw [traced]
  split <;> rfl

theorem read_length (hread : t.uartRead (askedBytes t.dataAvailable) = some data) :
    data.length ≤ cmdBuffSize := by
  refine (t.fits _ _ hread).trans ?_
  rw [askedBytes]
  split <;> omega

/-- The packet stays short, and what is delivered is in the text that was read. -/
theorem honest_step {p64Buffer : Memory UInt8} {seen : List UInt8} (hbounded : s.reception.Bounded)
    (hhonest : s.reception.Honest p64Buffer seen) :
    (s.step t).reception.Bounded ∧ (s.step t).reception.Honest p64Buffer
      (seen ++ ((Call.alto s).taken t).map toCapital) := by
  rw [AltoRead.step]
  split
  case isFalse hrun =>
    have hended : (Call.alto s).running = false := Bool.eq_false_iff.mpr hrun
    rw [Call.taken_of_ended hended, List.map_nil, List.append_nil]
    exact ⟨hbounded, hhonest⟩
  case isTrue hrun =>
    rw [Call.taken, reads_of_running hrun, Reception.iteration]
    by_cases hdata : t.dataAvailable = 0
    · rw [if_pos hdata, if_neg (not_not.mpr hdata), Option.bind_none, Option.getD_none,
        List.map_nil, List.append_nil]
      dsimp only
      split
      · exact ⟨⟨hbounded.length_le, hbounded.not_prefix, hbounded.of_cr_mem⟩,
          ⟨hhonest.suffix, hhonest.retValue_le, hhonest.unchanged, hhonest.silent,
            hhonest.delivers⟩⟩
      · exact ⟨hbounded, hhonest⟩
    · rw [if_neg hdata, if_pos hdata, Option.bind_some]
      cases hread : t.uartRead (askedBytes t.dataAvailable) with
      | none =>
        rw [Option.getD_none, List.map_nil, List.append_nil]
        dsimp only
        rw [traced_reception]
        exact ⟨hbounded, hhonest⟩
      | some data =>
        obtain ⟨r, hreceive, hbounded'⟩ := hbounded.receive (read_length hread)
        dsimp only
        rw [hreceive]
        exact ⟨hbounded', hhonest.receive hreceive⟩

theorem Inv.step (h : s.Inv) (hgood : s.Good t) : (s.step t).Inv := by
  obtain ⟨p64Buffer, seen, hhonest⟩ := h.honest
  obtain ⟨hbounded, hhonest'⟩ := honest_step (t := t) h.bounded hhonest
  suffices hstep : (s.step t).trace.Harmless ∧ (s.step t).reception.retValue = (s.step t).stored
    from ⟨hstep.1, hbounded, ⟨_, _, hhonest'⟩, hstep.2⟩
  rw [AltoRead.step]
  split
  case isFalse => exact ⟨h.harmless, h.copied⟩
  case isTrue hrun =>
    rw [Reception.iteration, traced]
    by_cases hdata : t.dataAvailable = 0
    · rw [if_pos hdata, if_neg (not_not.mpr hdata)]
      dsimp only
      split <;> exact ⟨h.harmless, h.copied⟩
    · obtain ⟨data, hread⟩ := Option.ne_none_iff_exists'.mp (hgood hrun hdata)
      obtain ⟨r, hreceive, _⟩ := h.bounded.receive (read_length hread)
      rw [if_neg hdata, if_pos hdata, hread]
      dsimp only
      rw [hreceive]
      constructor
      · exact Trace.harmless_blocks (Trace.harmless_block.mpr ⟨h.harmless, Int.natCast_nonneg _⟩)
      · exact (receive_copied hreceive).trans (by rw [h.copied]; rfl)

theorem good_of_right (hright : (Call.alto (s.step t)).Right) : s.Good t := by
  intro hrun hdata hnone
  have hharmless : (s.step t).trace.Harmless := hright.harmless
  rw [AltoRead.step, if_pos hrun, Reception.iteration, if_neg hdata, hnone, traced,
    if_pos hdata, hnone] at hharmless
  have hnegative := (Trace.harmless_block.mp hharmless).2
  rw [status_nonneg_iff] at hnegative
  exact hnegative rfl

end AltoRead

end Alto

-- ---------------------------------------------------------------------------
-- Frames of AVDS
-- ---------------------------------------------------------------------------

namespace AvdsRead

variable {s : AvdsRead}

/-- The loop ends after this turn. -/
abbrev Over (s : AvdsRead) : Prop := s.timeout = 0 ∨ s.isFinish = true

structure Fine (s : AvdsRead) : Prop where
  harmless : s.trace.Harmless
  stored : s.Over → toUnsigned s.result = s.buf.stored

inductive Stage (s : AvdsRead) : Prop
  | preamble1 (hstate : s.state = .preamble1) (hcounter : s.counterRead = 0)
      (hstored : s.buf.stored ≤ 1) (hfirst : s.timeout = 0 → s.buf.stored = 0)
      (hret : -1 ≤ s.retValue ∧ s.retValue ≤ 1)
  | preamble2 (hstate : s.state = .preamble2) (htimeout : s.timeout ≠ 0)
      (hcounter : s.counterRead = 1) (hstored : s.buf.stored = 1)
  | packetLength (hstate : s.state = .packetLength) (htimeout : s.timeout ≠ 0)
      (hcounter : s.counterRead = 2) (hstored : s.buf.stored = 2)
  | payload (hstate : s.state = .payload) (htimeout : s.timeout ≠ 0)
      (hcounter : s.counterRead = 4 + s.payloadLength) (hstored : s.buf.stored = 4)
      (hpointer : s.payloadRx = s.payloadLength) (hroom : s.payloadLength < s.packetLength)
      (hsmall : s.packetLength < 66) (hpayload : s.pPayload.isSome = true)
  | finish (hstate : s.state = .finish) (htimeout : s.timeout ≠ 0)
      (hcounter : s.counterRead = 4 + s.payloadLength) (hstored : s.buf.stored = 4)
      (hroom : s.payloadLength ≤ s.packetLength) (hsmall : s.packetLength < 66)

theorem singleton_of_read (hread : t.uartRead 1 = some xs) (hne : xs ≠ []) : ∃ b, xs = [b] := by
  have hlength := t.fits _ _ hread
  obtain ⟨b, ys, rfl⟩ := List.exists_cons_of_ne_nil hne
  rw [List.length_cons] at hlength
  exact ⟨b, by rw [List.length_eq_zero_iff.mp (by omega : ys.length = 0)]⟩

theorem result_of_counter (h : s.counterRead = k) (hpos : 0 < k) : s.result = k := by
  rw [result, if_pos (by omega), h]

theorem result_of_zero (h : s.counterRead = 0) : s.result = s.retValue := if_neg (not_not.mpr h)

theorem not_over (htimeout : s.timeout ≠ 0) (hf : s.isFinish = false) : ¬s.Over := by
  rintro (hzero | hfinish)
  · exact htimeout hzero
  · exact Bool.false_ne_true (hf.symm.trans hfinish)

theorem Fine.count_of_zero (h : s.Fine) (hover : s.Over) (hcounter : s.counterRead = 0) :
    toUnsigned s.retValue = s.buf.stored := by
  rw [← result_of_zero hcounter]
  exact h.stored hover

theorem Fine.of_counter (hh : s.trace.Harmless) (hcounter : s.counterRead = k)
    (hstored : s.buf.stored = k) (hpos : 0 < k) (hlt : k < 2 ^ 32) : s.Fine := by
  refine ⟨hh, fun _ => ?_⟩
  rw [result_of_counter hcounter hpos, hstored]
  exact toUnsigned_natCast hlt

theorem Fine.count_of_counter (h : s.Fine) (hover : s.Over) (hcounter : s.counterRead = k)
    (hpos : 0 < k) (hlt : k < 2 ^ 32) : s.buf.stored = k := by
  have hcount := h.stored hover
  rw [result_of_counter hcounter hpos, toUnsigned_natCast hlt] at hcount
  exact hcount.symm

theorem Fine.of_not_over (hh : s.trace.Harmless) (hover : ¬s.Over) : s.Fine :=
  ⟨hh, fun h => absurd h hover⟩

theorem idle_fine_iff (hcounter : s.counterRead = 0) (hstored : s.buf.stored ≤ 1)
    (hret : -1 ≤ s.retValue ∧ s.retValue ≤ 1) (hh : s.trace.Harmless) (hf : s.isFinish = false) :
    s.idle.Fine ↔ (s.timeout ≤ 1 → s.retValue = s.buf.stored) := by
  constructor
  · intro hfine hlast
    have hcount : toUnsigned s.retValue = s.buf.stored :=
      hfine.count_of_zero (.inl (Nat.sub_eq_zero_of_le hlast)) hcounter
    rw [toUnsigned] at hcount
    omega
  · intro hgood
    refine ⟨hh, ?_⟩
    rintro (hzero | hfinish)
    · rw [result_of_zero (s := s.idle) hcounter]
      refine (congrArg toUnsigned (hgood (Nat.le_of_sub_eq_zero hzero))).trans ?_
      exact toUnsigned_natCast (by omega)
    · exact absurd (hf.symm.trans hfinish) Bool.false_ne_true

theorem matchPreamble1_trace {byte : UInt8} : (s.matchPreamble1 byte).trace = s.trace := by
  rw [matchPreamble1]
  split <;> rfl

theorem matchPreamble1_fine_iff {byte : UInt8} (hcounter : s.counterRead = 0)
    (hret : s.retValue = 1) (hfirst : s.timeout = 0 → s.buf.stored = 0) (hh : s.trace.Harmless)
    (hf : s.isFinish = false) :
    (s.matchPreamble1 byte).Fine ↔ (s.timeout = 0 → byte = rxPreamble1) := by
  rw [matchPreamble1]
  split
  case isTrue hbyte => exact iff_of_true ⟨hh, fun _ => rfl⟩ fun _ => hbyte
  case isFalse hbyte =>
    constructor
    · intro hfine hzero
      have hcount := hfine.count_of_zero (.inl hzero) hcounter
      rw [hret, hfirst hzero] at hcount
      exact absurd hcount (by decide)
    · intro hgood
      by_cases hzero : s.timeout = 0
      · exact absurd (hgood hzero) hbyte
      · exact .of_not_over hh (not_over hzero hf)

theorem preamble1_fine_iff (hcounter : s.counterRead = 0) (hstored : s.buf.stored ≤ 1)
    (hfirst : s.timeout = 0 → s.buf.stored = 0) (hret : -1 ≤ s.retValue ∧ s.retValue ≤ 1)
    (hh : s.trace.Harmless) (hf : s.isFinish = false) :
    (s.preamble1 t).Fine ↔ s.Preamble1Good t := by
  rw [preamble1, Preamble1Good]
  by_cases hdata : t.dataAvailable = 0
  · rw [if_neg (not_not.mpr hdata), if_neg (not_not.mpr hdata)]
    exact idle_fine_iff hcounter hstored hret hh hf
  · rw [if_pos hdata, if_pos hdata]
    cases hread : t.uartRead 1 with
    | none =>
      constructor
      · refine fun hfine => ⟨by simp, fun hzero => ?_⟩
        have hcount : toUnsigned (-1) = s.buf.stored := hfine.count_of_zero (.inl hzero) hcounter
        exact absurd (hcount.trans (hfirst hzero)) (by decide)
      · rintro ⟨_, hgood⟩
        by_cases hzero : s.timeout = 0
        · cases hgood hzero
        · exact .of_not_over hh (not_over hzero hf)
    | some xs =>
      by_cases hempty : xs = []
      · subst hempty
        refine iff_of_false (fun hfine => ?_) fun hgood => hgood.1 rfl
        have hharmless := hfine.harmless
        dsimp only at hharmless
        rw [matchPreamble1_trace] at hharmless
        exact absurd (Trace.harmless_interpret.mp hharmless).2 (by decide)
      · obtain ⟨b, rfl⟩ := singleton_of_read hread hempty
        have hh' : (s.trace.interpret 1 [b]).Harmless := Trace.harmless_interpret.mpr ⟨hh, le_rfl⟩
        have hfine := @matchPreamble1_fine_iff
          (AvdsRead.takePreamble { s with retValue := status (some [b]) } [b]) b
        refine (hfine hcounter rfl hfirst hh' hf).trans ?_
        simp [takePreamble]

theorem preamble1_stage (hstate : s.state = .preamble1) (hcounter : s.counterRead = 0)
    (hstored : s.buf.stored ≤ 1) (hret : -1 ≤ s.retValue ∧ s.retValue ≤ 1)
    (hgood : s.Preamble1Good t) (hover : ¬(s.preamble1 t).Over) : (s.preamble1 t).Stage := by
  rw [preamble1] at hover ⊢
  rw [Preamble1Good] at hgood
  by_cases hdata : t.dataAvailable = 0
  · rw [if_neg (not_not.mpr hdata)] at hover ⊢
    exact .preamble1 hstate hcounter hstored (fun hzero => absurd (.inl hzero) hover) hret
  · rw [if_pos hdata] at hover hgood ⊢
    cases hread : t.uartRead 1 with
    | none =>
      rw [hread] at hover
      exact .preamble1 hstate hcounter hstored (fun hzero => absurd (.inl hzero) hover)
        (by simp [status])
    | some xs =>
      obtain ⟨b, rfl⟩ := singleton_of_read hread fun hempty => hgood.1 (by rw [hread, hempty])
      rw [hread] at hover
      dsimp only [takePreamble, List.headD_cons] at hover ⊢
      rw [matchPreamble1] at hover ⊢
      split
      case isTrue hb =>
        rw [if_pos hb] at hover
        exact .preamble2 rfl (fun hzero => hover (.inl hzero)) rfl rfl
      case isFalse hb =>
        rw [if_neg hb] at hover
        exact .preamble1 hstate hcounter hstored (fun hzero => absurd (.inl hzero) hover)
          (by simp [status])

theorem matchPreamble2_trace {byte : UInt8} : (s.matchPreamble2 byte).trace = s.trace := by
  rw [matchPreamble2]
  split <;> rfl

theorem preamble2_fine_iff (htimeout : s.timeout ≠ 0) (hcounter : s.counterRead = 1)
    (hstored : s.buf.stored = 1) (hh : s.trace.Harmless) (hf : s.isFinish = false) :
    (s.preamble2 t).Fine ↔ Preamble2Good t := by
  rw [preamble2, Preamble2Good]
  by_cases hdata : t.dataAvailable = 0
  · rw [if_neg (not_not.mpr hdata)]
    have hfine : s.idle.Fine := .of_counter hh hcounter hstored Nat.one_pos (by decide)
    exact iff_of_true hfine fun hne => absurd hdata hne
  · rw [if_pos hdata]
    cases hread : t.uartRead 1 with
    | none => exact iff_of_true (.of_not_over hh (not_over htimeout hf)) fun _ => by simp
    | some xs =>
      by_cases hempty : xs = []
      · subst hempty
        refine iff_of_false (fun hfine => ?_) fun hgood => hgood hdata rfl
        have hharmless := hfine.harmless
        dsimp only at hharmless
        rw [matchPreamble2_trace] at hharmless
        exact absurd (Trace.harmless_interpret.mp hharmless).2 (by decide)
      · obtain ⟨b, rfl⟩ := singleton_of_read hread hempty
        have hh' : (s.trace.interpret 1 [b]).Harmless := Trace.harmless_interpret.mpr ⟨hh, le_rfl⟩
        refine iff_of_true ?_ fun _ => by simp
        dsimp only [takePreamble, List.headD_cons]
        rw [matchPreamble2]
        split <;> exact .of_not_over hh' (not_over htimeout hf)

theorem preamble2_stage (hstate : s.state = .preamble2) (htimeout : s.timeout ≠ 0)
    (hcounter : s.counterRead = 1) (hstored : s.buf.stored = 1) (hgood : Preamble2Good t)
    (hover : ¬(s.preamble2 t).Over) : (s.preamble2 t).Stage := by
  rw [preamble2] at hover ⊢
  rw [Preamble2Good] at hgood
  by_cases hdata : t.dataAvailable = 0
  · rw [if_neg (not_not.mpr hdata)] at hover ⊢
    exact .preamble2 hstate (fun hzero => hover (.inl hzero)) hcounter hstored
  · rw [if_pos hdata]
    cases hread : t.uartRead 1 with
    | none => exact .preamble2 hstate htimeout hcounter hstored
    | some xs =>
      obtain ⟨b, rfl⟩ := singleton_of_read hread fun hempty => hgood hdata (by rw [hread, hempty])
      dsimp only [takePreamble, List.headD_cons]
      rw [matchPreamble2]
      split
      case isTrue => exact .packetLength rfl htimeout rfl rfl
      case isFalse =>
        exact .preamble1 rfl rfl hstored.le (fun hzero => absurd hzero htimeout) (by simp [status])

theorem takeField_trace {hi lo : UInt8} : (s.takeField hi lo).trace = s.trace := by
  rw [takeField]
  split
  · dsimp only
    split <;> rfl
  · rfl

theorem takeField_fine_iff {hi lo : UInt8} (htimeout : s.timeout ≠ 0) (hstored : s.buf.stored = 2)
    (hh : s.trace.Harmless) (hf : s.isFinish = false) :
    (s.takeField hi lo).Fine ↔ lengthField hi lo < rxMaxPayloadSize := by
  rw [takeField]
  split
  case isTrue hsmall =>
    refine iff_of_true ?_ hsmall
    dsimp only
    split
    · exact .of_not_over hh (not_over htimeout hf)
    · exact .of_counter hh rfl rfl (by decide) (by decide)
  case isFalse hlarge =>
    -- the counter has the length field, which has not been stored
    refine iff_of_false (fun hfine => ?_) hlarge
    have hcount : s.buf.stored = 4 := hfine.count_of_counter (.inr rfl) rfl (by decide) (by decide)
    exact absurd (hstored.symm.trans hcount) (by decide)

theorem takeLength_fine_iff (htimeout : s.timeout ≠ 0) (hstored : s.buf.stored = 2)
    (hh : s.trace.Harmless) (hf : s.isFinish = false) (hread : t.uartRead 2 = some xs) :
    (s.takeLength xs).Fine ↔ ∃ hi lo, xs = [hi, lo] ∧ lengthField hi lo < rxMaxPayloadSize := by
  have hfits := t.fits _ _ hread
  rw [takeLength]
  by_cases hshort : xs.length < 2
  · refine iff_of_false (fun hfine => ?_) ?_
    · have hharmless := hfine.harmless
      rw [takeField_trace] at hharmless
      exact absurd (Trace.harmless_interpret.mp hharmless).2 (Nat.not_le.mpr hshort)
    · rintro ⟨hi, lo, rfl, _⟩
      exact absurd hshort (by simp)
  · obtain ⟨hi, lo, rfl⟩ := List.length_eq_two.mp (by omega : xs.length = 2)
    have hh' : (s.trace.interpret 2 [hi, lo]).Harmless := Trace.harmless_interpret.mpr ⟨hh, le_rfl⟩
    have hfine := @takeField_fine_iff { s with trace := s.trace.interpret 2 [hi, lo] } hi lo
    refine (hfine htimeout hstored hh' hf).trans ?_
    simp

theorem lengthState_fine_iff (htimeout : s.timeout ≠ 0) (hcounter : s.counterRead = 2)
    (hstored : s.buf.stored = 2) (hh : s.trace.Harmless) (hf : s.isFinish = false) :
    (s.lengthState t).Fine ↔ LengthGood t := by
  rw [lengthState, LengthGood]
  by_cases hdata : t.dataAvailable = 0
  · rw [if_neg (not_not.mpr hdata)]
    refine iff_of_true ?_ fun htwo => by omega
    dsimp only
    split <;> exact .of_counter hh hcounter hstored (by decide) (by decide)
  · rw [if_pos hdata]
    by_cases htwo : 2 ≤ t.dataAvailable
    · rw [if_pos htwo]
      simp only [htwo, forall_const]
      cases hread : t.uartRead 2 with
      | none => exact iff_of_true (.of_not_over hh (not_over htimeout hf)) fun _ h => by cases h
      | some xs =>
        have hfine := @takeLength_fine_iff t xs { s with retValue := status (some xs) }
        refine (hfine htimeout hstored hh hf hread).trans ?_
        simp
    · rw [if_neg htwo]
      exact iff_of_true (.of_counter hh hcounter hstored (by decide) (by decide))
        fun h => absurd h htwo

theorem takeField_stage {hi lo : UInt8} (htimeout : s.timeout ≠ 0)
    (hsmall : lengthField hi lo < rxMaxPayloadSize) (hover : ¬(s.takeField hi lo).Over) :
    (s.takeField hi lo).Stage := by
  have hlength : lengthField hi lo + 2 < 66 := Nat.add_lt_add_right hsmall 2
  rw [takeField, if_pos hsmall] at hover ⊢
  dsimp only at hover ⊢
  cases halloc : s.memoryAlloc (lengthField hi lo + 2) with
  | some payload => exact .payload rfl htimeout rfl rfl rfl (Nat.zero_lt_succ _) hlength rfl
  | none =>
    rw [halloc] at hover
    exact absurd (.inr rfl) hover

theorem lengthState_stage (hstate : s.state = .packetLength) (htimeout : s.timeout ≠ 0)
    (hcounter : s.counterRead = 2) (hstored : s.buf.stored = 2) (hgood : LengthGood t)
    (hover : ¬(s.lengthState t).Over) : (s.lengthState t).Stage := by
  rw [lengthState] at hover ⊢
  by_cases hdata : t.dataAvailable = 0
  · rw [if_neg (not_not.mpr hdata)] at hover ⊢
    dsimp only at hover ⊢
    split
    case isTrue hzero =>
      rw [if_pos hzero] at hover
      exact absurd (.inl hzero) hover
    case isFalse hgoing => exact .packetLength hstate hgoing hcounter hstored
  · rw [if_pos hdata] at hover ⊢
    by_cases htwo : 2 ≤ t.dataAvailable
    · rw [if_pos htwo] at hover ⊢
      cases hread : t.uartRead 2 with
      | none => exact .packetLength hstate htimeout hcounter hstored
      | some xs =>
        obtain ⟨hi, lo, rfl, hsmall⟩ := hgood htwo xs hread
        rw [hread] at hover
        dsimp only [takeLength, List.getElem?_cons_zero, List.getElem?_cons_succ,
          Option.getD_some] at hover ⊢
        exact takeField_stage htimeout hsmall hover
    · rw [if_neg htwo] at hover ⊢
      exact .packetLength hstate (fun hzero => hover (.inl hzero)) hcounter hstored

theorem asked_eq (hpointer : s.payloadRx = s.payloadLength)
    (hroom : s.payloadLength < s.packetLength) (hsmall : s.packetLength < 66)
    (dataAvailable : Nat) :
    s.asked dataAvailable = min dataAvailable (s.packetLength - s.payloadLength) := by
  have hrest : toUnsigned ((s.packetLength : Int) - s.payloadLength) =
      s.packetLength - s.payloadLength := by
    rw [toUnsigned]
    omega
  rw [asked, hrest]
  by_cases hless : dataAvailable < s.packetLength - s.payloadLength
  · rw [if_pos (by omega), if_pos (by omega), Nat.min_eq_left hless.le]
  · rw [if_neg (by omega), Nat.min_eq_right (Nat.not_lt.mp hless)]

theorem payloadState_data (hpointer : s.payloadRx = s.payloadLength)
    (hroom : s.payloadLength < s.packetLength) (hdata : t.dataAvailable ≠ 0) :
    s.payloadState t =
      if t.dataAvailable < s.packetLength - s.payloadLength then
        s.readPayload t (s.asked t.dataAvailable)
      else { s.readPayload t (s.asked t.dataAvailable) with state := .finish } := by
  rw [payloadState, if_pos hdata]
  exact if_congr (by omega) rfl rfl

theorem readPayload_counts {n : Nat} (hread : t.uartRead n = some xs)
    (hlt : s.payloadLength + xs.length < 2 ^ 16) :
    (s.readPayload t n).payloadLength = s.payloadLength + xs.length ∧
      (s.readPayload t n).counterRead = s.counterRead + xs.length ∧
      (s.readPayload t n).payloadRx = s.payloadRx + xs.length := by
  rw [readPayload, hread]
  refine ⟨?_, rfl, rfl⟩
  simp only [status]
  omega

theorem copyWithin_timeout {n : Nat} : (s.copyWithin n).timeout = s.timeout := by
  rw [copyWithin]
  split <;> rfl

theorem copyWithin_harmless {n : Nat} (hh : s.trace.Harmless) :
    (s.copyWithin n).trace.Harmless := by
  rw [copyWithin]
  split
  · exact Trace.harmless_block.mpr ⟨hh, Int.natCast_nonneg _⟩
  · exact hh

theorem copyWithin_count_iff {n : Nat} (hcounter : s.counterRead = 4 + s.payloadLength)
    (hstored : s.buf.stored = 4) (hlt : s.payloadLength < 66) :
    toUnsigned (s.copyWithin n).result = (s.copyWithin n).buf.stored ↔
      s.payloadLength = 0 ∨ n + 4 ≤ s.length.toNat := by
  have hcount : (s.copyWithin n).counterRead = (4 + s.payloadLength : Nat) := by
    rw [copyWithin, Int.natCast_add]
    split <;> exact hcounter
  rw [result_of_counter hcount (by omega), toUnsigned_natCast (by omega), copyWithin]
  by_cases hfits : n + 4 ≤ s.length.toNat
  · rw [if_pos hfits]
    refine iff_of_true ?_ (.inr hfits)
    simp only [copyPayload, ReadBuf.put, Memory.read_length]
    omega
  · rw [if_neg hfits, hstored]
    omega

theorem payloadState_fine_iff (htimeout : s.timeout ≠ 0)
    (hcounter : s.counterRead = 4 + s.payloadLength) (hstored : s.buf.stored = 4)
    (hpointer : s.payloadRx = s.payloadLength) (hroom : s.payloadLength < s.packetLength)
    (hsmall : s.packetLength < 66) (hpayload : s.pPayload.isSome = true)
    (hh : s.trace.Harmless) (hf : s.isFinish = false) :
    (s.payloadState t).Fine ↔ s.PayloadGood t := by
  rw [PayloadGood]
  by_cases hdata : t.dataAvailable = 0
  · rw [payloadState, if_neg (not_not.mpr hdata), if_neg (not_not.mpr hdata)]
    have hsome : s.sleep.pPayload.isSome = true := hpayload
    dsimp only
    by_cases hlast : s.timeout = 1
    · have hzero : s.sleep.timeout = 0 := congrArg (· - 1) hlast
      have hcount := copyWithin_count_iff (n := s.payloadLength) (s := s.sleep) hcounter hstored
        (hroom.trans hsmall)
      rw [if_pos (by simp [hsome, hzero])]
      simp only [hlast, forall_const]
      refine Iff.trans ?_ hcount
      have hover : (s.sleep.copyWithin s.payloadLength).timeout = 0 :=
        copyWithin_timeout.trans hzero
      exact ⟨fun hfine => hfine.stored (.inl hover), fun h => ⟨copyWithin_harmless hh, fun _ => h⟩⟩
    · have hgoing : s.sleep.timeout ≠ 0 := by
        have : s.sleep.timeout = s.timeout - 1 := rfl
        omega
      rw [if_neg (by simp [hgoing])]
      exact iff_of_true (.of_not_over hh (not_over hgoing hf)) fun h => absurd h hlast
  · rw [payloadState_data hpointer hroom hdata, if_pos hdata]
    generalize s.asked t.dataAvailable = n
    have htrace : (s.readPayload t n).trace.Harmless ↔ t.uartRead n ≠ none := by
      rw [← status_nonneg_iff]
      exact Trace.harmless_move.trans (and_iff_right hh)
    have hgoing : ¬(s.readPayload t n).Over := not_over htimeout hf
    rw [← htrace]
    split
    · exact ⟨fun hfine => hfine.harmless, fun h => .of_not_over h hgoing⟩
    · exact ⟨fun hfine => hfine.harmless, fun h => .of_not_over h hgoing⟩

theorem payloadState_stage (hstate : s.state = .payload) (htimeout : s.timeout ≠ 0)
    (hcounter : s.counterRead = 4 + s.payloadLength) (hstored : s.buf.stored = 4)
    (hpointer : s.payloadRx = s.payloadLength) (hroom : s.payloadLength < s.packetLength)
    (hsmall : s.packetLength < 66) (hpayload : s.pPayload.isSome = true)
    (hgood : s.PayloadGood t) (hover : ¬(s.payloadState t).Over) : (s.payloadState t).Stage := by
  rw [PayloadGood] at hgood
  by_cases hdata : t.dataAvailable = 0
  · rw [payloadState, if_neg (not_not.mpr hdata)] at hover ⊢
    dsimp only at hover ⊢
    by_cases hzero : s.sleep.timeout = 0
    · have hsome : s.sleep.pPayload.isSome = true := hpayload
      rw [if_pos (by simp [hsome, hzero])] at hover
      exact absurd (.inl (copyWithin_timeout.trans hzero)) hover
    · rw [if_neg (by simp [hzero])]
      exact .payload hstate hzero hcounter hstored hpointer hroom hsmall hpayload
  · rw [if_pos hdata] at hgood
    rw [payloadState_data hpointer hroom hdata]
    obtain ⟨xs, hread⟩ := Option.ne_none_iff_exists'.mp hgood
    have hfits := t.fits _ _ hread
    have hn := asked_eq hpointer hroom hsmall t.dataAvailable
    generalize s.asked t.dataAvailable = n at hread hfits hn ⊢
    obtain ⟨hlength, hcount, hrx⟩ := readPayload_counts (s := s) hread (by omega)
    have hcounter' : (s.readPayload t n).counterRead = 4 + (s.readPayload t n).payloadLength := by
      rw [hcount, hlength, hcounter, Int.natCast_add, Int.add_assoc]
    have hpointer' : (s.readPayload t n).payloadRx = (s.readPayload t n).payloadLength := by
      rw [hrx, hlength, hpointer, Int.natCast_add]
    have hpacket : (s.readPayload t n).packetLength = s.packetLength := rfl
    split
    case isTrue hless =>
      refine .payload hstate htimeout hcounter' hstored hpointer' ?_ hsmall ?_
      · omega
      · exact (Option.isSome_map ..).trans hpayload
    case isFalse hfull =>
      refine .finish rfl htimeout hcounter' hstored ?_ hsmall
      exact (show (s.readPayload t n).payloadLength ≤ s.packetLength by omega)

theorem finishState_fine_iff (hcounter : s.counterRead = 4 + s.payloadLength)
    (hstored : s.buf.stored = 4) (hroom : s.payloadLength ≤ s.packetLength)
    (hsmall : s.packetLength < 66) (hh : s.trace.Harmless) :
    s.finishState.Fine ↔ s.FinishGood := by
  have hcount := copyWithin_count_iff (n := s.packetLength) hcounter hstored
    (hroom.trans_lt hsmall)
  rw [finishState, FinishGood]
  refine Iff.trans ?_ hcount
  exact ⟨fun hfine => hfine.stored (.inr rfl), fun h => ⟨copyWithin_harmless hh, fun _ => h⟩⟩

structure Inv (s : AvdsRead) : Prop where
  right : (Call.avds s).Right
  going : s.running = true → s.isFinish = false ∧ s.Stage

theorem Inv.start {length : UInt32} {timeout : Nat} : (start port length timeout).Inv := by
  refine ⟨⟨Trace.harmless_start, fun _ => rfl⟩, fun _ => ⟨rfl, ?_⟩⟩
  exact .preamble1 rfl rfl (Nat.zero_le 1) (fun _ => rfl) ⟨(by decide : (-1 : Int) ≤ 0), Int.zero_le_ofNat 1⟩

theorem Stage.ran (h : s.Stage) (running : Bool) : Stage { s with running := running } := by
  cases h with
  | preamble1 hstate hcounter hstored hfirst hret =>
    exact .preamble1 hstate hcounter hstored hfirst hret
  | preamble2 hstate htimeout hcounter hstored => exact .preamble2 hstate htimeout hcounter hstored
  | packetLength hstate htimeout hcounter hstored =>
    exact .packetLength hstate htimeout hcounter hstored
  | payload hstate htimeout hcounter hstored hpointer hroom hsmall hpayload =>
    exact .payload hstate htimeout hcounter hstored hpointer hroom hsmall hpayload
  | finish hstate htimeout hcounter hstored hroom hsmall =>
    exact .finish hstate htimeout hcounter hstored hroom hsmall

theorem Inv.turn_fine_iff (h : s.Inv) (hrun : s.running = true) :
    (s.turn t).Fine ↔ s.Good t := by
  have hh : s.trace.Harmless := h.right.harmless
  obtain ⟨hf, hstage⟩ := h.going hrun
  rw [Good, turn]
  simp only [hrun, forall_const]
  cases hstage with
  | preamble1 hstate hcounter hstored hfirst hret =>
    rw [hstate]
    exact preamble1_fine_iff hcounter hstored hfirst hret hh hf
  | preamble2 hstate htimeout hcounter hstored =>
    rw [hstate]
    exact preamble2_fine_iff htimeout hcounter hstored hh hf
  | packetLength hstate htimeout hcounter hstored =>
    rw [hstate]
    exact lengthState_fine_iff htimeout hcounter hstored hh hf
  | payload hstate htimeout hcounter hstored hpointer hroom hsmall hpayload =>
    rw [hstate]
    exact payloadState_fine_iff htimeout hcounter hstored hpointer hroom hsmall hpayload hh hf
  | finish hstate htimeout hcounter hstored hroom hsmall =>
    rw [hstate]
    exact finishState_fine_iff hcounter hstored hroom hsmall hh

theorem Inv.turn_stage (h : s.Inv) (hrun : s.running = true) (hgood : s.Good t)
    (hover : ¬(s.turn t).Over) : (s.turn t).Stage := by
  have hgood' := hgood hrun
  rw [turn] at hover ⊢
  cases (h.going hrun).2 with
  | preamble1 hstate hcounter hstored hfirst hret =>
    rw [hstate] at hover hgood' ⊢
    exact preamble1_stage hstate hcounter hstored hret hgood' hover
  | preamble2 hstate htimeout hcounter hstored =>
    rw [hstate] at hover hgood' ⊢
    exact preamble2_stage hstate htimeout hcounter hstored hgood' hover
  | packetLength hstate htimeout hcounter hstored =>
    rw [hstate] at hover hgood' ⊢
    exact lengthState_stage hstate htimeout hcounter hstored hgood' hover
  | payload hstate htimeout hcounter hstored hpointer hroom hsmall hpayload =>
    rw [hstate] at hover hgood' ⊢
    exact payloadState_stage hstate htimeout hcounter hstored hpointer hroom hsmall hpayload hgood'
      hover
  | finish hstate =>
    rw [hstate] at hover
    exact absurd (.inr rfl) hover

theorem ended_iff : (s.timeout ≠ 0 && !s.isFinish) = false ↔ s.Over := by
  rw [Bool.and_eq_false_iff, decide_eq_false_iff_not, not_not, Bool.not_eq_false']

theorem Inv.right_step_iff (h : s.Inv) : (Call.avds (s.step t)).Right ↔ s.Good t := by
  rw [step]
  split
  case isFalse hrun => exact iff_of_true h.right fun hrun' => absurd hrun' hrun
  case isTrue hrun =>
    rw [← h.turn_fine_iff hrun]
    exact ⟨fun hright => ⟨hright.harmless, fun hover => hright.stored (ended_iff.mpr hover)⟩,
      fun hfine => ⟨hfine.harmless, fun hended => hfine.stored (ended_iff.mp hended)⟩⟩

theorem Inv.step (h : s.Inv) (hgood : s.Good t) : (s.step t).Inv := by
  refine ⟨h.right_step_iff.mpr hgood, ?_⟩
  rw [AvdsRead.step]
  split
  case isFalse => exact h.going
  case isTrue hrun =>
    intro hnext
    have hover : ¬(s.turn t).Over := by
      rw [← ended_iff]
      exact Bool.eq_false_iff.not_left.mpr hnext
    exact ⟨by simpa using fun hfinish => hover (.inr hfinish), (h.turn_stage hrun hgood hover).ran _⟩

end AvdsRead

-- ---------------------------------------------------------------------------
-- Transfers
-- ---------------------------------------------------------------------------

def Call.Inv : Call → Prop
  | .simple s => (Call.simple s).Right ∧ (s.running = true → s.buf.stored = 0)
  | .data s => s.Inv
  | .alto s => s.Inv
  | .avds s => s.Inv

namespace Call

variable {c : Call}

theorem Inv.right (h : c.Inv) : c.Right := by
  cases c with
  | simple s => exact h.1
  | data s => exact DataRead.Inv.right h
  | alto s => exact AltoRead.Inv.right h
  | avds s => exact AvdsRead.Inv.right h

theorem Inv.step (h : c.Inv) (hgood : c.Good t) : (c.step t).Inv := by
  cases c with
  | simple s =>
    refine ⟨(SimpleRead.right_step_iff h.1 h.2).mpr hgood, ?_⟩
    rw [SimpleRead.step]
    split
    case isTrue => exact fun hrun => absurd hrun Bool.false_ne_true
    case isFalse => exact h.2
  | data s => exact DataRead.Inv.step h hgood
  | alto s => exact AltoRead.Inv.step h hgood
  | avds s => exact AvdsRead.Inv.step h hgood

theorem good_of_right (h : c.Inv) (hright : (c.step t).Right) : c.Good t := by
  cases c with
  | simple s => exact (SimpleRead.right_step_iff h.1 h.2).mp hright
  | data s => exact DataRead.good_of_right hright
  | alto s => exact AltoRead.good_of_right hright
  | avds s => exact (AvdsRead.Inv.right_step_iff h).mp hright

theorem right_step_iff (h : c.Inv) : (c.step t).Right ↔ c.Good t :=
  ⟨good_of_right h, fun hgood => (h.step hgood).right⟩

theorem always_right_iff (h : c.Inv) :
    Always step Right c turns ↔ Along step Good c turns :=
  always_iff_along h (fun _ _ h hgood => h.step hgood) (fun _ h => h.right)
    fun _ _ h => right_step_iff h

theorem Inv.start {routine : Routine} {length : UInt32} {timeout : Nat} :
    (routine.call port length timeout).Inv := by
  cases routine with
  | receiveDataSimple => exact ⟨⟨Trace.harmless_start, fun _ => rfl⟩, fun _ => rfl⟩
  | receiveData => exact DataRead.Inv.start
  | receiveALTOFrame => exact AltoRead.Inv.start
  | receiveAVDSFrameData => exact AvdsRead.Inv.start

end Call

namespace Transfer

variable {s : Transfer} {c : Call}

theorem readCount_of_ret (h : s.call = some c) (hret : s.ret = true) :
    s.readCount = s.transaction.readCount.toNat := by
  rw [ret, h] at hret
  split at hret
  · cases hret
  · simpa using (Bool.and_eq_true_iff.mp hret).2

theorem right_iff_of_call (h : s.call = some c) : s.Right ↔ c.Right := by
  have hrunning : s.running = c.running := by rw [running, h, Option.any_some]
  have hcount : s.readCount = toUnsigned c.result := by rw [readCount, h]
  have hstored : s.stored = c.stored := by rw [stored, h]
  have htrace : s.trace = c.trace := by rw [trace, h]
  constructor
  · rintro ⟨hharmless, hequal, _⟩
    rw [htrace] at hharmless
    rw [hrunning, hcount, hstored] at hequal
    exact ⟨hharmless, hequal⟩
  · rintro ⟨hharmless, hequal⟩
    exact ⟨by rwa [htrace], by rwa [hrunning, hcount, hstored], fun _ => readCount_of_ret h⟩

theorem right_iff_of_none (h : s.call = none) : s.Right ↔ s.transaction.readCount = 0 := by
  have hrunning : s.running = false := by rw [running, h, Option.any_none]
  have hcount : s.readCount = s.transaction.readCount.toNat := by rw [readCount, h]
  have hstored : s.stored = 0 := by rw [stored, h]
  have htrace : s.trace = .start := by rw [trace, h]
  rw [← UInt32.toNat_inj]
  constructor
  · intro hright
    exact hcount.symm.trans ((hright.stored hrunning).trans hstored)
  · intro hzero
    refine ⟨htrace ▸ Trace.harmless_start, fun _ => ?_, fun _ _ => hcount⟩
    exact hcount.trans (hzero.trans hstored.symm)

def Inv (s : Transfer) : Prop :=
  match s.call with
  | some c => c.Inv
  | none => s.transaction.readCount = 0

theorem Inv.right (h : s.Inv) : s.Right := by
  rw [Inv] at h
  cases hcall : s.call with
  | some c => exact (right_iff_of_call hcall).mpr (Call.Inv.right (by rwa [hcall] at h))
  | none => exact (right_iff_of_none hcall).mpr (by rwa [hcall] at h)

theorem Inv.step (h : s.Inv) (hgood : s.Good t) : (s.step t).Inv := by
  rw [Inv] at h ⊢
  rw [Transfer.step]
  cases hcall : s.call with
  | some c =>
    rw [hcall] at h
    exact Call.Inv.step h (hgood c hcall)
  | none =>
    rw [hcall] at h
    exact h

theorem Inv.right_step_iff (h : s.Inv) : (s.step t).Right ↔ s.Good t := by
  refine ⟨fun hright c hcall => ?_, fun hgood => (h.step hgood).right⟩
  rw [Inv, hcall] at h
  have hnext : (s.step t).call = some (c.step t) := by rw [Transfer.step, hcall, Option.map_some]
  exact Call.good_of_right h ((right_iff_of_call hnext).mp hright)

end Transfer

/-- Errors of the UART do no harm, and the transaction gets the count of what is in the
buffer, exactly where every turn is a good one. A transaction for which no routine is
called must not have asked for anything. -/
theorem reads_harmless_iff (transaction : Transaction) (written : UInt32) (port : Port)
    (turns : List Turn) :
    (Always Transfer.step Transfer.Right (.start transaction written port) turns ↔
      (transaction.routine = none → transaction.readCount = 0) ∧
        Along Transfer.step Transfer.Good (.start transaction written port) turns) ∧
    ∀ (routine : Routine) (length : UInt32) (timeout : Nat),
      Always Call.step Call.Right (routine.call port length timeout) turns ↔
        Along Call.step Call.Good (routine.call port length timeout) turns := by
  refine ⟨?_, fun routine length timeout => Call.always_right_iff .start⟩
  by_cases hasked : transaction.routine = none → transaction.readCount = 0
  · have hstart : (Transfer.start transaction written port).Inv := by
      rw [Transfer.Inv, Transfer.start]
      cases hroutine : transaction.routine with
      | some routine => exact Call.Inv.start
      | none => exact hasked hroutine
    rw [and_iff_right hasked]
    exact always_iff_along hstart (fun _ _ h hgood => h.step hgood) (fun _ h => h.right)
      fun _ _ h => h.right_step_iff
  · refine iff_of_false (fun halways => ?_) fun h => hasked h.1
    have hright := halways [] List.nil_prefix
    rw [exec_nil] at hright
    refine hasked fun hnone => ?_
    have hcall : (Transfer.start transaction written port).call = none := by
      rw [Transfer.start, hnone, Option.map_none]
    exact (Transfer.right_iff_of_none hcall).mp hright

/-- Two bytes of an answer have come when a read fails: pointer and counter go back by one. -/
theorem failed_read_moves_back :
    ¬∀ transaction written port turns,
      Always Transfer.step Transfer.Right (.start transaction written port) turns := by
  intro h
  let port : Port := ⟨true, true, fun _ => none, fun _ => 0, 0, 0⟩
  let first : Turn := ⟨⟨2, fun n => some ([1, 2].take n)⟩, by simp⟩
  let failing : Turn := ⟨⟨1, fun _ => none⟩, by simp⟩
  have hright := h ⟨.other, .rosen485, 0, 4, 20⟩ 0 port [first, failing] _ List.prefix_rfl
  exact absurd (hright.harmless.forwards (-1) (by decide)) (by decide)

end SystemMaster.Interfaces
