import SystemMaster.Avds.ReceiverStages

/-!
# The length of an AVDS reply

`bIFUART_transfer` reports success when the receiver returns as many bytes as the reply
has. A whole frame has as many exactly when its length field says so; but a longer frame
that the time cuts off after as many bytes is taken for a reply as well, and its length
field leads the check of the CRC out of the buffer.
-/

namespace SystemMaster.Avds.Receiver

open Runs

variable {r : Receiver} {hi lo : UInt8} {payload : Memory UInt8} {chunk : List UInt8}
  {sent : Bool} {readCount : Nat}

/-- The length field fits the reply, which is stored and is one frame of the stream. -/
structure Agrees (readCount : Nat) (r : Receiver) : Prop where
  field : lengthField (r.pStr 2) (r.pStr 3) + 6 = readCount
  frame : ∃ hi lo body, body.length = lengthField hi lo + 2 ∧
    r.pStr.read 0 readCount = header hi lo ++ body ∧ header hi lo ++ body <:+ r.taken

def RepliesAgree (sent : Bool) (readCount : Nat) (r : Receiver) : Prop :=
  r.running = false → r.transferred sent readCount = true → Agrees readCount r

def CutOff (readCount : Nat) (r : Receiver) (chunk : List UInt8) : Prop :=
  r.running = true ∧ r.state = .payload ∧ r.uart = [] ∧ chunk = [] ∧ r.timeout = 1 ∧
    r.payloadLength + 4 = readCount

instance (r : Receiver) : Decidable (CutOff readCount r chunk) :=
  inferInstanceAs (Decidable (_ ∧ _ ∧ _ ∧ _ ∧ _ ∧ _))

def NotCutOff (sent : Bool) (readCount : Nat) (r : Receiver) (chunk : List UInt8) : Prop :=
  sent = true → 5 < readCount → ¬CutOff readCount r chunk

instance (r : Receiver) : Decidable (NotCutOff sent readCount r chunk) :=
  inferInstanceAs (Decidable (_ → _ → _))

theorem transferred_iff : r.transferred sent readCount = true ↔
    sent = true ∧ 5 < readCount ∧ r.result = readCount := by
  simp [transferred]

theorem result_of_ne_zero (h : r.counterRead ≠ 0) : r.result = r.counterRead := if_pos h

theorem header_cells (h : r.pStr.read 0 4 = header hi lo) : r.pStr 2 = hi ∧ r.pStr 3 = lo := by
  have hcells : [r.pStr 0, r.pStr 1, r.pStr 2, r.pStr 3] = header hi lo := h
  simp only [header, List.cons.injEq, and_true] at hcells
  exact hcells.2.2

theorem Copied.agrees {body : List UInt8} (h : Copied hi lo body r)
    (hwhole : body.length = lengthField hi lo + 2) (hlength : 4 + body.length ≤ r.length)
    (hcount : 4 + body.length = readCount) : Agrees readCount r where
  field := by
    obtain ⟨hhi, hlo⟩ := header_cells h.stored
    rw [hhi, hlo]
    omega
  frame := ⟨hi, lo, body, hwhole, hcount ▸ h.copied hlength, h.taken⟩

/-- A receiver that has ended reports another reply only where the time was up. -/
theorem repliesAgree_iff (h : Reached r) (hlength : r.length = readCount)
    (hrun : r.running = false) :
    RepliesAgree sent readCount r ↔
      ¬(sent = true ∧ 5 < readCount ∧ r.state = .payload ∧ r.counterRead = readCount) := by
  have hend : RepliesAgree sent readCount r ↔
      (sent = true → 5 < readCount → r.result = readCount → Agrees readCount r) := by
    simp only [RepliesAgree, hrun, true_implies, transferred_iff, and_imp]
  rw [hend]
  cases h.stage with
  | preamble1 hstate _ hcount hret =>
    refine iff_of_true (fun _ hmin hresult => ?_) (by simp [hstate])
    simp only [result, hcount, ne_eq, not_true_eq_false, if_false] at hresult
    omega
  | preamble2 hstate _ hmatched | packetLength hstate _ hmatched =>
    refine iff_of_true (fun _ hmin hresult => ?_) (by simp [hstate])
    have hcount := hmatched.counted
    simp only [List.length_cons, List.length_nil] at hcount
    rw [result_of_ne_zero (by omega)] at hresult
    omega
  | payload hstate htimeout hcapturing | finish hstate htimeout hcapturing =>
    rcases h.ended hrun with hzero | hfinish | hfirst
    · exact absurd hzero htimeout
    · simp [hcapturing.unfinished] at hfinish
    · simp [hstate] at hfirst
  | timedOut hstate _ hcopied hpart =>
    have hcount := hcopied.counted
    rw [result_of_ne_zero (by omega)]
    constructor
    · rintro hagrees ⟨hsent, hmin, _, hread⟩
      have hfield := (hagrees hsent hmin hread).field
      obtain ⟨hhi, hlo⟩ := header_cells hcopied.stored
      rw [hhi, hlo] at hfield
      omega
    · intro hnot hsent hmin hread
      exact absurd ⟨hsent, hmin, hstate, hread⟩ hnot
  | refused _ _ hcount =>
    refine iff_of_true (fun _ hmin hresult => ?_) (fun ⟨_, hmin, _, heq⟩ => by omega)
    rw [result_of_ne_zero (by omega)] at hresult
    omega
  | finished hstate _ hcopied hwhole =>
    refine iff_of_true (fun _ _ hresult => ?_) (by simp [hstate])
    have hcount := hcopied.counted
    rw [result_of_ne_zero (by omega), hcount] at hresult
    exact hcopied.agrees hwhole (by omega) hresult

-- ---------------------------------------------------------------------------
-- The turn at which the time is up
-- ---------------------------------------------------------------------------

theorem preamble1_counterRead (hnull : r.pPayload = none) (h : r.counterRead ≤ 4) :
    r.preamble1.counterRead ≤ 4 := by
  obtain ⟨_, hnext⟩ | ⟨xs, _, hnext⟩ | ⟨byte, xs, _, _, hnext⟩ := preamble1_cases hnull
  · rw [hnext]
    exact h
  · simp [hnext]
  · rw [hnext]
    exact h

theorem preamble2_counterRead (hnull : r.pPayload = none) (h : r.counterRead ≤ 4) :
    r.preamble2.counterRead ≤ 4 := by
  obtain ⟨_, hnext⟩ | ⟨xs, _, hnext⟩ | ⟨byte, xs, _, _, hnext⟩ := preamble2_cases hnull
  · rw [hnext]
    exact h
  · simp [hnext]
  · simp [hnext]

theorem lengthState_counterRead (hnull : r.pPayload = none) (h : r.counterRead ≤ 4) :
    r.lengthState.counterRead ≤ 4 := by
  obtain ⟨_, hnext⟩ | ⟨hi, lo, xs, _, hnext⟩ := lengthState_cases hnull
  · rw [hnext]
    exact h
  · rw [hnext]
    exact (takeLength_counterRead (r.uartRead 2) hi lo).le

/-- In the payload the receiver ends only in silence, at the last tick. -/
theorem payloadState_ends_iff (hstate : r.state = .payload) (htimeout : r.timeout ≠ 0)
    (h : Capturing hi lo payload r) (hpart : r.payloadLength < r.packetLength) :
    (r.payloadState.timeout = 0 ∨ r.payloadState.isFinish = true) ∧
        r.payloadState.state = .payload ∧ r.payloadState.counterRead = readCount ↔
      r.uart = [] ∧ r.timeout = 1 ∧ r.payloadLength + 4 = readCount := by
  by_cases huart : r.uart = []
  · rw [payloadState_silent h huart]
    by_cases hup : r.sleep.timeout = 0
    · have hone : r.timeout = 1 := by
        have hzero : r.timeout - 1 = 0 := hup
        omega
      rw [if_pos hup, copyIfFits_eq]
      simp [freePayload, sleep, hone, hstate, h.counted, Nat.add_comm, huart]
    · have hmore : r.timeout ≠ 1 := fun hone => hup (by simp [sleep, hone])
      rw [if_neg hup]
      simp only [hup, false_or, hmore, false_and, and_false]
      exact iff_of_false (fun hends => by simp [sleep, h.unfinished] at hends) id
  · refine iff_of_false ?_ (by simp [huart])
    rintro ⟨hends, _⟩
    rw [payloadState_some h hpart huart] at hends
    revert hends
    split
    · simp [readPayload, uartRead, htimeout, h.unfinished]
    · simp [readPayload, uartRead, htimeout, h.unfinished]

theorem turn_ends_iff (h : Reached r) (hrun : r.running = true) (hmin : 5 < readCount) :
    (r.turn.timeout = 0 ∨ r.turn.isFinish = true) ∧ r.turn.state = .payload ∧
        r.turn.counterRead = readCount ↔
      r.state = .payload ∧ r.uart = [] ∧ r.timeout = 1 ∧ r.payloadLength + 4 = readCount := by
  -- before the payload no more than the header is counted
  have hbefore {r' : Receiver} (hstate : r.state ≠ .payload) (hle : r'.counterRead ≤ 4) :
      (r'.timeout = 0 ∨ r'.isFinish = true) ∧ r'.state = .payload ∧ r'.counterRead = readCount ↔
        r.state = .payload ∧ r.uart = [] ∧ r.timeout = 1 ∧ r.payloadLength + 4 = readCount := by
    refine iff_of_false ?_ (by simp [hstate])
    rintro ⟨_, _, hread⟩
    omega
  refine h.turn_cases hrun (P := fun r' =>
    (r'.timeout = 0 ∨ r'.isFinish = true) ∧ r'.state = .payload ∧ r'.counterRead = readCount ↔
      r.state = .payload ∧ r.uart = [] ∧ r.timeout = 1 ∧ r.payloadLength + 4 = readCount)
    ?_ ?_ ?_ ?_ ?_
  · intro hstate hnull hcount _ _
    exact hbefore (by simp [hstate]) (preamble1_counterRead hnull (by omega))
  · intro hstate hnull hmatched _
    have hcount := hmatched.counted
    exact hbefore (by simp [hstate]) (preamble2_counterRead hnull (by simp [hcount]))
  · intro hstate hnull hmatched _ _
    have hcount := hmatched.counted
    exact hbefore (by simp [hstate]) (lengthState_counterRead hnull (by simp [hcount]))
  · intro hi lo payload hstate htimeout hcapturing hpart
    rw [payloadState_ends_iff hstate htimeout hcapturing hpart, hstate]
    simp
  · intro hi lo payload hstate hcapturing hwhole
    rw [finishState_eq hcapturing hwhole, copyIfFits_eq]
    simp [hstate]

theorem step_running_eq_false_iff (hrun : r.running = true) :
    (r.step chunk).running = false ↔
      (r.arrive chunk).turn.timeout = 0 ∨ (r.arrive chunk).turn.isFinish = true := by
  rw [step_of_running hrun]
  simp only [Bool.and_eq_false_iff, decide_eq_false_iff_not, not_not, Bool.not_eq_false']

theorem cutOff_iff (h : Reached r) (hrun : r.running = true) (hmin : 5 < readCount) :
    (r.step chunk).running = false ∧ (r.step chunk).state = .payload ∧
        (r.step chunk).counterRead = readCount ↔ CutOff readCount r chunk := by
  have hturn := turn_ends_iff (h.arrive chunk) hrun hmin
  have hstate : (r.step chunk).state = (r.arrive chunk).turn.state := by
    rw [step_of_running hrun]
  have hcount : (r.step chunk).counterRead = (r.arrive chunk).turn.counterRead := by
    rw [step_of_running hrun]
  rw [step_running_eq_false_iff hrun, hstate, hcount, hturn, CutOff, and_iff_right hrun]
  simp [arrive, and_assoc]

theorem Reached.repliesAgree_step_iff (h : Reached r) (hlength : r.length = readCount)
    (hagree : RepliesAgree sent readCount r) :
    RepliesAgree sent readCount (r.step chunk) ↔ NotCutOff sent readCount r chunk := by
  cases hrun : r.running with
  | false =>
    rw [step_of_ended hrun]
    refine iff_of_true (fun hrun' htransferred => ?_) fun _ _ hcut => ?_
    · obtain ⟨hfield, hframe⟩ := hagree hrun' htransferred
      exact ⟨hfield, hframe⟩
    · exact absurd hcut.1 (by simp [hrun])
  | true =>
    have hlength' : (r.step chunk).length = readCount :=
      (h.step_sameCall chunk).length.trans hlength
    cases hrun' : (r.step chunk).running with
    | true =>
      refine iff_of_true (fun hended => by simp [hrun'] at hended) fun _ hmin hcut => ?_
      have hended := ((cutOff_iff h hrun hmin).mpr hcut).1
      simp [hrun'] at hended
    | false =>
      rw [repliesAgree_iff (h.step chunk) hlength' hrun', NotCutOff]
      constructor
      · rintro hnot hsent hmin hcut
        obtain ⟨_, hstate, hcount⟩ := (cutOff_iff h hrun hmin).mpr hcut
        exact hnot ⟨hsent, hmin, hstate, hcount⟩
      · rintro hnot ⟨hsent, hmin, hstate, hcount⟩
        exact hnot hsent hmin ((cutOff_iff h hrun hmin).mp ⟨hrun', hstate, hcount⟩)

/-- A transfer that reports success has the reply asked for, in every run, exactly when no
frame is cut off by the time after as many bytes. -/
theorem replies_agree_iff (opened pend : Bool) (memoryAlloc : Nat → Option (Memory UInt8))
    (pStr : Memory UInt8) (sent : Bool) (readCount timeout : Nat) (chunks : List (List UInt8)) :
    Always step (RepliesAgree sent readCount)
        (.start opened pend memoryAlloc pStr readCount timeout) chunks ↔
      Along step (NotCutOff sent readCount)
        (.start opened pend memoryAlloc pStr readCount timeout) chunks := by
  have hstart : Reached (.start opened pend memoryAlloc pStr readCount timeout) := .start
  refine always_iff_along_of_inv (I := fun r => Reached r ∧ r.length = readCount) ⟨hstart, rfl⟩
    (fun r chunk h => ⟨h.1.step chunk, (h.1.step_sameCall chunk).length.trans h.2⟩)
    (fun _ htransferred => ?_) fun r chunk h hagree => h.1.repliesAgree_step_iff h.2 hagree
  -- a call that is not answered at all returns zero
  obtain ⟨_, hmin, hresult⟩ := transferred_iff.mp htransferred
  have hzero : (start opened pend memoryAlloc pStr readCount timeout).result = 0 := rfl
  omega

def longerFrame : List (List UInt8) := [[0xAA], [0x55], [0, 4], [1, 2, 3, 4], []]

theorem cut_off_reported :
    ¬∀ (memoryAlloc : Nat → Option (Memory UInt8)) (pStr : Memory UInt8)
      (readCount timeout : Nat) (chunks : List (List UInt8)),
        Always step (RepliesAgree true readCount)
          (.start true true memoryAlloc pStr readCount timeout) chunks := by
  intro h
  have hagree := h (fun _ => some fun _ => 0) (fun _ => 0) 8 1 longerFrame _ List.prefix_rfl
    (by decide) (by decide)
  exact absurd hagree.field (by decide)

end SystemMaster.Avds.Receiver
