import SystemMaster.Avds.FrameSearch
import SystemMaster.Avds.ReceiverSafety

/-!
# Noise before a frame

Behind noise that ends in an even number of `0xAA`s the receiver finds the frame, within the
time; behind an odd number it misses it, whatever the time. Both are followed turn by turn,
over the bytes still to be taken.
-/

namespace SystemMaster.Avds.Receiver

open Runs

structure Returned (frame : List UInt8) (r : Receiver) : Prop where
  ended : r.running = false
  result : r.result = frame.length
  stored : r.pStr.read 0 frame.length = frame

def wait (chunk rest : List UInt8) : Nat := if chunk = [] ∧ rest ≠ [] then 1 else 0

def gaps : List (List UInt8) → Nat
  | [] => 0
  | chunk :: chunks => wait chunk chunks.flatten + gaps chunks

variable {r : Receiver} {hi lo byte : UInt8} {body noise frame todo rest chunk bytes : List UInt8}
  {payload : Memory UInt8} {chunks : List (List UInt8)} {parity k : Nat}

/-- Where the receiver is, given the bytes still to be taken, when it will find the frame. -/
inductive Track (hi lo : UInt8) (body todo : List UInt8) (r : Receiver) : Prop
  | seeking (hfinish : r.isFinish = false) (hseeking : Seeking (header hi lo ++ body) 0 todo r)
  | length (hstate : r.state = .packetLength) (hfinish : r.isFinish = false)
    (htodo : todo = hi :: lo :: body)
  | payload (hstate : r.state = .payload) {payload} (hcapturing : Capturing hi lo payload r)
    (hpart : r.payloadLength < r.packetLength)
    (hbody : payload.read 0 r.payloadLength ++ todo = body)
  | finish (hstate : r.state = .finish) {payload} (hcapturing : Capturing hi lo payload r)
    (hwhole : r.payloadLength = r.packetLength) (hbody : payload.read 0 r.payloadLength = body)
  | copied (hfinish : r.isFinish = true) (hcopied : Copied hi lo body r)

theorem Track.with_uart (h : Track hi lo body todo r) (uart : List UInt8) (running : Bool) :
    Track hi lo body todo { r with uart := uart, running := running } := by
  cases h with
  | seeking hfinish hseeking => exact .seeking hfinish (hseeking.with_uart uart running)
  | length hstate hfinish htodo => exact .length hstate hfinish htodo
  | payload hstate hcapturing hpart hbody =>
    exact .payload hstate (hcapturing.with_uart uart running) hpart hbody
  | finish hstate hcapturing hwhole hbody =>
    exact .finish hstate (hcapturing.with_uart uart running) hwhole hbody
  | copied hfinish h => exact .copied hfinish ⟨h.small, h.stored, h.copied, h.taken, h.counted⟩

/-- Nothing of the length is taken before both of its bytes are there; then the payload
begins. -/
theorem lengthState_next (h : Reached r) (hrun : r.running = true)
    (hstate : r.state = .packetLength) (hsmall : lengthField hi lo < rxMaxPayloadSize)
    (halloc : r.memoryAlloc (lengthField hi lo + 2) = some payload)
    (htodo : r.uart ++ rest = hi :: lo :: body) :
    r.uart.length < 2 ∧ r.lengthState = r.sleep ∨
      Capturing hi lo payload r.lengthState ∧ r.lengthState.state = .payload ∧
        r.lengthState.payloadLength = 0 ∧ r.lengthState.uart ++ rest = body ∧
        r.lengthState.timeout = r.timeout := by
  have hfinish := h.isFinish hrun
  cases h.stage with
  | packetLength _ hnull hmatched hblock =>
    refine (lengthState_cases hnull).imp_right ?_
    rintro ⟨hi', lo', xs, huart, hnext⟩
    rw [huart, List.cons_append, List.cons_append] at htodo
    simp only [List.cons.injEq] at htodo
    obtain ⟨rfl, rfl, htodo⟩ := htodo
    obtain ⟨pre, hpre⟩ := hmatched.taken
    have htaken : header hi' lo' <:+ (r.uartRead 2).taken :=
      ⟨pre, by simp [header, uartRead, huart, ← hpre]⟩
    obtain ⟨hcapturing, hstate', hnone⟩ :=
      takeLength_capturing (r := r.uartRead 2) (h.length hrun) hmatched.stored htaken hfinish
        hblock hsmall halloc
    obtain ⟨huart', _, htimeout⟩ := takeLength_eq (r.uartRead 2) hi' lo'
    rw [hnext]
    refine ⟨hcapturing, hstate', hnone, ?_, htimeout⟩
    rw [huart']
    simpa [uartRead, huart] using htodo
  | preamble1 hstate' | preamble2 hstate' | payload hstate' | finish hstate'
  | timedOut hstate' | finished hstate' => rw [hstate] at hstate'; cases hstate'
  | refused _ hfinish' => simp [hfinish] at hfinish'

theorem lengthState_track (h : Reached r) (hrun : r.running = true)
    (hstate : r.state = .packetLength) (hsmall : lengthField hi lo < rxMaxPayloadSize)
    (halloc : r.memoryAlloc (lengthField hi lo + 2) = some payload)
    (htodo : r.uart ++ rest = hi :: lo :: body) :
    Track hi lo body (r.lengthState.uart ++ rest) r.lengthState := by
  obtain ⟨_, hnext⟩ | ⟨hcapturing, hstate', hnone, htodo', _⟩ :=
    lengthState_next h hrun hstate hsmall halloc htodo
  · rw [hnext]
    exact .length hstate (h.isFinish hrun) htodo
  · refine .payload hstate' hcapturing ?_ ?_
    · rw [hnone, hcapturing.packetLength]
      exact Nat.succ_pos _
    · rw [hnone]
      exact htodo'

theorem payloadState_track (hstate : r.state = .payload) (hcapturing : Capturing hi lo payload r)
    (hpart : r.payloadLength < r.packetLength) (hlength : body.length = lengthField hi lo + 2)
    (hbody : payload.read 0 r.payloadLength ++ (r.uart ++ rest) = body)
    (htime : r.uart = [] → 1 < r.timeout) :
    Track hi lo body (r.payloadState.uart ++ rest) r.payloadState := by
  by_cases huart : r.uart = []
  · have hmore : r.sleep.timeout ≠ 0 := by
      have htimeout := htime huart
      simp only [sleep]
      omega
    rw [payloadState_silent hcapturing huart, if_neg hmore]
    exact .payload hstate hcapturing.sleep hpart hbody
  · rw [payloadState_some hcapturing hpart huart]
    split
    case isTrue hmore =>
      refine .payload hstate (hcapturing.readPayload le_rfl (by omega)) ?_ ?_
      · simp only [readPayload, uartRead]
        omega
      · have hread := readPayload_read hcapturing (Nat.le_refl r.uart.length)
        simp only [readPayload, uartRead]
        rw [hread, List.take_length, List.drop_length, List.nil_append, List.append_assoc, hbody]
    case isFalse hall =>
      have hle : r.packetLength - r.payloadLength ≤ r.uart.length := by omega
      refine .finish rfl ((hcapturing.readPayload hle (by omega)).with_state _) ?_ ?_
      · simp only [readPayload, uartRead]
        omega
      · -- nothing is still to arrive
        have hlen := congrArg List.length hbody
        rw [List.length_append, List.length_append, Memory.read_length, hlength,
          ← hcapturing.packetLength] at hlen
        have hrest : rest = [] := List.length_eq_zero_iff.mp (by omega)
        have hall : r.uart.take (r.packetLength - r.payloadLength) = r.uart :=
          List.take_of_length_le (by omega)
        have hread := readPayload_read hcapturing hle
        simp only [readPayload, uartRead]
        rw [hread, hall, ← hbody, hrest, List.append_nil]

theorem turn_track (h : Reached r) (hrun : r.running = true)
    (hsmall : lengthField hi lo < rxMaxPayloadSize) (hlength : body.length = lengthField hi lo + 2)
    (halloc : r.memoryAlloc (lengthField hi lo + 2) = some payload)
    (htrack : Track hi lo body (r.uart ++ rest) r)
    (htime : r.state = .payload → r.uart = [] → 1 < r.timeout) :
    Track hi lo body (r.turn.uart ++ rest) r.turn := by
  cases htrack with
  | seeking _ hseeking =>
    obtain ⟨hnext | ⟨_, hnext, htodo⟩ | ⟨hodd, _⟩, hfinish⟩ := turn_seeking h hrun hseeking
    · exact .seeking hfinish hnext
    · exact .length hnext hfinish htodo
    · cases hodd
  | length hstate _ htodo =>
    rw [turn, hstate]
    exact lengthState_track h hrun hstate hsmall halloc htodo
  | payload hstate hcapturing hpart hbody =>
    rw [turn, hstate]
    exact payloadState_track hstate hcapturing hpart hlength hbody (htime hstate)
  | finish hstate hcapturing hwhole hbody =>
    rw [turn, hstate]
    have hcopied := finishState_copied hcapturing hwhole
    rw [hbody] at hcopied
    refine .copied ?_ hcopied
    rw [finishState_eq hcapturing hwhole]
  | copied hfinish =>
    rw [h.isFinish hrun] at hfinish
    cases hfinish

-- ---------------------------------------------------------------------------
-- The time on the way
-- ---------------------------------------------------------------------------

/-- A tick may go by on the first byte of the length. -/
def spare (r : Receiver) : Nat :=
  match r.state with
  | .preamble1 | .preamble2 => 1
  | .packetLength => if r.uart = [] then 1 else 0
  | .payload | .finish => 0

/-- The tick of this turn, and the spare one after it. -/
def due (r : Receiver) : Nat :=
  match r.state with
  | .preamble1 | .preamble2 => if r.uart = [] then 2 else 1
  | .packetLength => if r.uart = [] then 2 else if r.uart.length = 1 then 1 else 0
  | .payload => if r.uart = [] then 1 else 0
  | .finish => 0

theorem preamble1_time (hnull : r.pPayload = none) (hstate : r.state = .preamble1) :
    r.timeout + spare r.preamble1 ≤ r.preamble1.timeout + due r := by
  obtain ⟨huart, hnext⟩ | ⟨xs, huart, hnext⟩ | ⟨byte, xs, _, huart, hnext⟩ :=
    preamble1_cases hnull
  · simp only [hnext, spare, due, sleep, hstate, huart, if_true]
    omega
  · simp [hnext, spare, due, hstate, huart, writeStr, uartRead]
  · simp [hnext, spare, due, hstate, huart, uartRead]

theorem preamble2_time (hnull : r.pPayload = none) (hstate : r.state = .preamble2) :
    r.timeout + spare r.preamble2 ≤ r.preamble2.timeout + due r := by
  obtain ⟨huart, hnext⟩ | ⟨xs, huart, hnext⟩ | ⟨byte, xs, _, huart, hnext⟩ :=
    preamble2_cases hnull
  · simp only [hnext, spare, due, sleep, hstate, huart, if_true]
    omega
  · simp only [hnext, spare, due, hstate, huart, writeStr, uartRead]
    split <;> simp
  · simp [hnext, spare, due, hstate, huart, uartRead]

theorem lengthState_time (h : Reached r) (hrun : r.running = true)
    (hstate : r.state = .packetLength) (hsmall : lengthField hi lo < rxMaxPayloadSize)
    (halloc : r.memoryAlloc (lengthField hi lo + 2) = some payload)
    (htodo : r.uart ++ rest = hi :: lo :: body) :
    r.timeout + spare r.lengthState ≤ r.lengthState.timeout + due r := by
  obtain ⟨hwait, hnext⟩ | ⟨_, hstate', _, _, htimeout⟩ :=
    lengthState_next h hrun hstate hsmall halloc htodo
  · rw [hnext]
    simp only [spare, due, sleep, hstate]
    split
    · omega
    case isFalse huart =>
      have hone : r.uart.length = 1 := by
        have hpos := List.length_pos_iff.mpr huart
        omega
      rw [if_pos hone]
      omega
  · simp [spare, hstate', htimeout]

theorem payloadState_time (hstate : r.state = .payload) (hcapturing : Capturing hi lo payload r)
    (hpart : r.payloadLength < r.packetLength) :
    r.timeout + spare r.payloadState ≤ r.payloadState.timeout + due r := by
  by_cases huart : r.uart = []
  · rw [payloadState_silent hcapturing huart]
    split
    · rw [copyIfFits_eq]
      simp only [spare, due, freePayload, sleep, hstate, huart, if_true]
      omega
    · simp only [spare, due, sleep, hstate, huart, if_true]
      omega
  · rw [payloadState_some hcapturing hpart huart]
    split
    · simp [spare, due, hstate, huart, readPayload, uartRead]
    · simp [spare, due, hstate, huart, readPayload, uartRead]

theorem finishState_time (hstate : r.state = .finish) (hcapturing : Capturing hi lo payload r)
    (hwhole : r.payloadLength = r.packetLength) :
    r.timeout + spare r.finishState ≤ r.finishState.timeout + due r := by
  rw [finishState_eq hcapturing hwhole, copyIfFits_eq]
  simp [spare, hstate]

theorem turn_time (h : Reached r) (hrun : r.running = true)
    (hsmall : lengthField hi lo < rxMaxPayloadSize)
    (halloc : r.memoryAlloc (lengthField hi lo + 2) = some payload)
    (htrack : Track hi lo body (r.uart ++ rest) r) :
    r.timeout + spare r.turn ≤ r.turn.timeout + due r := by
  unfold turn
  cases htrack with
  | seeking _ hseeking =>
    cases hseeking with
    | preamble1 hstate =>
      simp only [hstate]
      exact preamble1_time (h.null hrun (.inl hstate)) hstate
    | preamble2 hstate =>
      simp only [hstate]
      exact preamble2_time (h.null hrun (.inr (.inl hstate))) hstate
  | length hstate _ htodo =>
    simp only [hstate]
    exact lengthState_time h hrun hstate hsmall halloc htodo
  | payload hstate hcapturing hpart =>
    simp only [hstate]
    exact payloadState_time hstate hcapturing hpart
  | finish hstate hcapturing hwhole =>
    simp only [hstate]
    exact finishState_time hstate hcapturing hwhole
  | copied hfinish =>
    rw [h.isFinish hrun] at hfinish
    cases hfinish

theorem wait_silent (hmore : 0 < rest.length) : wait [] rest = 1 :=
  if_pos ⟨rfl, List.length_pos_iff.mp hmore⟩

theorem Seeking.due_arrive
    (h : Seeking (header hi lo ++ body) parity (r.uart ++ (chunk ++ rest)) r) :
    due (r.arrive chunk) ≤ spare r + wait chunk rest := by
  have hthree := h.three_le
  by_cases hnone : r.uart = [] ∧ chunk = []
  · obtain ⟨huart, rfl⟩ := hnone
    rw [huart] at hthree
    simp only [List.nil_append] at hthree
    rw [wait_silent (by omega)]
    cases h with
    | preamble1 hstate | preamble2 hstate => simp [due, spare, arrive, hstate, huart]
  · cases h with
    | preamble1 hstate | preamble2 hstate => simp [due, spare, arrive, hstate, hnone]

theorem length_due_arrive (hstate : r.state = .packetLength)
    (htodo : r.uart ++ (chunk ++ rest) = hi :: lo :: body) :
    due (r.arrive chunk) ≤ spare r + wait chunk rest := by
  have hlen := congrArg List.length htodo
  simp only [List.length_append, List.length_cons] at hlen
  simp only [due, spare, arrive, hstate, List.append_eq_nil_iff, List.length_append]
  by_cases huart : r.uart = []
  · by_cases hchunk : chunk = []
    · subst hchunk
      simp only [huart, List.length_nil] at hlen
      rw [wait_silent (by omega)]
      simp [huart]
    · simp only [huart, hchunk, and_false, if_false, if_true]
      split <;> omega
  · have hpos := List.length_pos_iff.mpr huart
    simp only [huart, false_and, if_false]
    split
    case isTrue hone =>
      obtain rfl : chunk = [] := List.length_eq_zero_iff.mp (by omega)
      rw [List.length_nil] at hlen
      rw [wait_silent (by omega)]
    case isFalse => exact Nat.zero_le _

theorem Capturing.due_arrive (h : Capturing hi lo payload r) (hstate : r.state = .payload)
    (hpart : r.payloadLength < r.packetLength) (hlength : body.length = lengthField hi lo + 2)
    (hbody : payload.read 0 r.payloadLength ++ (r.uart ++ (chunk ++ rest)) = body) :
    due (r.arrive chunk) ≤ spare r + wait chunk rest := by
  have hlen := congrArg List.length hbody
  simp only [List.length_append, Memory.read_length] at hlen
  have hsize := h.packetLength
  simp only [due, spare, arrive, hstate, List.append_eq_nil_iff]
  split
  case isTrue hnone =>
    obtain ⟨huart, rfl⟩ := hnone
    simp only [huart, List.length_nil] at hlen
    rw [wait_silent (by omega)]
  case isFalse => exact Nat.zero_le _

theorem Track.due_arrive (h : Track hi lo body (r.uart ++ (chunk ++ rest)) r)
    (hlength : body.length = lengthField hi lo + 2) (hfinish : r.isFinish = false) :
    due (r.arrive chunk) ≤ spare r + wait chunk rest := by
  cases h with
  | seeking _ hseeking => exact hseeking.due_arrive
  | length hstate _ htodo => exact length_due_arrive hstate htodo
  | payload hstate hcapturing hpart hbody => exact hcapturing.due_arrive hstate hpart hlength hbody
  | finish hstate => simp [due, arrive, hstate]
  | copied hfinish' => simp [hfinish] at hfinish'

/-- The receiver will find the frame in what it holds and in `rest`, given the time. -/
structure OnTrack (hi lo : UInt8) (body rest : List UInt8) (r : Receiver) : Prop where
  reached : Reached r
  running : r.running = !r.isFinish
  track : Track hi lo body (r.uart ++ rest) r

theorem OnTrack.step (h : OnTrack hi lo body (chunk ++ rest) r)
    (hsmall : lengthField hi lo < rxMaxPayloadSize) (hlength : body.length = lengthField hi lo + 2)
    (halloc : r.memoryAlloc (lengthField hi lo + 2) = some payload)
    (htime : r.isFinish = false → spare r + wait chunk rest < r.timeout) :
    OnTrack hi lo body rest (r.step chunk) ∧
      (r.isFinish = false →
        r.timeout + spare (r.step chunk) ≤
          (r.step chunk).timeout + (spare r + wait chunk rest)) := by
  have harrived : Track hi lo body ((r.arrive chunk).uart ++ rest) (r.arrive chunk) := by
    have htrack := h.track.with_uart (r.uart ++ chunk) r.running
    rw [← List.append_assoc] at htrack
    exact htrack
  cases hrun : r.running with
  | false =>
    have hfinish : r.isFinish = true := by simpa [hrun] using h.running
    have hreached := h.reached.step chunk
    rw [step_of_ended hrun] at hreached ⊢
    exact ⟨⟨hreached, h.running, harrived⟩, by simp [hfinish]⟩
  | true =>
    have hfinish := h.reached.isFinish hrun
    have hbudget := htime hfinish
    have hdue := h.track.due_arrive hlength hfinish
    have hreached := h.reached.arrive chunk
    have htime' := turn_time hreached hrun hsmall halloc harrived
    have hnext := turn_track hreached hrun hsmall hlength halloc harrived fun hstate huart => by
      simp only [due, hstate, huart, if_true] at hdue
      exact lt_of_le_of_lt hdue hbudget
    have htimeout : (r.arrive chunk).timeout = r.timeout := rfl
    have hmore : (r.arrive chunk).turn.timeout ≠ 0 := by omega
    have hreached' := h.reached.step chunk
    rw [step_of_running hrun] at hreached' ⊢
    refine ⟨⟨hreached', ?_, hnext.with_uart _ _⟩, fun _ => ?_⟩
    · simp [hmore]
    · have hspare : spare { (r.arrive chunk).turn with
          running := (r.arrive chunk).turn.timeout ≠ 0 && !(r.arrive chunk).turn.isFinish } =
            spare (r.arrive chunk).turn := rfl
      rw [hspare]
      show _ ≤ (r.arrive chunk).turn.timeout + _
      omega

theorem OnTrack.exec (h : OnTrack hi lo body chunks.flatten r)
    (hsmall : lengthField hi lo < rxMaxPayloadSize) (hlength : body.length = lengthField hi lo + 2)
    (halloc : r.memoryAlloc (lengthField hi lo + 2) = some payload)
    (htime : r.isFinish = false → spare r + gaps chunks < r.timeout) :
    OnTrack hi lo body [] (exec Receiver.step r chunks) := by
  induction chunks generalizing r with
  | nil => exact h
  | cons chunk chunks ih =>
    rw [List.flatten_cons] at h
    simp only [gaps] at htime
    obtain ⟨hnext, hbudget⟩ := h.step hsmall hlength halloc fun hfinish => by
      have hbefore := htime hfinish
      omega
    rw [exec_cons]
    refine ih hnext ?_ fun hfinish' => ?_
    · rw [(h.reached.step_sameCall chunk).memoryAlloc]
      exact halloc
    · have hfinish : r.isFinish = false := by
        by_contra hended
        have hfinish : r.isFinish = true := by simpa using hended
        have hrun : r.running = false := by simpa [hfinish] using h.running
        rw [step_of_ended hrun] at hfinish'
        exact hended hfinish'
      have hbefore := htime hfinish
      have hafter := hbudget hfinish
      omega

theorem OnTrack.returned (h : OnTrack hi lo body rest r) (hrun : r.running = false)
    (hroom : 4 + body.length ≤ r.length) : Returned (header hi lo ++ body) r := by
  have hfinish : r.isFinish = true := by simpa [hrun] using h.running
  have hsize : (header hi lo ++ body).length = 4 + body.length := List.length_append
  cases h.track with
  | seeking hunfinished | length _ hunfinished => simp [hfinish] at hunfinished
  | payload _ hcapturing | finish _ hcapturing =>
    have hunfinished := hcapturing.unfinished
    simp [hfinish] at hunfinished
  | copied _ hcopied =>
    refine ⟨hrun, ?_, ?_⟩
    · have hcount := hcopied.counted
      rw [result, if_pos (by omega), hcount, hsize]
    · rw [hsize, hcopied.copied hroom]

-- ---------------------------------------------------------------------------
-- The run past the frame
-- ---------------------------------------------------------------------------

/-- The first byte of the frame will be, or has been, taken for the second one of a
preamble; then the bytes left and those counted are too few. -/
inductive OffTrack (hi lo : UInt8) (body todo : List UInt8) (r : Receiver) : Prop
  | seeking (hseeking : Seeking (header hi lo ++ body) 1 todo r)
  | missed (hfew : r.counterRead + todo.length < (header hi lo ++ body).length)

theorem OffTrack.with_uart (h : OffTrack hi lo body todo r) (uart : List UInt8) (running : Bool) :
    OffTrack hi lo body todo { r with uart := uart, running := running } := by
  cases h with
  | seeking hseeking => exact .seeking (hseeking.with_uart uart running)
  | missed hfew => exact .missed hfew

def counted (r : Receiver) : Nat := r.counterRead + r.uart.length

theorem preamble1_counted (hnull : r.pPayload = none) (hcount : r.counterRead = 0) :
    counted r.preamble1 ≤ counted r := by
  obtain ⟨_, hnext⟩ | ⟨xs, huart, hnext⟩ | ⟨byte, xs, _, huart, hnext⟩ := preamble1_cases hnull
  · rw [hnext]
    exact Nat.le_refl _
  · simp [hnext, counted, writeStr, uartRead, huart, hcount, Nat.add_comm]
  · simp [hnext, counted, uartRead, huart, hcount]

theorem preamble2_counted (hnull : r.pPayload = none) (hcount : r.counterRead = 1) :
    counted r.preamble2 ≤ counted r := by
  obtain ⟨_, hnext⟩ | ⟨xs, huart, hnext⟩ | ⟨byte, xs, _, huart, hnext⟩ := preamble2_cases hnull
  · rw [hnext]
    exact Nat.le_refl _
  · simp only [hnext, counted, writeStr, uartRead, huart, hcount, List.drop_succ_cons,
      List.drop_zero, List.length_cons]
    omega
  · simp only [hnext, counted, uartRead, huart, hcount, List.drop_succ_cons, List.drop_zero,
      List.length_cons]
    omega

theorem lengthState_counted (hnull : r.pPayload = none) (hcount : r.counterRead = 2) :
    counted r.lengthState ≤ counted r := by
  obtain ⟨_, hnext⟩ | ⟨hi, lo, xs, huart, hnext⟩ := lengthState_cases hnull
  · rw [hnext]
    exact Nat.le_refl _
  · rw [hnext, counted, counted, takeLength_counterRead, (takeLength_eq (r.uartRead 2) hi lo).1,
      hcount, huart]
    simp only [uartRead, huart, List.drop_succ_cons, List.drop_zero, List.length_cons]
    omega

theorem payloadState_counted (hcapturing : Capturing hi lo payload r)
    (hpart : r.payloadLength < r.packetLength) : counted r.payloadState ≤ counted r := by
  by_cases huart : r.uart = []
  · rw [payloadState_silent hcapturing huart]
    split
    · rw [copyIfFits_eq]
      exact Nat.le_refl _
    · exact Nat.le_refl _
  · rw [payloadState_some hcapturing hpart huart]
    split
    · simp only [counted, readPayload, uartRead, List.length_drop]
      omega
    · simp only [counted, readPayload, uartRead, List.length_drop]
      omega

theorem turn_counted (h : Reached r) (hrun : r.running = true) : counted r.turn ≤ counted r := by
  refine h.turn_cases hrun (P := fun r' => counted r' ≤ counted r) ?_ ?_ ?_ ?_ ?_
  · intro _ hnull hcount _ _
    exact preamble1_counted hnull hcount
  · intro _ hnull hmatched _
    exact preamble2_counted hnull hmatched.counted
  · intro _ hnull hmatched _ _
    exact lengthState_counted hnull hmatched.counted
  · intro hi lo payload _ _ hcapturing hpart
    exact payloadState_counted hcapturing hpart
  · intro hi lo payload _ hcapturing hwhole
    rw [finishState_eq hcapturing hwhole, copyIfFits_eq]
    exact Nat.le_refl _

theorem turn_offTrack (h : Reached r) (hrun : r.running = true)
    (hoff : OffTrack hi lo body (r.uart ++ rest) r) :
    OffTrack hi lo body (r.turn.uart ++ rest) r.turn := by
  cases hoff with
  | seeking hseeking =>
    obtain ⟨hnext | ⟨heven, _⟩ | ⟨_, hcount, hfew⟩, _⟩ := turn_seeking h hrun hseeking
    · exact .seeking hnext
    · cases heven
    · refine .missed ?_
      rw [hcount, Nat.zero_add]
      exact hfew
  | missed hfew =>
    have hcounted := turn_counted h hrun
    simp only [counted] at hcounted
    rw [List.length_append] at hfew
    refine .missed ?_
    rw [List.length_append]
    omega

theorem OffTrack.step (h : OffTrack hi lo body (r.uart ++ (chunk ++ rest)) r)
    (hreached : Reached r) :
    OffTrack hi lo body ((r.step chunk).uart ++ rest) (r.step chunk) := by
  have harrived : OffTrack hi lo body ((r.arrive chunk).uart ++ rest) (r.arrive chunk) := by
    have hoff := h.with_uart (r.uart ++ chunk) r.running
    rw [← List.append_assoc] at hoff
    exact hoff
  cases hrun : r.running with
  | false =>
    rw [step_of_ended hrun]
    exact harrived
  | true =>
    rw [step_of_running hrun]
    exact (turn_offTrack (hreached.arrive chunk) hrun harrived).with_uart _ _

theorem OffTrack.exec (h : OffTrack hi lo body (r.uart ++ chunks.flatten) r)
    (hreached : Reached r) :
    OffTrack hi lo body (exec Receiver.step r chunks).uart (exec Receiver.step r chunks) := by
  induction chunks generalizing r with
  | nil =>
    rw [List.flatten_nil, List.append_nil] at h
    exact h
  | cons chunk chunks ih =>
    rw [List.flatten_cons] at h
    exact ih (h.step hreached) (hreached.step chunk)

theorem OffTrack.not_returned (h : OffTrack hi lo body todo r) (hreached : Reached r) :
    ¬Returned (header hi lo ++ body) r := by
  intro hreturned
  have hle := hreached.result_le
  rw [hreturned.result] at hle
  have hfour : 4 ≤ (header hi lo ++ body).length := by simp [header]
  cases h with
  | seeking hseeking =>
    have hfew := hseeking.counterRead_le hreached
    omega
  | missed hfew => omega

-- ---------------------------------------------------------------------------
-- Noise and a frame
-- ---------------------------------------------------------------------------

theorem flatten_silence : (chunks ++ List.replicate k []).flatten = chunks.flatten := by simp

theorem gaps_silence : gaps (chunks ++ List.replicate k []) = gaps chunks := by
  induction chunks with
  | nil =>
    have hsilent : gaps (List.replicate k []) = 0 := by
      induction k with
      | zero => rfl
      | succ k ih =>
        rw [List.replicate_succ, gaps, ih]
        simp [wait]
    exact hsilent
  | cons chunk chunks ih => rw [List.cons_append, gaps, gaps, flatten_silence, ih]

section Call

variable {memoryAlloc : Nat → Option (Memory UInt8)} {pStr : Memory UInt8} {length timeout : Nat}

theorem start_returned (hsmall : lengthField hi lo < rxMaxPayloadSize)
    (hbody : body.length = lengthField hi lo + 2)
    (hahead : Ahead (header hi lo ++ body) 0 chunks.flatten)
    (hroom : 4 + body.length ≤ length)
    (halloc : memoryAlloc (lengthField hi lo + 2) = some payload)
    (htime : gaps chunks + 1 < timeout)
    (hended :
      (exec step (.start true true memoryAlloc pStr length timeout) chunks).running = false) :
    Returned (header hi lo ++ body)
      (exec step (.start true true memoryAlloc pStr length timeout) chunks) := by
  have hrun : (start true true memoryAlloc pStr length timeout).running = true := by
    simp only [start, Bool.and_true, decide_eq_true_eq]
    omega
  have hstart : OnTrack hi lo body chunks.flatten
      (.start true true memoryAlloc pStr length timeout) :=
    ⟨.start, hrun, .seeking rfl (.preamble1 rfl hahead)⟩
  refine (hstart.exec hsmall hbody halloc fun _ => ?_).returned hended ?_
  · simp only [spare, start]
    omega
  · have hlength : (exec step (.start true true memoryAlloc pStr length timeout) chunks).length =
        length :=
      (exec_inv (I := fun r : Receiver => Reached r ∧ r.length = length) ⟨.start, rfl⟩
        fun r chunk h => ⟨h.1.step chunk, (h.1.step_sameCall chunk).length.trans h.2⟩).2
    rw [hlength]
    exact hroom

theorem start_missed (hahead : Ahead (header hi lo ++ body) 1 chunks.flatten) :
    ¬Returned (header hi lo ++ body)
      (exec step (.start true true memoryAlloc pStr length timeout) chunks) := by
  have hreached : Reached (.start true true memoryAlloc pStr length timeout) := .start
  have hoff : OffTrack hi lo body chunks.flatten
      (.start true true memoryAlloc pStr length timeout) := .seeking (.preamble1 rfl hahead)
  exact (hoff.exec hreached).not_returned hreached.exec

/-- Within the time the receiver returns the frame behind the noise, however the bytes
arrive, exactly when the noise ends in an even number of first preamble bytes. -/
theorem resynchronises_iff (hsmall : lengthField hi lo < rxMaxPayloadSize)
    (hbody : body.length = lengthField hi lo + 2) (hfree : PairFree noise)
    (hroom : 4 + body.length ≤ length)
    (halloc : memoryAlloc (lengthField hi lo + 2) = some payload)
    (hchunks : chunks.flatten = noise ++ (header hi lo ++ body))
    (htime : gaps chunks + 1 < timeout) (hk : timeout + chunks.flatten.length < k) :
    Returned (header hi lo ++ body)
        (exec step (.start true true memoryAlloc pStr length timeout)
          (chunks ++ List.replicate k [])) ↔
      trailing noise % 2 = 0 := by
  have hahead : Ahead (header hi lo ++ body) (trailing noise % 2)
      (chunks ++ List.replicate k []).flatten :=
    ⟨noise, hfree, rfl, flatten_silence.trans hchunks⟩
  constructor
  · intro hreturned
    by_contra hodd
    rw [Nat.mod_two_ne_zero.mp hodd] at hahead
    exact start_missed hahead hreturned
  · intro heven
    rw [heven] at hahead
    have hreached : Reached (.start true true memoryAlloc pStr length timeout) := .start
    have hwork := hreached.exec_work_le chunks
    refine start_returned hsmall hbody hahead hroom halloc ?_ ?_
    · rw [gaps_silence]
      exact htime
    · rw [exec, List.foldl_append]
      exact hreached.exec.ended_of_silence (hwork.trans_lt hk)

def pairThenFrame : List (List UInt8) := [[0xAA, 0xAA, 0xAA], [0x55, 0], [0, 7, 8]]

theorem pair_resynchronises :
    Returned (header 0 0 ++ [7, 8])
        (exec step (.start true true (fun _ => some fun _ => 0) (fun _ => 0) 6 2)
          (pairThenFrame ++ List.replicate 11 [])) ↔
      trailing [0xAA, 0xAA] % 2 = 0 :=
  resynchronises_iff (by decide) rfl (by rw [PairFree]; decide) (by decide) rfl rfl (by decide)
    (by decide)

theorem one_byte_misses :
    ¬∀ (hi lo : UInt8) (body noise : List UInt8) (memoryAlloc : Nat → Option (Memory UInt8))
      (pStr payload : Memory UInt8) (length timeout k : Nat) (chunks : List (List UInt8)),
        lengthField hi lo < rxMaxPayloadSize → body.length = lengthField hi lo + 2 →
          PairFree noise → 4 + body.length ≤ length →
            memoryAlloc (lengthField hi lo + 2) = some payload →
              chunks.flatten = noise ++ (header hi lo ++ body) → gaps chunks + 1 < timeout →
                timeout + chunks.flatten.length < k →
                  Returned (header hi lo ++ body)
                    (exec step (.start true true memoryAlloc pStr length timeout)
                      (chunks ++ List.replicate k [])) := by
  intro h
  have hreturned := h 0 0 [7, 8] [0xAA] (fun _ => some fun _ => 0) (fun _ => 0) (fun _ => 0) 6 2 10
    [[0xAA], [0xAA, 0x55, 0, 0, 7, 8]] (by decide) rfl (by rw [PairFree]; decide) (by decide) rfl
    rfl (by decide) (by decide)
  exact absurd hreturned.result (by decide)

end Call

end SystemMaster.Avds.Receiver
