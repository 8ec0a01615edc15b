import SystemMaster.Avds.ReceiverStages

/-!
# The receiver of AVDS frames ends and keeps to its memory

Each turn takes a byte, uses up a tick or is the last one, and the time and the bytes
are finite. The block on the heap is there from the length of a frame to the end of the
receiver or of the time, and is freed there once.
-/

namespace SystemMaster.Avds.Receiver

open Runs

variable {r : Receiver} {chunk : List UInt8} {chunks : List (List UInt8)} {k : Nat}

/-- No operation was out of order, and at the end nothing is left on the heap. -/
structure Safe (r : Receiver) : Prop where
  inOrder : r.block ≠ none
  freed : r.running = false → r.block = some none

def work (r : Receiver) : Nat := r.timeout + r.uart.length

theorem Reached.safe (h : Reached r) : Safe r := by
  cases h.stage with
  | preamble1 _ _ _ _ hblock | preamble2 _ _ _ hblock | packetLength _ _ _ hblock
  | timedOut _ _ _ _ hblock | refused _ _ _ hblock | finished _ _ _ _ hblock =>
    exact ⟨by simp [hblock], fun _ => hblock⟩
  | payload hstate htimeout hcapturing | finish hstate htimeout hcapturing =>
    refine ⟨by simp [hcapturing.block], fun hrun => ?_⟩
    rcases h.ended hrun with hzero | hfinish | hfirst
    · exact absurd hzero htimeout
    · simp [hcapturing.unfinished] at hfinish
    · simp [hstate] at hfirst

theorem Turned.work_le {r' : Receiver} (h : Turned r r') : work r' ≤ work r := by
  cases h with
  | took _ _ _ huart _ htimeout =>
    rw [work, work, huart, htimeout, List.length_drop]
    omega
  | slept _ huart _ htimeout =>
    rw [work, work, huart, htimeout]
    omega
  | last _ huart _ htimeout _ => rw [work, work, huart, htimeout]

theorem Turned.work_lt {r' : Receiver} (h : Turned r r') (htimeout' : r'.timeout ≠ 0)
    (hfinish : r'.isFinish = false) : work r' < work r := by
  cases h with
  | took hpos hle _ huart _ htimeout =>
    rw [work, work, huart, htimeout, List.length_drop]
    omega
  | slept _ huart _ htimeout =>
    rw [work, work, huart, htimeout]
    omega
  | last _ _ _ _ hfinish' => simp [hfinish] at hfinish'

theorem work_arrive : work (r.arrive chunk) = work r + chunk.length := by
  simp [work, arrive, Nat.add_assoc]

theorem Reached.step_work_le (h : Reached r) (chunk : List UInt8) :
    work (r.step chunk) ≤ work r + chunk.length := by
  rw [← work_arrive]
  cases hrun : r.running with
  | false => rw [step_of_ended hrun]
  | true =>
    rw [step_of_running hrun]
    exact (turn_turned (h.arrive chunk) hrun).work_le

theorem Reached.step_work_lt (h : Reached r) (hrun : r.running = true)
    (hnext : (r.step chunk).running = true) : work (r.step chunk) < work r + chunk.length := by
  rw [← work_arrive]
  rw [step_of_running hrun] at hnext ⊢
  simp only [Bool.and_eq_true, decide_eq_true_eq, Bool.not_eq_true'] at hnext
  exact (turn_turned (h.arrive chunk) hrun).work_lt hnext.1 hnext.2

theorem Reached.exec (h : Reached r) : Reached (Runs.exec Receiver.step r chunks) :=
  exec_inv h fun _ chunk h => h.step chunk

theorem Reached.exec_work_le (h : Reached r) (chunks : List (List UInt8)) :
    work (Runs.exec Receiver.step r chunks) ≤ work r + chunks.flatten.length := by
  induction chunks generalizing r with
  | nil => exact Nat.le_refl _
  | cons chunk chunks ih =>
    have hstep := h.step_work_le chunk
    have hrest := ih (h.step chunk)
    rw [exec_cons, List.flatten_cons, List.length_append]
    omega

theorem Reached.ended_of_silence (h : Reached r) (hk : work r < k) :
    (Runs.exec Receiver.step r (List.replicate k [])).running = false := by
  refine exec_ended (E := fun r : Receiver => r.running = false) (m := work) h
    (fun _ chunk h => h.step chunk) ?_ ?_ (by simpa using hk)
  · intro r chunk hended
    rw [step_of_ended hended]
    exact hended
  · intro r h chunk hchunk
    cases hnext : (r.step chunk).running with
    | false => exact .inl rfl
    | true =>
      have hrun : r.running = true := by
        by_contra hended
        rw [step_of_ended (Bool.eq_false_iff.mpr hended)] at hnext
        exact hended hnext
      have hwork := h.step_work_lt hrun hnext
      rw [List.eq_of_mem_replicate hchunk] at hwork ⊢
      exact .inr hwork

theorem Reached.result_le (h : Reached r) : r.result ≤ max r.counterRead 1 := by
  by_cases hcount : r.counterRead = 0
  · have hret : r.retValue ≤ 1 := by
      cases h.stage with
      | preamble1 _ _ _ hret => exact hret
      | preamble2 _ _ hmatched | packetLength _ _ hmatched =>
        have hpos := hmatched.counted
        simp [hcount] at hpos
      | payload _ _ hcapturing | finish _ _ hcapturing =>
        have hpos := hcapturing.counted
        omega
      | timedOut _ _ hcopied | finished _ _ hcopied =>
        have hpos := hcopied.counted
        omega
      | refused _ _ hpos => omega
    simp [result, hcount, hret]
  · rw [result, if_pos hcount]
    exact Nat.le_max_left _ _

/-- However the bytes arrive, the receiver ends once as many turns have found nothing as
there are ticks and bytes; it frees what it allocates once, with its size, and writes
within the caller's buffer and the payload. -/
theorem receiver_safe (opened pend : Bool) (memoryAlloc : Nat → Option (Memory UInt8))
    (pStr : Memory UInt8) (length timeout : Nat) (chunks : List (List UInt8)) :
    (∀ k, timeout + chunks.flatten.length < k →
      (exec step (.start opened pend memoryAlloc pStr length timeout)
        (chunks ++ List.replicate k [])).running = false) ∧
      Always step Safe (.start opened pend memoryAlloc pStr length timeout) chunks := by
  have hstart : Reached (.start opened pend memoryAlloc pStr length timeout) := .start
  constructor
  · intro k hk
    have hwork := hstart.exec_work_le chunks
    rw [exec, List.foldl_append]
    exact hstart.exec.ended_of_silence (hwork.trans_lt hk)
  · intro ks _
    exact hstart.exec.safe

end SystemMaster.Avds.Receiver
