import SystemMaster.Avds.ReceiverStages
import Mathlib.Data.List.Infix

/-!
# The search for a frame

In `preamble2` a byte other than `0x55` goes back to `preamble1` and is gone, also when
it is `0xAA` and could begin the preamble itself. So the receiver takes the `0xAA`s at the
end of the noise in pairs, and an odd one pairs with the first byte of the frame.
-/

namespace SystemMaster.Avds.Receiver

def PairFree (noise : List UInt8) : Prop := ¬[rxPreamble1, rxPreamble2] <:+: noise

def trailing (noise : List UInt8) : Nat :=
  (noise.reverse.takeWhile (· = rxPreamble1)).length

def Ahead (frame : List UInt8) (parity : Nat) (todo : List UInt8) : Prop :=
  ∃ noise, PairFree noise ∧ trailing noise % 2 = parity ∧ todo = noise ++ frame

/-- In `preamble2` the byte taken last may be the first of the frame. -/
inductive Seeking (frame : List UInt8) (parity : Nat) (todo : List UInt8) (r : Receiver) : Prop
  | preamble1 (hstate : r.state = .preamble1) (hahead : Ahead frame parity todo)
  | preamble2 (hstate : r.state = .preamble2) (hahead : Ahead frame parity (rxPreamble1 :: todo))

variable {r : Receiver} {hi lo byte : UInt8} {body noise frame todo rest : List UInt8}
  {parity : Nat}

-- ---------------------------------------------------------------------------
-- What is ahead of the receiver
-- ---------------------------------------------------------------------------

theorem PairFree.of_cons (h : PairFree (byte :: noise)) : PairFree noise :=
  fun hwithin => h (hwithin.trans (List.suffix_cons byte noise).isInfix)

theorem trailing_le (noise : List UInt8) : trailing noise ≤ noise.length := by
  have hle := (List.takeWhile_prefix (decide <| · = rxPreamble1) (l := noise.reverse)).length_le
  rwa [List.length_reverse] at hle

theorem trailing_cons :
    trailing (byte :: noise) =
      trailing noise + if trailing noise = noise.length ∧ byte = rxPreamble1 then 1 else 0 := by
  unfold trailing
  rw [List.reverse_cons, List.takeWhile_append, List.length_reverse]
  by_cases hall : (noise.reverse.takeWhile (· = rxPreamble1)).length = noise.length
  · by_cases hbyte : byte = rxPreamble1
    · simp [hall, hbyte]
    · simp [hall, hbyte]
  · simp [hall]

theorem trailing_pair :
    trailing (rxPreamble1 :: byte :: noise) % 2 = trailing noise % 2 := by
  have hle := trailing_le noise
  rw [trailing_cons, trailing_cons, List.length_cons]
  by_cases hpair : trailing noise = noise.length ∧ byte = rxPreamble1
  · obtain ⟨hall, rfl⟩ := hpair
    simp [hall, Nat.add_assoc]
  · have hne : ¬(trailing noise + 0 = noise.length + 1 ∧ rxPreamble1 = rxPreamble1) := by omega
    rw [if_neg hpair, if_neg hne]
    rfl

theorem trailing_skip (hbyte : byte ≠ rxPreamble1) :
    trailing (byte :: noise) = trailing noise := by
  simp [trailing_cons, hbyte]

theorem Ahead.skip (h : Ahead (header hi lo ++ body) parity (byte :: todo))
    (hbyte : byte ≠ rxPreamble1) : Ahead (header hi lo ++ body) parity todo := by
  obtain ⟨noise, hfree, hparity, htodo⟩ := h
  cases noise with
  | nil => exact absurd (List.cons.inj htodo).1 hbyte
  | cons b noise =>
    simp only [List.cons_append, List.cons.injEq] at htodo
    obtain ⟨rfl, htodo⟩ := htodo
    exact ⟨noise, hfree.of_cons, (trailing_skip hbyte) ▸ hparity, htodo⟩

theorem Ahead.preamble
    (h : Ahead (header hi lo ++ body) parity (rxPreamble1 :: rxPreamble2 :: todo)) :
    parity = 0 ∧ todo = hi :: lo :: body := by
  obtain ⟨noise, hfree, hparity, htodo⟩ := h
  match noise with
  | [] =>
    simp only [List.nil_append, header, List.cons_append, List.cons.injEq, true_and] at htodo
    exact ⟨hparity.symm, htodo⟩
  | [b] =>
    simp only [header, List.cons_append, List.nil_append, List.cons.injEq] at htodo
    exact absurd htodo.2.1 (by decide)
  | b :: c :: noise =>
    simp only [List.cons_append, List.cons.injEq] at htodo
    obtain ⟨rfl, rfl, _⟩ := htodo
    exact absurd ⟨[], noise, rfl⟩ hfree

theorem Ahead.pair (h : Ahead (header hi lo ++ body) parity (rxPreamble1 :: byte :: todo))
    (hbyte : byte ≠ rxPreamble2) :
    Ahead (header hi lo ++ body) parity todo ∨
      parity = 1 ∧ byte :: todo = header hi lo ++ body := by
  obtain ⟨noise, hfree, hparity, htodo⟩ := h
  match noise with
  | [] =>
    simp only [List.nil_append, header, List.cons_append, List.cons.injEq, true_and] at htodo
    exact absurd htodo.1 hbyte
  | [b] =>
    simp only [List.cons_append, List.nil_append, List.cons.injEq] at htodo
    obtain ⟨rfl, htodo⟩ := htodo
    exact .inr ⟨hparity.symm, htodo⟩
  | b :: c :: noise =>
    simp only [List.cons_append, List.cons.injEq] at htodo
    obtain ⟨rfl, rfl, htodo⟩ := htodo
    exact .inl ⟨noise, hfree.of_cons.of_cons, trailing_pair.symm.trans hparity, htodo⟩

theorem Ahead.four_le (h : Ahead (header hi lo ++ body) parity todo) : 4 ≤ todo.length := by
  obtain ⟨noise, _, _, rfl⟩ := h
  simp only [header, List.length_append, List.length_cons]
  omega

-- ---------------------------------------------------------------------------
-- A turn of the search
-- ---------------------------------------------------------------------------

theorem Seeking.with_uart (h : Seeking frame parity todo r) (uart : List UInt8) (running : Bool) :
    Seeking frame parity todo { r with uart := uart, running := running } := by
  cases h with
  | preamble1 hstate hahead => exact .preamble1 hstate hahead
  | preamble2 hstate hahead => exact .preamble2 hstate hahead

theorem Seeking.three_le (h : Seeking (header hi lo ++ body) parity todo r) : 3 ≤ todo.length := by
  cases h with
  | preamble1 _ hahead =>
    have hfour := hahead.four_le
    omega
  | preamble2 _ hahead =>
    have hfour := hahead.four_le
    rw [List.length_cons] at hfour
    omega

theorem Seeking.counterRead_le (h : Seeking frame parity todo r) (hreached : Reached r) :
    r.counterRead ≤ 1 := by
  have hstate : r.state = .preamble1 ∨ r.state = .preamble2 := by
    cases h with
    | preamble1 hstate => exact .inl hstate
    | preamble2 hstate => exact .inr hstate
  cases hreached.stage with
  | preamble1 _ _ hcount => omega
  | preamble2 _ _ hmatched => exact hmatched.counted.le
  | packetLength hstate' | payload hstate' | finish hstate' | timedOut hstate' | refused hstate'
  | finished hstate' => simp [hstate'] at hstate

theorem Reached.null (h : Reached r) (hrun : r.running = true)
    (hstate : r.state = .preamble1 ∨ r.state = .preamble2 ∨ r.state = .packetLength) :
    r.pPayload = none := by
  have hfinish := h.isFinish hrun
  cases h.stage with
  | preamble1 _ hnull | preamble2 _ hnull | packetLength _ hnull => exact hnull
  | payload hstate' | finish hstate' | timedOut hstate' => simp [hstate'] at hstate
  | refused _ hfinish' | finished _ hfinish' => simp [hfinish'] at hfinish

/-- The first byte of the frame was taken for the second one of a preamble. -/
def Missed (frame : List UInt8) (parity : Nat) (todo : List UInt8) (r : Receiver) : Prop :=
  parity = 1 ∧ r.counterRead = 0 ∧ todo.length < frame.length

def Found (hi lo : UInt8) (body : List UInt8) (parity : Nat) (todo : List UInt8) (r : Receiver) :
    Prop :=
  parity = 0 ∧ r.state = .packetLength ∧ todo = hi :: lo :: body

theorem preamble1_seeking (hnull : r.pPayload = none) (hstate : r.state = .preamble1)
    (hahead : Ahead (header hi lo ++ body) parity (r.uart ++ rest)) :
    Seeking (header hi lo ++ body) parity (r.preamble1.uart ++ rest) r.preamble1 ∧
      r.preamble1.isFinish = r.isFinish := by
  obtain ⟨_, hnext⟩ | ⟨xs, huart, hnext⟩ | ⟨byte, xs, hbyte, huart, hnext⟩ :=
    preamble1_cases hnull
  · rw [hnext]
    exact ⟨.preamble1 hstate hahead, rfl⟩
  · rw [huart, List.cons_append] at hahead
    rw [hnext]
    refine ⟨.preamble2 rfl ?_, rfl⟩
    simpa [writeStr, uartRead, huart] using hahead
  · rw [huart, List.cons_append] at hahead
    rw [hnext]
    refine ⟨.preamble1 hstate ?_, rfl⟩
    simpa [uartRead, huart] using hahead.skip hbyte

theorem preamble2_seeking (hnull : r.pPayload = none) (hstate : r.state = .preamble2)
    (hahead : Ahead (header hi lo ++ body) parity (rxPreamble1 :: (r.uart ++ rest))) :
    (Seeking (header hi lo ++ body) parity (r.preamble2.uart ++ rest) r.preamble2 ∨
        Found hi lo body parity (r.preamble2.uart ++ rest) r.preamble2 ∨
        Missed (header hi lo ++ body) parity (r.preamble2.uart ++ rest) r.preamble2) ∧
      r.preamble2.isFinish = r.isFinish := by
  obtain ⟨_, hnext⟩ | ⟨xs, huart, hnext⟩ | ⟨byte, xs, hbyte, huart, hnext⟩ :=
    preamble2_cases hnull
  · rw [hnext]
    exact ⟨.inl (.preamble2 hstate hahead), rfl⟩
  · rw [huart, List.cons_append] at hahead
    obtain ⟨heven, htodo⟩ := hahead.preamble
    rw [hnext]
    refine ⟨.inr (.inl ⟨heven, rfl, ?_⟩), rfl⟩
    simpa [writeStr, uartRead, huart] using htodo
  · rw [huart, List.cons_append] at hahead
    rw [hnext]
    refine ⟨?_, rfl⟩
    rcases hahead.pair hbyte with hrest | ⟨hodd, hframe⟩
    · refine .inl (.preamble1 rfl ?_)
      simpa [uartRead, huart] using hrest
    · refine .inr (.inr ⟨hodd, rfl, ?_⟩)
      rw [← hframe]
      simp [uartRead, huart]

theorem turn_seeking (h : Reached r) (hrun : r.running = true)
    (hseeking : Seeking (header hi lo ++ body) parity (r.uart ++ rest) r) :
    (Seeking (header hi lo ++ body) parity (r.turn.uart ++ rest) r.turn ∨
        Found hi lo body parity (r.turn.uart ++ rest) r.turn ∨
        Missed (header hi lo ++ body) parity (r.turn.uart ++ rest) r.turn) ∧
      r.turn.isFinish = false := by
  rw [← h.isFinish hrun]
  unfold turn
  cases hseeking with
  | preamble1 hstate hahead =>
    rw [hstate]
    obtain ⟨hnext, hfinish⟩ := preamble1_seeking (h.null hrun (.inl hstate)) hstate hahead
    exact ⟨.inl hnext, hfinish⟩
  | preamble2 hstate hahead =>
    rw [hstate]
    exact preamble2_seeking (h.null hrun (.inr (.inl hstate))) hstate hahead

end SystemMaster.Avds.Receiver
