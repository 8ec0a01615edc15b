import SystemMaster.Avds.Requests
import SystemMaster.Library.Crc

/-!
# A reply that the line has changed

The CRC of an AVDS reply is a register of sixteen bits fed with the body and then with
the CRC itself, which leaves it at zero. A reply whose length is right is not published
when up to three of its bits are changed, or any within sixteen in a row.
-/

namespace SystemMaster.Avds.Requests

open Codec Crc

def poly : BitVec 16 := 0x1021#16

def wireBits (bytes : List UInt8) : List Bool := bytes.flatMap fun b => bits b.toBitVec

def Request.replyBits (r : Request) (m : Memory UInt8) : List Bool :=
  wireBits (m.read 4 (r.replySize + 2))

def Request.lineError (r : Request) (sent received : Memory UInt8) : List Bool :=
  List.zipWith xor (r.replyBits sent) (r.replyBits received)

variable {accelerator : List UInt8 → UInt32} {r : Request} {e : Exchange} {m : Memory UInt8}
  {crc : UInt16} {byte high low : UInt8} {xs ys : List UInt8}

-- ---------------------------------------------------------------------------
-- The CRC as a register
-- ---------------------------------------------------------------------------

theorem toBitVec_crcBit (crc : UInt16) : (crcBit crc).toBitVec = shift poly crc.toBitVec := by
  have hmask : (crc &&& 0x8000).toBitVec =
      if crc.toBitVec.msb then BitVec.twoPow 16 15 else 0#16 := by
    rw [BitVec.msb_eq_getLsbD_last, ← BitVec.and_twoPow]
    rfl
  simp only [crcBit, shift, ← UInt16.toBitVec_inj, hmask]
  cases crc.toBitVec.msb with
  | false => simp
  | true =>
    rw [if_pos rfl, if_pos rfl, if_neg (by decide)]
    simp [poly]

theorem pack_byte (byte : UInt8) : pack 16 (bits byte.toBitVec) = (byte.toUInt16 <<< 8).toBitVec := by
  have hall : ∀ x : BitVec 8, pack 16 (bits x) = x.setWidth 16 <<< 8 := by decide +kernel
  rw [hall]
  simp

theorem toBitVec_crcByte (crc : UInt16) (byte : UInt8) :
    (crcByte crc byte).toBitVec = register poly crc.toBitVec (bits byte.toBitVec) := by
  rw [register_eq_iterate (by simp), pack_byte, bits_length]
  simp only [crcByte, Nat.repeat, toBitVec_crcBit, Function.iterate_succ_apply',
    Function.iterate_zero, id, UInt16.toBitVec_xor]

theorem toBitVec_foldl (bytes : List UInt8) (crc : UInt16) :
    (bytes.foldl crcByte crc).toBitVec = register poly crc.toBitVec (wireBits bytes) := by
  induction bytes generalizing crc with
  | nil => rfl
  | cons byte bytes ih => simp [wireBits, ih, toBitVec_crcByte]

@[simp] theorem wireBits_append : wireBits (xs ++ ys) = wireBits xs ++ wireBits ys :=
  List.flatMap_append

@[simp] theorem wireBits_length : (wireBits xs).length = 8 * xs.length := by
  simp [wireBits, List.length_flatMap, Nat.mul_comm]

theorem bits_be16 : bits (be16.decode [high, low]).toBitVec = wireBits [high, low] := by
  have hword : (be16.decode [high, low]).toBitVec = high.toBitVec ++ low.toBitVec := by
    have hdecode : (be16.decode [high, low]).toNat = low.toNat + 256 * high.toNat := by
      have hlow := low.toNat_lt
      have hhigh := high.toNat_lt
      change (UInt16.ofNat (low.toNat + 256 * (high.toNat + 256 * 0))).toNat = _
      rw [UInt16.toNat_ofNat_of_lt' (show _ < 65536 by omega)]
      omega
    apply BitVec.eq_of_toNat_eq
    rw [UInt16.toNat_toBitVec, hdecode, BitVec.toNat_append, Nat.shiftLeft_eq,
      Nat.mul_comm high.toBitVec.toNat, ← Nat.two_pow_add_eq_or_of_lt low.toBitVec.isLt]
    exact Nat.add_comm ..
  rw [hword, bits_append]
  simp [wireBits]

theorem validReply_iff : ValidReply r m ↔ register poly 0xFFFF#16 (r.replyBits m) = 0#16 := by
  obtain ⟨high, low, hcrc⟩ : ∃ high low, m.read (4 + r.replySize) 2 = [high, low] :=
    List.length_eq_two.mp (Memory.read_length ..)
  have hpoly : poly.getLsbD 0 = true := rfl
  rw [Request.replyBits, Memory.read_append, hcrc, wireBits_append, register_append, ← bits_be16,
    register_bits_eq_zero_iff hpoly, ValidReply, hcrc, crc16Ccitt, ← UInt16.toBitVec_inj,
    toBitVec_foldl, eq_comm]
  rfl

-- ---------------------------------------------------------------------------
-- Small errors
-- ---------------------------------------------------------------------------

theorem poly_odd : odd (bits poly) = true := by decide

theorem poly_order : ∀ n < 160, (shift poly)^[n + 1] (top 16 true) ≠ top 16 true := by
  decide +kernel

theorem replyBits_length : (r.replyBits m).length = 8 * (r.replySize + 2) := by
  simp [Request.replyBits]

theorem lineError_length {sent received : Memory UInt8} :
    (r.lineError sent received).length = 8 * (r.replySize + 2) := by
  simp [Request.lineError, replyBits_length]

theorem not_validReply_of_small {sent received : Memory UInt8} (hvalid : ValidReply r sent)
    (herror : Small 16 (r.lineError sent received)) : ¬ ValidReply r received := by
  intro hreceived
  rw [validReply_iff] at hvalid hreceived
  have hsize : r.replySize ≤ 9 := by cases r <;> simp [Request.replySize]
  have hdifference : register poly 0#16 (List.zipWith xor (r.replyBits sent) (r.replyBits received)) =
      register poly 0xFFFF#16 (r.replyBits sent) ^^^ register poly 0xFFFF#16 (r.replyBits received) :=
    register_difference (replyBits_length.trans replyBits_length.symm)
  refine register_small rfl poly_odd (fun n hn => poly_order n ?_) herror ?_
  · rw [lineError_length] at hn
    omega
  · rw [Request.lineError, hdifference, hvalid, hreceived, BitVec.xor_self]

theorem validReply_of_publish (hcalc : ∀ bs, lowHalf (accelerator bs) = crc16Ccitt bs)
    (hlength : (replyLength e.reply).toNat = r.replySize)
    (h : (publish accelerator r e).isSome) : ValidReply r e.reply := by
  obtain ⟨-, -, hcrc, -⟩ := (publish_isSome hcalc).mp h
  rw [ValidReply, ← replyCrc_eq, ← hcrc, hlength, hostOrder_body]

/-- A valid reply that the line changes in one to three bits of its body and CRC, or
anyhow within sixteen bits in a row, is never published; unchanged it is, when the CRC
could be computed. -/
theorem small_error_dropped (accelerator : List UInt8 → UInt32)
    (hcalc : ∀ bs, lowHalf (accelerator bs) = crc16Ccitt bs) (r : Request) (e : Exchange)
    (sent : Memory UInt8) (hvalid : ValidReply r sent)
    (hlength : (replyLength sent).toNat = r.replySize)
    (hheader : e.reply.read 2 2 = sent.read 2 2) :
    (Small 16 (r.lineError sent e.reply) → publish accelerator r e = none) ∧
      (e.reply = sent → e.transferOk → e.replyCrc.computes → r ≠ .initializeCommunications →
        r ≠ .ping → (publish accelerator r e).isSome) := by
  have hlength' : (replyLength e.reply).toNat = r.replySize := by
    rw [← hlength, replyLength, replyLength, load, load]
    change (ntohs (u16.decode (e.reply.read 2 2))).toNat = _
    rw [hheader]
    rfl
  constructor
  · intro herror
    have hinvalid := not_validReply_of_small hvalid herror
    rw [← Option.not_isSome_iff_eq_none]
    exact fun h => hinvalid (validReply_of_publish hcalc hlength' h)
  · rintro rfl hok hcomputes hinit hping
    refine (publish_isSome hcalc).mpr ⟨hok, hcomputes, ?_, hinit, hping⟩
    rw [hlength', hostOrder_body, replyCrc_eq]
    exact hvalid.symm

/-- The reply to a change of channel, with a bit of its result changed. -/
def changedReply (result : UInt8) : Memory UInt8 :=
  fun i => [0xAA, 0x55, 0, 5, 0x10, 0, 0, 0, result, 0x15, 0x56].getD i 0

theorem small_error_dropped_one_bit :
    Small 16 (Request.lineError (.setChannel 1 1 1) (changedReply 0) (changedReply 4)) ∧
      publish (fun bs => (crc16Ccitt bs).toUInt32) (.setChannel 1 1 1)
        ⟨⟨true, true⟩, ⟨true, true⟩, 0, true, changedReply 4⟩ = none := by
  have herror : Small 16 (Request.lineError (.setChannel 1 1 1) (changedReply 0) (changedReply 4)) :=
    .few _ (by decide) (by decide)
  exact ⟨herror, (small_error_dropped _ (fun _ => lowHalf_toUInt32 _) (.setChannel 1 1 1)
    ⟨⟨true, true⟩, ⟨true, true⟩, 0, true, changedReply 4⟩ (changedReply 0) (validReply_iff.mpr (by decide +kernel))
    (by decide) (by decide)).1 herror⟩

end SystemMaster.Avds.Requests
