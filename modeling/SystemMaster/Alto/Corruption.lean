import SystemMaster.Alto.Receiver

/-!
# One wrong character

A character of a frame's text replaced by another digit always shows in the
checksum. A character that is no digit leaves the nibble to a local that was
never set, and the frame is accepted when that holds the nibble by chance.
-/

namespace SystemMaster.Alto

open Codec

/-- The test of the callers of `xALTOFrame_convert_ASCII_to_binary`. They ignore
the value it returns, which is always zero. -/
def accepts (uninit : Nat → UInt8) (buffer64 : Memory UInt8) : Bool :=
  bccCheck (convertASCIIToBinary uninit buffer64).2 = 0

def IsHexDigit (c : UInt8) : Prop :=
  '0'.toUInt8 ≤ c ∧ c ≤ '9'.toUInt8 ∨ 'A'.toUInt8 ≤ c ∧ c ≤ 'F'.toUInt8 ∨
    'a'.toUInt8 ≤ c ∧ c ≤ 'f'.toUInt8

instance : DecidablePred IsHexDigit := fun _ => inferInstanceAs (Decidable (_ ∨ _))

def convertedByte (uninit : Nat → UInt8) (buffer64 : Memory UInt8) (k : Nat) : UInt8 :=
  asciiToChar (uninit (2 * k + 1)) (buffer64 (2 * k + 1)) |||
    (asciiToChar (uninit (2 * k)) (buffer64 (2 * k)) <<< 4)

variable {f : Frame} {m : Memory UInt8} {uninit : Nat → UInt8} {i k : Nat} {b c n u : UInt8}
  {xs : List UInt8}

theorem frame_onto : Frame.codec.Onto :=
  (u8_onto.prod <| u8_onto.prod <| u8_onto.prod <| u8_onto.prod <| u8_onto.prod <|
    (u8_onto.vector dataPayloadSize).prod u8_onto).map fun _ => rfl

theorem bytes_convertASCIIToBinary (m : Memory UInt8) :
    (convertASCIIToBinary uninit m).2.bytes = (List.range 32).map (convertedByte uninit m) :=
  frame_onto _ (by rw [List.length_map, List.length_range]; rfl)

theorem xorAll_set (hk : k < xs.length) : xorAll (xs.set k b) = xorAll xs ^^^ (xs[k] ^^^ b) := by
  have hone : ∀ x, xorAll [x] = x := fun x => UInt8.zero_xor
  have hsplit : xs = xs.take k ++ [xs[k]] ++ xs.drop (k + 1) := by
    rw [List.append_assoc, List.singleton_append, ← List.drop_eq_getElem_cons hk,
      List.take_append_drop]
  have hset : xs.set k b = xs.take k ++ [b] ++ xs.drop (k + 1) := by
    rw [List.set_eq_take_append_cons_drop, if_pos hk, List.append_assoc, List.singleton_append]
  have hxs : xorAll xs = xorAll (xs.take k) ^^^ xs[k] ^^^ xorAll (xs.drop (k + 1)) := by
    conv_lhs => rw [hsplit]
    rw [xorAll_append, xorAll_append, hone]
  rw [hset, xorAll_append, xorAll_append, hone, hxs]
  have hcancel : xs[k] ^^^ (xs[k] ^^^ b) = b := by
    rw [← UInt8.xor_assoc, UInt8.xor_self, UInt8.zero_xor]
  calc xorAll (xs.take k) ^^^ b ^^^ xorAll (xs.drop (k + 1))
      = xorAll (xs.take k) ^^^ (xs[k] ^^^ (xs[k] ^^^ b)) ^^^ xorAll (xs.drop (k + 1)) := by
        rw [hcancel]
    _ = _ := by ac_rfl

theorem xorAll_set_eq_zero_iff (hzero : xorAll xs = 0) (hk : k < xs.length) :
    xorAll (xs.set k b) = 0 ↔ b = xs[k] := by
  rw [xorAll_set hk, hzero, UInt8.zero_xor, UInt8.xor_eq_zero_iff, eq_comm]

-- ---------------------------------------------------------------------------
-- Nibbles
-- ---------------------------------------------------------------------------

theorem asciiToChar_of_hexDigit (h : IsHexDigit c) : asciiToChar u c = asciiToChar 0 c := by
  unfold asciiToChar
  split
  · rfl
  · split
    · rfl
    · have hlower := (h.resolve_left ‹_›).resolve_left ‹_›
      rw [if_pos hlower, if_pos hlower]

theorem asciiToChar_of_not_hexDigit (h : ¬IsHexDigit c) : asciiToChar u c = u := by
  obtain ⟨hdigit, hrest⟩ := not_or.mp h
  obtain ⟨hupper, hlower⟩ := not_or.mp hrest
  rw [asciiToChar, if_neg hdigit, if_neg hupper, if_neg hlower]

theorem asciiToChar_hex2Ascii (b : UInt8) :
    asciiToChar u (hex2Ascii (b &&& 0x0F)) = b &&& 0x0F := by
  rw [asciiToChar_of_digit u (hex2Ascii_digit b)]
  revert b
  exact forall_byte (by decide +kernel)

theorem low_lt (b : UInt8) : (b &&& 0x0F : UInt8) < 16 := by
  rw [UInt8.lt_iff_toNat_lt, UInt8.toNat_and]
  exact Nat.lt_of_le_of_lt Nat.and_le_right (by decide)

theorem asciiToChar_ne (h : IsHexDigit c) (hc : toCapital c ≠ hex2Ascii (b &&& 0x0F)) :
    asciiToChar u c ≠ b &&& 0x0F ∧ asciiToChar u c < 16 := by
  have hnibble : ∀ c : UInt8, IsHexDigit c → ∀ k < 16, toCapital c ≠ hex2Ascii (UInt8.ofNat k) →
      asciiToChar 0 c ≠ UInt8.ofNat k ∧ asciiToChar 0 c < 16 :=
    forall_byte (by decide +kernel)
  rw [asciiToChar_of_hexDigit h]
  simpa [hc] using hnibble c h _ (UInt8.lt_iff_toNat_lt.mp (low_lt b))

theorem nibbles (b : UInt8) : (b &&& 0x0F : UInt8) ||| ((b >>> 4 &&& 0x0F) <<< 4) = b := by
  revert b
  exact forall_byte (by decide +kernel)

theorem nibbles_or {lo hi : UInt8} (hlo : lo < 16) (hhi : hi < 16) :
    (lo ||| (hi <<< 4)) &&& 0x0F = lo ∧ (lo ||| (hi <<< 4)) >>> 4 &&& 0x0F = hi := by
  have hall : ∀ i < 16, ∀ j < 16,
      (UInt8.ofNat i ||| (UInt8.ofNat j <<< 4)) &&& 0x0F = UInt8.ofNat i ∧
        (UInt8.ofNat i ||| (UInt8.ofNat j <<< 4)) >>> 4 &&& 0x0F = UInt8.ofNat j := by
    decide +kernel
  simpa using hall lo.toNat (UInt8.lt_iff_toNat_lt.mp hlo) hi.toNat
    (UInt8.lt_iff_toNat_lt.mp hhi)

theorem low_nibble_eq_iff (hn : n < 16) :
    n ||| ((b >>> 4 &&& 0x0F) <<< 4) = b ↔ n = b &&& 0x0F := by
  constructor
  · intro h
    have hlow := (nibbles_or hn (low_lt (b >>> 4))).1
    rw [h] at hlow
    exact hlow.symm
  · rintro rfl
    exact nibbles b

theorem high_nibble_eq_iff (hn : n < 16) :
    (b &&& 0x0F : UInt8) ||| (n <<< 4) = b ↔ n = b >>> 4 &&& 0x0F := by
  constructor
  · intro h
    have hhigh := (nibbles_or (low_lt b) hn).2
    rw [h] at hhigh
    exact hhigh.symm
  · rintro rfl
    exact nibbles b

-- ---------------------------------------------------------------------------
-- One character
-- ---------------------------------------------------------------------------

theorem convertedByte_bodyASCII (hk : k < f.bytes.length) :
    convertedByte uninit (m.write 0 (bodyASCII f)) k = f.bytes[k] := by
  have hbytes : (convertASCIIToBinary uninit (m.write 0 (bodyASCII f))).2.bytes = _ :=
    bytes_convertASCIIToBinary (m.write 0 (bodyASCII f))
  rw [convertASCIIToBinary_bodyASCII] at hbytes
  simp [hbytes]

theorem bodyASCII_at (hk : k < f.bytes.length) :
    m.write 0 (bodyASCII f) (2 * k) = hex2Ascii (f.bytes[k] >>> 4 &&& 0x0F) ∧
      m.write 0 (bodyASCII f) (2 * k + 1) = hex2Ascii (f.bytes[k] &&& 0x0F) := by
  have hread := read_bodyASCII (m := m) hk
  rw [Memory.read_succ, Memory.read_succ, Memory.read_zero, Nat.add_zero, List.nil_append,
    List.singleton_append, byteASCII, List.cons.injEq, List.cons.injEq] at hread
  exact ⟨hread.1, hread.2.1⟩

theorem accepts_update_iff (hf : bccCheck f = 0) (hk : k < f.bytes.length)
    (hi : i = 2 * k ∨ i = 2 * k + 1) :
    accepts uninit (Function.update (m.write 0 (bodyASCII f)) i c) ↔
      convertedByte uninit (Function.update (m.write 0 (bodyASCII f)) i c) k = f.bytes[k] := by
  have hset : (List.range 32).map (convertedByte uninit
      (Function.update (m.write 0 (bodyASCII f)) i c)) =
      f.bytes.set k (convertedByte uninit (Function.update (m.write 0 (bodyASCII f)) i c) k) := by
    refine List.ext_getElem (by simp) fun j hj hj' => ?_
    rw [List.length_set] at hj'
    rw [List.getElem_map, List.getElem_range, List.getElem_set]
    split
    case isTrue hjk => rw [hjk]
    case isFalse hjk =>
      have hbyte : convertedByte uninit (m.write 0 (bodyASCII f)) j = f.bytes[j] :=
        convertedByte_bodyASCII hj'
      rw [← hbyte, convertedByte, convertedByte, Function.update_of_ne (by omega),
        Function.update_of_ne (by omega)]
  rw [accepts, decide_eq_true_iff, bccCheck, bytes_convertASCIIToBinary, hset]
  exact xorAll_set_eq_zero_iff hf hk

theorem accepts_even_iff (hf : bccCheck f = 0) (hk : k < f.bytes.length) :
    accepts uninit (Function.update (m.write 0 (bodyASCII f)) (2 * k) c) ↔
      (f.bytes[k] &&& 0x0F : UInt8) ||| (asciiToChar (uninit (2 * k)) c <<< 4) = f.bytes[k] := by
  rw [accepts_update_iff hf hk (.inl rfl), convertedByte, Function.update_self,
    Function.update_of_ne (by omega), (bodyASCII_at hk).2, asciiToChar_hex2Ascii]

theorem accepts_odd_iff (hf : bccCheck f = 0) (hk : k < f.bytes.length) :
    accepts uninit (Function.update (m.write 0 (bodyASCII f)) (2 * k + 1) c) ↔
      asciiToChar (uninit (2 * k + 1)) c ||| ((f.bytes[k] >>> 4 &&& 0x0F) <<< 4) = f.bytes[k] := by
  rw [accepts_update_iff hf hk (.inr rfl), convertedByte, Function.update_self,
    Function.update_of_ne (by omega), (bodyASCII_at hk).1, asciiToChar_hex2Ascii]

/-- A valid frame with one character of its text replaced, other than by a change
of case, is rejected whatever the stray locals hold exactly when the character is
another digit. -/
theorem corrupted_rejected_iff (f : Frame) (m : Memory UInt8) (i : Nat) (c : UInt8)
    (hf : bccCheck f = 0) (hi : i < 64) (hc : (bodyASCII f)[i]? ≠ some (toCapital c)) :
    (∀ uninit, accepts uninit (m.write 0 ((bodyASCII f).set i c)) = false) ↔ IsHexDigit c := by
  have hset : m.write 0 ((bodyASCII f).set i c) =
      Function.update (m.write 0 (bodyASCII f)) i c := by
    rw [Memory.write_set (by simpa using hi), Nat.zero_add]
  have hold : m.write 0 (bodyASCII f) i ≠ toCapital c := by
    have hlt : i < (bodyASCII f).length := by simpa using hi
    have hin : m.write 0 (bodyASCII f) (0 + i) = (bodyASCII f)[i] := Memory.write_in hlt
    intro heq
    refine hc ?_
    rw [List.getElem?_eq_getElem (by simpa using hi), ← hin, Nat.zero_add, heq]
  rw [hset]
  simp only [← Bool.not_eq_true]
  obtain ⟨k, rfl | rfl⟩ := Nat.even_or_odd' i
  · have hk : k < f.bytes.length := by rw [f.bytes_length]; omega
    rw [(bodyASCII_at hk).1] at hold
    simp only [accepts_even_iff hf hk]
    by_cases h : IsHexDigit c
    · refine iff_of_true (fun uninit => ?_) h
      obtain ⟨hne, hlt⟩ := asciiToChar_ne (u := uninit (2 * k)) h hold.symm
      rw [high_nibble_eq_iff hlt]
      exact hne
    · refine iff_of_false (fun hall => hall (fun _ => f.bytes[k] >>> 4 &&& 0x0F) ?_) h
      rw [asciiToChar_of_not_hexDigit h]
      exact nibbles _
  · have hk : k < f.bytes.length := by rw [f.bytes_length]; omega
    rw [(bodyASCII_at hk).2] at hold
    simp only [accepts_odd_iff hf hk]
    by_cases h : IsHexDigit c
    · refine iff_of_true (fun uninit => ?_) h
      obtain ⟨hne, hlt⟩ := asciiToChar_ne (u := uninit (2 * k + 1)) h hold.symm
      rw [low_nibble_eq_iff hlt]
      exact hne
    · refine iff_of_false (fun hall => hall (fun _ => f.bytes[k] &&& 0x0F) ?_) h
      rw [asciiToChar_of_not_hexDigit h]
      exact nibbles _

def sampleFrame : Frame := bccFill ⟨5, 2, 0x0B, 0x41, 4, Vector.replicate dataPayloadSize 0xFF, 0⟩

theorem corrupted_rejected_digit :
    accepts (fun _ => 0x0B)
      (Memory.write (fun _ => 0) 0 ((bodyASCII sampleFrame).set 5 'c'.toUInt8)) = false :=
  (corrupted_rejected_iff sampleFrame (fun _ => 0) 5 'c'.toUInt8 (by decide +kernel) (by decide)
    (by decide +kernel)).mpr (by decide) _

/-- The digit `B` of the third byte has become a `G`. The frame is accepted or
rejected, as the stray local has it. -/
theorem corrupted_accepted :
    accepts (fun _ => 0x0B)
        (Memory.write (fun _ => 0) 0 ((bodyASCII sampleFrame).set 5 'G'.toUInt8)) = true ∧
      accepts (fun _ => 0)
        (Memory.write (fun _ => 0) 0 ((bodyASCII sampleFrame).set 5 'G'.toUInt8)) = false := by
  decide +kernel

end SystemMaster.Alto
