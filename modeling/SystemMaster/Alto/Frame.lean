import SystemMaster.Library.Codec

/-!
# ALTO frames and their text

A frame is 32 bytes, the last of them the exclusive-or of the others. As text
it is `AA55`, two hexadecimal digits a byte, and an end of line.
-/

namespace SystemMaster.Alto

open Codec

def dataPayloadSize : Nat := 26

/-- `ALTO_Frame_t`; `sequence` is also the Multinet address. -/
structure Frame where
  classID : UInt8
  operationID : UInt8
  functionID : UInt8
  sequence : UInt8
  length : UInt8
  data : Vector UInt8 dataPayloadSize
  bcc : UInt8
  deriving DecidableEq

def Frame.codec : Codec Frame :=
  (u8.prod <| u8.prod <| u8.prod <| u8.prod <| u8.prod <| (u8.vector dataPayloadSize).prod u8).map
    (fun (a, b, c, d, e, f, g) => ⟨a, b, c, d, e, f, g⟩)
    (fun f => (f.classID, f.operationID, f.functionID, f.sequence, f.length, f.data, f.bcc))
    fun _ => rfl

def Frame.bytes (f : Frame) : List UInt8 := Frame.codec.encode f

@[simp] theorem Frame.bytes_length (f : Frame) : f.bytes.length = 32 := Frame.codec.encode_length f

def xorAll (bytes : List UInt8) : UInt8 := bytes.foldl (· ^^^ ·) 0

def bccCalculate (f : Frame) : UInt8 := xorAll (f.bytes.take (32 - 1))

def bccFill (f : Frame) : Frame := { f with bcc := bccCalculate f }

def bccCheck (f : Frame) : UInt8 := xorAll f.bytes

def hex2Ascii (x : UInt8) : UInt8 :=
  if 10 ≤ x then x - 10 + 'A'.toUInt8 else x + '0'.toUInt8

def startFrame : List UInt8 := ['A', 'A', '5', '5'].map Char.toUInt8

def cr : UInt8 := '\r'.toUInt8

def lf : UInt8 := '\n'.toUInt8

def byteASCII (byte : UInt8) : List UInt8 :=
  [hex2Ascii ((byte >>> 4) &&& 0x0F), hex2Ascii (byte &&& 0x0F)]

def bodyASCII (f : Frame) : List UInt8 := f.bytes.flatMap byteASCII

def createASCII (f : Frame) : List UInt8 := startFrame ++ bodyASCII f ++ [cr, lf]

/-- `cALTOFrame_ASCII_to_char`; on a character that is no digit it returns a
local it never set. -/
def asciiToChar (uninit ascii : UInt8) : UInt8 :=
  if '0'.toUInt8 ≤ ascii ∧ ascii ≤ '9'.toUInt8 then ascii - '0'.toUInt8
  else if 'A'.toUInt8 ≤ ascii ∧ ascii ≤ 'F'.toUInt8 then ascii - 'A'.toUInt8 + 0x0A
  else if 'a'.toUInt8 ≤ ascii ∧ ascii ≤ 'f'.toUInt8 then ascii - 'a'.toUInt8 + 0x0A
  else uninit

/-- `xALTOFrame_convert_ASCII_to_binary`: the value it returns and the frame.
`uninit` holds the stray local of each of its calls, by the character read. -/
def convertASCIIToBinary (uninit : Nat → UInt8) (buffer64 : Memory UInt8) : UInt32 × Frame :=
  let frame32 := (List.range 32).map fun i =>
    let lowNibble := asciiToChar (uninit (2 * i + 1)) (buffer64 (2 * i + 1))
    let highNibble := asciiToChar (uninit (2 * i)) (buffer64 (2 * i))
    lowNibble ||| (highNibble <<< 4)
  (0, Frame.codec.decode frame32)

variable {f : Frame} {xs ys : List UInt8}

theorem foldl_xor (x : UInt8) : xs.foldl (· ^^^ ·) x = x ^^^ xorAll xs := by
  induction xs generalizing x with
  | nil => simp [xorAll]
  | cons a xs ih =>
    have hcons : xorAll (a :: xs) = a ^^^ xorAll xs := by
      rw [← UInt8.zero_xor (a := a), ← ih]
      simp [xorAll]
    rw [List.foldl_cons, ih, hcons, UInt8.xor_assoc]

theorem xorAll_append : xorAll (xs ++ ys) = xorAll xs ^^^ xorAll ys := by
  rw [xorAll, List.foldl_append]
  exact foldl_xor _

theorem bytes_eq (f : Frame) :
    f.bytes = [f.classID, f.operationID, f.functionID, f.sequence, f.length] ++ f.data.toList ++
      [f.bcc] := by
  simp [Frame.bytes, Frame.codec, Codec.map, Codec.prod, Codec.vector, Codec.u8]

theorem take_bytes (f : Frame) :
    f.bytes.take (32 - 1) =
      [f.classID, f.operationID, f.functionID, f.sequence, f.length] ++ f.data.toList := by
  rw [bytes_eq, List.take_left' (by rw [List.length_append, f.data.length_toList]; rfl)]

theorem bccCheck_bccFill (f : Frame) : bccCheck (bccFill f) = 0 := by
  rw [bccCheck, bytes_eq, xorAll_append, ← take_bytes]
  have hbcc : xorAll [(bccFill f).bcc] = xorAll (f.bytes.take (32 - 1)) := by
    simp [xorAll, bccFill, bccCalculate]
  rw [hbcc, take_bytes, take_bytes]
  exact UInt8.xor_self

-- ---------------------------------------------------------------------------
-- The text
-- ---------------------------------------------------------------------------

theorem forall_byte {P : UInt8 → Prop} (h : ∀ n < 256, P (UInt8.ofNat n)) (b : UInt8) : P b := by
  simpa using h b.toNat b.toNat_lt

theorem asciiToChar_of_digit {ascii : UInt8} (uninit : UInt8)
    (h : '0'.toUInt8 ≤ ascii ∧ ascii ≤ '9'.toUInt8 ∨ 'A'.toUInt8 ≤ ascii ∧ ascii ≤ 'F'.toUInt8) :
    asciiToChar uninit ascii = asciiToChar 0 ascii := by
  rcases h with h | h <;> simp only [asciiToChar, if_pos h]

theorem hex2Ascii_digit (byte : UInt8) :
    '0'.toUInt8 ≤ hex2Ascii (byte &&& 0x0F) ∧ hex2Ascii (byte &&& 0x0F) ≤ '9'.toUInt8 ∨
      'A'.toUInt8 ≤ hex2Ascii (byte &&& 0x0F) ∧ hex2Ascii (byte &&& 0x0F) ≤ 'F'.toUInt8 := by
  revert byte
  exact forall_byte (by decide +kernel)

theorem byteASCII_digit (byte : UInt8) :
    ∀ c ∈ byteASCII byte,
      '0'.toUInt8 ≤ c ∧ c ≤ '9'.toUInt8 ∨ 'A'.toUInt8 ≤ c ∧ c ≤ 'F'.toUInt8 := by
  rw [byteASCII, List.forall_mem_cons, List.forall_mem_singleton]
  exact ⟨hex2Ascii_digit (byte >>> 4), hex2Ascii_digit byte⟩

theorem asciiToChar_byteASCII (uninit uninit' byte : UInt8) :
    asciiToChar uninit' (hex2Ascii (byte &&& 0x0F)) |||
      (asciiToChar uninit (hex2Ascii ((byte >>> 4) &&& 0x0F)) <<< 4) = byte := by
  rw [asciiToChar_of_digit uninit' (byteASCII_digit byte _ (by simp [byteASCII])),
    asciiToChar_of_digit uninit (byteASCII_digit byte _ (by simp [byteASCII]))]
  revert byte
  exact forall_byte (by decide +kernel)

@[simp] theorem bodyASCII_length : (bodyASCII f).length = 64 := by
  simp [bodyASCII, List.length_flatMap, byteASCII]

theorem bodyASCII_digit {c : UInt8} (h : c ∈ bodyASCII f) :
    '0'.toUInt8 ≤ c ∧ c ≤ '9'.toUInt8 ∨ 'A'.toUInt8 ≤ c ∧ c ≤ 'F'.toUInt8 := by
  obtain ⟨byte, _, hc⟩ := List.mem_flatMap.mp h
  exact byteASCII_digit byte c hc

theorem cr_notMem_bodyASCII : cr ∉ bodyASCII f := fun h => by
  have := bodyASCII_digit h
  revert this
  decide

theorem read_bodyASCII {m : Memory UInt8} {i : Nat} (hi : i < f.bytes.length) :
    (m.write 0 (bodyASCII f)).read (2 * i) 2 = byteASCII f.bytes[i] := by
  have hlen := f.bytes_length
  have hall := Memory.read_write m 0 (bodyASCII f)
  rw [bodyASCII_length] at hall
  rw [← Codec.drop_take_flatMap (g := byteASCII) (k := 2) (fun _ => rfl), ← bodyASCII, ← hall,
    Memory.read_drop (by omega), Memory.read_take (by omega), hall, Nat.zero_add, Nat.mul_comm]

theorem convertASCIIToBinary_bodyASCII (uninit : Nat → UInt8) (m : Memory UInt8) :
    convertASCIIToBinary uninit (m.write 0 (bodyASCII f)) = (0, f) := by
  have hbytes : (List.range 32).map (fun i =>
      asciiToChar (uninit (2 * i + 1)) ((m.write 0 (bodyASCII f)) (2 * i + 1)) |||
        (asciiToChar (uninit (2 * i)) ((m.write 0 (bodyASCII f)) (2 * i)) <<< 4)) = f.bytes := by
    refine List.ext_getElem (by simp) fun i hi hi' => ?_
    have hread := read_bodyASCII (m := m) hi'
    rw [Memory.read_succ, Memory.read_succ, Memory.read_zero, Nat.add_zero, List.nil_append,
      List.singleton_append, byteASCII, List.cons.injEq, List.cons.injEq] at hread
    rw [List.getElem_map, List.getElem_range, hread.1, hread.2.1]
    exact asciiToChar_byteASCII _ _ _
  rw [convertASCIIToBinary, hbytes, Frame.bytes, Frame.codec.decode_encode]

end SystemMaster.Alto
