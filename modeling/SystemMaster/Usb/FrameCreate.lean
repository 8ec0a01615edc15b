import SystemMaster.Library.LittleEndian
import SystemMaster.Usb.Grammar

/-!
# Building frames and sending them back

`xUSBRCBinaryCMD_frameCreate` writes a preamble, a type word, the payload in
whole words, a word that makes the word sum zero, and the terminator. Nothing
in the payload is escaped, so that a frame comes back through the receiver
only when no terminator shows up before its own.
-/

namespace SystemMaster.Usb

open LittleEndian Search

/-- The loop of `xUSBRCBinaryCMD_checksum` that adds four words a turn: where
`datos` points after it, and the sum. -/
def sumQuads (m : Memory UInt8) : Nat → Nat → UInt32 → Nat × UInt32
  | 0, datos, sum => (datos, sum)
  | i + 1, datos, sum =>
    let sum := sum + word m datos
    let sum := sum + word m (datos + 4)
    let sum := sum + word m (datos + 8)
    let sum := sum + word m (datos + 12)
    sumQuads m i (datos + 16) sum

def sumRest (m : Memory UInt8) : Nat → Nat → UInt32 → UInt32
  | 0, _, sum => sum
  | i + 1, datos, sum => sumRest m i (datos + 4) (sum + word m datos)

def checksum (m : Memory UInt8) (datos n : Nat) : UInt32 :=
  let (datos, sum) := sumQuads m (n / 4) datos 0
  sumRest m (n &&& 3) datos sum

variable {m : Memory UInt8} {datos n i : Nat} {sum : UInt32}

theorem sumQuads_eq : sumQuads m i datos sum =
    (datos + 16 * i, (words m datos (4 * i)).foldl (· + ·) sum) := by
  induction i generalizing datos sum with
  | zero => rfl
  | succ i ih =>
    have hfour : words m datos 4 =
        [word m datos, word m (datos + 4), word m (datos + 8), word m (datos + 12)] := by
      simp [words, List.range_succ]
    rw [sumQuads, ih, show 4 * (i + 1) = 4 + 4 * i by omega, words_add, List.foldl_append, hfour]
    simp only [List.foldl_cons, List.foldl_nil, Prod.mk.injEq, and_true]
    omega

theorem sumRest_eq : sumRest m i datos sum = (words m datos i).foldl (· + ·) sum := by
  induction i generalizing datos sum with
  | zero => rfl
  | succ i ih => rw [sumRest, ih, Nat.add_comm i 1, words_add, words_one, List.foldl_append]; rfl

theorem checksum_eq : checksum m datos n = (words m datos n).foldl (· + ·) 0 := by
  have hand : n &&& 3 = n % 4 := Nat.and_two_pow_sub_one_eq_mod n 2
  conv_rhs => rw [← Nat.div_add_mod n 4, words_add, List.foldl_append]
  rw [checksum, sumQuads_eq]
  simp only
  rw [sumRest_eq, hand]
  congr 2
  omega

-- ---------------------------------------------------------------------------
-- The frame
-- ---------------------------------------------------------------------------

/-- The loop of `xUSBRCBinaryCMD_frameCreate` over the payload words: the
buffer, `bufferptr`, the sum and `longitud` after it. -/
def copyWords (data : Memory UInt8) : Nat → Nat → Memory UInt8 → Nat → UInt32 → Nat →
    Memory UInt8 × Nat × UInt32 × Nat
  | 0, _, buffer, bufferptr, sum, longitud => (buffer, bufferptr, sum, longitud)
  | i + 1, datoptr, buffer, bufferptr, sum, longitud =>
    let temp := word data datoptr
    copyWords data i (datoptr + 4) (storeWord buffer bufferptr temp) (bufferptr + 4) (sum + temp)
      (longitud + 4)

/-- `xUSBRCBinaryCMD_frameCreate`: the buffer and the length it returns. -/
def frameCreate (buffer : Memory UInt8) (kind : UInt32) (data : Memory UInt8) (len : Nat) :
    Memory UInt8 × Nat :=
  let longitud := 8
  let buffer := buffer.write 0 preamble
  let sum := kind ||| 0x80000000
  let buffer := storeWord buffer 4 sum
  let (buffer, bufferptr, sum, longitud) := copyWords data ((len + 3) / 4) 0 buffer 8 sum longitud
  let buffer := storeWord buffer bufferptr (-sum)
  let longitud := longitud + 4
  (buffer.write longitud endOfFrame, longitud + 4)

def frameBody (kind : UInt32) (data : Memory UInt8) (len : Nat) : List UInt8 :=
  let payload := words data 0 ((len + 3) / 4)
  wordBytes (kind ||| 0x80000000) ++ data.read 0 (4 * ((len + 3) / 4)) ++
    wordBytes (-payload.foldl (· + ·) (kind ||| 0x80000000))

variable {data buffer : Memory UInt8} {kind : UInt32} {len datoptr bufferptr longitud : Nat}

theorem copyWords_eq : copyWords data i datoptr buffer bufferptr sum longitud =
    (buffer.write bufferptr (data.read datoptr (4 * i)), bufferptr + 4 * i,
      (words data datoptr i).foldl (· + ·) sum, longitud + 4 * i) := by
  induction i generalizing datoptr buffer bufferptr sum longitud with
  | zero => simp [copyWords, words]
  | succ i ih =>
    have hread : data.read datoptr (4 * (i + 1)) =
        data.read datoptr 4 ++ data.read (datoptr + 4) (4 * i) := by
      rw [show 4 * (i + 1) = 4 + 4 * i by omega, Memory.read_append]
    rw [copyWords, ih, storeWord, wordBytes_word, hread, Memory.write_append, Memory.read_length,
      Nat.add_comm i 1, words_add, words_one, List.foldl_append]
    simp only [List.foldl_cons, List.foldl_nil, Nat.mul_add, Nat.add_assoc, Nat.mul_one]

@[simp] theorem frameBody_length :
    (frameBody kind data len).length = 8 + 4 * ((len + 3) / 4) := by
  simp only [frameBody, List.length_append, wordBytes_length, Memory.read_length]
  omega

theorem frameCreate_eq : frameCreate buffer kind data len =
    (buffer.write 0 (preamble ++ frameBody kind data len ++ endOfFrame),
      16 + 4 * ((len + 3) / 4)) := by
  rw [frameCreate, copyWords_eq]
  simp only [storeWord, Prod.mk.injEq]
  refine ⟨?_, by omega⟩
  rw [Memory.write_append, Memory.write_append, frameBody, Memory.write_append,
    Memory.write_append]
  simp only [List.length_append, wordBytes_length, Memory.read_length,
    show preamble.length = 4 from rfl]
  rw [show 8 + 4 * ((len + 3) / 4) + 4 = 0 + (4 + (4 + 4 * ((len + 3) / 4) + 4)) by omega,
    show 8 + 4 * ((len + 3) / 4) = 0 + 4 + (4 + 4 * ((len + 3) / 4)) by omega]

theorem frameCreate_length : (frameCreate buffer kind data len).2 =
    (preamble ++ frameBody kind data len ++ endOfFrame).length := by
  rw [frameCreate_eq, List.length_append, List.length_append, frameBody_length]
  change _ = 4 + _ + 4
  omega

theorem frameCreate_read (buffer data : Memory UInt8) (kind : UInt32) (len : Nat) :
    (frameCreate buffer kind data len).1.read 0 (frameCreate buffer kind data len).2 =
      preamble ++ frameBody kind data len ++ endOfFrame := by
  rw [frameCreate_length, frameCreate_eq, Memory.read_write]

theorem words_frameCreate :
    words (frameCreate buffer kind data len).1 4 ((len + 3) / 4 + 2) =
      (kind ||| 0x80000000) :: words data 0 ((len + 3) / 4) ++
        [-(words data 0 ((len + 3) / 4)).foldl (· + ·) (kind ||| 0x80000000)] := by
  have hread := frameCreate_read buffer data kind len
  rw [frameBody] at hread
  generalize (frameCreate buffer kind data len).1 = m at hread ⊢
  generalize (frameCreate buffer kind data len).2 = n at hread
  generalize (len + 3) / 4 = k at hread ⊢
  generalize kind ||| 0x80000000 = type at hread ⊢
  generalize hsum : -(words data 0 k).foldl (· + ·) type = crc at hread ⊢
  have htype := Memory.read_part preamble (wordBytes type)
    (data.read 0 (4 * k) ++ wordBytes crc ++ endOfFrame) (by simpa using hread)
  have hdata := Memory.read_part (preamble ++ wordBytes type) (data.read 0 (4 * k))
    (wordBytes crc ++ endOfFrame) (by simpa using hread)
  have hcrc := Memory.read_part (preamble ++ wordBytes type ++ data.read 0 (4 * k))
    (wordBytes crc) endOfFrame (by simpa using hread)
  simp only [List.length_append, wordBytes_length, Memory.read_length, Nat.zero_add,
    show preamble.length = 4 from rfl] at htype hdata hcrc
  have hdata' : words m 8 k = words data 0 k := words_congr hdata
  rw [show k + 2 = 1 + k + 1 by omega, words_add, words_add, words_one, words_one,
    word_eq_of_read htype, hdata', Nat.mul_add, ← Nat.add_assoc, word_eq_of_read hcrc]
  rfl

theorem checksum_frameCreate :
    checksum (frameCreate buffer kind data len).1 4 ((len + 3) / 4 + 2) = 0 := by
  rw [checksum_eq, words_frameCreate, List.cons_append, List.foldl_cons, UInt32.zero_add,
    List.foldl_append, List.foldl_cons, List.foldl_nil]
  exact UInt32.add_right_neg _

/-- A frame alone, whose first terminator is its own, comes through. -/
theorem workerFrames_of_body {rx : Memory UInt8} {polls : List Poll} {body : List UInt8}
    (hpolls : bytes polls = preamble ++ body ++ endOfFrame) (htime : idles polls < waitForever)
    (hsize : 8 + body.length ≤ bufferSize - 3)
    (hfirst : find endOfFrame (body ++ endOfFrame) = some body.length)
    (heven : oddTriples body.reverse = false) :
    workerFrames rx polls = [⟨body.length + 8, body⟩] := by
  have hpre : find preamble (preamble ++ body ++ endOfFrame) = some 0 :=
    find_of_start (by rw [List.append_assoc]; exact List.prefix_append _ _)
  have hdrop : (preamble ++ body ++ endOfFrame).drop (0 + 4) = body ++ endOfFrame := by
    rw [List.append_assoc]
    rfl
  have htake : (body ++ endOfFrame).take (bufferSize - 3 - 4) = body ++ endOfFrame := by
    refine List.take_of_length_le ?_
    rw [List.length_append, show endOfFrame.length = 4 from rfl]
    omega
  have hnil : (preamble ++ body ++ endOfFrame).drop (0 + (body.length + 8)) = [] := by
    refine List.drop_of_length_le ?_
    rw [List.length_append, List.length_append]
    change 4 + body.length + 4 ≤ _
    omega
  obtain ⟨calls, hcalls⟩ : ∃ calls, polls.length = calls + 1 := by
    have hlen : (bytes polls).length ≤ polls.length := List.reduceOption_length_le polls
    rw [hpolls, List.length_append, List.length_append] at hlen
    change 4 + _ + 4 ≤ _ at hlen
    exact ⟨polls.length - 1, by omega⟩
  rw [workerFrames_eq_stretchFrames htime, hcalls, hpolls,
    stretchFrames_of_fit hpre (by rw [hdrop, htake, hfirst]) (by rwa [hdrop, List.take_left]),
    hdrop, List.take_left, hnil, stretches_nil, stretchFrames, Nat.zero_add]

/-- A created frame has a zero word sum, and comes back through the receiver
alone and complete when it fits the receiver's room, the first terminator in it
is its own, and its body does not end in an odd number of `CR LF CR` triples. -/
theorem frameCreate_round_trip (buffer rx data : Memory UInt8) (kind : UInt32) (len : Nat)
    (polls : List Poll)
    (hpolls : bytes polls = (frameCreate buffer kind data len).1.read 0
      (frameCreate buffer kind data len).2)
    (htime : idles polls < waitForever) :
    checksum (frameCreate buffer kind data len).1 4 ((len + 3) / 4 + 2) = 0 ∧
      ((frameCreate buffer kind data len).2 ≤ bufferSize - 3 →
        find endOfFrame (frameBody kind data len ++ endOfFrame) =
          some (frameBody kind data len).length →
        oddTriples (frameBody kind data len).reverse = false →
        workerFrames rx polls =
          [⟨(frameCreate buffer kind data len).2, frameBody kind data len⟩]) := by
  refine ⟨checksum_frameCreate, fun hsize hfirst hodd => ?_⟩
  rw [frameCreate_read] at hpolls
  have hlen : (frameCreate buffer kind data len).2 = (frameBody kind data len).length + 8 := by
    rw [frameCreate_eq, frameBody_length]
    omega
  rw [workerFrames_of_body hpolls htime (by omega) hfirst hodd, hlen]

/-- A `getMACAddress` answer with a 16-byte payload. -/
theorem frameCreate_round_trip_answer :
    workerFrames (fun _ => 0) (((frameCreate (fun _ => 0) 23 (fun i => UInt8.ofNat i) 8).1.read 0
        (frameCreate (fun _ => 0) 23 (fun i => UInt8.ofNat i) 8).2).map some) =
      [⟨24, frameBody 23 (fun i => UInt8.ofNat i) 8⟩] :=
  (frameCreate_round_trip (fun _ => 0) (fun _ => 0) (fun i => UInt8.ofNat i) 23 8 _
    (bytes_map_some _) (by simp [waitForever])).2 (by decide) (by decide) (by decide)

/-- A payload that holds a terminator is cut there: the first frame received is
not the one that was built. -/
theorem terminator_in_payload_cut :
    workerFrames (fun _ => 0) (((frameCreate (fun _ => 0) 23
        (fun i => if i % 2 = 0 then frameEndOfFrame1 else frameEndOfFrame2) 8).1.read 0
        (frameCreate (fun _ => 0) 23
          (fun i => if i % 2 = 0 then frameEndOfFrame1 else frameEndOfFrame2) 8).2).map some) ≠
      [⟨24, frameBody 23 (fun i => if i % 2 = 0 then frameEndOfFrame1 else frameEndOfFrame2) 8⟩] := by
  decide +kernel

end SystemMaster.Usb
