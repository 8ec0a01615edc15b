import SystemMaster.Multinet.RelayController

/-!
# Decoding the routing entries of a reply

The words of a CLU response are changed over in place and then read as entries.
Both loops go by the length byte of the frame, which nobody compares with the
bytes that the frame has for data.
-/

namespace SystemMaster.Multinet

open Alto Codec LittleEndian

/-- The worker's memory from `data` of its frame on, with a record of the bytes
read and written, the words decoded and the messages sent. -/
structure Decoding where
  memory : Memory UInt8
  touched : List Nat
  words : List UInt16
  sent : List (Address × ORTInput)

namespace Decoding

def swapWord (d : Decoding) (ui8Index : Nat) : Decoding :=
  let ui16TempData := u16.load d.memory (2 * ui8Index)
  { d with
    memory := u16.store d.memory (2 * ui8Index) ((ui16TempData <<< 8) ||| (ui16TempData >>> 8))
    touched := d.touched ++ [2 * ui8Index, 2 * ui8Index + 1] }

def convertData (d : Decoding) (ui8Length : UInt8) : Decoding :=
  (List.range (ui8Length.toNat / 2)).foldl swapWord d

def routeWord (d : Decoding) (i32Index : Nat) : Decoding :=
  let word := u16.load d.memory (2 * i32Index)
  let ptORT := ORTRouting.ofWord word.toNat
  { d with
    touched := d.touched ++ [2 * i32Index, 2 * i32Index + 1]
    words := d.words ++ [word]
    sent := d.sent ++ (ptORT.destination.map (·, ptORT.input)).toList }

def routeWords (d : Decoding) (length : UInt8) : Decoding :=
  (List.range (length.toNat / 2)).foldl routeWord d

end Decoding

/-- The reply of a box with the entries it routes. -/
abbrev IsRoutings (f : Frame) : Prop :=
  bccCheck f = 0 ∧ f.classID = classClu ∧ f.operationID = operationResponse

def frameMemory (f : Frame) (stack : Memory UInt8) : Memory UInt8 :=
  stack.write 0 (f.data.toList ++ [f.bcc])

def decodeRoutings (f : Frame) (stack : Memory UInt8) : Decoding :=
  let d : Decoding := ⟨frameMemory f stack, [], [], []⟩
  if IsRoutings f then (d.convertData f.length).routeWords f.length else d

def bigEndianWords (k : Nat) (xs : List UInt8) : List Nat :=
  (List.range k).map fun i => 256 * (xs.getD (2 * i) 0).toNat + (xs.getD (2 * i + 1) 0).toNat

/-- The loops stay in the data of the frame, and decode the words it has. -/
structure InFrame (f : Frame) (d : Decoding) : Prop where
  touched : ∀ a ∈ d.touched, a < dataPayloadSize
  words : d.words.map UInt16.toNat =
    if IsRoutings f then
      bigEndianWords (min f.length.toNat dataPayloadSize / 2) f.data.toList
    else []

variable {f : Frame} {d : Decoding} {stack m : Memory UInt8} {a i k : Nat} {high low : UInt8}

theorem toNat_load (m : Memory UInt8) (a : Nat) :
    (u16.load m a).toNat = (m a).toNat + 256 * (m (a + 1)).toNat := by
  have hlow := (m a).toNat_lt
  have hhigh := (m (a + 1)).toNat_lt
  have hbytes : ofBytes (m.read a 2) = (m a).toNat + 256 * (m (a + 1)).toNat := by
    simp [Memory.read, List.range_succ, ofBytes]
  have hfits : (m a).toNat + 256 * (m (a + 1)).toNat < 2 ^ 16 := by omega
  have hload : u16.load m a = UInt16.ofNat (ofBytes (m.read a 2)) := rfl
  rw [hload, hbytes, UInt16.toNat_ofNat_of_lt' hfits]

theorem toNat_swap (w : UInt16) :
    ((w <<< 8) ||| (w >>> 8)).toNat = 256 * (w.toNat % 256) + w.toNat / 256 := by
  have hw := w.toNat_lt
  have hleft : (w <<< 8).toNat = (w.toNat % 256) <<< 8 := by
    rw [UInt16.toNat_shiftLeft, Nat.shiftLeft_eq, Nat.shiftLeft_eq]
    change w.toNat * 2 ^ 8 % 2 ^ 16 = _
    omega
  have hright : (w >>> 8).toNat = w.toNat / 256 := by
    rw [UInt16.toNat_shiftRight, Nat.shiftRight_eq_div_pow]
    rfl
  have hlow : w.toNat / 256 < 2 ^ 8 := by omega
  rw [UInt16.toNat_or, hleft, hright, ← Nat.shiftLeft_add_eq_or_of_lt hlow, Nat.shiftLeft_eq]
  omega

theorem swapWord_memory : (d.swapWord i).memory =
    d.memory.write (2 * i) [d.memory (2 * i + 1), d.memory (2 * i)] := by
  have hlow := (d.memory (2 * i)).toNat_lt
  have hhigh := (d.memory (2 * i + 1)).toNat_lt
  obtain ⟨w, hw⟩ : ∃ w, w = u16.load d.memory (2 * i) := ⟨_, rfl⟩
  have hload := toNat_load d.memory (2 * i)
  rw [← hw] at hload
  have hswap : ((w <<< 8) ||| (w >>> 8)).toNat =
      ofBytes [d.memory (2 * i + 1), d.memory (2 * i)] := by
    rw [toNat_swap, hload, ofBytes, ofBytes, ofBytes]
    omega
  have hbytes : u16.encode ((w <<< 8) ||| (w >>> 8)) =
      [d.memory (2 * i + 1), d.memory (2 * i)] := by
    change toBytes 2 ((w <<< 8) ||| (w >>> 8)).toNat = _
    rw [hswap]
    exact toBytes_ofBytes [d.memory (2 * i + 1), d.memory (2 * i)]
  rw [← hbytes, hw]
  rfl

def partner (a : Nat) : Nat := if a % 2 = 0 then a + 1 else a - 1

theorem swapWord_at : (d.swapWord i).memory a =
    if a / 2 = i then d.memory (partner a) else d.memory a := by
  rw [swapWord_memory]
  by_cases ha : a / 2 = i
  · rw [if_pos ha, partner]
    rcases (by omega : a = 2 * i ∨ a = 2 * i + 1) with rfl | rfl
    · rw [if_pos (by omega)]
      simp [Memory.write]
    · rw [if_neg (by omega)]
      simp [Memory.write]
  · rw [if_neg ha]
    rcases (by omega : a < 2 * i ∨ 2 * i + 2 ≤ a) with h | h
    · exact Memory.write_of_lt h
    · exact Memory.write_of_ge h

def bytesOfWords (k : Nat) : List Nat := (List.range k).flatMap fun i => [2 * i, 2 * i + 1]

theorem mem_bytesOfWords : a ∈ bytesOfWords k ↔ a < 2 * k := by
  simp only [bytesOfWords, List.mem_flatMap, List.mem_range, List.mem_cons, List.not_mem_nil, or_false]
  constructor
  · rintro ⟨i, hi, rfl | rfl⟩ <;> omega
  · exact fun h => ⟨a / 2, by omega, by omega⟩

theorem bytesOfWords_succ : bytesOfWords (k + 1) = bytesOfWords k ++ [2 * k, 2 * k + 1] := by
  simp [bytesOfWords, List.range_succ]

theorem swapWords (d : Decoding) (k : Nat) :
    let d' := (List.range k).foldl Decoding.swapWord d
    (∀ a, d'.memory a = if a / 2 < k then d.memory (partner a) else d.memory a) ∧
      d'.touched = d.touched ++ bytesOfWords k ∧ d'.words = d.words ∧ d'.sent = d.sent := by
  induction k with
  | zero => simp [bytesOfWords]
  | succ k ih =>
    obtain ⟨hmemory, htouched, hwords, hsent⟩ := ih
    rw [List.range_succ, List.foldl_concat]
    refine ⟨fun a => ?_, ?_, hwords, hsent⟩
    · rw [swapWord_at, hmemory, hmemory]
      have hpartner : partner a / 2 = a / 2 := by
        rw [partner]
        split <;> omega
      rw [hpartner]
      split_ifs <;> first | rfl | omega
    · rw [Decoding.swapWord, htouched, bytesOfWords_succ, List.append_assoc]

theorem routeWords (d : Decoding) (k : Nat) :
    let d' := (List.range k).foldl Decoding.routeWord d
    d'.memory = d.memory ∧ d'.touched = d.touched ++ bytesOfWords k ∧
      d'.words = d.words ++ (List.range k).map (fun i => u16.load d.memory (2 * i)) := by
  induction k with
  | zero => simp [bytesOfWords]
  | succ k ih =>
    obtain ⟨hmemory, htouched, hwords⟩ := ih
    rw [List.range_succ, List.foldl_concat]
    refine ⟨hmemory, ?_, ?_⟩
    · rw [Decoding.routeWord, htouched, bytesOfWords_succ, List.append_assoc]
    · rw [Decoding.routeWord, hmemory, hwords, List.map_append, List.append_assoc]
      rfl

/-- A frame with entries decoded, whatever its length. -/
theorem decodeRoutings_of_routings (stack : Memory UInt8) (h : IsRoutings f) :
    (decodeRoutings f stack).touched =
        bytesOfWords (f.length.toNat / 2) ++ bytesOfWords (f.length.toNat / 2) ∧
      (decodeRoutings f stack).words.map UInt16.toNat =
        (List.range (f.length.toNat / 2)).map fun i =>
          256 * (frameMemory f stack (2 * i)).toNat + (frameMemory f stack (2 * i + 1)).toNat := by
  obtain ⟨d, hd⟩ : ∃ d : Decoding, d = ⟨frameMemory f stack, [], [], []⟩ := ⟨_, rfl⟩
  obtain ⟨hmemory, htouched, hwords, _⟩ := swapWords d (f.length.toNat / 2)
  obtain ⟨_, htouched', hwords'⟩ := routeWords (d.convertData f.length) (f.length.toNat / 2)
  have hdecode : decodeRoutings f stack = (d.convertData f.length).routeWords f.length := by
    rw [decodeRoutings, if_pos h, hd]
  rw [hdecode]
  constructor
  · exact htouched'.trans (by rw [Decoding.convertData, htouched, hd, List.nil_append])
  · refine (congrArg (List.map UInt16.toNat) hwords').trans ?_
    rw [Decoding.convertData, hwords, hd, List.nil_append, List.map_map]
    refine List.map_congr_left fun i hi => ?_
    have hi' := List.mem_range.mp hi
    have hlow : partner (2 * i) = 2 * i + 1 := if_pos (by omega)
    have hhigh : partner (2 * i + 1) = 2 * i := if_neg (by omega)
    rw [Function.comp_apply, toNat_load, ← hd, hmemory, hmemory, if_pos (by omega),
      if_pos (by omega), hlow, hhigh, hd]
    exact Nat.add_comm _ _

-- ---------------------------------------------------------------------------
-- Every frame
-- ---------------------------------------------------------------------------

theorem frameMemory_data (h : a < dataPayloadSize) :
    frameMemory f stack a = f.data.toList.getD a 0 := by
  have hlength : f.data.toList.length = dataPayloadSize := f.data.length_toList
  have hlt : a < (f.data.toList ++ [f.bcc]).length := by simp; omega
  have hread : stack.write 0 (f.data.toList ++ [f.bcc]) (0 + a) = (f.data.toList ++ [f.bcc])[a] :=
    Memory.write_in hlt
  rw [Nat.zero_add, List.getElem_append_left (by omega)] at hread
  rw [frameMemory, hread, List.getD_eq_getElem?_getD, List.getElem?_eq_getElem (by omega), Option.getD_some]

theorem words_eq (hlength : f.length.toNat ≤ dataPayloadSize + 1) (stack : Memory UInt8) :
    ((List.range (f.length.toNat / 2)).map fun i =>
      256 * (frameMemory f stack (2 * i)).toNat + (frameMemory f stack (2 * i + 1)).toNat) =
    bigEndianWords (min f.length.toNat dataPayloadSize / 2) f.data.toList := by
  have hsize : dataPayloadSize = 26 := rfl
  have hcount : min f.length.toNat dataPayloadSize / 2 = f.length.toNat / 2 := by omega
  rw [bigEndianWords, hcount]
  refine List.map_congr_left fun i hi => ?_
  have hi' := List.mem_range.mp hi
  rw [frameMemory_data (by omega), frameMemory_data (by omega)]

theorem inFrame_of_not_routings (h : ¬ IsRoutings f) : InFrame f (decodeRoutings f stack) := by
  rw [decodeRoutings, if_neg h]
  exact ⟨fun _ ha => absurd ha List.not_mem_nil, by rw [if_neg h]; rfl⟩

theorem inFrame_iff_of_routings (h : IsRoutings f) :
    InFrame f (decodeRoutings f stack) ↔ f.length.toNat ≤ dataPayloadSize + 1 := by
  have hsize : dataPayloadSize = 26 := rfl
  obtain ⟨htouched, hwords⟩ := decodeRoutings_of_routings stack h
  constructor
  · intro hin
    by_contra hlong
    have hlast : 2 * (f.length.toNat / 2) - 1 ∈ (decodeRoutings f stack).touched := by
      rw [htouched]
      exact List.mem_append_left _ (mem_bytesOfWords.mpr (by omega))
    have := hin.touched _ hlast
    omega
  · intro hlength
    constructor
    · intro a ha
      rw [htouched, List.mem_append, or_self, mem_bytesOfWords] at ha
      omega
    · rw [hwords, if_pos h, words_eq hlength]

/-- The decode stays in the frame unless a CLU response, with its checksum right,
claims 28 bytes of data or more. -/
theorem decode_in_frame_iff (uninit : Nat → UInt8) (buffer64 stack : Memory UInt8) :
    let f := (convertASCIIToBinary uninit buffer64).2
    InFrame f (decodeRoutings f stack) ↔ (IsRoutings f → f.length.toNat ≤ 27) := by
  dsimp only
  by_cases h : IsRoutings (convertASCIIToBinary uninit buffer64).2
  · rw [inFrame_iff_of_routings h]
    exact ⟨fun hlength _ => hlength, fun himp => himp h⟩
  · exact iff_of_true (inFrame_of_not_routings h) fun hr => absurd hr h

theorem bigEndianWords_succ {xs : List UInt8} : bigEndianWords (k + 1) (high :: low :: xs) =
    (low.toNat + 256 * high.toNat) :: bigEndianWords k xs := by
  rw [bigEndianWords, List.range_succ_eq_map, List.map_cons, List.map_map, Nat.add_comm]
  rfl

theorem ortRoutings_convert {xs : List UInt8} (h : 2 * k ≤ xs.length) :
    ortRoutings k (ortConvertDataFromBigEndianToLittleEndian k xs) =
      (bigEndianWords k xs).map .ofWord := by
  induction k generalizing xs with
  | zero => cases xs <;> rfl
  | succ k ih =>
    obtain ⟨high, low, xs, rfl⟩ : ∃ high low ys, xs = high :: low :: ys := by
      cases xs with
      | nil => exact absurd h (by simp)
      | cons high ys =>
        cases ys with
        | nil =>
          rw [List.length_singleton] at h
          omega
        | cons low ys => exact ⟨high, low, ys, rfl⟩
    rw [bigEndianWords_succ, ortConvertDataFromBigEndianToLittleEndian, ortRoutings, List.map_cons,
      ih (by simp only [List.length_cons] at h; omega)]

theorem Reply.entries_eq (r : Reply) (hbcc : bccCheck r.frame = 0) (stack : Memory UInt8) :
    r.entries =
      ((decodeRoutings r.frame stack).words.map UInt16.toNat).map ORTRouting.ofWord := by
  have hlength : r.frame.data.toList.length = dataPayloadSize := r.frame.data.length_toList
  have hsize : dataPayloadSize = 26 := rfl
  by_cases hresponse : r.isResponse = true
  · have hroutings : IsRoutings r.frame := by
      simp only [isResponse, Bool.and_eq_true, decide_eq_true_eq] at hresponse
      exact ⟨hbcc, hresponse⟩
    have hfits := r.fits hroutings.2.1 hroutings.2.2
    have hcount : min r.frame.length.toNat dataPayloadSize / 2 = r.frame.length.toNat / 2 := by omega
    rw [(decodeRoutings_of_routings _ hroutings).2, words_eq (by omega), hcount, entries,
      if_pos hresponse]
    exact ortRoutings_convert (by omega)
  · have hroutings : ¬ IsRoutings r.frame := by
      rintro ⟨_, hclass, hoperation⟩
      exact hresponse (by simp [isResponse, hclass, hoperation])
    rw [entries, if_neg hresponse, decodeRoutings, if_neg hroutings]
    rfl

def longResponse : Frame :=
  bccFill ⟨classClu, operationResponse, functionCluLocalRemoteVin, 0, 255,
    Vector.replicate dataPayloadSize 0, 0⟩

/-- A response that claims 255 bytes. -/
theorem long_response_leaves_frame :
    ¬ ∀ (uninit : Nat → UInt8) (buffer64 stack : Memory UInt8),
      let f := (convertASCIIToBinary uninit buffer64).2
      bccCheck f = 0 → InFrame f (decodeRoutings f stack) := by
  intro h
  have hconvert := convertASCIIToBinary_bodyASCII (f := longResponse) (fun _ => 0) fun _ => 0
  have hin := h (fun _ => 0) (Memory.write (fun _ => 0) 0 (bodyASCII longResponse)) fun _ => 0
  rw [hconvert] at hin
  have hroutings : IsRoutings longResponse := ⟨bccCheck_bccFill _, rfl, rfl⟩
  have hlength := (inFrame_iff_of_routings hroutings).mp (hin hroutings.1)
  exact absurd hlength (by decide)

end SystemMaster.Multinet
