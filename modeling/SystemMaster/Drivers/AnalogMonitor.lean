import Mathlib.Data.Vector.Basic
import SystemMaster.Library.LowPass
import SystemMaster.Library.Runs

/-!
# The analog monitor

`vSAM_taskFxn` takes ten samples of each signal at a turn, has them converted to microvolts
and puts them through a low-pass filter of unsigned words.
-/

namespace SystemMaster.Drivers

open Runs

def samSamplesCount : Nat := 10

structure SamChannels where
  internalTempSensor : UInt16
  logicCur : UInt16
  perCur : UInt16
  v5Main : UInt16
  v5Per : UInt16
  v28 : UInt16
  mcuCur : UInt16

/-- The signals that are filtered in words; the temperature is in floating point. -/
inductive Signal where
  | logicCur
  | perCur
  | v5Main
  | v5Per
  | v28
  | mcuCur
  deriving DecidableEq

namespace Signal

def raw (c : SamChannels) : Signal → UInt16
  | .logicCur => c.logicCur
  | .perCur => c.perCur
  | .v5Main => c.v5Main
  | .v5Per => c.v5Per
  | .v28 => c.v28
  | .mcuCur => c.mcuCur

def adjustChannel : Signal → Nat
  | .logicCur => 1
  | .perCur => 2
  | .v5Main => 3
  | .v5Per => 4
  | .v28 => 5
  | .mcuCur => 6

def convertChannel : Signal → Nat
  | .mcuCur => 5
  | s => s.adjustChannel

end Signal

/-- The driver of the converter, with the reference voltages of its channels. -/
structure AdcBuf where
  adjustRawValues : Nat → Vector UInt16 samSamplesCount → Vector UInt16 samSamplesCount
  convertAdjustedToMicroVolts : Nat → Vector UInt16 samSamplesCount → Vector UInt32 samSamplesCount

def lowPass (average sample : UInt32) : UInt32 := (sample + 3 * average) / 4

abbrev Samples := Vector SamChannels samSamplesCount

def microvolts (adc : AdcBuf) (samples : Samples) (signal : Signal) :
    Vector UInt32 samSamplesCount :=
  adc.convertAdjustedToMicroVolts signal.convertChannel
    (adc.adjustRawValues signal.adjustChannel (samples.map signal.raw))

/-- One turn of the task: the averages after it. A conversion that fails leaves them. -/
def samTurn (adc : AdcBuf) (averages : Signal → UInt32) : Option Samples → Signal → UInt32
  | some samples => fun signal => (microvolts adc samples signal).toList.foldl lowPass (averages signal)
  | none => averages

variable {adc : AdcBuf} {averages : Signal → UInt32} {signal : Signal} {average sample : UInt32}
  {turns : List (Option Samples)} {lo hi : Nat}

/-- No sum of the filter wraps around on its way through the samples. -/
def Unwrapped : UInt32 → List UInt32 → Prop
  | _, [] => True
  | average, sample :: samples =>
    sample.toNat + 3 * average.toNat < 2 ^ 32 ∧ Unwrapped (lowPass average sample) samples

theorem lowPass_toNat (h : sample.toNat + 3 * average.toNat < 2 ^ 32) :
    (lowPass average sample).toNat = LowPass.step 3 average.toNat sample.toNat := by
  rw [lowPass, LowPass.step]
  simp only [UInt32.toNat_div, UInt32.toNat_add, UInt32.toNat_mul, UInt32.toNat_ofNat,
    Nat.reducePow, Nat.reduceMod]
  omega

theorem Unwrapped.foldl_toNat {samples : List UInt32} (h : Unwrapped average samples) :
    (samples.foldl lowPass average).toNat =
      LowPass.filter 3 average.toNat (samples.map UInt32.toNat) := by
  induction samples generalizing average with
  | nil => rfl
  | cons x samples ih =>
    obtain ⟨hsum, hrest⟩ := h
    rw [List.foldl_cons, ih hrest, lowPass_toNat hsum]
    rfl

theorem unwrapped_of_lt {samples : List UInt32} (haverage : average.toNat < 2 ^ 30)
    (hsamples : ∀ x ∈ samples, x.toNat < 2 ^ 30) : Unwrapped average samples := by
  induction samples generalizing average with
  | nil => trivial
  | cons x samples ih =>
    obtain ⟨hx, hrest⟩ := List.forall_mem_cons.mp hsamples
    have hsum : x.toNat + 3 * average.toNat < 2 ^ 32 := by omega
    refine ⟨hsum, ih ?_ hrest⟩
    rw [lowPass_toNat hsum]
    exact Nat.lt_succ_of_le (LowPass.step_le (Nat.le_of_lt_succ haverage) (Nat.le_of_lt_succ hx))

def sampled (adc : AdcBuf) (signal : Signal) (turns : List (Option Samples)) : List UInt32 :=
  (turns.filterMap id).flatMap fun samples => (microvolts adc samples signal).toList

theorem exec_samTurn : exec (samTurn adc) averages turns signal =
    (sampled adc signal turns).foldl lowPass (averages signal) := by
  induction turns generalizing averages with
  | nil => rfl
  | cons turn turns ih =>
    rw [exec_cons, ih]
    cases turn with
    | none => rfl
    | some samples => exact (List.foldl_append ..).symm

theorem sampled_length : (sampled adc signal turns).length =
    samSamplesCount * turns.countP Option.isSome := by
  induction turns with
  | nil => rfl
  | cons turn turns ih =>
    cases turn with
    | none => simpa [sampled] using ih
    | some samples =>
      have hcons : sampled adc signal (some samples :: turns) =
          (microvolts adc samples signal).toList ++ sampled adc signal turns := rfl
      rw [hcons, List.length_append, ih, Vector.length_toList, List.countP_cons_of_pos rfl]
      ring

/-- The samples of a signal in the turns of a run lie within these bounds, in microvolts. -/
def Within (adc : AdcBuf) (signal : Signal) (lo hi : Nat) (turns : List (Option Samples)) : Prop :=
  ∀ x ∈ sampled adc signal turns, lo ≤ x.toNat ∧ x.toNat ≤ hi

/-- What the converter gives is below 2^30 microvolts. -/
def AdcBuf.Bounded (adc : AdcBuf) : Prop :=
  ∀ channel adjusted, ∀ x ∈ (adc.convertAdjustedToMicroVolts channel adjusted).toList,
    x.toNat < 2 ^ 30

theorem AdcBuf.Bounded.sampled (h : adc.Bounded) : ∀ x ∈ sampled adc signal turns, x.toNat < 2 ^ 30 := by
  intro x hx
  obtain ⟨samples, -, hmem⟩ := List.mem_flatMap.mp hx
  exact h _ _ x hmem

theorem AdcBuf.Bounded.exec_toNat (h : adc.Bounded) (haverage : (averages signal).toNat < 2 ^ 30) :
    (exec (samTurn adc) averages turns signal).toNat = LowPass.filter 3 (averages signal).toNat
      ((Drivers.sampled adc signal turns).map UInt32.toNat) := by
  rw [exec_samTurn, (unwrapped_of_lt haverage h.sampled).foldl_toNat]

theorem AdcBuf.Bounded.exec_lt (h : adc.Bounded) (haverage : (averages signal).toNat < 2 ^ 30) :
    (exec (samTurn adc) averages turns signal).toNat < 2 ^ 30 := by
  rw [h.exec_toNat haverage]
  refine Nat.lt_succ_of_le (LowPass.filter_le (Nat.le_of_lt_succ haverage) ?_)
  rw [List.forall_mem_map]
  exact fun x hx => Nat.le_of_lt_succ (h.sampled x hx)

theorem pow_lt {d n : Nat} (hd : d < 2 ^ 30) (hn : 80 ≤ n) : d * 3 ^ n < 4 ^ n := by
  obtain ⟨m, rfl⟩ := Nat.exists_eq_add_of_le hn
  have hpow : 3 ^ m ≤ 4 ^ m := Nat.pow_le_pow_left (by decide) m
  calc d * 3 ^ (80 + m) = d * 3 ^ 80 * 3 ^ m := by ring
    _ < 4 ^ 80 * 3 ^ m := Nat.mul_lt_mul_of_pos_right (by omega) (Nat.pow_pos (by decide))
    _ ≤ 4 ^ 80 * 4 ^ m := Nat.mul_le_mul_left _ hpow
    _ = 4 ^ (80 + m) := by ring

/-- After eight conversions with the samples of a signal within bounds its average is
within them, but for three microvolts that it may stay short of them, and from the start of
the task no sum has wrapped around. -/
theorem averages_settle (adc : AdcBuf) (h : adc.Bounded) (signal : Signal)
    (before turns : List (Option Samples)) (lo hi : Nat) (hwithin : Within adc signal lo hi turns)
    (hcount : 8 ≤ turns.countP Option.isSome) :
    let average := exec (samTurn adc) (fun _ => 0) (before ++ turns) signal
    (lo ≤ average.toNat + 3 ∧ average.toNat ≤ hi) ∧
      Unwrapped 0 (sampled adc signal (before ++ turns)) := by
  intro average
  refine ⟨?_, unwrapped_of_lt (by decide) h.sampled⟩
  have hstart : (exec (samTurn adc) (fun _ => 0) before signal).toNat < 2 ^ 30 :=
    h.exec_lt (by decide)
  have haverage : average = exec (samTurn adc) (exec (samTurn adc) (fun _ => 0) before) turns signal :=
    congrFun List.foldl_append signal
  have hlength : 80 ≤ ((sampled adc signal turns).map UInt32.toNat).length := by
    rw [List.length_map, sampled_length, samSamplesCount]
    omega
  have hsamples : ∀ x ∈ (sampled adc signal turns).map UInt32.toNat, lo ≤ x ∧ x ≤ hi := by
    rw [List.forall_mem_map]
    exact hwithin
  rw [haverage, h.exec_toNat hstart]
  refine LowPass.filter_settles hsamples (pow_lt ?_ hlength)
  -- the samples are below 2^30, and so is what the average may lack of them
  obtain ⟨x, hx⟩ : ∃ x, x ∈ sampled adc signal turns := by
    refine List.exists_mem_of_length_pos ?_
    rw [List.length_map] at hlength
    omega
  have hbound : x.toNat < 2 ^ 30 := h.sampled x hx
  have hlo : lo ≤ x.toNat := (hwithin x hx).1
  exact max_lt (by omega) (by omega)

/-- An average that is up to three microvolts below a steady signal stays there. -/
theorem average_stalls (h : adc.Bounded) {c : Nat} (haverage : (averages signal).toNat ≤ c)
    (hshort : c ≤ (averages signal).toNat + 3) (hc : c < 2 ^ 30)
    (hsteady : ∀ x ∈ sampled adc signal turns, x.toNat = c) :
    exec (samTurn adc) averages turns signal = averages signal := by
  rw [← UInt32.toNat_inj, h.exec_toNat (by omega)]
  exact LowPass.filter_stalls haverage hshort (by simpa using hsteady)

def steps805 : AdcBuf where
  adjustRawValues _ raw := raw
  convertAdjustedToMicroVolts _ adjusted := adjusted.map fun x => x.toUInt32 * 805

def steady : Samples := Vector.replicate samSamplesCount ⟨0, 1000, 1000, 1000, 1000, 1000, 1000⟩

theorem averages_settle_steady :
    let average := exec (samTurn steps805) (fun _ => 0)
      ([none] ++ List.replicate 8 (some steady)) .v28
    (805000 ≤ average.toNat + 3 ∧ average.toNat ≤ 805000) ∧
      Unwrapped 0 (sampled steps805 .v28 ([none] ++ List.replicate 8 (some steady))) := by
  have hbounded : steps805.Bounded := by
    intro channel adjusted x hx
    simp only [steps805, Vector.toList_map, List.mem_map] at hx
    obtain ⟨y, -, rfl⟩ := hx
    have hy : y.toNat < 2 ^ 16 := y.toNat_lt
    simp only [UInt32.toNat_mul, UInt16.toNat_toUInt32, UInt32.toNat_ofNat, Nat.reducePow,
      Nat.reduceMod] at hy ⊢
    rw [Nat.mod_eq_of_lt (by omega)]
    omega
  have hwithin : Within steps805 .v28 805000 805000 (List.replicate 8 (some steady)) := by
    have hsampled : sampled steps805 .v28 (List.replicate 8 (some steady)) = List.replicate 80 805000 := by
      decide +kernel
    intro x hx
    rw [hsampled] at hx
    rw [List.eq_of_mem_replicate hx]
    decide
  exact averages_settle steps805 hbounded .v28 [none] (List.replicate 8 (some steady)) 805000 805000
    hwithin (by decide)

end SystemMaster.Drivers
