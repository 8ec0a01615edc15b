import SystemMaster.Dio.Commands
import SystemMaster.Library.Runs

/-!
# Inputs that count edges

In the edge modes `DIVal` counts the transitions of an input. `DIUpdate` compares
each sample with `DIPrev`, which only the edge and the toggle modes keep up, and
only while the input is not bypassed. The first scan after another mode or after a
bypass compares with an older sample.
-/

namespace SystemMaster.Dio

open Runs

/-- `DI_MODE_EDGE_LOW_GOING`, `DI_MODE_EDGE_HIGH_GOING` and `DI_MODE_EDGE_BOTH`. -/
def diModeEdgeLowGoing : UInt8 := 4
def diModeEdgeHighGoing : UInt8 := 5
def diModeEdgeBoth : UInt8 := 6

def IsEdgeMode (mode : UInt8) : Prop :=
  mode = diModeEdgeLowGoing ∨ mode = diModeEdgeHighGoing ∨ mode = diModeEdgeBoth

instance (mode : UInt8) : Decidable (IsEdgeMode mode) :=
  inferInstanceAs (Decidable (_ ∨ _ ∨ _))

/-- A transition from one sample to the next is one that the mode counts. -/
def isEdge (mode : UInt8) (prev now : Bool) : Bool :=
  if mode = diModeEdgeLowGoing then prev && !now
  else if mode = diModeEdgeHighGoing then !prev && now
  else prev != now

/-- A count does not go beyond `0xFFFFFFFF`. -/
def diValMax : Nat := 0xFFFFFFFF

inductive Change where
  | scan (inputs : InputMap → Bool)
  | cfgMode (n : InputMap) (mode : UInt8)
  | setBypassEn (n : InputMap) (state : Bool)
  | setBypass (n : InputMap) (val : UInt32)

/-- A scan in the mode compares the sample with an earlier one: it counts edges, or toggles
`DIVal` with them. -/
def comparesSamples (mode : UInt8) : Bool := diModeEdgeLowGoing ≤ mode && mode ≤ 8

/-- The channels and a record that nothing reads: the samples of the last scan, for each
input that of the last scan that compared samples, the value since which edges count and
their number. -/
structure EdgeCounter where
  live : Live
  last : Option (InputMap → Bool)
  seen : InputMap → Bool
  base : InputMap → UInt32
  count : InputMap → Nat

namespace EdgeCounter

def start (live : Live) : EdgeCounter where
  live := live
  last := none
  seen n := (live.diTbl n).diPrev
  base n := (live.diTbl n).diVal
  count _ := 0

def hasEdge (c : EdgeCounter) (n : InputMap) (inputs : InputMap → Bool) : Bool :=
  c.last.any fun prev => isEdge (c.live.diTbl n).diModeSel (prev n) (inputs n)

/-- Edges count since the mode was selected or a value was given to the bypass. -/
def restart (c : EdgeCounter) (n : InputMap) (live : Live) : EdgeCounter where
  live := live
  last := c.last
  seen := c.seen
  base := Function.update c.base n (live.diTbl n).diVal
  count := Function.update c.count n 0

def step (c : EdgeCounter) : Change → EdgeCounter
  | .scan inputs =>
    { c with
      live := c.live.turn inputs
      last := some inputs
      seen := fun n =>
        if !(c.live.diTbl n).diBypassEn && comparesSamples (c.live.diTbl n).diModeSel then inputs n
        else c.seen n
      count := fun n =>
        if (c.live.diTbl n).diBypassEn then c.count n
        else c.count n + (c.hasEdge n inputs).toNat }
  | .cfgMode n mode => c.restart n (c.live.diCfgMode n mode)
  | .setBypassEn n state => { c with live := c.live.diSetBypassEn n state }
  | .setBypass n val =>
    if (c.live.diTbl n).diBypassEn then c.restart n (c.live.diSetBypass n val) else c

/-- In an edge mode the value has gone up by one for each edge. -/
def Counts (n : InputMap) (c : EdgeCounter) : Prop :=
  IsEdgeMode (c.live.diTbl n).diModeSel →
    (c.live.diTbl n).diVal.toNat = min ((c.base n).toNat + c.count n) diValMax

/-- Where a scan counts edges, the last scan that compared samples and the last of all show
the same. -/
def Fresh (n : InputMap) (c : EdgeCounter) : Change → Prop
  | .scan inputs =>
    IsEdgeMode (c.live.diTbl n).diModeSel → (c.live.diTbl n).diBypassEn = false →
      (c.live.diTbl n).diVal.toNat < diValMax →
        isEdge (c.live.diTbl n).diModeSel (c.seen n) (inputs n) = c.hasEdge n inputs
  | _ => True

end EdgeCounter

-- ---------------------------------------------------------------------------
-- One step
-- ---------------------------------------------------------------------------

variable {di : DI} {c : EdgeCounter} {n : InputMap} {inputs : InputMap → Bool} {change : Change}

theorem IsEdgeMode.update (hmode : IsEdgeMode di.diModeSel) (hen : di.diBypassEn = false) :
    di.update.diVal =
      if isEdge di.diModeSel di.diPrev di.diIn && di.diVal < 0xFFFFFFFF then di.diVal + 1
      else di.diVal := by
  obtain ⟨diIn, diVal, diPrev, en, mode, _, _, _, _⟩ := di
  subst hen
  rcases hmode with hmode | hmode | hmode
  all_goals
    subst hmode
    rfl

theorem IsEdgeMode.update_toNat (hmode : IsEdgeMode di.diModeSel) (hen : di.diBypassEn = false) :
    di.update.diVal.toNat =
      min (di.diVal.toNat + (isEdge di.diModeSel di.diPrev di.diIn).toNat) diValMax := by
  rw [hmode.update hen]
  have hbound : di.diVal.toNat ≤ diValMax := Nat.le_of_lt_succ di.diVal.toNat_lt
  have hlt : di.diVal < 0xFFFFFFFF ↔ di.diVal.toNat < diValMax := UInt32.lt_iff_toNat_lt
  cases isEdge di.diModeSel di.diPrev di.diIn with
  | false => simpa using hbound
  | true =>
    by_cases h : di.diVal < 0xFFFFFFFF
    · have hval := hlt.mp h
      have hadd : (di.diVal + 1).toNat = di.diVal.toNat + 1 := by
        rw [UInt32.toNat_add, UInt32.toNat_one]
        exact Nat.mod_eq_of_lt (Nat.succ_lt_succ hval)
      simp only [h, decide_true, Bool.and_self, if_true, Bool.toNat_true, hadd]
      omega
    · have hval : ¬di.diVal.toNat < diValMax := fun hval => h (hlt.mpr hval)
      simp only [h, decide_false, Bool.and_false, Bool.false_eq_true, if_false, Bool.toNat_true]
      omega

namespace EdgeCounter

theorem restart_counts (live : Live) : (c.restart n live).Counts n := by
  intro _
  have hbound : (live.diTbl n).diVal.toNat ≤ diValMax :=
    Nat.le_of_lt_succ (live.diTbl n).diVal.toNat_lt
  simp only [restart, Function.update_self, Nat.add_zero]
  exact (Nat.min_eq_left hbound).symm

theorem restart_counts_of_ne {live : Live} {k : InputMap} (hk : n ≠ k)
    (hlive : live.diTbl n = c.live.diTbl n) (h : c.Counts n) : (c.restart k live).Counts n := by
  simpa only [Counts, restart, Function.update_of_ne hk, hlive] using h

theorem scan_diModeSel :
    ((c.step (.scan inputs)).live.diTbl n).diModeSel = (c.live.diTbl n).diModeSel :=
  congrArg DIConfig.mode (c.live.turn_diConfig inputs)

theorem scan_diVal_of_bypassed (hen : (c.live.diTbl n).diBypassEn = true) :
    ((c.step (.scan inputs)).live.diTbl n).diVal = (c.live.diTbl n).diVal := by
  simp [step, Live.turn, DI.update, hen]

theorem scan_diVal (hmode : IsEdgeMode (c.live.diTbl n).diModeSel)
    (hen : (c.live.diTbl n).diBypassEn = false) :
    ((c.step (.scan inputs)).live.diTbl n).diVal.toNat =
      min ((c.live.diTbl n).diVal.toNat +
        (isEdge (c.live.diTbl n).diModeSel (c.live.diTbl n).diPrev (inputs n)).toNat) diValMax :=
  @IsEdgeMode.update_toNat { c.live.diTbl n with diIn := inputs n } hmode hen

/-- `DIPrev` is the sample of the last scan that compared samples. -/
def Seen (n : InputMap) (c : EdgeCounter) : Prop := (c.live.diTbl n).diPrev = c.seen n

theorem update_diPrev :
    di.update.diPrev =
      if !di.diBypassEn && comparesSamples di.diModeSel then di.diIn else di.diPrev := by
  rw [DI.update]
  by_cases hen : di.diBypassEn = true
  · simp [hen]
  rw [if_neg hen, Bool.eq_false_iff.mpr hen]
  split
  case h_10 hlow hhigh hdirect hinv h4 h5 h6 h7 h8 =>
    have hnone : comparesSamples di.diModeSel = false := by
      rw [Bool.eq_false_iff]
      intro hmode
      simp only [comparesSamples, diModeEdgeLowGoing, Bool.and_eq_true, decide_eq_true_eq,
        UInt8.le_iff_toNat_le] at hmode
      have hcases : ∀ k : UInt8, di.diModeSel ≠ k → di.diModeSel.toNat ≠ k.toNat :=
        fun k hk heq => hk (UInt8.toNat_inj.mp heq)
      have := hcases 4 h4
      have := hcases 5 h5
      have := hcases 6 h6
      have := hcases 7 h7
      have := hcases 8 h8
      simp at *
      omega
    simp [hnone]
  all_goals
    rename_i hmode
    rw [hmode]
    rfl

theorem Seen.step (h : c.Seen n) (change : Change) : (c.step change).Seen n := by
  cases change with
  | scan inputs =>
    change ({ c.live.diTbl n with diIn := inputs n } : DI).update.diPrev = _
    rw [update_diPrev, h]
    rfl
  | cfgMode k mode | setBypassEn k state =>
    by_cases hk : n = k
    · subst hk
      simpa [Seen, EdgeCounter.step, restart, Live.diCfgMode, Live.diSetBypassEn, Live.modifyDI]
        using h
    · simpa [Seen, EdgeCounter.step, restart, Live.diCfgMode, Live.diSetBypassEn, Live.modifyDI, hk]
        using h
  | setBypass k val =>
    rw [EdgeCounter.step]
    split
    case isTrue hen =>
      by_cases hk : n = k
      · subst hk
        simpa [Seen, restart, Live.diSetBypass, Live.modifyDI, hen] using h
      · simpa [Seen, restart, Live.diSetBypass, Live.modifyDI, hk] using h
    case isFalse => exact h

theorem scan_counts_iff (hseen : c.Seen n) (h : c.Counts n) :
    (c.step (.scan inputs)).Counts n ↔ c.Fresh n (.scan inputs) := by
  rw [Counts, scan_diModeSel]
  refine forall_congr' fun hmode => ?_
  have hval := h hmode
  cases hen : (c.live.diTbl n).diBypassEn with
  | true =>
    refine iff_of_true ?_ fun hfalse => absurd hfalse (by decide)
    rw [scan_diVal_of_bypassed hen, hval]
    simp [step, hen]
  | false =>
    have hcount : (c.step (.scan inputs)).count n = c.count n + (c.hasEdge n inputs).toNat := by
      simp [step, hen]
    have hbase : (c.step (.scan inputs)).base n = c.base n := rfl
    rw [scan_diVal hmode hen, hcount, hbase, hseen]
    simp only [true_implies]
    constructor
    · intro hsum hlt
      -- below the limit both sides went up by what they saw
      have hcode := Bool.toNat_le
        (isEdge (c.live.diTbl n).diModeSel (c.seen n) (inputs n))
      have hlast := Bool.toNat_le (c.hasEdge n inputs)
      have htoNat : (isEdge (c.live.diTbl n).diModeSel (c.seen n) (inputs n)).toNat =
          (c.hasEdge n inputs).toNat := by
        omega
      rw [← Bool.ofNat_toNat (isEdge ..), htoNat, Bool.ofNat_toNat]
    · intro hfresh
      by_cases hlt : (c.live.diTbl n).diVal.toNat < diValMax
      · rw [hfresh hlt]
        omega
      · omega

theorem counts_step_iff (hseen : c.Seen n) (h : c.Counts n) :
    (c.step change).Counts n ↔ c.Fresh n change := by
  cases change with
  | scan inputs => exact scan_counts_iff hseen h
  | cfgMode k mode =>
    refine iff_of_true ?_ trivial
    by_cases hk : n = k
    · subst hk
      exact restart_counts _
    · exact restart_counts_of_ne hk (Function.update_of_ne hk ..) h
  | setBypassEn k state =>
    refine iff_of_true ?_ trivial
    by_cases hk : n = k
    · subst hk
      simpa only [Counts, step, Live.diSetBypassEn, Live.modifyDI, Function.update_self] using h
    · simpa only [Counts, step, Live.diSetBypassEn, Live.modifyDI, Function.update_of_ne hk] using h
  | setBypass k val =>
    refine iff_of_true ?_ trivial
    rw [step]
    split
    · by_cases hk : n = k
      · subst hk
        exact restart_counts _
      · exact restart_counts_of_ne hk (Function.update_of_ne hk ..) h
    · exact h

theorem start_counts (live : Live) : (start live).Counts n := by
  intro _
  exact (Nat.min_eq_left (Nat.le_of_lt_succ (live.diTbl n).diVal.toNat_lt)).symm

end EdgeCounter

/-- In every state of a run the value of an input in an edge mode has gone up by one
for each edge since the mode was selected, exactly when wherever a scan counts the last
scan that compared samples is as good as the last of all. -/
theorem edges_counted_iff (live : Live) (n : InputMap) (changes : List Change) :
    Always EdgeCounter.step (EdgeCounter.Counts n) (.start live) changes ↔
      Along EdgeCounter.step (EdgeCounter.Fresh n) (.start live) changes :=
  always_iff_along_of_inv (I := EdgeCounter.Seen n) rfl (fun _ change h => h.step change)
    (EdgeCounter.start_counts live) fun _ _ hseen h => EdgeCounter.counts_step_iff hseen h

def selectedWhileHigh (n : InputMap) : List Change :=
  [.scan fun _ => true, .cfgMode n diModeEdgeHighGoing, .scan fun _ => true]

theorem stale_sample_counted :
    ¬∀ (live : Live) (n : InputMap) (changes : List Change),
      Always EdgeCounter.step (EdgeCounter.Counts n) (.start live) changes := by
  intro h
  have hcounts := h dioInit (.gpi 0) (selectedWhileHigh (.gpi 0)) _ List.prefix_rfl (by decide)
  revert hcounts
  decide

end SystemMaster.Dio
