import SystemMaster.Dio.Commands
import SystemMaster.Library.Cycles

/-!
# Blinking outputs

`DOUpdate` lets a blinking output be on while its counter is at most `DOA`. The
counter starts again at zero after `DOB`, and the one that synchronous outputs
share after `DOSyncCtrMax`, so that an output is on for one tick more than `DOA`
of one tick more than the period.
-/

namespace SystemMaster.Dio

open Cycles

def DO.isOn (d : DO) : Bool := d.doOut != d.doInv

/-- `DOUpdate` takes the request over first, unless it is bypassed. -/
def DO.settle (d : DO) : DO := if d.doBypassEn then d else { d with doBypass := d.doCtrl }

def DO.Blinks (d : DO) : Prop := d.settle.isBlinkEn = true

def Live.ticks (l : Live) (inputs : Nat → InputMap → Bool) : Nat → Live
  | 0 => l
  | k + 1 => (l.ticks inputs k).turn (inputs k)

def Live.onTicks (l : Live) (inputs : Nat → InputMap → Bool) (m : OutputMap) (i n : Nat) : Nat :=
  Nat.count (fun k => ((l.ticks inputs (i + k + 1)).doTbl m).isOn = true) n

/-- An output is on for `DOA` ticks of every period, from any tick at which its counter is
in range, and the counter is in range after every tick. -/
structure Duty (l : Live) (inputs : Nat → InputMap → Bool) (m : OutputMap) : Prop where
  async : (l.doTbl m).doModeSel = doModeBlinkAsync →
    ∀ i, ((l.ticks inputs i).doTbl m).doBCtr ≤ (l.doTbl m).doB →
      l.onTicks inputs m i (l.doTbl m).doB.toNat = (l.doTbl m).doA.toNat
  sync : (l.doTbl m).doModeSel = doModeBlinkSync →
    ∀ i, (l.ticks inputs i).doSyncCtr ≤ l.doSyncCtrMax →
      l.onTicks inputs m i (l.doSyncCtrMax.toNat + 1) = (l.doTbl m).doA.toNat
  asyncRange : (l.doTbl m).doModeSel = doModeBlinkAsync →
    ∀ i, ((l.ticks inputs (i + 1)).doTbl m).doBCtr ≤ (l.doTbl m).doB
  syncRange : ∀ i, (l.ticks inputs (i + 1)).doSyncCtr ≤ l.doSyncCtrMax

variable {d : DO} {l : Live} {inputs : Nat → InputMap → Bool} {m : OutputMap}

theorem DO.update_blinks (doSyncCtr : UInt32) : (d.update doSyncCtr).Blinks ↔ d.Blinks := by
  cases hen : d.doBypassEn <;> simp [Blinks, settle, update, isBlinkEn, hen]

theorem DO.update_isOn_async (hmode : d.doModeSel = doModeBlinkAsync) (hblinks : d.Blinks)
    (doSyncCtr : UInt32) : (d.update doSyncCtr).isOn = true ↔ d.doBCtr ≤ d.doA := by
  have hon : (d.update doSyncCtr).isOn = (d.settle.isBlinkEn && d.doBCtr ≤ d.doA) := by
    obtain ⟨_, _, _, en, _, _, inv, _, _, _⟩ := d
    subst hmode
    cases en <;> cases inv <;> simp [isOn, update, settle, doModeBlinkAsync]
  rw [hon, hblinks, Bool.true_and, decide_eq_true_iff]

theorem DO.update_isOn_sync (hmode : d.doModeSel = doModeBlinkSync) (hblinks : d.Blinks)
    (doSyncCtr : UInt32) : (d.update doSyncCtr).isOn = true ↔ doSyncCtr ≤ d.doA := by
  have hon : (d.update doSyncCtr).isOn = (d.settle.isBlinkEn && doSyncCtr ≤ d.doA) := by
    obtain ⟨_, _, _, en, _, _, inv, _, _, _⟩ := d
    subst hmode
    cases en <;> cases inv <;> simp [isOn, update, settle, doModeBlinkSync]
  rw [hon, hblinks, Bool.true_and, decide_eq_true_iff]

theorem toNat_wrap (c last : UInt32) :
    (if c < last then c + 1 else 0 : UInt32).toNat = next last.toNat c.toNat := by
  rw [next]
  by_cases h : c < last
  · have hlt := UInt32.lt_iff_toNat_lt.mp h
    have hbound := last.toNat_lt
    rw [if_pos h, if_pos hlt, UInt32.toNat_add, UInt32.toNat_one]
    exact Nat.mod_eq_of_lt (by omega)
  · have hge : ¬c.toNat < last.toNat := fun hlt => h (UInt32.lt_iff_toNat_lt.mpr hlt)
    rw [if_neg h, if_neg hge, UInt32.toNat_zero]

theorem DO.update_doBCtr (hmode : d.doModeSel = doModeBlinkAsync) (doSyncCtr : UInt32) :
    (d.update doSyncCtr).doBCtr.toNat = next d.doB.toNat d.doBCtr.toNat := by
  rw [← toNat_wrap]
  cases hen : d.doBypassEn <;> simp [update, hmode, doModeBlinkAsync, hen]

-- ---------------------------------------------------------------------------
-- Runs of ticks
-- ---------------------------------------------------------------------------

namespace Live

theorem ticks_config (k : Nat) : ((l.ticks inputs k).doTbl m).config = (l.doTbl m).config := by
  induction k with
  | zero => rfl
  | succ k ih => rw [ticks, turn_doConfig, ih]

theorem ticks_doModeSel (k : Nat) :
    ((l.ticks inputs k).doTbl m).doModeSel = (l.doTbl m).doModeSel :=
  congrArg DOConfig.mode (ticks_config k)

theorem ticks_doA (k : Nat) : ((l.ticks inputs k).doTbl m).doA = (l.doTbl m).doA :=
  congrArg DOConfig.a (ticks_config k)

theorem ticks_doB (k : Nat) : ((l.ticks inputs k).doTbl m).doB = (l.doTbl m).doB :=
  congrArg DOConfig.b (ticks_config k)

theorem ticks_doSyncCtrMax (k : Nat) : (l.ticks inputs k).doSyncCtrMax = l.doSyncCtrMax := by
  induction k with
  | zero => rfl
  | succ k ih => exact ih

theorem ticks_blinks (h : (l.doTbl m).Blinks) (k : Nat) :
    ((l.ticks inputs k).doTbl m).Blinks := by
  induction k with
  | zero => exact h
  | succ k ih => exact (DO.update_blinks _).mpr ih

theorem ticks_doBCtr (hmode : (l.doTbl m).doModeSel = doModeBlinkAsync) :
    Counts (l.doTbl m).doB.toNat fun k => ((l.ticks inputs k).doTbl m).doBCtr.toNat := by
  intro k
  rw [← ticks_doB k]
  exact DO.update_doBCtr ((ticks_doModeSel k).trans hmode) _

theorem ticks_doSyncCtr :
    Counts l.doSyncCtrMax.toNat fun k => (l.ticks inputs k).doSyncCtr.toNat := by
  intro k
  rw [← ticks_doSyncCtrMax k]
  exact toNat_wrap _ _

theorem onTicks_async (hmode : (l.doTbl m).doModeSel = doModeBlinkAsync)
    (hblinks : (l.doTbl m).Blinks) (i n : Nat) :
    l.onTicks inputs m i n =
      Nat.count (fun k => ((l.ticks inputs (i + k)).doTbl m).doBCtr.toNat ≤
        (l.doTbl m).doA.toNat) n := by
  have hon : ∀ k, ((l.ticks inputs (i + k + 1)).doTbl m).isOn = true ↔
      ((l.ticks inputs (i + k)).doTbl m).doBCtr.toNat ≤ (l.doTbl m).doA.toNat := by
    intro k
    rw [← UInt32.le_iff_toNat_le, ← ticks_doA (i + k)]
    exact DO.update_isOn_async ((ticks_doModeSel _).trans hmode) (ticks_blinks hblinks _) _
  simp only [onTicks, hon]

theorem onTicks_sync (hmode : (l.doTbl m).doModeSel = doModeBlinkSync)
    (hblinks : (l.doTbl m).Blinks) (i n : Nat) :
    l.onTicks inputs m i n =
      Nat.count (fun k => (l.ticks inputs (i + k)).doSyncCtr.toNat ≤ (l.doTbl m).doA.toNat) n := by
  have hon : ∀ k, ((l.ticks inputs (i + k + 1)).doTbl m).isOn = true ↔
      (l.ticks inputs (i + k)).doSyncCtr.toNat ≤ (l.doTbl m).doA.toNat := by
    intro k
    rw [← UInt32.le_iff_toNat_le, ← ticks_doA (i + k)]
    exact DO.update_isOn_sync ((ticks_doModeSel _).trans hmode) (ticks_blinks hblinks _) _
  simp only [onTicks, hon]

end Live

-- ---------------------------------------------------------------------------
-- The duty
-- ---------------------------------------------------------------------------

theorem duty_last_iff {last a : Nat} {c : Nat → Nat} (h : Counts last c) (ha : a ≤ last) :
    (∀ i, c i ≤ last → Nat.count (fun k => c (i + k) ≤ a) last = a) ↔ a = last := by
  constructor
  · intro hduty
    have hone : c 1 ≤ last := h 0 ▸ next_le
    obtain ⟨k, hk, hlast⟩ := h.exists_last hone last
    obtain ⟨j, rfl⟩ := Nat.exists_eq_add_of_le hk
    have hrange : c (1 + j) ≤ last := h.le hone j
    have hon := (h.count_last hrange ha).mp (hduty _ hrange)
    rw [show 1 + j + last = 1 + (last + j) by omega, hlast] at hon
    exact Nat.le_antisymm ha hon
  · rintro rfl i hi
    exact (h.count_last hi le_rfl).mpr (h.le hi _)

theorem duty_period_iff {last a : Nat} {c : Nat → Nat} (h : Counts last c) :
    (∀ i, c i ≤ last → Nat.count (fun k => c (i + k) ≤ a) (last + 1) = a) ↔ a = last + 1 := by
  have hone : c 1 ≤ last := h 0 ▸ next_le
  constructor
  · intro hduty
    by_cases ha : a ≤ last
    · have hcount := h.count_period hone ha
      rw [hduty 1 hone] at hcount
      omega
    · have hall : Nat.count (fun k => c (1 + k) ≤ a) (last + 1) = last + 1 :=
        Nat.count_iff_forall.mpr fun k _ => (h.le hone k).trans (by omega)
      exact (hduty 1 hone).symm.trans hall
  · rintro rfl i hi
    exact Nat.count_iff_forall.mpr fun k _ => (h.le hi k).trans (Nat.le_succ last)

/-- A blinking output has its duty exactly when it does not go off at all. -/
theorem duty_iff (l : Live) (inputs : Nat → InputMap → Bool) (m : OutputMap)
    (hblinks : (l.doTbl m).Blinks) (hab : (l.doTbl m).doA ≤ (l.doTbl m).doB) :
    Duty l inputs m ↔
      ((l.doTbl m).doModeSel = doModeBlinkAsync → (l.doTbl m).doA = (l.doTbl m).doB) ∧
        ((l.doTbl m).doModeSel = doModeBlinkSync →
          (l.doTbl m).doA.toNat = l.doSyncCtrMax.toNat + 1) := by
  have hasync : (l.doTbl m).doModeSel = doModeBlinkAsync →
      ((∀ i, ((l.ticks inputs i).doTbl m).doBCtr ≤ (l.doTbl m).doB →
        l.onTicks inputs m i (l.doTbl m).doB.toNat = (l.doTbl m).doA.toNat) ↔
          (l.doTbl m).doA = (l.doTbl m).doB) := by
    intro hmode
    simp only [Live.onTicks_async hmode hblinks, UInt32.le_iff_toNat_le, ← UInt32.toNat_inj]
    exact duty_last_iff (Live.ticks_doBCtr hmode) (UInt32.le_iff_toNat_le.mp hab)
  have hsync : (l.doTbl m).doModeSel = doModeBlinkSync →
      ((∀ i, (l.ticks inputs i).doSyncCtr ≤ l.doSyncCtrMax →
        l.onTicks inputs m i (l.doSyncCtrMax.toNat + 1) = (l.doTbl m).doA.toNat) ↔
          (l.doTbl m).doA.toNat = l.doSyncCtrMax.toNat + 1) := by
    intro hmode
    simp only [Live.onTicks_sync hmode hblinks, UInt32.le_iff_toNat_le]
    exact duty_period_iff Live.ticks_doSyncCtr
  constructor
  · exact fun h => ⟨fun hmode => (hasync hmode).mp (h.async hmode),
      fun hmode => (hsync hmode).mp (h.sync hmode)⟩
  · rintro ⟨ha, hs⟩
    exact {
      async := fun hmode => (hasync hmode).mpr (ha hmode)
      sync := fun hmode => (hsync hmode).mpr (hs hmode)
      asyncRange := fun hmode i => UInt32.le_iff_toNat_le.mpr
        ((Live.ticks_doBCtr hmode i).trans_le next_le)
      syncRange := fun i => UInt32.le_iff_toNat_le.mpr
        ((Live.ticks_doSyncCtr i).trans_le next_le) }

def alwaysOn (m : OutputMap) : Live :=
  (dioInit.doCfgMode m doModeBlinkAsync false).doCfgBlink m 0 3 3

theorem duty_iff_alwaysOn : Duty (alwaysOn (.gpo 0)) (fun _ _ => false) (.gpo 0) :=
  (duty_iff (alwaysOn (.gpo 0)) _ (.gpo 0) rfl (by decide)).mpr ⟨fun _ => rfl, by decide⟩

def oneOfTwo (m : OutputMap) : Live :=
  (dioInit.doCfgMode m doModeBlinkAsync false).doCfgBlink m 0 1 2

theorem blink_on_too_long :
    ¬∀ (l : Live) (inputs : Nat → InputMap → Bool) (m : OutputMap),
      (l.doTbl m).Blinks → (l.doTbl m).doA ≤ (l.doTbl m).doB → Duty l inputs m := by
  intro h
  have hduty := (h (oneOfTwo (.gpo 0)) (fun _ _ => false) (.gpo 0) rfl (by decide)).async rfl 1
    (by decide)
  revert hduty
  decide

end SystemMaster.Dio
