import SystemMaster.Dio.Debounce
import Mathlib.Data.Nat.Count

/-!
# Repeats of a held key

`DIRd` calls `DIDebFnct` at a press and then each time a repeat falls due while the
key is held. A released sample takes the machine from its repeat states back to
`KEY_STATE_DEBOUNCE`, whose counter has been spent by the press: for the rest of the
run no repeat comes any more. A start delay of zero is never counted down.
-/

namespace SystemMaster.Dio

open Runs

def runsOut (ctr : UInt32) : Bool := ctr > 0 && ctr - 1 = 0

def DI.callsDebFnct (di : DI) (k : Key) (pinVal : Bool) : Bool :=
  if di.diDebounceEn then
    let (down, k) := k.isKeyDown pinVal
    match k.diScanState with
    | .up => false
    | .debounce => down && runsOut k.diDebounceDlyCtr
    | .rptStartDly => down && runsOut k.diRptStartDlyCtr
    | .rptDly => down && runsOut k.diRptDlyCtr
  else false

-- ---------------------------------------------------------------------------
-- The repeats of a held run
-- ---------------------------------------------------------------------------

/-- A repeat is due at the `k`-th pressed sample after the press: the first one after
the start delay, then one after each repeat delay. -/
def Due (rptStartDly rptDly k : Nat) : Prop := rptStartDly ≤ k ∧ rptDly ∣ k - rptStartDly

instance (rptStartDly rptDly k : Nat) : Decidable (Due rptStartDly rptDly k) :=
  inferInstanceAs (Decidable (_ ∧ _))

def repeats (rptStartDly rptDly n : Nat) : Nat :=
  Nat.count (fun k => Due rptStartDly rptDly (k + 1)) n

/-- The scanner and a record of the run in which an input is to be reported pressed:
the pressed samples since the press, and the calls of `DIDebFnct`. -/
structure Repeater where
  scanner : Scanner
  held : InputMap → Nat
  calls : InputMap → Nat

namespace Repeater

def start (live : Live) : Repeater := ⟨.start live, fun _ => 0, fun _ => 0⟩

def di (r : Repeater) (n : InputMap) : DI := r.scanner.live.diTbl n

def debouncer (r : Repeater) (n : InputMap) : Debouncer := r.scanner.debouncer n

/-- The input stays pressed, or a new run begins with the press. -/
def step (r : Repeater) (pins : InputMap → Bool) : Repeater where
  scanner := r.scanner.step pins
  held n :=
    if ((r.scanner.step pins).debouncer n).pressed && (r.debouncer n).pressed then
      r.held n + (!pins n).toNat
    else 0
  calls n :=
    if ((r.scanner.step pins).debouncer n).pressed then
      (if (r.debouncer n).pressed then r.calls n else 0) +
        ((r.di n).callsDebFnct (r.scanner.key n) (pins n)).toNat
    else 0

/-- One call for the press, and one for each repeat. -/
def Repeats (n : InputMap) (r : Repeater) : Prop :=
  (r.debouncer n).pressed →
    r.calls n = 1 + repeats (r.di n).diRptStartDly.toNat (r.di n).diRptDly.toNat (r.held n)

/-- Once a released sample has been followed by a pressed one, the next released sample
is one of the release. -/
def LetsGoOnce (n : InputMap) (r : Repeater) (pins : InputMap → Bool) : Prop :=
  (r.debouncer n).pressed → (r.debouncer n).bounced → (r.debouncer n).ups = 1 → pins n = true

/-- The scans at which the machine calls as it is to: none with a delay of zero is the
press, and none at which a repeat is due comes after a released sample of the run or
with a start delay of zero. -/
def Steady (n : InputMap) (r : Repeater) (pins : InputMap → Bool) : Prop :=
  LetsGoOnce n r pins ∧
    ((r.di n).diDebounceDly = 0 → (r.debouncer n).pressed = false → pins n = true) ∧
    ((r.debouncer n).pressed → (r.debouncer n).ups < 2 → pins n = false →
      (r.debouncer n).bounced ∨ (r.debouncer n).ups = 1 ∨ (r.di n).diRptStartDly = 0 →
        ¬Due (r.di n).diRptStartDly.toNat (r.di n).diRptDly.toNat (r.held n + 1))

instance (n : InputMap) (r : Repeater) (pins : InputMap → Bool) : Decidable (r.Steady n pins) :=
  inferInstanceAs (Decidable ((_ → _ → _ → _) ∧ (_ → _ → _) ∧ (_ → _ → _ → _ → _)))

end Repeater

-- ---------------------------------------------------------------------------
-- One scan of the machine
-- ---------------------------------------------------------------------------

variable {di : DI} {k : Key} {s : Debouncer} {pinVal : Bool} {n : InputMap}

theorem runsOut_iff {ctr : UInt32} : runsOut ctr = true ↔ ctr.toNat = 1 := by
  rw [runsOut, Bool.and_eq_true, decide_eq_true_iff, decide_eq_true_iff]
  constructor
  · rintro ⟨hpos, hzero⟩
    have hle : (1 : UInt32) ≤ ctr := UInt32.le_iff_toNat_le.mpr (UInt32.lt_iff_toNat_lt.mp hpos)
    have hsub := UInt32.toNat_sub_of_le ctr 1 hle
    rw [hzero, UInt32.toNat_zero, UInt32.toNat_one] at hsub
    have := UInt32.lt_iff_toNat_lt.mp hpos
    rw [UInt32.toNat_zero] at this
    omega
  · intro hone
    obtain rfl : ctr = 1 := UInt32.toNat_inj.mp hone
    decide

theorem DI.callsDebFnct_up (hstate : k.diScanState = .up) : di.callsDebFnct k pinVal = false := by
  cases pinVal <;> simp [callsDebFnct, Key.isKeyDown, hstate]

theorem DI.callsDebFnct_released : di.callsDebFnct k true = false := by
  cases h : k.diScanState <;> simp [callsDebFnct, Key.isKeyDown, h]

theorem DI.callsDebFnct_debounce (hen : di.diDebounceEn = true)
    (hstate : k.diScanState = .debounce) :
    di.callsDebFnct k false = true ↔ k.diDebounceDlyCtr.toNat = 1 := by
  simp [callsDebFnct, hen, Key.isKeyDown, hstate, runsOut_iff]

theorem DI.callsDebFnct_rptStartDly (hen : di.diDebounceEn = true)
    (hstate : k.diScanState = .rptStartDly) :
    di.callsDebFnct k false = true ↔ k.diRptStartDlyCtr.toNat = 1 := by
  simp [callsDebFnct, hen, Key.isKeyDown, hstate, runsOut_iff]

theorem DI.callsDebFnct_rptDly (hen : di.diDebounceEn = true) (hstate : k.diScanState = .rptDly) :
    di.callsDebFnct k false = true ↔ k.diRptDlyCtr.toNat = 1 := by
  simp [callsDebFnct, hen, Key.isKeyDown, hstate, runsOut_iff]

theorem countDown (ctr : UInt32) :
    ctr = 0 ∨ ctr > 0 ∧ (ctr - 1).toNat = ctr.toNat - 1 ∧ (ctr - 1 = 0 ↔ ctr.toNat = 1) := by
  by_cases hzero : ctr = 0
  · exact .inl hzero
  · have hpos : 0 < ctr.toNat :=
      Nat.pos_of_ne_zero fun h => hzero (UInt32.toNat_inj.mp h)
    have hsub := UInt32.toNat_sub_of_le ctr 1 (UInt32.le_iff_toNat_le.mpr hpos)
    refine .inr ⟨UInt32.lt_iff_toNat_lt.mpr hpos, hsub, ?_⟩
    rw [← UInt32.toNat_inj, hsub, UInt32.toNat_zero, UInt32.toNat_one]
    omega

theorem DI.rd_rptStartDly (hen : di.diDebounceEn = true) (hstate : k.diScanState = .rptStartDly) :
    if k.diRptStartDlyCtr.toNat = 1 then
      (di.rd k false).2.diScanState = .rptDly ∧ (di.rd k false).2.diRptDlyCtr = di.diRptDly
    else (di.rd k false).2.diScanState = .rptStartDly ∧
      (di.rd k false).2.diRptStartDlyCtr.toNat = k.diRptStartDlyCtr.toNat - 1 := by
  rcases countDown k.diRptStartDlyCtr with hzero | ⟨hpos, hsub, hone⟩
  · simp [rd, hen, Key.isKeyDown, hstate, hzero]
  · by_cases h : k.diRptStartDlyCtr.toNat = 1
    · simp [rd, hen, Key.isKeyDown, hstate, hpos, hone, h]
    · simp [rd, hen, Key.isKeyDown, hstate, hpos, hsub, hone, h]

theorem DI.rd_rptDly (hen : di.diDebounceEn = true) (hstate : k.diScanState = .rptDly) :
    (di.rd k false).2.diScanState = .rptDly ∧
      (di.rd k false).2.diRptDlyCtr.toNat =
        if k.diRptDlyCtr.toNat = 1 then di.diRptDly.toNat else k.diRptDlyCtr.toNat - 1 := by
  rcases countDown k.diRptDlyCtr with hzero | ⟨hpos, hsub, hone⟩
  · simp [rd, hen, Key.isKeyDown, hstate, hzero]
  · by_cases h : k.diRptDlyCtr.toNat = 1
    · simp [rd, hen, Key.isKeyDown, hstate, hpos, hone, h]
    · simp [rd, hen, Key.isKeyDown, hstate, hpos, hsub, hone, h]

/-- What the counters of the repeat states have left after `held` pressed samples. -/
structure Paced (di : DI) (k : Key) (held : Nat) : Prop where
  startDly : k.diScanState = .rptStartDly →
    di.diRptStartDly.toNat = 0 ∧ k.diRptStartDlyCtr.toNat = 0 ∨
      held < di.diRptStartDly.toNat ∧
        k.diRptStartDlyCtr.toNat + held = di.diRptStartDly.toNat
  rptDly : k.diScanState = .rptDly →
    0 < di.diRptStartDly.toNat ∧ di.diRptStartDly.toNat ≤ held ∧
      (di.diRptDly.toNat = 0 ∧ k.diRptDlyCtr.toNat = 0 ∨
        0 < k.diRptDlyCtr.toNat ∧ k.diRptDlyCtr.toNat ≤ di.diRptDly.toNat ∧
          di.diRptDly.toNat ∣ held - di.diRptStartDly.toNat + k.diRptDlyCtr.toNat)

theorem Paced.of_state {held : Nat} (h : k.diScanState = .up ∨ k.diScanState = .debounce) :
    Paced di k held := by
  rcases h with h | h
  · exact ⟨fun hs => by simp [h] at hs, fun hs => by simp [h] at hs⟩
  · exact ⟨fun hs => by simp [h] at hs, fun hs => by simp [h] at hs⟩

/-- In the repeat states the machine calls exactly when a repeat is due, unless the start
delay is zero. -/
theorem Paced.calls_iff {held : Nat} (h : Paced di k held) (hen : di.diDebounceEn = true)
    (hstate : k.diScanState = .rptStartDly ∨ k.diScanState = .rptDly) :
    di.callsDebFnct k false = true ↔ 0 < di.diRptStartDly.toNat ∧
      Due di.diRptStartDly.toNat di.diRptDly.toNat (held + 1) := by
  rcases hstate with hstate | hstate
  · rw [DI.callsDebFnct_rptStartDly hen hstate]
    rcases h.startDly hstate with ⟨hzero, hctr⟩ | ⟨hlt, hsum⟩
    · omega
    · constructor
      · intro hone
        have heq : held + 1 = di.diRptStartDly.toNat := by omega
        exact ⟨by omega, heq.ge, by rw [heq, Nat.sub_self]; exact Nat.dvd_zero _⟩
      · rintro ⟨_, hle, _⟩
        omega
  · rw [DI.callsDebFnct_rptDly hen hstate]
    obtain ⟨hpos, hle, hctr⟩ := h.rptDly hstate
    have hsub : held + 1 - di.diRptStartDly.toNat = held - di.diRptStartDly.toNat + 1 := by omega
    rw [Due, hsub]
    rcases hctr with ⟨hzero, hctr⟩ | ⟨hctr, hmax, hdvd⟩
    · rw [hzero, Nat.zero_dvd]
      omega
    · constructor
      · intro hone
        exact ⟨hpos, by omega, hone ▸ hdvd⟩
      · rintro ⟨_, _, hdue⟩
        -- two multiples less than one delay apart are the same
        obtain ⟨a, ha⟩ := hdvd
        obtain ⟨b, hb⟩ := hdue
        have hdiff : di.diRptDly.toNat ∣ k.diRptDlyCtr.toNat - 1 := by
          refine (Nat.dvd_sub ⟨a, ha⟩ ⟨b, hb⟩).trans (dvd_of_eq ?_)
          omega
        have hsmall := Nat.eq_zero_of_dvd_of_lt hdiff (by omega)
        omega

theorem Paced.rd {held : Nat} (h : Paced di k held) (hen : di.diDebounceEn = true)
    (hstate : k.diScanState = .rptStartDly ∨ k.diScanState = .rptDly) :
    Paced di (di.rd k false).2 (held + 1) := by
  rcases hstate with hstate | hstate
  · have hnext := DI.rd_rptStartDly hen hstate
    rcases h.startDly hstate with ⟨hzero, hctr⟩ | ⟨hlt, hsum⟩
    · rw [if_neg (by omega)] at hnext
      refine ⟨fun _ => .inl ⟨hzero, by omega⟩, fun hs => ?_⟩
      rw [hnext.1] at hs
      cases hs
    · by_cases hone : k.diRptStartDlyCtr.toNat = 1
      · rw [if_pos hone] at hnext
        refine ⟨fun hs => ?_, fun _ => ⟨by omega, by omega, ?_⟩⟩
        · rw [hnext.1] at hs
          cases hs
        · rw [hnext.2, show held + 1 - di.diRptStartDly.toNat = 0 by omega, Nat.zero_add]
          rcases Nat.eq_zero_or_pos di.diRptDly.toNat with hrpt | hrpt
          · exact .inl ⟨hrpt, hrpt⟩
          · exact .inr ⟨hrpt, le_rfl, dvd_rfl⟩
      · rw [if_neg hone] at hnext
        refine ⟨fun _ => .inr ⟨by omega, by omega⟩, fun hs => ?_⟩
        rw [hnext.1] at hs
        cases hs
  · obtain ⟨hnext, hctr'⟩ := DI.rd_rptDly hen hstate
    obtain ⟨hpos, hle, hctr⟩ := h.rptDly hstate
    refine ⟨fun hs => ?_, fun _ => ⟨hpos, by omega, ?_⟩⟩
    · rw [hnext] at hs
      cases hs
    · rw [hctr']
      rcases hctr with ⟨hzero, hctr⟩ | ⟨hctr, hmax, hdvd⟩
      · rw [if_neg (by omega)]
        exact .inl ⟨hzero, by omega⟩
      · have hsub : held + 1 - di.diRptStartDly.toNat = held - di.diRptStartDly.toNat + 1 := by
          omega
        by_cases hone : k.diRptDlyCtr.toNat = 1
        · rw [if_pos hone, hsub]
          refine .inr ⟨by omega, le_rfl, Nat.dvd_add ?_ dvd_rfl⟩
          rwa [hone] at hdvd
        · rw [if_neg hone, hsub]
          refine .inr ⟨by omega, by omega, hdvd.trans (dvd_of_eq ?_)⟩
          omega

theorem Paced.congr {di' : DI} {held : Nat} (h : Paced di k held)
    (hconfig : di'.config = di.config) :
    Paced di' k held := by
  have hstart : di'.diRptStartDly = di.diRptStartDly := congrArg DIConfig.rptStartDly hconfig
  have hrpt : di'.diRptDly = di.diRptDly := congrArg DIConfig.rptDly hconfig
  obtain ⟨h₁, h₂⟩ := h
  rw [← hstart] at h₁ h₂
  rw [← hrpt] at h₂
  exact ⟨h₁, h₂⟩

theorem DI.rd_press (hen : di.diDebounceEn = true) (hstate : k.diScanState = .debounce)
    (hone : k.diDebounceDlyCtr.toNat = 1) :
    (di.rd k false).2.diRptStartDlyCtr = di.diRptStartDly := by
  obtain hctr : k.diDebounceDlyCtr = 1 := UInt32.toNat_inj.mp hone
  simp [rd, hen, Key.isKeyDown, hstate, hctr]

/-- The machine is tracked past an early release as well. -/
theorem Tracks.rd_letsGo (hen : di.diDebounceEn = true)
    (h : Tracks di.diDebounceDly di.diIn k s)
    (hdly : di.diDebounceDly = 0 → s.pressed = false → pinVal = true)
    (honce : s.pressed → s.bounced → s.ups = 1 → pinVal = true) :
    Tracks di.diDebounceDly (di.rd k pinVal).1.diIn (di.rd k pinVal).2
      (s.scan di.diDebounceDly.toNat !pinVal) := by
  by_cases hsteady : s.Steady di.diDebounceDly.toNat !pinVal
  · exact (h.rd hen hsteady).1
  · rw [Debouncer.Steady, Decidable.not_and_iff_or_not] at hsteady
    rcases hsteady with hzero | hbounce
    · simp only [Classical.not_imp, Bool.not_eq_false, Bool.not_eq_true'] at hzero
      obtain ⟨hz, hpressed, rfl⟩ := hzero
      exact absurd (hdly (UInt32.toNat_inj.mp hz) hpressed) (by decide)
    · simp only [Classical.not_imp, Decidable.not_not] at hbounce
      obtain ⟨hpressed, hbounced, hups⟩ := hbounce
      obtain rfl := honce hpressed hbounced hups
      cases h with
      | up _ hp | debounce _ hp => rw [hpressed] at hp; cases hp
      | held _ _ _ _ _ _ hb | letGo _ _ _ _ _ _ hb => rw [hbounced] at hb; cases hb
      | bounced _ _ _ _ _ hu => omega
      | leaving hstate _ hpos =>
        rw [DI.rd_up_released hen hstate]
        refine .leaving hstate ?_ hpos rfl (.inl ?_)
        · simp [Debouncer.scan, hpressed, hups]
        · simp [Debouncer.scan, hups]

-- ---------------------------------------------------------------------------
-- Runs of the task
-- ---------------------------------------------------------------------------

namespace Repeater

variable {r : Repeater} {pins : InputMap → Bool}

theorem step_config : ((r.step pins).di n).config = (r.di n).config := Scanner.step_config

theorem step_diDebounceDly : ((r.step pins).di n).diDebounceDly = (r.di n).diDebounceDly :=
  congrArg DIConfig.debounceDly step_config

theorem step_diRptStartDly : ((r.step pins).di n).diRptStartDly = (r.di n).diRptStartDly :=
  congrArg DIConfig.rptStartDly step_config

theorem step_diRptDly : ((r.step pins).di n).diRptDly = (r.di n).diRptDly :=
  congrArg DIConfig.rptDly step_config

theorem step_debouncer :
    (r.step pins).debouncer n =
      (r.debouncer n).scan (r.di n).diDebounceDly.toNat !pins n := rfl

theorem step_key :
    (r.step pins).scanner.key n = ((r.di n).rd (r.scanner.key n) (pins n)).2 := rfl

theorem step_diIn :
    ((r.step pins).di n).diIn = ((r.di n).rd (r.scanner.key n) (pins n)).1.diIn :=
  Scanner.step_diIn

theorem step_held :
    (r.step pins).held n =
      if ((r.step pins).debouncer n).pressed && (r.debouncer n).pressed then
        r.held n + (!pins n).toNat
      else 0 := rfl

theorem step_calls :
    (r.step pins).calls n =
      if ((r.step pins).debouncer n).pressed then
        (if (r.debouncer n).pressed then r.calls n else 0) +
          ((r.di n).callsDebFnct (r.scanner.key n) (pins n)).toNat
      else 0 := rfl

theorem step_held_of_pressed (hpressed : (r.debouncer n).pressed = true)
    (hstays : ((r.step pins).debouncer n).pressed = true) :
    (r.step pins).held n = r.held n + (!pins n).toNat := by
  simp [step_held, hstays, hpressed]

theorem step_calls_of_pressed (hpressed : (r.debouncer n).pressed = true)
    (hstays : ((r.step pins).debouncer n).pressed = true) :
    (r.step pins).calls n =
      r.calls n + ((r.di n).callsDebFnct (r.scanner.key n) (pins n)).toNat := by
  simp [step_calls, hstays, hpressed]

theorem repeats_step_iff_of_held (h : r.Repeats n) (hpressed : (r.debouncer n).pressed = true)
    (hstays : ((r.step pins).debouncer n).pressed = true) :
    (r.step pins).Repeats n ↔
      ((r.di n).callsDebFnct (r.scanner.key n) (pins n) = true ↔ pins n = false ∧
        Due (r.di n).diRptStartDly.toNat (r.di n).diRptDly.toNat (r.held n + 1)) := by
  have hcalls := h hpressed
  rw [Repeats, step_diRptStartDly, step_diRptDly, step_held_of_pressed hpressed hstays,
    step_calls_of_pressed hpressed hstays, hcalls]
  simp only [hstays, true_implies]
  cases hpin : pins n with
  | true => simp [DI.callsDebFnct_released]
  | false =>
    by_cases hdue : Due (r.di n).diRptStartDly.toNat (r.di n).diRptDly.toNat (r.held n + 1)
    · cases (r.di n).callsDebFnct (r.scanner.key n) false with
      | true => simp [repeats, Nat.count_succ, hdue, Nat.add_assoc]
      | false => simp [repeats, Nat.count_succ, hdue]
    · cases (r.di n).callsDebFnct (r.scanner.key n) false with
      | true => simp [repeats, Nat.count_succ, hdue]
      | false => simp [repeats, Nat.count_succ, hdue]

theorem repeats_step_iff_of_pressed (h : r.Repeats n) (hpressed : (r.debouncer n).pressed = true)
    (hups : (r.debouncer n).ups < 2)
    (hcalls : (r.di n).callsDebFnct (r.scanner.key n) false = true ↔
      ¬((r.debouncer n).bounced ∨ (r.debouncer n).ups = 1 ∨ (r.di n).diRptStartDly = 0) ∧
        Due (r.di n).diRptStartDly.toNat (r.di n).diRptDly.toNat (r.held n + 1)) :
    (r.step pins).Repeats n ↔ (pins n = false →
      (r.debouncer n).bounced ∨ (r.debouncer n).ups = 1 ∨ (r.di n).diRptStartDly = 0 →
        ¬Due (r.di n).diRptStartDly.toNat (r.di n).diRptDly.toNat (r.held n + 1)) := by
  have hstays : ((r.step pins).debouncer n).pressed = true :=
    Debouncer.scan_pressed hpressed hups
  rw [repeats_step_iff_of_held h hpressed hstays]
  cases hpin : pins n with
  | true => simp [DI.callsDebFnct_released]
  | false =>
    rw [hcalls]
    tauto

theorem repeats_step_iff_of_press (hpressed : (r.debouncer n).pressed = false)
    (hpress : ((r.step pins).debouncer n).pressed = true) :
    (r.step pins).Repeats n ↔ (r.di n).callsDebFnct (r.scanner.key n) (pins n) = true := by
  have hheld : (r.step pins).held n = 0 := by simp [step_held, hpressed]
  have hcalls : (r.step pins).calls n =
      ((r.di n).callsDebFnct (r.scanner.key n) (pins n)).toNat := by
    simp [step_calls, hpressed, hpress]
  rw [Repeats, hheld, hcalls]
  simp only [hpress, true_implies]
  cases (r.di n).callsDebFnct (r.scanner.key n) (pins n) with
  | true => simp [repeats]
  | false => simp [repeats]

theorem repeats_of_not_pressed (hpressed : (r.debouncer n).pressed = false) : r.Repeats n :=
  fun h => by simp [hpressed] at h

structure Held (n : InputMap) (r : Repeater) : Prop where
  enabled : (r.di n).diDebounceEn = true
  tracks : Tracks (r.di n).diDebounceDly (r.di n).diIn (r.scanner.key n) (r.debouncer n)
  paced : Paced (r.di n) (r.scanner.key n) (r.held n)
  repeats : r.Repeats n

theorem Held.start {live : Live} (hen : (live.diTbl n).diDebounceEn = true) :
    Held n (start live) where
  enabled := hen
  tracks := .up rfl rfl rfl
  paced := .of_state (.inl rfl)
  repeats := repeats_of_not_pressed rfl

theorem steady_iff_up (hstate : (r.scanner.key n).diScanState = .up)
    (hpressed : (r.debouncer n).pressed = false) (hdowns : (r.debouncer n).downs = 0) :
    (r.step pins).Repeats n ∧ r.LetsGoOnce n pins ↔ r.Steady n pins := by
  have hnext : ((r.step pins).debouncer n).pressed =
      decide ((if !pins n then 1 else 0) = (r.di n).diDebounceDly.toNat + 1) := by
    rw [step_debouncer]
    simp [Debouncer.scan, hpressed, hdowns]
  have hzero : (r.di n).diDebounceDly = 0 ↔ (r.di n).diDebounceDly.toNat = 0 :=
    UInt32.toNat_inj.symm
  simp only [Steady, LetsGoOnce, hpressed, hzero]
  cases hpin : pins n with
  | true => simp [repeats_of_not_pressed, hnext, hpin]
  | false =>
    by_cases hdly : (r.di n).diDebounceDly.toNat = 0
    · rw [repeats_step_iff_of_press hpressed (by simp [hnext, hpin, hdly])]
      simp [DI.callsDebFnct_up hstate, hdly]
    · have hnot : (r.step pins).Repeats n :=
        repeats_of_not_pressed (by simpa [hnext, hpin] using hdly)
      simp [hnot, hdly]

theorem repeats_of_debounce (hen : (r.di n).diDebounceEn = true)
    (hstate : (r.scanner.key n).diScanState = .debounce)
    (hpressed : (r.debouncer n).pressed = false)
    (hsum : (r.scanner.key n).diDebounceDlyCtr.toNat + (r.debouncer n).downs =
      (r.di n).diDebounceDly.toNat + 1) : (r.step pins).Repeats n := by
  cases hpressed' : ((r.step pins).debouncer n).pressed with
  | false => exact repeats_of_not_pressed hpressed'
  | true =>
    rw [repeats_step_iff_of_press hpressed hpressed']
    rw [step_debouncer] at hpressed'
    cases hpin : pins n with
    | true => simp [Debouncer.scan, hpressed, hpin] at hpressed'
    | false =>
      simp [Debouncer.scan, hpressed, hpin] at hpressed'
      rw [DI.callsDebFnct_debounce hen hstate]
      omega

theorem Held.steady_iff (h : Held n r) :
    (r.step pins).Repeats n ∧ r.LetsGoOnce n pins ↔ r.Steady n pins := by
  have hen := h.enabled
  cases h.tracks with
  | up hstate hpressed hdowns => exact steady_iff_up hstate hpressed hdowns
  | debounce hstate hpressed _ hctr hdowns hsum =>
    have hdly : (r.di n).diDebounceDly ≠ 0 := by
      intro hzero
      rw [hzero, UInt32.toNat_zero] at hsum
      omega
    have hrepeats : (r.step pins).Repeats n := repeats_of_debounce hen hstate hpressed hsum
    simp [Steady, LetsGoOnce, hpressed, hdly, hrepeats]
  | held hstate hpressed hdly _ _ hups hbounced =>
    have hpos : ¬(r.di n).diRptStartDly = 0 ↔ 0 < (r.di n).diRptStartDly.toNat := by
      rw [← UInt32.toNat_inj, UInt32.toNat_zero, Nat.pos_iff_ne_zero]
    have hcalls := h.paced.calls_iff hen hstate
    rw [repeats_step_iff_of_pressed h.repeats hpressed (by omega)
      (by simpa [hups, hbounced, hpos] using hcalls)]
    simp [Steady, LetsGoOnce, hpressed, hups]
  | letGo hstate hpressed hdly _ hctr hups hbounced =>
    have hcalls := DI.callsDebFnct_debounce hen hstate
    rw [repeats_step_iff_of_pressed h.repeats hpressed (by omega)
      (by simpa [hups, hctr] using hcalls)]
    simp [Steady, LetsGoOnce, hpressed, hups, hbounced]
  | bounced hstate hpressed hdly _ hctr hups hbounced =>
    have hcalls := DI.callsDebFnct_debounce hen hstate
    rw [repeats_step_iff_of_pressed h.repeats hpressed (by omega)
      (by simpa [hbounced, hctr] using hcalls)]
    simp [Steady, LetsGoOnce, hpressed, hups, hbounced]
  | leaving hstate hpressed hdly _ hups =>
    rcases hups with hups | ⟨hups, hbounced⟩
    · have hnot : (r.step pins).Repeats n :=
        repeats_of_not_pressed (by simp [step_debouncer, Debouncer.scan, hpressed, hups])
      simp [Steady, LetsGoOnce, hpressed, hups, hnot]
    · rw [repeats_step_iff_of_pressed h.repeats hpressed (by omega)
        (by simp [DI.callsDebFnct_up hstate, hbounced])]
      simp [Steady, LetsGoOnce, hpressed, hups, hbounced]
      exact and_comm

theorem Held.step_paced (h : Held n r) :
    Paced ((r.step pins).di n) ((r.step pins).scanner.key n) ((r.step pins).held n) := by
  have hen := h.enabled
  rw [step_key]
  refine Paced.congr ?_ step_config
  cases h.tracks with
  | up hstate | leaving hstate =>
    cases hpin : pins n with
    | true =>
      rw [DI.rd_up_released hen hstate]
      exact .of_state (.inl hstate)
    | false => exact .of_state (.inr (DI.rd_up_down hen hstate).1)
  | debounce hstate hpressed _ hctr =>
    cases hpin : pins n with
    | true => exact .of_state (.inl (DI.rd_let_go hen hstate).2)
    | false =>
      obtain ⟨_, hcase⟩ := DI.rd_counting hen hstate hctr
      by_cases hlast : (r.scanner.key n).diDebounceDlyCtr.toNat = 1
      · -- the press loads the counter of the start delay
        rw [if_pos hlast] at hcase
        have hheld : (r.step pins).held n = 0 := by simp [step_held, hpressed]
        rw [hheld]
        refine ⟨fun _ => ?_, fun hs => ?_⟩
        · rw [DI.rd_press hen hstate hlast]
          omega
        · rw [hcase.2] at hs
          cases hs
      · rw [if_neg hlast] at hcase
        exact .of_state (.inr hcase.2)
  | held hstate hpressed hdly hin _ hups =>
    obtain ⟨_, _, hnext⟩ := @DI.rd_held _ _ (pins n) hen hstate hin
    cases hpin : pins n with
    | true =>
      simp only [hpin, if_true] at hnext
      exact .of_state (.inr hnext)
    | false =>
      have hlt : (r.debouncer n).ups < 2 := by omega
      have hstays : ((r.step pins).debouncer n).pressed = true :=
        Debouncer.scan_pressed hpressed hlt
      rw [step_held_of_pressed hpressed hstays, hpin]
      exact h.paced.rd hen hstate
  | letGo hstate hpressed hdly _ hctr | bounced hstate hpressed hdly _ hctr =>
    obtain ⟨_, _, hnext⟩ := @DI.rd_spent _ _ (pins n) hen hstate hctr
    refine .of_state ?_
    cases hpin : pins n with
    | true =>
      simp only [hpin, if_true] at hnext
      exact .inl hnext
    | false =>
      simp only [hpin, Bool.false_eq_true, if_false] at hnext
      exact .inr hnext

theorem Held.step (h : Held n r) (hsteady : r.Steady n pins) : Held n (r.step pins) where
  enabled := (congrArg DIConfig.debounceEn step_config).trans h.enabled
  tracks := by
    rw [step_diDebounceDly, step_diIn]
    exact h.tracks.rd_letsGo h.enabled hsteady.2.1 hsteady.1
  paced := h.step_paced
  repeats := (h.steady_iff.mpr hsteady).1

theorem Held.runs_iff (h : Held n r) {samples : List (InputMap → Bool)} :
    Always Repeater.step (Repeats n) r samples ∧ Along Repeater.step (LetsGoOnce n) r samples ↔
      Along Repeater.step (Steady n) r samples :=
  always_and_along_iff h (fun _ _ h => h.step) (fun _ h => h.repeats) fun _ _ h => h.steady_iff

end Repeater

/-- A steady run has the calls for its presses and for the repeats due. -/
theorem repeats_of_steady {live : Live} (hen : (live.diTbl n).diDebounceEn = true)
    {samples : List (InputMap → Bool)}
    (h : Along Repeater.step (Repeater.Steady n) (.start live) samples) :
    Always Repeater.step (Repeater.Repeats n) (.start live) samples :=
  ((Repeater.Held.start hen).runs_iff.mpr h).1

/-- Where no release comes in pieces after a bounce, only steady runs have them. -/
theorem repeats_iff_of_letsGoOnce {live : Live} (hen : (live.diTbl n).diDebounceEn = true)
    {samples : List (InputMap → Bool)}
    (h : Along Repeater.step (Repeater.LetsGoOnce n) (.start live) samples) :
    Always Repeater.step (Repeater.Repeats n) (.start live) samples ↔
      Along Repeater.step (Repeater.Steady n) (.start live) samples := by
  rw [← (Repeater.Held.start hen).runs_iff, and_iff_left h]

/-- In every state of a run of the task the calls of a held run are those for the press
and for the repeats due, as long as the run is steady. -/
theorem repeats_iff_steady {live : Live} (hen : (live.diTbl n).diDebounceEn = true)
    (samples : List (InputMap → Bool)) :
    Always Repeater.step (Repeater.Repeats n) (.start live) samples ∧
        Along Repeater.step (Repeater.LetsGoOnce n) (.start live) samples ↔
      Along Repeater.step (Repeater.Steady n) (.start live) samples :=
  (Repeater.Held.start hen).runs_iff

/-- A repeat is due at the second pressed sample after the press, and at every third. -/
def repeating (n : InputMap) : Live :=
  (dioInit.diCfgDebounce n 1 2 3).diSetDebounceEn n true

def heldRun : List (InputMap → Bool) :=
  [low, low, low, low, low, low, low, low, low, low, high, high, high]

theorem held_run_repeats :
    Always Repeater.step (Repeater.Repeats (.gpi 0)) (.start (repeating (.gpi 0))) heldRun ∧
      (exec Repeater.step (.start (repeating (.gpi 0))) (heldRun.take 10)).calls (.gpi 0) = 4 :=
  ⟨((@repeats_iff_steady (.gpi 0) (repeating (.gpi 0)) rfl heldRun).mpr
    ⟨by decide, by decide, by decide, by decide, by decide, by decide, by decide, by decide,
      by decide, by decide, by decide, by decide, by decide, trivial⟩).1, by decide⟩

theorem bounce_stops_repeats :
    ¬Always Repeater.step (Repeater.Repeats (.gpi 0)) (.start (repeating (.gpi 0)))
      [low, low, high, low, low] := by
  intro h
  have hrepeats := h _ List.prefix_rfl (by decide)
  exact absurd hrepeats (by decide)

end SystemMaster.Dio
