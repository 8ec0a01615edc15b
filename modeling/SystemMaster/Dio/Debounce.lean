import SystemMaster.Dio.Commands
import SystemMaster.Library.Runs

/-!
# Debounced inputs

`DIRd` runs a machine of four states for every input with debouncing enabled. A
debounced input is to be reported pressed after `DIDebounceDly + 1` pressed
samples in a row, and released after two released ones. The machine does so
until a released sample is followed by a pressed one while the input is
reported pressed: from then on a second released sample is enough, wherever it
comes. With a delay of zero it never reports a press.
-/

namespace SystemMaster.Dio

open Runs

inductive DebounceState where
  | up
  | debounce
  | rptStartDly
  | rptDly
  deriving DecidableEq, Repr

structure Key where
  diDownTmr : UInt32
  diDebounceDlyCtr : UInt32
  diRptStartDlyCtr : UInt32
  diRptDlyCtr : UInt32
  diScanState : DebounceState

def Key.init : Key := ⟨0, 0, 0, 0, .up⟩

def Key.isKeyDown (k : Key) (pinVal : Bool) : Bool × Key :=
  if pinVal then (false, k) else (true, { k with diDownTmr := k.diDownTmr + 1 })

def DI.rd (di : DI) (k : Key) (pinVal : Bool) : DI × Key :=
  if di.diDebounceEn then
    let (down, k) := k.isKeyDown pinVal
    match k.diScanState with
    | .up =>
      ({ di with diIn := true },
        if down then
          { k with
            diScanState := .debounce
            diDownTmr := 0
            diDebounceDlyCtr := di.diDebounceDly }
        else k)
    | .debounce =>
      if down then
        if k.diDebounceDlyCtr > 0 then
          let k := { k with diDebounceDlyCtr := k.diDebounceDlyCtr - 1 }
          if k.diDebounceDlyCtr = 0 then
            ({ di with diIn := false },
              { k with diRptStartDlyCtr := di.diRptStartDly, diScanState := .rptStartDly })
          else (di, k)
        else (di, k)
      else (di, { k with diScanState := .up })
    | .rptStartDly =>
      if down then
        if k.diRptStartDlyCtr > 0 then
          let k := { k with diRptStartDlyCtr := k.diRptStartDlyCtr - 1 }
          if k.diRptStartDlyCtr = 0 then
            ({ di with diIn := false },
              { k with diRptDlyCtr := di.diRptDly, diScanState := .rptDly })
          else (di, k)
        else (di, k)
      else (di, { k with diScanState := .debounce })
    | .rptDly =>
      if down then
        if k.diRptDlyCtr > 0 then
          let k := { k with diRptDlyCtr := k.diRptDlyCtr - 1 }
          if k.diRptDlyCtr = 0 then
            ({ di with diIn := false }, { k with diRptDlyCtr := di.diRptDly })
          else (di, k)
        else (di, k)
      else (di, { k with diScanState := .debounce })
  else ({ di with diIn := pinVal }, k)

/-- The pressed and the released samples in a row, to the last one, and what is
reported: nothing before the first scan. `bounced` tells that a released sample has
been followed by a pressed one since the press. -/
structure Debouncer where
  scanned : Bool
  pressed : Bool
  downs : Nat
  ups : Nat
  bounced : Bool

namespace Debouncer

def start : Debouncer := ⟨false, false, 0, 0, false⟩

/-- The input goes to pressed at the scan that completes `dly + 1` pressed samples in a
row, and to released at the scan after two released ones in a row. -/
def scan (dly : Nat) (s : Debouncer) (down : Bool) : Debouncer :=
  let downs := if down then s.downs + 1 else 0
  { scanned := true
    pressed := if s.pressed then s.ups < 2 else downs = dly + 1
    downs := downs
    ups := if down then 0 else s.ups + 1
    bounced := s.pressed && (s.bounced || (down && 0 < s.ups)) }

/-- The scans at which the machine does as it is to: a delay of zero is not put to the
test, and a released sample after a bounce is not followed by one more scan. -/
def Steady (dly : Nat) (s : Debouncer) (down : Bool) : Prop :=
  (dly = 0 → s.pressed = false → down = false) ∧ (s.pressed → s.bounced → s.ups ≠ 1)

instance (dly : Nat) (s : Debouncer) (down : Bool) : Decidable (s.Steady dly down) :=
  inferInstanceAs (Decidable (_ ∧ _))

end Debouncer

/-- The channels, the machines of the inputs, and a record of what they are to report. -/
structure Scanner where
  live : Live
  key : InputMap → Key
  debouncer : InputMap → Debouncer

namespace Scanner

def start (live : Live) : Scanner := ⟨live, fun _ => .init, fun _ => .start⟩

def step (s : Scanner) (pins : InputMap → Bool) : Scanner where
  live := s.live.turn fun n => ((s.live.diTbl n).rd (s.key n) (pins n)).1.diIn
  key n := ((s.live.diTbl n).rd (s.key n) (pins n)).2
  debouncer n := (s.debouncer n).scan (s.live.diTbl n).diDebounceDly.toNat !pins n

def Reports (n : InputMap) (s : Scanner) : Prop :=
  (s.debouncer n).scanned → (s.live.diTbl n).diIn = !(s.debouncer n).pressed

def Steady (n : InputMap) (s : Scanner) (pins : InputMap → Bool) : Prop :=
  (s.debouncer n).Steady (s.live.diTbl n).diDebounceDly.toNat !pins n

instance (n : InputMap) (s : Scanner) (pins : InputMap → Bool) : Decidable (s.Steady n pins) :=
  inferInstanceAs (Decidable (Debouncer.Steady ..))

end Scanner

-- ---------------------------------------------------------------------------
-- One scan
-- ---------------------------------------------------------------------------

variable {di : DI} {k : Key} {s : Debouncer} {pinVal : Bool} {n : InputMap}

/-- Where the machine is while it does as it is to. -/
inductive Tracks (dly : UInt32) (diIn : Bool) (k : Key) (s : Debouncer) : Prop
  | up (hstate : k.diScanState = .up) (hpressed : s.pressed = false) (hdowns : s.downs = 0)
  | debounce (hstate : k.diScanState = .debounce) (hpressed : s.pressed = false)
    (hin : diIn = true) (hctr : 0 < k.diDebounceDlyCtr.toNat) (hdowns : 0 < s.downs)
    (hsum : k.diDebounceDlyCtr.toNat + s.downs = dly.toNat + 1)
  | held (hstate : k.diScanState = .rptStartDly ∨ k.diScanState = .rptDly)
    (hpressed : s.pressed = true) (hdly : 0 < dly.toNat) (hin : diIn = false)
    (hctr : k.diDebounceDlyCtr = 0) (hups : s.ups = 0) (hbounced : s.bounced = false)
  | letGo (hstate : k.diScanState = .debounce) (hpressed : s.pressed = true)
    (hdly : 0 < dly.toNat) (hin : diIn = false) (hctr : k.diDebounceDlyCtr = 0)
    (hups : s.ups = 1) (hbounced : s.bounced = false)
  | bounced (hstate : k.diScanState = .debounce) (hpressed : s.pressed = true)
    (hdly : 0 < dly.toNat) (hin : diIn = false) (hctr : k.diDebounceDlyCtr = 0)
    (hups : s.ups = 0) (hbounced : s.bounced = true)
  | leaving (hstate : k.diScanState = .up) (hpressed : s.pressed = true) (hdly : 0 < dly.toNat)
    (hdowns : s.downs = 0) (hups : s.ups = 2 ∨ s.ups = 1 ∧ s.bounced = true)

theorem DI.rd_up (hen : di.diDebounceEn = true) (hstate : k.diScanState = .up) :
    (di.rd k pinVal).1.diIn = true := by
  cases pinVal <;> simp [DI.rd, hen, Key.isKeyDown, hstate]

theorem DI.rd_up_down (hen : di.diDebounceEn = true) (hstate : k.diScanState = .up) :
    (di.rd k false).2.diScanState = .debounce ∧
      (di.rd k false).2.diDebounceDlyCtr = di.diDebounceDly := by
  simp [DI.rd, hen, Key.isKeyDown, hstate]

theorem DI.rd_up_released (hen : di.diDebounceEn = true) (hstate : k.diScanState = .up) :
    (di.rd k true).2 = k := by
  simp [DI.rd, hen, Key.isKeyDown, hstate]

theorem DI.rd_spent (hen : di.diDebounceEn = true) (hstate : k.diScanState = .debounce)
    (hctr : k.diDebounceDlyCtr = 0) :
    (di.rd k pinVal).1 = di ∧ (di.rd k pinVal).2.diDebounceDlyCtr = 0 ∧
      (di.rd k pinVal).2.diScanState = if pinVal then .up else .debounce := by
  cases pinVal <;> simp [DI.rd, hen, Key.isKeyDown, hstate, hctr]

/-- A release from the repeat states goes back to `KEY_STATE_DEBOUNCE`. -/
theorem DI.rd_held (hen : di.diDebounceEn = true)
    (hstate : k.diScanState = .rptStartDly ∨ k.diScanState = .rptDly) (hin : di.diIn = false) :
    (di.rd k pinVal).1.diIn = false ∧
      (di.rd k pinVal).2.diDebounceDlyCtr = k.diDebounceDlyCtr ∧
      if pinVal then (di.rd k pinVal).2.diScanState = .debounce
      else (di.rd k pinVal).2.diScanState = .rptStartDly ∨
        (di.rd k pinVal).2.diScanState = .rptDly := by
  rcases hstate with hstate | hstate
  · cases pinVal with
    | true => simp [DI.rd, hen, Key.isKeyDown, hstate, hin]
    | false =>
      simp only [DI.rd, hen, Key.isKeyDown, hstate]
      simp only [if_true, if_false, Bool.false_eq_true]
      repeat' split
      all_goals simp [hin]
  · cases pinVal with
    | true => simp [DI.rd, hen, Key.isKeyDown, hstate, hin]
    | false =>
      simp only [DI.rd, hen, Key.isKeyDown, hstate]
      simp only [if_true, if_false, Bool.false_eq_true]
      repeat' split
      all_goals simp [hin]

theorem DI.rd_counting (hen : di.diDebounceEn = true) (hstate : k.diScanState = .debounce)
    (hctr : 0 < k.diDebounceDlyCtr.toNat) :
    (di.rd k false).2.diDebounceDlyCtr.toNat = k.diDebounceDlyCtr.toNat - 1 ∧
      if k.diDebounceDlyCtr.toNat = 1 then
        (di.rd k false).1.diIn = false ∧ (di.rd k false).2.diScanState = .rptStartDly
      else (di.rd k false).1 = di ∧ (di.rd k false).2.diScanState = .debounce := by
  have hpos : k.diDebounceDlyCtr > 0 := UInt32.lt_iff_toNat_lt.mpr hctr
  have hsub : (k.diDebounceDlyCtr - 1).toNat = k.diDebounceDlyCtr.toNat - 1 :=
    UInt32.toNat_sub_of_le _ _ (UInt32.le_iff_toNat_le.mpr hctr)
  have hone : k.diDebounceDlyCtr - 1 = 0 ↔ k.diDebounceDlyCtr.toNat = 1 := by
    rw [← UInt32.toNat_inj, hsub, UInt32.toNat_zero]
    omega
  by_cases h : k.diDebounceDlyCtr.toNat = 1
  · simp [DI.rd, hen, Key.isKeyDown, hstate, hpos, hsub, hone, h]
  · simp [DI.rd, hen, Key.isKeyDown, hstate, hpos, hsub, hone, h]

theorem DI.rd_let_go (hen : di.diDebounceEn = true) (hstate : k.diScanState = .debounce) :
    (di.rd k true).1 = di ∧ (di.rd k true).2.diScanState = .up := by
  simp [DI.rd, hen, Key.isKeyDown, hstate]

/-- Where the machine is to go wrong it does. -/
theorem Tracks.rd_wrong (hen : di.diDebounceEn = true)
    (h : Tracks di.diDebounceDly di.diIn k s)
    (hwrong : ¬s.Steady di.diDebounceDly.toNat !pinVal) :
    (di.rd k pinVal).1.diIn = (s.scan di.diDebounceDly.toNat !pinVal).pressed := by
  rw [Debouncer.Steady, Decidable.not_and_iff_or_not] at hwrong
  rcases hwrong with hzero | hbounce
  · -- a pressed sample with a delay of zero
    simp only [Classical.not_imp, Bool.not_eq_false, Bool.not_eq_true'] at hzero
    obtain ⟨hdly, hpressed, rfl⟩ := hzero
    cases h with
    | up hstate _ hdowns => simp [DI.rd_up hen hstate, Debouncer.scan, hpressed, hdowns, hdly]
    | debounce _ _ _ _ _ hsum => omega
    | held _ hp | letGo _ hp | bounced _ hp | leaving _ hp => rw [hpressed] at hp; cases hp
  · -- the scan after the second released sample
    simp only [Classical.not_imp, Decidable.not_not] at hbounce
    obtain ⟨hpressed, hbounced, hups⟩ := hbounce
    cases h with
    | up _ hp | debounce _ hp => rw [hpressed] at hp; cases hp
    | held _ _ _ _ _ _ hb | letGo _ _ _ _ _ _ hb => rw [hbounced] at hb; cases hb
    | bounced _ _ _ _ _ hu => omega
    | leaving hstate => simp [DI.rd_up hen hstate, Debouncer.scan, hpressed, hups]

theorem Debouncer.scan_pressed {dly : Nat} {down : Bool} (hpressed : s.pressed = true)
    (hups : s.ups < 2) : (s.scan dly down).pressed = true := by
  simp [Debouncer.scan, hpressed, hups]

theorem Tracks.rd_up (hen : di.diDebounceEn = true) (hstate : k.diScanState = .up)
    (hdowns : s.downs = 0) (hdly : pinVal = false → 0 < di.diDebounceDly.toNat)
    (hpressed : (s.scan di.diDebounceDly.toNat !pinVal).pressed = false) :
    Tracks di.diDebounceDly true (di.rd k pinVal).2 (s.scan di.diDebounceDly.toNat !pinVal) := by
  cases pinVal with
  | true =>
    rw [DI.rd_up_released hen hstate]
    exact .up hstate hpressed rfl
  | false =>
    obtain ⟨hnext, hctr⟩ := DI.rd_up_down hen hstate
    refine .debounce hnext hpressed rfl ?_ ?_ ?_
    · rw [hctr]
      exact hdly rfl
    · simp [Debouncer.scan]
    · simp [Debouncer.scan, hctr, hdowns]

/-- A row goes on, is complete or is broken off. -/
theorem Tracks.rd_debounce (hen : di.diDebounceEn = true) (hstate : k.diScanState = .debounce)
    (hpressed : s.pressed = false) (hin : di.diIn = true) (hctr : 0 < k.diDebounceDlyCtr.toNat)
    (hdowns : 0 < s.downs)
    (hsum : k.diDebounceDlyCtr.toNat + s.downs = di.diDebounceDly.toNat + 1) :
    Tracks di.diDebounceDly (di.rd k pinVal).1.diIn (di.rd k pinVal).2
        (s.scan di.diDebounceDly.toNat !pinVal) ∧
      (di.rd k pinVal).1.diIn = !(s.scan di.diDebounceDly.toNat !pinVal).pressed := by
  cases pinVal with
  | true =>
    obtain ⟨hdi, hnext⟩ := DI.rd_let_go hen hstate
    have hpressed' : (s.scan di.diDebounceDly.toNat !true).pressed = false := by
      simp [Debouncer.scan, hpressed]
    refine ⟨.up hnext hpressed' rfl, ?_⟩
    rw [hdi, hin, hpressed']
    rfl
  | false =>
    obtain ⟨hctr', hcase⟩ := DI.rd_counting hen hstate hctr
    by_cases hlast : k.diDebounceDlyCtr.toNat = 1
    · -- the sample completes the row
      rw [if_pos hlast] at hcase
      obtain ⟨hin', hnext⟩ := hcase
      have hpressed' : (s.scan di.diDebounceDly.toNat !false).pressed = true := by
        simp [Debouncer.scan, hpressed]
        omega
      have hspent : (di.rd k false).2.diDebounceDlyCtr = 0 := by
        rw [← UInt32.toNat_inj, hctr', hlast]
        rfl
      refine ⟨.held (.inl hnext) hpressed' (by omega) hin' hspent rfl ?_, ?_⟩
      · simp [Debouncer.scan, hpressed]
      · rw [hin', hpressed']
        rfl
    · rw [if_neg hlast] at hcase
      obtain ⟨hdi, hnext⟩ := hcase
      have hpressed' : (s.scan di.diDebounceDly.toNat !false).pressed = false := by
        simp [Debouncer.scan, hpressed]
        omega
      rw [hdi]
      refine ⟨.debounce hnext hpressed' hin (by omega) ?_ ?_, ?_⟩
      · simp [Debouncer.scan]
      · simp [Debouncer.scan]
        omega
      · rw [hin, hpressed']
        rfl

theorem Tracks.rd (hen : di.diDebounceEn = true) (h : Tracks di.diDebounceDly di.diIn k s)
    (hsteady : s.Steady di.diDebounceDly.toNat !pinVal) :
    Tracks di.diDebounceDly (di.rd k pinVal).1.diIn (di.rd k pinVal).2
        (s.scan di.diDebounceDly.toNat !pinVal) ∧
      (di.rd k pinVal).1.diIn = !(s.scan di.diDebounceDly.toNat !pinVal).pressed := by
  cases h with
  | up hstate hpressed hdowns =>
    have hdly : pinVal = false → 0 < di.diDebounceDly.toNat := by
      rintro rfl
      exact Nat.pos_of_ne_zero fun hzero => absurd (hsteady.1 hzero hpressed) (by simp)
    have hpressed' : (s.scan di.diDebounceDly.toNat !pinVal).pressed = false := by
      cases pinVal with
      | true => simp [Debouncer.scan, hpressed]
      | false => simp [Debouncer.scan, hpressed, hdowns, Nat.ne_of_gt (hdly rfl)]
    rw [DI.rd_up hen hstate, hpressed']
    exact ⟨.rd_up hen hstate hdowns hdly hpressed', rfl⟩
  | debounce hstate hpressed hin hctr hdowns hsum =>
    exact Tracks.rd_debounce hen hstate hpressed hin hctr hdowns hsum
  | held hstate hpressed hdly hin hctr hups hbounced =>
    obtain ⟨hin', hctr', hnext⟩ := DI.rd_held hen hstate hin
    have hpressed' : (s.scan di.diDebounceDly.toNat !pinVal).pressed = true :=
      Debouncer.scan_pressed hpressed (by omega)
    refine ⟨?_, by rw [hin', hpressed']; rfl⟩
    cases pinVal with
    | true =>
      refine .letGo hnext hpressed' hdly hin' (hctr'.trans hctr) ?_ ?_
      · simp [Debouncer.scan, hups]
      · simp [Debouncer.scan, hbounced]
    | false =>
      refine .held hnext hpressed' hdly hin' (hctr'.trans hctr) rfl ?_
      simp [Debouncer.scan, hbounced, hups]
  | letGo hstate hpressed hdly hin hctr hups hbounced =>
    obtain ⟨hdi, hctr', hnext⟩ := DI.rd_spent hen hstate hctr
    have hpressed' : (s.scan di.diDebounceDly.toNat !pinVal).pressed = true :=
      Debouncer.scan_pressed hpressed (by omega)
    rw [hdi]
    refine ⟨?_, by rw [hin, hpressed']; rfl⟩
    cases pinVal with
    | true =>
      refine .leaving hnext hpressed' hdly rfl (.inl ?_)
      simp [Debouncer.scan, hups]
    | false =>
      refine .bounced hnext hpressed' hdly hin hctr' rfl ?_
      simp [Debouncer.scan, hpressed, hups]
  | bounced hstate hpressed hdly hin hctr hups hbounced =>
    obtain ⟨hdi, hctr', hnext⟩ := DI.rd_spent hen hstate hctr
    have hpressed' : (s.scan di.diDebounceDly.toNat !pinVal).pressed = true :=
      Debouncer.scan_pressed hpressed (by omega)
    have hbounced' : (s.scan di.diDebounceDly.toNat !pinVal).bounced = true := by
      simp [Debouncer.scan, hpressed, hbounced]
    rw [hdi]
    refine ⟨?_, by rw [hin, hpressed']; rfl⟩
    cases pinVal with
    | true =>
      refine .leaving hnext hpressed' hdly rfl (.inr ⟨?_, hbounced'⟩)
      simp [Debouncer.scan, hups]
    | false => exact .bounced hnext hpressed' hdly hin hctr' rfl hbounced'
  | leaving hstate hpressed hdly hdowns hups =>
    have hups : s.ups = 2 := by
      rcases hups with hups | ⟨hups, hbounced⟩
      · exact hups
      · exact absurd hups (hsteady.2 hpressed hbounced)
    have hpressed' : (s.scan di.diDebounceDly.toNat !pinVal).pressed = false := by
      simp [Debouncer.scan, hpressed, hups]
    rw [DI.rd_up hen hstate, hpressed']
    exact ⟨.rd_up hen hstate hdowns (fun _ => hdly) hpressed', rfl⟩

-- ---------------------------------------------------------------------------
-- Runs of the task
-- ---------------------------------------------------------------------------

namespace Scanner

variable {c : Scanner} {pins : InputMap → Bool}

@[simp] theorem step_diIn :
    ((c.step pins).live.diTbl n).diIn = ((c.live.diTbl n).rd (c.key n) (pins n)).1.diIn :=
  DI.update_diIn _

theorem step_config : ((c.step pins).live.diTbl n).config = (c.live.diTbl n).config :=
  c.live.turn_diConfig _

@[simp] theorem step_diDebounceEn :
    ((c.step pins).live.diTbl n).diDebounceEn = (c.live.diTbl n).diDebounceEn :=
  congrArg DIConfig.debounceEn step_config

@[simp] theorem step_diDebounceDly :
    ((c.step pins).live.diTbl n).diDebounceDly = (c.live.diTbl n).diDebounceDly :=
  congrArg DIConfig.debounceDly step_config

structure Debounces (n : InputMap) (c : Scanner) : Prop where
  enabled : (c.live.diTbl n).diDebounceEn = true
  tracks : Tracks (c.live.diTbl n).diDebounceDly (c.live.diTbl n).diIn (c.key n) (c.debouncer n)
  reports : c.Reports n

theorem Debounces.start {live : Live} (hen : (live.diTbl n).diDebounceEn = true) :
    Debounces n (start live) where
  enabled := hen
  tracks := .up rfl rfl rfl
  reports h := by cases h

theorem Debounces.step (h : Debounces n c) (hsteady : c.Steady n pins) :
    Debounces n (c.step pins) := by
  obtain ⟨htracks, hin⟩ := h.tracks.rd h.enabled hsteady
  exact {
    enabled := by rw [step_diDebounceEn, h.enabled]
    tracks := by
      rw [step_diDebounceDly, step_diIn]
      exact htracks
    reports := fun _ => step_diIn.trans hin }

theorem Debounces.reports_step_iff (h : Debounces n c) :
    (c.step pins).Reports n ↔ c.Steady n pins := by
  constructor
  · intro hreports
    by_contra hsteady
    have hright := hreports rfl
    rw [step_diIn, h.tracks.rd_wrong h.enabled hsteady] at hright
    exact (Bool.not_eq_self _).mp hright.symm
  · exact fun hsteady => (h.step hsteady).reports

end Scanner

/-- An input is reported as it is to be, in every state of a run, exactly when the run
is steady. -/
theorem debounced_iff_steady {live : Live} (hen : (live.diTbl n).diDebounceEn = true)
    (samples : List (InputMap → Bool)) :
    Always Scanner.step (Scanner.Reports n) (.start live) samples ↔
      Along Scanner.step (Scanner.Steady n) (.start live) samples :=
  always_iff_along (Scanner.Debounces.start hen) (fun _ _ h => h.step) (fun _ h => h.reports)
    fun _ _ h => h.reports_step_iff

def oneScan : Live :=
  (dioInit.diCfgDebounce (.gpi 0) 1 50 10).diSetDebounceEn (.gpi 0) true

def low : InputMap → Bool := fun _ => false

def high : InputMap → Bool := fun _ => true

theorem press_and_release_reported :
    Always Scanner.step (Scanner.Reports (.gpi 0)) (.start oneScan)
      [low, low, low, high, high, low, low] :=
  (debounced_iff_steady (n := .gpi 0) rfl _).mpr
    ⟨by decide, by decide, by decide, by decide, by decide, by decide, by decide, trivial⟩

theorem bounce_reported_released :
    ¬Always Scanner.step (Scanner.Reports (.gpi 0)) (.start oneScan)
      [low, low, high, low, high, low] := by
  intro h
  have hreports := h _ List.prefix_rfl rfl
  exact absurd hreports (by decide)

end SystemMaster.Dio
