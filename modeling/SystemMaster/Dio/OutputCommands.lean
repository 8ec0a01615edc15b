import SystemMaster.Dio.Persistence

/-!
# Commands to the outputs

`setDOConfiguration` sets the value of the bypass before it enables the bypass, and
`DOSetBypass` takes a value only while it is enabled. `setDOValue` and `setDOToggle`
set the output the map table assigns to the index, and read back the one that has the
index as its place in the table of outputs.
-/

namespace SystemMaster.Dio

open Eeprom Runs

variable {g : GpioCfg} {d : Device} {i : Fin 6}

-- ---------------------------------------------------------------------------
-- The request of a configuration
-- ---------------------------------------------------------------------------

structure DOConfiguration.Applied (pConfg : DOConfiguration) (o : DO) : Prop where
  mode : o.doModeSel = pConfg.doModeSel
  inv : o.doInv = decide (pConfg.doInv ≠ 0)
  bypassEn : o.doBypassEn = decide (pConfg.doBypassEn ≠ 0)
  bypass : o.doBypass = decide (pConfg.doBypass ≠ 0)
  blinkEn : o.doBlinkEnSel = pConfg.doBlinkEnSel
  a : o.doA = pConfg.doA / dioTaskDlyTicks
  b : o.doB = pConfg.doB / dioTaskDlyTicks

/-- Requests that ask an input and an output for the same bypass. -/
structure SameBypass (input : DIConfiguration) (output : DOConfiguration) : Prop where
  bypassEn : input.diBypassEn ≠ 0 ↔ output.doBypassEn ≠ 0
  bypass : input.diVal ≠ 0 ↔ output.doBypass ≠ 0

/-- The input is bypassed with the value of the one request, and the output with that of
the other. -/
def Alike (input : DI) (output : DO) : Prop :=
  input.config.bypass.map (fun val => decide (val ≠ 0)) = output.config.bypass

theorem DIConfiguration.configure_bypass (pConfg : DIConfiguration) (l : Live) :
    ((pConfg.configure i l).diTbl (.gpi i)).config.bypass =
      if pConfg.diBypassEn ≠ 0 then some pConfg.diVal else none := by
  by_cases hen : pConfg.diBypassEn = 0
  all_goals simp [configure, Live.diCfgMode, Live.diSetBypassEn, Live.diSetBypass,
    Live.diCfgDebounce, Live.diSetDebounceEn, Live.modifyDI, DI.config, hen]

theorem DOConfiguration.configure_gpo (pConfg : DOConfiguration) (l : Live) :
    (pConfg.configure i l).doTbl (.gpo i) =
      { l.doTbl (.gpo i) with
        doModeSel := pConfg.doModeSel
        doInv := decide (pConfg.doInv ≠ 0)
        doBypass := if (l.doTbl (.gpo i)).doBypassEn then decide (pConfg.doBypass ≠ 0)
          else (l.doTbl (.gpo i)).doBypass
        doBypassEn := decide (pConfg.doBypassEn ≠ 0)
        doBlinkEnSel := pConfg.doBlinkEnSel
        doA := pConfg.doA / dioTaskDlyTicks
        doB := pConfg.doB / dioTaskDlyTicks } := by
  cases hen : (l.doTbl (.gpo i)).doBypassEn
  all_goals simp [configure, Live.doCfgMode, Live.doSetBypassEn, Live.doSetBypass,
    Live.doCfgBlink, Live.doSetSyncCtrMax, Live.modifyDO, hen]

theorem DOConfiguration.applied_iff (pConfg : DOConfiguration) (l : Live) :
    pConfg.Applied ((pConfg.configure i l).doTbl (.gpo i)) ↔
      (l.doTbl (.gpo i)).doBypassEn = true ∨
        (l.doTbl (.gpo i)).doBypass = decide (pConfg.doBypass ≠ 0) := by
  rw [configure_gpo]
  constructor
  · intro h
    have hbypass := h.bypass
    simp only at hbypass
    cases hen : (l.doTbl (.gpo i)).doBypassEn with
    | true => exact .inl rfl
    | false =>
      simp only [hen, Bool.false_eq_true, if_false] at hbypass
      exact .inr hbypass
  · intro h
    refine ⟨rfl, rfl, rfl, ?_, rfl, rfl, rfl⟩
    rcases h with hen | hval
    · simp only [hen, if_true]
    · simp only [hval, ite_self]

theorem DOConfiguration.Applied.alike {input : DIConfiguration} {output : DOConfiguration}
    {o : DO} (h : output.Applied o) (hsame : SameBypass input output) (l : Live) :
    Alike ((input.configure i l).diTbl (.gpi i)) o := by
  have hval : decide (input.diVal ≠ 0) = decide (output.doBypass ≠ 0) :=
    decide_eq_decide.mpr hsame.bypass
  rw [Alike, DIConfiguration.configure_bypass, DO.config, h.bypassEn, h.bypass, ← hval]
  by_cases hen : input.diBypassEn = 0
  · have hout : output.doBypassEn = 0 := by
      by_contra hout
      exact hsame.bypassEn.mpr hout hen
    simp [hen, hout]
  · have hout : output.doBypassEn ≠ 0 := hsame.bypassEn.mp hen
    simp [hen, hout]

/-- An accepted request is applied, as the one of an input is, exactly when the bypass
was enabled before or had the value of the request. -/
theorem setDOConfiguration_applied_iff (pConfg : DOConfiguration)
    (hindex : dioIndex pConfg.index = some i) (haccepted : pConfg.accepted g = true) :
    (pConfg.Applied ((setDOConfiguration g d pConfg).live.doTbl (.gpo i)) ∧
      ∀ input : DIConfiguration, dioIndex input.index = some i → input.accepted g = true →
        SameBypass input pConfg →
          Alike ((setDIConfiguration g d input).live.diTbl (.gpi i))
            ((setDOConfiguration g d pConfg).live.doTbl (.gpo i))) ↔
      (d.live.doTbl (.gpo i)).doBypassEn = true ∨
        (d.live.doTbl (.gpo i)).doBypass = decide (pConfg.doBypass ≠ 0) := by
  have hlive : (setDOConfiguration g d pConfg).live =
      pConfg.configure i (d.live.gpioSetConfig i pConfg.pinConfig) := by
    simp [setDOConfiguration, hindex, haccepted]
  rw [hlive]
  constructor
  · rintro ⟨happlied, _⟩
    exact (pConfg.applied_iff _).mp happlied
  · intro h
    have happlied := (pConfg.applied_iff (d.live.gpioSetConfig i pConfg.pinConfig)).mpr h
    refine ⟨happlied, fun input hinput hinput' hsame => ?_⟩
    have hinputLive : (setDIConfiguration g d input).live =
        input.configure i (d.live.gpioSetConfig i input.pinConfig) := by
      simp [setDIConfiguration, hinput, hinput']
    rw [hinputLive]
    exact happlied.alike hsame _

def bypassedHigh : DOConfiguration where
  index := 0
  pinConfig := 0x00040000
  doA := 1
  doB := 2
  doBCtr := 0
  doSyncCtrMax := 72
  doBypass := 1
  doBypassEn := 1
  doModeSel := doModeDirect
  doBlinkEnSel := doBlinkEnNormal
  doInv := 0

/-- The second command for the same bypass takes its value. -/
theorem bypassedHigh_applied_twice :
    bypassedHigh.Applied ((setDOConfiguration driverCfg
      (setDOConfiguration driverCfg (start driverCfg ⟨0, true⟩ fun _ => 0xFF) bypassedHigh)
      bypassedHigh).live.doTbl (.gpo 0)) :=
  ((setDOConfiguration_applied_iff bypassedHigh (by decide) (by decide)).mpr
    (.inl (by decide))).1

theorem bypass_value_dropped :
    ¬∀ (d : Device) (i : Fin 6) (pConfg : DOConfiguration), dioIndex pConfg.index = some i →
      pConfg.accepted driverCfg = true →
        pConfg.Applied ((setDOConfiguration driverCfg d pConfg).live.doTbl (.gpo i)) := by
  intro h
  have happlied := h (start driverCfg ⟨0, true⟩ fun _ => 0xFF) 0 bypassedHigh (by decide)
    (by decide)
  exact absurd happlied.bypass (by decide)

-- ---------------------------------------------------------------------------
-- Values and toggles
-- ---------------------------------------------------------------------------

structure DOValue where
  index : UInt32
  value : UInt32
  deriving DecidableEq

def doIndex (index : UInt32) : Option (Fin 6) :=
  if h : index.toNat < dioIndexCount then some ⟨index.toNat, h⟩ else none

def doMapTable (i : Fin 6) : OutputMap := .gpo i

def outputMap : List OutputMap :=
  [.uartDebug, .serial5En, .ledD6, .ledD20, .usb0EPEn, .fiveVOutEn, .pwrPeripheralEn] ++
    (List.finRange 6).map .gpo ++ [.irdaTx]

def Live.doGet (l : Live) (n : UInt8) : Bool :=
  match outputMap[n.toNat]? with
  | some o => (l.doTbl o).doOut
  | none => false

def DOValue.response (pConfg : DOValue) (l : Live) : DOValue where
  index := pConfg.index
  value := (l.doGet pConfg.index.toUInt8).toUInt32

/-- `vTCPRCBin_DiscreteIO_setDOValue`, with the payload of its response. -/
def setDOValue (d : Device) (pConfg : DOValue) : Device × Option DOValue :=
  match doIndex pConfg.index with
  | none => (d, none)
  | some i =>
    let live := d.live.doSet (doMapTable i) (pConfg.value ≠ 0)
    ({ d with live := live }, some (pConfg.response live))

def setDOToggle (d : Device) (pConfg : DOValue) : Device × Option DOValue :=
  match doIndex pConfg.index with
  | none => (d, none)
  | some i =>
    let value := !(d.live.doTbl (doMapTable i)).doCtrl
    let live := d.live.doSet (doMapTable i) value
    ({ d with live := live }, some (pConfg.response live))

inductive OutputEvent where
  | setDOValue (pConfg : DOValue)
  | setDOToggle (pConfg : DOValue)
  | other (e : Event)

namespace OutputEvent

def run (g : GpioCfg) (d : Device) : OutputEvent → Device × Option DOValue
  | .setDOValue pConfg => Dio.setDOValue d pConfg
  | .setDOToggle pConfg => Dio.setDOToggle d pConfg
  | .other e => (d.step g e, none)

/-- The channel a command sets or toggles, when it is accepted. -/
def channel : OutputEvent → Option (Fin 6)
  | .setDOValue pConfg | .setDOToggle pConfg => doIndex pConfg.index
  | .other _ => none

def sets (o : OutputMap) : OutputEvent → Bool
  | .setDOValue pConfg => (doIndex pConfg.index).map doMapTable = some o
  | _ => false

end OutputEvent

def Device.outputStep (g : GpioCfg) (d : Device) (e : OutputEvent) : Device := (e.run g d).1

def OutputEvent.asks (d : Device) (i : Fin 6) : OutputEvent → Bool
  | .setDOValue pConfg => pConfg.value ≠ 0
  | .setDOToggle _ | .other _ => !(d.live.doTbl (.gpo i)).doCtrl

/-- The output of the channel is commanded what the command asks for, and the response has
the channel and that state. -/
def Reports (g : GpioCfg) (d : Device) (e : OutputEvent) : Prop :=
  ∀ i, e.channel = some i →
    ((d.outputStep g e).live.doTbl (.gpo i)).doCtrl = e.asks d i ∧
      (e.run g d).2.map (fun r => (r.index.toNat, r.value)) = some (i.val, (e.asks d i).toUInt32)

/-- The output at the channel's place in `DOTbl`, which is another one, is in the state that
the command asks of the channel's own. -/
def Shown (d : Device) (e : OutputEvent) : Prop :=
  ∀ i, e.channel = some i → (d.live.doTbl outputMap[i]).doOut = e.asks d i

variable {index : UInt32} {l : Live} {o : OutputMap} {e : OutputEvent}

theorem doIndex_eq_some (h : doIndex index = some i) : index.toNat = i := by
  unfold doIndex at h
  split at h
  · exact congrArg Fin.val (Option.some.inj h)
  · cases h

theorem Bool.toUInt32_inj {a b : Bool} : a.toUInt32 = b.toUInt32 ↔ a = b := by
  cases a <;> cases b <;> decide

theorem turn_doOut (inputs : InputMap → Bool) (hmode : (l.doTbl o).doModeSel = doModeDirect)
    (hbypass : (l.doTbl o).doBypassEn = false) (hinv : (l.doTbl o).doInv = false) :
    ((l.turn inputs).doTbl o).doOut = (l.doTbl o).doCtrl := by
  change ((l.doTbl o).update l.doSyncCtr).doOut = _
  simp [DO.update, hmode, hbypass, hinv, doModeDirect]

/-- Only a command for the channel changes the commanded value. -/
theorem Device.step_doCtrl (e : Event) :
    ((d.step g e).live.doTbl o).doCtrl = (d.live.doTbl o).doCtrl := by
  cases e with
  | setDIODirection pConfg =>
    simp only [Device.step, Dio.setDIODirection]
    split <;> [rfl; split <;> rfl]
  | setDIConfiguration pConfg =>
    simp only [Device.step, Dio.setDIConfiguration]
    split <;> [rfl; split <;> rfl]
  | setDOConfiguration pConfg =>
    simp only [Device.step, Dio.setDOConfiguration]
    split
    · rfl
    · split
      · rename_i i _ _
        by_cases ho : o = .gpo i
        · subst ho
          rw [DOConfiguration.configure_gpo]
          rfl
        · simp [DOConfiguration.configure, Live.doCfgMode, Live.doSetBypassEn, Live.doSetBypass,
            Live.doCfgBlink, Live.doSetSyncCtrMax, Live.modifyDO, ho]
      · rfl
  | turn inputs =>
    change ((d.live.doTbl o).update d.live.doSyncCtr).doCtrl = _
    by_cases hen : (d.live.doTbl o).doBypassEn = true <;> simp [DO.update, hen]

end SystemMaster.Dio
