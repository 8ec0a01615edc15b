import SystemMaster.Dio.Persistence

/-!
# The exits of the start

`INFO_init` returns early when the EEPROM does not get ready in time or does not
initialise. Past these exits the first block is at its default and the other four
are as power up leaves them, zero. Past the others every block is as stored under
the marker or at its default, and `vDiscreteIO_init` takes the modes from there.
-/

namespace SystemMaster.Dio

open Eeprom Codec

/-- `DI_MODE_TOGGLE_HIGH_GOING`, the last of the input modes. -/
def diModeToggleHighGoing : UInt8 := 8

def diModes (info : DIOCfgData) : List UInt8 :=
  [info.di5VOutStatus, info.diInternal5VSwStatus, info.diIRDARx, info.diTempAlert].map
    (·.diModeSel) ++ info.diConfig.toList.map (·.diModeSel)

def doModes (info : DIOCfgData) : List UInt8 :=
  [info.doUARTDebug, info.doSerial5En, info.doLEDD6, info.doLEDD20, info.doUSB0EPEn,
    info.do5VOutEn, info.doPWRPeripheralEn].map (·.doModeSel) ++
      info.doConfig.toList.map (·.doModeSel)

structure DefinedModes (info : DIOCfgData) : Prop where
  inputs : ∀ mode ∈ diModes info, mode ≤ diModeToggleHighGoing
  outputs : ∀ mode ∈ doModes info, mode ≤ doModeBlinkAsync

def Marked (eeprom : Memory UInt8) : Prop :=
  ((powerUp eeprom).readBack .data).eepromCheck = eepromCheckMarker

def ended : (b : Block) → b.Value → b.Value
  | .ip => IpConfigData.terminate
  | .data | .dio | .mac | .debug => id

def stored (eeprom : Memory UInt8) (b : Block) : b.Value := ended b ((powerUp eeprom).readBack b)

def zeroed (b : Block) : b.Value := b.codec.decode (List.replicate b.codec.size 0)

/-- Every copy is the block of a marked EEPROM or the default, and every channel
has a defined mode. -/
structure Configured (g : GpioCfg) (eeprom : Memory UInt8) (d : Device) : Prop where
  blocks : ∀ b, d.eeprom.ram b = defaults g.asInput b ∨
    Marked eeprom ∧ d.eeprom.ram b = stored eeprom b
  inputs : ∀ n, (d.live.diTbl n).diModeSel ≤ diModeToggleHighGoing
  outputs : ∀ o, (d.live.doTbl o).doModeSel ≤ doModeBlinkAsync

variable {g : GpioCfg} {eeprom : Memory UInt8} {boot : Boot} {info : DIOCfgData} {b : Block}
  {gpioCfg : UInt32}

theorem infoInit_ram_stored (hboot : boot.Completes) (hm : Marked eeprom) :
    (infoInit gpioCfg boot (powerUp eeprom)).ram b = stored eeprom b := by
  by_cases hb : b = .ip
  · subst hb
    rw [infoInit_of_marker hboot hm, State.assign_ram_self]
    rfl
  · rw [infoInit_ram hboot hm hb]
    cases b with
    | ip => exact absurd rfl hb
    | data | dio | mac | debug => rfl

theorem defaultIpConfigData_terminate : defaultIpConfigData.terminate = defaultIpConfigData := by
  decide +kernel

theorem infoInit_ram_defaults (hboot : boot.Completes) (hm : ¬Marked eeprom) :
    (infoInit gpioCfg boot (powerUp eeprom)).ram b = defaults gpioCfg b := by
  by_cases hb : b = .ip
  · subst hb
    have hram : (Block.order.foldl State.read (powerUp eeprom)).ram .data =
        (powerUp eeprom).readBack .data :=
      State.foldl_read_ram _ (Block.mem_order .data)
    have hcheck : ((powerUp eeprom).readBack .data).eepromCheck ≠ eepromCheckMarker := hm
    rw [infoInit, if_neg hboot.1, if_neg (by simp [hboot.2])]
    simp only [hram, ne_eq, hcheck, not_false_eq_true, if_true]
    rw [State.assign_ram_self, State.reset_ram gpioCfg _ (Block.mem_order .ip)]
    exact defaultIpConfigData_terminate
  · exact infoInit_ram_of_no_marker hboot hm hb

theorem infoInit_ram_zeroed (hboot : ¬boot.Completes) (hb : b ≠ .data) :
    (infoInit gpioCfg boot (powerUp eeprom)).ram b = zeroed b := by
  rw [infoInit_of_not_completes hboot, State.assign_ram_of_ne _ hb]
  rfl

theorem zeroed_ne_defaults (hb : b ∈ [Block.dio, .mac, .ip]) : zeroed b ≠ defaults gpioCfg b := by
  cases b with
  | data | debug => simp at hb
  | dio =>
    intro h
    have hctr : (zeroed .dio).doSyncCtrMax = 1000 := congrArg DIOCfgData.doSyncCtrMax h
    revert hctr
    decide +kernel
  | mac =>
    intro h
    have hreg : (zeroed .mac).macReg0 = 0x00B61A00 := congrArg MacConfigData.macReg0 h
    revert hreg
    decide +kernel
  | ip =>
    intro h
    have hauto : (zeroed .ip).isIPAuto = 1 := congrArg IpConfigData.isIPAuto h
    revert hauto
    decide +kernel

theorem zeroed_debug : zeroed .debug = defaultDebugCfgData := by decide +kernel

-- ---------------------------------------------------------------------------
-- The modes of the tables
-- ---------------------------------------------------------------------------

theorem forall_channels {α : Type*} {v : Vector α 6} {mode : α → UInt8} {P : UInt8 → Prop} :
    (∀ m ∈ v.toList.map mode, P m) ↔ ∀ (i : Nat) (_ : i < 6), P (mode v[i]) := by
  rw [List.forall_mem_map]
  constructor
  · exact fun h i hi => h _ (Vector.mem_toList_iff.mpr (Vector.getElem_mem hi))
  · intro h c hc
    obtain ⟨i, hi, rfl⟩ := Vector.mem_iff_getElem.mp (Vector.mem_toList_iff.mp hc)
    exact h i hi

theorem InputMap.forall {P : InputMap → Prop} :
    (∀ n, P n) ↔ (P .fiveVOutStat ∧ P .internal5VSwStatus ∧ P .irdaRx ∧ P .tempAlert) ∧
      (∀ i, P (.gpi i)) ∧ P .adcSstrb := by
  constructor
  · exact fun h => ⟨⟨h _, h _, h _, h _⟩, fun i => h _, h _⟩
  · rintro ⟨⟨h5V, hinternal, hirda, htemp⟩, hgpi, hadc⟩ n
    cases n <;> first | assumption | exact hgpi _

theorem OutputMap.forall {P : OutputMap → Prop} :
    (∀ o, P o) ↔ (P .uartDebug ∧ P .serial5En ∧ P .ledD6 ∧ P .ledD20 ∧ P .usb0EPEn ∧
      P .fiveVOutEn ∧ P .pwrPeripheralEn) ∧ (∀ i, P (.gpo i)) ∧ P .irdaTx := by
  constructor
  · exact fun h => ⟨⟨h _, h _, h _, h _, h _, h _, h _⟩, fun i => h _, h _⟩
  · rintro ⟨⟨huart, hserial, hD6, hD20, husb, h5V, hpwr⟩, hgpo, hirda⟩ o
    cases o <;> first | assumption | exact hgpo _

theorem discreteIOInit_diModeSel {P : UInt8 → Prop} (hdirect : P diModeDirect) :
    (∀ n, P ((discreteIOInit g info).diTbl n).diModeSel) ↔ ∀ mode ∈ diModes info, P mode := by
  have hmode : ∀ n, ((discreteIOInit g info).diTbl n).diModeSel =
      ((restored g info).inputs n).mode :=
    fun n => congrArg DIConfig.mode (discreteIOInit_inputs n)
  simp only [hmode, InputMap.forall, diModes, List.forall_mem_append, forall_channels]
  simp [restored, restoredDI, hdirect, Fin.forall_iff]

theorem discreteIOInit_doModeSel {P : UInt8 → Prop} (hdirect : P doModeDirect) :
    (∀ o, P ((discreteIOInit g info).doTbl o).doModeSel) ↔ ∀ mode ∈ doModes info, P mode := by
  have hmode : ∀ o, ((discreteIOInit g info).doTbl o).doModeSel =
      ((restored g info).outputs o).mode :=
    fun o => congrArg DOConfig.mode (discreteIOInit_outputs o)
  simp only [hmode, OutputMap.forall, doModes, List.forall_mem_append, forall_channels]
  simp [restored, restoredDO, hdirect, Fin.forall_iff]

theorem start_configured_iff_blocks :
    Configured g eeprom (start g boot eeprom) ↔
      (∀ b, (start g boot eeprom).eeprom.ram b = defaults g.asInput b ∨
        Marked eeprom ∧ (start g boot eeprom).eeprom.ram b = stored eeprom b) ∧
      DefinedModes ((start g boot eeprom).eeprom.ram .dio) := by
  constructor
  · rintro ⟨hblocks, hinputs, houtputs⟩
    exact ⟨hblocks, (discreteIOInit_diModeSel (by decide)).mp hinputs,
      (discreteIOInit_doModeSel (by decide)).mp houtputs⟩
  · rintro ⟨hblocks, hinputs, houtputs⟩
    exact ⟨hblocks, (discreteIOInit_diModeSel (by decide)).mpr hinputs,
      (discreteIOInit_doModeSel (by decide)).mpr houtputs⟩

theorem definedModes_defaults : DefinedModes (defaultDIOCfgData gpioCfg) := by
  constructor
  · have h : diModes (defaultDIOCfgData gpioCfg) = diModes (defaultDIOCfgData 0) := rfl
    rw [h]
    decide +kernel
  · have h : doModes (defaultDIOCfgData gpioCfg) = doModes (defaultDIOCfgData 0) := rfl
    rw [h]
    decide +kernel

theorem definedModes_zeroed : DefinedModes (zeroed .dio) := by
  constructor <;> decide +kernel

/-- The start leaves usable configuration exactly when it completes, with defined
modes in a marked EEPROM, or when what the early exits leave zero is stored as zero. -/
theorem start_configured_iff :
    Configured g eeprom (start g boot eeprom) ↔
      boot.Completes ∧ (Marked eeprom → DefinedModes (stored eeprom .dio)) ∨
      ¬boot.Completes ∧ Marked eeprom ∧
        ∀ b ∈ [Block.dio, .mac, .ip], stored eeprom b = zeroed b := by
  rw [start_configured_iff_blocks]
  by_cases hboot : boot.Completes
  · simp only [hboot, true_and, not_true_eq_false, false_and, or_false]
    by_cases hm : Marked eeprom
    · have hram : ∀ b, (start g boot eeprom).eeprom.ram b = stored eeprom b :=
        fun b => infoInit_ram_stored hboot hm
      simp [hram, hm]
    · have hram : ∀ b, (start g boot eeprom).eeprom.ram b = defaults g.asInput b :=
        fun b => infoInit_ram_defaults hboot hm
      rw [hram .dio]
      exact iff_of_true ⟨fun b => .inl (hram b), definedModes_defaults⟩ fun hm' => absurd hm' hm
  · simp only [hboot, false_and, not_false_eq_true, true_and, false_or]
    have hram : ∀ b ≠ .data, (start g boot eeprom).eeprom.ram b = zeroed b :=
      fun b hb => infoInit_ram_zeroed hboot hb
    constructor
    · rintro ⟨hblocks, -⟩
      have hstored : ∀ b ∈ [Block.dio, .mac, .ip], Marked eeprom ∧ stored eeprom b = zeroed b := by
        intro b hb
        have hne : b ≠ .data := by
          rintro rfl
          simp at hb
        have hcase := hblocks b
        rw [hram b hne] at hcase
        exact (hcase.resolve_left (zeroed_ne_defaults hb)).imp_right Eq.symm
      exact ⟨(hstored .dio (by simp)).1, fun b hb => (hstored b hb).2⟩
    · rintro ⟨hm, hstored⟩
      refine ⟨fun b => ?_, by rw [hram .dio (by decide)]; exact definedModes_zeroed⟩
      cases b with
      | data =>
        left
        rw [start, infoInit_of_not_completes hboot, State.assign_ram_self]
        rfl
      | debug =>
        left
        rw [hram .debug (by decide), zeroed_debug]
        rfl
      | dio => exact .inr ⟨hm, by rw [hram .dio (by decide), hstored .dio (by simp)]⟩
      | mac => exact .inr ⟨hm, by rw [hram .mac (by decide), hstored .mac (by simp)]⟩
      | ip => exact .inr ⟨hm, by rw [hram .ip (by decide), hstored .ip (by simp)]⟩

/-- The EEPROM of a new board, and an `EEPROMInit` that fails. -/
theorem failed_init_not_configured :
    ¬Configured driverCfg (fun _ => 0xFF) (start driverCfg ⟨0, false⟩ fun _ => 0xFF) := by
  rintro ⟨hblocks, -, -⟩
  rcases hblocks .mac with hdefault | ⟨hm, -⟩
  · revert hdefault
    decide +kernel
  · revert hm
    unfold Marked
    decide +kernel

end SystemMaster.Dio
