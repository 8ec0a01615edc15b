import SystemMaster.Eeprom.Storage
import SystemMaster.Library.Runs

/-!
# Block integrity

Against the blocks stands a table of the values saved last, one entry a block.
Every operation keeps the EEPROM equal to the table except the memory test,
whose word is the blink period of the last output: the test keeps the block of
the discrete channels only when that period already is the test value.
-/

namespace SystemMaster.Eeprom

open Codec Runs

/-- The argument of `INFO_set`, which its only caller marks. -/
structure MarkedData where
  data : EepromData
  marked : data.eepromCheck = eepromCheckMarker

inductive Op where
  | infoSet (info : MarkedData)
  | eepDIOConfgSet (info : DIOCfgData)
  | eepIpConfgSet (info : IpConfigData)
  | eepMACConfgSet (info : MacConfigData)
  | eepDebugConfgSet (info : DebugCfgData)
  | memoryTestEEPROM
  | reboot (boot : Boot)

def step (gpioCfg : UInt32) (s : State) : Op → State
  | .infoSet info => infoSet s info.data
  | .eepDIOConfgSet info => eepDIOConfgSet s info
  | .eepIpConfgSet info => eepIpConfgSet s info
  | .eepMACConfgSet info => eepMACConfgSet s info
  | .eepDebugConfgSet info => eepDebugConfgSet s info
  | .memoryTestEEPROM => (memoryTestEEPROM s).1
  | .reboot boot => reboot gpioCfg boot s

abbrev Saved := (b : Block) → b.Value

def Saved.step (saved : Saved) : Op → Saved
  | .infoSet info => Function.update saved .data info.data
  | .eepDIOConfgSet info => Function.update saved .dio info
  | .eepIpConfgSet info => Function.update saved .ip info.terminate
  | .eepMACConfgSet info => Function.update saved .mac info
  | .eepDebugConfgSet info => Function.update saved .debug info
  | .memoryTestEEPROM | .reboot _ => saved

structure Tracked where
  state : State
  saved : Saved

def Tracked.step (gpioCfg : UInt32) (t : Tracked) (op : Op) : Tracked where
  state := Eeprom.step gpioCfg t.state op
  saved := t.saved.step op

/-- Every block reads back as the value saved last. -/
def Tracked.Intact (t : Tracked) : Prop := ∀ b, t.state.readBack b = t.saved b

/-- The saved entries the setters see to: a marker in the first block, an
ended domain name. -/
structure Tracked.WellFormed (t : Tracked) : Prop where
  marked : (t.saved .data).eepromCheck = eepromCheckMarker
  terminated : (t.saved .ip).terminate = t.saved .ip

def firstStart (gpioCfg : UInt32) (boot : Boot) (eeprom : Memory UInt8) : Tracked where
  state := infoInit gpioCfg boot (powerUp eeprom)
  saved := defaults gpioCfg

/-- A memory test finds the period of the last output at the test value. -/
def Tracked.Harmless (t : Tracked) : Op → Prop
  | .memoryTestEEPROM => (t.state.readBack .dio).doUSB0EPEn.doB = memTestValue
  | _ => True

variable {gpioCfg : UInt32} {t : Tracked} {s : State} {b : Block} {op : Op} {boot : Boot}
  {eeprom : Memory UInt8}

@[simp] theorem IpConfigData.terminate_terminate (v : IpConfigData) :
    v.terminate.terminate = v.terminate := by
  simp [IpConfigData.terminate]

theorem Tracked.WellFormed.step (h : t.WellFormed) : (t.step gpioCfg op).WellFormed := by
  cases op with
  | infoSet info =>
    exact ⟨by simpa [Tracked.step, Saved.step] using info.marked,
      by simpa [Tracked.step, Saved.step] using h.terminated⟩
  | eepIpConfgSet info =>
    exact ⟨by simpa [Tracked.step, Saved.step] using h.marked, by simp [Tracked.step, Saved.step]⟩
  | eepDIOConfgSet info | eepMACConfgSet info | eepDebugConfgSet info =>
    exact ⟨by simpa [Tracked.step, Saved.step] using h.marked,
      by simpa [Tracked.step, Saved.step] using h.terminated⟩
  | memoryTestEEPROM | reboot boot => exact ⟨h.marked, h.terminated⟩

theorem Tracked.Intact.save (h : t.Intact) (v : b.Value) :
    Tracked.Intact ⟨(t.state.assign b v).program b, Function.update t.saved b v⟩ := by
  intro b'
  by_cases hb : b' = b
  · subst hb
    simp
  · change ((t.state.assign b v).program b).readBack b' = Function.update t.saved b v b'
    rw [State.readBack_program_of_ne hb, State.readBack_assign, Function.update_of_ne hb]
    exact h b'

theorem Tracked.Intact.reboot_eeprom (h : t.Intact) (hw : t.WellFormed) :
    (reboot gpioCfg boot t.state).eeprom = t.state.eeprom := by
  by_cases hboot : boot.Completes
  · have hm : ((powerUp t.state.eeprom).readBack .data).eepromCheck = eepromCheckMarker :=
      (congrArg EepromData.eepromCheck (h .data)).trans hw.marked
    rw [reboot, infoInit_of_marker hboot hm, State.assign_eeprom, State.foldl_read_eeprom]
    rfl
  · rw [reboot, infoInit_of_not_completes hboot]
    rfl

theorem Tracked.Intact.reboot_ram (h : t.Intact) (hw : t.WellFormed) (hboot : boot.Completes) :
    (reboot gpioCfg boot t.state).ram b = t.saved b := by
  have hread : ∀ b, (powerUp t.state.eeprom).readBack b = t.saved b := h
  have hm : ((powerUp t.state.eeprom).readBack .data).eepromCheck = eepromCheckMarker := by
    rw [hread]
    exact hw.marked
  by_cases hb : b = .ip
  · subst hb
    rw [reboot, infoInit_of_marker hboot hm, State.assign_ram_self, hread, hw.terminated]
  · rw [reboot, infoInit_ram hboot hm hb, hread]

theorem Tracked.Intact.memoryTest (h : t.Intact) :
    (t.step gpioCfg .memoryTestEEPROM).Intact ↔
      (t.state.readBack .dio).doUSB0EPEn.doB = memTestValue := by
  have hword : (t.state.readBack .dio).doUSB0EPEn.doB = u32.load t.state.eeprom memTestAddress :=
    doB_doUSB0EPEn t.state.eeprom
  constructor
  · intro hafter
    have hdio := (hafter .dio).trans (h .dio).symm
    have htest : ((t.step gpioCfg .memoryTestEEPROM).state.readBack .dio).doUSB0EPEn.doB =
        memTestValue := by
      refine (doB_doUSB0EPEn _).trans ?_
      exact load_store
    rw [← hdio]
    exact htest
  · intro hvalue
    have hsame : (t.step gpioCfg .memoryTestEEPROM).state.eeprom = t.state.eeprom := by
      change u32.store t.state.eeprom memTestAddress memTestValue = t.state.eeprom
      rw [← hvalue, hword, store_load_u32]
    intro b
    rw [State.readBack, hsame]
    exact h b

theorem Tracked.Intact.step_iff (h : t.Intact) (hw : t.WellFormed) :
    (t.step gpioCfg op).Intact ↔ t.Harmless op := by
  cases op with
  | infoSet info => exact iff_of_true (h.save (b := .data) info.data) trivial
  | eepDIOConfgSet info => exact iff_of_true (h.save (b := .dio) info) trivial
  | eepIpConfgSet info => exact iff_of_true (h.save (b := .ip) info.terminate) trivial
  | eepMACConfgSet info => exact iff_of_true (h.save (b := .mac) info) trivial
  | eepDebugConfgSet info => exact iff_of_true (h.save (b := .debug) info) trivial
  | memoryTestEEPROM => exact h.memoryTest
  | reboot boot =>
    refine iff_of_true (fun b => ?_) trivial
    change b.codec.load (reboot gpioCfg boot t.state).eeprom b.address = t.saved b
    rw [h.reboot_eeprom hw]
    exact h b

theorem default_terminated : defaultIpConfigData.terminate = defaultIpConfigData := by decide

theorem firstStart_wellFormed : (firstStart gpioCfg boot eeprom).WellFormed :=
  ⟨rfl, default_terminated⟩

theorem firstStart_intact (hboot : boot.Completes)
    (hblank : (EepromData.codec.load eeprom 0).eepromCheck ≠ eepromCheckMarker) :
    (firstStart gpioCfg boot eeprom).Intact :=
  fun _ => infoInit_of_no_marker hboot hblank

/-- In a run from the first start on a blank EEPROM all blocks read back as
saved last, in every state, exactly when every memory test finds the period of
the last output at the test value. -/
theorem blocks_intact_iff (gpioCfg : UInt32) (boot : Boot) (eeprom : Memory UInt8)
    (hboot : boot.Completes)
    (hblank : (EepromData.codec.load eeprom 0).eepromCheck ≠ eepromCheckMarker) (ops : List Op) :
    Always (Tracked.step gpioCfg) Tracked.Intact (firstStart gpioCfg boot eeprom) ops ↔
      Along (Tracked.step gpioCfg) Tracked.Harmless (firstStart gpioCfg boot eeprom) ops :=
  always_iff_along_of_inv firstStart_wellFormed (fun _ _ hw => hw.step)
    (firstStart_intact hboot hblank) fun _ _ hw h => h.step_iff hw

theorem blocks_intact_saved :
    Always (Tracked.step 0) Tracked.Intact (firstStart 0 ⟨0, true⟩ fun _ => 0xFF)
      [.eepDIOConfgSet (defaultDIOCfgData 1), .eepMACConfgSet ⟨1, 2⟩, .reboot ⟨3, true⟩] :=
  (blocks_intact_iff 0 ⟨0, true⟩ (fun _ => 0xFF) ⟨by decide, rfl⟩ (by decide +kernel) _).mpr
    ⟨trivial, trivial, trivial, trivial⟩

/-- One memory test on a new device changes the block of the discrete channels. -/
theorem memoryTest_breaks_block :
    ¬Always (Tracked.step 0) Tracked.Intact (firstStart 0 ⟨0, true⟩ fun _ => 0xFF)
      [.memoryTestEEPROM] := by
  intro h
  have hdio := h [.memoryTestEEPROM] (List.prefix_refl _) .dio
  have hb := congrArg (fun v : DIOCfgData => v.doUSB0EPEn.doB) hdio
  revert hb
  decide +kernel

end SystemMaster.Eeprom
