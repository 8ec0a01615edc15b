import SystemMaster.Dio.OutputCommands

/-!
# Indices out of range

The four configuration commands take their index as a `uint8_t`, so that an index above
255 may be taken for a channel; the commands for values compare it as it is. A direction
command programs the block whatever it makes of the pin configuration, and each
configuration programs the whole copy in RAM.
-/

namespace SystemMaster.Dio

open Eeprom

/-- The union of `TCPBin_CMD_DIOConfig_payload_t`, by the record its fields are taken
from; it is left as it is for a pin configuration of no type. -/
inductive ChannelReport where
  | input (di : DI)
  | output (o : DO) (doSyncCtrMax : UInt32)
  | unset

/-- `TCPBin_CMD_DIOConfig_payload_t`; the pin configuration may be left unset. -/
structure DIOReport where
  index : Fin 6
  pinConfig : Option UInt32
  channel : ChannelReport

inductive Response where
  | report (r : DIOReport)
  | value (r : DOValue)

inductive DIOCommand where
  | getDIOConfiguration (index : UInt32)
  | setDIODirection (pConfg : DIODirection)
  | setDIConfiguration (pConfg : DIConfiguration)
  | setDOConfiguration (pConfg : DOConfiguration)
  | setDOValue (pConfg : DOValue)
  | setDOToggle (pConfg : DOValue)

variable (g : GpioCfg) (d : Device)

def Live.inputReport (l : Live) (i : Fin 6) : ChannelReport := .input (l.diTbl (.gpi i))

def Live.outputReport (l : Live) (i : Fin 6) : ChannelReport :=
  .output (l.doTbl (.gpo i)) l.doSyncCtrMax

def Live.report (l : Live) (i : Fin 6) (pinConfig : UInt32) : ChannelReport :=
  let type := pinConfig &&& g.ioMask &&& directionMask
  if type ∈ g.inTypes then l.inputReport i
  else if type ∈ g.outTypes then l.outputReport i
  else .unset

def getDIOConfiguration (index : UInt32) : Option DIOReport :=
  (dioIndex index).map fun i =>
    ⟨i, some (d.info.dioCfg.get i), d.live.report g i (d.info.dioCfg.get i)⟩

def DIODirection.response (pConfg : DIODirection) : Option DIOReport :=
  (dioIndex pConfg.index).map fun i =>
    ⟨i, pConfg.asType g, (setDIODirection g d pConfg).live.report g i pConfg.pinConfig⟩

def DIConfiguration.response (pConfg : DIConfiguration) : Option DIOReport :=
  let after := setDIConfiguration g d pConfg
  if pConfg.accepted g then
    (dioIndex pConfg.index).map fun i =>
      ⟨i, some (after.info.dioCfg.get i), after.live.inputReport i⟩
  else none

def DOConfiguration.response (pConfg : DOConfiguration) : Option DIOReport :=
  if pConfg.accepted g then
    (dioIndex pConfg.index).map fun i =>
      ⟨i, some g.asOutput, (setDOConfiguration g d pConfg).live.outputReport i⟩
  else none

namespace DIOCommand

def run : DIOCommand → Device × Option Response
  | getDIOConfiguration index => (d, (Dio.getDIOConfiguration g d index).map .report)
  | setDIODirection pConfg => (Dio.setDIODirection g d pConfg, (pConfg.response g d).map .report)
  | setDIConfiguration pConfg =>
    (Dio.setDIConfiguration g d pConfg, (pConfg.response g d).map .report)
  | setDOConfiguration pConfg =>
    (Dio.setDOConfiguration g d pConfg, (pConfg.response g d).map .report)
  | setDOValue pConfg => (Dio.setDOValue d pConfg).map id (·.map .value)
  | setDOToggle pConfg => (Dio.setDOToggle d pConfg).map id (·.map .value)

def index : DIOCommand → UInt32
  | getDIOConfiguration index => index
  | setDIODirection pConfg => pConfg.index
  | setDIConfiguration pConfg => pConfg.index
  | setDOConfiguration pConfg => pConfg.index
  | setDOValue pConfg | setDOToggle pConfg => pConfg.index

def recognised : DIOCommand → Bool
  | setDIODirection pConfg => (pConfg.asType g).isSome
  | setDIConfiguration pConfg => pConfg.accepted g
  | setDOConfiguration pConfg => pConfg.accepted g
  | _ => true

/-- The limit of the counter that all synchronous outputs share, when the command has one. -/
def syncCtrMax : DIOCommand → Option UInt32
  | setDOConfiguration pConfg => some pConfg.doSyncCtrMax
  | _ => none

end DIOCommand

-- ---------------------------------------------------------------------------
-- What a command is to leave as it is
-- ---------------------------------------------------------------------------

def fixedPart (info : DIOCfgData) : DIOCfgData :=
  { info with
    dioCfg := Vector.replicate 6 0
    diConfig := Vector.replicate 6 (defaultDIConfig diModeDirect)
    doConfig := Vector.replicate 6 info.do5VOutEn
    doSyncCtrMax := 0 }

/-- Two blocks agree but for channel `i` and the shared limit. -/
structure AgreeOutside (i : Fin 6) (a b : DIOCfgData) : Prop where
  dioCfg : ∀ j ≠ i, a.dioCfg.get j = b.dioCfg.get j
  diConfig : ∀ j ≠ i, a.diConfig.get j = b.diConfig.get j
  doConfig : ∀ j ≠ i, a.doConfig.get j = b.doConfig.get j
  fixed : fixedPart a = fixedPart b

/-- A block changes for channel `i` only; the shared limit may become the one given. -/
structure BlockFrame (i : Fin 6) (limit : Option UInt32) (before after : DIOCfgData) : Prop where
  outside : AgreeOutside i before after
  syncCtrMax : after.doSyncCtrMax = before.doSyncCtrMax ∨ limit = some after.doSyncCtrMax

structure LiveFrame (i : Fin 6) (limit : Option UInt32) (before after : Live) : Prop where
  inputs : ∀ n, n ≠ .gpi i → after.diTbl n = before.diTbl n
  outputs : ∀ o, o ≠ .gpo i → after.doTbl o = before.doTbl o
  pins : ∀ j, j ≠ i → after.pinConfig j = before.pinConfig j
  syncCtr : after.doSyncCtr = before.doSyncCtr
  syncCtrMax : after.doSyncCtrMax = before.doSyncCtrMax ∨
    limit.map (· / dioTaskDlyTicks) = some after.doSyncCtrMax

structure DeviceFrame (i : Fin 6) (limit : Option UInt32) (before after : Device) : Prop where
  live : LiveFrame i limit before.live after.live
  copy : BlockFrame i limit before.info after.info
  saved : BlockFrame i limit (before.eeprom.readBack .dio) (after.eeprom.readBack .dio)
  others : ∀ b ≠ Block.dio, after.eeprom.ram b = before.eeprom.ram b ∧
    after.eeprom.readBack b = before.eeprom.readBack b

/-- Nothing is done for an index out of range, a pin configuration of no type is refused,
and otherwise at most the channel of the index changes. -/
structure Framed (cmd : DIOCommand) : Prop where
  outOfRange : doIndex cmd.index = none → cmd.run g d = (d, none)
  unrecognised : cmd.recognised g = false → cmd.run g d = (d, none)
  inRange : ∀ i, doIndex cmd.index = some i →
    DeviceFrame i cmd.syncCtrMax d (cmd.run g d).1

/-- The EEPROM agrees with the copy in RAM but for channel `i`. -/
structure InStep (i : Fin 6) : Prop where
  outside : AgreeOutside i (d.eeprom.readBack .dio) d.info
  syncCtrMax : (d.eeprom.readBack .dio : DIOCfgData).doSyncCtrMax = d.info.doSyncCtrMax

/-- Where the commands keep to their channels. -/
def DIOCommand.Fits : DIOCommand → Prop
  | getDIOConfiguration index => dioIndex index = doIndex index
  | setDIODirection pConfg => dioIndex pConfg.index = doIndex pConfg.index ∧
      ∀ i, doIndex pConfg.index = some i → (pConfg.asType g).isSome ∧ InStep d i
  | setDIConfiguration pConfg => pConfg.accepted g = true →
      dioIndex pConfg.index = doIndex pConfg.index ∧
        ∀ i, doIndex pConfg.index = some i → InStep d i
  | setDOConfiguration pConfg => pConfg.accepted g = true →
      dioIndex pConfg.index = doIndex pConfg.index ∧
        ∀ i, doIndex pConfg.index = some i → AgreeOutside i (d.eeprom.readBack .dio) d.info
  | setDOValue _ | setDOToggle _ => True

-- ---------------------------------------------------------------------------
-- What a command leaves as it is
-- ---------------------------------------------------------------------------

variable {g : GpioCfg} {d : Device} {i j : Fin 6} {limit : Option UInt32} {index : UInt32}
  {a b c info : DIOCfgData} {l live : Live}

theorem dioIndex_of_doIndex (h : doIndex index = some i) : dioIndex index = some i := by
  have hi := doIndex_eq_some h
  have hn : index.toUInt8.toNat = i := by
    rw [UInt32.toNat_toUInt8, hi]
    omega
  have hlt : index.toUInt8.toNat < dioIndexCount := hn ▸ i.isLt
  rw [dioIndex, dif_pos hlt]
  exact congrArg some (Fin.ext hn)

namespace AgreeOutside

theorem refl : AgreeOutside i a a := ⟨fun _ _ => rfl, fun _ _ => rfl, fun _ _ => rfl, rfl⟩

theorem symm (h : AgreeOutside i a b) : AgreeOutside i b a where
  dioCfg j hj := (h.dioCfg j hj).symm
  diConfig j hj := (h.diConfig j hj).symm
  doConfig j hj := (h.doConfig j hj).symm
  fixed := h.fixed.symm

theorem trans (h : AgreeOutside i a b) (h' : AgreeOutside i b c) : AgreeOutside i a c where
  dioCfg j hj := (h.dioCfg j hj).trans (h'.dioCfg j hj)
  diConfig j hj := (h.diConfig j hj).trans (h'.diConfig j hj)
  doConfig j hj := (h.doConfig j hj).trans (h'.doConfig j hj)
  fixed := h.fixed.trans h'.fixed

end AgreeOutside

theorem get_set_of_ne {α : Type*} {n : Nat} {v : Vector α n} {x : α} {i j : Fin n}
    (hj : j ≠ i) : (v.set i x).get j = v.get j :=
  Vector.getElem_set_ne _ _ fun h => hj (Fin.ext h.symm)

theorem LiveFrame.refl : LiveFrame i limit l l :=
  ⟨fun _ _ => rfl, fun _ _ => rfl, fun _ _ => rfl, rfl, .inl rfl⟩

theorem LiveFrame.gpioSetConfig (pinConfig : UInt32) :
    LiveFrame i limit l (l.gpioSetConfig i pinConfig) where
  inputs _ _ := rfl
  outputs _ _ := rfl
  pins _ hj := Function.update_of_ne hj ..
  syncCtr := rfl
  syncCtrMax := .inl rfl

theorem LiveFrame.doSet (state : Bool) : LiveFrame i limit l (l.doSet (doMapTable i) state) where
  inputs _ _ := rfl
  outputs _ ho := Function.update_of_ne ho ..
  pins _ _ := rfl
  syncCtr := rfl
  syncCtrMax := .inl rfl

theorem DIConfiguration.configure_frame (pConfg : DIConfiguration) :
    LiveFrame i limit l (pConfg.configure i (l.gpioSetConfig i pConfg.pinConfig)) where
  inputs n hn := by
    simp [configure, Live.diCfgMode, Live.diSetBypassEn, Live.diSetBypass, Live.diCfgDebounce,
      Live.diSetDebounceEn, Live.modifyDI, hn]
  outputs _ _ := rfl
  pins _ hj := Function.update_of_ne hj ..
  syncCtr := rfl
  syncCtrMax := .inl rfl

theorem DOConfiguration.configure_frame (pConfg : DOConfiguration) :
    LiveFrame i (some pConfg.doSyncCtrMax) l
      (pConfg.configure i (l.gpioSetConfig i pConfg.pinConfig)) where
  inputs _ _ := rfl
  outputs o ho := by
    simp [configure, Live.doCfgMode, Live.doSetBypassEn, Live.doSetBypass, Live.doCfgBlink,
      Live.doSetSyncCtrMax, Live.modifyDO, ho]
  pins _ hj := Function.update_of_ne hj ..
  syncCtr := rfl
  syncCtrMax := .inr rfl

theorem DeviceFrame.of_live (h : LiveFrame i limit d.live live) :
    DeviceFrame i limit d { d with live := live } :=
  ⟨h, ⟨.refl, .inl rfl⟩, ⟨.refl, .inl rfl⟩, fun _ _ => ⟨rfl, rfl⟩⟩

/-- Saving a block that differs in the channel is within the frame where the EEPROM
differs from the copy in no more than that. -/
theorem deviceFrame_save_iff (hlive : LiveFrame i limit d.live live)
    (hcopy : BlockFrame i limit d.info info) :
    DeviceFrame i limit d ⟨eepDIOConfgSet d.eeprom info, live⟩ ↔
      AgreeOutside i (d.eeprom.readBack .dio) d.info ∧
        (info.doSyncCtrMax = (d.eeprom.readBack .dio : DIOCfgData).doSyncCtrMax ∨
          limit = some info.doSyncCtrMax) := by
  have hinfo : Device.info ⟨eepDIOConfgSet d.eeprom info, live⟩ = info := by
    rw [Device.info, eepDIOConfgSet, State.program_ram, State.assign_ram_self]
  have hread : (eepDIOConfgSet d.eeprom info).readBack .dio = info := by
    rw [eepDIOConfgSet, State.readBack_program_self, State.assign_ram_self]
  constructor
  · intro h
    have hsaved := h.saved
    rw [hread] at hsaved
    exact ⟨hsaved.outside.trans hcopy.outside.symm, hsaved.syncCtrMax⟩
  · rintro ⟨hagree, hsync⟩
    refine ⟨hlive, ?_, ?_, fun b hb => ⟨?_, ?_⟩⟩
    · rw [hinfo]
      exact hcopy
    · rw [hread]
      exact ⟨hagree.trans hcopy.outside, hsync⟩
    · rw [eepDIOConfgSet, State.program_ram, State.assign_ram_of_ne _ hb]
    · rw [eepDIOConfgSet, State.readBack_program_of_ne hb, State.readBack_assign]

theorem deviceFrame_save_iff_inStep (hlive : LiveFrame i none d.live live)
    (hcopy : BlockFrame i none d.info info) :
    DeviceFrame i none d ⟨eepDIOConfgSet d.eeprom info, live⟩ ↔ InStep d i := by
  have hsync : info.doSyncCtrMax = d.info.doSyncCtrMax :=
    hcopy.syncCtrMax.resolve_right (by simp)
  rw [deviceFrame_save_iff hlive hcopy, hsync]
  constructor
  · rintro ⟨hagree, heq⟩
    exact ⟨hagree, (heq.resolve_right (by simp)).symm⟩
  · exact fun h => ⟨h.outside, .inl h.syncCtrMax.symm⟩

-- ---------------------------------------------------------------------------
-- The commands
-- ---------------------------------------------------------------------------

theorem framed_of_some (cmd : DIOCommand) (h : doIndex cmd.index = some i) :
    Framed g d cmd ↔ (cmd.recognised g = false → cmd.run g d = (d, none)) ∧
      DeviceFrame i cmd.syncCtrMax d (cmd.run g d).1 := by
  constructor
  · exact fun hframed => ⟨hframed.unrecognised, hframed.inRange i h⟩
  · rintro ⟨hunrecognised, hframe⟩
    refine ⟨fun hnone => ?_, hunrecognised, fun j hj => ?_⟩
    · rw [h] at hnone
      cases hnone
    · obtain rfl := Option.some.inj (h.symm.trans hj)
      exact hframe

theorem framed_of_none (cmd : DIOCommand) (h : doIndex cmd.index = none) :
    Framed g d cmd ↔ cmd.run g d = (d, none) := by
  constructor
  · exact fun hframed => hframed.outOfRange h
  · intro hrun
    refine ⟨fun _ => hrun, fun _ => hrun, fun i hi => ?_⟩
    rw [h] at hi
    cases hi

theorem DeviceFrame.refl : DeviceFrame i limit d d := .of_live .refl

theorem framed_getDIOConfiguration_iff (index : UInt32) :
    Framed g d (.getDIOConfiguration index) ↔ dioIndex index = doIndex index := by
  cases hindex : doIndex index with
  | none =>
    rw [framed_of_none (.getDIOConfiguration index) hindex]
    simp [DIOCommand.run, getDIOConfiguration]
  | some i =>
    rw [framed_of_some (.getDIOConfiguration index) hindex]
    exact iff_of_true ⟨by simp [DIOCommand.recognised], .refl⟩ (dioIndex_of_doIndex hindex)

theorem framed_setDIODirection_iff (pConfg : DIODirection) :
    Framed g d (.setDIODirection pConfg) ↔ DIOCommand.Fits g d (.setDIODirection pConfg) := by
  rw [DIOCommand.Fits]
  cases hindex : doIndex pConfg.index with
  | none =>
    rw [framed_of_none (.setDIODirection pConfg) hindex]
    cases hdio : dioIndex pConfg.index with
    | none => simp [DIOCommand.run, setDIODirection, DIODirection.response, hdio]
    | some j => simp [DIOCommand.run, DIODirection.response, hdio]
  | some i =>
    have hdio := dioIndex_of_doIndex hindex
    rw [framed_of_some (.setDIODirection pConfg) hindex]
    cases htype : pConfg.asType g with
    | none =>
      -- the response is sent, and the block programmed
      have hanswered : (DIOCommand.setDIODirection pConfg).run g d ≠ (d, none) := by
        simp [DIOCommand.run, DIODirection.response, hdio]
      refine iff_of_false (fun h => hanswered (h.1 ?_)) fun h => ?_
      · simp [DIOCommand.recognised, htype]
      · have hrec := (h.2 i rfl).1
        simp at hrec
    | some pinConfig =>
      have hrun : ((DIOCommand.setDIODirection pConfg).run g d).1 =
          ⟨eepDIOConfgSet d.eeprom { d.info with dioCfg := d.info.dioCfg.set i pinConfig },
            d.live.gpioSetConfig i pinConfig⟩ := by
        simp [DIOCommand.run, setDIODirection, hdio, htype]
      have hcopy : BlockFrame i none d.info
          { d.info with dioCfg := d.info.dioCfg.set i pinConfig } :=
        ⟨⟨fun _ hj => (get_set_of_ne hj).symm, fun _ _ => rfl, fun _ _ => rfl, rfl⟩, .inl rfl⟩
      have hlimit : (DIOCommand.setDIODirection pConfg).syncCtrMax = none := rfl
      rw [hrun, hlimit, deviceFrame_save_iff_inStep (.gpioSetConfig _) hcopy]
      simp [DIOCommand.recognised, htype, hdio]

/-- A command that does nothing for the pin configurations it does not take, and nothing
for an index that its byte puts out of range. -/
theorem framed_accepted_iff {cmd : DIOCommand} {Q : Fin 6 → Prop}
    (hrefused : cmd.recognised g = false → cmd.run g d = (d, none))
    (hnone : cmd.recognised g = true → (cmd.run g d = (d, none) ↔ dioIndex cmd.index = none))
    (hsome : cmd.recognised g = true → ∀ i, dioIndex cmd.index = some i →
      (DeviceFrame i cmd.syncCtrMax d (cmd.run g d).1 ↔ Q i)) :
    Framed g d cmd ↔ (cmd.recognised g = true →
      dioIndex cmd.index = doIndex cmd.index ∧ ∀ i, doIndex cmd.index = some i → Q i) := by
  cases hrec : cmd.recognised g with
  | false =>
    have hrun := hrefused hrec
    refine iff_of_true ⟨fun _ => hrun, fun _ => hrun, fun i _ => ?_⟩ (by simp)
    rw [hrun]
    exact .refl
  | true =>
    rw [forall_prop_of_true rfl]
    cases hindex : doIndex cmd.index with
    | none =>
      rw [framed_of_none cmd hindex, hnone hrec]
      simp
    | some i =>
      have hdio := dioIndex_of_doIndex hindex
      rw [framed_of_some cmd hindex, hsome hrec i hdio, hdio]
      simp [hrec]

theorem framed_setDIConfiguration_iff (pConfg : DIConfiguration) :
    Framed g d (.setDIConfiguration pConfg) ↔
      DIOCommand.Fits g d (.setDIConfiguration pConfg) := by
  refine framed_accepted_iff (Q := InStep d) (fun hacc => ?_) (fun hacc => ?_) fun hacc i hdio => ?_
  · rw [DIOCommand.recognised] at hacc
    cases hdio : dioIndex pConfg.index with
    | none => simp [DIOCommand.run, setDIConfiguration, DIConfiguration.response, hdio, hacc]
    | some j => simp [DIOCommand.run, setDIConfiguration, DIConfiguration.response, hdio, hacc]
  · rw [DIOCommand.recognised] at hacc
    rw [DIOCommand.index]
    cases hdio : dioIndex pConfg.index with
    | none => simp [DIOCommand.run, setDIConfiguration, DIConfiguration.response, hdio, hacc]
    | some j => simp [DIOCommand.run, DIConfiguration.response, hdio, hacc]
  · rw [DIOCommand.recognised] at hacc
    rw [DIOCommand.index] at hdio
    have hcopy : BlockFrame i none d.info
        { d.info with
          dioCfg := d.info.dioCfg.set i pConfg.pinConfig
          diConfig := d.info.diConfig.set i pConfg.record } :=
      ⟨⟨fun _ hj => (get_set_of_ne hj).symm, fun _ hj => (get_set_of_ne hj).symm,
        fun _ _ => rfl, rfl⟩, .inl rfl⟩
    simp only [DIOCommand.run, setDIConfiguration, hdio, hacc, if_true, DIOCommand.syncCtrMax]
    exact deviceFrame_save_iff_inStep pConfg.configure_frame hcopy

theorem framed_setDOConfiguration_iff (pConfg : DOConfiguration) :
    Framed g d (.setDOConfiguration pConfg) ↔
      DIOCommand.Fits g d (.setDOConfiguration pConfg) := by
  refine framed_accepted_iff (Q := fun i => AgreeOutside i (d.eeprom.readBack .dio) d.info)
    (fun hacc => ?_) (fun hacc => ?_) fun hacc i hdio => ?_
  · rw [DIOCommand.recognised] at hacc
    cases hdio : dioIndex pConfg.index with
    | none => simp [DIOCommand.run, setDOConfiguration, DOConfiguration.response, hdio, hacc]
    | some j => simp [DIOCommand.run, setDOConfiguration, DOConfiguration.response, hdio, hacc]
  · rw [DIOCommand.recognised] at hacc
    rw [DIOCommand.index]
    cases hdio : dioIndex pConfg.index with
    | none => simp [DIOCommand.run, setDOConfiguration, DOConfiguration.response, hdio, hacc]
    | some j => simp [DIOCommand.run, DOConfiguration.response, hdio, hacc]
  · rw [DIOCommand.recognised] at hacc
    rw [DIOCommand.index] at hdio
    have hcopy : BlockFrame i (some pConfg.doSyncCtrMax) d.info
        { d.info with
          dioCfg := d.info.dioCfg.set i pConfg.pinConfig
          doConfig := d.info.doConfig.set i pConfg.record
          doSyncCtrMax := pConfg.doSyncCtrMax } :=
      ⟨⟨fun _ hj => (get_set_of_ne hj).symm, fun _ _ => rfl,
        fun _ hj => (get_set_of_ne hj).symm, rfl⟩, .inr rfl⟩
    simp only [DIOCommand.run, setDOConfiguration, hdio, hacc, if_true, DIOCommand.syncCtrMax]
    rw [deviceFrame_save_iff pConfg.configure_frame hcopy]
    simp

theorem framed_setDOValue (pConfg : DOValue) : Framed g d (.setDOValue pConfg) := by
  cases hindex : doIndex pConfg.index with
  | none =>
    rw [framed_of_none (.setDOValue pConfg) hindex]
    simp [DIOCommand.run, setDOValue, hindex]
  | some i =>
    rw [framed_of_some (.setDOValue pConfg) hindex]
    refine ⟨by simp [DIOCommand.recognised], ?_⟩
    simpa [DIOCommand.run, setDOValue, hindex] using DeviceFrame.of_live (.doSet _)

theorem framed_setDOToggle (pConfg : DOValue) : Framed g d (.setDOToggle pConfg) := by
  cases hindex : doIndex pConfg.index with
  | none =>
    rw [framed_of_none (.setDOToggle pConfg) hindex]
    simp [DIOCommand.run, setDOToggle, hindex]
  | some i =>
    rw [framed_of_some (.setDOToggle pConfg) hindex]
    refine ⟨by simp [DIOCommand.recognised], ?_⟩
    simpa [DIOCommand.run, setDOToggle, hindex] using DeviceFrame.of_live (.doSet _)

/-- A command keeps to its channel exactly when its index is taken as it is and it saves
no more than the EEPROM lacks of the channel. -/
theorem framed_iff_fits (g : GpioCfg) (d : Device) (cmd : DIOCommand) :
    Framed g d cmd ↔ cmd.Fits g d := by
  cases cmd with
  | getDIOConfiguration index => exact framed_getDIOConfiguration_iff index
  | setDIODirection pConfg => exact framed_setDIODirection_iff pConfg
  | setDIConfiguration pConfg => exact framed_setDIConfiguration_iff pConfg
  | setDOConfiguration pConfg => exact framed_setDOConfiguration_iff pConfg
  | setDOValue pConfg => exact iff_of_true (framed_setDOValue pConfg) trivial
  | setDOToggle pConfg => exact iff_of_true (framed_setDOToggle pConfg) trivial

theorem Persisted.inStep (h : Persisted g d) : InStep d i where
  outside := h.saved.symm ▸ .refl
  syncCtrMax := congrArg DIOCfgData.doSyncCtrMax h.saved

theorem Persisted.framed (h : Persisted g d) {cmd : DIOCommand}
    (hindex : dioIndex cmd.index = doIndex cmd.index) (hrec : cmd.recognised g = true) :
    Framed g d cmd := by
  cases cmd with
  | getDIOConfiguration index => exact (framed_getDIOConfiguration_iff index).mpr hindex
  | setDIODirection pConfg =>
    exact (framed_setDIODirection_iff pConfg).mpr ⟨hindex, fun i _ => ⟨hrec, h.inStep⟩⟩
  | setDIConfiguration pConfg =>
    exact (framed_setDIConfiguration_iff pConfg).mpr fun _ => ⟨hindex, fun _ _ => h.inStep⟩
  | setDOConfiguration pConfg =>
    exact (framed_setDOConfiguration_iff pConfg).mpr fun _ => ⟨hindex, fun _ _ => h.inStep.outside⟩
  | setDOValue pConfg => exact framed_setDOValue pConfg
  | setDOToggle pConfg => exact framed_setDOToggle pConfg

/-- Index 256 is taken for channel 0. -/
theorem alias_changes_channel :
    ¬∀ (d : Device) (cmd : DIOCommand), Framed driverCfg d cmd := by
  intro h
  have hrun := (h (start driverCfg ⟨0, true⟩ fun _ => 0xFF)
    (.setDIODirection ⟨256, driverCfg.outODPU⟩)).outOfRange (by decide)
  have hpin := congrArg (fun p => p.1.live.pinConfig 0) hrun
  exact absurd hpin (by decide)

end SystemMaster.Dio
