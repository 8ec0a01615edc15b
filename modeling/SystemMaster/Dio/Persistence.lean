import SystemMaster.Dio.Commands
import SystemMaster.Library.Runs

/-!
# The saved configuration against the live one

The live tables hold what a start would restore from the block, but for the
bypasses: they are saved and never restored, or not saved at all. A start gives
back the configuration exactly when no channel is left bypassed.
-/

namespace SystemMaster.Dio

open Eeprom Runs

/-- The live tables are as restored but for the bypasses. -/
structure Restores (g : GpioCfg) (l : Live) (c : Config) : Prop where
  direction : ∀ i, g.isInput (l.pinConfig i) = c.direction i
  inputs : ∀ n, { (l.diTbl n).config with bypass := none } = c.inputs n
  outputs : ∀ n, { (l.doTbl n).config with bypass := none } = c.outputs n
  syncCtrMax : l.doSyncCtrMax = c.syncCtrMax

def Event.bypassesDI (g : GpioCfg) (n : InputMap) : Event → Option Bool
  | .setDIConfiguration pConfg =>
    if (dioIndex pConfg.index).map .gpi = some n ∧ pConfg.accepted g then
      some (pConfg.diBypassEn ≠ 0)
    else none
  | _ => none

def Event.bypassesDO (g : GpioCfg) (o : OutputMap) : Event → Option Bool
  | .setDOConfiguration pConfg =>
    if (dioIndex pConfg.index).map .gpo = some o ∧ pConfg.accepted g then
      some (pConfg.doBypassEn ≠ 0)
    else none
  | _ => none

/-- No channel's last accepted command enables its bypass. -/
structure Unbypassed (g : GpioCfg) (events : List Event) : Prop where
  inputs : ∀ n, (events.filterMap (Event.bypassesDI g n)).getLastD false = false
  outputs : ∀ o, (events.filterMap (Event.bypassesDO g o)).getLastD false = false

variable {g : GpioCfg} {d : Device} {l : Live} {info : DIOCfgData} {n m : InputMap}
  {o p : OutputMap} {i j : Fin 6} {events : List Event} {boot : Boot} {eeprom : Memory UInt8}

-- ---------------------------------------------------------------------------
-- Changes of the tables
-- ---------------------------------------------------------------------------

section OnChannels

variable {κ β : Type*} [DecidableEq κ] {e : Fin 6 → κ} {f : Fin 6 → β → β} {t : κ → β} {k : κ}

def onChannels (e : Fin 6 → κ) (f : Fin 6 → β → β) (t : κ → β) : κ → β :=
  (List.finRange 6).foldl (fun t i => Function.update t (e i) (f i (t (e i)))) t

theorem foldl_update_of_ne (is : List (Fin 6)) (hk : ∀ i ∈ is, k ≠ e i) (t : κ → β) :
    is.foldl (fun t i => Function.update t (e i) (f i (t (e i)))) t k = t k := by
  induction is generalizing t with
  | nil => rfl
  | cons i is ih =>
    rw [List.foldl_cons, ih fun j hj => hk j (List.mem_cons_of_mem _ hj),
      Function.update_of_ne (hk i List.mem_cons_self)]

theorem foldl_update_self (he : Function.Injective e) (is : List (Fin 6)) (hnodup : is.Nodup)
    (hj : j ∈ is) (t : κ → β) :
    is.foldl (fun t i => Function.update t (e i) (f i (t (e i)))) t (e j) = f j (t (e j)) := by
  induction is generalizing t with
  | nil => exact absurd hj List.not_mem_nil
  | cons i is ih =>
    obtain ⟨hi, hnodup⟩ := List.nodup_cons.mp hnodup
    rw [List.foldl_cons]
    rcases List.mem_cons.mp hj with rfl | hj
    · have hne : ∀ i ∈ is, e j ≠ e i := fun i hi' h => hi (by rwa [he h])
      rw [foldl_update_of_ne is hne, Function.update_self]
    · have hne : e j ≠ e i := fun h => hi (he h ▸ hj)
      rw [ih hnodup hj, Function.update_of_ne hne]

theorem onChannels_of_ne (hk : ∀ i, k ≠ e i) : onChannels e f t k = t k :=
  foldl_update_of_ne _ (fun i _ => hk i) t

theorem onChannels_self (he : Function.Injective e) : onChannels e f t (e j) = f j (t (e j)) :=
  foldl_update_self he _ (List.nodup_finRange 6) (List.mem_finRange j) t

theorem eachChannel_table {step : Live → Fin 6 → Live} (put : (κ → β) → Live)
    (h : ∀ t i, step (put t) i = put (Function.update t (e i) (f i (t (e i))))) :
    eachChannel step (put t) = put (onChannels e f t) :=
  List.foldl_hom put h

end OnChannels

theorem eachChannel_modifyDI (f : Fin 6 → DI → DI) :
    eachChannel (fun l i => l.modifyDI (.gpi i) (f i)) l =
      { l with diTbl := onChannels .gpi f l.diTbl } :=
  eachChannel_table (fun t => { l with diTbl := t }) fun _ _ => rfl

theorem eachChannel_modifyDO (f : Fin 6 → DO → DO) :
    eachChannel (fun l i => l.modifyDO (.gpo i) (f i)) l =
      { l with doTbl := onChannels .gpo f l.doTbl } :=
  eachChannel_table (fun t => { l with doTbl := t }) fun _ _ => rfl

theorem eachChannel_gpioSetConfig (c : Fin 6 → UInt32) :
    eachChannel (fun l i => l.gpioSetConfig i (c i)) l = { l with pinConfig := c } := by
  have hfold : eachChannel (fun l i => l.gpioSetConfig i (c i)) l =
      { l with pinConfig := onChannels id (fun i _ => c i) l.pinConfig } :=
    eachChannel_table (fun c => { l with pinConfig := c }) fun _ _ => rfl
  rw [hfold]
  congr 1
  funext i
  exact onChannels_self Function.injective_id

@[simp] theorem onChannels_gpi {f : Fin 6 → DI → DI} {t : InputMap → DI} :
    onChannels .gpi f t (.gpi j) = f j (t (.gpi j)) :=
  onChannels_self fun _ _ => InputMap.gpi.inj

@[simp] theorem onChannels_gpo {f : Fin 6 → DO → DO} {t : OutputMap → DO} :
    onChannels .gpo f t (.gpo j) = f j (t (.gpo j)) :=
  onChannels_self fun _ _ => OutputMap.gpo.inj

theorem Live.config_eq {c : Config} (direction : ∀ i, g.isInput (l.pinConfig i) = c.direction i)
    (inputs : ∀ n, (l.diTbl n).config = c.inputs n)
    (outputs : ∀ n, (l.doTbl n).config = c.outputs n) (syncCtrMax : l.doSyncCtrMax = c.syncCtrMax) :
    l.config g = c :=
  Config.ext (funext direction) (funext inputs) (funext outputs) syncCtrMax

theorem discreteIOInit_pinConfig (hg : g.Documented) (i : Fin 6) :
    g.isInput ((discreteIOInit g info).pinConfig i) = (restored g info).direction i := by
  simp only [discreteIOInit, Live.diCfgMode, Live.diCfgDebounce, Live.diSetDebounceEn,
    Live.doCfgMode, Live.doSet, Live.doCfgBlink, Live.doSetSyncCtrMax, eachChannel_modifyDI,
    eachChannel_modifyDO, eachChannel_gpioSetConfig]
  simp only [Live.modifyDO, Live.modifyDI, restored]
  split
  case isTrue h => rw [hg.input, h]
  case isFalse h => rw [hg.output, Bool.eq_false_iff.mpr h]

theorem discreteIOInit_inputs (n : InputMap) :
    ((discreteIOInit g info).diTbl n).config = (restored g info).inputs n := by
  simp only [discreteIOInit, Live.diCfgMode, Live.diCfgDebounce, Live.diSetDebounceEn,
    Live.doCfgMode, Live.doSet, Live.doCfgBlink, Live.doSetSyncCtrMax, eachChannel_modifyDI,
    eachChannel_modifyDO, eachChannel_gpioSetConfig]
  simp only [Live.modifyDO, Live.modifyDI]
  cases n <;> simp [onChannels_of_ne, restored, restoredDI, DI.config, dioInit]

theorem discreteIOInit_outputs (o : OutputMap) :
    ((discreteIOInit g info).doTbl o).config = (restored g info).outputs o := by
  simp only [discreteIOInit, Live.diCfgMode, Live.diCfgDebounce, Live.diSetDebounceEn,
    Live.doCfgMode, Live.doSet, Live.doCfgBlink, Live.doSetSyncCtrMax, eachChannel_modifyDI,
    eachChannel_modifyDO, eachChannel_gpioSetConfig]
  simp only [Live.modifyDO, Live.modifyDI]
  cases o <;> simp [onChannels_of_ne, restored, restoredDO, DO.config, dioInit]

theorem discreteIOInit_config (hg : g.Documented) :
    (discreteIOInit g info).config g = restored g info :=
  Live.config_eq (discreteIOInit_pinConfig hg) discreteIOInit_inputs discreteIOInit_outputs (by
    simp only [discreteIOInit, Live.diCfgMode, Live.diCfgDebounce, Live.diSetDebounceEn,
      Live.doCfgMode, Live.doSet, Live.doCfgBlink, Live.doSetSyncCtrMax, eachChannel_modifyDI,
      eachChannel_modifyDO, eachChannel_gpioSetConfig]
    rfl)

theorem restored_inputs_bypass : ((restored g info).inputs n).bypass = none := by
  cases n <;> rfl

theorem restored_outputs_bypass : ((restored g info).outputs o).bypass = none := by
  cases o <;> rfl

theorem Restores.of_config {c : Config} (h : l.config g = c)
    (hinputs : ∀ n, (c.inputs n).bypass = none) (houtputs : ∀ n, (c.outputs n).bypass = none) :
    Restores g l c := by
  subst h
  refine ⟨fun _ => rfl, fun n => ?_, fun n => ?_, rfl⟩
  · exact congrArg (fun bypass => { (l.diTbl n).config with bypass := bypass }) (hinputs n).symm
  · exact congrArg (fun bypass => { (l.doTbl n).config with bypass := bypass }) (houtputs n).symm

theorem discreteIOInit_restores (hg : g.Documented) :
    Restores g (discreteIOInit g info) (restored g info) :=
  .of_config (discreteIOInit_config hg) (fun _ => restored_inputs_bypass)
    fun _ => restored_outputs_bypass

-- ---------------------------------------------------------------------------
-- What the block holds
-- ---------------------------------------------------------------------------

/-- The block is marked and holds the copy in RAM, from which a start would
restore the live configuration without its bypasses. -/
structure Persisted (g : GpioCfg) (d : Device) : Prop where
  marked : (d.eeprom.readBack .data : EepromData).eepromCheck = eepromCheckMarker
  saved : d.eeprom.readBack .dio = d.info
  live : Restores g d.live (restored g d.info)

theorem start_persisted (hg : g.Documented) (hboot : boot.Completes) :
    Persisted g (start g boot eeprom) := by
  refine ⟨?_, ?_, discreteIOInit_restores hg⟩
  all_goals by_cases hm :
    ((powerUp eeprom).readBack .data : EepromData).eepromCheck = eepromCheckMarker
  · rw [start, infoInit_of_marker hboot hm, State.readBack_assign]
    rw [State.readBack_congr (State.foldl_read_eeprom _)]
    exact hm
  · rw [start, infoInit_of_no_marker hboot hm]
    rfl
  · rw [Device.info, start, infoInit_ram hboot hm (by decide), infoInit_of_marker hboot hm,
      State.readBack_assign, State.readBack_congr (State.foldl_read_eeprom _)]
  · rw [Device.info, start, infoInit_ram_of_no_marker hboot hm (by decide),
      infoInit_of_no_marker hboot hm]

theorem Persisted.reboot_config (h : Persisted g d) (hg : g.Documented) (hboot : boot.Completes) :
    (d.reboot g boot).live.config g = restored g d.info := by
  have hread : ∀ b, (powerUp d.eeprom.eeprom).readBack b = d.eeprom.readBack b :=
    fun b => State.readBack_congr rfl
  have hm : ((powerUp d.eeprom.eeprom).readBack .data).eepromCheck = eepromCheckMarker := by
    rw [hread]
    exact h.marked
  have hram : (infoInit g.asInput boot (powerUp d.eeprom.eeprom)).ram .dio = d.info := by
    rw [infoInit_ram hboot hm (by decide), hread, h.saved]
  rw [Device.reboot, start, hram]
  exact discreteIOInit_config hg

theorem Persisted.save (h : Persisted g d) (hlive : Restores g l (restored g info)) :
    Persisted g ⟨eepDIOConfgSet d.eeprom info, l⟩ where
  marked := by
    rw [eepDIOConfgSet, State.readBack_program_of_ne (by decide), State.readBack_assign]
    exact h.marked
  saved := by
    rw [Device.info, eepDIOConfgSet, State.readBack_program_self, State.program_ram]
  live := by
    rw [Device.info, eepDIOConfgSet, State.program_ram, State.assign_ram_self]
    exact hlive

@[simp] theorem Live.gpioSetConfig_diTbl (pinConfig : UInt32) :
    (l.gpioSetConfig i pinConfig).diTbl = l.diTbl := rfl

@[simp] theorem Live.gpioSetConfig_doTbl (pinConfig : UInt32) :
    (l.gpioSetConfig i pinConfig).doTbl = l.doTbl := rfl

theorem Persisted.setDIODirection (h : Persisted g d) (pConfg : DIODirection) :
    Persisted g (setDIODirection g d pConfg) := by
  unfold Dio.setDIODirection
  split
  case h_1 => exact h
  case h_2 i _ =>
    split
    case h_1 pinConfig _ =>
      exact h.save ⟨isInput_set h.live.direction i, h.live.inputs, h.live.outputs,
        h.live.syncCtrMax⟩
    case h_2 => exact h.save h.live

theorem DIConfiguration.configure_config (pConfg : DIConfiguration) :
    { ((pConfg.configure i l).diTbl n).config with bypass := none } =
      if n = .gpi i then restoredDI pConfg.record else { (l.diTbl n).config with bypass := none } := by
  by_cases hn : n = .gpi i
  · subst hn
    by_cases hen : pConfg.diBypassEn = 0 <;> by_cases hflag : pConfg.diDebounceEn = 0
    all_goals simp [configure, Live.diCfgMode, Live.diSetBypassEn, Live.diSetBypass,
      Live.diCfgDebounce, Live.diSetDebounceEn, Live.modifyDI, DI.config, restoredDI, record, hen, hflag]
  · simp [configure, Live.diCfgMode, Live.diSetBypassEn, Live.diSetBypass, Live.diCfgDebounce,
      Live.diSetDebounceEn, Live.modifyDI, hn]

theorem DOConfiguration.configure_config (pConfg : DOConfiguration) :
    { ((pConfg.configure i l).doTbl o).config with bypass := none } =
      if o = .gpo i then restoredDO pConfg.record else { (l.doTbl o).config with bypass := none } := by
  by_cases ho : o = .gpo i
  · subst ho
    by_cases hen : (l.doTbl (.gpo i)).doBypassEn = true <;> by_cases hflag : pConfg.doInv = 0
    all_goals simp [configure, Live.doCfgMode, Live.doSetBypassEn, Live.doSetBypass,
      Live.doCfgBlink, Live.doSetSyncCtrMax, Live.modifyDO, DO.config, restoredDO, record, hen, hflag]
  · simp [configure, Live.doCfgMode, Live.doSetBypassEn, Live.doSetBypass, Live.doCfgBlink,
      Live.doSetSyncCtrMax, Live.modifyDO, ho]

theorem Persisted.setDIConfiguration (h : Persisted g d) (pConfg : DIConfiguration) :
    Persisted g (setDIConfiguration g d pConfg) := by
  unfold Dio.setDIConfiguration
  split
  case h_1 => exact h
  case h_2 i _ =>
    split
    case isFalse => exact h
    case isTrue =>
      refine h.save ⟨isInput_set h.live.direction i, fun n => ?_, h.live.outputs,
        h.live.syncCtrMax⟩
      rw [DIConfiguration.configure_config]
      have hn := h.live.inputs n
      cases n with
      | gpi j =>
        by_cases hj : j = i
        · subst hj
          simp [restored]
        · have hne : (i : Nat) ≠ j := fun heq => hj (Fin.ext heq.symm)
          simpa [hj, restored, Vector.getElem_set_ne, hne] using hn
      | _ => exact hn

theorem Persisted.setDOConfiguration (h : Persisted g d) (pConfg : DOConfiguration) :
    Persisted g (setDOConfiguration g d pConfg) := by
  unfold Dio.setDOConfiguration
  split
  case h_1 => exact h
  case h_2 i _ =>
    split
    case isFalse => exact h
    case isTrue =>
      refine h.save ⟨isInput_set h.live.direction i, h.live.inputs, fun o => ?_, rfl⟩
      rw [DOConfiguration.configure_config]
      have ho := h.live.outputs o
      cases o with
      | gpo j =>
        by_cases hj : j = i
        · subst hj
          simp [restored]
        · have hne : (i : Nat) ≠ j := fun heq => hj (Fin.ext heq.symm)
          simpa [hj, restored, Vector.getElem_set_ne, hne] using ho
      | _ => exact ho

theorem Persisted.step (h : Persisted g d) (e : Event) : Persisted g (d.step g e) := by
  cases e with
  | setDIODirection pConfg => exact h.setDIODirection pConfg
  | setDIConfiguration pConfg => exact h.setDIConfiguration pConfg
  | setDOConfiguration pConfg => exact h.setDOConfiguration pConfg
  | turn inputs =>
    refine ⟨h.marked, h.saved, h.live.direction, fun n => ?_, fun o => ?_, h.live.syncCtrMax⟩
    · change { ((d.live.turn inputs).diTbl n).config with bypass := none } = _
      rw [Live.turn_diConfig]
      exact h.live.inputs n
    · change { ((d.live.turn inputs).doTbl o).config with bypass := none } = _
      rw [Live.turn_doConfig]
      exact h.live.outputs o

theorem exec_persisted (hg : g.Documented) (hboot : boot.Completes) :
    Persisted g (exec (Device.step g) (start g boot eeprom) events) :=
  exec_inv (start_persisted hg hboot) fun _ e h => h.step e

-- ---------------------------------------------------------------------------
-- Bypasses
-- ---------------------------------------------------------------------------

theorem DIConfiguration.configure_diBypassEn (pConfg : DIConfiguration) :
    ((pConfg.configure i l).diTbl n).diBypassEn =
      if .gpi i = n then decide (pConfg.diBypassEn ≠ 0) else (l.diTbl n).diBypassEn := by
  by_cases hn : .gpi i = n
  · subst hn
    by_cases hen : pConfg.diBypassEn = 0
    all_goals simp [configure, Live.diCfgMode, Live.diSetBypassEn, Live.diSetBypass,
      Live.diCfgDebounce, Live.diSetDebounceEn, Live.modifyDI, hen]
  · have hne : n ≠ .gpi i := fun h => hn h.symm
    simp [configure, Live.diCfgMode, Live.diSetBypassEn, Live.diSetBypass, Live.diCfgDebounce,
      Live.diSetDebounceEn, Live.modifyDI, hn, hne]

theorem DOConfiguration.configure_doBypassEn (pConfg : DOConfiguration) :
    ((pConfg.configure i l).doTbl o).doBypassEn =
      if .gpo i = o then decide (pConfg.doBypassEn ≠ 0) else (l.doTbl o).doBypassEn := by
  by_cases ho : .gpo i = o
  · subst ho
    by_cases hen : (l.doTbl (.gpo i)).doBypassEn = true
    all_goals simp [configure, Live.doCfgMode, Live.doSetBypassEn, Live.doSetBypass,
      Live.doCfgBlink, Live.doSetSyncCtrMax, Live.modifyDO]
  · have hne : o ≠ .gpo i := fun h => ho h.symm
    simp [configure, Live.doCfgMode, Live.doSetBypassEn, Live.doSetBypass, Live.doCfgBlink,
      Live.doSetSyncCtrMax, Live.modifyDO, ho, hne]

theorem DI.bypass_eq_none {di : DI} : di.config.bypass = none ↔ di.diBypassEn = false := by
  simp [DI.config]

theorem DO.bypass_eq_none {d : DO} : d.config.bypass = none ↔ d.doBypassEn = false := by
  simp [DO.config]

theorem Device.step_diBypassEn (d : Device) (e : Event) :
    ((d.step g e).live.diTbl n).diBypassEn =
      (e.bypassesDI g n).getD (d.live.diTbl n).diBypassEn := by
  cases e with
  | setDIODirection pConfg =>
    simp only [Device.step, Dio.setDIODirection]
    split <;> [rfl; split <;> rfl]
  | setDIConfiguration pConfg =>
    simp only [Device.step, Dio.setDIConfiguration, Event.bypassesDI]
    cases dioIndex pConfg.index with
    | none => simp
    | some i =>
      by_cases hacc : pConfg.accepted g = true
      · by_cases hn : .gpi i = n
        · simp [hacc, hn, DIConfiguration.configure_diBypassEn]
        · simp [hacc, hn, DIConfiguration.configure_diBypassEn]
      · simp [hacc]
  | setDOConfiguration pConfg =>
    simp only [Device.step, Dio.setDOConfiguration]
    split <;> [rfl; split <;> rfl]
  | turn inputs => exact Live.turn_diBypassEn inputs

theorem Device.step_doBypassEn (d : Device) (e : Event) :
    ((d.step g e).live.doTbl o).doBypassEn =
      (e.bypassesDO g o).getD (d.live.doTbl o).doBypassEn := by
  cases e with
  | setDIODirection pConfg =>
    simp only [Device.step, Dio.setDIODirection]
    split <;> [rfl; split <;> rfl]
  | setDIConfiguration pConfg =>
    simp only [Device.step, Dio.setDIConfiguration]
    split <;> [rfl; split <;> rfl]
  | setDOConfiguration pConfg =>
    simp only [Device.step, Dio.setDOConfiguration, Event.bypassesDO]
    cases dioIndex pConfg.index with
    | none => simp
    | some i =>
      by_cases hacc : pConfg.accepted g = true
      · by_cases ho : .gpo i = o
        · simp [hacc, ho, DOConfiguration.configure_doBypassEn]
        · simp [hacc, ho, DOConfiguration.configure_doBypassEn]
      · simp [hacc]
  | turn inputs => exact Live.turn_doBypassEn inputs

theorem exec_diBypassEn (hg : g.Documented) :
    ((exec (Device.step g) (start g boot eeprom) events).live.diTbl n).diBypassEn =
      (events.filterMap (Event.bypassesDI g n)).getLastD false := by
  have hstart : ((start g boot eeprom).live.diTbl n).diBypassEn = false := by
    rw [← DI.config_bypass_isSome]
    have hconfig : (start g boot eeprom).live.config g = restored g (start g boot eeprom).info :=
      discreteIOInit_config hg
    have hn := congrFun (congrArg Config.inputs hconfig) n
    exact (congrArg (fun c => c.bypass.isSome) hn).trans
      (congrArg Option.isSome restored_inputs_bypass)
  rw [exec_field (fun d : Device => (d.live.diTbl n).diBypassEn) (fun d e => d.step_diBypassEn e),
    hstart]

theorem exec_doBypassEn (hg : g.Documented) :
    ((exec (Device.step g) (start g boot eeprom) events).live.doTbl o).doBypassEn =
      (events.filterMap (Event.bypassesDO g o)).getLastD false := by
  have hstart : ((start g boot eeprom).live.doTbl o).doBypassEn = false := by
    rw [← DO.config_bypass_isSome]
    have hconfig : (start g boot eeprom).live.config g = restored g (start g boot eeprom).info :=
      discreteIOInit_config hg
    have ho := congrFun (congrArg Config.outputs hconfig) o
    exact (congrArg (fun c => c.bypass.isSome) ho).trans
      (congrArg Option.isSome restored_outputs_bypass)
  rw [exec_field (fun d : Device => (d.live.doTbl o).doBypassEn) (fun d e => d.step_doBypassEn e),
    hstart]

/-- A start gives back the live configuration exactly when nothing is bypassed. -/
theorem Persisted.reboot_config_iff (h : Persisted g d) (hg : g.Documented)
    (hboot : boot.Completes) :
    (d.reboot g boot).live.config g = d.live.config g ↔
      (∀ n, (d.live.diTbl n).diBypassEn = false) ∧ ∀ o, (d.live.doTbl o).doBypassEn = false := by
  rw [h.reboot_config hg hboot]
  constructor
  · intro heq
    refine ⟨fun n => ?_, fun o => ?_⟩
    · have hn := congrFun (congrArg Config.inputs heq) n
      rw [← DI.config_bypass_isSome]
      exact (congrArg (fun c => c.bypass.isSome) hn).symm.trans
        (congrArg Option.isSome restored_inputs_bypass)
    · have ho := congrFun (congrArg Config.outputs heq) o
      rw [← DO.config_bypass_isSome]
      exact (congrArg (fun c => c.bypass.isSome) ho).symm.trans
        (congrArg Option.isSome restored_outputs_bypass)
  · rintro ⟨hinputs, houtputs⟩
    refine (Live.config_eq h.live.direction (fun n => ?_) (fun o => ?_) h.live.syncCtrMax).symm
    · rw [← h.live.inputs n]
      simp [DI.config, hinputs n]
    · rw [← h.live.outputs o]
      simp [DO.config, houtputs o]

/-- After any run, a start restores the live configuration exactly when no
channel was left bypassed by the last command accepted for it. -/
theorem reboot_config_iff_unbypassed {boot' : Boot} (hg : g.Documented) (hboot : boot.Completes)
    (hboot' : boot'.Completes) :
    ((exec (Device.step g) (start g boot eeprom) events).reboot g boot').live.config g =
        (exec (Device.step g) (start g boot eeprom) events).live.config g ↔
      Unbypassed g events := by
  rw [(exec_persisted hg hboot).reboot_config_iff hg hboot']
  simp only [exec_diBypassEn hg, exec_doBypassEn hg]
  exact ⟨fun ⟨hinputs, houtputs⟩ => ⟨hinputs, houtputs⟩, fun h => ⟨h.inputs, h.outputs⟩⟩

/-- The values of the driver library's header. -/
def driverCfg : GpioCfg where
  inNoPull := 0x00010000
  inPU := 0x00030000
  inPD := 0x00050000
  outStd := 0x00000000
  outODNoPull := 0x00020000
  outODPU := 0x00040000
  outODPD := 0x00060000
  inIntBothEdges := 0x03000000
  outStrLow := 0x00000000
  outLow := 0x00000000
  ioMask := 0x00ff0000
  input := 0x00010000

theorem driverCfg_documented : driverCfg.Documented := by constructor <;> decide

def pulsedInput (diBypassEn : UInt8) : DIConfiguration where
  index := 0
  pinConfig := 0x03030000
  diVal := 7
  diDebounceDly := 5
  diRptStartDly := 60
  diRptDly := 20
  diBypassEn := diBypassEn
  diModeSel := 5
  diDebounceEn := 1

/-- A bypass that the next command disables leaves nothing behind. -/
theorem reboot_config_after_bypass :
    let d := exec (Device.step driverCfg) (start driverCfg ⟨0, true⟩ fun _ => 0xFF)
      [.setDIConfiguration (pulsedInput 1), .turn fun _ => true, .setDIConfiguration (pulsedInput 0)]
    (d.reboot driverCfg ⟨3, true⟩).live.config driverCfg = d.live.config driverCfg := by
  refine (reboot_config_iff_unbypassed driverCfg_documented ⟨by decide, rfl⟩ ⟨by decide, rfl⟩).mpr ?_
  constructor
  · intro n
    by_cases hn : .gpi 0 = n
    · subst hn
      decide
    · simp [Event.bypassesDI, dioIndex, dioIndexCount, pulsedInput, hn]
  · exact fun _ => rfl

/-- An input left bypassed is no longer bypassed after a start. -/
theorem reboot_drops_bypass :
    ¬∀ (eeprom : Memory UInt8) (events : List Event) (boot boot' : Boot),
      boot.Completes → boot'.Completes →
        let d := exec (Device.step driverCfg) (start driverCfg boot eeprom) events
        (d.reboot driverCfg boot').live.config driverCfg = d.live.config driverCfg := by
  intro h
  have hready : Boot.Completes ⟨0, true⟩ := ⟨by decide, rfl⟩
  have heq := h (fun _ => 0xFF) [.setDIConfiguration (pulsedInput 1)] _ _ hready hready
  have hen := (((exec_persisted driverCfg_documented hready).reboot_config_iff
    driverCfg_documented hready).mp heq).1 (.gpi 0)
  rw [exec_diBypassEn driverCfg_documented] at hen
  revert hen
  decide

end SystemMaster.Dio
