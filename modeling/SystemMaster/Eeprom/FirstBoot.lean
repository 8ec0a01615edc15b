import SystemMaster.Eeprom.Integrity

/-!
# Power failures in the first start

`INFO_init` resets the blocks one after the other, the block with the marker
first. Power may fail between two of its writes, over and over. The next start
that completes finds every block at its default or at a saved value exactly
when no failure came between the marker and a block with other content.
-/

namespace SystemMaster.Eeprom

open Codec Runs

/-- The EEPROM when power fails in `INFO_init` after `n` calls of `EEPROMProgram`. -/
def infoInitCut (gpioCfg : UInt32) (boot : Boot) (n : Nat) (s : State) : Memory UInt8 :=
  if waitReady readyTimeout boot.notReady = 0 then s.eeprom
  else if boot.initOk = false then s.eeprom
  else
    let s := Block.order.foldl State.read s
    if (s.ram .data : EepromData).eepromCheck ≠ eepromCheckMarker
    then (s.reset gpioCfg (Block.order.take n)).eeprom else s.eeprom

inductive SetCall where
  | infoSet (info : MarkedData)
  | eepDIOConfgSet (info : DIOCfgData)
  | eepIpConfgSet (info : IpConfigData)
  | eepMACConfgSet (info : MacConfigData)
  | eepDebugConfgSet (info : DebugCfgData)

def SetCall.run (s : State) : SetCall → State
  | .infoSet info => Eeprom.infoSet s info.data
  | .eepDIOConfgSet info => Eeprom.eepDIOConfgSet s info
  | .eepIpConfgSet info => Eeprom.eepIpConfgSet s info
  | .eepMACConfgSet info => Eeprom.eepMACConfgSet s info
  | .eepDebugConfgSet info => Eeprom.eepDebugConfgSet s info

def SetCall.block : SetCall → Block
  | .infoSet _ => .data
  | .eepDIOConfgSet _ => .dio
  | .eepIpConfgSet _ => .ip
  | .eepMACConfgSet _ => .mac
  | .eepDebugConfgSet _ => .debug

def SetCall.value : (call : SetCall) → call.block.Value
  | .infoSet info => info.data
  | .eepDIOConfgSet info => info
  | .eepIpConfgSet info => info.terminate
  | .eepMACConfgSet info => info
  | .eepDebugConfgSet info => info

/-- One power cycle: `INFO_init` is cut off, or completes and set calls follow. -/
inductive Cycle where
  | cut (boot : Boot) (n : Nat)
  | up (boot : { boot : Boot // boot.Completes }) (calls : List SetCall)

/-- The EEPROM while power is off, and what set calls have saved in each block. -/
structure Device where
  eeprom : Memory UInt8
  saved : (b : Block) → Set b.Value

def SetCall.save (saved : (b : Block) → Set b.Value) (call : SetCall) : (b : Block) → Set b.Value :=
  Function.update saved call.block (insert call.value (saved call.block))

def Device.step (gpioCfg : UInt32) (d : Device) : Cycle → Device
  | .cut boot n => { d with eeprom := infoInitCut gpioCfg boot n (powerUp d.eeprom) }
  | .up boot calls =>
    { eeprom := (calls.foldl SetCall.run (infoInit gpioCfg boot (powerUp d.eeprom))).eeprom
      saved := calls.foldl SetCall.save d.saved }

def unrecognised (eeprom : Memory UInt8) : Device := ⟨eeprom, fun _ => ∅⟩

/-- The block holds its default or a saved value. -/
def Written (gpioCfg : UInt32) (saved : (b : Block) → Set b.Value) (s : State) (b : Block) : Prop :=
  s.readBack b = defaults gpioCfg b ∨ s.readBack b ∈ saved b

def Device.Marked (d : Device) : Prop :=
  ((powerUp d.eeprom).readBack .data).eepromCheck = eepromCheckMarker

/-- The next start that completes leaves every block written, and the marker is
not there while a block is not. -/
structure Device.Recovers (gpioCfg : UInt32) (d : Device) : Prop where
  completed : ∀ boot : Boot, boot.Completes →
    ∀ b, Written gpioCfg d.saved (infoInit gpioCfg boot (powerUp d.eeprom)) b
  marked : d.Marked → ∀ b, Written gpioCfg d.saved (powerUp d.eeprom) b

/-- A cut that resets blocks comes before the first of them, or the blocks it
leaves out hold their default or a saved value already. -/
def Device.Spared (gpioCfg : UInt32) (d : Device) : Cycle → Prop
  | .cut boot n => boot.Completes → ¬d.Marked →
      n = 0 ∨ ∀ b ∈ Block.order.drop n, Written gpioCfg d.saved (powerUp d.eeprom) b
  | .up _ _ => True

variable {gpioCfg : UInt32} {boot : Boot} {n : Nat} {s : State} {b : Block} {d : Device}
  {cycle : Cycle} {call : SetCall} {saved : (b : Block) → Set b.Value}

-- ---------------------------------------------------------------------------
-- One start
-- ---------------------------------------------------------------------------

theorem infoInitCut_order (hn : Block.order.length ≤ n) :
    infoInitCut gpioCfg boot n s = (infoInit gpioCfg boot s).eeprom := by
  rw [infoInitCut, infoInit, List.take_of_length_le hn]
  split
  case isTrue => rfl
  case isFalse =>
    split
    case isTrue => rfl
    case isFalse =>
      simp only [State.assign_eeprom]
      split <;> rfl

theorem infoInitCut_of_not_completes (h : ¬boot.Completes) :
    infoInitCut gpioCfg boot n s = s.eeprom := by
  unfold infoInitCut
  by_cases hready : waitReady readyTimeout boot.notReady = 0
  · rw [if_pos hready]
  · rw [if_neg hready, if_pos (by simpa [Boot.Completes, hready] using h)]

theorem infoInitCut_of_marker
    (hm : (s.readBack .data : EepromData).eepromCheck = eepromCheckMarker) :
    infoInitCut gpioCfg boot n s = s.eeprom := by
  have hram : (Block.order.foldl State.read s).ram .data = s.readBack .data :=
    State.foldl_read_ram _ (Block.mem_order .data)
  unfold infoInitCut
  simp only [hram, hm, ne_eq, not_true_eq_false, if_false, State.foldl_read_eeprom, ite_self]

theorem infoInitCut_of_no_marker (hboot : boot.Completes)
    (hm : (s.readBack .data : EepromData).eepromCheck ≠ eepromCheckMarker) :
    infoInitCut gpioCfg boot n s =
      ((Block.order.foldl State.read s).reset gpioCfg (Block.order.take n)).eeprom := by
  have hram : (Block.order.foldl State.read s).ram .data = s.readBack .data :=
    State.foldl_read_ram _ (Block.mem_order .data)
  rw [infoInitCut, if_neg hboot.1, if_neg (by simp [hboot.2])]
  simp only [hram, ne_eq, hm, not_false_eq_true, if_true]

theorem readBack_infoInitCut (hboot : boot.Completes)
    (hm : (s.readBack .data : EepromData).eepromCheck ≠ eepromCheckMarker) :
    (powerUp (infoInitCut gpioCfg boot n s)).readBack b =
      if b ∈ Block.order.take n then defaults gpioCfg b else s.readBack b := by
  have hcut : (powerUp (infoInitCut gpioCfg boot n s)).readBack b =
      ((Block.order.foldl State.read s).reset gpioCfg (Block.order.take n)).readBack b :=
    State.readBack_congr (infoInitCut_of_no_marker hboot hm)
  rw [hcut]
  split
  case isTrue hmem => exact State.readBack_reset _ hmem
  case isFalse hmem =>
    rw [State.readBack_reset_of_not_mem gpioCfg _ hmem]
    exact State.readBack_congr (State.foldl_read_eeprom _)

theorem Written.congr {s s' : State} (hread : s.readBack b = s'.readBack b) :
    Written gpioCfg saved s b ↔ Written gpioCfg saved s' b := by
  rw [Written, Written, hread]

theorem Device.recovers_iff_marked :
    d.Recovers gpioCfg ↔ (d.Marked → ∀ b, Written gpioCfg d.saved (powerUp d.eeprom) b) := by
  constructor
  · exact fun h => h.marked
  · refine fun h => ⟨fun boot hboot b => ?_, h⟩
    by_cases hm : d.Marked
    · refine (Written.congr (State.readBack_congr ?_)).mpr (h hm b)
      rw [infoInit_of_marker hboot hm, State.assign_eeprom, State.foldl_read_eeprom]
    · exact .inl (infoInit_of_no_marker hboot hm)

theorem SetCall.run_eq : call.run s = (s.assign call.block call.value).program call.block := by
  cases call <;> rfl

theorem Written.run (h : ∀ b, Written gpioCfg saved s b) (call : SetCall) (b : Block) :
    Written gpioCfg (call.save saved) (call.run s) b := by
  rw [Written, SetCall.run_eq, SetCall.save]
  by_cases hb : b = call.block
  · subst hb
    right
    rw [State.readBack_program_self, State.assign_ram_self, Function.update_self]
    exact Set.mem_insert _ _
  · rw [State.readBack_program_of_ne hb, State.readBack_assign, Function.update_of_ne hb]
    exact h b

theorem Written.foldl_run (calls : List SetCall) (h : ∀ b, Written gpioCfg saved s b) :
    ∀ b, Written gpioCfg (calls.foldl SetCall.save saved) (calls.foldl SetCall.run s) b := by
  induction calls generalizing s saved with
  | nil => exact h
  | cons call calls ih => exact ih (Written.run h call)

-- ---------------------------------------------------------------------------
-- Power cycles
-- ---------------------------------------------------------------------------

/-- Past the first write the marker is there, so all blocks have to be written. -/
theorem Device.cut_recovers_iff (hboot : boot.Completes) (hm : ¬d.Marked) (hn : n ≠ 0) :
    (d.step gpioCfg (.cut boot n)).Recovers gpioCfg ↔
      ∀ b ∈ Block.order.drop n, Written gpioCfg d.saved (powerUp d.eeprom) b := by
  have hread : ∀ b, (powerUp (d.step gpioCfg (.cut boot n)).eeprom).readBack b =
      if b ∈ Block.order.take n then defaults gpioCfg b else (powerUp d.eeprom).readBack b :=
    fun b => readBack_infoInitCut hboot hm
  have hmarked : (d.step gpioCfg (.cut boot n)).Marked := by
    obtain ⟨m, rfl⟩ := Nat.exists_eq_succ_of_ne_zero hn
    have hmem : Block.data ∈ Block.order.take (m + 1) := List.mem_cons_self
    rw [Device.Marked, hread, if_pos hmem]
    rfl
  rw [Device.recovers_iff_marked, forall_prop_of_true hmarked]
  constructor
  · intro h b hb
    have hnot : b ∉ Block.order.take n :=
      List.disjoint_right.mp (List.disjoint_take_drop (by decide) le_rfl) hb
    refine (Written.congr ?_).mp (h b)
    rw [hread, if_neg hnot]
  · intro h b
    by_cases hb : b ∈ Block.order.take n
    · exact .inl (by rw [hread, if_pos hb])
    · have hdrop : b ∈ Block.order.drop n := by
        have hall := Block.mem_order b
        rw [← List.take_append_drop n Block.order, List.mem_append] at hall
        exact hall.resolve_left hb
      refine (Written.congr ?_).mpr (h b hdrop)
      rw [hread, if_neg hb]

theorem Device.Recovers.step_iff (h : d.Recovers gpioCfg) :
    (d.step gpioCfg cycle).Recovers gpioCfg ↔ d.Spared gpioCfg cycle := by
  cases cycle with
  | cut boot n =>
    by_cases hreset : boot.Completes ∧ ¬d.Marked
    · rw [Device.Spared, forall_prop_of_true hreset.1, forall_prop_of_true hreset.2]
      by_cases hn : n = 0
      · refine iff_of_true (Device.recovers_iff_marked.mpr fun hmarked => ?_) (.inl hn)
        refine absurd ?_ hreset.2
        rw [Device.Marked, ← hmarked, Device.step, readBack_infoInitCut hreset.1 hreset.2, hn]
        rfl
      · rw [Device.cut_recovers_iff hreset.1 hreset.2 hn, or_iff_right hn]
    · -- nothing is written
      have hsame : d.step gpioCfg (.cut boot n) = d := by
        rw [Device.step]
        by_cases hboot : boot.Completes
        · have hm : d.Marked := not_not.mp fun hm => hreset ⟨hboot, hm⟩
          rw [infoInitCut_of_marker hm]
          rfl
        · rw [infoInitCut_of_not_completes hboot]
          rfl
      exact iff_of_true (hsame.symm ▸ h) fun hboot hm => absurd ⟨hboot, hm⟩ hreset
  | up boot calls =>
    refine iff_of_true (Device.recovers_iff_marked.mpr fun _ b => ?_) trivial
    exact Written.foldl_run calls (h.completed boot boot.2) b

theorem unrecognised_recovers {eeprom : Memory UInt8} (hblank : ¬(unrecognised eeprom).Marked) :
    (unrecognised eeprom).Recovers gpioCfg :=
  Device.recovers_iff_marked.mpr fun hm => absurd hm hblank

/-- From an EEPROM without the marker on, over any power cycles, the next start
that completes leaves every block at its default or at a saved value, exactly
when every cut came before the first write or left out no block with other
content. -/
theorem recovers_iff (gpioCfg : UInt32) (eeprom : Memory UInt8)
    (hblank : ¬(unrecognised eeprom).Marked) (cycles : List Cycle) :
    Always (Device.step gpioCfg) (Device.Recovers gpioCfg) (unrecognised eeprom) cycles ↔
      Along (Device.step gpioCfg) (Device.Spared gpioCfg) (unrecognised eeprom) cycles :=
  always_iff_along_of_inv (I := fun _ => True) trivial (fun _ _ _ => trivial)
    (unrecognised_recovers hblank) fun _ _ _ h => h.step_iff

theorem blank_unmarked : ¬(unrecognised fun _ => 0xFF).Marked := by
  unfold Device.Marked
  decide +kernel

/-- Cuts before the first write and past the last one do no harm. -/
theorem recovers_spared :
    Always (Device.step 0) (Device.Recovers 0) (unrecognised fun _ => 0xFF)
      [.cut ⟨2, true⟩ 0, .cut ⟨0, false⟩ 3, .cut ⟨0, true⟩ 5] := by
  refine (recovers_iff 0 (fun _ => 0xFF) blank_unmarked _).mpr ⟨fun _ _ => .inl rfl, ?_, ?_, trivial⟩
  · exact fun hboot _ => absurd hboot.2 (by decide)
  · exact fun _ _ => .inr fun b hb => absurd hb List.not_mem_nil

/-- Power fails after the first write on a blank EEPROM: the next start takes the
other blocks for written. -/
theorem first_cut_leaves_block :
    ¬Always (Device.step 0) (Device.Recovers 0) (unrecognised fun _ => 0xFF)
      [.cut ⟨0, true⟩ 1] := by
  intro h
  have hrecovers := h [.cut ⟨0, true⟩ 1] (List.prefix_refl _)
  rcases hrecovers.completed ⟨0, true⟩ ⟨by decide, rfl⟩ .mac with hdefault | hsaved
  · revert hdefault
    decide +kernel
  · exact hsaved

end SystemMaster.Eeprom
