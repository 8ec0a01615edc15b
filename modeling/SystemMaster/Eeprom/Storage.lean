import SystemMaster.Eeprom.Layout
import SystemMaster.Library.Runs
import Mathlib.Logic.Function.Basic

/-!
# Saving and loading configuration

Every block has a copy in RAM. The setters change the copy and program its
bytes; `INFO_init` loads the copies at start and resets all blocks when the
marker of the first one is missing. `EEPROMProgram` and `EEPROMRead` write and
read exactly the bytes they are given.
-/

namespace SystemMaster.Eeprom

open Codec Runs

/-- The RAM copies `g_sEEPROM…` and the bytes of the EEPROM. -/
structure State where
  ram : (b : Block) → b.Value
  eeprom : Memory UInt8

namespace State

def assign (s : State) (b : Block) (v : b.Value) : State :=
  { s with ram := Function.update s.ram b v }

def program (s : State) (b : Block) : State :=
  { s with eeprom := b.codec.store s.eeprom b.address (s.ram b) }

def readBack (s : State) (b : Block) : b.Value := b.codec.load s.eeprom b.address

def read (s : State) (b : Block) : State := s.assign b (s.readBack b)

end State

def IpConfigData.terminate (v : IpConfigData) : IpConfigData :=
  { v with domain := v.domain.set 63 0 }

def infoSet (s : State) (info : EepromData) : State := (s.assign .data info).program .data

def eepDIOConfgSet (s : State) (info : DIOCfgData) : State := (s.assign .dio info).program .dio

def eepIpConfgSet (s : State) (info : IpConfigData) : State :=
  (s.assign .ip info.terminate).program .ip

def eepMACConfgSet (s : State) (info : MacConfigData) : State := (s.assign .mac info).program .mac

def eepDebugConfgSet (s : State) (info : DebugCfgData) : State :=
  (s.assign .debug info).program .debug

/-- What the hardware does at a start: how often the peripheral is found not
ready, and whether `EEPROMInit` succeeds. -/
structure Boot where
  notReady : Nat
  initOk : Bool

/-- The wait for the peripheral; the countdown it leaves is zero on a timeout. -/
def waitReady : Nat → Nat → Nat
  | 0, _ => 0
  | counter + 1, 0 => counter + 1
  | counter + 1, notReady + 1 => waitReady counter notReady

/-- `1e6`, less the one taken before the wait. -/
def readyTimeout : Nat := 1000000 - 1

def Boot.Completes (boot : Boot) : Prop :=
  waitReady readyTimeout boot.notReady ≠ 0 ∧ boot.initOk = true

def State.reset (gpioCfg : UInt32) (s : State) (blocks : List Block) : State :=
  blocks.foldl (fun s b => (s.assign b (defaults gpioCfg b)).program b) s

def infoInit (gpioCfg : UInt32) (boot : Boot) (s : State) : State :=
  if waitReady readyTimeout boot.notReady = 0 then s.assign .data defaultEepromData
  else if boot.initOk = false then s.assign .data defaultEepromData
  else
    let s := Block.order.foldl State.read s
    let s := if (s.ram .data : EepromData).eepromCheck ≠ eepromCheckMarker
      then s.reset gpioCfg Block.order else s
    s.assign .ip (s.ram .ip : IpConfigData).terminate

def powerUp (eeprom : Memory UInt8) : State where
  ram b := b.codec.decode (List.replicate b.codec.size 0)
  eeprom := eeprom

def reboot (gpioCfg : UInt32) (boot : Boot) (s : State) : State :=
  infoInit gpioCfg boot (powerUp s.eeprom)

def memTestValue : UInt32 := 0xA5A5A5A5

/-- `MemoryTestEEPROM`: the word is programmed and read again; the answer is
zero when it reads as written. -/
def memoryTestEEPROM (s : State) : State × UInt32 :=
  let s := { s with eeprom := u32.store s.eeprom memTestAddress memTestValue }
  (s, if u32.load s.eeprom memTestAddress ≠ memTestValue then 0x40 else 0)

-- ---------------------------------------------------------------------------
-- What each operation leaves in the EEPROM
-- ---------------------------------------------------------------------------

variable {s : State} {b b' : Block} {gpioCfg : UInt32} {boot : Boot}

@[simp] theorem State.assign_eeprom (v : b.Value) : (s.assign b v).eeprom = s.eeprom := rfl

@[simp] theorem State.assign_ram_self (v : b.Value) : (s.assign b v).ram b = v :=
  Function.update_self b v s.ram

theorem State.assign_ram_of_ne (v : b.Value) (h : b' ≠ b) : (s.assign b v).ram b' = s.ram b' :=
  Function.update_of_ne h v s.ram

@[simp] theorem State.program_ram : (s.program b).ram = s.ram := rfl

theorem State.readBack_congr {s s' : State} (h : s.eeprom = s'.eeprom) :
    s.readBack b = s'.readBack b := by
  rw [State.readBack, State.readBack, h]

@[simp] theorem State.readBack_assign (v : b.Value) : (s.assign b v).readBack b' = s.readBack b' :=
  rfl

@[simp] theorem State.readBack_program_self : (s.program b).readBack b = s.ram b := load_store

theorem State.readBack_program_of_ne (h : b' ≠ b) : (s.program b).readBack b' = s.readBack b' :=
  load_store_of_disjoint (Block.disjoint h)

theorem readBack_memoryTestEEPROM (h : b ≠ .dio) :
    (memoryTestEEPROM s).1.readBack b = s.readBack b :=
  load_store_of_disjoint (Block.disjoint_memTest h)

@[simp] theorem State.read_eeprom : (s.read b).eeprom = s.eeprom := rfl

def State.Holds (s : State) (b : Block) (v : b.Value) : Prop :=
  s.ram b = v ∧ s.eeprom.read b.address b.codec.size = b.codec.encode v

theorem State.save_eq_iff (v : b.Value) : (s.assign b v).program b = s ↔ s.Holds b v := by
  have hread : ((s.assign b v).program b).eeprom.read b.address b.codec.size =
      b.codec.encode v := by
    have h := Memory.read_write s.eeprom b.address (b.codec.encode v)
    rw [b.codec.encode_length] at h
    rw [← h, State.program, State.assign_ram_self]
    rfl
  constructor
  · intro h
    have hram := congrFun (congrArg State.ram h) b
    rw [State.program_ram, State.assign_ram_self] at hram
    rw [h] at hread
    exact ⟨hram.symm, hread⟩
  · rintro ⟨hram, heeprom⟩
    have hassign : s.assign b v = s := by rw [State.assign, ← hram, Function.update_eq_self]
    have hsame : s.eeprom = b.codec.store s.eeprom b.address v :=
      Memory.eq_write (by rw [b.codec.encode_length]; exact heeprom) fun _ _ => rfl
    rw [hassign, State.program, hram, ← hsame]

theorem State.foldl_read_eeprom (blocks : List Block) :
    (blocks.foldl State.read s).eeprom = s.eeprom := by
  induction blocks generalizing s with
  | nil => rfl
  | cons b blocks ih => rw [List.foldl_cons, ih, State.read_eeprom]

theorem State.foldl_read_ram (blocks : List Block) (h : b ∈ blocks) :
    (blocks.foldl State.read s).ram b = s.readBack b := by
  have hother : ∀ (s : State) (b' : Block), b' ≠ b → (s.read b').ram b = s.ram b :=
    fun s b' hne => State.assign_ram_of_ne _ hne.symm
  have hown : ∀ s' : State, s'.readBack b = s.readBack b → (s'.read b).ram b = s.readBack b := by
    intro s' hread
    rw [State.read, State.assign_ram_self, hread]
  exact exec_of_mem (I := fun s' : State => s'.readBack b = s.readBack b) (fun s => s.ram b) rfl
    (fun _ _ hread => hread) hother hown h

theorem Block.mem_order (b : Block) : b ∈ Block.order := by cases b <;> decide

theorem State.readBack_resetBlock_of_ne (h : b' ≠ b) :
    ((s.assign b' (defaults gpioCfg b')).program b').readBack b = s.readBack b := by
  rw [State.readBack_program_of_ne h.symm, State.readBack_assign]

theorem State.readBack_reset_of_not_mem (gpioCfg : UInt32) (blocks : List Block)
    (h : b ∉ blocks) :
    (s.reset gpioCfg blocks).readBack b = s.readBack b :=
  exec_of_notMem (fun s : State => s.readBack b)
    (fun _ _ hne => State.readBack_resetBlock_of_ne hne) h

theorem State.readBack_reset (blocks : List Block) (h : b ∈ blocks) :
    (s.reset gpioCfg blocks).readBack b = defaults gpioCfg b := by
  have hown : ∀ s : State, True →
      ((s.assign b (defaults gpioCfg b)).program b).readBack b = defaults gpioCfg b := by
    intro s _
    rw [State.readBack_program_self, State.assign_ram_self]
  exact exec_of_mem (fun s : State => s.readBack b) trivial (fun _ _ _ => trivial)
    (fun _ _ hne => State.readBack_resetBlock_of_ne hne) hown h

theorem State.reset_ram (gpioCfg : UInt32) (blocks : List Block) (h : b ∈ blocks) :
    (s.reset gpioCfg blocks).ram b = defaults gpioCfg b := by
  have hother : ∀ (s : State) (b' : Block), b' ≠ b →
      ((s.assign b' (defaults gpioCfg b')).program b').ram b = s.ram b := by
    intro s b' hne
    rw [State.program_ram, State.assign_ram_of_ne _ hne.symm]
  have hown : ∀ s : State, True →
      ((s.assign b (defaults gpioCfg b)).program b).ram b = defaults gpioCfg b := by
    intro s _
    rw [State.program_ram, State.assign_ram_self]
  exact exec_of_mem (fun s : State => s.ram b) trivial (fun _ _ _ => trivial) hother hown h

theorem infoInit_of_not_completes (h : ¬boot.Completes) :
    infoInit gpioCfg boot s = s.assign .data defaultEepromData := by
  rw [infoInit]
  by_cases hready : waitReady readyTimeout boot.notReady = 0
  · rw [if_pos hready]
  · rw [if_neg hready, if_pos (by simpa [Boot.Completes, hready] using h)]

theorem infoInit_of_marker (hboot : boot.Completes)
    (hm : (s.readBack .data : EepromData).eepromCheck = eepromCheckMarker) :
    infoInit gpioCfg boot s = (Block.order.foldl State.read s).assign .ip
      (s.readBack .ip : IpConfigData).terminate := by
  have hram : ∀ b, (Block.order.foldl State.read s).ram b = s.readBack b :=
    fun b => State.foldl_read_ram _ b.mem_order
  rw [infoInit, if_neg hboot.1, if_neg (by simp [hboot.2])]
  simp only [hram, hm, ne_eq, not_true_eq_false, if_false]

theorem infoInit_of_no_marker (hboot : boot.Completes)
    (hm : (s.readBack .data : EepromData).eepromCheck ≠ eepromCheckMarker) :
    (infoInit gpioCfg boot s).readBack b = defaults gpioCfg b := by
  have hram : (Block.order.foldl State.read s).ram .data = s.readBack .data :=
    State.foldl_read_ram _ (Block.mem_order .data)
  rw [infoInit, if_neg hboot.1, if_neg (by simp [hboot.2])]
  simp only [hram, ne_eq, hm, not_false_eq_true, if_true]
  exact State.readBack_reset _ b.mem_order

theorem infoInit_ram_of_no_marker (hboot : boot.Completes)
    (hm : (s.readBack .data : EepromData).eepromCheck ≠ eepromCheckMarker) (hb : b ≠ .ip) :
    (infoInit gpioCfg boot s).ram b = defaults gpioCfg b := by
  have hram : (Block.order.foldl State.read s).ram .data = s.readBack .data :=
    State.foldl_read_ram _ (Block.mem_order .data)
  rw [infoInit, if_neg hboot.1, if_neg (by simp [hboot.2])]
  simp only [hram, ne_eq, hm, not_false_eq_true, if_true]
  rw [State.assign_ram_of_ne _ hb, State.reset_ram gpioCfg _ b.mem_order]

theorem infoInit_ram (hboot : boot.Completes)
    (hm : (s.readBack .data : EepromData).eepromCheck = eepromCheckMarker) (hb : b ≠ .ip) :
    (infoInit gpioCfg boot s).ram b = s.readBack b := by
  rw [infoInit_of_marker hboot hm, State.assign_ram_of_ne _ hb,
    State.foldl_read_ram _ b.mem_order]

end SystemMaster.Eeprom
