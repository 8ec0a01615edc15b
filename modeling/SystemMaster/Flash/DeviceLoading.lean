import SystemMaster.Devices.Params
import SystemMaster.Flash.Storage
import SystemMaster.Library.Runs

/-!
# Loading the devices at a start

`xSFFS_readDevicesConfiguration` reads the record of each device file into one
buffer on the stack, fills one parameter block from it and adds the device. The
buffer and the block keep what the previous file left there.
-/

namespace SystemMaster.Flash

open Devices Runs Codec

/-- A file, with the bytes a failed read has stored before it failed, and the
block the heap gives for its hooks, or 0. -/
structure DeviceFile extends Dirent where
  content : Memory UInt8
  got : Nat
  pHooks : UInt32

/-- The words of `IFS_deviceInfoFile_t`, but for the pointer to the function table. -/
structure DeviceInfo where
  deviceID : UInt32
  deviceType : UInt32
  arg0 : UInt32
  arg1 : UInt32
  period : UInt32
  timeout : UInt32
  priority : UInt32
  stackSize : UInt32

def DeviceInfo.load (devInfo : Memory UInt8) : DeviceInfo where
  deviceID := u32.load devInfo 0
  deviceType := u32.load devInfo 4
  arg0 := u32.load devInfo 8
  arg1 := u32.load devInfo 12
  period := u32.load devInfo 16
  timeout := u32.load devInfo 20
  priority := u32.load devInfo 24
  stackSize := u32.load devInfo 28

/-- The locals of the loop, the blocks at each call of `xDevice_add`, and the
descriptors opened and closed. -/
structure Loader where
  devInfo : Memory UInt8
  blocks : Blocks
  retValue : Int
  added : List Blocks
  openedFds : List Int
  closedFds : List Int

/-- The `switch`: the block for the call of `xDevice_add`, when the type has one. -/
def paramsFor (b : Blocks) (pHooks : UInt32) (info : DeviceInfo) : DeviceType → Option Blocks
  | .altoAmp =>
    some { b with params := { altoAmpDeviceParamsInit b.params info.deviceID with
      arg0 := info.arg0 } }
  | .altoMultinet =>
    some { b with params := { altoMultinetDeviceParamsInit b.params info.deviceID with
      arg0 := info.arg0 } }
  | .altoForteManager => some (forteManagerDeviceParamsInit b pHooks info.deviceID info.arg0)
  | .tfUartTest =>
    let b := tfUartTestDeviceParamsInit b pHooks info.deviceID info.arg0
    let params := b.params
    some { b with params := { params with
      timeout := if info.timeout ≠ 0 then info.timeout else params.timeout } }
  | .dutUartTest =>
    let b := dutUartTestDeviceParamsInit b pHooks info.deviceID info.arg0
    let params := b.params
    some { b with params := { params with
      period := if info.period ≠ 0 then info.period else params.period
      timeout := if info.timeout ≠ 0 then info.timeout else params.timeout } }
  | .avds => some { b with params := avdsDeviceParamsInit b.params info.deviceID }
  | .avds485 =>
    some { b with params := { avds485DeviceParamsInit b.params info.deviceID with
      arg0 := info.arg0 } }
  | .rosen => some { b with params := rosenDeviceParamsInit b.params info.deviceID }
  | .rosen485 =>
    some { b with params := { rosen485DeviceParamsInit b.params info.deviceID with
      arg0 := info.arg0 } }
  | .test | .tcpRemoteControllerBinary | .tcpRemoteControllerAscii | .generic
  | .usbRemoteControlBinary | .usbRemoteControlConsole => none

namespace Loader

def readInfo (s : Loader) (f : DeviceFile) : Loader :=
  if f.read < 0 then
    { s with
      devInfo := s.devInfo.write 0 (f.content.read 0 (min f.got deviceInfoFileSize))
      retValue := -2 }
  else { s with devInfo := s.devInfo.write 0 (f.content.read 0 deviceInfoFileSize) }

def openFile (s : Loader) (f : DeviceFile) : Loader :=
  { s with openedFds := s.openedFds ++ [f.openFd] }

def closeFile (s : Loader) (f : DeviceFile) : Loader :=
  { s with
    closedFds := s.closedFds ++ [f.openFd]
    retValue := if f.close < 0 then -3 else s.retValue }

def addDevice (s : Loader) (pHooks : UInt32) : Loader :=
  let info := DeviceInfo.load s.devInfo
  match (DeviceType.ofWord info.deviceType).bind (paramsFor s.blocks pHooks info) with
  | some b => { s with blocks := b, added := s.added ++ [b] }
  | none => s

def turn (s : Loader) (f : DeviceFile) : Loader :=
  if f.isDevice then
    if f.openFd < 0 then { s with retValue := -1 }
    else ((s.openFile f).readInfo f |>.closeFile f).addDevice f.pHooks
  else s

end Loader

def readDevicesConfiguration (a : Answers) (files : List DeviceFile) (mounted : Bool)
    (s : Loader) : Bool × Loader :=
  match storageFFSMount a mounted with
  | (true, mounted) => ((storageFFSUnmount mounted).2, exec Loader.turn s files)
  | (false, mounted) => (mounted, s)

/-- The locals the loop starts with; record and block are as the stack has them. -/
def Loader.start (devInfo : Memory UInt8) (blocks : Blocks) : Loader where
  devInfo := devInfo
  blocks := blocks
  retValue := 0
  added := []
  openedFds := []
  closedFds := []

def listed (a : Answers) (mounted : Bool) (files : List DeviceFile) : List DeviceFile :=
  if (storageFFSMount a mounted).1 then files else []

-- ---------------------------------------------------------------------------
-- What is to be added
-- ---------------------------------------------------------------------------

def driver : DeviceType → Option FxnTable
  | .altoAmp => some .altoAmpDevice
  | .altoMultinet => some .altoMultinetDevice
  | .altoForteManager | .tfUartTest | .dutUartTest => some .geneticDevice
  | .avds => some .avdsDevice
  | .avds485 => some .avds485Device
  | .rosen => some .rosenDevice
  | .rosen485 => some .rosen485Device
  | _ => none

def defaults (type : DeviceType) : Settings :=
  match type with
  | .altoForteManager => ⟨100, 100, 7, 2048⟩
  | .tfUartTest | .dutUartTest => ⟨100, 100, 6, 2048⟩
  | _ => ((driver type).bind FxnTable.settings).getD ⟨100, 100, 2, 2048⟩

/-- A word of a record that is not zero is given; for the rest there is a default. -/
def provided (stored default : UInt32) : UInt32 := if stored ≠ 0 then stored else default

/-- The settings that the record of a device asks for. -/
def DeviceInfo.settings (info : DeviceInfo) (type : DeviceType) : Settings where
  clockPeriod := provided info.period (defaults type).clockPeriod
  clockTimeout := provided info.timeout (defaults type).clockTimeout
  priority := provided info.priority (defaults type).priority
  stackSize := provided info.stackSize (defaults type).stackSize

def hooksFor (ifIndex : UInt32) : DeviceType → Option HookParams
  | .altoForteManager => some (forteManagerDeviceHooks ifIndex)
  | .tfUartTest => some (tfUartTestDeviceHooks ifIndex)
  | .dutUartTest => some (dutUartTestDeviceHooks ifIndex)
  | _ => none

namespace DeviceFile

def info (f : DeviceFile) : DeviceInfo := .load f.content

def type (f : DeviceFile) : Option DeviceType := DeviceType.ofWord f.info.deviceType

def isOpened (f : DeviceFile) : Bool := f.isDevice && 0 ≤ f.openFd

/-- A device file of a type that is loaded, opened and read. -/
def loadable (f : DeviceFile) : Bool :=
  f.isOpened && 0 ≤ f.read && (f.type.bind driver).isSome

/-- The block has what the record gives, and the defaults of its type for the rest. A type
on the generic device has its hooks in `arg0` and its port, the record's `arg0`, in `arg1`. -/
@[mk_iff] structure Right (f : DeviceFile) (b : Blocks) : Prop where
  deviceType : f.type = some b.params.deviceType
  deviceID : b.params.deviceID = f.info.deviceID
  fxnTablePtr : driver b.params.deviceType = some b.params.fxnTablePtr
  args :
    match hooksFor f.info.arg0 b.params.deviceType with
    | some hooks =>
      f.pHooks ≠ 0 ∧ b.params.arg0 = f.pHooks ∧ b.hooks f.pHooks = hooks ∧
        b.params.arg1 = provided f.info.arg1 f.info.arg0
    | none => b.params.arg0 = f.info.arg0 ∧ b.params.arg1 = f.info.arg1
  settings : b.params.settings = f.info.settings b.params.deviceType

end DeviceFile

/-- One call for each file that is to be loaded, every descriptor closed, and the
file system unmounted. -/
structure Loaded (files : List DeviceFile) (r : Bool × Loader) : Prop where
  added : List.Forall₂ DeviceFile.Right (files.filter DeviceFile.loadable) r.2.added
  closed : r.2.closedFds = r.2.openedFds
  unmounted : r.1 = false

-- ---------------------------------------------------------------------------
-- What the files leave behind
-- ---------------------------------------------------------------------------

def DeviceFile.stored (f : DeviceFile) : Nat :=
  if f.isOpened then if f.read < 0 then min f.got deviceInfoFileSize else deviceInfoFileSize else 0

/-- The record after these files: each byte is from the last file that stored it. -/
def recordLeft (devInfo : Memory UInt8) (files : List DeviceFile) : Memory UInt8 := fun a =>
  match files.reverse.find? (a < ·.stored) with
  | some f => f.content a
  | none => devInfo a

/-- The settings of a test device, whose `Params_init` is the only one that sets them. -/
def DeviceFile.sets (f : DeviceFile) : Option Settings :=
  if f.loadable && f.pHooks ≠ 0 then
    match f.type with
    | some .tfUartTest => some (f.info.settings .tfUartTest)
    | some .dutUartTest => some (f.info.settings .dutUartTest)
    | _ => none
  else none

/-- The settings in the block after these files. -/
def settingsLeft (blocks : Blocks) (files : List DeviceFile) : Settings :=
  (files.filterMap DeviceFile.sets).getLastD blocks.params.settings

/-- A word that the loader does not look at asks for nothing else than the default. -/
def Unasked (stored default : UInt32) : Prop := stored = 0 ∨ stored = default

/-- What a type finds in the block, and in the words of its record that are not looked at.
A test device gets its hooks; a Forte manager is always added as `DEVICE_TYPE_GENERIC`. -/
def Suits (left : Settings) (f : DeviceFile) : DeviceType → Prop
  | .altoForteManager => False
  | .tfUartTest =>
    f.pHooks ≠ 0 ∧ Unasked f.info.arg1 f.info.arg0 ∧ Unasked f.info.period 100 ∧
      Unasked f.info.priority 6 ∧ Unasked f.info.stackSize 2048
  | .dutUartTest =>
    f.pHooks ≠ 0 ∧ Unasked f.info.arg1 f.info.arg0 ∧ Unasked f.info.priority 6 ∧
      Unasked f.info.stackSize 2048
  | .avds => f.info.arg0 = 0 ∧ f.info.arg1 = 0 ∧ left = f.info.settings .avds
  | .rosen => f.info.arg0 = 0 ∧ f.info.arg1 = 0 ∧ left = f.info.settings .rosen
  | t => f.info.arg1 = 0 ∧ left = f.info.settings t

/-- A failed read leaves no type in the record that is loaded, and a file that is read
finds what suits its type. -/
def Clean (record : Memory UInt8) (left : Settings) (f : DeviceFile) : Prop :=
  f.isOpened →
    if f.read < 0 then
      (DeviceType.ofWord (DeviceInfo.load record).deviceType).bind driver = none
    else ∀ t, f.type = some t → (driver t).isSome → Suits left f t

/-- `Clean` in the loop, for the record and the block as they are there. -/
def CleanTurn (s : Loader) (f : DeviceFile) : Prop :=
  Clean (s.readInfo f).devInfo s.blocks.params.settings f

variable {a : Answers} {s : Loader} {f : DeviceFile} {files : List DeviceFile} {t : DeviceType}
  {b : Blocks} {mounted : Bool}

-- ---------------------------------------------------------------------------
-- One turn
-- ---------------------------------------------------------------------------

def Loader.called (s : Loader) (f : DeviceFile) : Option Blocks :=
  let info := DeviceInfo.load (s.readInfo f).devInfo
  if f.isOpened then
    (DeviceType.ofWord info.deviceType).bind (paramsFor s.blocks f.pHooks info)
  else none

theorem Loader.addDevice_added (pHooks : UInt32) :
    (s.addDevice pHooks).added = s.added ++ ((DeviceType.ofWord
      (DeviceInfo.load s.devInfo).deviceType).bind
        (paramsFor s.blocks pHooks (DeviceInfo.load s.devInfo))).toList := by
  rw [addDevice]
  split
  case h_1 b hb => simp [hb]
  case h_2 hb => simp [hb]

theorem Loader.addDevice_blocks (pHooks : UInt32) :
    (s.addDevice pHooks).blocks = ((DeviceType.ofWord
      (DeviceInfo.load s.devInfo).deviceType).bind
        (paramsFor s.blocks pHooks (DeviceInfo.load s.devInfo))).getD s.blocks := by
  rw [addDevice]
  split
  case h_1 b hb => simp [hb]
  case h_2 hb => simp [hb]

theorem Loader.addDevice_rest (pHooks : UInt32) :
    (s.addDevice pHooks).devInfo = s.devInfo ∧ (s.addDevice pHooks).retValue = s.retValue ∧
      (s.addDevice pHooks).openedFds = s.openedFds ∧
      (s.addDevice pHooks).closedFds = s.closedFds := by
  rw [addDevice]
  split <;> exact ⟨rfl, rfl, rfl, rfl⟩

theorem Loader.addDevice_devInfo (pHooks : UInt32) : (s.addDevice pHooks).devInfo = s.devInfo :=
  (addDevice_rest pHooks).1

theorem Loader.turn_of_opened (h : f.isOpened) :
    s.turn f = ((s.openFile f).readInfo f |>.closeFile f).addDevice f.pHooks := by
  obtain ⟨hdevice, hfd⟩ : f.isDevice = true ∧ 0 ≤ f.openFd := by
    simpa [DeviceFile.isOpened] using h
  rw [turn, if_pos hdevice, if_neg (Int.not_lt.mpr hfd)]

theorem Loader.turn_of_not_opened (h : ¬f.isOpened) :
    (s.turn f).devInfo = s.devInfo ∧ (s.turn f).blocks = s.blocks := by
  rw [turn]
  split
  case isFalse => exact ⟨rfl, rfl⟩
  case isTrue hdevice =>
    have hfd : f.openFd < 0 := by
      by_contra hfd
      exact h (by simp [DeviceFile.isOpened, hdevice, Int.not_lt.mp hfd])
    rw [if_pos hfd]
    exact ⟨rfl, rfl⟩

theorem Loader.readInfo_blocks : (s.readInfo f).blocks = s.blocks := by
  rw [readInfo]
  split <;> rfl

theorem Loader.readInfo_added : (s.readInfo f).added = s.added := by
  rw [readInfo]
  split <;> rfl

theorem Loader.openFile_readInfo_devInfo :
    ((s.openFile f).readInfo f).devInfo = (s.readInfo f).devInfo := by
  rw [readInfo, readInfo]
  split <;> rfl

theorem Loader.turn_added : (s.turn f).added = s.added ++ (s.called f).toList := by
  rw [turn, called, DeviceFile.isOpened]
  by_cases hdevice : f.isDevice
  · by_cases hfd : f.openFd < 0
    · simp [hdevice, hfd]
    · rw [if_pos hdevice, if_neg hfd, addDevice_added]
      simp only [closeFile, openFile_readInfo_devInfo, readInfo_blocks, readInfo_added]
      simp [hdevice, Int.not_lt.mp hfd, openFile]
  · simp [hdevice]

theorem paramsFor_isSome {info : DeviceInfo} {pHooks : UInt32} :
    (paramsFor b pHooks info t).isSome = (driver t).isSome := by
  cases t <;> rfl

theorem called_isSome (h : f.isOpened) :
    (s.called f).isSome = ((DeviceType.ofWord
      (DeviceInfo.load (s.readInfo f).devInfo).deviceType).bind driver).isSome := by
  rw [Loader.called, if_pos h]
  cases DeviceType.ofWord (DeviceInfo.load (s.readInfo f).devInfo).deviceType with
  | none => rfl
  | some t => exact paramsFor_isSome

theorem called_eq_none (h : f.isOpened) :
    s.called f = none ↔ (DeviceType.ofWord
      (DeviceInfo.load (s.readInfo f).devInfo).deviceType).bind driver = none := by
  rw [← Option.not_isSome_iff_eq_none, called_isSome h, Option.not_isSome_iff_eq_none]

theorem load_readInfo (h : 0 ≤ f.read) : DeviceInfo.load (s.readInfo f).devInfo = f.info := by
  rw [Loader.readInfo, if_neg (Int.not_lt.mpr h)]
  simp [DeviceInfo.load, DeviceFile.info, Codec.load, Memory.read_write_read, deviceInfoFileSize,
    u32]

theorem called_of_read (hopened : f.isOpened) (hread : 0 ≤ f.read) :
    s.called f = f.type.bind (paramsFor s.blocks f.pHooks f.info) := by
  rw [Loader.called, if_pos hopened, load_readInfo hread, DeviceFile.type]

theorem called_eq_none_of_not_opened (h : ¬f.isOpened) : s.called f = none := if_neg h

theorem DeviceFile.Right.pHooks_ne_zero (h : f.Right b) (htype : f.type = some t)
    (hhooks : (hooksFor f.info.arg0 t).isSome) : f.pHooks ≠ 0 := by
  obtain rfl : t = b.params.deviceType := by simpa [htype] using h.deviceType
  obtain ⟨hooks, hhooks⟩ := Option.isSome_iff_exists.mp hhooks
  have hargs := h.args
  rw [hhooks] at hargs
  exact hargs.1

theorem provided_eq_default {stored default : UInt32} :
    default = provided stored default ↔ Unasked stored default := by
  rw [provided, Unasked]
  by_cases h : stored = 0
  · simp [h]
  · simp [h, eq_comm]

/-- The block of a call is right when the one before it suited. -/
theorem right_paramsFor_iff (htype : f.type = some t)
    (hb : paramsFor s.blocks f.pHooks f.info t = some b) :
    f.Right b ↔ Suits s.blocks.params.settings f t := by
  cases t <;> simp only [paramsFor, Option.some.injEq, reduceCtorEq] at hb <;> subst hb
  case altoForteManager =>
    refine iff_of_false (fun h => ?_) id
    have hp := h.pHooks_ne_zero htype rfl
    have hforte := h.deviceType
    rw [htype, forteManagerDeviceParamsInit, Blocks.init, if_pos hp] at hforte
    exact absurd hforte (by simp [geneticDeviceParamsInit])
  case tfUartTest =>
    by_cases hp : f.pHooks = 0
    · exact iff_of_false (fun h => h.pHooks_ne_zero htype rfl hp) fun h => h.1 hp
    · rw [DeviceFile.right_iff, htype]
      simp [hp, tfUartTestDeviceParamsInit, Blocks.init, geneticDeviceParamsInit, driver, hooksFor,
        DeviceInfo.settings, DeviceParams.settings, defaults, Suits, provided_eq_default]
      simp [provided]
  case dutUartTest =>
    by_cases hp : f.pHooks = 0
    · exact iff_of_false (fun h => h.pHooks_ne_zero htype rfl hp) fun h => h.1 hp
    · rw [DeviceFile.right_iff, htype]
      simp [hp, dutUartTestDeviceParamsInit, Blocks.init, geneticDeviceParamsInit, driver, hooksFor,
        DeviceInfo.settings, DeviceParams.settings, defaults, Suits, provided_eq_default]
      simp [provided]
  all_goals
    rw [DeviceFile.right_iff, htype]
    simp [Suits, DeviceParams.init, driver, hooksFor, DeviceParams.settings,
      altoAmpDeviceParamsInit, altoMultinetDeviceParamsInit, avdsDeviceParamsInit,
      avds485DeviceParamsInit, rosenDeviceParamsInit, rosen485DeviceParamsInit, eq_comm, and_assoc]

theorem loadable_iff :
    f.loadable ↔ f.isOpened ∧ 0 ≤ f.read ∧ ∃ t, f.type = some t ∧ (driver t).isSome := by
  cases htype : f.type <;> simp [DeviceFile.loadable, htype, and_assoc]

theorem Loader.called_of_loadable (h : f.loadable) : (s.called f).isSome := by
  obtain ⟨hopened, hread, t, htype, hdriver⟩ := loadable_iff.mp h
  rw [called_isSome hopened, load_readInfo hread]
  rw [DeviceFile.type] at htype
  simpa [htype] using hdriver

theorem Loader.exec_added : ∃ cs, (exec Loader.turn s files).added = s.added ++ cs := by
  induction files generalizing s with
  | nil => exact ⟨[], (List.append_nil _).symm⟩
  | cons f files ih =>
    obtain ⟨cs, hcs⟩ := ih (s := s.turn f)
    exact ⟨(s.called f).toList ++ cs, by rw [exec_cons, hcs, turn_added, List.append_assoc]⟩

theorem length_filter_le_added :
    s.added.length + (files.filter DeviceFile.loadable).length ≤
      (exec Loader.turn s files).added.length := by
  induction files generalizing s with
  | nil => simp
  | cons f files ih =>
    refine Nat.le_trans ?_ (ih (s := s.turn f))
    rw [Loader.turn_added]
    by_cases hf : f.loadable
    · obtain ⟨b, hb⟩ := Option.isSome_iff_exists.mp (Loader.called_of_loadable (s := s) hf)
      simp [hf, hb]
      omega
    · simp [hf]

theorem clean_iff_of_not_loadable (h : ¬f.loadable) : CleanTurn s f ↔ s.called f = none := by
  by_cases hopened : f.isOpened
  · rw [CleanTurn, Clean, forall_prop_of_true hopened, called_eq_none hopened]
    by_cases hread : f.read < 0
    · rw [if_pos hread]
    · have hread : 0 ≤ f.read := Int.not_lt.mp hread
      have hdriver : ∀ t, f.type = some t → ¬(driver t).isSome := fun t htype ht =>
        h (loadable_iff.mpr ⟨hopened, hread, t, htype, ht⟩)
      rw [if_neg (Int.not_lt.mpr hread), load_readInfo hread]
      refine iff_of_true (fun t htype ht => absurd ht (hdriver t htype)) ?_
      rw [← DeviceFile.type]
      cases htype : f.type with
      | none => rfl
      | some t => exact Option.not_isSome_iff_eq_none.mp (hdriver t htype)
  · exact iff_of_true (fun h => absurd h hopened) (called_eq_none_of_not_opened hopened)

theorem clean_iff_of_loadable (h : f.loadable) (hb : s.called f = some b) :
    CleanTurn s f ↔ f.Right b := by
  obtain ⟨hopened, hread, t, htype, hdriver⟩ := loadable_iff.mp h
  rw [called_of_read hopened hread, htype, Option.bind_some] at hb
  rw [CleanTurn, Clean, forall_prop_of_true hopened, if_neg (Int.not_lt.mpr hread), right_paramsFor_iff htype hb]
  constructor
  · exact fun h => h t htype hdriver
  · intro h t' htype'
    obtain rfl : t = t' := by simpa [htype] using htype'
    exact fun _ => h

/-- A call too many is never made up for, so that each turn has to be clean. -/
theorem forall₂_added_iff {bs : List Blocks}
    (hbs : (exec Loader.turn s files).added = s.added ++ bs) :
    List.Forall₂ DeviceFile.Right (files.filter DeviceFile.loadable) bs ↔
      Along Loader.turn CleanTurn s files := by
  induction files generalizing s bs with
  | nil =>
    obtain rfl : bs = [] := by simpa using hbs
    exact iff_of_true .nil trivial
  | cons f files ih =>
    obtain ⟨cs, hcs⟩ : ∃ cs, (exec Loader.turn (s.turn f) files).added =
      (s.turn f).added ++ cs := Loader.exec_added
    have hlength : (s.turn f).added.length + (files.filter DeviceFile.loadable).length ≤
      (exec Loader.turn (s.turn f) files).added.length := length_filter_le_added
    rw [hcs, List.length_append] at hlength
    rw [exec_cons, hcs, Loader.turn_added, List.append_assoc, List.append_cancel_left_eq] at hbs
    subst hbs
    rw [Along, ← ih hcs]
    by_cases hf : f.loadable
    · obtain ⟨b, hb⟩ := Option.isSome_iff_exists.mp (Loader.called_of_loadable (s := s) hf)
      rw [clean_iff_of_loadable hf hb]
      simp [hf, hb]
    · rw [clean_iff_of_not_loadable hf]
      cases hb : s.called f with
      | none => simp [hf]
      | some b =>
        refine iff_of_false (fun h => ?_) (fun h => absurd h.1 (by simp))
        have hsame := h.length_eq
        simp only [List.filter_cons, hf, Bool.false_eq_true, if_false, Option.toList_some,
          List.cons_append, List.nil_append, List.length_cons] at hsame
        omega

theorem Loader.turn_fds (h : s.closedFds = s.openedFds) :
    (s.turn f).closedFds = (s.turn f).openedFds := by
  rw [turn]
  split
  case isFalse => exact h
  case isTrue =>
    split
    case isTrue => exact h
    case isFalse =>
      obtain ⟨-, -, hopened, hclosed⟩ :=
        addDevice_rest (s := ((s.openFile f).readInfo f).closeFile f) f.pHooks
      rw [hopened, hclosed]
      simp only [closeFile, readInfo]
      split <;> simp [openFile, h]

theorem Loader.exec_fds (h : s.closedFds = s.openedFds) :
    (exec Loader.turn s files).closedFds = (exec Loader.turn s files).openedFds :=
  exec_inv (I := fun s : Loader => s.closedFds = s.openedFds) h fun _ _ => turn_fds

theorem readDevicesConfiguration_eq :
    readDevicesConfiguration a files mounted s = (false, exec Loader.turn s (listed a mounted files)) := by
  rw [readDevicesConfiguration, listed]
  cases hm : storageFFSMount a mounted with
  | mk ok m =>
    cases ok with
    | true =>
      have hunmount : (storageFFSUnmount m).2 = false := by cases m <;> rfl
      simp [hunmount]
    | false =>
      -- a mount that fails leaves the flag, which was not set
      have hflag : m = false := by
        revert hm
        rw [storageFFSMount]
        split
        · simp
        · split
          · simp
          · split
            · split <;> simp +contextual
            · simp +contextual
      simp [hflag]

theorem Loader.turn_retValue : (s.turn f).retValue = readDeviceFile s.retValue f.toDirent := by
  rw [turn, readDeviceFile]
  split
  case isFalse => rfl
  case isTrue =>
    split
    case isTrue => rfl
    case isFalse =>
      rw [(addDevice_rest f.pHooks).2.1]
      by_cases hread : f.read < 0 <;> simp [closeFile, readInfo, hread]
      rfl

theorem Loader.exec_retValue :
    (exec Loader.turn s files).retValue =
      (files.map DeviceFile.toDirent).foldl readDeviceFile s.retValue := by
  induction files generalizing s with
  | nil => rfl
  | cons f files ih => rw [exec_cons, ih, turn_retValue, List.map_cons, List.foldl_cons]

theorem readDevicesConfiguration_access (hfiles : a.dirents = files.map DeviceFile.toDirent)
    (hret : s.retValue = 0) :
    Op.readDevicesConfiguration.access a mounted =
      some ((readDevicesConfiguration a files mounted s).1,
        .value (readDevicesConfiguration a files mounted s).2.retValue) := by
  rw [Op.access, withMount, readDevicesConfiguration]
  cases storageFFSMount a mounted with
  | mk ok m =>
    cases ok with
    | true => simp [readDevices, hfiles, Loader.exec_retValue, hret]
    | false => simp [hret]

-- ---------------------------------------------------------------------------
-- The record and the block in terms of the files
-- ---------------------------------------------------------------------------

theorem Loader.turn_devInfo (a : Nat) :
    (s.turn f).devInfo a = if a < f.stored then f.content a else s.devInfo a := by
  rw [DeviceFile.stored]
  by_cases hopened : f.isOpened
  · rw [turn_of_opened hopened, addDevice_devInfo, if_pos hopened]
    have hclose : (((s.openFile f).readInfo f).closeFile f).devInfo = (s.readInfo f).devInfo :=
      openFile_readInfo_devInfo
    rw [hclose, readInfo]
    split <;> simp only [Memory.write_read, Nat.zero_le, true_and, Nat.zero_add]
  · rw [if_neg hopened, if_neg (Nat.not_lt_zero a), (turn_of_not_opened hopened).1]

theorem recordLeft_concat {devInfo : Memory UInt8} (a : Nat) :
    recordLeft devInfo (files ++ [f]) a =
      if a < f.stored then f.content a else recordLeft devInfo files a := by
  rw [recordLeft, recordLeft, List.reverse_append, List.reverse_singleton, List.singleton_append,
    List.find?_cons]
  by_cases h : a < f.stored <;> simp [h]

theorem exec_devInfo {devInfo : Memory UInt8} {blocks : Blocks} :
    (exec Loader.turn (.start devInfo blocks) files).devInfo = recordLeft devInfo files := by
  induction files using List.reverseRecOn with
  | nil => rfl
  | append_singleton files f ih =>
    funext a
    rw [exec_concat, Loader.turn_devInfo, recordLeft_concat, ih]

theorem readInfo_exec {devInfo : Memory UInt8} {blocks : Blocks} (h : f.isOpened) :
    ((exec Loader.turn (.start devInfo blocks) files).readInfo f).devInfo =
      recordLeft devInfo (files ++ [f]) := by
  have hafter : (exec Loader.turn (.start devInfo blocks) (files ++ [f])).devInfo =
      recordLeft devInfo (files ++ [f]) := exec_devInfo
  rw [← hafter, exec_concat, Loader.turn_of_opened h,
    Loader.addDevice_devInfo]
  exact Loader.openFile_readInfo_devInfo.symm

theorem Loader.turn_blocks : (s.turn f).blocks = (s.called f).getD s.blocks := by
  by_cases hopened : f.isOpened
  · rw [turn_of_opened hopened, addDevice_blocks, called, if_pos hopened]
    simp only [closeFile, openFile_readInfo_devInfo, readInfo_blocks]
    rfl
  · rw [(turn_of_not_opened hopened).2, called_eq_none_of_not_opened hopened]
    rfl

theorem paramsFor_settings (htype : f.type = some t) (hloadable : f.loadable)
    (hb : paramsFor s.blocks f.pHooks f.info t = some b) (hright : f.Right b) :
    b.params.settings = f.sets.getD s.blocks.params.settings := by
  have hsuits := (right_paramsFor_iff htype hb).mp hright
  have hsettings := hright.settings
  rw [← Option.some.inj (htype.symm.trans hright.deviceType)] at hsettings
  rw [DeviceFile.sets, htype]
  cases t with
  | tfUartTest | dutUartTest => simp [hloadable, hsuits.1, hsettings]
  | altoForteManager => exact hsuits.elim
  | altoAmp | altoMultinet | avds | avds485 | rosen | rosen485 =>
    simp only [paramsFor, Option.some.injEq] at hb
    subst hb
    simp [DeviceParams.settings, altoAmpDeviceParamsInit, altoMultinetDeviceParamsInit,
      avdsDeviceParamsInit, avds485DeviceParamsInit, rosenDeviceParamsInit,
      rosen485DeviceParamsInit, DeviceParams.init]
  | _ => cases hb

theorem CleanTurn.settings (h : CleanTurn s f) :
    (s.turn f).blocks.params.settings = f.sets.getD s.blocks.params.settings := by
  rw [Loader.turn_blocks]
  by_cases hf : f.loadable
  · obtain ⟨b, hb⟩ := Option.isSome_iff_exists.mp (Loader.called_of_loadable (s := s) hf)
    have hright := (clean_iff_of_loadable hf hb).mp h
    obtain ⟨hopened, hread, t, htype, _⟩ := loadable_iff.mp hf
    rw [hb, Option.getD_some]
    rw [called_of_read hopened hread, htype, Option.bind_some] at hb
    exact paramsFor_settings htype hf hb hright
  · rw [(clean_iff_of_not_loadable hf).mp h, DeviceFile.sets]
    simp [hf]

theorem exec_settings {devInfo : Memory UInt8} {blocks : Blocks}
    (h : Along Loader.turn CleanTurn (.start devInfo blocks) files) :
    (exec Loader.turn (.start devInfo blocks) files).blocks.params.settings =
      settingsLeft blocks files := by
  induction files using List.reverseRecOn with
  | nil => rfl
  | append_singleton files f ih =>
    obtain ⟨hfiles, hturn⟩ := along_concat.mp h
    rw [exec_concat, hturn.settings, ih hfiles, settingsLeft, settingsLeft, List.filterMap_append]
    cases hsets : f.sets <;> simp [hsets]

/-- Every turn is clean exactly when every file is after those in front of it. -/
theorem along_cleanTurn_iff {devInfo : Memory UInt8} {blocks : Blocks} :
    Along Loader.turn CleanTurn (.start devInfo blocks) files ↔
      ∀ before f, before ++ [f] <+: files →
        Clean (recordLeft devInfo (before ++ [f])) (settingsLeft blocks before) f := by
  induction files using List.reverseRecOn with
  | nil => exact iff_of_true trivial fun before f h => absurd h (by simp)
  | append_singleton files g ih =>
    rw [along_concat]
    have hlast (h : Along Loader.turn CleanTurn (.start devInfo blocks) files) :
        CleanTurn (exec Loader.turn (.start devInfo blocks) files) g ↔
          Clean (recordLeft devInfo (files ++ [g])) (settingsLeft blocks files) g := by
      rw [CleanTurn, Clean, Clean, exec_settings h]
      refine forall_congr' fun hopened => ?_
      rw [readInfo_exec hopened]
    constructor
    · rintro ⟨hfiles, hturn⟩ before f hbefore
      rcases List.prefix_concat_iff.mp hbefore with heq | hshorter
      · obtain ⟨rfl, rfl⟩ := List.append_singleton_inj.mp heq
        exact (hlast hfiles).mp hturn
      · exact ih.mp hfiles before f hshorter
    · intro h
      have hfiles := ih.mpr fun before f hbefore => h before f (hbefore.trans (List.prefix_append ..))
      exact ⟨hfiles, (hlast hfiles).mpr (h files g (List.prefix_refl _))⟩

/-- Each device is loaded once and from its own file exactly when every file of the
directory is clean after those in front of it. -/
theorem readDevicesConfiguration_loads_iff (a : Answers) (mounted : Bool) (files : List DeviceFile)
    (devInfo : Memory UInt8) (blocks : Blocks) :
    Loaded (listed a mounted files)
        (readDevicesConfiguration a files mounted (.start devInfo blocks)) ↔
      ∀ before f, before ++ [f] <+: listed a mounted files →
        Clean (recordLeft devInfo (before ++ [f])) (settingsLeft blocks before) f := by
  rw [readDevicesConfiguration_eq, ← along_cleanTurn_iff]
  constructor
  · exact fun h => (forall₂_added_iff (List.nil_append _).symm).mp h.added
  · intro h
    exact ⟨(forall₂_added_iff (List.nil_append _).symm).mpr h, Loader.exec_fds rfl, rfl⟩

def dutFile (read : Int) : DeviceFile where
  name := devicesFolderName
  size := 100
  openFd := 1
  read := read
  close := 0
  content a := if a = 4 then 9 else 0
  got := 0
  pHooks := 0x20001000

def uninitBlocks : Blocks where
  params := { geneticDeviceParamsInit 0 0 with fxnTablePtr := .avdsDevice }
  hooks _ := geneticDeviceHooksInit

/-- A read that fails adds the previous device once more. -/
theorem failed_read_adds_previous :
    ¬∀ (a : Answers) (mounted : Bool) (files : List DeviceFile) (devInfo : Memory UInt8)
      (blocks : Blocks),
        Loaded (listed a mounted files)
          (readDevicesConfiguration a files mounted (.start devInfo blocks)) := by
  intro h
  let a : Answers := ⟨0, false, 0, 0, 0, 0, 0, false, [], [], [], 0⟩
  have hlength := (h a true [dutFile 100, dutFile (-10001)] (fun _ => 0) uninitBlocks).added.length_eq
  rw [readDevicesConfiguration_eq] at hlength
  revert hlength
  decide

end SystemMaster.Flash
