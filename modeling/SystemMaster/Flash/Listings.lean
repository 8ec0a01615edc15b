import SystemMaster.Dio.Commands
import SystemMaster.Flash.Storage
import SystemMaster.Library.Runs

/-!
# Listings of the device files

`vSFFS_getFlashDeviceListEthernet` and `vSFFS_getFlashConfigurationFileEthernet`
count the device files in one pass over the directory, and in a second pass fill
one record for each into the buffer they send. The count is not taken back when a
file of the second pass cannot be opened, read or closed.
-/

namespace SystemMaster.Flash

open Runs Codec Eeprom

/-- What the header of SPIFFS fixes: the length of a name, within a page and of whole
words, so that records have no padding. -/
structure SpiffsConfig where
  objNameLen : Nat
  words : 4 ∣ objNameLen
  page : objNameLen ≤ 0x1000

structure ListedFile (cfg : SpiffsConfig) extends Dirent where
  content : Memory UInt8
  got : Nat
  name_length : name.length = cfg.objNameLen

/-- What both passes read; object ids have 16 bits. -/
structure Directory (cfg : SpiffsConfig) where
  files : List (ListedFile cfg)
  ids : files.length < 2 ^ 16

/-- The heap by addresses, `pDeviceListElem`, `pDevInfo` and `devInfo`, and the
descriptors opened and closed. -/
structure Filling where
  mem : Memory UInt8
  deviceListElem : Nat
  devInfoPtr : Nat
  devInfo : Memory UInt8
  openedFds : List Int
  closedFds : List Int

structure Uninit where
  mem : Memory UInt8
  devInfoPtr : Nat
  devInfo : Memory UInt8

/-- What the two operations differ in: the command they answer, what stands before
the count, and a record. -/
structure Listing (cfg : SpiffsConfig) where
  command : UInt32
  fixedSize : Nat
  fixed : Memory UInt8 → Nat → Memory UInt8
  recordSize : Nat
  fill : Filling → ListedFile cfg → Filling
  next : Filling → Nat

structure Response where
  pBuffer : Nat
  bufferSize : Nat
  filling : Filling

def Response.sent (r : Response) : List UInt8 := r.filling.mem.read r.pBuffer r.bufferSize

def retFrameSize : Nat := 12

def tcprcbinDeviceID : UInt32 := 2

def discreteIOClassReturnUUID : UInt16 := 4

def retFrame (command : UInt32) : List UInt8 :=
  u32.encode (command ||| 0x80000000) ++ u32.encode tcprcbinDeviceID ++
    u16.encode discreteIOClassReturnUUID ++ u16.encode 4

variable {cfg : SpiffsConfig}

def Directory.counter (dir : Directory cfg) : Nat :=
  dir.files.countP fun f => f.isDevice

namespace Filling

def visit (fill : Filling → ListedFile cfg → Filling) (s : Filling) (f : ListedFile cfg) :
    Filling :=
  if 0 ≤ f.openFd then
    let s := { s with openedFds := s.openedFds ++ [f.openFd] }
    if 0 ≤ f.read then
      let s := { s with devInfo := s.devInfo.write 0 (f.content.read 0 deviceInfoFileSize) }
      if f.close = 0 then fill { s with closedFds := s.closedFds ++ [f.openFd] } f
      else s
    else
      -- the descriptor stays open
      { s with devInfo := s.devInfo.write 0 (f.content.read 0 (min f.got deviceInfoFileSize)) }
  else s

def turn (k : Listing cfg) (s : Filling) (f : ListedFile cfg) : Filling :=
  if f.isDevice then
    let s := visit k.fill s f
    { s with deviceListElem := k.next s }
  else s

end Filling

/-- Both operations with the file system mounted; `pBuffer` is what `Memory_alloc` gives. -/
def Listing.respond (k : Listing cfg) (dir : Directory cfg) (u : Uninit) (pBuffer : Option Nat) :
    Option Response :=
  pBuffer.map fun p =>
    let mem := k.fixed (u.mem.write p (retFrame k.command)) (p + retFrameSize)
    let payload := p + retFrameSize + k.fixedSize
    { pBuffer := p
      bufferSize := (retFrameSize + k.fixedSize + 4 + dir.counter * k.recordSize) % 2 ^ 32
      filling := exec (Filling.turn k)
        { mem := u32.store mem payload (UInt32.ofNat dir.counter)
          deviceListElem := payload + 4
          devInfoPtr := u.devInfoPtr
          devInfo := u.devInfo
          openedFds := []
          closedFds := [] } dir.files }

def Listing.send (k : Listing cfg) (a : Answers) (mounted : Bool) (dir : Directory cfg) (u : Uninit)
    (pBuffer : Option Nat) : Option Response :=
  if (storageFFSMount a mounted).1 then k.respond dir u pBuffer else none

-- ---------------------------------------------------------------------------
-- The operations
-- ---------------------------------------------------------------------------

/-- The offset of the description in `IFS_deviceInfoFile_t`. -/
def descriptionOffset : Nat := 9 * 4

def fileDescriptionLength : Nat := 64

def fillDevicesList (s : Filling) (f : ListedFile cfg) : Filling :=
  let mem := u32.store s.mem s.deviceListElem (u32.load s.devInfo 0)
  let mem := u32.store mem (s.deviceListElem + 4) (u32.load s.devInfo 4)
  let mem := mem.write (s.deviceListElem + 8) f.name
  { s with
    mem := mem.write (s.deviceListElem + 8 + cfg.objNameLen)
      (s.devInfo.read descriptionOffset fileDescriptionLength) }

def deviceList (cfg : SpiffsConfig) : Listing cfg where
  command := 207
  fixedSize := 0
  fixed mem _ := mem
  recordSize := 8 + cfg.objNameLen + fileDescriptionLength
  fill := fillDevicesList
  next s := s.deviceListElem + (8 + cfg.objNameLen + fileDescriptionLength)

def getFlashDeviceListEthernet (a : Answers) (mounted : Bool) (dir : Directory cfg) (u : Uninit)
    (pBuffer : Option Nat) : Option Response :=
  (deviceList cfg).send a mounted dir u pBuffer

def fillFlashFileData (s : Filling) (f : ListedFile cfg) : Filling :=
  let mem := u32.store s.mem s.deviceListElem (UInt32.ofNat f.size)
  let mem := mem.write (s.deviceListElem + 4) f.name
  let pDevInfo := s.deviceListElem + 4 + cfg.objNameLen
  let mem := mem.write (pDevInfo + descriptionOffset)
    (s.devInfo.read descriptionOffset fileDescriptionLength)
  { s with mem := mem.write pDevInfo (s.devInfo.read 0 descriptionOffset), devInfoPtr := pDevInfo }

def boolByte (b : Bool) : UInt8 := if b then 1 else 0

/-- `TCPBin_CMD_DIOConfig_payload_t`, as far as it is filled. -/
def gpioConfig (g : Dio.GpioCfg) (info : DIOCfgData) (l : Dio.Live) (i : Fin 6) : List UInt8 :=
  let type := info.dioCfg.get i &&& g.ioMask &&& Dio.directionMask
  u32.encode (UInt32.ofNat i) ++ u32.encode (info.dioCfg.get i) ++
    if type ∈ g.inTypes then
      let di := l.diTbl (.gpi i)
      u32.encode di.diVal ++ u32.encode di.diDebounceDly ++ u32.encode di.diRptStartDly ++
        u32.encode di.diRptDly ++
          [boolByte di.diIn, boolByte di.diBypassEn, di.diModeSel, boolByte di.diDebounceEn]
    else if type ∈ g.outTypes then
      let d := l.doTbl (.gpo i)
      u32.encode d.doA ++ u32.encode d.doB ++ u32.encode d.doBCtr ++ u32.encode l.doSyncCtrMax ++
        [boolByte d.doOut, boolByte d.doCtrl, boolByte d.doBypass, boolByte d.doBypassEn,
          d.doModeSel, d.doBlinkEnSel, boolByte d.doInv]
    else []

def dioConfigSize : Nat := 32

def configurationFile (cfg : SpiffsConfig) (g : Dio.GpioCfg) (info : DIOCfgData) (l : Dio.Live) :
    Listing cfg where
  command := 219
  fixedSize := 6 * dioConfigSize
  fixed mem payload :=
    (List.finRange 6).foldl
      (fun mem (i : Fin 6) => mem.write (payload + i * dioConfigSize) (gpioConfig g info l i)) mem
  recordSize := 4 + cfg.objNameLen + deviceInfoFileSize
  fill := fillFlashFileData
  next s := s.devInfoPtr + deviceInfoFileSize

def getFlashConfigurationFileEthernet (g : Dio.GpioCfg) (info : DIOCfgData) (l : Dio.Live)
    (a : Answers) (mounted : Bool) (dir : Directory cfg) (u : Uninit) (pBuffer : Option Nat) :
    Option Response :=
  (configurationFile cfg g info l).send a mounted dir u pBuffer

-- ---------------------------------------------------------------------------
-- What a response is to hold
-- ---------------------------------------------------------------------------

namespace ListedFile

def isOpened (f : ListedFile cfg) : Bool := f.isDevice && 0 ≤ f.openFd

def wasRead (f : ListedFile cfg) : Bool := f.isOpened && 0 ≤ f.read

def isClosed (f : ListedFile cfg) : Bool := f.wasRead && f.close = 0

def devicesListRecord (f : ListedFile cfg) : List UInt8 :=
  f.content.read 0 8 ++ f.name ++ f.content.read descriptionOffset fileDescriptionLength

def flashFileDataRecord (f : ListedFile cfg) : List UInt8 :=
  u32.encode (UInt32.ofNat f.size) ++ f.name ++ f.content.read 0 deviceInfoFileSize

end ListedFile

/-- The response is the frame, the fixed part, the count and as many records, one for
each file read; it lies in its buffer, and every descriptor is closed. -/
structure WellFormed (k : Listing cfg) (record : ListedFile cfg → List UInt8) (dir : Directory cfg)
    (u : Uninit) (r : Response) : Prop where
  sent : ∃ fixed : List UInt8, fixed.length = k.fixedSize ∧
    r.sent = retFrame k.command ++ fixed ++
      u32.encode (UInt32.ofNat (dir.files.filter ListedFile.wasRead).length) ++
        (dir.files.filter ListedFile.wasRead).flatMap record
  contained : ∀ addr, addr < r.pBuffer ∨ r.pBuffer + r.bufferSize ≤ addr →
    r.filling.mem addr = u.mem addr
  closed : r.filling.closedFds = r.filling.openedFds

/-- The records of a listing: what `fill` writes, and where the next one goes. -/
structure Listing.Lawful (k : Listing cfg) (record : ListedFile cfg → List UInt8) : Prop where
  record_length : ∀ f, (record f).length = k.recordSize
  recordSize_pos : 0 < k.recordSize
  recordSize_le : k.recordSize ≤ 0x2000
  fixedSize_le : k.fixedSize ≤ 0x1000
  fixed_of_lt : ∀ mem off addr, addr < off → k.fixed mem off addr = mem addr
  fixed_of_ge : ∀ mem off addr, off + k.fixedSize ≤ addr → k.fixed mem off addr = mem addr
  fill_mem : ∀ s f, s.devInfo.read 0 deviceInfoFileSize = f.content.read 0 deviceInfoFileSize →
    (k.fill s f).mem = s.mem.write s.deviceListElem (record f)
  next_fill : ∀ s f, k.next (k.fill s f) = s.deviceListElem + k.recordSize
  fill_openedFds : ∀ s f, (k.fill s f).openedFds = s.openedFds
  fill_closedFds : ∀ s f, (k.fill s f).closedFds = s.closedFds

variable {k : Listing cfg} {record : ListedFile cfg → List UInt8} {s : Filling}
  {f : ListedFile cfg} {files : List (ListedFile cfg)} {dir : Directory cfg} {u : Uninit}
  {pBuffer : Option Nat} {r : Response} {g : Dio.GpioCfg} {info : DIOCfgData} {l : Dio.Live}
  {a : Answers} {mounted : Bool}

-- ---------------------------------------------------------------------------
-- The second pass
-- ---------------------------------------------------------------------------

namespace Filling

theorem visit_openedFds (h : k.Lawful record) :
    (visit k.fill s f).openedFds =
      if 0 ≤ f.openFd then s.openedFds ++ [f.openFd] else s.openedFds := by
  unfold visit
  split
  case isFalse => rfl
  case isTrue =>
    simp only
    split
    case isFalse => rfl
    case isTrue =>
      split
      case isFalse => rfl
      case isTrue => rw [h.fill_openedFds]

theorem visit_closedFds (h : k.Lawful record) :
    (visit k.fill s f).closedFds =
      if 0 ≤ f.openFd ∧ 0 ≤ f.read ∧ f.close = 0 then s.closedFds ++ [f.openFd]
      else s.closedFds := by
  unfold visit
  by_cases hopen : 0 ≤ f.openFd
  · by_cases hread : 0 ≤ f.read
    · by_cases hclose : f.close = 0
      · simp [hopen, hread, hclose, h.fill_closedFds]
      · simp [hopen, hread, hclose]
    · simp [hopen, hread]
  · simp [hopen]

theorem turn_openedFds (h : k.Lawful record) (s : Filling) (f : ListedFile cfg) :
    (turn k s f).openedFds =
      if f.isOpened then s.openedFds ++ [f.openFd] else s.openedFds := by
  unfold turn ListedFile.isOpened
  by_cases hdevice : f.isDevice = true
  · simp [hdevice, visit_openedFds h]
  · simp [hdevice]

theorem turn_closedFds (h : k.Lawful record) (s : Filling) (f : ListedFile cfg) :
    (turn k s f).closedFds =
      if f.isClosed then s.closedFds ++ [f.openFd] else s.closedFds := by
  unfold turn ListedFile.isClosed ListedFile.wasRead ListedFile.isOpened
  by_cases hdevice : f.isDevice = true
  · simp [hdevice, visit_closedFds h, and_assoc]
  · simp [hdevice]

theorem exec_openedFds (h : k.Lawful record) :
    (exec (turn k) s files).openedFds =
      s.openedFds ++ (files.filter ListedFile.isOpened).map fun f => f.openFd :=
  exec_log Filling.openedFds (turn_openedFds h)

theorem exec_closedFds (h : k.Lawful record) :
    (exec (turn k) s files).closedFds =
      s.closedFds ++ (files.filter ListedFile.isClosed).map fun f => f.openFd :=
  exec_log Filling.closedFds (turn_closedFds h)

theorem turn_of_closed (h : k.Lawful record) (hf : f.isClosed = true) :
    (turn k s f).mem = s.mem.write s.deviceListElem (record f) ∧
      (turn k s f).deviceListElem = s.deviceListElem + k.recordSize := by
  simp only [ListedFile.isClosed, ListedFile.wasRead, ListedFile.isOpened, Bool.and_eq_true,
    decide_eq_true_eq] at hf
  obtain ⟨⟨⟨hdevice, hopen⟩, hread⟩, hclose⟩ := hf
  rw [turn, if_pos hdevice, visit, if_pos hopen]
  simp only [if_pos hread, if_pos hclose]
  refine ⟨h.fill_mem _ f ?_, h.next_fill _ f⟩
  show (s.devInfo.write 0 (f.content.read 0 deviceInfoFileSize)).read 0 deviceInfoFileSize = _
  exact Memory.read_write_read le_rfl le_rfl

theorem turn_of_not_device (hf : ¬f.isDevice = true) : turn k s f = s := by rw [turn, if_neg hf]

theorem exec_mem (h : k.Lawful record)
    (hall : ∀ f ∈ files, f.isDevice = true → f.isClosed = true) :
    (exec (turn k) s files).mem =
      s.mem.write s.deviceListElem ((files.filter fun f => f.isDevice).flatMap record) := by
  induction files generalizing s with
  | nil => simp
  | cons f files ih =>
    have hrest := fun f' hf' => hall f' (List.mem_cons_of_mem f hf')
    rw [exec_cons, ih hrest]
    by_cases hdevice : f.isDevice = true
    · obtain ⟨hmem, helem⟩ := turn_of_closed (s := s) h (hall f List.mem_cons_self hdevice)
      simp only [List.filter_cons, hdevice, if_true, List.flatMap_cons]
      rw [hmem, helem, Memory.write_append, h.record_length]
    · rw [turn_of_not_device hdevice]
      simp only [List.filter_cons, hdevice, if_false, Bool.false_eq_true]

end Filling

-- ---------------------------------------------------------------------------
-- The response
-- ---------------------------------------------------------------------------

/-- Counts of two predicates, one under the other, tell them apart. -/
theorem forall_of_countP_le {α : Type*} {p q : α → Bool} {as : List α}
    (himp : ∀ a, q a = true → p a = true) (h : as.countP p ≤ as.countP q) :
    ∀ a ∈ as, p a = true → q a = true := by
  induction as with
  | nil => simp
  | cons a as ih =>
    have hmono : as.countP q ≤ as.countP p := List.countP_mono_left fun a _ => himp a
    rw [List.countP_cons, List.countP_cons] at h
    by_cases hq : q a = true
    · rw [if_pos hq, if_pos (himp a hq)] at h
      rintro b hb hp
      rcases List.mem_cons.mp hb with rfl | hb
      · exact hq
      · exact ih (by omega) b hb hp
    · rw [if_neg hq] at h
      have hp : ¬p a = true := by
        intro hp
        rw [if_pos hp] at h
        omega
      rw [if_neg hp] at h
      rintro b hb hpb
      rcases List.mem_cons.mp hb with rfl | hb
      · exact absurd hpb hp
      · exact ih (by omega) b hb hpb

theorem ListedFile.isDevice_of_wasRead (h : f.wasRead = true) : f.isDevice = true := by
  simp only [wasRead, isOpened, Bool.and_eq_true] at h
  exact h.1.1

theorem ListedFile.isOpened_of_isClosed (h : f.isClosed = true) : f.isOpened = true := by
  simp only [isClosed, wasRead, Bool.and_eq_true] at h
  exact h.1.1

theorem ListedFile.isClosed_of_wasRead
    (h : f.wasRead = true) (hclosed : f.isOpened = true → f.isClosed = true) :
    f.isClosed = true := by
  simp only [wasRead, Bool.and_eq_true] at h
  exact hclosed h.1

theorem Listing.Lawful.bufferSize_lt (h : k.Lawful record) (dir : Directory cfg) :
    retFrameSize + k.fixedSize + 4 + dir.counter * k.recordSize < 2 ^ 32 := by
  have hcounter : dir.counter ≤ 2 ^ 16 := Nat.le_trans List.countP_le_length (Nat.le_of_lt dir.ids)
  have hrecords : dir.counter * k.recordSize ≤ 2 ^ 16 * 0x2000 :=
    Nat.mul_le_mul hcounter h.recordSize_le
  have hfixed := h.fixedSize_le
  rw [retFrameSize]
  omega

theorem length_flatMap_record (h : k.Lawful record) (files : List (ListedFile cfg)) :
    (files.flatMap record).length = files.length * k.recordSize := by
  induction files with
  | nil => simp
  | cons f files ih =>
    rw [List.flatMap_cons, List.length_append, h.record_length, ih, List.length_cons, Nat.succ_mul,
      Nat.add_comm]

theorem retFrame_length (command : UInt32) : (retFrame command).length = retFrameSize := by
  simp only [retFrame, List.length_append, encode_length]
  rfl

theorem respond_bufferSize (h : k.Lawful record) (hr : k.respond dir u pBuffer = some r) :
    r.bufferSize = retFrameSize + k.fixedSize + 4 + dir.counter * k.recordSize := by
  obtain ⟨p, -, rfl⟩ := Option.map_eq_some_iff.mp hr
  exact Nat.mod_eq_of_lt (h.bufferSize_lt dir)

/-- A response of the size it has to have leaves out no device file. -/
theorem WellFormed.forall_isClosed (h : k.Lawful record) (hr : k.respond dir u pBuffer = some r)
    (hw : WellFormed k record dir u r) :
    ∀ f ∈ dir.files, f.isDevice = true → f.isClosed = true := by
  obtain ⟨⟨fixed, hfixed, hsent⟩, -, hclosed⟩ := hw
  have hsize := congrArg List.length hsent
  simp only [Response.sent, Memory.read_length, respond_bufferSize h hr, List.length_append,
    retFrame_length, hfixed, encode_length, length_flatMap_record h] at hsize
  have hcount : dir.counter = (dir.files.filter ListedFile.wasRead).length := by
    have hmul : dir.counter * k.recordSize =
        (dir.files.filter ListedFile.wasRead).length * k.recordSize := by
      have hfour : u32.size = 4 := rfl
      omega
    exact Nat.eq_of_mul_eq_mul_right h.recordSize_pos hmul
  have hread : ∀ f ∈ dir.files, f.isDevice = true → f.wasRead = true := by
    rw [← List.countP_eq_length_filter] at hcount
    exact forall_of_countP_le (fun f => ListedFile.isDevice_of_wasRead) (Nat.le_of_eq hcount)
  have hfds : ∀ f ∈ dir.files, f.isOpened = true → f.isClosed = true := by
    obtain ⟨p, -, rfl⟩ := Option.map_eq_some_iff.mp hr
    have hlength := congrArg List.length hclosed
    simp only [Filling.exec_closedFds h, Filling.exec_openedFds h, List.nil_append,
      List.length_map, ← List.countP_eq_length_filter] at hlength
    exact forall_of_countP_le (fun f => ListedFile.isOpened_of_isClosed) (Nat.le_of_eq hlength.symm)
  exact fun f hf hdevice => ListedFile.isClosed_of_wasRead (hread f hf hdevice) (hfds f hf)

def counted (record : ListedFile cfg → List UInt8) (dir : Directory cfg) : List UInt8 :=
  u32.encode (UInt32.ofNat (dir.files.filter ListedFile.wasRead).length) ++
    (dir.files.filter ListedFile.wasRead).flatMap record

theorem respond_mem (h : k.Lawful record) (hr : k.respond dir u pBuffer = some r)
    (hall : ∀ f ∈ dir.files, f.isDevice = true → f.isClosed = true) :
    r.filling.mem = (k.fixed (u.mem.write r.pBuffer (retFrame k.command))
        (r.pBuffer + retFrameSize)).write (r.pBuffer + retFrameSize + k.fixedSize)
          (counted record dir) ∧
      r.bufferSize = retFrameSize + k.fixedSize + (counted record dir).length := by
  have hsize := respond_bufferSize h hr
  obtain ⟨p, -, rfl⟩ := Option.map_eq_some_iff.mp hr
  have hread : (dir.files.filter fun f => f.isDevice) = dir.files.filter ListedFile.wasRead := by
    refine List.filter_congr fun f hf => ?_
    rw [Bool.eq_iff_iff]
    refine ⟨fun hdevice => ?_, ListedFile.isDevice_of_wasRead⟩
    have hclosed := hall f hf hdevice
    simp only [ListedFile.isClosed, Bool.and_eq_true] at hclosed
    exact hclosed.1
  have hcounter : dir.counter = (dir.files.filter ListedFile.wasRead).length := by
    rw [← hread, Directory.counter, List.countP_eq_length_filter]
  constructor
  · rw [Filling.exec_mem h hall, hread, counted, Memory.write_append, encode_length, hcounter]
    rfl
  · rw [hsize, counted, List.length_append, encode_length, length_flatMap_record h, hcounter,
      Nat.add_assoc (retFrameSize + k.fixedSize)]
    rfl

theorem wellFormed_of_isClosed (h : k.Lawful record) (hr : k.respond dir u pBuffer = some r)
    (hall : ∀ f ∈ dir.files, f.isDevice = true → f.isClosed = true) :
    WellFormed k record dir u r := by
  obtain ⟨hmem, hsize⟩ := respond_mem h hr hall
  have hframe := retFrame_length k.command
  constructor
  · refine ⟨r.filling.mem.read (r.pBuffer + retFrameSize) k.fixedSize, Memory.read_length _ _ _, ?_⟩
    have hfront : r.filling.mem.read r.pBuffer retFrameSize = retFrame k.command := by
      rw [hmem, Memory.read_write_of_disjoint (.inl (by omega))]
      have hsame : ∀ i < retFrameSize, k.fixed (u.mem.write r.pBuffer (retFrame k.command))
          (r.pBuffer + retFrameSize) (r.pBuffer + i) =
            u.mem.write r.pBuffer (retFrame k.command) (r.pBuffer + i) :=
        fun i hi => h.fixed_of_lt _ _ _ (by omega)
      rw [Memory.read_congr hsame, ← hframe]
      exact Memory.read_write _ _ _
    have hback : r.filling.mem.read (r.pBuffer + retFrameSize + k.fixedSize)
        (counted record dir).length = counted record dir := by
      rw [hmem]
      exact Memory.read_write _ _ _
    rw [Response.sent, hsize, Memory.read_append, Memory.read_append, ← Nat.add_assoc, hfront,
      hback, counted]
    simp only [List.append_assoc]
  · intro addr haddr
    rw [hmem]
    rcases haddr with hlt | hge
    · rw [Memory.write_of_lt (by omega), h.fixed_of_lt _ _ _ (by omega), Memory.write_of_lt hlt]
    · rw [Memory.write_of_ge (by omega), h.fixed_of_ge _ _ _ (by omega),
        Memory.write_of_ge (by omega)]
  · have hopened : dir.files.filter ListedFile.isClosed = dir.files.filter ListedFile.isOpened := by
      refine List.filter_congr fun f hf => ?_
      rw [Bool.eq_iff_iff]
      refine ⟨ListedFile.isOpened_of_isClosed, fun ho => hall f hf ?_⟩
      simp only [ListedFile.isOpened, Bool.and_eq_true] at ho
      exact ho.1
    obtain ⟨p, -, rfl⟩ := Option.map_eq_some_iff.mp hr
    simp only [Filling.exec_closedFds h, Filling.exec_openedFds h, hopened]

theorem send_wellFormed_iff (h : k.Lawful record) :
    (∀ r, k.send a mounted dir u pBuffer = some r → WellFormed k record dir u r) ↔
      ((storageFFSMount a mounted).1 = true → pBuffer.isSome →
        ∀ f ∈ dir.files, f.isDevice = true → f.isClosed = true) := by
  rw [Listing.send]
  by_cases hm : (storageFFSMount a mounted).1 = true
  · rw [if_pos hm, forall_prop_of_true hm]
    cases pBuffer with
    | none => simp [Listing.respond]
    | some p =>
      constructor
      · intro hw _
        obtain ⟨r, hr⟩ : ∃ r, k.respond dir u (some p) = some r := ⟨_, rfl⟩
        exact (hw r hr).forall_isClosed h hr
      · exact fun hall r hr => wellFormed_of_isClosed h hr (hall rfl)
  · simp [hm]

-- ---------------------------------------------------------------------------
-- The two listings
-- ---------------------------------------------------------------------------

theorem deviceList_lawful : (deviceList cfg).Lawful ListedFile.devicesListRecord where
  record_length f := by
    simp only [ListedFile.devicesListRecord, List.length_append, Memory.read_length, f.name_length]
    rfl
  recordSize_pos := by
    simp only [deviceList]
    omega
  recordSize_le := by
    have := cfg.page
    simp only [deviceList, fileDescriptionLength]
    omega
  fixedSize_le := Nat.zero_le _
  fixed_of_lt _ _ _ _ := rfl
  fixed_of_ge _ _ _ _ := rfl
  fill_mem s f h := by
    have hword : ∀ off, u32.encode (u32.load s.devInfo off) = s.devInfo.read off 4 :=
      fun off => LittleEndian.wordBytes_word _ _
    have hids : s.devInfo.read 0 8 = f.content.read 0 8 :=
      Memory.read_congr fun i hi => Memory.read_eq_iff.mp h i (by rw [deviceInfoFileSize]; omega)
    have hdescription : s.devInfo.read descriptionOffset fileDescriptionLength =
        f.content.read descriptionOffset fileDescriptionLength := by
      refine Memory.read_congr fun i hi => ?_
      have := Memory.read_eq_iff.mp h (descriptionOffset + i)
        (by rw [fileDescriptionLength] at hi; rw [deviceInfoFileSize, descriptionOffset]; omega)
      simpa using this
    have hsplit : s.devInfo.read 0 (4 + 4) = s.devInfo.read 0 4 ++ s.devInfo.read 4 4 := by
      rw [Memory.read_append]
    rw [ListedFile.devicesListRecord, ← hids, ← hdescription, hsplit, Memory.write_append,
      Memory.write_append, Memory.write_append]
    simp only [deviceList, fillDevicesList, store, hword, List.length_append, Memory.read_length,
      f.name_length, Nat.add_assoc]
    rw [← Nat.add_assoc 4 4]
  next_fill s f := rfl
  fill_openedFds _ _ := rfl
  fill_closedFds _ _ := rfl

theorem gpioConfig_length_le (i : Fin 6) : (gpioConfig g info l i).length ≤ dioConfigSize := by
  simp only [gpioConfig]
  split
  case isTrue => simp [u32, dioConfigSize]
  case isFalse =>
    split
    case isTrue => simp [u32, dioConfigSize]
    case isFalse => simp [u32, dioConfigSize]

theorem configurationFile_lawful :
    (configurationFile cfg g info l).Lawful ListedFile.flashFileDataRecord where
  record_length f := by
    simp only [ListedFile.flashFileDataRecord, List.length_append, Memory.read_length,
      f.name_length, encode_length]
    rfl
  recordSize_pos := by
    simp only [configurationFile]
    omega
  recordSize_le := by
    have := cfg.page
    simp only [configurationFile, deviceInfoFileSize]
    omega
  fixedSize_le := by
    simp only [configurationFile, dioConfigSize]
    omega
  fixed_of_lt mem off addr h := by
    simp only [configurationFile]
    refine List.foldlRecOn (motive := fun m : Memory UInt8 => m addr = mem addr) _ _ rfl
      fun m hm i _ => ?_
    rw [Memory.write_of_lt (by omega), hm]
  fixed_of_ge mem off addr h := by
    simp only [configurationFile, dioConfigSize] at h ⊢
    refine List.foldlRecOn (motive := fun m : Memory UInt8 => m addr = mem addr) _ _ rfl
      fun m hm i _ => ?_
    have hlength : (gpioConfig g info l i).length ≤ dioConfigSize := gpioConfig_length_le i
    rw [dioConfigSize] at hlength
    rw [Memory.write_of_ge (by omega), hm]
  fill_mem s f h := by
    have hparams : s.devInfo.read 0 descriptionOffset = f.content.read 0 descriptionOffset :=
      Memory.read_congr fun i hi => Memory.read_eq_iff.mp h i
        (by rw [descriptionOffset] at hi; rw [deviceInfoFileSize]; omega)
    have hsplit : f.content.read 0 deviceInfoFileSize = s.devInfo.read 0 descriptionOffset ++
        s.devInfo.read descriptionOffset fileDescriptionLength := by
      rw [← h, deviceInfoFileSize, Memory.read_append]
      rfl
    have hinfo : ∀ (m : Memory UInt8) (off : Nat),
        m.write off (s.devInfo.read 0 descriptionOffset ++
          s.devInfo.read descriptionOffset fileDescriptionLength) =
        (m.write (off + descriptionOffset)
          (s.devInfo.read descriptionOffset fileDescriptionLength)).write off
            (s.devInfo.read 0 descriptionOffset) := by
      intro m off
      rw [Memory.write_append_last, Memory.read_length]
    rw [ListedFile.flashFileDataRecord, hsplit, Memory.write_append, hinfo, Memory.write_append,
      List.length_append, encode_length, f.name_length, ← Nat.add_assoc]
    rfl
  next_fill s f := by
    simp only [configurationFile, fillFlashFileData]
    omega
  fill_openedFds _ _ := rfl
  fill_closedFds _ _ := rfl

theorem deviceCounter_eq (hdirents : a.dirents = dir.files.map ListedFile.toDirent) :
    deviceCounter a = dir.counter := by
  rw [deviceCounter, hdirents, List.countP_map]
  rfl

theorem listings_access (hdirents : a.dirents = dir.files.map ListedFile.toDirent)
    (hallocated : a.allocated = pBuffer.isSome) :
    (Op.getFlashDeviceListEthernet.access a mounted).map (·.2.sent) =
        some ((getFlashDeviceListEthernet a mounted dir u pBuffer).map
          fun _ => Sent.deviceList dir.counter) ∧
      (Op.getFlashConfigurationFileEthernet.access a mounted).map (·.2.sent) =
        some ((getFlashConfigurationFileEthernet g info l a mounted dir u pBuffer).map
          fun _ => Sent.configurationFile dir.counter) := by
  simp only [Op.access, withMount, getFlashDeviceListEthernet, getFlashConfigurationFileEthernet,
    Listing.send, deviceCounter_eq hdirents]
  cases storageFFSMount a mounted with
  | mk ok m =>
    cases ok with
    | true => cases pBuffer <;> simp [Listing.respond, sendIf, hallocated]
    | false => simp [Reply.value]

/-- A listing sent is well formed exactly when every device file of the directory is
opened, read and closed. -/
theorem listings_wellFormed_iff (g : Dio.GpioCfg) (info : DIOCfgData) (l : Dio.Live) (a : Answers)
    (mounted : Bool) (dir : Directory cfg) (u : Uninit) (pBuffer : Option Nat) :
    ((∀ r, getFlashDeviceListEthernet a mounted dir u pBuffer = some r →
        WellFormed (deviceList cfg) ListedFile.devicesListRecord dir u r) ↔
      ((storageFFSMount a mounted).1 = true → pBuffer.isSome →
        ∀ f ∈ dir.files, f.isDevice = true → 0 ≤ f.openFd ∧ 0 ≤ f.read ∧ f.close = 0)) ∧
    ((∀ r, getFlashConfigurationFileEthernet g info l a mounted dir u pBuffer = some r →
        WellFormed (configurationFile cfg g info l) ListedFile.flashFileDataRecord dir u r) ↔
      ((storageFFSMount a mounted).1 = true → pBuffer.isSome →
        ∀ f ∈ dir.files, f.isDevice = true → 0 ≤ f.openFd ∧ 0 ≤ f.read ∧ f.close = 0)) := by
  have hclosed : ∀ f : ListedFile cfg, (f.isDevice = true → f.isClosed = true) ↔
      (f.isDevice = true → 0 ≤ f.openFd ∧ 0 ≤ f.read ∧ f.close = 0) := by
    intro f
    simp only [ListedFile.isClosed, ListedFile.wasRead, ListedFile.isOpened, Bool.and_eq_true,
      decide_eq_true_eq]
    exact forall_congr' fun hdevice => by simp [hdevice, and_assoc]
  simp only [← hclosed]
  exact ⟨send_wellFormed_iff deviceList_lawful, send_wellFormed_iff configurationFile_lawful⟩

def unopened : Directory ⟨32, by decide, by decide⟩ where
  files :=
    [{ name := devicesFolderName ++ List.replicate 24 0
       size := 100
       openFd := -10010
       read := 0
       close := 0
       content _ := 0
       got := 0
       name_length := by decide }]
  ids := by decide

/-- Both listings count the file, and have no record of it. -/
theorem unopened_file_counted :
    let a : Answers := ⟨0, false, 0, 0, 0, 0, 0, true, [], [], [], 0⟩
    let u : Uninit := ⟨fun _ => 0, 0, fun _ => 0⟩
    let g : Dio.GpioCfg := ⟨0, 0, 0, 0, 0, 0, 0, 0, 0, 0, 0, 0⟩
    (¬∀ r, getFlashDeviceListEthernet a true unopened u (some 0x20010000) = some r →
        WellFormed (deviceList _) ListedFile.devicesListRecord unopened u r) ∧
      ¬∀ r, getFlashConfigurationFileEthernet g (defaultDIOCfgData 0) Dio.dioInit a true unopened u
          (some 0x20010000) = some r →
        WellFormed (configurationFile _ g (defaultDIOCfgData 0) Dio.dioInit)
          ListedFile.flashFileDataRecord unopened u r := by
  have hopen : ¬∀ f ∈ unopened.files, f.isDevice = true → f.isClosed = true := by decide
  constructor
  · exact fun h => hopen ((send_wellFormed_iff deviceList_lawful).mp h rfl rfl)
  · exact fun h => hopen ((send_wellFormed_iff configurationFile_lawful).mp h rfl rfl)

end SystemMaster.Flash
