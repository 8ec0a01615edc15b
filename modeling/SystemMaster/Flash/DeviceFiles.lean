import SystemMaster.Flash.DeviceLoading
import SystemMaster.Flash.Spiffs

/-!
# The device files

A host stores the records of devices on the internal flash, reads them back and removes
them, and a start loads a device from each. What the operations answer and what a start
loads is what was stored last, as far as the calls of SPIFFS do not fail.
-/

namespace SystemMaster.Flash

open Function (update)
open Devices Runs Codec

-- ---------------------------------------------------------------------------
-- The commands
-- ---------------------------------------------------------------------------

variable {φ : Type}

def fileNameAt (cfg : SpiffsConfig) (payload : Memory UInt8) (off : Nat) : FileName :=
  (payload.read off (cfg.objNameLen - 1)).takeWhile (· ≠ 0)

def fileSizeOf (payload : Memory UInt8) : Nat := (u32.load payload 0).toNat

def recordAt (cfg : SpiffsConfig) (payload : Memory UInt8) : List UInt8 :=
  payload.read (4 + cfg.objNameLen) deviceInfoFileSize

def setAccepts (cfg : SpiffsConfig) (payload : Memory UInt8) : Bool :=
  deviceInfoFileSize ≤ fileSizeOf payload && isDeviceName (fileNameAt cfg payload 4)

/-- `vSFFS_setFlashDataFileNameEthernet`, with the status of the write where it comes to one. -/
def setFlashDataFileName (cfg : SpiffsConfig) (spiffs : Spiffs φ) (payload : Memory UInt8) (s : φ) :
    φ × Option Int :=
  if setAccepts cfg payload then
    withFiles spiffs none (fun s =>
      let opened := spiffs.openFile s (fileNameAt cfg payload 4) ⟨true, false⟩
      if 0 ≤ opened.2 then
        let written := spiffs.write opened.1 opened.2 (recordAt cfg payload)
        ((spiffs.close written.1 opened.2).1, some written.2)
      else (opened.1, none)) s
  else (s, none)

def removeAccepts (cfg : SpiffsConfig) (payload : Memory UInt8) : Bool :=
  fileSizeOf payload = 0 && isDeviceName (fileNameAt cfg payload 4)

/-- `vSFFS_removeFileNameEthernet`, with the status of the removal where it comes to one. -/
def removeFileName (cfg : SpiffsConfig) (spiffs : Spiffs φ) (payload : Memory UInt8) (s : φ) :
    φ × Option Int :=
  if removeAccepts cfg payload then
    withFiles spiffs none (fun s =>
      let removed := spiffs.remove s (fileNameAt cfg payload 4)
      (removed.1, some removed.2)) s
  else (s, none)

def getFlashFileDataResponse : UInt32 := 209

def fillFlashFile (cfg : SpiffsConfig) (pBuffer : Memory UInt8) (name : FileName) (size : Nat) :
    Memory UInt8 :=
  ((pBuffer.write 0 (retFrame getFlashFileDataResponse)).write retFrameSize
    (u32.encode (UInt32.ofNat size))).write (retFrameSize + 4)
      (if name.length < cfg.objNameLen then name ++ [0] else name.take cfg.objNameLen)

/-- The frame that is sent, and the status of the read, which does not matter to it. -/
structure FileReply where
  frame : List UInt8
  read : Int

/-- `vSFFS_getFlashReadFileNameEthernet`; `heap` is the buffer that `Memory_alloc` gives. -/
def getFlashReadFileName (cfg : SpiffsConfig) (spiffs : Spiffs φ) (fileName : FileName)
    (heap : Option (Memory UInt8)) (s : φ) : φ × Option FileReply :=
  withFiles spiffs none (fun s =>
    let found := spiffs.stat s fileName
    match heap with
    | some pBuffer =>
      if 0 ≤ found.1 then
        let buffer := fillFlashFile cfg pBuffer fileName found.2
        let opened := spiffs.openFile s fileName ⟨false, false⟩
        if 0 ≤ opened.2 then
          let read := spiffs.read opened.1 opened.2 found.2
          let data := retFrameSize + (4 + cfg.objNameLen)
          ((spiffs.close read.1 opened.2).1,
            some ⟨(buffer.write data read.2.2).read 0 ((data + found.2) % 2 ^ 32), read.2.1⟩)
        else (opened.1, none)
      else (s, none)
    | none => (s, none)) s

def formatFiles (spiffs : Spiffs φ) (s : φ) : φ :=
  spiffs.unmount (spiffs.mount (spiffs.format (spiffs.unmount s)).1).1

/-- A device file as a pass over the directory finds it: opened, read and closed. -/
def visitDirent (spiffs : Spiffs φ) (hooks : FileName → UInt32) (s : φ) (name : FileName)
    (size : Nat) : φ × DeviceFile :=
  let unread : DeviceFile := {
    name, size, openFd := -1, read := 0, close := 0, content := fun _ => 0, got := 0
    pHooks := hooks name }
  if unread.isDevice then
    let opened := spiffs.openByDirent s name
    if 0 ≤ opened.2 then
      let read := spiffs.read opened.1 opened.2 deviceInfoFileSize
      let closed := spiffs.close read.1 opened.2
      (closed.1, { unread with
        openFd := opened.2
        read := read.2.1
        close := closed.2
        content := fun a => read.2.2.getD a 0
        got := read.2.2.length })
    else (opened.1, { unread with openFd := opened.2 })
  else (s, unread)

def visitDirents (spiffs : Spiffs φ) (hooks : FileName → UInt32) :
    φ → List (FileName × Nat) → φ × List DeviceFile
  | s, [] => (s, [])
  | s, (name, size) :: dirents =>
    let visited := visitDirent spiffs hooks s name size
    let others := visitDirents spiffs hooks visited.1 dirents
    (others.1, visited.2 :: others.2)

/-- `xSFFS_readDevicesConfiguration`; `hooks` are the blocks the heap gives for hooks. -/
def startDevices (spiffs : Spiffs φ) (hooks : FileName → UInt32) (loader : Loader) (s : φ) :
    φ × List DeviceFile × Loader :=
  withFiles spiffs ([], loader) (fun s =>
    let visited := visitDirents spiffs hooks s (spiffs.dirents s)
    (visited.1, visited.2, exec Loader.turn loader visited.2)) s

inductive FlashCommand where
  | readDevicesConfiguration (hooks : FileName → UInt32) (loader : Loader)
  | getFlashDataForFileName (payload : Memory UInt8) (heap : Option (Memory UInt8))
  | setFlashDataForFileName (payload : Memory UInt8)
  | deleteFlashDataForFileName (payload : Memory UInt8)
  | format

def flashStep (cfg : SpiffsConfig) (spiffs : Spiffs φ) (s : φ) : FlashCommand → φ
  | .readDevicesConfiguration hooks loader => (startDevices spiffs hooks loader s).1
  | .getFlashDataForFileName payload heap =>
    (getFlashReadFileName cfg spiffs (fileNameAt cfg payload 0) heap s).1
  | .setFlashDataForFileName payload => (setFlashDataFileName cfg spiffs payload s).1
  | .deleteFlashDataForFileName payload => (removeFileName cfg spiffs payload s).1
  | .format => formatFiles spiffs s

-- ---------------------------------------------------------------------------
-- What the commands change
-- ---------------------------------------------------------------------------

/-- A write that fails may have stored a part. -/
def setTold (cfg : SpiffsConfig) (payload : Memory UInt8) : Option Int → Change
  | none => .none
  | some status =>
    .file (fileNameAt cfg payload 4)
      (if status < 0 then .unknown else .known (some (recordAt cfg payload)))

def removeTold (cfg : SpiffsConfig) (payload : Memory UInt8) : Option Int → Change
  | none => .none
  | some status => if status < 0 then .none else .file (fileNameAt cfg payload 4) (.known none)

def flashChange (cfg : SpiffsConfig) (spiffs : Spiffs φ) (s : φ) : FlashCommand → Change
  | .readDevicesConfiguration _ _ | .getFlashDataForFileName _ _ => mountChange spiffs s
  | .setFlashDataForFileName payload =>
    if setAccepts cfg payload then
      (mountChange spiffs s).andThen
        (setTold cfg payload (setFlashDataFileName cfg spiffs payload s).2)
    else .none
  | .deleteFlashDataForFileName payload =>
    if removeAccepts cfg payload then
      (mountChange spiffs s).andThen (removeTold cfg payload (removeFileName cfg spiffs payload s).2)
    else .none
  | .format => formatChange spiffs (spiffs.unmount s)

/-- No device file is longer than a record. -/
def Short (files : FileName → Option (List UInt8)) : Prop :=
  ∀ name bytes, isDeviceName name → files name = some bytes → bytes.length ≤ deviceInfoFileSize

/-- The shelf is true of the files, none of which holds more than a record. -/
structure Kept (shelf : Shelf) (files : FileName → Option (List UInt8)) : Prop where
  holds : shelf.Holds files
  short : Short files

variable {cfg : SpiffsConfig} {spiffs : Spiffs φ} {V : View spiffs} {s : φ} {shelf : Shelf}
  {payload : Memory UInt8} {name : FileName} {files : FileName → Option (List UInt8)}
  {found : Option (List UInt8)} {slot : Slot} {ks : List FlashCommand}

theorem Short.shrunk {after : FileName → Option (List UInt8)} (h : Short files)
    (hshrunk : Shrunk files after) : Short after := by
  intro n bytes hn hbytes
  obtain ⟨old, hold, hle⟩ := hshrunk n bytes hbytes
  exact hle.trans (h n old hn hold)

theorem Kept.update (h : Kept shelf files) (hslot : slot.Holds found)
    (hfound : ∀ bytes, found = some bytes → bytes.length ≤ deviceInfoFileSize) :
    Kept (shelf.apply (.file name slot)) (update files name found) := by
  refine ⟨h.holds.file hslot, fun n bytes hn hbytes => ?_⟩
  by_cases heq : n = name
  · subst heq
    rw [Function.update_self] at hbytes
    exact hfound bytes hbytes
  · rw [Function.update_of_ne heq] at hbytes
    exact h.short n bytes hn hbytes

theorem mountFiles_kept (h : Kept shelf (V.files s)) :
    Kept (shelf.apply (mountChange spiffs s)) (V.files (mountFiles spiffs s).1) :=
  ⟨mountFiles_holds h.holds, h.short.shrunk mountFiles_shrunk⟩

theorem withFiles_kept {ρ : Type} {fails : ρ} {work : φ → φ × ρ} {told : ρ → Change}
    (hfails : told fails = .none)
    (hwork : ∀ {shelf s}, Kept shelf (V.files s) →
      Kept (shelf.apply (told (work s).2)) (V.files (work s).1)) (h : Kept shelf (V.files s)) :
    Kept (shelf.apply ((mountChange spiffs s).andThen (told (withFiles spiffs fails work s).2)))
      (V.files (withFiles spiffs fails work s).1) := by
  rw [Shelf.apply_andThen, withFiles]
  dsimp only
  split
  case isTrue =>
    dsimp only
    rw [V.unmount]
    exact hwork (mountFiles_kept h)
  case isFalse =>
    dsimp only
    rw [hfails, Shelf.apply_none]
    exact mountFiles_kept h

@[simp] theorem recordAt_length : (recordAt cfg payload).length = deviceInfoFileSize :=
  Memory.read_length _ _ _

/-- A record is written at the start of a file that was opened and is no longer than one. -/
theorem write_kept {fd : Int} {old data : List UInt8} (h : Kept shelf files)
    (hopened : V.opened s fd = some (name, 0)) (hfiles : V.files s = update files name (some old))
    (hold : old.length ≤ deviceInfoFileSize) (hdata : data.length = deviceInfoFileSize) :
    Kept (shelf.apply (.file name
        (if (spiffs.write s fd data).2 < 0 then .unknown else .known (some data))))
      (V.files (spiffs.write s fd data).1) := by
  have hfile : V.files s name = some old := by rw [hfiles, Function.update_self]
  split
  case isTrue hfails =>
    obtain ⟨left, hleft, hwritten⟩ := V.write_fails _ _ _ _ _ _ hopened hfile hfails
    rw [hwritten, hfiles, Function.update_idem]
    refine h.update trivial fun bytes hbytes => ?_
    obtain rfl := Option.some.inj hbytes
    omega
  case isFalse hok =>
    obtain ⟨-, hwritten⟩ := V.write _ _ _ _ _ _ hopened hfile (Int.not_lt.mp hok)
    have hwhole : old.take 0 ++ data ++ old.drop (0 + data.length) = data := by
      rw [List.drop_eq_nil_of_le (by omega)]
      simp
    rw [hwritten, hwhole, hfiles, Function.update_idem]
    refine h.update rfl fun bytes hbytes => ?_
    obtain rfl := Option.some.inj hbytes
    exact hdata.le

theorem setFlashDataFileName_kept (haccepts : setAccepts cfg payload = true)
    (h : Kept shelf (V.files s)) :
    Kept (shelf.apply ((mountChange spiffs s).andThen
        (setTold cfg payload (setFlashDataFileName cfg spiffs payload s).2)))
      (V.files (setFlashDataFileName cfg spiffs payload s).1) := by
  rw [setFlashDataFileName, if_pos haccepts]
  refine withFiles_kept rfl (fun {shelf s} h => ?_) h
  have hdevice : isDeviceName (fileNameAt cfg payload 4) := (Bool.and_eq_true_iff.mp haccepts).2
  have hold : ((V.files s (fileNameAt cfg payload 4)).getD []).length ≤ deviceInfoFileSize := by
    cases hfile : V.files s (fileNameAt cfg payload 4) with
    | none => exact Nat.zero_le _
    | some bytes => exact h.short _ bytes hdevice hfile
  dsimp only
  split
  case isTrue hfd =>
    obtain ⟨-, hopened, hfiles⟩ := V.openFile _ _ _ hfd
    dsimp only
    rw [V.close]
    exact write_kept h hopened hfiles hold recordAt_length
  case isFalse hfd =>
    dsimp only
    rw [V.openFile_fails _ _ _ (Int.not_le.mp hfd) rfl]
    exact h

theorem removeFileName_kept (haccepts : removeAccepts cfg payload = true)
    (h : Kept shelf (V.files s)) :
    Kept (shelf.apply ((mountChange spiffs s).andThen
        (removeTold cfg payload (removeFileName cfg spiffs payload s).2)))
      (V.files (removeFileName cfg spiffs payload s).1) := by
  rw [removeFileName, if_pos haccepts]
  refine withFiles_kept rfl (fun {shelf s} h => ?_) h
  dsimp only [removeTold]
  split
  case isTrue hfails =>
    rw [V.remove_fails _ _ hfails]
    exact h
  case isFalse hremoved =>
    rw [V.remove _ _ (Int.not_lt.mp hremoved)]
    exact h.update rfl fun bytes hbytes => absurd hbytes (by simp)

theorem withFiles_reads {ρ : Type} {fails : ρ} {work : φ → φ × ρ}
    (hwork : ∀ s, V.files (work s).1 = V.files s) :
    V.files (withFiles spiffs fails work s).1 = V.files (mountFiles spiffs s).1 := by
  rw [withFiles]
  dsimp only
  split
  case isTrue =>
    dsimp only
    rw [V.unmount, hwork]
  case isFalse => rfl

theorem openFile_reads : V.files (spiffs.openFile s name ⟨false, false⟩).1 = V.files s := by
  by_cases hfd : 0 ≤ (spiffs.openFile s name ⟨false, false⟩).2
  · obtain ⟨hexists, -, hfiles⟩ := V.openFile _ _ _ hfd
    obtain ⟨bytes, hbytes⟩ := Option.isSome_iff_exists.mp (hexists.resolve_left (by simp))
    rw [hfiles, hbytes, Function.update_eq_self_iff]
    exact hbytes.symm
  · exact V.openFile_fails _ _ _ (Int.not_le.mp hfd) rfl

theorem getFlashReadFileName_files {heap : Option (Memory UInt8)} :
    V.files (getFlashReadFileName cfg spiffs name heap s).1 = V.files (mountFiles spiffs s).1 := by
  refine withFiles_reads fun s => ?_
  cases heap with
  | none => rfl
  | some pBuffer =>
    dsimp only
    split
    · split
      · dsimp only
        rw [V.close, V.read_files, openFile_reads]
      · exact openFile_reads
    · rfl

theorem visitDirent_files {hooks : FileName → UInt32} {size : Nat} :
    V.files (visitDirent spiffs hooks s name size).1 = V.files s := by
  rw [visitDirent]
  dsimp only
  split
  · split
    · dsimp only
      rw [V.close, V.read_files, V.openByDirent_files]
    · exact V.openByDirent_files _ _
  · rfl

theorem visitDirents_files {hooks : FileName → UInt32} {dirents : List (FileName × Nat)} :
    V.files (visitDirents spiffs hooks s dirents).1 = V.files s := by
  induction dirents generalizing s with
  | nil => rfl
  | cons dirent dirents ih => exact ih.trans visitDirent_files

theorem startDevices_files {hooks : FileName → UInt32} {loader : Loader} :
    V.files (startDevices spiffs hooks loader s).1 = V.files (mountFiles spiffs s).1 :=
  withFiles_reads fun _ => visitDirents_files

theorem formatFiles_kept (h : Kept shelf (V.files s)) :
    Kept (shelf.apply (formatChange spiffs (spiffs.unmount s))) (V.files (formatFiles spiffs s)) := by
  rw [formatFiles, V.unmount, V.mount]
  refine ⟨formatChange_holds, h.short.shrunk fun n bytes hbytes => ?_⟩
  rw [← V.unmount s]
  exact V.format_fails _ n bytes hbytes

/-- One command. -/
theorem flashStep_kept (k : FlashCommand) (h : Kept shelf (V.files s)) :
    Kept (shelf.apply (flashChange cfg spiffs s k)) (V.files (flashStep cfg spiffs s k)) := by
  cases k with
  | readDevicesConfiguration hooks loader =>
    rw [flashStep, startDevices_files]
    exact mountFiles_kept h
  | getFlashDataForFileName payload heap =>
    rw [flashStep, getFlashReadFileName_files]
    exact mountFiles_kept h
  | setFlashDataForFileName payload =>
    rw [flashChange]
    split
    case isTrue haccepts => exact setFlashDataFileName_kept haccepts h
    case isFalse hrejects =>
      rw [flashStep, setFlashDataFileName, if_neg hrejects]
      exact h
  | deleteFlashDataForFileName payload =>
    rw [flashChange]
    split
    case isTrue haccepts => exact removeFileName_kept haccepts h
    case isFalse hrejects =>
      rw [flashStep, removeFileName, if_neg hrejects]
      exact h
  | format => exact formatFiles_kept h

def Tracked (V : View spiffs) (s : φ) (shelf : Shelf) : Prop := Kept shelf (V.files s)

theorem exec_kept (h : Tracked V s shelf) :
    Tracked V (exec (flashStep cfg spiffs) s ks)
      (exec Shelf.apply shelf (labels (flashStep cfg spiffs) (flashChange cfg spiffs) s ks)) := by
  have hstep : ∀ s shelf k, Tracked V s shelf →
      Tracked V (flashStep cfg spiffs s k) (shelf.apply (flashChange cfg spiffs s k)) :=
    fun _ _ k h => flashStep_kept k h
  exact exec_related h hstep

def lastSlot (cfg : SpiffsConfig) (spiffs : Spiffs φ) (s : φ) (ks : List FlashCommand)
    (name : FileName) : Slot :=
  ((labels (flashStep cfg spiffs) (flashChange cfg spiffs) s ks).filterMap (· name)).getLastD
    .unknown

theorem exec_lastSlot (V : View spiffs) (cfg : SpiffsConfig) (ks : List FlashCommand)
    (hshort : Short (V.files s)) :
    Kept (lastSlot cfg spiffs s ks) (V.files (exec (flashStep cfg spiffs) s ks)) := by
  have hstart : Tracked V s fun _ => .unknown := ⟨fun _ => trivial, hshort⟩
  have hlast : lastSlot cfg spiffs s ks = exec Shelf.apply (fun _ => .unknown)
      (labels (flashStep cfg spiffs) (flashChange cfg spiffs) s ks) := by
    funext name
    have happly : ∀ (shelf : Shelf) (c : Change), shelf.apply c name = (c name).getD (shelf name) :=
      fun _ _ => rfl
    have hexec (cs : List Change) : exec Shelf.apply (fun _ => .unknown) cs name =
        (cs.filterMap (· name)).getLastD .unknown :=
      exec_field (fun shelf : Shelf => shelf name) happly
    exact (hexec _).symm
  rw [hlast]
  exact exec_kept hstart

/-- What an operation on a storage that is not mounted is answered by SPIFFS. -/
structure Answered (spiffs : Spiffs φ) (s : φ) (a : Answers) : Prop where
  mount : a.mount = (spiffs.mount s).2
  notAFS : a.notAFS = decide ((spiffs.mount s).2 = spiffsErrNotAFS)
  remount : a.remount =
    (spiffs.mount (spiffs.format (spiffs.unmount (spiffs.mount s).1)).1).2

theorem Answered.storageFFSMount {a : Answers} (h : Answered spiffs s a) :
    storageFFSMount a false = ((mountFiles spiffs s).2, (mountFiles spiffs s).2) := by
  rw [Flash.storageFFSMount, mountFiles, h.mount, h.notAFS, h.remount]
  simp only [Bool.false_eq_true, if_false, decide_eq_true_eq]
  by_cases hok : (spiffs.mount s).2 = spiffsOK
  · rw [if_pos hok, if_pos hok]
  · rw [if_neg hok, if_neg hok]
    by_cases hnot : (spiffs.mount s).2 = spiffsErrNotAFS
    · rw [if_pos hnot, if_pos hnot]
      split
      case isTrue hagain => simp [hagain]
      case isFalse hagain => simp [hagain]
    · rw [if_neg hnot, if_neg hnot]

theorem startDevices_loader {a : Answers} {hooks : FileName → UInt32} {loader : Loader}
    (h : Answered spiffs s a) :
    (startDevices spiffs hooks loader s).2.2 =
      (readDevicesConfiguration a (startDevices spiffs hooks loader s).2.1 false loader).2 := by
  rw [readDevicesConfiguration, h.storageFFSMount, startDevices, withFiles]
  cases (mountFiles spiffs s).2 <;> rfl

theorem getFlashReadFileName_access {a : Answers} {heap : Option (Memory UInt8)}
    (h : Answered spiffs s a) (hstat : a.stat = (spiffs.stat (mountFiles spiffs s).1 name).1)
    (hopen : a.openFd = (spiffs.openFile (mountFiles spiffs s).1 name ⟨false, false⟩).2)
    (hheap : a.allocated = heap.isSome) :
    (Op.getFlashReadFileNameEthernet.access a false).map (fun r => r.2.sent.isSome) =
      some (getFlashReadFileName cfg spiffs name heap s).2.isSome := by
  rw [Op.access, withMount, h.storageFFSMount, getFlashReadFileName, withFiles, hstat, hopen, hheap]
  cases (mountFiles spiffs s).2 with
  | false => rfl
  | true =>
    cases heap with
    | none => simp [sendIf]
    | some pBuffer =>
      by_cases hfound : 0 ≤ (spiffs.stat (mountFiles spiffs s).1 name).1
      · by_cases hfd : 0 ≤ (spiffs.openFile (mountFiles spiffs s).1 name ⟨false, false⟩).2
        · simp [sendIf, hfound, hfd]
        · simp [sendIf, hfound, hfd]
      · simp [sendIf, hfound]

-- ---------------------------------------------------------------------------
-- Reading a record back
-- ---------------------------------------------------------------------------

/-- A frame with the size, the name and the bytes of a file; behind the terminator of the
name is what the heap has there. -/
def Carries (cfg : SpiffsConfig) (frame : List UInt8) (name : FileName) (bytes : List UInt8) : Prop :=
  ∃ rest, (name ++ [0] ++ rest).length = cfg.objNameLen ∧
    frame = retFrame getFlashFileDataResponse ++ u32.encode (UInt32.ofNat bytes.length) ++
      (name ++ [0] ++ rest) ++ bytes

theorem fillFlashFile_read (pBuffer : Memory UInt8) (size : Nat)
    (hname : name.length < cfg.objNameLen) :
    ∃ rest, (name ++ [0] ++ rest).length = cfg.objNameLen ∧
      (fillFlashFile cfg pBuffer name size).read 0 (retFrameSize + (4 + cfg.objNameLen)) =
        retFrame getFlashFileDataResponse ++ u32.encode (UInt32.ofNat size) ++
          (name ++ [0] ++ rest) := by
  obtain ⟨k, hk⟩ := Nat.exists_eq_add_of_lt hname
  have hfield : cfg.objNameLen = (name ++ [0]).length + k := by
    rw [hk, List.length_append, List.length_singleton]
    omega
  rw [fillFlashFile, if_pos hname]
  set head := pBuffer.write 0 (retFrame getFlashFileDataResponse) with hhead
  set sized := head.write retFrameSize (u32.encode (UInt32.ofNat size)) with hsized
  set named := sized.write (retFrameSize + 4) (name ++ [0]) with hnamed
  have hsize : (u32.encode (UInt32.ofNat size)).length = 4 := u32.encode_length _
  have hframe : named.read 0 retFrameSize = retFrame getFlashFileDataResponse := by
    rw [hnamed, Memory.read_write_of_disjoint (.inl (by omega)), hsized,
      Memory.read_write_of_disjoint (.inl (by omega)), hhead,
      ← retFrame_length getFlashFileDataResponse, Memory.read_write]
  have hword : named.read retFrameSize 4 = u32.encode (UInt32.ofNat size) := by
    rw [hnamed, Memory.read_write_of_disjoint (.inl le_rfl), hsized, ← hsize, Memory.read_write]
  have hplace : named.read (retFrameSize + 4) cfg.objNameLen =
      name ++ [0] ++ named.read (retFrameSize + 4 + (name ++ [0]).length) k := by
    rw [hfield, Memory.read_append, hnamed, Memory.read_write]
  refine ⟨named.read (retFrameSize + 4 + (name ++ [0]).length) k, ?_, ?_⟩
  · rw [List.length_append, Memory.read_length, hfield]
  · rw [Memory.read_append, Nat.zero_add, Memory.read_append, hframe, hword, hplace,
      List.append_assoc (retFrame _)]

theorem getFlashReadFileName_eq_some {heap : Option (Memory UInt8)} {reply : FileReply}
    (hshort : Short (V.files (mountFiles spiffs s).1)) (hdevice : isDeviceName name)
    (hname : name.length < cfg.objNameLen)
    (hreply : (getFlashReadFileName cfg spiffs name heap s).2 = some reply) (hread : 0 ≤ reply.read) :
    ∃ bytes, V.files (mountFiles spiffs s).1 name = some bytes ∧ Carries cfg reply.frame name bytes := by
  rw [getFlashReadFileName, withFiles] at hreply
  dsimp only at hreply
  split at hreply
  case isFalse => exact absurd hreply (by simp)
  case isTrue =>
    dsimp only at hreply
    cases heap with
    | none => exact absurd hreply (by simp)
    | some pBuffer =>
      dsimp only at hreply
      split at hreply
      case isFalse => exact absurd hreply (by simp)
      case isTrue hstat =>
        obtain ⟨bytes, hfile, hsize⟩ := V.stat _ _ hstat
        split at hreply
        case isFalse => exact absurd hreply (by simp)
        case isTrue hfd =>
          obtain rfl := Option.some.inj hreply
          obtain ⟨-, hopened, -⟩ := V.openFile _ _ _ hfd
          have hkept : V.files (spiffs.openFile (mountFiles spiffs s).1 name ⟨false, false⟩).1 name =
              some bytes := by rw [openFile_reads, hfile]
          have hdata := (V.read _ _ _ _ _ _ hopened hkept hread).1
          have hbytes : bytes.length ≤ deviceInfoFileSize := hshort name bytes hdevice hfile
          have hsmall : retFrameSize + (4 + cfg.objNameLen) + bytes.length < 2 ^ 32 := by
            have hpage := cfg.page
            simp only [retFrameSize, deviceInfoFileSize] at *
            omega
          obtain ⟨rest, hrest, hframe⟩ := fillFlashFile_read pBuffer bytes.length hname
          refine ⟨bytes, hfile, rest, hrest, ?_⟩
          rw [List.drop_zero, hsize, List.take_length] at hdata
          dsimp only
          rw [hsize, hdata, Nat.mod_eq_of_lt hsmall, ← hframe]
          rw [Memory.read_append, Nat.zero_add, Memory.read_write,
            Memory.read_write_of_disjoint (.inl (Nat.zero_add _).le)]

theorem fileNameAt_length (hdevice : isDeviceName (fileNameAt cfg payload 0)) :
    (fileNameAt cfg payload 0).length < cfg.objNameLen := by
  have hfolder : devicesFolderName.length ≤ (fileNameAt cfg payload 0).length :=
    (List.isPrefixOf_iff_prefix.mp hdevice).length_le
  have htake : (fileNameAt cfg payload 0).length ≤ cfg.objNameLen - 1 := by
    rw [fileNameAt]
    refine (List.takeWhile_prefix _).length_le.trans ?_
    rw [Memory.read_length]
  have height : devicesFolderName.length = 8 := rfl
  omega

/-- A reply to a read carries the record that was stored last, unless there is none. -/
theorem record_read_back (V : View spiffs) (hshort : Short (V.files s)) (ks : List FlashCommand)
    (payload : Memory UInt8) (heap : Option (Memory UInt8)) (reply : FileReply)
    (file : Option (List UInt8)) :
    let get : FlashCommand := .getFlashDataForFileName payload heap
    let name := fileNameAt cfg payload 0
    let s' := exec (flashStep cfg spiffs) s ks
    isDeviceName name → lastSlot cfg spiffs s (ks ++ [get]) name = .known file →
    (getFlashReadFileName cfg spiffs name heap s').2 = some reply → 0 ≤ reply.read →
    ∃ bytes, file = some bytes ∧ Carries cfg reply.frame name bytes := by
  intro get name s' hdevice hslot hreply hread
  have hkept : Kept (lastSlot cfg spiffs s (ks ++ [get])) (V.files (mountFiles spiffs s').1) := by
    have hrun := exec_lastSlot V cfg (ks ++ [get]) hshort
    rwa [exec_concat, flashStep, getFlashReadFileName_files] at hrun
  obtain ⟨bytes, hfile, hcarries⟩ := getFlashReadFileName_eq_some hkept.short hdevice
    (fileNameAt_length hdevice) hreply hread
  have hholds := hkept.holds name
  rw [hslot] at hholds
  exact ⟨bytes, hholds.symm.trans hfile, hcarries⟩

def wordNames : SpiffsConfig := ⟨32, ⟨8, rfl⟩, Nat.le_of_ble_eq_true rfl⟩

def devicePayload (size id type : UInt32) : Memory UInt8 :=
  (Memory.write (fun _ => 0) 0 (u32.encode size ++ devicesFolderName)).write 36
    (u32.encode id ++ u32.encode type)

theorem record_read_back_avds :
    let name := fileNameAt wordNames (Memory.write (fun _ => 0) 0 devicesFolderName) 0
    let s' := exec (flashStep wordNames ramSpiffs) .erased
      [.setFlashDataForFileName (devicePayload 100 5 10)]
    ∃ reply, (getFlashReadFileName wordNames ramSpiffs name (some fun _ => 0) s').2 = some reply ∧
      Carries wordNames reply.frame name (recordAt wordNames (devicePayload 100 5 10)) := by
  intro name s'
  have hshort : Short (ramView.files .erased) := fun _ _ _ h => absurd h (by simp [ramView, RamFiles.erased])
  have hread : (getFlashReadFileName wordNames ramSpiffs name (some fun _ => 0) s').2.map
      FileReply.read = some 100 := by decide +kernel
  obtain ⟨reply, hreply, hstatus⟩ := Option.map_eq_some_iff.mp hread
  obtain ⟨bytes, hbytes, hcarries⟩ := record_read_back ramView hshort
    [.setFlashDataForFileName (devicePayload 100 5 10)]
    (Memory.write (fun _ => 0) 0 devicesFolderName) (some fun _ => 0) reply
    (some (recordAt wordNames (devicePayload 100 5 10))) (by decide +kernel) (by decide +kernel) hreply
    (by rw [hstatus]; decide)
  obtain rfl := Option.some.inj hbytes
  exact ⟨reply, hreply, hcarries⟩

-- ---------------------------------------------------------------------------
-- Loading the devices
-- ---------------------------------------------------------------------------

def DeviceInfo.loadedID (info : DeviceInfo) : Option UInt32 :=
  ((DeviceType.ofWord info.deviceType).bind driver).map fun _ => info.deviceID

/-- A record of a device file; a shorter one is passed over. -/
def Slot.record : Slot → Option (List UInt8)
  | .known (some bytes) => if deviceInfoFileSize ≤ bytes.length then some bytes else none
  | _ => none

def Slot.deviceID (slot : Slot) : Option UInt32 :=
  slot.record.bind fun bytes => (DeviceInfo.load fun a => bytes.getD a 0).loadedID

def Loader.ids (loader : Loader) : List UInt32 := loader.added.map fun b => b.params.deviceID

end SystemMaster.Flash
