import SystemMaster.Library.Tasks

/-!
# Operations on the flash file system

Each operation takes the storage's semaphore and its mount gate, mounts the
file system, works on it, unmounts it and gives both back. On a storage that is
not initialized it only waits in `bSFFS_waitForInit`. Operations of several
tasks run interleaved; what SPIFFS, the heap and the sockets answer is given
with each access.
-/

namespace SystemMaster.Flash

open Tasks

def waitForever : Nat := 0xFFFFFFFF

def spiffsOK : Int := 0

/-- A file SPIFFS lists, with its answers to open, read and close. -/
structure Dirent where
  name : List UInt8
  size : Nat
  openFd : Int
  read : Int
  close : Int

/-- The answers an operation gets while it has the storage. `notAFS` says that
the first mount failed with `SPIFFS_ERR_NOT_A_FS`; `uninit` is a local the
operation has not set. -/
structure Answers where
  mount : Int
  notAFS : Bool
  remount : Int
  openFd : Int
  transferred : Int
  stat : Int
  size : Nat
  allocated : Bool
  dirents : List Dirent
  reads : List Int
  recvs : List (Int × Int)
  uninit : Int

inductive Sent where
  | deviceList (numbOfDevices : Nat)
  | configurationFile (numbOfDevices : Nat)
  | file (fileSize : Nat)
  deriving DecidableEq

structure Reply where
  retValue : Int
  sent : Option Sent
  deriving DecidableEq

def Reply.value (retValue : Int) : Reply := ⟨retValue, none⟩

-- ---------------------------------------------------------------------------
-- Work on the file system
-- ---------------------------------------------------------------------------

/-- `bStorageFFS_mount`: its value and the mounted flag it leaves. -/
def storageFFSMount (a : Answers) (mounted : Bool) : Bool × Bool :=
  if mounted then (true, mounted)
  else if a.mount = spiffsOK then (true, true)
  else if a.notAFS then
    -- the memory is formatted and mounted again
    if a.remount = spiffsOK then (true, true) else (false, false)
  else (false, false)

def storageFFSUnmount (mounted : Bool) : Bool × Bool :=
  if mounted then (true, false) else (false, mounted)

/-- The flag and the reply after work between a mount and an unmount; the work
is left out when the mount fails, and `none` while it has not ended. -/
def withMount (a : Answers) (mounted : Bool) (work : Option Reply) : Option (Bool × Reply) :=
  match storageFFSMount a mounted with
  | (true, mounted) => work.map fun reply => ((storageFFSUnmount mounted).2, reply)
  | (false, mounted) => some (mounted, .value 0)

def transferFile (a : Answers) : Reply :=
  if a.openFd < 0 then .value (-1) else .value a.transferred

def devicesFolderName : List UInt8 :=
  ['d', 'e', 'v', 'i', 'c', 'e', 's', '/'].map Char.toUInt8

/-- `sizeof(IFS_deviceInfoFile_t)`: nine words and the description. -/
def deviceInfoFileSize : Nat := 9 * 4 + 64

def isDeviceName (name : List UInt8) : Bool := devicesFolderName.isPrefixOf name

def Dirent.isDevice (e : Dirent) : Bool := isDeviceName e.name && deviceInfoFileSize ≤ e.size

def readDeviceFile (retValue : Int) (e : Dirent) : Int :=
  if e.isDevice then
    if e.openFd < 0 then -1
    else if e.close < 0 then -3
    else if e.read < 0 then -2
    else retValue
  else retValue

def readDevices (a : Answers) : Reply := .value (a.dirents.foldl readDeviceFile 0)

def deviceCounter (a : Answers) : Nat := a.dirents.countP Dirent.isDevice

def sendIf (sends : Bool) (what : Sent) : Reply := ⟨0, if sends then some what else none⟩

/-- The reads of a file of `fileSize` bytes, until all are read or one fails. -/
def sendContent : Int → List Int → Option Reply
  | fileSize, reads =>
    if fileSize ≤ 0 then some (.value 0)
    else
      match reads with
      | [] => none
      | contentRead :: reads =>
        if contentRead < 0 then some (.value 0) else sendContent (fileSize - contentRead) reads

/-- The reads of a socket and the writes of what they bring. A read that fails
adds to the length still to come. -/
def storeContent : Int → List (Int × Int) → Option Reply
  | contentLength, recvs =>
    if contentLength ≤ 0 then some (.value 0)
    else
      match recvs with
      | [] => none
      | (nbytes, written) :: recvs =>
        if nbytes > 0 ∧ written < 0 then some (.value 0)
        else storeContent (contentLength - nbytes) recvs

def getFileHTTP (a : Answers) : Option Reply :=
  if a.openFd ≥ 0 ∧ a.size > 0 ∧ a.allocated then sendContent a.size a.reads else some (.value 0)

def setFileHTTP (a : Answers) (contentLength : Int) : Option Reply :=
  if contentLength > 0 ∧ a.openFd ≥ 0 ∧ a.allocated then storeContent contentLength a.recvs
  else some (.value 0)

-- ---------------------------------------------------------------------------
-- The operations
-- ---------------------------------------------------------------------------

/-- `SFFS_File_Params`, as far as they are checked. -/
structure FileParams where
  path : Option (List UInt8)
  buf : Option (List UInt8)
  deriving DecidableEq

structure FileData where
  fileSize : Nat
  fileName : List UInt8
  deriving DecidableEq

inductive Op where
  | write (params : Option FileParams)
  | read (params : Option FileParams)
  | getStatus
  | format
  | readDevicesConfiguration
  | getFlashDeviceListEthernet
  | getFlashReadFileNameEthernet
  | setFlashDataFileNameEthernet (payload : FileData)
  | removeFileNameEthernet (payload : FileData)
  | getFlashConfigurationFileEthernet
  | getFlashDataFileNameHTTP
  | setFlashDataFileNameHTTP (contentLength : Int)
  deriving DecidableEq

def paramsGiven : Option FileParams → Bool
  | some ⟨some _, some _⟩ => true
  | _ => false

def Op.accepts : Op → Bool
  | .write params | .read params => paramsGiven params
  | .setFlashDataFileNameEthernet payload =>
    deviceInfoFileSize ≤ payload.fileSize && isDeviceName payload.fileName
  | .removeFileNameEthernet payload => payload.fileSize = 0 && isDeviceName payload.fileName
  | _ => true

/-- The work of an operation between entering and leaving the mount gate: the
mounted flag it leaves and its reply. -/
def Op.access (op : Op) (a : Answers) (mounted : Bool) : Option (Bool × Reply) :=
  match op with
  | .write _ | .read _ => withMount a mounted (some (transferFile a))
  -- both mount and unmount by themselves, whatever the flag and the status are
  | .getStatus | .format => some (false, .value a.mount)
  | .readDevicesConfiguration => withMount a mounted (some (readDevices a))
  | .getFlashDeviceListEthernet =>
    withMount a mounted (some (sendIf a.allocated (.deviceList (deviceCounter a))))
  | .getFlashReadFileNameEthernet =>
    withMount a mounted
      (some (sendIf (0 ≤ a.stat && a.allocated && 0 ≤ a.openFd) (.file a.size)))
  | .setFlashDataFileNameEthernet _ | .removeFileNameEthernet _ =>
    withMount a mounted (some (.value 0))
  | .getFlashConfigurationFileEthernet =>
    withMount a mounted (some (sendIf a.allocated (.configurationFile (deviceCounter a))))
  | .getFlashDataFileNameHTTP => withMount a mounted (getFileHTTP a)
  | .setFlashDataFileNameHTTP contentLength => withMount a mounted (setFileHTTP a contentLength)

def Op.timedOut (op : Op) (a : Answers) : Reply :=
  match op with
  | .getStatus | .format => .value a.uninit
  | _ => .value 0

def Op.notInitialized : Op → Reply
  | .getStatus | .format => .value (-1)
  | _ => .value 0

-- ---------------------------------------------------------------------------
-- The locks
-- ---------------------------------------------------------------------------

/-- The state of `SFFS_Object`, its semaphore and its gates. -/
structure Storage where
  initialized : Bool
  mounted : Bool
  semInitialized : Nat
  gateWait : Bool
  gateMount : Bool
  deriving DecidableEq

/-- After `xStorageFFS_init` and `hStorageFFS_open`; `configured` says whether
`SPIFFSNVS_config` succeeded. -/
def Storage.opened (configured : Bool) : Storage where
  initialized := configured
  mounted := false
  semInitialized := 1
  gateWait := false
  gateMount := false

structure Storage.Idle (s : Storage) : Prop where
  semInitialized : s.semInitialized = 1
  gateWait : s.gateWait = false
  gateMount : s.gateMount = false
  mounted : s.mounted = false

/-- `Semaphore_pend`: its value and the count it leaves; `none` while it waits. -/
def semaphorePend (count timeout : Nat) : Option (Bool × Nat) :=
  if 0 < count then some (true, count - 1)
  else if timeout = waitForever then none
  else some (false, count)

structure Call where
  op : Op
  handle : Bool
  timeout : Nat
  deriving DecidableEq

def Call.stopped (c : Call) : Bool := !(c.handle && c.op.accepts)

/-- Where an operation is: before the action of this name. -/
inductive Point where
  | pendInitialized
  | enterMount
  | access
  | leaveMount (reply : Reply)
  | post (reply : Reply)
  | enterWait
  | pendWait
  | leaveWait
  deriving DecidableEq

structure Operation where
  call : Call
  point : Point
  deriving DecidableEq

inductive Outcome where
  | continues (point : Point)
  | returns (reply : Reply)

def Storage.begin (s : Storage) (c : Call) : Multiset Operation :=
  if c.stopped then 0 else {⟨c, if s.initialized then .pendInitialized else .enterWait⟩}

def Operation.action (s : Storage) (o : Operation) (a : Answers) : Option (Storage × Outcome) :=
  match o.point with
  | .pendInitialized =>
    (semaphorePend s.semInitialized o.call.timeout).map fun (acquired, count) =>
      ({ s with semInitialized := count },
        if acquired then .continues .enterMount else .returns (o.call.op.timedOut a))
  | .enterMount =>
    if s.gateMount then none else some ({ s with gateMount := true }, .continues .access)
  | .access =>
    (o.call.op.access a s.mounted).map fun (mounted, reply) =>
      ({ s with mounted := mounted }, .continues (.leaveMount reply))
  | .leaveMount reply => some ({ s with gateMount := false }, .continues (.post reply))
  | .post reply => some ({ s with semInitialized := 1 }, .returns reply)
  -- `bSFFS_waitForInit`: the semaphore it gets is not given back
  | .enterWait =>
    if s.gateWait then none
    else some ({ s with gateWait := true },
      .continues (if s.initialized then .leaveWait else .pendWait))
  | .pendWait =>
    (semaphorePend s.semInitialized o.call.timeout).map fun (_, count) =>
      ({ s with semInitialized := count }, .continues .leaveWait)
  | .leaveWait => some ({ s with gateWait := false }, .returns o.call.op.notInitialized)

def Outcome.tasks (call : Call) : Outcome → Multiset Operation
  | .continues point => {⟨call, point⟩}
  | .returns _ => 0

def program : Program Storage Operation Answers Call where
  arrive := Storage.begin
  act s o a := (o.action s a).map fun (s, outcome) => (s, outcome.tasks o.call)

end SystemMaster.Flash
