import SystemMaster.Library.LinkedQueue
import SystemMaster.Multinet.RelayController

/-!
# The discovery of Multinet boxes

`vALTOMultinetDeviceDiscovery` asks every address for its manufacturing information, first
those of relay boxes, then those of temperature boxes. For a relay box it looks through the
list of workers, and puts a new one in when there is none with the address of the reply.
-/

namespace SystemMaster.Multinet

open Alto LinkedQueue Runs

abbrev Block := Nat

def numRelaysDevices : Nat := 32

structure WorkerParams where
  ui32InterfaceIndex : UInt32
  ui8VersionMajor : UInt8
  ui8VersionMinor : UInt8
  ui8MultinetAddress : Address
  deriving DecidableEq

structure ControllerWorker where
  taskHandle : Option Nat
  fatherDeviceID : UInt32
  controllerWorkerParams : WorkerParams
  hMsgQ : Option Nat
  bIsEnabled : Bool
  deriving DecidableEq

/-- What an exchange finds: whether the transfer succeeds, what lies in `rxbuff` then, with
the stray locals of its conversion, and what is returned for memory, a queue and a task. The
memory has links and fields of before. -/
structure Exchange where
  transferOk : Bool
  rxbuff : Memory UInt8
  uninit : Nat → UInt8
  memory : Option (Block × Elem Block × ControllerWorker)
  hMsgQ : Option Nat
  taskHandle : Option Nat

def Exchange.frame (x : Exchange) : Frame := (convertASCIIToBinary x.uninit x.rxbuff).2

-- ---------------------------------------------------------------------------
-- The discovery
-- ---------------------------------------------------------------------------

/-- The locals of the discovery and the memory it shares: the links of the workers and of
the list, and their fields. `allocated` is a record of the blocks that have been got and
not freed; `myDeviceID` is never set. -/
structure Discovery where
  unitType : Fin 8
  i8address : Nat
  workerParams : WorkerParams
  myDeviceID : UInt32
  elem : Links Block
  worker : Block → ControllerWorker
  allocated : List Block

namespace Discovery

def address (d : Discovery) (b : Block) : Address :=
  (d.worker b).controllerWorkerParams.ui8MultinetAddress

/-- The loop of a search, from `elem` on, for at most so many tests of its condition. -/
def search (d : Discovery) (address : Address) : Nat → Option Block → Option Block →
    Option (Option Block)
  | 0, _, _ => none
  | _ + 1, none, pRetWorker => some pRetWorker
  | fuel + 1, some pWorker, pRetWorker =>
    d.search address fuel (d.elem (some pWorker)).next
      (if d.address pWorker = address then some pWorker else pRetWorker)

/-- `ptALTOMultinet_findControllerWorkerInList`; `none` when it does not return. -/
def findControllerWorkerInList (d : Discovery) (address : Address) : Option (Option Block) :=
  d.search address (d.allocated.length + 1) (d.elem none).next none

def fill (d : Discovery) (x : Exchange) (garbage : ControllerWorker) : ControllerWorker :=
  { garbage with
    fatherDeviceID := d.myDeviceID
    controllerWorkerParams := d.workerParams
    hMsgQ := x.hMsgQ }

/-- `ptALTOMultinet_addControllerWorkerToList`. A block that is in use is not got again. -/
def addControllerWorkerToList (d : Discovery) (x : Exchange) : Discovery :=
  match x.memory with
  | none => d
  | some (b, links, garbage) =>
    if b ∈ d.allocated then d
    else
      let w := { d.fill x garbage with taskHandle := x.taskHandle }
      let d := { d with
        elem := Function.update d.elem (some b) links
        allocated := d.allocated ++ [b] }
      match x.taskHandle with
      | some _ =>
        { d with
          worker := Function.update d.worker b { w with bIsEnabled := true }
          elem := put d.elem b }
      | none =>
        { d with
          worker := Function.update d.worker b w
          allocated := d.allocated.erase b }

def setWorkerParams (d : Discovery) (f : Frame) : Discovery :=
  { d with
    workerParams :=
      { d.workerParams with
        ui8VersionMajor := f.data[0]?.getD 0
        ui8VersionMinor := f.data[1]?.getD 0
        ui8MultinetAddress := f.sequence } }

/-- What is done with a reply, by the type of unit that was asked for. -/
def reply (d : Discovery) (x : Exchange) : Discovery :=
  if x.transferOk then
    if bccCheck x.frame = 0 then
      let d := d.setWorkerParams x.frame
      match d.findControllerWorkerInList d.workerParams.ui8MultinetAddress with
      | some none => if d.unitType = relayBox then d.addControllerWorkerToList x else d
      | _ => d
    else d
  else d

/-- The next address, and behind the last one the first of the other type of unit. -/
def next (d : Discovery) : Discovery :=
  if d.i8address + 1 < numRelaysDevices then { d with i8address := d.i8address + 1 }
  else
    { d with
      i8address := 0
      unitType := if d.unitType = relayBox then temperatureBox else relayBox }

def step (d : Discovery) (x : Exchange) : Discovery := (d.reply x).next

/-- What the task finds when it is started: its interface, and memory of before. -/
structure Boot where
  ui32InterfaceIndex : UInt32
  myDeviceID : UInt32
  elem : Links Block
  worker : Block → ControllerWorker

/-- At the start of the first round, with the list empty. -/
def start (m : Boot) : Discovery where
  unitType := relayBox
  i8address := 0
  workerParams := ⟨m.ui32InterfaceIndex, 0, 0, 0⟩
  myDeviceID := m.myDeviceID
  elem := Function.update m.elem none ⟨none, none⟩
  worker := m.worker
  allocated := []

/-- `vALTOMultinetDeviceDiscovery` after these exchanges. -/
def after (m : Boot) (xs : List Exchange) : Discovery := exec step (start m) xs

end Discovery

/-- The list holds the blocks `l` and no other block is allocated; each worker has an
address of its own. -/
structure Discovery.Kept (d : Discovery) (l : List Block) : Prop where
  linked : Linked d.elem l
  addresses : (l.map d.address).Nodup
  allocated : d.allocated = l

variable {d : Discovery} {x : Exchange} {l : List Block} {b : Block} {elem : Option Block}
  {found : Option Block} {address : Address} {fuel : Nat}

namespace Discovery

theorem search_eq (h : LinkedQueue.Path d.elem elem l) (hfuel : l.length < fuel) :
    d.search address fuel (d.elem elem).next found =
      some ((l.reverse.find? (d.address · = address)).or found) := by
  rw [← Search.foldl_last]
  induction l generalizing elem fuel found with
  | nil =>
    obtain ⟨fuel, rfl⟩ := Nat.exists_eq_succ_of_ne_zero (Nat.ne_zero_of_lt hfuel)
    rw [h.1]
    rfl
  | cons c l ih =>
    obtain ⟨fuel, rfl⟩ := Nat.exists_eq_succ_of_ne_zero (Nat.ne_zero_of_lt hfuel)
    rw [h.1, search, ih h.2.2 (Nat.lt_of_succ_lt_succ hfuel), List.foldl_cons]

theorem Kept.find_eq (h : d.Kept l) :
    d.findControllerWorkerInList address = some (l.reverse.find? (d.address · = address)) := by
  rw [findControllerWorkerInList, h.allocated, search_eq h.linked.path (Nat.lt_succ_self _),
    Option.or_none]

theorem Kept.find_none (h : d.Kept l) :
    d.findControllerWorkerInList address = some none ↔ address ∉ l.map d.address := by
  simp [h.find_eq]

theorem Kept.find_some (h : d.Kept l) :
    d.findControllerWorkerInList address = some (some b) ↔ b ∈ l ∧ d.address b = address := by
  rw [h.find_eq, Option.some.injEq]
  constructor
  · intro hfind
    exact ⟨List.mem_reverse.mp (List.mem_of_find?_eq_some hfind),
      by simpa using List.find?_some hfind⟩
  · rintro ⟨hb, rfl⟩
    cases hfind : l.reverse.find? (d.address · = d.address b) with
    | none => simpa using List.find?_eq_none.mp hfind b (List.mem_reverse.mpr hb)
    | some c =>
      have hc : c ∈ l := List.mem_reverse.mp (List.mem_of_find?_eq_some hfind)
      have heq : d.address c = d.address b := by simpa using List.find?_some hfind
      rw [List.inj_on_of_nodup_map h.addresses hc hb heq]

-- ---------------------------------------------------------------------------
-- One reply
-- ---------------------------------------------------------------------------

/-- After the step the list is as before, with the same workers, or has one more. -/
def Grown (d d' : Discovery) (l : List Block) : Prop :=
  ∃ l', d'.Kept (l ++ l') ∧ ∀ b ∈ l, d'.worker b = d.worker b

theorem Kept.grown (h : d.Kept l) : Grown d d l := ⟨[], by rwa [List.append_nil], fun _ _ => rfl⟩

theorem map_address {d' : Discovery} (h : ∀ c ∈ l, d'.worker c = d.worker c) :
    l.map d'.address = l.map d.address :=
  List.map_congr_left fun c hc => by rw [address, address, h c hc]

theorem Kept.add (h : d.Kept l)
    (hnew : d.workerParams.ui8MultinetAddress ∉ l.map d.address) :
    Grown d (d.addControllerWorkerToList x) l := by
  unfold addControllerWorkerToList
  cases x.memory with
  | none => exact h.grown
  | some memory =>
    obtain ⟨b, links, garbage⟩ := memory
    dsimp only
    split
    case isTrue => exact h.grown
    case isFalse hb =>
      rw [h.allocated] at hb ⊢
      have hlinked := h.linked.update hb links
      have hsame : ∀ w, ∀ c ∈ l, Function.update d.worker b w c = d.worker c := by
        intro w c hc
        exact Function.update_of_ne (ne_of_mem_of_not_mem hc hb) ..
      cases x.taskHandle with
      | none =>
        refine ⟨[], ⟨?_, ?_, ?_⟩, hsame _⟩
        · rwa [List.append_nil]
        · rw [List.append_nil, map_address (hsame _)]
          exact h.addresses
        · simp only [List.erase_append_right _ hb, List.erase_cons_head]
      | some handle =>
        refine ⟨[b], ⟨hlinked.put hb, ?_, rfl⟩, hsame _⟩
        rw [List.map_append, map_address (hsame _), List.nodup_append_comm]
        refine List.nodup_cons.mpr ⟨?_, h.addresses⟩
        simp only [address, Function.update_self]
        exact hnew

theorem Kept.setWorkerParams (h : d.Kept l) (f : Frame) : (d.setWorkerParams f).Kept l :=
  ⟨h.linked, h.addresses, h.allocated⟩

theorem Grown.of_setWorkerParams {d' : Discovery} {f : Frame}
    (h : Grown (d.setWorkerParams f) d' l) : Grown d d' l := by
  obtain ⟨l', hkept, hworkers⟩ := h
  exact ⟨l', hkept, hworkers⟩

theorem Kept.reply (h : d.Kept l) : Grown d (d.reply x) l := by
  have hparams := h.setWorkerParams x.frame
  unfold Discovery.reply
  split
  case isFalse => exact h.grown
  split
  case isFalse => exact h.grown
  refine Grown.of_setWorkerParams (f := x.frame) ?_
  dsimp only
  split
  case h_2 => exact hparams.grown
  case h_1 hfind =>
    split
    case isTrue => exact hparams.add (hparams.find_none.mp hfind)
    case isFalse => exact hparams.grown

theorem Kept.next (h : d.Kept l) : d.next.Kept l := by
  unfold Discovery.next
  split <;> exact ⟨h.linked, h.addresses, h.allocated⟩

theorem next_worker : d.next.worker = d.worker := by
  unfold next
  split <;> rfl

theorem Kept.step (h : d.Kept l) : Grown d (d.step x) l := by
  obtain ⟨l', hkept, hworkers⟩ := h.reply (x := x)
  exact ⟨l', hkept.next, fun b hb => by rw [Discovery.step, next_worker, hworkers b hb]⟩

theorem Kept.exec (h : d.Kept l) (xs : List Exchange) :
    Grown d (exec Discovery.step d xs) l := by
  induction xs generalizing d l with
  | nil => exact h.grown
  | cons x xs ih =>
    obtain ⟨l', hkept, hworkers⟩ := h.step (x := x)
    obtain ⟨l'', hlast, hlater⟩ := ih hkept
    refine ⟨l' ++ l'', ?_, fun b hb => ?_⟩
    · rwa [← List.append_assoc]
    · exact (hlater b (List.mem_append_left _ hb)).trans (hworkers b hb)

theorem start_kept (m : Boot) : (start m).Kept [] :=
  ⟨⟨List.nodup_nil, by simp [start, LinkedQueue.Path]⟩, List.nodup_nil, rfl⟩

theorem after_append (m : Boot) (xs ys : List Exchange) :
    after m (xs ++ ys) = Runs.exec step (after m xs) ys :=
  List.foldl_append

/-- After any replies the list has one worker for an address. After any more of them it
still has these workers, as they were, and a search for the address of one finds it. -/
theorem workers_unique_and_kept (m : Boot) (xs ys : List Exchange) :
    ∃ l l', (after m xs).Kept l ∧ (after m (xs ++ ys)).Kept (l ++ l') ∧
      ∀ b ∈ l, (after m (xs ++ ys)).worker b = (after m xs).worker b ∧
        (after m (xs ++ ys)).findControllerWorkerInList ((after m xs).address b) =
          some (some b) := by
  obtain ⟨l, hxs, -⟩ := (start_kept m).exec xs
  rw [List.nil_append] at hxs
  obtain ⟨l', hys, hworkers⟩ := hxs.exec ys
  refine ⟨l, l', hxs, ?_, ?_⟩
  · rwa [after_append]
  · intro b hb
    rw [after_append]
    have hsame := hworkers b hb
    refine ⟨hsame, hys.find_some.mpr ⟨List.mem_append_left _ hb, ?_⟩⟩
    rw [address, hsame]
    rfl

end Discovery

theorem exec_register (box : Address → Fin 32 → Bool) {ds : List Address} (h : ds.Nodup) :
    (exec System.step .start (ds.map fun D => .register D (box D))).hControllersList = ds := by
  induction ds using List.reverseRecOn with
  | nil => rfl
  | append_singleton ds D ih =>
    have hD : D ∉ ds := by
      rw [List.nodup_append_comm] at h
      exact (List.nodup_cons.mp h).1
    rw [List.map_append, List.map_singleton, exec_concat, System.step, System.register,
      ih h.of_append_left, findControllerWorkerInList_eq, if_neg hD]

theorem discovery_registers (m : Discovery.Boot) (xs : List Exchange)
    (box : Address → Fin 32 → Bool) :
    ∃ (l : List Block) (ds : List Address), (Discovery.after m xs).Kept l ∧
      (exec System.step .start (ds.map fun D => .register D (box D))).hControllersList =
        l.map (Discovery.after m xs).address := by
  obtain ⟨l, hkept, -⟩ := (Discovery.start_kept m).exec xs
  exact ⟨l, _, hkept, exec_register box hkept.addresses⟩

end SystemMaster.Multinet
