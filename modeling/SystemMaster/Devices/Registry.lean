import SystemMaster.Devices.Params
import SystemMaster.Library.LinkedQueue
import SystemMaster.Library.Runs

/-!
# The device list

Devices are blocks of a heap, linked into a queue that other tasks walk.
`xDevice_add` links a block in before the device has its id, its event and its
message queue; `vDevice_remove` frees the block and leaves it linked.
-/

namespace SystemMaster.Devices

open LinkedQueue Runs

-- ---------------------------------------------------------------------------
-- Devices
-- ---------------------------------------------------------------------------

/-- A block of `g_hDevicesListHeap`, of `DEVICES_MAX_NUM_LIST`. -/
abbrev Block := Fin 32

/-- What the open functions do differently: `GenericDevice_args` from the heap, in place
of the id and the type, the type they set, and whether there is a clock. -/
structure OpenFxn where
  args : Bool
  deviceType : Option DeviceType
  clock : Bool

def hTestDeviceOpen : OpenFxn := ⟨false, none, true⟩
def hALTOMultinetDeviceOpen : OpenFxn := ⟨false, some .altoMultinet, true⟩
def hTCPRCBinDeviceOpen : OpenFxn := ⟨false, some .tcpRemoteControllerBinary, false⟩
def hTCPRCDeviceOpen : OpenFxn := ⟨false, some .tcpRemoteControllerAscii, false⟩
def hGeneticDeviceOpen : OpenFxn := ⟨true, none, true⟩
def hAVDSDeviceOpen : OpenFxn := ⟨false, some .avds, true⟩
def hAVDS485DeviceOpen : OpenFxn := ⟨false, some .avds, true⟩
def hRosenDeviceOpen : OpenFxn := ⟨false, some .rosen, true⟩
def hRosen485DeviceOpen : OpenFxn := ⟨false, some .rosen, true⟩
def hUSBRCBinaryDeviceOpen : OpenFxn := ⟨false, some .usbRemoteControlBinary, true⟩
def hUSBConsoleDeviceOpen : OpenFxn := ⟨false, some .usbRemoteControlConsole, true⟩

/-- `Device_FxnTable`; the close functions are all alike. -/
structure DeviceFxnTable where
  closeFxn : Bool
  openFxn : Option OpenFxn

/-- `Device_Params`, as far as it is used. -/
structure AddParams where
  deviceID : UInt32
  deviceType : DeviceType
  fxnTablePtr : DeviceFxnTable

/-- `DevicesList_t` but for its links. Handles are numbers, NULL is `none`. -/
structure DevicesList where
  deviceID : UInt32
  deviceType : Option DeviceType
  fxnTablePtr : Option DeviceFxnTable
  taskHandle : Option Nat
  msgQHandle : Option Nat
  eventHandle : Option Nat
  clockHandle : Option Nat
  opened : Bool

/-- Where the `xDevice_add` is that got a block. From `queue` on it is known whether
`Event_create` gave a handle; `complete` is that all parts of the device were made. -/
inductive AddPoint where
  | free
  | put (p : AddParams)
  | fxnTable (p : AddParams)
  | type (p : AddParams)
  | id (p : AddParams)
  | openFxn (p : AddParams)
  | args (p : AddParams) (o : OpenFxn)
  | openID (p : AddParams) (o : OpenFxn)
  | openType (p : AddParams) (o : OpenFxn)
  | event (p : AddParams) (o : OpenFxn)
  | queue (p : AddParams) (o : OpenFxn) (hasEvent : Bool)
  | clock (p : AddParams) (hasEvent : Bool)
  | task (p : AddParams) (hasEvent : Bool)
  | returned (p : AddParams) (complete : Bool)

namespace AddPoint

def isPut : AddPoint → Bool
  | free | put _ => false
  | _ => true

def isComplete : AddPoint → Bool
  | clock _ hasEvent | task _ hasEvent | returned _ hasEvent => hasEvent
  | _ => false

def params : AddPoint → Option AddParams
  | free => none
  | put p | fxnTable p | type p | id p | openFxn p | args p _ | openID p _ | openType p _
  | event p _ | queue p _ _ | clock p _ | task p _ | returned p _ => some p

end AddPoint

/-- The next statement of `xDevice_add` or of the open function, but for `Queue_put`.
Where `answer` is what a function of the kernel returns, an abort leaves all as it is. -/
def DevicesList.addNext (d : DevicesList) (answer : Option Nat) :
    AddPoint → DevicesList × AddPoint
  | .free => (d, .free)
  | .put p => (d, .put p)
  | .fxnTable p => ({ d with fxnTablePtr := some p.fxnTablePtr }, .type p)
  | .type p => ({ d with deviceType := some p.deviceType }, .id p)
  | .id p => ({ d with deviceID := p.deviceID }, .openFxn p)
  | .openFxn p =>
    match p.fxnTablePtr.openFxn with
    | none => (d, .returned p false)
    | some o =>
      if d.opened then (d, .returned p false)
      else ({ d with opened := true }, if o.args then .args p o else .openID p o)
  | .args p o =>
    match answer with
    | some _ => (d, .event p o)
    | none => (d, .returned p false)
  | .openID p o => ({ d with deviceID := p.deviceID }, .openType p o)
  | .openType p o =>
    match o.deviceType with
    | some deviceType => ({ d with deviceType := some deviceType }, .event p o)
    | none => (d, .event p o)
  | .event p o => ({ d with eventHandle := answer }, .queue p o answer.isSome)
  | .queue p o hasEvent =>
    match answer with
    | some handle =>
      ({ d with msgQHandle := some handle }, if o.clock then .clock p hasEvent else .task p hasEvent)
    | none => (d, .queue p o hasEvent)
  | .clock p hasEvent =>
    match answer with
    | some handle => ({ d with clockHandle := some handle }, .task p hasEvent)
    | none => (d, .clock p hasEvent)
  | .task p hasEvent => ({ d with taskHandle := answer }, .returned p hasEvent)
  | .returned p complete => (d, .returned p complete)

-- ---------------------------------------------------------------------------
-- Tasks
-- ---------------------------------------------------------------------------

/-- The loops over the list: a send by id with the number of devices it was sent to, and
the two of the RAM device list. -/
inductive Walk where
  | send (deviceID : UInt32) (retVal : Nat)
  | count (counter : Nat)
  | list (counter : Nat) (rows : List (UInt32 × Option DeviceType))

inductive Point where
  | returned (w : Option Walk)
  | removeClose (b : Block)
  | removePost (b : Block)
  | removeFree (b : Block)
  | head (w : Walk)
  | test (w : Walk) (elem : Option Block)
  | read (w : Walk) (b : Block)
  | enqueue (w : Walk) (b : Block)
  | next (w : Walk) (b : Block)

def Point.block : Point → Option Block
  | returned _ | head _ => none
  | test _ elem => elem
  | removeClose b | removePost b | removeFree b | read _ b | enqueue _ b | next _ b => some b

def Point.touched : Point → Option Block
  | read _ b | enqueue _ b | next _ b => some b
  | _ => none

/-- The list, the blocks with the calls that got them, and the tasks. `added` is a
record: the devices put into the list and not freed, in order. -/
structure Registry where
  elem : Links Block
  device : Block → DevicesList
  add : Block → AddPoint
  task : Nat → Point
  added : List Block

/-- A call, or the next statement of one. Where the heap takes or gives a block it may
leave anything in the block's links. -/
inductive Label where
  | add (p : AddParams) (block : Option (Block × Elem Block))
  | nextOfAdd (b : Block) (answer : Option Nat)
  | remove (t : Nat) (handle : Option Block)
  | send (t : Nat) (deviceID : UInt32)
  | ramDeviceList (t : Nat)
  | next (t : Nat) (answer : Option Nat) (elem : Elem Block)

namespace Registry

def goto (r : Registry) (t : Nat) (p : Point) : Registry :=
  { r with task := Function.update r.task t p }

def call (r : Registry) (t : Nat) (p : Point) : Registry :=
  match r.task t with
  | .returned _ => r.goto t p
  | _ => r

def alloc (r : Registry) (p : AddParams) (b : Block) (e : Elem Block) : Registry :=
  match r.add b with
  | .free =>
    { r with elem := Function.update r.elem (some b) e, add := Function.update r.add b (.put p) }
  | _ => r

def nextOfAdd (r : Registry) (b : Block) (answer : Option Nat) : Registry :=
  match r.add b with
  | .put p =>
    { r with
      elem := put r.elem b
      add := Function.update r.add b (.fxnTable p)
      added := r.added ++ [b] }
  | a =>
    let (d, a) := (r.device b).addNext answer a
    { r with device := Function.update r.device b d, add := Function.update r.add b a }

def close (r : Registry) (t : Nat) (b : Block) : Registry :=
  let d := r.device b
  if d.fxnTablePtr.any (·.closeFxn) && d.opened then
    { r with device := Function.update r.device b { d with opened := false } }.goto t (.removePost b)
  else r.goto t (.removeFree b)

def free (r : Registry) (b : Block) (e : Elem Block) : Registry :=
  { r with
    elem := Function.update r.elem (some b) e
    add := Function.update r.add b .free
    added := r.added.erase b }

def body (r : Registry) (t : Nat) (w : Walk) (b : Block) : Registry :=
  match w with
  | .send deviceID retVal =>
    if (r.device b).deviceID = deviceID then r.goto t (.enqueue (.send deviceID (retVal + 1)) b)
    else r.goto t (.next w b)
  | .count counter => r.goto t (.next (.count counter) b)
  | .list counter rows =>
    r.goto t (.next (.list counter (rows ++ [((r.device b).deviceID, (r.device b).deviceType)])) b)

def test (r : Registry) (t : Nat) (w : Walk) (elem : Option Block) (answer : Option Nat) :
    Registry :=
  match elem, w with
  | none, .count counter =>
    match answer with
    | some _ => r.goto t (.head (.list counter []))
    | none => r.goto t (.returned none)
  | none, w => r.goto t (.returned (some w))
  | some b, .count counter => r.goto t (.next (.count (counter + 1)) b)
  | some b, w => r.goto t (.read w b)

def next (r : Registry) (t : Nat) (answer : Option Nat) (e : Elem Block) : Registry :=
  match r.task t with
  | .returned _ => r
  | .removeClose b => r.close t b
  | .removePost b => r.goto t (.removeFree b)
  | .removeFree b => (r.free b e).goto t (.returned none)
  | .head w => r.goto t (.test w (r.elem none).next)
  | .test w elem => r.test t w elem answer
  | .read w b => r.body t w b
  | .enqueue w b => r.goto t (.next w b)
  | .next w b => r.goto t (.test w (r.elem (some b)).next)

def step (r : Registry) : Label → Registry
  | .add p (some (b, e)) => r.alloc p b e
  | .add _ none => r
  | .nextOfAdd b answer => r.nextOfAdd b answer
  | .remove t (some b) => if b ∈ r.added then r.call t (.removeClose b) else r
  | .remove _ none => r
  | .send t deviceID => r.call t (.head (.send deviceID 0))
  | .ramDeviceList t => r.call t (.head (.count 0))
  | .next t answer e => r.next t answer e

/-- After `vDevice_init`; the heap is of zeros. -/
def init : Registry where
  elem := fun _ => ⟨none, none⟩
  device := fun _ => ⟨0, none, none, none, none, none, none, false⟩
  add := fun _ => .free
  task := fun _ => .returned none
  added := []

end Registry

/-- A device that is in the list and has the id it was added with, its queue and its event. -/
structure Registry.Ready (r : Registry) (b : Block) : Prop where
  live : b ∈ r.added
  deviceID : ∃ p, (r.add b).params = some p ∧ (r.device b).deviceID = p.deviceID
  msgQHandle : (r.device b).msgQHandle.isSome
  eventHandle : (r.device b).eventHandle.isSome

/-- A step of a walk looks at nothing but devices that are ready. -/
def Registry.TouchesReady (r : Registry) : Label → Prop
  | .next t _ _ => ∀ b, (r.task t).touched = some b → r.Ready b
  | _ => True

/-- No device is freed, and no walk looks at one before its `xDevice_add` has got past
`Queue_create`, with an event. -/
def Registry.Undisturbed (r : Registry) : Label → Prop
  | .next t _ _ =>
    (∀ b, r.task t ≠ .removeFree b) ∧ ∀ b, (r.task t).touched = some b → (r.add b).isComplete
  | _ => True

/-- What a block holds while the call that got it goes on. -/
def DevicesList.Ok (d : DevicesList) : AddPoint → Prop
  | .free | .put _ | .fxnTable _ | .type _ | .id _ =>
    d.opened = false ∧ d.eventHandle = none ∧ d.msgQHandle = none
  | .openFxn p =>
    d.deviceID = p.deviceID ∧ d.opened = false ∧ d.eventHandle = none ∧ d.msgQHandle = none
  | .args p _ | .openID p _ | .openType p _ | .event p _ =>
    d.deviceID = p.deviceID ∧ d.eventHandle = none ∧ d.msgQHandle = none
  | .queue p _ hasEvent =>
    d.deviceID = p.deviceID ∧ d.eventHandle.isSome = hasEvent ∧ d.msgQHandle = none
  | .clock p hasEvent | .task p hasEvent =>
    d.deviceID = p.deviceID ∧ d.eventHandle.isSome = hasEvent ∧ d.msgQHandle.isSome
  | .returned p complete =>
    d.deviceID = p.deviceID ∧ (d.eventHandle.isSome && d.msgQHandle.isSome) = complete

structure Registry.Inv (r : Registry) : Prop where
  linked : Linked r.elem r.added
  mem_added : ∀ b, b ∈ r.added ↔ (r.add b).isPut
  devices : ∀ b, (r.device b).Ok (r.add b)
  tasks : ∀ t b, (r.task t).block = some b → b ∈ r.added

variable {r : Registry} {b : Block} {t : Nat} {answer : Option Nat} {e : Elem Block}
  {label : Label} {d : DevicesList} {a : AddPoint} {p : AddParams}

-- ---------------------------------------------------------------------------
-- Adding
-- ---------------------------------------------------------------------------

theorem DevicesList.Ok.addNext (h : d.Ok a) :
    (d.addNext answer a).1.Ok (d.addNext answer a).2 := by
  cases a with
  | free | put | fxnTable | type | returned => exact h
  | id => exact ⟨rfl, h⟩
  | openFxn p =>
    obtain ⟨hid, hopened, hevent, hqueue⟩ := h
    simp only [DevicesList.addNext]
    split
    · exact ⟨hid, by simp [hevent]⟩
    · rw [hopened]
      simp only [Bool.false_eq_true, if_false]
      split <;> exact ⟨hid, hevent, hqueue⟩
  | args p o =>
    obtain ⟨hid, hevent, hqueue⟩ := h
    cases answer with
    | some => exact ⟨hid, hevent, hqueue⟩
    | none => exact ⟨hid, by simp [DevicesList.addNext, hevent]⟩
  | openID p o => exact ⟨rfl, h.2⟩
  | openType p o =>
    simp only [DevicesList.addNext]
    split <;> exact h
  | event p o => exact ⟨h.1, rfl, h.2.2⟩
  | queue p o hasEvent =>
    cases answer with
    | some handle =>
      simp only [DevicesList.addNext]
      split <;> exact ⟨h.1, h.2.1, rfl⟩
    | none => exact h
  | clock p hasEvent =>
    cases answer with
    | some => exact h
    | none => exact h
  | task p hasEvent => exact ⟨h.1, by simp [DevicesList.addNext, h.2.1, h.2.2]⟩

theorem addNext_isPut : (d.addNext answer a).2.isPut = a.isPut := by
  cases a <;> simp only [DevicesList.addNext] <;> repeat' split
  all_goals rfl

theorem DevicesList.Ok.complete_iff (h : d.Ok a) (hput : a.isPut) :
    a.isComplete ↔ (∃ p, a.params = some p ∧ d.deviceID = p.deviceID) ∧ d.msgQHandle.isSome ∧
      d.eventHandle.isSome := by
  cases a with
  | free | put => cases hput
  | fxnTable | type | id | openFxn | args | openID | openType | event =>
    simp only [DevicesList.Ok] at h
    simp [AddPoint.isComplete, h]
  | queue =>
    simp [AddPoint.isComplete, h.2.2]
  | clock | task =>
    simp [AddPoint.isComplete, AddPoint.params, h.1, h.2.1, h.2.2]
  | returned =>
    simp [AddPoint.isComplete, AddPoint.params, h.1, ← h.2, and_comm]

namespace Registry

theorem Inv.ready_iff (h : r.Inv) (hb : b ∈ r.added) : r.Ready b ↔ (r.add b).isComplete := by
  rw [(h.devices b).complete_iff ((h.mem_added b).mp hb)]
  constructor
  · exact fun hr => ⟨hr.deviceID, hr.msgQHandle, hr.eventHandle⟩
  · rintro ⟨hid, hqueue, hevent⟩
    exact ⟨hb, hid, hqueue, hevent⟩

theorem Inv.update (h : r.Inv) (hok : d.Ok a) (hput : a.isPut = (r.add b).isPut) :
    Inv { r with device := Function.update r.device b d, add := Function.update r.add b a } where
  linked := h.linked
  mem_added := by
    intro c
    by_cases hc : c = b
    · subst hc
      simp only [Function.update_self, hput]
      exact h.mem_added c
    · simp only [Function.update_of_ne hc]
      exact h.mem_added c
  devices := by
    intro c
    by_cases hc : c = b
    · subst hc
      simpa only [Function.update_self] using hok
    · simp only [Function.update_of_ne hc]
      exact h.devices c
  tasks := h.tasks

theorem Inv.alloc (h : r.Inv) : (r.alloc p b e).Inv := by
  unfold Registry.alloc
  split
  case h_2 => exact h
  case h_1 hfree =>
    have hb : b ∉ r.added := by simp [h.mem_added, hfree, AddPoint.isPut]
    have hok := h.devices b
    rw [hfree] at hok
    have hnext : Inv { r with
        device := Function.update r.device b (r.device b)
        add := Function.update r.add b (.put p) } :=
      h.update hok (by rw [hfree]; rfl)
    rw [Function.update_eq_self] at hnext
    exact ⟨h.linked.update hb e, hnext.mem_added, hnext.devices, hnext.tasks⟩

theorem Inv.nextOfAdd (h : r.Inv) : (r.nextOfAdd b answer).Inv := by
  unfold Registry.nextOfAdd
  split
  case h_1 p hput =>
    have hb : b ∉ r.added := by simp [h.mem_added, hput, AddPoint.isPut]
    have hok := h.devices b
    rw [hput] at hok
    refine ⟨h.linked.put hb, ?_, ?_, fun t c hc => List.mem_append_left _ (h.tasks t c hc)⟩
    · intro c
      by_cases hc : c = b
      · subst hc
        simp [AddPoint.isPut]
      · simp only [Function.update_of_ne hc, List.mem_append, List.mem_singleton, hc, or_false]
        exact h.mem_added c
    · intro c
      by_cases hc : c = b
      · subst hc
        simp only [Function.update_self]
        exact hok
      · simp only [Function.update_of_ne hc]
        exact h.devices c
  case h_2 => exact h.update (h.devices b).addNext addNext_isPut

-- ---------------------------------------------------------------------------
-- Walking and removing
-- ---------------------------------------------------------------------------

theorem Inv.goto {point : Point} (h : r.Inv) (hp : ∀ b, point.block = some b → b ∈ r.added) :
    (r.goto t point).Inv where
  linked := h.linked
  mem_added := h.mem_added
  devices := h.devices
  tasks := by
    refine (Function.forall_update_iff r.task
      fun _ point => ∀ b, point.block = some b → b ∈ r.added).mpr ⟨hp, ?_⟩
    intro u _
    exact h.tasks u

theorem Inv.call {point : Point} (h : r.Inv) (hp : ∀ b, point.block = some b → b ∈ r.added) :
    (r.call t point).Inv := by
  unfold Registry.call
  split
  · exact h.goto hp
  · exact h

theorem Inv.close (h : r.Inv) (hb : b ∈ r.added) : (r.close t b).Inv := by
  have hp : ∀ c, some b = some c → c ∈ r.added := by
    rintro c ⟨⟩
    exact hb
  rw [Registry.close]
  split
  case isFalse => exact h.goto hp
  case isTrue =>
    refine Inv.goto ?_ hp
    have hok : { r.device b with opened := false }.Ok (r.add b) := by
      have hb := h.devices b
      cases ha : r.add b <;> rw [ha] at hb <;> simp only [DevicesList.Ok] at hb ⊢ <;> simp [hb]
    have hnext := h.update hok rfl
    rw [Function.update_eq_self] at hnext
    exact hnext

theorem Inv.body {w : Walk} (h : r.Inv) (hb : b ∈ r.added) : (r.body t w b).Inv := by
  have hp : ∀ c, some b = some c → c ∈ r.added := by
    rintro c ⟨⟩
    exact hb
  cases w with
  | send =>
    rw [Registry.body]
    split <;> exact h.goto hp
  | count => exact h.goto hp
  | list => exact h.goto hp

theorem Inv.test {w : Walk} {elem : Option Block} (h : r.Inv)
    (hb : ∀ b, elem = some b → b ∈ r.added) : (r.test t w elem answer).Inv := by
  have hnone : ∀ point : Point, point.block = none → (r.goto t point).Inv := by
    intro point hpoint
    refine h.goto fun c hc => ?_
    rw [hpoint] at hc
    cases hc
  cases elem with
  | none =>
    cases w with
    | count => cases answer <;> exact hnone _ rfl
    | _ => exact hnone _ rfl
  | some b => cases w <;> exact h.goto hb

theorem Inv.next_mem {elem : Option Block} (h : r.Inv) (hb : ∀ b, elem = some b → b ∈ r.added)
    (hnext : (r.elem elem).next = some b) : b ∈ r.added := by
  refine h.linked.path.next_mem ?_ hnext
  cases elem with
  | none => exact List.mem_cons_self
  | some c => simpa using hb c rfl

theorem Inv.next (h : r.Inv) (hfree : ∀ b, r.task t ≠ .removeFree b) :
    (r.next t answer e).Inv := by
  have htask := h.tasks t
  unfold Registry.next
  cases ht : r.task t with
  | removeFree b => exact absurd ht (hfree b)
  | returned => exact h
  | removeClose b => exact h.close (htask b (by rw [ht]; rfl))
  | removePost | enqueue =>
    rw [ht] at htask
    exact h.goto htask
  | read w b => exact h.body (htask b (by rw [ht]; rfl))
  | test w elem =>
    rw [ht] at htask
    exact h.test htask
  | head w => exact h.goto fun c hc => h.next_mem (by rintro _ ⟨⟩) hc
  | next w b =>
    rw [ht] at htask
    exact h.goto fun c hc => h.next_mem htask hc

theorem Inv.step (h : r.Inv) (hgood : r.Undisturbed label) : (r.step label).Inv := by
  cases label with
  | add p block =>
    cases block with
    | none => exact h
    | some => exact h.alloc
  | nextOfAdd => exact h.nextOfAdd
  | remove t handle =>
    cases handle with
    | none => exact h
    | some b =>
      rw [Registry.step]
      split
      case isTrue hb =>
        refine h.call ?_
        rintro c ⟨⟩
        exact hb
      case isFalse => exact h
  | send => exact h.call (by rintro _ ⟨⟩)
  | ramDeviceList => exact h.call (by rintro _ ⟨⟩)
  | next t answer e => exact h.next hgood.1

theorem Inv.step_iff (h : r.Inv) :
    Linked (r.step label).elem (r.step label).added ∧ r.TouchesReady label ↔
      r.Undisturbed label := by
  constructor
  · rintro ⟨hlinked, htouch⟩
    cases label with
    | next t answer e =>
      refine ⟨?_, fun b hb => ?_⟩
      · intro b hb
        have hadded : b ∈ r.added := h.tasks t b (by rw [hb]; rfl)
        simp only [Registry.step, Registry.next, hb] at hlinked
        exact h.linked.not_erase hadded e hlinked
      · exact (h.ready_iff (htouch b hb).live).mp (htouch b hb)
    | _ => trivial
  · intro hgood
    refine ⟨(h.step hgood).linked, ?_⟩
    cases label with
    | next t answer e =>
      intro b hb
      have hblock : (r.task t).block = some b := by
        cases ht : r.task t <;> rw [ht] at hb <;> first | exact hb | cases hb
      exact (h.ready_iff (h.tasks t b hblock)).mpr (hgood.2 b hb)
    | _ => trivial

end Registry

end SystemMaster.Devices
