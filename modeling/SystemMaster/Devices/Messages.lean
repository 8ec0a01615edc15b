import SystemMaster.Library.Runs
import Mathlib.Data.UInt
import Mathlib.Logic.Function.Basic

/-!
# The sizes of messages

A message to a device is allocated by the task that sends it and freed by the task of the
device, or when the device is closed, with the size that stands in the message. That field
has 16 bits. Only the sizes are looked at here, not what the messages say.
-/

namespace SystemMaster.Devices

open Runs

-- `sizeof(device_msg_t)`, `sizeof(char_data_t)`, and where their flexible arrays begin
def sizeofDeviceMsg : UInt32 := 20
def sizeofCharData : UInt32 := 20
def pduOffset : Nat := 18
def charDataOffset : Nat := 18

/-- `device_msg_t`: what it was allocated with, as a record, what it says of that itself, and
the place in it and the number of the bytes that were copied. -/
structure Message where
  allocated : UInt32
  pduLen : UInt16
  dataOffset : Nat
  dataLen : UInt16

/-- What the functions that enqueue have in common: the sum goes to `Memory_alloc` as it is. -/
def Message.create (fixed : UInt32) (dataOffset : Nat) (len : UInt16) : Message where
  allocated := fixed + len.toUInt32
  pduLen := (fixed + len.toUInt32).toUInt16
  dataOffset := dataOffset
  dataLen := len

def enqueueCharDataMsg (len : UInt16) : Message :=
  .create (sizeofDeviceMsg + sizeofCharData) (pduOffset + charDataOffset) len

def enqueueRawAppMsg (len : UInt16) : Message := .create sizeofDeviceMsg pduOffset len

def enqueueRawAppMsgAndEvent (len : UInt16) : Message := .create sizeofDeviceMsg pduOffset len

/-- The functions that make a message. -/
inductive Routine where
  | charDataMsg
  | rawAppMsg
  | rawAppMsgAndEvent

def Routine.enqueue : Routine → UInt16 → Message
  | .charDataMsg => enqueueCharDataMsg
  | .rawAppMsg => enqueueRawAppMsg
  | .rawAppMsgAndEvent => enqueueRawAppMsgAndEvent

/-- What comes before the data, with the padding. -/
def Routine.fixed : Routine → Nat
  | .charDataMsg => 40
  | .rawAppMsg | .rawAppMsgAndEvent => 20

structure Freed where
  allocated : UInt32
  size : UInt16

structure Mailboxes where
  queue : Nat → List Message
  freed : List Freed

/-- A message is sent, if `Memory_alloc` has a block for it, or a device takes one from its
queue and frees it: after it has handled it, or without that when it is closed. -/
inductive MailLabel where
  | send (device : Nat) (routine : Routine) (len : UInt16) (alloc : Bool)
  | take (device : Nat)

def Mailboxes.step (s : Mailboxes) : MailLabel → Mailboxes
  | .send device routine len alloc =>
    if alloc then
      { s with
        queue := Function.update s.queue device (s.queue device ++ [routine.enqueue len]) }
    else s
  | .take device =>
    match s.queue device with
    | pMsg :: queue =>
      { queue := Function.update s.queue device queue
        freed := s.freed ++ [⟨pMsg.allocated, pMsg.pduLen⟩] }
    | [] => s

def Mailboxes.start : Mailboxes := ⟨fun _ => [], []⟩

-- ---------------------------------------------------------------------------
-- Sizes that agree
-- ---------------------------------------------------------------------------

structure Message.Sized (m : Message) : Prop where
  room : m.dataOffset + m.dataLen.toNat ≤ m.allocated.toNat
  stored : m.pduLen.toNat = m.allocated.toNat

structure Mailboxes.Sized (s : Mailboxes) : Prop where
  queued : ∀ device, ∀ m ∈ s.queue device, m.Sized
  freed : ∀ f ∈ s.freed, f.size.toNat = f.allocated.toNat

def MailLabel.Fits : MailLabel → Prop
  | .send _ routine len alloc => alloc = true → routine.fixed + len.toNat < 65536
  | .take _ => True

variable {s : Mailboxes} {label : MailLabel} {routine : Routine} {len : UInt16} {device : Nat}
  {m : Message}

theorem enqueue_dataLen : (routine.enqueue len).dataLen = len := by cases routine <;> rfl

theorem enqueue_allocated : (routine.enqueue len).allocated.toNat = routine.fixed + len.toNat := by
  have hlen := len.toNat_lt
  cases routine <;>
    simp only [Routine.enqueue, enqueueCharDataMsg, enqueueRawAppMsg, enqueueRawAppMsgAndEvent,
      Message.create, Routine.fixed, sizeofDeviceMsg, sizeofCharData, UInt32.toNat_add,
      UInt16.toNat_toUInt32] <;>
    simp <;> omega

theorem enqueue_pduLen :
    (routine.enqueue len).pduLen.toNat = (routine.fixed + len.toNat) % 65536 := by
  have hpduLen : (routine.enqueue len).pduLen = (routine.enqueue len).allocated.toUInt16 := by
    cases routine <;> rfl
  rw [hpduLen, UInt32.toNat_toUInt16, enqueue_allocated]

theorem enqueue_room :
    (routine.enqueue len).dataOffset + (routine.enqueue len).dataLen.toNat ≤
      (routine.enqueue len).allocated.toNat := by
  have hoffset : (routine.enqueue len).dataOffset ≤ routine.fixed := by
    cases routine <;> exact Nat.le_of_ble_eq_true rfl
  rw [enqueue_dataLen, enqueue_allocated]
  omega

theorem enqueue_sized_iff : (routine.enqueue len).Sized ↔ routine.fixed + len.toNat < 65536 := by
  have hpduLen := @enqueue_pduLen routine len
  have hallocated := @enqueue_allocated routine len
  constructor
  · intro h
    have hstored := h.stored
    omega
  · exact fun hfits => ⟨enqueue_room, by omega⟩

theorem Mailboxes.Sized.send_iff (h : s.Sized) :
    ({ s with
        queue := Function.update s.queue device (s.queue device ++ [routine.enqueue len]) } :
      Mailboxes).Sized ↔ (routine.enqueue len).Sized := by
  constructor
  · intro hnext
    refine hnext.queued device _ ?_
    simp
  · intro hsized
    refine ⟨fun d m hm => ?_, h.freed⟩
    by_cases hd : d = device
    · subst hd
      simp only [Function.update_self, List.mem_append, List.mem_singleton] at hm
      obtain hm | rfl := hm
      · exact h.queued d m hm
      · exact hsized
    · simp only [Function.update_of_ne hd] at hm
      exact h.queued d m hm

theorem Mailboxes.Sized.take (h : s.Sized) {queue : List Message} (hqueue : s.queue device = m :: queue) :
    ({ queue := Function.update s.queue device queue
       freed := s.freed ++ [⟨m.allocated, m.pduLen⟩] } : Mailboxes).Sized := by
  have hmem : m ∈ s.queue device := by
    rw [hqueue]
    exact List.mem_cons_self
  refine ⟨fun d m' hm' => ?_, fun f hf => ?_⟩
  · by_cases hd : d = device
    · subst hd
      simp only [Function.update_self] at hm'
      refine h.queued d m' ?_
      rw [hqueue]
      exact List.mem_cons_of_mem _ hm'
    · simp only [Function.update_of_ne hd] at hm'
      exact h.queued d m' hm'
  · obtain hf | hf := List.mem_append.mp hf
    · exact h.freed f hf
    · rw [List.mem_singleton.mp hf]
      exact (h.queued device m hmem).stored

theorem Mailboxes.Sized.step_iff (h : s.Sized) : (s.step label).Sized ↔ label.Fits := by
  cases label with
  | send device routine len alloc =>
    cases alloc with
    | true =>
      rw [MailLabel.Fits, ← enqueue_sized_iff]
      simpa [Mailboxes.step] using h.send_iff
    | false => exact iff_of_true h fun halloc => by cases halloc
  | take device =>
    refine iff_of_true ?_ trivial
    simp only [Mailboxes.step]
    split
    case h_1 hqueue => exact h.take hqueue
    case h_2 => exact h

theorem Mailboxes.start_sized : Mailboxes.start.Sized where
  queued := by
    intro device m hm
    cases hm
  freed := by
    intro f hf
    cases hf

/-- Through a run, messages have the sizes they say and are freed with them exactly when the
size of every message sent fits into 16 bits. -/
theorem sizes_agree_iff (labels : List MailLabel) :
    Always Mailboxes.step Mailboxes.Sized .start labels ↔
      Along Mailboxes.step (fun _ label => label.Fits) .start labels :=
  always_iff_along_of_inv (I := fun _ => True) trivial (fun _ _ _ => trivial)
    Mailboxes.start_sized fun _ _ _ h => h.step_iff

/-- A message of 65540 bytes says that it has four. -/
theorem long_message_freed_short :
    ¬∀ labels : List MailLabel, Always Mailboxes.step Mailboxes.Sized .start labels := by
  intro h
  have hsized := h [.send 0 .charDataMsg 65500 true] _ (List.prefix_refl _)
  have hstored := (hsized.queued 0 (enqueueCharDataMsg 65500) List.mem_cons_self).stored
  exact absurd hstored (by decide)

end SystemMaster.Devices
