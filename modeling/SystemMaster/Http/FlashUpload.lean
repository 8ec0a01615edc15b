import SystemMaster.Http.Upload
import Mathlib.Data.List.TakeDrop

/-!
# Uploads to the external flash

`vEFS_setFlashDataFileNameHTTP` takes the body of a request from the socket in pieces,
each in a buffer of its own, and appends them to a file. Both branches of its loop name
the size of the buffer again where they free it.
-/

namespace SystemMaster.Http

open Runs

def efsMaximumMemoryAllocated : Nat := 1024

inductive BufferOp where
  | alloc (size : Nat)
  | write (off length : Nat)
  | free (size : Nat)

/-- What an operation makes of the buffer that is allocated, given by its size: there must
be no second one, what is written must lie within it, and it must be freed with its size. -/
def BufferOp.account : Option Nat → BufferOp → Option (Option Nat)
  | none, .alloc size => some (some size)
  | some size, .write off length => if off + length ≤ size then some (some size) else none
  | some size, .free freed => if freed = size then some none else none
  | _, _ => none

/-- All operations were in order and have left no buffer. -/
def Balanced (ops : List BufferOp) : Prop := ops.foldlM BufferOp.account none = some none

-- ---------------------------------------------------------------------------
-- The loop
-- ---------------------------------------------------------------------------

/-- What a turn of the loop finds: whether there is memory, what `recv` finds, and how many
of the bytes `SPIFFS_write` stores. -/
structure FlashTurn where
  allocated : Bool
  arrival : Arrival
  stored : Nat

/-- `contentLength` in the loop, with the file and a record of what was received and of the
use of the buffers. -/
structure FlashLoop where
  contentLength : Int
  stopped : Bool
  file : List UInt8
  received : List UInt8
  ops : List BufferOp

namespace FlashLoop

def ended (s : FlashLoop) : Bool := s.stopped || s.contentLength ≤ 0

def use (s : FlashLoop) (ops : List BufferOp) : FlashLoop := { s with ops := s.ops ++ ops }

def branch (size : FlashLoop → Nat) (s : FlashLoop) (found : FlashTurn) : FlashLoop :=
  if found.allocated then
    let nbytes := found.arrival.nbytes (size s)
    let buf := found.arrival.taken (size s)
    let s := s.use [.alloc (size s), .write 0 buf.length]
    if nbytes > 0 then
      let s := s.use [.write buf.length 1]
      let s := { s with
        contentLength := s.contentLength - nbytes
        file := s.file ++ buf.take found.stored
        received := s.received ++ buf }
      s.use [.free (size s)]
    else { s.use [.free (size s)] with stopped := true }
  else s

def turn (s : FlashLoop) (found : FlashTurn) : FlashLoop :=
  if s.ended then s
  else if s.contentLength < efsMaximumMemoryAllocated then
    s.branch (fun s => s.contentLength.toNat) found
  else s.branch (fun _ => efsMaximumMemoryAllocated) found

end FlashLoop

structure FlashUpload where
  contentLength : Int
  mounted : Bool
  opened : Bool
  found : Nat → FlashTurn

namespace FlashUpload

def start (u : FlashUpload) : FlashLoop := ⟨u.contentLength, false, [], [], []⟩

def started (u : FlashUpload) : Bool := 0 < u.contentLength && u.mounted && u.opened

def loop (u : FlashUpload) (n : Nat) : FlashLoop :=
  exec FlashLoop.turn u.start ((List.range n).map u.found)

/-- `vEFS_setFlashDataFileNameHTTP`: what it returns with, and `none` while it loops. -/
def setFlashDataFileNameHTTP (u : FlashUpload) (n : Nat) : Option FlashLoop :=
  if u.contentLength > 0 then
    if u.mounted then
      if u.opened then
        if (u.loop n).ended then some (u.loop n) else none
      else some u.start
    else some u.start
  else some u.start

def ExhaustedFrom (u : FlashUpload) (n : Nat) : Prop := ∀ i, n ≤ i → (u.found i).allocated = false

/-- After any number of turns the buffers have been used and freed in order and the file
has the bytes received; and the handler returns when memory stays exhausted. -/
structure Disciplined (u : FlashUpload) : Prop where
  buffers : ∀ n, u.started → Balanced (u.loop n).ops
  file : ∀ n, u.started → (u.loop n).file = (u.loop n).received
  ends : (∃ n, u.ExhaustedFrom n) → ∃ n, (u.setFlashDataFileNameHTTP n).isSome

/-- A turn that receives bytes has a full buffer's length or more to come, does not fill
its buffer, and all it receives is stored. -/
def SoundTurn (s : FlashLoop) (found : FlashTurn) : Prop :=
  s.ended = false → found.allocated = true → found.arrival.isBytes = true →
    (efsMaximumMemoryAllocated : Int) ≤ s.contentLength ∧
      (found.arrival.taken efsMaximumMemoryAllocated).length < efsMaximumMemoryAllocated ∧
      (found.arrival.taken efsMaximumMemoryAllocated).length ≤ found.stored

/-- Every turn is sound, and memory does not stay exhausted while bytes are to come. -/
structure Sound (u : FlashUpload) : Prop where
  turns : ∀ n, u.started → SoundTurn (u.loop n) (u.found n)
  exhausted : ∀ n, u.started → u.ExhaustedFrom n → (u.loop n).ended

end FlashUpload

variable {u : FlashUpload} {s : FlashLoop} {found : FlashTurn} {size : FlashLoop → Nat}
  {ops more : List BufferOp} {n k : Nat}

-- ---------------------------------------------------------------------------
-- One turn
-- ---------------------------------------------------------------------------

theorem Balanced.append_iff (h : Balanced ops) : Balanced (ops ++ more) ↔ Balanced more := by
  rw [Balanced, List.foldlM_append, h]
  rfl

theorem balanced_received_iff {freed : Nat} :
    Balanced [.alloc n, .write 0 k, .write k 1, .free freed] ↔ k < n ∧ freed = n := by
  by_cases hk : k < n
  · have hle : k ≤ n := Nat.le_of_lt hk
    have hsucc : k + 1 ≤ n := hk
    simp [Balanced, BufferOp.account, hk, hle, hsucc]
  · have hlt : ¬k + 1 ≤ n := hk
    by_cases hle : k ≤ n <;> simp [Balanced, BufferOp.account, hk, hle, hlt]

theorem balanced_empty : Balanced [.alloc n, .write 0 0, .free n] := by
  simp [Balanced, BufferOp.account]

theorem Arrival.taken_pos {a : Arrival} (ha : a.isBytes = true) (hn : 0 < n) :
    0 < (a.taken n).length := by
  cases a with
  | closed | failed => cases ha
  | bytes b bs =>
    rw [taken, List.length_take, List.length_cons]
    omega

namespace FlashLoop

theorem turn_of_ended (h : s.ended = true) : s.turn found = s := by rw [turn, if_pos h]

theorem turn_of_exhausted (h : found.allocated = false) : s.turn found = s := by
  simp [turn, branch, h]

def Kept (s : FlashLoop) : Prop := Balanced s.ops ∧ s.file = s.received

def receive (s : FlashLoop) (len : Nat) (found : FlashTurn) : FlashLoop :=
  let buf := found.arrival.taken len
  { contentLength := s.contentLength - buf.length
    stopped := s.stopped
    file := s.file ++ buf.take found.stored
    received := s.received ++ buf
    ops := s.ops ++ [.alloc len, .write 0 buf.length, .write buf.length 1] }

theorem branch_of_bytes (halloc : found.allocated = true) (ha : found.arrival.isBytes = true)
    (hpos : 0 < size s) :
    s.branch size found =
      (s.receive (size s) found).use [.free (size (s.receive (size s) found))] := by
  cases harrival : found.arrival with
  | closed | failed => simp [harrival, Arrival.isBytes] at ha
  | bytes b bs =>
    have hnbytes : (0 : Int) < ((b :: bs).take (size s)).length :=
      Int.natCast_pos.mpr (Arrival.taken_pos (a := .bytes b bs) rfl hpos)
    simp only [branch, halloc, if_true, harrival, Arrival.nbytes, Arrival.taken]
    rw [if_pos hnbytes]
    simp [receive, use, harrival, Arrival.taken]

theorem branch_of_not_bytes (halloc : found.allocated = true)
    (ha : found.arrival.isBytes = false) (hsize : ∀ ops, size (s.use ops) = size s) :
    s.branch size found =
      { s.use [.alloc (size s), .write 0 0, .free (size s)] with stopped := true } := by
  cases harrival : found.arrival with
  | bytes => simp [harrival, Arrival.isBytes] at ha
  | closed | failed =>
    simp [branch, halloc, harrival, Arrival.nbytes, Arrival.taken, hsize]
    simp [use]

theorem Kept.receive_iff {len freed : Nat} (h : s.Kept) :
    ((s.receive len found).use [.free freed]).Kept ↔
      (found.arrival.taken len).length < len ∧ freed = len ∧
        (found.arrival.taken len).length ≤ found.stored := by
  obtain ⟨hops, hfile⟩ := h
  simp only [Kept, receive, use, List.append_assoc, List.cons_append, List.nil_append,
    hops.append_iff, balanced_received_iff, hfile, List.append_cancel_left_eq,
    List.take_eq_self_iff, and_assoc]

theorem ended_eq_false : s.ended = false ↔ s.stopped = false ∧ 0 < s.contentLength := by
  simp [ended]

/-- A turn keeps buffers and file in order exactly when it is sound. -/
theorem Kept.turn_iff (h : s.Kept) : (s.turn found).Kept ↔ FlashUpload.SoundTurn s found := by
  unfold FlashUpload.SoundTurn
  cases hend : s.ended with
  | true => simp [turn_of_ended hend, h]
  | false =>
    cases halloc : found.allocated with
    | false => simp [turn_of_exhausted halloc, h]
    | true =>
      have hpos := (ended_eq_false.mp hend).2
      simp only [true_imp_iff]
      rw [turn, hend, if_neg Bool.false_ne_true]
      cases ha : found.arrival.isBytes with
      | false =>
        have hstop : ∀ size : FlashLoop → Nat, (∀ ops, size (s.use ops) = size s) →
            (s.branch size found).Kept := by
          intro size hsize
          rw [branch_of_not_bytes halloc ha hsize]
          exact ⟨h.1.append_iff.mpr balanced_empty, h.2⟩
        simp only [Bool.false_eq_true, false_imp_iff, iff_true]
        split
        · exact hstop _ fun _ => rfl
        · exact hstop _ fun _ => rfl
      | true =>
        simp only [true_imp_iff]
        split
        case isTrue hlt =>
          -- the length that is freed has been taken down
          have hlen : 0 < (found.arrival.taken s.contentLength.toNat).length :=
            Arrival.taken_pos ha (by omega)
          rw [branch_of_bytes halloc ha (by omega), h.receive_iff]
          simp only [receive]
          constructor
          · rintro ⟨-, hfreed, -⟩
            omega
          · rintro ⟨hge, -, -⟩
            omega
        case isFalse hge =>
          rw [branch_of_bytes halloc ha (by decide), h.receive_iff]
          constructor
          · rintro ⟨hlen, -, hstored⟩
            exact ⟨Int.not_lt.mp hge, hlen, hstored⟩
          · rintro ⟨-, hlen, hstored⟩
            exact ⟨hlen, rfl, hstored⟩

end FlashLoop

-- ---------------------------------------------------------------------------
-- The whole upload
-- ---------------------------------------------------------------------------

namespace FlashUpload

theorem loop_succ : u.loop (n + 1) = (u.loop n).turn (u.found n) :=
  exec_range_succ

theorem ExhaustedFrom.loop_eq (h : u.ExhaustedFrom n) (hle : n ≤ k) : u.loop k = u.loop n := by
  induction k, hle using Nat.le_induction with
  | base => rfl
  | succ k hle ih => rw [loop_succ, FlashLoop.turn_of_exhausted (h k hle), ih]

theorem ended_mono (h : (u.loop n).ended = true) (hle : n ≤ k) : (u.loop k).ended = true := by
  induction k, hle using Nat.le_induction with
  | base => exact h
  | succ k _ ih => rwa [loop_succ, FlashLoop.turn_of_ended ih]

theorem returns_iff (hstarted : u.started = true) :
    (u.setFlashDataFileNameHTTP n).isSome ↔ (u.loop n).ended = true := by
  obtain ⟨⟨hpos, hmounted⟩, hopened⟩ : (0 < u.contentLength ∧ u.mounted) ∧ u.opened := by
    simpa [started] using hstarted
  rw [setFlashDataFileNameHTTP, if_pos hpos, if_pos hmounted, if_pos hopened]
  split <;> simp_all

theorem returns_of_not_started (hstarted : ¬u.started = true) :
    (u.setFlashDataFileNameHTTP n).isSome := by
  unfold setFlashDataFileNameHTTP
  split
  case isFalse => rfl
  split
  case isFalse => rfl
  split
  case isFalse => rfl
  simp_all [started]

theorem loop_kept_iff :
    (∀ n, (u.loop n).Kept) ↔ ∀ n, SoundTurn (u.loop n) (u.found n) :=
  forall_exec_iff ⟨rfl, rfl⟩ fun _ _ h => h.turn_iff

theorem returns_exhausted_iff (hstarted : u.started = true) :
    ((∃ n, u.ExhaustedFrom n) → ∃ n, (u.setFlashDataFileNameHTTP n).isSome) ↔
      ∀ n, u.ExhaustedFrom n → (u.loop n).ended = true := by
  simp only [returns_iff hstarted]
  constructor
  · intro h n hexhausted
    obtain ⟨k, hk⟩ := h ⟨n, hexhausted⟩
    rcases Nat.le_total k n with hle | hle
    · exact ended_mono hk hle
    · rwa [hexhausted.loop_eq hle] at hk
  · rintro h ⟨n, hexhausted⟩
    exact ⟨n, h n hexhausted⟩

/-- The buffers are freed as they were allocated and written within, the file gets what was
received, and the handler returns without memory, exactly when every turn is sound and
memory does not stay exhausted. -/
theorem disciplined_iff_sound (u : FlashUpload) : u.Disciplined ↔ u.Sound := by
  by_cases hstarted : u.started = true
  · constructor
    · intro h
      have hkept : ∀ n, (u.loop n).Kept := fun n => ⟨h.buffers n hstarted, h.file n hstarted⟩
      exact ⟨fun n _ => loop_kept_iff.mp hkept n,
        fun n _ => (returns_exhausted_iff hstarted).mp h.ends n⟩
    · intro h
      have hkept := loop_kept_iff.mpr fun n => h.turns n hstarted
      exact ⟨fun n _ => (hkept n).1, fun n _ => (hkept n).2,
        (returns_exhausted_iff hstarted).mpr fun n => h.exhausted n hstarted⟩
  · constructor
    · exact fun _ => ⟨fun _ h => absurd h hstarted, fun _ h => absurd h hstarted⟩
    · exact fun _ => ⟨fun _ h => absurd h hstarted, fun _ h => absurd h hstarted,
        fun _ => ⟨0, returns_of_not_started hstarted⟩⟩

def oneByte (found : FlashTurn) : FlashUpload := ⟨1, true, true, fun _ => found⟩

/-- The zero goes behind the buffer, which is freed as one of size 0; and without memory
the handler does not return. -/
theorem one_byte_undisciplined :
    ((oneByte ⟨true, .bytes 0x50 [], 1⟩).loop 1).ops =
        [.alloc 1, .write 0 1, .write 1 1, .free 0] ∧
      (∀ n, (oneByte ⟨false, .closed, 0⟩).setFlashDataFileNameHTTP n = none) ∧
      ¬∀ u : FlashUpload, u.Disciplined := by
  have hops : ((oneByte ⟨true, .bytes 0x50 [], 1⟩).loop 1).ops =
      [.alloc 1, .write 0 1, .write 1 1, .free 0] := rfl
  have hexhausted : (oneByte ⟨false, .closed, 0⟩).ExhaustedFrom 0 := fun _ _ => rfl
  refine ⟨hops, fun n => ?_, fun h => ?_⟩
  · rw [← Option.not_isSome_iff_eq_none, returns_iff rfl, hexhausted.loop_eq (Nat.zero_le n)]
    decide
  · have hbalanced := (h (oneByte ⟨true, .bytes 0x50 [], 1⟩)).buffers 1 rfl
    rw [hops] at hbalanced
    simp [Balanced, BufferOp.account] at hbalanced

end FlashUpload

end SystemMaster.Http
