import Mathlib.Data.List.TakeWhile
import SystemMaster.Library.Memory
import SystemMaster.Library.Runs

/-!
# The TCP console

The worker of a console connection takes whatever one `recv` gives for a line
with its CR LF, and puts the end of the string over the last two bytes of it. A
TCP stream has no such boundaries: the stack cuts and joins it as it likes.
-/

namespace SystemMaster.Tcp.Console

open Runs

def packetSize : Nat := 256

def crlf : List UInt8 := [0x0D, 0x0A]

structure Read where
  bytes : List UInt8
  nonempty : bytes ≠ []
  fits : bytes.length ≤ packetSize

/-- What the rest of the system does in one turn of the loop. -/
structure Turn where
  /-- Whether `send` took the whole prompt. -/
  prompted : Bool
  /-- `none` where `bytesRcvd <= 0`. -/
  recv : Option Read
  /-- What the command returned, and what it left of the buffer. -/
  status : Int
  left : Memory UInt8

def text (s : String) : List UInt8 := s.toList.map fun c => UInt8.ofNat c.toNat

def ansiColorRed : String := "\x1b[31m"

def ansiColorReset : String := "\x1b[0m"

/-- The messages for `CMDLINE_BAD_CMD`, `CMDLINE_TOO_MANY_ARGS` and
`CMDLINE_TOO_FEW_ARGS`. -/
def errorMessage (i32CmdStatus : Int) : Option (List UInt8) :=
  if i32CmdStatus = -1 then
    some (text (ansiColorRed ++ "Command not recognized!\n" ++ ansiColorReset))
  else if i32CmdStatus = -2 then
    some (text (ansiColorRed ++ "Too many arguments for command processor!\n" ++ ansiColorReset))
  else if i32CmdStatus = -3 then
    some (text (ansiColorRed ++ "Too few arguments for command processor!\n" ++ ansiColorReset))
  else none

def cString (xs : List UInt8) : Option (List UInt8) :=
  if 0 ∈ xs then some (xs.takeWhile (· ≠ 0)) else none

/-- The locals of `vTCPRCWorker`, with a record of what it received and did. -/
structure State where
  running : Bool
  buffer : Memory UInt8
  /-- Every byte received, in order. -/
  received : List UInt8
  /-- The lines passed to `CmdLineProcessTCP`. -/
  passed : List (Option (List UInt8))
  /-- Where in the buffer the ends of the strings were written. -/
  terminators : List Int

def start (buffer : Memory UInt8) : State := ⟨true, buffer, [], [], []⟩

/-- A turn of the loop that received something. -/
def State.line (s : State) (r : Read) (t : Turn) : State :=
  let i : Int := r.bytes.length - 2
  let buffer := (s.buffer.write 0 r.bytes).put i 0
  { s with
    -- `sprintf` leaves its text, with the end of the string, at the start of the buffer.
    buffer := t.left.write 0 (((errorMessage t.status).map (· ++ [0])).getD [])
    received := s.received ++ r.bytes
    passed := s.passed ++ [cString (buffer.read 0 packetSize)]
    terminators := s.terminators ++ [i] }

def State.step (s : State) (t : Turn) : State :=
  if s.running then
    match t.prompted, t.recv with
    | true, some r => s.line r t
    | _, _ => { s with running := false }
  else s

-- ---------------------------------------------------------------------------
-- What a console does
-- ---------------------------------------------------------------------------

def sent (ls : List (List UInt8)) : List UInt8 := ls.flatMap (· ++ crlf)

/-- The ends of strings went into the buffer, and the lines passed are those the
text received so far begins with, without their CR LF; only a last line that has
not ended is not passed. -/
structure Right (s : State) : Prop where
  inside : ∀ i ∈ s.terminators, 0 ≤ i ∧ i < packetSize
  lines : ∃ ls rest, s.passed = ls.map some ∧ s.received = sent ls ++ rest ∧
    (∀ l ∈ ls, ¬ crlf <:+: l) ∧ ¬ crlf <:+: rest

/-- One line with its CR LF, and nothing that ends a string before it. -/
def WholeLine (bytes : List UInt8) : Prop :=
  ∃ l, bytes = l ++ crlf ∧ 0 ∉ l ∧ ¬ crlf <:+: l

def WholeTurn (s : State) (t : Turn) : Prop :=
  s.running → t.prompted → ∀ r, t.recv = some r → WholeLine r.bytes

structure Settled (s : State) : Prop where
  inside : ∀ i ∈ s.terminators, 0 ≤ i ∧ i < packetSize
  lines : ∃ ls, s.passed = ls.map some ∧ s.received = sent ls ∧ ∀ l ∈ ls, ¬ crlf <:+: l

variable {s : State} {t : Turn} {r : Read} {ls : List (List UInt8)} {l xs ys : List UInt8}
  {buffer : Memory UInt8} {ts : List Turn}

@[simp] theorem sent_nil : sent [] = [] := rfl

theorem sent_concat : sent (ls ++ [l]) = sent ls ++ (l ++ crlf) := by
  simp [sent]

theorem Settled.right (h : Settled s) : Right s where
  inside := h.inside
  lines := by
    obtain ⟨ls, hpassed, hreceived, hls⟩ := h.lines
    exact ⟨ls, [], hpassed, by rw [hreceived, List.append_nil], hls, by simp [crlf]⟩

theorem settled_start (buffer : Memory UInt8) : Settled (start buffer) where
  inside _ h := absurd h List.not_mem_nil
  lines := ⟨[], rfl, rfl, fun _ h => absurd h List.not_mem_nil⟩

-- ---------------------------------------------------------------------------
-- One line
-- ---------------------------------------------------------------------------

theorem takeWhile_of_notMem (h : 0 ∉ xs) : xs.takeWhile (· ≠ 0) = xs :=
  List.takeWhile_eq_self_iff.mpr fun x hx => by
    simpa using ne_of_mem_of_not_mem hx h

theorem cString_append : cString (xs ++ 0 :: ys) = some (xs.takeWhile (· ≠ 0)) := by
  rw [cString, if_pos (by simp), List.takeWhile_append]
  split
  case isTrue h =>
    have hall := (List.takeWhile_prefix _).eq_of_length h
    rw [List.takeWhile_cons_of_neg (by simp), List.append_nil, hall]
  case isFalse => rfl

theorem read_put_zero (buffer : Memory UInt8) {i : Nat} (h : i < packetSize) :
    ∃ ys, (buffer.put i 0).read 0 packetSize = buffer.read 0 i ++ 0 :: ys := by
  have hsize : packetSize = i + (1 + (packetSize - i - 1)) := by omega
  refine ⟨(buffer.put i 0).read (i + 1) (packetSize - i - 1), ?_⟩
  have hbefore : (buffer.put i 0).read 0 i = buffer.read 0 i :=
    Memory.read_write_of_disjoint (.inl (Nat.zero_add i).le)
  have hat : (buffer.put i 0).read i 1 = [0] := Memory.read_write _ _ _
  conv_lhs => rw [hsize]
  rw [Memory.read_append, Memory.read_append, Nat.zero_add, hbefore, hat, List.singleton_append]

theorem line_passed (h : 2 ≤ r.bytes.length) : (s.line r t).passed =
    s.passed ++ [some ((r.bytes.take (r.bytes.length - 2)).takeWhile (· ≠ 0))] := by
  have hfits := r.fits
  have hi : ((r.bytes.length : Int) - 2) = ((r.bytes.length - 2 : Nat) : Int) := by omega
  have hlast : r.bytes.length - 2 < packetSize := by omega
  obtain ⟨ys, hys⟩ := read_put_zero (s.buffer.write 0 r.bytes) hlast
  rw [Memory.read_write_take (Nat.sub_le ..)] at hys
  simp only [State.line, hi, hys, cString_append]

/-- A line with its CR LF is passed without them. -/
theorem line_settled (hs : Settled s) (hr : WholeLine r.bytes) : Settled (s.line r t) := by
  obtain ⟨l, hl, hzero, hcrlf⟩ := hr
  have hlength : r.bytes.length = l.length + 2 := by rw [hl, List.length_append]; rfl
  have hfits := r.fits
  have htake : r.bytes.take (r.bytes.length - 2) = l := by
    rw [hlength, Nat.add_sub_cancel, hl, List.take_left]
  obtain ⟨ls, hpassed, hreceived, hls⟩ := hs.lines
  refine ⟨?_, ls ++ [l], ?_, ?_, ?_⟩
  · intro i hi
    rcases List.mem_append.mp hi with hi | hi
    · exact hs.inside i hi
    · obtain rfl := List.mem_singleton.mp hi
      omega
  · rw [line_passed (by omega), htake, takeWhile_of_notMem hzero, hpassed, List.map_append,
      List.map_singleton]
  · rw [sent_concat, ← hl, ← hreceived]
    rfl
  · intro x hx
    rcases List.mem_append.mp hx with hx | hx
    · exact hls x hx
    · rwa [List.mem_singleton.mp hx]

/-- A string that a zero ended is not followed by the CR of a line's end. -/
theorem rest_eq_nil {rest : List UInt8} (hxs : xs = l ++ crlf ++ rest)
    (hl : (xs.take (xs.length - 2)).takeWhile (· ≠ 0) = l) : rest = [] := by
  have hlength : xs.length = l.length + 2 + rest.length := by
    rw [hxs, List.length_append, List.length_append]; rfl
  have hsplit := List.takeWhile_append_dropWhile (p := (· ≠ 0)) (l := xs.take (xs.length - 2))
  rw [hl] at hsplit
  cases hdrop : (xs.take (xs.length - 2)).dropWhile (· ≠ 0) with
  | nil =>
    have htake := congrArg List.length hsplit
    rw [hdrop, List.append_nil, List.length_take_of_le (Nat.sub_le ..)] at htake
    exact List.eq_nil_of_length_eq_zero (by omega)
  | cons x ys =>
    -- What ended the string is a zero, and what stands there is the CR.
    have hx : x = 0 := by
      have hhead := List.head?_dropWhile_not (· ≠ 0) (xs.take (xs.length - 2))
      rw [hdrop] at hhead
      simpa using hhead
    have hboth : l ++ x :: (ys ++ xs.drop (xs.length - 2)) = l ++ 0x0D :: (0x0A :: rest) := by
      rw [← List.cons_append, ← List.append_assoc, ← hdrop, hsplit, List.take_append_drop]
      simpa [crlf] using hxs
    rw [List.append_cancel_left_eq, List.cons.injEq, hx] at hboth
    exact absurd hboth.1 (by decide)

theorem wholeLine_of_right (hs : Settled s) (h : Right (s.line r t)) : WholeLine r.bytes := by
  have hlength : 2 ≤ r.bytes.length := by
    have := (h.inside _ (List.mem_append_right _ (List.mem_singleton_self _))).1
    omega
  obtain ⟨ls, hpassed, hreceived, _⟩ := hs.lines
  obtain ⟨ls', rest, hpassed', hreceived', hls', _⟩ := h.lines
  obtain ⟨l, hls, hl⟩ : ∃ l, ls' = ls ++ [l] ∧
      (r.bytes.take (r.bytes.length - 2)).takeWhile (· ≠ 0) = l := by
    rw [line_passed hlength, hpassed, ← List.map_singleton (f := some), ← List.map_append] at hpassed'
    exact ⟨_, (List.map_injective_iff.mpr (fun _ _ => Option.some.inj) hpassed').symm, rfl⟩
  have hbytes : r.bytes = l ++ crlf ++ rest := by
    have hall : s.received ++ r.bytes = sent ls' ++ rest := hreceived'
    rwa [hreceived, hls, sent_concat, List.append_assoc, List.append_cancel_left_eq] at hall
  refine ⟨l, ?_, ?_, hls' l (by simp [hls])⟩
  · rw [rest_eq_nil hbytes hl, List.append_nil] at hbytes
    exact hbytes
  · intro hzero
    rw [← hl] at hzero
    simpa using List.mem_takeWhile_imp hzero

-- ---------------------------------------------------------------------------
-- Every run
-- ---------------------------------------------------------------------------

theorem step_of_not_running (h : ¬ s.running) : s.step t = s := if_neg h

theorem step_line (h : s.running) (hp : t.prompted) (hr : t.recv = some r) :
    s.step t = s.line r t := by
  simp only [State.step, h, hp, hr, if_true]

theorem step_closed (h : s.running) (ht : t.prompted → t.recv = none) :
    s.step t = { s with running := false } := by
  simp only [State.step, h, if_true]
  split
  case h_1 hp hr => simp [ht hp] at hr
  case h_2 => rfl

theorem step_cases (s : State) (t : Turn) :
    (∃ r, s.running ∧ t.prompted ∧ t.recv = some r ∧ s.step t = s.line r t) ∨
    (WholeTurn s t ∧ (s.step t = s ∨ s.step t = { s with running := false })) := by
  by_cases hrun : s.running
  · cases hr : t.recv with
    | none =>
      exact .inr ⟨fun _ _ r h => by simp [hr] at h, .inr (step_closed hrun fun _ => hr)⟩
    | some r =>
      by_cases hp : t.prompted
      · exact .inl ⟨r, hrun, hp, rfl, step_line hrun hp hr⟩
      · exact .inr ⟨fun _ h => absurd h hp, .inr (step_closed hrun fun h => absurd h hp)⟩
  · exact .inr ⟨fun h => absurd h hrun, .inl (step_of_not_running hrun)⟩

theorem settled_step (hs : Settled s) (ht : WholeTurn s t) : Settled (s.step t) := by
  obtain ⟨r, hrun, hp, hr, hstep⟩ | ⟨_, hstep | hstep⟩ := step_cases s t
  · rw [hstep]
    exact line_settled hs (ht hrun hp r hr)
  · rwa [hstep]
  · rw [hstep]
    exact ⟨hs.inside, hs.lines⟩

theorem right_step_iff (hs : Settled s) : Right (s.step t) ↔ WholeTurn s t := by
  constructor
  · intro h
    obtain ⟨r, _, _, hr, hstep⟩ | ⟨ht, _⟩ := step_cases s t
    · rw [hstep] at h
      rintro _ _ r' hr'
      obtain rfl : r = r' := by rwa [hr, Option.some.injEq] at hr'
      exact wholeLine_of_right hs h
    · exact ht
  · exact fun ht => (settled_step hs ht).right

/-- The lines passed are the lines sent, with every write in the buffer, exactly
on those runs in which each `recv` gives one line with its CR LF. -/
theorem lines_exact_iff (buffer : Memory UInt8) (ts : List Turn) :
    Always State.step Right (start buffer) ts ↔ Along State.step WholeTurn (start buffer) ts :=
  always_iff_along (settled_start buffer) (fun _ _ => settled_step) (fun _ => Settled.right)
    fun _ _ => right_step_iff

def oneByte : Turn where
  prompted := true
  recv := some { bytes := [0x68], nonempty := List.cons_ne_nil _ _, fits := by decide }
  status := 0
  left _ := 0

/-- One byte received: the end of the string goes in front of the buffer. -/
theorem one_byte_underflows :
    ¬ ∀ (buffer : Memory UInt8) (ts : List Turn), Always State.step Right (start buffer) ts := by
  intro h
  have hright := h (fun _ => 0) [oneByte] [oneByte] List.prefix_rfl
  have hindex := hright.inside (-1) (by simp [State.step, State.line, start, oneByte])
  exact absurd hindex.1 (by decide)

end SystemMaster.Tcp.Console
