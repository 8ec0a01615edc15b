import SystemMaster.Library.Memory
import SystemMaster.Library.Runs

/-!
# The line editor of the USB console

The editor reads its port a byte at a time into one variable and never looks at
how many bytes a read gave, so that a read of nothing edits the line once more
with the byte of before.
-/

namespace SystemMaster.Usb.LineEditor

open Runs

def cntlQ : UInt8 := 0x11
def cntlS : UInt8 := 0x13
def del : UInt8 := 0x7F
def backspace : UInt8 := 0x08
def cr : UInt8 := 0x0D
def lf : UInt8 := 0x0A

-- ---------------------------------------------------------------------------
-- The editor
-- ---------------------------------------------------------------------------

/-- The locals of `USBCONSOLE_getline`, `line` as an offset, with a record of what it
received and did. -/
structure State where
  line : Nat
  cnt : Nat
  c : UInt8
  buffer : Memory UInt8
  returned : Bool
  received : List UInt8
  /-- What was sent back to the terminal. -/
  echoed : List UInt8
  /-- Where the line was written. -/
  writes : List Int

def start (c : UInt8) (buffer : Memory UInt8) : State := ⟨0, 0, c, buffer, false, [], [], []⟩

namespace State

def store (s : State) (i : Int) (x : UInt8) : State :=
  { s with buffer := s.buffer.put i x, writes := s.writes ++ [i] }

def erase (s : State) : State :=
  if s.cnt ≠ 0 then
    { s with
      cnt := s.cnt - 1
      line := s.line - 1
      echoed := s.echoed ++ [backspace, 0x20, backspace] }
  else s

def append (s : State) : State :=
  let s := s.store s.line s.c
  { s with line := s.line + 1, cnt := s.cnt + 1, echoed := s.echoed ++ [s.c] }

def edit (s : State) : State :=
  if s.c = backspace ∨ s.c = del then s.erase
  else if s.c ≠ cntlQ ∧ s.c ≠ cntlS then s.append
  else s

def finish (s : State) : State := { s.store (s.line - 1) 0 with returned := true }

/-- `USBCDCD_receiveData` gives one byte or leaves `c`. -/
def receive (s : State) (r : Option UInt8) : State :=
  let c := r.getD s.c
  { s with c := if c = cr then lf else c, received := s.received ++ r.toList }

def step (n : Nat) (s : State) (r : Option UInt8) : State :=
  if s.returned then s
  else
    let s := (s.receive r).edit
    if s.cnt + 1 < n ∧ s.c ≠ lf then s else s.finish

end State

-- ---------------------------------------------------------------------------
-- What editing a line is
-- ---------------------------------------------------------------------------

structure Line where
  text : List UInt8
  shown : List UInt8
  ended : Bool

def Line.apply (l : Line) (b : UInt8) : Line :=
  if b = cr ∨ b = lf then { l with shown := l.shown ++ [lf], ended := true }
  else if b = backspace ∨ b = del then
    if l.text = [] then l
    else { l with text := l.text.dropLast, shown := l.shown ++ [backspace, 0x20, backspace] }
  else if b = cntlQ ∨ b = cntlS then l
  else { l with text := l.text ++ [b], shown := l.shown ++ [b] }

def edited (bs : List UInt8) : Line := bs.foldl Line.apply ⟨[], [], false⟩

/-- The editor holds the line that the bytes received make, and a line returned is
that line as a string: ended or full, and with its end in the buffer. -/
structure Right (n : Nat) (s : State) : Prop where
  inside : ∀ i ∈ s.writes, 0 ≤ i ∧ i < n
  shown : s.echoed = (edited s.received).shown
  ended : (edited s.received).ended → s.returned
  editing : ¬ s.returned → s.buffer.read 0 s.cnt = (edited s.received).text
  line : s.returned →
    s.buffer.read 0 ((edited s.received).text.length + 1) = (edited s.received).text ++ [0]
  string : s.returned → 0 ∉ (edited s.received).text
  length : s.returned → (edited s.received).text.length + 1 ≤ n
  done : s.returned → (edited s.received).ended ∨ n ≤ (edited s.received).text.length + 1

/-- A byte that leaves a line of this length as it is. -/
def Idle (cnt : Nat) (c : UInt8) : Prop :=
  c = cntlQ ∨ c = cntlS ∨ (c = backspace ∨ c = del) ∧ cnt = 0

def lengthAfter (cnt : Nat) (c : UInt8) : Nat :=
  if c = backspace ∨ c = del then cnt - 1
  else if c = cntlQ ∨ c = cntlS then cnt
  else cnt + 1

/-- The read gives a byte, unless the byte of before changes nothing, and the line
ends with its CR or LF, with no zero in it, before it is full. -/
structure Edits (n : Nat) (s : State) (r : Option UInt8) : Prop where
  fresh : r = none → Idle s.cnt s.c
  room : r.getD s.c ≠ cr → r.getD s.c ≠ lf → lengthAfter s.cnt (r.getD s.c) + 1 < n
  ends : r.getD s.c = cr ∨ r.getD s.c = lf → s.cnt < n ∧ 0 ∉ s.buffer.read 0 s.cnt

instance {cnt : Nat} {c : UInt8} : Decidable (Idle cnt c) :=
  inferInstanceAs (Decidable (c = cntlQ ∨ c = cntlS ∨ (c = backspace ∨ c = del) ∧ cnt = 0))

instance {n : Nat} {s : State} {r : Option UInt8} : Decidable (Edits n s r) :=
  decidable_of_iff
    ((r = none → Idle s.cnt s.c) ∧
      (r.getD s.c ≠ cr → r.getD s.c ≠ lf → lengthAfter s.cnt (r.getD s.c) + 1 < n) ∧
      (r.getD s.c = cr ∨ r.getD s.c = lf → s.cnt < n ∧ 0 ∉ s.buffer.read 0 s.cnt))
    ⟨fun h => ⟨h.1, h.2.1, h.2.2⟩, fun h => ⟨h.fresh, h.room, h.ends⟩⟩

/-- While a line is edited the pointer stands behind it, with room for one more
character and the end, but for the first turn. -/
structure Settled (n : Nat) (s : State) : Prop where
  right : Right n s
  pointer : ¬ s.returned → s.line = s.cnt
  room : ¬ s.returned → s.cnt = 0 ∨ s.cnt + 1 < n

variable {n k : Nat} {s t : State} {r : Option UInt8} {b : UInt8} {bs xs : List UInt8}
  {rs : List (Option UInt8)}

theorem edited_concat : edited (bs ++ [b]) = (edited bs).apply b := by
  simp [edited]

theorem settled_start (n : Nat) (c : UInt8) (buffer : Memory UInt8) :
    Settled n (start c buffer) where
  right := by constructor <;> simp [start, edited]
  pointer _ := rfl
  room _ := .inl rfl

theorem Settled.length_eq (hs : Settled n s) (hrun : ¬ s.returned) :
    (edited s.received).text.length = s.cnt := by
  rw [← hs.right.editing hrun, Memory.read_length]

theorem Settled.text_eq_nil_iff (hs : Settled n s) (hrun : ¬ s.returned) :
    (edited s.received).text = [] ↔ s.cnt = 0 := by
  rw [← hs.length_eq hrun, List.length_eq_zero_iff]

-- ---------------------------------------------------------------------------
-- One byte
-- ---------------------------------------------------------------------------

structure Applied (s t : State) (l : Line) : Prop where
  pointer : t.line = t.cnt
  shown : t.echoed = l.shown
  text : t.buffer.read 0 t.cnt = l.text ++ if l.ended then [lf] else []
  ended : t.c = lf ↔ l.ended
  running : t.returned = s.returned
  writes : ∀ i ∈ t.writes, i ∈ s.writes ∨ 0 ≤ i ∧ i < t.cnt

theorem Settled.not_ended (hs : Settled n s) (hrun : ¬ s.returned) :
    (edited s.received).ended = false :=
  Bool.eq_false_iff.mpr (hs.right.ended.mt hrun)

theorem append_text (h : s.line = s.cnt) :
    s.append.buffer.read 0 (s.cnt + 1) = s.buffer.read 0 s.cnt ++ [s.c] := by
  have hwrite : s.append.buffer = s.buffer.write (0 + s.cnt) [s.c] := by
    rw [Nat.zero_add, ← h]
    rfl
  rw [hwrite, Memory.read_write_succ]

theorem erase_of_ne (h : s.cnt ≠ 0) : s.erase =
    { s with
      cnt := s.cnt - 1
      line := s.line - 1
      echoed := s.echoed ++ [backspace, 0x20, backspace] } := if_pos h

theorem erase_of_eq (h : s.cnt = 0) : s.erase = s := if_neg (not_not_intro h)

theorem receive_c_of_ne (h : b ≠ cr) : (s.receive (some b)).c = b := if_neg h

theorem receive_c_of_end (h : b = cr ∨ b = lf) : (s.receive (some b)).c = lf := by
  rcases h with rfl | rfl <;> simp [State.receive, cr, lf]

theorem edit_of_append (h : ¬ (s.c = backspace ∨ s.c = del)) (h' : ¬ (s.c = cntlQ ∨ s.c = cntlS)) :
    s.edit = s.append := by
  rw [State.edit, if_neg h, if_pos (not_or.mp h')]

theorem edit_of_erase (h : s.c = backspace ∨ s.c = del) : s.edit = s.erase := if_pos h

theorem edit_of_ignore (h : s.c = cntlQ ∨ s.c = cntlS) : s.edit = s := by
  rw [State.edit, if_neg (by rcases h with h | h <;> rw [h] <;> decide), if_neg (by tauto)]

/-- A character stored, shown and counted. -/
theorem append_applied (hs : Settled n s) (hrun : ¬ s.returned) (l : Line)
    (hshown : l.shown = (edited s.received).shown ++ [(s.receive (some b)).c])
    (htext : (l.text ++ if l.ended then [lf] else []) =
      (edited s.received).text ++ [(s.receive (some b)).c])
    (hended : (s.receive (some b)).c = lf ↔ l.ended) :
    Applied s (s.receive (some b)).append l where
  pointer := congrArg (· + 1) (hs.pointer hrun)
  shown := by rw [hshown, ← hs.right.shown]; rfl
  text := by
    rw [htext, ← hs.right.editing hrun]
    exact append_text (hs.pointer hrun)
  ended := hended
  running := rfl
  writes i hi := by
    rcases List.mem_append.mp hi with hi | hi
    · exact .inl hi
    · have hline := hs.pointer hrun
      obtain rfl := List.mem_singleton.mp hi
      refine .inr ⟨Int.natCast_nonneg _, ?_⟩
      simp only [State.append, State.store, State.receive]
      omega

theorem keep_applied (hs : Settled n s) (hrun : ¬ s.returned) (hc : (s.receive (some b)).c ≠ lf) :
    Applied s (s.receive (some b)) (edited s.received) where
  pointer := hs.pointer hrun
  shown := hs.right.shown
  text := by
    rw [hs.not_ended hrun, ← hs.right.editing hrun]
    exact (List.append_nil _).symm
  ended := by simp [hc, hs.not_ended hrun]
  running := rfl
  writes _ hi := .inl hi

theorem erase_applied (hs : Settled n s) (hrun : ¬ s.returned) (hc : (s.receive (some b)).c ≠ lf)
    (hcnt : s.cnt ≠ 0) : Applied s (s.receive (some b)).erase
      { edited s.received with
        text := (edited s.received).text.dropLast
        shown := (edited s.received).shown ++ [backspace, 0x20, backspace] } := by
  rw [erase_of_ne (s := s.receive (some b)) hcnt]
  constructor
  case pointer => exact congrArg (· - 1) (hs.pointer hrun)
  case shown => exact congrArg (· ++ [backspace, 0x20, backspace]) hs.right.shown
  case text =>
    rw [hs.not_ended hrun, ← hs.right.editing hrun, List.dropLast_eq_take, Memory.read_length,
      Memory.read_take (Nat.sub_le ..)]
    exact (List.append_nil _).symm
  case ended => simpa [hs.not_ended hrun] using hc
  case running => rfl
  case writes => exact fun _ hi => .inl hi

theorem edit_applied (hs : Settled n s) (hrun : ¬ s.returned) :
    Applied s (s.receive (some b)).edit (edited (s.received ++ [b])) := by
  have hended := hs.not_ended hrun
  rw [edited_concat]
  by_cases hend : b = cr ∨ b = lf
  · have hc := receive_c_of_end (s := s) hend
    rw [edit_of_append (by rw [hc]; decide) (by rw [hc]; decide), Line.apply, if_pos hend]
    exact append_applied hs hrun _ (by rw [hc]) (by rw [hc, if_pos rfl]) (iff_of_true hc rfl)
  have hc : (s.receive (some b)).c = b := receive_c_of_ne (not_or.mp hend).1
  have hne : (s.receive (some b)).c ≠ lf := by rw [hc]; exact (not_or.mp hend).2
  rw [Line.apply, if_neg hend]
  by_cases hback : b = backspace ∨ b = del
  · rw [edit_of_erase (by rwa [hc]), if_pos hback]
    by_cases hempty : (edited s.received).text = []
    · rw [if_pos hempty,
        erase_of_eq (s := s.receive (some b)) ((hs.text_eq_nil_iff hrun).mp hempty)]
      exact keep_applied hs hrun hne
    · rw [if_neg hempty]
      exact erase_applied hs hrun hne ((hs.text_eq_nil_iff hrun).not.mp hempty)
  by_cases hctrl : b = cntlQ ∨ b = cntlS
  · rw [edit_of_ignore (by rwa [hc]), if_neg hback, if_pos hctrl]
    exact keep_applied hs hrun hne
  rw [edit_of_append (by rwa [hc]) (by rwa [hc]), if_neg hback, if_neg hctrl]
  refine append_applied hs hrun _ (by rw [hc]) ?_ ?_
  · simp [hc, hended]
  · simp [hne, hended]

theorem apply_ended (l : Line) (h : l.ended = false) :
    (l.apply b).ended ↔ b = cr ∨ b = lf := by
  rw [Line.apply]
  split
  case isTrue hb => exact iff_of_true rfl hb
  case isFalse hb =>
    refine iff_of_false ?_ hb
    split_ifs <;> simp [h]

theorem edit_cnt : (s.receive (some b)).edit.cnt = lengthAfter s.cnt b := by
  by_cases hend : b = cr ∨ b = lf
  · have hc := receive_c_of_end (s := s) hend
    rw [edit_of_append (by rw [hc]; decide) (by rw [hc]; decide)]
    rcases hend with rfl | rfl <;> rfl
  have hc : (s.receive (some b)).c = b := receive_c_of_ne (not_or.mp hend).1
  rw [lengthAfter]
  split_ifs with hback hctrl
  · rw [edit_of_erase (by rwa [hc])]
    by_cases hempty : s.cnt = 0
    · rw [erase_of_eq (s := s.receive (some b)) hempty, hempty]
      exact hempty
    · rw [erase_of_ne (s := s.receive (some b)) hempty]
      rfl
  · rw [edit_of_ignore (by rwa [hc])]
    rfl
  · rw [edit_of_append (by rwa [hc]) (by rwa [hc])]
    rfl

@[simp] theorem edit_received : s.edit.received = s.received := by
  rw [State.edit, State.erase]
  split_ifs <;> rfl

theorem finish_text (h : t.line = t.cnt) (hk : t.cnt = k + 1) :
    t.finish.buffer.read 0 (k + 1) = t.buffer.read 0 k ++ [0] := by
  have hindex : (t.line : Int) - 1 = k := by omega
  have hwrite : t.finish.buffer = t.buffer.write (0 + k) [0] := by
    rw [Nat.zero_add, ← Memory.put_natCast, ← hindex]
    rfl
  rw [hwrite, Memory.read_write_succ]

theorem mem_finish_writes : (t.line : Int) - 1 ∈ t.finish.writes :=
  List.mem_append_right _ (List.mem_singleton_self _)

/-- A line that stops without having ended loses its last character, or is not there. -/
theorem not_right_finish {l : Line} (ht : Applied s t l) (hl : edited t.received = l)
    (hended : l.ended = false) : ¬ Right n t.finish := by
  intro h
  have htext := ht.text
  rw [hended, if_neg Bool.false_ne_true, List.append_nil] at htext
  cases hcnt : t.cnt with
  | zero =>
    have hindex := (h.inside _ mem_finish_writes).1
    rw [ht.pointer, hcnt] at hindex
    exact absurd hindex (by decide)
  | succ k =>
    have hreceived : edited t.finish.received = l := hl
    have hline := h.line rfl
    have hlength : l.text.length = k + 1 := by rw [← htext, Memory.read_length, hcnt]
    have hlast : t.finish.buffer.read 0 (k + 1) = l.text := by
      rw [hreceived, hlength] at hline
      rw [← Memory.read_take (Nat.le_succ _), hline, ← hlength, List.take_left]
    have hstring := h.string rfl
    rw [hreceived, ← hlast, finish_text ht.pointer hcnt] at hstring
    exact hstring (by simp)

theorem right_finish_iff {l : Line} (ht : Applied s t l) (hs : Settled n s)
    (hl : edited t.received = l) (hended : l.ended) :
    Right n t.finish ↔ l.text.length < n ∧ 0 ∉ l.text := by
  have htext := ht.text
  rw [hended, if_pos rfl] at htext
  have hcnt : t.cnt = l.text.length + 1 := by
    rw [← Memory.read_length t.buffer 0 t.cnt, htext, List.length_append]; rfl
  have hreceived : edited t.finish.received = l := hl
  constructor
  · intro h
    have hlength := h.length rfl
    have hstring := h.string rfl
    rw [hreceived] at hlength hstring
    exact ⟨hlength, hstring⟩
  · rintro ⟨hlength, hstring⟩
    have hbefore : t.buffer.read 0 l.text.length = l.text := by
      rw [← Memory.read_take (n := t.cnt) (by omega), htext, List.take_left]
    constructor
    case inside =>
      intro i hi
      rcases List.mem_append.mp hi with hi | hi
      · rcases ht.writes i hi with hi | hi
        · exact hs.right.inside i hi
        · omega
      · obtain rfl := List.mem_singleton.mp hi
        rw [ht.pointer]
        omega
    case shown => rw [hreceived]; exact ht.shown
    case ended => exact fun _ => rfl
    case editing => exact fun h => absurd rfl h
    case line =>
      intro _
      rw [hreceived, finish_text ht.pointer hcnt, hbefore]
    case string => exact fun _ => by rwa [hreceived]
    case length => exact fun _ => by rwa [hreceived]
    case done => exact fun _ => .inl (by rwa [hreceived])

-- ---------------------------------------------------------------------------
-- One turn
-- ---------------------------------------------------------------------------

theorem step_of_returned (h : s.returned) : s.step n r = s := if_pos h

theorem step_goes_on (hrun : ¬ s.returned) (hroom : (s.receive r).edit.cnt + 1 < n)
    (hc : (s.receive r).edit.c ≠ lf) : s.step n r = (s.receive r).edit := by
  rw [State.step, if_neg hrun]
  exact if_pos ⟨hroom, hc⟩

theorem step_finish (hrun : ¬ s.returned)
    (h : (s.receive r).edit.cnt + 1 < n → (s.receive r).edit.c = lf) :
    s.step n r = (s.receive r).edit.finish := by
  rw [State.step, if_neg hrun]
  exact if_neg fun hgo => hgo.2 (h hgo.1)

theorem settled_goes_on {l : Line} (ht : Applied s t l) (hs : Settled n s) (hrun : ¬ s.returned)
    (hl : edited t.received = l) (hended : l.ended = false) (hroom : t.cnt + 1 < n) :
    Settled n t where
  right := by
    have hrunning : ¬ t.returned := by rwa [ht.running]
    have htext := ht.text
    rw [hended, if_neg Bool.false_ne_true, List.append_nil] at htext
    constructor
    case inside =>
      intro i hi
      rcases ht.writes i hi with hi | hi
      · exact hs.right.inside i hi
      · omega
    case shown => rw [hl]; exact ht.shown
    case ended => exact fun h => absurd h (by simp [hl, hended])
    case editing => exact fun _ => by rwa [hl]
    all_goals exact fun h => absurd h hrunning
  pointer _ := ht.pointer
  room _ := .inr hroom

theorem settled_finish (h : Right n t.finish) : Settled n t.finish :=
  ⟨h, fun hrun => absurd rfl hrun, fun hrun => absurd rfl hrun⟩

/-- With a byte read the line stays as it should be when the byte ends it or leaves room. -/
theorem step_byte (hs : Settled n s) (hrun : ¬ s.returned) :
    (Edits n s (some b) → Settled n (s.step n (some b))) ∧
    (Right n (s.step n (some b)) → Edits n s (some b)) := by
  have ht := edit_applied (b := b) hs hrun
  have hreceived : edited (s.receive (some b)).edit.received = edited (s.received ++ [b]) := by
    rw [edit_received]
    rfl
  have hended : (edited (s.received ++ [b])).ended ↔ b = cr ∨ b = lf := by
    rw [edited_concat, apply_ended _ (hs.not_ended hrun)]
  by_cases hend : b = cr ∨ b = lf
  · have htext : (edited (s.received ++ [b])).text = s.buffer.read 0 s.cnt := by
      rw [edited_concat, Line.apply, if_pos hend, hs.right.editing hrun]
    have hright := right_finish_iff ht hs hreceived (hended.mpr hend)
    rw [htext, Memory.read_length] at hright
    rw [step_finish hrun fun _ => ht.ended.mpr (hended.mpr hend)]
    constructor
    · exact fun he => settled_finish (hright.mpr (he.ends hend))
    · intro h
      refine ⟨fun hr => absurd hr (by simp), fun hcr hlf => ?_, fun _ => hright.mp h⟩
      exact absurd hend (not_or.mpr ⟨hcr, hlf⟩)
  · have hnot : (edited (s.received ++ [b])).ended = false :=
      Bool.eq_false_iff.mpr (hended.not.mpr hend)
    have hc : (s.receive (some b)).edit.c ≠ lf := by
      rw [Ne, ht.ended, hnot]
      exact Bool.false_ne_true
    by_cases hroom : (s.receive (some b)).edit.cnt + 1 < n
    · rw [step_goes_on hrun hroom hc]
      constructor
      · exact fun _ => settled_goes_on ht hs hrun hreceived hnot hroom
      · rw [edit_cnt] at hroom
        exact fun _ => ⟨fun hr => absurd hr (by simp), fun _ _ => hroom, fun h => absurd h hend⟩
    · rw [step_finish hrun fun h => absurd h hroom]
      constructor
      · intro he
        rw [edit_cnt] at hroom
        exact absurd (he.room (not_or.mp hend).1 (not_or.mp hend).2) hroom
      · exact fun h => absurd h (not_right_finish ht hreceived hnot)

theorem receive_none (h : s.c ≠ cr) : s.receive none = s := by
  simp [State.receive, h]

theorem edit_idle (h : Idle s.cnt s.c) : (s.receive none).edit = s := by
  obtain hq | hq | ⟨hback, hempty⟩ := h
  · rw [receive_none (by rw [hq]; decide), edit_of_ignore (.inl hq)]
  · rw [receive_none (by rw [hq]; decide), edit_of_ignore (.inr hq)]
  · rw [receive_none (by rcases hback with h | h <;> rw [h] <;> decide), edit_of_erase hback,
      erase_of_eq hempty]

theorem lengthAfter_idle {cnt : Nat} {c : UInt8} (h : Idle cnt c) : lengthAfter cnt c = cnt := by
  obtain rfl | rfl | ⟨hback, rfl⟩ := h
  · rfl
  · rfl
  · exact if_pos hback

theorem edit_echoed (h : ¬ Idle s.cnt s.c) : (s.receive none).edit.echoed ≠ s.echoed := by
  intro hechoed
  by_cases hback : (s.receive none).c = backspace ∨ (s.receive none).c = del
  · have hc : s.c = (s.receive none).c := by
      simp only [State.receive, Option.getD_none] at hback ⊢
      split_ifs at hback ⊢ with hcr
      · exact absurd hback (by decide)
      · rfl
    have hcnt : (s.receive none).cnt ≠ 0 := fun hcnt => h (.inr (.inr ⟨by rwa [hc], hcnt⟩))
    rw [edit_of_erase hback, erase_of_ne hcnt] at hechoed
    simp [State.receive] at hechoed
  · have hctrl : ¬ ((s.receive none).c = cntlQ ∨ (s.receive none).c = cntlS) := by
      simp only [State.receive, Option.getD_none]
      split_ifs
      · decide
      · exact fun hc => h (hc.elim .inl fun hc => .inr (.inl hc))
    rw [edit_of_append hback hctrl] at hechoed
    simp [State.append, State.store, State.receive] at hechoed

theorem step_echoed (hrun : ¬ s.returned) :
    (s.step n r).echoed = (s.receive r).edit.echoed ∧
      (s.step n r).received = s.received ++ r.toList := by
  have hreceived : (s.receive r).edit.received = s.received ++ r.toList := edit_received
  rw [State.step, if_neg hrun]
  dsimp only
  split
  case isTrue => exact ⟨rfl, hreceived⟩
  case isFalse => exact ⟨rfl, hreceived⟩

/-- Without a byte the line stays as it should be when the byte of before changes nothing. -/
theorem step_nothing (hs : Settled n s) (hrun : ¬ s.returned) :
    (Edits n s none → Settled n (s.step n none)) ∧
    (Right n (s.step n none) → Edits n s none) := by
  by_cases hidle : Idle s.cnt s.c
  · have hedit := edit_idle hidle
    have hne : s.c ≠ cr ∧ s.c ≠ lf := by
      obtain hc | hc | ⟨hc | hc, _⟩ := hidle <;> rw [hc] <;> decide
    have hlength := lengthAfter_idle hidle
    by_cases hroom : s.cnt + 1 < n
    · rw [step_goes_on hrun (by rwa [hedit]) (by rw [hedit]; exact hne.2), hedit]
      refine ⟨fun _ => hs, fun _ => ⟨fun _ => hidle, fun _ _ => ?_, fun h => ?_⟩⟩
      · rwa [Option.getD_none, hlength]
      · exact absurd h (not_or.mpr hne)
    · constructor
      · intro he
        have := he.room hne.1 hne.2
        rw [Option.getD_none, hlength] at this
        exact absurd this hroom
      · -- With no room from the start the end is written in front of the line.
        intro h
        rw [step_finish hrun fun h => absurd h (by rwa [hedit]), hedit] at h
        have hindex := (h.inside _ mem_finish_writes).1
        rw [hs.pointer hrun, (hs.room hrun).resolve_right hroom] at hindex
        exact absurd hindex (by decide)
  · refine ⟨fun he => absurd (he.fresh rfl) hidle, fun h => ?_⟩
    obtain ⟨hechoed, hreceived⟩ := step_echoed (n := n) (r := none) hrun
    have hshown := h.shown
    rw [hechoed, hreceived, Option.toList_none, List.append_nil, ← hs.right.shown] at hshown
    exact absurd hshown (edit_echoed hidle)

def EditsWhileRunning (n : Nat) (s : State) (r : Option UInt8) : Prop :=
  ¬ s.returned → Edits n s r

instance : Decidable (EditsWhileRunning n s r) :=
  inferInstanceAs (Decidable (¬ s.returned → Edits n s r))

theorem settled_step (hs : Settled n s) (he : EditsWhileRunning n s r) :
    Settled n (s.step n r) := by
  by_cases hrun : s.returned
  · rwa [step_of_returned hrun]
  cases r with
  | none => exact (step_nothing hs hrun).1 (he hrun)
  | some b => exact (step_byte hs hrun).1 (he hrun)

theorem right_step_iff (hs : Settled n s) :
    Right n (s.step n r) ↔ EditsWhileRunning n s r := by
  refine ⟨fun h hrun => ?_, fun he => (settled_step hs he).right⟩
  cases r with
  | none => exact (step_nothing hs hrun).2 h
  | some b => exact (step_byte hs hrun).2 h

/-- The line is the one the bytes received make, in every state of a call, exactly
when each turn reads a byte and the line ends before it is full. -/
theorem line_exact_iff (n : Nat) (c : UInt8) (buffer : Memory UInt8) (rs : List (Option UInt8)) :
    Always (State.step n) (Right n) (start c buffer) rs ↔
      Along (State.step n) (EditsWhileRunning n) (start c buffer) rs :=
  always_iff_along (settled_start n c buffer) (fun _ _ => settled_step) (fun _ => Settled.right)
    fun _ _ => right_step_iff

/-- After one byte a read gives nothing, and the line has the byte twice. -/
theorem nothing_read_appends :
    ¬ ∀ (n : Nat) (c : UInt8) (buffer : Memory UInt8) (rs : List (Option UInt8)),
      Always (State.step n) (Right n) (start c buffer) rs := by
  intro h
  have hright := h 64 0 (fun _ => 0) [some 0x68, none] _ List.prefix_rfl
  exact absurd hright.shown (by decide)

end SystemMaster.Usb.LineEditor
