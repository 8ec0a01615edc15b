import SystemMaster.Library.Search
import SystemMaster.Usb.Receiver
import Mathlib.Tactic.IntervalCases

/-!
# One call of the receiver on the bytes it is fed

`scan` says, of the bytes alone, what one call skips, what it stores and
whether it stops at a terminator. The receiver does exactly that, however the
polls that bring nothing lie between the bytes, as long as there are fewer of
them than the countdown allows.
-/

namespace SystemMaster.Usb

open Search

def preamble : List UInt8 := [frameHeader1, frameHeader2, frameHeader3, frameHeader4]

def endOfFrame : List UInt8 :=
  [frameEndOfFrame1, frameEndOfFrame2, frameEndOfFrame3, frameEndOfFrame4]

/-- How many bytes the payload states store out of `room`, and whether the last
of them completes a terminator; `none` when the bytes end before. -/
def takes : FrameState → Nat → List UInt8 → Option (Nat × Bool)
  | _, 0, _ => some (0, false)
  | _, _ + 1, [] => none
  | state, room + 1, byte :: s =>
    if state.finishes byte then some (1, true)
    else (takes (state.next byte) room s).map fun (n, complete) => (n + 1, complete)

structure Stretch where
  skipped : Nat
  stored : List UInt8
  complete : Bool
  deriving DecidableEq, Repr

def Stretch.consumed (t : Stretch) : Nat := t.skipped + t.stored.length

def scan (length : Nat) (s : List UInt8) : Option Stretch :=
  match find preamble s with
  | none => none
  | some i =>
    (takes .payload (length - 3 - 4) (s.drop (i + 4))).map fun (n, complete) =>
      ⟨i, (s.drop i).take (4 + n), complete⟩

theorem takes_le {state : FrameState} {room n : Nat} {complete : Bool} {s : List UInt8}
    (h : takes state room s = some (n, complete)) : n ≤ room ∧ n ≤ s.length := by
  induction room generalizing state n s complete with
  | zero =>
    simp only [takes, Option.some.injEq, Prod.mk.injEq] at h
    omega
  | succ room ih =>
    cases s with
    | nil => simp [takes] at h
    | cons byte s =>
      simp only [takes] at h
      split at h
      · simp only [Option.some.injEq, Prod.mk.injEq] at h
        simp only [List.length_cons]
        omega
      · obtain ⟨⟨m, c⟩, hm, heq⟩ := Option.map_eq_some_iff.mp h
        simp only [Prod.mk.injEq] at heq
        have := ih hm
        simp only [List.length_cons]
        omega

def FrameState.seen : FrameState → List UInt8
  | .endOfFrame1 => [frameEndOfFrame1]
  | .endOfFrame2 => [frameEndOfFrame1, frameEndOfFrame2]
  | .endOfFrame3 => [frameEndOfFrame1, frameEndOfFrame2, frameEndOfFrame3]
  | _ => []

theorem seen_next (state : FrameState) {byte : UInt8} (h : state.finishes byte = false) :
    (state.next byte).seen <:+ state.seen ++ [byte] := by
  cases state <;> simp only [FrameState.next]
  case payload => split <;> simp_all [FrameState.seen]
  case endOfFrame1 =>
    split
    · next hb => exact ⟨[frameEndOfFrame1], by rw [hb]; rfl⟩
    · split <;> simp_all [FrameState.seen]
  case endOfFrame2 => split <;> simp_all [FrameState.seen]
  case endOfFrame3 =>
    have hb : byte ≠ frameEndOfFrame4 := by simpa [FrameState.finishes] using h
    simp [hb, FrameState.seen]
  all_goals simp [FrameState.seen]

theorem takes_suffix {state : FrameState} {room n : Nat} {s : List UInt8}
    (h : takes state room s = some (n, true)) : endOfFrame <:+ state.seen ++ s.take n := by
  induction room generalizing state n s with
  | zero => simp [takes] at h
  | succ room ih =>
    cases s with
    | nil => simp [takes] at h
    | cons byte s =>
      rw [takes] at h
      split at h
      · next hend =>
        obtain rfl : 1 = n := by simpa using h
        obtain ⟨rfl, rfl⟩ : state = .endOfFrame3 ∧ byte = frameEndOfFrame4 := by
          simpa [FrameState.finishes] using hend
        exact List.suffix_refl _
      · next hend =>
        obtain ⟨⟨m, c⟩, hm, heq⟩ := Option.map_eq_some_iff.mp h
        obtain ⟨rfl, rfl⟩ : m + 1 = n ∧ c = true := by simpa using heq
        obtain ⟨u, hu⟩ := seen_next state (by simpa using hend)
        refine (ih hm).trans ⟨u, ?_⟩
        rw [← List.append_assoc, hu, List.take_succ_cons, List.append_assoc]
        rfl

theorem stored_length {state : FrameState} {room i n : Nat} {complete : Bool} {s : List UInt8}
    (hf : find preamble s = some i) (ht : takes state room (s.drop (i + 4)) = some (n, complete)) :
    ((s.drop i).take (4 + n)).length = 4 + n ∧ i + (4 + n) ≤ s.length := by
  have hle := (takes_le ht).2
  have hpre := le_of_find hf
  rw [List.length_drop] at hle
  rw [show preamble.length = 4 from rfl] at hpre
  rw [List.length_take, List.length_drop]
  omega

theorem scan_of_find {length i : Nat} {s : List UInt8} (hf : find preamble s = some i) :
    scan length s = (takes .payload (length - 3 - 4) (s.drop (i + 4))).map fun (n, complete) =>
      ⟨i, (s.drop i).take (4 + n), complete⟩ := by
  simp only [scan, hf]

theorem scan_of_find_none {length : Nat} {s : List UInt8} (hf : find preamble s = none) :
    scan length s = none := by
  simp only [scan, hf]

/-- The call returned what the stretch says, with the bytes of the stretch at
the start of the buffer. -/
structure Stretch.Returns (t : Stretch) (pStr : Memory UInt8) (polls : List Poll)
    (ret : Returned) : Prop where
  preamble_starts : preamble <+: t.stored
  terminated : t.complete = true → endOfFrame <:+ t.stored
  isError : ret.isError = !t.complete
  retValue : ret.retValue = if t.complete then t.stored.length else (t.stored.length + 1) ||| 1
  pStr : ret.pStr = pStr.write 0 t.stored
  bytes_rest : bytes ret.rest = (bytes polls).drop t.consumed
  consumed_le : t.consumed ≤ (bytes polls).length
  idles_rest : idles ret.rest ≤ idles polls

/-- The returns of successive calls on one buffer, each with its stretch. -/
inductive Worked : Memory UInt8 → List Poll → List Stretch → List Returned → Prop
  | nil {buffer polls} : Worked buffer polls [] []
  | cons {buffer polls t ts ret rets} : t.Returns buffer polls ret →
      Worked ret.pStr ret.rest ts rets → Worked buffer polls (t :: ts) (ret :: rets)

-- ---------------------------------------------------------------------------
-- The payload states
-- ---------------------------------------------------------------------------

variable {length timeout : Nat} {r r' : Receiver} {old : Memory UInt8} {polls rest : List Poll}
  {k n : Nat} {complete : Bool}

@[simp] theorem FrameState.next_isBody {state : FrameState} (byte : UInt8) :
    (state.next byte).isBody = state.isBody := by
  cases state <;> simp only [FrameState.next] <;> (repeat' split) <;> rfl

theorem Receiver.iteration_body (timeout : Nat) (hs : r.state.isBody) (byte : UInt8) :
    r.iteration timeout (some byte) = r.body byte := by
  unfold Receiver.iteration
  cases h : r.state <;> simp_all [FrameState.isBody]

theorem Receiver.iteration_none (r : Receiver) (timeout : Nat) (h : 1 < r.countDown) :
    r.iteration timeout none = { r with dataReceived := 0, countDown := r.countDown - 1 } := by
  have hne : r.countDown - 1 ≠ 0 := by omega
  simp [Receiver.iteration, Receiver.idle, hne]

theorem Receiver.full_of_body (hs : r.state.isBody) :
    r.full length = decide (length < r.counterRead + 4) := by
  simp only [Receiver.full, hs, Bool.true_and, decide_eq_decide]
  omega

/-- `r'` has stored the next `n` bytes; an incomplete frame leaves an error and
counts the byte read last once more. -/
structure Receiver.Took (r : Receiver) (polls : List Poll) (n : Nat) (complete : Bool)
    (r' : Receiver) (rest : List Poll) : Prop where
  isError : r'.isError = !complete
  counterRead : r'.counterRead = r.counterRead + n + if complete then 0 else 1
  pStr : r'.pStr = r.pStr.write r.counterRead ((bytes polls).take n)
  bytes_rest : bytes rest = (bytes polls).drop n
  idles_rest : idles rest ≤ idles polls

theorem Receiver.Took.idle {d c : Nat}
    (h : Receiver.Took { r with dataReceived := d, countDown := c } polls n complete r' rest) :
    r.Took (none :: polls) n complete r' rest where
  isError := h.isError
  counterRead := h.counterRead
  pStr := h.pStr
  bytes_rest := h.bytes_rest
  idles_rest := h.idles_rest.trans (by simp)

theorem Receiver.Took.body {byte : UInt8} (h : (r.body byte).Took polls n complete r' rest) :
    r.Took (some byte :: polls) (n + 1) complete r' rest where
  isError := h.isError
  counterRead := by
    rw [h.counterRead]
    simp only [Receiver.body]
    omega
  pStr := by
    rw [h.pStr, bytes_some, List.take_succ_cons, Memory.write_cons]
    rfl
  bytes_rest := h.bytes_rest
  idles_rest := h.idles_rest.trans (by simp)

theorem Receiver.loop_full (hf : r.full length) :
    r.loop length timeout polls = some (r.overflow, polls) := by
  cases polls <;> simp [Receiver.loop, hf]

theorem Receiver.loop_cons (ht : timeout ≠ 0) (hf : r.full length = false) (poll : Poll)
    (hfin : (r.iteration timeout poll).isFinish = false) :
    r.loop length timeout (poll :: polls) =
      (r.iteration timeout poll).loop length timeout polls := by
  simp [Receiver.loop, hf, ht, hfin]

theorem Receiver.loop_finish (hf : r.full length = false) (poll : Poll)
    (hfin : (r.iteration timeout poll).isFinish = true) :
    r.loop length timeout (poll :: polls) = some (r.iteration timeout poll, polls) := by
  simp [Receiver.loop, hf, hfin]

/-- The loop waits for more polls, or ends having taken what is said. -/
def Receiver.Loops (length timeout : Nat) (r : Receiver) (polls : List Poll) :
    Option (Nat × Bool) → Prop
  | none => r.loop length timeout polls = none
  | some (n, complete) =>
    ∃ r' rest, r.loop length timeout polls = some (r', rest) ∧ r.Took polls n complete r' rest

theorem Receiver.Loops.idle {d c : Nat} {taken : Option (Nat × Bool)}
    (hloop : r.loop length timeout (none :: polls) =
      Receiver.loop length timeout { r with dataReceived := d, countDown := c } polls)
    (h : Receiver.Loops length timeout { r with dataReceived := d, countDown := c } polls taken) :
    r.Loops length timeout (none :: polls) taken := by
  cases taken with
  | none => exact hloop.trans h
  | some taken =>
    obtain ⟨r', rest, hrest, htook⟩ := h
    exact ⟨r', rest, hloop.trans hrest, htook.idle⟩

theorem Receiver.Loops.body {byte : UInt8} {taken : Option (Nat × Bool)}
    (hloop : r.loop length timeout (some byte :: polls) =
      (r.body byte).loop length timeout polls)
    (h : (r.body byte).Loops length timeout polls taken) :
    r.Loops length timeout (some byte :: polls)
      (taken.map fun (n, complete) => (n + 1, complete)) := by
  cases taken with
  | none => exact hloop.trans h
  | some taken =>
    obtain ⟨r', rest, hrest, htook⟩ := h
    exact ⟨r', rest, hloop.trans hrest, htook.body⟩

theorem Receiver.loop_noRoom (hs : r.state.isBody) (hroom : r.counterRead + 3 = length)
    (hdata : r.dataReceived = 1) :
    r.Loops length timeout polls (some (0, false)) := by
  have hf : r.full length = true := by
    rw [Receiver.full_of_body hs, decide_eq_true_eq]
    omega
  refine ⟨r.overflow, polls, Receiver.loop_full hf, ?_⟩
  exact ⟨rfl, by simp [Receiver.overflow, hdata], by simp [Receiver.overflow], rfl, le_refl _⟩

theorem Receiver.loop_terminated (hs : r.state.isBody) (hf : r.full length = false)
    (herr : r.isError = false) {byte : UInt8} (hend : r.state.finishes byte = true) :
    r.Loops length timeout (some byte :: polls) (some (1, true)) := by
  have hit := Receiver.iteration_body timeout hs byte
  refine ⟨r.body byte, polls, ?_, ?_⟩
  · rw [Receiver.loop_finish hf _ (by rw [hit]; simp [Receiver.body, hend]), hit]
  · exact ⟨by simp [Receiver.body, herr], by simp [Receiver.body], by simp [Receiver.body],
      by simp, by simp⟩

theorem Receiver.loop_body (ht : timeout ≠ 0) (hs : r.state.isBody) (hfin : r.isFinish = false)
    (herr : r.isError = false) (hcount : r.counterRead + 3 ≤ length)
    (hdata : r.counterRead + 3 = length → r.dataReceived = 1)
    (hidle : idles polls < r.countDown) :
    r.Loops length timeout polls (takes r.state (length - 3 - r.counterRead) (bytes polls)) := by
  induction polls generalizing r with
  | nil =>
    rcases Nat.eq_or_lt_of_le hcount with hroom | hroom
    · rw [show length - 3 - r.counterRead = 0 by omega]
      exact Receiver.loop_noRoom hs hroom (hdata hroom)
    · obtain ⟨room, hr⟩ := Nat.exists_eq_add_of_lt hroom
      rw [show length - 3 - r.counterRead = room + 1 by omega]
      have hf : ¬length < r.counterRead + 4 := by omega
      simp [takes, Receiver.Loops, Receiver.loop, Receiver.full_of_body hs, hf]
  | cons poll polls ih =>
    rcases Nat.eq_or_lt_of_le hcount with hroom | hroom
    · rw [show length - 3 - r.counterRead = 0 by omega]
      exact Receiver.loop_noRoom hs hroom (hdata hroom)
    have hf : r.full length = false := by
      rw [Receiver.full_of_body hs, decide_eq_false_iff_not]
      omega
    cases poll with
    | none =>
      -- a tick of sleep: nothing but the countdown moves
      rw [idles_none] at hidle
      have hit := Receiver.iteration_none r timeout (by omega)
      have hloop : r.loop length timeout (none :: polls) = _ :=
        Receiver.loop_cons ht hf none (by rw [hit]; exact hfin)
      rw [hit] at hloop
      have hlt : idles polls < r.countDown - 1 := by omega
      exact .idle hloop (ih hs hfin herr hcount (fun h => absurd h (by simp only; omega)) hlt)
    | some byte =>
      obtain ⟨room, hr⟩ := Nat.exists_eq_add_of_lt hroom
      rw [show length - 3 - r.counterRead = room + 1 by omega, bytes_some, takes]
      by_cases hend : r.state.finishes byte
      · rw [if_pos hend]
        exact Receiver.loop_terminated hs hf herr hend
      · rw [if_neg hend]
        have hit := Receiver.iteration_body timeout hs byte
        have hcont : (r.body byte).isFinish = false := by simp [Receiver.body, hfin, hend]
        have hloop : r.loop length timeout (some byte :: polls) = _ :=
          Receiver.loop_cons ht hf _ (by rw [hit]; exact hcont)
        rw [hit] at hloop
        have hrest := ih (r := r.body byte) (by simpa [Receiver.body] using hs) hcont
          (by simpa [Receiver.body] using herr) (by simp only [Receiver.body]; omega)
          (fun _ => rfl) (by simpa [Receiver.body] using hidle)
        have hsub : length - 3 - (r.body byte).counterRead = room := by
          simp only [Receiver.body]
          omega
        rw [hsub] at hrest
        exact .body hloop hrest

-- ---------------------------------------------------------------------------
-- The preamble states
-- ---------------------------------------------------------------------------

def headerState : Nat → FrameState
  | 0 => .header1
  | 1 => .header2
  | 2 => .header3
  | 3 => .header4
  | _ => .payload

def preambleNext (k : Nat) (byte : UInt8) : Nat :=
  if preamble[k]? = some byte then k + 1 else if byte = frameHeader1 then 1 else 0

/-- `k` bytes of the preamble are matched and stored; `old` is the buffer the
call was given. -/
structure Receiver.Hunting (old : Memory UInt8) (k : Nat) (r : Receiver) : Prop where
  state : r.state = headerState k
  counterRead : r.counterRead = k
  isError : r.isError = false
  isFinish : r.isFinish = false
  stored : r.pStr.read 0 k = preamble.take k
  untouched : ∀ a, 4 ≤ a → r.pStr a = old a

theorem Receiver.Hunting.start (timeout : Nat) (old : Memory UInt8) :
    (Receiver.start timeout old).Hunting old 0 :=
  ⟨rfl, rfl, rfl, rfl, rfl, fun _ _ => rfl⟩

theorem preambleNext_le (byte : UInt8) (hk : k < 4) : preambleNext k byte ≤ k + 1 := by
  simp only [preambleNext]
  split
  · exact le_refl _
  · split <;> omega

theorem preamble_take_length (hk : k < 4) : (preamble.take k).length = k := by
  rw [List.length_take]
  exact Nat.min_eq_left hk.le

theorem not_preamble_starts {byte : UInt8} {s : List UInt8} (h : byte ≠ frameHeader1) :
    ¬preamble <+: byte :: s := by
  rw [preamble, List.cons_prefix_cons]
  exact fun hp => h hp.1.symm

theorem not_preamble_within (byte : UInt8) (s : List UInt8) (hk : k < 4)
    (hn : preamble[k]? ≠ some byte) :
    ∀ j < k, ¬preamble <+: (preamble.take k ++ byte :: s).drop j := by
  intro j hj
  cases j with
  | zero =>
    intro hp
    have hlen : k < preamble.length := hk
    have hg := List.prefix_iff_getElem?.mp hp k hlen
    rw [List.drop_zero, List.getElem?_append_right (by rw [preamble_take_length hk]),
      preamble_take_length hk, Nat.sub_self, List.getElem?_cons_zero,
      ← List.getElem?_eq_getElem hlen] at hg
    exact hn hg.symm
  | succ j =>
    have hcases : (k = 2 ∧ j = 0) ∨ (k = 3 ∧ j = 0) ∨ (k = 3 ∧ j = 1) := by omega
    rcases hcases with ⟨rfl, rfl⟩ | ⟨rfl, rfl⟩ | ⟨rfl, rfl⟩ <;>
      exact not_preamble_starts (by decide)

theorem drop_preamble_next (byte : UInt8) (s : List UInt8) (hk : k < 4) :
    (preamble.take k ++ byte :: s).drop (k + 1 - preambleNext k byte) =
      preamble.take (preambleNext k byte) ++ s := by
  have hsplit : preamble.take k ++ byte :: s = (preamble.take k ++ [byte]) ++ s := by simp
  simp only [preambleNext]
  split
  · next hn =>
    rw [Nat.sub_self, List.drop_zero, List.take_add_one, hn, hsplit]
    rfl
  · split
    · next ha =>
      rw [Nat.add_sub_cancel, List.drop_left' (preamble_take_length hk), ha]
      rfl
    · rw [hsplit, List.drop_left' (by simp [preamble_take_length hk])]
      rfl

theorem find_preamble_next (byte : UInt8) (s : List UInt8) (hk : k < 4) :
    find preamble (preamble.take k ++ byte :: s) =
      (find preamble (preamble.take (preambleNext k byte) ++ s)).map
        (· + (k + 1 - preambleNext k byte)) := by
  by_cases hn : preamble[k]? = some byte
  · have h : preamble.take k ++ byte :: s = preamble.take (k + 1) ++ s := by
      rw [List.take_add_one, hn]
      simp
    rw [preambleNext, if_pos hn, h]
    simp
  · rw [preambleNext, if_neg hn,
      find_of_drop (n := k) (by simp [preamble_take_length hk]) (not_preamble_within byte s hk hn),
      List.drop_left' (preamble_take_length hk)]
    by_cases ha : byte = frameHeader1
    · subst ha
      rw [if_pos rfl]
      simp [preamble]
    · rw [if_neg ha, find_cons_of_miss (not_preamble_starts ha), Option.map_map]
      simp [Function.comp_def, Nat.add_comm, Nat.add_left_comm]

theorem Receiver.Hunting.untouched_write (h : r.Hunting old k) {i : Nat} (hi : i < 4)
    (byte : UInt8) : ∀ a, 4 ≤ a → r.pStr.write i [byte] a = old a := by
  intro a ha
  rw [Memory.write_of_ge (by rw [List.length_singleton]; omega)]
  exact h.untouched a ha

theorem Receiver.Hunting.header (h : r.Hunting old k) (hk : k < 4) (byte : UInt8) (expected)
    (hexp : preamble[k]? = some expected) :
    (r.header expected k (headerState (k + 1)) byte).Hunting old (preambleNext k byte) := by
  have hpre : preamble.take (k + 1) = preamble.take k ++ [expected] := by
    rw [List.take_add_one, hexp]
    rfl
  simp only [Receiver.header, preambleNext, hexp, Option.some.injEq]
  by_cases hb : byte = expected
  · subst hb
    rw [if_pos rfl, if_pos rfl]
    refine ⟨rfl, rfl, h.isError, h.isFinish, ?_, h.untouched_write hk byte⟩
    have hw := Memory.read_write_succ r.pStr 0 k byte
    rw [Nat.zero_add, h.stored] at hw
    rw [hpre, ← hw]
  · rw [if_neg hb, if_neg (Ne.symm hb)]
    by_cases ha : byte = frameHeader1
    · rw [if_pos ha, if_pos ha]
      refine ⟨rfl, rfl, h.isError, h.isFinish, ?_,
        h.untouched_write (i := 0) (by omega) byte⟩
      rw [ha]
      simp [Memory.read, preamble]
    · rw [if_neg ha, if_neg ha]
      exact ⟨rfl, rfl, h.isError, h.isFinish, rfl, h.untouched⟩

theorem Receiver.header_dataReceived (expected byte : UInt8) (index : Nat) (next : FrameState) :
    (r.header expected index next byte).dataReceived = 1 ∧
      (r.header expected index next byte).countDown = r.countDown := by
  simp only [Receiver.header]
  split
  · exact ⟨rfl, rfl⟩
  · split <;> exact ⟨rfl, rfl⟩

theorem Receiver.Hunting.step (timeout : Nat) (h : r.Hunting old k) (hk : k < 4) (byte : UInt8) :
    (r.iteration timeout (some byte)).Hunting old (preambleNext k byte) ∧
      (r.iteration timeout (some byte)).dataReceived = 1 ∧
      ((r.iteration timeout (some byte)).countDown = r.countDown ∨
        (r.iteration timeout (some byte)).countDown = timeout) := by
  have hs := h.state
  unfold Receiver.iteration
  have hcases : k = 0 ∨ k = 1 ∨ k = 2 ∨ k = 3 := by omega
  rcases hcases with rfl | rfl | rfl | rfl
  · simp only [headerState] at hs
    simp only [hs]
    by_cases hb : byte = frameHeader1
    · have hnext : preambleNext 0 byte = 1 := by simp [preambleNext, hb, preamble]
      rw [if_pos hb, hnext]
      refine ⟨⟨rfl, rfl, h.isError, h.isFinish, ?_, h.untouched_write hk byte⟩, rfl, .inr rfl⟩
      rw [hb]
      simp [Memory.read, preamble]
    · have hnext : preambleNext 0 byte = 0 := by
        simp [preambleNext, hb, preamble, Ne.symm hb]
      rw [if_neg hb, hnext]
      exact ⟨⟨rfl, h.counterRead, h.isError, h.isFinish, rfl, h.untouched⟩, rfl, .inl rfl⟩
  all_goals
    simp only [headerState] at hs
    simp only [hs]
    have hd := r.header_dataReceived
    exact ⟨h.header hk byte _ rfl, (hd _ _ _ _).1, .inl (hd _ _ _ _).2⟩

theorem Receiver.Hunting.idle (h : r.Hunting old k) {d c : Nat} :
    Receiver.Hunting old k { r with dataReceived := d, countDown := c } :=
  ⟨h.state, h.counterRead, h.isError, h.isFinish, h.stored, h.untouched⟩

theorem Receiver.Hunting.not_full (h : r.Hunting old k) (hk : k < 4) : r.full length = false := by
  have hcases : k = 0 ∨ k = 1 ∨ k = 2 ∨ k = 3 := by omega
  rcases hcases with rfl | rfl | rfl | rfl <;>
    simp [Receiver.full, h.state, headerState, FrameState.isBody]

/-- `r'` has just seen the last preamble byte of the text at `i`, and the loop
of `r` goes on as its loop does. -/
structure Receiver.Found (length timeout : Nat) (old : Memory UInt8) (r : Receiver)
    (polls : List Poll) (s : List UInt8) (r' : Receiver) (polls' : List Poll) : Prop where
  loop : r.loop length timeout polls = r'.loop length timeout polls'
  hunting : r'.Hunting old 4
  dataReceived : r'.dataReceived = 1
  bytes_rest : bytes polls' = s
  idles_rest : idles polls' ≤ idles polls
  idles_lt : idles polls' < r'.countDown

/-- The loop waits for ever, or reaches the end of the preamble found in `s`. -/
def Receiver.Hunts (length timeout : Nat) (old : Memory UInt8) (r : Receiver) (polls : List Poll)
    (s : List UInt8) : Option Nat → Prop
  | none => r.loop length timeout polls = none
  | some i => ∃ r' polls', r.Found length timeout old polls (s.drop (i + 4)) r' polls'

theorem Receiver.Hunts.cons {poll : Poll} {s : List UInt8} {d : Nat} {found : Option Nat}
    (hloop : r.loop length timeout (poll :: polls) = r'.loop length timeout polls)
    (h : r'.Hunts length timeout old polls (s.drop d) found) :
    r.Hunts length timeout old (poll :: polls) s (found.map (· + d)) := by
  cases found with
  | none => exact hloop.trans h
  | some i =>
    obtain ⟨r'', polls', hfound⟩ := h
    refine ⟨r'', polls', { hfound with
      loop := hloop.trans hfound.loop
      bytes_rest := ?_
      idles_rest := hfound.idles_rest.trans ?_ }⟩
    · rw [hfound.bytes_rest, List.drop_drop]
      congr 1
      change d + (i + 4) = i + d + 4
      omega
    · cases poll <;> simp

theorem find_preamble_take (hk : k < 4) : find preamble (preamble.take k) = none := by
  rw [Option.eq_none_iff_forall_ne_some]
  intro i hi
  have hle := le_of_find hi
  have hlen : preamble.length = 4 := rfl
  rw [preamble_take_length hk] at hle
  omega

theorem Receiver.Hunting.loop (ht : timeout ≠ 0) (h : r.Hunting old k) (hk : k < 4)
    (hidle : idles polls < r.countDown) (htime : idles polls < timeout) :
    r.Hunts length timeout old polls (preamble.take k ++ bytes polls)
      (find preamble (preamble.take k ++ bytes polls)) := by
  induction polls generalizing r k with
  | nil =>
    rw [bytes_nil, List.append_nil, find_preamble_take hk]
    simp [Receiver.Hunts, Receiver.loop, h.not_full hk]
  | cons poll polls ih =>
    cases poll with
    | none =>
      rw [idles_none] at hidle htime
      have hit := Receiver.iteration_none r timeout (by omega)
      have hloop : r.loop length timeout (none :: polls) = _ :=
        Receiver.loop_cons ht (h.not_full hk) none (by rw [hit]; exact h.isFinish)
      rw [hit] at hloop
      have hlt : idles polls < r.countDown - 1 := by omega
      have hrest := ih (h.idle (d := 0) (c := r.countDown - 1)) hk hlt (by omega)
      simpa using Receiver.Hunts.cons (d := 0) hloop hrest
    | some byte =>
      rw [idles_some] at hidle htime
      obtain ⟨hstep, hdata, hcount⟩ := Receiver.Hunting.step timeout h hk byte
      have hloop : r.loop length timeout (some byte :: polls) = _ :=
        Receiver.loop_cons ht (h.not_full hk) _ hstep.isFinish
      have hlt : idles polls < (r.iteration timeout (some byte)).countDown := by
        rcases hcount with hcount | hcount <;> rw [hcount] <;> assumption
      rw [bytes_some, find_preamble_next byte _ hk]
      refine .cons hloop ?_
      rw [drop_preamble_next byte _ hk]
      rcases Nat.lt_or_ge (preambleNext k byte) 4 with hk' | hk'
      · exact ih hstep hk' hlt htime
      · -- the byte completes the preamble
        have hfour : preambleNext k byte = 4 := by
          have := preambleNext_le byte hk
          omega
        rw [hfour] at hstep ⊢
        rw [find_of_start (by simp [preamble])]
        exact ⟨_, polls, ⟨rfl, hstep, hdata, rfl, le_rfl, hlt⟩⟩

variable {pStr buffer : Memory UInt8} {calls : Nat}

theorem Receiver.Hunting.pStr_eq (h : r.Hunting old 4) : r.pStr = old.write 0 preamble :=
  Memory.eq_write h.stored fun a ha => h.untouched a (by
    rcases ha with ha | ha
    · omega
    · exact ha)

def Receives (length timeout : Nat) (pStr : Memory UInt8) (polls : List Poll) :
    Option Stretch → Prop
  | none => receiveFrameData length timeout pStr polls = none
  | some t => ∃ ret, receiveFrameData length timeout pStr polls = some ret ∧
      t.Returns pStr polls ret

theorem Receiver.Found.returns {i : Nat} {polls' : List Poll} {r'' : Receiver}
    (hfound : r.Found length timeout pStr polls ((bytes polls).drop (i + 4)) r' polls')
    (hf : find preamble (bytes polls) = some i)
    (htakes : takes .payload (length - 3 - 4) ((bytes polls).drop (i + 4)) = some (n, complete))
    (htook : r'.Took polls' n complete r'' rest) :
    Stretch.Returns ⟨i, ((bytes polls).drop i).take (4 + n), complete⟩ pStr polls
      (r''.returned rest) := by
  have hcount : r'.counterRead = 4 := hfound.hunting.counterRead
  have hstored : ((bytes polls).drop i).take (4 + n) =
      preamble ++ ((bytes polls).drop (i + 4)).take n := by
    rw [drop_of_find hf]
    exact @List.take_length_add_append _ preamble _ n
  obtain ⟨hlen, hle⟩ := stored_length hf htakes
  have hstart : preamble <+: ((bytes polls).drop i).take (4 + n) := by
    rw [hstored]
    exact List.prefix_append _ _
  have hsuffix : complete = true → endOfFrame <:+ ((bytes polls).drop i).take (4 + n) := by
    rintro rfl
    rw [hstored]
    exact (takes_suffix htakes).trans (List.suffix_append preamble _)
  refine ⟨hstart, hsuffix, htook.isError, ?_, ?_, ?_, ?_,
    htook.idles_rest.trans hfound.idles_rest⟩
  · have hret : (r''.returned rest).retValue =
        if r''.isError then r''.counterRead ||| 1 else r''.counterRead := rfl
    rw [hret, htook.isError, htook.counterRead, hcount, hlen]
    cases complete <;> simp
  · change r''.pStr = pStr.write 0 (((bytes polls).drop i).take (4 + n))
    rw [htook.pStr, hcount, hfound.bytes_rest, hfound.hunting.pStr_eq, hstored,
      Memory.write_append]
    rfl
  · change bytes rest = (bytes polls).drop (i + (((bytes polls).drop i).take (4 + n)).length)
    rw [htook.bytes_rest, hfound.bytes_rest, List.drop_drop, hlen, Nat.add_assoc]
  · change i + (((bytes polls).drop i).take (4 + n)).length ≤ (bytes polls).length
    rwa [hlen]

/-- One call does on the port what `scan` says of the bytes. -/
theorem receiveFrameData_scan (hl : 16 ≤ length) (htime : idles polls < timeout) :
    Receives length timeout pStr polls (scan length (bytes polls)) := by
  have ht : timeout ≠ 0 := by omega
  have hunt : (Receiver.start timeout pStr).Hunts length timeout pStr polls _ _ :=
    Receiver.Hunting.loop ht (Receiver.Hunting.start timeout pStr) (by omega) htime htime
  rw [List.take_zero, List.nil_append] at hunt
  cases hf : find preamble (bytes polls) with
  | none =>
    rw [hf] at hunt
    rw [scan_of_find_none hf]
    change receiveFrameData length timeout pStr polls = none
    rw [receiveFrameData, if_pos hl, hunt, Option.map_none]
  | some i =>
    rw [hf] at hunt
    obtain ⟨r', polls', hfound⟩ := hunt
    have hcount : r'.counterRead = 4 := hfound.hunting.counterRead
    have hstate : r'.state = .payload := hfound.hunting.state
    have hbody : r'.Loops length timeout polls' _ := Receiver.loop_body ht
      (by rw [hstate]; rfl) hfound.hunting.isFinish hfound.hunting.isError (by omega)
      (fun _ => hfound.dataReceived) hfound.idles_lt
    rw [hstate, hcount, hfound.bytes_rest] at hbody
    rw [scan_of_find hf]
    cases htakes : takes .payload (length - 3 - 4) ((bytes polls).drop (i + 4)) with
    | none =>
      rw [htakes] at hbody
      change receiveFrameData length timeout pStr polls = none
      rw [receiveFrameData, if_pos hl, hfound.loop, hbody, Option.map_none]
    | some taken =>
      rw [htakes] at hbody
      obtain ⟨r'', rest, hloop, htook⟩ := hbody
      refine ⟨r''.returned rest, ?_, hfound.returns hf htakes htook⟩
      rw [receiveFrameData, if_pos hl, hfound.loop, hloop, Option.map_some]

def stretches (length : Nat) : Nat → List UInt8 → List Stretch
  | 0, _ => []
  | calls + 1, s =>
    match scan length s with
    | none => []
    | some t => t :: stretches length calls (s.drop t.consumed)

theorem workerFxn_worked (htime : idles polls < waitForever) :
    Worked buffer polls (stretches bufferSize calls (bytes polls))
      (workerFxn calls buffer polls) := by
  induction calls generalizing buffer polls with
  | zero => exact .nil
  | succ calls ih =>
    have hcall : Receives bufferSize waitForever buffer polls _ :=
      receiveFrameData_scan (by decide) htime
    simp only [stretches, workerFxn]
    cases hs : scan bufferSize (bytes polls) with
    | none =>
      rw [hs] at hcall
      change receiveFrameData bufferSize waitForever buffer polls = none at hcall
      rw [hcall]
      exact .nil
    | some t =>
      rw [hs] at hcall
      obtain ⟨ret, hret, hreturns⟩ := hcall
      rw [hret]
      simp only
      rw [← hreturns.bytes_rest]
      exact .cons hreturns (ih (hreturns.idles_rest.trans_lt htime))

end SystemMaster.Usb
