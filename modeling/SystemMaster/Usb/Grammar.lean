import SystemMaster.Usb.Scan

/-!
# The frame grammar of the USB port

A frame is a preamble and the bytes up to the first `CR LF CR LF` after it, when all of
it fits the room the receiver leaves itself. The receiver misses a frame whose payload
ends in an odd number of `CR LF CR` triples, and one that begins among the bytes it takes
from an earlier preamble without coming to a terminator.
-/

namespace SystemMaster.Usb

open Search

/-- A frame of a stream: how many bytes of the stream end with it, and its payload. -/
structure Frame where
  stop : Nat
  payload : List UInt8
  deriving DecidableEq, Repr

def Frame.start (f : Frame) : Nat := f.stop - (f.payload.length + 8)

structure Occurs (length : Nat) (s : List UInt8) (f : Frame) (i : Nat) : Prop where
  stop : f.stop = i + (f.payload.length + 8)
  preamble_starts : preamble <+: s.drop i
  terminator : find endOfFrame (s.drop (i + 4)) = some f.payload.length
  payload : f.payload = (s.drop (i + 4)).take f.payload.length
  fits : f.payload.length + 8 ≤ length - 3

/-- The frames of a stream of which `pos` bytes are read, passing over `skip` more: from
the left, a preamble whose terminator comes in time begins a frame. -/
def framesFrom (length : Nat) : Nat → Nat → List UInt8 → List Frame
  | _, _, [] => []
  | skip + 1, pos, _ :: s => framesFrom length skip (pos + 1) s
  | 0, pos, byte :: s =>
    if preamble <+: byte :: s then
      match find endOfFrame ((s.drop 3).take (length - 3 - 4)) with
      | some j => ⟨pos + (j + 8), (s.drop 3).take j⟩ :: framesFrom length (j + 7) (pos + 1) s
      | none => framesFrom length 0 (pos + 1) s
    else framesFrom length 0 (pos + 1) s

def frames (s : List UInt8) : List Frame := framesFrom bufferSize 0 0 s

/-- Where a preamble is from which the receiver fills its room in vain. It looks for the
next one behind the room, or behind the frame it has found. -/
def vainFrom (length : Nat) : Nat → Nat → List UInt8 → List Nat
  | _, _, [] => []
  | skip + 1, pos, _ :: s => vainFrom length skip (pos + 1) s
  | 0, pos, byte :: s =>
    if preamble <+: byte :: s then
      match find endOfFrame ((s.drop 3).take (length - 3 - 4)) with
      | some j => vainFrom length (j + 7) (pos + 1) s
      | none => pos :: vainFrom length (length - 3 - 1) (pos + 1) s
    else vainFrom length 0 (pos + 1) s

/-- The frame begins in the room that is filled from `start`. -/
def Frame.within (length start : Nat) (f : Frame) : Bool :=
  start < f.start && f.start < start + (length - 3)

def Returned.frame? (total : Nat) (ret : Returned) : Option Frame :=
  if ret.isError then none
  else some ⟨total - (bytes ret.rest).length, ret.pStr.read 4 (ret.retValue - 8)⟩

/-- What the worker is given from a port that brings `polls`. -/
def workerFrames (buffer : Memory UInt8) (polls : List Poll) : List Frame :=
  (workerFxn polls.length buffer polls).filterMap (Returned.frame? (bytes polls).length)

def oddTriples : List UInt8 → Bool
  | a :: b :: c :: s =>
    if a = frameEndOfFrame3 ∧ b = frameEndOfFrame2 ∧ c = frameEndOfFrame1 then !oddTriples s
    else false
  | _ => false

def Frame.endsInOddTriples (f : Frame) : Bool := oddTriples f.payload.reverse

-- ---------------------------------------------------------------------------
-- The payload automaton
-- ---------------------------------------------------------------------------

variable {state : FrameState} {room n pos skip length calls i j k : Nat} {p q s : List UInt8}
  {f f' : Frame}

def closes : FrameState → List UInt8 → Bool
  | _, [] => false
  | state, [byte] => state.finishes byte
  | state, byte :: q => closes (state.next byte) q

@[simp] theorem closes_nil : closes state [] = false := rfl

theorem closes_cons {byte : UInt8} (hq : q ≠ []) :
    closes state (byte :: q) = closes (state.next byte) q := by
  cases q with
  | nil => exact absurd rfl hq
  | cons => rfl

theorem closes_append (byte : UInt8) :
    closes state (q ++ [byte]) = (q.foldl FrameState.next state).finishes byte := by
  induction q generalizing state with
  | nil => rfl
  | cons a q ih => rw [List.cons_append, closes_cons (by simp), ih, List.foldl_cons]

theorem takes_of_closes (hroom : n ≤ room) (hlen : n ≤ s.length) (h : closes state (s.take n))
    (hmin : ∀ m < n, closes state (s.take m) = false) : takes state room s = some (n, true) := by
  induction room generalizing state s n with
  | zero =>
    obtain rfl : n = 0 := by omega
    simp at h
  | succ room ih =>
    cases s with
    | nil => simp at h
    | cons byte s =>
      cases n with
      | zero => simp at h
      | succ n =>
        rw [takes]
        cases n with
        | zero =>
          rw [List.take_succ_cons, List.take_zero] at h
          rw [if_pos (by simpa [closes] using h)]
        | succ n =>
          have hfirst : state.finishes byte = false := by simpa [closes] using hmin 1 (by omega)
          simp only [List.length_cons, Nat.add_le_add_iff_right] at hlen
          have hs : s ≠ [] := List.length_pos_iff.mp (by omega)
          have hcons : ∀ m, closes state ((byte :: s).take (m + 2)) =
              closes (state.next byte) (s.take (m + 1)) := fun m => by
            rw [List.take_succ_cons, closes_cons (by simp [hs])]
          rw [if_neg (by simp [hfirst]), ih (by omega) hlen (by rw [← hcons]; exact h)]
          · rfl
          · intro m hm
            cases m with
            | zero => simp
            | succ m => rw [← hcons]; exact hmin _ (by omega)

/-- The state after the payload `q`, of which `rev` is the reverse. -/
def stateAfter (rev : List UInt8) : FrameState :=
  rev.foldr (fun byte state => state.next byte) .payload

theorem foldl_next_eq_stateAfter : q.foldl FrameState.next .payload = stateAfter q.reverse := by
  rw [stateAfter, List.foldr_reverse]

theorem stateAfter_isBody (rev : List UInt8) : (stateAfter rev).isBody := by
  induction rev with
  | nil => rfl
  | cons byte rev ih => exact (FrameState.next_isBody byte).trans ih

theorem next_eq_endOfFrame1 (hs : state.isBody) {byte : UInt8} :
    state.next byte = .endOfFrame1 ↔
      byte = frameEndOfFrame1 ∧ state ≠ .endOfFrame2 ∧ state ≠ .endOfFrame3 := by
  cases state <;> simp only [FrameState.next] <;> grind [FrameState.isBody]

theorem next_eq_endOfFrame2 {byte : UInt8} :
    state.next byte = .endOfFrame2 ↔ state = .endOfFrame1 ∧ byte = frameEndOfFrame2 := by
  have hne : frameEndOfFrame2 ≠ frameEndOfFrame1 := by decide
  cases state <;> simp only [FrameState.next] <;> grind

theorem next_eq_endOfFrame3 {byte : UInt8} :
    state.next byte = .endOfFrame3 ↔
      (state = .endOfFrame2 ∧ byte = frameEndOfFrame3) ∨
        (state = .endOfFrame3 ∧ byte = frameEndOfFrame4) := by
  cases state <;> simp only [FrameState.next] <;> grind

variable {rev : List UInt8}

theorem head_of_endOfFrame1 (h : stateAfter rev = .endOfFrame1) :
    ∃ r, rev = frameEndOfFrame1 :: r := by
  cases rev with
  | nil => simp [stateAfter] at h
  | cons byte r =>
    rw [((next_eq_endOfFrame1 (stateAfter_isBody r)).mp h).1]
    exact ⟨r, rfl⟩

theorem head_of_endOfFrame2 (h : stateAfter rev = .endOfFrame2) :
    ∃ r, rev = frameEndOfFrame2 :: frameEndOfFrame1 :: r := by
  cases rev with
  | nil => simp [stateAfter] at h
  | cons byte r =>
    obtain ⟨hstate, rfl⟩ := next_eq_endOfFrame2.mp h
    obtain ⟨r', rfl⟩ := head_of_endOfFrame1 hstate
    exact ⟨r', rfl⟩

def NoTerminator (rev : List UInt8) : Prop := ¬endOfFrame.reverse <:+: rev

theorem NoTerminator.tail {r : List UInt8} (h : NoTerminator (q ++ r)) : NoTerminator r :=
  fun hin => h (hin.trans (List.suffix_append q r).isInfix)

theorem not_noTerminator {r : List UInt8} : ¬NoTerminator (q ++ endOfFrame.reverse ++ r) :=
  fun h => h (List.infix_append q endOfFrame.reverse r)

theorem head_of_endOfFrame3 (hno : NoTerminator rev) (h : stateAfter rev = .endOfFrame3) :
    ∃ r, rev = frameEndOfFrame3 :: frameEndOfFrame2 :: frameEndOfFrame1 :: r := by
  induction rev with
  | nil => simp [stateAfter] at h
  | cons byte r ih =>
    rcases next_eq_endOfFrame3.mp h with ⟨hstate, rfl⟩ | ⟨hstate, rfl⟩
    · obtain ⟨r', rfl⟩ := head_of_endOfFrame2 hstate
      exact ⟨r', rfl⟩
    · obtain ⟨r', rfl⟩ := ih (hno.tail (q := [_])) hstate
      exact absurd hno (not_noTerminator (q := []))

/-- Only an odd number of triples leaves the automaton before the last byte of
a terminator. -/
theorem stateAfter_eq_endOfFrame3 (rev : List UInt8) (hno : NoTerminator rev) :
    stateAfter rev = .endOfFrame3 ↔ oddTriples rev = true := by
  by_cases hhead : ∃ r, rev = frameEndOfFrame3 :: frameEndOfFrame2 :: frameEndOfFrame1 :: r
  · obtain ⟨r, rfl⟩ := hhead
    have hno' : NoTerminator r := hno.tail (q := [_, _, _])
    have ih := stateAfter_eq_endOfFrame3 r hno'
    have hne : stateAfter r ≠ .endOfFrame2 := by
      intro h
      obtain ⟨r', rfl⟩ := head_of_endOfFrame2 h
      exact not_noTerminator (q := [frameEndOfFrame3]) hno
    have hstep : stateAfter (frameEndOfFrame3 :: frameEndOfFrame2 :: frameEndOfFrame1 :: r) =
        .endOfFrame3 ↔ stateAfter r ≠ .endOfFrame3 := by
      have hone : stateAfter (frameEndOfFrame1 :: r) = .endOfFrame1 ↔ _ :=
        next_eq_endOfFrame1 (stateAfter_isBody r)
      have htwo : stateAfter (frameEndOfFrame2 :: frameEndOfFrame1 :: r) = .endOfFrame2 ↔ _ :=
        next_eq_endOfFrame2
      have hthree : stateAfter (frameEndOfFrame3 :: frameEndOfFrame2 :: frameEndOfFrame1 :: r) =
          .endOfFrame3 ↔ _ := next_eq_endOfFrame3
      have hcr : frameEndOfFrame3 ≠ frameEndOfFrame4 := by decide
      change _ ↔ stateAfter _ = _ ∧ _ at htwo
      change _ ↔ (stateAfter _ = _ ∧ _) ∨ stateAfter _ = _ ∧ _ at hthree
      rw [hthree, htwo, hone]
      simp [hcr, hne]
    rw [hstep, Ne, ih]
    simp [oddTriples]
  · have hstate : stateAfter rev ≠ .endOfFrame3 := fun h => hhead (head_of_endOfFrame3 hno h)
    have hodd : oddTriples rev ≠ true := by
      intro h
      unfold oddTriples at h
      split at h
      · split at h
        · next heq => exact hhead ⟨_, by rw [heq.1, heq.2.1, heq.2.2]⟩
        · simp at h
      · simp at h
    exact ⟨fun h => absurd h hstate, fun h => absurd h hodd⟩
termination_by rev.length

theorem noTerminator_reverse : NoTerminator q.reverse ↔ ¬endOfFrame <:+: q := by
  rw [NoTerminator, List.reverse_infix]

theorem terminator_of_closes (h : closes .payload q) : endOfFrame <:+: q := by
  by_contra hno
  rcases List.eq_nil_or_concat' q with rfl | ⟨q, byte, rfl⟩
  · simp at h
  · have hno' : NoTerminator q.reverse :=
      noTerminator_reverse.mpr fun hin => hno (hin.trans (List.prefix_append q _).isInfix)
    rw [closes_append, foldl_next_eq_stateAfter] at h
    obtain ⟨hstate, rfl⟩ : stateAfter q.reverse = .endOfFrame3 ∧ byte = frameEndOfFrame4 := by
      simpa [FrameState.finishes] using h
    obtain ⟨r, hr⟩ := head_of_endOfFrame3 hno' hstate
    rw [← noTerminator_reverse, List.reverse_append, hr] at hno
    exact not_noTerminator (q := []) hno

theorem closes_terminator
    (hno : ¬endOfFrame <:+: q ++ [frameEndOfFrame1, frameEndOfFrame2, frameEndOfFrame3]) :
    closes .payload (q ++ endOfFrame) = !oddTriples q.reverse := by
  have hsplit : q ++ endOfFrame =
      (q ++ [frameEndOfFrame1, frameEndOfFrame2, frameEndOfFrame3]) ++ [frameEndOfFrame4] := by
    simp [endOfFrame]
  have hstate := stateAfter_eq_endOfFrame3 _ (noTerminator_reverse.mpr hno)
  rw [hsplit, closes_append, foldl_next_eq_stateAfter, FrameState.finishes]
  rw [Bool.eq_iff_iff, decide_eq_true_iff, hstate]
  simp [oddTriples]

variable {i j m : Nat} {c : Bool}

theorem absent_before (h : find endOfFrame (s.take room) = some j) (hm : m < j + 4) :
    ¬endOfFrame <:+: s.take m := by
  rw [← find_eq_none_iff_absent, Option.eq_none_iff_forall_ne_some]
  intro i hi
  obtain ⟨hi, hle⟩ := (find_take (by decide)).mp hi
  obtain ⟨hj, _⟩ := (find_take (by decide)).mp h
  obtain rfl : i = j := Option.some.inj (hi.symm.trans hj)
  rw [show endOfFrame.length = 4 from rfl] at hle
  omega

theorem not_closes_before (h : find endOfFrame (s.take room) = some j) (hm : m < j + 4) :
    closes .payload (s.take m) = false := by
  rw [Bool.eq_false_iff]
  exact fun hc => absent_before h hm (terminator_of_closes hc)

theorem room_of_find (h : find endOfFrame (s.take room) = some j) :
    j + 4 ≤ room ∧ j + 4 ≤ s.length := by
  have hle := le_of_find h
  rw [List.length_take, show endOfFrame.length = 4 from rfl] at hle
  omega

theorem closes_of_find (h : find endOfFrame (s.take room) = some j) :
    closes .payload (s.take (j + 4)) = !oddTriples (s.take j).reverse := by
  obtain ⟨hs, _⟩ := (find_take (by decide)).mp h
  have hdrop := drop_of_find hs
  have hlen := (room_of_find h).2
  have hlenj : (s.take j).length = j := List.length_take_of_le (by omega)
  have htake : ∀ k ≤ 4, s.take (j + k) = s.take j ++ endOfFrame.take k := by
    intro k hk
    rw [List.take_add, hdrop, List.take_append_of_le_length hk]
  rw [htake 4 (le_refl _)]
  refine closes_terminator ?_
  have hno := absent_before h (m := j + 3) (by omega)
  rw [htake 3 (by omega)] at hno
  exact hno

theorem takes_of_find_some (h : find endOfFrame (s.take room) = some j)
    (hodd : oddTriples (s.take j).reverse = false) :
    takes .payload room s = some (j + 4, true) := by
  obtain ⟨hroom, hlen⟩ := room_of_find h
  refine takes_of_closes hroom hlen ?_ fun m hm => not_closes_before h hm
  rw [closes_of_find h, hodd]
  rfl

theorem framesFrom_skip :
    framesFrom length skip pos s = framesFrom length 0 (pos + skip) (s.drop skip) := by
  induction skip generalizing pos s with
  | zero => rfl
  | succ skip ih =>
    cases s with
    | nil => rfl
    | cons byte s =>
      rw [framesFrom, ih, List.drop_succ_cons, Nat.add_right_comm, Nat.add_assoc]

theorem vainFrom_skip :
    vainFrom length skip pos s = vainFrom length 0 (pos + skip) (s.drop skip) := by
  induction skip generalizing pos s with
  | zero => rfl
  | succ skip ih =>
    cases s with
    | nil => rfl
    | cons byte s =>
      rw [vainFrom, ih, List.drop_succ_cons, Nat.add_right_comm, Nat.add_assoc]

theorem framesFrom_of_fit (pos : Nat) (h : preamble <+: s)
    (hj : find endOfFrame ((s.drop 4).take (length - 3 - 4)) = some j) :
    framesFrom length 0 pos s = ⟨pos + (j + 8), (s.drop 4).take j⟩ ::
        framesFrom length 0 (pos + (j + 8)) (s.drop (j + 8)) ∧
      vainFrom length 0 pos s = vainFrom length 0 (pos + (j + 8)) (s.drop (j + 8)) := by
  cases s with
  | nil => exact absurd h.length_le (by simp [preamble])
  | cons byte s =>
    rw [List.drop_succ_cons] at hj
    rw [framesFrom, if_pos h, vainFrom, if_pos h, List.drop_succ_cons, hj]
    simp only [List.drop_succ_cons]
    rw [framesFrom_skip, vainFrom_skip, Nat.add_right_comm, Nat.add_assoc]
    exact ⟨rfl, rfl⟩

theorem framesFrom_of_unfit (pos : Nat) (hl : 16 ≤ length) (h : preamble <+: s)
    (hj : find endOfFrame ((s.drop 4).take (length - 3 - 4)) = none) :
    framesFrom length 0 pos s = framesFrom length 0 (pos + 1) (s.drop 1) ∧
      vainFrom length 0 pos s =
        pos :: vainFrom length 0 (pos + (length - 3)) (s.drop (length - 3)) := by
  cases s with
  | nil => exact absurd h.length_le (by simp [preamble])
  | cons byte s =>
    rw [List.drop_succ_cons] at hj
    obtain ⟨room, hroom⟩ : ∃ room, length - 3 = room + 1 := ⟨length - 4, by omega⟩
    rw [framesFrom, if_pos h, vainFrom, if_pos h, hj]
    simp only [hroom, Nat.add_sub_cancel, List.drop_succ_cons, List.drop_zero]
    rw [vainFrom_skip, Nat.add_right_comm, Nat.add_assoc]
    simp

-- ---------------------------------------------------------------------------
-- What the frames of a stream are
-- ---------------------------------------------------------------------------

theorem Occurs.length_le (h : Occurs length s f i) :
    i + (f.payload.length + 8) ≤ s.length := by
  have hle := le_of_find h.terminator
  rw [List.length_drop, show endOfFrame.length = 4 from rfl] at hle
  have hpre := h.preamble_starts.length_le
  rw [List.length_drop, show preamble.length = 4 from rfl] at hpre
  omega

theorem not_overlap (hp : preamble <+: s.drop i) (ht : endOfFrame <+: s.drop k) :
    i + 4 ≤ k ∨ k + 4 ≤ i := by
  by_contra h
  have hget : ∀ {pat : List UInt8} {a b : Nat}, pat <+: s.drop a → b < pat.length →
      s[a + b]? = pat[b]? := by
    intro pat a b hpat hb
    have hg := List.prefix_iff_getElem?.mp hpat b hb
    rw [List.getElem?_drop] at hg
    rw [hg, List.getElem?_eq_getElem hb]
  have hd : ∀ a < 4, ∀ b < 4, preamble[a]? ≠ endOfFrame[b]? := by decide
  rcases Nat.le_total i k with hle | hle
  · have h1 := hget hp (b := k - i) (by change k - i < 4; omega)
    have h2 := hget ht (b := 0) (by decide)
    rw [Nat.add_sub_cancel' hle] at h1
    exact hd (k - i) (by omega) 0 (by omega) (h1.symm.trans h2)
  · have h1 := hget hp (b := 0) (by decide)
    have h2 := hget ht (b := i - k) (by change i - k < 4; omega)
    rw [Nat.add_sub_cancel' hle] at h2
    exact hd 0 (by omega) (i - k) (by omega) (h1.symm.trans h2)

theorem Occurs.stop_of_inside (h : Occurs length s f i) (h' : Occurs length s f' k)
    (hik : i < k) (hstop : k < f.stop) : f'.stop = f.stop := by
  have hstop' := h.stop
  have hterm : endOfFrame <+: s.drop (i + 4 + f.payload.length) := by
    rw [← List.drop_drop]
    exact prefix_of_find h.terminator
  have hbefore : k + 4 ≤ i + 4 + f.payload.length := by
    rcases not_overlap h'.preamble_starts hterm with hlt | hge <;> omega
  have hrest := find_drop (n := k - i) h.terminator (by omega)
  rw [List.drop_drop, show i + 4 + (k - i) = k + 4 by omega, h'.terminator] at hrest
  have hlen := Option.some.inj hrest
  rw [h'.stop, hstop']
  omega

theorem Occurs.start (h : Occurs length s f i) : f.start = i := by
  rw [Frame.start, h.stop, Nat.add_sub_cancel]

theorem Occurs.unique (h : Occurs length s f i) (h' : Occurs length s f' i) : f = f' := by
  have hlen := Option.some.inj (h.terminator.symm.trans h'.terminator)
  have hpayload : f.payload = f'.payload := by rw [h.payload, h'.payload, hlen]
  have hstop : f.stop = f'.stop := by rw [h.stop, h'.stop, hpayload]
  cases f
  cases f'
  simp_all

/-- A frame begins where a preamble is whose terminator comes in time. -/
theorem occurs_iff (hl : 16 ≤ length) :
    Occurs length s f i ↔ preamble <+: s.drop i ∧ ∃ j,
      find endOfFrame (((s.drop i).drop 4).take (length - 3 - 4)) = some j ∧
        f = ⟨i + (j + 8), ((s.drop i).drop 4).take j⟩ := by
  simp only [List.drop_drop, find_take (show endOfFrame ≠ [] by decide)]
  constructor
  · intro h
    have hfits := h.fits
    refine ⟨h.preamble_starts, f.payload.length, ⟨h.terminator, ?_⟩, ?_⟩
    · change f.payload.length + 4 ≤ _
      omega
    · rw [← h.payload, ← h.stop]
  · rintro ⟨hpre, j, ⟨hj, hroom⟩, rfl⟩
    have hle := le_of_find hj
    have hfour : endOfFrame.length = 4 := rfl
    rw [List.length_drop, hfour] at hle
    rw [hfour] at hroom
    have hlen : ((s.drop (i + 4)).take j).length = j := by
      rw [List.length_take, List.length_drop]
      omega
    refine ⟨?_, hpre, ?_, ?_, ?_⟩ <;> simp only [hlen]
    · exact hj
    · omega

/-- A frame from `pos` on, which no other that ends with it begins before. -/
def Maximal (length : Nat) (s : List UInt8) (pos : Nat) (f : Frame) : Prop :=
  ∃ i, pos ≤ i ∧ Occurs length s f i ∧
    ∀ f' k, pos ≤ k → Occurs length s f' k → f'.stop = f.stop → i ≤ k

theorem mem_framesFrom (hl : 16 ≤ length) (f : Frame) (s : List UInt8) (pos : Nat) :
    f ∈ framesFrom length 0 pos (s.drop pos) ↔ Maximal length s pos f := by
  by_cases hend : s.length ≤ pos
  · rw [List.drop_of_length_le hend]
    refine iff_of_false List.not_mem_nil ?_
    rintro ⟨i, hi, hoccurs, _⟩
    have hle := hoccurs.length_le
    omega
  by_cases hhere : ∃ f₀, Occurs length s f₀ pos
  · obtain ⟨f₀, hf₀⟩ := hhere
    obtain ⟨hpre, j, hj, hf₀eq⟩ := (occurs_iff hl).mp hf₀
    have hstop : f₀.stop = pos + (j + 8) := by rw [hf₀eq]
    have hrest := mem_framesFrom hl f s (pos + (j + 8))
    rw [(framesFrom_of_fit _ hpre hj).1, List.mem_cons, ← hf₀eq, List.drop_drop, hrest]
    constructor
    · rintro (rfl | ⟨i, hi, hoccurs, hmin⟩)
      · exact ⟨pos, Nat.le_refl _, hf₀, fun _ k hk _ _ => hk⟩
      · refine ⟨i, by omega, hoccurs, fun f' k hk hoccurs' heq => ?_⟩
        by_cases hinside : k < pos + (j + 8)
        · -- it would end with the frame at `pos`
          have hbefore : f'.stop = f₀.stop := by
            rcases Nat.eq_or_lt_of_le hk with rfl | hlt
            · rw [hoccurs'.unique hf₀]
            · exact hf₀.stop_of_inside hoccurs' hlt (by omega)
          have hlater := hoccurs.stop
          omega
        · exact hmin f' k (by omega) hoccurs' heq
    · rintro ⟨i, hi, hoccurs, hmin⟩
      by_cases hinside : i < pos + (j + 8)
      · left
        have hsame : f₀.stop = f.stop := by
          rcases Nat.eq_or_lt_of_le hi with rfl | hlt
          · rw [hf₀.unique hoccurs]
          · exact (hf₀.stop_of_inside hoccurs hlt (by omega)).symm
        obtain rfl : i = pos := Nat.le_antisymm (hmin f₀ pos (Nat.le_refl _) hf₀ hsame) hi
        exact hoccurs.unique hf₀
      · right
        exact ⟨i, by omega, hoccurs, fun f' k hk => hmin f' k (by omega)⟩
  · have hnext : framesFrom length 0 pos (s.drop pos) =
        framesFrom length 0 (pos + 1) (s.drop (pos + 1)) := by
      by_cases hpre : preamble <+: s.drop pos
      · cases hj : find endOfFrame (((s.drop pos).drop 4).take (length - 3 - 4)) with
        | none => rw [(framesFrom_of_unfit _ hl hpre hj).1, List.drop_drop]
        | some j => exact absurd ⟨_, (occurs_iff hl).mpr ⟨hpre, j, hj, rfl⟩⟩ hhere
      · rw [List.drop_eq_getElem_cons (Nat.not_le.mp hend)] at hpre ⊢
        rw [framesFrom, if_neg hpre]
    have hrest := mem_framesFrom hl f s (pos + 1)
    rw [hnext, hrest]
    have hlater : ∀ {f' k}, pos ≤ k → Occurs length s f' k → pos + 1 ≤ k := by
      intro f' k hk hoccurs
      refine Nat.lt_of_le_of_ne hk ?_
      rintro rfl
      exact hhere ⟨f', hoccurs⟩
    constructor
    · rintro ⟨i, hi, hoccurs, hmin⟩
      exact ⟨i, by omega, hoccurs, fun f' k hk hoccurs' => hmin f' k (hlater hk hoccurs') hoccurs'⟩
    · rintro ⟨i, hi, hoccurs, hmin⟩
      exact ⟨i, hlater hi hoccurs, hoccurs, fun f' k hk => hmin f' k (by omega)⟩
termination_by s.length - pos

/-- The frames of a stream are the stretches from a preamble to the first terminator after
it that fit the room, and of those that end together the longest. -/
theorem mem_frames_iff : f ∈ frames s ↔ ∃ i, Occurs bufferSize s f i ∧
    ∀ f' k, Occurs bufferSize s f' k → f'.stop = f.stop → i ≤ k := by
  have hmem := mem_framesFrom (show 16 ≤ bufferSize by decide) f s 0
  rw [List.drop_zero] at hmem
  rw [frames, hmem]
  simp only [Maximal, Nat.zero_le, true_and, forall_const]

theorem le_start_of_mem_framesFrom (hl : 16 ≤ length) (h : f ∈ framesFrom length 0 pos s) :
    pos ≤ f.start ∧ f.start < f.stop := by
  obtain ⟨t, rfl, ht⟩ : ∃ t : List UInt8, t.length = pos ∧ (t ++ s).drop pos = s :=
    ⟨List.replicate pos 0, List.length_replicate, List.drop_left' List.length_replicate⟩
  rw [← ht] at h
  obtain ⟨i, hi, hoccurs, _⟩ := (mem_framesFrom hl _ _ _).mp h
  rw [hoccurs.start, hoccurs.stop]
  omega

theorem framesFrom_pairwise (hl : 16 ≤ length) :
    (framesFrom length skip pos s).Pairwise (·.stop < ·.stop) := by
  fun_induction framesFrom length skip pos s with
  | case1 => exact .nil
  | case2 skip pos byte s ih => exact ih
  | case3 pos byte s hpre j hj ih =>
    refine List.pairwise_cons.mpr ⟨fun f hf => ?_, ih⟩
    rw [framesFrom_skip] at hf
    have hle := le_start_of_mem_framesFrom hl hf
    dsimp only
    omega
  | case4 pos byte s hpre hj ih => exact ih
  | case5 pos byte s hpre ih => exact ih

/-- The frames of the calls that end at a terminator. -/
def stretchFrames : Nat → List Stretch → List Frame
  | _, [] => []
  | pos, t :: ts =>
    (if t.complete then [⟨pos + t.consumed, (t.stored.drop 4).take (t.stored.length - 8)⟩]
      else []) ++ stretchFrames (pos + t.consumed) ts

theorem Stretch.Returns.frame? {t : Stretch} {buffer : Memory UInt8} {polls : List Poll}
    {ret : Returned} (h : t.Returns buffer polls ret) {total : Nat}
    (htotal : pos + (bytes polls).length = total) :
    ret.frame? total = if t.complete then
      some ⟨pos + t.consumed, (t.stored.drop 4).take (t.stored.length - 8)⟩ else none := by
  rw [Returned.frame?, h.isError]
  cases hc : t.complete with
  | false => simp
  | true =>
    have hstop : total - (bytes ret.rest).length = pos + t.consumed := by
      have := h.consumed_le
      rw [h.bytes_rest, List.length_drop]
      omega
    have hpayload : ret.pStr.read 4 (t.stored.length - 8) =
        (t.stored.drop 4).take (t.stored.length - 8) := by
      rcases Nat.lt_or_ge t.stored.length 4 with hlt | hge
      · have hz : t.stored.length - 8 = 0 := by omega
        rw [hz, Memory.read_zero, List.take_zero]
      · have hread : t.stored.drop 4 = ret.pStr.read 4 (t.stored.length - 4) := by
          rw [h.pStr]
          conv_lhs => rw [← Memory.read_write buffer 0 t.stored]
          rw [Memory.read_drop hge]
        rw [hread, Memory.read_take (by omega)]
    simp [hstop, h.retValue, hc, hpayload]

theorem Worked.frames {buffer : Memory UInt8} {polls : List Poll} {ts : List Stretch}
    {rets : List Returned} (h : Worked buffer polls ts rets) {total : Nat}
    (htotal : pos + (bytes polls).length = total) :
    rets.filterMap (Returned.frame? total) = stretchFrames pos ts := by
  induction h generalizing pos with
  | nil => rfl
  | @cons buffer polls t ts ret rets hreturns _ ih =>
    have hrest : pos + t.consumed + (bytes ret.rest).length = total := by
      have := hreturns.consumed_le
      rw [hreturns.bytes_rest, List.length_drop]
      omega
    rw [stretchFrames, ← ih hrest, List.filterMap_cons, hreturns.frame? htotal]
    cases t.complete <;> rfl

theorem stretches_nil : stretches length calls [] = [] := by
  cases calls with
  | zero => rfl
  | succ calls => rw [stretches, scan_of_find_none (by simp [find, preamble])]

theorem stretchFrames_of_fit (hf : find preamble s = some i)
    (hj : find endOfFrame ((s.drop (i + 4)).take (length - 3 - 4)) = some j)
    (heven : oddTriples ((s.drop (i + 4)).take j).reverse = false) :
    stretchFrames pos (stretches length (calls + 1) s) =
      ⟨pos + i + (j + 8), (s.drop (i + 4)).take j⟩ ::
        stretchFrames (pos + i + (j + 8)) (stretches length calls (s.drop (i + (j + 8)))) := by
  have hjlen := (room_of_find hj).2
  rw [List.length_drop] at hjlen
  have hlen := le_of_find hf
  have hfour : preamble.length = 4 := rfl
  have hstored : ((s.drop i).take (4 + (j + 4))).length = j + 8 := by
    rw [List.length_take, List.length_drop]
    omega
  have hpayload : (((s.drop i).take (4 + (j + 4))).drop 4).take (j + 8 - 8) =
      (s.drop (i + 4)).take j := by
    rw [List.drop_take, List.drop_drop, List.take_take]
    congr 1
    omega
  rw [stretches, scan_of_find hf, takes_of_find_some hj heven]
  simp only [Option.map_some, stretchFrames, Stretch.consumed, hstored, hpayload, if_true,
    List.singleton_append, Nat.add_assoc]

/-- Every payload ends in no odd number of triples, and no frame begins in a room that is
filled in vain. -/
def Clear (length : Nat) (fs : List Frame) (cs : List Nat) : Prop :=
  (∀ f ∈ fs, f.endsInOddTriples = false) ∧ ∀ c ∈ cs, ∀ f ∈ fs, f.within length c = false

theorem workerFrames_eq_stretchFrames {buffer : Memory UInt8} {polls : List Poll}
    (htime : idles polls < waitForever) :
    workerFrames buffer polls =
      stretchFrames 0 (stretches bufferSize polls.length (bytes polls)) := by
  rw [workerFrames, (workerFxn_worked htime).frames (Nat.zero_add _)]

end SystemMaster.Usb
