import SystemMaster.Alto.Receiver

/-!
# From a frame to its text and back

A frame sent as text after any noise is received whole, however the UART cuts
the text into reads. Until then the packet is a window of the text that ends
where the reads have got to and starts no later than the frame.
-/

namespace SystemMaster.Alto

open Search

def Poll.data (poll : Poll) : List UInt8 :=
  if poll.dataAvailable = 0 then [] else (poll.uartRead (askedBytes poll.dataAvailable)).getD []

def Poll.Exact (poll : Poll) : Prop :=
  poll.dataAvailable ≠ 0 →
    ∃ data, poll.uartRead (askedBytes poll.dataAvailable) = some data ∧
      data.length = askedBytes poll.dataAvailable

def delivered (polls : List Poll) : List UInt8 := polls.flatMap Poll.data

def idlePolls (polls : List Poll) : Nat := polls.countP fun poll => poll.dataAvailable = 0

def Lasts (timeout : Nat) (polls : List Poll) : Prop :=
  timeout = waitForever ∨ idlePolls polls < timeout

variable {r : Reception} {s body rest : List UInt8} {data : List UInt8} {poll : Poll}
  {polls : List Poll} {start n : Nat}

structure FrameText (s body : List UInt8) (start : Nat) : Prop where
  find_eq : find startFrame s = some start
  drop_eq : s.drop start = startFrame ++ body ++ [cr, lf]
  body_length : body.length = 64
  cr_notMem : cr ∉ body

/-- The packet is the window of the text from a point no later than the frame
to where the reads have got, `n`. -/
structure Reception.Waiting (r : Reception) (s : List UInt8) (start n : Nat) : Prop where
  isFrame : r.isFrame = false
  window : ∃ i ≤ start, i ≤ n ∧ r.receivedPacket = (s.take n).drop i

namespace FrameText

theorem length_eq (h : FrameText s body start) : s.length = start + 70 := by
  have hlen := congrArg List.length h.drop_eq
  have hle := le_of_find h.find_eq
  have hfour : startFrame.length = 4 := rfl
  simp only [List.length_drop, List.length_append, hfour, h.body_length, List.length_cons,
    List.length_nil] at hlen
  omega

theorem window_early (h : FrameText s body start) (hn : n ≤ start + 68) :
    (s.take n).drop start <+: startFrame ++ body := by
  rw [List.drop_take, h.drop_eq]
  have hlen : n - start ≤ (startFrame ++ body).length := by
    have := h.body_length
    have hfour : startFrame.length = 4 := rfl
    simp only [List.length_append]
    omega
  rw [List.take_append_of_le_length hlen]
  exact List.take_prefix _ _

theorem window_late (h : FrameText s body start) (hn : start + 68 < n) :
    ∃ rest, (s.take n).drop start = startFrame ++ body ++ cr :: rest ∧ rest <+: [lf] := by
  have hlen : (startFrame ++ body).length = 68 := by
    rw [List.length_append, h.body_length]
    rfl
  obtain ⟨k, hk⟩ := Nat.exists_eq_add_of_lt hn
  refine ⟨[lf].take k, ?_, List.take_prefix _ _⟩
  rw [List.drop_take, h.drop_eq, List.take_append, List.take_of_length_le (by omega),
    (by omega : n - start - (startFrame ++ body).length = k + 1), List.take_succ_cons]

end FrameText

theorem window_append (hn : n ≤ s.length) {i : Nat} (hi : i ≤ n) (h : data <+: s.drop n) :
    (s.take n).drop i ++ data = (s.take (n + data.length)).drop i := by
  have hdata : data = (s.drop n).take data.length := (List.prefix_iff_eq_take.mp h)
  rw [List.take_add, List.drop_append_of_le_length (by simp; omega), ← hdata]

theorem Reception.receive_header {k : Nat} (hpacket : r.receivedPacket ++ data.map toCapital = s)
    (h : find startFrame s = some k) :
    r.receive data = (drain (s.drop k).length { r with receivedPacket := s.drop k }).trim := by
  simp only [receive, hpacket, h]

theorem Reception.trim_of_le (h : r.receivedPacket.length ≤ 256) : r.trim = .ok r := by
  rw [trim, if_neg (Nat.not_lt.mpr h)]

theorem Reception.Waiting.receive_early (hs : FrameText s body start) (h : r.Waiting s start n)
    (hdata : data.map toCapital <+: s.drop n) (hn : n + data.length ≤ start + 68) :
    ∃ r', r.receive data = .ok r' ∧ r'.timeout = r.timeout ∧ r'.p64Buffer = r.p64Buffer ∧
      r'.Waiting s start (n + data.length) := by
  obtain ⟨i, hstart, hi, hwindow⟩ := h.window
  have hlen := hs.length_eq
  have hpacket := window_append (by omega) hi hdata
  rw [← hwindow, List.length_map] at hpacket
  have hnm : n ≤ n + data.length := Nat.le_add_right _ _
  generalize n + data.length = m at hn hnm hpacket ⊢
  have hfind := find_window (n := m) (by decide) hs.find_eq hstart
  by_cases hm : start + startFrame.length ≤ m
  · rw [if_pos hm] at hfind
    have hdrop : ((s.take m).drop i).drop (start - i) = (s.take m).drop start := by
      rw [List.drop_drop, Nat.add_sub_cancel' hstart]
    have hearly := hs.window_early hn
    have hcr : cr ∉ (s.take m).drop start := fun hmem => by
      rcases List.mem_append.mp (hearly.subset hmem) with hmem | hmem
      · exact absurd hmem (by decide)
      · exact hs.cr_notMem hmem
    have hle : ((s.take m).drop start).length ≤ 256 := by
      simp only [List.length_drop, List.length_take]
      omega
    refine ⟨{ r with receivedPacket := (s.take m).drop start }, ?_, rfl, rfl,
      ⟨h.isFrame, start, le_rfl, by omega, rfl⟩⟩
    rw [receive_header hpacket hfind, hdrop, drain_of_cr_notMem hcr, trim_of_le hle]
  · rw [if_neg hm] at hfind
    have hwin : ((s.take m).drop i).length = m - i := by
      simp only [List.length_drop, List.length_take]
      omega
    have hfour : startFrame.length = 4 := rfl
    simp only [receive, hpacket, hfind]
    refine ⟨_, rfl, rfl, rfl, h.isFrame, ?_⟩
    split
    · refine ⟨i + (m - i - 4), by omega, by omega, ?_⟩
      rw [lastBytes, hwin, List.drop_drop, hfour]
    · exact ⟨i, hstart, by omega, rfl⟩

theorem Reception.Waiting.receive_late (hs : FrameText s body start) (h : r.Waiting s start n)
    (hdata : data.map toCapital <+: s.drop n) (hnle : n ≤ s.length)
    (hn : start + 68 < n + data.length) :
    ∃ r', r.receive data = .ok r' ∧ r'.isFrame = true ∧ r'.retValue = 64 ∧
      r'.p64Buffer = r.p64Buffer.write 0 body := by
  obtain ⟨i, hstart, hi, hwindow⟩ := h.window
  have hpacket := window_append hnle hi hdata
  rw [← hwindow, List.length_map] at hpacket
  generalize n + data.length = m at hn hpacket
  have hfind := find_window (n := m) (by decide) hs.find_eq hstart
  have hfour : startFrame.length = 4 := rfl
  rw [if_pos (by omega)] at hfind
  have hdrop : ((s.take m).drop i).drop (start - i) = (s.take m).drop start := by
    rw [List.drop_drop, Nat.add_sub_cancel' hstart]
  obtain ⟨rest, hlate, hrest⟩ := hs.window_late hn
  rw [receive_header hpacket hfind, hdrop, hlate]
  have hfuel : (startFrame ++ body ++ cr :: rest).length = 68 + rest.length + 1 := by
    simp only [List.length_append, hs.body_length, hfour, List.length_cons]
    omega
  have hEOF : find [cr] (startFrame ++ body ++ cr :: rest) = some (startFrame ++ body).length := by
    refine find_singleton_append fun hmem => ?_
    rcases List.mem_append.mp hmem with hmem | hmem
    · exact absurd hmem (by decide)
    · exact hs.cr_notMem hmem
  have hrestcr : cr ∉ rest := fun hmem => absurd (hrest.subset hmem) (by decide)
  rw [hfuel, drain]
  simp only [hEOF]
  rw [drainStep_frame rfl hs.cr_notMem (by rw [hs.body_length]; rfl), drain_of_cr_notMem hrestcr,
    trim_of_le (hrest.length_le.trans (by decide))]
  exact ⟨_, rfl, rfl, hs.body_length, rfl⟩

theorem Lasts.ne_zero (h : Lasts n polls) : n ≠ 0 := by
  rcases h with rfl | h
  · decide
  · omega

theorem Reception.iteration_idle (hpoll : poll.dataAvailable = 0)
    (h : Lasts r.timeout (poll :: polls)) :
    ∃ r', r.iteration poll = .ok r' ∧ r'.isFrame = r.isFrame ∧ r'.p64Buffer = r.p64Buffer ∧
      r'.receivedPacket = r.receivedPacket ∧ Lasts r'.timeout polls := by
  rw [iteration, if_pos hpoll]
  refine ⟨_, rfl, ?_⟩
  split
  case isTrue htimeout =>
    refine ⟨rfl, rfl, rfl, .inr ?_⟩
    have hlt := h.resolve_left htimeout.2
    rw [idlePolls, List.countP_cons_of_pos (by simpa using hpoll)] at hlt
    change _ < r.timeout - 1
    rw [idlePolls]
    omega
  case isFalse htimeout =>
    refine ⟨rfl, rfl, rfl, .inl ?_⟩
    by_contra hne
    exact htimeout ⟨h.ne_zero, hne⟩

theorem Lasts.of_cons (h : Lasts n (poll :: polls)) : Lasts n polls := by
  refine h.imp_right (Nat.lt_of_le_of_lt ?_)
  exact (List.sublist_cons_self poll polls).countP_le

theorem loop_waiting (hs : FrameText s body start) (h : r.Waiting s start n)
    (hn : n ≤ start + 68) (hdelivered : (delivered polls).map toCapital = s.drop n)
    (hexact : ∀ poll ∈ polls, poll.Exact) (hlasts : Lasts r.timeout polls) :
    ∃ r', loop r polls = some (.ok r') ∧ r'.retValue = 64 ∧
      r'.p64Buffer = r.p64Buffer.write 0 body := by
  have hlen := hs.length_eq
  induction polls generalizing r n with
  | nil =>
    have hnil := congrArg List.length hdelivered
    rw [List.length_drop] at hnil
    simp [delivered] at hnil
    omega
  | cons poll polls ih =>
    have hexact' : ∀ poll ∈ polls, poll.Exact := fun p hp => hexact p (List.mem_cons_of_mem _ hp)
    rw [delivered, List.flatMap_cons, ← delivered, List.map_append] at hdelivered
    by_cases hpoll : poll.dataAvailable = 0
    · obtain ⟨r', hiter, hframe, hbuffer, hpacket, hlasts'⟩ := r.iteration_idle hpoll hlasts
      have h' : r'.Waiting s start n := ⟨hframe.trans h.isFrame, by rw [hpacket]; exact h.window⟩
      rw [Poll.data, if_pos hpoll, List.map_nil, List.nil_append] at hdelivered
      rw [loop, hiter, ← hbuffer]
      simp only [h'.isFrame, hlasts'.ne_zero, ne_eq, not_false_eq_true, Bool.false_eq_true,
        and_self, if_true]
      exact ih h' hn hdelivered hexact' hlasts'
    · obtain ⟨data, hread, _⟩ := hexact poll List.mem_cons_self hpoll
      have hpolldata : poll.data = data := by rw [Poll.data, if_neg hpoll, hread, Option.getD_some]
      rw [hpolldata] at hdelivered
      have hpre : data.map toCapital <+: s.drop n := ⟨_, hdelivered⟩
      have hiter : r.iteration poll = r.receive data := by
        rw [Reception.iteration, if_neg hpoll, hread]
      by_cases hend : n + data.length ≤ start + 68
      · obtain ⟨r', hreceive, htimeout, hbuffer, h'⟩ := h.receive_early hs hpre hend
        have hlasts' : Lasts r'.timeout polls := htimeout ▸ hlasts.of_cons
        have hrest : (delivered polls).map toCapital = s.drop (n + data.length) := by
          rw [← List.drop_drop, ← hdelivered, ← List.length_map (f := toCapital), List.drop_left]
        rw [loop, hiter, hreceive, ← hbuffer]
        simp only [h'.isFrame, hlasts'.ne_zero, ne_eq, not_false_eq_true, Bool.false_eq_true,
          and_self, if_true]
        exact ih h' hend hrest hexact' hlasts'
      · obtain ⟨r', hreceive, hframe, hret, hbuffer⟩ :=
          h.receive_late hs hpre (by omega) (by omega)
        refine ⟨r', ?_, hret, hbuffer⟩
        rw [loop, hiter, hreceive]
        simp [hframe]

theorem toCapital_of_digit {c : UInt8}
    (h : '0'.toUInt8 ≤ c ∧ c ≤ '9'.toUInt8 ∨ 'A'.toUInt8 ≤ c ∧ c ≤ 'F'.toUInt8) :
    toCapital c = c := by
  revert h
  refine forall_byte (P := fun c => '0'.toUInt8 ≤ c ∧ c ≤ '9'.toUInt8 ∨
    'A'.toUInt8 ≤ c ∧ c ≤ 'F'.toUInt8 → toCapital c = c) ?_ c
  decide +kernel

theorem map_toCapital_createASCII (f : Frame) : (createASCII f).map toCapital = createASCII f := by
  have hbody : (bodyASCII f).map toCapital = bodyASCII f :=
    (List.map_congr_left fun _ hc => toCapital_of_digit (bodyASCII_digit hc)).trans (List.map_id _)
  rw [createASCII, List.map_append, List.map_append, hbody]
  rfl

theorem frameText {f : Frame} {noise : List UInt8}
    (hfirst : find startFrame ((noise ++ createASCII f).map toCapital) = some noise.length) :
    FrameText ((noise ++ createASCII f).map toCapital) (bodyASCII f) noise.length where
  find_eq := hfirst
  drop_eq := by
    rw [List.map_append, map_toCapital_createASCII, ← List.length_map (f := toCapital),
      List.drop_left, createASCII]
  body_length := bodyASCII_length
  cr_notMem := cr_notMem_bodyASCII

/-- A frame with its checksum filled in, sent as text after any noise that
brings no earlier prefix, is received as 64 characters that convert to the
same frame, whatever the reads are. -/
theorem receiveALTOFrame_round_trip (f : Frame) (noise : List UInt8) (polls : List Poll)
    (timeout : Nat) (p64Buffer : Memory UInt8) (uninit : Nat → UInt8)
    (hexact : ∀ poll ∈ polls, poll.Exact)
    (hdelivered : delivered polls = noise ++ createASCII (bccFill f))
    (hfirst : find startFrame ((delivered polls).map toCapital) = some noise.length)
    (hlasts : Lasts timeout polls) :
    ∃ r, receiveALTOFrame true true p64Buffer timeout polls = some (.ok r) ∧ r.retValue = 64 ∧
      r.p64Buffer = p64Buffer.write 0 (bodyASCII (bccFill f)) ∧
      convertASCIIToBinary uninit r.p64Buffer = (0, bccFill f) ∧
      bccCheck (convertASCIIToBinary uninit r.p64Buffer).2 = 0 := by
  rw [hdelivered] at hfirst
  have hstart : (Reception.start timeout p64Buffer).Waiting
      ((noise ++ createASCII (bccFill f)).map toCapital) noise.length 0 :=
    ⟨rfl, 0, Nat.zero_le _, le_rfl, by simp [Reception.start]⟩
  obtain ⟨r, hloop, hret, hbuffer⟩ := loop_waiting (frameText hfirst) hstart (by omega)
    (by rw [hdelivered, List.drop_zero]) hexact hlasts
  have hconvert : convertASCIIToBinary uninit r.p64Buffer = (0, bccFill f) := by
    rw [hbuffer]
    exact convertASCIIToBinary_bodyASCII uninit p64Buffer
  refine ⟨r, ?_, hret, hbuffer, hconvert, ?_⟩
  · simpa [receiveALTOFrame] using hloop
  · rw [hconvert]
    exact bccCheck_bccFill f

def Poll.ofData (data : List UInt8) : Poll := ⟨data.length, fun n => some (data.take n)⟩

/-- A frame whose body contains the prefix, after a partial prefix, a carriage
return and one more `A`, in reads that cut the prefix and the end of line. -/
theorem receiveALTOFrame_round_trip_noise :
    let f : Frame := ⟨0xAA, 0x55, 3, 4, 5, Vector.replicate dataPayloadSize 0xA5, 0⟩
    let text := createASCII (bccFill f)
    let polls := [.ofData [65, 65, 53, 13], .ofData [], .ofData (65 :: text.take 2),
      .ofData ((text.drop 2).take 67), .ofData (text.drop 69)]
    ∃ r, receiveALTOFrame true true (fun _ => 0) 2 polls = some (.ok r) ∧ r.retValue = 64 ∧
      r.p64Buffer = Memory.write (fun _ => 0) 0 (bodyASCII (bccFill f)) ∧
      convertASCIIToBinary (fun _ => 0xFF) r.p64Buffer = (0, bccFill f) ∧
      bccCheck (convertASCIIToBinary (fun _ => 0xFF) r.p64Buffer).2 = 0 :=
  receiveALTOFrame_round_trip _ [65, 65, 53, 13, 65] _ 2 _ _
    (by
      intro poll hpoll _
      simp only [List.mem_cons, List.not_mem_nil, or_false] at hpoll
      rcases hpoll with rfl | rfl | rfl | rfl | rfl <;> exact ⟨_, rfl, by decide +kernel⟩)
    (by decide +kernel) (by decide +kernel) (.inr (by decide +kernel))

end SystemMaster.Alto
