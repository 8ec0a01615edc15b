import SystemMaster.Alto.RoundTrip

/-!
# The strings of the receiver

`std::string` throws when a position is past the end, and positions are numbers of
32 bits with `npos` for a search that finds nothing. With each position checked the
receiver does what it does unchecked, and a packet never has more than 511
characters.
-/

namespace SystemMaster.Alto

open Search

def npos : Nat := 0xFFFFFFFF

def toSizeT (n : Nat) : Nat := n % 2 ^ 32

def stdFind (pat s : List UInt8) : Nat := (find pat s).getD npos

def stdRfind (pat s : List UInt8) : Nat := (rfind pat s).getD npos

def substr (s : List UInt8) (pos : Nat) : Except Fault (List UInt8) :=
  if pos ≤ s.length then .ok (s.drop pos) else .error .outOfRange

def append (maxSize : Nat) (s t : List UInt8) : Except Fault (List UInt8) :=
  if s.length + t.length ≤ maxSize then .ok (s ++ t) else .error .lengthError

namespace Reception

def drainStepStd (r : Reception) (indexEOF : Nat) : Except Fault Reception := do
  let indexHeader := stdFind startFrame r.receivedPacket
  if indexHeader ≠ npos then
    let packet ← substr r.receivedPacket (toSizeT (indexHeader + startFrame.length))
    let indexEOF := stdFind [cr] packet
    let r := { r with receivedPacket := packet }
    if indexEOF ≠ npos then
      let str := (← substr packet 0).take indexEOF
      let r :=
        if str.length ≤ serialFrameSize then
          { r with p64Buffer := r.p64Buffer.write 0 str, retValue := str.length, isFrame := true }
        else r
      let packet ← substr packet (toSizeT (indexEOF + 1))
      pure { r with receivedPacket := packet }
    else
      let packet ← substr packet (toSizeT (indexEOF + 1))
      pure { r with receivedPacket := packet }
  else
    let packet ← substr r.receivedPacket (toSizeT (indexEOF + 1))
    pure { r with receivedPacket := packet }

def drainStd : Nat → Reception → Except Fault Reception
  | 0, r => .ok r
  | fuel + 1, r =>
    let indexEOF := stdFind [cr] r.receivedPacket
    if indexEOF ≠ npos then do
      let r ← r.drainStepStd indexEOF
      drainStd fuel r
    else .ok r

def trimStd (r : Reception) : Except Fault Reception := do
  if r.receivedPacket.length > 256 then
    let indexHeader := stdRfind startFrame r.receivedPacket
    let packet ←
      if indexHeader ≠ 0 then substr r.receivedPacket indexHeader
      else substr r.receivedPacket (r.receivedPacket.length - startFrame.length)
    pure { r with receivedPacket := packet }
  else pure r

def receiveStd (maxSize : Nat) (r : Reception) (data : List UInt8) : Except Fault Reception := do
  let packet ← append maxSize r.receivedPacket (data.map toCapital)
  let indexHeader := stdFind startFrame packet
  if indexHeader ≠ npos then
    let packet ← if indexHeader > 0 then substr packet indexHeader else pure packet
    let r ← drainStd packet.length { r with receivedPacket := packet }
    r.trimStd
  else
    let packet ←
      if packet.length > startFrame.length then substr packet (packet.length - startFrame.length)
      else pure packet
    pure { r with receivedPacket := packet }

def iterationStd (maxSize : Nat) (r : Reception) (poll : Poll) : Except Fault Reception :=
  if poll.dataAvailable = 0 then
    .ok (if r.timeout ≠ 0 ∧ r.timeout ≠ waitForever then { r with timeout := r.timeout - 1 } else r)
  else
    match poll.uartRead (askedBytes poll.dataAvailable) with
    | some data => r.receiveStd maxSize data
    | none => .error .lengthError

end Reception

def loopStd (maxSize : Nat) : Reception → List Poll → Option (Except Fault Reception)
  | _, [] => none
  | r, poll :: polls =>
    match r.iterationStd maxSize poll with
    | .ok r => if r.timeout ≠ 0 ∧ ¬r.isFrame then loopStd maxSize r polls else some (.ok r)
    | .error fault => some (.error fault)

/-- `xIFUART_receiveALTOFrame` with every position checked. -/
def receiveALTOFrameStd (maxSize : Nat) (opened pend : Bool) (p64Buffer : Memory UInt8)
    (timeout : Nat) (polls : List Poll) : Option (Except Fault Reception) :=
  if opened ∧ pend then loopStd maxSize (.start timeout p64Buffer) polls
  else some (.ok (.start timeout p64Buffer))

variable {r r' : Reception} {s t p data seen body : List UInt8} {poll : Poll} {polls : List Poll}
  {fuel indexEOF maxSize i : Nat} {p64Buffer : Memory UInt8}

-- ---------------------------------------------------------------------------
-- Positions
-- ---------------------------------------------------------------------------

theorem substr_of_le (h : i ≤ s.length) : substr s i = .ok (s.drop i) := if_pos h

theorem toSizeT_of_lt (h : i < 2 ^ 32) : toSizeT i = i := Nat.mod_eq_of_lt h

theorem toSizeT_npos_succ : toSizeT (npos + 1) = 0 := rfl

theorem stdFind_of_some {pat : List UInt8} (h : find pat s = some i) (hs : s.length < npos) :
    stdFind pat s = i ∧ i ≠ npos := by
  have hle := le_of_find h
  exact ⟨by rw [stdFind, h, Option.getD_some], by omega⟩

theorem stdFind_of_none {pat : List UInt8} (h : find pat s = none) : stdFind pat s = npos := by
  rw [stdFind, h, Option.getD_none]

theorem le_of_rfind {pat : List UInt8} (h : rfind pat s = some i) : i ≤ s.length := by
  obtain ⟨j, -, rfl⟩ := Option.map_eq_some_iff.mp h
  omega

namespace Reception

theorem drainStep_suffix : (r.drainStep indexEOF).receivedPacket <:+ r.receivedPacket := by
  rw [drainStep]
  split
  · dsimp only
    split
    · split
      all_goals exact (List.drop_suffix _ _).trans (List.drop_suffix _ _)
    · exact List.drop_suffix _ _
  · exact List.drop_suffix _ _

theorem drain_suffix : (drain fuel r).receivedPacket <:+ r.receivedPacket := by
  induction fuel generalizing r with
  | zero => exact List.suffix_rfl
  | succ fuel ih =>
    rw [drain]
    split
    · exact ih.trans drainStep_suffix
    · exact List.suffix_rfl

/-- The positions of a turn are found ones, or `npos + 1`, which is none at all. -/
theorem drainStepStd_eq (hs : r.receivedPacket.length < npos)
    (hEOF : indexEOF + 1 ≤ r.receivedPacket.length) :
    r.drainStepStd indexEOF = .ok (r.drainStep indexEOF) := by
  have hnpos : npos + 1 = 2 ^ 32 := rfl
  rw [drainStepStd, drainStep]
  cases hheader : find startFrame r.receivedPacket with
  | none =>
    simp only [stdFind_of_none hheader, ne_eq, not_true_eq_false, if_false]
    rw [toSizeT_of_lt (by omega), substr_of_le hEOF]
    rfl
  | some indexHeader =>
    obtain ⟨hfound, hne⟩ := stdFind_of_some hheader hs
    have hfit := le_of_find hheader
    simp only [hfound]
    rw [if_pos hne, toSizeT_of_lt (by omega), substr_of_le hfit]
    have hshort : (r.receivedPacket.drop (indexHeader + startFrame.length)).length < npos := by
      rw [List.length_drop]
      omega
    cases hnext : find [cr] (r.receivedPacket.drop (indexHeader + startFrame.length)) with
    | none => simp [bind, Except.bind, pure, Except.pure, stdFind_of_none hnext, toSizeT_npos_succ,
        substr]
    | some indexEOF =>
      obtain ⟨hfound, hne⟩ := stdFind_of_some hnext hshort
      have hfit := le_of_find hnext
      rw [List.length_singleton] at hfit
      simp only [bind, Except.bind, pure, Except.pure, hfound, hne, ne_eq, not_false_eq_true,
        if_true, substr_of_le (Nat.zero_le _), List.drop_zero]
      rw [toSizeT_of_lt (by omega), substr_of_le hfit]
      dsimp only
      split <;> rfl

theorem drainStd_eq (hs : r.receivedPacket.length < npos) :
    drainStd fuel r = .ok (drain fuel r) := by
  induction fuel generalizing r with
  | zero => rfl
  | succ fuel ih =>
    rw [drainStd, drain]
    cases hEOF : find [cr] r.receivedPacket with
    | none => rw [stdFind_of_none hEOF, if_neg (not_not.mpr rfl)]
    | some indexEOF =>
      obtain ⟨hfound, hne⟩ := stdFind_of_some hEOF hs
      have hfit := le_of_find hEOF
      rw [List.length_singleton] at hfit
      have hshorter := r.drainStep_length hEOF
      simp only [hfound]
      rw [if_pos hne, drainStepStd_eq hs hfit]
      exact ih (by omega)

theorem trimStd_eq (hs : r.receivedPacket.length < npos) : r.trimStd = r.trim := by
  rw [trimStd, trim]
  by_cases hlong : r.receivedPacket.length > 256
  · rw [if_pos hlong, if_pos hlong]
    cases hheader : rfind startFrame r.receivedPacket with
    | none =>
      have hfound : stdRfind startFrame r.receivedPacket = npos := by
        rw [stdRfind, hheader, Option.getD_none]
      have hpast : substr r.receivedPacket npos = .error .outOfRange :=
        if_neg (Nat.not_le.mpr hs)
      simp only [hfound]
      rw [if_pos (by decide), hpast]
      rfl
    | some indexHeader =>
      have hfound : stdRfind startFrame r.receivedPacket = indexHeader := by
        rw [stdRfind, hheader, Option.getD_some]
      simp only [hfound]
      cases indexHeader with
      | zero =>
        rw [if_neg (not_not.mpr rfl), substr_of_le (Nat.sub_le _ _)]
        rfl
      | succ indexHeader =>
        rw [if_pos (Nat.succ_ne_zero _), substr_of_le (le_of_rfind hheader)]
        rfl
  · rw [if_neg hlong, if_neg hlong]
    rfl

/-- A packet that may not grow over `maxSize` is not cut anywhere else. -/
theorem receiveStd_eq (hmax : maxSize < npos)
    (hs : r.receivedPacket.length + data.length ≤ maxSize) :
    r.receiveStd maxSize data = r.receive data := by
  have hlength : (r.receivedPacket ++ data.map toCapital).length ≤ maxSize := by
    rwa [List.length_append, List.length_map]
  rw [receiveStd, receive, append, List.length_map, if_pos hs]
  simp only [bind, Except.bind, pure, Except.pure]
  generalize hpacket : r.receivedPacket ++ data.map toCapital = packet at hlength
  cases hheader : find startFrame packet with
  | none =>
    simp only [stdFind_of_none hheader, ne_eq, not_true_eq_false, if_false]
    split
    case isTrue => rw [substr_of_le (Nat.sub_le _ _)]; rfl
    case isFalse => rfl
  | some indexHeader =>
    obtain ⟨hfound, hne⟩ := stdFind_of_some hheader (by omega)
    have hfit := le_of_find hheader
    have hshort : (packet.drop indexHeader).length < npos := by
      rw [List.length_drop]
      omega
    have hdrained : (drain (packet.drop indexHeader).length
        { r with receivedPacket := packet.drop indexHeader }).receivedPacket.length < npos :=
      Nat.lt_of_le_of_lt drain_suffix.length_le hshort
    simp only [hfound, ne_eq, hne, not_false_eq_true, if_true]
    split
    case isTrue =>
      rw [substr_of_le (by omega)]
      dsimp only
      rw [drainStd_eq hshort]
      exact trimStd_eq hdrained
    case isFalse hzero =>
      obtain rfl : indexHeader = 0 := by omega
      rw [List.drop_zero] at hshort hdrained ⊢
      rw [drainStd_eq hshort]
      exact trimStd_eq hdrained

-- ---------------------------------------------------------------------------
-- The packet stays short
-- ---------------------------------------------------------------------------

/-- Only the cut at a last prefix leaves more than 256 characters, and a carriage
return is left only among the last four characters of a text without a prefix. -/
structure Bounded (r : Reception) : Prop where
  length_le : r.receivedPacket.length ≤ 383
  not_prefix : 256 < r.receivedPacket.length → ∀ j, 0 < j → ¬startFrame <+: r.receivedPacket.drop j
  of_cr_mem : cr ∈ r.receivedPacket → r.receivedPacket.length ≤ startFrame.length

theorem Bounded.of_short (h : r.receivedPacket.length ≤ startFrame.length) : r.Bounded := by
  have hfour : startFrame.length = 4 := rfl
  exact ⟨by omega, fun hlong => by omega, fun _ => h⟩

theorem Bounded.of_cr_notMem (h : cr ∉ r.receivedPacket) (hle : r.receivedPacket.length ≤ 256) :
    r.Bounded :=
  ⟨by omega, fun hlong => by omega, fun hmem => absurd hmem h⟩

theorem lastBytes_length : (lastBytes s).length ≤ startFrame.length := by
  rw [lastBytes, List.length_drop]
  omega

theorem Bounded.start {timeout : Nat} : (Reception.start timeout p64Buffer).Bounded :=
  .of_short (Nat.zero_le _)

/-- The cut at the last prefix of a packet that starts with one. -/
theorem trim_bounded (hheader : startFrame <+: r.receivedPacket) (hcr : cr ∉ r.receivedPacket)
    (hlength : 256 < r.receivedPacket.length → ∀ i, 0 < i → startFrame <+: r.receivedPacket.drop i →
      r.receivedPacket.length ≤ i + 383) :
    ∃ r', r.trim = .ok r' ∧ r'.Bounded := by
  rw [trim]
  split
  case isFalse hshort => exact ⟨r, rfl, .of_cr_notMem hcr (Nat.not_lt.mp hshort)⟩
  case isTrue hlong =>
    cases hlast : rfind startFrame r.receivedPacket with
    | none => exact absurd hheader.isInfix (rfind_eq_none_iff.mp hlast)
    | some indexHeader =>
      cases indexHeader with
      | zero => exact ⟨_, rfl, .of_short lastBytes_length⟩
      | succ indexHeader =>
        refine ⟨_, rfl, ?_, fun _ j hj => ?_, fun hmem => ?_⟩
        · have := hlength hlong _ (Nat.succ_pos _) (prefix_of_rfind hlast)
          rw [List.length_drop]
          omega
        · rw [List.drop_drop]
          exact not_prefix_of_rfind hlast (by decide) (Nat.lt_add_of_pos_right hj)
        · exact absurd (List.mem_of_mem_drop hmem) hcr

theorem Bounded.drained_length_le (h : r.Bounded) {packet rest : List UInt8}
    (hpacket : r.receivedPacket ++ data.map toCapital = packet) (hcr : cr ∈ packet)
    (hsuffix : rest <:+ packet) (hnone : cr ∉ rest) :
    rest.length ≤ startFrame.length + data.length := by
  by_cases hold : cr ∈ r.receivedPacket
  · have hshort := h.of_cr_mem hold
    have hlength := hsuffix.length_le
    rw [← hpacket, List.length_append, List.length_map] at hlength
    omega
  · have hnew : cr ∈ data.map toCapital := by
      rw [← hpacket, List.mem_append] at hcr
      exact hcr.resolve_left hold
    rcases List.suffix_or_suffix_of_suffix hsuffix ⟨_, hpacket⟩ with hin | hover
    · have hlength := hin.length_le
      rw [List.length_map] at hlength
      omega
    · exact absurd (hover.subset hnew) hnone

/-- A read of at most 128 bytes neither throws nor makes the packet longer. -/
theorem Bounded.receive (h : r.Bounded) (hdata : data.length ≤ cmdBuffSize) :
    ∃ r', r.receive data = .ok r' ∧ r'.Bounded := by
  have hsize : cmdBuffSize = 128 := rfl
  have hfour : startFrame.length = 4 := rfl
  have hle := h.length_le
  generalize hpacket : r.receivedPacket ++ data.map toCapital = packet
  have hlength : packet.length = r.receivedPacket.length + data.length := by
    rw [← hpacket, List.length_append, List.length_map]
  cases hheader : find startFrame packet with
  | none =>
    simp only [Reception.receive, hpacket, hheader]
    refine ⟨_, rfl, .of_short ?_⟩
    dsimp only
    split
    · exact lastBytes_length
    · exact Nat.not_lt.mp ‹_›
  | some indexHeader =>
    rw [receive_header hpacket hheader]
    have hprefix := prefix_of_find hheader
    by_cases hcr : cr ∈ packet.drop indexHeader
    · generalize hdrained : drain _ _ = drained
      have hsuffix : drained.receivedPacket <:+ packet := by
        rw [← hdrained]
        exact drain_suffix.trans (List.drop_suffix _ _)
      have hnone : cr ∉ drained.receivedPacket := by
        rw [← hdrained]
        exact cr_notMem_drain le_rfl
      have hshort := h.drained_length_le hpacket (List.mem_of_mem_drop hcr) hsuffix hnone
      rw [trim_of_le (by omega)]
      exact ⟨drained, rfl, .of_cr_notMem hnone (by omega)⟩
    · rw [drain_of_cr_notMem hcr]
      refine trim_bounded hprefix hcr fun hlong i hi hlater => ?_
      dsimp only at hlong hlater ⊢
      rw [List.length_drop] at hlong ⊢
      by_cases hold : r.receivedPacket.length ≤ 256
      · omega
      · -- an old packet so long has no other prefix, so the later one ends in the read
        by_contra hfar
        have hfit := hlater.length_le
        rw [List.drop_drop, ← hpacket, List.drop_append_of_le_length (by omega)] at hlater
        have hin : startFrame <+: r.receivedPacket.drop (indexHeader + i) :=
          List.prefix_of_prefix_length_le hlater (List.prefix_append _ _)
            (by rw [List.length_drop]; omega)
        exact h.not_prefix (Nat.not_le.mp hold) _ (Nat.lt_of_lt_of_le hi (Nat.le_add_left _ _)) hin

-- ---------------------------------------------------------------------------
-- What is delivered
-- ---------------------------------------------------------------------------

/-- What a receiver that has seen a text has delivered of it, if anything: the
characters between a prefix and the next carriage return. -/
structure Honest (p64Buffer : Memory UInt8) (seen : List UInt8) (r : Reception) : Prop where
  suffix : r.receivedPacket <:+ seen
  retValue_le : r.retValue ≤ serialFrameSize
  unchanged : ∀ a, serialFrameSize ≤ a → r.p64Buffer a = p64Buffer a
  silent : r.isFrame = false → r.retValue = 0
  delivers : r.isFrame = true → ∃ body, cr ∉ body ∧ startFrame ++ body ++ [cr] <:+: seen ∧
    r.p64Buffer.read 0 r.retValue = body

theorem Honest.start {timeout : Nat} : (Reception.start timeout p64Buffer).Honest p64Buffer [] where
  suffix := List.suffix_rfl
  retValue_le := Nat.zero_le _
  unchanged _ _ := rfl
  silent _ := rfl
  delivers hframe := absurd hframe Bool.false_ne_true

theorem Honest.cut (h : r.Honest p64Buffer seen) (hp : p <:+ r.receivedPacket) :
    { r with receivedPacket := p }.Honest p64Buffer seen :=
  { h with suffix := hp.trans h.suffix }

theorem Honest.deliver (h : r.Honest p64Buffer seen) (hcr : cr ∉ body)
    (hbody : body.length ≤ serialFrameSize) (hin : startFrame ++ body ++ [cr] <:+: seen) :
    { r with p64Buffer := r.p64Buffer.write 0 body, retValue := body.length, isFrame := true }.Honest
      p64Buffer seen where
  suffix := h.suffix
  retValue_le := hbody
  unchanged a ha := by
    have hpast : 0 + body.length ≤ a := by omega
    exact (Memory.write_of_ge hpast).trans (h.unchanged a ha)
  silent hframe := absurd hframe (by simp)
  delivers _ := ⟨body, hcr, hin, r.p64Buffer.read_write 0 body⟩

theorem Honest.drainStep (h : r.Honest p64Buffer seen) :
    (r.drainStep indexEOF).Honest p64Buffer seen := by
  rw [Reception.drainStep]
  cases hheader : find startFrame r.receivedPacket with
  | none => exact h.cut (List.drop_suffix _ _)
  | some indexHeader =>
    dsimp only
    have hafter := drop_of_find hheader
    have hpacket := List.drop_suffix (indexHeader + startFrame.length) r.receivedPacket
    generalize r.receivedPacket.drop (indexHeader + startFrame.length) = packet at hafter hpacket
    cases hEOF : find [cr] packet with
    | none => exact h.cut hpacket
    | some indexEOF =>
      obtain ⟨hcr, hsplit⟩ := find_singleton_split hEOF
      have hrest := h.cut ((List.drop_suffix (indexEOF + 1) packet).trans hpacket)
      dsimp only
      split
      case isFalse => exact hrest
      case isTrue hshort =>
        refine hrest.deliver hcr hshort (List.IsInfix.trans ?_ h.suffix.isInfix)
        refine ⟨r.receivedPacket.take indexHeader, packet.drop (indexEOF + 1), ?_⟩
        conv_rhs => rw [← List.take_append_drop indexHeader r.receivedPacket, hafter, hsplit]
        simp only [List.append_assoc, List.singleton_append]

theorem Honest.drain (h : r.Honest p64Buffer seen) : (drain fuel r).Honest p64Buffer seen := by
  induction fuel generalizing r with
  | zero => exact h
  | succ fuel ih =>
    rw [Alto.drain]
    split
    · exact ih h.drainStep
    · exact h

theorem Honest.trim (h : r.Honest p64Buffer seen) (htrim : r.trim = .ok r') :
    r'.Honest p64Buffer seen := by
  rw [Reception.trim] at htrim
  split at htrim
  case isFalse =>
    cases htrim
    exact h
  case isTrue =>
    split at htrim
    · cases htrim
    · cases htrim
      exact h.cut (List.drop_suffix _ _)
    · cases htrim
      exact h.cut (List.drop_suffix _ _)

theorem Honest.append (h : r.Honest p64Buffer seen) (t : List UInt8) :
    { r with receivedPacket := r.receivedPacket ++ t }.Honest p64Buffer (seen ++ t) where
  suffix := List.suffix_append_self_iff.mpr h.suffix
  retValue_le := h.retValue_le
  unchanged := h.unchanged
  silent := h.silent
  delivers hframe := by
    obtain ⟨body, hcr, hin, hread⟩ := h.delivers hframe
    exact ⟨body, hcr, hin.trans (List.prefix_append _ _).isInfix, hread⟩

theorem Honest.receive (h : r.Honest p64Buffer seen) (hreceive : r.receive data = .ok r') :
    r'.Honest p64Buffer (seen ++ data.map toCapital) := by
  have happend := h.append (data.map toCapital)
  generalize hpacket : r.receivedPacket ++ data.map toCapital = packet at happend
  cases hheader : find startFrame packet with
  | none =>
    simp only [Reception.receive, hpacket, hheader, Except.ok.injEq] at hreceive
    subst hreceive
    split
    · exact happend.cut (List.drop_suffix _ _)
    · exact happend
  | some indexHeader =>
    rw [receive_header hpacket hheader] at hreceive
    exact (happend.cut (List.drop_suffix _ _)).drain.trim hreceive

end Reception

theorem Poll.Exact.data_length (h : poll.Exact) : poll.data.length ≤ cmdBuffSize := by
  rw [Poll.data]
  split
  case isTrue => exact Nat.zero_le _
  case isFalse hsome =>
    obtain ⟨data, hread, hlength⟩ := h hsome
    rw [hread, Option.getD_some, hlength, askedBytes]
    split <;> omega

/-- A turn of the loop with every position checked: it throws nothing, and what
it delivers is in the text. -/
theorem Reception.iterationStd_eq (hbounded : r.Bounded) (hhonest : r.Honest p64Buffer seen)
    (hexact : poll.Exact) :
    ∃ r', r.iterationStd 511 poll = .ok r' ∧ r.iteration poll = .ok r' ∧ r'.Bounded ∧
      r'.Honest p64Buffer (seen ++ poll.data.map toCapital) := by
  rw [iterationStd, iteration]
  by_cases hidle : poll.dataAvailable = 0
  · rw [if_pos hidle, if_pos hidle, Poll.data, if_pos hidle, List.map_nil, List.append_nil]
    refine ⟨_, rfl, rfl, ?_⟩
    split
    · exact ⟨⟨hbounded.length_le, hbounded.not_prefix, hbounded.of_cr_mem⟩,
        ⟨hhonest.suffix, hhonest.retValue_le, hhonest.unchanged, hhonest.silent, hhonest.delivers⟩⟩
    · exact ⟨hbounded, hhonest⟩
  · obtain ⟨data, hread, -⟩ := hexact hidle
    have hdata : poll.data = data := by rw [Poll.data, if_neg hidle, hread, Option.getD_some]
    have hshort : data.length ≤ cmdBuffSize := hdata ▸ hexact.data_length
    have hfits : r.receivedPacket.length + data.length ≤ 511 :=
      Nat.add_le_add hbounded.length_le hshort
    obtain ⟨r', hreceive, hbounded'⟩ := hbounded.receive hshort
    rw [if_neg hidle, if_neg hidle, hread, hdata]
    dsimp only
    rw [receiveStd_eq (by decide) hfits]
    exact ⟨r', hreceive, hreceive, hbounded', hhonest.receive hreceive⟩

theorem loopStd_eq (hbounded : r.Bounded) (hhonest : r.Honest p64Buffer seen)
    (hexact : ∀ poll ∈ polls, poll.Exact) :
    loopStd 511 r polls = loop r polls ∧ ∀ result, loop r polls = some result →
      ∃ r' n, result = .ok r' ∧
        r'.Honest p64Buffer (seen ++ (delivered (polls.take n)).map toCapital) := by
  induction polls generalizing r seen with
  | nil => exact ⟨rfl, by rintro result ⟨⟩⟩
  | cons poll polls ih =>
    obtain ⟨r', hstd, hiter, hbounded', hhonest'⟩ :=
      Reception.iterationStd_eq hbounded hhonest (hexact poll List.mem_cons_self)
    have hdelivered : ∀ n, seen ++ (delivered ((poll :: polls).take (n + 1))).map toCapital =
        seen ++ poll.data.map toCapital ++ (delivered (polls.take n)).map toCapital := by
      intro n
      rw [List.take_succ_cons, delivered, List.flatMap_cons, List.map_append, List.append_assoc]
      rfl
    rw [loopStd, loop, hstd, hiter]
    dsimp only
    split
    · obtain ⟨heq, hsafe⟩ := ih hbounded' hhonest' fun p hp => hexact p (List.mem_cons_of_mem _ hp)
      refine ⟨heq, fun result hresult => ?_⟩
      obtain ⟨r'', n, hok, hhonest''⟩ := hsafe result hresult
      exact ⟨r'', n + 1, hok, by rwa [hdelivered]⟩
    · refine ⟨rfl, ?_⟩
      rintro result ⟨⟩
      refine ⟨r', 1, rfl, ?_⟩
      rw [hdelivered, List.take_zero]
      simpa [delivered] using hhonest'

/-- With reads that return what they were asked for, the receiver throws nothing
even where a string may have no more than 511 characters. It writes at most 64
characters, and what it reports is the text between a prefix and the next
carriage return. -/
theorem receiveALTOFrame_safe (opened pend : Bool) (p64Buffer : Memory UInt8) (timeout : Nat)
    (polls : List Poll) (hexact : ∀ poll ∈ polls, poll.Exact) :
    receiveALTOFrameStd 511 opened pend p64Buffer timeout polls =
        receiveALTOFrame opened pend p64Buffer timeout polls ∧
      ∀ result, receiveALTOFrame opened pend p64Buffer timeout polls = some result →
        ∃ r, result = .ok r ∧ r.retValue ≤ 64 ∧ (∀ a, 64 ≤ a → r.p64Buffer a = p64Buffer a) ∧
          (0 < r.retValue → ∃ body, cr ∉ body ∧ r.p64Buffer.read 0 r.retValue = body ∧
            startFrame ++ body ++ [cr] <:+: (delivered polls).map toCapital) := by
  rw [receiveALTOFrameStd, receiveALTOFrame]
  split
  case isFalse =>
    refine ⟨rfl, ?_⟩
    rintro result ⟨⟩
    exact ⟨_, rfl, Nat.zero_le _, fun _ _ => rfl, fun hpos => absurd hpos (Nat.lt_irrefl 0)⟩
  case isTrue =>
    obtain ⟨heq, hsafe⟩ := loopStd_eq (r := .start timeout p64Buffer) .start .start hexact
    refine ⟨heq, fun result hresult => ?_⟩
    obtain ⟨r, n, hok, hhonest⟩ := hsafe result hresult
    refine ⟨r, hok, hhonest.retValue_le, hhonest.unchanged, fun hpos => ?_⟩
    have hframe : r.isFrame = true := by
      by_contra hnone
      exact absurd (hhonest.silent (Bool.eq_false_iff.mpr hnone)) (Nat.ne_of_gt hpos)
    obtain ⟨body, hcr, hin, hread⟩ := hhonest.delivers hframe
    refine ⟨body, hcr, hread, hin.trans (List.IsPrefix.isInfix ?_)⟩
    rw [List.nil_append]
    refine List.IsPrefix.map toCapital ?_
    conv_rhs => rw [← List.take_append_drop n polls, delivered, List.flatMap_append]
    exact List.prefix_append _ _

/-- Noise of lower-case letters, a silence, and a frame of three characters in
reads that cut its prefix. -/
theorem receiveALTOFrame_safe_noise :
    let polls := [.ofData [97, 97, 97, 53], .ofData [], .ofData [53, 49], .ofData [50, 51, 13, 10]]
    receiveALTOFrameStd 511 true true (fun _ => 0) 2 polls =
        receiveALTOFrame true true (fun _ => 0) 2 polls ∧
      ∀ result, receiveALTOFrame true true (fun _ => 0) 2 polls = some result →
        ∃ r, result = .ok r ∧ r.retValue ≤ 64 ∧ (∀ a, 64 ≤ a → r.p64Buffer a = 0) ∧
          (0 < r.retValue → ∃ body, cr ∉ body ∧ r.p64Buffer.read 0 r.retValue = body ∧
            startFrame ++ body ++ [cr] <:+: (delivered polls).map toCapital) :=
  receiveALTOFrame_safe true true (fun _ => 0) 2 _ (by
    intro poll hpoll _
    simp only [List.mem_cons, List.not_mem_nil, or_false] at hpoll
    rcases hpoll with rfl | rfl | rfl | rfl <;> exact ⟨_, rfl, by decide +kernel⟩)

end SystemMaster.Alto
