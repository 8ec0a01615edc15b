import SystemMaster.Library.Lines
import SystemMaster.Library.Runs
import SystemMaster.Alto.Safety

/-!
# The first frame of a text

The receiver takes the lines that end in a read one after another and keeps the
last body, so that the first frame is lost to a later one of the same read. It
is also lost when its prefix is no longer held, or not the first on its line.
-/

namespace SystemMaster.Alto

open Search Lines Runs

/-- A frame of at most 64 characters in a text. -/
structure FrameIn (t before body after : List UInt8) : Prop where
  text_eq : t = before ++ (startFrame ++ body ++ cr :: after)
  cr_notMem : cr ∉ body
  short : body.length ≤ serialFrameSize

structure FirstFrame (t before body after : List UInt8) : Prop
    extends FrameIn t before body after where
  first : ∀ before' body' after', FrameIn t before' body' after' → before.length ≤ before'.length

def lineBody (line : List UInt8) : Option (List UInt8) :=
  match find startFrame line with
  | some i =>
    let body := line.drop (i + startFrame.length)
    if body.length ≤ serialFrameSize then some body else none
  | none => none

/-- The bodies that the ended lines of a text bring. -/
def bodies (t : List UInt8) : List (List UInt8) := (lines cr t).filterMap lineBody

def lastBody (t : List UInt8) : Option (List UInt8) := (bodies t).getLast?

abbrev Read := { poll : Poll // poll.Exact }

def text (reads : List Read) : List UInt8 := (delivered (reads.map Subtype.val)).map toCapital

/-- What is behind the first prefix of a text, if it has one. -/
def unprefixed (t : List UInt8) : List UInt8 :=
  match find startFrame t with
  | some i => t.drop (i + startFrame.length)
  | none => t

/-- The line of a text that has not ended; without its prefix where the line before it has
none. -/
def openLine (t : List UInt8) : List UInt8 :=
  match (lines cr t).getLast? with
  | some line =>
    if (find startFrame line).isSome then lastLine cr t else unprefixed (lastLine cr t)
  | none => lastLine cr t

/-- A line of more than 256 characters is cut at its last prefix, or at its end if that is
where it starts. -/
def shortened (line : List UInt8) : List UInt8 :=
  if line.length > 256 then
    match rfind startFrame line with
    | some (i + 1) => line.drop (i + 1)
    | some 0 | none => lastBytes line
  else line

/-- What is left of a text between two reads: of its unended line when it has a prefix, and
else its last characters. -/
def remembered (t : List UInt8) : List UInt8 :=
  match find startFrame t with
  | some i => shortened (openLine (t.drop i))
  | none => lastBytes t

structure Stream where
  seen : List UInt8
  kept : List UInt8

def Stream.step (s : Stream) (poll : Read) : Stream where
  seen := s.seen ++ poll.val.data.map toCapital
  kept :=
    if poll.val.data = [] then s.kept else remembered (s.kept ++ poll.val.data.map toCapital)

structure Receiving extends Stream where
  reception : Reception

def Receiving.step (s : Receiving) (poll : Read) : Receiving where
  toStream := s.toStream.step poll
  reception :=
    if s.reception.isFrame then s.reception
    else
      match s.reception.iteration poll with
      | .ok r => r
      | .error _ => s.reception

variable {t u v before body after before' body' after' line p : List UInt8} {r r' r'' : Reception}
  {data : List UInt8} {fuel indexEOF i : Nat} {o o' : Option (List UInt8)}
  {s : Receiving} {poll : Read}

-- ---------------------------------------------------------------------------
-- Bodies of lines
-- ---------------------------------------------------------------------------

theorem cr_notMem_startFrame : cr ∉ startFrame := by decide

theorem lineBody_of_find
    (h : find startFrame (before ++ (startFrame ++ body)) = some before.length) :
    lineBody (before ++ (startFrame ++ body)) =
      if body.length ≤ serialFrameSize then some body else none := by
  have hdrop : (before ++ (startFrame ++ body)).drop (before.length + startFrame.length) = body := by
    rw [← List.drop_drop, List.drop_left, List.drop_left]
  simp only [lineBody, h, hdrop]

theorem lineBody_eq_some (h : lineBody line = some body) :
    ∃ before, line = before ++ (startFrame ++ body) ∧
      find startFrame line = some before.length ∧ body.length ≤ serialFrameSize := by
  unfold lineBody at h
  split at h
  case h_2 => cases h
  case h_1 i hheader =>
    dsimp only at h
    split at h
    case isFalse => cases h
    case isTrue hshort =>
      cases h
      have hi : i ≤ line.length := Nat.le_trans (Nat.le_add_right _ _) (le_of_find hheader)
      refine ⟨line.take i, ?_, ?_, hshort⟩
      · rw [← drop_of_find hheader, List.take_append_drop]
      · rw [hheader, List.length_take_of_le hi]

theorem lineBody_of_find_none (h : find startFrame line = none) : lineBody line = none := by
  simp only [lineBody, h]

theorem bodies_of_notMem (h : cr ∉ t) : bodies t = [] := by
  rw [bodies, lines_of_notMem h, List.filterMap_nil]

theorem bodies_append_cons :
    bodies (u ++ cr :: v) = bodies u ++ ((lineBody (lastLine cr u)).toList ++ bodies v) := by
  rw [bodies, lines_append_cons, List.filterMap_append, List.filterMap_cons]
  cases lineBody (lastLine cr u) <;> rfl

theorem bodies_line_cons (h : cr ∉ u) :
    bodies (u ++ cr :: v) = (lineBody u).toList ++ bodies v := by
  rw [bodies_append_cons, bodies_of_notMem h, lastLine_of_notMem h, List.nil_append]

/-- What is before the first prefix of a text brings nothing. -/
theorem bodies_of_find (h : find startFrame (before ++ (startFrame ++ t)) = some before.length) :
    bodies (before ++ (startFrame ++ t)) = bodies (startFrame ++ t) := by
  induction before using line_induction (a := cr) with
  | last before hcr =>
    by_cases hmem : cr ∈ t
    · obtain ⟨body, after, rfl, hbody⟩ := List.eq_append_cons_of_mem hmem
      have hline : cr ∉ startFrame ++ body := by simp [hbody, cr_notMem_startFrame]
      have hstart : find startFrame ([] ++ (startFrame ++ body)) = some 0 :=
        find_of_start (List.prefix_append _ _)
      have hfirst : find startFrame (before ++ (startFrame ++ body)) = some before.length :=
        (find_append_iff (by decide)).mpr ((find_append_iff (by decide)).mp h)
      have hwhole : cr ∉ before ++ (startFrame ++ body) := by simp [hcr, hbody, cr_notMem_startFrame]
      have hassoc : startFrame ++ (body ++ cr :: after) = startFrame ++ body ++ cr :: after :=
        (List.append_assoc _ _ _).symm
      rw [hassoc, bodies_line_cons hline, ← List.append_assoc, bodies_line_cons hwhole,
        lineBody_of_find hfirst, ← List.nil_append (startFrame ++ body), lineBody_of_find hstart]
    · rw [bodies_of_notMem (by simp [hcr, hmem, cr_notMem_startFrame]),
        bodies_of_notMem (by simp [hmem, cr_notMem_startFrame])]
  | next u before hu ih =>
    have hdrop : (u ++ cr :: before ++ (startFrame ++ t)).drop (u.length + 1) =
        before ++ (startFrame ++ t) := by
      rw [List.append_assoc, ← List.drop_drop, List.drop_left]
      rfl
    have hlength : (u ++ cr :: before).length = u.length + 1 + before.length := by
      rw [List.length_append, List.length_cons]
      omega
    have hnext := find_drop h (n := u.length + 1) (by omega)
    rw [hdrop, hlength, Nat.add_sub_cancel_left] at hnext
    have hnone : find startFrame u = none := by
      refine Option.eq_none_iff_forall_ne_some.mpr fun i hi => ?_
      have htake : (u ++ cr :: before ++ (startFrame ++ t)).take u.length = u := by
        rw [List.append_assoc, List.take_left]
      rw [← htake, find_take (by decide), h, Option.some.injEq] at hi
      omega
    rw [List.append_assoc, List.cons_append, bodies_line_cons hu, lineBody_of_find_none hnone,
      Option.toList_none, List.nil_append, ih hnext]

theorem bodies_drop (h : find startFrame t = some i) : bodies t = bodies (t.drop i) := by
  have hi : i ≤ t.length := Nat.le_trans (Nat.le_add_right _ _) (le_of_find h)
  have hsplit : t = t.take i ++ (startFrame ++ t.drop (i + startFrame.length)) := by
    rw [← drop_of_find h, List.take_append_drop]
  have hfind : find startFrame (t.take i ++ (startFrame ++ t.drop (i + startFrame.length))) =
      some (t.take i).length := by
    rw [← hsplit, h, List.length_take_of_le hi]
  rw [drop_of_find h, ← bodies_of_find hfind, ← hsplit]

theorem mem_bodies (h : body ∈ bodies t) : ∃ before after, FrameIn t before body after := by
  obtain ⟨line, hline, hbody⟩ := List.mem_filterMap.mp h
  obtain ⟨hcr, u, v, rfl⟩ := mem_lines hline
  obtain ⟨before, rfl, -, hshort⟩ := lineBody_eq_some hbody
  refine ⟨u ++ before, v, by simp only [List.append_assoc], fun hmem => hcr ?_, hshort⟩
  simp [hmem]

theorem bodies_of_find_none (h : find startFrame t = none) : bodies t = [] := by
  refine List.eq_nil_iff_forall_not_mem.mpr fun body hmem => ?_
  obtain ⟨before, after, hframe⟩ := mem_bodies hmem
  refine find_eq_none_iff_absent.mp h ⟨before, body ++ cr :: after, ?_⟩
  rw [hframe.text_eq]
  simp only [List.append_assoc]

theorem lastBody_append_cons : lastBody (u ++ cr :: v) =
    (lastBody v).or ((lineBody (lastLine cr u)).or (lastBody u)) := by
  rw [lastBody, bodies_append_cons, List.getLast?_append, List.getLast?_append, Option.or_assoc]
  cases lineBody (lastLine cr u) <;> rfl

-- ---------------------------------------------------------------------------
-- What a read delivers
-- ---------------------------------------------------------------------------

def Reception.Heard (r r' : Reception) : Option (List UInt8) → Prop
  | some body => r'.isFrame = true ∧ r'.p64Buffer.read 0 r'.retValue = body
  | none => r'.isFrame = r.isFrame ∧ r'.p64Buffer = r.p64Buffer ∧ r'.retValue = r.retValue

namespace Reception

theorem Heard.trans (h : r.Heard r' o) (h' : r'.Heard r'' o') : r.Heard r'' (o'.or o) := by
  cases o' with
  | some body => exact h'
  | none =>
    obtain ⟨hframe, hbuffer, hret⟩ := h'
    cases o with
    | some body => exact ⟨hframe.trans h.1, by rw [hbuffer, hret, h.2]⟩
    | none => exact ⟨hframe.trans h.1, hbuffer.trans h.2.1, hret.trans h.2.2⟩

/-- A turn of the loop takes the first frame of the packet, if it has one. -/
theorem drainStep_heard (indexEOF : Nat) :
    ∃ o, r.Heard (r.drainStep indexEOF) o ∧
      lastBody r.receivedPacket = (lastBody (r.drainStep indexEOF).receivedPacket).or o := by
  rw [Reception.drainStep]
  cases hheader : find startFrame r.receivedPacket with
  | none =>
    refine ⟨none, ⟨rfl, rfl, rfl⟩, ?_⟩
    have hrest : find startFrame (r.receivedPacket.drop (indexEOF + 1)) = none := by
      rw [find_eq_none_iff_absent] at hheader ⊢
      exact fun h => hheader (h.trans (List.drop_suffix _ _).isInfix)
    rw [lastBody, lastBody, bodies_of_find_none hheader, bodies_of_find_none hrest]
    rfl
  | some indexHeader =>
    dsimp only
    have hbodies := bodies_drop hheader
    rw [drop_of_find hheader] at hbodies
    generalize r.receivedPacket.drop (indexHeader + startFrame.length) = packet at hbodies
    rw [lastBody, hbodies]
    cases hnext : find [cr] packet with
    | none =>
      have hcr := find_singleton_eq_none_iff.mp hnext
      refine ⟨none, ⟨rfl, rfl, rfl⟩, ?_⟩
      rw [lastBody, bodies_of_notMem hcr, bodies_of_notMem (by simp [hcr, cr_notMem_startFrame])]
      rfl
    | some indexEOF =>
      obtain ⟨hcr, hsplit⟩ := find_singleton_split hnext
      have hstart : find startFrame ([] ++ (startFrame ++ packet.take indexEOF)) = some 0 :=
        find_of_start (List.prefix_append _ _)
      have hline := lineBody_of_find hstart
      rw [List.nil_append] at hline
      refine ⟨lineBody (startFrame ++ packet.take indexEOF), ?_, ?_⟩
      · rw [hline]
        dsimp only
        split
        · exact ⟨rfl, r.p64Buffer.read_write 0 _⟩
        · exact ⟨rfl, rfl, rfl⟩
      · have hlines : startFrame ++ packet =
            startFrame ++ packet.take indexEOF ++ cr :: packet.drop (indexEOF + 1) := by
          rw [List.append_assoc, ← hsplit]
        rw [hlines, bodies_line_cons (by simp [hcr, cr_notMem_startFrame]), List.getLast?_append]
        dsimp only
        split <;> cases lineBody (startFrame ++ packet.take indexEOF) <;> rfl

theorem drain_heard (h : r.receivedPacket.length ≤ fuel) :
    r.Heard (drain fuel r) (lastBody r.receivedPacket) := by
  induction fuel generalizing r with
  | zero =>
    rw [List.length_eq_zero_iff.mp (Nat.le_zero.mp h)]
    exact ⟨rfl, rfl, rfl⟩
  | succ fuel ih =>
    rw [drain]
    cases hEOF : find [cr] r.receivedPacket with
    | none =>
      rw [lastBody, bodies_of_notMem (find_singleton_eq_none_iff.mp hEOF)]
      exact ⟨rfl, rfl, rfl⟩
    | some indexEOF =>
      have hshorter := r.drainStep_length hEOF
      obtain ⟨o, hstep, hlast⟩ := r.drainStep_heard indexEOF
      rw [hlast]
      exact hstep.trans (ih (by omega))

theorem Bounded.lastBody (h : r.Bounded) : lastBody r.receivedPacket = none := by
  by_cases hcr : cr ∈ r.receivedPacket
  · refine Option.eq_none_iff_forall_ne_some.mpr fun body hlast => ?_
    obtain ⟨before, after, hframe⟩ := mem_bodies (List.mem_of_getLast? hlast)
    have hlength := congrArg List.length hframe.text_eq
    have hshort := h.of_cr_mem hcr
    simp only [List.length_append, List.length_cons] at hlength
    omega
  · rw [Alto.lastBody, bodies_of_notMem hcr, List.getLast?_nil]

theorem trim_heard (h : r.trim = .ok r') : r.Heard r' none := by
  unfold trim at h
  split at h
  · split at h
    · cases h
    · cases h
      exact ⟨rfl, rfl, rfl⟩
    · cases h
      exact ⟨rfl, rfl, rfl⟩
  · cases h
    exact ⟨rfl, rfl, rfl⟩

theorem receive_heard (h : r.receive data = .ok r') :
    r.Heard r' (lastBody (r.receivedPacket ++ data.map toCapital)) := by
  generalize hpacket : r.receivedPacket ++ data.map toCapital = packet
  cases hheader : find startFrame packet with
  | none =>
    simp only [Reception.receive, hpacket, hheader, Except.ok.injEq] at h
    subst h
    rw [lastBody, bodies_of_find_none hheader]
    exact ⟨rfl, rfl, rfl⟩
  | some indexHeader =>
    rw [receive_header hpacket hheader] at h
    rw [lastBody, bodies_drop hheader]
    exact (drain_heard (r := { r with receivedPacket := packet.drop indexHeader }) le_rfl).trans
      (trim_heard h)

theorem iteration_heard {poll : Poll} (hbounded : r.Bounded) (h : r.iteration poll = .ok r') :
    r.Heard r' (lastBody (r.receivedPacket ++ poll.data.map toCapital)) := by
  unfold iteration at h
  unfold Poll.data
  split at h
  case isTrue hidle =>
    rw [if_pos hidle, List.map_nil, List.append_nil, hbounded.lastBody]
    cases h
    split <;> exact ⟨rfl, rfl, rfl⟩
  case isFalse hsome =>
    rw [if_neg hsome]
    split at h
    case h_1 data hread =>
      rw [hread, Option.getD_some]
      exact receive_heard h
    case h_2 => cases h

theorem drainStep_timeout : (r.drainStep indexEOF).timeout = r.timeout := by
  unfold drainStep
  split
  · dsimp only
    split
    · split <;> rfl
    · rfl
  · rfl

theorem drain_timeout : (drain fuel r).timeout = r.timeout := by
  induction fuel generalizing r with
  | zero => rfl
  | succ fuel ih =>
    unfold drain
    split
    · exact ih.trans drainStep_timeout
    · rfl

theorem trim_timeout (h : r.trim = .ok r') : r'.timeout = r.timeout := by
  unfold trim at h
  split at h
  · split at h
    · cases h
    · cases h
      rfl
    · cases h
      rfl
  · cases h
    rfl

theorem receive_timeout (h : r.receive data = .ok r') : r'.timeout = r.timeout := by
  unfold receive at h
  dsimp only at h
  split at h
  · exact (trim_timeout h).trans drain_timeout
  · cases h
    rfl

end Reception

-- ---------------------------------------------------------------------------
-- What a read leaves
-- ---------------------------------------------------------------------------

theorem openLine_of_notMem (h : cr ∉ t) : openLine t = t := by
  rw [openLine, lines_of_notMem h, lastLine_of_notMem h]
  rfl

theorem openLine_append_of_mem (h : cr ∈ v) : openLine (u ++ cr :: v) = openLine v := by
  obtain ⟨p, q, rfl⟩ := List.append_of_mem h
  have hlast : (lines cr (u ++ cr :: (p ++ cr :: q))).getLast? =
      (lines cr (p ++ cr :: q)).getLast? := by
    simp only [lines_append_cons, List.getLast?_append, List.getLast?_cons]
    rfl
  rw [openLine, openLine, hlast, lastLine_append_cons]

theorem openLine_append_of_notMem (h : cr ∉ v) :
    openLine (u ++ cr :: v) =
      if (find startFrame (lastLine cr u)).isSome then v else unprefixed v := by
  have hlast : (lines cr (u ++ cr :: v)).getLast? = some (lastLine cr u) := by
    rw [lines_append_cons, lines_of_notMem h, List.getLast?_append]
    rfl
  rw [openLine, hlast, lastLine_append_cons, lastLine_of_notMem h]

theorem openLine_frame (h : cr ∉ body) :
    openLine (before ++ (startFrame ++ body) ++ cr :: v) = openLine v := by
  by_cases hv : cr ∈ v
  · exact openLine_append_of_mem hv
  · have hsome : (find startFrame (lastLine cr (before ++ (startFrame ++ body)))).isSome := by
      rw [Option.isSome_iff_ne_none, ne_eq, find_eq_none_iff_absent, not_not,
        lastLine_append (by simp [h, cr_notMem_startFrame])]
      exact ⟨lastLine cr before, body, by simp⟩
    rw [openLine_append_of_notMem hv, if_pos hsome, openLine_of_notMem hv]

/-- A prefix that comes first, and on the unended line, is lost. -/
theorem openLine_prefixed (hbefore : cr ∈ before) (h : cr ∉ body)
    (hfirst : find startFrame (before ++ (startFrame ++ body)) = some before.length) :
    openLine (before ++ (startFrame ++ body)) = body := by
  induction before using line_induction (a := cr) with
  | last before hcr => exact absurd hbefore hcr
  | next u before hu ih =>
    have hdrop : (u ++ cr :: before ++ (startFrame ++ body)).drop (u.length + 1) =
        before ++ (startFrame ++ body) := by
      rw [List.append_assoc, ← List.drop_drop, List.drop_left]
      rfl
    have hnext := find_drop hfirst (n := u.length + 1) (by simp)
    have hlength : (u ++ cr :: before).length - (u.length + 1) = before.length := by
      simp only [List.length_append, List.length_cons]
      omega
    rw [hdrop, hlength] at hnext
    have hassoc : u ++ cr :: before ++ (startFrame ++ body) =
        u ++ cr :: (before ++ (startFrame ++ body)) := by
      rw [List.append_assoc, List.cons_append]
    by_cases hmem : cr ∈ before
    · rw [hassoc, openLine_append_of_mem (List.mem_append_left _ hmem), ih hmem hnext]
    · have hnone : find startFrame u = none := by
        refine Option.eq_none_iff_forall_ne_some.mpr fun i hi => ?_
        have htake : (u ++ cr :: before ++ (startFrame ++ body)).take u.length = u := by
          rw [hassoc, List.take_left]
        rw [← htake, find_take (by decide), hfirst, Option.some.injEq] at hi
        simp only [List.length_append, List.length_cons] at hi
        omega
      have hopen : cr ∉ before ++ (startFrame ++ body) := by simp [hmem, h, cr_notMem_startFrame]
      rw [hassoc, openLine_append_of_notMem hopen, lastLine_of_notMem hu, hnone,
        if_neg (by decide)]
      simp only [unprefixed, hnext]
      rw [← List.drop_drop, List.drop_left, List.drop_left]

theorem unprefixed_of_none (h : find startFrame t = none) : unprefixed t = t := by
  simp only [unprefixed, h]

namespace Reception

theorem drainStep_openLine (hEOF : find [cr] r.receivedPacket = some indexEOF) :
    openLine (r.drainStep indexEOF).receivedPacket = openLine r.receivedPacket := by
  obtain ⟨hu, hsplit⟩ := find_singleton_split hEOF
  rw [drainStep]
  cases hheader : find startFrame r.receivedPacket with
  | none =>
    have hlater : find startFrame (r.receivedPacket.drop (indexEOF + 1)) = none :=
      find_eq_none_iff_absent.mpr fun hin =>
        find_eq_none_iff_absent.mp hheader (hin.trans (List.drop_suffix _ _).isInfix)
    dsimp only
    generalize r.receivedPacket.take indexEOF = line at hu hsplit
    generalize r.receivedPacket.drop (indexEOF + 1) = rest at hsplit hlater ⊢
    rw [hsplit]
    by_cases hrest : cr ∈ rest
    · exact (openLine_append_of_mem hrest).symm
    · rw [openLine_append_of_notMem hrest, unprefixed_of_none hlater, ite_self,
        openLine_of_notMem hrest]
  | some indexHeader =>
    have hi : indexHeader ≤ r.receivedPacket.length :=
      Nat.le_trans (Nat.le_add_right _ _) (le_of_find hheader)
    have hpacket : r.receivedPacket = r.receivedPacket.take indexHeader ++ (startFrame ++
        r.receivedPacket.drop (indexHeader + startFrame.length)) := by
      rw [← drop_of_find hheader, List.take_append_drop]
    have hlength := List.length_take_of_le hi
    dsimp only
    generalize r.receivedPacket.drop (indexHeader + startFrame.length) = packet at hpacket ⊢
    generalize r.receivedPacket.take indexHeader = before at hpacket hlength
    cases hnext : find [cr] packet with
    | none =>
      have hcr := find_singleton_eq_none_iff.mp hnext
      have hmem : cr ∈ before := by
        have hin : cr ∈ r.receivedPacket := by
          rw [hsplit]
          simp
        rw [hpacket] at hin
        simpa [hcr, cr_notMem_startFrame] using hin
      dsimp only
      rw [openLine_of_notMem hcr, hpacket,
        openLine_prefixed hmem hcr (by rw [← hpacket, hheader, hlength])]
    | some indexNext =>
      obtain ⟨hbody, hrest⟩ := find_singleton_split hnext
      have hwhole : r.receivedPacket = before ++ (startFrame ++ packet.take indexNext) ++
          cr :: packet.drop (indexNext + 1) := by
        conv_lhs => rw [hpacket, hrest]
        simp only [List.append_assoc]
      rw [hwhole, openLine_frame hbody]
      dsimp only
      split <;> rfl

theorem drain_packet (h : r.receivedPacket.length ≤ fuel) :
    (drain fuel r).receivedPacket = openLine r.receivedPacket := by
  induction fuel generalizing r with
  | zero =>
    have hnil := List.length_eq_zero_iff.mp (Nat.le_zero.mp h)
    rw [drain, hnil, openLine_of_notMem List.not_mem_nil]
  | succ fuel ih =>
    rw [drain]
    cases hEOF : find [cr] r.receivedPacket with
    | none => exact (openLine_of_notMem (find_singleton_eq_none_iff.mp hEOF)).symm
    | some indexEOF =>
      have hshorter := r.drainStep_length hEOF
      exact (ih (by omega)).trans (drainStep_openLine hEOF)

theorem trim_packet (h : r.trim = .ok r') : r'.receivedPacket = shortened r.receivedPacket := by
  rw [shortened]
  unfold trim at h
  split at h
  case isTrue hlong =>
    rw [if_pos hlong]
    split at h
    case h_1 => cases h
    case h_2 hstart =>
      cases h
      rw [hstart]
    case h_3 i hne hfound =>
      cases h
      rw [hfound]
      cases i with
      | zero => exact absurd rfl hne
      | succ i => rfl
  case isFalse hshort =>
    cases h
    rw [if_neg hshort]

theorem receive_packet (h : r.receive data = .ok r') :
    r'.receivedPacket = remembered (r.receivedPacket ++ data.map toCapital) := by
  generalize hpacket : r.receivedPacket ++ data.map toCapital = packet
  rw [remembered]
  cases hheader : find startFrame packet with
  | none =>
    simp only [Reception.receive, hpacket, hheader, Except.ok.injEq] at h
    subst h
    dsimp only
    split
    · rfl
    · rw [lastBytes, Nat.sub_eq_zero_of_le (by omega), List.drop_zero]
  | some indexHeader =>
    rw [receive_header hpacket hheader] at h
    rw [trim_packet h]
    exact congrArg shortened
      (drain_packet (r := { r with receivedPacket := packet.drop indexHeader }) le_rfl)

theorem iteration_packet (poll : Read) (h : r.iteration poll = .ok r') :
    r'.receivedPacket =
      if poll.val.data = [] then r.receivedPacket
      else remembered (r.receivedPacket ++ poll.val.data.map toCapital) := by
  unfold iteration at h
  split at h
  case isTrue hidle =>
    have hdata : poll.val.data = [] := by rw [Poll.data, if_pos hidle]
    rw [if_pos hdata]
    cases h
    split <;> rfl
  case isFalse hsome =>
    obtain ⟨data, hread, hlength⟩ := poll.property hsome
    have hdata : poll.val.data = data := by rw [Poll.data, if_neg hsome, hread, Option.getD_some]
    have hne : data ≠ [] := by
      rintro rfl
      have hasked : askedBytes poll.val.dataAvailable ≠ 0 := by
        unfold askedBytes cmdBuffSize
        split <;> omega
      exact hasked hlength.symm
    rw [hread] at h
    rw [hdata, if_neg hne]
    exact receive_packet h

end Reception

-- ---------------------------------------------------------------------------
-- The first frame
-- ---------------------------------------------------------------------------

namespace FrameIn

theorem append (h : FrameIn t before body after) (v : List UInt8) :
    FrameIn (t ++ v) before body (after ++ v) where
  text_eq := by
    rw [h.text_eq]
    simp only [List.append_assoc, List.cons_append]
  cr_notMem := h.cr_notMem
  short := h.short

theorem append_left (h : FrameIn t before body after) (u : List UInt8) :
    FrameIn (u ++ t) (u ++ before) body after where
  text_eq := by
    rw [h.text_eq]
    simp only [List.append_assoc]
  cr_notMem := h.cr_notMem
  short := h.short

theorem of_append (h : FrameIn (t ++ v) before body (after ++ v)) :
    FrameIn t before body after where
  text_eq := by
    refine List.append_cancel_right (show t ++ v = _ ++ v from ?_)
    rw [h.text_eq]
    simp only [List.append_assoc, List.cons_append]
  cr_notMem := h.cr_notMem
  short := h.short

theorem after_le (h : FrameIn t before body after) (h' : FrameIn t before' body' after')
    (hle : before.length ≤ before'.length) : after'.length ≤ after.length := by
  by_contra hlt
  have hin : ∀ i, before.length ≤ i → i < (before ++ (startFrame ++ body)).length →
      t[i]? ≠ some cr := by
    intro i hi hlt hget
    rw [h.text_eq, ← List.append_assoc, List.getElem?_append_left (by simpa using hlt),
      List.getElem?_append_right hi] at hget
    rcases List.mem_append.mp (List.mem_of_getElem? hget) with hmem | hmem
    · exact cr_notMem_startFrame hmem
    · exact h.cr_notMem hmem
  have hlength := congrArg List.length (h.text_eq.symm.trans h'.text_eq)
  refine hin (before' ++ (startFrame ++ body')).length ?_ ?_ ?_
  · rw [List.length_append]
    omega
  · simp only [List.length_append, List.length_cons] at hlength ⊢
    omega
  · rw [h'.text_eq, ← List.append_assoc, List.getElem?_append_right le_rfl]
    simp

theorem exists_first (h : FrameIn t before body after) :
    ∃ before' body' after', FirstFrame t before' body' after' := by
  induction hn : before.length using Nat.strongRecOn generalizing before body after with
  | ind n ih =>
    by_cases hfirst : ∃ before' body' after', FrameIn t before' body' after' ∧ before'.length < n
    · obtain ⟨before', body', after', h', hlt⟩ := hfirst
      exact ih _ hlt h' rfl
    · refine ⟨before, body, after, h, fun before' body' after' h' => ?_⟩
      by_contra hlt
      exact hfirst ⟨before', body', after', h', by omega⟩

end FrameIn

namespace FirstFrame

theorem unique (h : FirstFrame t before body after) (h' : FirstFrame t before' body' after') :
    body = body' := by
  have hlength := Nat.le_antisymm (h.first _ _ _ h'.toFrameIn) (h'.first _ _ _ h.toFrameIn)
  obtain ⟨-, hrest⟩ := List.append_inj (h.text_eq.symm.trans h'.text_eq) hlength
  simp only [List.append_assoc, List.append_cancel_left_eq] at hrest
  have hEOF := find_singleton_append (t := after) h.cr_notMem
  rw [hrest, find_singleton_append h'.cr_notMem, Option.some.injEq] at hEOF
  exact (List.append_inj hrest hEOF.symm).1

theorem append (h : FirstFrame t before body after) (v : List UInt8) :
    FirstFrame (t ++ v) before body (after ++ v) where
  toFrameIn := h.toFrameIn.append v
  first before' body' after' h' := by
    by_contra hlt
    have hle := h'.after_le (h.toFrameIn.append v) (Nat.le_of_not_le hlt)
    have hsuffix : after ++ v <:+ after' := by
      refine List.suffix_of_suffix_length_le (show _ <:+ t ++ v from ?_) ?_ hle
      · rw [(h.toFrameIn.append v).text_eq]
        exact ((List.suffix_cons _ _).trans (List.suffix_append _ _)).trans (List.suffix_append _ _)
      · rw [h'.text_eq]
        exact ((List.suffix_cons _ _).trans (List.suffix_append _ _)).trans (List.suffix_append _ _)
    obtain ⟨rest, rfl⟩ := hsuffix
    rw [← List.append_assoc] at h'
    exact hlt (h.first _ _ _ h'.of_append)

end FirstFrame

/-- What is held still has the prefix of a frame that ends in it, and no other prefix before
it on its line. -/
def Held (packet body after : List UInt8) : Prop :=
  ∃ held, packet = held ++ (startFrame ++ body ++ cr :: after) ∧
    find startFrame (lastLine cr held ++ startFrame) = some (lastLine cr held).length

theorem lineBody_lastLine_iff (hcr : cr ∉ body) (hshort : body.length ≤ serialFrameSize) :
    lineBody (lastLine cr p) = some body ↔ Held (p ++ cr :: after) body after := by
  have hbody : cr ∉ startFrame ++ body := by simp [hcr, cr_notMem_startFrame]
  constructor
  · intro h
    obtain ⟨before, hline, hheader, -⟩ := lineBody_eq_some h
    obtain ⟨u, hu⟩ := lastLine_suffix (a := cr) (t := p)
    rw [hline] at hu hheader
    have hlast : lastLine cr (u ++ before) = before := by
      refine List.append_cancel_right (show _ ++ (startFrame ++ body) = _ from ?_)
      rw [← lastLine_append hbody, List.append_assoc, hu, hline]
    refine ⟨u ++ before, ?_, ?_⟩
    · rw [← hu]
      simp only [List.append_assoc]
    · rw [hlast]
      exact (find_append_iff (by decide)).mp hheader
  · rintro ⟨held, hpacket, hheader⟩
    rw [← List.append_assoc] at hpacket
    rw [List.append_cancel_right hpacket, lastLine_append hbody,
      lineBody_of_find ((find_append_iff (by decide)).mpr hheader), if_pos hshort]

theorem FirstFrame.lastBody_iff (h : FirstFrame (u ++ (p ++ cr :: after)) before body after) :
    lastBody (p ++ cr :: after) = some body ↔
      match lastBody after with
      | some late => late = body
      | none => Held (p ++ cr :: after) body after := by
  -- a frame that ends before it would be an earlier one
  have hnone : lastBody p = none := by
    refine Option.eq_none_iff_forall_ne_some.mpr fun early hearly => ?_
    obtain ⟨before', after', hframe⟩ := mem_bodies (List.mem_of_getLast? hearly)
    have hframe := (hframe.append (cr :: after)).append_left u
    have hle := h.toFrameIn.after_le hframe (h.first _ _ _ hframe)
    rw [List.length_append, List.length_cons] at hle
    omega
  rw [lastBody_append_cons, hnone, Option.or_none]
  cases lastBody after with
  | some late => simp
  | none => exact lineBody_lastLine_iff h.cr_notMem h.short

-- ---------------------------------------------------------------------------
-- The receiver over its reads
-- ---------------------------------------------------------------------------

/-- The read that completes the first frame brings no other behind it, or one with
the same body last, and finds its prefix still left. -/
def Stream.Steady (s : Stream) (poll : Read) : Prop :=
  (∀ before body after, ¬FrameIn s.seen before body after) → ∀ before body after,
    FirstFrame (s.seen ++ poll.val.data.map toCapital) before body after →
      match lastBody after with
      | some late => late = body
      | none => Held (s.kept ++ poll.val.data.map toCapital) body after

def Steady (reads : List Read) : Prop := Along Stream.step Stream.Steady ⟨[], []⟩ reads

namespace Receiving

/-- The first frame has been delivered as soon as it was complete. -/
structure Right (s : Receiving) : Prop where
  delivered : ∀ before body after, FirstFrame s.seen before body after →
    s.reception.isFrame = true ∧ s.reception.p64Buffer.read 0 s.reception.retValue = body
  waiting : (∀ before body after, ¬FrameIn s.seen before body after) → s.reception.isFrame = false

def Sound (s : Receiving) : Prop :=
  s.reception.isFrame = false →
    s.reception.receivedPacket = s.kept ∧
      s.reception.Bounded ∧ ∃ p64Buffer, s.reception.Honest p64Buffer s.seen

theorem step_of_isFrame (poll : Read) (h : s.reception.isFrame = true) :
    (s.step poll).reception = s.reception := by
  rw [step, if_pos h]

theorem Sound.step_of_waiting (hsound : s.Sound) (h : s.reception.isFrame = false) (poll : Read) :
    s.reception.iteration poll = .ok (s.step poll).reception ∧ (s.step poll).Sound ∧
      s.reception.Heard (s.step poll).reception
        (lastBody (s.reception.receivedPacket ++ poll.val.data.map toCapital)) := by
  obtain ⟨hkept, hbounded, p64Buffer, hhonest⟩ := hsound h
  obtain ⟨r', -, hiter, hbounded', hhonest'⟩ :=
    Reception.iterationStd_eq hbounded hhonest poll.property
  have hstep : (s.step poll).reception = r' := by
    rw [Receiving.step, if_neg (by rw [h]; decide), hiter]
  have hkept' : r'.receivedPacket = (s.step poll).kept := by
    rw [Reception.iteration_packet poll hiter, hkept]
    rfl
  rw [hstep]
  refine ⟨hiter, fun _ => ?_, Reception.iteration_heard hbounded hiter⟩
  rw [hstep]
  exact ⟨hkept', hbounded', p64Buffer, hhonest'⟩

theorem Sound.step (h : s.Sound) (poll : Read) : (s.step poll).Sound := by
  cases hframe : s.reception.isFrame with
  | false => exact (h.step_of_waiting hframe poll).2.1
  | true =>
    intro hwaits
    rw [step_of_isFrame poll hframe] at hwaits
    exact absurd (hframe.symm.trans hwaits) (by decide)

theorem after_suffix {seen : List UInt8}
    (hnone : ∀ before body after, ¬FrameIn seen before body after)
    (h : FrameIn (seen ++ p) before body after) : cr :: after <:+ p := by
  have hframe : cr :: after <:+ seen ++ p := by
    rw [h.text_eq]
    exact (List.suffix_append _ _).trans (List.suffix_append _ _)
  rcases List.suffix_or_suffix_of_suffix hframe (List.suffix_append seen p) with hin | hover
  · exact hin
  · rcases List.suffix_cons_iff.mp hover with rfl | ⟨early, rfl⟩
    · exact List.suffix_rfl
    · exact absurd h.of_append (hnone _ _ _)

theorem Right.none_of_waiting (h : s.Right) (hwaits : s.reception.isFrame = false) :
    ∀ before body after, ¬FrameIn s.seen before body after := by
  intro before body after hframe
  obtain ⟨before', body', after', hfirst⟩ := hframe.exists_first
  exact absurd ((h.delivered _ _ _ hfirst).1.symm.trans hwaits) (by decide)

theorem Right.step_of_isFrame (h : s.Right) (hframe : s.reception.isFrame = true) :
    (s.step poll).Right := by
  have hsome : ∃ before body after, FrameIn s.seen before body after := by
    by_contra hnone
    have hwaits := h.waiting fun before body after hin => hnone ⟨before, body, after, hin⟩
    exact absurd (hframe.symm.trans hwaits) (by decide)
  obtain ⟨_, _, _, hin⟩ := hsome
  obtain ⟨before, body, after, hfirst⟩ := hin.exists_first
  have hlater := hfirst.append (poll.val.data.map toCapital)
  constructor
  · intro before' body' after' hfirst'
    rw [Receiving.step_of_isFrame _ hframe, hfirst'.unique hlater]
    exact h.delivered _ _ _ hfirst
  · exact fun hnone => absurd hlater.toFrameIn (hnone _ _ _)

/-- Of one read, whether the first frame of all that has come is delivered. -/
theorem right_step_iff (hsound : s.Sound) (hright : s.Right) :
    (s.step poll).Right ↔ s.toStream.Steady poll := by
  cases hwaits : s.reception.isFrame with
  | true =>
    refine iff_of_true (hright.step_of_isFrame hwaits) fun hnone => ?_
    exact absurd (hwaits.symm.trans (hright.waiting hnone)) (by decide)
  | false =>
    obtain ⟨-, -, hheard⟩ := hsound.step_of_waiting hwaits poll
    obtain ⟨hkept, -, p64Buffer, hhonest⟩ := hsound hwaits
    obtain ⟨u, hu⟩ := hhonest.suffix
    rw [hkept] at hheard hu
    have hnone := hright.none_of_waiting hwaits
    have hseen : s.seen ++ poll.val.data.map toCapital =
        u ++ (s.kept ++ poll.val.data.map toCapital) := by
      rw [← hu, List.append_assoc]
    have hlast : ∀ before body after,
        FirstFrame (s.seen ++ poll.val.data.map toCapital) before body after →
          (lastBody (s.kept ++ poll.val.data.map toCapital) = some body ↔
            match lastBody after with
            | some late => late = body
            | none => Held (s.kept ++ poll.val.data.map toCapital) body after) := by
      intro before body after hfirst
      obtain ⟨p, hp⟩ := after_suffix hnone hfirst.toFrameIn
      have hpacket : s.kept ++ poll.val.data.map toCapital = s.kept ++ p ++ cr :: after := by
        rw [← hp, List.append_assoc]
      rw [hseen, hpacket] at hfirst
      rw [hpacket]
      exact hfirst.lastBody_iff
    constructor
    · intro hnext _ before body after hfirst
      refine (hlast _ _ _ hfirst).mp ?_
      obtain ⟨hframe, hread⟩ := hnext.delivered _ _ _ hfirst
      cases ho : lastBody (s.kept ++ poll.val.data.map toCapital) with
      | none =>
        rw [ho] at hheard
        exact absurd (hframe.symm.trans (hheard.1.trans hwaits)) (by decide)
      | some late =>
        rw [ho] at hheard
        rw [← hread, hheard.2]
    · intro hsteady
      constructor
      · intro before body after hfirst
        rw [(hlast _ _ _ hfirst).mpr (hsteady hnone _ _ _ hfirst)] at hheard
        exact hheard
      · intro hnoneNext
        have ho : lastBody (s.kept ++ poll.val.data.map toCapital) = none := by
          refine Option.eq_none_iff_forall_ne_some.mpr fun late hlate => ?_
          obtain ⟨before, after, hin⟩ := mem_bodies (List.mem_of_getLast? hlate)
          refine hnoneNext (u ++ before) late after ?_
          change FrameIn (s.seen ++ _) _ _ _
          rw [hseen]
          exact hin.append_left u
        rw [ho] at hheard
        exact hheard.1.trans hwaits

theorem right_iff_steady {reads : List Read} (hsound : s.Sound) (hright : s.Right) :
    Always step Right s reads ↔ Along Stream.step Stream.Steady s.toStream reads :=
  (always_iff_along_of_inv hsound (fun _ poll h => h.step poll) hright
    fun _ _ => right_step_iff).trans (along_map fun _ _ => rfl)

theorem exec_of_isFrame {reads : List Read} (h : s.reception.isFrame = true) :
    (exec step s reads).reception = s.reception := by
  induction reads generalizing s with
  | nil => rfl
  | cons poll reads ih =>
    have hstep := step_of_isFrame poll h
    rw [exec_cons, ih (by rw [hstep, h]), hstep]

theorem exec_seen {reads : List Read} : (exec step s reads).seen = s.seen ++ text reads := by
  induction reads generalizing s with
  | nil => simp [text, delivered]
  | cons poll reads ih =>
    rw [exec_cons, ih, step, Stream.step, List.append_assoc]
    simp [text, delivered]

/-- The loop stops at the first read that brings a frame. -/
theorem loop_eq_exec {reads : List Read} (hsound : s.Sound) (hwaits : s.reception.isFrame = false)
    (hlasts : Lasts s.reception.timeout (reads.map Subtype.val)) :
    loop s.reception (reads.map Subtype.val) =
      if (exec step s reads).reception.isFrame then some (.ok (exec step s reads).reception)
      else none := by
  induction reads generalizing s with
  | nil =>
    rw [exec_nil, hwaits]
    rfl
  | cons poll reads ih =>
    obtain ⟨hiter, hsound', -⟩ := hsound.step_of_waiting hwaits poll
    rw [List.map_cons] at hlasts ⊢
    have hlasts' : Lasts (s.step poll).reception.timeout (reads.map Subtype.val) := by
      by_cases hidle : poll.val.dataAvailable = 0
      · obtain ⟨r', hiter', -, -, -, hlasts'⟩ := s.reception.iteration_idle hidle hlasts
        cases hiter.symm.trans hiter'
        exact hlasts'
      · obtain ⟨data, hread, -⟩ := poll.property hidle
        rw [Reception.iteration, if_neg hidle, hread] at hiter
        rw [Reception.receive_timeout hiter]
        exact hlasts.of_cons
    rw [loop, hiter, exec_cons]
    cases hframe : (s.step poll).reception.isFrame with
    | true =>
      rw [exec_of_isFrame hframe]
      simp [hframe]
    | false =>
      simp only [hframe, hlasts'.ne_zero, ne_eq, not_false_eq_true, Bool.false_eq_true, and_self,
        if_true]
      exact ih hsound' hframe hlasts'

end Receiving

def returned (p64Buffer : Memory UInt8) (timeout : Nat) (reads : List Read) :
    Option (Except Fault (List UInt8)) :=
  (receiveALTOFrame true true p64Buffer timeout (reads.map Subtype.val)).map
    (Except.map fun r => r.p64Buffer.read 0 r.retValue)

/-- The routine returns with the first frame of the text, and waits while there is none. -/
structure ReturnsFirst (p64Buffer : Memory UInt8) (timeout : Nat) (reads : List Read) : Prop where
  found : ∀ before body after, FirstFrame (text reads) before body after →
    returned p64Buffer timeout reads = some (.ok body)
  silent : (∀ before body after, ¬FrameIn (text reads) before body after) →
    returned p64Buffer timeout reads = none

def Receiving.start (timeout : Nat) (p64Buffer : Memory UInt8) : Receiving where
  seen := []
  kept := []
  reception := .start timeout p64Buffer

variable {p64Buffer : Memory UInt8} {timeout : Nat} {reads ks : List Read}

theorem Receiving.Sound.start : (Receiving.start timeout p64Buffer).Sound :=
  fun _ => ⟨rfl, .start, p64Buffer, .start⟩

theorem not_frameIn_nil : ¬FrameIn [] before body after := by
  intro h
  have hlength := congrArg List.length h.text_eq
  simp at hlength

theorem Receiving.Right.start : (Receiving.start timeout p64Buffer).Right where
  delivered _ _ _ h := absurd h.toFrameIn not_frameIn_nil
  waiting _ := rfl

theorem Lasts.of_prefix {polls polls' : List Poll} (h : Lasts timeout polls)
    (hle : polls' <+: polls) :
    Lasts timeout polls' :=
  h.imp_right (Nat.lt_of_le_of_lt hle.sublist.countP_le)

theorem returned_eq (p64Buffer : Memory UInt8) (hlasts : Lasts timeout (reads.map Subtype.val)) :
    returned p64Buffer timeout reads =
      if (exec Receiving.step (.start timeout p64Buffer) reads).reception.isFrame then
        some (.ok ((exec Receiving.step (.start timeout p64Buffer) reads).reception.p64Buffer.read 0
          (exec Receiving.step (.start timeout p64Buffer) reads).reception.retValue))
      else none := by
  have hloop := Receiving.loop_eq_exec (s := .start timeout p64Buffer) .start rfl hlasts
  rw [returned, receiveALTOFrame, if_pos ⟨rfl, rfl⟩]
  refine (congrArg (Option.map _) hloop).trans ?_
  split <;> rfl

theorem returnsFirst_iff (hlasts : Lasts timeout (reads.map Subtype.val)) :
    ReturnsFirst p64Buffer timeout reads ↔
      (exec Receiving.step (.start timeout p64Buffer) reads).Right := by
  have hseen : (exec Receiving.step (.start timeout p64Buffer) reads).seen = text reads :=
    Receiving.exec_seen.trans (List.nil_append _)
  have hreturned := returned_eq p64Buffer hlasts
  generalize exec Receiving.step (.start timeout p64Buffer) reads = s at hseen hreturned
  cases hframe : s.reception.isFrame with
  | true =>
    rw [hframe, if_pos rfl] at hreturned
    constructor
    · intro h
      refine ⟨fun before body after hfirst => ⟨hframe, ?_⟩, fun hnone => ?_⟩
      · have hfound := h.found before body after (hseen ▸ hfirst)
        rw [hreturned, Option.some.injEq, Except.ok.injEq] at hfound
        exact hfound
      · have hsilent := h.silent (hseen ▸ hnone)
        rw [hreturned] at hsilent
        cases hsilent
    · intro h
      refine ⟨fun before body after hfirst => ?_, fun hnone => ?_⟩
      · rw [hreturned, (h.delivered before body after (hseen ▸ hfirst)).2]
      · exact absurd (hframe.symm.trans (h.waiting (hseen ▸ hnone))) (by decide)
  | false =>
    rw [hframe, if_neg Bool.false_ne_true] at hreturned
    constructor
    · intro h
      refine ⟨fun before body after hfirst => ?_, fun _ => hframe⟩
      have hfound := h.found before body after (hseen ▸ hfirst)
      rw [hreturned] at hfound
      cases hfound
    · intro h
      refine ⟨fun before body after hfirst => ?_, fun _ => hreturned⟩
      exact absurd ((h.delivered before body after (hseen ▸ hfirst)).1.symm.trans hframe) (by decide)

/-- After every read it has returned exactly if the first frame is complete, and with its body. -/
def Delivers (p64Buffer : Memory UInt8) (timeout : Nat) (reads : List Read) : Prop :=
  ∀ ks, ks <+: reads → ReturnsFirst p64Buffer timeout ks

theorem delivers_iff_steady (hlasts : Lasts timeout (reads.map Subtype.val)) :
    Delivers p64Buffer timeout reads ↔ Steady reads :=
  (forall₂_congr fun _ hks => returnsFirst_iff (hlasts.of_prefix (hks.map _))).trans
    (Receiving.right_iff_steady (s := .start timeout p64Buffer) .start .start)

theorem ReturnsFirst.congr {p64Buffer' : Memory UInt8} {timeout' : Nat} {reads' : List Read}
    (h : ReturnsFirst p64Buffer timeout reads) (h' : ReturnsFirst p64Buffer' timeout' reads')
    (hsame : text reads = text reads') :
    returned p64Buffer timeout reads = returned p64Buffer' timeout' reads' := by
  by_cases hsome : ∃ before body after, FrameIn (text reads) before body after
  · obtain ⟨_, _, _, hin⟩ := hsome
    obtain ⟨before, body, after, hfirst⟩ := hin.exists_first
    rw [h.found _ _ _ hfirst, h'.found _ _ _ (hsame ▸ hfirst)]
  · have hnone : ∀ before body after, ¬FrameIn (text reads) before body after :=
      fun before body after hin => hsome ⟨before, body, after, hin⟩
    rw [h.silent hnone, h'.silent (hsame ▸ hnone)]

/-- Two ways to cut a text into reads give the first frame, and the same, exactly
when in both the read that completes it is steady. -/
theorem first_frame_iff_steady (p64Buffer p64Buffer' : Memory UInt8) (timeout timeout' : Nat)
    (reads reads' : List Read) (hlasts : Lasts timeout (reads.map Subtype.val))
    (hlasts' : Lasts timeout' (reads'.map Subtype.val)) (hsame : text reads = text reads') :
    (Delivers p64Buffer timeout reads ∧ Delivers p64Buffer' timeout' reads' ∧
        returned p64Buffer timeout reads = returned p64Buffer' timeout' reads') ↔
      Steady reads ∧ Steady reads' := by
  rw [← delivers_iff_steady hlasts, ← delivers_iff_steady hlasts']
  refine and_congr_right fun h => and_iff_left_of_imp fun h' => ?_
  exact (h reads List.prefix_rfl).congr (h' reads' List.prefix_rfl) hsame

theorem Poll.ofData_exact (h : data.length ≤ cmdBuffSize) : (Poll.ofData data).Exact := by
  intro _
  have hasked : askedBytes data.length = data.length := by
    unfold askedBytes
    split
    · rfl
    · omega
  refine ⟨data, ?_, hasked.symm⟩
  change some (data.take (askedBytes data.length)) = some data
  rw [hasked, List.take_length]

def Read.ofData (data : List UInt8) (h : data.length ≤ cmdBuffSize) : Read :=
  ⟨.ofData data, Poll.ofData_exact h⟩

/-- A frame of one character, in one read and in two. -/
theorem first_frame_iff_steady_one :
    let reads := [Read.ofData [97, 97, 53, 53, 49, 13] (by decide)]
    let reads' := [Read.ofData [97, 97, 53] (by decide), Read.ofData [53, 49, 13] (by decide)]
    (Delivers (fun _ => 0) 1 reads ∧ Delivers (fun _ => 0) 1 reads' ∧
        returned (fun _ => 0) 1 reads = returned (fun _ => 0) 1 reads') ↔
      Steady reads ∧ Steady reads' :=
  first_frame_iff_steady _ _ 1 1 _ _ (.inr (by decide)) (.inr (by decide)) (by decide)

/-- Two frames: in two reads the first of them is returned, in one read the second. -/
theorem second_frame_replaces_first :
    let first := [65, 65, 53, 53, 49, 13]
    let second := [65, 65, 53, 53, 50, 13]
    let apart := [Read.ofData first (by decide), Read.ofData second (by decide)]
    let together := [Read.ofData (first ++ second) (by decide)]
    text apart = text together ∧ FirstFrame (text together) [] [49] second ∧
      returned (fun _ => 0) 1 apart = some (.ok [49]) ∧
      returned (fun _ => 0) 1 together = some (.ok [50]) :=
  ⟨by decide, ⟨⟨by decide, by decide, by decide⟩, fun _ _ _ _ => Nat.zero_le _⟩, by decide +kernel,
    by decide +kernel⟩

end SystemMaster.Alto
