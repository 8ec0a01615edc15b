import SystemMaster.Tcp.Commands
import SystemMaster.Library.Segments

/-!
# Commands and the packets they come in

The stack may cut and join the bytes of a connection as it likes. The worker
takes each packet for a command of its own, so the commands sent are those
dispatched exactly when the packets are the frames.
-/

namespace SystemMaster.Tcp

open LittleEndian

structure Frame where
  command : Nat
  payload : List UInt8
  deriving DecidableEq, Repr

namespace Frame

def type (f : Frame) : UInt32 := UInt32.ofNat f.command ||| 0x80000000

def bytes (f : Frame) : List UInt8 := wordBytes f.type ++ f.payload

/-- The command is implemented, the payload is all there, and a packet can hold
the frame. -/
structure WellFormed (sdk : Sdk) (f : Frame) : Prop where
  implemented : ∃ h, (cmdTable sdk).lookup f.command = some h ∧
    h.payloadSize f.payload ≤ f.payload.length
  fits : f.bytes.length ≤ packetSize

end Frame

/-- The packets are made of the bytes of the frames, in whatever pieces. -/
structure Delivers (fs : List Frame) (rs : List Recv) : Prop where
  whole : (rs.map Recv.bytes).flatten = (fs.map Frame.bytes).flatten
  nonempty : ∀ r ∈ rs, r.bytes ≠ []
  fits : ∀ r ∈ rs, r.bytes.length ≤ packetSize

def calls (os : List Outcome) : List Call := os.filterMap Outcome.call?

def Call.request (c : Call) : Nat × List UInt8 × Int := (c.command, c.payload, c.size)

def Frame.request (f : Frame) : Nat × List UInt8 × Int := (f.command, f.payload, f.payload.length)

/-- The commands dispatched are those sent, each once and in order, and no
handler read more than was received for its command. -/
structure Faithful (fs : List Frame) (os : List Outcome) : Prop where
  dispatched : (calls os).map Call.request = fs.map Frame.request
  within : ∀ c ∈ calls os, c.reach ≤ c.payload.length

variable {sdk : Sdk} {env : Env} {buffer : Memory UInt8} {f : Frame} {fs : List Frame} {r : Recv}
  {rs : List Recv} {os : List Outcome} {o : Outcome} {c : Call} {n : Nat}

theorem request_eq_iff : c.request = f.request ↔
    c.command = f.command ∧ c.payload = f.payload ∧ c.size = f.payload.length := by
  rw [Call.request, Frame.request, Prod.mk.injEq, Prod.mk.injEq]

@[simp] theorem calls_nil : calls [] = [] := rfl

theorem calls_cons_called : calls (.called c :: os) = c :: calls os := rfl

theorem faithful_nil : Faithful [] [] := ⟨rfl, fun _ hc => absurd hc List.not_mem_nil⟩

theorem Faithful.cons (h : Faithful fs os) (hc : c.request = f.request)
    (hreach : c.reach ≤ c.payload.length) : Faithful (f :: fs) (.called c :: os) where
  dispatched := by rw [calls_cons_called, List.map_cons, List.map_cons, hc, h.dispatched]
  within := by
    rw [calls_cons_called]
    exact List.forall_mem_cons.mpr ⟨hreach, h.within⟩

theorem Frame.type_marked (f : Frame) : f.type &&& 0x80000000 ≠ 0 := by
  intro h
  have hbit := congrArg (fun w : UInt32 => w.toBitVec.getLsbD 31) h
  simp [Frame.type] at hbit

theorem Frame.type_command (h : f.command < cmdCount) :
    (f.type &&& 0x0FFFFFFF).toNat = f.command := by
  have hlt : f.command < 2 ^ 28 := h.trans (by decide)
  have hmod : (f.command ||| 0x80000000) % 2 ^ 28 = f.command := by
    rw [Nat.or_mod_two_pow, Nat.mod_eq_of_lt hlt]
    simp
  rw [Frame.type, UInt32.toNat_and, UInt32.toNat_or,
    UInt32.toNat_ofNat_of_lt' (hlt.trans (by decide))]
  change (f.command ||| 0x80000000) &&& (2 ^ 28 - 1) = f.command
  rw [Nat.and_two_pow_sub_one_eq_mod, hmod]

/-- A frame that is a packet is dispatched, whatever was in the buffer. -/
theorem decode_frame (buffer : Memory UInt8) (env : Env) (hf : f.WellFormed sdk) :
    ∃ c buffer', decode sdk env (buffer.write 0 f.bytes) f.bytes.length = (.called c, buffer') ∧
      c.request = f.request ∧ c.reach ≤ c.payload.length := by
  obtain ⟨h, hh, hn⟩ := hf.implemented
  have hread : (buffer.write 0 f.bytes).read 0 f.bytes.length = wordBytes f.type ++ f.payload :=
    Memory.read_write _ _ _
  have htype : word (buffer.write 0 f.bytes) 0 = f.type := by
    refine word_eq_of_read ?_
    rw [← wordBytes_length f.type, ← Memory.read_take (n := f.bytes.length) (by simp [Frame.bytes]),
      hread, List.take_left]
  have hpayload : (buffer.write 0 f.bytes).read 4 f.payload.length = f.payload := by
    have hpart := Memory.read_part _ _ [] (by rwa [List.append_nil])
    rwa [wordBytes_length, Nat.zero_add] at hpart
  have hsize : (f.bytes.length : Int) - 4 = f.payload.length := by
    rw [Frame.bytes, List.length_append, wordBytes_length]
    omega
  have hcommand : (word (buffer.write 0 f.bytes) 0 &&& 0x0FFFFFFF).toNat = f.command := by
    rw [htype, Frame.type_command (lt_cmdCount hh)]
  obtain ⟨p, hp⟩ : ∃ p, h.call env f.command (buffer.write 0 f.bytes) f.payload.length = p :=
    ⟨_, rfl⟩
  have hp1 : p.1.payload = f.payload := by rwa [← hp, Handler.call, Int.toNat_natCast]
  refine ⟨p.1, p.2, ?_, request_eq_iff.mpr ⟨?_, hp1, ?_⟩, ?_⟩
  · rw [decode_called (htype ▸ f.type_marked) hcommand hh, hsize, hp]
  · rw [← hp, Handler.call]
  · rw [← hp, Handler.call]
  · rw [hp1, ← hp]
    exact Handler.call_within hpayload hn

theorem length_of_called (hc : (decode sdk env buffer n).1 = .called c) :
    (c.size + 4).toNat = n := by
  rw [decode_size hc]
  omega

-- ---------------------------------------------------------------------------
-- Many packets
-- ---------------------------------------------------------------------------

theorem calls_lengths :
    ((calls (workerLoop sdk buffer rs)).map fun c => (c.size + 4).toNat).Sublist
      (rs.map fun r => r.bytes.length) := by
  induction rs generalizing buffer with
  | nil => exact List.nil_sublist _
  | cons r rs ih =>
    rw [workerLoop_cons, List.map_cons]
    have hrest : ∀ (b : Bool) (m : Memory UInt8),
        ((calls (if b then workerLoop sdk m rs else [])).map fun c => (c.size + 4).toNat).Sublist
          (rs.map fun r => r.bytes.length) := by
      intro b m
      cases b with
      | true => exact ih
      | false => exact List.nil_sublist _
    cases ho : (decode sdk r.env (buffer.write 0 r.bytes) r.bytes.length).1 with
    | called c =>
      rw [calls_cons_called, List.map_cons, length_of_called ho]
      exact (hrest _ _).cons_cons _
    | answered frame => exact (hrest _ _).cons _

theorem calls_length_le : (calls (workerLoop sdk buffer rs)).length ≤ rs.length := by
  have hlengths : List.Sublist (List.map _ (calls (workerLoop sdk buffer rs))) _ := calls_lengths
  have hle := hlengths.length_le
  rwa [List.length_map, List.length_map] at hle

def served : List Frame → List Frame
  | [] => []
  | f :: fs => f :: if f.command ≠ cmdReboot then served fs else []

theorem faithful_served (hfs : ∀ f ∈ fs, f.WellFormed sdk)
    (hrs : rs.map Recv.bytes = fs.map Frame.bytes) :
    Faithful (served fs) (workerLoop sdk buffer rs) := by
  induction fs generalizing buffer rs with
  | nil =>
    rw [List.map_nil, List.map_eq_nil_iff] at hrs
    subst hrs
    exact faithful_nil
  | cons f fs ih =>
    obtain ⟨r, rs, rfl, hr, hrs⟩ := List.map_eq_cons_iff.mp hrs
    obtain ⟨c, buffer', hdecode, hrequest, hreach⟩ :=
      decode_frame buffer r.env (hfs f List.mem_cons_self)
    have hreturns : (Outcome.called c).returns = decide (f.command ≠ cmdReboot) := by
      rw [← (request_eq_iff.mp hrequest).1, Outcome.returns]
    have hrest : Faithful (if f.command ≠ cmdReboot then served fs else [])
        (if (Outcome.called c).returns then workerLoop sdk buffer' rs else []) := by
      by_cases h : f.command ≠ cmdReboot
      · rw [hreturns, if_pos h, if_pos (decide_eq_true h)]
        exact ih (fun g hg => hfs g (List.mem_cons_of_mem _ hg)) hrs
      · rw [hreturns, if_neg h, decide_eq_false h]
        exact faithful_nil
    rw [workerLoop, served, hr, hdecode]
    exact hrest.cons hrequest hreach

theorem served_starts : served fs <+: fs := by
  induction fs with
  | nil => exact List.prefix_refl _
  | cons f fs ih =>
    rw [served, List.cons_prefix_cons]
    refine ⟨rfl, ?_⟩
    split
    · exact ih
    · exact List.nil_prefix

theorem served_eq_iff : served fs = fs ↔ ∀ f ∈ fs.dropLast, f.command ≠ cmdReboot := by
  induction fs with
  | nil => simp [served]
  | cons f fs ih =>
    cases fs with
    | nil => simp [served]
    | cons g fs =>
      rw [served, List.cons.injEq, List.dropLast_cons_cons, List.forall_mem_cons, ← ih]
      by_cases h : f.command ≠ cmdReboot
      · simp [h]
      · simp [h]

/-- The commands dispatched are those sent exactly when every packet is a frame
and no command follows a reboot. -/
theorem stream_faithful_iff (hfs : ∀ f ∈ fs, f.WellFormed sdk) (hd : Delivers fs rs) :
    Faithful fs (workerLoop sdk buffer rs) ↔
      rs.map Recv.bytes = fs.map Frame.bytes ∧ ∀ f ∈ fs.dropLast, f.command ≠ cmdReboot := by
  rw [← served_eq_iff]
  constructor
  · intro h
    have hlengths : (fs.map Frame.bytes).map List.length =
        (calls (workerLoop sdk buffer rs)).map fun c => (c.size + 4).toNat := by
      have hsizes := congrArg (List.map fun q => (q.2.2 + 4).toNat) h.dispatched
      rw [List.map_map, List.map_map] at hsizes
      rw [List.map_map]
      refine Eq.trans (List.map_congr_left fun f _ => ?_) hsizes.symm
      simp only [Function.comp_apply, Frame.request, Frame.bytes, List.length_append,
        wordBytes_length]
      omega
    have hrs : rs.map Recv.bytes = fs.map Frame.bytes := by
      refine Segments.eq_of_lengths hd.whole ?_ ?_
      · exact List.forall_mem_map.mpr hd.nonempty
      · rw [hlengths, List.map_map]
        exact calls_lengths
    refine ⟨hrs, served_starts.eq_of_length ?_⟩
    have hfaithful : Faithful (served fs) (workerLoop sdk buffer rs) := faithful_served hfs hrs
    have hserved := congrArg List.length hfaithful.dispatched
    have hall := congrArg List.length h.dispatched
    simpa [hall] using hserved.symm
  · rintro ⟨hrs, hserved⟩
    rw [← hserved]
    exact faithful_served (hserved ▸ hfs) hrs

def sdkMSP432E4 : Sdk where
  objNameLen := 32
  gpioCfgIOMask := 0x00ff0000
  gpioCfgInputs := [0x00010000, 0x00030000, 0x00050000]
  gpioCfgOutputs := [0x00000000, 0x00020000, 0x00040000, 0x00060000]
  folder_fits := by decide

def idleEnv : Env := ⟨fun _ => false, false, false⟩

def heartbeat : Frame := ⟨10, []⟩

def inputChannel3 : Frame := ⟨330, wordBytes 3 ++ wordBytes 0x00010000⟩

theorem heartbeat_wellFormed : heartbeat.WellFormed sdkMSP432E4 :=
  ⟨⟨getHeartBeat, rfl, Nat.zero_le _⟩, by decide⟩

theorem inputChannel3_wellFormed : inputChannel3.WellFormed sdkMSP432E4 :=
  ⟨⟨setDIODirection, rfl, by decide⟩, by decide⟩

theorem stream_faithful_apart :
    Faithful [inputChannel3, heartbeat] (workerLoop sdkMSP432E4 (fun _ => 0)
      [⟨inputChannel3.bytes, idleEnv⟩, ⟨heartbeat.bytes, idleEnv⟩]) := by
  refine (stream_faithful_iff ?_ ⟨rfl, ?_, ?_⟩).mpr ⟨rfl, by decide⟩
  · exact List.forall_mem_cons.mpr ⟨inputChannel3_wellFormed,
      List.forall_mem_singleton.mpr heartbeat_wellFormed⟩
  · simp [Frame.bytes, wordBytes, toBytes]
  · simp [Frame.bytes, inputChannel3, heartbeat, packetSize]

/-- Two commands that come in one packet: the second is lost. -/
theorem joined_frame_lost :
    (∀ f ∈ [heartbeat, heartbeat], f.WellFormed sdkMSP432E4) ∧
      Delivers [heartbeat, heartbeat] [⟨heartbeat.bytes ++ heartbeat.bytes, idleEnv⟩] ∧
      ¬Faithful [heartbeat, heartbeat] (workerLoop sdkMSP432E4 (fun _ => 0)
        [⟨heartbeat.bytes ++ heartbeat.bytes, idleEnv⟩]) := by
  refine ⟨by simp [heartbeat_wellFormed], ⟨rfl, by simp [Frame.bytes, wordBytes, toBytes], ?_⟩, ?_⟩
  · simp [Frame.bytes, heartbeat, packetSize]
  · intro h
    have hlength := congrArg List.length h.dispatched
    rw [List.length_map] at hlength
    exact absurd (hlength.symm.trans_le calls_length_le) (by decide)

end SystemMaster.Tcp
