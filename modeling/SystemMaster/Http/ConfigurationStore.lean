import SystemMaster.Library.LittleEndian
import SystemMaster.Library.Runs

/-!
# The configuration in the external flash

`URL_apiConfigurationNVS` stores what a client posts behind a header in sector 0
and sends it to a client that gets it. Power may be lost between two calls of
the NVS driver; a call is done or not done as a whole.
-/

namespace SystemMaster.Http

open LittleEndian Runs

/-- `sectorSize` and `regionSize` of `Board_NVSEXTERNAL`. -/
def sectorSize : Nat := 4096

def regionSize : Nat := 4096 * 16384

def urlBufferSize : Nat := 1024

def memzipSignature : UInt32 := 0x04034b50

/-- What `NVS_write` returns; one that fails may have stored its bytes. -/
inductive WriteResult where
  | success
  | failure (stored : Bool)
  deriving DecidableEq

def WriteResult.stored : WriteResult → Bool
  | .success => true
  | .failure stored => stored

inductive NvsCall where
  | erase (offset : Nat)
  | massErase (done : Bool)
  | write (offset : Nat) (bytes : List UInt8) (erasing : Bool) (result : WriteResult)

def eraseRange (m : Memory UInt8) (offset size : Nat) : Memory UInt8 := fun a =>
  if offset ≤ a ∧ a < offset + size then 0xFF else m a

/-- An erase of one sector is refused outside the region; a write that erases
erases the sectors it writes to. -/
def NvsCall.run (m : Memory UInt8) : NvsCall → Memory UInt8
  | .erase offset => if offset + sectorSize ≤ regionSize then eraseRange m offset sectorSize else m
  | .massErase done => if done then eraseRange m 0 regionSize else m
  | .write offset bytes erasing result =>
    if result.stored then
      let first := offset / sectorSize * sectorSize
      let last := (offset + bytes.length + sectorSize - 1) / sectorSize * sectorSize
      (if erasing then eraseRange m first (last - first) else m).write offset bytes
    else m

-- ---------------------------------------------------------------------------
-- POST
-- ---------------------------------------------------------------------------

/-- A request with what it meets: the pieces `recv` has returned so far, each with
the result of its write, the two bytes at the end of the header that no field has, and
the number of driver calls made before power is lost. -/
structure Post where
  body : List UInt8
  nonempty : 0 < body.length
  fits : body.length ≤ regionSize - sectorSize
  chunks : List (List UInt8 × WriteResult)
  chunk_pos : ∀ c ∈ chunks, 0 < c.1.length ∧ c.1.length ≤ urlBufferSize
  chunks_prefix : (chunks.map Prod.fst).flatten <+: body
  aircraftID : UInt32
  configRev : UInt32
  padding : UInt8 × UInt8
  massErased : Bool
  allocated : Bool
  headerResult : WriteResult
  cut : Nat

/-- `tURLHandlerHeader`; it is a local, and its last two bytes are what the stack held. -/
def header (aircraftID configRev uncompressedSize : UInt32) (padding : UInt8 × UInt8) :
    List UInt8 :=
  wordBytes aircraftID ++ wordBytes configRev ++ wordBytes memzipSignature ++
    List.replicate 18 0 ++ wordBytes uncompressedSize ++
      (List.replicate 4 0 ++ [padding.1, padding.2])

def writeChunks (fileSize memAddress : Nat) : List (List UInt8 × WriteResult) → List NvsCall × Bool
  | [] => ([], fileSize = 0)
  | (pbuffer, result) :: chunks =>
    if fileSize = 0 then ([], true)
    else
      let call := NvsCall.write memAddress pbuffer false result
      match result with
      | .success =>
        let (calls, received) :=
          writeChunks (fileSize - pbuffer.length) (memAddress + pbuffer.length) chunks
        (call :: calls, received)
      | .failure _ => ([call], false)

namespace Post

def erases (p : Post) : List NvsCall :=
  let numOfSectors := 1 + p.body.length / sectorSize
  (List.range (numOfSectors + 1)).map fun index => .erase (index * sectorSize)

def writes (p : Post) : List NvsCall × Bool :=
  if p.allocated then writeChunks p.body.length sectorSize p.chunks else ([], false)

def headerCall (p : Post) : NvsCall :=
  .write 0 (header p.aircraftID p.configRev (UInt32.ofNat p.body.length) p.padding) true
    p.headerResult

def calls (p : Post) : List NvsCall :=
  p.erases ++ [.massErase p.massErased] ++ p.writes.1 ++
    if p.writes.2 then [p.headerCall] else []

def run (m : Memory UInt8) (p : Post) : Memory UInt8 := (p.calls.take p.cut).foldl NvsCall.run m

def begun (p : Post) : Bool := p.cut ≠ 0

structure Stored (p : Post) : Prop where
  received : (p.chunks.map Prod.fst).flatten = p.body
  written : ∀ c ∈ p.chunks, c.2 = .success

end Post

def lastBegun (posts : List Post) : Option Post := (posts.filter Post.begun).getLast?

-- ---------------------------------------------------------------------------
-- GET
-- ---------------------------------------------------------------------------

/-- What goes over the socket: an answer of `HTTPServer_sendSimpleResponse`, with
its length and its text, or bytes sent after it. -/
inductive Sent where
  | simple (contentLength : Int) (body : Option String)
  | data (bytes : List UInt8)

def text (body : String) : Sent := .simple body.length (some body)

/-- Whether `NVS_open` gives a handle, whether the buffer is allocated, and whether each
`send` succeeds. -/
structure GetAnswers where
  opened : Bool
  allocated : Bool
  sends : Nat → Bool

def sendFile (m : Memory UInt8) (sends : Nat → Bool) (i fileSize memAddress : Nat) :
    List (List UInt8) :=
  if fileSize = 0 then []
  else if fileSize < urlBufferSize then
    if sends i then
      m.read memAddress fileSize :: sendFile m sends (i + 1) 0 (memAddress + 0)
    else []
  else if sends i then
    m.read memAddress urlBufferSize ::
      sendFile m sends (i + 1) (fileSize - urlBufferSize) (memAddress + urlBufferSize)
  else []
termination_by fileSize
decreasing_by
  · omega
  · simp only [urlBufferSize] at *
    omega

def get (a : GetAnswers) (m : Memory UInt8) : List Sent :=
  if a.opened then
    if word m 8 = memzipSignature then
      let fileSize : Int := (word m 30).toInt32.toInt
      if fileSize ≠ 0 then
        .simple fileSize none ::
          if a.allocated then (sendFile m a.sends 0 fileSize.toNat sectorSize).map .data
          else [text "Couldn't allocate memory"]
      else [text "File is empty"]
    else [text "No configuration file found"]
  else [text "NVS_open() failed."]

/-- The bytes and nothing else, under their own length. -/
def Returns (body : List UInt8) (sent : List Sent) : Prop :=
  ∃ pieces : List (List UInt8),
    sent = .simple body.length none :: pieces.map .data ∧ pieces.flatten = body

def sendCount (fileSize : Nat) : Nat := (fileSize + urlBufferSize - 1) / urlBufferSize

/-- The flash is opened and, where it has a file, the buffer is allocated and every send of
the file succeeds. -/
def GetAnswers.Serves (a : GetAnswers) (m : Memory UInt8) : Prop :=
  a.opened ∧ (word m 8 = memzipSignature →
    a.allocated ∧ ∀ i < sendCount (word m 30).toNat, a.sends i = true)

variable {m : Memory UInt8} {p : Post} {posts : List Post} {a : GetAnswers} {c : NvsCall}
  {chunks : List (List UInt8 × WriteResult)} {calls : List NvsCall} {sends : Nat → Bool}
  {fileSize memAddress i : Nat}

-- ---------------------------------------------------------------------------
-- The header
-- ---------------------------------------------------------------------------

/-- No signature: a client is answered that there is no file. -/
def Unmarked (m : Memory UInt8) : Prop := word m 8 ≠ memzipSignature

/-- The call brings back no signature. -/
def NvsCall.Spares (c : NvsCall) : Prop := ∀ m, Unmarked m → Unmarked (c.run m)

theorem word_eraseRange {offset size : Nat} (h : offset ≤ 8) (h' : 12 ≤ offset + size) :
    word (eraseRange m offset size) 8 = 0xFFFFFFFF := by
  refine word_eq_of_read ?_
  have hbytes : (eraseRange m offset size).read 8 4 = [0xFF, 0xFF, 0xFF, 0xFF] := by
    simp only [Memory.read, List.range_succ, List.range_zero, List.map_cons, List.map_nil,
      List.nil_append, List.cons_append, eraseRange]
    rw [if_pos (by omega), if_pos (by omega), if_pos (by omega), if_pos (by omega)]
  rw [hbytes]
  decide

theorem unmarked_eraseRange {offset size : Nat} (h : offset ≤ 8) (h' : 12 ≤ offset + size) :
    Unmarked (eraseRange m offset size) := by
  rw [Unmarked, word_eraseRange h h']
  decide

theorem erase_spares (index : Nat) : (NvsCall.erase (index * sectorSize)).Spares := by
  intro m hm
  rw [NvsCall.run]
  split
  case isFalse => exact hm
  case isTrue =>
    cases index with
    | zero => exact unmarked_eraseRange (by omega) (by decide)
    | succ index =>
      have hsame : (eraseRange m ((index + 1) * sectorSize) sectorSize).read 8 4 = m.read 8 4 := by
        refine Memory.read_congr fun i hi => if_neg ?_
        simp only [sectorSize]
        omega
      rwa [Unmarked, word, hsame]

theorem massErase_spares (done : Bool) : (NvsCall.massErase done).Spares := by
  intro m hm
  cases done with
  | false => exact hm
  | true => exact unmarked_eraseRange (Nat.zero_le _) (by decide)

theorem first_erase_unmarked : Unmarked (NvsCall.run m (.erase (0 * sectorSize))) := by
  rw [NvsCall.run, if_pos (by decide)]
  exact unmarked_eraseRange (by omega) (by decide)

/-- The calls of the loop write from `memAddress` on. -/
theorem writeChunks_frame (hcall : c ∈ (writeChunks fileSize memAddress chunks).1) {x : Nat}
    (hx : x < memAddress) : c.run m x = m x := by
  induction chunks generalizing fileSize memAddress with
  | nil => exact absurd hcall List.not_mem_nil
  | cons chunk chunks ih =>
    obtain ⟨pbuffer, result⟩ := chunk
    have hwrite : NvsCall.run m (.write memAddress pbuffer false result) x = m x := by
      rw [NvsCall.run]
      split
      · exact Memory.write_of_lt hx
      · rfl
    unfold writeChunks at hcall
    split at hcall
    case isTrue => exact absurd hcall List.not_mem_nil
    case isFalse =>
      cases result with
      | success =>
        rcases List.mem_cons.mp hcall with rfl | hcall
        · exact hwrite
        · exact ih hcall (by omega)
      | failure stored =>
        rw [List.mem_singleton.mp hcall]
        exact hwrite

theorem writeChunks_spares (hcall : c ∈ (writeChunks fileSize sectorSize chunks).1) : c.Spares := by
  intro m hm
  have hsame : (c.run m).read 8 4 = m.read 8 4 := by
    refine Memory.read_congr fun i hi => writeChunks_frame hcall ?_
    simp only [sectorSize]
    omega
  rwa [Unmarked, word, hsame]

theorem foldl_unmarked (hcalls : ∀ c ∈ calls, c.Spares) (hm : Unmarked m) :
    Unmarked (calls.foldl NvsCall.run m) := by
  induction calls generalizing m with
  | nil => exact hm
  | cons c calls ih =>
    exact ih (fun c hc => hcalls c (List.mem_cons_of_mem _ hc)) (hcalls c List.mem_cons_self m hm)

namespace Post

def bodyCalls (p : Post) : List NvsCall := p.erases ++ [.massErase p.massErased] ++ p.writes.1

theorem bodyCalls_spare (hc : c ∈ p.bodyCalls) : c.Spares := by
  simp only [bodyCalls, erases, List.mem_append, List.mem_map, List.mem_singleton] at hc
  obtain (⟨index, _, rfl⟩ | rfl) | hc := hc
  · exact erase_spares index
  · exact massErase_spares _
  · unfold writes at hc
    split at hc
    · exact writeChunks_spares hc
    · exact absurd hc List.not_mem_nil

theorem foldl_take_unmarked {n : Nat} (hn : n ≠ 0) :
    Unmarked ((p.bodyCalls.take n).foldl NvsCall.run m) := by
  obtain ⟨n, rfl⟩ := Nat.exists_eq_succ_of_ne_zero hn
  obtain ⟨rest, hrest⟩ : ∃ rest, p.bodyCalls = .erase (0 * sectorSize) :: rest :=
    ⟨_, by rw [bodyCalls, erases, List.range_succ_eq_map]; rfl⟩
  rw [hrest, List.take_succ_cons, List.foldl_cons]
  refine foldl_unmarked (fun c hc => bodyCalls_spare (p := p) ?_) first_erase_unmarked
  rw [hrest]
  exact List.mem_cons_of_mem _ (List.mem_of_mem_take hc)

end Post

-- ---------------------------------------------------------------------------
-- The file
-- ---------------------------------------------------------------------------

theorem foldl_frame {x : Nat} (hcalls : ∀ c ∈ calls, ∀ m, c.run m x = m x) :
    calls.foldl NvsCall.run m x = m x := by
  induction calls generalizing m with
  | nil => rfl
  | cons c calls ih =>
    rw [List.foldl_cons, ih fun c hc => hcalls c (List.mem_cons_of_mem _ hc)]
    exact hcalls c List.mem_cons_self m

/-- A loop that ends with every write successful has stored the bytes still to come. -/
theorem writeChunks_read {rest : List UInt8} (hpos : ∀ c ∈ chunks, 0 < c.1.length)
    (hstart : (chunks.map Prod.fst).flatten <+: rest) (hlength : rest.length = fileSize)
    (hreceived : (writeChunks fileSize memAddress chunks).2 = true) :
    (chunks.map Prod.fst).flatten = rest ∧ (∀ c ∈ chunks, c.2 = .success) ∧
      ((writeChunks fileSize memAddress chunks).1.foldl NvsCall.run m).read memAddress fileSize =
        rest := by
  induction chunks generalizing fileSize memAddress rest m with
  | nil =>
    have hzero : fileSize = 0 := by simpa [writeChunks] using hreceived
    subst hzero
    obtain rfl := List.eq_nil_of_length_eq_zero hlength
    exact ⟨rfl, fun c hc => absurd hc List.not_mem_nil, rfl⟩
  | cons chunk chunks ih =>
    obtain ⟨pbuffer, result⟩ := chunk
    have hbuffer : 0 < pbuffer.length := hpos _ List.mem_cons_self
    obtain ⟨tail, rfl⟩ := hstart
    simp only [List.map_cons, List.flatten_cons, List.append_assoc, List.length_append] at hlength
    have hsize : fileSize ≠ 0 := by omega
    rw [writeChunks, if_neg hsize] at hreceived ⊢
    cases result with
    | failure stored => exact absurd hreceived Bool.false_ne_true
    | success =>
      have hleft : ((chunks.map Prod.fst).flatten ++ tail).length =
          fileSize - pbuffer.length := by
        rw [List.length_append]
        omega
      obtain ⟨hflat, hok, hread⟩ := ih (m := m.write memAddress pbuffer)
        (fun c hc => hpos c (List.mem_cons_of_mem _ hc)) (List.prefix_append _ tail) hleft hreceived
      refine ⟨?_, ?_, ?_⟩
      · rw [List.map_cons, List.flatten_cons, List.append_assoc, ← hflat]
      · rintro c hc
        rcases List.mem_cons.mp hc with rfl | hc
        · rfl
        · exact hok c hc
      · obtain ⟨k, rfl⟩ : ∃ k, fileSize = pbuffer.length + k :=
          Nat.exists_eq_add_of_le (by omega)
        rw [Nat.add_sub_cancel_left] at hread
        rw [List.foldl_cons, Memory.read_append, Nat.add_sub_cancel_left]
        have hrun : NvsCall.run m (.write memAddress pbuffer false .success) =
          m.write memAddress pbuffer := rfl
        rw [hrun, hread, List.map_cons, List.flatten_cons, List.append_assoc]
        congr 1
        -- the later pieces go behind this one
        rw [Memory.read_congr fun i hi => foldl_frame fun c hc m =>
          writeChunks_frame hc (Nat.add_lt_add_left hi memAddress)]
        exact Memory.read_write m memAddress pbuffer

theorem header_length (aircraftID configRev size : UInt32) (padding : UInt8 × UInt8) :
    (header aircraftID configRev size padding).length = 40 := by
  simp [header]

theorem headerCall_run (hstored : p.headerResult.stored = true) :
    p.headerCall.run m = (eraseRange m 0 sectorSize).write 0
      (header p.aircraftID p.configRev (UInt32.ofNat p.body.length) p.padding) := by
  rw [Post.headerCall, NvsCall.run, if_pos hstored, header_length]
  rfl

theorem word_write_header (aircraftID configRev size : UInt32) (padding : UInt8 × UInt8) :
    word (m.write 0 (header aircraftID configRev size padding)) 8 = memzipSignature ∧
      word (m.write 0 (header aircraftID configRev size padding)) 30 = size := by
  have hread := Memory.read_write m 0 (header aircraftID configRev size padding)
  constructor
  · refine word_eq_of_read ?_
    exact Memory.read_part (wordBytes aircraftID ++ wordBytes configRev)
      (wordBytes memzipSignature)
      (List.replicate 18 0 ++ wordBytes size ++ (List.replicate 4 0 ++ [padding.1, padding.2]))
      (hread.trans (by simp only [header, List.append_assoc]))
  · refine word_eq_of_read ?_
    exact Memory.read_part
      (wordBytes aircraftID ++ wordBytes configRev ++ wordBytes memzipSignature ++
        List.replicate 18 0) (wordBytes size) (List.replicate 4 0 ++ [padding.1, padding.2]) hread

/-- The flash holds the body behind a header that says so. -/
structure Post.Held (p : Post) (m : Memory UInt8) : Prop where
  stored : p.Stored
  signature : word m 8 = memzipSignature
  size : word m 30 = UInt32.ofNat p.body.length
  body : m.read sectorSize p.body.length = p.body

theorem Post.run_eq_of_le (hcut : p.cut ≤ p.bodyCalls.length) :
    p.run m = (p.bodyCalls.take p.cut).foldl NvsCall.run m := by
  rw [run, calls, ← bodyCalls, List.take_append_of_le_length hcut]

theorem Post.bodyCalls_unmarked : Unmarked (p.bodyCalls.foldl NvsCall.run m) := by
  have hlength : p.bodyCalls.length ≠ 0 := by
    simp [bodyCalls, erases]
  simpa using foldl_take_unmarked (p := p) (m := m) hlength

/-- A request leaves no signature, or its own body. -/
theorem Post.run_result (hbegun : p.begun) : Unmarked (p.run m) ∨ p.Held (p.run m) := by
  have hcut : p.cut ≠ 0 := by simpa [begun] using hbegun
  rcases Nat.lt_or_ge p.bodyCalls.length p.cut with hlt | hle
  case inr =>
    rw [run_eq_of_le hle]
    exact .inl (foldl_take_unmarked hcut)
  cases hwrites : p.writes.2 with
  | false =>
    have hcalls : p.calls = p.bodyCalls := by simp [calls, bodyCalls, hwrites]
    rw [run, hcalls, List.take_of_length_le (Nat.le_of_lt hlt)]
    exact .inl bodyCalls_unmarked
  | true =>
    have hrun : p.run m = p.headerCall.run (p.bodyCalls.foldl NvsCall.run m) := by
      have hcalls : p.calls = p.bodyCalls ++ [p.headerCall] := by simp [calls, bodyCalls, hwrites]
      rw [run, hcalls, List.take_of_length_le (by rw [List.length_append]; exact hlt),
        List.foldl_append]
      rfl
    cases hstored : p.headerResult.stored with
    | false =>
      rw [hrun, headerCall, NvsCall.run, hstored]
      exact .inl bodyCalls_unmarked
    | true =>
      have hallocated : p.allocated = true := by
        by_contra hallocated
        simp [writes, hallocated] at hwrites
      rw [writes, if_pos hallocated] at hwrites
      obtain ⟨hflat, hok, hread⟩ := writeChunks_read
        (m := (p.erases ++ [NvsCall.massErase p.massErased]).foldl NvsCall.run m)
        (fun c hc => (p.chunk_pos c hc).1) p.chunks_prefix rfl hwrites
      have hbody : (p.bodyCalls.foldl NvsCall.run m).read sectorSize p.body.length = p.body := by
        rwa [bodyCalls, List.foldl_append, writes, if_pos hallocated]
      rw [hrun, headerCall_run hstored]
      refine .inr ⟨⟨hflat, hok⟩, (word_write_header _ _ _ _).1,
        (word_write_header _ _ _ _).2, ?_⟩
      -- the file lies behind the header's sector
      rw [Memory.read_write_of_disjoint (.inr (by rw [header_length]; decide))]
      exact (Memory.read_congr fun i _ => if_neg (by omega)).trans hbody

theorem sendCount_of_lt (h : fileSize ≠ 0) (hlt : fileSize < urlBufferSize) :
    sendCount fileSize = 1 := by
  simp only [sendCount, urlBufferSize] at *
  omega

theorem sendCount_of_ge (h : ¬fileSize < urlBufferSize) :
    sendCount fileSize = sendCount (fileSize - urlBufferSize) + 1 := by
  simp only [sendCount, urlBufferSize] at *
  omega

theorem forall_sends_succ {n : Nat} :
    (∀ k < n + 1, sends (i + k) = true) ↔
      sends i = true ∧ ∀ k < n, sends (i + 1 + k) = true := by
  rw [Nat.forall_lt_succ_left]
  simp only [Nat.add_zero, Nat.add_assoc, Nat.add_comm 1]

/-- The pieces make up the file exactly when no send fails. -/
theorem sendFile_flatten :
    (sendFile m sends i fileSize memAddress).flatten = m.read memAddress fileSize ↔
      ∀ k < sendCount fileSize, sends (i + k) = true := by
  induction fileSize using Nat.strong_induction_on generalizing i memAddress with
  | _ fileSize ih =>
    rw [sendFile]
    by_cases hzero : fileSize = 0
    · subst hzero
      simp [sendCount, urlBufferSize, Memory.read]
    rw [if_neg hzero]
    have hfail : [].flatten ≠ m.read memAddress fileSize := fun heq => by
      have hlength := congrArg List.length heq
      rw [Memory.read_length] at hlength
      exact hzero hlength.symm
    by_cases hlt : fileSize < urlBufferSize
    · rw [if_pos hlt, sendCount_of_lt hzero hlt, forall_sends_succ]
      by_cases hsend : sends i = true
      · rw [if_pos hsend, sendFile]
        simp [hsend]
      · rw [if_neg hsend]
        exact iff_of_false hfail fun h => hsend h.1
    · have hsize : fileSize = urlBufferSize + (fileSize - urlBufferSize) := by omega
      have hless : fileSize - urlBufferSize < fileSize := by
        simp only [urlBufferSize] at hlt ⊢
        omega
      rw [if_neg hlt, sendCount_of_ge hlt, forall_sends_succ]
      by_cases hsend : sends i = true
      · have hread : m.read memAddress fileSize = m.read memAddress urlBufferSize ++
            m.read (memAddress + urlBufferSize) (fileSize - urlBufferSize) := by
          conv_lhs => rw [hsize]
          exact Memory.read_append ..
        rw [if_pos hsend, List.flatten_cons, hread, List.append_cancel_left_eq, ih _ hless]
        exact (and_iff_right hsend).symm
      · rw [if_neg hsend]
        exact iff_of_false hfail fun h => hsend h.1

theorem get_of_unmarked (h : Unmarked m) (hopened : a.opened = true) :
    get a m = [text "No configuration file found"] := by
  rw [get, if_pos hopened, if_neg h]

theorem get_of_not_opened (hopened : ¬a.opened = true) : get a m = [text "NVS_open() failed."] :=
  if_neg hopened

theorem not_returns_text {body : List UInt8} {answer : String} : ¬Returns body [text answer] := by
  rintro ⟨pieces, hsent, -⟩
  simp [text] at hsent

theorem Post.toInt_length (p : Post) : (UInt32.ofNat p.body.length).toInt32.toInt = p.body.length := by
  have hlt : p.body.length < 2 ^ 31 := Nat.lt_of_le_of_lt p.fits (by decide)
  have hnat : (UInt32.ofNat p.body.length).toBitVec.toNat = p.body.length :=
    UInt32.toNat_ofNat_of_lt' (Nat.lt_trans hlt (by decide))
  change (UInt32.ofNat p.body.length).toBitVec.toInt = _
  rw [BitVec.toInt_eq_toNat_of_lt (by rw [hnat]; omega), hnat]

theorem map_data_injective : Function.Injective (List.map Sent.data) :=
  List.map_injective_iff.mpr fun _ _ h => Sent.data.inj h

theorem Post.Held.get_returns_iff (h : p.Held m) (hopened : a.opened = true) :
    Returns p.body (get a m) ↔
      a.allocated = true ∧ ∀ i < sendCount (word m 30).toNat, a.sends i = true := by
  have hne : (p.body.length : Int) ≠ 0 := by
    have := p.nonempty
    omega
  have hsize : (word m 30).toNat = p.body.length := by
    rw [h.size, UInt32.toNat_ofNat_of_lt']
    exact Nat.lt_of_le_of_lt p.fits (by decide)
  rw [get, if_pos hopened, if_pos h.signature, h.size, p.toInt_length, if_pos hne, ← h.size, hsize,
    Int.toNat_natCast]
  by_cases hallocated : a.allocated = true
  · rw [if_pos hallocated, and_iff_right hallocated]
    have hflatten : (sendFile m a.sends 0 p.body.length sectorSize).flatten =
        m.read sectorSize p.body.length ↔ ∀ k < sendCount p.body.length, a.sends (0 + k) = true :=
      sendFile_flatten
    simp only [h.body, Nat.zero_add] at hflatten
    rw [← hflatten]
    constructor
    · rintro ⟨pieces, hsent, hbody⟩
      rw [map_data_injective (List.cons_inj_right _ |>.mp hsent)]
      exact hbody
    · exact fun hbody => ⟨_, rfl, hbody⟩
  · rw [if_neg hallocated]
    refine iff_of_false ?_ fun h => hallocated h.1
    rintro ⟨pieces, hsent, -⟩
    cases pieces <;> simp [text] at hsent

theorem exec_result (hlast : lastBegun posts = some p) :
    Unmarked (exec Post.run m posts) ∨ p.Held (exec Post.run m posts) := by
  induction posts using List.reverseRecOn with
  | nil => exact absurd hlast (by simp [lastBegun])
  | append_singleton posts q ih =>
    have hexec : exec Post.run m (posts ++ [q]) = q.run (exec Post.run m posts) := by
      simp [exec]
    rw [hexec]
    by_cases hbegun : q.begun
    · obtain rfl : q = p := by simpa [lastBegun, hbegun] using hlast
      exact Post.run_result hbegun
    · have hcut : q.cut = 0 := by simpa [Post.begun] using hbegun
      rw [Post.run, hcut]
      exact ih (by simpa [lastBegun, hbegun] using hlast)

/-- After any requests, each cut anywhere, a client is answered that there is no
file, or is sent the body of the last request begun, which was stored in full: exactly
when the flash is opened and nothing fails of the sending of a file that is there. -/
theorem get_after_posts_iff (m : Memory UInt8) (posts : List Post) (p : Post) (a : GetAnswers)
    (hlast : lastBegun posts = some p) :
    (get a (exec Post.run m posts) = [text "No configuration file found"] ∨
        p.Stored ∧ Returns p.body (get a (exec Post.run m posts))) ↔
      a.Serves (exec Post.run m posts) := by
  by_cases hopened : a.opened = true
  case neg =>
    rw [get_of_not_opened hopened]
    refine iff_of_false ?_ fun h => hopened h.1
    rintro (htext | ⟨-, hreturns⟩)
    · simp [text] at htext
    · exact not_returns_text hreturns
  rw [GetAnswers.Serves, and_iff_right hopened]
  rcases exec_result (m := m) hlast with hunmarked | hheld
  · exact iff_of_true (.inl (get_of_unmarked hunmarked hopened)) fun h => absurd h hunmarked
  · rw [forall_prop_of_true hheld.signature, ← hheld.get_returns_iff hopened]
    refine ⟨?_, fun hreturns => .inr ⟨hheld.stored, hreturns⟩⟩
    rintro (htext | ⟨-, hreturns⟩)
    · rw [get, if_pos hopened, if_pos hheld.signature] at htext
      -- a file that is there has its length sent first
      have hsize : (word (exec Post.run m posts) 30).toInt32.toInt ≠ 0 := by
        rw [hheld.size, p.toInt_length]
        have := p.nonempty
        omega
      rw [if_pos hsize] at htext
      simp [text] at htext
    · exact hreturns

def shortPost (cut : Nat) : Post where
  body := [0x50]
  nonempty := by decide
  fits := by decide
  chunks := [([0x50], .success)]
  chunk_pos := by decide
  chunks_prefix := by decide
  aircraftID := 1
  configRev := 2
  padding := (0, 0)
  massErased := true
  allocated := true
  headerResult := .success
  cut := cut

theorem get_after_cut :
    lastBegun [shortPost 5, shortPost 2, shortPost 0] = some (shortPost 2) ∧
      ((get ⟨true, true, fun _ => true⟩
            (exec Post.run (fun _ => 0xFF) [shortPost 5, shortPost 2, shortPost 0]) =
              [text "No configuration file found"] ∨
          (shortPost 2).Stored ∧ Returns [0x50]
            (get ⟨true, true, fun _ => true⟩
              (exec Post.run (fun _ => 0xFF) [shortPost 5, shortPost 2, shortPost 0]))) ↔
        GetAnswers.Serves ⟨true, true, fun _ => true⟩
          (exec Post.run (fun _ => 0xFF) [shortPost 5, shortPost 2, shortPost 0])) :=
  ⟨rfl, get_after_posts_iff _ _ _ _ rfl⟩

/-- Without a buffer the length of the file is followed by an answer of its own. -/
theorem get_without_buffer :
    ¬∀ (m : Memory UInt8) (posts : List Post) (p : Post) (a : GetAnswers),
      lastBegun posts = some p → a.opened → (∀ i, a.sends i) →
        get a (exec Post.run m posts) = [text "No configuration file found"] ∨
          p.Stored ∧ Returns p.body (get a (exec Post.run m posts)) := by
  intro h
  have hget : get ⟨true, false, fun _ => true⟩ (exec Post.run (fun _ => 0xFF) [shortPost 5]) =
      [.simple 1 none, text "Couldn't allocate memory"] := by
    rfl
  rcases h _ _ _ ⟨true, false, fun _ => true⟩
      (rfl : lastBegun [shortPost 5] = some (shortPost 5)) rfl (fun _ => rfl) with
    hnone | ⟨_, pieces, hsent, _⟩
  · rw [hget] at hnone
    simp at hnone
  · rw [hget] at hsent
    cases pieces <;> simp [text] at hsent

end SystemMaster.Http
