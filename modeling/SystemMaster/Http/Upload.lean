import SystemMaster.Http.ConfigurationStore

/-!
# Uploads

`URL_apiConfigurationNVS` and `xSFFS_setFlashDataFileNameHTTP` take the body of a
request from the socket in one loop, and write each piece to the flash before they
ask for the next. The loop takes the result of `recv` off the length still to come,
whatever it is.
-/

namespace SystemMaster.Http

open Runs

/-- What a call of `recv` finds: bytes of the peer, of which it takes as many as it
is asked for, a connection that is closed, or a failure. -/
inductive Arrival where
  | bytes (b : UInt8) (bs : List UInt8)
  | closed
  | failed
  deriving DecidableEq

namespace Arrival

def isBytes : Arrival → Bool
  | .bytes _ _ => true
  | .closed | .failed => false

def taken (len : Nat) : Arrival → List UInt8
  | .bytes b bs => (b :: bs).take len
  | .closed | .failed => []

def nbytes (len : Nat) : Arrival → Int
  | .bytes b bs => ((b :: bs).take len).length
  | .closed => 0
  | .failed => -1

end Arrival

inductive Route where
  | nvs
  | sffs
  deriving DecidableEq

/-- A request with a positive length, and what its handler meets: the results of
`recv` and of the writes that follow them, and a local that is not set. -/
structure Upload where
  contentLength : Nat
  pos : 0 < contentLength
  int : contentLength < 2 ^ 31
  opened : Bool
  allocated : Bool
  arrivals : Nat → Arrival
  results : Nat → WriteResult
  headerResult : WriteResult
  uninit : WriteResult

structure StoreCall where
  offset : Nat
  bytes : List UInt8
  result : WriteResult

/-- The locals of the loop; `assigned` tells that `i16RetVal` has been set, and
`memAddress` is the place in the file where there is no such local. -/
structure LoopState where
  fileSize : Int
  memAddress : Nat
  i16RetVal : WriteResult
  assigned : Bool
  stopped : Bool
  received : List UInt8
  calls : List StoreCall

structure Held where
  store : Bool
  buffer : Bool
  deriving DecidableEq

/-- `closedNull` tells that the store was closed by a handle that is NULL. -/
structure Outcome where
  answer : String
  header : Option WriteResult
  held : Held
  closedNull : Bool

-- ---------------------------------------------------------------------------
-- The loop
-- ---------------------------------------------------------------------------

def toInt32 (x : Int) : Int := x.bmod (2 ^ 32)

namespace LoopState

def ended (s : LoopState) : Bool := s.stopped || s.fileSize ≤ 0

def turn (s : LoopState) (found : Arrival × WriteResult) : LoopState :=
  if s.ended then s
  else
    let len := if s.fileSize < urlBufferSize then s.fileSize.toNat else urlBufferSize
    let nbytes := found.1.nbytes len
    let pbuffer := found.1.taken len
    let s := { s with
      fileSize := toInt32 (s.fileSize - nbytes)
      received := s.received ++ pbuffer }
    if nbytes > 0 then
      let s := { s with
        i16RetVal := found.2
        assigned := true
        calls := s.calls ++ [StoreCall.mk s.memAddress pbuffer found.2] }
      if found.2 ≠ .success then { s with stopped := true }
      else { s with memAddress := s.memAddress + pbuffer.length }
    else s

end LoopState

namespace Route

def base : Route → Nat
  | .nvs => sectorSize
  | .sffs => 0

def notOpened : Route → String
  | .nvs => "NVS_open() failed."
  | .sffs => "Could not write to the file"

/-- `NVS_close` is called also when `NVS_open` has given no handle. -/
def closesNull : Route → Bool
  | .nvs => true
  | .sffs => false

def loaded : Route → String
  | .nvs => "File loaded correctly"
  | .sffs => "File loaded successfully"

/-- The answer and the write of the header past the loop; only one of the two
handlers has the results of the writes, and a header. -/
def finish (u : Upload) (s : LoopState) (held : Held) : Route → Outcome
  | .nvs =>
    if s.i16RetVal ≠ .success then ⟨"Error loading the File", none, held, false⟩
    else ⟨loaded .nvs, some u.headerResult, held, false⟩
  | .sffs => ⟨loaded .sffs, none, held, false⟩

end Route

namespace Upload

def found (u : Upload) (i : Nat) : Arrival × WriteResult := (u.arrivals i, u.results i)

def loop (route : Route) (u : Upload) (n : Nat) : LoopState :=
  exec LoopState.turn
    { fileSize := u.contentLength
      memAddress := route.base
      i16RetVal := u.uninit
      assigned := false
      stopped := false
      received := []
      calls := [] } ((List.range n).map u.found)

/-- Both handlers: what they return with, and `none` while they loop. -/
def respond (route : Route) (u : Upload) (n : Nat) : Option Outcome :=
  let held : Held := ⟨u.opened, false⟩
  if u.opened then
    let held := { held with buffer := u.allocated }
    if u.allocated then
      if (u.loop route n).ended then
        let held := { held with buffer := false }
        some (route.finish u (u.loop route n) { held with store := false })
      else none
    else some ⟨"Couldn't allocate memory", none, { held with store := false }, false⟩
  else some ⟨route.notOpened, none, held, route.closesNull⟩

end Upload

def urlApiConfigurationNVS (u : Upload) (n : Nat) : Option Outcome := u.respond .nvs n

def setFlashDataFileNameHTTP (u : Upload) (n : Nat) : Option Outcome := u.respond .sffs n

-- ---------------------------------------------------------------------------
-- Exact uploads
-- ---------------------------------------------------------------------------

def Placed : Nat → List StoreCall → Prop
  | _, [] => True
  | offset, c :: calls => c.offset = offset ∧ Placed (offset + c.bytes.length) calls

namespace Upload

def started (u : Upload) : Bool := u.opened && u.allocated

/-- From some call on the peer sends nothing. -/
def Quiet (u : Upload) : Prop := ∃ N, ∀ i, N ≤ i → (u.arrivals i).isBytes = false

/-- The handler returns, takes nothing for received that was not, stores what it
receives and no more, and answers that the file is loaded only when all of it is. -/
structure Exact (route : Route) (u : Upload) (handler : Upload → Nat → Option Outcome) : Prop where
  ends : u.Quiet → ∃ n, (handler u n).isSome
  failed : ∀ n, u.started → ¬(u.loop route n).ended → (u.arrivals n).isBytes = false →
    (u.loop route (n + 1)).fileSize = (u.loop route n).fileSize
  placed : ∀ n, Placed route.base (u.loop route n).calls
  written : ∀ n, (u.loop route n).calls.flatMap StoreCall.bytes = (u.loop route n).received
  bounded : ∀ n, u.started → (u.loop route n).received.length ≤ u.contentLength
  loaded : ∀ n o, handler u n = some o → o.answer = route.loaded →
    (u.loop route n).received.length = u.contentLength ∧
      (∀ c ∈ (u.loop route n).calls, c.result = .success) ∧
        (route = .nvs → o.header = some .success)
  defined : ∀ n, u.started → (u.loop route n).ended → (u.loop route n).assigned
  released : ∀ n o, handler u n = some o → o.held = ⟨false, false⟩ ∧ o.closedNull = false

def brought (u : Upload) : Nat → Nat
  | 0 => 0
  | n + 1 =>
    u.brought n +
      ((u.arrivals n).taken (min (u.contentLength - u.brought n) urlBufferSize)).length

def Writes (u : Upload) (n : Nat) : Prop :=
  ∀ i < n, (u.arrivals i).isBytes → u.results i = .success

def Uploading (u : Upload) (n : Nat) : Prop := u.brought n < u.contentLength ∧ u.Writes n

/-- While bytes are to come `recv` does not fail and the peer does not fall silent
for good, and what the handler writes without a look at the result is written. -/
structure Sound (route : Route) (u : Upload) : Prop where
  arrivals : ∀ n, u.Uploading n → u.arrivals n ≠ .failed
  complete : u.Quiet → ∃ n, ¬u.Uploading n
  results :
    match route with
    | .nvs => (∃ n, u.brought n = u.contentLength ∧ u.Writes n) → u.headerResult = .success
    | .sffs => ∀ n, u.Uploading n → u.Writes (n + 1)

end Upload

variable {u : Upload} {route : Route} {s : LoopState} {a : Arrival} {r : WriteResult} {n : Nat}
  {offset : Nat} {calls : List StoreCall} {c : StoreCall}

-- ---------------------------------------------------------------------------
-- One turn
-- ---------------------------------------------------------------------------

theorem Arrival.eq_closed (h : a.isBytes = false) (hfailed : a ≠ .failed) : a = .closed := by
  cases a with
  | bytes b bs => cases h
  | closed => rfl
  | failed => exact absurd rfl hfailed

theorem Arrival.taken_le {len : Nat} : (a.taken len).length ≤ len := by
  cases a with
  | bytes b bs =>
    rw [taken, List.length_take]
    exact Nat.min_le_left _ _
  | closed | failed => exact Nat.zero_le _

theorem Placed.concat (h : Placed offset calls)
    (hc : c.offset = offset + (calls.flatMap StoreCall.bytes).length) :
    Placed offset (calls ++ [c]) := by
  induction calls generalizing offset with
  | nil => exact ⟨by simpa using hc, trivial⟩
  | cons d calls ih =>
    obtain ⟨hd, hrest⟩ := h
    refine ⟨hd, ih hrest ?_⟩
    rw [hc, List.flatMap_cons, List.length_append, Nat.add_assoc]

theorem toInt32_of_range {k : Nat} (h : k < 2 ^ 31) : toInt32 k = k :=
  Int.bmod_eq_of_le (by omega) (by omega)

theorem toInt32_sub_failed (x : Int) : toInt32 (x - -1) ≠ x := by
  unfold toInt32
  have := Int.bmod_emod (x := x - -1) (m := 2 ^ 32)
  intro h
  rw [h] at this
  omega

namespace LoopState

theorem turn_of_ended (h : s.ended = true) : s.turn (a, r) = s := by rw [turn, if_pos h]

theorem fileSize_pos (h : s.ended = false) : s.stopped = false ∧ 0 < s.fileSize := by
  simpa [ended] using h

def len (s : LoopState) : Nat := min s.fileSize.toNat urlBufferSize

theorem len_eq (h : s.ended = false) :
    (if s.fileSize < urlBufferSize then s.fileSize.toNat else urlBufferSize) = s.len := by
  have hpos := (fileSize_pos h).2
  rw [len]
  split <;> omega

theorem turn_of_not_bytes (h : s.ended = false) (ha : a.isBytes = false) :
    s.turn (a, r) = { s with fileSize := toInt32 (s.fileSize - a.nbytes s.len) } := by
  cases a with
  | bytes b bs => cases ha
  | closed | failed => simp [turn, h, Arrival.nbytes, Arrival.taken]

theorem turn_of_bytes (h : s.ended = false) (ha : a.isBytes = true) :
    s.turn (a, r) =
      { fileSize := toInt32 (s.fileSize - (a.taken s.len).length)
        memAddress := if r = .success then s.memAddress + (a.taken s.len).length else s.memAddress
        i16RetVal := r
        assigned := true
        stopped := r ≠ .success
        received := s.received ++ a.taken s.len
        calls := s.calls ++ [StoreCall.mk s.memAddress (a.taken s.len) r] } := by
  obtain ⟨hstopped, hpos⟩ := fileSize_pos h
  cases a with
  | closed | failed => cases ha
  | bytes b bs =>
    have hlen : 0 < s.len := by
      rw [len, urlBufferSize]
      omega
    have hsome : (0 : Int) < ((b :: bs).take s.len).length := by
      rw [List.length_take, List.length_cons]
      omega
    rw [turn, h, if_neg Bool.false_ne_true]
    simp only [len_eq h, Arrival.nbytes, Arrival.taken]
    rw [if_pos hsome]
    by_cases hr : r = .success
    · simp [hr, hstopped]
    · simp [hr]

end LoopState

structure Kept (offset : Nat) (s : LoopState) : Prop where
  placed : Placed offset s.calls
  written : s.calls.flatMap StoreCall.bytes = s.received
  next : s.stopped = false → s.memAddress = offset + s.received.length

theorem Kept.turn (h : Kept offset s) (found : Arrival × WriteResult) :
    Kept offset (s.turn found) := by
  obtain ⟨a, r⟩ := found
  cases hend : s.ended with
  | true => rwa [LoopState.turn_of_ended hend]
  | false =>
    have hnext := h.next (LoopState.fileSize_pos hend).1
    cases ha : a.isBytes with
    | false =>
      rw [LoopState.turn_of_not_bytes hend ha]
      exact ⟨h.placed, h.written, h.next⟩
    | true =>
      rw [LoopState.turn_of_bytes hend ha]
      constructor
      · exact h.placed.concat (by rw [hnext, h.written])
      · simp [h.written]
      · intro hr
        have hr : r = .success := by simpa using hr
        simp only [hr, if_true, List.length_append, hnext, Nat.add_assoc]

namespace Upload

theorem loop_succ : u.loop route (n + 1) = (u.loop route n).turn (u.found n) :=
  exec_range_succ

theorem loop_kept (n : Nat) : Kept route.base (u.loop route n) := by
  induction n with
  | zero => exact ⟨trivial, rfl, fun _ => rfl⟩
  | succ n ih =>
    rw [loop_succ]
    exact ih.turn _

end Upload

def StoreCall.nvsCall (c : StoreCall) : NvsCall := .write c.offset c.bytes false c.result

def StoreCall.chunk (c : StoreCall) : List UInt8 × WriteResult := (c.bytes, c.result)

namespace LoopState

theorem exec_of_ended {founds : List (Arrival × WriteResult)} (h : s.ended = true) :
    exec turn s founds = s := by
  induction founds with
  | nil => rfl
  | cons found founds ih => rw [exec_cons, turn_of_ended h, ih]

theorem turn_of_written {k : Nat} (hend : s.ended = false) (ha : a.isBytes = true)
    (hsize : s.fileSize = k) (hk : k < 2 ^ 31) :
    (s.turn (a, .success)).fileSize = (k - (a.taken s.len).length : Nat) ∧
      (s.turn (a, .success)).stopped = false := by
  have hle : (a.taken s.len).length ≤ k := by
    have hlen : s.len ≤ k := by
      rw [len, hsize, Int.toNat_natCast]
      exact Nat.min_le_left _ _
    exact Nat.le_trans Arrival.taken_le hlen
  have hless : k - (a.taken s.len).length < 2 ^ 31 := Nat.lt_of_le_of_lt (Nat.sub_le _ _) hk
  rw [turn_of_bytes hend ha]
  refine ⟨?_, rfl⟩
  rw [← toInt32_of_range hless, Int.ofNat_sub hle, hsize]

/-- The loop makes the calls that `writeChunks` makes of the same pieces. -/
theorem exec_calls {founds : List (Arrival × WriteResult)} {k : Nat}
    (harrivals : ∀ found ∈ founds, found.1 ≠ .failed) (hstopped : s.stopped = false)
    (hsize : s.fileSize = k) (hk : k < 2 ^ 31) :
    ∃ calls, (exec turn s founds).calls = s.calls ++ calls ∧
      (writeChunks k s.memAddress (calls.map StoreCall.chunk)).1 =
        calls.map StoreCall.nvsCall := by
  induction founds generalizing s k with
  | nil => exact ⟨[], (List.append_nil _).symm, rfl⟩
  | cons found founds ih =>
    obtain ⟨a, r⟩ := found
    have hrest : ∀ found ∈ founds, found.1 ≠ .failed :=
      fun found hmem => harrivals found (List.mem_cons_of_mem _ hmem)
    rw [exec_cons]
    cases hend : s.ended with
    | true =>
      rw [turn_of_ended hend]
      exact ih hrest hstopped hsize hk
    | false =>
      have hpos : k ≠ 0 := by
        have := (fileSize_pos hend).2
        omega
      cases ha : a.isBytes with
      | false =>
        have hclosed := Arrival.eq_closed ha (harrivals _ List.mem_cons_self)
        have hsame : toInt32 (s.fileSize - a.nbytes s.len) = k := by
          rw [hclosed, hsize, Arrival.nbytes, Int.sub_zero]
          exact toInt32_of_range hk
        rw [turn_of_not_bytes hend ha]
        exact ih hrest hstopped hsame hk
      | true =>
        have hturn := turn_of_bytes (r := r) hend ha
        cases r with
        | success =>
          obtain ⟨hsize', hstopped'⟩ := turn_of_written hend ha hsize hk
          have hless : k - (a.taken s.len).length < 2 ^ 31 :=
            Nat.lt_of_le_of_lt (Nat.sub_le _ _) hk
          obtain ⟨calls, hcalls, hchunks⟩ := ih hrest hstopped' hsize' hless
          refine ⟨⟨s.memAddress, a.taken s.len, .success⟩ :: calls, ?_, ?_⟩
          · rw [hcalls, hturn, List.append_assoc]
            rfl
          · rw [hturn] at hchunks
            simp only [List.map_cons, StoreCall.chunk, writeChunks, if_neg hpos]
            exact congrArg _ hchunks
        | failure stored =>
          have hended : (s.turn (a, .failure stored)).ended = true := by
            rw [hturn]
            rfl
          refine ⟨[⟨s.memAddress, a.taken s.len, .failure stored⟩], ?_, ?_⟩
          · rw [exec_of_ended hended, hturn]
          · simp only [List.map_cons, StoreCall.chunk, writeChunks, if_neg hpos]
            rfl

end LoopState

namespace Upload

theorem loop_calls (h : ∀ i < n, u.arrivals i ≠ .failed) :
    (writeChunks u.contentLength route.base ((u.loop route n).calls.map StoreCall.chunk)).1 =
      (u.loop route n).calls.map StoreCall.nvsCall := by
  have harrivals : ∀ found ∈ (List.range n).map u.found, found.1 ≠ .failed := by
    intro found hmem
    obtain ⟨i, hi, rfl⟩ := List.mem_map.mp hmem
    exact h i (List.mem_range.mp hi)
  obtain ⟨calls, hcalls, hchunks⟩ := LoopState.exec_calls
    (s := ⟨u.contentLength, route.base, u.uninit, false, false, [], []⟩) harrivals rfl rfl u.int
  rw [loop, hcalls]
  exact hchunks

-- ---------------------------------------------------------------------------
-- Runs in which no call fails
-- ---------------------------------------------------------------------------

theorem brought_le (n : Nat) : u.brought n ≤ u.contentLength := by
  induction n with
  | zero => exact Nat.zero_le _
  | succ n ih =>
    have hpiece : ((u.arrivals n).taken
        (min (u.contentLength - u.brought n) urlBufferSize)).length ≤
          u.contentLength - u.brought n := Nat.le_trans Arrival.taken_le (Nat.min_le_left _ _)
    rw [brought]
    omega

theorem Writes.of_le {k : Nat} (h : u.Writes n) (hk : k ≤ n) : u.Writes k :=
  fun i hi => h i (Nat.lt_of_lt_of_le hi hk)

theorem brought_mono {k : Nat} (hk : k ≤ n) : u.brought k ≤ u.brought n := by
  induction n with
  | zero => rw [Nat.le_zero.mp hk]
  | succ n ih =>
    rcases Nat.le_succ_iff.mp hk with hle | rfl
    · exact Nat.le_trans (ih hle) (Nat.le_add_right _ _)
    · exact le_rfl

inductive Tracks (route : Route) (u : Upload) (n : Nat) (s : LoopState) : Prop
  | uploading (h : u.Uploading n) (hstopped : s.stopped = false)
    (hsize : s.fileSize = (u.contentLength - u.brought n : Nat))
    (hreceived : s.received.length = u.brought n) (hcalls : ∀ c ∈ s.calls, c.result = .success)
  | loaded (h : u.brought n = u.contentLength)
    (hwrites : ∃ k, u.brought k = u.contentLength ∧ u.Writes k)
    (hstopped : s.stopped = false) (hsize : s.fileSize = 0)
    (hreceived : s.received.length = u.contentLength) (hcalls : ∀ c ∈ s.calls, c.result = .success)
    (hassigned : s.assigned = true) (hretVal : s.i16RetVal = .success)
  | broken (h : ∃ i < n, u.Uploading i ∧ ¬u.Writes (i + 1)) (hstopped : s.stopped = true)
    (hreceived : s.received.length ≤ u.contentLength)
    (hcalls : ∃ c ∈ s.calls, c.result ≠ .success)
    (hassigned : s.assigned = true) (hretVal : s.i16RetVal ≠ .success)

theorem Writes.succ (h : u.Writes n)
    (hlast : (u.arrivals n).isBytes = true → u.results n = .success) : u.Writes (n + 1) := by
  intro i hi hb
  rcases Nat.lt_succ_iff_lt_or_eq.mp hi with hlt | rfl
  · exact h i hlt hb
  · exact hlast hb

theorem Tracks.turn_closed (h : u.Uploading n) (hend : s.ended = false)
    (hstopped : s.stopped = false) (hsize : s.fileSize = (u.contentLength - u.brought n : Nat))
    (hreceived : s.received.length = u.brought n) (hcalls : ∀ c ∈ s.calls, c.result = .success)
    (ha : (u.arrivals n).isBytes = false) (hclosed : u.arrivals n = .closed) :
    Tracks route u (n + 1) (s.turn (u.found n)) := by
  have hsame : u.brought (n + 1) = u.brought n := by simp [brought, hclosed, Arrival.taken]
  have hwrites : u.Writes (n + 1) := h.2.succ fun hb => absurd (ha.symm.trans hb) (by simp)
  rw [found, LoopState.turn_of_not_bytes hend ha]
  have hrange : u.contentLength - u.brought n < 2 ^ 31 :=
    Nat.lt_of_le_of_lt (Nat.sub_le _ _) u.int
  refine .uploading ⟨hsame ▸ h.1, hwrites⟩ hstopped ?_ (hsame ▸ hreceived) hcalls
  simp only [hsame, hsize, hclosed, Arrival.nbytes, Int.sub_zero]
  exact toInt32_of_range hrange

/-- A turn that has a piece writes it: there is more to come, or this was the last one, or the
write has failed. -/
theorem Tracks.turn_bytes (h : u.Uploading n) (hend : s.ended = false)
    (hsize : s.fileSize = (u.contentLength - u.brought n : Nat))
    (hreceived : s.received.length = u.brought n) (hcalls : ∀ c ∈ s.calls, c.result = .success)
    (ha : (u.arrivals n).isBytes = true) : Tracks route u (n + 1) (s.turn (u.found n)) := by
  have hlen : s.len = min (u.contentLength - u.brought n) urlBufferSize := by
    rw [LoopState.len, hsize, Int.toNat_natCast]
  have hbrought : u.brought (n + 1) = u.brought n + ((u.arrivals n).taken s.len).length := by
    rw [hlen, brought]
  have hle : u.brought (n + 1) ≤ u.contentLength := brought_le (n + 1)
  have hsize' : toInt32 (s.fileSize - ((u.arrivals n).taken s.len).length) =
      (u.contentLength - u.brought (n + 1) : Nat) := by
    have hsub : s.fileSize - (((u.arrivals n).taken s.len).length : Int) =
        ((u.contentLength - u.brought (n + 1) : Nat) : Int) := by omega
    rw [hsub]
    exact toInt32_of_range (Nat.lt_of_le_of_lt (Nat.sub_le _ _) u.int)
  rw [found, LoopState.turn_of_bytes hend ha, hsize']
  by_cases hr : u.results n = .success
  · have hwrites : u.Writes (n + 1) := h.2.succ fun _ => hr
    have hcalls' : ∀ c ∈ s.calls ++ [StoreCall.mk s.memAddress
        ((u.arrivals n).taken s.len) (u.results n)], c.result = .success :=
      List.forall_mem_append.mpr ⟨hcalls, List.forall_mem_singleton.mpr hr⟩
    have hreceived' : (s.received ++ (u.arrivals n).taken s.len).length = u.brought (n + 1) := by
      rw [List.length_append, hreceived, hbrought]
    rcases Nat.lt_or_eq_of_le hle with hlt | heq
    · exact .uploading ⟨hlt, hwrites⟩ (by simp [hr]) rfl hreceived' hcalls'
    · exact .loaded heq ⟨n + 1, heq, hwrites⟩ (by simp [hr]) (by simp [heq])
        (hreceived'.trans heq) hcalls' rfl hr
  · have hfails : ¬u.Writes (n + 1) := fun hw => hr (hw n (Nat.lt_succ_self n) ha)
    refine .broken ⟨n, Nat.lt_succ_self n, h, hfails⟩ (by simp [hr]) ?_ ?_ rfl hr
    · rw [List.length_append, hreceived]
      omega
    · exact ⟨_, List.mem_append_right _ (List.mem_singleton_self _), hr⟩

theorem Tracks.turn (h : Tracks route u n s) (harrival : u.Uploading n → u.arrivals n ≠ .failed) :
    Tracks route u (n + 1) (s.turn (u.found n)) := by
  cases h with
  | uploading h hstopped hsize hreceived hcalls =>
    have hend : s.ended = false := by
      have := h.1
      simp only [LoopState.ended, hstopped, hsize, Bool.false_or, decide_eq_false_iff_not]
      omega
    cases ha : (u.arrivals n).isBytes with
    | false =>
      have hclosed := Arrival.eq_closed ha (harrival h)
      exact turn_closed h hend hstopped hsize hreceived hcalls ha hclosed
    | true => exact turn_bytes h hend hsize hreceived hcalls ha
  | loaded h hwrites hstopped hsize hreceived hcalls hassigned hretVal =>
    have hend : s.ended = true := by simp [LoopState.ended, hsize]
    have hsame : u.brought (n + 1) = u.contentLength := by
      have hmono : u.brought n ≤ u.brought (n + 1) := brought_mono (Nat.le_succ n)
      exact Nat.le_antisymm (brought_le (n + 1)) (h ▸ hmono)
    rw [found, LoopState.turn_of_ended hend]
    exact .loaded hsame hwrites hstopped hsize hreceived hcalls hassigned hretVal
  | broken h hstopped hreceived hcalls hassigned hretVal =>
    rw [found, LoopState.turn_of_ended (by simp [LoopState.ended, hstopped])]
    obtain ⟨i, hi, hfails⟩ := h
    exact .broken ⟨i, Nat.lt_succ_of_lt hi, hfails⟩ hstopped hreceived hcalls hassigned hretVal

theorem loop_tracks (h : ∀ i < n, u.Uploading i → u.arrivals i ≠ .failed) :
    Tracks route u n (u.loop route n) := by
  induction n with
  | zero =>
    refine .uploading ⟨u.pos, fun i hi => absurd hi (Nat.not_lt_zero i)⟩ rfl rfl rfl ?_
    exact fun c hc => absurd hc List.not_mem_nil
  | succ n ih =>
    rw [loop_succ]
    exact (ih fun i hi => h i (Nat.lt_succ_of_lt hi)).turn (h n (Nat.lt_succ_self n))

theorem Tracks.ended_iff (h : Tracks route u n s) : s.ended = true ↔ ¬u.Uploading n := by
  cases h with
  | uploading h hstopped hsize =>
    have := h.1
    refine iff_of_false ?_ (not_not.mpr h)
    simp only [LoopState.ended, hstopped, hsize, Bool.false_or, decide_eq_true_eq]
    omega
  | loaded h _ _ hsize =>
    exact iff_of_true (by simp [LoopState.ended, hsize]) fun hu => Nat.ne_of_lt hu.1 h
  | broken h hstopped =>
    obtain ⟨i, hi, -, hfails⟩ := h
    exact iff_of_true (by simp [LoopState.ended, hstopped]) fun hu => hfails (hu.2.of_le hi)

theorem Tracks.received_le (h : Tracks route u n s) : s.received.length ≤ u.contentLength := by
  cases h with
  | uploading _ _ _ hreceived => exact hreceived ▸ brought_le n
  | loaded _ _ _ _ hreceived => exact Nat.le_of_eq hreceived
  | broken _ _ hreceived => exact hreceived

theorem Tracks.assigned (h : Tracks route u n s) (hend : s.ended = true) : s.assigned = true := by
  have hnot := h.ended_iff.mp hend
  cases h with
  | uploading h => exact absurd h hnot
  | loaded _ _ _ _ _ _ hassigned => exact hassigned
  | broken _ _ _ _ hassigned => exact hassigned

-- ---------------------------------------------------------------------------
-- Responses
-- ---------------------------------------------------------------------------

theorem respond_of_started (h : u.started = true) :
    u.respond route n =
      if (u.loop route n).ended then some (route.finish u (u.loop route n) ⟨false, false⟩)
      else none := by
  simp only [started, Bool.and_eq_true] at h
  simp [respond, h.1, h.2]

theorem respond_of_not_started (route : Route) (n : Nat) (h : ¬u.started = true) :
    ∃ o, u.respond route n = some o ∧ o.held = ⟨false, false⟩ ∧ o.answer ≠ route.loaded ∧
      o.closedNull = (!u.opened && route.closesNull) := by
  rw [respond]
  cases hopened : u.opened with
  | false =>
    refine ⟨_, rfl, rfl, ?_, rfl⟩
    cases route <;> decide
  | true =>
    have hallocated : u.allocated = false := by simpa [started, hopened] using h
    rw [hallocated]
    refine ⟨_, rfl, rfl, ?_, rfl⟩
    cases route <;> decide

theorem finish_released {held : Held} :
    (route.finish u s held).held = held ∧ (route.finish u s held).closedNull = false := by
  cases route with
  | nvs =>
    rw [Route.finish]
    split <;> exact ⟨rfl, rfl⟩
  | sffs => exact ⟨rfl, rfl⟩

theorem released {o : Outcome} (hclose : u.opened = true ∨ route.closesNull = false)
    (h : u.respond route n = some o) : o.held = ⟨false, false⟩ ∧ o.closedNull = false := by
  by_cases hs : u.started = true
  · rw [respond_of_started hs] at h
    split at h
    · obtain rfl := Option.some.inj h
      exact finish_released
    · cases h
  · obtain ⟨o', ho', hheld, -, hnull⟩ := respond_of_not_started route n hs
    obtain rfl := Option.some.inj (ho'.symm.trans h)
    refine ⟨hheld, hnull.trans ?_⟩
    rcases hclose with hopened | hnone
    · rw [hopened]
      rfl
    · rw [hnone, Bool.and_false]

theorem Exact.opened (h : u.Exact route (respond route)) :
    u.opened = true ∨ route.closesNull = false := by
  by_cases hs : u.started = true
  · exact .inl (Bool.and_eq_true_iff.mp hs).1
  · obtain ⟨o, ho, -, -, hnull⟩ := respond_of_not_started route 0 hs
    have hsame := hnull.symm.trans (h.released 0 o ho).2
    simpa [or_iff_not_imp_left] using hsame

theorem Exact.arrivals (h : u.Exact route (respond route)) (hs : u.started = true) (n : Nat)
    (hn : u.Uploading n) : u.arrivals n ≠ .failed := by
  induction n using Nat.strong_induction_on with
  | h n ih =>
    intro hfailed
    have htracks : Tracks route u n (u.loop route n) := loop_tracks ih
    have hend : (u.loop route n).ended = false := by
      rw [Bool.eq_false_iff]
      exact fun hend => htracks.ended_iff.mp hend hn
    have hsame := h.failed n hs (by simp [hend]) (by rw [hfailed]; rfl)
    rw [loop_succ, found, LoopState.turn_of_not_bytes hend (by rw [hfailed]; rfl), hfailed] at hsame
    exact toInt32_sub_failed _ hsame

theorem Exact.sound (h : u.Exact route (respond route)) (hs : u.started = true) :
    u.Sound route where
  arrivals := h.arrivals hs
  complete hquiet := by
    obtain ⟨n, hn⟩ := h.ends hquiet
    rw [respond_of_started hs] at hn
    have hend : (u.loop route n).ended = true := by
      by_contra hend
      rw [if_neg hend] at hn
      cases hn
    exact ⟨n, (loop_tracks fun i _ => h.arrivals hs i).ended_iff.mp hend⟩
  results := by
    have htracks : ∀ n, Tracks route u n (u.loop route n) :=
      fun n => loop_tracks fun i _ => h.arrivals hs i
    cases route with
    | nvs =>
      rintro ⟨n, hn, hwrites⟩
      cases htracks n with
      | uploading hu => exact absurd hn (Nat.ne_of_lt hu.1)
      | broken hbroken =>
        obtain ⟨i, hi, -, hfails⟩ := hbroken
        exact absurd (hwrites.of_le hi) hfails
      | loaded _ _ _ hsize _ _ _ hretVal =>
        have hend : (u.loop .nvs n).ended = true := by simp [LoopState.ended, hsize]
        have hresponse : u.respond .nvs n =
            some ⟨Route.loaded .nvs, some u.headerResult, ⟨false, false⟩, false⟩ := by
          simp [respond_of_started hs, hend, Route.finish, hretVal]
        exact Option.some.inj ((h.loaded n _ hresponse rfl).2.2 rfl)
    | sffs =>
      intro n hn i hi hb
      rcases Nat.lt_succ_iff_lt_or_eq.mp hi with hlt | rfl
      · exact hn.2 i hlt hb
      cases htracks (i + 1) with
      | uploading hu => exact hu.2 i hi hb
      | loaded _ hwrites =>
        obtain ⟨k, hk, hwrites⟩ := hwrites
        refine hwrites i (Nat.lt_of_not_le fun hle => ?_) hb
        exact absurd (Nat.lt_of_le_of_lt (brought_mono hle) hn.1) (by omega)
      | broken _ hstopped _ hcalls =>
        have hend : (u.loop .sffs (i + 1)).ended = true := by simp [LoopState.ended, hstopped]
        have hresponse : u.respond .sffs (i + 1) =
            some ⟨Route.loaded .sffs, none, ⟨false, false⟩, false⟩ := by
          simp [respond_of_started hs, hend, Route.finish]
        obtain ⟨c, hc, hfails⟩ := hcalls
        exact absurd ((h.loaded _ _ hresponse rfl).2.1 c hc) hfails

theorem exact_of_not_started (hs : ¬u.started = true)
    (hclose : u.opened = true ∨ route.closesNull = false) : u.Exact route (respond route) where
  ends _ := by
    obtain ⟨o, ho, -⟩ := respond_of_not_started route 0 hs
    exact ⟨0, by rw [ho]; rfl⟩
  failed _ h := absurd h hs
  placed n := (loop_kept n).placed
  written n := (loop_kept n).written
  bounded _ h := absurd h hs
  loaded n o ho hanswer := by
    obtain ⟨o', ho', -, hnot, -⟩ := respond_of_not_started route n hs
    obtain rfl := Option.some.inj (ho'.symm.trans ho)
    exact absurd hanswer hnot
  defined _ h := absurd h hs
  released n o ho := released hclose ho

theorem Sound.exact (h : u.Sound route) (hs : u.started = true) :
    u.Exact route (respond route) where
  ends hquiet := by
    obtain ⟨n, hn⟩ := h.complete hquiet
    refine ⟨n, ?_⟩
    rw [respond_of_started hs, if_pos ((loop_tracks fun i _ => h.arrivals i).ended_iff.mpr hn)]
    rfl
  failed n _ hend ha := by
    have htracks : Tracks route u n (u.loop route n) := loop_tracks fun i _ => h.arrivals i
    have hu : u.Uploading n := not_not.mp (mt htracks.ended_iff.mpr hend)
    cases htracks with
    | loaded hn => exact absurd hn (Nat.ne_of_lt hu.1)
    | broken hbroken =>
      obtain ⟨i, hi, -, hfails⟩ := hbroken
      exact absurd (hu.2.of_le hi) hfails
    | uploading _ _ hsize =>
      have hrange : u.contentLength - u.brought n < 2 ^ 31 :=
        Nat.lt_of_le_of_lt (Nat.sub_le _ _) u.int
      rw [loop_succ, found, LoopState.turn_of_not_bytes (by simpa using hend) ha,
        Arrival.eq_closed ha (h.arrivals n hu)]
      simp only [Arrival.nbytes, Int.sub_zero, hsize]
      exact toInt32_of_range hrange
  placed n := (loop_kept n).placed
  written n := (loop_kept n).written
  bounded n _ := (loop_tracks fun i _ => h.arrivals i).received_le
  loaded n o ho hanswer := by
    have htracks : Tracks route u n (u.loop route n) := loop_tracks fun i _ => h.arrivals i
    rw [respond_of_started hs] at ho
    have hend : (u.loop route n).ended = true := by
      by_contra hend
      rw [if_neg hend] at ho
      cases ho
    rw [if_pos hend, Option.some.injEq] at ho
    subst ho
    have hnot := htracks.ended_iff.mp hend
    cases htracks with
    | uploading hu => exact absurd hu hnot
    | loaded _ hwrites _ _ hreceived hcalls _ hretVal =>
      refine ⟨hreceived, hcalls, ?_⟩
      rintro rfl
      simp [Route.finish, hretVal, h.results hwrites]
    | broken hbroken _ _ _ _ hretVal =>
      obtain ⟨i, -, hu, hfails⟩ := hbroken
      cases route with
      | nvs =>
        simp only [Route.finish, hretVal, ne_eq, not_false_eq_true, if_true] at hanswer
        exact absurd hanswer (by decide)
      | sffs => exact absurd (h.results i hu) hfails
  defined n _ hend := (loop_tracks fun i _ => h.arrivals i).assigned hend
  released n o ho := released (.inl (Bool.and_eq_true_iff.mp hs).1) ho

end Upload

/-- Both handlers upload exactly when what they meet is sound, or when there is no buffer or,
for the file system, no file to upload to. -/
theorem upload_exact_iff (u : Upload) :
    (u.Exact .nvs urlApiConfigurationNVS ↔
        u.opened ∧ (u.allocated → u.Sound .nvs)) ∧
      (u.Exact .sffs setFlashDataFileNameHTTP ↔
        (u.opened → u.allocated → u.Sound .sffs)) := by
  have hroute : ∀ route, u.Exact route (Upload.respond route) ↔
      (u.opened ∨ route.closesNull = false) ∧ (u.opened → u.allocated → u.Sound route) := by
    intro route
    by_cases hs : u.started = true
    · have hboth : u.opened = true ∧ u.allocated = true := by
        simpa [Upload.started] using hs
      rw [forall_prop_of_true hboth.1, forall_prop_of_true hboth.2]
      exact ⟨fun h => ⟨h.opened, h.sound hs⟩, fun h => h.2.exact hs⟩
    · refine ⟨fun h => ⟨h.opened, fun hopened hallocated => absurd ?_ hs⟩,
        fun h => Upload.exact_of_not_started hs h.1⟩
      simp [Upload.started, hopened, hallocated]
  constructor
  · rw [show urlApiConfigurationNVS = Upload.respond .nvs from rfl, hroute .nvs]
    simp only [Route.closesNull, Bool.true_eq_false, or_false]
    exact and_congr_right fun hopened => forall_prop_of_true hopened
  · rw [show setFlashDataFileNameHTTP = Upload.respond .sffs from rfl, hroute .sffs]
    exact and_iff_right (.inr rfl)

def closedUpload : Upload where
  contentLength := 1
  pos := Nat.one_pos
  int := by decide
  opened := true
  allocated := true
  arrivals _ := .closed
  results _ := .success
  headerResult := .success
  uninit := .success

theorem closed_upload_never_ends :
    ¬closedUpload.Exact .nvs urlApiConfigurationNVS ∧
      ¬closedUpload.Exact .sffs setFlashDataFileNameHTTP := by
  have hclosed : ∀ route, ¬closedUpload.Exact route (Upload.respond route) := by
    intro route h
    obtain ⟨n, hn⟩ := (h.sound rfl).complete ⟨0, fun _ _ => rfl⟩
    have hnone : ∀ k, closedUpload.brought k = 0 := by
      intro k
      induction k with
      | zero => rfl
      | succ k ih =>
        rw [Upload.brought, ih]
        rfl
    refine hn ⟨?_, fun _ _ _ => rfl⟩
    rw [hnone]
    exact Nat.one_pos
  exact ⟨hclosed .nvs, hclosed .sffs⟩

end SystemMaster.Http
