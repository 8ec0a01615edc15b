import SystemMaster.Http.QueryString

/-!
# Requests on a socket

The server reads a request line by line, a byte at a time but for the first two of each
line, and gives the method, the path, the arguments and the length of the body to its
handlers in turn. A request in the right form is taken apart as it was put together,
however the network cuts it between the first two bytes of its lines.
-/

namespace SystemMaster.Http

open Texts

-- ---------------------------------------------------------------------------
-- Sockets
-- ---------------------------------------------------------------------------

/-- A byte of the input, and whether it comes too late to be read with the one before. -/
structure Arrived where
  byte : UInt8
  apart : Bool
  deriving DecidableEq

/-- What is still to come on a connection, and whether it then fails or is closed. -/
structure Socket where
  input : List Arrived
  fails : Bool
  deriving DecidableEq

/-- `recv` of up to `n` bytes. It gives none when it fails or the connection is closed. -/
def Socket.recv (s : Socket) (n : Nat) : List UInt8 × Socket :=
  match s.input with
  | [] => ([], s)
  | a :: rest =>
    let more := (rest.takeWhile fun b => !b.apart).take (n - 1)
    (a.byte :: more.map Arrived.byte, { s with input := rest.drop more.length })

inductive StatusCode where
  | ok
  | badRequest
  | notFound
  | requestEntityTooLarge
  deriving DecidableEq

/-- `HTTPServer_sendErrorResponse` and `HTTPServer_sendSimpleResponse`. -/
inductive Response where
  | error (code : StatusCode)
  | simple (code : StatusCode) (contentType : String) (length : Nat) (body : List UInt8)
  deriving DecidableEq

/-- A session: its socket, its line buffer and what was sent. -/
structure Session where
  socket : Socket
  line : Memory UInt8
  sent : List Response

def Session.send (s : Session) (r : Response) : Session := { s with sent := s.sent ++ [r] }

-- ---------------------------------------------------------------------------
-- Lines
-- ---------------------------------------------------------------------------

def maxLineLen : Nat := 256

def maxURILen : Nat := 112

def carriageReturn : UInt8 := 0x0D

def lineFeed : UInt8 := 0x0A

def space : UInt8 := 0x20

def questionMark : UInt8 := 0x3F

def crlf : List UInt8 := [carriageReturn, lineFeed]

def ascii (s : String) : List UInt8 := s.toList.map Char.toUInt8

inductive LineResult where
  | eoline
  | eoheader
  | socketError
  deriving DecidableEq

def Session.broken (s : Session) : LineResult × Session :=
  (.socketError, if s.socket.fails then s.send (.error .badRequest) else s)

def recvRest : Nat → Session → LineResult × Session
  | 0, s => (.socketError, s)
  | room + 1, s =>
    match s.socket.recv 1 with
    | ([], _) => s.broken
    | (b :: _, socket) =>
      let len := maxLineLen - (room + 1)
      let line := s.line.write len [b]
      let s := { s with socket := socket, line := line }
      if room = 0 then (.socketError, s.send (.error .requestEntityTooLarge))
      else if line (len - 1) = carriageReturn ∧ line len = lineFeed then
        (.eoline, { s with line := line.write (len + 1) [0] })
      else recvRest room s

def httpRecvLine (s : Session) : LineResult × Session :=
  match s.socket.recv 2 with
  | ([], _) => s.broken
  | (bytes, socket) =>
    let line := s.line.write 0 bytes
    let s := { s with socket := socket, line := line }
    if line 0 = carriageReturn ∧ line 1 = lineFeed then (.eoheader, s)
    else recvRest (maxLineLen - 2) s

def Session.text (s : Session) : List UInt8 := textFrom 0 s.line maxLineLen 0

-- ---------------------------------------------------------------------------
-- Transactions
-- ---------------------------------------------------------------------------

inductive Method where
  | get
  | post
  | put
  | patch
  | delete
  deriving DecidableEq

inductive Tag where
  | method (m : Method)
  | contentLength
  | host
  | dontCare
  deriving DecidableEq

def httpExtractTag (tag : List UInt8) : Tag :=
  if ascii "GET" <+: tag then .method .get
  else if ascii "PUT" <+: tag then .method .put
  else if ascii "PATCH" <+: tag then .method .patch
  else if ascii "DELETE" <+: tag then .method .delete
  else if ascii "POST" <+: tag then .method .post
  else if ascii "Content-Length: " <+: tag then .contentLength
  else if ascii "Host: " <+: tag then .host
  else .dontCare

structure Call where
  method : Method
  uri : List UInt8
  uriArgs : Option (List UInt8)
  contentLength : Int
  deriving DecidableEq

inductive Handled where
  | handled
  | handledStop
  | errorHandled
  | notHandled
  deriving DecidableEq

abbrev Handler := Call → Session → Handled × Session

def process : List Handler → Call → Session → Handled × Session
  | [], _, s => (.notHandled, s)
  | h :: hs, call, s =>
    match h call s with
    | (.notHandled, s) => process hs call s
    | r => r

def requestLine (line : List UInt8) : Except StatusCode (Method × List UInt8) :=
  match httpExtractTag line with
  | .method m =>
    let beg := (line.dropWhile (· ≠ space)).dropWhile (· = space)
    let uri := beg.takeWhile (· ≠ space)
    if space ∉ line then .error .badRequest
    else if space ∉ beg then .error .badRequest
    else if uri.length < maxURILen then .ok (m, uri)
    else .error .requestEntityTooLarge
  | _ => .error .badRequest

def splitUri (uri : List UInt8) : List UInt8 × Option (List UInt8) :=
  (uri.takeWhile (· ≠ questionMark),
    if questionMark ∈ uri then some ((uri.dropWhile (· ≠ questionMark)).drop 1) else none)

/-- The length that a field sets, `16` being the size of its name. -/
def fieldLength (field : List UInt8) (contentLength : Int) : Int :=
  if httpExtractTag field = .contentLength then (atoi (field.drop 16)).toInt32.toInt
  else contentLength

/-- The loop over the fields, for at most so many lines. -/
def recvFields : Nat → Int → Session → LineResult × Int × Session
  | 0, contentLength, s => (.socketError, contentLength, s)
  | fuel + 1, contentLength, s =>
    match httpRecvLine s with
    | (.eoline, s) => recvFields fuel (fieldLength s.text contentLength) s
    | (r, s) => (r, contentLength, s)

/-- A loop that receives and drops `len` bytes, at most `bound` at a time. -/
def dump (bound : Nat) : Nat → Nat → Session → Nat × Session
  | 0, len, s => (len, s)
  | fuel + 1, len, s =>
    if len = 0 then (len, s)
    else
      match s.socket.recv (min len bound) with
      | ([], _) => (len, s)
      | (bytes, socket) => dump bound fuel (len - bytes.length) { s with socket := socket }

def handle404 (contentLength : Int) (s : Session) : Int × Session :=
  if 0 < contentLength then
    let (left, s) := dump 32 contentLength.toNat contentLength.toNat s
    (left, s.send (.error .notFound))
  else (contentLength, s.send (.error .notFound))

/-- How a transaction ends: whether the session is to be closed, whether the server is to
stop, the session and the call of the handlers if it came to one. -/
structure Transaction where
  closes : Bool
  stop : Bool
  session : Session
  call : Option Call

def serve (handlers : List Handler) (call : Call) (s : Session) : Transaction :=
  match process handlers call s with
  | (.notHandled, s) =>
    let (left, s) := handle404 call.contentLength s
    ⟨left ≠ 0, false, s, some call⟩
  | (.errorHandled, s) => ⟨true, false, s, some call⟩
  | (.handledStop, s) => ⟨false, true, s, some call⟩
  | (.handled, s) => ⟨false, false, s, some call⟩

/-- The URI is copied behind the line, and ends at its first question mark. `uriArgs`
is where the arguments stand. -/
def Session.keepUri (s : Session) (uri : List UInt8) : Session × Option Nat :=
  let line := s.line.write maxLineLen (uri ++ [0])
  if questionMark ∈ uri then
    let mark := maxLineLen + (uri.takeWhile (· ≠ questionMark)).length
    ({ s with line := line.write mark [0] }, some (mark + 1))
  else ({ s with line := line }, none)

def Session.call (s : Session) (method : Method) (uriArgs : Option Nat) (contentLength : Int) :
    Call where
  method := method
  uri := textFrom 0 s.line maxURILen maxLineLen
  uriArgs := uriArgs.map (textFrom 0 s.line maxURILen)
  contentLength := contentLength

def transact (handlers : List Handler) (s : Session) : Transaction :=
  match httpRecvLine s with
  | (.eoline, s) =>
    match requestLine s.text with
    | .error code => ⟨true, false, s.send (.error code), none⟩
    | .ok (method, uri) =>
      let (s, uriArgs) := s.keepUri uri
      match recvFields (s.socket.input.length + 1) 0 s with
      | (.eoheader, contentLength, s) => serve handlers (s.call method uriArgs contentLength) s
      | (_, _, s) => ⟨true, false, s, none⟩
  | (_, s) => ⟨true, false, s, none⟩

-- ---------------------------------------------------------------------------
-- Requests as clients write them
-- ---------------------------------------------------------------------------

def Method.name : Method → List UInt8
  | get => ascii "GET"
  | post => ascii "POST"
  | put => ascii "PUT"
  | patch => ascii "PATCH"
  | delete => ascii "DELETE"

/-- A request line, with how many spaces more than one stand before the URI, and the
fields under it. -/
structure Request where
  method : Method
  spaces : Nat
  uri : List UInt8
  version : List UInt8
  fields : List (List UInt8)

namespace Request

def firstLine (r : Request) : List UInt8 :=
  r.method.name ++ List.replicate (r.spaces + 1) space ++ r.uri ++ space :: r.version

def call (r : Request) : Call where
  method := r.method
  uri := (splitUri r.uri).1
  uriArgs := (splitUri r.uri).2
  contentLength := r.fields.foldl (fun n field => fieldLength field n) 0

end Request

structure TextLine (line : List UInt8) : Prop where
  nonempty : line ≠ []
  nonzero : 0 ∉ line
  unbroken : ¬crlf <:+: line
  short : line.length + 2 < maxLineLen

structure Request.WellFormed (r : Request) : Prop where
  firstLine : TextLine r.firstLine
  fields : ∀ field ∈ r.fields, TextLine field
  uri_nonempty : r.uri ≠ []
  uri_space : space ∉ r.uri
  uri_short : r.uri.length < maxURILen

structure Cut (line : List UInt8) (input : List Arrived) : Prop where
  bytes : input.map Arrived.byte = line ++ crlf
  together : ∀ b ∈ input[1]?, b.apart = false

def Request.lines (r : Request) : List (List UInt8) := r.firstLine :: (r.fields ++ [[]])

variable {handlers : List Handler} {s : Session} {r : Request} {line field x y pre post : List UInt8}
  {a rest : List Arrived} {fields : List (List UInt8)} {as : List (List Arrived)} {m : Method}
  {room fuel n : Nat} {length : Int}

-- ---------------------------------------------------------------------------
-- A line is read as it was written
-- ---------------------------------------------------------------------------

def Session.took (s : Session) (line : List UInt8) (rest : List Arrived) : Session :=
  { s with socket := { s.socket with input := rest }, line := s.line.write 0 (line ++ crlf ++ [0]) }

theorem recv_one {b : Arrived} (h : s.socket.input = b :: rest) :
    s.socket.recv 1 = ([b.byte], { s.socket with input := rest }) := by
  simp [Socket.recv, h]

theorem not_suffix_of_prefix (hline : pre ++ post = line ++ crlf) (hpost : post ≠ [])
    (hbreak : ¬crlf <:+: line) : ¬crlf <:+ pre := by
  rintro ⟨u, rfl⟩
  obtain ⟨v, c, rfl⟩ := List.eq_nil_or_concat post |>.resolve_left hpost
  have hcut : u ++ crlf ++ v ++ [c] = line ++ [carriageReturn] ++ [lineFeed] := by
    simpa [crlf] using hline
  obtain ⟨hcut, -⟩ := List.append_inj' hcut rfl
  rcases List.eq_nil_or_concat v with rfl | ⟨v, d, rfl⟩
  · have hlast : u ++ [carriageReturn] ++ [lineFeed] = line ++ [carriageReturn] := by
      simpa [crlf] using hcut
    exact absurd (List.append_inj' hlast rfl).2 (by decide)
  · have hlast : u ++ crlf ++ v ++ [d] = line ++ [carriageReturn] := by simpa using hcut
    exact hbreak ⟨u, v, (List.append_inj' hlast rfl).1⟩

theorem suffix_crlf_iff {m : Memory UInt8} (hread : m.read 0 pre.length = pre) (hlength : 2 ≤ pre.length) :
    crlf <:+ pre ↔ m (pre.length - 2) = carriageReturn ∧ m (pre.length - 1) = lineFeed := by
  obtain ⟨k, hk⟩ := Nat.exists_eq_add_of_le' hlength
  have hsplit : pre = m.read 0 k ++ [m k, m (k + 1)] := by
    rw [← hread, hk, Memory.read_append]
    simp [Memory.read, List.range_succ]
  rw [hk, Nat.add_sub_cancel, Nat.add_sub_assoc (by decide)]
  conv_lhs => rw [hsplit]
  constructor
  · intro h
    have hsuffix : crlf <:+ [m k, m (k + 1)] :=
      List.suffix_of_suffix_length_le h (List.suffix_append ..) (by rfl)
    have htail := hsuffix.eq_of_length rfl
    simpa [crlf, eq_comm] using htail
  · rintro ⟨h, h'⟩
    simp [crlf, h, h']

theorem recvRest_line (hline : pre ++ post = line ++ crlf) (hbreak : ¬crlf <:+: line)
    (hshort : line.length + 2 < maxLineLen) (hlength : 2 ≤ pre.length) (hpost : post ≠ [])
    (hroom : pre.length + room = maxLineLen) (hread : s.line.read 0 pre.length = pre)
    (hbytes : a.map Arrived.byte = post) (hinput : s.socket.input = a ++ rest) :
    recvRest room s = (.eoline, { s with
      socket := { s.socket with input := rest }
      line := s.line.write pre.length (post ++ [0]) }) := by
  induction a generalizing s pre post room with
  | nil => exact absurd hbytes.symm hpost
  | cons b a ih =>
    obtain rfl : b.byte :: a.map Arrived.byte = post := hbytes
    have htotal : pre.length + (a.length + 1) = line.length + 2 := by
      simpa [crlf] using congrArg List.length hline
    obtain ⟨room, rfl⟩ : ∃ k, room = k + 1 := ⟨room - 1, by omega⟩
    have hlen : maxLineLen - (room + 1) = pre.length := by omega
    have hread' : (s.line.write pre.length [b.byte]).read 0 (pre ++ [b.byte]).length =
        pre ++ [b.byte] := by
      have hsucc := Memory.read_write_succ s.line 0 pre.length b.byte
      rw [hread, Nat.zero_add] at hsucc
      simpa using hsucc
    have hend := suffix_crlf_iff hread' (by simp; omega)
    simp only [List.length_append, List.length_singleton, Nat.add_sub_cancel] at hend
    rw [show pre.length + 1 - 2 = pre.length - 1 by omega] at hend
    rw [recvRest, recv_one hinput]
    dsimp only
    rw [hlen, if_neg (by omega)]
    by_cases hlast : a = []
    · subst hlast
      have hsuffix : crlf <:+ pre ++ [b.byte] := ⟨line, by simpa using hline.symm⟩
      have hwrite : s.line.write pre.length [b.byte, 0] =
          (s.line.write pre.length [b.byte]).write (pre.length + 1) [0] := Memory.write_cons
      rw [if_pos (hend.mp hsuffix), ← hwrite]
      rfl
    · have hmore : ¬crlf <:+ pre ++ [b.byte] :=
        not_suffix_of_prefix (by simpa using hline) (by simpa using hlast) hbreak
      rw [if_neg fun h => hmore (hend.mpr h)]
      have hline' : (pre ++ [b.byte]) ++ a.map Arrived.byte = line ++ crlf := by simpa using hline
      rw [ih hline' (by simp; omega) (by simpa using hlast) (by simp; omega) hread' rfl rfl]
      have hwrite : s.line.write pre.length (b.byte :: (a.map Arrived.byte ++ [0])) =
          (s.line.write pre.length [b.byte]).write (pre.length + 1) (a.map Arrived.byte ++ [0]) :=
        Memory.write_cons
      rw [List.length_append, List.length_singleton, ← hwrite]
      rfl

theorem recv_two (hcut : Cut line a) (hinput : s.socket.input = a ++ rest) :
    ∃ b c a', a = b :: c :: a' ∧
      s.socket.recv 2 = ([b.byte, c.byte], { s.socket with input := a' ++ rest }) := by
  have hlength : 2 ≤ a.length := by
    have hbytes := congrArg List.length hcut.bytes
    simp [crlf] at hbytes
    omega
  match a, hlength with
  | b :: c :: a', _ =>
    have hc : c.apart = false := hcut.together c rfl
    exact ⟨b, c, a', rfl, by simp [Socket.recv, hinput, hc]⟩

theorem httpRecvLine_line (htext : TextLine line) (hcut : Cut line a)
    (hinput : s.socket.input = a ++ rest) : httpRecvLine s = (.eoline, s.took line rest) := by
  obtain ⟨b, c, a', rfl, hrecv⟩ := recv_two hcut hinput
  have hline : [b.byte, c.byte] ++ a'.map Arrived.byte = line ++ crlf := hcut.bytes
  have hpost : a'.map Arrived.byte ≠ [] := by
    intro hnil
    have hlength := congrArg List.length hline
    exact htext.nonempty (by simpa [crlf, hnil] using hlength)
  have hread : (s.line.write 0 [b.byte, c.byte]).read 0 2 = [b.byte, c.byte] :=
    Memory.read_write s.line 0 [b.byte, c.byte]
  have hstart : crlf <:+ [b.byte, c.byte] ↔ s.line.write 0 [b.byte, c.byte] 0 = carriageReturn ∧
      s.line.write 0 [b.byte, c.byte] 1 = lineFeed := suffix_crlf_iff hread le_rfl
  rw [httpRecvLine, hrecv]
  dsimp only
  rw [if_neg fun h => not_suffix_of_prefix hline hpost htext.unbroken (hstart.mpr h),
    recvRest_line hline htext.unbroken htext.short le_rfl hpost rfl hread rfl rfl]
  simp only [Session.took, ← hline, List.append_assoc]
  congr 2
  have hwrite : s.line.write 0 ([b.byte, c.byte] ++ (a'.map Arrived.byte ++ [0])) =
      (s.line.write 0 [b.byte, c.byte]).write 2 (a'.map Arrived.byte ++ [0]) := Memory.write_append
  exact hwrite.symm

theorem httpRecvLine_end (hcut : Cut [] a) (hinput : s.socket.input = a ++ rest) :
    httpRecvLine s = (.eoheader, { s with
      socket := { s.socket with input := rest }, line := s.line.write 0 crlf }) := by
  obtain ⟨b, c, a', rfl, hrecv⟩ := recv_two hcut hinput
  have hline : [b.byte, c.byte] ++ a'.map Arrived.byte = crlf := hcut.bytes
  obtain rfl : a' = [] := by simpa [crlf] using congrArg List.length hline
  have hread : (s.line.write 0 [b.byte, c.byte]).read 0 2 = [b.byte, c.byte] :=
    Memory.read_write s.line 0 [b.byte, c.byte]
  have hstart : crlf <:+ [b.byte, c.byte] ↔ s.line.write 0 [b.byte, c.byte] 0 = carriageReturn ∧
      s.line.write 0 [b.byte, c.byte] 1 = lineFeed := suffix_crlf_iff hread le_rfl
  rw [httpRecvLine, hrecv]
  dsimp only
  rw [if_pos (hstart.mp ⟨[], by simpa using hline.symm⟩)]
  simp_all

theorem took_text (htext : TextLine line) : (s.took line rest).text = line ++ crlf := by
  have hzero : (0 : UInt8) ∉ line ++ crlf := by simp [htext.nonzero, crlf, carriageReturn, lineFeed]
  have htextAt : TextAt 0 (s.line.write 0 (line ++ crlf ++ [0])) 0 (line ++ crlf) :=
    textAt_write hzero
  refine htextAt.textFrom_eq ?_
  rw [List.length_append]
  exact htext.short.le

theorem takeWhile_of_notMem {c : UInt8} (h : c ∉ x) : (x ++ c :: y).takeWhile (· ≠ c) = x := by
  rw [List.takeWhile_append_of_pos fun b hb => by simpa using ne_of_mem_of_not_mem hb h]
  simp

theorem dropWhile_of_notMem {c : UInt8} (h : c ∉ x) : (x ++ c :: y).dropWhile (· ≠ c) = c :: y := by
  rw [List.dropWhile_append_of_pos fun b hb => by simpa using ne_of_mem_of_not_mem hb h]
  simp

theorem dropWhile_spaces (hx : x ≠ []) (hspace : space ∉ x) :
    (List.replicate (n + 1) space ++ (x ++ y)).dropWhile (· = space) = x ++ y := by
  rw [List.dropWhile_append_of_pos (by simp)]
  obtain ⟨c, x, rfl⟩ := List.exists_cons_of_ne_nil hx
  have hc : c ≠ space := (List.ne_of_not_mem_cons hspace).symm
  simp [hc]

theorem method_space (m : Method) : space ∉ m.name := by cases m <;> decide

theorem extractTag_method (m : Method) : httpExtractTag (m.name ++ x) = .method m := by
  cases m <;> simp +decide [httpExtractTag, Method.name, ascii]

theorem requestLine_eq (h : r.WellFormed) :
    requestLine (r.firstLine ++ crlf) = .ok (r.method, r.uri) := by
  have hline : r.firstLine ++ crlf = r.method.name ++ space ::
      (List.replicate r.spaces space ++ (r.uri ++ space :: (r.version ++ crlf))) := by
    simp [Request.firstLine, List.replicate_succ]
  have hbeg : ((r.firstLine ++ crlf).dropWhile (· ≠ space)).dropWhile (· = space) =
      r.uri ++ space :: (r.version ++ crlf) := by
    rw [hline, dropWhile_of_notMem (method_space _)]
    exact dropWhile_spaces h.uri_nonempty h.uri_space
  have htag : httpExtractTag (r.firstLine ++ crlf) = .method r.method := by
    rw [hline, extractTag_method]
  simp only [requestLine, htag, hbeg, takeWhile_of_notMem h.uri_space]
  rw [if_neg (by simp [hline]), if_neg (by simp), if_pos h.uri_short]

-- ---------------------------------------------------------------------------
-- The fields
-- ---------------------------------------------------------------------------

theorem decimal_crlf (t : List UInt8) : decimal (t ++ crlf) = decimal t := by
  have hnone : crlf.takeWhile isDigit = [] := by decide
  rw [decimal, decimal, List.takeWhile_append, hnone]
  split
  case isTrue h => rw [List.append_nil, List.IsPrefix.eq_of_length (List.takeWhile_prefix _) h]
  case isFalse => rfl

/-- What ends a line is white space to `atoi`. -/
theorem atoi_crlf (t : List UInt8) : atoi (t ++ crlf) = atoi t := by
  have hspaces : crlf.dropWhile isSpace = [] := by decide
  rw [atoi, atoi, List.dropWhile_append, hspaces]
  cases t.dropWhile isSpace with
  | nil => rfl
  | cons c u =>
    simp only [List.isEmpty_cons, Bool.false_eq_true, ↓reduceIte, List.cons_append]
    split
    case h_1 heq =>
      obtain ⟨rfl, rfl⟩ := List.cons.inj heq
      simp [decimal_crlf]
    case h_2 heq =>
      obtain ⟨rfl, rfl⟩ := List.cons.inj heq
      simp [decimal_crlf]
    case h_3 hminus hplus =>
      rw [← List.cons_append, decimal_crlf]
      split
      case h_1 heq =>
        obtain ⟨rfl, rfl⟩ := List.cons.inj heq
        exact absurd rfl (hminus _)
      case h_2 heq =>
        obtain ⟨rfl, rfl⟩ := List.cons.inj heq
        exact absurd rfl (hplus _)
      case h_3 => rfl

theorem prefix_crlf_iff (hx : carriageReturn ∉ x) : x <+: y ++ crlf ↔ x <+: y := by
  induction x generalizing y with
  | nil => simp
  | cons c x ih =>
    obtain ⟨hc, hx⟩ := List.ne_and_not_mem_of_not_mem_cons hx
    cases y with
    | nil => simp [crlf, hc.symm]
    | cons d y => simp [List.cons_prefix_cons, ih hx]

theorem extractTag_crlf (field : List UInt8) :
    httpExtractTag (field ++ crlf) = httpExtractTag field := by
  simp (disch := decide) only [httpExtractTag, prefix_crlf_iff]

theorem fieldLength_crlf (field : List UInt8) (length : Int) :
    fieldLength (field ++ crlf) length = fieldLength field length := by
  simp only [fieldLength, extractTag_crlf]
  split
  case isTrue h =>
    have hname : ascii "Content-Length: " <+: field := by
      simp only [httpExtractTag] at h
      split_ifs at h with h₁ h₂ h₃ h₄ h₅ h₆ h₇
      exact h₆
    have hsize : 16 ≤ field.length := hname.length_le
    rw [List.drop_append_of_le_length hsize, atoi_crlf]
  case isFalse => rfl

theorem recvFields_fields (length : Int) (hfields : ∀ f ∈ fields, TextLine f)
    (hcut : List.Forall₂ Cut (fields ++ [[]]) as) (hinput : s.socket.input = as.flatten ++ rest)
    (hfuel : fields.length < fuel) :
    ∃ line, recvFields fuel length s =
      (.eoheader, fields.foldl (fun n field => fieldLength field n) length,
        { s with socket := { s.socket with input := rest }, line := line }) := by
  induction fields generalizing s as length fuel with
  | nil =>
    obtain ⟨fuel, rfl⟩ := Nat.exists_eq_succ_of_ne_zero (Nat.ne_zero_of_lt hfuel)
    obtain ⟨a, as, ha, has, rfl⟩ := List.forall₂_cons_left_iff.mp hcut
    obtain rfl := List.forall₂_nil_left_iff.mp has
    refine ⟨s.line.write 0 crlf, ?_⟩
    rw [recvFields, httpRecvLine_end ha (by simpa using hinput)]
    rfl
  | cons field fields ih =>
    obtain ⟨fuel, rfl⟩ := Nat.exists_eq_succ_of_ne_zero (Nat.ne_zero_of_lt hfuel)
    obtain ⟨a, as, ha, has, rfl⟩ := List.forall₂_cons_left_iff.mp hcut
    have htext := hfields field List.mem_cons_self
    have hinput' : (s.took field (as.flatten ++ rest)).socket.input = as.flatten ++ rest := rfl
    obtain ⟨line, hrest⟩ := ih (fieldLength field length)
      (fun f hf => hfields f (List.mem_cons_of_mem _ hf)) has hinput' (Nat.lt_of_succ_lt_succ hfuel)
    refine ⟨line, ?_⟩
    rw [recvFields, httpRecvLine_line htext ha (by simpa using hinput)]
    dsimp only
    rw [took_text htext, fieldLength_crlf, hrest]
    rfl

theorem length_le_flatten (hcut : List.Forall₂ Cut fields as) :
    fields.length ≤ as.flatten.length := by
  induction hcut with
  | nil => rfl
  | cons ha _ ih =>
    have hlength := congrArg List.length ha.bytes
    simp only [List.length_map, List.length_append, crlf, List.length_cons, List.length_nil,
      List.flatten_cons] at hlength ⊢
    omega

-- ---------------------------------------------------------------------------
-- What reading leaves alone
-- ---------------------------------------------------------------------------

/-- Input is used up from its front, and only the first `n` bytes of the buffer are
written. -/
structure Session.Frame (n : Nat) (s s' : Session) : Prop where
  line : ∀ a, n ≤ a → s'.line a = s.line a
  input : s'.socket.input <:+ s.socket.input
  fails : s'.socket.fails = s.socket.fails

theorem Session.Frame.refl (n : Nat) (s : Session) : s.Frame n s :=
  ⟨fun _ _ => rfl, List.suffix_rfl, rfl⟩

theorem Session.Frame.trans {s s' s'' : Session} (h : Frame n s s') (h' : Frame n s' s'') :
    Frame n s s'' :=
  ⟨fun a ha => (h'.line a ha).trans (h.line a ha), h'.input.trans h.input, h'.fails.trans h.fails⟩

theorem Session.Frame.mono {s s' : Session} {k : Nat} (h : Frame n s s') (hle : n ≤ k) :
    Frame k s s' := ⟨fun a ha => h.line a (hle.trans ha), h.input, h.fails⟩

theorem Session.Frame.send {s s' : Session} (h : Frame n s s') (response : Response) :
    Frame n s (s'.send response) := ⟨h.line, h.input, h.fails⟩

/-- Nothing is sent but one error, or nothing at all. -/
def Session.Terse (s s' : Session) : Prop :=
  s'.sent = s.sent ∨ ∃ code, s'.sent = s.sent ++ [.error code]

/-- How reading a line may go. -/
structure Session.Reads (s : Session) (result : LineResult × Session) : Prop where
  frame : Frame maxLineLen s result.2
  terse : s.Terse result.2
  silent : result.1 ≠ .socketError → result.2.sent = s.sent
  shorter : result.1 ≠ .socketError → result.2.socket.input.length < s.socket.input.length

theorem Session.reads_broken (s : Session) : s.Reads s.broken := by
  rw [Session.broken]
  split
  case isTrue => exact ⟨(Frame.refl _ s).send _, .inr ⟨_, rfl⟩, by simp, by simp⟩
  case isFalse => exact ⟨Frame.refl _ s, .inl rfl, by simp, by simp⟩

theorem Socket.recv_cases (socket : Socket) (n : Nat) :
    socket.recv n = ([], socket) ∨ ∃ bytes rest, socket.recv n = (bytes, { socket with input := rest }) ∧
      bytes ≠ [] ∧ bytes.length ≤ max 1 n ∧ rest <:+ socket.input ∧ rest.length + bytes.length = socket.input.length := by
  cases h : socket.input with
  | nil => exact .inl (by simp [Socket.recv, h])
  | cons b rest =>
    refine .inr ⟨_, _, by rw [Socket.recv, h], by simp, ?_, ?_, ?_⟩
    · simp
      omega
    · exact (List.drop_suffix ..).trans (List.suffix_cons ..)
    · have hlength := (List.takeWhile_prefix (fun b => !b.apart) (l := rest)).length_le
      simp
      omega

theorem recvRest_reads (hroom : room ≤ maxLineLen) : s.Reads (recvRest room s) := by
  induction room generalizing s with
  | zero => exact ⟨.refl _ s, .inl rfl, by simp [recvRest], by simp [recvRest]⟩
  | succ room ih =>
    rw [recvRest]
    rcases s.socket.recv_cases 1 with h | ⟨bytes, rest, h, hne, -, hsuffix, hlength⟩
    · rw [h]
      exact s.reads_broken
    · obtain ⟨b, more, rfl⟩ := List.exists_cons_of_ne_nil hne
      rw [h]
      dsimp only
      have hwrite (a : Nat) (ha : maxLineLen ≤ a) :
          s.line.write (maxLineLen - (room + 1)) [b] a = s.line a :=
        Memory.write_of_ge (by simp; omega)
      have hless : rest.length < s.socket.input.length := by
        simp at hlength
        omega
      split_ifs with hzero hend
      · exact ⟨⟨hwrite, hsuffix, rfl⟩, .inr ⟨_, rfl⟩, by simp, by simp⟩
      · refine ⟨⟨fun a ha => ?_, hsuffix, rfl⟩, .inl rfl, fun _ => rfl, fun _ => hless⟩
        exact (Memory.write_of_ge (by simp; omega)).trans (hwrite a ha)
      · have hrest := ih (s := { s with
          socket := { s.socket with input := rest }
          line := s.line.write (maxLineLen - (room + 1)) [b] }) (by omega)
        exact ⟨⟨fun a ha => (hrest.frame.line a ha).trans (hwrite a ha),
          hrest.frame.input.trans hsuffix, hrest.frame.fails⟩, hrest.terse, hrest.silent,
          fun hr => (hrest.shorter hr).trans hless⟩

theorem httpRecvLine_reads (s : Session) : s.Reads (httpRecvLine s) := by
  rw [httpRecvLine]
  rcases s.socket.recv_cases 2 with h | ⟨bytes, rest, h, hne, htwo, hsuffix, hlength⟩
  · rw [h]
    exact s.reads_broken
  · obtain ⟨b, more, rfl⟩ := List.exists_cons_of_ne_nil hne
    rw [h]
    dsimp only
    have hwrite (a : Nat) (ha : maxLineLen ≤ a) : s.line.write 0 (b :: more) a = s.line a := by
      refine Memory.write_of_ge ?_
      have : (b :: more).length ≤ 2 := htwo
      have : 2 ≤ maxLineLen := by decide
      omega
    have hless : rest.length < s.socket.input.length := by
      simp at hlength
      omega
    split_ifs
    · exact ⟨⟨hwrite, hsuffix, rfl⟩, .inl rfl, fun _ => rfl, fun _ => hless⟩
    · have hroom : maxLineLen - 2 ≤ maxLineLen := by decide
      have hrest := recvRest_reads (s := { s with
        socket := { s.socket with input := rest }, line := s.line.write 0 (b :: more) }) hroom
      exact ⟨⟨fun a ha => (hrest.frame.line a ha).trans (hwrite a ha),
        hrest.frame.input.trans hsuffix, hrest.frame.fails⟩, hrest.terse, hrest.silent,
        fun hr => (hrest.shorter hr).trans hless⟩

theorem recvFields_reads (fuel : Nat) (length : Int) (s : Session) :
    Session.Frame maxLineLen s (recvFields fuel length s).2.2 ∧ s.Terse (recvFields fuel length s).2.2 := by
  induction fuel generalizing length s with
  | zero => exact ⟨.refl _ s, .inl rfl⟩
  | succ fuel ih =>
    have hline := httpRecvLine_reads s
    rw [recvFields]
    generalize httpRecvLine s = result at hline ⊢
    obtain ⟨r, s'⟩ := result
    cases r with
    | eoline =>
      obtain ⟨hframe, hterse⟩ := ih (fieldLength s'.text length) s'
      refine ⟨hline.frame.trans hframe, ?_⟩
      rwa [Session.Terse, hline.silent (by simp)] at hterse
    | eoheader => exact ⟨hline.frame, hline.terse⟩
    | socketError => exact ⟨hline.frame, hline.terse⟩

theorem takeWhile_mark {path : List UInt8} (args : List UInt8) (hpath : questionMark ∉ path) :
    (path ++ questionMark :: args).takeWhile (· ≠ questionMark) = path ∧
      (path ++ questionMark :: args).dropWhile (· ≠ questionMark) = questionMark :: args := by
  have hall : ∀ c ∈ path, decide (c ≠ questionMark) = true := by
    intro c hc
    exact decide_eq_true fun heq => hpath (heq ▸ hc)
  rw [List.takeWhile_append_of_pos hall, List.dropWhile_append_of_pos hall,
    List.takeWhile_cons_of_neg (by simp), List.dropWhile_cons_of_neg (by simp), List.append_nil]
  exact ⟨rfl, rfl⟩

/-- Behind the line the URI stays as it was copied there. -/
theorem keepUri_call {uri : List UInt8} {s' : Session} (hzero : 0 ∉ uri)
    (hshort : uri.length < maxURILen)
    (hline : ∀ a, maxLineLen ≤ a → s'.line a = (s.keepUri uri).1.line a) (m : Method)
    (length : Int) :
    s'.call m (s.keepUri uri).2 length = ⟨m, (splitUri uri).1, (splitUri uri).2, length⟩ := by
  have htext : TextAt 0 (s.line.write maxLineLen (uri ++ [0])) maxLineLen uri := textAt_write hzero
  by_cases hmark : questionMark ∈ uri
  · obtain ⟨path, args, rfl, hpath⟩ := List.eq_append_cons_of_mem hmark
    obtain ⟨htake, hdrop⟩ := takeWhile_mark args hpath
    simp only [Session.keepUri, if_pos hmark, splitUri, htake, hdrop] at hline ⊢
    have hpathAt := htext.cut.congr hline
    have hargsAt : TextAt 0 s'.line (maxLineLen + path.length + 1) args := by
      have hbehind := htext.append.2.2
      have hmark : maxLineLen + path.length + ([0] : List UInt8).length ≤
          maxLineLen + path.length + 1 := le_rfl
      refine (hbehind.write hmark).congr ?_
      exact fun a ha => hline a (by omega)
    rw [List.length_append, List.length_cons] at hshort
    rw [Session.call, hpathAt.textFrom_eq (by omega), Option.map_some,
      hargsAt.textFrom_eq (by omega)]
    rfl
  · simp only [Session.keepUri, if_neg hmark, splitUri] at hline ⊢
    have hall : ∀ c ∈ uri, decide (c ≠ questionMark) = true := by
      intro c hc
      exact decide_eq_true fun heq => hmark (heq ▸ hc)
    have huriAt := htext.congr hline
    rw [Session.call, huriAt.textFrom_eq hshort.le, List.takeWhile_eq_self_iff.mpr hall]
    rfl

theorem keepUri_frame {uri : List UInt8} (hshort : uri.length < maxURILen) :
    Session.Frame (maxLineLen + maxURILen) s (s.keepUri uri).1 := by
  have hcopy (a : Nat) (ha : maxLineLen + maxURILen ≤ a) :
      s.line.write maxLineLen (uri ++ [0]) a = s.line a := by
    refine Memory.write_of_ge ?_
    rw [List.length_append, List.length_singleton]
    omega
  rw [Session.keepUri]
  dsimp only
  split
  case isTrue hmark =>
    refine ⟨fun a ha => ?_, List.suffix_rfl, rfl⟩
    have hpath := (List.takeWhile_prefix (fun c => decide (c ≠ questionMark)) (l := uri)).length_le
    exact (Memory.write_of_ge (by rw [List.length_singleton]; omega)).trans (hcopy a ha)
  case isFalse => exact ⟨hcopy, List.suffix_rfl, rfl⟩

theorem keepUri_rest (s : Session) (uri : List UInt8) :
    (s.keepUri uri).1.socket = s.socket ∧ (s.keepUri uri).1.sent = s.sent := by
  rw [Session.keepUri]
  dsimp only
  split <;> exact ⟨rfl, rfl⟩

/-- The handlers are called with what the client wrote, and what follows the request is
left on the socket. -/
theorem transact_lines (handlers : List Handler) (hr : r.WellFormed) (hcut : List.Forall₂ Cut r.lines as)
    (hinput : s.socket.input = as.flatten ++ rest) :
    ∃ line, transact handlers s = serve handlers r.call
      { s with socket := { s.socket with input := rest }, line := line } := by
  obtain ⟨a, as, ha, has, rfl⟩ := List.forall₂_cons_left_iff.mp hcut
  let read := s.took r.firstLine (as.flatten ++ rest)
  obtain ⟨hsocket, hsent⟩ := keepUri_rest read r.uri
  have hinput' : (read.keepUri r.uri).1.socket.input = as.flatten ++ rest := by
    rw [hsocket]
    rfl
  have hfuel : r.fields.length < (read.keepUri r.uri).1.socket.input.length + 1 := by
    have hlength := length_le_flatten has
    rw [hinput']
    simp at hlength ⊢
    omega
  obtain ⟨line, hfields⟩ := recvFields_fields 0 hr.fields has hinput' hfuel
  have hkept := (recvFields_reads ((read.keepUri r.uri).1.socket.input.length + 1) 0
    (read.keepUri r.uri).1).1.line
  have hzero : (0 : UInt8) ∉ r.uri := by
    intro hmem
    exact hr.firstLine.nonzero (by simp [Request.firstLine, hmem])
  rw [hfields] at hkept
  refine ⟨line, ?_⟩
  rw [transact, httpRecvLine_line hr.firstLine ha (by simpa using hinput)]
  dsimp only
  rw [took_text hr.firstLine, requestLine_eq hr]
  dsimp only
  rw [hfields]
  dsimp only
  rw [keepUri_call hzero hr.uri_short hkept, hsocket, hsent]
  rfl

-- ---------------------------------------------------------------------------
-- Any input
-- ---------------------------------------------------------------------------

theorem recvFields_fuel (h : s.socket.input.length < fuel) :
    recvFields (fuel + 1) length s = recvFields fuel length s := by
  induction fuel generalizing length s with
  | zero => exact absurd h (Nat.not_lt_zero _)
  | succ fuel ih =>
    have hline := httpRecvLine_reads s
    conv_lhs => rw [recvFields]
    conv_rhs => rw [recvFields]
    generalize httpRecvLine s = result at hline ⊢
    obtain ⟨r, s'⟩ := result
    cases r with
    | eoline =>
      have hshorter := hline.shorter (by simp)
      exact ih (by dsimp only at hshorter; omega)
    | eoheader => rfl
    | socketError => rfl

theorem dump_frame (bound fuel len : Nat) (s : Session) : Session.Frame 0 s (dump bound fuel len s).2 := by
  induction fuel generalizing len s with
  | zero => exact .refl 0 s
  | succ fuel ih =>
    rw [dump]
    split
    case isTrue => exact .refl 0 s
    case isFalse =>
      rcases s.socket.recv_cases (min len bound) with h | ⟨bytes, rest, h, hne, -, hsuffix, -⟩
      · rw [h]
        exact .refl 0 s
      · obtain ⟨b, more, rfl⟩ := List.exists_cons_of_ne_nil hne
        rw [h]
        have hframe : Session.Frame 0 s { s with socket := { s.socket with input := rest } } :=
          ⟨fun _ _ => rfl, hsuffix, rfl⟩
        exact hframe.trans (ih ..)

theorem handle404_frame (contentLength : Int) (s : Session) :
    Session.Frame 0 s (handle404 contentLength s).2 := by
  rw [handle404]
  split
  case isTrue => exact (dump_frame ..).send _
  case isFalse => exact (Session.Frame.refl 0 s).send _

theorem process_frame {call : Call} (h : ∀ f ∈ handlers, ∀ call s, Session.Frame 0 s (f call s).2) :
    Session.Frame 0 s (process handlers call s).2 := by
  induction handlers generalizing s with
  | nil => exact .refl 0 s
  | cons f handlers ih =>
    have hf := h f List.mem_cons_self call s
    have hrest (s' : Session) := ih (s := s') fun g hg => h g (List.mem_cons_of_mem _ hg)
    rw [process]
    generalize f call s = result at hf ⊢
    obtain ⟨r, s'⟩ := result
    cases r with
    | notHandled => exact hf.trans (hrest s')
    | handled => exact hf
    | handledStop => exact hf
    | errorHandled => exact hf

theorem serve_frame {call : Call} (h : ∀ f ∈ handlers, ∀ call s, Session.Frame 0 s (f call s).2) :
    Session.Frame 0 s (serve handlers call s).session := by
  have hprocess : Session.Frame 0 s (process handlers call s).2 := process_frame h
  rw [serve]
  generalize process handlers call s = result at hprocess ⊢
  obtain ⟨r, s'⟩ := result
  cases r with
  | notHandled => exact hprocess.trans (handle404_frame ..)
  | handled => exact hprocess
  | handledStop => exact hprocess
  | errorHandled => exact hprocess

theorem serve_call {call : Call} : (serve handlers call s).call = some call := by
  rw [serve]
  generalize process handlers call s = result
  obtain ⟨r, s'⟩ := result
  cases r <;> rfl

theorem requestLine_ok (h : requestLine line = .ok (m, x)) :
    x.length < maxURILen ∧ space ∉ x ∧ ∀ c ∈ x, c ∈ line := by
  simp only [requestLine] at h
  split at h
  case h_1 =>
    split_ifs at h with h₁ h₂ h₃
    obtain ⟨-, rfl⟩ := Prod.mk.inj (Except.ok.inj h)
    refine ⟨h₃, fun hspace => by simpa using List.mem_takeWhile_imp hspace, fun c hc => ?_⟩
    exact (List.dropWhile_suffix _).mem ((List.dropWhile_suffix _).mem
      ((List.takeWhile_prefix _).mem hc))
  case h_2 => cases h

theorem zero_notMem_text (s : Session) : 0 ∉ s.text := by
  rw [Session.text, textFrom]
  intro hzero
  simpa using List.mem_takeWhile_imp hzero

/-- A path that a handler may be called with. -/
structure Call.Sound (call : Call) : Prop where
  short : call.uri.length < maxURILen
  nonzero : 0 ∉ call.uri
  unspaced : space ∉ call.uri
  bare : questionMark ∉ call.uri

theorem splitUri_sound (hshort : x.length < maxURILen) (hzero : 0 ∉ x) (hspace : space ∉ x)
    (m : Method) (length : Int) : Call.Sound ⟨m, (splitUri x).1, (splitUri x).2, length⟩ where
  short := (List.takeWhile_prefix _).length_le.trans_lt hshort
  nonzero := fun h => hzero ((List.takeWhile_prefix _).mem h)
  unspaced := fun h => hspace ((List.takeWhile_prefix _).mem h)
  bare := fun h => by simpa using List.mem_takeWhile_imp (p := (· ≠ questionMark)) h

/-- Whatever a client sends, a transaction writes no further than its buffer for the line
and the URI and uses the input up from its front, if its handlers leave the buffer alone
and do so too. It calls them with a path that fits, or it closes the session and has sent
one error at most. -/
theorem transact_safe (handlers : List Handler)
    (hhandlers : ∀ f ∈ handlers, ∀ call s, Session.Frame 0 s (f call s).2) (s : Session) :
    Session.Frame (maxLineLen + maxURILen) s (transact handlers s).session ∧
      match (transact handlers s).call with
      | some call => call.Sound
      | none => (transact handlers s).closes = true ∧ s.Terse (transact handlers s).session := by
  have hle : maxLineLen ≤ maxLineLen + maxURILen := Nat.le_add_right ..
  have hline := httpRecvLine_reads s
  rw [transact]
  generalize httpRecvLine s = result at hline ⊢
  obtain ⟨r, s'⟩ := result
  have hread := hline.frame.mono hle
  cases r with
  | eoheader => exact ⟨hread, rfl, hline.terse⟩
  | socketError => exact ⟨hread, rfl, hline.terse⟩
  | eoline =>
    have hsilent : s'.sent = s.sent := hline.silent (by simp)
    dsimp only
    split
    case h_1 code _ =>
      refine ⟨hread.send _, rfl, .inr ⟨code, ?_⟩⟩
      rw [← hsilent]
      rfl
    case h_2 m uri hrequest =>
      obtain ⟨hshort, hspace, hmem⟩ := requestLine_ok hrequest
      have hzero : (0 : UInt8) ∉ uri := fun h => zero_notMem_text s' (hmem 0 h)
      have hkeep := hread.trans (keepUri_frame hshort)
      have hrest := keepUri_rest s' uri
      obtain ⟨hframe, hterse⟩ := recvFields_reads ((s'.keepUri uri).1.socket.input.length + 1) 0
        (s'.keepUri uri).1
      rw [Session.Terse, hrest.2, hsilent] at hterse
      generalize recvFields ((s'.keepUri uri).1.socket.input.length + 1) 0 (s'.keepUri uri).1 =
        fields at hframe hterse ⊢
      obtain ⟨r, length, s''⟩ := fields
      have hfields := hkeep.trans (hframe.mono hle)
      cases r with
      | eoline => exact ⟨hfields, rfl, hterse⟩
      | socketError => exact ⟨hfields, rfl, hterse⟩
      | eoheader =>
        refine ⟨hfields.trans ((serve_frame hhandlers).mono (Nat.zero_le _)), ?_⟩
        dsimp only
        rw [serve_call, keepUri_call hzero hshort hframe.line]
        exact splitUri_sound hshort hzero hspace m length

theorem TextLine.of_notMem (hne : line ≠ []) (hzero : 0 ∉ line) (hreturn : carriageReturn ∉ line)
    (hshort : line.length + 2 < maxLineLen) : TextLine line :=
  ⟨hne, hzero, fun h => hreturn (h.subset List.mem_cons_self), hshort⟩

def welcome : Handler := fun _ s => (.handled, s.send (.simple .ok "text/plain" 0 []))

theorem welcome_frame : ∀ f ∈ [welcome], ∀ call s, Session.Frame 0 s (f call s).2 := by
  intro f hf call s
  obtain rfl := List.mem_singleton.mp hf
  exact (Session.Frame.refl 0 s).send _

def cutOff : Session := ⟨⟨[⟨0x47, false⟩, ⟨0x45, true⟩], false⟩, fun _ => 0, []⟩

theorem transact_safe_welcome :
    Session.Frame (maxLineLen + maxURILen) cutOff (transact [welcome] cutOff).session :=
  (transact_safe [welcome] welcome_frame cutOff).1

end SystemMaster.Http
