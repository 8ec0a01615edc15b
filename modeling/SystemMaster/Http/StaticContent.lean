import SystemMaster.Http.Archive

/-!
# Static content

The handlers of the server are a table of addresses, a fixed answer to PUT, and the files
of the archive. On a connection every request that is not for the table is answered in
its turn, by the file, the fixed answer or an error.
-/

namespace SystemMaster.Http

open Texts

-- ---------------------------------------------------------------------------
-- The handlers
-- ---------------------------------------------------------------------------

def urlTable : List String :=
  ["/api/version", "/api/configuration", "/api/memzip_data.zip", "/home.html", "/longFile.html",
    "/test.html", "/upload.html", "/send/data"]

def urlSimple (functions : String → Handler) : Handler := fun call s =>
  match urlTable.find? fun url => ascii url = call.uri with
  | some url => functions url call s
  | none => (.notHandled, s)

/-- `recvall` of the body, whatever it returns. -/
def flush (contentLength : Int) (s : Session) : Session :=
  if 0 < contentLength then
    (dump contentLength.toNat contentLength.toNat contentLength.toNat s).2
  else s

def putBody : List UInt8 :=
  ascii "URLHandler #2 : /put This is the body of the resource you requested."

def urlSimplePut : Handler := fun call s =>
  if call.method = .put then
    (.handled, (flush call.contentLength s).send (.simple .ok "text/plain" putBody.length putBody))
  else (.notHandled, s)

def contentTypes : List (String × String) :=
  [(".au", "audio/au "), (".class", "application/octet-stream "), (".css", "text/css "),
    (".doc", "application/msword "), (".gif", "image/gif "), (".htm", "text/html "),
    (".html", "text/html "), (".jpg", "image/jpeg "), (".mpg", "video/mpeg "),
    (".mpeg", "video/mpeg "), (".pdf", "application/pdf "), (".wav", "audio/wav "),
    (".zip", "application/zip "), (".txt", "text/plain ")]

def getContentType (fileName : List UInt8) : String :=
  let ext := fileName.dropWhile (· ≠ 0x2E)
  (contentTypes.find? fun x => ascii x.1 = ext).elim "application/octet-stream " Prod.snd

def pageOf (uri : List UInt8) : List UInt8 := if uri = [slash] then ascii "index.html" else uri

def urlMemzip (m : Memory UInt8) (fuel : Nat) (allocates : Int → Bool) : Handler := fun call s =>
  let url := pageOf call.uri
  match call.method, memzipLocate m fuel url with
  | .get, some (.ok data len) =>
    let response : Response := .simple .ok (getContentType url) len (m.read data len)
    if 0 < call.contentLength ∧ ¬allocates call.contentLength then (.errorHandled, s.send response)
    else (.handled, (flush call.contentLength s).send response)
  | _, _ => (.notHandled, s)

def handlerTable (functions : String → Handler) (m : Memory UInt8) (fuel : Nat)
    (allocates : Int → Bool) : List Handler :=
  [urlSimple functions, urlSimplePut, urlMemzip m fuel allocates]

theorem flush_frame (contentLength : Int) (s : Session) :
    Session.Frame 0 s (flush contentLength s) := by
  rw [flush]
  split
  case isTrue => exact dump_frame ..
  case isFalse => exact .refl 0 s

theorem urlMemzip_frame (m : Memory UInt8) (fuel : Nat) (allocates : Int → Bool) (call : Call)
    (s : Session) : Session.Frame 0 s (urlMemzip m fuel allocates call s).2 := by
  rw [urlMemzip]
  dsimp only
  split
  case h_1 data len _ _ =>
    split
    case isTrue => exact (Session.Frame.refl 0 s).send _
    case isFalse => exact (flush_frame ..).send _
  case h_2 => exact .refl 0 s

/-- The handlers leave the line buffer alone and take input from its front only, if the
functions of the table do. -/
theorem handlerTable_frame (hfunctions : ∀ url call s, Session.Frame 0 s (functions url call s).2) :
    ∀ f ∈ handlerTable functions m fuel allocates, ∀ call s, Session.Frame 0 s (f call s).2 := by
  intro f hf call s
  simp only [handlerTable, List.mem_cons, List.not_mem_nil, or_false] at hf
  obtain rfl | rfl | rfl := hf
  · rw [urlSimple]
    split
    case h_1 url _ => exact hfunctions url call s
    case h_2 => exact .refl 0 s
  · rw [urlSimplePut]
    split
    case isTrue => exact (flush_frame ..).send _
    case isFalse => exact .refl 0 s
  · exact urlMemzip_frame m fuel allocates call s

def processClient (handlers : List Handler) : Nat → Session → Option Session
  | 0, _ => none
  | fuel + 1, s =>
    let t := transact handlers s
    if t.closes then some t.session else processClient handlers fuel t.session

/-- The file that a name stands for, if it is not compressed. -/
def fileOf (es : List Entry) (filename : List UInt8) : Option (List UInt8) := do
  let e ← es[← firstPrefix es filename]?
  if e.hdr.compressionMethod = 0 then some e.contents else none

/-- The answer to a request that is not for the table. -/
def answer (es : List Entry) (call : Call) : Response :=
  match call.method, fileOf es (pageOf call.uri) with
  | .put, _ => .simple .ok "text/plain" putBody.length putBody
  | .get, some contents => .simple .ok (getContentType (pageOf call.uri)) contents.length contents
  | _, _ => .error .notFound

structure Exchange where
  request : Request
  body : List UInt8

/-- A request that is not for the table, with the length of its body in its fields. -/
structure Exchange.Static (x : Exchange) : Prop where
  wellFormed : x.request.WellFormed
  address : ∀ url ∈ urlTable, ascii url ≠ x.request.call.uri
  length : x.request.call.contentLength = x.body.length

def Exchange.Arrives (x : Exchange) (input : List Arrived) : Prop :=
  ∃ as body, input = as.flatten ++ body ∧ List.Forall₂ Cut x.request.lines as ∧
    body.map Arrived.byte = x.body

def Session.farewell (s : Session) : List Response :=
  if s.socket.fails then [.error .badRequest] else []

variable {functions : String → Handler} {m : Memory UInt8} {allocates : Int → Bool} {s : Session}
  {es : List Entry} {call : Call} {x : Exchange} {xs : List Exchange} {body rest a : List Arrived}
  {inputs : List (List Arrived)} {fuel bound len n : Nat}

def Session.goOn (s : Session) (rest : List Arrived) : Session :=
  { s with socket := { s.socket with input := rest } }

theorem goOn_self (h : s.socket.input = [] ++ rest) : s.goOn rest = s := by
  rw [Session.goOn, ← List.nil_append rest, ← h]

/-- A body that has come is read to its end. -/
theorem dump_eq (hbound : 0 < bound) (hlen : body.length ≤ fuel)
    (hinput : s.socket.input = body ++ rest) :
    dump bound fuel body.length s = (0, s.goOn rest) := by
  induction fuel generalizing body s with
  | zero =>
    obtain rfl := List.length_eq_zero_iff.mp (Nat.le_zero.mp hlen)
    rw [dump, goOn_self hinput]
    rfl
  | succ fuel ih =>
    rw [dump]
    by_cases hzero : body.length = 0
    · obtain rfl := List.length_eq_zero_iff.mp hzero
      rw [goOn_self hinput]
      rfl
    · rw [if_neg hzero]
      rcases s.socket.recv_cases (min body.length bound) with
        h | ⟨bytes, input, h, hne, hmax, hsuffix, hlength⟩
      · obtain ⟨b, body, rfl⟩ := List.exists_cons_of_length_pos (Nat.pos_of_ne_zero hzero)
        simp [Socket.recv, hinput] at h
      · obtain ⟨b, more, rfl⟩ := List.exists_cons_of_ne_nil hne
        have hle : (b :: more).length ≤ body.length := by omega
        have hdrop : input = body.drop (b :: more).length ++ rest := by
          rw [← List.drop_append_of_le_length hle, ← hinput]
          rw [List.suffix_iff_eq_drop.mp hsuffix]
          congr 1
          omega
        have hinput' : (s.goOn input).socket.input = body.drop (b :: more).length ++ rest := hdrop
        have hrest := ih (by simp only [List.length_drop, List.length_cons]; omega) hinput'
        rw [h]
        dsimp only
        rw [List.length_drop] at hrest
        exact hrest

theorem flush_eq (hinput : s.socket.input = body ++ rest) : flush body.length s = s.goOn rest := by
  rw [flush]
  split
  case isTrue h =>
    have hpos : 0 < body.length := by omega
    rw [Int.toNat_natCast, dump_eq hpos le_rfl hinput]
  case isFalse h =>
    obtain rfl : body = [] := List.length_eq_zero_iff.mp (by omega)
    rw [goOn_self hinput]

theorem handle404_eq (hinput : s.socket.input = body ++ rest) :
    handle404 body.length s = (0, (s.goOn rest).send (.error .notFound)) := by
  rw [handle404]
  split
  case isTrue h =>
    rw [Int.toNat_natCast, dump_eq (by decide) le_rfl hinput]
    rfl
  case isFalse h =>
    obtain rfl : body = [] := List.length_eq_zero_iff.mp (by omega)
    rw [goOn_self hinput]
    rfl

theorem urlSimple_passes (h : ∀ url ∈ urlTable, ascii url ≠ call.uri) :
    urlSimple functions call s = (.notHandled, s) := by
  have hnone : (urlTable.find? fun url => ascii url = call.uri) = none := by
    simpa using h
  rw [urlSimple, hnone]

theorem locate_fileOf (h : HoldsArchive m 0 es) (hfuel : es.length < fuel) (uri : List UInt8) :
    match fileOf es uri with
    | some contents => ∃ data, memzipLocate m fuel uri = some (.ok data contents.length) ∧
        m.read data contents.length = contents
    | none => ∀ data len, memzipLocate m fuel uri ≠ some (.ok data len) := by
  rw [locate_eq h hfuel, lookup, fileOf]
  cases hi : firstPrefix es uri with
  | none => simp
  | some i =>
    have hlt := firstPrefix_lt hi
    by_cases hstored : es[i].hdr.compressionMethod = 0
    · simp [List.getElem?_eq_getElem hlt, hstored, h.contents hlt]
    · simp [List.getElem?_eq_getElem hlt, hstored]

theorem urlMemzip_get (h : HoldsArchive m 0 es) (hfuel : es.length < fuel)
    (hallocates : allocates call.contentLength = true) (hmethod : call.method = .get)
    (hlength : call.contentLength = body.length) (hinput : s.socket.input = body ++ rest) :
    urlMemzip m fuel allocates call s =
      if (fileOf es (pageOf call.uri)).isSome then
        (.handled, (s.goOn rest).send (answer es call))
      else (.notHandled, s) := by
  have hfile := locate_fileOf h hfuel (pageOf call.uri)
  cases hcase : fileOf es (pageOf call.uri) with
  | some contents =>
    simp only [hcase] at hfile
    obtain ⟨data, hlocate, hread⟩ := hfile
    have hflush : flush call.contentLength s = s.goOn rest := hlength ▸ flush_eq hinput
    simp [urlMemzip, answer, hmethod, hcase, hlocate, hread, hallocates, hflush]
  | none =>
    simp only [hcase] at hfile
    have hmiss (data len : Nat) := hfile data len
    simp only [urlMemzip, hmethod]
    split
    case h_1 data len _ hlocate => exact absurd hlocate (hmiss data len)
    case h_2 => rfl

/-- A static request is answered, and its body is taken off the socket. -/
theorem serve_static (h : HoldsArchive m 0 es) (hfuel : es.length < fuel)
    (hallocates : allocates call.contentLength = true) (haddress : ∀ url ∈ urlTable, ascii url ≠ call.uri)
    (hlength : call.contentLength = body.length) (hinput : s.socket.input = body ++ rest) :
    serve (handlerTable functions m fuel allocates) call s =
      ⟨false, false, (s.goOn rest).send (answer es call), some call⟩ := by
  have hput : urlSimplePut call s = if call.method = .put then
      (.handled, (s.goOn rest).send (.simple .ok "text/plain" putBody.length putBody))
      else (.notHandled, s) := by
    rw [urlSimplePut, hlength, flush_eq hinput]
  have hlost : handle404 call.contentLength s = (0, (s.goOn rest).send (.error .notFound)) := by
    rw [hlength, handle404_eq hinput]
  simp only [serve, handlerTable, process, urlSimple_passes haddress, hput]
  cases hmethod : call.method with
  | put => simp [answer, hmethod]
  | get =>
    rw [if_neg (by simp)]
    dsimp only
    rw [urlMemzip_get h hfuel hallocates hmethod hlength hinput]
    cases hfile : fileOf es (pageOf call.uri) with
    | some contents => simp
    | none => simp [hlost, answer, hmethod, hfile]
  | post => simp [urlMemzip, hmethod, hlost, answer]
  | patch => simp [urlMemzip, hmethod, hlost, answer]
  | delete => simp [urlMemzip, hmethod, hlost, answer]

theorem transact_static (functions : String → Handler) (h : HoldsArchive m 0 es) (hfuel : es.length < fuel)
    (hallocates : allocates x.request.call.contentLength = true) (hx : x.Static) (ha : x.Arrives a)
    (hinput : s.socket.input = a ++ rest) :
    ∃ line, transact (handlerTable functions m fuel allocates) s =
      ⟨false, false, (({ s with line := line } : Session).goOn rest).send (answer es x.request.call),
        some x.request.call⟩ := by
  obtain ⟨as, body, rfl, hcut, hbody⟩ := ha
  have hinput' : s.socket.input = as.flatten ++ (body ++ rest) := by simpa using hinput
  obtain ⟨line, htransact⟩ := transact_lines (handlerTable functions m fuel allocates)
    hx.wellFormed hcut hinput'
  have hlength : x.request.call.contentLength = body.length := by
    rw [hx.length, ← hbody, List.length_map]
  exact ⟨line, htransact.trans (serve_static h hfuel hallocates hx.address hlength rfl)⟩

-- ---------------------------------------------------------------------------
-- A connection
-- ---------------------------------------------------------------------------

theorem transact_end (handlers : List Handler) (h : s.socket.input = []) :
    transact handlers s = ⟨true, false, { s with sent := s.sent ++ s.farewell }, none⟩ := by
  have hline : httpRecvLine s = (.socketError, { s with sent := s.sent ++ s.farewell }) := by
    rw [httpRecvLine, Socket.recv, h]
    dsimp only
    rw [Session.broken, Session.farewell]
    split <;> simp [Session.send]
  rw [transact, hline]

/-- Requests that come one after the other on a connection, cut anyhow but between the
first two bytes of their lines, are each answered in turn; the connection is closed when
the client has no more of them. -/
theorem static_connection (functions : String → Handler) (m : Memory UInt8) (es : List Entry)
    (fuel : Nat) (allocates : Int → Bool) (xs : List Exchange) (inputs : List (List Arrived))
    (s : Session) (h : HoldsArchive m 0 es) (hfuel : es.length < fuel)
    (hallocates : ∀ x ∈ xs, allocates x.request.call.contentLength = true)
    (hxs : ∀ x ∈ xs, x.Static)
    (harrives : List.Forall₂ Exchange.Arrives xs inputs) (hinput : s.socket.input = inputs.flatten) :
    (processClient (handlerTable functions m fuel allocates) (xs.length + 1) s).map Session.sent =
      some (s.sent ++ xs.map (fun x => answer es x.request.call) ++ s.farewell) := by
  induction harrives generalizing s with
  | nil =>
    rw [List.length_nil, processClient, transact_end _ hinput]
    simp
  | @cons x a xs inputs ha _ ih =>
    obtain ⟨line, htransact⟩ := transact_static functions h hfuel
      (hallocates x List.mem_cons_self) (hxs x List.mem_cons_self) ha (by simpa using hinput)
    have hrest := ih ((({ s with line := line } : Session).goOn inputs.flatten).send
      (answer es x.request.call)) (fun y hy => hallocates y (List.mem_cons_of_mem _ hy))
      (fun y hy => hxs y (List.mem_cons_of_mem _ hy)) rfl
    have hfarewell : ((({ s with line := line } : Session).goOn inputs.flatten).send
      (answer es x.request.call)).farewell = s.farewell := rfl
    rw [List.length_cons, processClient, htransact]
    simp only [Bool.false_eq_true, ↓reduceIte]
    rw [hrest, hfarewell]
    simp [Session.send, Session.goOn]

def together (bytes : List UInt8) : List Arrived := bytes.map fun b => ⟨b, false⟩

def getEye : Exchange := ⟨⟨.get, 0, ascii "/eye", ascii "HTTP/1.1", []⟩, []⟩

def eyeInput : List Arrived := together (ascii "GET /eye HTTP/1.1" ++ crlf ++ crlf)

theorem getEye_static : getEye.Static := by
  have hline : TextLine getEye.request.firstLine :=
    .of_notMem (by decide) (by decide) (by decide) (by decide)
  exact ⟨⟨hline, List.forall_mem_nil _, by decide, by decide, by decide⟩, by decide, by decide⟩

theorem getEye_arrives : getEye.Arrives eyeInput :=
  ⟨[together (getEye.request.firstLine ++ crlf), together crlf], [], by decide,
    .cons ⟨by decide, by decide⟩ (.cons ⟨by decide, by decide⟩ .nil), rfl⟩

theorem static_connection_eye :
    (processClient (handlerTable (fun _ _ s => (.notHandled, s)) twoEntriesData 3 fun _ => true) 2
      ⟨⟨eyeInput, false⟩, fun _ => 0, []⟩).map Session.sent =
        some [.simple .ok "application/octet-stream " 1 [1]] :=
  static_connection (fun _ _ s => (.notHandled, s)) twoEntriesData twoEntries 3 (fun _ => true)
    [getEye] [eyeInput] ⟨⟨eyeInput, false⟩, fun _ => 0, []⟩ twoEntries_held (by decide)
    (fun _ _ => rfl) (by simpa using getEye_static) (.cons getEye_arrives .nil) (by simp)

end SystemMaster.Http
