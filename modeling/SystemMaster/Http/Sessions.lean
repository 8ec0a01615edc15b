import Mathlib.Data.List.Perm.Basic
import SystemMaster.Http.StaticContent
import SystemMaster.Library.Runs

/-!
# The sessions of the server

One task serves all connections. It accepts a connection when one waits, for which it
may have to give up its oldest one, then lets every connection with input make a
transaction, and at the end of the turn deletes the sessions that are to be closed.
-/

namespace SystemMaster.Http

open Runs

def maxSessions : Nat := 16

/-- A session in the list, with the socket and what it was when it was created. -/
structure Client where
  socket : Nat
  start : Session
  session : Session
  stop : Bool

inductive Accept where
  | socket (sc : Nat) (input : Socket)
  | fileTableFull
  | failed

/-- What a turn of the loop finds: how `select` goes and whether the server is to stop by
then, whether a connection waits and how it is accepted, the memory for its line, how TLS
starts, how the mutex goes, which sockets have input, and whether the server is to stop
after the transactions. -/
structure Turn where
  selected : Bool
  stopBefore : Bool
  pending : Bool
  accept : Accept
  memory : Option (Memory UInt8)
  secured : Bool
  locked : Bool
  ready : Nat → Bool
  unlocked : Bool
  stopAfter : Bool

/-- The server while it serves, with what `HTTPServer_serveSelect` has returned. The last
three fields are a record of the sockets accepted and closed and of the sessions deleted. -/
structure Server where
  isSecure : Bool
  sessions : List Client
  returned : Option Int
  accepted : List Nat
  closed : List Nat
  finished : List Client

def Server.start (isSecure : Bool) : Server := ⟨isSecure, [], none, [], [], []⟩

namespace Server

def deleteSession (srv : Server) (c : Client) : Server :=
  { srv with
    closed := if c.socket ≠ 0 then srv.closed ++ [c.socket] else srv.closed
    finished := srv.finished ++ [c] }

def firstStopped : List Client → Option (Client × List Client)
  | [] => none
  | c :: cs => if c.stop then some (c, cs) else (firstStopped cs).map fun (d, ds) => (d, c :: ds)

def pruneSession : Nat → Server → Server
  | 0, srv => srv
  | fuel + 1, srv =>
    match firstStopped srv.sessions with
    | some (c, cs) => pruneSession fuel (deleteSession { srv with sessions := cs } c)
    | none => srv

def prune (srv : Server) : Server := srv.pruneSession srv.sessions.length

def removeSession (srv : Server) (i : Nat) : Server :=
  { srv with sessions := srv.sessions.modify i fun c => { c with stop := true } }

def removeAll (srv : Server) : Server :=
  { srv with sessions := srv.sessions.map fun c => { c with stop := true } }

/-- The list before a session is added: the oldest one goes when it is full. -/
def room (srv : Server) : Server :=
  (if maxSessions ≤ srv.sessions.length then srv.removeSession 0 else srv).prune

def addSession (srv : Server) (memory : Option (Memory UInt8)) (sc : Nat) (input : Socket) :
    Server × Bool :=
  match memory with
  | some line =>
    let session : Session := ⟨input, line, []⟩
    ({ srv.room with sessions := srv.room.sessions ++ [⟨sc, session, session, false⟩] }, true)
  | none => (srv.room, false)

def acceptStage (srv : Server) (t : Turn) : Server :=
  match t.accept with
  | .fileTableFull => srv
  | .failed => { srv with returned := some (-2) }
  | .socket sc input =>
    match srv.addSession t.memory sc input with
    | (srv, true) =>
      let srv := { srv with accepted := srv.accepted ++ [sc] }
      if srv.isSecure ∧ ¬t.secured then (srv.removeSession (srv.sessions.length - 1)).prune else srv
    | (srv, false) =>
      { srv with accepted := srv.accepted ++ [sc], closed := srv.closed ++ [sc] }

def transactClient (handlers : List Handler) (ready : Nat → Bool) (c : Client) : Client :=
  if ready c.socket then
    let t := transact handlers c.session
    { c with session := t.session, stop := c.stop || t.closes }
  else c

def transactStage (srv : Server) (handlers : List Handler) (t : Turn) : Server :=
  { srv with sessions := srv.sessions.map (transactClient handlers t.ready) }

def turn (handlers : List Handler) (srv : Server) (t : Turn) : Server :=
  if srv.returned.isSome then srv
  else if t.stopBefore ∨ ¬t.selected then
    { srv.removeAll.prune with returned := some (if t.stopBefore then 0 else -1) }
  else
    let srv := if t.pending then srv.acceptStage t else srv
    if srv.returned.isSome then srv
    else if ¬t.locked then { srv with returned := some (-8) }
    else
      let stops := srv.sessions.any fun c => t.ready c.socket && (transact handlers c.session).stop
      let srv := srv.transactStage handlers t
      if ¬t.unlocked then { srv with returned := some (-8) }
      else if t.stopAfter ∨ stops then { srv.removeAll.prune with returned := some 0 }
      else srv.prune

def delete (srv : Server) : Server :=
  { srv.sessions.foldl deleteSession srv with sessions := [] }

end Server

/-- The states of a session that does its own transactions only, and whether the last one
closes it. -/
inductive Goes (handlers : List Handler) (start : Session) : Bool → Session → Prop where
  | start : Goes handlers start false start
  | transact {s : Session} (h : Goes handlers start false s) :
    Goes handlers start (transact handlers s).closes (transact handlers s).session

/-- A session that is not to be closed has not made a transaction that closes it. -/
structure Client.Sound (handlers : List Handler) (c : Client) : Prop where
  nonzero : c.socket ≠ 0
  goes : ∃ closes, Goes handlers c.start closes c.session
  open_goes : c.stop = false → Goes handlers c.start false c.session

/-- Every socket that was accepted is open in one session, or was closed once. The
sessions are in the order in which they were accepted. -/
structure Server.Sound (handlers : List Handler) (srv : Server) : Prop where
  bounded : srv.sessions.length ≤ maxSessions
  clients : ∀ c ∈ srv.sessions ++ srv.finished, c.Sound handlers
  accounted : srv.accepted.Perm (srv.closed ++ srv.sessions.map Client.socket)
  order : (srv.sessions.map Client.socket).Sublist srv.accepted

def Server.Calm (srv : Server) : Prop := ∀ c ∈ srv.sessions, c.stop = false

def Turn.Proper (t : Turn) : Prop := ∀ sc input, t.accept = .socket sc input → sc ≠ 0

variable {handlers : List Handler} {srv : Server} {t : Turn} {c : Client} {cs ds : List Client}
  {fuel : Nat}

theorem Client.Sound.flag (h : c.Sound handlers) : Client.Sound handlers { c with stop := true } :=
  ⟨h.nonzero, h.goes, by simp⟩

namespace Server

theorem firstStopped_cases (cs : List Client) :
    (firstStopped cs = none ∧ cs.filter Client.stop = []) ∨
      ∃ c as bs, cs = as ++ c :: bs ∧ c.stop = true ∧ as.filter Client.stop = [] ∧
        firstStopped cs = some (c, as ++ bs) := by
  induction cs with
  | nil => exact .inl ⟨rfl, rfl⟩
  | cons c cs ih =>
    rw [firstStopped]
    cases hstop : c.stop with
    | true => exact .inr ⟨c, [], cs, rfl, hstop, rfl, rfl⟩
    | false =>
      rw [if_neg (by simp)]
      rcases ih with ⟨hnone, hfilter⟩ | ⟨d, as, bs, rfl, hd, has, hsome⟩
      · exact .inl ⟨by rw [hnone]; rfl, by simp [hstop, hfilter]⟩
      · exact .inr ⟨d, c :: as, bs, rfl, hd, by simp [hstop, has], by rw [hsome]; rfl⟩

/-- Pruning deletes the sessions to be closed, in their order. -/
theorem pruneSession_eq (hfuel : (srv.sessions.filter Client.stop).length ≤ fuel)
    (hsockets : ∀ c ∈ srv.sessions, c.socket ≠ 0) :
    srv.pruneSession fuel = { srv with
      sessions := srv.sessions.filter fun c => !c.stop
      closed := srv.closed ++ (srv.sessions.filter Client.stop).map Client.socket
      finished := srv.finished ++ srv.sessions.filter Client.stop } := by
  induction fuel generalizing srv with
  | zero =>
    have hnone : srv.sessions.filter Client.stop = [] := List.length_eq_zero_iff.mp (by omega)
    have hall : srv.sessions.filter (fun c => !c.stop) = srv.sessions := by
      simpa using hnone
    rw [pruneSession, hnone, hall]
    simp
  | succ fuel ih =>
    rw [pruneSession]
    rcases firstStopped_cases srv.sessions with ⟨hfirst, hnone⟩ | ⟨c, as, bs, hsplit, hc, has, hfirst⟩
    · have hall : srv.sessions.filter (fun c => !c.stop) = srv.sessions := by
        simpa using hnone
      rw [hfirst, hnone, hall]
      simp
    · have hsocket := hsockets c (by simp [hsplit])
      rw [hfirst]
      dsimp only
      rw [ih]
      · simp [deleteSession, hsplit, hc, has, hsocket]
      · simp [deleteSession, has]
        simp [hsplit, hc, has] at hfuel
        omega
      · intro d hd
        refine hsockets d ?_
        simp [deleteSession] at hd
        rw [hsplit]
        simp
        tauto

theorem prune_eq (hsockets : ∀ c ∈ srv.sessions, c.socket ≠ 0) :
    srv.prune = { srv with
      sessions := srv.sessions.filter fun c => !c.stop
      closed := srv.closed ++ (srv.sessions.filter Client.stop).map Client.socket
      finished := srv.finished ++ srv.sessions.filter Client.stop } :=
  pruneSession_eq (List.length_filter_le ..) hsockets

theorem Sound.sockets (h : srv.Sound handlers) : ∀ c ∈ srv.sessions, c.socket ≠ 0 :=
  fun c hc => (h.clients c (List.mem_append_left _ hc)).nonzero

theorem Sound.prune (h : srv.Sound handlers) : srv.prune.Sound handlers := by
  rw [prune_eq h.sockets]
  have hfilter : (srv.sessions.filter fun c => !c.stop).Sublist srv.sessions := List.filter_sublist
  refine ⟨hfilter.length_le.trans h.bounded, ?_, ?_, (hfilter.map _).trans h.order⟩
  · intro c hc
    refine h.clients c ?_
    simp only [List.mem_append, List.mem_filter] at hc ⊢
    tauto
  · have hsplit := List.filter_append_perm Client.stop srv.sessions
    refine h.accounted.trans ?_
    dsimp only
    rw [List.append_assoc, ← List.map_append]
    exact (hsplit.symm.map _).append_left _

theorem prune_calm (hsockets : ∀ c ∈ srv.sessions, c.socket ≠ 0) : srv.prune.Calm := by
  rw [prune_eq hsockets]
  intro c hc
  simpa using (List.mem_filter.mp hc).2

theorem Sound.replace (h : srv.Sound handlers)
    (hsockets : cs.map Client.socket = srv.sessions.map Client.socket)
    (hclients : ∀ c ∈ cs, c.Sound handlers) : Sound handlers { srv with sessions := cs } where
  bounded := by
    have hlength := congrArg List.length hsockets
    simp only [List.length_map] at hlength
    exact hlength.le.trans h.bounded
  clients := by
    intro c hc
    rcases List.mem_append.mp hc with hc | hc
    · exact hclients c hc
    · exact h.clients c (List.mem_append_right _ hc)
  accounted := by simpa [hsockets] using h.accounted
  order := by simpa [hsockets] using h.order

theorem Sound.client (h : srv.Sound handlers) (hc : c ∈ srv.sessions) : c.Sound handlers :=
  h.clients c (List.mem_append_left _ hc)

theorem Sound.removeSession (h : srv.Sound handlers) (i : Nat) :
    (srv.removeSession i).Sound handlers := by
  refine h.replace ?_ ?_
  · apply List.ext_getElem?
    intro j
    simp only [List.getElem?_map, List.getElem?_modify]
    split <;> cases srv.sessions[j]? <;> rfl
  · intro d hd
    obtain ⟨j, hj⟩ := List.mem_iff_getElem?.mp hd
    rw [List.getElem?_modify] at hj
    cases hget : srv.sessions[j]? with
    | none => simp [hget] at hj
    | some c =>
      have hc := h.client (List.mem_of_getElem? hget)
      rw [hget] at hj
      obtain rfl := Option.some.inj hj
      split
      case isTrue => exact hc.flag
      case isFalse => exact hc

theorem Sound.removeAll (h : srv.Sound handlers) : srv.removeAll.Sound handlers := by
  refine h.replace (by simp) ?_
  intro d hd
  obtain ⟨c, hc, rfl⟩ := List.mem_map.mp hd
  exact (h.client hc).flag

theorem Sound.transactStage (h : srv.Sound handlers) (hcalm : srv.Calm) (t : Turn) :
    (srv.transactStage handlers t).Sound handlers := by
  refine h.replace ?_ ?_
  · rw [List.map_map]
    refine List.map_congr_left fun c _ => ?_
    simp only [Function.comp_apply, transactClient]
    split <;> rfl
  · intro d hd
    obtain ⟨c, hc, rfl⟩ := List.mem_map.mp hd
    have hsound := h.client hc
    have hstop := hcalm c hc
    rw [transactClient]
    split
    case isTrue =>
      have hgoes := (hsound.open_goes hstop).transact
      refine ⟨hsound.nonzero, ⟨_, hgoes⟩, fun hopen => ?_⟩
      simp only [hstop, Bool.false_or] at hopen
      exact hopen ▸ hgoes
    case isFalse => exact hsound

-- ---------------------------------------------------------------------------
-- Accepting
-- ---------------------------------------------------------------------------

theorem room_sound (h : srv.Sound handlers) : srv.room.Sound handlers := by
  rw [Server.room]
  split
  case isTrue => exact (h.removeSession 0).prune
  case isFalse => exact h.prune

theorem filter_calm (hcalm : ∀ c ∈ cs, c.stop = false) :
    cs.filter (fun c => !c.stop) = cs ∧ cs.filter Client.stop = [] := by
  constructor
  · exact List.filter_eq_self.mpr fun c hc => by simp [hcalm c hc]
  · exact List.filter_eq_nil_iff.mpr fun c hc => by simp [hcalm c hc]

/-- The oldest session goes when there are as many as there may be. -/
theorem room_eq (h : srv.Sound handlers) (hcalm : srv.Calm) :
    srv.room = if maxSessions ≤ srv.sessions.length then { srv with
        sessions := srv.sessions.drop 1
        closed := srv.closed ++ (srv.sessions.take 1).map Client.socket
        finished := srv.finished ++ (srv.sessions.take 1).map fun c => { c with stop := true } }
      else srv := by
  rw [room]
  split
  case isTrue hfull =>
    rw [prune_eq (h.removeSession 0).sockets]
    cases hcs : srv.sessions with
    | nil => simp [hcs, maxSessions] at hfull
    | cons c cs =>
      have hrest : ∀ d ∈ cs, d.stop = false := fun d hd => hcalm d (by simp [hcs, hd])
      obtain ⟨hkeep, hdrop⟩ := filter_calm hrest
      simp [Server.removeSession, hcs, hkeep, hdrop]
  case isFalse =>
    obtain ⟨hkeep, hdrop⟩ := filter_calm hcalm
    rw [prune_eq h.sockets, hkeep, hdrop]
    simp

theorem room_length (h : srv.Sound handlers) (hcalm : srv.Calm) :
    srv.room.sessions.length < maxSessions := by
  have hbounded := h.bounded
  rw [room_eq h hcalm]
  split
  case isTrue hfull =>
    rw [List.length_drop]
    exact Nat.lt_of_lt_of_le (Nat.sub_lt (Nat.lt_of_lt_of_le (by decide) hfull) Nat.one_pos) hbounded
  case isFalse hfull => exact Nat.lt_of_not_le hfull

theorem room_calm (h : srv.Sound handlers) : srv.room.Calm := by
  rw [room]
  split
  case isTrue => exact prune_calm (h.removeSession 0).sockets
  case isFalse => exact prune_calm h.sockets

theorem Sound.refuse (h : srv.Sound handlers) (sc : Nat) : Sound handlers { srv with
    accepted := srv.accepted ++ [sc], closed := srv.closed ++ [sc] } := by
  refine ⟨h.bounded, h.clients, ?_, h.order.trans (List.sublist_append_left ..)⟩
  have hperm := h.accounted.append_right [sc]
  rw [List.append_assoc] at hperm
  dsimp only
  rw [List.append_assoc]
  exact hperm.trans (List.perm_append_comm.append_left _)

theorem Sound.add (h : srv.Sound handlers) (hlength : srv.sessions.length < maxSessions)
    (hc : c.Sound handlers) : Sound handlers { srv with
      sessions := srv.sessions ++ [c], accepted := srv.accepted ++ [c.socket] } := by
  refine ⟨?_, ?_, ?_, ?_⟩
  · rw [List.length_append]
    exact hlength
  · intro d hd
    simp only [List.mem_append, List.mem_singleton] at hd
    rcases hd with (hd | rfl) | hd
    · exact h.clients d (List.mem_append_left _ hd)
    · exact hc
    · exact h.clients d (List.mem_append_right _ hd)
  · have hperm := h.accounted.append_right [c.socket]
    rw [List.append_assoc] at hperm
    simpa using hperm
  · rw [List.map_append]
    exact h.order.append (List.Sublist.refl _)

theorem acceptStage_sound (h : srv.Sound handlers) (hcalm : srv.Calm) (ht : t.Proper) :
    (srv.acceptStage t).Sound handlers ∧ (srv.acceptStage t).Calm := by
  rw [acceptStage]
  cases haccept : t.accept with
  | fileTableFull => exact ⟨h, hcalm⟩
  | failed => exact ⟨⟨h.bounded, h.clients, h.accounted, h.order⟩, hcalm⟩
  | socket sc input =>
    have hmade := room_sound h
    have hmadeCalm := room_calm h
    dsimp only
    cases t.memory with
    | none => exact ⟨hmade.refuse sc, hmadeCalm⟩
    | some line =>
      have hclient : Client.Sound handlers ⟨sc, ⟨input, line, []⟩, ⟨input, line, []⟩, false⟩ :=
        ⟨ht sc input haccept, ⟨false, .start⟩, fun _ => .start⟩
      have hadded := hmade.add (room_length h hcalm) hclient
      dsimp only [addSession]
      split
      case isTrue =>
        have hflagged := hadded.removeSession (srv.room.sessions.length + 1 - 1)
        simp only [List.length_append, List.length_singleton]
        exact ⟨hflagged.prune, prune_calm hflagged.sockets⟩
      case isFalse =>
        refine ⟨hadded, fun d hd => ?_⟩
        rcases List.mem_append.mp hd with hd | hd
        · exact hmadeCalm d hd
        · rw [List.mem_singleton.mp hd]

-- ---------------------------------------------------------------------------
-- Turns
-- ---------------------------------------------------------------------------

/-- What every turn keeps: while the server serves, no session is left to be closed. -/
structure Kept (handlers : List Handler) (srv : Server) : Prop where
  sound : srv.Sound handlers
  calm : srv.returned = none → srv.Calm

theorem Sound.returns (h : srv.Sound handlers) (status : Int) :
    Kept handlers { srv with returned := some status } :=
  ⟨⟨h.bounded, h.clients, h.accounted, h.order⟩, fun hnone => nomatch hnone⟩

theorem kept_transactions (h : srv.Sound handlers) (hcalm : srv.Calm) (t : Turn) :
    let stops := srv.sessions.any fun c => t.ready c.socket && (transact handlers c.session).stop
    let next := srv.transactStage handlers t
    Kept handlers (if ¬t.locked then { srv with returned := some (-8) }
      else if ¬t.unlocked then { next with returned := some (-8) }
      else if t.stopAfter ∨ stops then { next.removeAll.prune with returned := some 0 }
      else next.prune) := by
  intro stops next
  have hnext : next.Sound handlers := h.transactStage hcalm t
  split
  case isTrue => exact h.returns _
  case isFalse =>
    split
    case isTrue => exact hnext.returns _
    case isFalse =>
      split
      case isTrue => exact hnext.removeAll.prune.returns _
      case isFalse => exact ⟨hnext.prune, fun _ => prune_calm hnext.sockets⟩

theorem turn_kept (h : srv.Kept handlers) (ht : t.Proper) : (srv.turn handlers t).Kept handlers := by
  rw [turn]
  split
  case isTrue => exact h
  case isFalse hserves =>
    have hcalm := h.calm (by simpa using hserves)
    split
    case isTrue => exact h.sound.removeAll.prune.returns _
    case isFalse =>
      have haccept : (if t.pending then srv.acceptStage t else srv).Sound handlers ∧
          (if t.pending then srv.acceptStage t else srv).Calm := by
        split
        case isTrue => exact acceptStage_sound h.sound hcalm ht
        case isFalse => exact ⟨h.sound, hcalm⟩
      dsimp only
      generalize (if t.pending then srv.acceptStage t else srv) = srv' at haccept ⊢
      split
      case isTrue => exact ⟨haccept.1, fun _ => haccept.2⟩
      case isFalse => exact kept_transactions haccept.1 haccept.2 t

theorem start_kept (handlers : List Handler) (isSecure : Bool) : (Server.start isSecure).Kept handlers where
  sound := ⟨Nat.zero_le _, List.forall_mem_nil _, .nil, List.Sublist.refl _⟩
  calm := fun _ => List.forall_mem_nil _

theorem run_kept {turns : List Turn} (h : srv.Kept handlers) (hturns : ∀ t ∈ turns, t.Proper) :
    (exec (turn handlers) srv turns).Kept handlers := by
  induction turns generalizing srv with
  | nil => exact h
  | cons t turns ih =>
    refine ih (turn_kept h (hturns t List.mem_cons_self)) fun u hu => ?_
    exact hturns u (List.mem_cons_of_mem _ hu)

theorem foldl_deleteSession (srv : Server) (hsockets : ∀ c ∈ cs, c.socket ≠ 0) :
    (cs.foldl deleteSession srv).closed = srv.closed ++ cs.map Client.socket ∧
      (cs.foldl deleteSession srv).accepted = srv.accepted := by
  induction cs generalizing srv with
  | nil => simp
  | cons c cs ih =>
    obtain ⟨hclosed, haccepted⟩ := ih (srv.deleteSession c) fun d hd =>
      hsockets d (List.mem_cons_of_mem _ hd)
    rw [List.foldl_cons, hclosed, haccepted]
    simp [deleteSession, hsockets c List.mem_cons_self]

theorem Sound.delete (h : srv.Sound handlers) :
    srv.delete.sessions = [] ∧ srv.delete.accepted.Perm srv.delete.closed := by
  obtain ⟨hclosed, haccepted⟩ := foldl_deleteSession srv h.sockets
  refine ⟨rfl, ?_⟩
  rw [Server.delete, hclosed, haccepted]
  exact h.accounted

end Server

/-- Whatever the turns bring, there are at most sixteen sessions, each with what its own
transactions made of it; every socket accepted is open in one of them or was closed once,
and none is left open when the server is deleted. -/
theorem sessions_sound (handlers : List Handler) (isSecure : Bool) (turns : List Turn)
    (hturns : ∀ t ∈ turns, t.Proper) :
    let srv := exec (Server.turn handlers) (.start isSecure) turns
    srv.Sound handlers ∧ (srv.returned = none → srv.Calm) ∧ srv.delete.sessions = [] ∧
      srv.delete.accepted.Perm srv.delete.closed := by
  have hkept := Server.run_kept (Server.start_kept handlers isSecure) hturns
  exact ⟨hkept.sound, hkept.calm, hkept.sound.delete⟩

def connects (sc : Nat) (input : List Arrived) : Turn where
  selected := true
  stopBefore := false
  pending := true
  accept := .socket sc ⟨input, false⟩
  memory := some fun _ => 0
  secured := true
  locked := true
  ready := fun _ => false
  unlocked := true
  stopAfter := false

theorem connects_proper {sc : Nat} {input : List Arrived} (h : sc ≠ 0) : (connects sc input).Proper := by
  intro sc' input' haccept
  obtain ⟨rfl, -⟩ := Accept.socket.inj haccept
  exact h

theorem sessions_sound_two :
    (exec (Server.turn [welcome]) (.start false) [connects 3 [], connects 4 []]).Sound [welcome] := by
  refine (sessions_sound [welcome] false [connects 3 [], connects 4 []] ?_).1
  intro t ht
  simp only [List.mem_cons, List.not_mem_nil, or_false] at ht
  rcases ht with rfl | rfl
  · exact connects_proper (by decide)
  · exact connects_proper (by decide)

section Clients

variable {functions : String → Handler} {m : Memory UInt8} {allocates : Int → Bool} {s start : Session}
  {es : List Entry} {xs : List Exchange} {inputs : List (List Arrived)} {n : Nat} {closes : Bool}

/-- How far a connection is: some of its requests are answered and the rest wait on the
socket, or it has ended. -/
inductive Progress (es : List Entry) (start : Session) (xs : List Exchange) :
    Bool → Session → Prop where
  | serving {s : Session} (done rest : List Exchange) (inputs : List (List Arrived))
    (hxs : xs = done ++ rest) (harrives : List.Forall₂ Exchange.Arrives rest inputs)
    (hsocket : s.socket = { start.socket with input := inputs.flatten })
    (hsent : s.sent = start.sent ++ done.map fun x => answer es x.request.call) :
    Progress es start xs false s
  | ended {s : Session}
    (hsent : s.sent =
      start.sent ++ xs.map (fun x => answer es x.request.call) ++ start.farewell) :
    Progress es start xs true s

theorem Progress.sent (h : Progress es start xs closes s) :
    s.sent <+: start.sent ++ xs.map (fun x => answer es x.request.call) ++ start.farewell := by
  cases h with
  | serving done rest inputs hxs _ _ hsent =>
    rw [hsent, hxs, List.map_append]
    simp only [List.append_assoc]
    exact (List.prefix_append_right_inj _).mpr (List.prefix_append ..)
  | ended hsent => exact hsent ▸ List.prefix_rfl

/-- A connection is answered in the order of its requests, whichever turns it takes. -/
theorem Goes.progress (h : HoldsArchive m 0 es) (hfuel : es.length < n)
    (hallocates : ∀ x ∈ xs, allocates x.request.call.contentLength = true)
    (hxs : ∀ x ∈ xs, x.Static) (harrives : List.Forall₂ Exchange.Arrives xs inputs)
    (hinput : start.socket.input = inputs.flatten)
    (hgoes : Goes (handlerTable functions m n allocates) start closes s) :
    Progress es start xs closes s := by
  induction hgoes with
  | start => exact .serving [] xs inputs rfl harrives (by rw [← hinput]) (by simp)
  | @transact s _ ih =>
    obtain ⟨done, rest, inputs', hsplit, hrest, hsocket, hsent⟩ := ih
    cases hrest with
    | nil =>
      have hfarewell : s.farewell = start.farewell := by
        rw [Session.farewell, Session.farewell, hsocket]
      rw [transact_end _ (by rw [hsocket]; rfl)]
      refine .ended ?_
      simp only [hfarewell, hsent, hsplit, List.append_nil]
    | @cons x a rest inputs' ha hrest =>
      have hx : x ∈ xs := by simp [hsplit]
      have hinput' : s.socket.input = a ++ inputs'.flatten := by rw [hsocket]; rfl
      obtain ⟨line, htransact⟩ := transact_static functions h hfuel (hallocates x hx) (hxs x hx) ha
        hinput'
      rw [htransact]
      refine .serving (done ++ [x]) rest inputs' (by simp [hsplit]) hrest ?_ ?_
      · simp [Session.goOn, Session.send, hsocket]
      · simp [Session.goOn, Session.send, hsent]

end Clients

/-- However the turns of a run interleave its clients, evict them or stop the server, a
client whose requests are not for the table has been sent their answers in order, up to
some point, and nothing else. -/
theorem static_clients (functions : String → Handler) (m : Memory UInt8) (es : List Entry)
    (fuel : Nat) (allocates : Int → Bool) (isSecure : Bool) (turns : List Turn)
    (xs : List Exchange) (inputs : List (List Arrived)) (h : HoldsArchive m 0 es)
    (hfuel : es.length < fuel) (hturns : ∀ t ∈ turns, t.Proper)
    (hallocates : ∀ x ∈ xs, allocates x.request.call.contentLength = true)
    (hxs : ∀ x ∈ xs, x.Static) (harrives : List.Forall₂ Exchange.Arrives xs inputs) :
    let srv := exec (Server.turn (handlerTable functions m fuel allocates)) (.start isSecure) turns
    ∀ c ∈ srv.sessions ++ srv.finished, c.start.socket.input = inputs.flatten →
      c.session.sent <+:
        c.start.sent ++ xs.map (fun x => answer es x.request.call) ++ c.start.farewell := by
  intro srv c hc hinput
  have hkept : srv.Kept (handlerTable functions m fuel allocates) :=
    Server.run_kept (Server.start_kept _ isSecure) hturns
  obtain ⟨closes, hgoes⟩ := (hkept.sound.clients c hc).goes
  exact (hgoes.progress h hfuel hallocates hxs harrives hinput).sent

def eyeTurns : List Turn :=
  [connects 3 eyeInput, { connects 3 eyeInput with pending := false, ready := fun sc => sc = 3 }]

theorem static_clients_eye :
    let srv := exec (Server.turn (handlerTable (fun _ _ s => (.notHandled, s)) twoEntriesData 3
      fun _ => true)) (.start false) eyeTurns
    ∀ c ∈ srv.sessions ++ srv.finished, c.start.socket.input = [eyeInput].flatten →
      c.session.sent <+: c.start.sent ++ [getEye].map (fun x => answer twoEntries x.request.call) ++
        c.start.farewell := by
  have hproper : ∀ t ∈ eyeTurns, t.Proper := by
    intro t ht
    simp only [eyeTurns, List.mem_cons, List.not_mem_nil, or_false] at ht
    rcases ht with rfl | rfl <;> exact connects_proper (by decide)
  exact static_clients _ twoEntriesData twoEntries 3 _ false eyeTurns [getEye] [eyeInput]
    twoEntries_held (by decide) hproper (fun _ _ => rfl) (by simpa using getEye_static)
    (.cons getEye_arrives .nil)

end SystemMaster.Http
