import SystemMaster.Library.Texts
import SystemMaster.Rosen.SourceQuery

/-!
# The reply of a Rosen player

`vRosenDevice_UDPRxtaskFxn` receives a datagram, puts a zero behind it, and has
`xRosenDevice_udpCmdLineProcessTCP` set pointers to its arguments. Addresses count from
the buffer on.
-/

namespace SystemMaster.Rosen

open Texts

def bufferSize : Nat := 64

def cmdLineTooManyArgs : Int := -2

/-- The locals of the tokenizer. `ppcArgv` has the pointers set so far, `*pui8Argc` is
their number; `writes` is a record of where the text was written. -/
structure CmdLine where
  memory : Memory UInt8
  pcChar : Nat
  findArg : Bool
  ppcArgv : List Nat
  writes : List Nat

namespace CmdLine

def start (memory : Memory UInt8) : CmdLine := ⟨memory, 0, true, [], []⟩

def store (s : CmdLine) (c : UInt8) : CmdLine :=
  { s with memory := s.memory.write s.pcChar [c], writes := s.writes ++ [s.pcChar] }

def next (s : CmdLine) : CmdLine := { s with pcChar := s.pcChar + 1 }

def turn (s : CmdLine) : Option CmdLine :=
  if s.memory s.pcChar = ' '.toUInt8 then some { s.store 0 with findArg := true }.next
  else if s.findArg then
    if s.ppcArgv.length < cmdLineMaxArgs then
      some { s with ppcArgv := s.ppcArgv ++ [s.pcChar], findArg := false }.next
    else none
  else some s.next

def process : Nat → CmdLine → Option (Int × CmdLine)
  | 0, _ => none
  | fuel + 1, s =>
    if s.memory s.pcChar = 0 then some (s.ppcArgv.length, s)
    else
      match s.turn with
      | some s => process fuel s
      | none => some (cmdLineTooManyArgs, s)

end CmdLine

/-- What the receive task has done up to `Mailbox_post`: where it wrote, which of the
pointers to arguments it read through, if any, and what it posts. That pointer is `none`
where it is not one that was set. -/
structure Received where
  writes : List Nat
  argument : Option (Option Nat)
  post : Option (UInt32 × UInt8)

def receive (memory : Memory UInt8) (stray : UInt8) (d : Datagram) (fuel : Nat) :
    Option Received :=
  let bytes := d.bytes.take bufferSize
  let writes := List.range bytes.length
  if 0 < bytes.length then
    let memory := (memory.write 0 bytes).write bytes.length [0]
    let writes := writes ++ [bytes.length]
    ((CmdLine.start memory).process fuel).map fun (count, s) =>
      let writes := writes ++ s.writes
      if 2 < count then
        let c := (s.ppcArgv[3]?.map s.memory).getD stray
        ⟨writes, some s.ppcArgv[3]?, some (d.address, c - '0'.toUInt8)⟩
      else ⟨writes, none, none⟩
  else some ⟨writes, none, none⟩

/-- A datagram that fits the buffer. -/
structure Reply extends Datagram where
  nonempty : bytes ≠ []
  fits : bytes.length ≤ bufferSize

namespace Reply

def text (d : Reply) : List UInt8 := d.bytes.takeWhile (· ≠ 0)

def arguments (d : Reply) : List (List UInt8) := tokens ' '.toUInt8 d.text

/-- The first character of the fourth of four arguments, as a digit. -/
def value (d : Reply) : Option UInt8 :=
  match d.arguments with
  | [_, _, _, c :: _] => some (c - '0'.toUInt8)
  | _ => none

end Reply

/-- The task has written in its buffer only, has read through no pointer but one that was
set, and posts the value of the reply, or nothing when that has none. -/
structure Received.Right (r : Received) (d : Reply) : Prop where
  writes : ∀ a ∈ r.writes, a < bufferSize
  argument : r.argument ≠ some none
  post : r.post = d.value.map (d.address, ·)

variable {s s' : CmdLine} {t argv bytes : List UInt8} {findArg : Bool} {fuel : Nat}

theorem udpCmdLineProcess_takeWhile :
    udpCmdLineProcess findArg argv (bytes.takeWhile (· ≠ 0)) =
      udpCmdLineProcess findArg argv bytes := by
  induction bytes generalizing findArg argv with
  | nil => rfl
  | cons c bytes ih =>
    by_cases hzero : c = 0
    · simp [udpCmdLineProcess, hzero]
    · rw [List.takeWhile_cons_of_pos (by simpa using hzero)]
      simp only [udpCmdLineProcess, if_neg hzero, ih]

def limited (argv : List UInt8) : Option (List UInt8) :=
  if argv.length ≤ cmdLineMaxArgs then some argv else none

/-- Where no argument is looked for, the rest of one comes first. -/
theorem udpCmdLineProcess_eq (ht : 0 ∉ t) (hargv : argv.length ≤ cmdLineMaxArgs) :
    udpCmdLineProcess findArg argv t =
      limited (argv ++ (tokens ' '.toUInt8
        (if findArg then t else t.dropWhile (· ≠ ' '.toUInt8))).filterMap List.head?) := by
  induction t generalizing findArg argv with
  | nil => simp [udpCmdLineProcess, limited, hargv]
  | cons c t ih =>
    obtain ⟨hc, hrest⟩ := List.ne_and_not_mem_of_not_mem_cons ht
    rw [udpCmdLineProcess, if_neg hc.symm]
    by_cases hspace : c = ' '.toUInt8
    · rw [if_pos hspace, ih hrest hargv, if_pos rfl, hspace]
      cases findArg <;> simp
    · rw [if_neg hspace]
      cases findArg with
      | false =>
        rw [if_neg Bool.false_ne_true, ih hrest hargv]
        simp [hspace]
      | true =>
        rw [if_pos rfl, if_pos rfl, tokens_cons_of_ne hspace]
        split
        case isTrue hlt =>
          rw [ih hrest (by simpa using Nat.succ_le_of_lt hlt)]
          simp
        case isFalse hge =>
          rw [limited, if_neg]
          simp only [List.length_append, List.filterMap_cons, List.head?_cons, List.length_cons]
          omega

def CmdLine.Returned (s : CmdLine) (count : Int) : Option (List UInt8) → Prop
  | some argv => count = argv.length ∧ s.ppcArgv.map s.memory = argv
  | none => count = cmdLineTooManyArgs

theorem CmdLine.map_store {c : UInt8} (hargv : ∀ a ∈ s.ppcArgv, a < s.pcChar) :
    (s.store c).ppcArgv.map (s.store c).memory = s.ppcArgv.map s.memory :=
  List.map_congr_left fun a ha => Memory.write_of_lt (hargv a ha)

/-- A turn of the loop at a character goes past it, and leaves what is behind it. -/
structure CmdLine.Turned (s s' : CmdLine) (c : UInt8) : Prop where
  pcChar : s'.pcChar = s.pcChar + 1
  memory : ∀ a, s'.pcChar ≤ a → s'.memory a = s.memory a
  ppcArgv : ∀ a ∈ s'.ppcArgv, a < s'.pcChar
  writes : ∀ a ∈ s'.writes, a ∈ s.writes ∨ a = s.pcChar
  process : ∀ t, udpCmdLineProcess s.findArg (s.ppcArgv.map s.memory) (c :: t) =
    udpCmdLineProcess s'.findArg (s'.ppcArgv.map s'.memory) t

theorem CmdLine.turn_cases {c : UInt8} (hc : s.memory s.pcChar = c) (hne : c ≠ 0)
    (hargv : ∀ a ∈ s.ppcArgv, a < s.pcChar) :
    (∃ s', s.turn = some s' ∧ s.Turned s' c) ∨
      s.turn = none ∧
        ∀ t, udpCmdLineProcess s.findArg (s.ppcArgv.map s.memory) (c :: t) = none := by
  have hbehind : ∀ a ∈ s.ppcArgv, a < s.pcChar + 1 := fun a ha => Nat.lt_succ_of_lt (hargv a ha)
  by_cases hspace : c = ' '.toUInt8
  · refine .inl ⟨_, if_pos (hc.trans hspace), rfl, ?_, hbehind, ?_, fun t => ?_⟩
    · exact fun a ha => Memory.write_of_ge ha
    · simp [next, store]
    · rw [udpCmdLineProcess, if_neg hne, if_pos hspace, ← map_store hargv]
      rfl
  by_cases hfind : s.findArg
  case neg =>
    refine .inl ⟨s.next, ?_, rfl, fun _ _ => rfl, hbehind, fun a ha => .inl ha, fun t => ?_⟩
    · rw [turn, if_neg (hc ▸ hspace), if_neg hfind]
    · rw [udpCmdLineProcess, if_neg hne, if_neg hspace, if_neg hfind]
      rfl
  case pos =>
    by_cases hlt : s.ppcArgv.length < cmdLineMaxArgs
    · refine .inl ⟨{ s with ppcArgv := s.ppcArgv ++ [s.pcChar], findArg := false }.next, ?_, rfl,
        fun _ _ => rfl, ?_, fun a ha => .inl ha, fun t => ?_⟩
      · rw [turn, if_neg (hc ▸ hspace), if_pos hfind, if_pos hlt]
      · simp only [next, List.mem_append, List.mem_singleton]
        rintro a (ha | rfl)
        · exact hbehind a ha
        · exact Nat.lt_succ_self _
      · rw [udpCmdLineProcess, if_neg hne, if_neg hspace, if_pos hfind,
          if_pos (by rwa [List.length_map]), ← hc]
        simp [next]
    · refine .inr ⟨?_, fun t => ?_⟩
      · rw [turn, if_neg (hc ▸ hspace), if_pos hfind, if_neg hlt]
      · rw [udpCmdLineProcess, if_neg hne, if_neg hspace, if_pos hfind,
          if_neg (by rwa [List.length_map])]

/-- The loop ends at the zero behind the text, writes within the text, and does with
pointers what the tokenizer does with characters. -/
theorem CmdLine.process_eq (ht : TextAt 0 s.memory s.pcChar t)
    (hargv : ∀ a ∈ s.ppcArgv, a < s.pcChar) (hfuel : t.length < fuel) :
    ∃ count s', s.process fuel = some (count, s') ∧
      (∀ a ∈ s'.writes, a ∈ s.writes ∨ a < s.pcChar + t.length) ∧
      s'.Returned count (udpCmdLineProcess s.findArg (s.ppcArgv.map s.memory) t) := by
  induction t generalizing s fuel with
  | nil =>
    obtain ⟨fuel, rfl⟩ := Nat.exists_eq_succ_of_ne_zero (Nat.ne_zero_of_lt hfuel)
    refine ⟨s.ppcArgv.length, s, if_pos ht, fun a ha => .inl ha, ?_⟩
    exact ⟨by simp, rfl⟩
  | cons c t ih =>
    obtain ⟨fuel, rfl⟩ := Nat.exists_eq_succ_of_ne_zero (Nat.ne_zero_of_lt hfuel)
    obtain ⟨hc, hne, ht⟩ := ht
    rw [process, if_neg (hc ▸ hne)]
    rcases turn_cases hc hne hargv with ⟨s', hturn, hturned⟩ | ⟨hturn, hnone⟩
    · rw [hturn, hturned.process t]
      obtain ⟨count, s'', hrun, hwrites, hreturned⟩ := ih (s := s')
        ((hturned.pcChar ▸ ht).congr hturned.memory) hturned.ppcArgv (Nat.lt_of_succ_lt_succ hfuel)
      refine ⟨count, s'', hrun, fun a ha => ?_, hreturned⟩
      rw [List.length_cons]
      rcases hwrites a ha with hold | hlt
      · refine (hturned.writes a hold).imp_right ?_
        omega
      · rw [hturned.pcChar] at hlt
        exact .inr (by omega)
    · rw [hturn, hnone t]
      exact ⟨_, s, rfl, fun a ha => .inl ha, rfl⟩

-- ---------------------------------------------------------------------------
-- The receive task on a reply
-- ---------------------------------------------------------------------------

theorem textAt_reply (memory : Memory UInt8) (bytes : List UInt8) :
    TextAt 0 ((memory.write 0 bytes).write bytes.length [0]) 0 (bytes.takeWhile (· ≠ 0)) := by
  refine textAt_takeWhile ?_ ?_
  · rw [Memory.read_write_of_disjoint (.inl (by simp)), Memory.read_write]
  · rw [Nat.zero_add, Memory.write_at]

theorem process_reply (memory : Memory UInt8) (hfuel : bytes.length < fuel) :
    ∃ count s, (CmdLine.start ((memory.write 0 bytes).write bytes.length [0])).process fuel =
        some (count, s) ∧
      (∀ a ∈ s.writes, a < bytes.length) ∧
      s.Returned count (udpCmdLineProcess true [] bytes) := by
  have hlength : (bytes.takeWhile (· ≠ 0)).length ≤ bytes.length :=
    (List.takeWhile_prefix _).length_le
  obtain ⟨count, s, hrun, hwrites, hreturned⟩ := CmdLine.process_eq
    (s := .start ((memory.write 0 bytes).write bytes.length [0])) (textAt_reply memory bytes)
    (fun a ha => absurd ha List.not_mem_nil) (Nat.lt_of_le_of_lt hlength hfuel)
  refine ⟨count, s, hrun, fun a ha => ?_, ?_⟩
  · have hlt := (hwrites a ha).resolve_left List.not_mem_nil
    rw [CmdLine.start, Nat.zero_add] at hlt
    omega
  · rwa [udpCmdLineProcess_takeWhile] at hreturned

/-- The task writes up to the zero and posts the message of the source query. It reads
through a stray pointer when there are three arguments. -/
theorem receive_eq (memory : Memory UInt8) (stray : UInt8) (d : Datagram) (socket : Nat)
    (hfuel : bufferSize < fuel) :
    ∃ r, receive memory stray d fuel = some r ∧
      (∀ a ∈ r.writes, a ≤ (d.bytes.take bufferSize).length) ∧
      (0 < (d.bytes.take bufferSize).length → (d.bytes.take bufferSize).length ∈ r.writes) ∧
      (r.argument = some none ↔
        ∃ argv, udpCmdLineProcess true [] (d.bytes.take bufferSize) = some argv ∧
          argv.length = 3) ∧
      r.post = (message socket stray d).map fun msg => (msg.id, msg.val) := by
  have hfits : (d.bytes.take bufferSize).length ≤ bufferSize := List.length_take_le _ _
  have hmessage : message socket stray d =
    match udpCmdLineProcess true [] (d.bytes.take bufferSize) with
    | some argv =>
      if argv.length > 2 then
        some ⟨d.address, argv[3]?.getD stray - '0'.toUInt8,
          if 3 < argv.length then some socket else none⟩
      else none
    | none => none := rfl
  rw [hmessage, receive]
  generalize d.bytes.take bufferSize = bytes at hfits ⊢
  by_cases hpos : 0 < bytes.length
  case neg =>
    obtain rfl := List.eq_nil_of_length_eq_zero (Nat.eq_zero_of_not_pos hpos)
    exact ⟨_, rfl, by simp, by simp, by simp [udpCmdLineProcess], rfl⟩
  obtain ⟨count, s, hrun, hwrites, hreturned⟩ :=
    process_reply memory (Nat.lt_of_le_of_lt hfits hfuel)
  have hwithin : ∀ a ∈ List.range bytes.length ++ [bytes.length] ++ s.writes,
      a ≤ bytes.length := by
    intro a ha
    simp only [List.mem_append, List.mem_range, List.mem_singleton] at ha
    rcases ha with (hlt | rfl) | hmem
    · exact Nat.le_of_lt hlt
    · exact le_rfl
    · exact Nat.le_of_lt (hwrites a hmem)
  have hzero : bytes.length ∈ List.range bytes.length ++ [bytes.length] ++ s.writes := by simp
  simp only [if_pos hpos, hrun, Option.map_some]
  refine ⟨_, rfl, ?_⟩
  cases hargs : udpCmdLineProcess true [] bytes with
  | none =>
    rw [hargs] at hreturned
    rw [if_neg (by rw [hreturned]; decide)]
    exact ⟨hwithin, fun _ => hzero, by simp, rfl⟩
  | some argv =>
    rw [hargs] at hreturned
    obtain ⟨rfl, hargv⟩ := hreturned
    have hthird : s.ppcArgv[3]?.map s.memory = argv[3]? := by rw [← hargv, List.getElem?_map]
    have hstray : s.ppcArgv[3]? = none ↔ argv.length ≤ 3 := by
      rw [← hargv, List.length_map, List.getElem?_eq_none_iff]
    by_cases hcount : 2 < argv.length
    · rw [if_pos (by exact_mod_cast hcount), hthird]
      refine ⟨hwithin, fun _ => hzero, ?_, by simp [hcount]⟩
      simp only [Option.some.injEq, hstray, exists_eq_left']
      omega
    · rw [if_neg (by exact_mod_cast hcount)]
      refine ⟨hwithin, fun _ => hzero, ?_, by simp [hcount]⟩
      simp only [reduceCtorEq, Option.some.injEq, exists_eq_left', false_iff]
      omega

namespace Reply

variable {d : Reply}

theorem take_bytes : d.bytes.take bufferSize = d.bytes := List.take_of_length_le d.fits

theorem udpCmdLineProcess_bytes :
    udpCmdLineProcess true [] d.bytes = limited (d.arguments.filterMap List.head?) := by
  have hzero : 0 ∉ d.text := fun hmem => by simpa using List.mem_takeWhile_imp hmem
  rw [← udpCmdLineProcess_takeWhile, ← text, udpCmdLineProcess_eq hzero (Nat.zero_le _), if_pos rfl]
  rfl

theorem length_heads : (d.arguments.filterMap List.head?).length = d.arguments.length := by
  refine List.filterMap_length_eq_length.mpr fun u hu => ?_
  rw [List.isSome_head?]
  exact ne_nil_of_mem_tokens hu

theorem three_arguments :
    (∃ argv, udpCmdLineProcess true [] d.bytes = some argv ∧ argv.length = 3) ↔
      d.arguments.length = 3 := by
  rw [udpCmdLineProcess_bytes, limited, length_heads]
  constructor
  · rintro ⟨argv, hargv, hlength⟩
    split at hargv
    · cases hargv
      rwa [length_heads] at hlength
    · cases hargv
  · intro hlength
    rw [if_pos (by rw [hlength]; decide)]
    exact ⟨_, rfl, length_heads.trans hlength⟩

theorem message_eq (socket : Nat) (stray : UInt8) (h : d.arguments.length ≠ 3) :
    ((message socket stray d.toDatagram).map fun msg => (msg.id, msg.val)) =
      d.value.map (d.address, ·) := by
  have hne : ∀ u ∈ d.arguments, u ≠ [] := fun u hu => ne_nil_of_mem_tokens hu
  have hlength : (d.arguments.filterMap List.head?).length = d.arguments.length := length_heads
  rw [message, ← bufferSize, take_bytes, udpCmdLineProcess_bytes, value, limited]
  generalize d.arguments = arguments at h hne hlength ⊢
  match arguments with
  | [] | [_] | [_, _] => simp_all [cmdLineMaxArgs]
  | [_, _, _] => exact absurd rfl h
  | [a, b, c, e] =>
    obtain ⟨_, _, rfl⟩ := List.exists_cons_of_ne_nil (hne a (by simp))
    obtain ⟨_, _, rfl⟩ := List.exists_cons_of_ne_nil (hne b (by simp))
    obtain ⟨_, _, rfl⟩ := List.exists_cons_of_ne_nil (hne c (by simp))
    obtain ⟨_, _, rfl⟩ := List.exists_cons_of_ne_nil (hne e (by simp))
    rfl
  | _ :: _ :: _ :: _ :: _ :: _ =>
    rw [if_neg (by rw [hlength, cmdLineMaxArgs]; simp)]
    simp

end Reply

/-- The task is right about a reply exactly when the zero fits the buffer and there are not
three arguments. -/
theorem receive_right_iff (memory : Memory UInt8) (stray : UInt8) (d : Reply) :
    (∃ r, receive memory stray d.toDatagram (bufferSize + 1) = some r ∧ r.Right d) ↔
      d.bytes.length < bufferSize ∧ d.arguments.length ≠ 3 := by
  obtain ⟨r, hr, hwrites, hzero, hargument, hpost⟩ :=
    receive_eq memory stray d.toDatagram 0 (Nat.lt_succ_self bufferSize)
  rw [Reply.take_bytes] at hwrites hzero hargument
  rw [Reply.three_arguments] at hargument
  simp only [hr, Option.some.injEq, exists_eq_left']
  constructor
  · intro h
    exact ⟨h.writes _ (hzero (List.length_pos_iff.mpr d.nonempty)), mt hargument.mpr h.argument⟩
  · rintro ⟨hlength, harguments⟩
    exact ⟨fun a ha => Nat.lt_of_le_of_lt (hwrites a ha) hlength, mt hargument.mp harguments,
      hpost.trans (Reply.message_eq 0 stray harguments)⟩

def shortReply : Reply where
  address := 0xC0A8032A
  bytes := [79, 32, 103, 32, 49]
  nonempty := by decide
  fits := by decide

def fullReply : Reply where
  address := 0xC0A8032A
  bytes := List.replicate 64 79
  nonempty := by decide
  fits := by decide

/-- What lies behind a pointer that was not set is posted, and the zero behind a full
buffer is put outside it. -/
theorem short_and_full_misread :
    (∃ r, receive (fun _ => 0) 0x37 shortReply.toDatagram (bufferSize + 1) = some r ∧
      r.argument = some none ∧ r.post = some (0xC0A8032A, 7)) ∧
    (∃ r, receive (fun _ => 0) 0x37 fullReply.toDatagram (bufferSize + 1) = some r ∧
      64 ∈ r.writes) ∧
    ¬∀ (memory : Memory UInt8) (stray : UInt8) (d : Reply),
      ∃ r, receive memory stray d.toDatagram (bufferSize + 1) = some r ∧ r.Right d := by
  have hshort : ∃ r, receive (fun _ => 0) 0x37 shortReply.toDatagram (bufferSize + 1) = some r ∧
      r.argument = some none ∧ r.post = some (0xC0A8032A, 7) := ⟨_, rfl, rfl, rfl⟩
  have hfull : ((receive (fun _ => 0) 0x37 fullReply.toDatagram (bufferSize + 1)).map
      fun r => decide (64 ∈ r.writes)) = some true := by decide +kernel
  obtain ⟨r, hr, hmem⟩ := Option.map_eq_some_iff.mp hfull
  refine ⟨hshort, ⟨r, hr, of_decide_eq_true hmem⟩, fun h => ?_⟩
  obtain ⟨r, hr, hstray, -⟩ := hshort
  obtain ⟨r', hr', hright⟩ := h (fun _ => 0) 0x37 shortReply
  obtain rfl : r = r' := Option.some.inj (hr.symm.trans hr')
  exact hright.argument hstray

end SystemMaster.Rosen
