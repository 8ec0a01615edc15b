import SystemMaster.Http.ConfigurationStore
import SystemMaster.Library.Texts

/-!
# The query string of a configuration

After a successful POST, `URL_apiConfigurationNVS` copies the query string to
`argsToParse`, cuts it into parameters with `strtok`, and sets two fields of the header
from them. Addresses count from `argsToParse` on.
-/

namespace SystemMaster.Http

open LittleEndian Runs Texts

def maxDbEntryLen : Nat := 64

def ampersand : UInt8 := 0x26

def aircraftIDName : List UInt8 := "AircraftID=".toList.map Char.toUInt8

def configRevName : List UInt8 := "ConfigRev=".toList.map Char.toUInt8

def paramAircraftID : Nat := 1

def paramConfigRev : Nat := 2

structure QueryString where
  bytes : List UInt8
  nonzero : 0 ∉ bytes

structure HeaderFields where
  aircraftID : UInt32
  configRev : UInt32
  deriving DecidableEq

structure Stack where
  argsToParse : Memory UInt8
  header : HeaderFields

def isSpace (c : UInt8) : Bool := c = 0x20 || 0x09 ≤ c && c ≤ 0x0D

def isDigit (c : UInt8) : Bool := '0'.toUInt8 ≤ c && c ≤ '9'.toUInt8

def decimal (t : List UInt8) : Nat :=
  (t.takeWhile isDigit).foldl (fun n c => 10 * n + (c - '0'.toUInt8).toNat) 0

/-- `atoi`. C leaves open what it is of a number that is no `int`; here it wraps. -/
def atoi (t : List UInt8) : UInt32 :=
  match t.dropWhile isSpace with
  | 0x2D :: t => -UInt32.ofNat (decimal t)
  | 0x2B :: t => UInt32.ofNat (decimal t)
  | t => UInt32.ofNat (decimal t)

def urlExtractParam (param : List UInt8) : Nat :=
  if aircraftIDName <+: param then paramAircraftID
  else if configRevName <+: param then paramConfigRev
  else 0

/-- The locals of the loop, with the place at which `strtok` goes on and a record of where
`argsToParse` was written. -/
structure Parser where
  memory : Memory UInt8
  pch : Option Nat
  saved : Nat
  header : HeaderFields
  writes : List Nat

namespace Parser

/-- `strtok` from `p` on, of a text that ends within `n` letters. -/
def strtok (n p : Nat) (s : Parser) : Parser :=
  let text := textFrom 0 s.memory n p
  let pch := p + (text.takeWhile (· = ampersand)).length
  let token := (text.dropWhile (· = ampersand)).takeWhile (· ≠ ampersand)
  let stop := pch + token.length
  if token = [] then { s with pch := none }
  else if s.memory stop = 0 then { s with pch := some pch, saved := stop }
  else
    { s with
      memory := s.memory.write stop [0]
      pch := some pch
      saved := stop + 1
      writes := s.writes ++ [stop] }

def extract (n pch : Nat) (s : Parser) : Parser :=
  let param := urlExtractParam (textFrom 0 s.memory n pch)
  if param = paramAircraftID then
    { s with header := { s.header with aircraftID := atoi (textFrom 0 s.memory n (pch + 11)) } }
  else if param = paramConfigRev then
    { s with header := { s.header with configRev := atoi (textFrom 0 s.memory n (pch + 10)) } }
  else s

def loop (n : Nat) : Nat → Parser → Option Parser
  | 0, _ => none
  | fuel + 1, s =>
    match s.pch with
    | some pch => loop n fuel ((s.extract n pch).strtok n s.saved)
    | none => some s

end Parser

def parse (stack : Stack) (urlArgs : QueryString) : Option Parser :=
  let n := urlArgs.bytes.length
  let s : Parser :=
    { memory := stack.argsToParse.write 0 (urlArgs.bytes ++ [0])
      pch := none
      saved := 0
      header := stack.header
      writes := [] }
  ((s.strtok n 0).loop n (n + 1)).map fun s => { s with writes := List.range (n + 1) ++ s.writes }

def Post.withFields (p : Post) (header : HeaderFields) : Post :=
  { p with aircraftID := header.aircraftID, configRev := header.configRev }

namespace QueryString

def values (q : QueryString) (name : List UInt8) : List (List UInt8) :=
  (tokens ampersand q.bytes).filterMap fun param =>
    if name <+: param then some (param.drop name.length) else none

/-- The number in the last parameter with the name, or a default. -/
def number (q : QueryString) (name : List UInt8) (default : UInt32) : UInt32 :=
  (q.values name).getLast?.elim default atoi

end QueryString

/-- The loop has written in `argsToParse` only, and the header is stored with the numbers
of the query string, or with the default where it has none. Its last two bytes belong to no
field. -/
structure Parser.Right (s : Parser) (default : HeaderFields) (p : Post) (q : QueryString) :
    Prop where
  writes : ∀ a ∈ s.writes, a < maxDbEntryLen
  header : ∃ padding, (p.withFields s.header).headerCall =
    .write 0 (Http.header (q.number aircraftIDName default.aircraftID)
      (q.number configRevName default.configRev) (UInt32.ofNat p.body.length) padding) true
      p.headerResult

namespace Parser

variable {s s' : Parser} {t u rest : List UInt8} {n pch place fuel : Nat}

structure Found (s s' : Parser) (place : Nat) (t u rest : List UInt8) : Prop where
  first : tokens ampersand t = u :: tokens ampersand rest
  token : ∃ pch, s'.pch = some pch ∧ TextAt 0 s'.memory pch u
  saved : TextAt 0 s'.memory s'.saved rest
  length : u.length ≤ t.length
  shorter : rest.length < t.length
  within : s'.saved + rest.length ≤ place + t.length
  header : s'.header = s.header
  writes : ∀ a ∈ s'.writes, a ∈ s.writes ∨ a < place + t.length

theorem strtok_cases (ht : TextAt 0 s.memory place t) (hn : t.length ≤ n) :
    (tokens ampersand t = [] ∧ s.strtok n place = { s with pch := none }) ∨
      ∃ u rest, Found s (s.strtok n place) place t u rest := by
  have htokens := tokens_eq_ite (a := ampersand) (t := t)
  have hsplit := t.takeWhile_append_dropWhile (p := (· = ampersand))
  rw [strtok, ht.textFrom_eq hn]
  generalize t.takeWhile (· = ampersand) = skipped at hsplit ⊢
  generalize t.dropWhile (· = ampersand) = text at hsplit htokens ⊢
  have hcut := text.takeWhile_append_dropWhile (p := (· ≠ ampersand))
  have hsep : ∀ c v, text.dropWhile (· ≠ ampersand) = c :: v → c = ampersand :=
    fun c v => eq_of_dropWhile_eq_cons
  generalize text.takeWhile (· ≠ ampersand) = u at hcut htokens ⊢
  generalize text.dropWhile (· ≠ ampersand) = after at hcut htokens hsep
  obtain rfl := hcut
  obtain rfl := hsplit
  have htext := ht.append
  have hafter := htext.append
  by_cases hu : u = []
  · rw [if_pos hu] at htokens
    exact .inl ⟨htokens, if_pos hu⟩
  rw [if_neg hu] at htokens
  refine .inr ⟨u, ?_⟩
  have hpos : 0 < u.length := List.length_pos_iff.mpr hu
  simp only [if_neg hu]
  cases after with
  | nil =>
    have hstop : s.memory (place + skipped.length + u.length) = 0 := hafter
    rw [if_pos hstop]
    rw [List.append_nil] at htext
    refine ⟨[], htokens, ⟨_, rfl, htext⟩, hafter, ?_, ?_, ?_, rfl, fun a ha => .inl ha⟩
    all_goals simp only [List.length_append, List.length_nil]; omega
  | cons c w =>
    obtain rfl := hsep c w rfl
    have hstop : s.memory (place + skipped.length + u.length) ≠ 0 := by
      rw [hafter.1]
      exact hafter.2.1
    rw [if_neg hstop]
    rw [tokens_cons_self] at htokens
    refine ⟨w, htokens, ⟨_, rfl, htext.cut⟩, hafter.2.2.write le_rfl, ?_, ?_, ?_, rfl,
      fun a ha => ?_⟩
    · simp only [List.length_append]
      omega
    · simp only [List.length_append, List.length_cons]
      omega
    · simp only [List.length_append, List.length_cons]
      omega
    · simp only [List.length_append, List.length_cons]
      rcases List.mem_append.mp ha with ha | ha
      · exact .inl ha
      · rw [List.mem_singleton.mp ha]
        exact .inr (by omega)

theorem urlExtractParam_cases (param : List UInt8) :
    aircraftIDName <+: param ∧ ¬configRevName <+: param ∧ urlExtractParam param = paramAircraftID ∨
      ¬aircraftIDName <+: param ∧ configRevName <+: param ∧
        urlExtractParam param = paramConfigRev ∨
      ¬aircraftIDName <+: param ∧ ¬configRevName <+: param ∧ urlExtractParam param = 0 := by
  by_cases hid : aircraftIDName <+: param
  · refine .inl ⟨hid, fun hrev => ?_, if_pos hid⟩
    have hboth := List.prefix_of_prefix_length_le hrev hid (by decide)
    exact absurd hboth (by decide)
  · by_cases hrev : configRevName <+: param
    · exact .inr (.inl ⟨hid, hrev, by rw [urlExtractParam, if_neg hid, if_pos hrev]⟩)
    · exact .inr (.inr ⟨hid, hrev, by rw [urlExtractParam, if_neg hid, if_neg hrev]⟩)

def assign (header : HeaderFields) (param : List UInt8) : HeaderFields :=
  if urlExtractParam param = paramAircraftID then
    { header with aircraftID := atoi (param.drop 11) }
  else if urlExtractParam param = paramConfigRev then
    { header with configRev := atoi (param.drop 10) }
  else header

theorem extract_eq (ht : TextAt 0 s.memory pch u) (hn : u.length ≤ n) :
    s.extract n pch = { s with header := assign s.header u } := by
  have hdrop : ∀ k, k ≤ u.length → textFrom 0 s.memory n (pch + k) = u.drop k := fun k hk =>
    (ht.drop hk).textFrom_eq (by rw [List.length_drop]; omega)
  rw [extract, ht.textFrom_eq hn, assign]
  rcases urlExtractParam_cases u with ⟨hid, -, hparam⟩ | ⟨-, hrev, hparam⟩ | ⟨-, -, hparam⟩
  · simp only [hparam, if_true, hdrop 11 hid.length_le]
  · simp only [hparam, hdrop 10 hrev.length_le]
    rfl
  · rw [hparam]
    rfl

-- ---------------------------------------------------------------------------
-- All parameters
-- ---------------------------------------------------------------------------

/-- The loop ends, and assigns every token of the text in turn. -/
theorem loop_strtok (ht : TextAt 0 s.memory place t) (hn : t.length ≤ n) (hfuel : t.length < fuel) :
    ∃ s', (s.strtok n place).loop n fuel = some s' ∧
      s'.header = exec assign s.header (tokens ampersand t) ∧
      ∀ a ∈ s'.writes, a ∈ s.writes ∨ a < place + t.length := by
  induction fuel generalizing s place t with
  | zero => exact absurd hfuel (Nat.not_lt_zero _)
  | succ fuel ih =>
    rcases strtok_cases ht hn with ⟨hnone, hlast⟩ | ⟨u, rest, hfound⟩
    · rw [hlast, hnone]
      exact ⟨_, rfl, rfl, fun a ha => .inl ha⟩
    · obtain ⟨pch, hpch, htoken⟩ := hfound.token
      have hextract := extract_eq htoken (hfound.length.trans hn)
      have hshorter := hfound.shorter
      obtain ⟨s', hloop, hheader, hwrites⟩ := ih
        (s := { s.strtok n place with header := assign (s.strtok n place).header u })
        hfound.saved (by omega) (by omega)
      refine ⟨s', ?_, ?_, fun a ha => ?_⟩
      · simp only [loop, hpch, hextract]
        exact hloop
      · rw [hheader, hfound.first, hfound.header, exec_cons]
      · have hwithin := hfound.within
        rcases hwrites a ha with hold | hlt
        · exact hfound.writes a hold
        · exact .inr (Nat.lt_of_lt_of_le hlt hwithin)

end Parser

variable {stack : Stack} {q : QueryString} {default : HeaderFields} {p : Post}

theorem parse_eq (stack : Stack) (q : QueryString) :
    ∃ s, parse stack q = some s ∧
      s.header = exec Parser.assign stack.header (tokens ampersand q.bytes) ∧
      ∀ a, a ∈ s.writes ↔ a ≤ q.bytes.length := by
  obtain ⟨s, hloop, hheader, hwrites⟩ := Parser.loop_strtok (n := q.bytes.length)
    (s := ⟨stack.argsToParse.write 0 (q.bytes ++ [0]), none, 0, stack.header, []⟩)
    (textAt_write (p := 0) q.nonzero) le_rfl (Nat.lt_succ_self _)
  refine ⟨{ s with writes := List.range (q.bytes.length + 1) ++ s.writes }, ?_, hheader,
    fun a => ?_⟩
  · simp only [parse, hloop, Option.map_some]
  · rw [List.mem_append, List.mem_range]
    constructor
    · rintro (hlt | hmem)
      · exact Nat.le_of_lt_succ hlt
      · have hlt := (hwrites a hmem).resolve_left List.not_mem_nil
        omega
    · exact fun hle => .inl (Nat.lt_succ_of_le hle)

theorem exec_assign {name : List UInt8} {field : HeaderFields → UInt32} {header : HeaderFields}
    (h : ∀ header param, field (Parser.assign header param) =
      (if name <+: param then some (atoi (param.drop name.length)) else none).getD (field header)) :
    field (exec Parser.assign header (tokens ampersand q.bytes)) =
      q.number name (field header) := by
  have hvalues : (tokens ampersand q.bytes).filterMap
      (fun param => if name <+: param then some (atoi (param.drop name.length)) else none) =
        (q.values name).map atoi := by
    rw [QueryString.values, List.map_filterMap]
    refine List.filterMap_congr fun param _ => ?_
    split <;> rfl
  rw [exec_field field h, hvalues, List.getLastD_eq_getLast?, List.getLast?_map, QueryString.number]
  cases (q.values name).getLast? <;> rfl

theorem assign_aircraftID (header : HeaderFields) (param : List UInt8) :
    (Parser.assign header param).aircraftID =
      (if aircraftIDName <+: param then some (atoi (param.drop aircraftIDName.length))
        else none).getD header.aircraftID := by
  rw [Parser.assign]
  rcases Parser.urlExtractParam_cases param with h | h | h <;>
    obtain ⟨hid, -, hparam⟩ := h <;> simp only [hid, hparam] <;> rfl

theorem assign_configRev (header : HeaderFields) (param : List UInt8) :
    (Parser.assign header param).configRev =
      (if configRevName <+: param then some (atoi (param.drop configRevName.length))
        else none).getD header.configRev := by
  rw [Parser.assign]
  rcases Parser.urlExtractParam_cases param with h | h | h <;>
    obtain ⟨-, hrev, hparam⟩ := h <;> simp only [hrev, hparam] <;> rfl

theorem header_fields (size : UInt32) {a b c d : UInt32} {padding padding' : UInt8 × UInt8}
    (h : header a b size padding = header c d size padding') : a = c ∧ b = d := by
  simp only [header, List.append_assoc] at h
  obtain ⟨ha, h⟩ := List.append_inj h (by simp)
  obtain ⟨hb, -⟩ := List.append_inj h (by simp)
  exact ⟨wordBytes_injective ha, wordBytes_injective hb⟩

theorem Post.headerCall_iff {header : HeaderFields} {aircraftID configRev : UInt32} :
    (∃ padding, (p.withFields header).headerCall = .write 0
        (Http.header aircraftID configRev (UInt32.ofNat p.body.length) padding) true
        p.headerResult) ↔
      header.aircraftID = aircraftID ∧ header.configRev = configRev := by
  constructor
  · rintro ⟨padding, hcall⟩
    simp only [headerCall, withFields, NvsCall.write.injEq, true_and, and_true] at hcall
    exact header_fields _ hcall
  · rintro ⟨rfl, rfl⟩
    exact ⟨p.padding, rfl⟩

theorem QueryString.number_iff {name : List UInt8} {d : UInt32} :
    (∀ x, q.number name x = q.number name d) ↔ q.values name ≠ [] := by
  rw [← List.getLast?_isSome]
  simp only [number]
  cases (q.values name).getLast? with
  | none =>
    simp only [Option.elim_none, Option.isSome_none, Bool.false_eq_true, iff_false, not_forall]
    exact ⟨d + 1, by simp⟩
  | some => simp

/-- What the handler stores does not depend on the stack exactly when the query string fits
its buffer and has both parameters. -/
theorem parse_right_iff (default : HeaderFields) (p : Post) (q : QueryString) :
    (∀ stack, ∃ s, parse stack q = some s ∧ s.Right default p q) ↔
      q.bytes.length < maxDbEntryLen ∧
        q.values aircraftIDName ≠ [] ∧ q.values configRevName ≠ [] := by
  have hright : ∀ stack, (∃ s, parse stack q = some s ∧ s.Right default p q) ↔
      q.bytes.length < maxDbEntryLen ∧
        q.number aircraftIDName stack.header.aircraftID =
          q.number aircraftIDName default.aircraftID ∧
        q.number configRevName stack.header.configRev =
          q.number configRevName default.configRev := by
    intro stack
    obtain ⟨s, hs, hheader, hwrites⟩ := parse_eq stack q
    simp only [hs, Option.some.injEq, exists_eq_left']
    rw [← exec_assign assign_aircraftID, ← exec_assign assign_configRev, ← hheader]
    constructor
    · intro h
      exact ⟨h.writes _ ((hwrites _).mpr le_rfl), Post.headerCall_iff.mp h.header⟩
    · rintro ⟨hlength, hfields⟩
      exact ⟨fun a ha => Nat.lt_of_le_of_lt ((hwrites a).mp ha) hlength,
        Post.headerCall_iff.mpr hfields⟩
  simp only [hright]
  rw [← QueryString.number_iff (d := default.aircraftID),
    ← QueryString.number_iff (d := default.configRev)]
  constructor
  · intro h
    exact ⟨(h ⟨fun _ => 0, default⟩).1, fun x => (h ⟨fun _ => 0, ⟨x, 0⟩⟩).2.1,
      fun x => (h ⟨fun _ => 0, ⟨0, x⟩⟩).2.2⟩
  · rintro ⟨hlength, hid, hrev⟩ stack
    exact ⟨hlength, hid _, hrev _⟩

def revisionOnly : QueryString := ⟨"ConfigRev=7".toList.map Char.toUInt8, by decide⟩

def longQuery : QueryString := ⟨List.replicate 64 0x78, by decide⟩

/-- Without a parameter the header has what the stack had, and a long query string is
copied beyond its buffer. -/
theorem stack_stored :
    (parse ⟨fun _ => 0, ⟨0, 0⟩⟩ longQuery).map (fun s => decide (64 ∈ s.writes)) = some true ∧
      ¬∃ default : HeaderFields, ∀ (p : Post) (q : QueryString) (stack : Stack),
        ∃ s, parse stack q = some s ∧ s.Right default p q := by
  refine ⟨by decide +kernel, fun ⟨default, h⟩ => ?_⟩
  have hvalues : revisionOnly.values aircraftIDName = [] := by decide +kernel
  have hdefault : ∀ x,
      (parse ⟨fun _ => 0, ⟨x, 0⟩⟩ revisionOnly).map (·.header.aircraftID) = some x →
        x = default.aircraftID := by
    intro x hleft
    obtain ⟨s, hs, hright⟩ := h (shortPost 0) revisionOnly ⟨fun _ => 0, ⟨x, 0⟩⟩
    have hstored := (Post.headerCall_iff.mp hright.header).1
    rw [hs, Option.map_some, Option.some.injEq] at hleft
    rwa [hleft, QueryString.number, hvalues] at hstored
  have hone := hdefault 1 (by decide +kernel)
  have htwo := hdefault 2 (by decide +kernel)
  exact absurd (hone.trans htwo.symm) (by decide)

end SystemMaster.Http
