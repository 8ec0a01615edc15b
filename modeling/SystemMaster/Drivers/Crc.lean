import Mathlib.Data.Set.Function
import SystemMaster.Avds.Corruption
import SystemMaster.Library.Runs

/-!
# The CRC driver

A session calculates a message as a whole or in parts. For a part after the first one the
driver makes what the accelerator held its seed, and never puts the seed of the session
back: what a message starts from depends on the ones before it.
-/

namespace SystemMaster.Drivers

open Avds.Requests (crcByte crc16Ccitt calculateFull toBitVec_crcByte)
open LittleEndian Runs

inductive DataSize where
  | bits8
  | bits16
  | bits32
  deriving DecidableEq

inductive ByteSwap where
  | unchanged
  | halfWords
  | bytesInHalfWords
  | bytesAndHalfWords
  deriving DecidableEq

inductive Polynomial where
  | crc8Ccitt
  | crc16Ibm
  | crc16Ccitt
  | crc32Ieee
  | crc32C
  | crcTcp
  deriving DecidableEq

/-- `CRC_Params` without the timeout. -/
structure Params where
  seed : UInt32
  finalXorValue : UInt32
  dataSize : DataSize
  byteSwapInput : ByteSwap
  polynomial : Polynomial
  reverseInputBits : Bool
  reverseOutputBits : Bool
  invertOutputBits : Bool
  callback : Bool

/-- What is set in the control register. -/
structure HwConfig where
  word : Bool
  swapHalfWords : Bool
  swapBytes : Bool
  reverseInput : Bool
  reverseOutput : Bool
  invertOutput : Bool
  type : Polynomial
  deriving DecidableEq

def getHwConfigRegister (p : Params) : Option HwConfig :=
  if p.dataSize = .bits16 then none
  else if p.dataSize = .bits8 ∧ p.byteSwapInput ≠ .unchanged then none
  else if p.polynomial = .crc8Ccitt then none
  else some {
    word := p.dataSize = .bits32
    swapHalfWords := p.byteSwapInput = .halfWords ∨ p.byteSwapInput = .bytesAndHalfWords
    swapBytes := p.byteSwapInput = .bytesInHalfWords ∨ p.byteSwapInput = .bytesAndHalfWords
    reverseInput := p.reverseInputBits
    reverseOutput := p.reverseOutputBits
    invertOutput := p.invertOutputBits
    type := p.polynomial }

/-- The accelerator: what `CRCSEED` holds after a write to `CRCDIN`, and what `CRCRSLTPP`
shows of it. -/
structure Accelerator where
  din : HwConfig → UInt32 → UInt32 → UInt32
  rsltpp : HwConfig → UInt32 → UInt32

structure Object where
  configRegister : HwConfig
  callback : Bool
  ongoingPartial : Bool
  resultRawPartial : UInt32
  resultProcessedPartial : UInt32
  seed : UInt32
  dataSize : DataSize
  finalXorValue : UInt32

inductive Status where
  | success
  | leftoverBytesPresent
  | resourceUnavailable
  deriving DecidableEq

/-- `CRC_open` of a driver that no one has open. -/
def crcOpen (p : Params) : Option Object :=
  (getHwConfigRegister p).map fun config => {
    configRegister := config
    callback := p.callback
    ongoingPartial := false
    resultRawPartial := 0
    resultProcessedPartial := 0
    seed := p.seed
    dataSize := p.dataSize
    finalXorValue := p.finalXorValue }

structure Attempt where
  source : List UInt8
  locked : Bool

/-- The words of the source as a little-endian processor reads them. -/
def words32 : List UInt8 → List UInt32
  | a :: b :: c :: d :: source => UInt32.ofNat (ofBytes [a, b, c, d]) :: words32 source
  | _ => []

def written : DataSize → List UInt8 → List UInt32
  | .bits8, source => source.map UInt8.toUInt32
  | .bits16, _ => []
  | .bits32, source => words32 source

namespace Object

def calculate (acc : Accelerator) (o : Object) (a : Attempt) : Object × Status :=
  if o.dataSize = .bits32 ∧ a.source.length % 4 ≠ 0 then (o, .leftoverBytesPresent)
  else if ¬a.locked then (o, .resourceUnavailable)
  else
    let raw := (written o.dataSize a.source).foldl (acc.din o.configRegister) o.seed
    ({ o with
      resultRawPartial := raw
      resultProcessedPartial := acc.rsltpp o.configRegister raw ^^^ o.finalXorValue }, .success)

/-- `CRC_calculateFull`: the status, what the callback is told, and the result. -/
def calculateFull (acc : Accelerator) (o : Object) (a : Attempt) :
    Object × Status × Option Status × UInt32 :=
  let (o, status) := o.calculate acc a
  (o, status, if o.callback then some .success else none, o.resultProcessedPartial)

/-- `CRC_addData`: the status, and what the callback is told. -/
def addData (acc : Accelerator) (o : Object) (a : Attempt) : Object × Status × Option Status :=
  let o := if o.ongoingPartial then { o with seed := o.resultRawPartial } else o
  let o := { o with ongoingPartial := true }
  let (o, status) := o.calculate acc a
  if o.callback then (o, .success, some status) else (o, status, none)

def finalize (o : Object) : Object × UInt32 :=
  ({ o with ongoingPartial := false }, o.resultProcessedPartial)

end Object

-- ---------------------------------------------------------------------------
-- Messages
-- ---------------------------------------------------------------------------

inductive Message where
  | full (a : Attempt)
  | parts (first : Attempt) (rest : List Attempt)

def Object.send (acc : Accelerator) (o : Object) : Message → Object × UInt32
  | .full a => ((o.calculateFull acc a).1, (o.calculateFull acc a).2.2.2)
  | .parts first rest => ((first :: rest).foldl (fun o a => (o.addData acc a).1) o).finalize

def Object.next (acc : Accelerator) (o : Object) (m : Message) : Object := (o.send acc m).1

def Attempt.succeeds (size : DataSize) (a : Attempt) : Bool :=
  !(size = .bits32 && a.source.length % 4 ≠ 0) && a.locked

def taken (size : DataSize) (as : List Attempt) : List UInt8 :=
  (as.filter (Attempt.succeeds size)).flatMap Attempt.source

def Message.attempts : Message → List Attempt
  | .full a => [a]
  | .parts first rest => first :: rest

def Message.first : Message → Attempt
  | .full a => a
  | .parts first _ => first

def Message.text (size : DataSize) (m : Message) : List UInt8 := taken size m.attempts

/-- A message of which at least one call succeeds. -/
def Message.Sent (size : DataSize) (m : Message) : Prop := ∃ a ∈ m.attempts, a.succeeds size = true

def freshResult (acc : Accelerator) (p : Params) (bytes : List UInt8) : Option UInt32 :=
  (crcOpen p).map fun o => (o.calculateFull acc ⟨bytes, true⟩).2.2.2

/-- What is left of the messages so far: the seed, and what the accelerator held last. -/
structure Drift where
  seed : UInt32
  raw : UInt32

def after (acc : Accelerator) (config : HwConfig) (size : DataSize) (c : UInt32)
    (bytes : List UInt8) : UInt32 :=
  (written size bytes).foldl (acc.din config) c

/-- What a message starts from: a first call that fails leaves what the accelerator held. -/
def Drift.start (size : DataSize) (d : Drift) (m : Message) : UInt32 :=
  if m.first.succeeds size then d.seed else d.raw

/-- A message in parts leaves the register before its last call as the seed. -/
def Drift.next (acc : Accelerator) (config : HwConfig) (size : DataSize) (d : Drift) (m : Message) :
    Drift where
  seed := match m with
    | .full _ => d.seed
    | .parts _ [] => d.seed
    | .parts first rest =>
      after acc config size (d.start size m) (taken size (first :: rest).dropLast)
  raw := after acc config size (d.start size m) (m.text size)

theorem Drift.next_raw (acc : Accelerator) (config : HwConfig) (size : DataSize) (d : Drift)
    (m : Message) :
    (d.next acc config size m).raw = after acc config size (d.start size m) (m.text size) := rfl

/-- A register loses nothing of what it may hold, and shows all of it. -/
structure Accelerator.Lawful (acc : Accelerator) (config : HwConfig) (held : Set UInt32) : Prop where
  maps : ∀ c ∈ held, ∀ v, acc.din config c v ∈ held
  injective : ∀ v, Set.InjOn (acc.din config · v) held
  shows : Set.InjOn (acc.rsltpp config) held

variable {acc : Accelerator} {config : HwConfig} {size : DataSize} {held : Set UInt32} {p : Params}
  {o : Object} {a : Attempt} {as bs : List Attempt} {m : Message} {ms : List Message}
  {c d : UInt32} {δ : Drift} {ongoing : Bool} {xs ys : List UInt8}

-- ---------------------------------------------------------------------------
-- Bytes one after the other
-- ---------------------------------------------------------------------------

theorem words32_append (h : 4 ∣ xs.length) : words32 (xs ++ ys) = words32 xs ++ words32 ys := by
  induction xs using words32.induct with
  | case1 a b c d xs ih =>
    have hxs : 4 ∣ xs.length := (Nat.dvd_add_left (dvd_refl 4)).mp h
    simp only [List.cons_append, words32, ih hxs]
  | case2 xs hshort =>
    match xs, hshort with
    | [], _ => rfl
    | [_], _ | [_, _], _ | [_, _, _], _ => exact absurd h (by simp)
    | a :: b :: c :: d :: xs, hshort => exact absurd rfl (hshort a b c d xs)

theorem written_append (h : size = .bits32 → 4 ∣ xs.length) :
    written size (xs ++ ys) = written size xs ++ written size ys := by
  cases size with
  | bits8 => exact List.map_append
  | bits16 => rfl
  | bits32 => exact words32_append (h rfl)

theorem after_append (h : size = .bits32 → 4 ∣ xs.length) :
    after acc config size c (xs ++ ys) = after acc config size (after acc config size c xs) ys := by
  rw [after, written_append h, List.foldl_append]
  rfl

@[simp] theorem after_nil : after acc config size c [] = c := by cases size <;> rfl

theorem Attempt.dvd_of_succeeds (h : a.succeeds size = true) : size = .bits32 → 4 ∣ a.source.length := by
  rintro rfl
  simp only [Attempt.succeeds, decide_true, Bool.true_and, Bool.and_eq_true, Bool.not_eq_true',
    decide_eq_false_iff_not, not_not] at h
  exact Nat.dvd_of_mod_eq_zero h.1

theorem taken_cons : taken size (a :: as) =
    if a.succeeds size then a.source ++ taken size as else taken size as := by
  rw [taken, List.filter_cons]
  split <;> rfl

theorem taken_dvd (as : List Attempt) : size = .bits32 → 4 ∣ (taken size as).length := by
  intro hsize
  induction as with
  | nil => exact dvd_zero 4
  | cons a as ih =>
    rw [taken_cons]
    split
    case isTrue h =>
      rw [List.length_append]
      exact Nat.dvd_add (Attempt.dvd_of_succeeds h hsize) ih
    case isFalse => exact ih

theorem taken_append : taken size (as ++ bs) = taken size as ++ taken size bs := by
  rw [taken, List.filter_append, List.flatMap_append]
  rfl

theorem after_taken_append : after acc config size c (taken size (as ++ bs)) =
    after acc config size (after acc config size c (taken size as)) (taken size bs) := by
  rw [taken_append, after_append (taken_dvd as)]

-- ---------------------------------------------------------------------------
-- Calls
-- ---------------------------------------------------------------------------

def Object.shown (acc : Accelerator) (o : Object) (raw : UInt32) : UInt32 :=
  acc.rsltpp o.configRegister raw ^^^ o.finalXorValue

theorem calculate_fst (acc : Accelerator) (o : Object) (a : Attempt) : (o.calculate acc a).1 =
    if a.succeeds o.dataSize then { o with
      resultRawPartial := after acc o.configRegister o.dataSize o.seed a.source
      resultProcessedPartial :=
        o.shown acc (after acc o.configRegister o.dataSize o.seed a.source) }
    else o := by
  rw [Object.calculate]
  by_cases hleft : o.dataSize = .bits32 ∧ a.source.length % 4 ≠ 0
  · simp [Attempt.succeeds, hleft.1, hleft.2]
  · have hwhole : (!(decide (o.dataSize = .bits32) && decide (a.source.length % 4 ≠ 0))) = true := by
      simpa [Decidable.imp_iff_not_or] using hleft
    rw [if_neg hleft, Attempt.succeeds, hwhole]
    cases a.locked <;> rfl

theorem addData_fst (acc : Accelerator) (o : Object) (a : Attempt) : (o.addData acc a).1 =
    (Object.calculate acc { (if o.ongoingPartial then { o with seed := o.resultRawPartial } else o)
      with ongoingPartial := true } a).1 := by
  rw [Object.addData]
  dsimp only
  rw [apply_ite Prod.fst, ite_self]

theorem addData_first (h : o.ongoingPartial = false) : (o.addData acc a).1 =
    (Object.calculate acc { o with ongoingPartial := true } a).1 := by
  rw [addData_fst, if_neg (by simp [h])]

theorem addData_later (h : o.ongoingPartial = true) : (o.addData acc a).1 =
    (Object.calculate acc { o with seed := o.resultRawPartial } a).1 := by
  have hsame : ({ o with seed := o.resultRawPartial, ongoingPartial := true } : Object) =
      { o with seed := o.resultRawPartial } := by rw [← h]
  rw [addData_fst, if_pos h, hsame]

structure Added (acc : Accelerator) (o : Object) (as : List Attempt) (o' : Object) : Prop where
  configRegister : o'.configRegister = o.configRegister
  dataSize : o'.dataSize = o.dataSize
  finalXorValue : o'.finalXorValue = o.finalXorValue
  ongoing : o'.ongoingPartial = true
  raw : o'.resultRawPartial =
    after acc o.configRegister o.dataSize o.resultRawPartial (taken o.dataSize as)
  processed : o'.resultProcessedPartial = if ∃ a ∈ as, a.succeeds o.dataSize = true then
    o.shown acc o'.resultRawPartial else o.resultProcessedPartial
  seed : o'.seed = if as = [] then o.seed else
    after acc o.configRegister o.dataSize o.resultRawPartial (taken o.dataSize as.dropLast)

theorem taken_of_none (h : ¬∃ a ∈ as, a.succeeds size = true) : taken size as = [] := by
  rw [taken, List.filter_eq_nil_iff.mpr fun a ha hsucceeds => h ⟨a, ha, hsucceeds⟩]
  rfl

theorem foldl_addData (h : o.ongoingPartial = true) :
    Added acc o as (as.foldl (fun o a => (o.addData acc a).1) o) := by
  induction as generalizing o with
  | nil =>
    refine ⟨rfl, rfl, rfl, h, after_nil.symm, ?_, rfl⟩
    rw [if_neg (by simp)]
    rfl
  | cons a as ih =>
    rw [List.foldl_cons, addData_later h, calculate_fst]
    split
    case isTrue hsucceeds =>
      obtain ⟨hconfig, hsize, hxor, hongoing, hraw, hprocessed, hseed⟩ := ih (o := { o with
        seed := o.resultRawPartial
        resultRawPartial := after acc o.configRegister o.dataSize o.resultRawPartial a.source
        resultProcessedPartial :=
          o.shown acc (after acc o.configRegister o.dataSize o.resultRawPartial a.source) }) h
      have hdvd := Attempt.dvd_of_succeeds hsucceeds
      refine ⟨hconfig, hsize, hxor, hongoing, ?_, ?_, ?_⟩
      · rw [taken_cons, if_pos hsucceeds, after_append hdvd]
        exact hraw
      · rw [if_pos ⟨a, List.mem_cons_self, hsucceeds⟩]
        refine hprocessed.trans ?_
        split
        case isTrue => rfl
        case isFalse hnone =>
          rw [taken_of_none hnone, after_nil] at hraw
          exact congrArg (o.shown acc) hraw.symm
      · rw [if_neg (List.cons_ne_nil a as)]
        refine hseed.trans ?_
        split
        case isTrue hnil => rw [hnil]; exact after_nil.symm
        case isFalse hne =>
          rw [List.dropLast_cons_of_ne_nil hne, taken_cons, if_pos hsucceeds, after_append hdvd]
    case isFalse hfails =>
      obtain ⟨hconfig, hsize, hxor, hongoing, hraw, hprocessed, hseed⟩ :=
        ih (o := { o with seed := o.resultRawPartial }) h
      refine ⟨hconfig, hsize, hxor, hongoing, ?_, ?_, ?_⟩
      · rw [taken_cons, if_neg hfails]
        exact hraw
      · simp only [List.mem_cons, exists_eq_or_imp, hfails, Bool.false_eq_true, false_or]
        exact hprocessed
      · rw [if_neg (List.cons_ne_nil a as)]
        refine hseed.trans ?_
        split
        case isTrue hnil => rw [hnil]; exact after_nil.symm
        case isFalse hne =>
          rw [List.dropLast_cons_of_ne_nil hne, taken_cons, if_neg hfails]

structure Standing (p : Params) (config : HwConfig) (ongoing : Bool) (o : Object) (δ : Drift) : Prop
    where
  configRegister : o.configRegister = config
  dataSize : o.dataSize = p.dataSize
  finalXorValue : o.finalXorValue = p.finalXorValue
  ongoing : o.ongoingPartial = ongoing
  seed : o.seed = δ.seed
  raw : o.resultRawPartial = δ.raw

def Params.shown (p : Params) (acc : Accelerator) (config : HwConfig) (raw : UInt32) : UInt32 :=
  acc.rsltpp config raw ^^^ p.finalXorValue

theorem crcOpen_eq_some (h : crcOpen p = some o) :
    getHwConfigRegister p = some o.configRegister ∧
      Standing p o.configRegister false o ⟨p.seed, 0⟩ := by
  obtain ⟨config, hconfig, rfl⟩ := Option.map_eq_some_iff.mp h
  exact ⟨hconfig, rfl, rfl, rfl, rfl, rfl, rfl⟩

theorem Standing.shown (h : Standing p config ongoing o δ) :
    o.shown acc c = p.shown acc config c := by
  rw [Object.shown, Params.shown, h.configRegister, h.finalXorValue]

theorem Standing.calculate (h : Standing p config ongoing o δ) (acc : Accelerator) (a : Attempt) :
    Standing p config ongoing (o.calculate acc a).1 ⟨δ.seed, after acc config p.dataSize
      (if a.succeeds p.dataSize then δ.seed else δ.raw) (taken p.dataSize [a])⟩ ∧
    (a.succeeds p.dataSize = true → (o.calculate acc a).1.resultProcessedPartial =
      p.shown acc config (after acc config p.dataSize δ.seed (taken p.dataSize [a]))) := by
  have htext : taken p.dataSize [a] = if a.succeeds p.dataSize then a.source else [] := by
    rw [taken_cons]
    split
    · exact List.append_nil a.source
    · rfl
  rw [calculate_fst, h.dataSize, h.shown, h.configRegister, h.seed, htext]
  split
  case isTrue =>
    exact ⟨⟨rfl, rfl, h.finalXorValue, h.ongoing, rfl, rfl⟩, fun _ => rfl⟩
  case isFalse hfails =>
    rw [after_nil]
    exact ⟨⟨h.configRegister, h.dataSize, h.finalXorValue, h.ongoing, h.seed, h.raw⟩,
      fun hsucceeds => absurd hsucceeds hfails⟩

/-- A message in parts, from the call for its first part. -/
theorem Standing.parts {rest : List Attempt} {o' : Object} (h : Standing p config false o δ)
    (acc : Accelerator) (ho' : o' = (a :: rest).foldl (fun o a => (o.addData acc a).1) o) :
    Standing p config true o' (δ.next acc config p.dataSize (.parts a rest)) ∧
    (Message.Sent p.dataSize (.parts a rest) → o'.resultProcessedPartial =
      p.shown acc config (δ.next acc config p.dataSize (.parts a rest)).raw) := by
  have hbegun : Standing p config true { o with ongoingPartial := true } δ :=
    ⟨h.configRegister, h.dataSize, h.finalXorValue, rfl, h.seed, h.raw⟩
  obtain ⟨hfirst, hresult⟩ := hbegun.calculate acc a
  rw [List.foldl_cons, addData_first h.ongoing] at ho'
  generalize (Object.calculate acc { o with ongoingPartial := true } a).1 = o₁ at *
  have hadded : Added acc o₁ rest o' := ho' ▸ foldl_addData hfirst.ongoing
  have hraw : o'.resultRawPartial = (δ.next acc config p.dataSize (.parts a rest)).raw := by
    rw [hadded.raw, hfirst.configRegister, hfirst.dataSize, hfirst.raw, ← after_taken_append]
    rfl
  refine ⟨⟨?_, ?_, ?_, hadded.ongoing, ?_, hraw⟩, ?_⟩
  · rw [hadded.configRegister, hfirst.configRegister]
  · rw [hadded.dataSize, hfirst.dataSize]
  · rw [hadded.finalXorValue, hfirst.finalXorValue]
  · rw [hadded.seed]
    cases rest with
    | nil => exact hfirst.seed
    | cons b rest =>
      rw [if_neg (List.cons_ne_nil b rest), hfirst.configRegister, hfirst.dataSize, hfirst.raw,
        ← after_taken_append]
      rfl
  · rintro ⟨b, hb, hsucceeds⟩
    rw [hadded.processed, hfirst.dataSize]
    split
    case isTrue => rw [hfirst.shown, hraw]
    case isFalse hnone =>
      have hfirst' : a.succeeds p.dataSize = true := by
        rcases List.mem_cons.mp hb with rfl | hrest
        · exact hsucceeds
        · exact absurd ⟨b, hrest, hsucceeds⟩ hnone
      rw [hresult hfirst', ← hraw, hadded.raw, hfirst.configRegister, hfirst.dataSize,
        taken_of_none hnone, after_nil, hfirst.raw, if_pos hfirst']

theorem Standing.send (h : Standing p config false o δ) (acc : Accelerator) (m : Message) :
    Standing p config false (o.next acc m) (δ.next acc config p.dataSize m) ∧
    (m.Sent p.dataSize → (o.send acc m).2 =
      p.shown acc config (δ.next acc config p.dataSize m).raw) := by
  cases m with
  | full a =>
    obtain ⟨hnext, hresult⟩ := h.calculate acc a
    refine ⟨hnext, ?_⟩
    rintro ⟨b, hb, hsucceeds⟩
    obtain rfl := List.mem_singleton.mp hb
    have hstart : δ.start p.dataSize (.full b) = δ.seed := if_pos hsucceeds
    refine (hresult hsucceeds).trans ?_
    rw [Drift.next, hstart]
    rfl
  | parts first rest =>
    obtain ⟨hnext, hresult⟩ := h.parts acc rfl
    exact ⟨⟨hnext.configRegister, hnext.dataSize, hnext.finalXorValue, rfl, hnext.seed,
      hnext.raw⟩, hresult⟩

-- ---------------------------------------------------------------------------
-- Sessions
-- ---------------------------------------------------------------------------

theorem fresh_result (h : crcOpen p = some o) (hxs : p.dataSize = .bits32 → 4 ∣ xs.length) :
    freshResult acc p xs =
      some (p.shown acc o.configRegister (after acc o.configRegister p.dataSize p.seed xs)) := by
  have hsucceeds : Attempt.succeeds p.dataSize ⟨xs, true⟩ = true := by
    simpa [Attempt.succeeds, imp_iff_not_or, Nat.dvd_iff_mod_eq_zero] using hxs
  have hresult := ((crcOpen_eq_some h).2.calculate acc ⟨xs, true⟩).2 hsucceeds
  have htaken : taken p.dataSize [⟨xs, true⟩] = xs := by
    rw [taken_cons, if_pos hsucceeds]
    exact List.append_nil xs
  rw [htaken] at hresult
  rw [freshResult, h]
  exact congrArg some hresult

namespace Accelerator.Lawful

theorem after_mem (h : acc.Lawful config held) (hc : c ∈ held) :
    after acc config size c xs ∈ held := by
  rw [after]
  exact (written size xs).foldlRecOn _ hc fun d hd v _ => h.maps d hd v

theorem after_injOn (h : acc.Lawful config held) :
    Set.InjOn (after acc config size · xs) held := by
  intro c hc d hd
  simp only [after]
  induction written size xs generalizing c d with
  | nil => exact id
  | cons v vs ih =>
    intro heq
    exact h.injective v hc hd (ih (h.maps c hc v) (h.maps d hd v) heq)

theorem shown_after_inj (h : acc.Lawful config held) (hc : c ∈ held) (hd : d ∈ held) :
    p.shown acc config (after acc config size c xs) =
      p.shown acc config (after acc config size d xs) ↔ c = d := by
  refine ⟨fun heq => ?_, fun heq => heq ▸ rfl⟩
  have hshown := (UInt32.xor_left_inj _).mp heq
  exact h.after_injOn hc hd (h.shows (h.after_mem hc) (h.after_mem hd) hshown)

end Accelerator.Lawful

theorem Drift.start_mem (hseed : δ.seed ∈ held) (hraw : δ.raw ∈ held) : δ.start size m ∈ held := by
  rw [Drift.start]
  split
  · exact hseed
  · exact hraw

theorem Drift.next_mem (h : acc.Lawful config held) (size : DataSize) (m : Message)
    (hseed : δ.seed ∈ held) (hraw : δ.raw ∈ held) :
    (δ.next acc config size m).seed ∈ held ∧ (δ.next acc config size m).raw ∈ held := by
  have hstart : δ.start size m ∈ held := Drift.start_mem hseed hraw
  refine ⟨?_, h.after_mem hstart⟩
  cases m with
  | full a => exact hseed
  | parts first rest =>
    cases rest with
    | nil => exact hseed
    | cons b rest => exact h.after_mem hstart

theorem Message.text_dvd (m : Message) : size = .bits32 → 4 ∣ (m.text size).length :=
  taken_dvd m.attempts

theorem along_results_iff (h : Standing p config false o δ) (hlaw : acc.Lawful config held)
    (hseed : δ.seed ∈ held) (hraw : δ.raw ∈ held) (hp : p.seed ∈ held)
    (hfresh : ∀ xs, (p.dataSize = .bits32 → 4 ∣ xs.length) → freshResult acc p xs =
      some (p.shown acc config (after acc config p.dataSize p.seed xs)))
    (hsent : ∀ m ∈ ms, m.Sent p.dataSize) :
    Along (Object.next acc)
      (fun o m => some (o.send acc m).2 = freshResult acc p (m.text p.dataSize)) o ms ↔
    Along (Drift.next acc config p.dataSize) (fun δ m => δ.start p.dataSize m = p.seed) δ ms := by
  induction ms generalizing o δ with
  | nil => exact Iff.rfl
  | cons m ms ih =>
    obtain ⟨hnext, hresult⟩ := h.send acc m
    obtain ⟨hseed', hraw'⟩ := Drift.next_mem hlaw p.dataSize m hseed hraw
    have hiff : some (o.send acc m).2 = freshResult acc p (m.text p.dataSize) ↔
        δ.start p.dataSize m = p.seed := by
      rw [hresult (hsent m List.mem_cons_self), hfresh _ m.text_dvd, Option.some_inj]
      exact hlaw.shown_after_inj (Drift.start_mem hseed hraw) hp
    exact and_congr hiff
      (ih hnext hseed' hraw' fun m hm => hsent m (List.mem_cons_of_mem _ hm))

/-- The results of a session are right as long as its messages start from its seed. -/
theorem results_right_iff (hopen : crcOpen p = some o) (hlaw : acc.Lawful o.configRegister held)
    (hp : p.seed ∈ held) (hzero : 0 ∈ held) (hsent : ∀ m ∈ ms, m.Sent p.dataSize) :
    Along (Object.next acc)
      (fun o m => some (o.send acc m).2 = freshResult acc p (m.text p.dataSize)) o ms ↔
    Along (Drift.next acc o.configRegister p.dataSize) (fun δ m => δ.start p.dataSize m = p.seed)
      ⟨p.seed, 0⟩ ms :=
  along_results_iff (crcOpen_eq_some hopen).2 hlaw hp hzero hp
    (fun _ hxs => fresh_result hopen hxs) hsent

def Message.lead (size : DataSize) (m : Message) : List UInt8 := taken size m.attempts.dropLast

theorem Message.lead_dvd (m : Message) : size = .bits32 → 4 ∣ (m.lead size).length :=
  taken_dvd m.attempts.dropLast

theorem flatMap_lead : ms.flatMap (Message.lead size) =
    taken size (ms.flatMap fun m => m.attempts.dropLast) := by
  induction ms with
  | nil => rfl
  | cons m ms ih => rw [List.flatMap_cons, List.flatMap_cons, taken_append, ih, Message.lead]

/-- What has drifted in a session is what a message in parts adds to the seed. -/
theorem exec_next (acc : Accelerator) (h : Standing p config false o δ)
    (hsucceed : ∀ m ∈ ms, ∀ a ∈ m.attempts, a.succeeds p.dataSize = true) :
    ∃ raw, Standing p config false (exec (Object.next acc) o ms)
      ⟨after acc config p.dataSize δ.seed (ms.flatMap (Message.lead p.dataSize)), raw⟩ := by
  induction ms generalizing o δ with
  | nil =>
    refine ⟨δ.raw, ?_⟩
    rw [List.flatMap_nil, after_nil]
    exact h
  | cons m ms ih =>
    have hfirst : m.first.succeeds p.dataSize = true := by
      refine hsucceed m List.mem_cons_self m.first ?_
      cases m <;> exact List.mem_cons_self
    have hseed : (δ.next acc config p.dataSize m).seed =
        after acc config p.dataSize δ.seed (m.lead p.dataSize) := by
      have hstart : δ.start p.dataSize m = δ.seed := if_pos hfirst
      rcases m with a | ⟨a, _ | ⟨b, rest⟩⟩
      · exact after_nil.symm
      · exact after_nil.symm
      · exact congrArg (after acc config p.dataSize · (taken p.dataSize (a :: b :: rest).dropLast))
          hstart
    obtain ⟨raw, hrest⟩ := ih (h.send acc m).1
      fun m hm => hsucceed m (List.mem_cons_of_mem _ hm)
    rw [hseed, ← after_append m.lead_dvd] at hrest
    exact ⟨raw, hrest⟩

/-- Where no call fails, the result of a message is that of its bytes after those with
which the messages before it led. -/
theorem result_of_led (hopen : crcOpen p = some o)
    (hsucceed : ∀ k ∈ ms ++ [m], ∀ a ∈ k.attempts, a.succeeds p.dataSize = true) :
    some ((exec (Object.next acc) o ms).send acc m).2 =
      freshResult acc p (ms.flatMap (Message.lead p.dataSize) ++ m.text p.dataSize) := by
  obtain ⟨raw, hms⟩ := exec_next acc (crcOpen_eq_some hopen).2
    fun m hm => hsucceed m (List.mem_append_left _ hm)
  have hm : ∀ a ∈ m.attempts, a.succeeds p.dataSize = true := hsucceed m (by simp)
  have hfirst : m.first ∈ m.attempts := by cases m <;> exact List.mem_cons_self
  have hstart : Drift.start p.dataSize ⟨after acc o.configRegister p.dataSize p.seed
      (ms.flatMap (Message.lead p.dataSize)), raw⟩ m = after acc o.configRegister p.dataSize p.seed
      (ms.flatMap (Message.lead p.dataSize)) := if_pos (hm m.first hfirst)
  have hlead : p.dataSize = .bits32 → 4 ∣ (ms.flatMap (Message.lead p.dataSize)).length := by
    rw [flatMap_lead]
    exact taken_dvd _
  have hbytes : p.dataSize = .bits32 →
      4 ∣ (ms.flatMap (Message.lead p.dataSize) ++ m.text p.dataSize).length := by
    intro hsize
    rw [List.length_append]
    exact Nat.dvd_add (hlead hsize) (m.text_dvd hsize)
  rw [(hms.send acc m).2 ⟨m.first, hfirst, hm m.first hfirst⟩, fresh_result hopen hbytes,
    after_append hlead, Drift.next_raw, hstart]

-- ---------------------------------------------------------------------------
-- The sessions of the AVDS device
-- ---------------------------------------------------------------------------

def ccitt : Accelerator where
  din _ c v := (crcByte c.toUInt16 v.toUInt8).toUInt32
  rsltpp _ c := c

def avdsParams : Params where
  seed := 0xFFFF
  finalXorValue := 0
  dataSize := .bits8
  byteSwapInput := .unchanged
  polynomial := .crc16Ccitt
  reverseInputBits := false
  reverseOutputBits := false
  invertOutputBits := false
  callback := false

def avdsConfig : HwConfig where
  word := false
  swapHalfWords := false
  swapBytes := false
  reverseInput := false
  reverseOutput := false
  invertOutput := false
  type := .crc16Ccitt

def avdsObject : Object where
  configRegister := avdsConfig
  callback := false
  ongoingPartial := false
  resultRawPartial := 0
  resultProcessedPartial := 0
  seed := 0xFFFF
  dataSize := .bits8
  finalXorValue := 0

theorem crcOpen_avdsParams : crcOpen avdsParams = some avdsObject := rfl

def halves : Set UInt32 := {c | c.toUInt16.toUInt32 = c}

theorem ccitt_lawful : ccitt.Lawful avdsConfig halves := by
  refine ⟨fun c _ v => ?_, fun v c hc d hd heq => ?_, fun c _ d _ => id⟩
  · exact congrArg UInt16.toUInt32 (UInt16.toUInt16_toUInt32 _)
  · have hbyte : crcByte c.toUInt16 v.toUInt8 = crcByte d.toUInt16 v.toUInt8 :=
      UInt16.toUInt32_inj.mp heq
    have hregister := congrArg UInt16.toBitVec hbyte
    rw [toBitVec_crcByte, toBitVec_crcByte] at hregister
    have hsame : c.toUInt16 = d.toUInt16 :=
      UInt16.toBitVec_inj.mp (Crc.register_injective rfl _ hregister)
    rw [← show c.toUInt16.toUInt32 = c from hc, hsame]
    exact hd

theorem din_ccitt (crc : UInt16) (byte : UInt8) :
    ccitt.din config crc.toUInt32 byte.toUInt32 = (crcByte crc byte).toUInt32 := by
  simp [ccitt]

theorem after_ccitt (bytes : List UInt8) (crc : UInt16) :
    after ccitt config .bits8 crc.toUInt32 bytes = (bytes.foldl crcByte crc).toUInt32 := by
  induction bytes generalizing crc with
  | nil => rfl
  | cons byte bytes ih =>
    rw [after, written, List.map_cons, List.foldl_cons, din_ccitt]
    exact ih (crcByte crc byte)

theorem calculateFull_avds (a : Attempt) :
    (decide ((avdsObject.calculateFull ccitt a).2.1 = .success),
      (avdsObject.calculateFull ccitt a).2.2.2) =
    calculateFull (fun bytes => (crc16Ccitt bytes).toUInt32) ⟨true, a.locked⟩ a.source := by
  rw [Object.calculateFull]
  cases hlocked : a.locked with
  | true =>
    have hsucceeds : a.succeeds avdsObject.dataSize = true := by
      simp [Attempt.succeeds, avdsObject, hlocked]
    have hafter : after ccitt avdsConfig .bits8 0xFFFF a.source = (crc16Ccitt a.source).toUInt32 :=
      after_ccitt a.source 0xFFFF
    have hresult : (avdsObject.calculate ccitt a).1.resultProcessedPartial =
        (crc16Ccitt a.source).toUInt32 ^^^ 0 := by
      rw [calculate_fst, if_pos hsucceeds, ← hafter]
      rfl
    refine Prod.ext ?_ (hresult.trans UInt32.xor_zero)
    simp [Object.calculate, hlocked, avdsObject, calculateFull]
  | false => simp [Object.calculate, calculateFull, hlocked, avdsObject]

def twoParts : Message := .parts ⟨[0x31, 0x32], true⟩ [⟨[0x33, 0x34], true⟩]

theorem result_of_led_avds :
    some ((exec (Object.next ccitt) avdsObject [twoParts]).send ccitt (.full ⟨[0x33], true⟩)).2 =
      freshResult ccitt avdsParams [0x31, 0x32, 0x33] := by
  have hsucceed : ∀ m ∈ [twoParts] ++ [.full ⟨[0x33], true⟩], ∀ a ∈ m.attempts,
      a.succeeds .bits8 = true := by
    simp only [List.singleton_append, List.forall_mem_cons]
    decide
  exact result_of_led crcOpen_avdsParams hsucceed

theorem results_right_iff_avds : ¬ Along (Object.next ccitt)
    (fun o m => some (o.send ccitt m).2 = freshResult ccitt avdsParams (m.text .bits8))
    avdsObject [twoParts, .full ⟨[0x31, 0x32, 0x33, 0x34], true⟩] := by
  intro hright
  have hsent : ∀ m ∈ [twoParts, .full ⟨[0x31, 0x32, 0x33, 0x34], true⟩], m.Sent .bits8 := by
    rw [List.forall_mem_cons, List.forall_mem_singleton]
    exact ⟨⟨_, List.mem_cons_self, rfl⟩, ⟨_, List.mem_cons_self, rfl⟩⟩
  have hstart := (results_right_iff crcOpen_avdsParams ccitt_lawful rfl rfl hsent).mp hright
  have hsecond : after ccitt avdsConfig .bits8 0xFFFF [0x31, 0x32] = 0xFFFF := hstart.2.1
  exact absurd hsecond (by decide +kernel)

end SystemMaster.Drivers
