import SystemMaster.Multinet.RelayController

/-!
# Routed inputs arrive once and in order

What one box sends for another is in the frames written to it, in its queue, or
on the way between the two, in the order of the replies. What is compared are the
bytes on the two wires.
-/

namespace SystemMaster.Multinet

open Alto Runs

def fromBox (S : Address) (msgs : List Msg) : List ORTInput :=
  (msgs.filter (·.source = S)).map Msg.input

def ORTInput.pair (i : ORTInput) : Wire.Pair := (BitVec.ofFin i.inputAddress, i.value)

def Sent.pairsFrom (S : Address) (f : Sent) : List Wire.Pair :=
  let bytes := f.frame.data.toList.take f.frame.length.toNat
  ((bytes.zip (f.msgs.map Msg.source)).filter (·.2 = S)).map (Wire.pairOfByte ·.1)

/-- The pairs from `S` in the Set frames that are written to a box. -/
def Worker.setPairs (S : Address) (w : Worker) : List Wire.Pair :=
  (w.sent.filter (·.frame.operationID = operationSet)).flatMap (Sent.pairsFrom S)

namespace System

/-- What `S` has sent since `D` is in the list. -/
def received (s : System) (S D : Address) : List (BitVec 16) := (s.heard S).drop (s.since S D)

/-- The last words from `S`, which its worker has still to look up. -/
def inHand (s : System) (S : Address) : List (BitVec 16) :=
  (s.heard S).drop ((s.heard S).length - (s.worker S).inHand.length)

end System

def inputsFor (D : Address) (entries : List ORTRouting) : List ORTInput :=
  entries.filterMap fun e => if e.destination = some D then some e.input else none

/-- The entry in a word. -/
def ORTRouting.ofBits (w : BitVec 16) : ORTRouting := .ofWord w.toNat

def Worker.msgs (w : Worker) : List Msg := w.sent.flatMap Sent.msgs ++ w.packing ++ w.queue

/-- A frame for the box of `D` that carries the bytes of its inputs, 26 at most:
a Set, or a Get without any. -/
structure Sent.Carries (D : Address) (f : Sent) : Prop where
  address : f.frame.sequence = D
  bcc : bccCheck f.frame = 0
  operation : f.frame.operationID = if f.msgs = [] then operationGet else operationSet
  fits : f.msgs.length ≤ dataPayloadSize
  length : f.frame.length.toNat = f.msgs.length
  data : f.frame.data.toList.take f.msgs.length = f.msgs.map (·.input.byte)

variable {S D : Address} {w : Worker} {s : System} {a : Answer} {ms ms' : List Msg}
  {es es' : List ORTRouting} {e : ORTRouting} {labels : List System.Label}

-- ---------------------------------------------------------------------------
-- The bytes of entries and inputs
-- ---------------------------------------------------------------------------

theorem ORTInput.pairOfByte_byte (i : ORTInput) : Wire.pairOfByte i.byte = i.pair := by
  obtain ⟨value, inputAddress⟩ := i
  revert value inputAddress
  decide

theorem ORTInput.pair_injective : Function.Injective ORTInput.pair := by
  rintro ⟨value, inputAddress⟩ ⟨value', inputAddress'⟩ h
  simpa [pair, and_comm] using h

theorem ORTInput.byte_injective : Function.Injective ORTInput.byte := by
  intro i j h
  refine pair_injective ?_
  rw [← pairOfByte_byte, h, pairOfByte_byte]

namespace ORTRouting

variable {w : BitVec 16}

theorem destinationType_ofBits :
    w.extractLsb' 11 3 = BitVec.ofFin (ofBits w).destinationType := by
  apply BitVec.eq_of_toNat_eq
  simp [ofBits, ofWord, BitVec.extractLsb'_toNat, Nat.shiftRight_eq_div_pow]

theorem destinationAddress_ofBits :
    w.extractLsb' 6 5 = BitVec.ofFin (ofBits w).destinationAddress := by
  apply BitVec.eq_of_toNat_eq
  simp [ofBits, ofWord, BitVec.extractLsb'_toNat, Nat.shiftRight_eq_div_pow]

theorem input_ofBits : (ofBits w).input.pair = Wire.pairOfWord w := by
  refine Prod.ext (BitVec.eq_of_toNat_eq ?_) rfl
  simp [ORTInput.pair, input, Wire.pairOfWord, ofBits, ofWord, BitVec.extractLsb'_toNat,
    Nat.shiftRight_eq_div_pow]

theorem toBitVec_address : ∀ (type : Fin 8) (address : Fin 32),
    (((UInt8.ofNat type &&& 0x07) <<< 5) ||| (UInt8.ofNat address &&& 0x1F)).toBitVec =
      (BitVec.ofFin type : BitVec 3) ++ (BitVec.ofFin address : BitVec 5) := by
  decide +kernel

theorem destination_ofBits :
    (ofBits w).destination = some D ↔ Wire.addressedTo D w = true := by
  have htype : ∀ k : Fin 8, (ofBits w).destinationType = k ↔
      w.extractLsb' 11 3 = (BitVec.ofFin k : BitVec 3) := by
    intro k
    rw [destinationType_ofBits, BitVec.ofFin.injEq]
  simp only [destination, Wire.addressedTo, decide_eq_true_eq, htype]
  by_cases hbox : w.extractLsb' 11 3 = (BitVec.ofFin relayBox : BitVec 3) ∨
      w.extractLsb' 11 3 = (BitVec.ofFin temperatureBox : BitVec 3)
  · rw [if_pos hbox, Option.some.injEq, ← UInt8.toBitVec_inj, toBitVec_address,
      ← destinationType_ofBits, ← destinationAddress_ofBits]
    exact ⟨fun h => ⟨hbox, h.symm⟩, fun h => h.2.symm⟩
  · rw [if_neg hbox]
    exact iff_of_false (by simp) fun h => hbox h.1

theorem destination_inj {e e' : ORTRouting} (h : e.destination = some D)
    (h' : e'.destination = some D) :
    e.destinationType = e'.destinationType ∧ e.destinationAddress = e'.destinationAddress := by
  rw [destination, Option.ite_none_right_eq_some, Option.some.injEq] at h h'
  have heq := congrArg UInt8.toBitVec (h.2.trans h'.2.symm)
  rw [toBitVec_address, toBitVec_address] at heq
  have hfields := congrArg BitVec.toNat heq
  simp only [Wire.toNat_append, BitVec.toNat_ofFin] at hfields
  constructor <;> apply Fin.ext <;> omega

end ORTRouting

theorem inputsFor_ofBits {ws : List (BitVec 16)} :
    (inputsFor D (ws.map .ofBits)).map ORTInput.pair = Wire.pairsFor D ws := by
  induction ws with
  | nil => rfl
  | cons w ws ih =>
    rw [List.map_cons, Wire.pairsFor_cons, ← ih, inputsFor, List.filterMap_cons]
    by_cases hdest : (ORTRouting.ofBits w).destination = some D
    · simp [hdest, ORTRouting.destination_ofBits.mp hdest, ORTRouting.input_ofBits, inputsFor]
    · have hnot := mt ORTRouting.destination_ofBits.mpr hdest
      simp [hdest, hnot, inputsFor]

theorem ortRoutings_convert_words {k n : Nat} {xs : List UInt8} (hk : n / 2 = k)
    (hn : n ≤ xs.length) :
    ortRoutings k (ortConvertDataFromBigEndianToLittleEndian k xs) =
      (Wire.words (xs.take n)).map .ofBits := by
  induction k generalizing n xs with
  | zero =>
    obtain hshort | hshort : n = 0 ∨ n = 1 := by omega
    · subst hshort
      cases xs <;> rfl
    · subst hshort
      cases xs <;> rfl
  | succ k ih =>
    obtain ⟨m, rfl⟩ : ∃ m, n = m + 2 := ⟨n - 2, by omega⟩
    match xs, hn with
    | high :: low :: xs, hn =>
      rw [ortConvertDataFromBigEndianToLittleEndian, ortRoutings,
        ih (n := m) (by omega) (by simpa using hn)]
      simp [Wire.words, ORTRouting.ofBits, Wire.toNat_word]

theorem Reply.entries_eq_words (r : Reply) : r.entries = r.words.map .ofBits := by
  rw [entries, words, isResponse]
  by_cases hresponse : r.frame.classID = classClu ∧ r.frame.operationID = operationResponse
  · rw [if_pos (by simpa using hresponse), if_pos hresponse]
    refine ortRoutings_convert_words rfl ?_
    rw [Vector.length_toList]
    exact r.fits hresponse.1 hresponse.2
  · rw [if_neg (by simpa using hresponse), if_neg hresponse]
    rfl

theorem Answer.entries_eq_words (a : Answer) : a.entries = a.words.map .ofBits := by
  rw [entries, words]
  cases a.reply with
  | none => rfl
  | some r => exact r.entries_eq_words

theorem fromBox_append : fromBox S (ms ++ ms') = fromBox S ms ++ fromBox S ms' := by
  simp [fromBox]

theorem inputsFor_append : inputsFor D (es ++ es') = inputsFor D es ++ inputsFor D es' :=
  List.filterMap_append

theorem inputsFor_cons :
    inputsFor D (e :: es) =
      (if e.destination = some D then [e.input] else []) ++ inputsFor D es := by
  by_cases h : e.destination = some D <;> simp [inputsFor, h]

-- ---------------------------------------------------------------------------
-- A worker
-- ---------------------------------------------------------------------------

theorem Worker.step_msgs (w : Worker) (D : Address) (a : Answer) : (w.step D a).msgs = w.msgs := by
  rw [step]
  split
  case h_1 h => simp [prepare, msgs, packing, h]
  case h_2 packed isSent h =>
    split
    case h_1 m queue hqueue =>
      rw [pack]
      split <;> simp [msgs, packing, h, hqueue]
    case h_2 hqueue =>
      rw [finish]
      by_cases hpacked : packed = []
      · cases isSent <;> simp [msgs, packing, h, hpacked]
      · simp [msgs, packing, h, hpacked]
  case h_3 packed next h => simp [msgs, packing, h]
  case h_4 packed next h => simp [answered, msgs, packing, h]
  case h_5 next h => cases next <;> simp [Next.point, msgs, packing, h]
  case h_6 e entries next h => simp [msgs, packing, h]
  case h_7 h => simp [msgs, packing, h]

theorem Worker.step_inHand (w : Worker) (D : Address) (a : Answer) :
    (w.step D a).inHand =
      match w.point with
      | .receive _ _ => a.entries
      | .route (_ :: entries) _ => entries
      | _ => [] := by
  rw [step]
  split
  case h_1 h => simp [prepare, inHand, h]
  case h_2 packed isSent h =>
    split
    case h_1 m queue hqueue =>
      rw [pack]
      split <;> simp [inHand, h]
    case h_2 hqueue =>
      rw [finish]
      by_cases hpacked : packed = []
      · cases isSent <;> simp [inHand, h, hpacked]
      · simp [inHand, h, hpacked]
  case h_3 packed next h => simp [inHand, h]
  case h_4 packed next h => simp [answered, inHand, h]
  case h_5 next h => cases next <;> simp [Next.point, inHand, h]
  case h_6 e entries next h => simp [inHand, h]
  case h_7 h => simp [inHand, h]

def Worker.PointOk (D : Address) (w : Worker) : Prop :=
  match w.point with
  | .top | .sleep => True
  | .drain packed _ =>
    w.tFrameTx.sequence = D ∧ packed.length < dataPayloadSize ∧
      w.tFrameTx.data.toList.take packed.length = packed.map (·.input.byte)
  | .send packed _ => Sent.Carries D ⟨w.tFrameTx, packed⟩
  | .receive _ _ | .route _ _ => w.tFrameTx.sequence = D

structure Worker.Framed (D : Address) (w : Worker) : Prop where
  sent : ∀ f ∈ w.sent, f.Carries D
  point : w.PointOk D

theorem take_setIfInBounds {data : Vector UInt8 dataPayloadSize} {packed : List Msg} {m : Msg}
    (hlength : packed.length < dataPayloadSize)
    (hdata : data.toList.take packed.length = packed.map (·.input.byte)) :
    (data.setIfInBounds packed.length m.input.byte).toList.take (packed ++ [m]).length =
      (packed ++ [m]).map (·.input.byte) := by
  have hbound : packed.length < data.toList.length := by simpa using hlength
  rw [Vector.toList_setIfInBounds, List.length_append, List.length_singleton, List.take_add_one,
    List.take_set_of_le (Nat.le_refl _), hdata]
  simp [List.getElem?_set_self hbound]

theorem carries_bccFill {f : Frame} (haddress : f.sequence = D)
    (hoperation : f.operationID = if ms = [] then operationGet else operationSet)
    (hfits : ms.length ≤ dataPayloadSize) (hlength : f.length = UInt8.ofNat ms.length)
    (hdata : f.data.toList.take ms.length = ms.map (·.input.byte)) :
    Sent.Carries D ⟨bccFill f, ms⟩ where
  address := haddress
  bcc := bccCheck_bccFill f
  operation := hoperation
  fits := hfits
  length := by
    change f.length.toNat = _
    rw [hlength, UInt8.toNat_ofNat_of_lt' (Nat.lt_of_le_of_lt hfits (by decide))]
  data := hdata

theorem Worker.Framed.pack (h : w.Framed D) {m : Msg} {queue packed : List Msg} {isSent : Bool}
    (hpoint : w.point = .drain packed isSent) : (w.pack m queue packed isSent).Framed D := by
  have hpacked := h.point
  rw [PointOk, hpoint] at hpacked
  obtain ⟨haddress, hlength, hdata⟩ := hpacked
  have htake := take_setIfInBounds (m := m) hlength hdata
  rw [Worker.pack]
  split
  case isTrue hfull =>
    refine ⟨h.sent, carries_bccFill haddress ?_ ?_ rfl htake⟩
    · rw [if_neg (List.append_ne_nil_of_right_ne_nil packed (List.cons_ne_nil m []))]
    · rw [List.length_append]
      exact hlength
  case isFalse hroom => exact ⟨h.sent, haddress, Nat.not_le.mp hroom, htake⟩

theorem Worker.Framed.finish (h : w.Framed D) {packed : List Msg} {isSent : Bool}
    (hpoint : w.point = .drain packed isSent) : (w.finish packed isSent).Framed D := by
  have hpacked := h.point
  rw [PointOk, hpoint] at hpacked
  obtain ⟨haddress, hlength, hdata⟩ := hpacked
  rw [Worker.finish]
  by_cases hnil : packed = []
  · subst hnil
    cases isSent with
    | true => exact ⟨h.sent, trivial⟩
    | false => exact ⟨h.sent, carries_bccFill haddress rfl (Nat.zero_le _) rfl rfl⟩
  · rw [if_neg hnil]
    exact ⟨h.sent, carries_bccFill haddress (if_neg hnil).symm (Nat.le_of_lt hlength) rfl hdata⟩

theorem Worker.Framed.step (h : w.Framed D) (a : Answer) : (w.step D a).Framed D := by
  have hpoint := h.point
  rw [PointOk] at hpoint
  rw [Worker.step]
  split
  case h_1 hp => exact ⟨h.sent, rfl, by decide, rfl⟩
  case h_2 packed isSent hp =>
    split
    case h_1 => exact h.pack hp
    case h_2 => exact h.finish hp
  case h_3 packed next hp =>
    rw [hp] at hpoint
    exact ⟨List.forall_mem_append.mpr ⟨h.sent, List.forall_mem_singleton.mpr hpoint⟩,
      hpoint.address⟩
  case h_4 packed next hp =>
    rw [hp] at hpoint
    exact ⟨h.sent, hpoint⟩
  case h_5 next hp =>
    rw [hp] at hpoint
    cases next with
    | drain => exact ⟨h.sent, hpoint, by decide, rfl⟩
    | sleep => exact ⟨h.sent, trivial⟩
  case h_6 e entries next hp =>
    rw [hp] at hpoint
    exact ⟨h.sent, hpoint⟩
  case h_7 hp => exact ⟨h.sent, trivial⟩

-- ---------------------------------------------------------------------------
-- The system
-- ---------------------------------------------------------------------------

@[simp] theorem Worker.enqueue_msgs (w : Worker) (m : Msg) :
    (w.enqueue m).msgs = w.msgs ++ [m] := by
  simp [enqueue, msgs, packing]

@[simp] theorem Worker.enqueue_inHand (w : Worker) (m : Msg) : (w.enqueue m).inHand = w.inHand := rfl

theorem Worker.Framed.enqueue (h : w.Framed D) (m : Msg) : (w.enqueue m).Framed D :=
  ⟨h.sent, h.point⟩

/-- Every input read for a box that has a worker is on the way to it, or there, and what a
worker has in hand is the end of what its box has sent. -/
structure Routed (s : System) : Prop where
  inOrder : ∀ S, ∀ D ∈ s.hControllersList,
    fromBox S (s.worker D).msgs ++ inputsFor D (s.worker S).inHand =
      inputsFor D ((s.received S D).map .ofBits)
  inHand : ∀ S, (s.worker S).inHand <:+ (s.heard S).map .ofBits
  since : ∀ S D, s.since S D ≤ (s.heard S).length
  framed : ∀ D, (s.worker D).Framed D
  idle : ∀ D, D ∉ s.hControllersList → (s.worker D).msgs = [] ∧ (s.worker D).inHand = []

theorem Worker.init_framed (box : Fin 32 → Bool) : (Worker.init box).Framed D :=
  ⟨fun _ hf => absurd hf List.not_mem_nil, trivial⟩

theorem start_routed : Routed System.start where
  inOrder := fun _ _ hD => absurd hD List.not_mem_nil
  inHand := fun _ => List.suffix_refl _
  since := fun _ _ => Nat.zero_le _
  framed := fun _ => Worker.init_framed _
  idle := fun _ _ => ⟨rfl, rfl⟩

theorem Routed.inHand_eq (h : Routed s) (S : Address) :
    (s.worker S).inHand = (s.inHand S).map .ofBits := by
  have hsuffix := List.suffix_iff_eq_drop.mp (h.inHand S)
  rw [hsuffix, List.length_map, ← List.map_drop, System.inHand]

theorem Routed.register (h : Routed s) (D : Address) (box : Fin 32 → Bool) :
    Routed (s.register D box) := by
  rw [System.register, findControllerWorkerInList_eq]
  by_cases hl : D ∈ s.hControllersList
  · rw [if_pos hl]
    exact h
  simp only [if_neg hl]
  -- a box without a worker routes nothing
  have hinHand : ∀ S, (Function.update s.worker D (.init box) S).inHand = (s.worker S).inHand := by
    intro S
    by_cases hS : S = D
    · subst hS
      rw [Function.update_self, (h.idle S hl).2]
      rfl
    · rw [Function.update_of_ne hS]
  refine ⟨fun S D' hD' => ?_, fun S => ?_, fun S D' => ?_, fun D' => ?_, fun D' hD' => ?_⟩
  · simp only [hinHand, System.received]
    by_cases hD : D' = D
    · subst hD
      rw [Function.update_self, if_pos rfl, ← System.inHand, ← h.inHand_eq S]
      rfl
    · rw [Function.update_of_ne hD, if_neg hD]
      refine h.inOrder S D' ?_
      simpa [hD] using hD'
  · rw [hinHand]
    exact h.inHand S
  · dsimp only
    split
    · exact Nat.sub_le _ _
    · exact h.since S D'
  · revert D'
    refine (Function.forall_update_iff s.worker _).mpr ⟨Worker.init_framed box, ?_⟩
    intro D' _
    exact h.framed D'
  · simp only [List.mem_append, List.mem_singleton, not_or] at hD'
    simp only [Function.update_of_ne hD'.2]
    exact h.idle D' hD'.1

namespace Advanced

variable {s' : System}

theorem msgs (h : Advanced s s' S a) (D : Address) : (s'.worker D).msgs = (s.worker D).msgs := by
  by_cases hD : D = S
  · rw [hD, h.self, Worker.step_msgs]
  · rw [h.other D hD]

theorem framed (h : Advanced s s' S a) (hs : Routed s) (D : Address) :
    (s'.worker D).Framed D := by
  by_cases hD : D = S
  · rw [hD, h.self]
    exact (hs.framed S).step a
  · rw [h.other D hD]
    exact hs.framed D

theorem idle (h : Advanced s s' S a) (hs : Routed s) (hS : S ∈ s.hControllersList) (D : Address)
    (hD : D ∉ s.hControllersList) : (s'.worker D).msgs = [] ∧ (s'.worker D).inHand = [] := by
  rw [h.other D fun heq => hD (heq ▸ hS)]
  exact hs.idle D hD

theorem routed (h : Advanced s s' S a) (hs : Routed s) (hS : S ∈ s.hControllersList)
    (hinHand : ((s.worker S).step S a).inHand = (s.worker S).inHand) : Routed s' := by
  have hall : ∀ S', (s'.worker S').inHand = (s.worker S').inHand := by
    intro S'
    by_cases hS' : S' = S
    · rw [hS', h.self, hinHand]
    · rw [h.other S' hS']
  refine ⟨fun S' D hD => ?_, fun S' => ?_, fun S' D => ?_, h.framed hs,
    fun D hD => h.idle hs hS D (h.hControllersList ▸ hD)⟩
  · rw [h.hControllersList] at hD
    rw [h.msgs, hall, hs.inOrder S' D hD, System.received, System.received, h.heard, h.since]
  · rw [hall, h.heard]
    exact hs.inHand S'
  · rw [h.heard, h.since]
    exact hs.since S' D

/-- A reply is taken in hand. -/
theorem routed_received (h : Advanced s s' S a) (hs : Routed s) (hS : S ∈ s.hControllersList)
    (hbefore : (s.worker S).inHand = []) (hafter : ((s.worker S).step S a).inHand = a.entries) :
    Routed { s' with heard := Function.update s.heard S (s.heard S ++ a.words) } := by
  refine ⟨fun S' D hD => ?_, fun S' => ?_, fun S' D => ?_, h.framed hs,
    fun D hD => h.idle hs hS D (h.hControllersList ▸ hD)⟩
  · rw [h.hControllersList] at hD
    have horder := hs.inOrder S' D hD
    simp only [h.msgs, System.received, h.since] at horder ⊢
    by_cases hS' : S' = S
    · subst hS'
      have hempty : inputsFor D [] = [] := rfl
      rw [hbefore, hempty, List.append_nil] at horder
      rw [Function.update_self, List.drop_append_of_le_length (hs.since S' D), List.map_append,
        inputsFor_append, ← horder, h.self, hafter, a.entries_eq_words]
    · rw [h.other S' hS', Function.update_of_ne hS', horder]
  · by_cases hS' : S' = S
    · subst hS'
      simp only [h.self, hafter, Function.update_self, a.entries_eq_words, List.map_append]
      exact List.suffix_append ..
    · simp only [h.other S' hS', Function.update_of_ne hS']
      exact hs.inHand S'
  · have hsince := hs.since S' D
    simp only [h.since]
    by_cases hS' : S' = S
    · subst hS'
      rw [Function.update_self, List.length_append]
      omega
    · rw [Function.update_of_ne hS']
      exact hsince

/-- The first entry in hand is routed. -/
theorem routed_route (h : Advanced s s' S a) (hs : Routed s) (hS : S ∈ s.hControllersList)
    (hbefore : (s.worker S).inHand = e :: es) (hafter : ((s.worker S).step S a).inHand = es) :
    Routed (s'.route S e) := by
  have hworker : ∀ D, ((s'.route S e).worker D).msgs = (s.worker D).msgs ++
      if e.destination = some D ∧ D ∈ s.hControllersList then [⟨S, e.input⟩] else [] := by
    intro D
    rw [System.route_worker, h.hControllersList]
    split
    · rw [Worker.enqueue_msgs, h.msgs]
    · rw [h.msgs, List.append_nil]
  have hinHand : ∀ D, ((s'.route S e).worker D).inHand = (s'.worker D).inHand := by
    intro D
    rw [System.route_worker]
    split <;> rfl
  have hreceived : ∀ S' D, (s'.route S e).received S' D = s.received S' D := by
    intro S' D
    rw [System.received, System.route_heard, System.route_since, h.heard, h.since]
    rfl
  refine ⟨fun S' D hD => ?_, fun S' => ?_, fun S' D => ?_, fun D => ?_, fun D hD => ?_⟩
  · rw [System.route_hControllersList, h.hControllersList] at hD
    rw [hworker, hinHand, hreceived, ← hs.inOrder S' D hD, fromBox_append, List.append_assoc]
    congr 1
    by_cases hS' : S' = S
    · subst hS'
      rw [h.self, hafter, hbefore, inputsFor_cons]
      by_cases hdest : e.destination = some D
      · simp [hdest, hD, fromBox]
      · simp [hdest, fromBox]
    · -- the message is not from this box
      have hne : S ≠ S' := fun heq => hS' heq.symm
      rw [h.other S' hS']
      split <;> simp [fromBox, hne]
  · rw [hinHand, System.route_heard, h.heard]
    by_cases hS' : S' = S
    · subst hS'
      rw [h.self, hafter]
      exact (List.suffix_cons e es).trans (hbefore ▸ hs.inHand S')
    · rw [h.other S' hS']
      exact hs.inHand S'
  · rw [System.route_heard, System.route_since, h.heard, h.since]
    exact hs.since S' D
  · rw [System.route_worker]
    split
    · exact (h.framed hs D).enqueue _
    · exact h.framed hs D
  · rw [System.route_hControllersList, h.hControllersList] at hD
    rw [hworker, hinHand, if_neg fun hdest => hD hdest.2, List.append_nil]
    exact ⟨(hs.idle D hD).1, (h.idle hs hS D hD).2⟩

end Advanced

theorem Routed.step (h : Routed s) (label : System.Label) : Routed (s.step label) := by
  cases label with
  | register D box => exact h.register D box
  | step S a =>
    rw [System.step]
    split
    case isFalse => exact h
    case isTrue hS =>
      have hadvanced := advanced_setWorker (s := s) (S := S) (a := a)
      have hinHand := (s.worker S).step_inHand S a
      cases hp : (s.worker S).point with
      | receive packed next =>
        simp only [hp] at hinHand ⊢
        exact hadvanced.routed_received h hS (by rw [Worker.inHand, hp]) hinHand
      | route entries next =>
        cases entries with
        | nil =>
          simp only [hp] at hinHand ⊢
          exact hadvanced.routed h hS (by rw [hinHand, Worker.inHand, hp])
        | cons e es =>
          simp only [hp] at hinHand ⊢
          exact hadvanced.routed_route h hS (by rw [Worker.inHand, hp]) hinHand
      | _ =>
        simp only [hp] at hinHand ⊢
        exact hadvanced.routed h hS (by rw [hinHand, Worker.inHand, hp])

theorem exec_routed : Routed (exec System.step System.start labels) :=
  exec_inv start_routed fun _ label h => h.step label

theorem Sent.Carries.pairsFrom {f : Sent} (h : f.Carries D) :
    f.pairsFrom S = (fromBox S f.msgs).map ORTInput.pair := by
  rw [Sent.pairsFrom, h.length, h.data, List.zip_map', fromBox, List.filter_map, List.map_map,
    List.map_map]
  refine List.map_congr_left fun m _ => ?_
  exact m.input.pairOfByte_byte

theorem Worker.Framed.setPairs (h : w.Framed D) :
    w.setPairs S = (fromBox S (w.sent.flatMap Sent.msgs)).map ORTInput.pair := by
  have hsent := h.sent
  rw [Worker.setPairs]
  generalize w.sent = sent at hsent
  induction sent with
  | nil => rfl
  | cons f fs ih =>
    have hf := hsent f List.mem_cons_self
    have hrest := ih fun g hg => hsent g (List.mem_cons_of_mem f hg)
    rw [List.flatMap_cons, fromBox_append, List.map_append, ← hf.pairsFrom, ← hrest,
      List.filter_cons]
    split
    case isTrue hset => rw [List.flatMap_cons]
    case isFalse hget =>
      -- a Get carries nothing
      have hmsgs : f.msgs = [] := by
        by_contra hne
        refine hget ?_
        rw [hf.operation, if_neg hne]
        rfl
      rw [hf.pairsFrom, hmsgs]
      rfl

/-- At every moment of every run, the pairs from `S` in the Set frames written to `D`, in
packing, in the queue of `D` and in the words from `S` still to be looked up are those that
the CLU responses of `S` had for `D` since it has a worker, once and in order. No frame
carries more than 26 inputs, and a box without a worker gets nothing. -/
theorem routed_exactly_once (labels : List System.Label) :
    let s := exec System.step System.start labels
    (∀ S, ∀ D ∈ s.hControllersList,
      (s.worker D).setPairs S ++ (fromBox S (s.worker D).packing).map ORTInput.pair ++
          (fromBox S (s.worker D).queue).map ORTInput.pair ++ Wire.pairsFor D (s.inHand S) =
        Wire.pairsFor D (s.received S D)) ∧
      (∀ D, ∀ f ∈ (s.worker D).sent, f.Carries D) ∧
      ∀ D, D ∉ s.hControllersList → (s.worker D).sent.flatMap Sent.msgs = [] ∧
        (s.worker D).packing = [] ∧ (s.worker D).queue = [] := by
  have h : Routed (exec System.step System.start labels) := exec_routed
  refine ⟨fun S D hD => ?_, fun D => (h.framed D).sent, fun D hD => ?_⟩
  · have horder := congrArg (List.map ORTInput.pair) (h.inOrder S D hD)
    rw [h.inHand_eq S, List.map_append, inputsFor_ofBits, inputsFor_ofBits] at horder
    rw [← horder, (h.framed D).setPairs, Worker.msgs, fromBox_append, fromBox_append,
      List.map_append, List.map_append]
  · simpa [Worker.msgs, and_assoc] using (h.idle D hD).1

end SystemMaster.Multinet
