import SystemMaster.Devices.Answers
import SystemMaster.Multinet.LocalRemote

/-!
# The detailed status service

`vALTOMultinet_getDetailedStatusService_ValueChangeHandler` asks a box for its status and
answers with all of it, with the state of one relay or indicator, or with its pots. The
statuses of a relay box and of a temperature box are laid out differently.
-/

namespace SystemMaster.Multinet

open Alto Devices LittleEndian Tcp.Device

structure GetStatusRelay where
  ui8MultinetAddress : Address
  relayBitPosition : UInt8

/-- What `relayState` is: the bit of a word, a local that was not set, or a shift by the
width of the word or more. -/
inductive RelayState where
  | bit (b : Bool)
  | notSet
  | outOfRange
  deriving DecidableEq

def RelayState.byte (stray : UInt8) : RelayState → UInt8
  | .bit b => if b then 1 else 0
  | .notSet | .outOfRange => stray

def maskedBit (w : BitVec 32) (n : Nat) : RelayState :=
  if n < 32 then .bit (w &&& 1#32 <<< n ≠ 0#32) else .outOfRange

def fieldWord (f : Frame) (off size : Nat) : BitVec 32 := BitVec.ofNat 32 (field f off size)

def statusRelay (f : Frame) (pStatusRelay : GetStatusRelay) : RelayState :=
  let position := pStatusRelay.relayBitPosition.toNat
  if isRelayBox pStatusRelay.ui8MultinetAddress then
    if position < 8 then maskedBit (fieldWord f 14 1) position
    else maskedBit (fieldWord f 15 1) (position - 8)
  else if isTemperatureBox pStatusRelay.ui8MultinetAddress then
    let ui32Input := fieldWord f 9 2 ||| fieldWord f 11 1 <<< 24
    if position < 8 then maskedBit (fieldWord f 8 1) position
    else maskedBit ui32Input (position - 8)
  else .notSet

def statusRelayOf (pCharData : CharData) : GetStatusRelay := ⟨pCharData.data 0, pCharData.data 1⟩

def statusRelayResponse (sender : GetStatusRelay) (relayState : UInt8) : List UInt8 :=
  [sender.ui8MultinetAddress, sender.relayBitPosition, relayState]

/-- The bytes of the answer to a good response; the pots are those of a temperature box. -/
def detailedStatusBytes (stray : UInt8) (pCharData : CharData) (f : Frame) : Option (List UInt8) :=
  match pCharData.paramID with
  | 1 => some (f.data.toList.take 24)
  | 2 =>
    let pStatusRelay := statusRelayOf pCharData
    some (statusRelayResponse pStatusRelay ((statusRelay f pStatusRelay).byte stray))
  | 3 =>
    if isTemperatureBox (pCharData.data 0) then
      some (pCharData.data 0 :: (f.data.toList.drop 18).take 5)
    else none
  | _ => none

def exchange (tFrameTx : Frame) : StateM Line (Option Frame) := fun s =>
  (s.reply, s.after tFrameTx)

def detailedStatusAnswers (stray : UInt8) (pCharData : CharData) (myDeviceID : UInt32) :
    Option Frame → List CharDataMsg
  | some f =>
    if bccCheck f = 0 ∧ f.operationID = operationResponse then
      ((detailedStatusBytes stray pCharData f).map fun bytes =>
        answerTo pCharData myDeviceID altoMultinetDetailedStatus pCharData.paramID.toUInt8
          (.reply bytes)).toList
    else []
  | none => []

def getDetailedStatusService (stray : UInt8) (pCharData : CharData) (myDeviceID : UInt32) :
    StateM Line (List CharDataMsg) := do
  let tFrameTx := bccFill
    (requestFrame classDiagnostic operationGet functionDeviceDetailedStatus (pCharData.data 0) [])
  return detailedStatusAnswers stray pCharData myDeviceID (← exchange tFrameTx)

-- ---------------------------------------------------------------------------
-- The bits of a status
-- ---------------------------------------------------------------------------

/-- The bit that a position denotes: the relays' byte first, the indicators' bytes after it. -/
def wireBit (f : Frame) (pStatusRelay : GetStatusRelay) : Option Bool :=
  let position := pStatusRelay.relayBitPosition.toNat
  if isRelayBox pStatusRelay.ui8MultinetAddress then
    bitAt ((f.data.toList.drop 14).take 2) position
  else if isTemperatureBox pStatusRelay.ui8MultinetAddress then
    bitAt ((f.data.toList.drop 8).take 4) position
  else none

/-- The answer has the bit, and a position without one gets no value. -/
def ReportsRelay (pCharData : CharData) (myDeviceID : UInt32) (f : Frame)
    (msgs : List CharDataMsg) : Prop :=
  match wireBit f (statusRelayOf pCharData) with
  | some b =>
    msgs = [answerTo pCharData myDeviceID altoMultinetDetailedStatus 2
      (.reply (statusRelayResponse (statusRelayOf pCharData) (if b then 1 else 0)))]
  | none => ∀ msg ∈ msgs, ∃ code, msg.answer = .error code

/-- The position has a bit, and it is none of the upper indicators of a temperature box that
are on. -/
def RelayReported (f : Frame) (pStatusRelay : GetStatusRelay) : Prop :=
  isRelayBox pStatusRelay.ui8MultinetAddress ∧ pStatusRelay.relayBitPosition.toNat < 16 ∨
    isTemperatureBox pStatusRelay.ui8MultinetAddress ∧
      pStatusRelay.relayBitPosition.toNat < 32 ∧
        (24 ≤ pStatusRelay.relayBitPosition.toNat →
          (field f 11 1).testBit (pStatusRelay.relayBitPosition.toNat - 24) = false)

variable {f : Frame} {pStatusRelay : GetStatusRelay} {pCharData : CharData} {myDeviceID : UInt32}
  {stray : UInt8} {s : Line} {w : BitVec 32} {n off size : Nat}

theorem maskedBit_eq : maskedBit w n = if n < 32 then .bit (w.getLsbD n) else .outOfRange := by
  unfold maskedBit
  split
  case isTrue hn =>
    have hbit : decide (w &&& 1#32 <<< n ≠ 0#32) = w.getLsbD n := by
      rw [Bool.eq_iff_iff, decide_eq_true_eq]
      exact and_shiftLeft_one w hn
    rw [hbit]
  case isFalse => rfl

theorem bitAt_field : bitAt ((f.data.toList.drop off).take size) n =
    if n < 8 * size then bitAt f.data.toList (8 * off + n) else none := by
  have hdiv : (8 * off + n) / 8 = off + n / 8 := by omega
  have hmod : (8 * off + n) % 8 = n % 8 := by omega
  rw [bitAt, bitAt, List.getElem?_take, List.getElem?_drop, hdiv, hmod]
  by_cases hn : n < 8 * size
  · rw [if_pos hn, if_pos (by omega)]
  · rw [if_neg hn, if_neg (by omega)]
    rfl

def dataBit (f : Frame) (n : Nat) : Bool := (bitAt f.data.toList n).getD false

theorem bitAt_data (hn : n < 8 * dataPayloadSize) : bitAt f.data.toList n = some (dataBit f n) := by
  have hlen := f.data.length_toList
  have hsome : n / 8 < f.data.toList.length := by omega
  rw [dataBit, bitAt, List.getElem?_eq_getElem hsome]
  rfl

theorem field_testBit :
    (field f off size).testBit n = if n < 8 * size then dataBit f (8 * off + n) else false := by
  rw [field, ofBytes_testBit, bitAt_field]
  split <;> rfl

theorem maskedBit_field (hn : n < 32) : maskedBit (fieldWord f off size) n =
    .bit (if n < 8 * size then dataBit f (8 * off + n) else false) := by
  rw [maskedBit_eq, if_pos hn, fieldWord, BitVec.getLsbD_ofNat, field_testBit]
  simp [hn]

section Position

variable {position : Nat}

theorem statusRelay_relayBox (hbox : isRelayBox pStatusRelay.ui8MultinetAddress)
    (hposition : pStatusRelay.relayBitPosition.toNat = position) (hlt : position < 16) :
    statusRelay f pStatusRelay = .bit (dataBit f (8 * 14 + position)) := by
  simp only [statusRelay, hbox, if_true, hposition]
  split
  case isTrue hrelay => rw [maskedBit_field (by omega), if_pos (by omega)]
  case isFalse hrelay =>
    have hbit : 8 * 15 + (position - 8) = 8 * 14 + position := by omega
    rw [maskedBit_field (by omega), if_pos (by omega), hbit]

theorem statusRelay_temperatureBox (hnot : isRelayBox pStatusRelay.ui8MultinetAddress = false)
    (hbox : isTemperatureBox pStatusRelay.ui8MultinetAddress)
    (hposition : pStatusRelay.relayBitPosition.toNat = position) (hlt : position < 32) :
    statusRelay f pStatusRelay =
      .bit (if position < 24 then dataBit f (8 * 8 + position) else false) := by
  simp only [statusRelay, hnot, hbox, Bool.false_eq_true, if_true, if_false, hposition]
  split
  case isTrue hrelay =>
    rw [maskedBit_field (by omega), if_pos (by omega), if_pos (by omega)]
  case isFalse hrelay =>
    -- the upper indicators lie above the ones that are looked at
    have hupper : position - 8 < 24 := by omega
    have hword : position - 8 < 32 := by omega
    rw [maskedBit_eq, if_pos hword, BitVec.getLsbD_or, BitVec.getLsbD_shiftLeft]
    simp only [hupper, hword, fieldWord, BitVec.getLsbD_ofNat, field_testBit, decide_true,
      Bool.true_and, Bool.not_true, Bool.and_false, Bool.false_and, Bool.or_false]
    by_cases hlow : position < 24
    · have hbit : 8 * 9 + (position - 8) = 8 * 8 + position := by omega
      rw [if_pos (by omega), if_pos hlow, hbit]
    · rw [if_neg (by omega), if_neg hlow]

theorem wireBit_eq (f : Frame) (pStatusRelay : GetStatusRelay)
    (hposition : pStatusRelay.relayBitPosition.toNat = position) :
    wireBit f pStatusRelay =
      if isRelayBox pStatusRelay.ui8MultinetAddress then
        if position < 16 then some (dataBit f (8 * 14 + position)) else none
      else if isTemperatureBox pStatusRelay.ui8MultinetAddress then
        if position < 32 then some (dataBit f (8 * 8 + position)) else none
      else none := by
  simp only [wireBit, hposition, bitAt_field]
  refine if_congr Iff.rfl (ite_congr rfl ?_ fun _ => rfl)
    (if_congr Iff.rfl (ite_congr rfl ?_ fun _ => rfl) rfl)
  · intro hlt
    exact bitAt_data (by rw [dataPayloadSize]; omega)
  · intro hlt
    exact bitAt_data (by rw [dataPayloadSize]; omega)

end Position

theorem maskedBit_fieldWord (hn : n < 32) :
    maskedBit (fieldWord f off size) n = .bit ((field f off size).testBit n) := by
  rw [maskedBit_eq, if_pos hn, fieldWord, BitVec.getLsbD_ofNat]
  simp [hn]

/-- With the shift in range the state is the one that callers of the port take. -/
theorem statusRelay_eq_relayState (hposition : pStatusRelay.relayBitPosition.toNat < 40) :
    statusRelay f pStatusRelay =
      (relayState f pStatusRelay.ui8MultinetAddress pStatusRelay.relayBitPosition.toNat).elim
        .notSet .bit := by
  have hword : pStatusRelay.relayBitPosition.toNat - 8 < 32 := by omega
  have hshort : field f 9 2 < 2 ^ 24 := by
    have hlt := ofBytes_lt ((f.data.toList.drop 9).take 2)
    have hle : ((f.data.toList.drop 9).take 2).length ≤ 2 := List.length_take_le 2 _
    exact hlt.trans_le ((Nat.pow_le_pow_right (by decide) hle).trans (by decide))
  simp only [statusRelay, relayState]
  split
  case isTrue hbox =>
    split
    case isTrue hrelay => exact maskedBit_fieldWord (by omega)
    case isFalse => exact maskedBit_fieldWord hword
  case isFalse =>
    split
    case isTrue hbox =>
      split
      case isTrue hrelay => exact maskedBit_fieldWord (by omega)
      case isFalse =>
        have hsum := Nat.testBit_two_pow_mul_add (field f 11 1) hshort
          (pStatusRelay.relayBitPosition.toNat - 8)
        rw [maskedBit_eq, if_pos hword, Option.elim_some, Nat.add_comm, hsum, BitVec.getLsbD_or,
          BitVec.getLsbD_shiftLeft, fieldWord, fieldWord, BitVec.getLsbD_ofNat, BitVec.getLsbD_ofNat]
        by_cases hupper : pStatusRelay.relayBitPosition.toNat - 8 < 24
        · simp [hupper, hword]
        · have hlow : (field f 9 2).testBit (pStatusRelay.relayBitPosition.toNat - 8) = false :=
            Nat.testBit_lt_two_pow (hshort.trans_le (Nat.pow_le_pow_right (by decide) (by omega)))
          have hhigh : pStatusRelay.relayBitPosition.toNat - 8 - 24 < 32 := by omega
          simp [hupper, hword, hlow, hhigh]
    case isFalse => rfl

-- ---------------------------------------------------------------------------
-- The answers of the service
-- ---------------------------------------------------------------------------

theorem getDetailedStatusService_run :
    ((getDetailedStatusService stray pCharData myDeviceID).run s).1 =
      detailedStatusAnswers stray pCharData myDeviceID s.reply := rfl

theorem not_temperatureBox {address : Address} (h : isRelayBox address = true) :
    isTemperatureBox address = false := by
  have hbox : unitTypeOf address = relayBox := by simpa [isRelayBox] using h
  rw [isTemperatureBox, hbox]
  rfl

theorem relayState_byte_iff {b b' : Bool} :
    (RelayState.bit b').byte stray = (if b then 1 else 0) ↔ b' = b := by
  cases b <;> cases b' <;> simp [RelayState.byte]

theorem statusRelay_answered (hparam : pCharData.paramID = 2) (hbcc : bccCheck f = 0)
    (hresponse : f.operationID = operationResponse) :
    detailedStatusAnswers stray pCharData myDeviceID (some f) =
      [answerTo pCharData myDeviceID altoMultinetDetailedStatus 2
        (.reply (statusRelayResponse (statusRelayOf pCharData)
          ((statusRelay f (statusRelayOf pCharData)).byte stray)))] := by
  simp only [detailedStatusAnswers, hbcc, hresponse, and_self, if_true, detailedStatusBytes, hparam]
  rfl

theorem reports_of_wireBit {b : Bool} (hwire : wireBit f (statusRelayOf pCharData) = some b) :
    ReportsRelay pCharData myDeviceID f
        [answerTo pCharData myDeviceID altoMultinetDetailedStatus 2
          (.reply (statusRelayResponse (statusRelayOf pCharData)
            ((statusRelay f (statusRelayOf pCharData)).byte stray)))] ↔
      (statusRelay f (statusRelayOf pCharData)).byte stray = if b then 1 else 0 := by
  simp [ReportsRelay, hwire, answerTo, statusRelayResponse]

theorem not_reports_of_wireBit {bytes : List UInt8}
    (hwire : wireBit f (statusRelayOf pCharData) = none) :
    ¬ReportsRelay pCharData myDeviceID f
      [answerTo pCharData myDeviceID altoMultinetDetailedStatus 2 (.reply bytes)] := by
  simp [ReportsRelay, hwire, answerTo]

/-- The relay or indicator of a good status is reported exactly when its position has a bit,
but for the upper indicators of a temperature box that are on. -/
theorem relay_reported_iff (hparam : pCharData.paramID = 2) (hreply : s.reply = some f)
    (hbcc : bccCheck f = 0) (hresponse : f.operationID = operationResponse) :
    ReportsRelay pCharData myDeviceID f
        ((getDetailedStatusService stray pCharData myDeviceID).run s).1 ↔
      RelayReported f (statusRelayOf pCharData) := by
  rw [getDetailedStatusService_run, hreply, statusRelay_answered hparam hbcc hresponse]
  have hwire := wireBit_eq f (statusRelayOf pCharData) rfl
  rw [RelayReported]
  cases hrelay : isRelayBox (statusRelayOf pCharData).ui8MultinetAddress with
  | true =>
    have htemp := not_temperatureBox hrelay
    rw [if_pos hrelay] at hwire
    simp only [htemp, true_and, Bool.false_eq_true, false_and, or_false]
    split at hwire
    case isTrue hlt =>
      rw [reports_of_wireBit hwire, statusRelay_relayBox hrelay rfl hlt, relayState_byte_iff]
      exact iff_of_true rfl hlt
    case isFalse hge => exact iff_of_false (not_reports_of_wireBit hwire) hge
  | false =>
    rw [if_neg (by simp [hrelay])] at hwire
    simp only [Bool.false_eq_true, false_and, false_or]
    cases htemp : isTemperatureBox (statusRelayOf pCharData).ui8MultinetAddress with
    | true =>
      rw [if_pos htemp] at hwire
      simp only [true_and]
      split at hwire
      case isTrue hlt =>
        rw [reports_of_wireBit hwire, statusRelay_temperatureBox hrelay htemp rfl hlt,
          relayState_byte_iff]
        by_cases hlow : (statusRelayOf pCharData).relayBitPosition.toNat < 24
        · rw [if_pos hlow]
          exact iff_of_true rfl ⟨hlt, fun hupper => absurd hlow (Nat.not_lt.mpr hupper)⟩
        · have hbit : 8 * 11 + ((statusRelayOf pCharData).relayBitPosition.toNat - 24) =
              8 * 8 + (statusRelayOf pCharData).relayBitPosition.toNat := by omega
          have hbyte : (statusRelayOf pCharData).relayBitPosition.toNat - 24 < 8 * 1 := by omega
          rw [if_neg hlow, field_testBit, if_pos hbyte, hbit, eq_comm]
          exact ⟨fun hoff => ⟨hlt, fun _ => hoff⟩, fun h => h.2 (Nat.not_lt.mp hlow)⟩
      case isFalse hge =>
        exact iff_of_false (not_reports_of_wireBit hwire) fun h => hge h.1
    | false =>
      rw [if_neg (by simp [htemp])] at hwire
      refine iff_of_false (not_reports_of_wireBit hwire) ?_
      simp

def indicatorStatus : Frame :=
  bccFill (requestFrame classDiagnostic operationResponse functionDeviceDetailedStatus 0x61
    (List.replicate 11 0 ++ [1]))

def statusRelayRequest (address relayBitPosition : UInt8) : CharData where
  connHandle := 7
  retDeviceID := 5
  svcUUID := altoMultinetDetailedStatus
  retSvcUUID := altoMultinetClassReturn
  dataLen := 2
  paramID := 2
  retParamID := 1
  data := Memory.write (fun _ => 0) 0 [address, relayBitPosition]

theorem eighth_indicator_reported :
    ReportsRelay (statusRelayRequest 0x61 15) 6 indicatorStatus
        ((getDetailedStatusService 0 (statusRelayRequest 0x61 15) 6).run
          ⟨oneVirtual 3, [some indicatorStatus], []⟩).1 ↔
      RelayReported indicatorStatus (statusRelayOf (statusRelayRequest 0x61 15)) :=
  relay_reported_iff rfl rfl (by decide) rfl

theorem upper_indicator_not_reported :
    ¬∀ (stray : UInt8) (pCharData : CharData) (myDeviceID : UInt32) (s : Line) (f : Frame),
      pCharData.paramID = 2 → s.reply = some f → bccCheck f = 0 →
        f.operationID = operationResponse →
          ReportsRelay pCharData myDeviceID f
            ((getDetailedStatusService stray pCharData myDeviceID).run s).1 := by
  intro h
  have hreports := h 0 (statusRelayRequest 0x61 24) 6 ⟨oneVirtual 3, [some indicatorStatus], []⟩
    indicatorStatus rfl rfl (by decide) rfl
  have hwire : wireBit indicatorStatus (statusRelayOf (statusRelayRequest 0x61 24)) = some true := by
    decide
  rw [ReportsRelay, hwire] at hreports
  revert hreports
  decide

end SystemMaster.Multinet
