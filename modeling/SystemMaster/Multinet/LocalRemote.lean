import SystemMaster.Multinet.ReplyCorrelation

/-!
# The local remote service

`vALTOMultinet_LocalRemoteService_ValueChangeHandler` sets a virtual remote input of a box,
with its gate, or triggers it: the input goes up and down, and the gate is virtual in
between. To leave the gate as it was the handler reads it first.
-/

namespace SystemMaster.Multinet

open Alto

inductive LocalRemoteParam where
  | set
  | trigger
  | getGate
  | setGate

structure SetSwitchOnOff where
  ui8MultinetAddress : Address
  tORTInput : ORTInput

structure SetSwitchOnOffResponse where
  sender : SetSwitchOnOff
  acknak : Int

/-- The words of a box that its commands set; a bit of the gate selects the virtual input. -/
structure Box where
  virtualRemoteInputs : Fin 32 → Bool
  gate : Fin 32 → Bool

/-- The box on the line, the frames that the exchanges to come bring, and those sent so far. -/
structure Line where
  box : Box
  replies : List (Option Frame)
  sent : List Frame

-- ---------------------------------------------------------------------------
-- Exchanges
-- ---------------------------------------------------------------------------

def ORTInput.ofByte (b : UInt8) : ORTInput where
  value := b &&& 0x01 ≠ 0
  inputAddress := ⟨(b >>> 1).toNat % 32, Nat.mod_lt _ (by decide)⟩

/-- A box carries out the commands to set something. -/
def Box.obey (b : Box) (f : Frame) : Box :=
  let i := ORTInput.ofByte (firstByte f)
  if f.operationID ≠ operationSet then b
  else if f.functionID = functionCluPinVinGate then
    { b with gate := Function.update b.gate i.inputAddress i.value }
  else if f.functionID = functionCluLocalRemoteVin then
    { b with
      virtualRemoteInputs := Function.update b.virtualRemoteInputs i.inputAddress i.value }
  else b

def Line.reply (s : Line) : Option Frame := s.replies.headD none

def Line.after (s : Line) (tFrameTx : Frame) : Line :=
  ⟨s.box.obey tFrameTx, s.replies.tail, s.sent ++ [tFrameTx]⟩

/-- `bIF_transfer`, and what the caller takes from the frame it brings, if any. -/
def transfer (c : Caller) : StateM Line (Option Outcome) := fun s =>
  (s.reply.bind c.outcome, s.after c.tFrameTx)

def gateRetVal : Option Outcome → Int
  | some (.gate retVal) => retVal
  | _ => 0

def ackRetVal : Option Outcome → Int
  | some (.acknowledged retVal) => retVal.toNat
  | _ => -1

def readGateFrom (multinetAddress : Address) : StateM Line Int := do
  return gateRetVal (← transfer (.readGateFrom multinetAddress))

def setGateAt (multinetAddress : Address) (inputAddress : Fin 32) (value : Bool) :
    StateM Line Int := do
  return ackRetVal (← transfer (.setGateAt multinetAddress inputAddress value))

def setVirtualRemoteAt (multinetAddress : Address) (inputAddress : Fin 32) (value : Bool) :
    StateM Line Int := do
  return ackRetVal (← transfer (.setVirtualRemoteAt multinetAddress inputAddress value))

-- ---------------------------------------------------------------------------
-- The handler
-- ---------------------------------------------------------------------------

def gateBit (gate : Int) (inputAddress : Fin 32) : Bool :=
  BitVec.ofInt 32 gate &&& 1#32 <<< inputAddress.val ≠ 0#32

/-- `SERVICE_ALTO_MULTINET_CLUPINVINGATE_SELECT_VIRTUAL` and `_PHYSICAL`. -/
def selectVirtual : Bool := true
def selectPhysical : Bool := false

def localRemoteValueChange (paramID : LocalRemoteParam) (pPayload : SetSwitchOnOff) :
    StateM Line SetSwitchOnOffResponse := do
  let address := pPayload.ui8MultinetAddress
  let inputAddress := pPayload.tORTInput.inputAddress
  let value := pPayload.tORTInput.value
  match paramID with
  | .set =>
    let _ ← readGateFrom address
    let ack ← setVirtualRemoteAt address inputAddress value
    let _ ← setGateAt address inputAddress (if value then selectVirtual else selectPhysical)
    return ⟨pPayload, ack⟩
  | .trigger =>
    let gate ← readGateFrom address
    let _ ← setVirtualRemoteAt address inputAddress true
    if !gateBit gate inputAddress then
      let _ ← setGateAt address inputAddress selectVirtual
    let ack ← setVirtualRemoteAt address inputAddress false
    if !gateBit gate inputAddress then
      let _ ← setGateAt address inputAddress selectPhysical
    return ⟨pPayload, ack⟩
  | .getGate =>
    let gate ← readGateFrom address
    return ⟨pPayload, if gateBit gate inputAddress then 1 else 0⟩
  | .setGate =>
    let ack ← setGateAt address inputAddress value
    return ⟨pPayload, ack⟩

/-- The state of the line after a request. -/
def Line.handle (s : Line) (paramID : LocalRemoteParam) (pPayload : SetSwitchOnOff) : Line :=
  ((localRemoteValueChange paramID pPayload).run s).2

/-- A good response to the read, if it comes, has the gate of the box. -/
def Line.ReadsGate (s : Line) : Prop :=
  ∀ f, s.reply = some f → bccCheck f = 0 → f.operationID = operationResponse →
    ∀ i : Fin 32, (field f 18 4).testBit i = s.box.gate i

def IsResponse (f : Frame) : Prop := bccCheck f = 0 ∧ f.operationID = operationResponse

/-- The read of the gate does not fail. -/
def Line.ReadAnswered (s : Line) : Prop := ∃ f, s.reply = some f ∧ IsResponse f

def Line.answer (s : Line) (f : Frame) : Line := { s with replies := some f :: s.replies.tail }

/-- A trigger whose read fails sends what it would send for some gate. -/
def Line.TakesFailure (s : Line) (pPayload : SetSwitchOnOff) : Prop :=
  ¬s.ReadAnswered ∧ ∃ f, IsResponse f ∧
    (s.handle .trigger pPayload).sent = ((s.answer f).handle .trigger pPayload).sent

/-- A trigger leaves the bit of the gate as it was, and takes no failed read for a gate. -/
structure Line.Restores (s : Line) (pPayload : SetSwitchOnOff) : Prop where
  gate : (s.handle .trigger pPayload).box.gate pPayload.tORTInput.inputAddress =
    s.box.gate pPayload.tORTInput.inputAddress
  failure : ¬s.TakesFailure pPayload

variable {s : Line} {b : Box} {address : Address} {i : Fin 32} {value : Bool}
  {pPayload : SetSwitchOnOff} {paramID : LocalRemoteParam}

theorem firstByte_request {classID operationID functionID x : UInt8} :
    firstByte (bccFill (requestFrame classID operationID functionID address [x])) = x := by
  simp [firstByte, bccFill, requestFrame]

theorem ofByte_inputSpecifier : ORTInput.ofByte (inputSpecifier i value) = ⟨value, i⟩ := by
  revert i value
  decide

theorem ofByte_byte : ORTInput.ofByte (⟨value, i⟩ : ORTInput).byte = ⟨value, i⟩ :=
  ofByte_inputSpecifier

@[simp] theorem obey_readGateFrom : b.obey (Caller.readGateFrom address).tFrameTx = b := rfl

@[simp] theorem obey_setGateAt :
    b.obey (Caller.setGateAt address i value).tFrameTx =
      { b with gate := Function.update b.gate i value } := by
  simp only [Box.obey, Caller.tFrameTx, firstByte_request, ofByte_inputSpecifier]
  rfl

@[simp] theorem obey_setVirtualRemoteAt :
    b.obey (Caller.setVirtualRemoteAt address i value).tFrameTx =
      { b with virtualRemoteInputs := Function.update b.virtualRemoteInputs i value } := by
  simp only [Box.obey, Caller.tFrameTx, firstByte_request, ofByte_byte]
  rfl

-- ---------------------------------------------------------------------------
-- The gate that is read
-- ---------------------------------------------------------------------------

def Line.gateRead (s : Line) (address : Address) : Int :=
  gateRetVal (s.reply.bind (Caller.readGateFrom address).outcome)

theorem and_shiftLeft_one {n : Nat} (w : BitVec 32) (hn : n < 32) :
    (w &&& 1#32 <<< n ≠ 0#32) ↔ w.getLsbD n := by
  have hone : ∀ i : Fin 32, 1#32 <<< i.val ≠ 0#32 := by decide
  have hand : w &&& 1#32 <<< n = if w.getLsbD n then 1#32 <<< n else 0#32 := by
    rw [← BitVec.twoPow_eq, BitVec.and_twoPow]
  rw [hand]
  cases w.getLsbD n
  · simp
  · simpa using hone ⟨n, hn⟩

theorem gateBit_toInt (w : BitVec 32) : gateBit w.toInt i = w.getLsbD i := by
  rw [gateBit, BitVec.ofInt_toInt, Bool.eq_iff_iff, decide_eq_true_eq]
  exact and_shiftLeft_one w i.isLt

theorem gateBit_zero : gateBit 0 i = false := by
  revert i
  decide

theorem gateBit_neg_one : gateBit (-1) i = true := by
  revert i
  decide

theorem run_bind {α β : Type} (x : StateM Line α) (f : α → StateM Line β) :
    (x >>= f).run s = (f (x.run s).1).run (x.run s).2 := rfl

theorem run_pure {α : Type} (a : α) : (pure a : StateM Line α).run s = (a, s) := rfl

@[simp] theorem readGateFrom_run :
    (readGateFrom address).run s = (s.gateRead address, s.after (Caller.readGateFrom address).tFrameTx) := rfl

@[simp] theorem setGateAt_run :
    (setGateAt address i value).run s =
      (ackRetVal (s.reply.bind (Caller.setGateAt address i value).outcome),
        s.after (Caller.setGateAt address i value).tFrameTx) := rfl

@[simp] theorem setVirtualRemoteAt_run :
    (setVirtualRemoteAt address i value).run s =
      (ackRetVal (s.reply.bind (Caller.setVirtualRemoteAt address i value).outcome),
        s.after (Caller.setVirtualRemoteAt address i value).tFrameTx) := rfl

@[simp] theorem after_box {f : Frame} : (s.after f).box = s.box.obey f := rfl

@[simp] theorem after_sent {f : Frame} : (s.after f).sent = s.sent ++ [f] := rfl

@[simp] theorem answer_sent {f : Frame} : (s.answer f).sent = s.sent := rfl

theorem gateRead_failed (h : ¬s.ReadAnswered) :
    s.gateRead address = 0 ∨ s.gateRead address = -1 := by
  rw [Line.gateRead]
  cases hreply : s.reply with
  | none => exact .inl rfl
  | some f =>
    simp only [Option.bind_some, Caller.outcome]
    split
    case isTrue => exact .inl rfl
    case isFalse hbcc =>
      split
      case isTrue => exact .inr rfl
      case isFalse =>
        have hother : f.operationID ≠ operationResponse := fun hresponse =>
          h ⟨f, hreply, not_not.mp hbcc, hresponse⟩
        rw [if_neg hother]
        exact .inl rfl

theorem gateBit_response {f : Frame} (hf : s.reply = some f) (h : IsResponse f) :
    gateBit (s.gateRead address) i = (field f 18 4).testBit i := by
  have hne : ¬operationResponse = operationACKNAK := by decide
  simp only [Line.gateRead, hf, Option.bind_some, Caller.outcome, h.1, h.2, ne_eq,
    not_true_eq_false, if_false, if_neg hne, if_true, gateRetVal]
  simp only [gateBit_toInt, BitVec.getLsbD_ofNat, i.isLt, decide_true, Bool.true_and]

-- ---------------------------------------------------------------------------
-- The box after a request
-- ---------------------------------------------------------------------------

theorem set_box :
    (s.handle .set pPayload).box =
      { virtualRemoteInputs := Function.update s.box.virtualRemoteInputs
          pPayload.tORTInput.inputAddress pPayload.tORTInput.value
        gate := Function.update s.box.gate pPayload.tORTInput.inputAddress
          pPayload.tORTInput.value } := by
  unfold Line.handle localRemoteValueChange
  simp only [run_bind, run_pure, readGateFrom_run, setVirtualRemoteAt_run, setGateAt_run]
  cases hvalue : pPayload.tORTInput.value <;> simp [selectVirtual, selectPhysical]

theorem trigger_box :
    (s.handle .trigger pPayload).box =
      { virtualRemoteInputs :=
          Function.update s.box.virtualRemoteInputs pPayload.tORTInput.inputAddress false
        gate :=
          if gateBit (s.gateRead pPayload.ui8MultinetAddress) pPayload.tORTInput.inputAddress then
            s.box.gate
          else Function.update s.box.gate pPayload.tORTInput.inputAddress selectPhysical } := by
  unfold Line.handle localRemoteValueChange
  simp only [run_bind, readGateFrom_run]
  by_cases hbit : gateBit (s.gateRead pPayload.ui8MultinetAddress) pPayload.tORTInput.inputAddress
  · simp only [hbit, Bool.not_true, Bool.false_eq_true, if_false, if_true, run_bind, run_pure,
      setVirtualRemoteAt_run]
    simp
  · simp only [hbit, Bool.not_false, if_true, run_bind, run_pure, setVirtualRemoteAt_run,
      setGateAt_run]
    simp

/-- What a trigger sends is a matter of the bit that it reads. -/
theorem trigger_sent :
    (s.handle .trigger pPayload).sent =
      let address := pPayload.ui8MultinetAddress
      let inputAddress := pPayload.tORTInput.inputAddress
      let select (value : Bool) :=
        if gateBit (s.gateRead address) inputAddress then []
        else [(Caller.setGateAt address inputAddress value).tFrameTx]
      s.sent ++ [(Caller.readGateFrom address).tFrameTx,
        (Caller.setVirtualRemoteAt address inputAddress true).tFrameTx] ++ select selectVirtual ++
          [(Caller.setVirtualRemoteAt address inputAddress false).tFrameTx] ++
            select selectPhysical := by
  unfold Line.handle localRemoteValueChange
  simp only [run_bind, readGateFrom_run]
  by_cases hbit : gateBit (s.gateRead pPayload.ui8MultinetAddress) pPayload.tORTInput.inputAddress
  · simp only [hbit, Bool.not_true, Bool.false_eq_true, if_false, if_true, run_bind, run_pure,
      setVirtualRemoteAt_run]
    simp
  · simp only [hbit, Bool.not_false, if_true, run_bind, run_pure, setVirtualRemoteAt_run,
      setGateAt_run]
    simp

theorem getGate_box : (s.handle .getGate pPayload).box = s.box := rfl

theorem setGate_box :
    (s.handle .setGate pPayload).box =
      { s.box with
        gate := Function.update s.box.gate pPayload.tORTInput.inputAddress
          pPayload.tORTInput.value } := by
  unfold Line.handle localRemoteValueChange
  simp only [run_bind, run_pure, setGateAt_run]
  simp

theorem handle_box_of_ne (hi : i ≠ pPayload.tORTInput.inputAddress) :
    (s.handle paramID pPayload).box.gate i = s.box.gate i ∧
      (s.handle paramID pPayload).box.virtualRemoteInputs i = s.box.virtualRemoteInputs i := by
  cases paramID with
  | set => simp [set_box, hi]
  | trigger =>
    rw [trigger_box]
    refine ⟨?_, Function.update_of_ne hi ..⟩
    dsimp only
    split
    · rfl
    · exact Function.update_of_ne hi ..
  | getGate => simp [getGate_box]
  | setGate => simp [setGate_box, hi]

def cluResponse (gate : UInt8) : Frame :=
  bccFill (requestFrame classClu operationResponse functionCluBitMap 0x41
    (List.replicate 18 0 ++ List.replicate 4 gate))

theorem cluResponse_isResponse (gate : UInt8) : IsResponse (cluResponse gate) :=
  ⟨bccCheck_bccFill _, rfl⟩

theorem testBit_cluResponse (i : Fin 32) :
    (field (cluResponse 0) 18 4).testBit i = false ∧
      (field (cluResponse 0xFF) 18 4).testBit i = true := by
  revert i
  decide +kernel

theorem exists_response (s : Line) (address : Address) (i : Fin 32) (bit : Bool) :
    ∃ f, IsResponse f ∧ gateBit ((s.answer f).gateRead address) i = bit := by
  cases bit with
  | false =>
    exact ⟨_, cluResponse_isResponse 0,
      (gateBit_response rfl (cluResponse_isResponse 0)).trans (testBit_cluResponse i).1⟩
  | true =>
    exact ⟨_, cluResponse_isResponse 0xFF,
      (gateBit_response rfl (cluResponse_isResponse 0xFF)).trans (testBit_cluResponse i).2⟩

theorem takesFailure_iff : s.TakesFailure pPayload ↔ ¬s.ReadAnswered := by
  refine ⟨fun h => h.1, fun h => ⟨h, ?_⟩⟩
  obtain ⟨f, hf, hbit⟩ := exists_response s pPayload.ui8MultinetAddress
    pPayload.tORTInput.inputAddress
    (gateBit (s.gateRead pPayload.ui8MultinetAddress) pPayload.tORTInput.inputAddress)
  refine ⟨f, hf, ?_⟩
  simp only [trigger_sent, hbit, answer_sent]

theorem trigger_gate_iff :
    (s.handle .trigger pPayload).box.gate pPayload.tORTInput.inputAddress =
        s.box.gate pPayload.tORTInput.inputAddress ↔
      s.box.gate pPayload.tORTInput.inputAddress = false ∨
        gateBit (s.gateRead pPayload.ui8MultinetAddress) pPayload.tORTInput.inputAddress := by
  rw [trigger_box]
  dsimp only
  split
  case isTrue hbit => simp [hbit]
  case isFalse hbit =>
    rw [Function.update_self, selectPhysical, eq_comm]
    simp [hbit]

theorem trigger_gate_of_failed (h : ¬s.ReadAnswered) :
    (s.handle .trigger pPayload).box.gate pPayload.tORTInput.inputAddress =
        s.box.gate pPayload.tORTInput.inputAddress ↔
      s.box.gate pPayload.tORTInput.inputAddress = false ∨
        s.gateRead pPayload.ui8MultinetAddress = -1 := by
  rw [trigger_gate_iff]
  have hread : s.gateRead pPayload.ui8MultinetAddress = 0 ∨
      s.gateRead pPayload.ui8MultinetAddress = -1 := gateRead_failed h
  rcases hread with hzero | hone
  · rw [hzero, gateBit_zero]
    simp
  · rw [hone, gateBit_neg_one]
    simp

/-- With its commands carried out a trigger restores the bit of the gate, and takes no failed
read for a gate, exactly when the read brings a response. -/
theorem trigger_restores_iff (hread : s.ReadsGate) : s.Restores pPayload ↔ s.ReadAnswered := by
  constructor
  · intro h
    exact not_not.mp fun hfailed => h.failure (takesFailure_iff.mpr hfailed)
  · intro hanswered
    refine ⟨?_, fun hfailure => hfailure.1 hanswered⟩
    obtain ⟨f, hf, hresponse⟩ := hanswered
    rw [trigger_gate_iff, gateBit_response hf hresponse,
      hread f hf hresponse.1 hresponse.2]
    cases s.box.gate pPayload.tORTInput.inputAddress <;> simp

def oneVirtual (i : Fin 32) : Box := ⟨fun _ => false, fun j => j = i⟩

def gateResponse : Frame :=
  bccFill (requestFrame classClu operationResponse functionCluBitMap 0x41
    (List.replicate 18 0 ++ [8, 0, 0, 0]))

theorem answered_trigger_restores :
    Line.Restores ⟨oneVirtual 3, [some gateResponse], []⟩ ⟨0x41, ⟨true, 3⟩⟩ ↔
      Line.ReadAnswered ⟨oneVirtual 3, [some gateResponse], []⟩ :=
  trigger_restores_iff fun f hf _ _ => by
    obtain rfl := Option.some.inj hf
    decide

theorem timed_out_trigger_clears :
    ¬∀ (s : Line) (pPayload : SetSwitchOnOff), s.ReadsGate →
      (s.handle .trigger pPayload).box.gate pPayload.tORTInput.inputAddress =
        s.box.gate pPayload.tORTInput.inputAddress := by
  intro h
  have hgate := h ⟨oneVirtual 3, [], []⟩ ⟨0x41, ⟨true, 3⟩⟩ fun f hf => by cases hf
  exact absurd hgate (by decide)

end SystemMaster.Multinet
