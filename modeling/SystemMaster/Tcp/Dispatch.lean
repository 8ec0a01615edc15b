import SystemMaster.Tcp.Commands
import SystemMaster.Usb.NetworkConfiguration
import Mathlib.Data.Nat.Bitwise

/-!
# Type words and commands

The decoders of the TCP and of the USB controller dispatch in the same way. The mask they
take the index with has 28 bits, and three bits of the type word are not looked at.
-/

namespace SystemMaster.Tcp

open LittleEndian

/-- What a decoder does: it calls a handler, or it answers with an error. -/
inductive Decision (H : Type*) where
  | call (index : Nat) (handler : H)
  | answer (error : ErrorType)

section Dispatch

variable {H : Type*}

abbrev IsCommand (type : UInt32) : Prop := type &&& 0x80000000 ≠ 0

abbrev maskedIndex (type : UInt32) : Nat := (type &&& 0x0FFFFFFF).toNat

def typeIndex (type : UInt32) : Nat := (type &&& 0x7FFFFFFF).toNat

def dispatch (count : Nat) (table : Nat → Option H) (type : UInt32) : Decision H :=
  if IsCommand type then
    if maskedIndex type < count then
      match table (maskedIndex type) with
      | some handler => .call (maskedIndex type) handler
      | none => .answer .commandNotImplemented
    else .answer .commandTypeOutOfRange
  else .answer .commandFrameNotRecognized

/-- A command gets the handler of its own index, everything else an error. -/
def Decision.Exact (table : Nat → Option H) (type : UInt32) (d : Decision H) : Prop :=
  match if IsCommand type then table (typeIndex type) else none with
  | some handler => d = .call (typeIndex type) handler
  | none => ∃ error, d = .answer error

/-- The word is taken for another index, which has a handler. -/
def Aliases (table : Nat → Option H) (type : UInt32) : Prop :=
  IsCommand type ∧ maskedIndex type ≠ typeIndex type ∧ (table (maskedIndex type)).isSome

/-- Both words are given to one handler. -/
def SameCommand (count : Nat) (table : Nat → Option H) (type type' : UInt32) : Prop :=
  ∃ index handler, dispatch count table type = .call index handler ∧
    dispatch count table type' = .call index handler

variable {count : Nat} {table : Nat → Option H} {type type' : UInt32} {index : Nat} {handler : H}

theorem maskedIndex_eq : maskedIndex type = type.toNat % 2 ^ 28 := by
  rw [maskedIndex, UInt32.toNat_and]
  exact Nat.and_two_pow_sub_one_eq_mod type.toNat 28

theorem typeIndex_eq : typeIndex type = type.toNat % 2 ^ 31 := by
  rw [typeIndex, UInt32.toNat_and]
  exact Nat.and_two_pow_sub_one_eq_mod type.toNat 31

theorem isCommand_iff : IsCommand type ↔ 2 ^ 31 ≤ type.toNat := by
  have hand : (type &&& 0x80000000).toNat = (type.toNat.testBit 31).toNat * 2 ^ 31 := by
    rw [UInt32.toNat_and]
    exact Nat.and_two_pow type.toNat 31
  rw [IsCommand, ne_eq, ← UInt32.toNat_inj, hand]
  constructor
  · intro hbit
    by_contra hlt
    rw [Nat.testBit_lt_two_pow (Nat.not_le.mp hlt)] at hbit
    exact hbit rfl
  · intro hle hzero
    have htop : type.toNat.testBit 31 = true := by
      have hlt := type.toNat_lt
      rw [Nat.testBit_eq_decide_div_mod_eq, decide_eq_true_eq]
      omega
    rw [htop] at hzero
    cases hzero

theorem maskedIndex_eq_typeIndex (hlt : typeIndex type < 2 ^ 28) :
    maskedIndex type = typeIndex type := by
  rw [typeIndex_eq] at hlt ⊢
  rw [maskedIndex_eq]
  omega

theorem type_eq_of_index (h : IsCommand type) (h' : IsCommand type')
    (hindex : typeIndex type = typeIndex type') : type = type' := by
  have hlt := type.toNat_lt
  have hlt' := type'.toNat_lt
  rw [isCommand_iff] at h h'
  rw [typeIndex_eq, typeIndex_eq] at hindex
  rw [← UInt32.toNat_inj]
  omega

/-- A handler is called for a command whose masked index has it. -/
theorem dispatch_call_iff (hcount : ∀ i, (table i).isSome → i < count) :
    dispatch count table type = .call index handler ↔
      IsCommand type ∧ maskedIndex type = index ∧ table index = some handler := by
  unfold dispatch
  split
  case isTrue hcommand =>
    cases htable : table (maskedIndex type) with
    | some found =>
      rw [if_pos (hcount _ (by rw [htable]; rfl))]
      simp only [Decision.call.injEq]
      constructor
      · rintro ⟨rfl, rfl⟩
        exact ⟨hcommand, rfl, htable⟩
      · rintro ⟨_, rfl, hhandler⟩
        exact ⟨rfl, Option.some.inj (htable.symm.trans hhandler)⟩
    | none =>
      refine iff_of_false ?_ ?_
      · split <;> simp
      · rintro ⟨_, rfl, hhandler⟩
        rw [htable] at hhandler
        cases hhandler
  case isFalse hcommand => exact iff_of_false (by simp) fun h => hcommand h.1

theorem dispatch_answer (h : ∀ index handler, dispatch count table type ≠ .call index handler) :
    ∃ error, dispatch count table type = .answer error := by
  cases hd : dispatch count table type with
  | call index handler => exact absurd hd (h index handler)
  | answer error => exact ⟨error, rfl⟩

theorem exact_iff (hcount : ∀ i, (table i).isSome → i < count) (hle : count ≤ 2 ^ 28) :
    (dispatch count table type).Exact table type ↔ ¬Aliases table type := by
  unfold Decision.Exact
  by_cases hcommand : IsCommand type
  · rw [if_pos hcommand]
    by_cases hmasked : maskedIndex type = typeIndex type
    · have hnot : ¬Aliases table type := fun h => h.2.1 hmasked
      refine iff_of_true ?_ hnot
      split
      case h_1 handler htable => exact (dispatch_call_iff hcount).mpr ⟨hcommand, hmasked, htable⟩
      case h_2 htable =>
        refine dispatch_answer fun index handler hcall => ?_
        obtain ⟨_, rfl, hhandler⟩ := (dispatch_call_iff hcount).mp hcall
        rw [hmasked, htable] at hhandler
        cases hhandler
    · -- an index that the mask changes is behind the table
      have hnone : table (typeIndex type) = none := by
        by_contra hsome
        have hlt := hcount _ (Option.isSome_iff_ne_none.mpr hsome)
        exact hmasked (maskedIndex_eq_typeIndex (hlt.trans_le hle))
      rw [hnone]
      constructor
      · rintro ⟨error, hanswer⟩ ⟨_, _, hsome⟩
        obtain ⟨handler, htable⟩ := Option.isSome_iff_exists.mp hsome
        have hcall := (dispatch_call_iff hcount).mpr ⟨hcommand, rfl, htable⟩
        rw [hanswer] at hcall
        cases hcall
      · intro hnot
        refine dispatch_answer fun index handler hcall => ?_
        obtain ⟨_, rfl, htable⟩ := (dispatch_call_iff hcount).mp hcall
        exact hnot ⟨hcommand, hmasked, by rw [htable]; rfl⟩
  · rw [if_neg hcommand]
    refine iff_of_true (dispatch_answer fun index handler hcall => ?_) fun h => hcommand h.1
    exact hcommand ((dispatch_call_iff hcount).mp hcall).1

theorem aliases_of_sameCommand (hcount : ∀ i, (table i).isSome → i < count)
    (hne : type ≠ type') (h : SameCommand count table type type') :
    Aliases table type ∨ Aliases table type' := by
  obtain ⟨index, handler, hcall, hcall'⟩ := h
  obtain ⟨hcommand, hmasked, htable⟩ := (dispatch_call_iff hcount).mp hcall
  obtain ⟨hcommand', hmasked', _⟩ := (dispatch_call_iff hcount).mp hcall'
  have hsome : (table index).isSome := by
    rw [htable]
    rfl
  by_contra hnot
  rw [not_or] at hnot
  have hown : maskedIndex type = typeIndex type := by
    by_contra hother
    exact hnot.1 ⟨hcommand, hother, hmasked ▸ hsome⟩
  have hown' : maskedIndex type' = typeIndex type' := by
    by_contra hother
    exact hnot.2 ⟨hcommand', hother, hmasked' ▸ hsome⟩
  exact hne (type_eq_of_index hcommand hcommand'
    (hown.symm.trans (hmasked.trans (hmasked'.symm.trans hown'))))

end Dispatch

-- ---------------------------------------------------------------------------
-- The decoders
-- ---------------------------------------------------------------------------

def Decision.decoded (env : Env) (buffer : Memory UInt8) (size : Int) :
    Decision Handler → Outcome × Memory UInt8
  | .call index handler =>
    (.called (handler.call env index buffer (size - 4)).1,
      (handler.call env index buffer (size - 4)).2)
  | .answer error => (.answered error.frame, buffer)

def Decision.decodedUSB (stack : Vector UInt8 64) (buffer : Memory UInt8) (payload : Nat)
    (dev : Usb.Device) : Decision Usb.Handler → Usb.Device
  | .call _ handler => handler.run stack buffer payload dev
  | .answer error => dev.sendData (Usb.errorFrame error.code.toNat)

def tcpDecision (sdk : Sdk) (type : UInt32) : Decision Handler :=
  dispatch cmdCount (fun index => (cmdTable sdk).lookup index) type

def usbDecision (type : UInt32) : Decision Usb.Handler := dispatch Usb.cmdCount Usb.cmdTable type

variable {sdk : Sdk} {env : Env} {buffer : Memory UInt8} {size : Int} {stack : Vector UInt8 64}
  {payload : Nat} {dev : Usb.Device}

theorem decode_eq_decided :
    decode sdk env buffer size = (tcpDecision sdk (word buffer 0)).decoded env buffer size := by
  simp only [decode, tcpDecision, dispatch]
  by_cases hcommand : IsCommand (word buffer 0)
  · rw [if_pos hcommand, if_pos hcommand]
    by_cases hlt : maskedIndex (word buffer 0) < cmdCount
    · rw [if_pos hlt, if_pos hlt]
      cases (cmdTable sdk).lookup (maskedIndex (word buffer 0)) <;> rfl
    · rw [if_neg hlt, if_neg hlt]
      rfl
  · rw [if_neg hcommand, if_neg hcommand]
    rfl

theorem decodeUSB_eq_decided :
    Usb.decode stack buffer payload dev =
      (usbDecision (word buffer payload)).decodedUSB stack buffer payload dev := by
  simp only [Usb.decode, Usb.commandIndex, usbDecision, dispatch]
  by_cases hcommand : IsCommand (word buffer payload)
  · rw [if_pos hcommand, if_pos hcommand]
    dsimp only
    by_cases hlt : maskedIndex (word buffer payload) < Usb.cmdCount
    · rw [if_pos hlt, if_pos hlt]
      cases Usb.cmdTable (maskedIndex (word buffer payload)) <;> rfl
    · rw [if_neg hlt, if_neg hlt]
      rfl
  · rw [if_neg hcommand, if_neg hcommand]
    rfl

theorem tcp_isSome_lt (i : Nat) (h : ((cmdTable sdk).lookup i).isSome) : i < cmdCount := by
  obtain ⟨handler, hhandler⟩ := Option.isSome_iff_exists.mp h
  exact lt_cmdCount hhandler

theorem usb_isSome_lt (i : Nat) (h : (Usb.cmdTable i).isSome) : i < Usb.cmdCount := by
  unfold Usb.cmdTable at h
  rw [Usb.cmdCount]
  split at h <;> first | omega | cases h

/-- Both decoders decide on the type word alone. The decision is exact unless the mask takes
the word for a command it is not, and without that no two words are the same command. -/
theorem decisions_exact_iff (sdk : Sdk) (type : UInt32) :
    (∀ env buffer size, word buffer 0 = type →
      decode sdk env buffer size = (tcpDecision sdk type).decoded env buffer size) ∧
    (∀ stack buffer payload dev, word buffer payload = type →
      Usb.decode stack buffer payload dev =
        (usbDecision type).decodedUSB stack buffer payload dev) ∧
    ((tcpDecision sdk type).Exact (fun i => (cmdTable sdk).lookup i) type ↔
      ¬Aliases (fun i => (cmdTable sdk).lookup i) type) ∧
    ((usbDecision type).Exact Usb.cmdTable type ↔ ¬Aliases Usb.cmdTable type) ∧
    (∀ type', type ≠ type' →
      SameCommand cmdCount (fun i => (cmdTable sdk).lookup i) type type' →
        Aliases (fun i => (cmdTable sdk).lookup i) type ∨
          Aliases (fun i => (cmdTable sdk).lookup i) type') ∧
    (∀ type', type ≠ type' → SameCommand Usb.cmdCount Usb.cmdTable type type' →
      Aliases Usb.cmdTable type ∨ Aliases Usb.cmdTable type') := by
  refine ⟨?_, ?_, exact_iff tcp_isSome_lt (by decide), exact_iff usb_isSome_lt (by decide),
    fun _ => aliases_of_sameCommand tcp_isSome_lt, fun _ => aliases_of_sameCommand usb_isSome_lt⟩
  · rintro env buffer size rfl
    exact decode_eq_decided
  · rintro stack buffer payload dev rfl
    exact decodeUSB_eq_decided

/-- A type word with bit 28 set is taken for the heartbeat, and for the MAC address over USB. -/
theorem reserved_bits_ignored :
    (∀ sdk, ¬∀ type, (tcpDecision sdk type).Exact (fun i => (cmdTable sdk).lookup i) type) ∧
      ¬∀ type, (usbDecision type).Exact Usb.cmdTable type := by
  constructor
  · intro sdk h
    have hcall : tcpDecision sdk 0x9000000A = .call 10 getHeartBeat := rfl
    have hnone : (cmdTable sdk).lookup (typeIndex 0x9000000A) = none := rfl
    have hexact := h 0x9000000A
    rw [hcall, Decision.Exact, hnone, ite_self] at hexact
    obtain ⟨error, hanswer⟩ := hexact
    cases hanswer
  · intro h
    have hcall : usbDecision 0x90000014 = .call 20 .setMACAddress := rfl
    have hnone : Usb.cmdTable (typeIndex 0x90000014) = none := rfl
    have hexact := h 0x90000014
    rw [hcall, Decision.Exact, hnone, ite_self] at hexact
    obtain ⟨error, hanswer⟩ := hexact
    cases hanswer

end SystemMaster.Tcp
