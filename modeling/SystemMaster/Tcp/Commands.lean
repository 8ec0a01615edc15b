import SystemMaster.Tcp.Handlers

/-!
# Decoding the command stream

A worker receives into one packet buffer, over and over, and has whatever it got
decoded as one command. The buffer keeps what earlier packets and handlers left
in it.
-/

namespace SystemMaster.Tcp

open Access LittleEndian

def cmdTable (sdk : Sdk) : List (Nat × Handler) := [
  (10, getHeartBeat),
  (2, rawCharacteristicData),
  (100, altoAmpInputSelectGet),
  (102, altoAmpInputSelectSet),
  (104, altoAmpVolumeGet),
  (106, altoAmpVolumeSet),
  (108, altoAmpBassGet),
  (110, altoAmpBassSet),
  (112, altoAmpTrebleGet),
  (114, altoAmpTrebleSet),
  (116, altoAmpMuteGet),
  (118, altoAmpMuteSet),
  (120, altoAmpCompressorGet),
  (122, altoAmpCompressorSet),
  (124, altoAmpLoudnessGet),
  (126, altoAmpLoudnessSet),
  (128, altoAmpHPInputSelectGet),
  (130, altoAmpHPInputSelectSet),
  (132, altoAmpHPVolumeGet),
  (134, altoAmpHPVolumeSet),
  (136, altoAmpHPMuteGet),
  (138, altoAmpHPMuteSet),
  -- The extended commands, from `DirectCommand1` to `setDSPRegisterRW`.
  (500, altoAmpDirectCommand1),
  (502, altoAmpDirectCommand1),
  (504, altoAmpDirectCommand1),
  (506, altoAmpDirectCommand1),
  (508, altoAmpDirectCommand1),
  (510, altoAmpDirectCommand1),
  (512, altoAmpDirectCommand1),
  (514, altoAmpDirectCommand1),
  (516, altoAmpDirectCommand1),
  (518, altoAmpDirectCommand1),
  (520, altoAmpDirectCommand1),
  (522, altoAmpDirectCommand1),
  (524, altoAmpDirectCommand1),
  (526, altoAmpDirectCommand1),
  (528, altoAmpDirectCommand1),
  (530, altoAmpDirectCommand1),
  (150, altoMultinetRelayGet),
  (160, altoMultinetSetSwitchOnOff),
  (162, altoMultinetTriggerLocalRemote),
  (164, altoMultinetGetGate),
  (166, altoMultinetSetGate),
  (200, getOverAllStatus),
  (202, getCompiledTime),
  (204, getRAMDeviceList),
  (206, getFlashDeviceList),
  (208, getFlashDataForFileName sdk),
  (210, setFlashDataForFileName sdk),
  (212, deleteFlashDataForFileName sdk),
  (214, getManufacturerInformationData),
  (216, setManufacturerInformationData),
  (218, getConfigurationFile),
  (222, reboot),
  (320, get5VOutputPowerStatus),
  (322, turnOn5VOutputPower),
  (324, turnOff5VOutputPower),
  (326, set5VOutputPower),
  (328, getDIOConfiguration),
  (330, setDIODirection),
  (332, setDIConfiguration sdk),
  (334, setDOConfiguration sdk),
  (336, setDOValue),
  (338, setDOToggle),
  (180, altoMultinetPotGet),
  (350, setVoltageValue),
  (400, resetCounters),
  (402, getCounters),
  (404, setGPIOAsInput),
  (406, setGPIOAsOutput),
  (408, setGPIOOutputValue),
  (410, getGPIOInputValue),
  (412, memoryTestEEPROM),
  (414, memoryTestInternalFlash),
  (416, memoryTestExternalFlash),
  (418, setIROutputValue),
  (420, getIRInputValue),
  (290, getInternalFlashStatus),
  (292, formatInternalFlashStatus),
  (294, getExternalFlashStatus),
  (296, formatExternalFlashStatus),
  (700, avdsGenericDirectCommand1),
  (702, avdsGenericDirectCommand2),
  (704, avdsSerialSteveChannelSet),
  (724, avdsSerialSteveVideoChannelSet),
  (706, avdsSerialSteveChannelGet),
  (726, avdsSerialSteveVideoChannelGet),
  (708, avdsSerialSteveVolumeSet),
  (710, avdsSerialSteveVolumeGet),
  (712, avdsSerialSteveMuteSet),
  (714, avdsSerialSteveMuteGet),
  (716, avdsSerialSteveBassSet),
  (718, avdsSerialSteveBassGet),
  (720, avdsSerialSteveTrebleSet),
  (722, avdsSerialSteveTrebleGet),
  (800, rosenGenericDirectCommand1),
  (802, rosenGenericDirectCommand2),
  (804, rosenPowerSetCommand),
  (806, rosenPowerGetCommand),
  (808, rosenSourceSetCommand),
  (810, rosenSourceGetCommand),
  (812, rosenDVDControlSetCommand),
  (814, rosenDVDPowerGetCommand),
  (816, rosenDVDLoadedGetCommand),
  (818, rosenDVDPlayingGetCommand),
  (820, rosenUDPSMSourceSetCommand),
  (822, rosenUDPSMSourceGetCommand)]

/-- `TCPBIN_CMD_COUNT`: one more than the last index of the table. -/
def cmdCount : Nat := 823

def cmdReboot : Nat := 222

inductive ErrorType where
  | commandNotImplemented
  | commandTypeOutOfRange
  | commandFrameNotRecognized
  deriving DecidableEq, Repr

def ErrorType.code : ErrorType → UInt32
  | .commandNotImplemented => 1
  | .commandTypeOutOfRange => 2
  | .commandFrameNotRecognized => 3

/-- `TCPBin_CMD_retFrame_t` with the payload of an error. -/
structure ErrorFrame where
  type : UInt32
  retDeviceID : UInt32
  retSvcUUID : UInt16
  retParamID : UInt16
  errorType : UInt32
  deriving DecidableEq, Repr

def ErrorType.frame (e : ErrorType) : ErrorFrame where
  type := 1 ||| 0x80000000
  retDeviceID := 2
  retSvcUUID := 0
  retParamID := 0
  errorType := e.code

/-- A handler's call: the payload and the size it is handed, and how far into the
payload it read. -/
structure Call where
  command : Nat
  payload : List UInt8
  size : Int
  reach : Nat
  deriving DecidableEq, Repr

inductive Outcome where
  | called (call : Call)
  | answered (frame : ErrorFrame)
  deriving DecidableEq, Repr

def Outcome.call? : Outcome → Option Call
  | .called c => some c
  | .answered _ => none

/-- The handler of a reboot resets the controller. All others return. -/
def Outcome.returns : Outcome → Bool
  | .called c => c.command ≠ cmdReboot
  | .answered _ => true

def Handler.call (h : Handler) (env : Env) (command : Nat) (buffer : Memory UInt8) (size : Int) :
    Call × Memory UInt8 :=
  let s := (h.body env size ⟨fun a => buffer (4 + a), 0⟩).2
  ({ command, payload := buffer.read 4 size.toNat, size, reach := s.reach },
    fun a => if a < 4 then buffer a else s.buffer (a - 4))

def decode (sdk : Sdk) (env : Env) (buffer : Memory UInt8) (size : Int) :
    Outcome × Memory UInt8 :=
  let type := word buffer 0
  if type &&& 0x80000000 ≠ 0 then
    let command := (type &&& 0x0FFFFFFF).toNat
    if command < cmdCount then
      match (cmdTable sdk).lookup command with
      | some h =>
        let (call, buffer') := h.call env command buffer (size - 4)
        (.called call, buffer')
      | none => (.answered ErrorType.commandNotImplemented.frame, buffer)
    else (.answered ErrorType.commandTypeOutOfRange.frame, buffer)
  else (.answered ErrorType.commandFrameNotRecognized.frame, buffer)

structure Recv where
  bytes : List UInt8
  env : Env

def workerLoop (sdk : Sdk) : Memory UInt8 → List Recv → List Outcome
  | _, [] => []
  | buffer, r :: rs =>
    let (outcome, buffer') := decode sdk r.env (buffer.write 0 r.bytes) r.bytes.length
    outcome :: if outcome.returns then workerLoop sdk buffer' rs else []

variable {sdk : Sdk} {env : Env} {buffer : Memory UInt8} {size : Int} {c : Call} {h : Handler}
  {i : Nat}

theorem lt_cmdCount (hi : (cmdTable sdk).lookup i = some h) : i < cmdCount := by
  have hkeys : ∀ k ∈ (cmdTable sdk).map Prod.fst, k < cmdCount := by
    simp only [cmdTable, List.map_cons, List.map_nil]
    decide
  obtain ⟨before, after, heq, -⟩ := List.lookup_eq_some_iff.mp hi
  refine hkeys i (List.mem_map.mpr ⟨(i, h), ?_, rfl⟩)
  rw [heq]
  exact List.mem_append_right _ List.mem_cons_self

theorem workerLoop_cons (r : Recv) (rs : List Recv) :
    workerLoop sdk buffer (r :: rs) =
      (decode sdk r.env (buffer.write 0 r.bytes) r.bytes.length).1 ::
        if (decode sdk r.env (buffer.write 0 r.bytes) r.bytes.length).1.returns then
          workerLoop sdk (decode sdk r.env (buffer.write 0 r.bytes) r.bytes.length).2 rs
        else [] := rfl

theorem decode_size (hc : (decode sdk env buffer size).1 = .called c) : c.size = size - 4 := by
  simp only [decode] at hc
  split at hc
  · split at hc
    · split at hc
      · rw [← Outcome.called.inj hc]
        rfl
      · cases hc
    · cases hc
  · cases hc

theorem decode_called (hmark : word buffer 0 &&& 0x80000000 ≠ 0)
    (hi : (word buffer 0 &&& 0x0FFFFFFF).toNat = i) (hh : (cmdTable sdk).lookup i = some h) :
    decode sdk env buffer size =
      (.called (h.call env i buffer (size - 4)).1, (h.call env i buffer (size - 4)).2) := by
  simp only [decode, if_pos hmark, hi, if_pos (lt_cmdCount hh), hh]

theorem Handler.call_within {payload : List UInt8}
    (hp : buffer.read 4 payload.length = payload) (hn : h.payloadSize payload ≤ payload.length) :
    (h.call env i buffer payload.length).1.reach ≤ payload.length := by
  have hread : Memory.read (fun a => buffer (4 + a)) 0 payload.length = payload := by
    conv_rhs => rw [← hp]
    exact List.map_congr_left fun j _ => by rw [Nat.zero_add]
  have hreach := h.within env payload.length ⟨fun a => buffer (4 + a), 0⟩ payload hread hn
  rwa [Below, Nat.zero_max] at hreach

end SystemMaster.Tcp
