import SystemMaster.Eeprom.Storage
import SystemMaster.Library.Runs
import SystemMaster.Usb.FrameCreate

/-!
# Network configuration over USB

The worker decodes whatever a call of the receiver leaves in its buffer, an
error as well as a frame, and the handlers read their words from the buffer
without asking how many bytes were received. The configuration therefore
changes on other input than a `SET_MAC` or `SET_IP` frame when the words in the
buffer happen to add up to zero.
-/

namespace SystemMaster.Usb

open LittleEndian Runs

structure Device where
  eeprom : Eeprom.State
  sent : List (List UInt8)
  running : Bool

/-- `USBBIN_CMD_types_te`, where a response is numbered one above its command. -/
def cmdFirmwareUpgrade : Nat := 16
def cmdGetFirmwareVersion : Nat := 14
def cmdSetMACAddress : Nat := 20
def cmdGetMACAddress : Nat := 22
def cmdSetIfConfig : Nat := 24
def cmdGetIfConfig : Nat := 26

def Device.sendData (dev : Device) (data : List UInt8) : Device :=
  { dev with sent := dev.sent ++ [data] }

def Device.respond (dev : Device) (kind : Nat) (data : List UInt8) : Device :=
  let (buffer, n) := frameCreate (fun _ => 0) (UInt32.ofNat kind)
    (Memory.write (fun _ => 0) 0 data) data.length
  dev.sendData (buffer.read 0 n)

-- ---------------------------------------------------------------------------
-- Handlers
-- ---------------------------------------------------------------------------

def macPayload (buffer : Memory UInt8) (payload : Nat) : Eeprom.MacConfigData :=
  Eeprom.MacConfigData.codec.load buffer (payload + 4)

def ipPayload (buffer : Memory UInt8) (payload : Nat) : Eeprom.IpConfigData :=
  Eeprom.IpConfigData.codec.load buffer (payload + 4)

def setMACAddress (buffer : Memory UInt8) (payload : Nat) (dev : Device) : Device :=
  if checksum buffer payload 4 = 0 then
    let dev := { dev with eeprom := Eeprom.eepMACConfgSet dev.eeprom (macPayload buffer payload) }
    dev.respond (cmdSetMACAddress + 1) []
  else dev

def getMACAddress (buffer : Memory UInt8) (payload : Nat) (dev : Device) : Device :=
  if checksum buffer payload 2 = 0 then
    dev.respond (cmdGetMACAddress + 1) (Eeprom.MacConfigData.codec.encode (dev.eeprom.ram .mac))
  else dev

/-- `2 + sizeof(tUSBBinaryCMD_ipconfig_payload)/4` words are summed. -/
def setIfConfig (buffer : Memory UInt8) (payload : Nat) (dev : Device) : Device :=
  if checksum buffer payload (2 + 80 / 4) = 0 then
    let dev := { dev with eeprom := Eeprom.eepIpConfgSet dev.eeprom (ipPayload buffer payload) }
    dev.respond (cmdSetIfConfig + 1) []
  else dev

/-- `strcpy` of a domain name shorter than its field: the bytes after the zero
stay what they were on the stack. -/
def copyDomain (domain stack : List UInt8) : List UInt8 :=
  let text := domain.takeWhile (· ≠ 0)
  if text.length < 64 then text ++ 0 :: stack.drop (text.length + 1) else domain

def getIfConfig (stack : Vector UInt8 64) (buffer : Memory UInt8) (payload : Nat)
    (dev : Device) : Device :=
  if checksum buffer payload 2 = 0 then
    let config : Eeprom.IpConfigData := dev.eeprom.ram .ip
    dev.respond (cmdGetIfConfig + 1)
      (wordBytes config.isIPAuto ++ wordBytes config.ipAddr ++ wordBytes config.ipMask ++
        wordBytes config.ipGateAddr ++ copyDomain config.domain.toList stack.toList)
  else dev

def firmwareVersion : List UInt8 := [0, 0, 0, 1]

def getFirmwareVersion (buffer : Memory UInt8) (payload : Nat) (dev : Device) : Device :=
  if checksum buffer payload 2 = 0 then dev.respond (cmdGetFirmwareVersion + 1) firmwareVersion
  else dev

/-- The answer goes out and the program ends in the boot loader. -/
def enterProgrammingMode (buffer : Memory UInt8) (payload : Nat) (dev : Device) : Device :=
  if checksum buffer payload 2 = 0 then
    { dev.respond (cmdFirmwareUpgrade + 1) [] with running := false }
  else dev

-- ---------------------------------------------------------------------------
-- Dispatch
-- ---------------------------------------------------------------------------

inductive Handler where
  | doNothing
  | getFirmwareVersion
  | enterProgrammingMode
  | setMACAddress
  | getMACAddress
  | setIfConfig
  | getIfConfig
  deriving DecidableEq, Repr

def cmdTable : Nat → Option Handler
  | 0 => some .doNothing
  | 2 => some .doNothing
  | 14 => some .getFirmwareVersion
  | 16 => some .enterProgrammingMode
  | 20 => some .setMACAddress
  | 22 => some .getMACAddress
  | 24 => some .setIfConfig
  | 26 => some .getIfConfig
  | _ => none

def cmdCount : Nat := 27

def Handler.run (stack : Vector UInt8 64) (buffer : Memory UInt8) (payload : Nat) (dev : Device) :
    Handler → Device
  | .doNothing => dev
  | .getFirmwareVersion => Usb.getFirmwareVersion buffer payload dev
  | .enterProgrammingMode => Usb.enterProgrammingMode buffer payload dev
  | .setMACAddress => Usb.setMACAddress buffer payload dev
  | .getMACAddress => Usb.getMACAddress buffer payload dev
  | .setIfConfig => Usb.setIfConfig buffer payload dev
  | .getIfConfig => Usb.getIfConfig stack buffer payload dev

/-- `USBBIN_CMD_retFrame_t` of type `TCP_CMD_error`, and the error type. -/
def errorFrame (errorType : Nat) : List UInt8 :=
  wordBytes (1 ||| 0x80000000) ++ wordBytes 6 ++ toBytes 2 0 ++ toBytes 2 0 ++
    toBytes 4 errorType

def errorCommandNotImplemented : Nat := 1
def errorCommandTypeOutOfRange : Nat := 2
def errorCommandFrameNotRecognized : Nat := 3

/-- The index the dispatcher looks up, when the command bit is set. -/
def commandIndex (buffer : Memory UInt8) (payload : Nat) : Option Nat :=
  let type := word buffer payload
  if type &&& 0x80000000 ≠ 0 then some (type &&& 0x0FFFFFFF).toNat else none

/-- `vUSBBIN_decode`. The size it is given goes to the handlers, which do not
read it. -/
def decode (stack : Vector UInt8 64) (buffer : Memory UInt8) (payload : Nat) (dev : Device) :
    Device :=
  match commandIndex buffer payload with
  | none => dev.sendData (errorFrame errorCommandFrameNotRecognized)
  | some type =>
    if type < cmdCount then
      match cmdTable type with
      | some handler => handler.run stack buffer payload dev
      | none => dev.sendData (errorFrame errorCommandNotImplemented)
    else dev.sendData (errorFrame errorCommandTypeOutOfRange)

structure Station where
  device : Device
  buffer : Memory UInt8

/-- The rest of a turn of the worker's loop, after a call has returned. -/
def Station.received (stack : Vector UInt8 64) (st : Station) (ret : Returned) : Station where
  device :=
    if st.device.running ∧ ret.retValue ≠ 0 then decode stack ret.pStr 4 st.device else st.device
  buffer := ret.pStr

-- ---------------------------------------------------------------------------
-- Changes and the frames that make them
-- ---------------------------------------------------------------------------

def Stretch.memory (t : Stretch) : Memory UInt8 := Memory.write (fun _ => 0) 0 t.stored

/-- One complete frame of a command, of `size` bytes from its preamble to its
terminator, whose own words add up to zero. -/
structure Stretch.IsFrame (t : Stretch) (cmd size : Nat) : Prop where
  preamble_starts : preamble <+: t.stored
  terminated : endOfFrame <:+ t.stored
  complete : t.complete = true
  length : t.stored.length = size
  command : commandIndex t.memory 4 = some cmd
  sum : checksum t.memory 4 ((size - 8) / 4) = 0

def setMACAddressSize : Nat := 24

def setIfConfigSize : Nat := 96

/-- The configuration stays, in RAM and in the EEPROM, unless a valid frame of
one of the two commands has just been received. -/
def ChangedByFrame (before after : Device) (t : Stretch) : Prop :=
  after.eeprom = before.eeprom ∨ t.IsFrame cmdSetMACAddress setMACAddressSize ∨
    t.IsFrame cmdSetIfConfig setIfConfigSize

/-- A stretch that is not an error-free frame of the size of a command does not
pass the sum of that command over the buffer it leaves, or brings what is held
already. -/
def Station.HarmlessFor (st : Station) (t : Stretch) (cmd size : Nat)
    (Held : Memory UInt8 → Prop) : Prop :=
  let buffer := st.buffer.write 0 t.stored
  commandIndex buffer 4 = some cmd → ¬(t.complete = true ∧ t.stored.length = size) →
    checksum buffer 4 ((size - 8) / 4) = 0 → Held buffer

def Station.Harmless (st : Station) (t : Stretch) : Prop :=
  st.device.running = true →
    st.HarmlessFor t cmdSetMACAddress setMACAddressSize
        (fun buffer => st.device.eeprom.Holds .mac (macPayload buffer 4)) ∧
      st.HarmlessFor t cmdSetIfConfig setIfConfigSize
        (fun buffer => st.device.eeprom.Holds .ip (ipPayload buffer 4).terminate)

variable {stack : Vector UInt8 64} {buffer : Memory UInt8} {dev : Device} {st : Station}
  {polls : List Poll} {t : Stretch} {ts : List Stretch} {ret : Returned} {rets : List Returned}
  {cmd size : Nat}

@[simp] theorem respond_eeprom (kind : Nat) (data : List UInt8) :
    (dev.respond kind data).eeprom = dev.eeprom := rfl

theorem cmdTable_setMACAddress {i : Nat} (h : cmdTable i = some .setMACAddress) :
    i = cmdSetMACAddress := by
  unfold cmdTable at h
  split at h <;> simp_all [cmdSetMACAddress]

theorem cmdTable_setIfConfig {i : Nat} (h : cmdTable i = some .setIfConfig) :
    i = cmdSetIfConfig := by
  unfold cmdTable at h
  split at h <;> simp_all [cmdSetIfConfig]

theorem setMACAddress_eeprom : (setMACAddress buffer 4 dev).eeprom =
    if checksum buffer 4 4 = 0 then Eeprom.eepMACConfgSet dev.eeprom (macPayload buffer 4)
    else dev.eeprom := by
  rw [setMACAddress]
  split <;> rfl

theorem setIfConfig_eeprom : (setIfConfig buffer 4 dev).eeprom =
    if checksum buffer 4 22 = 0 then Eeprom.eepIpConfgSet dev.eeprom (ipPayload buffer 4)
    else dev.eeprom := by
  rw [setIfConfig]
  split <;> rfl

theorem Handler.run_eeprom {handler : Handler} (hmac : handler ≠ .setMACAddress)
    (hip : handler ≠ .setIfConfig) : (handler.run stack buffer 4 dev).eeprom = dev.eeprom := by
  cases handler with
  | doNothing => rfl
  | setMACAddress => exact absurd rfl hmac
  | setIfConfig => exact absurd rfl hip
  | getFirmwareVersion | enterProgrammingMode | getMACAddress | getIfConfig =>
    simp only [Handler.run, Usb.getFirmwareVersion, Usb.enterProgrammingMode, Usb.getMACAddress,
      Usb.getIfConfig]
    split <;> rfl

theorem decode_eeprom : (decode stack buffer 4 dev).eeprom =
    if commandIndex buffer 4 = some cmdSetMACAddress ∧ checksum buffer 4 4 = 0 then
      Eeprom.eepMACConfgSet dev.eeprom (macPayload buffer 4)
    else if commandIndex buffer 4 = some cmdSetIfConfig ∧ checksum buffer 4 22 = 0 then
      Eeprom.eepIpConfgSet dev.eeprom (ipPayload buffer 4)
    else dev.eeprom := by
  unfold decode
  cases hidx : commandIndex buffer 4 with
  | none => simp [Device.sendData]
  | some type =>
    by_cases hmac : type = cmdSetMACAddress
    · subst hmac
      simp [cmdSetMACAddress, cmdSetIfConfig, cmdCount, cmdTable, Handler.run,
        setMACAddress_eeprom]
    by_cases hip : type = cmdSetIfConfig
    · subst hip
      simp [cmdSetMACAddress, cmdSetIfConfig, cmdCount, cmdTable, Handler.run, setIfConfig_eeprom]
    simp only [Option.some.injEq, hmac, hip, false_and, if_false]
    split
    · cases htable : cmdTable type with
      | none => rfl
      | some handler =>
        refine Handler.run_eeprom ?_ ?_
        · rintro rfl
          exact hmac (cmdTable_setMACAddress htable)
        · rintro rfl
          exact hip (cmdTable_setIfConfig htable)
    · rfl

theorem Stretch.Returns.retValue_ne_zero (h : t.Returns buffer polls ret) : ret.retValue ≠ 0 := by
  have hlen := h.preamble_starts.length_le
  rw [show preamble.length = 4 from rfl] at hlen
  rw [h.retValue]
  split
  · omega
  · exact Nat.ne_of_gt (Nat.lt_of_lt_of_le Nat.one_pos Nat.right_le_or)

theorem Stretch.memory_read (hsize : 4 + 4 * k ≤ t.stored.length) :
    words t.memory 4 k = words (buffer.write 0 t.stored) 4 k :=
  words_congr (Memory.read_write_within (Nat.zero_le _) (by omega))

theorem Stretch.memory_commandIndex (hsize : 8 ≤ t.stored.length) :
    commandIndex t.memory 4 = commandIndex (buffer.write 0 t.stored) 4 := by
  have h : t.memory.read 4 4 = (buffer.write 0 t.stored).read 4 4 :=
    Memory.read_write_within (Nat.zero_le _) (by omega)
  rw [commandIndex, commandIndex, word, word, h]

theorem Stretch.memory_checksum (hsize : 4 + 4 * k ≤ t.stored.length) :
    checksum t.memory 4 k = checksum (buffer.write 0 t.stored) 4 k := by
  rw [checksum_eq, checksum_eq, Stretch.memory_read hsize]

theorem Stretch.Returns.isFrame (h : t.Returns buffer polls ret) (hc : t.complete = true)
    (hlen : t.stored.length = size) (hsize : 8 ≤ size)
    (hcmd : commandIndex (buffer.write 0 t.stored) 4 = some cmd)
    (hsum : checksum (buffer.write 0 t.stored) 4 ((size - 8) / 4) = 0) : t.IsFrame cmd size where
  preamble_starts := h.preamble_starts
  terminated := h.terminated hc
  complete := hc
  length := hlen
  command := by rw [Stretch.memory_commandIndex (by omega)]; exact hcmd
  sum := by rw [Stretch.memory_checksum (by omega)]; exact hsum

theorem Stretch.IsFrame.command_buffer (h : t.IsFrame cmd size) (hsize : 8 ≤ size)
    (buffer : Memory UInt8) : commandIndex (buffer.write 0 t.stored) 4 = some cmd := by
  rw [← Stretch.memory_commandIndex (by rw [h.length]; exact hsize)]
  exact h.command

theorem Station.received_eeprom (h : t.Returns st.buffer polls ret)
    (hrun : st.device.running = true) : (st.received stack ret).device.eeprom =
    (decode stack (st.buffer.write 0 t.stored) 4 st.device).eeprom := by
  rw [← h.pStr, Station.received, if_pos ⟨hrun, h.retValue_ne_zero⟩]

theorem Station.received_of_not_running (hrun : st.device.running = false) :
    (st.received stack ret).device = st.device := by
  simp [Station.received, hrun]

theorem Station.received_iff (h : t.Returns st.buffer polls ret) :
    ChangedByFrame st.device (st.received stack ret).device t ↔ st.Harmless t := by
  cases hrun : st.device.running with
  | false =>
    rw [Station.received_of_not_running hrun]
    exact iff_of_true (.inl rfl) fun hr => absurd (hrun.symm.trans hr) (by simp)
  | true =>
    have hafter : (st.received stack ret).device.eeprom = _ := Station.received_eeprom h hrun
    rw [decode_eeprom] at hafter
    rw [ChangedByFrame, hafter]
    constructor
    · intro hchange _
      constructor
      · intro hcmd hshape hsum
        rw [if_pos ⟨hcmd, hsum⟩] at hchange
        rcases hchange with hsame | hframe | hframe
        · exact (Eeprom.State.save_eq_iff _).mp hsame
        · exact absurd ⟨hframe.complete, hframe.length⟩ hshape
        · have hother := hframe.command_buffer (by decide) st.buffer
          exact absurd (hcmd.symm.trans hother) (by decide)
      · intro hcmd hshape hsum
        have hne : commandIndex (st.buffer.write 0 t.stored) 4 ≠ some cmdSetMACAddress := by
          rw [hcmd]
          decide
        rw [if_neg fun hmac => hne hmac.1, if_pos ⟨hcmd, hsum⟩] at hchange
        rcases hchange with hsame | hframe | hframe
        · exact (Eeprom.State.save_eq_iff _).mp hsame
        · exact absurd (hframe.command_buffer (by decide) st.buffer) hne
        · exact absurd ⟨hframe.complete, hframe.length⟩ hshape
    · intro hharmless
      obtain ⟨hmac, hip⟩ := hharmless hrun
      split
      · next hset =>
        by_cases hshape : t.complete = true ∧ t.stored.length = setMACAddressSize
        · exact .inr (.inl (h.isFrame hshape.1 hshape.2 (by decide) hset.1 hset.2))
        · exact .inl ((Eeprom.State.save_eq_iff _).mpr (hmac hset.1 hshape hset.2))
      · split
        · next hset =>
          by_cases hshape : t.complete = true ∧ t.stored.length = setIfConfigSize
          · exact .inr (.inr (h.isFrame hshape.1 hshape.2 (by decide) hset.1 hset.2))
          · exact .inl ((Eeprom.State.save_eq_iff _).mpr (hip hset.1 hshape hset.2))
        · exact .inl rfl

abbrev Received := Returned × Stretch

/-- The returns of the worker's calls on a port that brings `polls`, with their stretches. -/
def receivedFrom (buffer : Memory UInt8) (polls : List Poll) : List Received :=
  (workerFxn polls.length buffer polls).zip
    (stretches bufferSize polls.length (bytes polls))

def Station.step (stack : Vector UInt8 64) (st : Station) (received : Received) : Station :=
  st.received stack received.1

theorem Worked.along_iff (h : Worked st.buffer polls ts rets) :
    Along (Station.step stack)
        (fun st r => ChangedByFrame st.device (st.step stack r).device r.2) st (rets.zip ts) ↔
      Along (Station.step stack) (fun st r => st.Harmless r.2) st (rets.zip ts) := by
  generalize hbuffer : st.buffer = buffer at h
  induction h generalizing st with
  | nil => exact Iff.rfl
  | @cons buffer polls t ts ret rets hreturns _ ih =>
    subst hbuffer
    exact and_congr (Station.received_iff hreturns) (ih rfl)

/-- In every run of the worker each change of the configuration comes of a
valid frame exactly when each stretch is harmless where it is received. -/
theorem configuration_changed_by_frames_iff (stack : Vector UInt8 64) (st : Station)
    (polls : List Poll) (htime : idles polls < waitForever) :
    Along (Station.step stack)
        (fun st r => ChangedByFrame st.device (st.step stack r).device r.2) st
        (receivedFrom st.buffer polls) ↔
      Along (Station.step stack) (fun st r => st.Harmless r.2) st
        (receivedFrom st.buffer polls) :=
  (workerFxn_worked htime).along_iff

def newStation : Station where
  device := { eeprom := Eeprom.powerUp fun _ => 0xFF, sent := [], running := true }
  buffer := fun _ => 0

def setMacWords : List UInt8 :=
  [0x14, 0, 0, 0x80, 1, 0, 0, 0, 2, 0, 0, 0, 0xE9, 0xFF, 0xFF, 0x7F]

theorem setMac_changes_by_frame :
    Along (Station.step (Vector.replicate 64 0))
      (fun st r => ChangedByFrame st.device (st.step (Vector.replicate 64 0) r).device r.2)
      newStation
      (receivedFrom newStation.buffer ((preamble ++ setMacWords ++ endOfFrame).map some)) := by
  refine (configuration_changed_by_frames_iff _ newStation _ (by decide)).mpr ?_
  have hstretches : (receivedFrom newStation.buffer
      ((preamble ++ setMacWords ++ endOfFrame).map some)).map Prod.snd =
        [⟨0, preamble ++ setMacWords ++ endOfFrame, true⟩] := by decide +kernel
  obtain ⟨r, hr, ht⟩ := List.map_eq_singleton_iff.mp hstretches
  rw [hr]
  refine ⟨fun _ => ?_, trivial⟩
  rw [ht]
  exact ⟨fun _ hshape _ => absurd ⟨rfl, rfl⟩ hshape,
    fun hcmd => absurd hcmd (by decide +kernel)⟩

def oversizedSetMac : List Poll :=
  (preamble ++ setMacWords ++ [0x78, 0x78, 0x78, 0x78] ++ endOfFrame).map some

theorem oversizedSetMac_received : receivedFrom newStation.buffer oversizedSetMac ≠ [] :=
  List.ne_nil_of_length_pos (by decide +kernel)

theorem oversizedSetMac_changes :
    ¬Along (Station.step (Vector.replicate 64 0))
      (fun st r => ChangedByFrame st.device (st.step (Vector.replicate 64 0) r).device r.2)
      newStation (receivedFrom newStation.buffer oversizedSetMac) := by
  rw [← List.cons_head_tail oversizedSetMac_received]
  rintro ⟨hchange, _⟩
  rcases hchange with hsame | hframe | hframe
  · have hmac := congrArg (fun s : Eeprom.State => (s.ram .mac).macReg0) hsame
    revert hmac
    decide +kernel
  · have hlen := hframe.length
    revert hlen
    decide +kernel
  · have hlen := hframe.length
    revert hlen
    decide +kernel

end SystemMaster.Usb
