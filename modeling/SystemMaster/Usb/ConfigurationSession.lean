import Mathlib.Data.List.TakeWhile
import SystemMaster.Dio.Exits
import SystemMaster.Eeprom.Integrity
import SystemMaster.Usb.NetworkConfiguration

/-!
# Configuring the network over USB

A host sends command frames, and the unit is switched off and on between them. What the
host sees is a table of settings: every answer says what was set last, whatever the
chunks in which the bytes come, the noise between the frames, what the worker's buffer
held and how often the unit was started.
-/

namespace SystemMaster.Usb

open LittleEndian Runs Search

inductive HostCommand where
  | getFirmwareVersion
  | enterProgrammingMode
  | setMACAddress (config : Eeprom.MacConfigData)
  | getMACAddress
  | setIfConfig (config : Eeprom.IpConfigData)
  | getIfConfig

def frameOf (kind : Nat) (data : List UInt8) : List UInt8 :=
  let (buffer, n) := frameCreate (fun _ => 0) (UInt32.ofNat kind)
    (Memory.write (fun _ => 0) 0 data) data.length
  buffer.read 0 n

namespace HostCommand

def kind : HostCommand → Nat
  | .getFirmwareVersion => cmdGetFirmwareVersion
  | .enterProgrammingMode => cmdFirmwareUpgrade
  | .setMACAddress _ => cmdSetMACAddress
  | .getMACAddress => cmdGetMACAddress
  | .setIfConfig _ => cmdSetIfConfig
  | .getIfConfig => cmdGetIfConfig

def payload : HostCommand → List UInt8
  | .setMACAddress config => Eeprom.MacConfigData.codec.encode config
  | .setIfConfig config => Eeprom.IpConfigData.codec.encode config
  | _ => []

def frame (c : HostCommand) : List UInt8 := frameOf c.kind c.payload

def body (c : HostCommand) : List UInt8 :=
  frameBody (UInt32.ofNat c.kind) (Memory.write (fun _ => 0) 0 c.payload) c.payload.length

/-- No terminator ends the frame before its own, and the receiver does not read past it. -/
structure Transparent (c : HostCommand) : Prop where
  ends : find endOfFrame (c.body ++ endOfFrame) = some c.body.length
  even : oddTriples c.body.reverse = false

end HostCommand

def HostCommand.save (saved : Eeprom.Saved) : HostCommand → Eeprom.Saved
  | .setMACAddress config => saved.step (.eepMACConfgSet config)
  | .setIfConfig config => saved.step (.eepIpConfgSet config)
  | _ => saved

def domainText (config : Eeprom.IpConfigData) : List UInt8 :=
  config.domain.toList.takeWhile (· ≠ 0)

/-- The report of a configuration, with what follows the end of its domain name. -/
def ifConfigReport (config : Eeprom.IpConfigData) (rest : List UInt8) : List UInt8 :=
  wordBytes config.isIPAuto ++ wordBytes config.ipAddr ++ wordBytes config.ipMask ++
    wordBytes config.ipGateAddr ++ (domainText config ++ 0 :: rest)

def HostCommand.Answers (saved : Eeprom.Saved) (reply : List UInt8) : HostCommand → Prop
  | .getFirmwareVersion => reply = frameOf (cmdGetFirmwareVersion + 1) firmwareVersion
  | .enterProgrammingMode => reply = frameOf (cmdFirmwareUpgrade + 1) []
  | .setMACAddress _ => reply = frameOf (cmdSetMACAddress + 1) []
  | .getMACAddress =>
    reply = frameOf (cmdGetMACAddress + 1) (Eeprom.MacConfigData.codec.encode (saved .mac))
  | .setIfConfig _ => reply = frameOf (cmdSetIfConfig + 1) []
  | .getIfConfig => ∃ rest, (domainText (saved .ip)).length + 1 + rest.length = 64 ∧
      reply = frameOf (cmdGetIfConfig + 1) (ifConfigReport (saved .ip) rest)

/-- The answers while the unit is on: none comes once it is in programming mode. -/
inductive Serves : Eeprom.Saved → List HostCommand → Eeprom.Saved → List (List UInt8) → Prop where
  | nil {saved} : Serves saved [] saved []
  | leaves {saved reply cs} (h : HostCommand.enterProgrammingMode.Answers saved reply) :
    Serves saved (.enterProgrammingMode :: cs) saved [reply]
  | cons {saved saved' reply replies c cs} (hc : c ≠ .enterProgrammingMode)
    (h : c.Answers saved reply) (hrest : Serves (c.save saved) cs saved' replies) :
    Serves saved (c :: cs) saved' (reply :: replies)

/-- The answers over all the times the unit is on. -/
inductive Session :
    Eeprom.Saved → List (List HostCommand) → Eeprom.Saved → List (List UInt8) → Prop where
  | nil {saved} : Session saved [] saved []
  | concat {saved saved' saved'' css cs replies replies'}
    (hsession : Session saved css saved' replies) (h : Serves saved' cs saved'' replies') :
    Session saved (css ++ [cs]) saved'' (replies ++ replies')

/-- A time the unit is on: how it starts, what is in the worker's buffer and on its
stack, what the host sends and how it comes. -/
structure Cycle where
  boot : Eeprom.Boot
  buffer : Memory UInt8
  stack : Vector UInt8 64
  sent : List (List UInt8 × HostCommand)
  polls : List Poll

def Cycle.commands (y : Cycle) : List HostCommand := y.sent.map Prod.snd

def streamOf (sent : List (List UInt8 × HostCommand)) : List UInt8 :=
  sent.flatMap fun x => x.1 ++ x.2.frame

structure Cycle.Proper (y : Cycle) : Prop where
  completes : y.boot.Completes
  transparent : ∀ x ∈ y.sent, x.2.Transparent
  noise : ∀ x ∈ y.sent, frameHeader1 ∉ x.1
  polls : bytes y.polls = streamOf y.sent
  time : idles y.polls < waitForever

def Device.cycle (gpioCfg : UInt32) (dev : Device) (y : Cycle) : Device :=
  let dev := { dev with eeprom := Eeprom.reboot gpioCfg y.boot dev.eeprom, running := true }
  (exec (Station.step y.stack) ⟨dev, y.buffer⟩ (receivedFrom y.buffer y.polls)).device

variable {c : HostCommand} {noise rest s : List UInt8} {sent : List (List UInt8 × HostCommand)}
  {buffer : Memory UInt8} {polls : List Poll} {calls : Nat} {saved : Eeprom.Saved} {dev : Device}
  {stack : Vector UInt8 64} {st : Station} {rets : List Returned} {y : Cycle} {gpioCfg : UInt32}

-- ---------------------------------------------------------------------------
-- Frames in a stream
-- ---------------------------------------------------------------------------

theorem frameOf_eq (kind : Nat) (data : List UInt8) : frameOf kind data =
    preamble ++ frameBody (UInt32.ofNat kind) (Memory.write (fun _ => 0) 0 data) data.length ++
      endOfFrame :=
  frameCreate_read _ _ _ _

theorem HostCommand.frame_eq (c : HostCommand) : c.frame = preamble ++ c.body ++ endOfFrame :=
  frameOf_eq _ _

theorem HostCommand.payload_length (c : HostCommand) : c.payload.length ≤ 80 := by
  cases c with
  | setMACAddress config => exact (Eeprom.MacConfigData.codec.encode_length config).trans_le (by decide)
  | setIfConfig config => exact (Eeprom.IpConfigData.codec.encode_length config).le
  | _ => exact Nat.zero_le _

theorem HostCommand.body_length (c : HostCommand) : c.body.length ≤ 88 := by
  have hpayload := c.payload_length
  rw [body, frameBody_length]
  omega

theorem find_preamble_noise (h : frameHeader1 ∉ noise) :
    find preamble (noise ++ (preamble ++ s)) = some noise.length := by
  induction noise with
  | nil => exact find_of_start (List.prefix_append _ _)
  | cons byte noise ih =>
    obtain ⟨hbyte, hnoise⟩ := List.ne_and_not_mem_of_not_mem_cons h
    rw [List.cons_append, find_cons_of_miss (not_preamble_starts hbyte.symm), ih hnoise]
    rfl

/-- A call of the receiver passes over the noise and takes the frame. -/
theorem scan_command (hc : c.Transparent) (hnoise : frameHeader1 ∉ noise) :
    scan bufferSize (noise ++ c.frame ++ rest) = some ⟨noise.length, c.frame, true⟩ := by
  have hstream : noise ++ c.frame ++ rest =
      noise ++ (preamble ++ (c.body ++ (endOfFrame ++ rest))) := by
    rw [c.frame_eq]
    simp only [List.append_assoc]
  have hfind : find preamble (noise ++ c.frame ++ rest) = some noise.length := by
    rw [hstream]
    exact find_preamble_noise hnoise
  have hdrop : (noise ++ c.frame ++ rest).drop (noise.length + 4) =
      c.body ++ (endOfFrame ++ rest) := by
    rw [hstream, ← List.append_assoc]
    exact List.drop_left' (by rw [List.length_append]; rfl)
  have hends : find endOfFrame ((c.body ++ (endOfFrame ++ rest)).take (bufferSize - 3 - 4)) =
      some c.body.length := by
    have hlength := c.body_length
    refine (find_take (by decide)).mpr ⟨(find_append_iff (by decide)).mpr hc.ends, ?_⟩
    change c.body.length + 4 ≤ 121
    omega
  have hframe : c.frame.length = 4 + (c.body.length + 4) := by
    rw [c.frame_eq, List.length_append, List.length_append]
    change 4 + c.body.length + 4 = _
    omega
  rw [scan_of_find hfind, hdrop, takes_of_find_some hends (by rw [List.take_left]; exact hc.even),
    List.append_assoc, List.drop_left, Option.map_some]
  dsimp only
  rw [← hframe, List.take_left]

theorem stretches_commands (hsent : ∀ x ∈ sent, x.2.Transparent)
    (hnoise : ∀ x ∈ sent, frameHeader1 ∉ x.1) (hcalls : sent.length ≤ calls) :
    stretches bufferSize calls (streamOf sent) =
      sent.map fun x => ⟨x.1.length, x.2.frame, true⟩ := by
  induction sent generalizing calls with
  | nil => exact stretches_nil
  | cons x sent ih =>
    obtain ⟨calls, rfl⟩ := Nat.exists_eq_add_of_le' (Nat.one_le_iff_ne_zero.mpr
      (Nat.ne_zero_of_lt (Nat.lt_of_lt_of_le (Nat.succ_pos _) hcalls)))
    have hscan : scan bufferSize (streamOf (x :: sent)) = some ⟨x.1.length, x.2.frame, true⟩ :=
      scan_command (hsent x List.mem_cons_self) (hnoise x List.mem_cons_self)
    have hdrop : (streamOf (x :: sent)).drop (Stretch.consumed ⟨x.1.length, x.2.frame, true⟩) =
        streamOf sent :=
      List.drop_left' (by rw [List.length_append]; rfl)
    rw [stretches, hscan]
    dsimp only
    rw [hdrop, ih (fun z hz => hsent z (List.mem_cons_of_mem _ hz))
      (fun z hz => hnoise z (List.mem_cons_of_mem _ hz)) (Nat.le_of_succ_le_succ hcalls)]
    rfl

-- ---------------------------------------------------------------------------
-- A command in the buffer
-- ---------------------------------------------------------------------------

/-- The settings are in the EEPROM, and the two copies the handlers read are up to date. -/
structure Configured (saved : Eeprom.Saved) (eeprom : Eeprom.State) : Prop where
  intact : Eeprom.Tracked.Intact ⟨eeprom, saved⟩
  wellFormed : Eeprom.Tracked.WellFormed ⟨eeprom, saved⟩
  mac : eeprom.ram .mac = saved .mac
  ip : eeprom.ram .ip = saved .ip

theorem write_frame (buffer : Memory UInt8) (c : HostCommand) : buffer.write 0 c.frame =
    (frameCreate buffer (UInt32.ofNat c.kind) (Memory.write (fun _ => 0) 0 c.payload)
      c.payload.length).1 := by
  rw [frameCreate_eq, c.frame_eq]
  rfl

theorem words_command (buffer : Memory UInt8) (c : HostCommand) :
    word (buffer.write 0 c.frame) 4 = UInt32.ofNat c.kind ||| 0x80000000 := by
  have hwords : words (buffer.write 0 c.frame) 4 ((c.payload.length + 3) / 4 + 2) = _ :=
    write_frame buffer c ▸ words_frameCreate
  rw [show (c.payload.length + 3) / 4 + 2 = 1 + ((c.payload.length + 3) / 4 + 1) by omega, words_add,
    words_one, List.singleton_append, List.cons_append] at hwords
  exact (List.cons.inj hwords).1

theorem commandIndex_command (buffer : Memory UInt8) (c : HostCommand) :
    commandIndex (buffer.write 0 c.frame) 4 = some c.kind := by
  rw [commandIndex, words_command]
  generalize hkind : c.kind = kind
  have hmem : kind ∈ [cmdGetFirmwareVersion, cmdFirmwareUpgrade, cmdSetMACAddress, cmdGetMACAddress,
      cmdSetIfConfig, cmdGetIfConfig] := by
    rw [← hkind]
    cases c <;> simp [HostCommand.kind]
  clear hkind
  revert kind
  decide

theorem checksum_command (buffer : Memory UInt8) (c : HostCommand) :
    checksum (buffer.write 0 c.frame) 4 ((c.payload.length + 3) / 4 + 2) = 0 :=
  write_frame buffer c ▸ checksum_frameCreate

theorem read_payload (buffer : Memory UInt8) (c : HostCommand) (h : 4 ∣ c.payload.length) :
    (buffer.write 0 c.frame).read 8 c.payload.length = c.payload := by
  obtain ⟨k, hk⟩ := h
  have hread : (Memory.write (fun _ => 0) 0 c.payload).read 0 (4 * ((c.payload.length + 3) / 4)) =
      c.payload := by
    rw [show 4 * ((c.payload.length + 3) / 4) = c.payload.length by omega, Memory.read_write]
  have hframe : c.frame = (preamble ++ wordBytes (UInt32.ofNat c.kind ||| 0x80000000)) ++ c.payload ++
      (wordBytes (-(words (Memory.write (fun _ => 0) 0 c.payload) 0
        ((c.payload.length + 3) / 4)).foldl (· + ·) (UInt32.ofNat c.kind ||| 0x80000000)) ++
          endOfFrame) := by
    rw [c.frame_eq, HostCommand.body, frameBody, hread]
    simp only [List.append_assoc]
  have hpart := Memory.read_part _ _ _ ((Memory.read_write buffer 0 c.frame).trans hframe)
  rw [List.length_append, wordBytes_length] at hpart
  exact hpart

theorem macPayload_frame (buffer : Memory UInt8) (config : Eeprom.MacConfigData) :
    macPayload (buffer.write 0 (HostCommand.setMACAddress config).frame) 4 = config := by
  have hlength : (HostCommand.setMACAddress config).payload.length = 8 :=
    Eeprom.MacConfigData.codec.encode_length config
  have hread := read_payload buffer (.setMACAddress config) (by rw [hlength]; decide)
  rw [hlength] at hread
  rw [macPayload, Codec.load]
  exact (congrArg _ hread).trans (Eeprom.MacConfigData.codec.decode_encode config)

theorem ipPayload_frame (buffer : Memory UInt8) (config : Eeprom.IpConfigData) :
    ipPayload (buffer.write 0 (HostCommand.setIfConfig config).frame) 4 = config := by
  have hlength : (HostCommand.setIfConfig config).payload.length = 80 :=
    Eeprom.IpConfigData.codec.encode_length config
  have hread := read_payload buffer (.setIfConfig config) (by rw [hlength]; decide)
  rw [hlength] at hread
  rw [ipPayload, Codec.load]
  exact (congrArg _ hread).trans (Eeprom.IpConfigData.codec.decode_encode config)

theorem domainText_length {config : Eeprom.IpConfigData} (h : config.terminate = config) :
    (domainText config).length < 64 := by
  have hlast : config.domain[63] = 0 := by
    rw [← h, Eeprom.IpConfigData.terminate]
    simp
  have hle := (List.takeWhile_prefix (fun b : UInt8 => decide (b ≠ 0)) (l := config.domain.toList)).length_le
  rw [Vector.length_toList] at hle
  refine Nat.lt_of_le_of_ne hle fun hall => ?_
  have hwhole : config.domain.toList.takeWhile (fun b => decide (b ≠ 0)) = config.domain.toList :=
    (List.takeWhile_prefix _).eq_of_length (by rw [Vector.length_toList]; exact hall)
  have hmem : config.domain[63] ∈ config.domain.toList.takeWhile (fun b => decide (b ≠ 0)) := by
    rw [hwhole]
    simp
  simpa [hlast] using List.mem_takeWhile_imp hmem

theorem respond_frame (kind : Nat) (data : List UInt8) :
    dev.respond kind data = dev.sendData (frameOf kind data) := rfl

def HostCommand.handler : HostCommand → Handler
  | .getFirmwareVersion => .getFirmwareVersion
  | .enterProgrammingMode => .enterProgrammingMode
  | .setMACAddress _ => .setMACAddress
  | .getMACAddress => .getMACAddress
  | .setIfConfig _ => .setIfConfig
  | .getIfConfig => .getIfConfig

theorem decode_handler (stack : Vector UInt8 64) (buffer : Memory UInt8) (c : HostCommand) :
    decode stack (buffer.write 0 c.frame) 4 dev =
      c.handler.run stack (buffer.write 0 c.frame) 4 dev := by
  have hlt : c.kind < cmdCount := by cases c <;> simp only [HostCommand.kind] <;> decide
  have htable : cmdTable c.kind = some c.handler := by cases c <;> rfl
  simp only [decode, commandIndex_command, if_pos hlt, htable]

structure Obeyed (saved : Eeprom.Saved) (dev : Device) (c : HostCommand) (dev' : Device) : Prop where
  configured : Configured (c.save saved) dev'.eeprom
  answered : ∃ reply, c.Answers saved reply ∧ dev'.sent = dev.sent ++ [reply]
  running : dev'.running = (dev.running && decide (c.kind ≠ cmdFirmwareUpgrade))

theorem Configured.setMac {eeprom : Eeprom.State} (h : Configured saved eeprom)
    (config : Eeprom.MacConfigData) :
    Configured (saved.step (.eepMACConfgSet config)) (Eeprom.eepMACConfgSet eeprom config) where
  intact := h.intact.save (b := .mac) config
  wellFormed :=
    have hstep : (Eeprom.Tracked.step 0 ⟨eeprom, saved⟩ (.eepMACConfgSet config)).WellFormed :=
      h.wellFormed.step
    hstep
  mac := (Eeprom.State.assign_ram_self (s := eeprom) (b := .mac) config).trans
    (Function.update_self Eeprom.Block.mac config saved).symm
  ip := (Eeprom.State.assign_ram_of_ne (b := .mac) config (by decide)).trans
    (h.ip.trans (Function.update_of_ne (show Eeprom.Block.ip ≠ .mac by decide) config saved).symm)

theorem Configured.setIp {eeprom : Eeprom.State} (h : Configured saved eeprom)
    (config : Eeprom.IpConfigData) :
    Configured (saved.step (.eepIpConfgSet config)) (Eeprom.eepIpConfgSet eeprom config) where
  intact := h.intact.save (b := .ip) config.terminate
  wellFormed :=
    have hstep : (Eeprom.Tracked.step 0 ⟨eeprom, saved⟩ (.eepIpConfgSet config)).WellFormed :=
      h.wellFormed.step
    hstep
  mac := (Eeprom.State.assign_ram_of_ne (b := .ip) config.terminate (by decide)).trans
    (h.mac.trans
      (Function.update_of_ne (show Eeprom.Block.mac ≠ .ip by decide) config.terminate saved).symm)
  ip := (Eeprom.State.assign_ram_self (s := eeprom) (b := .ip) config.terminate).trans
    (Function.update_self Eeprom.Block.ip config.terminate saved).symm

theorem copyDomain_text {config : Eeprom.IpConfigData} (h : config.terminate = config)
    (stack : Vector UInt8 64) :
    ∃ rest, (domainText config).length + 1 + rest.length = 64 ∧
      copyDomain config.domain.toList stack.toList = domainText config ++ 0 :: rest := by
  have hshort := domainText_length h
  refine ⟨stack.toList.drop ((domainText config).length + 1), ?_, if_pos hshort⟩
  rw [List.length_drop, Vector.length_toList]
  omega

theorem respond_sent (dev : Device) (kind : Nat) (data : List UInt8) :
    (dev.respond kind data).sent = dev.sent ++ [frameOf kind data] := rfl

theorem Obeyed.respond {kind : Nat} {data : List UInt8} (h : Configured (c.save saved) dev.eeprom)
    (hanswer : c.Answers saved (frameOf kind data)) (hkind : c.kind ≠ cmdFirmwareUpgrade) {dev' : Device}
    (hsent : dev'.sent = dev.sent) (hrunning : dev'.running = dev.running) :
    Obeyed saved dev' c (dev.respond kind data) where
  configured := h
  answered := ⟨_, hanswer, by rw [respond_sent, hsent]⟩
  running := by
    rw [decide_eq_true hkind, Bool.and_true, hrunning]
    rfl

theorem decode_command (stack : Vector UInt8 64) (buffer : Memory UInt8) (c : HostCommand)
    (h : Configured saved dev.eeprom) :
    Obeyed saved dev c (decode stack (buffer.write 0 c.frame) 4 dev) := by
  have hsum := checksum_command buffer c
  rw [decode_handler]
  cases c with
  | getFirmwareVersion =>
    have hsum' : checksum (buffer.write 0 HostCommand.getFirmwareVersion.frame) 4 2 = 0 := hsum
    rw [HostCommand.handler, Handler.run, getFirmwareVersion, if_pos hsum']
    refine Obeyed.respond ?_ ?_ ?_ rfl rfl
    · exact h
    · rfl
    · decide
  | enterProgrammingMode =>
    have hsum' : checksum (buffer.write 0 HostCommand.enterProgrammingMode.frame) 4 2 = 0 := hsum
    rw [HostCommand.handler, Handler.run, enterProgrammingMode, if_pos hsum']
    refine ⟨h, ⟨frameOf (cmdFirmwareUpgrade + 1) [], rfl, ?_⟩, (Bool.and_false _).symm⟩
    exact respond_sent dev (cmdFirmwareUpgrade + 1) []
  | setMACAddress config =>
    have hlength : (HostCommand.setMACAddress config).payload.length = 8 :=
      Eeprom.MacConfigData.codec.encode_length config
    rw [hlength] at hsum
    rw [HostCommand.handler, Handler.run, setMACAddress, if_pos hsum, macPayload_frame]
    refine Obeyed.respond ?_ ?_ ?_ rfl rfl
    · exact h.setMac config
    · rfl
    · simp [HostCommand.kind, cmdSetMACAddress, cmdFirmwareUpgrade]
  | getMACAddress =>
    have hsum' : checksum (buffer.write 0 HostCommand.getMACAddress.frame) 4 2 = 0 := hsum
    rw [HostCommand.handler, Handler.run, getMACAddress, if_pos hsum', h.mac]
    refine Obeyed.respond ?_ ?_ ?_ rfl rfl
    · exact h
    · rfl
    · decide
  | setIfConfig config =>
    have hlength : (HostCommand.setIfConfig config).payload.length = 80 :=
      Eeprom.IpConfigData.codec.encode_length config
    rw [hlength] at hsum
    rw [HostCommand.handler, Handler.run, setIfConfig, if_pos hsum, ipPayload_frame]
    refine Obeyed.respond ?_ ?_ ?_ rfl rfl
    · exact h.setIp config
    · rfl
    · simp [HostCommand.kind, cmdSetIfConfig, cmdFirmwareUpgrade]
  | getIfConfig =>
    obtain ⟨rest, hlength, hcopy⟩ := copyDomain_text h.wellFormed.terminated stack
    have hsum' : checksum (buffer.write 0 HostCommand.getIfConfig.frame) 4 2 = 0 := hsum
    rw [HostCommand.handler, Handler.run, getIfConfig, if_pos hsum', h.ip]
    dsimp only
    rw [hcopy]
    refine Obeyed.respond ?_ ?_ ?_ rfl rfl
    · exact h
    · exact ⟨rest, hlength, rfl⟩
    · decide

theorem step_stopped {t : Stretch} {ret : Returned} (h : st.device.running = false) :
    (st.step stack (ret, t)).device = st.device :=
  Station.received_of_not_running h

theorem exec_stopped {rs : List Received} (h : st.device.running = false) :
    (exec (Station.step stack) st rs).device = st.device := by
  induction rs generalizing st with
  | nil => rfl
  | cons r rs ih =>
    have hstep : (st.step stack r).device = st.device := step_stopped h
    rw [exec_cons, ih (hstep ▸ h), hstep]

theorem Worked.serves {ts : List Stretch} (h : Worked st.buffer polls ts rets)
    (hts : ts = sent.map fun x => ⟨x.1.length, x.2.frame, true⟩)
    (hconfigured : Configured saved st.device.eeprom) (hrunning : st.device.running = true) :
    ∃ saved' replies, Serves saved (sent.map Prod.snd) saved' replies ∧
      Configured saved' (exec (Station.step stack) st (rets.zip ts)).device.eeprom ∧
      (exec (Station.step stack) st (rets.zip ts)).device.sent = st.device.sent ++ replies := by
  generalize hbuffer : st.buffer = buffer at h
  induction h generalizing st sent saved with
  | nil =>
    obtain rfl : sent = [] := List.map_eq_nil_iff.mp hts.symm
    exact ⟨saved, [], .nil, hconfigured, (List.append_nil _).symm⟩
  | @cons buffer polls t ts ret rets hreturns _ ih =>
    subst hbuffer
    obtain ⟨x, sent, rfl, rfl, rfl⟩ := List.map_eq_cons_iff.mp hts.symm
    have hdevice : (st.step stack (ret, ⟨x.1.length, x.2.frame, true⟩)).device =
        decode stack (st.buffer.write 0 x.2.frame) 4 st.device := by
      rw [← hreturns.pStr]
      exact if_pos ⟨hrunning, hreturns.retValue_ne_zero⟩
    have hobeyed := decode_command stack st.buffer x.2 hconfigured
    rw [← hdevice] at hobeyed
    obtain ⟨reply, hreply, hsent⟩ := hobeyed.answered
    rw [List.zip_cons_cons, exec_cons, List.map_cons]
    by_cases hleaves : x.2 = .enterProgrammingMode
    · -- the program has ended: what else was sent is not answered
      have hstopped : (st.step stack (ret, ⟨x.1.length, x.2.frame, true⟩)).device.running = false := by
        rw [hobeyed.running, hleaves]
        exact Bool.and_false _
      rw [exec_stopped hstopped, hsent]
      refine ⟨saved, [reply], ?_, ?_, rfl⟩
      · rw [hleaves] at hreply ⊢
        exact .leaves hreply
      · have hafter := hobeyed.configured
        rw [hleaves] at hafter ⊢
        exact hafter
    · have hkind : x.2.kind ≠ cmdFirmwareUpgrade := by
        revert hleaves
        cases x.2 <;> simp [HostCommand.kind, cmdFirmwareUpgrade, cmdGetFirmwareVersion,
          cmdSetMACAddress, cmdGetMACAddress, cmdSetIfConfig, cmdGetIfConfig]
      have hgoes : (st.step stack (ret, ⟨x.1.length, x.2.frame, true⟩)).device.running = true := by
        rw [hobeyed.running, hrunning, decide_eq_true hkind]
        rfl
      obtain ⟨saved', replies, hserves, hafter, hlater⟩ := ih rfl hobeyed.configured hgoes rfl
      exact ⟨saved', reply :: replies, .cons hleaves hreply hserves, hafter,
        by rw [hlater, hsent, List.append_assoc]; rfl⟩

theorem Configured.reboot {eeprom : Eeprom.State} {boot : Eeprom.Boot}
    (h : Configured saved eeprom) (hboot : boot.Completes) :
    Configured saved (Eeprom.reboot gpioCfg boot eeprom) where
  intact := fun b => (Eeprom.State.readBack_congr (h.intact.reboot_eeprom h.wellFormed)).trans
    (h.intact b)
  wellFormed := ⟨h.wellFormed.marked, h.wellFormed.terminated⟩
  mac := h.intact.reboot_ram h.wellFormed hboot
  ip := h.intact.reboot_ram h.wellFormed hboot

theorem length_le_streamOf (sent : List (List UInt8 × HostCommand)) :
    sent.length ≤ (streamOf sent).length := by
  induction sent with
  | nil => rfl
  | cons x sent ih =>
    have hframe : 4 ≤ x.2.frame.length := by
      rw [x.2.frame_eq, List.append_assoc, List.length_append]
      exact Nat.le_add_right ..
    have hstream : (streamOf (x :: sent)).length =
        x.1.length + x.2.frame.length + (streamOf sent).length := by
      simp [streamOf, Nat.add_assoc]
    rw [hstream, List.length_cons]
    omega

theorem Cycle.serves (gpioCfg : UInt32) (hy : y.Proper) (h : Configured saved dev.eeprom) :
    ∃ saved' replies, Serves saved y.commands saved' replies ∧
      Configured saved' (dev.cycle gpioCfg y).eeprom ∧
      (dev.cycle gpioCfg y).sent = dev.sent ++ replies := by
  have hlength : y.sent.length ≤ y.polls.length := by
    refine (length_le_streamOf y.sent).trans ?_
    rw [← hy.polls]
    exact List.reduceOption_length_le y.polls
  have hts : stretches bufferSize y.polls.length (bytes y.polls) =
      y.sent.map fun x => ⟨x.1.length, x.2.frame, true⟩ :=
    hy.polls ▸ stretches_commands hy.transparent hy.noise hlength
  let started : Station :=
    ⟨{ dev with eeprom := Eeprom.reboot gpioCfg y.boot dev.eeprom, running := true }, y.buffer⟩
  have hworked : Worked started.buffer y.polls
      (stretches bufferSize y.polls.length (bytes y.polls))
      (workerFxn y.polls.length started.buffer y.polls) := workerFxn_worked hy.time
  exact hworked.serves hts (h.reboot hy.completes) rfl

theorem exec_session (gpioCfg : UInt32) (dev : Device) {first : Eeprom.Saved} {css : List (List HostCommand)} {cycles : List Cycle}
    (hsession : Session first css saved dev.sent) (h : Configured saved dev.eeprom)
    (hcycles : ∀ y ∈ cycles, y.Proper) :
    ∃ saved', Session first (css ++ cycles.map Cycle.commands) saved'
        (exec (Device.cycle gpioCfg) dev cycles).sent ∧
      Configured saved' (exec (Device.cycle gpioCfg) dev cycles).eeprom := by
  induction cycles generalizing saved css dev with
  | nil => exact ⟨saved, by simpa using hsession, h⟩
  | cons y cycles ih =>
    obtain ⟨saved', replies, hserves, hconfigured, hsent⟩ :=
      Cycle.serves gpioCfg (hcycles y List.mem_cons_self) h
    have hnext := hsession.concat hserves
    rw [← hsent] at hnext
    obtain ⟨saved'', hrest, hafter⟩ :=
      ih _ hnext hconfigured fun z hz => hcycles z (List.mem_cons_of_mem _ hz)
    refine ⟨saved'', ?_, hafter⟩
    rw [List.append_assoc] at hrest
    exact hrest

theorem firstStart_configured {boot : Eeprom.Boot} {eeprom : Memory UInt8} (hboot : boot.Completes)
    (hblank : (Eeprom.EepromData.codec.load eeprom 0).eepromCheck ≠ Eeprom.eepromCheckMarker) :
    Configured (Eeprom.defaults gpioCfg) (Eeprom.firstStart gpioCfg boot eeprom).state where
  intact := Eeprom.firstStart_intact hboot hblank
  wellFormed := Eeprom.firstStart_wellFormed
  mac := Eeprom.infoInit_ram_of_no_marker hboot hblank (by decide)
  ip := Dio.infoInit_ram_defaults hboot hblank

/-- From the first start on, over any number of starts, a host that reads the
configuration gets what was set last over USB, and each of its frames is answered once,
in order, until it has put the unit into programming mode. -/
theorem configuration_session (gpioCfg : UInt32) (boot : Eeprom.Boot) (eeprom : Memory UInt8)
    (hboot : boot.Completes)
    (hblank : (Eeprom.EepromData.codec.load eeprom 0).eepromCheck ≠ Eeprom.eepromCheckMarker)
    (cycles : List Cycle) (hcycles : ∀ y ∈ cycles, y.Proper) :
    let dev := exec (Device.cycle gpioCfg)
      ⟨(Eeprom.firstStart gpioCfg boot eeprom).state, [], true⟩ cycles
    ∃ saved, Session (Eeprom.defaults gpioCfg) (cycles.map Cycle.commands) saved dev.sent ∧
      ∀ b, dev.eeprom.readBack b = saved b := by
  obtain ⟨saved, hsession, hconfigured⟩ := exec_session gpioCfg
    ⟨(Eeprom.firstStart gpioCfg boot eeprom).state, [], true⟩ .nil
    (firstStart_configured hboot hblank) hcycles
  exact ⟨saved, hsession, hconfigured.intact⟩

def cycleOf (sent : List (List UInt8 × HostCommand)) : Cycle :=
  ⟨⟨0, true⟩, fun _ => 0x41, Vector.replicate 64 0x2A, sent, (streamOf sent).map some⟩

theorem configuration_session_mac :
    let cycles := [cycleOf [([0x0D, 0x4C], .setMACAddress ⟨1, 2⟩)], cycleOf [([], .getMACAddress)]]
    ∃ saved, Session (Eeprom.defaults 0) (cycles.map Cycle.commands) saved
        (exec (Device.cycle 0)
          ⟨(Eeprom.firstStart 0 ⟨0, true⟩ fun _ => 0xFF).state, [], true⟩ cycles).sent := by
  intro cycles
  have hcycles : ∀ y ∈ cycles, y.Proper := by
    intro y hy
    simp only [cycles, List.mem_cons, List.not_mem_nil, or_false] at hy
    rcases hy with rfl | rfl
    · exact ⟨⟨by decide, rfl⟩, by simpa [cycleOf] using ⟨by decide +kernel, by decide +kernel⟩,
        by simp [cycleOf]; decide, bytes_map_some _, by simp [cycleOf, waitForever]⟩
    · exact ⟨⟨by decide, rfl⟩, by simpa [cycleOf] using ⟨by decide +kernel, by decide +kernel⟩,
        by simp [cycleOf], bytes_map_some _, by simp [cycleOf, waitForever]⟩
  obtain ⟨saved, hsession, -⟩ := configuration_session 0 ⟨0, true⟩ (fun _ => 0xFF) ⟨by decide, rfl⟩
    (by decide +kernel) cycles hcycles
  exact ⟨saved, hsession⟩

end SystemMaster.Usb
