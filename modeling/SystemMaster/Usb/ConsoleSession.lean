import SystemMaster.Dio.OutputCommands
import SystemMaster.Usb.ConsoleInstructions
import SystemMaster.Usb.LineEditor

/-!
# Sessions at the USB console

The task of the console reads a line, has the command line work on it and shows what came of
it. Between the lines the task of the discrete channels runs and clients change outputs, and a
line can restart the system.
-/

namespace SystemMaster.Usb.Terminal

open CommandLine Eeprom Runs Texts
open Dio (GpioCfg)
open Tcp.Console (ansiColorReset errorMessage text)

-- ---------------------------------------------------------------------------
-- The task
-- ---------------------------------------------------------------------------

/-- A line as it was typed: the reads of `USBCONSOLE_getline` until it returns, and what `c` and
`cmdbuf` hold before. Each read gives a byte, unless the one of before changes nothing, and the
line ends before it is full. -/
structure Typed where
  c : UInt8
  cmdbuf : Memory UInt8
  reads : List (Option UInt8)
  edits : Along (LineEditor.State.step cmdbufSize) (LineEditor.EditsWhileRunning cmdbufSize)
    (LineEditor.start c cmdbuf) reads
  returned : (exec (LineEditor.State.step cmdbufSize) (LineEditor.start c cmdbuf) reads).returned

def Typed.editor (t : Typed) : LineEditor.State :=
  exec (LineEditor.State.step cmdbufSize) (LineEditor.start t.c t.cmdbuf) t.reads

def Typed.line (t : Typed) : LineEditor.Line := LineEditor.edited t.editor.received

def Typed.words (t : Typed) : List Word := tokens space t.line.text

def pucUSBCONSOLEWelcome : List UInt8 :=
  text "\r\n>>>>>>> Welcome to the System Master Controller <<<<<<<\r\n" ++ [0]

def pcUSBCONSOLEprompt : List UInt8 :=
  text ("\r" ++ ansiColorGreen ++ "epenate@ALTOAviation: > " ++ ansiColorReset) ++ [0]

section

variable (board : Board)

def Console.turn (c : Console) (t : Typed) : Console :=
  let c := (c.sendData pcUSBCONSOLEprompt).sendData t.editor.echoed
  match cmdLineProcess psUSBCmdTable cmdbufSize t.editor.buffer with
  | none => { c with point := .lost }
  | some (.returned status) => c.report status
  | some (.called pfnCmd m argv) => c.call (pfnCmd.pfnCmd board) m argv

variable (g : GpioCfg)

/-- `SMC_initThread` as far as the console depends on it, and the start of its task. -/
def start (boot : Boot) (eeprom : Memory UInt8) : Console :=
  let device := Dio.start g boot eeprom
  { device := { device with live := (device.live.doSet .uartDebug false).doSet .serial5En true }
    isLogDisplayOn := false
    point := .running
    terminal := pucUSBCONSOLEWelcome
    displays := if (device.eeprom.ram .debug : DebugCfgData).sysLogDisplay ≠ 0 then 1 else 0
    printed := [] }

def Console.restart (c : Console) (boot : Boot) : Console :=
  let started := start g boot c.device.eeprom.eeprom
  { started with
    terminal := c.terminal ++ started.terminal
    printed := c.printed ++ started.printed }

/-- What happens: a line is typed, after which the start that it may lead to completes; the
task of the discrete channels takes a turn, or they are configured;
`vTCPRCBin_DiscreteIO_turnOn5VOutputPower` or the handler for off is called. -/
inductive Event where
  | line (t : Typed) (boot : { boot : Boot // boot.Completes })
  | channels (e : Dio.Event)
  | turn5VOutputPower (state : Bool)

def Console.step (c : Console) (e : Event) : Console :=
  if c.point = .running then
    match e with
    | .line t boot =>
      let c := c.turn board t
      if c.point = .reset then c.restart g boot else c
    | .channels e => { c with device := c.device.step g e }
    | .turn5VOutputPower state => c.doSet .fiveVOutEn state
  else c

end

-- ---------------------------------------------------------------------------
-- The session
-- ---------------------------------------------------------------------------

/-- A session: the settings, what the terminal shows, whether the console still runs, and
whether the log was on at the start and has been turned on since. -/
structure Session where
  settings : Setting → Bool
  terminal : List UInt8
  running : Bool
  logAtStart : Bool
  logTurnedOn : Bool

namespace Session

def start (log : Bool) : Session where
  settings
    | .log => log
    | .serial5En | .fiveVOut => true
    | .uartDebug | .usbPowerEn => false
  terminal := pucUSBCONSOLEWelcome
  running := true
  logAtStart := log
  logTurnedOn := false

def restart (s : Session) : Session :=
  { start (s.settings .log) with terminal := s.terminal ++ pucUSBCONSOLEWelcome }

def set (s : Session) (p : Setting) (state : Bool) : Session :=
  { s with
    settings := Function.update s.settings p state
    logTurnedOn := s.logTurnedOn || (p = .log && state && !s.settings .log) }

def shows (s : Session) (bytes : List UInt8) : Session :=
  { s with terminal := s.terminal ++ bytes }

def obey (board : Board) (info : EepromData) (s : Session) (i : Instruction) : Session :=
  let shown := s.shows (i.reply board info s.settings)
  match i with
  | .change p state => shown.set p state
  | .reboot => shown.restart
  | .dfu => { shown with running := false }
  | _ => shown

def step (board : Board) (info : EepromData) (s : Session) (e : Event) : Session :=
  if s.running then
    match e with
    | .line t _ => (s.shows (pcUSBCONSOLEprompt ++ t.line.shown)).obey board info (.of t.words)
    | .channels _ => s
    | .turn5VOutputPower state => s.set .fiveVOut state
  else s

def displays (s : Session) : Nat := s.logAtStart.toNat + s.logTurnedOn.toNat

end Session

variable {board : Board} {g : GpioCfg} {c c' : Console} {bytes : List UInt8} {words : List Word}
  {eeprom : Eeprom.State} {boot : Boot} {d : Dio.Device} {info : EepromData} {e : Event}
  {s : Session}

-- ---------------------------------------------------------------------------
-- A line
-- ---------------------------------------------------------------------------

theorem Typed.right (t : Typed) : LineEditor.Right cmdbufSize t.editor :=
  (always_iff_along (LineEditor.settled_start ..) (fun _ _ => LineEditor.settled_step)
    (fun _ => LineEditor.Settled.right) fun _ _ => LineEditor.right_step_iff).mpr t.edits _
      List.prefix_rfl

theorem Typed.line_text (t : Typed) : TextAt 0 t.editor.buffer 0 t.line.text := by
  have hwrite : t.editor.buffer = t.editor.buffer.write 0 (t.line.text ++ [0]) :=
    Memory.eq_write (by rw [List.length_append]; exact t.right.line t.returned) fun _ _ => rfl
  rw [hwrite]
  exact textAt_write (t.right.string t.returned)

theorem Typed.inside (t : Typed) :
    ∃ s r, (Scan.start t.editor.buffer).loop cmdbufSize = some (s, r) ∧
      (∀ a ∈ s.writes, a < cmdbufSize) ∧ s.argv.length ≤ cmdLineMaxArgs := by
  have hlength : t.line.text.length < cmdbufSize := t.right.length t.returned
  obtain ⟨s, r, hloop, hdone⟩ :=
    (Scan.start t.editor.buffer).loop_done (Scan.finds_start t.line_text) (Nat.zero_le _) hlength
  refine ⟨s, r, hloop, fun a ha => ?_, hdone.argv⟩
  rcases hdone.writes a ha with hnone | hlt
  · exact absurd hnone List.not_mem_nil
  · exact (Nat.zero_add t.line.text.length ▸ hlt).trans hlength

theorem Console.setLog_sendData (c : Console) (bytes : List UInt8) (state : Bool) :
    (c.sendData bytes).setLog state = (c.setLog state).sendData bytes := by
  have hlog : (c.sendData bytes).isLogOn = c.isLogOn := rfl
  have hdisplay : (c.sendData bytes).isLogDisplayOn = c.isLogDisplayOn := rfl
  rw [setLog, setLog, hlog, hdisplay]
  split_ifs <;> rfl

theorem Console.apply_sendData (c : Console) (bytes : List UInt8) (i : Instruction) :
    (c.sendData bytes).apply i = (c.apply i).sendData bytes := by
  cases i with
  | change p state =>
    cases p with
    | log => exact c.setLog_sendData bytes state
    | uartDebug | serial5En | fiveVOut | usbPowerEn => rfl
  | _ => rfl

theorem command_ok {κ : Type} {table : List (Entry κ)} {cmd : κ}
    (h : command table words = .ok cmd) :
    ∃ w args, words = w :: args := by
  cases words with
  | nil => cases h
  | cons w args => exact ⟨w, args, rfl⟩

/-- A line is obeyed and shown. -/
theorem turn_sends (board : Board) (c : Console) (t : Typed) :
    Sends (c.apply (.of t.words)) (c.turn board t)
      (pcUSBCONSOLEprompt ++ t.line.shown ++
        (Instruction.of t.words).reply board (c.device.eeprom.ram .data) c.setting) := by
  obtain ⟨o, hline, (hdoes : o.Does psUSBCmdTable t.words)⟩ :=
    cmdLineProcess_does t.line_text (t.right.length t.returned)
  have hshown : Sends (c.apply (.of t.words))
      (((c.sendData pcUSBCONSOLEprompt).sendData t.editor.echoed).apply (.of t.words))
      (pcUSBCONSOLEprompt ++ t.line.shown) := by
    rw [Console.apply_sendData, Console.apply_sendData, t.right.shown]
    exact (sends_sendData _ _).trans (sends_sendData _ _)
  refine hshown.trans ?_
  rw [Console.turn, hline, Instruction.of]
  unfold Outcome.Does at hdoes
  cases hcommand : command psUSBCmdTable t.words with
  | error status =>
    rw [hcommand] at hdoes
    obtain rfl := hdoes
    exact sends_report _ status
  | ok cmd =>
    rw [hcommand] at hdoes
    obtain ⟨m, argv, rfl, hargv⟩ := hdoes
    obtain ⟨w, args, hwords⟩ := command_ok hcommand
    rw [hwords] at hargv ⊢
    cases hargv with
    | cons _ hargs => exact cmd.calls hargs

-- ---------------------------------------------------------------------------
-- What is kept
-- ---------------------------------------------------------------------------

/-- The blocks of the unit and of the log are in the EEPROM as they are in RAM, under the
marker. -/
structure Kept (s : Eeprom.State) : Prop where
  data : s.readBack .data = s.ram .data
  debug : s.readBack .debug = s.ram .debug
  marker : (s.ram .data : EepromData).eepromCheck = eepromCheckMarker

theorem saved_ram {b b' : Block} (hb : b' ≠ b) (v : b.Value) :
    ((eeprom.assign b v).program b).ram b' = eeprom.ram b' := by
  rw [State.program_ram, State.assign_ram_of_ne _ hb]

theorem saved_readBack {b b' : Block} (hb : b' ≠ b) (v : b.Value) :
    ((eeprom.assign b v).program b).readBack b' = eeprom.readBack b' := by
  rw [State.readBack_program_of_ne hb, State.readBack_assign]

theorem Kept.setDebug (h : Kept eeprom) (v : DebugCfgData) : Kept (eepDebugConfgSet eeprom v) where
  data := by rw [eepDebugConfgSet, saved_readBack (by decide), saved_ram (by decide), h.data]
  debug := by rw [eepDebugConfgSet, State.readBack_program_self, State.program_ram]
  marker := by
    rw [eepDebugConfgSet, saved_ram (by decide)]
    exact h.marker

theorem step_channels_eeprom (d : Dio.Device) (e : Dio.Event) :
    (d.step g e).eeprom = d.eeprom ∨ ∃ v, (d.step g e).eeprom = eepDIOConfgSet d.eeprom v := by
  cases e with
  | setDIODirection pConfg =>
    simp only [Dio.Device.step, Dio.setDIODirection]
    split
    · exact .inl rfl
    · split <;> exact .inr ⟨_, rfl⟩
  | setDIConfiguration pConfg =>
    simp only [Dio.Device.step, Dio.setDIConfiguration]
    split
    · exact .inl rfl
    · split <;> [exact .inr ⟨_, rfl⟩; exact .inl rfl]
  | setDOConfiguration pConfg =>
    simp only [Dio.Device.step, Dio.setDOConfiguration]
    split
    · exact .inl rfl
    · split <;> [exact .inr ⟨_, rfl⟩; exact .inl rfl]
  | turn inputs => exact .inl rfl

theorem step_channels_ram {b : Block} (hb : b ≠ .dio) (e : Dio.Event) :
    (d.step g e).eeprom.ram b = d.eeprom.ram b := by
  rcases step_channels_eeprom (g := g) d e with h | ⟨v, h⟩
  · rw [h]
  · rw [h, eepDIOConfgSet, saved_ram hb]

theorem step_channels_readBack {b : Block} (hb : b ≠ .dio) (e : Dio.Event) :
    (d.step g e).eeprom.readBack b = d.eeprom.readBack b := by
  rcases step_channels_eeprom (g := g) d e with h | ⟨v, h⟩
  · rw [h]
  · rw [h, eepDIOConfgSet, saved_readBack hb]

theorem Kept.channels (h : Kept d.eeprom) (e : Dio.Event) : Kept (d.step g e).eeprom where
  data := by rw [step_channels_readBack (by decide), step_channels_ram (by decide), h.data]
  debug := by rw [step_channels_readBack (by decide), step_channels_ram (by decide), h.debug]
  marker := by
    rw [step_channels_ram (by decide)]
    exact h.marker

theorem kept_infoInit {gpioCfg : UInt32} (hboot : boot.Completes) (s : Eeprom.State) :
    Kept (infoInit gpioCfg boot s) := by
  by_cases hm : (s.readBack .data : EepromData).eepromCheck = eepromCheckMarker
  · have heeprom : (infoInit gpioCfg boot s).eeprom = s.eeprom := by
      rw [infoInit_of_marker hboot hm, State.assign_eeprom, State.foldl_read_eeprom]
    constructor
    · rw [State.readBack_congr heeprom, infoInit_ram hboot hm (by decide)]
    · rw [State.readBack_congr heeprom, infoInit_ram hboot hm (by decide)]
    · rw [infoInit_ram hboot hm (by decide)]
      exact hm
  · constructor
    · rw [infoInit_of_no_marker hboot hm, infoInit_ram_of_no_marker hboot hm (by decide)]
    · rw [infoInit_of_no_marker hboot hm, infoInit_ram_of_no_marker hboot hm (by decide)]
    · rw [infoInit_ram_of_no_marker hboot hm (by decide)]
      rfl

theorem Kept.restored (h : Kept eeprom) (hboot : boot.Completes) {b : Block}
    (hb : b = .data ∨ b = .debug) :
    (infoInit g.asInput boot (powerUp eeprom.eeprom)).ram b = eeprom.ram b := by
  have hread : ∀ b, (powerUp eeprom.eeprom).readBack b = eeprom.readBack b := fun b =>
    State.readBack_congr rfl
  have hm : ((powerUp eeprom.eeprom).readBack .data : EepromData).eepromCheck =
      eepromCheckMarker := by
    rw [hread, h.data]
    exact h.marker
  rcases hb with rfl | rfl
  · rw [infoInit_ram hboot hm (by decide), hread, h.data]
  · rw [infoInit_ram hboot hm (by decide), hread, h.debug]

-- ---------------------------------------------------------------------------
-- The settings after a command and after a start
-- ---------------------------------------------------------------------------

theorem setLog_live (state : Bool) : (c.setLog state).device.live = c.device.live := by
  rw [Console.setLog]
  split_ifs <;> rfl

theorem debugConfgSet_isLogOn (v : DebugCfgData) :
    (c.debugConfgSet v).isLogOn = decide (v.sysLogDisplay ≠ 0) := by
  rw [Console.isLogOn, Console.debugConfg, Console.debugConfgSet, eepDebugConfgSet,
    State.program_ram, State.assign_ram_self]

theorem setLog_isLogOn (state : Bool) : (c.setLog state).isLogOn = state := by
  rw [Console.setLog]
  by_cases hsame : c.isLogOn = state
  · rw [if_pos hsame, hsame]
  rw [if_neg hsame]
  cases state with
  | true => exact debugConfgSet_isLogOn (c := if c.isLogDisplayOn then c else c.displayInit) _
  | false => exact debugConfgSet_isLogOn _

theorem isLogOn_congr
    (h : (c.device.eeprom.ram .debug : DebugCfgData) = c'.device.eeprom.ram .debug) :
    c.isLogOn = c'.isLogOn :=
  congrArg (fun v : DebugCfgData => decide (v.sysLogDisplay ≠ 0)) h

theorem set_setting (c : Console) (p : Setting) (state : Bool) :
    (c.set p state).setting = Function.update c.setting p state := by
  funext q
  cases p with
  | log =>
    cases q with
    | log => exact setLog_isLogOn state
    | uartDebug | serial5En | fiveVOut | usbPowerEn =>
      exact congrArg (fun live : Dio.Live => (live.doTbl _).doCtrl) (setLog_live state)
  | uartDebug | serial5En | fiveVOut | usbPowerEn => cases q <;> rfl

theorem start_setting (boot : Boot) (eeprom : Memory UInt8) :
    (start g boot eeprom).setting = (Session.start (start g boot eeprom).isLogOn).settings := by
  funext p
  cases p <;> rfl

theorem setLog_displays (state : Bool) :
    (c.setLog state).isLogDisplayOn = (c.isLogDisplayOn || state && !c.isLogOn) ∧
      (c.setLog state).displays =
        c.displays + (state && !c.isLogOn && !c.isLogDisplayOn).toNat := by
  rw [Console.setLog]
  cases hlog : c.isLogOn <;> cases state <;> cases hdisplay : c.isLogDisplayOn <;>
    simp [Console.debugConfgSet, Console.displayInit, hdisplay]

theorem set_eeprom (c : Console) (p : Setting) (state : Bool) :
    (c.set p state).device.eeprom = c.device.eeprom ∨
      ∃ v, (c.set p state).device.eeprom = eepDebugConfgSet c.device.eeprom v := by
  cases p with
  | log =>
    rw [Console.set, Console.setLog]
    split_ifs <;> [exact .inl rfl; exact .inr ⟨_, rfl⟩; exact .inr ⟨_, rfl⟩; exact .inr ⟨_, rfl⟩]
  | uartDebug | serial5En | fiveVOut | usbPowerEn => exact .inl rfl

theorem set_same (c : Console) (p : Setting) (state : Bool) :
    (c.set p state).terminal = c.terminal ∧ (c.set p state).point = c.point ∧
      (c.set p state).printed = c.printed := by
  cases p with
  | log =>
    rw [Console.set, Console.setLog]
    split_ifs <;> exact ⟨rfl, rfl, rfl⟩
  | uartDebug | serial5En | fiveVOut | usbPowerEn => exact ⟨rfl, rfl, rfl⟩

-- ---------------------------------------------------------------------------
-- The console serves a session
-- ---------------------------------------------------------------------------

theorem shows_shows (s : Session) (bytes bytes' : List UInt8) :
    (s.shows bytes).shows bytes' = s.shows (bytes ++ bytes') := by
  rw [Session.shows, Session.shows, Session.shows, List.append_assoc]

/-- The console is where the session is. It has sent what the terminal shows and printed nothing
past a buffer; the EEPROM has the log as it is set. -/
structure Serves (info : EepromData) (c : Console) (s : Session) : Prop where
  settings : c.setting = s.settings
  terminal : c.terminal = s.terminal
  point : c.point = if s.running then .running else .bootLoader
  logDisplay : c.isLogDisplayOn = s.logTurnedOn
  displays : c.displays = s.displays
  fits : c.Fits
  kept : Kept c.device.eeprom
  info : c.device.eeprom.ram .data = info

theorem Serves.sends (h : Serves info c s) (hsent : Sends c c' bytes) :
    Serves info c' (s.shows bytes) := by
  have hfits := hsent.fits h.fits
  obtain ⟨printed, rfl⟩ : ∃ printed,
      c' = { c with terminal := c.terminal ++ bytes, printed := printed } := ⟨_, hsent.same⟩
  exact { h with terminal := congrArg (· ++ bytes) h.terminal, fits := hfits }

theorem set_logTurnedOn {p : Setting} {state : Bool} (hp : p ≠ .log) :
    (s.set p state).logTurnedOn = s.logTurnedOn := by
  simp [Session.set, hp]

theorem Serves.set (h : Serves info c s) (p : Setting) (state : Bool) :
    Serves info (c.set p state) (s.set p state) := by
  obtain ⟨hterminal, hpoint, hprinted⟩ := set_same c p state
  have hlog : c.isLogOn = s.settings .log := congrFun h.settings .log
  constructor
  case settings => rw [set_setting, h.settings]; rfl
  case terminal => exact hterminal.trans h.terminal
  case point => exact hpoint.trans h.point
  case logDisplay =>
    cases p with
    | log =>
      rw [Console.set, (setLog_displays state).1, h.logDisplay, hlog]
      simp [Session.set]
    | _ => exact h.logDisplay.trans (set_logTurnedOn (by decide)).symm
  case displays =>
    cases p with
    | log =>
      rw [Console.set, (setLog_displays state).2, h.displays, h.logDisplay, hlog]
      cases hon : s.logTurnedOn <;> simp [Session.set, Session.displays, hon]
    | _ =>
      rw [Session.displays, set_logTurnedOn (by decide)]
      exact h.displays
  case fits =>
    rw [Console.Fits, hprinted]
    exact h.fits
  case kept =>
    rcases set_eeprom c p state with heeprom | ⟨v, heeprom⟩
    · rw [heeprom]
      exact h.kept
    · rw [heeprom]
      exact h.kept.setDebug v
  case info =>
    rcases set_eeprom c p state with heeprom | ⟨v, heeprom⟩
    · rw [heeprom, h.info]
    · rw [heeprom, eepDebugConfgSet, saved_ram (by decide), h.info]

theorem Serves.channels (h : Serves info c s) (e : Dio.Event) :
    Serves info { c with device := c.device.step g e } s :=
  { h with
    settings := by
      rw [← h.settings]
      funext p
      cases p with
      | log => exact isLogOn_congr (step_channels_ram (by decide) e)
      | _ => exact Dio.Device.step_doCtrl e
    kept := h.kept.channels e
    info := (step_channels_ram (by decide) e).trans h.info }

theorem serves_start (g : GpioCfg) (hboot : boot.Completes) (eeprom : Memory UInt8) :
    Serves ((start g boot eeprom).device.eeprom.ram .data) (start g boot eeprom)
      (.start (start g boot eeprom).isLogOn) where
  settings := start_setting boot eeprom
  terminal := rfl
  point := rfl
  logDisplay := rfl
  displays := (Bool.cond_decide _ 1 0).symm
  fits := fun _ hx => absurd hx List.not_mem_nil
  kept := kept_infoInit hboot _
  info := rfl

theorem Serves.restart (h : Serves info c s) (g : GpioCfg) (hboot : boot.Completes) :
    Serves info (c.restart g boot) s.restart := by
  have hstart := serves_start g hboot c.device.eeprom.eeprom
  have hlog : (start g boot c.device.eeprom.eeprom).isLogOn = s.settings .log := by
    rw [← h.settings]
    exact isLogOn_congr (h.kept.restored hboot (.inr rfl))
  rw [hlog, show (start g boot c.device.eeprom.eeprom).device.eeprom.ram .data = info from
    (h.kept.restored hboot (.inl rfl)).trans h.info] at hstart
  exact { hstart with
    terminal := congrArg (· ++ pucUSBCONSOLEWelcome) h.terminal
    fits := fun x hx => h.fits x ((List.append_nil c.printed) ▸ hx) }

/-- After a line the console is where the session is, also past the restart that the line may
have led to. -/
theorem Serves.obey (h : Serves info c s) (hrun : s.running = true) {i : Instruction}
    (hsent : Sends (c.apply i) c' (bytes ++ i.reply board info s.settings))
    (hboot : boot.Completes) :
    Serves info (if c'.point = .reset then c'.restart g boot else c')
      ((s.shows bytes).obey board info i) := by
  have hpoint : c.point = .running := h.point.trans (if_pos hrun)
  cases i with
  | change p state =>
    have hsame : c'.point = .running := hsent.point.trans ((set_same c p state).2.1.trans hpoint)
    rw [if_neg (by rw [hsame]; decide)]
    change Serves info c' (((s.shows bytes).shows _).set p state)
    rw [shows_shows]
    exact (h.set p state).sends hsent
  | reboot =>
    have hsame : c'.point = .reset := hsent.point
    rw [if_pos hsame]
    change Serves info _ ((s.shows bytes).shows _).restart
    rw [shows_shows]
    have hshown : Serves info { c' with point := c.point } (s.shows (bytes ++ rebootInformation)) :=
      h.sends ⟨by rw [hsent.same]; rfl, hsent.fits⟩
    exact hshown.restart g hboot
  | dfu =>
    have hsame : c'.point = .bootLoader := hsent.point
    rw [if_neg (by rw [hsame]; decide)]
    change Serves info c' { (s.shows bytes).shows _ with running := false }
    rw [shows_shows]
    have hloader : Serves info { c with point := .bootLoader } { s with running := false } :=
      { h with point := rfl }
    exact hloader.sends hsent
  | _ =>
    have hsame : c'.point = .running := hsent.point.trans hpoint
    rw [if_neg (by rw [hsame]; decide)]
    change Serves info c' ((s.shows bytes).shows _)
    rw [shows_shows]
    exact h.sends hsent

theorem Serves.step (h : Serves info c s) (e : Event) :
    Serves info (c.step board g e) (s.step board info e) := by
  unfold Console.step Session.step
  cases hrun : s.running with
  | false =>
    have hpoint : c.point = .bootLoader := h.point.trans (if_neg (by rw [hrun]; decide))
    rw [if_neg (by rw [hpoint]; decide), if_neg (by decide)]
    exact h
  | true =>
    have hpoint : c.point = .running := h.point.trans (if_pos hrun)
    rw [if_pos hpoint, if_pos rfl]
    cases e with
    | line t boot =>
      have hsent := turn_sends board c t
      rw [h.info, h.settings] at hsent
      exact h.obey hrun hsent boot.2
    | channels e => exact h.channels e
    | turn5VOutputPower state => exact h.set .fiveVOut state

/-- From a start that completes, whatever the EEPROM had, the console serves the session that
the lines typed and the commands of clients make, along any run. -/
theorem console_session (board : Board) (g : GpioCfg) (hboot : boot.Completes)
    (eeprom : Memory UInt8) (events : List Event) :
    Serves ((start g boot eeprom).device.eeprom.ram .data)
      (exec (Console.step board g) (start g boot eeprom) events)
      (exec (Session.step board ((start g boot eeprom).device.eeprom.ram .data))
        (.start (start g boot eeprom).isLogOn) events) := by
  have hstart := serves_start g hboot eeprom
  induction events using List.reverseRecOn with
  | nil => exact hstart
  | append_singleton events e ih =>
    rw [exec_concat, exec_concat]
    exact ih.step e

def plain : Board := ⟨[], fun _ => 0⟩

def ready : { boot : Boot // boot.Completes } := ⟨⟨0, true⟩, by decide, rfl⟩

def setLogOn : Typed where
  c := 0
  cmdbuf _ := 0
  reads := (text "set logs\x08 on\r").map some
  edits := by decide
  returned := by decide

def rebootLine : Typed where
  c := 0
  cmdbuf _ := 0
  reads := (text "reboot\r").map some
  edits := by decide
  returned := by decide

def rebooted : Console :=
  exec (Console.step plain Dio.driverCfg) (start Dio.driverCfg ready.1 fun _ => 0xFF)
    [.line setLogOn ready, .line rebootLine ready]

/-- The log, off at the first start, is on after the reboot. -/
theorem console_session_log : rebooted.isLogOn = true ∧ rebooted.displays = 1 := by
  have h := console_session plain Dio.driverCfg ready.2 (fun _ => 0xFF)
    [.line setLogOn ready, .line rebootLine ready]
  exact ⟨(congrFun h.settings .log).trans (by decide), h.displays.trans (by decide)⟩

end SystemMaster.Usb.Terminal
