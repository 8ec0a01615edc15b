import Mathlib.Data.List.Find
import SystemMaster.Usb.ConsoleCommands

/-!
# What the commands of the console do

The words of a line are an instruction. Each handler, called with pointers to the words, shows
what the instruction asks for and does nothing else, and what it prints fits its buffers.
-/

namespace SystemMaster.Usb.Terminal

open CommandLine Eeprom Texts
open Tcp.Console (errorMessage text)

-- ---------------------------------------------------------------------------
-- What lines say
-- ---------------------------------------------------------------------------

inductive Instruction where
  | help
  | topic (name : Word)
  | cls
  | contact
  | about
  | reboot
  | dfu
  | settings
  | describe (p : Setting)
  | change (p : Setting) (state : Bool)
  | blank
  | rejected (status : Int)

def Setting.instruction (p : Setting) : List Word → Instruction
  | [] => .describe p
  | [value] =>
    if value = on then .change p true
    else if value = off then .change p false
    else .rejected cmdLineBadCmd
  | _ => .rejected cmdLineTooManyArgs

def Command.instruction : Command → List Word → Instruction
  | .help, [] => .help
  | .help, [name] => .topic name
  | .help, _ => .rejected cmdLineTooManyArgs
  | .cls, _ => .cls
  | .contact, _ => .contact
  | .about, _ => .about
  | .reboot, _ => .reboot
  | .enterProgrammingMode, _ => .dfu
  | .set, [] => .settings
  | .set, name :: args =>
    if args.length ≤ 1 then
      match psUSBSetCmdTable.find? fun entry => name = entry.pcCmd with
      | some entry => entry.pfnCmd.instruction args
      | none => .blank
    else .rejected cmdLineTooManyArgs

def Instruction.of (words : List Word) : Instruction :=
  match command psUSBCmdTable words with
  | .error status => .rejected status
  | .ok cmd => cmd.instruction words.tail

def Setting.information : Setting → List UInt8
  | .log | .serial5En | .usbPowerEn => cCMDSetLogInformation
  | .uartDebug => cCMDSetUartDebugInformation
  | .fiveVOut => cCMDSet5VOutInformation

def Setting.confirmation (settings : Setting → Bool) : Setting → Bool → List UInt8
  | .log => logText (settings .log)
  | .uartDebug => outputText "UART Debug"
  | .serial5En => outputText "Serial 5 Enable"
  | .fiveVOut => outputText "5V Output Power"
  | .usbPowerEn => outputText "USB Power"

def Instruction.reply (board : Board) (info : EepromData) (settings : Setting → Bool) :
    Instruction → List UInt8
  | .help => helpHeader ++ psUSBCmdTable.flatMap row ++ blankLine
  | .topic name =>
    (psUSBCmdTable.flatMap fun entry => if name = entry.pcCmd then topicText name entry else []) ++
      blankLine
  | .cls => clearScreen
  | .contact => board.cCMDContactInformation
  | .about => aboutText board.uniqueID info
  | .reboot => rebootInformation
  | .dfu => dfuInformation
  | .settings => setHeader ++ psUSBSetCmdTable.flatMap row ++ blankLine
  | .describe p => p.information ++ blankLine
  | .change p state => p.confirmation settings state ++ blankLine
  | .blank => blankLine
  | .rejected status => (errorMessage status).getD []

def Console.report (c : Console) (i32CmdStatus : Int) : Console :=
  match errorMessage i32CmdStatus with
  | some message => c.sprintf 64 message
  | none => c

def Console.call (c : Console) (pfnCmd : Handler) (m : Memory UInt8) (argv : List Nat) : Console :=
  (pfnCmd c m argv).1.report (pfnCmd c m argv).2

namespace Console

def setting (c : Console) : Setting → Bool
  | .log => c.isLogOn
  | .uartDebug => (c.device.live.doTbl .uartDebug).doCtrl
  | .serial5En => (c.device.live.doTbl .serial5En).doCtrl
  | .fiveVOut => (c.device.live.doTbl .fiveVOutEn).doCtrl
  | .usbPowerEn => (c.device.live.doTbl .usb0EPEn).doCtrl

def set (c : Console) : Setting → Bool → Console
  | .log => c.setLog
  | .uartDebug => c.doSet .uartDebug
  | .serial5En => c.doSet .serial5En
  | .fiveVOut => c.doSet .fiveVOutEn
  | .usbPowerEn => c.doSet .usb0EPEn

def apply (c : Console) : Instruction → Console
  | .change p state => c.set p state
  | .reboot => { c with point := .reset }
  | .dfu => { c with point := .bootLoader }
  | _ => c

end Console

-- ---------------------------------------------------------------------------
-- What is sent
-- ---------------------------------------------------------------------------

/-- Everything that was printed to a buffer fits it. -/
def Console.Fits (c : Console) : Prop := ∀ x ∈ c.printed, x.2 ≤ x.1

/-- `c'` is `c` after these bytes were sent, and what was printed for it fits. -/
structure Sends (c c' : Console) (bytes : List UInt8) : Prop where
  same : c' = { c with terminal := c.terminal ++ bytes, printed := c'.printed }
  fits : c.Fits → c'.Fits

variable {board : Board} {c c' c'' : Console} {m : Memory UInt8} {argv : List Nat}
  {bytes bytes' : List UInt8} {args : List Word} {v : Word} {size : Nat}

theorem sends_nil (c : Console) : Sends c c [] := ⟨by rw [List.append_nil], id⟩

theorem Sends.trans (h : Sends c c' bytes) (h' : Sends c' c'' bytes') :
    Sends c c'' (bytes ++ bytes') where
  same := by
    have hsame := h'.same
    rw [h.same] at hsame
    rw [← List.append_assoc]
    exact hsame
  fits := h'.fits ∘ h.fits

theorem Sends.point (h : Sends c c' bytes) : c'.point = c.point := by rw [h.same]

theorem sends_sendData (c : Console) (bytes : List UInt8) : Sends c (c.sendData bytes) bytes :=
  ⟨rfl, id⟩

theorem sends_sprintf (c : Console) (h : bytes.length < size) :
    Sends c (c.sprintf size bytes) bytes where
  same := rfl
  fits hfits x hx := by
    rcases List.mem_append.mp hx with hold | hnew
    · exact hfits x hold
    · obtain rfl := List.mem_singleton.mp hnew
      exact h

theorem sends_foldl {α : Type*} {xs : List α} {f : Console → α → Console} {text : α → List UInt8}
    (h : ∀ x ∈ xs, ∀ c, Sends c (f c x) (text x)) (c : Console) :
    Sends c (xs.foldl f c) (xs.flatMap text) := by
  induction xs generalizing c with
  | nil => exact sends_nil c
  | cons x xs ih =>
    rw [List.foldl_cons, List.flatMap_cons]
    exact (h x List.mem_cons_self c).trans
      (ih (fun y hy => h y (List.mem_cons_of_mem x hy)) _)

theorem sends_list {κ : Type} {header : List UInt8} {table : List (Entry κ)} (c : Console)
    (hheader : header.length < 128) (hrow : ∀ entry ∈ table, (row entry).length < 128) :
    Sends c (c.list header table) (header ++ table.flatMap row) :=
  (sends_sprintf c hheader).trans
    (sends_foldl (f := fun c entry => c.sprintf 128 (row entry))
      (fun entry hentry c => sends_sprintf c (hrow entry hentry)) _)

theorem Sends.sprintf (h : Sends c c' bytes) (hsize : bytes'.length < size) :
    Sends c (c'.sprintf size bytes') (bytes ++ bytes') :=
  h.trans (sends_sprintf c' hsize)

theorem errorMessage_length {status : Int} (h : errorMessage status = some bytes) :
    bytes.length < 64 := by
  unfold errorMessage at h
  split_ifs at h <;>
  · cases h
    decide

theorem sends_report (c : Console) (status : Int) :
    Sends c (c.report status) ((errorMessage status).getD []) := by
  rw [Console.report]
  cases hmessage : errorMessage status with
  | none => exact sends_nil c
  | some message => exact sends_sprintf c (errorMessage_length hmessage)

theorem blankLine_length : blankLine.length < 32 := by decide

-- ---------------------------------------------------------------------------
-- The settings
-- ---------------------------------------------------------------------------

theorem Setting.pfnCmd_two (p : Setting) {a b : Nat} :
    p.pfnCmd c m [a, b] = ((c.sendData p.information).sprintf 64 blankLine, 0) := by
  cases p <;> rfl

theorem Setting.pfnCmd_three (p : Setting) {a b d : Nat} :
    p.pfnCmd c m [a, b, d] =
      if strncmp m d on 3 then
        (((c.set p true).sprintf 64 (p.confirmation c.setting true)).sprintf 64 blankLine, 0)
      else if strncmp m d off 4 then
        (((c.set p false).sprintf 64 (p.confirmation c.setting false)).sprintf 64 blankLine, 0)
      else (c, cmdLineBadCmd) := by
  cases p <;> rfl

theorem Setting.confirmation_length (p : Setting) (settings : Setting → Bool) (state : Bool) :
    (p.confirmation settings state).length < 64 := by
  cases p with
  | log =>
    change (logText (settings .log) state).length < 64
    cases settings .log <;> cases state <;> decide
  | uartDebug =>
    change (outputText "UART Debug" state).length < 64
    cases state <;> decide
  | serial5En =>
    change (outputText "Serial 5 Enable" state).length < 64
    cases state <;> decide
  | fiveVOut =>
    change (outputText "5V Output Power" state).length < 64
    cases state <;> decide
  | usbPowerEn =>
    change (outputText "USB Power" state).length < 64
    cases state <;> decide

def Calls (board : Board) (c : Console) (pfnCmd : Handler) (m : Memory UInt8) (argv : List Nat)
    (i : Instruction) : Prop :=
  Sends (c.apply i) (c.call pfnCmd m argv) (i.reply board (c.device.eeprom.ram .data) c.setting)

theorem calls_rejected {pfnCmd : Handler} {status : Int} (h : pfnCmd c m argv = (c, status)) :
    Calls board c pfnCmd m argv (.rejected status) := by
  rw [Calls, Console.call, h]
  exact sends_report c status

theorem calls_of_sends {pfnCmd : Handler} {i : Instruction} (hcall : pfnCmd c m argv = (c', 0))
    (h : Sends (c.apply i) c' (i.reply board (c.device.eeprom.ram .data) c.setting)) :
    Calls board c pfnCmd m argv i := by
  rw [Calls, Console.call, hcall]
  exact h

theorem blankLine_lt (h : 32 ≤ size) : blankLine.length < size := blankLine_length.trans_le h

theorem Setting.change_sends (c : Console) (p : Setting) (state : Bool) :
    Sends (c.set p state)
      (((c.set p state).sprintf 64 (p.confirmation c.setting state)).sprintf 64 blankLine)
      (p.confirmation c.setting state ++ blankLine) :=
  (sends_sprintf _ (p.confirmation_length c.setting state)).sprintf (blankLine_lt (by decide))

theorem points_singleton {argv : List Nat} (h : Points m argv [v]) :
    ∃ a, argv = [a] ∧ TextAt 0 m a v := by
  cases h with
  | cons hv hnil =>
    cases hnil
    exact ⟨_, rfl, hv⟩

theorem Setting.calls (p : Setting) {a b : Nat} (h : Points m argv args) (hargs : args.length ≤ 1) :
    Calls board c p.pfnCmd m (a :: b :: argv) (p.instruction args) := by
  match args with
  | [] =>
    cases h
    exact calls_of_sends p.pfnCmd_two
      ((sends_sendData c p.information).sprintf (blankLine_lt (by decide)))
  | [value] =>
    obtain ⟨d, rfl, hd⟩ := points_singleton h
    have hcall := p.pfnCmd_three (c := c) (m := m) (a := a) (b := b) (d := d)
    simp only [strncmp_iff hd (show on.length < 3 by decide),
      strncmp_iff hd (show off.length < 4 by decide)] at hcall
    rw [instruction]
    by_cases hon : value = on
    · rw [if_pos hon] at hcall ⊢
      exact calls_of_sends hcall (p.change_sends c true)
    rw [if_neg hon] at hcall ⊢
    by_cases hoff : value = off
    · rw [if_pos hoff] at hcall ⊢
      exact calls_of_sends hcall (p.change_sends c false)
    rw [if_neg hoff] at hcall ⊢
    exact calls_rejected hcall

-- ---------------------------------------------------------------------------
-- The commands
-- ---------------------------------------------------------------------------

theorem find_name {κ : Type} {table : List (Entry κ)} {b : Nat} {name : Word}
    (h : TextAt 0 m b name) (htable : ∀ entry ∈ table, entry.pcCmd.length < 10) :
    (table.find? fun psCmdEntry => strncmp m b psCmdEntry.pcCmd 10) =
      table.find? fun entry => name = entry.pcCmd :=
  List.find?_congr fun entry hentry =>
    Bool.eq_iff_iff.mpr ((strncmp_iff h (htable entry hentry)).trans decide_eq_true_iff.symm)

theorem cmdUSBset_calls {a : Nat} (h : Points m argv args) :
    Calls board c cmdUSBset m (a :: argv) (Command.set.instruction args) := by
  cases h with
  | nil =>
    exact calls_of_sends rfl
      ((sends_list c (by decide) (by decide)).sprintf (blankLine_lt (by decide)))
  | @cons b name argv args hname hargs =>
    have hlength : argv.length = args.length := hargs.length_eq
    rw [Command.instruction]
    by_cases hfew : args.length ≤ 1
    · rw [if_pos hfew]
      have hcall : cmdUSBset c m (a :: b :: argv) =
          match psUSBSetCmdTable.find? fun entry => name = entry.pcCmd with
          | some psCmdEntry => psCmdEntry.pfnCmd.pfnCmd c m (a :: b :: argv)
          | none => (c.sprintf 128 blankLine, 0) := by
        rw [← find_name hname (by decide)]
        exact if_pos (hlength ▸ hfew)
      cases hfind : psUSBSetCmdTable.find? fun entry => name = entry.pcCmd with
      | none =>
        rw [hfind] at hcall
        exact calls_of_sends hcall (sends_sprintf c (blankLine_lt (by decide)))
      | some entry =>
        rw [hfind] at hcall
        have hset : Calls board c entry.pfnCmd.pfnCmd m (a :: b :: argv)
            (entry.pfnCmd.instruction args) := entry.pfnCmd.calls hargs hfew
        rw [Calls, Console.call] at hset ⊢
        rwa [hcall]
    · rw [if_neg hfew]
      exact calls_rejected (if_neg (hlength ▸ hfew))

theorem topicText_length : ∀ entry ∈ psUSBCmdTable, (topicText entry.pcCmd entry).length < 128 := by
  decide

theorem topic_sends {b : Nat} {name : Word} (h : TextAt 0 m b name) {entry : Entry Command}
    (hentry : entry ∈ psUSBCmdTable) (c : Console) :
    Sends c
      (if strncmp m b entry.pcCmd 10 then
        c.sprintf 128 (topicText (textFrom 0 m cmdbufSize b) entry)
      else c)
      (if name = entry.pcCmd then topicText name entry else []) := by
  have hshort : ∀ entry ∈ psUSBCmdTable, entry.pcCmd.length < 10 := by decide
  simp only [strncmp_iff h (hshort entry hentry)]
  by_cases hname : name = entry.pcCmd
  · have htext : textFrom 0 m cmdbufSize b = name :=
      h.textFrom_eq (hname ▸ (hshort entry hentry).le.trans (by decide))
    rw [if_pos hname, if_pos hname, htext]
    exact sends_sprintf c (hname ▸ topicText_length entry hentry)
  · rw [if_neg hname, if_neg hname]
    exact sends_nil c

theorem cmdUSBhelp_calls {a : Nat} (h : Points m argv args) :
    Calls board c cmdUSBhelp m (a :: argv) (Command.help.instruction args) := by
  match args with
  | [] =>
    cases h
    exact calls_of_sends rfl
      ((sends_list c (by decide) (by decide)).sprintf (blankLine_lt (by decide)))
  | [name] =>
    obtain ⟨b, rfl, hname⟩ := points_singleton h
    exact calls_of_sends rfl ((sends_foldl (fun entry hentry => topic_sends hname hentry) c).sprintf
      (blankLine_lt (by decide)))
  | _ :: _ :: _ =>
    obtain ⟨b, b', argv, rfl⟩ : ∃ b b' argv', argv = b :: b' :: argv' := by
      cases h with
      | cons _ h =>
        cases h with
        | cons _ h => exact ⟨_, _, _, rfl⟩
    exact calls_rejected rfl

theorem digits_length {base n k : Nat} (hbase : 1 < base) (hk : 0 < k) (hn : n < base ^ k) :
    (digits base n).length ≤ k := by
  rw [digits, List.length_map]
  exact (Nat.length_toDigits_le_iff hbase hk).mpr hn

theorem printD_length {width k : Nat} {n : Int} (hk : 0 < k) (hn : n.natAbs < 10 ^ k) :
    (printD width n).length ≤ max width (k + 1) := by
  have hbody := digits_length (by decide) hk hn
  have hsign : (if n < 0 then text "-" else []).length ≤ 1 := by split <;> decide
  simp only [printD, List.length_append, List.length_replicate]
  omega

theorem printX_length (n : UInt32) : (printX n).length = 8 := by
  have hbody : (digits 16 n.toNat).length ≤ 8 :=
    digits_length (by decide) (by decide) n.toNat_lt
  simp only [printX, List.length_append, List.length_replicate, List.length_map]
  omega

theorem aboutText_length (uniqueID : Fin 4 → UInt32) (info : EepromData) :
    (aboutText uniqueID info).length < 256 := by
  have hmodel : (printD 0 info.boardHardwareVersion.toNat).length ≤ 4 :=
    printD_length (k := 3) (by decide) (info.boardHardwareVersion.toNat_lt.trans (by decide))
  have hserial : (printD 6 info.unitSerialNumber.toInt32.toInt).length ≤ 11 := by
    have hlt := info.unitSerialNumber.toInt32.toInt_lt
    have hle := info.unitSerialNumber.toInt32.le_toInt
    exact printD_length (k := 10) (by decide) (by omega)
  have hid : ((List.finRange 4).flatMap fun i => printX (uniqueID i)).length = 32 := by
    simp only [List.length_flatMap, printX_length]
    decide
  simp only [aboutText, List.length_append, hid]
  calc _ ≤ _ + 4 + _ + 11 + _ + _ + _ + 32 + _ := by gcongr
    _ < 256 := by decide

theorem Command.calls (cmd : Command) {a : Nat} (h : Points m argv args) :
    Calls board c (cmd.pfnCmd board) m (a :: argv) (cmd.instruction args) := by
  cases cmd with
  | help => exact cmdUSBhelp_calls h
  | cls => exact calls_of_sends rfl (sends_sprintf c (by decide))
  | contact => exact calls_of_sends rfl (sends_sendData c _)
  | about => exact calls_of_sends rfl (sends_sprintf c (aboutText_length _ _))
  | reboot => exact calls_of_sends rfl ⟨rfl, id⟩
  | enterProgrammingMode => exact calls_of_sends rfl ⟨rfl, id⟩
  | set => exact cmdUSBset_calls h

end SystemMaster.Usb.Terminal
