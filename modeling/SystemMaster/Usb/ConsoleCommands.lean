import SystemMaster.Dio.Commands
import SystemMaster.Tcp.Console
import SystemMaster.Usb.CommandLine

/-!
# The commands of the USB console

The commands show what they know of the system and set the log, which the EEPROM keeps, and
four outputs. A text with values in it is printed to a buffer on the stack first.
-/

namespace SystemMaster.Usb.Terminal

open CommandLine Eeprom Texts
open Dio (OutputMap)
open Tcp.Console (ansiColorReset text)

def ansiColorGreen : String := "\x1b[32;1m"
def ansiColorYellow : String := "\x1b[33m"
def ansiColorMagenta : String := "\x1b[35m"
def ansiColorCyan : String := "\x1b[36m"

def cmdbufSize : Nat := 64

-- ---------------------------------------------------------------------------
-- The state
-- ---------------------------------------------------------------------------

/-- Where the task of the console is: `lost` behind the end of its buffer. -/
inductive Point where
  | running
  | reset
  | bootLoader
  | lost
  deriving DecidableEq

/-- What the console works on, with a record of what it has sent, how often the display of the
log has been opened since the start, and the size of every buffer printed to beside what was
printed there. -/
structure Console where
  device : Dio.Device
  isLogDisplayOn : Bool
  point : Point
  terminal : List UInt8
  displays : Nat
  printed : List (Nat × Nat)

namespace Console

def sendData (c : Console) (bytes : List UInt8) : Console :=
  { c with terminal := c.terminal ++ bytes }

/-- `sprintf` to a buffer of this size, which is sent without the end of the string. -/
def sprintf (c : Console) (size : Nat) (bytes : List UInt8) : Console :=
  { c.sendData bytes with printed := c.printed ++ [(size, bytes.length + 1)] }

def displayInit (c : Console) : Console := { c with displays := c.displays + 1 }

def debugConfg (c : Console) : DebugCfgData := c.device.eeprom.ram .debug

def isLogOn (c : Console) : Bool := c.debugConfg.sysLogDisplay ≠ 0

def debugConfgSet (c : Console) (info : DebugCfgData) : Console :=
  { c with device := { c.device with eeprom := eepDebugConfgSet c.device.eeprom info } }

def doSet (c : Console) (n : OutputMap) (state : Bool) : Console :=
  { c with device := { c.device with live := c.device.live.doSet n state } }

end Console

/-- A handler, given what the pointers of its arguments point to. -/
abbrev Handler := Console → Memory UInt8 → List Nat → Console × Int

def padded (s : List UInt8) : List UInt8 := List.replicate (17 - s.length) 0x20 ++ s

def digits (base n : Nat) : List UInt8 := (Nat.toDigits base n).map fun c => UInt8.ofNat c.toNat

def printD (width : Nat) (n : Int) : List UInt8 :=
  let sign := if n < 0 then text "-" else []
  let body := digits 10 n.natAbs
  sign ++ List.replicate (width - sign.length - body.length) 0x30 ++ body

def printX (n : UInt32) : List UInt8 :=
  let body := (digits 16 n.toNat).map fun c => if 0x61 ≤ c then c - 0x20 else c
  List.replicate (8 - body.length) 0x30 ++ body

-- ---------------------------------------------------------------------------
-- Parameters
-- ---------------------------------------------------------------------------

inductive Setting where
  | log
  | uartDebug
  | serial5En
  | fiveVOut
  | usbPowerEn
  deriving DecidableEq

def psUSBSetCmdTable : List (Entry Setting) :=
  [⟨text "log", .log, text " : set log \x7bon/off\x7d"⟩,
    ⟨text "uartdebug", .uartDebug, text " : set uartdebug \x7bon/off\x7d"⟩,
    ⟨text "serial5en", .serial5En, text " : set serial5en \x7bon/off\x7d"⟩,
    ⟨text "5vout", .fiveVOut, text " : set 5vout \x7bon/off\x7d"⟩,
    ⟨text "usbpen", .usbPowerEn, text " : set usbpen \x7bon/off\x7d"⟩]

/-- The texts of constants are sent with the end of the string. -/
def setInformation (name : String) (what : String) : List UInt8 :=
  text ("\r\n Command: " ++ ansiColorGreen ++ "set " ++ name ++ "\r\n" ++ ansiColorReset ++
    " ---------------------\r\n" ++ what ++ "\r\n - Use " ++ ansiColorGreen ++ "set " ++ name ++
    " on" ++ ansiColorReset ++ " to enable\r\n - Use " ++ ansiColorGreen ++ "set " ++ name ++
    " off" ++ ansiColorReset ++ " to disable\r\n\r\n") ++ [0]

def cCMDSetLogInformation : List UInt8 :=
  setInformation "log" (" This command is used to enable and disable the log\r\n" ++
    " on the Serial Port Interface 1\r\n")

def cCMDSetUartDebugInformation : List UInt8 :=
  setInformation "uartdebug" (" This command is used to enable and disable the uart port\r\n" ++
    " of the internal connector P2. It will conflict with the RS232.\r\n")

def cCMDSet5VOutInformation : List UInt8 :=
  setInformation "5vout" (" This command is used to enable and disable the 5V Output Power\r\n" ++
    " of the connector J1.\r\n")

def blankLine : List UInt8 := text "\n\r"

def on : Word := text "on"
def off : Word := text "off"

/-- What `set log on` shows, and `set log off`, by what the log was before. -/
def logText (was : Bool) : Bool → List UInt8
  | true =>
    if was then text "\n\rLog on Serial Interface 1 is already initialized\n\r"
    else text "\n\rInitializing Log on Serial Interface 1\n\r"
  | false =>
    if was then
      text "\n\rClosing Log on Serial Interface 1\n\rPlease reboot the system\n\r"
    else text "\n\rLog is already closed on Serial Interface 1\n\r"

/-- Nothing is done where the log is so already, and the display is not closed again. -/
def Console.setLog (c : Console) (state : Bool) : Console :=
  if c.isLogOn = state then c
  else if state then
    let c := if c.isLogDisplayOn then c else c.displayInit
    { c.debugConfgSet { c.debugConfg with sysLogDisplay := 1 } with isLogDisplayOn := true }
  else c.debugConfgSet { c.debugConfg with sysLogDisplay := 0 }

def cmdUSBsetLog : Handler
  | c, _, [_] => (c, cmdLineTooFewArgs)
  | c, _, [_, _] => ((c.sendData cCMDSetLogInformation).sprintf 64 blankLine, 0)
  | c, m, [_, _, value] =>
    if strncmp m value on 3 then
      (((c.setLog true).sprintf 64 (logText c.isLogOn true)).sprintf 64 blankLine, 0)
    else if strncmp m value off 4 then
      (((c.setLog false).sprintf 64 (logText c.isLogOn false)).sprintf 64 blankLine, 0)
    else (c, cmdLineBadCmd)
  | c, _, _ => (c, cmdLineTooManyArgs)

def outputText (name : String) (state : Bool) : List UInt8 :=
  text ("\n\rSetting " ++ name ++ (if state then " ON" else " OFF") ++ "\n\r")

/-- The handlers of the outputs differ in their texts. -/
def setOutput (information : List UInt8) (name : String) (n : OutputMap) : Handler
  | c, _, [_] => (c, cmdLineTooFewArgs)
  | c, _, [_, _] => ((c.sendData information).sprintf 64 blankLine, 0)
  | c, m, [_, _, value] =>
    if strncmp m value on 3 then
      (((c.doSet n true).sprintf 64 (outputText name true)).sprintf 64 blankLine, 0)
    else if strncmp m value off 4 then
      (((c.doSet n false).sprintf 64 (outputText name false)).sprintf 64 blankLine, 0)
    else (c, cmdLineBadCmd)
  | c, _, _ => (c, cmdLineTooManyArgs)

def cmdUSBuartDebug : Handler := setOutput cCMDSetUartDebugInformation "UART Debug" .uartDebug

/-- This one and `CMD_USBusbPowerEn` show the text of the log. -/
def cmdUSBserial5En : Handler := setOutput cCMDSetLogInformation "Serial 5 Enable" .serial5En

def cmdUSB5VOut : Handler := setOutput cCMDSet5VOutInformation "5V Output Power" .fiveVOutEn

def cmdUSBusbPowerEn : Handler := setOutput cCMDSetLogInformation "USB Power" .usb0EPEn

def Setting.pfnCmd : Setting → Handler
  | .log => cmdUSBsetLog
  | .uartDebug => cmdUSBuartDebug
  | .serial5En => cmdUSBserial5En
  | .fiveVOut => cmdUSB5VOut
  | .usbPowerEn => cmdUSBusbPowerEn

def setHeader : List UInt8 :=
  text "\n\rAvailable Arguments for set\n\r---------------------------\n\n"

def row {κ : Type} (psCmdEntry : Entry κ) : List UInt8 :=
  text "\r\x1b[32;1m" ++ padded psCmdEntry.pcCmd ++ text "\x1b[0m " ++ psCmdEntry.pcHelp ++
    text "\n"

def Console.list {κ : Type} (c : Console) (header : List UInt8) (table : List (Entry κ)) :
    Console :=
  table.foldl (fun c psCmdEntry => c.sprintf 128 (row psCmdEntry)) (c.sprintf 128 header)

def cmdUSBset : Handler
  | c, _, [_] => ((c.list setHeader psUSBSetCmdTable).sprintf 128 blankLine, 0)
  | c, m, p :: arg :: rest =>
    if rest.length ≤ 1 then
      match psUSBSetCmdTable.find? fun psCmdEntry => strncmp m arg psCmdEntry.pcCmd 10 with
      | some psCmdEntry => psCmdEntry.pfnCmd.pfnCmd c m (p :: arg :: rest)
      | none => (c.sprintf 128 blankLine, 0)
    else (c, cmdLineTooManyArgs)
  | c, _, [] => (c, cmdLineTooManyArgs)

-- ---------------------------------------------------------------------------
-- Commands
-- ---------------------------------------------------------------------------

inductive Command where
  | help
  | cls
  | contact
  | about
  | reboot
  | enterProgrammingMode
  | set
  deriving DecidableEq

def psUSBCmdTable : List (Entry Command) :=
  [⟨text "help", .help, text " : Display list of commands"⟩,
    ⟨text "?", .help, text " : Display list of commands"⟩,
    ⟨text "cls", .cls, text " : Clear the terminal screen"⟩,
    ⟨text "contact", .contact, text " : Display contact information"⟩,
    ⟨text "about", .about, text " : Display information about this unit"⟩,
    ⟨text "reboot", .reboot, text " : Reset the system"⟩,
    ⟨text "dfu", .enterProgrammingMode, text " : Enter in programming mode"⟩,
    ⟨text "set", .set, text " : Set parameters on the system"⟩]

def helpHeader : List UInt8 := text "\n\rAvailable Commands\n\r------------------\n\n"

def topicText (name : Word) (psCmdEntry : Entry Command) : List UInt8 :=
  text "\n\rCommand: \x1b[32;1m" ++ name ++ text "\x1b[0m\n\r------------------\n\r  " ++
    psCmdEntry.pcHelp.drop 3 ++ text "\n"

def cmdUSBhelp : Handler
  | c, _, [_] => ((c.list helpHeader psUSBCmdTable).sprintf 128 blankLine, 0)
  | c, m, [_, arg] =>
    let shown := psUSBCmdTable.foldl (fun c psCmdEntry =>
      if strncmp m arg psCmdEntry.pcCmd 10 then
        c.sprintf 128 (topicText (textFrom 0 m cmdbufSize arg) psCmdEntry)
      else c) c
    (shown.sprintf 128 blankLine, 0)
  | c, _, [] => (c.sprintf 128 blankLine, 0)
  | c, _, _ => (c, cmdLineTooManyArgs)

def clearScreen : List UInt8 := text "\x1b[2J\x1b[H"

def cmdUSBcls : Handler
  | c, _, _ => (c.sprintf 32 clearScreen, 0)

def firmwareVersion : List Int := [1, 0, 0, 0]

/-- `g_cCMDAboutInformation` with the values of the unit. -/
def aboutText (uniqueID : Fin 4 → UInt32) (info : EepromData) : List UInt8 :=
  text ("\r\n" ++ ansiColorYellow ++ " System\r\n" ++ ansiColorReset ++ " Model number: ") ++
    printD 0 info.boardHardwareVersion.toNat ++ text "\r\n Serial number: " ++
    printD 6 info.unitSerialNumber.toInt32.toInt ++
    text ("\r\n\r\n" ++ ansiColorYellow ++ " Firmware\r\n" ++ ansiColorReset ++
      " System version: ") ++
    (text ".").intercalate (firmwareVersion.map (printD 0)) ++
    text ("\r\n\r\n" ++ ansiColorYellow ++ " Chip ID\r\n" ++ ansiColorReset ++
      " UniqueId: 0x") ++
    (List.finRange 4).flatMap (fun i => printX (uniqueID i)) ++ text "\r\n\r\n"

def rebootInformation : List UInt8 :=
  text ("\r\n" ++ ansiColorMagenta ++ " Rebooting the system\r\n\r\n" ++ ansiColorReset ++
    ansiColorCyan ++ " Close this terminal and open a new one!" ++ ansiColorReset) ++ [0]

def dfuInformation : List UInt8 :=
  text ("\r\n" ++ ansiColorMagenta ++ " Entering in Device Firmware Upgrade (DFU) mode\r\n\r\n" ++
    ansiColorReset ++ ansiColorCyan ++ " Close this terminal and open a new one!" ++
    ansiColorReset) ++ [0]

structure Board where
  cCMDContactInformation : List UInt8
  uniqueID : Fin 4 → UInt32

variable (board : Board)

def cmdUSBcontact : Handler
  | c, _, _ => (c.sendData board.cCMDContactInformation, 0)

def cmdUSBabout : Handler
  | c, _, _ => (c.sprintf 256 (aboutText board.uniqueID (c.device.eeprom.ram .data)), 0)

/-- `SysCtlReset` does not return. -/
def cmdUSBreboot : Handler
  | c, _, _ => ({ c.sendData rebootInformation with point := .reset }, 0)

def cmdUSBenterProgrammingMode : Handler
  | c, _, _ => ({ c.sendData dfuInformation with point := .bootLoader }, 0)

def Command.pfnCmd : Command → Handler
  | .help => cmdUSBhelp
  | .cls => cmdUSBcls
  | .contact => cmdUSBcontact board
  | .about => cmdUSBabout board
  | .reboot => cmdUSBreboot
  | .enterProgrammingMode => cmdUSBenterProgrammingMode
  | .set => cmdUSBset

end SystemMaster.Usb.Terminal
