import NcmBridge.Errno
import NcmBridge.Log
import NcmBridge.Text.Blank
import NcmBridge.Text.Lossy
import NcmBridge.Version

/-!
# Checks before the start

The program runs on one system only, needs a recent `usbmuxd`, and must run as root. The checks are
made in this order, and the first that fails ends the program.
-/

namespace NcmBridge

/-- Why the program must not start. -/
inductive PreflightError
  | unsupportedSystem (name : String)
  | notRoot (userId : Nat)
  | usbmuxdMissing (e : Errno)
  | unparseableVersion (line : String) (e : VersionError)
  | versionTooOld (found required : Version)
  deriving DecidableEq, Repr, Inhabited

namespace PreflightError

def message : PreflightError → String
  | unsupportedSystem name => s!"cdc-ncm only runs on linux, not {name}"
  | notRoot userId => s!"cdc-ncm must run as root (effective uid is {userId})"
  | usbmuxdMissing e => s!"Could not run usbmuxd --version, is usbmuxd installed? ({e.text})"
  | unparseableVersion line e => s!"Could not parse usbmuxd version from '{line}': {e.message}"
  | versionTooOld found required =>
    s!"usbmuxd {found.text} is too old, at least {required.text} is required"

def chain (e : PreflightError) : List String :=
  e.message :: match e with
    | usbmuxdMissing cause => [cause.text]
    | unparseableVersion _ cause => [cause.message]
    | _ => []

end PreflightError

namespace Preflight

/-- Only one system will do. -/
def checkSystem (name : String) : Except PreflightError Unit :=
  if name = "linux" then .ok () else .error (.unsupportedSystem name)

def checkRoot (userId : Nat) : Except PreflightError Unit :=
  if userId = 0 then .ok () else .error (.notRoot userId)

/-- The first line of a text, without blanks at its ends. -/
def firstLine (output : String) : String :=
  Text.trim (String.ofList ((Text.trim output).toList.takeWhile (· ≠ '\n')))

/-- The text after `usbmuxd` and a space, if it begins so. -/
def afterName (line : List Char) : List Char :=
  let name := "usbmuxd ".toList
  if name.isPrefixOf line then line.drop name.length else line

def parseVersion (output : String) : Except PreflightError Version :=
  let line := firstLine output
  (Version.parse (Text.trim (String.ofList (afterName line.toList)))).mapError
    (.unparseableVersion line)

/-- A version must not come before the one that is required. -/
def checkVersion (found required : Version) : Except PreflightError Unit :=
  if found.cmp required = .lt then .error (.versionTooOld found required) else .ok ()

/-- What a program writes when it is run. -/
inductive ProgramOutput
  | missing
  | written (stdout stderr : Octets)
  deriving DecidableEq, Repr, Inhabited

/-- A byte that a text is blank with. -/
def isBlankByte (b : UInt8) : Bool := b = 0x20 || b = 0x09 || b = 0x0A || b = 0x0C || b = 0x0D

/-- What `usbmuxd` says when it is asked for its version; it may write that to either output. -/
def usbmuxdText : ProgramOutput → Except PreflightError String
  | .missing => .error (.usbmuxdMissing .noEntry)
  | .written stdout stderr =>
    .ok (if stdout.all isBlankByte then stderr.lossyText else stdout.lossyText)

/-- Makes all checks, and tells what is to be logged. -/
def run (required : Version) (skip : Bool) (usbmuxd : ProgramOutput) (userId : Nat) :
    List LogLine × Except PreflightError Unit :=
  if skip then
    ([⟨.preflight, .debug, "Skipping usbmuxd version check"⟩], checkRoot userId)
  else
    match usbmuxdText usbmuxd with
    | .error e => ([], .error e)
    | .ok output =>
      let asked : LogLine := ⟨.preflight, .debug, s!"usbmuxd --version: {Text.trim output}"⟩
      match parseVersion output with
      | .error e => ([asked], .error e)
      | .ok found =>
        match checkVersion found required with
        | .error e => ([asked], .error e)
        | .ok () => ([asked, ⟨.preflight, .info, s!"usbmuxd {found.text}"⟩], checkRoot userId)

end Preflight

end NcmBridge
