import NcmBridge.Block.Error
import NcmBridge.Log
import NcmBridge.Party
import NcmBridge.Telemetry.Registry

/-!
# What the two pumps of a bridge have in common

The uplink carries frames of the host to the device, the downlink those of the device to the host. A
pump ends well at the end of its stream, or with a failure of the link, of the interface or of the
blocks themselves. What it counts and logs on its way are notes.
-/

namespace NcmBridge

/-- How a bridge packs frames, and what it does when a block does not begin as it should. -/
structure BridgeOptions where
  /-- Frames that wait already go into the same block. -/
  batchFrames : Bool := false
  /-- No further frame is packed if that would make the block longer than this. -/
  batchLimit : Nat := 16 * 1024
  /-- After a wrong signature the next block is looked for, and the bridge is not closed. -/
  resync : Bool := true
  deriving DecidableEq, Repr, Inhabited

/-- Why a pump failed. -/
inductive PumpError
  | link (fault : IoFault)
  | interface (fault : IoFault)
  | block (error : BlockError)
  deriving DecidableEq, Repr, Inhabited

namespace PumpError

/-- A failed read under a reader of blocks is a failure of the link. -/
def ofBlock : BlockError → PumpError
  | .io fault => link fault
  | error => block error

/-- Whether the device sent bytes that are no block. -/
def isMalformed : PumpError → Bool
  | block error => error.isMalformed
  | _ => false

def message : PumpError → String
  | link fault => s!"USB I/O failed: {fault.text}"
  | interface fault => s!"TAP I/O failed: {fault.text}"
  | block error => s!"NCM framing error: {error.message}"

end PumpError

abbrev PumpResult := Except PumpError Unit

/-- Something that a pump counts or logs. -/
inductive Note
  | counted (counter : Counter) (amount : Nat)
  | logged (line : LogLine)
  deriving DecidableEq, Repr, Inhabited

namespace Note

/-- A line for the finest log level. -/
def traced (text : String) : Note := logged ⟨.bridge, .trace, text⟩

/-- Enters what was counted for a serial. -/
def enter (serial : String) (r : Registry) : Note → Registry
  | counted counter amount => r.add counter serial (UInt64.ofNat amount)
  | logged _ => r

def line? : Note → Option LogLine
  | counted _ _ => none
  | logged line => some line

end Note

/-- The log line of a pump that ends; after the bridge was closed a failure is to be expected. -/
def endLine (serial : String) (direction : Direction) (closed : Bool) : PumpResult → LogLine
  | .ok () => ⟨.bridge, .debug, s!"{serial}: {direction.name} pump reached end of stream"⟩
  | .error e =>
    if closed then
      ⟨.bridge, .debug, s!"{serial}: {direction.name} pump stopped after close: {e.message}"⟩
    else if e.isMalformed then
      ⟨.bridge, .warn, s!"{serial}: {direction.name} pump dropped a malformed NTB: {e.message}"⟩
    else
      ⟨.bridge, .error, s!"{serial}: {direction.name} pump failed: {e.message}"⟩

end NcmBridge
