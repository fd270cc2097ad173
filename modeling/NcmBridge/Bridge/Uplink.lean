import NcmBridge.Block.Encoder
import NcmBridge.Bridge.Endpoints
import NcmBridge.Bridge.FrameSummary
import NcmBridge.Bridge.Pump

/-!
# From the host to the device

The uplink waits for a frame, packs it into a block and sends that. If frames are batched, those that
wait already are packed with it, as long as the block stays within its limit; a frame that would
exceed the limit is carried over and becomes the first of the next block.
-/

namespace NcmBridge

namespace Uplink

/-- Where the uplink stands. -/
inductive Phase
  /-- It waits for a frame. -/
  | idle
  /-- It takes frames that wait already; the last frame taken stands first. -/
  | batching (newestFirst : List Octets)
  /-- It sends a block of so many frames. -/
  | sending (block : Octets) (count : Nat) (carried : Option Octets)
  | ended (result : PumpResult)
  deriving Inhabited

end Uplink

/-- The pump from the host to the device. -/
structure Uplink where
  encoder : Encoder := {}
  phase : Uplink.Phase := .idle
  deriving Inhabited

namespace Uplink

/-- The notes on a frame that was read. -/
def arrival (serial : String) (frame : Octets) : List Note :=
  [.counted .networkReceive frame.length, .traced s!"{serial}: tap in {frameSummary frame}"]

def pack (u : Uplink) (newestFirst : List Octets) (carried : Option Octets) : Uplink :=
  match u.encoder.write newestFirst.reverse with
  | (.ok block, encoder) => ⟨encoder, .sending block newestFirst.length carried⟩
  | (.error e, encoder) => ⟨encoder, .ended (.error (.ofBlock e))⟩

def beginBatch (options : BridgeOptions) (u : Uplink) (frame : Octets) : Uplink :=
  if options.batchFrames then { u with phase := .batching [frame] } else u.pack [frame] none

/-- Whether a further frame keeps the block within its limit. -/
def fits (options : BridgeOptions) (newestFirst : List Octets) (frame : Octets) : Bool :=
  Layout.blockLen ((frame :: newestFirst).reverse.map List.length) ≤ options.batchLimit

/-- Goes on with the outcome of the blocking read. -/
def receiveFrame (serial : String) (options : BridgeOptions) (u : Uplink) :
    IoResult Octets → Uplink × List Note
  | .error fault => ({ u with phase := .ended (.error (.interface fault)) }, [])
  | .ok [] => ({ u with phase := .ended (.ok ()) }, [])
  | .ok frame => (u.beginBatch options frame, arrival serial frame)

/-- Goes on with the outcome of a read for a batch. -/
def receiveQueued (serial : String) (options : BridgeOptions) (u : Uplink)
    (newestFirst : List Octets) : IoResult (Option Octets) → Uplink × List Note
  | .error fault => ({ u with phase := .ended (.error (.interface fault)) }, [])
  | .ok none => (u.pack newestFirst none, [])
  | .ok (some frame) =>
    if fits options newestFirst frame then
      ({ u with phase := .batching (frame :: newestFirst) }, arrival serial frame)
    else
      (u.pack newestFirst (some frame), arrival serial frame)

/-- Goes on with the outcome of a write. -/
def receiveSent (serial : String) (options : BridgeOptions) (u : Uplink) (block : Octets)
    (count : Nat) (carried : Option Octets) : IoResult Unit → Uplink × List Note
  | .error fault => ({ u with phase := .ended (.error (.link fault)) }, [])
  | .ok () =>
    let notes := [.counted .usbSend block.length,
      .traced s!"{serial}: usb out {block.length} bytes, {count} frame(s)"]
    match carried with
    | some frame => (u.beginBatch options frame, notes)
    | none => ({ u with phase := .idle }, notes)

/-- One operation on the ends; there is none while the uplink waits, or when it has ended. -/
def step {σ : Type} (ends : Endpoints σ) (serial : String) (options : BridgeOptions) (u : Uplink)
    (s : σ) : Option (Uplink × List Note) × σ :=
  match u.phase with
  | .idle =>
    let (got, s) := ends.readFrame s
    (got.map (u.receiveFrame serial options), s)
  | .batching newestFirst =>
    let (got, s) := ends.tryReadFrame s
    (some (u.receiveQueued serial options newestFirst got), s)
  | .sending block count carried =>
    let (got, s) := ends.writeBlock block s
    (some (u.receiveSent serial options block count carried got), s)
  | .ended _ => (none, s)

def result? (u : Uplink) : Option PumpResult :=
  match u.phase with
  | .ended result => some result
  | _ => none

end Uplink

end NcmBridge
