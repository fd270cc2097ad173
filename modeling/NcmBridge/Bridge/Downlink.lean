import NcmBridge.Block.Decode
import NcmBridge.Bridge.Endpoints
import NcmBridge.Bridge.FrameSummary
import NcmBridge.Bridge.Pump
import NcmBridge.Link.BulkQueue

/-!
# From the device to the host

The downlink frames the stream of transfers into blocks, decodes each block as a whole, and hands its
frames to the interface one after another. When a block does not begin as it should, and the bridge
may resynchronise, the next block is looked for.
-/

namespace NcmBridge

namespace Downlink

/-- Where the downlink stands. -/
inductive Phase
  /-- It reads a block; `searching` says that it had to look for its beginning. -/
  | reading (reading : Reading) (searching : Bool)
  /-- It writes a frame, and then the frames after it. -/
  | delivering (reader : BlockReader) (frame : Octets) (later : List Octets)
  | ended (result : PumpResult)

end Downlink

/-- The pump from the device to the host. -/
structure Downlink where
  queue : BulkQueue
  phase : Downlink.Phase

namespace Downlink

/-- The downlink over a link whose transfers have at most `chunkLen` bytes. -/
def ofChunkLen (chunkLen : Nat) : Downlink :=
  ⟨.ofChunkLen chunkLen, .reading ({} : BlockReader).next false⟩

/-- Begins to deliver frames; after the last the next block is read. -/
def deliver (serial : String) (d : Downlink) (reader : BlockReader) :
    List Octets → Downlink × List Note
  | [] => ({ d with phase := .reading reader.next false }, [])
  | frame :: later =>
    ({ d with phase := .delivering reader frame later },
      [.traced s!"{serial}: tap out {frameSummary frame}"])

/-- Goes on with what reading a block yielded. -/
def receiveBlock (serial : String) (d : Downlink) (reader : BlockReader) :
    BlockResult → Downlink × List Note
  | .error e => ({ d with phase := .ended (.error (.ofBlock e)) }, [])
  | .ok none => ({ d with phase := .ended (.ok ()) }, [])
  | .ok (some block) =>
    match decode block with
    | .error e =>
      ({ d with phase := .ended (.error (.ofBlock e)) }, [.counted .usbReceive block.length])
    | .ok frames =>
      let (d, notes) := d.deliver serial reader frames
      (d, .counted .usbReceive block.length ::
        .traced s!"{serial}: usb in {frames.length} frame(s)" :: notes)

def receiveSearch (serial : String) (d : Downlink) : ReadStep → Downlink × List Note
  | .more reading => ({ d with phase := .reading reading true }, [])
  | .done reader result => d.receiveBlock serial reader result

/-- Goes on with a step of reading a block where it should begin. -/
def receiveRead (serial : String) (options : BridgeOptions) (d : Downlink) :
    ReadStep → Downlink × List Note
  | .more reading => ({ d with phase := .reading reading false }, [])
  | .done reader (.error (.invalidSignature found)) =>
    if options.resync then
      let line := s!"{serial}: bad NTH signature 0x{hexDigits 8 found.toNat}, resynchronising"
      let (d, notes) := d.receiveSearch serial (reader.resync BlockReader.defaultResyncLimit)
      (d, .logged ⟨.bridge, .warn, line⟩ :: notes)
    else
      d.receiveBlock serial reader (.error (.invalidSignature found))
  | .done reader result => d.receiveBlock serial reader result

def receiveStep (serial : String) (options : BridgeOptions) (searching : Bool) (d : Downlink)
    (step : ReadStep) : Downlink × List Note :=
  if searching then d.receiveSearch serial step else d.receiveRead serial options step

/-- Goes on with the outcome of a read of the link. -/
def receiveTransfer (serial : String) (options : BridgeOptions) (searching : Bool)
    (reading : Reading) (d : Downlink) : IoResult Octets → Downlink × List Note
  | .ok (b :: bytes) => ({ d with queue := d.queue.refill (b :: bytes) }, [])
  | got => d.receiveStep serial options searching (reading.receive got)

def receiveWritten (serial : String) (d : Downlink) (reader : BlockReader) (frame : Octets)
    (later : List Octets) : IoResult Unit → Downlink × List Note
  | .error fault => ({ d with phase := .ended (.error (.interface fault)) }, [])
  | .ok () =>
    let (d, notes) := d.deliver serial reader later
    (d, .counted .networkSend frame.length :: notes)

/-- One step: bytes of the last transfer are used up first, and else there is one operation on the
ends. There is none while the downlink waits, or when it has ended. -/
def step {σ : Type} (ends : Endpoints σ) (serial : String) (options : BridgeOptions)
    (d : Downlink) (s : σ) : Option (Downlink × List Note) × σ :=
  match d.phase with
  | .reading reading searching =>
    if d.queue.left.isEmpty then
      let (got, s) := ends.readTransfer d.queue.chunkLen s
      (got.map (d.receiveTransfer serial options searching reading), s)
    else
      let (queue, step) := d.queue.feed reading
      (some (({ d with queue } : Downlink).receiveStep serial options searching step), s)
  | .delivering reader frame later =>
    let (got, s) := ends.writeFrame frame s
    (some (d.receiveWritten serial reader frame later got), s)
  | .ended _ => (none, s)

def result? (d : Downlink) : Option PumpResult :=
  match d.phase with
  | .ended result => some result
  | _ => none

end Downlink

end NcmBridge
