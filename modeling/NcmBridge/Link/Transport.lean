import NcmBridge.Link.Bus
import NcmBridge.Link.Session

/-!
# The link of a device

A link is an open device with the interface that was brought up on it. Each read and each packet of a
write is a transfer of its own with a short time limit, and between transfers the link looks whether
it was closed.
-/

namespace NcmBridge

structure Transport where
  session : DeviceSession
  ncm : NcmInterface
  serial : String
  /-- How long a transfer may take, in milliseconds. -/
  timeout : Nat
  closed : Bool := false
  /-- A read has begun a transfer that has no outcome yet. -/
  reading : Bool := false
  deriving DecidableEq, Repr, Inhabited

namespace Transport

/-- Opens a device and brings it up. -/
def connect {σ : Type} (port : UsbPort σ) (ref : DeviceRef) (serial : String) (timeout : Nat) :
    LinkM σ Transport := do
  let (session, ncm) ← DeviceSession.activate port ref serial
  return { session, ncm, serial, timeout }

def closeLine (serial : String) : LogLine := ⟨.activation, .debug, s!"{serial}: Ready -> Closed"⟩

def close (t : Transport) : Transport := { t with closed := true }

/-- Undoes what was done to the device and closes it, and before that the link if it is still open. What
was undone with the link is not undone again with the device. -/
def drop {σ : Type} (port : UsbPort σ) (t : Transport) (s : σ) : σ :=
  let s := if t.closed then s else port.log (closeLine t.serial) s
  let (session, s) := t.session.release port s
  session.close port (port.log ⟨.transport, .debug, s!"{t.serial}: USB handle closed"⟩ s)

/-- The log line of a block that needs an empty packet at its end. -/
def emptyPacketLine? (block : Octets) (t : Transport) : Option LogLine :=
  if Packets.needsEmptyPacket block.length t.ncm.bulkOut.maxPacketSize then
    some ⟨.transport, .trace, s!"{t.serial}: sending ZLP after {block.length} bytes"⟩
  else
    none

def writeBlock (block : Octets) (t : Transport) (b : Bus) : IoResult Unit × Transport × Bus :=
  let packets := Packets.ofBlock t.ncm.bulkOut.maxPacketSize block
  match b.device? t.session.ref with
  | none => (.error UsbFault.noDevice.ioFault, t, b)
  | some d =>
    let sent := Sending.run packets t.closed d.packets
    let calls := sent.attempts.map fun a => BusCall.bulkOut t.ncm.bulkOut.address a.packet t.timeout
    (sent.result, { t with closed := sent.closed },
      (b.noteAll d.ref calls).put { d with packets := sent.left })

/-- Goes on with a transfer that has no outcome yet. -/
def resume (silence : Silence) (t : Transport) : Option (IoResult Octets) × Transport :=
  match silence with
  | .failing f => (some (.error f.ioFault), { t with reading := false })
  | .hanging => (none, t)
  | .idle => if t.closed then (some (.ok []), { t with reading := false }) else (none, t)

/-- Reads one transfer into a buffer of `len` bytes; there is no outcome if the last transfer begun
has none. -/
def readTransfer (len : Nat) (t : Transport) (b : Bus) :
    Option (IoResult Octets) × Transport × Bus :=
  if t.reading then
    let (got, t) := t.resume b.silence
    (got, t, b)
  else
    match b.device? t.session.ref with
    | none => (some (.error UsbFault.noDevice.ioFault), t, b)
    | some d =>
      let r := Receiving.run len b.silence t.closed d.transfers
      let call := BusCall.bulkIn t.ncm.bulkIn.address len t.timeout
      (r.result, { t with closed := r.closed, reading := r.result.isNone },
        (b.noteAll d.ref (List.replicate r.transfers call)).put { d with transfers := r.left })

end Transport

end NcmBridge
