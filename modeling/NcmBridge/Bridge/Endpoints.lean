import NcmBridge.IoFault
import NcmBridge.Octets

/-!
# The two ends of a bridge

A bridge joins a USB link, which carries blocks, and a TAP interface, which carries frames. What the
ends do is given by a record of operations on some state. The two blocking reads may have to wait, and
then have no outcome yet, though the state may have changed; all other operations have one at once.
-/

namespace NcmBridge

/-- The operations of a link and an interface whose state is of type `σ`. -/
structure Endpoints (σ : Type) where
  /-- Waits for a frame; no bytes mean that no more frames will come. -/
  readFrame : σ → Option (IoResult Octets) × σ
  /-- Takes a frame that waits already, if there is one. -/
  tryReadFrame : σ → IoResult (Option Octets) × σ
  /-- Sends a block to the device. -/
  writeBlock : Octets → σ → IoResult Unit × σ
  /-- Waits for a transfer of at most so many bytes; no bytes mean that no more will come. -/
  readTransfer : Nat → σ → Option (IoResult Octets) × σ
  /-- Hands a frame to the host. -/
  writeFrame : Octets → σ → IoResult Unit × σ
  /-- Closes the link; its waiting read comes back. -/
  closeLink : σ → σ
  /-- Closes the interface; its waiting read comes back. -/
  closeInterface : σ → σ

/-- Room for a frame with a VLAN tag; a longer frame is cut. -/
def frameBufferLen : Nat := 2048

end NcmBridge
