import NcmBridge.Link.Fault
import NcmBridge.Octets

/-!
# Packets of a bulk transfer

A block goes out packet by packet. A block of whole packets is followed by an empty packet, which ends
the transfer; without it the device could not tell where the block ends. A packet that timed out was
not moved, and is sent again; a packet that was taken in part ends the write.
-/

namespace NcmBridge

namespace Packets

/-- Whether an empty packet has to end the transfer of so many bytes. -/
def needsEmptyPacket (len maxPacket : Nat) : Bool := 0 < maxPacket && len % maxPacket == 0

/-- The pieces of `size` bytes, the last of which may be shorter. -/
def pieces (size : Nat) (data : Octets) : List Octets :=
  if _h : size = 0 ∨ data = [] then []
  else data.take size :: pieces size (data.drop size)
termination_by data.length
decreasing_by
  have := List.length_pos_iff.2 (not_or.1 _h).2
  simp only [List.length_drop]
  omega

/-- The packets of a block; a packet size of 0 stands for no limit. -/
def ofBlock (maxPacket : Nat) (block : Octets) : List Octets :=
  pieces (if maxPacket = 0 then max block.length 1 else maxPacket) block ++
    (if needsEmptyPacket block.length maxPacket then [[]] else [])

end Packets

/-- How the transfer of a packet ends. -/
structure PacketOutcome where
  /-- The bytes taken, if not all; or a fault. -/
  result : Except UsbFault (Option Nat) := .ok none
  /-- The link is closed before the transfer ends. -/
  closes : Bool := false
  deriving Inhabited

/-- A packet that was tried, and whether it was taken whole. -/
structure PacketAttempt where
  packet : Octets
  accepted : Bool
  deriving DecidableEq, Repr, Inhabited

/-- The outcome of a write, and what is left. -/
structure Sending where
  result : IoResult Unit
  closed : Bool
  left : List PacketOutcome
  /-- The packets tried, in order. -/
  attempts : List PacketAttempt
  deriving Inhabited

namespace Sending

/-- A write to a link that was closed. -/
def closedFault : IoFault := ⟨.brokenPipe, "USB link closed"⟩

/-- A packet that was taken in part. -/
def shortFault (n len : Nat) : IoFault := ⟨.writeZero, s!"short bulk OUT packet: {n} of {len} bytes"⟩

/-- Adds a packet that was tried first. -/
def after (packet : Octets) (accepted : Bool) (s : Sending) : Sending :=
  { s with attempts := ⟨packet, accepted⟩ :: s.attempts }

/-- Sends packets; where no more outcomes are laid out, packets are taken whole. -/
def run : List Octets → Bool → List PacketOutcome → Sending
  | [], closed, outcomes => ⟨.ok (), closed, outcomes, []⟩
  | _ :: _, true, outcomes => ⟨.error closedFault, true, outcomes, []⟩
  | packet :: packets, false, [] => (run packets false []).after packet true
  | packet :: packets, false, o :: outcomes =>
    match o.result with
    | .ok none => (run packets o.closes outcomes).after packet true
    | .ok (some n) =>
      if n = packet.length then (run packets o.closes outcomes).after packet true
      else ⟨.error (shortFault n packet.length), o.closes, outcomes, [⟨packet, false⟩]⟩
    | .error .timeout => (run (packet :: packets) o.closes outcomes).after packet false
    | .error f => ⟨.error f.ioFault, o.closes, outcomes, [⟨packet, false⟩]⟩
termination_by packets _ outcomes => packets.length + outcomes.length

end Sending

end NcmBridge
