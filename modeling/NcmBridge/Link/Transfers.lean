import NcmBridge.Link.Fault
import NcmBridge.Octets

/-!
# Transfers from the device

A read of the link takes one transfer. Timed out and empty transfers are passed over, and a read of a
closed link yields nothing.
-/

namespace NcmBridge

/-- How a transfer from the device ends. -/
structure TransferOutcome where
  result : Except UsbFault Octets := .ok []
  /-- The link is closed before the transfer ends. -/
  closes : Bool := false
  deriving Inhabited

/-- What a transfer meets when no more outcomes are laid out. -/
inductive Silence
  /-- It fails. -/
  | failing (f : UsbFault)
  /-- It neither ends nor times out. -/
  | hanging
  /-- Transfers time out for ever. -/
  | idle
  deriving DecidableEq, Repr, Inhabited

/-- The outcome of a read, and what is left. -/
structure Receiving where
  /-- There is no outcome if the last transfer has none. -/
  result : Option (IoResult Octets)
  closed : Bool
  left : List TransferOutcome
  /-- How many transfers were begun. -/
  transfers : Nat
  deriving Inhabited

namespace Receiving

/-- Adds a transfer that was begun first. -/
def after (r : Receiving) : Receiving := { r with transfers := r.transfers + 1 }

/-- Reads a transfer into a buffer of `len` bytes. -/
def run (len : Nat) (silence : Silence) : Bool → List TransferOutcome → Receiving
  | true, outcomes => ⟨some (.ok []), true, outcomes, 0⟩
  | false, [] =>
    match silence with
    | .failing f => ⟨some (.error f.ioFault), false, [], 1⟩
    | .hanging => ⟨none, false, [], 1⟩
    | .idle => ⟨none, false, [], 0⟩
  | false, o :: outcomes =>
    match o.result with
    | .ok [] | .error .timeout => (run len silence o.closes outcomes).after
    | .ok (b :: bytes) =>
      if len < (b :: bytes).length then
        ⟨some (.error UsbFault.overflow.ioFault), o.closes, outcomes, 1⟩
      else
        ⟨some (.ok (b :: bytes)), o.closes, outcomes, 1⟩
    | .error f => ⟨some (.error f.ioFault), o.closes, outcomes, 1⟩

end Receiving

end NcmBridge
