import NcmBridge.IoFault
import NcmBridge.Octets

/-!
# Block errors

Why a block cannot be read or written. All causes but a failed read and an unsuccessful search for
the next block say that the block itself is malformed.
-/

namespace NcmBridge

/-- Why a block cannot be read or written. -/
inductive BlockError
  /-- The first four bytes are not the signature of a transfer header. -/
  | invalidSignature (found : UInt32)
  /-- The transfer header declares a length of its own other than 12. -/
  | invalidHeaderLength (found : UInt16)
  /-- A pointer table does not begin with its signature. -/
  | invalidTableSignature (offset : Nat) (found : UInt32)
  /-- Something needs more bytes than there are. -/
  | truncated (needed available : Nat)
  /-- A table or datagram pointer lies outside its bounds. -/
  | pointerOutOfBounds (offset blockLen : Nat)
  /-- The frames need a block longer than its 16-bit length can say. -/
  | tooLarge (size max : Nat)
  /-- No signature was found while looking for the next block. -/
  | resyncFailed (scanned : Nat)
  /-- The stream underneath failed. -/
  | io (fault : IoFault)
  /-- A checked read left the bytes at hand. -/
  | readOutside (position len : Nat)
  deriving DecidableEq, Repr, Inhabited

namespace BlockError

/-- Whether the contents of the block are to blame, not the stream or the reader. -/
def isMalformed : BlockError → Bool
  | io _ | resyncFailed _ | readOutside _ _ => false
  | _ => true

def message : BlockError → String
  | invalidSignature found => s!"Invalid NTH signature: 0x{hexDigits 8 found.toNat}"
  | invalidHeaderLength found => s!"Invalid NTH header length: {found.toNat}"
  | invalidTableSignature offset found =>
    s!"Invalid NDP signature at offset {offset}: 0x{hexDigits 8 found.toNat}"
  | truncated needed available => s!"Truncated block: needed {needed} bytes, got {available}"
  | pointerOutOfBounds offset blockLen =>
    s!"Pointer out of bounds: offset {offset} in block of {blockLen} bytes"
  | tooLarge size max => s!"Block too large: {size} bytes (max: {max})"
  | resyncFailed scanned => s!"Resync failed: no NTH signature within {scanned} bytes"
  | io fault => s!"I/O error: {fault.text}"
  | readOutside position len => s!"Read of {len} bytes at {position} outside the block"

end BlockError

namespace Octets

/-- A slice whose absence is an error. -/
def slice (bytes : Octets) (start len : Nat) : Except BlockError Octets :=
  match bytes.slice? start len with
  | some piece => .ok piece
  | none => .error (.readOutside start len)

def word16 (bytes : Octets) (pos : Nat) : Except BlockError UInt16 :=
  match bytes.word16? pos with
  | some w => .ok w
  | none => .error (.readOutside pos 2)

def word32 (bytes : Octets) (pos : Nat) : Except BlockError UInt32 :=
  match bytes.word32? pos with
  | some w => .ok w
  | none => .error (.readOutside pos 4)

end Octets

end NcmBridge
