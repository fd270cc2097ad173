import NcmBridge.Block.Layout

/-!
# Writing blocks

An encoder numbers the blocks of one direction. A block that would be too long is refused, and then
its number is not used up.
-/

namespace NcmBridge

/-- The writer of blocks for one direction, with the number of its next block. -/
structure Encoder where
  sequence : UInt16 := 0
  deriving DecidableEq, Repr, Inhabited

namespace Encoder

/-- The block with number `sequence` that carries `frames`. -/
def render (sequence : UInt16) (frames : List Octets) : Octets :=
  let lengths := frames.map List.length
  let header : TransferHeader :=
    ⟨sequence, UInt16.ofNat (Layout.blockLen lengths), UInt16.ofNat transferHeaderLen⟩
  let table : TableHeader := ⟨UInt16.ofNat (Layout.tableLen frames.length), 0⟩
  let pointers := (Layout.spansFrom (Layout.tableEnd frames.length) lengths).map fun span =>
    DatagramPointer.mk (UInt16.ofNat span.1) (UInt16.ofNat span.2)
  header.encode ++ (table.encode ++ (pointers.flatMap DatagramPointer.encode ++
    (DatagramPointer.terminator.encode ++
      Layout.payloadFrom (Layout.tableEnd frames.length) frames)))

/-- Writes frames as the next block, and gives the encoder as it is then. -/
def write (e : Encoder) (frames : List Octets) : Except BlockError Octets × Encoder :=
  let size := Layout.blockLen (frames.map List.length)
  if maxBlockLen < size then
    (.error (.tooLarge size maxBlockLen), e)
  else
    (.ok (render e.sequence frames), ⟨e.sequence + 1⟩)

/-- The next block together with the encoder for the one after it. -/
def encode (e : Encoder) (frames : List Octets) : Except BlockError (Octets × Encoder) :=
  (e.write frames).1.map (·, (e.write frames).2)

end Encoder

end NcmBridge
