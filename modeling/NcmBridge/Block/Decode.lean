import NcmBridge.Block.Header

/-!
# Reading blocks

`decode` lists the datagrams of a block in the order of its tables and their entries. Offsets and
lengths come from the device and are checked before they are used. A chain of tables may go back and
forth, but no more tables are followed than fit the block side by side, which ends every cycle.
-/

namespace NcmBridge

namespace Decode

/-- The datagrams that the entries of one table name, up to its last entry. -/
def datagrams (block : Octets) (size : Nat) : Octets → Except BlockError (List Octets)
  | b0 :: b1 :: b2 :: b3 :: rest => do
    let pointer ← DatagramPointer.parse [b0, b1, b2, b3]
    if pointer.isTerminator then
      return []
    let start := pointer.offset.toNat
    let stop := start + pointer.length.toNat
    if start < transferHeaderLen then
      throw (.pointerOutOfBounds start size)
    if size < stop then
      throw (.truncated stop size)
    let frame ← block.slice start pointer.length.toNat
    return frame :: (← datagrams block size rest)
  | _ => return []

/-- The datagrams of the chain of tables from `index` on, at most `budget` tables long. -/
def tables (block : Octets) (size : Nat) : (budget index : Nat) → Except BlockError (List Octets)
  | 0, index => throw (.pointerOutOfBounds index size)
  | budget + 1, index => do
    if index < transferHeaderLen || size < index + tableHeaderLen then
      throw (.pointerOutOfBounds index size)
    let table ← TableHeader.parse block index
    let len := table.length.toNat
    if len < tableHeaderLen || size < index + len then
      throw (.pointerOutOfBounds index size)
    let entries ← block.slice (index + tableHeaderLen) (len - tableHeaderLen)
    let frames ← datagrams block size entries
    if table.next = 0 then
      return frames
    return frames ++ (← tables block size budget table.next.toNat)

end Decode

/-- The datagrams of a block; bytes past the declared length are ignored. -/
def decode (bytes : Octets) : Except BlockError (List Octets) := do
  let header ← TransferHeader.parse bytes
  let size := header.blockLen.toNat
  if size < transferHeaderLen then
    throw (.truncated transferHeaderLen size)
  if (bytes.take size).length < size then
    throw (.truncated size bytes.length)
  Decode.tables (bytes.take size) size (size / tableHeaderLen) header.tableIndex.toNat

end NcmBridge
