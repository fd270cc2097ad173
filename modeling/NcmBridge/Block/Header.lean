import NcmBridge.Block.Error

/-!
# Headers of a transfer block

A block begins with a transfer header of 12 bytes, which points at the first pointer table. A table
has a header of 8 bytes and then entries of 4 bytes, each the offset and length of a datagram; an
entry with a zero in it ends the table. Tables form a chain that ends in the index 0.

```text
transfer header:  "NCMH"  header length  sequence  block length  table index
table header:     "NCM0"  table length   next table index
entry:            offset  length
```

All fields are little-endian; the signatures take 32 bits and the other fields 16.
-/

namespace NcmBridge

/-- The text `NCMH` as a little-endian word. -/
def transferSignature : UInt32 := 0x484D434E

/-- The text `NCM0` as a little-endian word. -/
def tableSignature : UInt32 := 0x304D434E

def transferHeaderLen : Nat := 12

def tableHeaderLen : Nat := 8

def entryLen : Nat := 4

/-- The longest block whose length fits its field. -/
def maxBlockLen : Nat := 65535

/-- The longest Ethernet frame without a VLAN tag or checksum. -/
def maxFrameLen : Nat := 1514

/-! ### Transfer header -/

/-- What the transfer header says of its block. -/
structure TransferHeader where
  sequence : UInt16
  blockLen : UInt16
  tableIndex : UInt16
  deriving DecidableEq, Repr, Inhabited

namespace TransferHeader

/-- Reads the header at the start of `bytes`; a wrong signature is reported before all else. -/
def parse (bytes : Octets) : Except BlockError TransferHeader := do
  if (bytes.take 4).length < 4 then
    throw (.truncated transferHeaderLen bytes.length)
  let signature ← bytes.word32 0
  if signature ≠ transferSignature then
    throw (.invalidSignature signature)
  if (bytes.take transferHeaderLen).length < transferHeaderLen then
    throw (.truncated transferHeaderLen bytes.length)
  let headerLen ← bytes.word16 4
  if headerLen.toNat ≠ transferHeaderLen then
    throw (.invalidHeaderLength headerLen)
  return ⟨← bytes.word16 6, ← bytes.word16 8, ← bytes.word16 10⟩

def encode (h : TransferHeader) : Octets :=
  Octets.ofWord32 transferSignature ++ Octets.ofWord16 (UInt16.ofNat transferHeaderLen) ++
    Octets.ofWord16 h.sequence ++ Octets.ofWord16 h.blockLen ++ Octets.ofWord16 h.tableIndex

def summary (h : TransferHeader) : String :=
  s!"NTH[seq={h.sequence.toNat}, block_len={h.blockLen.toNat}, ndp_index={h.tableIndex.toNat}]"

@[simp] theorem length_encode (h : TransferHeader) : h.encode.length = 12 := rfl

end TransferHeader

/-! ### Table header -/

/-- What a pointer table says of itself: its length with header and last entry, and the index of
the next table or 0. -/
structure TableHeader where
  length : UInt16
  next : UInt16
  deriving DecidableEq, Repr, Inhabited

namespace TableHeader

/-- Reads the table header at `offset` of a block. -/
def parse (block : Octets) (offset : Nat) : Except BlockError TableHeader := do
  match block.slice? offset tableHeaderLen with
  | none => throw (.truncated (offset + tableHeaderLen) block.length)
  | some bytes =>
    let signature ← bytes.word32 0
    if signature ≠ tableSignature then
      throw (.invalidTableSignature offset signature)
    return ⟨← bytes.word16 4, ← bytes.word16 6⟩

def encode (t : TableHeader) : Octets :=
  Octets.ofWord32 tableSignature ++ Octets.ofWord16 t.length ++ Octets.ofWord16 t.next

def summary (t : TableHeader) : String :=
  s!"NDP[len={t.length.toNat}, next={t.next.toNat}]"

@[simp] theorem length_encode (t : TableHeader) : t.encode.length = 8 := rfl

end TableHeader

/-! ### Table entry -/

/-- Where a datagram lies in its block. -/
structure DatagramPointer where
  offset : UInt16
  length : UInt16
  deriving DecidableEq, Repr, Inhabited

namespace DatagramPointer

/-- The entry that closes a table. -/
def terminator : DatagramPointer := ⟨0, 0⟩

/-- An entry with a zero offset or a zero length ends its table. -/
def isTerminator (p : DatagramPointer) : Bool := p.offset == 0 || p.length == 0

def parse (bytes : Octets) : Except BlockError DatagramPointer := do
  return ⟨← bytes.word16 0, ← bytes.word16 2⟩

def encode (p : DatagramPointer) : Octets :=
  Octets.ofWord16 p.offset ++ Octets.ofWord16 p.length

@[simp] theorem length_encode (p : DatagramPointer) : p.encode.length = 4 := rfl

end DatagramPointer

end NcmBridge
