import NcmBridge.Block.Header

/-!
# Layout of a block

A written block has one table right after the transfer header and then the datagrams in order.
Every datagram starts at an offset that is 2 modulo 4, so that what follows the 14 bytes of an
Ethernet header is aligned to words. `blockLen` tells the length of the block from the lengths of
its frames alone, and `pointers` where each frame goes.
-/

namespace NcmBridge.Layout

/-- The least offset from `pos` on that is 2 modulo 4. -/
def align (pos : Nat) : Nat := (pos + 1) / 4 * 4 + 2

/-- Length of a table with so many datagrams and a last entry. -/
def tableLen (count : Nat) : Nat := tableHeaderLen + entryLen * (count + 1)

/-- Where the table ends and the datagrams may begin. -/
def tableEnd (count : Nat) : Nat := transferHeaderLen + tableLen count

/-- Where the datagrams end when the first may begin at `pos`. -/
def endFrom (pos : Nat) (lengths : List Nat) : Nat :=
  lengths.foldl (fun last len => align last + len) pos

/-- Length of the block that holds frames of the given lengths. -/
def blockLen (lengths : List Nat) : Nat := endFrom (tableEnd lengths.length) lengths

/-- Offset and length of each datagram when the first may begin at `pos`. -/
def spansFrom (pos : Nat) : List Nat → List (Nat × Nat)
  | [] => []
  | len :: rest => (align pos, len) :: spansFrom (align pos + len) rest

/-- The datagrams with their padding when the first may begin at `pos`. -/
def payloadFrom (pos : Nat) : List Octets → Octets
  | [] => []
  | frame :: rest =>
    Octets.zeros (align pos - pos) ++ (frame ++ payloadFrom (align pos + frame.length) rest)

/-! ### Small facts -/

theorem le_align (pos : Nat) : pos ≤ align pos := by
  unfold align; omega

theorem align_mod (pos : Nat) : align pos % 4 = 2 := by
  unfold align; omega

@[simp] theorem endFrom_nil (pos : Nat) : endFrom pos [] = pos := rfl

@[simp] theorem endFrom_cons (pos len : Nat) (rest : List Nat) :
    endFrom pos (len :: rest) = endFrom (align pos + len) rest := rfl

end NcmBridge.Layout
