/-!
# Strings of bytes

Blocks, frames and transfers are plain lists of bytes. Words on the wire are little-endian. A read
at a position is checked: it yields `none` when it would leave the bytes at hand.
-/

namespace NcmBridge

abbrev Octets := List UInt8

namespace Octets

/-! ### Checked reads -/

/-- The `len` bytes from position `start` on, if there are that many. -/
def slice? (bytes : Octets) (start len : Nat) : Option Octets :=
  let piece := (bytes.drop start).take len
  if piece.length = len then some piece else none

/-- The 16-bit word at position `pos`, low byte first. -/
def word16? (bytes : Octets) (pos : Nat) : Option UInt16 :=
  match bytes.drop pos with
  | lo :: hi :: _ => some (UInt16.ofNat (lo.toNat + 256 * hi.toNat))
  | _ => none

def word32? (bytes : Octets) (pos : Nat) : Option UInt32 :=
  match bytes.drop pos with
  | b0 :: b1 :: b2 :: b3 :: _ =>
    some (UInt32.ofNat (b0.toNat + 256 * (b1.toNat + 256 * (b2.toNat + 256 * b3.toNat))))
  | _ => none

/-! ### Words written -/

/-- A 16-bit word, low byte first. -/
def ofWord16 (w : UInt16) : Octets :=
  [UInt8.ofNat (w.toNat % 256), UInt8.ofNat (w.toNat / 256)]

def ofWord32 (w : UInt32) : Octets :=
  [UInt8.ofNat (w.toNat % 256), UInt8.ofNat (w.toNat / 256 % 256),
    UInt8.ofNat (w.toNat / 65536 % 256), UInt8.ofNat (w.toNat / 16777216)]

/-- So many zero bytes. -/
def zeros (n : Nat) : Octets := List.replicate n 0

@[simp] theorem length_ofWord16 (w : UInt16) : (ofWord16 w).length = 2 := rfl

@[simp] theorem length_ofWord32 (w : UInt32) : (ofWord32 w).length = 4 := rfl

@[simp] theorem zeros_zero : zeros 0 = [] := rfl

@[simp] theorem length_zeros (n : Nat) : (zeros n).length = n := by simp [zeros]

end Octets

/-! ### Hexadecimal text -/

/-- The digits of `n` to base sixteen, at least `width` of them. -/
def hexDigits (width n : Nat) : String :=
  let digits := Nat.toDigits 16 n
  String.ofList (List.replicate (width - digits.length) '0' ++ digits)

def Octets.hex (bytes : Octets) : String :=
  String.join (bytes.map fun b => hexDigits 2 b.toNat)

/-- Sixteen digits that tell long strings of bytes apart: the 64-bit FNV-1a hash. -/
def Octets.fingerprint (bytes : Octets) : String :=
  hexDigits 16 (bytes.foldl (fun (h : UInt64) b => (h ^^^ b.toUInt64) * 0x100000001b3)
    0xcbf29ce484222325).toNat

/-- The decimal digits of `n`, at least `width` of them. -/
def decimalDigits (width n : Nat) : String :=
  let digits := Nat.toDigits 10 n
  String.ofList (List.replicate (width - digits.length) '0' ++ digits)

end NcmBridge
