import NcmBridge.Octets

/-!
# Text of foreign programs

Bytes are read as UTF-8. Bytes that are no UTF-8 are shown by a replacement character: one for each
longest piece that begins like a character and does not go on like it.
-/

namespace NcmBridge

namespace Lossy

/-- The character shown for bytes that are no text. -/
def replacement : Char := '\uFFFD'

def isContinuation (b : UInt8) : Bool := 0x80 ≤ b && b ≤ 0xBF

/-- Whether `b1` may come second after `b0`, in a character of at least two bytes. Overlong forms,
surrogates and numbers past the last character are excluded here. -/
def mayFollow (b0 b1 : UInt8) : Bool :=
  if 0xC2 ≤ b0 && b0 ≤ 0xDF then isContinuation b1
  else if b0 = 0xE0 then 0xA0 ≤ b1 && b1 ≤ 0xBF
  else if b0 = 0xED then 0x80 ≤ b1 && b1 ≤ 0x9F
  else if 0xE1 ≤ b0 && b0 ≤ 0xEF then isContinuation b1
  else if b0 = 0xF0 then 0x90 ≤ b1 && b1 ≤ 0xBF
  else if b0 = 0xF4 then 0x80 ≤ b1 && b1 ≤ 0x8F
  else if 0xF1 ≤ b0 && b0 ≤ 0xF3 then isContinuation b1
  else false

/-- The low six bits of a continuation byte. -/
def bits (b : UInt8) : Nat := b.toNat % 64

/-- The characters of a string of bytes. -/
def chars : Octets → List Char
  | [] => []
  | b0 :: rest =>
    if b0 < 0x80 then
      Char.ofNat b0.toNat :: chars rest
    else
      match rest with
      | [] => [replacement]
      | b1 :: rest1 =>
        if !mayFollow b0 b1 then
          replacement :: chars (b1 :: rest1)
        else if b0 < 0xE0 then
          Char.ofNat (b0.toNat % 32 * 64 + bits b1) :: chars rest1
        else
          match rest1 with
          | [] => [replacement]
          | b2 :: rest2 =>
            if !isContinuation b2 then
              replacement :: chars (b2 :: rest2)
            else if b0 < 0xF0 then
              Char.ofNat ((b0.toNat % 16 * 64 + bits b1) * 64 + bits b2) :: chars rest2
            else
              match rest2 with
              | [] => [replacement]
              | b3 :: rest3 =>
                if !isContinuation b3 then
                  replacement :: chars (b3 :: rest3)
                else
                  Char.ofNat (((b0.toNat % 8 * 64 + bits b1) * 64 + bits b2) * 64 + bits b3) ::
                    chars rest3

end Lossy

/-- The text of a string of bytes. -/
def Octets.lossyText (bytes : Octets) : String := String.ofList (Lossy.chars bytes)

end NcmBridge
