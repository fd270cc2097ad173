import NcmBridge.Octets

/-!
# One line about a frame

A frame is shown by its two hardware addresses, its type and its length; one too short for an Ethernet
header is called a runt.
-/

namespace NcmBridge

namespace FrameSummary

/-- A hardware address: its bytes in hexadecimal, with colons between. -/
def address (bytes : Octets) : String :=
  String.intercalate ":" (bytes.map fun b => hexDigits 2 b.toNat)

end FrameSummary

def frameSummary (frame : Octets) : String :=
  match frame.drop 12 with
  | t1 :: t0 :: _ =>
    let source := FrameSummary.address ((frame.drop 6).take 6)
    let destination := FrameSummary.address (frame.take 6)
    let type := hexDigits 4 (256 * t1.toNat + t0.toNat)
    s!"{source} > {destination} type 0x{type} len {frame.length}"
  | _ => s!"runt frame ({frame.length} bytes)"

end NcmBridge
