import NcmBridge.Bridge.Run
import NcmBridge.Link.Transport
import NcmBridge.Tap.Device

/-!
# The host of the bridges

A host has a bus, a kernel, the counters and a log, and it runs bridges. A running bridge is a bridge
together with the link and the interface that it joins; it is known by its number.
-/

namespace NcmBridge

/-- A bridge with its two ends. -/
structure LiveBridge where
  bridge : Bridge
  transport : Transport
  tap : TapDevice

/-- The bus, the kernel, the counters, the log and the bridges of a machine. -/
structure Host where
  bus : Bus := {}
  kernel : Tap.Kernel := {}
  registry : Registry := {}
  /-- The log, the newest line first. -/
  lines : List LogLine := []
  /-- All bridges that were launched, in order. -/
  bridges : Array LiveBridge := #[]

namespace Host

def log (line : LogLine) (h : Host) : Host := { h with lines := line :: h.lines }

def port : UsbPort Host where
  enumerate h :=
    let (refs, bus) := h.bus.enumerate
    (refs, { h with bus })
  call ref c h :=
    let (reply, bus) := h.bus.call ref c
    (reply, { h with bus })
  log := log

def forget (h : Host) : Host :=
  { h with bus := h.bus.forget, kernel := h.kernel.forget, lines := [] }

/-- Enters what a bridge counted and logged. -/
def enter (serial : String) (notes : List Note) (h : Host) : Host :=
  { h with
    registry := notes.foldl (Note.enter serial) h.registry
    lines := (notes.filterMap Note.line?).reverse ++ h.lines }

end Host

end NcmBridge
