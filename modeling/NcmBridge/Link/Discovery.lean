import NcmBridge.Link.Port
import NcmBridge.Text.Blank

/-!
# Finding devices

A scan lists the attached devices of one vendor and some products. The serial of a device is read once
and then remembered for its place on the bus, for as long as every scan finds a matching device there.
A device whose serial cannot be read is passed over.
-/

namespace NcmBridge

/-- A device found by a scan. -/
structure DeviceInfo where
  serial : String
  bus : Nat
  address : Nat
  vendorId : Nat
  productId : Nat
  configurationCount : Nat
  deriving DecidableEq, Repr, Inhabited

/-- What to look for, and the serials read so far, by place. -/
structure Scanner where
  vendorId : Nat
  productIds : List Nat
  serials : List ((Nat × Nat) × String) := []
  deriving DecidableEq, Repr, Inhabited

namespace Scanner

variable {σ : Type}

/-- Whether a device is one of those looked for. -/
def isMatch (c : Scanner) (d : DeviceDescriptor) : Bool :=
  d.vendorId == c.vendorId && c.productIds.contains d.productId

/-- A serial without zeros and then without blanks at its ends. -/
def cleanSerial (raw : String) : String :=
  Text.trim (String.ofList (Text.stripEnds (· = '\x00') raw.toList))

/-- Reads the serial of a device, which is opened for that. -/
def readSerial (port : UsbPort σ) (ref : DeviceRef) (s : σ) : Except UsbFault String × σ :=
  match port.call ref .openHandle s with
  | (.error f, s) => (.error f, s)
  | (.ok _, s) =>
    match port.call ref .readSerial s with
    | (serial, s) => (serial.map cleanSerial, (port.call ref .closeHandle s).2)

def placeText (ref : DeviceRef) : String :=
  s!"bus {decimalDigits 3 ref.bus} address {decimalDigits 3 ref.address}"

/-- The serial of the device at a place, remembered or read now. -/
def serialOf (port : UsbPort σ) (c : Scanner) (ref : DeviceRef) (d : DeviceDescriptor) (s : σ) :
    Option String × Scanner × σ :=
  match c.serials.lookup (ref.bus, ref.address) with
  | some serial => (some serial, c, s)
  | none =>
    match readSerial port ref s with
    | (.ok serial, s) =>
      (some serial, { c with serials := c.serials ++ [((ref.bus, ref.address), serial)] }, s)
    | (.error f, s) =>
      let ids := hexDigits 4 d.vendorId ++ ":" ++ hexDigits 4 d.productId
      let line := s!"Could not read serial of {ids} at {placeText ref}: {f.text}"
      (none, c, port.log ⟨.discovery, .warn, line⟩ s)

/-- What a scan has found on its way along the list of devices. -/
structure Found where
  devices : List DeviceInfo := []
  /-- The places of all matching devices, with or without a serial. -/
  seen : List (Nat × Nat) := []
  deriving DecidableEq, Repr, Inhabited

/-- Looks at one attached device. -/
def visit (port : UsbPort σ) (c : Scanner) (found : Found) (ref : DeviceRef) (s : σ) :
    Scanner × Found × σ :=
  match port.call ref .descriptor s with
  | (.error f, s) =>
    (c, found, port.log ⟨.discovery, .debug, s!"Skipping device at {placeText ref}: {f.text}"⟩ s)
  | (.ok (d : DeviceDescriptor), s) =>
    if !c.isMatch d then
      (c, found, s)
    else
      let seen := (ref.bus, ref.address) :: found.seen
      match serialOf port c ref d s with
      | (none, c, s) => (c, { found with seen }, s)
      | (some serial, c, s) =>
        let info : DeviceInfo :=
          ⟨serial, ref.bus, ref.address, d.vendorId, d.productId, d.configurationCount⟩
        (c, ⟨found.devices ++ [info], seen⟩, s)

def visitAll (port : UsbPort σ) (c : Scanner) (found : Found) :
    List DeviceRef → σ → Scanner × Found × σ
  | [], s => (c, found, s)
  | ref :: refs, s =>
    let (c, found, s) := visit port c found ref s
    visitAll port c found refs s

/-- The devices attached now; serials of places without a matching device are forgotten. -/
def scan (port : UsbPort σ) (c : Scanner) (s : σ) : Except UsbError (List DeviceInfo) × Scanner × σ :=
  match port.enumerate s with
  | (.error f, s) => (.error (.fault f), c, s)
  | (.ok refs, s) =>
    let (c, found, s) := visitAll port c {} refs s
    let serials := c.serials.filter fun entry => found.seen.contains entry.1
    (.ok found.devices, { c with serials }, s)

end Scanner

end NcmBridge
