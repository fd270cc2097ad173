import NcmBridge.Link.Activation

/-!
# Calls on the bus

The bus lists the devices attached to it, and a device answers calls. What a call is answered with
depends on the call; every call may fail.
-/

namespace NcmBridge

/-- A device on the bus. -/
structure DeviceRef where
  bus : Nat
  address : Nat
  /-- Tells apart devices that were attached at the same place one after the other. -/
  incarnation : Nat := 0
  deriving DecidableEq, Repr, Inhabited

/-- A call on a device. -/
inductive DeviceCall
  | descriptor
  | openHandle
  | readSerial
  /-- A request, with the most milliseconds that it may take. -/
  | control (request : VendorRequest) (timeout : Nat)
  /-- The configuration at an index. -/
  | configuration (index : Nat)
  | activeConfiguration
  | setConfiguration (configuration : Nat)
  /-- Whether a driver of the kernel holds the interface. -/
  | driverActive (interface : Nat)
  | detachDriver (interface : Nat)
  | attachDriver (interface : Nat)
  | claim (interface : Nat)
  | release (interface : Nat)
  | setAlternate (interface setting : Nat)
  | closeHandle
  deriving DecidableEq, Repr, Inhabited

/-- What a call is answered with. -/
def DeviceCall.Reply : DeviceCall → Type
  | descriptor => DeviceDescriptor
  | readSerial => String
  | control _ _ => Octets
  | configuration _ => Configuration
  | activeConfiguration => Nat
  | driverActive _ => Bool
  | openHandle | setConfiguration _ | detachDriver _ | attachDriver _ | claim _ | release _
  | setAlternate _ _ | closeHandle => Unit

/-- The bus as its callers see it. -/
structure UsbPort (σ : Type) where
  /-- The devices attached now. -/
  enumerate : σ → Except UsbFault (List DeviceRef) × σ
  call : DeviceRef → (c : DeviceCall) → σ → Except UsbFault c.Reply × σ
  log : LogLine → σ → σ

namespace UsbPort

variable {σ : Type}

/-- A call whose failure is the caller's. -/
def ask (port : UsbPort σ) (ref : DeviceRef) (c : DeviceCall) : LinkM σ c.Reply :=
  ExceptT.mk fun s =>
    match port.call ref c s with
    | (.ok reply, s) => (.ok reply, s)
    | (.error f, s) => (.error (.fault f), s)

/-- The device that is attached at a place. -/
def find (port : UsbPort σ) (bus address : Nat) : LinkM σ DeviceRef :=
  ExceptT.mk fun s =>
    match port.enumerate s with
    | (.error f, s) => (.error (.fault f), s)
    | (.ok refs, s) =>
      match refs.find? fun r => r.bus == bus && r.address == address with
      | some ref => (.ok ref, s)
      | none => (.error (.deviceGone bus address), s)

end UsbPort

end NcmBridge
