import NcmBridge.Link.Descriptor
import NcmBridge.Log
import NcmBridge.Octets

/-!
# Bringing up the network function

A freshly attached device shows four configurations. Two requests make it show a fifth, which has the
data interface; that configuration is selected and the interface claimed. The first failure ends the
attempt.
-/

namespace NcmBridge

/-- A request to a device that answers with at most `length` bytes. -/
structure VendorRequest where
  requestType : Nat
  request : Nat
  value : Nat
  index : Nat
  length : Nat
  deriving DecidableEq, Repr, Inhabited

/-- Operations on a state that may fail with an error of the USB side. -/
abbrev LinkM (σ : Type) := ExceptT UsbError (StateM σ)

/-- What a device has to offer to be brought up. -/
structure ControlPort (σ : Type) where
  /-- How many configurations the device shows. -/
  configurationCount : LinkM σ Nat
  /-- Makes a request; what it answers with does not matter. -/
  vendorRequest : VendorRequest → LinkM σ Unit
  selectConfiguration : Nat → LinkM σ Unit
  /-- All settings of a configuration, in the order of its descriptor. -/
  altSettings : Nat → LinkM σ (List AltSetting)
  /-- Claims an interface and selects a setting of it. -/
  claim : (interface setting : Nat) → LinkM σ Unit
  log : LogLine → LinkM σ Unit

namespace Activation

def ncmConfiguration : Nat := 5

/-- How many configurations a device shows that has the network function. -/
def ncmConfigurationCount : Nat := 5

/-- The interface and the setting that devices use for data. -/
def usualPlace : Nat × Nat := (5, 1)

/-- The first request that makes a device show the network function. -/
def firstRequest : VendorRequest := ⟨0xC0, 69, 0, 0, 4⟩

def secondRequest : VendorRequest := ⟨0xC0, 82, 0, 3, 1⟩

/-- The setting to use: one at the usual place if it can carry data, and else the first that can. -/
def choose? (settings : List AltSetting) : Option AltSetting :=
  (settings.find? fun s => (s.interface, s.setting) == usualPlace && s.isNcmData) <|>
    settings.find? AltSetting.isNcmData

/-- The endpoint of a direction, or an error if the setting has none. -/
def endpoint (s : AltSetting) (direction : EndpointDirection) : Except UsbError EndpointInfo :=
  match s.endpoint? direction with
  | some e => .ok e
  | none => .error (.endpointMissing s.interface s.setting direction)

def interface (s : AltSetting) : Except UsbError NcmInterface := do
  let bulkIn ← endpoint s .input
  let bulkOut ← endpoint s .output
  return ⟨s.interface, s.setting, bulkIn, bulkOut⟩

def readyLine (serial : String) (n : NcmInterface) : LogLine :=
  let bulkIn := hexDigits 2 n.bulkIn.address
  let bulkOut := hexDigits 2 n.bulkOut.address
  let place := s!"interface {n.interface} alt {n.setting}"
  ⟨.activation, .info, s!"{serial}: NCM ready on {place} (in 0x{bulkIn}, out 0x{bulkOut})"⟩

end Activation

open Activation in
/-- Brings a device up. -/
def activate {σ : Type} (port : ControlPort σ) (serial : String) : LinkM σ NcmInterface := do
  let count ← port.configurationCount
  if count < ncmConfigurationCount then
    port.log ⟨.activation, .info, s!"{serial}: {count} configurations advertised, enabling NCM"⟩
    port.vendorRequest firstRequest
    port.vendorRequest secondRequest
  else
    port.log ⟨.activation, .debug, s!"{serial}: NCM configuration already present"⟩
  port.log ⟨.activation, .debug, s!"{serial}: Opened -> Reconfigured"⟩
  port.selectConfiguration ncmConfiguration
  let settings ← port.altSettings ncmConfiguration
  match choose? settings with
  | none => throw (.noDataInterface ncmConfiguration)
  | some data =>
    port.claim data.interface data.setting
    port.log ⟨.activation, .debug, s!"{serial}: Reconfigured -> Claimed"⟩
    let ncm ← liftExcept (Activation.interface data)
    port.log ⟨.activation, .debug, s!"{serial}: Claimed -> Ready"⟩
    port.log (readyLine serial ncm)
    return ncm
where
  /-- A result as an operation. -/
  liftExcept {α : Type} : Except UsbError α → LinkM σ α
    | .ok a => return a
    | .error e => throw e

end NcmBridge
